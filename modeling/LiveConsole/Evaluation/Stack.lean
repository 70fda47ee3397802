import LiveConsole.Evaluation.Builtins

/-! Tokens in the order of evaluation, run on one stack of operands. Operands are pushed as they
come, so a command finds its arguments on top, the last one first, and its target below them. -/
namespace LiveConsole.Engine

variable {σ : Type}

/- Operands converted to the types of the parameters, one after another. The host may change with
each conversion, also before one that does not fit. -/
def bindArguments (registry : Registry σ) (operator : Token) :
    σ → List Parameter → List Value → Except CommandError (List Value) × σ
  | host, parameter :: parameters, value :: values =>
      let (converted, host) := registry.convert host value parameter.type
      if registry.types.accepts parameter.type converted then
        let (rest, host) := bindArguments registry operator host parameters values
        (rest.map fun arguments => converted :: arguments, host)
      else
        (.error (.invalidParameter parameter.name (registry.types.name parameter.type) operator),
          host)
  | host, _, _ => (.ok [], host)

def takeTarget (types : TypeTable) (operator : Token) (type : TypeTag) :
    List Value → Except CommandError (Value × List Value)
  | [] => .error (.expectedTarget operator)
  | target :: below =>
      if target.isNull then .error (.expectedTarget operator)
      else if types.accepts type target then .ok (target, below)
      else .error (.invalidTarget (types.name type) operator)

def callOf (command : Command σ) (target : Option Value) (arguments : List Value) : Invocation :=
  ⟨command.name, !command.isBuiltin, target, arguments⟩

def runHost (engine : Engine σ) (command : Command σ) (handler : HostHandler σ)
    (target : Option Value) (arguments : List Value) : Run σ Value :=
  let (reply, host) := handler engine.host target arguments
  let engine := engine.withHost host
  let call := Event.invoked (callOf command target arguments)
  match reply with
  | .value result => ⟨.ok result, engine, [call]⟩
  | .failed causes => ⟨.ok .null, engine, [call, .noted (.handlerFailed command.name causes)]⟩
  | .crashed message => ⟨.ok .null, engine, [call, .noted (.handlerCrashed command.name message)]⟩

variable [Host σ]

def invoke (engine : Engine σ) (command : Command σ) (operator : Token) (arguments : List Value)
    (below : List Value) : Run σ (List Value) :=
  match command.action with
  | .builtin action =>
      ((action.run engine operator arguments).after
        [.invoked (callOf command none arguments)]).map fun result => result :: below
  | .host none handler =>
      (engine.runHost command handler none arguments).map fun result => result :: below
  | .host (some type) handler =>
      match takeTarget engine.types operator type below with
      | .error error => .fail error engine
      | .ok (target, below) =>
          (engine.runHost command handler (some target) arguments).map fun result => result :: below

def call (engine : Engine σ) (stack : List Value) (operator : Token) : Run σ (List Value) :=
  match engine.registry.command? operator.value with
  | none => .fail (.unknownCommand operator) engine
  | some command =>
      if stack.length < command.arity then
        .fail (.expectedParameters command.arity operator) engine
      else
        let operands := (stack.take command.arity).reverse
        let (bound, host) :=
          bindArguments engine.registry operator engine.host command.parameters operands
        match bound with
        | .error error => .fail error (engine.withHost host)
        | .ok arguments =>
            (engine.withHost host).invoke command operator arguments (stack.drop command.arity)

def step (engine : Engine σ) (stack : List Value) (token : Token) : Run σ (List Value) :=
  match token.kind with
  | .string => .ok (.string token.value :: stack) engine
  | .variable =>
      match engine.registry.sessionVariables.get? token.value with
      | some value => .ok (value :: stack) engine
      | none => .fail (.unknownVariable token) engine
  | .global =>
      match engine.registry.globals.get? token.value with
      | some value => .ok (value :: stack) engine
      | none => .fail (.unknownGlobal token) engine
  | .command => engine.call stack token
  | _ => .fail (.unexpectedToken token) engine

def steps (engine : Engine σ) (stack : List Value) : List Token → Run σ (List Value)
  | [] => .ok stack engine
  | token :: rest =>
      (engine.step stack token).andThen fun stack engine => steps engine stack rest

def resultOf : List Value → Except CommandError Value
  | [] => .ok .null
  | [value] => .ok value
  | _ => .error .invalidCommand

def evaluate (engine : Engine σ) (tokens : List Token) : Run σ Value :=
  (engine.steps [] tokens).andThen fun stack engine => ⟨resultOf stack, engine, []⟩

end LiveConsole.Engine
