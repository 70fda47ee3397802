import LiveConsole.Evaluation.Stack
import LiveConsole.Proofs.Evaluation.Run
import Mathlib.Data.List.Forall2

/-! One call of a command, apart from the stack that it is made on. A call that succeeds takes its
arguments and its target from the top, and what happens then depends on nothing below them. -/
namespace LiveConsole

inductive Blames (token : Token) : CommandError → Prop where
  | itself {error : CommandError} (carries : error.token? = some token) : Blames token error
  | operand (fault : OperandFault) (detail : String)
      (nameless : fault = .emptyVariableName → detail = "") :
      Blames token (.ofOperand fault detail token)

theorem Blames.named {token : Token} {error : CommandError} (blames : Blames token error) :
    error.token?.isSome = true := by
  cases blames with
  | itself carries => rw [carries]; rfl
  | operand => rfl

namespace Engine

variable {σ : Type}

structure Evolves (before after : Engine σ) : Prop where
  settings : after.settings = before.settings
  commands : after.registry.commands = before.registry.commands
  isEnabled : after.registry.isEnabled = before.registry.isEnabled
  globals : after.registry.globals = before.registry.globals
  types : after.registry.types = before.registry.types
  converters : after.registry.converters = before.registry.converters
  presenters : after.registry.presenters = before.registry.presenters

theorem Evolves.refl (engine : Engine σ) : Evolves engine engine :=
  ⟨rfl, rfl, rfl, rfl, rfl, rfl, rfl⟩

theorem Evolves.trans {a b c : Engine σ} (first : Evolves a b) (second : Evolves b c) :
    Evolves a c where
  settings := second.settings.trans first.settings
  commands := second.commands.trans first.commands
  isEnabled := second.isEnabled.trans first.isEnabled
  globals := second.globals.trans first.globals
  types := second.types.trans first.types
  converters := second.converters.trans first.converters
  presenters := second.presenters.trans first.presenters

theorem Evolves.command {before after : Engine σ} (evolves : Evolves before after)
    (name : String) : after.registry.command? name = before.registry.command? name := by
  simp [Registry.command?, Registry.commandNamed?, evolves.commands, evolves.isEnabled]

theorem Evolves.compile {before after : Engine σ} (evolves : Evolves before after)
    (source : String) : after.compile? source = before.compile? source := by
  simp [compile?, symbols, evolves.settings]

theorem andThenEvolves {α β : Type} {engine : Engine σ} {run : Run σ α}
    {next : α → Engine σ → Run σ β} (first : Evolves engine run.engine)
    (later : ∀ value engine, Evolves engine (next value engine).engine) :
    Evolves engine (run.andThen next).engine := by
  unfold Run.andThen
  split
  · exact first
  · exact first.trans (later ..)

theorem evolvesHost (engine : Engine σ) (host : σ) : Evolves engine (engine.withHost host) :=
  ⟨rfl, rfl, rfl, rfl, rfl, rfl, rfl⟩

theorem runHostEvolves (engine : Engine σ) (command : Command σ) (handler : HostHandler σ)
    (target : Option Value) (arguments : List Value) :
    Evolves engine (engine.runHost command handler target arguments).engine := by
  unfold runHost
  split
  split <;> exact evolvesHost ..

def ArgumentFits (types : TypeTable) (parameter : Parameter) (argument : Value) : Prop :=
  types.accepts parameter.type argument = true

theorem boundFit {registry : Registry σ} {operator : Token} {host after : σ}
    {parameters : List Parameter} {operands arguments : List Value}
    (size : operands.length = parameters.length)
    (bound : bindArguments registry operator host parameters operands = (.ok arguments, after)) :
    List.Forall₂ (ArgumentFits registry.types) parameters arguments := by
  induction parameters generalizing host operands arguments with
  | nil =>
    cases List.length_eq_zero_iff.mp size
    cases bound
    exact .nil
  | cons parameter parameters ih =>
    cases operands with
    | nil => contradiction
    | cons operand operands =>
      unfold bindArguments at bound
      dsimp only at bound
      split at bound
      · rename_i accepted
        cases rest : bindArguments registry operator
          (registry.convert host operand parameter.type).2 parameters operands with
        | mk outcome last =>
          rw [rest] at bound
          cases outcome with
          | error error => cases bound
          | ok others =>
            cases bound
            exact .cons accepted (ih (Nat.succ.inj size) rest)
      · cases bound

inductive Refusal (operator : Token) : CommandError → Prop where
  | parameter (name type : String) : Refusal operator (.invalidParameter name type operator)
  | target : Refusal operator (.expectedTarget operator)
  | targetType (type : String) : Refusal operator (.invalidTarget type operator)

theorem bindRefused {registry : Registry σ} {operator : Token} {host after : σ}
    {parameters : List Parameter} {operands : List Value} {error : CommandError}
    (bound : bindArguments registry operator host parameters operands = (.error error, after)) :
    Refusal operator error := by
  induction parameters generalizing host operands with
  | nil => cases operands <;> cases bound
  | cons parameter parameters ih =>
    cases operands with
    | nil => cases bound
    | cons operand operands =>
      unfold bindArguments at bound
      dsimp only at bound
      split at bound
      · cases rest : bindArguments registry operator
          (registry.convert host operand parameter.type).2 parameters operands with
        | mk outcome last =>
          rw [rest] at bound
          cases outcome with
          | error refused =>
            cases bound
            exact ih rest
          | ok others => cases bound
      · cases bound
        exact .parameter ..

variable [Host σ]

inductive Ran (engine : Engine σ) (action : Builtin) (arguments : List Value) :
    Run σ Value → Prop where
  | fails {error : CommandError} (named : error.token?.isSome = true) :
      Ran engine action arguments (.fail error engine)
  | gives {value : Value} (other : action ≠ .setVariable) :
      Ran engine action arguments (.ok value engine)
  | shows {host : σ} {text : String} (other : action ≠ .setVariable) :
      Ran engine action arguments ⟨.ok .null, engine.withHost host, [.log text]⟩
  | assigns {name value : Value} (isAssignment : action = .setVariable)
      (pair : arguments = [name, value]) :
      Ran engine action arguments (.ok value { engine with
        registry := engine.registry.setVariable (name.display engine.host) value })

omit [Host σ] in
theorem withTwoHolds {holds : Run σ Value → Prop} {engine : Engine σ} {operator : Token}
    {arguments : List Value} {act : Value → Value → Run σ Value}
    (refused : holds (.fail (.expectedParameters 2 operator) engine))
    (acts : ∀ a b, arguments = [a, b] → holds (act a b)) :
    holds (Builtin.withTwo engine operator arguments act) := by
  unfold Builtin.withTwo
  split
  · exact acts _ _ rfl
  · exact refused

theorem elementBlames {host : σ} {operator : Token} {value : Value} {index : Int64}
    {error : CommandError} (failed : Builtin.element host operator value index = .error error) :
    Blames operator error := by
  unfold Builtin.element at failed
  dsimp only at failed
  split at failed
  · cases failed
    exact .operand .notIndexable _ (by simp)
  · contradiction
  · cases failed
    exact .operand .indexOutOfRange _ (by simp)

theorem builtinRan (action : Builtin) (engine : Engine σ) (operator : Token)
    (arguments : List Value) : Ran engine action arguments (action.run engine operator arguments) := by
  cases action with
  | index =>
    refine withTwoHolds (.fails rfl) fun value index _ => ?_
    unfold Builtin.indexing
    split
    · exact .fails rfl
    · rename_i index _
      cases found : Builtin.element engine.host operator value index with
      | error error => exact .fails (elementBlames found).named
      | ok element => exact .gives (by decide)
  | property =>
    refine withTwoHolds (.fails rfl) fun value name _ => ?_
    unfold Builtin.reading
    dsimp only
    split
    · exact .gives (by decide)
    · exact .fails rfl
  | setVariable =>
    refine withTwoHolds (.fails rfl) fun name value pair => ?_
    unfold Builtin.assigning
    dsimp only
    split
    · exact .fails rfl
    · exact .assigns rfl pair
  | describe =>
    change Ran engine .describe arguments
      (Builtin.describing engine (arguments.head?.getD .null))
    unfold Builtin.describing
    split
    split <;> exact .shows (by decide)
  | help => exact .shows (by decide)
  | usage => exact .shows (by decide)
  | listVariables => exact .shows (by decide)
  | _ => exact .gives (by decide)

structure Works (engine : Engine σ) (run : Run σ Value) : Prop where
  evolves : Evolves engine run.engine
  calls : run.events.filterMap Event.call? = []

theorem builtinWorks (action : Builtin) (engine : Engine σ) (operator : Token)
    (arguments : List Value) : Works engine (action.run engine operator arguments) := by
  have ran := builtinRan action engine operator arguments
  generalize action.run engine operator arguments = run at ran ⊢
  cases ran with
  | fails named => exact ⟨.refl engine, rfl⟩
  | gives other => exact ⟨.refl engine, rfl⟩
  | shows other => exact ⟨evolvesHost .., rfl⟩
  | assigns isAssignment pair => exact ⟨⟨rfl, rfl, rfl, rfl, rfl, rfl, rfl⟩, rfl⟩

def invocation (engine : Engine σ) (command : Command σ) (operator : Token)
    (target : Option Value) (arguments : List Value) : Run σ Value :=
  match command.action with
  | .builtin action =>
      (action.run engine operator arguments).after [.invoked (callOf command none arguments)]
  | .host _ handler => engine.runHost command handler target arguments

def perform (engine : Engine σ) (command : Command σ) (operator : Token) (target : Option Value)
    (operands : List Value) : Run σ Value :=
  match bindArguments engine.registry operator engine.host command.parameters operands with
  | (.error error, host) => .fail error (engine.withHost host)
  | (.ok arguments, host) => (engine.withHost host).invocation command operator target arguments

def TargetFits (types : TypeTable) (command : Command σ) (target : Option Value) : Prop :=
  match command.targetType? with
  | none => target = none
  | some type => ∃ value, target = some value ∧ value.isNull = false ∧
      types.accepts type value = true

structure Divides (engine : Engine σ) (stack : List Value) (operator : Token)
    (command : Command σ) (operands : List Value) (target : Option Value) (below : List Value) :
    Prop where
  found : engine.registry.command? operator.value = some command
  arity : operands.length = command.arity
  fits : TargetFits engine.types command target
  joined : operands.reverse ++ (target.toList ++ below) = stack

theorem invokeDivided {engine : Engine σ} {command : Command σ} {target : Option Value}
    (fits : TargetFits engine.types command target) (operator : Token)
    (arguments below : List Value) :
    engine.invoke command operator arguments (target.toList ++ below) =
      (engine.invocation command operator target arguments).map (· :: below) := by
  unfold TargetFits Command.targetType? at fits
  unfold invoke invocation
  cases action : command.action with
  | builtin builtin =>
    rw [action] at fits
    cases fits
    rfl
  | host type handler =>
    rw [action] at fits
    cases type with
    | none =>
      cases fits
      rfl
    | some type =>
      obtain ⟨value, rfl, filled, accepted⟩ := fits
      simp [takeTarget, filled, accepted]

theorem stackParts {α : Type} {operands : List α} {arity : Nat} (length : operands.length = arity)
    (below : List α) :
    ((operands.reverse ++ below).take arity).reverse = operands ∧
    (operands.reverse ++ below).drop arity = below := by
  rw [← List.length_reverse] at length
  exact ⟨by rw [← length, List.take_left, List.reverse_reverse], by rw [← length, List.drop_left]⟩

theorem callDivided {engine : Engine σ} {stack : List Value} {operator : Token}
    {command : Command σ} {operands : List Value} {target : Option Value} {below : List Value}
    (divides : Divides engine stack operator command operands target below) :
    engine.call stack operator =
      (engine.perform command operator target operands).map (· :: below) := by
  obtain ⟨found, arity, fits, rfl⟩ := divides
  have enough : ¬ (operands.reverse ++ (target.toList ++ below)).length < command.arity := by
    rw [List.length_append, List.length_reverse]
    omega
  obtain ⟨taken, left⟩ := stackParts arity (target.toList ++ below)
  unfold call perform
  simp only [found, if_neg enough, taken, left]
  obtain ⟨bound, host⟩ :=
    bindArguments engine.registry operator engine.host command.parameters operands
  cases bound with
  | error error => rfl
  | ok arguments =>
    have fits : TargetFits (engine.withHost host).types command target := fits
    exact invokeDivided fits operator arguments below

theorem takeTargetOk {types : TypeTable} {operator : Token} {type : TypeTag}
    {operands below : List Value} {target : Value}
    (taken : takeTarget types operator type operands = .ok (target, below)) :
    operands = target :: below ∧ target.isNull = false ∧ types.accepts type target = true := by
  unfold takeTarget at taken
  cases operands with
  | nil => contradiction
  | cons first rest =>
    dsimp only at taken
    split at taken
    · contradiction
    · rename_i filled
      split at taken
      · rename_i accepted
        cases taken
        exact ⟨rfl, Bool.eq_false_iff.mpr filled, accepted⟩
      · contradiction

theorem takeTargetRefused {types : TypeTable} {operator : Token} {type : TypeTag}
    {operands : List Value} {error : CommandError}
    (taken : takeTarget types operator type operands = .error error) : Refusal operator error := by
  unfold takeTarget at taken
  cases operands with
  | nil =>
    cases taken
    exact .target
  | cons first rest =>
    dsimp only at taken
    split at taken
    · cases taken
      exact .target
    · split at taken
      · contradiction
      · cases taken
        exact .targetType _

theorem invokeCases (engine : Engine σ) (command : Command σ) (operator : Token)
    (arguments stack : List Value) :
    (∃ error, Refusal operator error ∧
      engine.invoke command operator arguments stack = .fail error engine) ∨
    ∃ target below, TargetFits engine.types command target ∧ target.toList ++ below = stack := by
  unfold TargetFits Command.targetType? invoke
  cases action : command.action with
  | builtin builtin => exact .inr ⟨none, stack, rfl, rfl⟩
  | host type handler =>
    cases type with
    | none => exact .inr ⟨none, stack, rfl, rfl⟩
    | some type =>
      dsimp only
      cases taken : takeTarget engine.types operator type stack with
      | error error => exact .inl ⟨error, takeTargetRefused taken, rfl⟩
      | ok parts =>
        obtain ⟨target, below⟩ := parts
        obtain ⟨rfl, filled, accepted⟩ := takeTargetOk taken
        exact .inr ⟨some target, below, ⟨target, rfl, filled, accepted⟩, rfl⟩

theorem callCases {engine : Engine σ} {stack : List Value} {operator : Token}
    {command : Command σ} (found : engine.registry.command? operator.value = some command)
    (enough : command.arity ≤ stack.length) :
    (∃ error host, Refusal operator error ∧
      engine.call stack operator = .fail error (engine.withHost host)) ∨
    ∃ operands target below arguments host,
      Divides engine stack operator command operands target below ∧
      List.Forall₂ (ArgumentFits engine.types) command.parameters arguments ∧
      engine.call stack operator =
        ((engine.withHost host).invocation command operator target arguments).map
          (· :: below) := by
  have arity : (stack.take command.arity).reverse.length = command.arity := by
    rw [List.length_reverse, List.length_take]
    omega
  unfold call
  simp only [found, if_neg (Nat.not_lt.mpr enough)]
  cases bound : bindArguments engine.registry operator engine.host command.parameters
      (stack.take command.arity).reverse with
  | mk outcome host =>
    cases outcome with
    | error error => exact .inl ⟨error, host, bindRefused bound, rfl⟩
    | ok arguments =>
      dsimp only
      rcases invokeCases (engine.withHost host) command operator arguments
        (stack.drop command.arity) with ⟨error, refusal, refused⟩ | ⟨target, below, fits, joined⟩
      · exact .inl ⟨error, host, refusal, refused⟩
      · have divides : Divides engine stack operator command
            (stack.take command.arity).reverse target below := by
          refine ⟨found, arity, fits, ?_⟩
          rw [joined, List.reverse_reverse, List.take_append_drop]
        rw [← joined, invokeDivided fits]
        exact .inr ⟨_, target, below, arguments, host, divides, boundFit arity bound, rfl⟩

/- All that a call can do: it is refused before anything runs, though arguments may have been
converted by then, or it is one invocation on what the stack is divided into. -/
inductive Called (engine : Engine σ) (stack : List Value) (operator : Token) :
    Run σ (List Value) → Prop where
  | refused (error : CommandError) (host : σ) :
      Called engine stack operator (.fail error (engine.withHost host))
  | invoked {command : Command σ} {operands : List Value} {target : Option Value}
      {below arguments : List Value} {host : σ}
      (divides : Divides engine stack operator command operands target below)
      (typed : List.Forall₂ (ArgumentFits engine.types) command.parameters arguments) :
      Called engine stack operator
        (((engine.withHost host).invocation command operator target arguments).map (· :: below))

theorem called (engine : Engine σ) (stack : List Value) (operator : Token) :
    Called engine stack operator (engine.call stack operator) := by
  cases found : engine.registry.command? operator.value with
  | none =>
    unfold call
    rw [found]
    exact .refused _ engine.host
  | some command =>
    rcases Nat.lt_or_ge stack.length command.arity with few | enough
    · unfold call
      simp only [found, if_pos few]
      exact .refused _ engine.host
    · rcases callCases found enough with
        ⟨error, host, -, same⟩ | ⟨operands, target, below, arguments, host, divides, typed, same⟩
      · exact same ▸ .refused error host
      · exact same ▸ .invoked divides typed

theorem callOk {engine : Engine σ} {stack : List Value} {operator : Token} {next : List Value}
    (ok : (engine.call stack operator).outcome = .ok next) :
    ∃ command operands target below,
      Divides engine stack operator command operands target below := by
  have step := called engine stack operator
  generalize engine.call stack operator = run at step ok
  cases step with
  | refused error host => contradiction
  | invoked divides typed => exact ⟨_, _, _, _, divides⟩

theorem invocationEvolves (engine : Engine σ) (command : Command σ) (operator : Token)
    (target : Option Value) (arguments : List Value) :
    Evolves engine (engine.invocation command operator target arguments).engine := by
  unfold invocation
  split
  · exact (builtinWorks ..).evolves
  · exact runHostEvolves ..

theorem invocationCalls {types : TypeTable} {command : Command σ} {target : Option Value}
    (fits : TargetFits types command target) (engine : Engine σ) (operator : Token)
    (arguments : List Value) :
    (engine.invocation command operator target arguments).events.filterMap Event.call? =
      [callOf command target arguments] := by
  unfold TargetFits Command.targetType? at fits
  unfold invocation
  cases action : command.action with
  | builtin builtin =>
    rw [action] at fits
    cases fits
    simp [Run.after, (builtinWorks ..).calls, Event.call?]
  | host type handler =>
    unfold runHost
    dsimp only
    split <;> rfl

theorem callEvolves (engine : Engine σ) (stack : List Value) (operator : Token) :
    Evolves engine (engine.call stack operator).engine := by
  have step := called engine stack operator
  generalize engine.call stack operator = run at step ⊢
  cases step with
  | refused error host => exact evolvesHost ..
  | invoked divides typed => exact (evolvesHost ..).trans (invocationEvolves ..)

end Engine
end LiveConsole
