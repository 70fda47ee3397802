import LiveConsole.Evaluation.Session
import LiveConsole.Proofs.Evaluation.Run
import LiveConsole.Proofs.Line.Relocation

/-! Evaluation of moved tokens. A token's position goes nowhere but into the error that names the
token, so a line moved to another place does the same there, or fails in the same way. -/
namespace LiveConsole

namespace CommandError

def moved (f : Nat → Nat) : CommandError → CommandError
  | .unknownVariable token => .unknownVariable (token.moved f)
  | .unknownGlobal token => .unknownGlobal (token.moved f)
  | .unknownCommand token => .unknownCommand (token.moved f)
  | .expectedParameters expected token => .expectedParameters expected (token.moved f)
  | .invalidParameter parameter expectedType token =>
      .invalidParameter parameter expectedType (token.moved f)
  | .expectedTarget token => .expectedTarget (token.moved f)
  | .invalidTarget expectedType token => .invalidTarget expectedType (token.moved f)
  | .unexpectedToken token => .unexpectedToken (token.moved f)
  | .invalidCommand => .invalidCommand
  | .notReady => .notReady
  | .operation fault token => .operation fault (token.moved f)

def unplaced : CommandError → CommandError := moved fun _ => 0

theorem codeMoved (f : Nat → Nat) (error : CommandError) : (error.moved f).code = error.code := by
  cases error <;> rfl

theorem messageMoved (f : Nat → Nat) (error : CommandError) :
    (error.moved f).message = error.message := by
  cases error <;> rfl

end CommandError

namespace Run

variable {σ α β : Type}

def moved (f : Nat → Nat) (run : Run σ α) : Run σ α :=
  { run with outcome := run.outcome.mapError (CommandError.moved f) }

theorem movedOk {run : Run σ α} {value : α} (ok : run.outcome = .ok value) (f : Nat → Nat) :
    run.moved f = run := by
  obtain ⟨outcome, engine, events⟩ := run
  cases ok
  rfl

theorem okOfMoved {run : Run σ α} {value : α} {f : Nat → Nat}
    (ok : (run.moved f).outcome = .ok value) : run.outcome = .ok value := by
  obtain ⟨outcome, engine, events⟩ := run
  cases outcome with
  | error error => cases ok
  | ok other => exact ok

theorem mapMoved (f : Nat → Nat) (g : α → β) (run : Run σ α) :
    (run.moved f).map g = (run.map g).moved f := by
  obtain ⟨outcome, engine, events⟩ := run
  cases outcome <;> rfl

theorem andThenMoved (f : Nat → Nat) (run : Run σ α) {next later : α → Engine σ → Run σ β}
    (same : ∀ value engine, later value engine = (next value engine).moved f) :
    (run.moved f).andThen later = (run.andThen next).moved f := by
  obtain ⟨outcome, engine, events⟩ := run
  cases outcome with
  | error error => rfl
  | ok value => simp only [moved, andThen, Except.mapError, same]

end Run

namespace Engine

variable {σ : Type}

theorem bindArgumentsMoved (f : Nat → Nat) (registry : Registry σ) (operator : Token) (host : σ)
    (parameters : List Parameter) (values : List Value) :
    bindArguments registry (operator.moved f) host parameters values =
      ((bindArguments registry operator host parameters values).1.mapError (CommandError.moved f),
        (bindArguments registry operator host parameters values).2) := by
  induction parameters generalizing host values with
  | nil => rfl
  | cons parameter parameters ih =>
    cases values with
    | nil => rfl
    | cons value values =>
      simp only [bindArguments, ih]
      split
      · cases (bindArguments registry operator (registry.convert host value parameter.type).2
          parameters values).1 <;> rfl
      · rfl

theorem takeTargetMoved (f : Nat → Nat) (types : TypeTable) (operator : Token) (type : TypeTag)
    (stack : List Value) :
    takeTarget types (operator.moved f) type stack =
      (takeTarget types operator type stack).mapError (CommandError.moved f) := by
  unfold takeTarget
  split
  · rfl
  · split
    · rfl
    · split <;> rfl

theorem runHostMoved (f : Nat → Nat) (engine : Engine σ) (command : Command σ)
    (handler : HostHandler σ) (target : Option Value) (arguments : List Value) :
    (engine.runHost command handler target arguments).moved f =
      engine.runHost command handler target arguments := by
  unfold runHost
  split
  split <;> rfl

theorem withTwoMoved (f : Nat → Nat) (engine : Engine σ) (operator : Token)
    (arguments : List Value) {act later : Value → Value → Run σ Value}
    (same : ∀ first second, later first second = (act first second).moved f) :
    Builtin.withTwo engine (operator.moved f) arguments later =
      (Builtin.withTwo engine operator arguments act).moved f := by
  unfold Builtin.withTwo
  split
  · exact same ..
  · rfl

variable [Host σ]

theorem elementMoved (f : Nat → Nat) (host : σ) (operator : Token) (value : Value)
    (index : Int64) :
    Builtin.element host (operator.moved f) value index =
      (Builtin.element host operator value index).mapError (CommandError.moved f) := by
  unfold Builtin.element
  dsimp only
  split <;> rfl

theorem builtinMoved (f : Nat → Nat) (action : Builtin) (engine : Engine σ) (operator : Token)
    (arguments : List Value) :
    action.run engine (operator.moved f) arguments =
      (action.run engine operator arguments).moved f := by
  cases action with
  | index =>
    refine withTwoMoved f engine operator arguments fun value index => ?_
    unfold Builtin.indexing
    split
    · rfl
    · rw [elementMoved]
      rfl
  | property =>
    refine withTwoMoved f engine operator arguments fun value name => ?_
    unfold Builtin.reading
    dsimp only
    split <;> rfl
  | setVariable =>
    refine withTwoMoved f engine operator arguments fun name value => ?_
    unfold Builtin.assigning
    dsimp only
    split <;> rfl
  | describe =>
    change Builtin.describing engine (arguments.head?.getD .null) =
      (Builtin.describing engine (arguments.head?.getD .null)).moved f
    unfold Builtin.describing
    split
    split <;> rfl
  | _ => rfl

theorem invokeMoved (f : Nat → Nat) (engine : Engine σ) (command : Command σ) (operator : Token)
    (arguments below : List Value) :
    engine.invoke command (operator.moved f) arguments below =
      (engine.invoke command operator arguments below).moved f := by
  unfold invoke
  cases command.action with
  | builtin action =>
    dsimp only
    rw [builtinMoved, ← Run.mapMoved]
    rfl
  | host type handler =>
    cases type with
    | none =>
      dsimp only
      rw [← Run.mapMoved, runHostMoved]
    | some type =>
      dsimp only
      rw [takeTargetMoved]
      cases takeTarget engine.types operator type below with
      | error error => rfl
      | ok parts =>
        dsimp only [Except.mapError]
        rw [← Run.mapMoved, runHostMoved]

theorem callMoved (f : Nat → Nat) (engine : Engine σ) (stack : List Value) (operator : Token) :
    engine.call stack (operator.moved f) = (engine.call stack operator).moved f := by
  unfold call
  rw [Token.valueMoved]
  cases engine.registry.command? operator.value with
  | none => rfl
  | some command =>
    dsimp only
    split
    · rfl
    · rw [bindArgumentsMoved]
      obtain ⟨bound, host⟩ := bindArguments engine.registry operator engine.host
        command.parameters (stack.take command.arity).reverse
      cases bound with
      | error error => rfl
      | ok arguments => exact invokeMoved ..

theorem stepMoved (f : Nat → Nat) (engine : Engine σ) (stack : List Value) (token : Token) :
    engine.step stack (token.moved f) = (engine.step stack token).moved f := by
  unfold step
  rw [Token.kindMoved, Token.valueMoved]
  cases token.kind with
  | string => rfl
  | «variable» =>
    dsimp only
    cases engine.registry.sessionVariables.get? token.value <;> rfl
  | global =>
    dsimp only
    cases engine.registry.globals.get? token.value <;> rfl
  | command => exact callMoved ..
  | _ => rfl

theorem stepsMoved (f : Nat → Nat) (engine : Engine σ) (stack : List Value) (tokens : List Token) :
    engine.steps stack (tokens.map (Token.moved f)) = (engine.steps stack tokens).moved f := by
  induction tokens generalizing engine stack with
  | nil => rfl
  | cons token rest ih =>
    rw [List.map_cons, steps, stepMoved]
    exact Run.andThenMoved f _ fun stack engine => ih engine stack

theorem evaluateMoved (f : Nat → Nat) (engine : Engine σ) (tokens : List Token) :
    engine.evaluate (tokens.map (Token.moved f)) = (engine.evaluate tokens).moved f := by
  rw [evaluate, stepsMoved]
  refine Run.andThenMoved f _ fun stack engine => ?_
  unfold resultOf
  split <;> rfl

end Engine
end LiveConsole
