import LiveConsole.Proofs.Evaluation.Frame

/-! The errors that end a line. The evaluator counts the operands of a command before anything else
is done for it. Whatever fails before the end of a line names the token that was evaluated then, or
reports an operand in its place. -/
namespace LiveConsole.Engine

variable {σ : Type} [Host σ]

structure TooFew (run : Run σ (List Value)) (command : Command σ) (operator : Token) : Prop where
  outcome : run.outcome = .error (.expectedParameters command.arity operator)
  calls : run.events.filterMap Event.call? = []

theorem tooFewIff {engine : Engine σ} {stack : List Value} {operator : Token}
    {command : Command σ} (found : engine.registry.command? operator.value = some command) :
    TooFew (engine.call stack operator) command operator ↔ stack.length < command.arity := by
  refine ⟨fun ⟨outcome, calls⟩ => ?_, fun few => ?_⟩
  · by_contra enough
    rcases callCases found (Nat.not_lt.mp enough) with
      ⟨error, host, refusal, same⟩ | ⟨operands, target, below, arguments, host, divides, -, same⟩
    · rw [same] at outcome
      cases Except.error.inj outcome
      cases refusal
    · rw [same] at calls
      have one := invocationCalls divides.fits (engine.withHost host) operator arguments
      exact absurd (calls.symm.trans one) (by simp)
  · unfold call
    simp only [found, if_pos few]
    exact ⟨rfl, rfl⟩

def AllBlame {α : Type} (token : Token) (run : Run σ α) : Prop :=
  ∀ error, run.outcome = .error error → Blames token error

omit [Host σ] in
theorem blamesNothing {α : Type} {token : Token} {run : Run σ α} {value : α}
    (ok : run.outcome = .ok value) : AllBlame token run :=
  fun _ failed => by rw [ok] at failed; contradiction

omit [Host σ] in
theorem blamesError {α : Type} {token : Token} {run : Run σ α} {error : CommandError}
    (failed : run.outcome = .error error) (blames : Blames token error) : AllBlame token run :=
  fun _ same => Except.error.inj (failed.symm.trans same) ▸ blames

omit [Host σ] in
theorem blamesMap {α β : Type} {token : Token} {run : Run σ α} (blames : AllBlame token run)
    (f : α → β) : AllBlame token (run.map f) := by
  obtain ⟨outcome, engine, events⟩ := run
  cases outcome with
  | error error => exact blamesError rfl (blames error rfl)
  | ok value => exact blamesNothing rfl

omit [Host σ] in
theorem refusalBlames {token : Token} {error : CommandError} (refusal : Refusal token error) :
    Blames token error := by
  cases refusal <;> exact .itself rfl

theorem builtinBlames (action : Builtin) (engine : Engine σ) (operator : Token)
    (arguments : List Value) : AllBlame operator (action.run engine operator arguments) := by
  have pair : AllBlame operator (.fail (.expectedParameters 2 operator) engine : Run σ Value) :=
    blamesError rfl (.itself rfl)
  cases action with
  | index =>
    refine withTwoHolds pair fun value index _ => ?_
    unfold Builtin.indexing
    split
    · exact blamesError rfl (.operand .indexNotInteger _ (by simp))
    · exact fun error failed => elementBlames failed
  | property =>
    refine withTwoHolds pair fun value name _ => ?_
    unfold Builtin.reading
    dsimp only
    split
    · exact blamesNothing rfl
    · exact blamesError rfl (.operand .unknownProperty _ (by simp))
  | setVariable =>
    refine withTwoHolds pair fun name value _ => ?_
    unfold Builtin.assigning
    dsimp only
    split
    · exact blamesError rfl (.operand .emptyVariableName "" fun _ => rfl)
    · exact blamesNothing rfl
  | describe =>
    change AllBlame operator (Builtin.describing engine (arguments.head?.getD .null))
    unfold Builtin.describing
    split
    split <;> exact blamesNothing rfl
  | _ => exact blamesNothing rfl

theorem invocationBlames (engine : Engine σ) (command : Command σ) (operator : Token)
    (target : Option Value) (arguments : List Value) :
    AllBlame operator (engine.invocation command operator target arguments) := by
  unfold invocation
  split
  · exact builtinBlames _ engine operator arguments
  · unfold runHost
    split
    split <;> exact blamesNothing rfl

theorem callBlames (engine : Engine σ) (stack : List Value) (operator : Token) :
    AllBlame operator (engine.call stack operator) := by
  cases found : engine.registry.command? operator.value with
  | none =>
    unfold call
    rw [found]
    exact blamesError rfl (.itself rfl)
  | some command =>
    rcases Nat.lt_or_ge stack.length command.arity with few | enough
    · unfold call
      simp only [found, if_pos few]
      exact blamesError rfl (.itself rfl)
    · rcases callCases found enough with
        ⟨error, host, refusal, same⟩ | ⟨operands, target, below, arguments, host, -, -, same⟩
      · rw [same]
        exact blamesError rfl (refusalBlames refusal)
      · rw [same]
        exact blamesMap (invocationBlames _ command operator target arguments) _

theorem stepBlames (engine : Engine σ) (stack : List Value) (token : Token) :
    AllBlame token (engine.step stack token) := by
  unfold step
  split
  · exact blamesNothing rfl
  · split
    · exact blamesNothing rfl
    · exact blamesError rfl (.itself rfl)
  · split
    · exact blamesNothing rfl
    · exact blamesError rfl (.itself rfl)
  · exact callBlames engine stack token
  · exact blamesError rfl (.itself rfl)

structure Named {α : Type} (run : Run σ α) : Prop where
  token : ∀ error, run.outcome = .error error → error.token?.isSome = true

omit [Host σ] in
theorem namedOk {α : Type} {run : Run σ α} {value : α} (ok : run.outcome = .ok value) :
    Named run := ⟨fun error failed => by rw [ok] at failed; contradiction⟩

omit [Host σ] in
theorem namedError {α : Type} {run : Run σ α} {error : CommandError}
    (failed : run.outcome = .error error) (token : error.token?.isSome = true) : Named run :=
  ⟨fun _ same => Except.error.inj (failed.symm.trans same) ▸ token⟩

theorem stepNamed (engine : Engine σ) (stack : List Value) (token : Token) :
    Named (engine.step stack token) :=
  ⟨fun error failed => (stepBlames engine stack token error failed).named⟩

theorem stepsNamed (engine : Engine σ) (stack : List Value) (tokens : List Token) :
    Named (engine.steps stack tokens) := by
  induction tokens generalizing engine stack with
  | nil => exact namedOk rfl
  | cons token rest ih =>
    rw [steps]
    cases first : (engine.step stack token).outcome with
    | error error =>
      rw [Run.andThen, first]
      exact namedError rfl ((stepNamed engine stack token).token error first)
    | ok next =>
      rw [Run.andThenOf first]
      exact ⟨(ih ..).token⟩

end LiveConsole.Engine
