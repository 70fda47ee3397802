import LiveConsole.Proofs.Evaluation.Operators

/-! Where a line fails. An error that names a token names one at the place of the token that was
evaluated last, and every token that is evaluated stands where the one of the line does that it
stands for. -/
namespace LiveConsole
open Token (Becomes)

theorem CommandError.tokenMoved (f : Nat → Nat) (error : CommandError) :
    (error.moved f).token? = error.token?.map (Token.moved f) := by
  cases error <;> rfl

theorem Rpn.arrangedStands {tokens arranged : List Token}
    (order : ofTokens? tokens = some arranged) {token : Token} (member : token ∈ arranged) :
    ∃ original ∈ tokens, Becomes original token :=
  Token.becomesRetained ((arrangementConserves order).1.mem_iff.mp member)

namespace Engine

variable {σ : Type} [Host σ]

theorem stepPlace {engine : Engine σ} {stack : List Value} {token named : Token}
    {error : CommandError} (failed : (engine.step stack token).outcome = .error error)
    (carries : error.token? = some named) : named.position = token.position := by
  have unmoved : token.moved (fun _ => token.position) = token := rfl
  have again := congrArg Run.outcome (stepMoved (fun _ => token.position) engine stack token)
  rw [unmoved, Run.moved, failed] at again
  have same : error.moved (fun _ => token.position) = error := (Except.error.inj again).symm
  rw [← same, CommandError.tokenMoved] at carries
  obtain ⟨other, -, rfl⟩ := Option.map_eq_some_iff.mp carries
  rfl

theorem stepsFailed {engine : Engine σ} {stack : List Value} {tokens : List Token}
    {error : CommandError} (failed : (engine.steps stack tokens).outcome = .error error) :
    ∃ front token back reached, tokens = front ++ token :: back ∧
      (engine.steps stack front).outcome = .ok reached ∧
      ((engine.steps stack front).engine.step reached token).outcome = .error error := by
  induction tokens generalizing engine stack with
  | nil => contradiction
  | cons token rest ih =>
    rcases Run.andThenFailed failed with here | ⟨next, first, later⟩
    · exact ⟨[], token, rest, stack, rfl, rfl, here⟩
    · obtain ⟨front, last, back, reached, rfl, ok, fails⟩ := ih later
      refine ⟨token :: front, last, back, reached, rfl, ?_⟩
      rw [steps, Run.andThenOf first]
      exact ⟨ok, fails⟩

theorem resultFailed {stack : List Value} {error : CommandError}
    (failed : resultOf stack = .error error) : error = .invalidCommand := by
  unfold resultOf at failed
  split at failed <;> cases failed
  rfl

theorem runFailed {engine : Engine σ} {source : String} {error : CommandError}
    (failed : (engine.run source).outcome = .error error) :
    error.token? = none ∨ ∃ tokens, engine.compile? source = some tokens ∧
      (engine.steps [] tokens).outcome = .error error := by
  unfold run at failed
  split at failed
  · rename_i isEnabled
    cases compiled : engine.compile? source with
    | none =>
      rw [compiled] at failed
      cases failed
      exact .inl rfl
    | some tokens =>
      rw [compiled] at failed
      change (engine.execute tokens).outcome = .error error at failed
      rw [execute, if_pos isEnabled] at failed
      rcases Run.andThenFailed failed with stopped | ⟨value, -, concluded⟩
      · rcases Run.andThenFailed stopped with stopped | ⟨stack, -, left⟩
        · exact .inr ⟨tokens, rfl, stopped⟩
        · cases resultFailed left
          exact .inl rfl
      · rw [concludeOutcome] at concluded
        contradiction
  · cases failed
    exact .inl rfl

def FailsAt (engine : Engine σ) (source : String) (token : Token) (error : CommandError) : Prop :=
  ∃ front back reached, engine.compile? source = some (front ++ token :: back) ∧
    (engine.steps [] front).outcome = .ok reached ∧
    ((engine.steps [] front).engine.step reached token).outcome = .error error

/- The token that fails is an operand or a command as it was typed, the command of an operator, or
a bracket that is still open. Whichever it is, it stands for one token of the line. -/
theorem errorsPointAtTheSource {engine : Engine σ} {source : String} {error : CommandError}
    (failed : (engine.run source).outcome = .error error) {named : Token}
    (carries : error.token? = some named) :
    ∃ token original, FailsAt engine source token error ∧
      original ∈ Token.ofSource engine.symbols source ∧
      original.lexeme ∈ Lexeme.scan engine.symbols source ∧
      (∀ other ∈ Token.ofSource engine.symbols source,
        Becomes other token ↔ other = original) ∧
      named.position = original.lexeme.position := by
  rcases runFailed failed with tokenless | ⟨tokens, compiled, stopped⟩
  · rw [carries] at tokenless
    contradiction
  obtain ⟨front, token, back, reached, rfl, ok, fails⟩ := stepsFailed stopped
  have member : token ∈ front ++ token :: back := List.mem_append_right _ List.mem_cons_self
  obtain ⟨original, typed, stands⟩ := Rpn.arrangedStands compiled member
  refine ⟨token, original, ⟨front, back, reached, compiled, ok, fails⟩, typed,
    Token.lexemeScanned typed, fun other inside => ⟨fun becomes => ?_, ?_⟩, ?_⟩
  · have place := becomes.position.symm.trans stands.position
    exact (Token.sourceApart engine.symbols source).alone inside typed place
  · rintro rfl
    exact stands
  · exact (stepPlace fails carries).trans stands.position

theorem indexFailsAtItsBracket :
    let line := "echo \x7b'abc'[7]\x7d"
    let fault : CommandError := .operation .indexOutOfRange (.ofLexeme (.bare .string "7" 11))
    ((plain Scene.empty).run line).outcome = .error fault ∧
    ∃ token original, FailsAt (plain Scene.empty) line token fault ∧
      original ∈ Token.ofSource .standard line ∧ original.lexeme ∈ Lexeme.scan .standard line ∧
      (∀ other ∈ Token.ofSource .standard line, Becomes other token ↔ other = original) ∧
      11 = original.lexeme.position := by
  intro line fault
  have failed : ((plain Scene.empty).run line).outcome = .error fault := by cbv
  exact ⟨failed, errorsPointAtTheSource failed rfl⟩

end Engine
end LiveConsole
