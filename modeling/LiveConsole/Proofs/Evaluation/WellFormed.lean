import LiveConsole.Proofs.Evaluation.Session
import LiveConsole.Proofs.Line.Conservation
import LiveConsole.Proofs.Line.Occurrence
import Mathlib

/-! Only well-formed lines come to a value. A bracket that closes nothing is found before anything
is evaluated. An open bracket that never closes, and a character without a meaning, are arranged
like any token, and evaluation ends at the latest where they stand. -/
namespace LiveConsole

namespace Token

def Unmatched (tokens : List Token) : Prop :=
  ∃ front closer back bracket, tokens = front ++ closer :: back ∧
    closer.role = .closes bracket ∧ ∀ outer, openAfter? [] front ≠ some (bracket :: outer)

theorem Unmatched.inconsistent {tokens : List Token} (unmatched : Unmatched tokens) :
    openAfter? [] tokens = none := by
  obtain ⟨front, closer, back, bracket, rfl, closes, mismatch⟩ := unmatched
  rw [openAfterAppend]
  cases before : openAfter? [] front with
  | none => rfl
  | some opened =>
    rw [Option.bind_some, openAfterCloses closes]
    cases closed : bracket.close? opened with
    | none => rfl
    | some outer =>
      rw [Bracket.closeSome closed] at before
      exact absurd before (mismatch outer)

theorem otherAmong {place : Place} {lexemes : List Lexeme} {l : Lexeme} (member : l ∈ lexemes)
    (other : l.kind ≠ .command) : ofLexeme l ∈ ofLexemesAt place lexemes := by
  induction lexemes generalizing place with
  | nil => contradiction
  | cons first rest ih =>
    rcases List.mem_cons.mp member with rfl | member
    · rw [ofLexemesAt, kindAtOther place other]
      exact List.mem_cons_self
    · exact List.mem_cons_of_mem _ (ih member)

end Token

namespace Lexeme

def Balanced (lexemes : List Lexeme) : Prop := Token.Balanced (lexemes.map Token.ofLexeme)

def Unmatched (lexemes : List Lexeme) : Prop := Token.Unmatched (lexemes.map Token.ofLexeme)

end Lexeme

namespace Rpn

theorem unmatchedRejected {symbols : Symbols} {source : String}
    (unmatched : Lexeme.Unmatched (Lexeme.scan symbols source)) :
    ofSource? symbols source = none := by
  have inconsistent : Token.openAfter? [] (Token.ofSource symbols source) = none :=
    (Token.openAfterLexemes _).trans unmatched.inconsistent
  exact noOrder inconsistent

end Rpn

namespace Engine

variable {σ : Type} [Host σ]

theorem runWellFormed {engine : Engine σ} {source : String} {value : Value}
    (ok : (engine.run source).outcome = .ok value) :
    (∀ l ∈ Lexeme.scan engine.symbols source, l.kind ≠ .invalid) ∧
    Lexeme.Balanced (Lexeme.scan engine.symbols source) := by
  obtain ⟨-, tokens, compiled, evaluated⟩ := runOk ok
  obtain ⟨stack, ran, -⟩ := Run.andThenOk evaluated
  refine ⟨fun l member invalid => ?_, ?_⟩
  · have among : Token.ofLexeme l ∈ Token.ofSource engine.symbols source :=
      Token.otherAmong member (by simp [invalid])
    have role : (Token.ofLexeme l).role = .operand := by
      rw [Token.role, Token.ofLexeme, Token.ofKind, invalid]
      rfl
    -- It is arranged as an operand, and no step gets past it.
    have arranged := (Rpn.arrangesTokens compiled).tokens _ among (.inl role)
    rw [Token.operatorOfOperand role] at arranged
    have kind := stepsKinds ran _ arranged
    simp [Token.ofLexeme, Token.ofKind, invalid, LexemeKind.isOperand] at kind
  · have balanced := Rpn.balancedOfArranged compiled (stepsFree ran)
    exact (Token.openAfterLexemes _).symm.trans balanced

theorem runUnmatched {engine : Engine σ} (isEnabled : engine.registry.isEnabled = true)
    {source : String} (unmatched : Lexeme.Unmatched (Lexeme.scan engine.symbols source)) :
    engine.run source =
      ⟨.error .invalidCommand, engine, [.noted (.lexed (Lexeme.scan engine.symbols source))]⟩ := by
  have rejected : engine.compile? source = none := Rpn.unmatchedRejected unmatched
  rw [run, if_pos isEnabled, compileNotes, rejected]
  rfl

theorem onlyWellFormedSucceeds (engine : Engine σ) (source : String) :
    (∀ value, (engine.run source).outcome = .ok value →
      (∀ l ∈ Lexeme.scan engine.symbols source, l.kind ≠ .invalid) ∧
      Lexeme.Balanced (Lexeme.scan engine.symbols source)) ∧
    (engine.registry.isEnabled = true →
      Lexeme.Unmatched (Lexeme.scan engine.symbols source) →
      (engine.run source).outcome = .error .invalidCommand ∧
      (engine.run source).engine = engine ∧ entriesOf (engine.run source).events = [] ∧
      (engine.run source).events.filterMap Event.call? = []) := by
  refine ⟨fun value ok => runWellFormed ok, fun isEnabled unmatched => ?_⟩
  rw [runUnmatched isEnabled unmatched]
  exact ⟨rfl, rfl, rfl, rfl⟩

theorem closerAloneFails :
    ((plain Scene.empty).run "echo \x7bnull\x7d").outcome = .ok .null ∧
    Lexeme.Balanced (Lexeme.scan .standard "echo \x7bnull\x7d") ∧
    Lexeme.Unmatched (Lexeme.scan .standard "echo ]") ∧
    ((plain Scene.empty).run "echo ]").outcome = .error .invalidCommand ∧
    ((plain Scene.empty).run "echo ]").engine = plain Scene.empty := by
  have ok : ((plain Scene.empty).run "echo \x7bnull\x7d").outcome = .ok .null := by cbv
  have lexemes : Lexeme.scan .standard "echo ]" =
      [.bare .command "echo" 0, .bare .closeIndex "]" 5] := by cbv
  have unmatched : Lexeme.Unmatched (Lexeme.scan .standard "echo ]") := by
    rw [lexemes]
    refine ⟨[.ofLexeme (.bare .command "echo" 0)], .ofLexeme (.bare .closeIndex "]" 5), [], .index,
      rfl, rfl, fun outer => ?_⟩
    have opened : Token.openAfter? [] [.ofLexeme (.bare .command "echo" 0)] = some [] := by decide
    simp [opened]
  have closed := (onlyWellFormedSucceeds (plain Scene.empty) "echo \x7bnull\x7d").1 .null ok
  have refused := (onlyWellFormedSucceeds (plain Scene.empty) "echo ]").2 rfl unmatched
  exact ⟨ok, closed.2, unmatched, refused.1, refused.2.1⟩

end Engine
end LiveConsole
