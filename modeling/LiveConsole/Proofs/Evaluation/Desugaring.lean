import LiveConsole.Proofs.Evaluation.Grouping
import LiveConsole.Proofs.Evaluation.Layout
import LiveConsole.Proofs.Line.Enclosed

/-! Operators are calls. A line with an operator between two groups and the line that calls the
operator's command on both groups have one order of evaluation, so on every console they run
alike; an operator that follows a command with its argument takes the command's result. -/
namespace LiveConsole
open Lexeme (Names)

namespace Rpn

def SameOrder (source other : String) : Prop :=
  ∃ first second, ofSource? .standard source = some first ∧
    ofSource? .standard other = some second ∧
    first.map Token.unplaced = second.map Token.unplaced

theorem sameOrder {source other : String} {phrase same : Phrase}
    (read : Token.readAt .lineStart source.toList = phrase.tokens)
    (readOther : Token.readAt .lineStart other.toList = same.tokens)
    (filled : phrase.tokens ≠ []) (filledOther : same.tokens ≠ [])
    (alike : phrase.arranged none = same.arranged none) : SameOrder source other := by
  obtain ⟨first, ordered, places⟩ := Option.map_eq_some_iff.mp (Phrase.orderRead read filled)
  obtain ⟨second, orderedOther, placesOther⟩ :=
    Option.map_eq_some_iff.mp (Phrase.orderRead readOther filledOther)
  exact ⟨first, second, ordered, orderedOther, places.trans (alike.trans placesOther.symm)⟩

variable {a b : String}

theorem callOrder (first : Enclosable a) (second : Enclosable b) (operator : Operator) :
    SameOrder (operator.line a b) (groupedLine operator.name [a, b]) := by
  obtain ⟨phrase, spells⟩ := first.spells
  obtain ⟨other, spellsOther⟩ := second.spells
  have read := spells.readLine spellsOther operator .lineStart
  have readOther : Token.readAt .lineStart (groupedLine operator.name [a, b]).toList = _ :=
    Spells.readGroupedLine operator.names (.cons spells (.cons spellsOther .nil))
      Token.Place.noConfusion
  exact sameOrder read readOther (List.cons_ne_nil _ _) (List.cons_ne_nil _ _)
    (Phrase.callArranged operator phrase other)

theorem leftOrder (first : Enclosable a) (second : Enclosable b) {operator : Operator}
    (waits : operator ≠ .index) {name : String} (names : Names name) :
    SameOrder (name ++ " " ++ operator.line a b) (operator.line (groupedLine name [a]) b) := by
  obtain ⟨phrase, spells⟩ := first.spells
  obtain ⟨other, spellsOther⟩ := second.spells
  have chars : (name ++ " " ++ operator.line a b).toList =
      name.toList ++ ' ' :: (operator.line a b).toList := by simp
  have bounds : ∀ c ∈ (' ' :: (operator.line a b).toList).head?, Text.isWord c = false := by
    intro c head
    cases Option.some.inj head
    decide
  have read : Token.readAt .lineStart (name ++ " " ++ operator.line a b).toList =
      (Phrase.command name (Phrase.group phrase (other.applied operator))).tokens := by
    rw [chars, Token.readName names Token.Place.noConfusion bounds, Token.readSpace,
      spells.readLine spellsOther]
    rfl
  have readOther := (Spells.ofGroupedLine names spells).readLine spellsOther operator .lineStart
  exact sameOrder read readOther (List.cons_ne_nil _ _) (List.cons_ne_nil _ _)
    (Phrase.leftArranged waits name phrase other)

end Rpn

namespace Engine

theorem runSameOrder {σ : Type} [Host σ] {source other : String}
    (same : Rpn.SameOrder source other) (engine : Engine σ) (standard : engine.symbols = .standard) :
    SameRun (engine.run source) (engine.run other) := by
  obtain ⟨first, second, ordered, orderedOther, places⟩ := same
  refine engine.runCompiled ?_
  rw [compile?, compile?, standard, ordered, orderedOther]
  exact congrArg some places

theorem operatorsAreCalls {a b : String} (first : Enclosable a) (second : Enclosable b) :
    (∀ operator : Operator,
      Rpn.SameOrder (operator.line a b) (groupedLine operator.name [a, b]) ∧
      ∀ {σ : Type} [Host σ] (engine : Engine σ), engine.symbols = .standard →
        SameRun (engine.run (operator.line a b)) (engine.run (groupedLine operator.name [a, b]))) ∧
    ∀ operator : Operator, operator ≠ .index → ∀ name, Names name →
      Rpn.SameOrder (name ++ " " ++ operator.line a b) (operator.line (groupedLine name [a]) b) := by
  refine ⟨fun operator => ?_, fun operator waits name names => ?_⟩
  · have same := Rpn.callOrder first second operator
    exact ⟨same, fun engine standard => runSameOrder same engine standard⟩
  · exact Rpn.leftOrder first second waits names

theorem joinedGroupsAreCalls :
    SameRun (plainConsole.run "\x7b$x\x7d.\x7becho 'y'\x7d")
      (plainConsole.run "__builtin_concat \x7b$x\x7d \x7becho 'y'\x7d") ∧
    Rpn.SameOrder "echo \x7b$x\x7d->\x7becho 'y'\x7d" "\x7becho \x7b$x\x7d\x7d->\x7becho 'y'\x7d" := by
  have first : Enclosable "$x" := by
    have lexemes : Lexeme.scan .standard "$x" = [⟨.variable, "x", 0, "$", ""⟩] := by cbv
    constructor
    · rw [lexemes]
      decide
    · rw [Token.ofSource, lexemes]
      rfl
  have second : Enclosable "echo 'y'" := by
    have lexemes : Lexeme.scan .standard "echo 'y'" =
        [.bare .command "echo" 0, ⟨.string, "y", 5, "'", "'"⟩] := by cbv
    constructor
    · rw [lexemes]
      decide
    · rw [Token.ofSource, lexemes]
      rfl
  obtain ⟨calls, bindsLeft⟩ := operatorsAreCalls first second
  have names : Names "echo" := ⟨by decide, List.all_eq_true.mp (by decide), by decide⟩
  exact ⟨(calls .concatenation).2 plainConsole rfl,
    bindsLeft .property (by decide) "echo" names⟩

end Engine
end LiveConsole
