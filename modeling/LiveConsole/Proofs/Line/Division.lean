import LiveConsole.Proofs.Line.Spacing
import Mathlib

/-! White space divides a line. Outside of quotes the text on either side of it is cut as if it stood
alone, whatever the symbols are, as long as the property symbol holds no white space itself. -/
namespace LiveConsole
open Text
open String (utf8Len)

namespace Lexeme

theorem unclosedStops {symbols : Symbols} {position : Nat} {chars : List Char} :
    ∀ l ∈ scanFrom symbols position chars, l.Unclosed → l.stop = position + utf8Len chars := by
  fun_induction scanFrom symbols position chars with
  | case1 position => simp
  | case2 position c rest isSpace ih =>
    intro l member unclosed
    rw [ih l member unclosed, String.utf8Len_cons]
    omega
  | case3 position c rest isSpace step ih =>
    have cut : Cut position (c :: rest) step := nextCut symbols position c rest
    have whole := congrArg utf8Len cut.joined
    rw [String.utf8Len_append] at whole
    intro l member unclosed
    rcases List.mem_cons.mp member with rfl | later
    · have nothing : step.2 = [] := unclosedTakesAll unclosed
      rw [nothing, String.utf8Len_nil, Nat.add_zero] at whole
      rw [stopEq, cut.position, whole]
    · rw [ih l later unclosed, stopEq, cut.position, Nat.add_assoc, whole]

theorem whiteSpaceDivides {symbols : Symbols}
    (unbroken : ∀ c ∈ symbols.property.toList, isBlank c = false) {front back : String}
    (blank : ∀ c ∈ back.toList.head?, isBlank c = true) :
    scan symbols (front ++ back) =
        scan symbols front ++ (scan symbols back).map (moved (· + front.utf8ByteSize)) ↔
      back = "" ∨ ∀ l ∈ (scan symbols front).getLast?, ¬ l.Unclosed := by
  constructor
  · intro divides
    refine or_iff_not_imp_left.mpr fun filled l last unclosed => filled ?_
    have member : l ∈ scan symbols front := List.mem_of_getLast? last
    have alone := unclosedStops l member unclosed
    have joined := unclosedStops l (divides ▸ List.mem_append_left _ member) unclosed
    rw [alone, String.toList_append, String.utf8Len_append] at joined
    exact String.utf8ByteSize_eq_zero_iff.mp (by rw [← String.utf8Len_toList]; omega)
  · rintro (rfl | closed)
    · simp [scan, scanFrom]
    · have divided := scanFromAppend (boundsOfBlank unbroken blank) closed
      rw [String.utf8Len_toList, scanFromMoved] at divided
      rw [scan, String.toList_append]
      exact divided

theorem wideSpaceDivides :
    let front := "name 'ü' -"
    let back := "\u3000> 'open"
    (∀ c ∈ Symbols.standard.property.toList, isBlank c = false) ∧
      (∀ c ∈ back.toList.head?, isBlank c = true) ∧
      (∀ l ∈ (scan .standard front).getLast?, ¬ l.Unclosed) ∧
      scan .standard (front ++ back) =
        scan .standard front ++ (scan .standard back).map (moved (· + 11)) := by
  intro front back
  have lexemes : scan .standard front =
      [.bare .command "name" 0, ⟨.string, "ü", 5, "'", "'"⟩, .bare .invalid "-" 10] := by cbv
  have closed : ∀ l ∈ (scan .standard front).getLast?, ¬ l.Unclosed := by
    rw [lexemes]
    decide
  have unbroken : ∀ c ∈ Symbols.standard.property.toList, isBlank c = false := by
    have solid : (Symbols.standard.property.toList.all fun c => !isBlank c) = true := by decide
    simpa using solid
  have blank : ∀ c ∈ back.toList.head?, isBlank c = true := by
    have first : back.toList.head? = some '\u3000' := by simp [back]
    rw [first]
    intro c head
    cases Option.some.inj head
    decide
  exact ⟨unbroken, blank, closed, (whiteSpaceDivides unbroken blank).mpr (.inr closed)⟩

end Lexeme
end LiveConsole
