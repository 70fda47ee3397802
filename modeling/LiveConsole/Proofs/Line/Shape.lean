import LiveConsole.Proofs.Line.Boundary
import Mathlib

/-! Every lexeme has the shape of its kind, whatever the symbols are and even if some coincide. Words
take all the word characters that there are, quoted text holds no quote, and what starts with the
property symbol is that symbol. -/
namespace LiveConsole
open Text
open String (utf8Len)

namespace Lexeme

structure LongestWord (letters after : List Char) : Prop where
  letters : ∀ c ∈ letters, isWord c = true
  ends : ∀ c ∈ after.head?, isWord c = false

theorem longestWord (chars : List Char) :
    LongestWord (chars.takeWhile isWord) (chars.dropWhile isWord) := by
  refine ⟨fun c member => List.mem_takeWhile_imp member, fun c head => ?_⟩
  have stops := List.head?_dropWhile_not isWord chars
  rw [Option.mem_def.mp head] at stops
  exact stops

inductive Shape (symbols : Symbols) (after : List Char) : Lexeme → Prop where
  | command {value : String} {position : Nat} (filled : value ≠ "")
      (longest : LongestWord value.toList after) :
      Shape symbols after (bare .command value position)
  | sigil {kind : LexemeKind} {sigil : Char} {value : String} {position : Nat}
      (known : (kind, sigil) ∈ symbols.sigils) (longest : LongestWord value.toList after) :
      Shape symbols after ⟨kind, value, position, sigil.toString, ""⟩
  | closed {value : String} {position : Nat} (plain : symbols.quote ∉ value.toList) :
      Shape symbols after
        ⟨.string, value, position, symbols.quote.toString, symbols.quote.toString⟩
  | unclosed {value : String} {position : Nat} (plain : symbols.quote ∉ value.toList)
      (last : after = []) : Shape symbols after ⟨.string, value, position, symbols.quote.toString, ""⟩
  | single {kind : LexemeKind} {c : Char} {position : Nat} (known : (kind, c) ∈ symbols.singles) :
      Shape symbols after (bare kind c.toString position)
  | property {position : Nat} (filled : symbols.property ≠ "") :
      Shape symbols after (bare .property symbols.property position)
  | invalid {c : Char} {position : Nat} (visible : isBlank c = false) (other : isWord c = false)
      (unknown : c ∉ symbols.characters) (plain : ¬ symbols.PropertyHeads (c :: after)) :
      Shape symbols after (bare .invalid c.toString position)

section Next
variable {symbols : Symbols}

theorem sigilShape {kind : LexemeKind} {sigil : Char} (known : (kind, sigil) ∈ symbols.sigils)
    (position : Nat) (rest : List Char) :
    Shape symbols (word kind sigil.toString position rest).2
      (word kind sigil.toString position rest).1 := by
  refine .sigil known ?_
  rw [String.toList_ofList]
  exact longestWord rest

theorem commandShape (position : Nat) {c : Char} (rest : List Char) (letter : isWord c = true) :
    Shape symbols (word .command "" position (c :: rest)).2
      (word .command "" position (c :: rest)).1 := by
  refine .command (by simp [letter]) ?_
  rw [String.toList_ofList]
  exact longestWord (c :: rest)

theorem quotationShape (position : Nat) (rest : List Char) :
    Shape symbols (quotation symbols.quote position rest).2
      (quotation symbols.quote position rest).1 := by
  have plain : symbols.quote ∉ (String.ofList (rest.takeWhile (· != symbols.quote))).toList := by
    rw [String.toList_ofList]
    intro inside
    have other := List.mem_takeWhile_imp (p := (· != symbols.quote)) inside
    simp at other
  unfold quotation
  split
  · exact .unclosed plain rfl
  · exact .closed plain

theorem Taken.shape {position : Nat} {c : Char} {rest : List Char} {step : Lexeme × List Char}
    (taken : Taken symbols position c rest step) (visible : isBlank c = false) :
    Shape symbols step.2 step.1 := by
  cases taken with
  | property heads => exact .property heads.filled
  | sigil known => exact sigilShape known position rest
  | quotation quote =>
    rw [quote]
    exact quotationShape position rest
  | single known => exact .single known
  | command letter => exact commandShape position rest letter
  | invalid other unknown plain => exact .invalid visible other unknown plain

theorem nextProperty (position : Nat) {c : Char} {rest : List Char}
    (heads : symbols.PropertyHeads (c :: rest)) :
    (next symbols position c rest).1.kind = .property := by
  rw [next, if_pos (Symbols.startsPropertyIff.mpr heads)]
  rfl

end Next

theorem scanSteps {symbols : Symbols} {position : Nat} {chars : List Char}
    {front later : List Lexeme} {l : Lexeme}
    (split : scanFrom symbols position chars = front ++ l :: later) :
    ∃ before c rest after, chars = before ++ c :: rest ∧ isBlank c = false ∧
      next symbols (position + utf8Len before) c rest = (l, after) ∧
      scanFrom symbols l.stop after = later := by
  fun_induction scanFrom symbols position chars generalizing front with
  | case1 position => exact absurd split (by simp)
  | case2 position c rest isSpace ih =>
    obtain ⟨before, first, others, after, joined, visible, step, scanned⟩ := ih split
    have place : position + c.utf8Size + utf8Len before = position + utf8Len (c :: before) := by
      rw [String.utf8Len_cons]
      omega
    rw [place] at step
    exact ⟨c :: before, first, others, after, congrArg (c :: ·) joined, visible, step, scanned⟩
  | case3 position c rest visible step =>
    rename_i ih
    cases front with
    | nil =>
      obtain ⟨rfl, scanned⟩ := List.cons.inj split
      exact ⟨[], c, rest, step.2, rfl, Bool.eq_false_iff.mpr visible, rfl, scanned⟩
    | cons first front =>
      -- The first lexeme is passed: its text is part of what comes before.
      have cut := nextCut symbols position c rest
      obtain ⟨before, other, others, after, joined, visible, taken, scanned⟩ :=
        ih (List.cons.inj split).2
      have place : step.1.stop + utf8Len before =
          position + utf8Len (step.1.text.toList ++ before) := by
        rw [stopEq, cut.position, String.utf8Len_append, Nat.add_assoc]
      rw [place] at taken
      refine ⟨step.1.text.toList ++ before, other, others, after, ?_, visible, taken, scanned⟩
      rw [List.append_assoc, ← joined]
      exact cut.joined.symm

structure Stands (symbols : Symbols) (source before : List Char) (l : Lexeme) (after : List Char)
    (later : List Lexeme) : Prop where
  text : source = before ++ l.text.toList ++ after
  shape : Shape symbols after l
  property : symbols.PropertyHeads (l.text.toList ++ after) → l.kind = .property
  last : l.Unclosed → later = []

theorem lexemesAreShaped {symbols : Symbols} {source : String} {front later : List Lexeme}
    {l : Lexeme} (split : scan symbols source = front ++ l :: later) :
    ∃ before after, l.position = utf8Len before ∧
      Stands symbols source.toList before l after later := by
  obtain ⟨before, c, rest, after, joined, visible, step, scanned⟩ := scanSteps split
  rw [Nat.zero_add] at step
  have taken : Taken symbols (utf8Len before) c rest (l, after) := step ▸ nextTaken symbols _ c rest
  have whole : l.text.toList ++ after = c :: rest := taken.cut.joined
  refine ⟨before, after, taken.cut.position, ?_, taken.shape visible, fun heads => ?_,
    fun unclosed => ?_⟩
  · rw [List.append_assoc, whole, joined]
  · have kind := nextProperty (utf8Len before) (whole ▸ heads)
    rwa [step] at kind
  · have ended : after = [] := taken.last unclosed
    rw [← scanned, ended, scanFrom]

theorem propertyBeforeSigil :
    ∃ symbols : Symbols, symbols.variableSigil = '$' ∧ symbols.property = "$>" ∧
      ∃ before after, Stands symbols "ab$>'c".toList before (bare .property "$>" 2) after
        [⟨.string, "c", 4, "'", ""⟩] := by
  refine ⟨{ Symbols.standard with property := "$>" }, rfl, rfl, ?_⟩
  have split : scan { Symbols.standard with property := "$>" } "ab$>'c" =
      [bare .command "ab" 0] ++ bare .property "$>" 2 :: [⟨.string, "c", 4, "'", ""⟩] := by cbv
  obtain ⟨before, after, -, stands⟩ := lexemesAreShaped split
  exact ⟨before, after, stands⟩

end Lexeme
end LiveConsole
