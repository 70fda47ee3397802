import LiveConsole.Proofs.Line.Coverage
import LiveConsole.Proofs.Line.Relocation

/-! Text after a boundary is cut as if it stood alone, and the text before it too. A boundary is no
word character and no part of the property symbol, and stands outside of quotes. -/
namespace LiveConsole
open Text
open String (utf8Len)

namespace Text

def Ranges.apart (a b : Ranges) : Bool :=
  a.all fun first => b.all fun second => first.2 < second.1 || second.2 < first.1

theorem Ranges.holdsNotBoth {a b : Ranges} (apart : a.apart b = true) {c : Char}
    (inside : a.holds c = true) : b.holds c = false := by
  refine Bool.eq_false_iff.mpr fun other => ?_
  obtain ⟨first, left, lower, upper⟩ := (Ranges.holdsIff a c).mp inside
  obtain ⟨second, right, lower', upper'⟩ := (Ranges.holdsIff b c).mp other
  have disjoint := List.all_eq_true.mp (List.all_eq_true.mp apart first left) second right
  simp only [Bool.or_eq_true, decide_eq_true_eq] at disjoint
  omega

theorem wordNotBlank {c : Char} (letter : isWord c = true) : isBlank c = false := by
  unfold isWord at letter
  split at letter
  · rename_i ascii
    have plain : ∀ n < 0x80, ((Char.ofNat n).isAlphanum || Char.ofNat n == '_') = true →
        isBlank (Char.ofNat n) = false := by decide
    have same := plain c.toNat ascii
    rw [Char.ofNat_toNat] at same
    exact same letter
  · exact Ranges.holdsNotBoth (by decide +kernel) letter

end Text

def Symbols.Bounds (symbols : Symbols) (after : List Char) : Prop :=
  ∀ c ∈ after.head?, isWord c = false ∧ c ∉ symbols.property.toList

theorem prefixBounded {letters after : List Char} (bounds : ∀ c ∈ after.head?, c ∉ letters)
    (chars : List Char) : letters.isPrefixOf (chars ++ after) = letters.isPrefixOf chars := by
  induction letters generalizing chars with
  | nil => simp
  | cons letter letters ih =>
    have later : ∀ c ∈ after.head?, c ∉ letters := fun c head member =>
      bounds c head (List.mem_cons_of_mem _ member)
    cases chars with
    | cons c chars => simp only [List.cons_append, List.isPrefixOf, ih later]
    | nil =>
      cases after with
      | nil => rfl
      | cons c after =>
        have other : letter ≠ c := fun same => bounds c rfl (same ▸ List.mem_cons_self)
        simp [List.isPrefixOf, other]

namespace Lexeme

def Unclosed (l : Lexeme) : Prop := l.kind = .string ∧ l.trail = ""
instance (l : Lexeme) : Decidable l.Unclosed := by unfold Unclosed; infer_instance

theorem quotationLast {quote : Char} {position : Nat} {rest : List Char}
    (unclosed : (quotation quote position rest).1.Unclosed) :
    (quotation quote position rest).2 = [] := by
  revert unclosed
  unfold quotation
  split
  · exact fun _ => rfl
  · exact fun unclosed => absurd unclosed.2 (by simp)

theorem Taken.last {symbols position c rest step} (taken : Taken symbols position c rest step)
    (unclosed : step.1.Unclosed) : step.2 = [] := by
  cases taken with
  | property heads => exact LexemeKind.noConfusion unclosed.1
  | @sigil kind known =>
    have quoted : kind = .string := unclosed.1
    simp [quoted, Symbols.sigils] at known
  | quotation quote => exact quotationLast unclosed
  | @single kind known =>
    have quoted : kind = .string := unclosed.1
    simp [quoted, Symbols.singles] at known
  | command letter => exact LexemeKind.noConfusion unclosed.1
  | invalid other unknown plain => exact LexemeKind.noConfusion unclosed.1

theorem unclosedTakesAll {symbols : Symbols} {position : Nat} {c : Char} {rest : List Char} :
    (next symbols position c rest).1.Unclosed → (next symbols position c rest).2 = [] :=
  (nextTaken symbols position c rest).last

theorem takeWhileAppend {p : Char → Bool} (chars after : List Char)
    (stops : chars.dropWhile p ≠ [] ∨ ∀ c ∈ after.head?, p c = false) :
    (chars ++ after).takeWhile p = chars.takeWhile p ∧
    (chars ++ after).dropWhile p = chars.dropWhile p ++ after := by
  induction chars with
  | nil =>
    have stops := stops.resolve_left (by simp)
    cases after with
    | nil => exact ⟨rfl, rfl⟩
    | cons c after => simp [stops c rfl]
  | cons c chars ih =>
    cases holds : p c with
    | false => simp [holds]
    | true =>
      rw [List.dropWhile_cons, if_pos holds] at stops
      simpa [holds] using ih stops

theorem quotationAppend {quote : Char} {position : Nat} {chars : List Char} (after : List Char)
    (closed : ¬ (quotation quote position chars).1.Unclosed) :
    quotation quote position (chars ++ after) =
      ((quotation quote position chars).1, (quotation quote position chars).2 ++ after) := by
  have stops : chars.dropWhile (· != quote) ≠ [] := by
    intro empty
    refine closed ?_
    unfold quotation
    rw [empty]
    exact ⟨rfl, rfl⟩
  obtain ⟨before, beyond⟩ := takeWhileAppend chars after (.inl stops)
  unfold quotation
  rw [before, beyond]
  cases rest : chars.dropWhile (· != quote) with
  | nil => exact absurd rest stops
  | cons closing tail => rfl

theorem wordAppend (kind : LexemeKind) (lead : String) (position : Nat) (chars : List Char)
    {after : List Char} (bounds : ∀ c ∈ after.head?, isWord c = false) :
    word kind lead position (chars ++ after) =
      ((word kind lead position chars).1, (word kind lead position chars).2 ++ after) := by
  obtain ⟨before, beyond⟩ := takeWhileAppend chars after (.inr bounds)
  simp [word, before, beyond]

theorem nextAppend {symbols : Symbols} {after : List Char} (bounds : symbols.Bounds after)
    {position : Nat} {c : Char} {rest : List Char} :
    ¬ (next symbols position c rest).1.Unclosed →
    next symbols position c (rest ++ after) =
      ((next symbols position c rest).1, (next symbols position c rest).2 ++ after) := by
  have words : ∀ c ∈ after.head?, isWord c = false := fun c head => (bounds c head).1
  have starts : symbols.startsProperty (c :: (rest ++ after)) =
      symbols.startsProperty (c :: rest) := by
    unfold Symbols.startsProperty
    rw [← List.cons_append, prefixBounded fun c head => (bounds c head).2]
  unfold next
  rw [starts]
  split
  · rename_i property
    have inside := (Symbols.startsPropertyIff.mp property).heads.length_le
    have fits : symbols.property.length - 1 ≤ rest.length := by
      rw [String.length_toList, List.length_cons] at inside
      omega
    exact fun _ => by rw [List.drop_append_of_le_length fits]
  · split
    · exact fun _ => wordAppend _ _ _ _ words
    · split
      · exact fun _ => wordAppend _ _ _ _ words
      · split
        · exact quotationAppend after
        · split
          · exact fun _ => wordAppend _ _ _ (c :: rest) words
          · exact fun _ => rfl

theorem scanFromAppend {symbols : Symbols} {after : List Char} (bounds : symbols.Bounds after)
    {position : Nat} {chars : List Char}
    (closed : ∀ l ∈ (scanFrom symbols position chars).getLast?, ¬ l.Unclosed) :
    scanFrom symbols position (chars ++ after) = scanFrom symbols position chars ++
      scanFrom symbols (position + utf8Len chars) after := by
  fun_induction scanFrom symbols position chars with
  | case1 position => simp
  | case2 position c rest isSpace ih =>
    rw [List.cons_append, scanFrom, if_pos isSpace, ih closed, String.utf8Len_cons]
    congr 2
    omega
  | case3 position c rest isSpace step ih =>
    have cut := nextCut symbols position c rest
    -- An unclosed quote takes the rest of the text, so only the last lexeme can be one.
    have firstClosed : ¬ step.1.Unclosed := by
      intro unclosed
      have nothing : step.2 = [] := unclosedTakesAll unclosed
      rw [nothing, scanFrom] at closed
      exact closed step.1 rfl unclosed
    have restClosed : ∀ l ∈ (scanFrom symbols step.1.stop step.2).getLast?, ¬ l.Unclosed := by
      intro l last
      refine closed l ?_
      rw [List.getLast?_cons, Option.mem_def.mp last]
      rfl
    have size := congrArg utf8Len cut.joined
    rw [String.utf8Len_append] at size
    have stop : step.1.stop + utf8Len step.2 = position + utf8Len (c :: rest) := by
      rw [stopEq, cut.position, Nat.add_assoc, size]
    rw [List.cons_append, List.cons_append, ← stop, ← ih restClosed, scanFrom, if_neg isSpace,
      nextAppend bounds firstClosed]

end Lexeme
end LiveConsole
