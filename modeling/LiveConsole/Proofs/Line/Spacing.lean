import LiveConsole.Proofs.Line.Boundary

/-! White space between lexemes. The text of a lexeme is cut as that lexeme again wherever white
space follows it, so a line and the same lexemes spread out with other white space are cut alike,
given the same roles and arranged alike. Only where the parts stand is not the same. -/
namespace LiveConsole
open Text
open String (utf8Len)

namespace Lexeme

def unplaced : Lexeme → Lexeme := moved fun _ => 0

def placed (l : Lexeme) (position : Nat) : Lexeme := l.moved fun _ => position

/- The texts of some lexemes with white space between each two of them, and none at the end. -/
inductive Spaced : List Lexeme → List Char → Prop where
  | done : Spaced [] []
  | lexeme {l gap rest chars} (blank : ∀ c ∈ gap, isBlank c = true)
      (between : gap = [] ↔ rest = []) (tail : Spaced rest chars) :
      Spaced (l :: rest) (l.text.toList ++ (gap ++ chars))

def Respaced (lexemes : List Lexeme) (source : String) : Prop :=
  ∃ lead chars, (∀ c ∈ lead, isBlank c = true) ∧ source.toList = lead ++ chars ∧
    Spaced lexemes chars

theorem Cut.beyondHead {position c rest step} (cut : Cut position (c :: rest) step) :
    step.1.text.toList = c :: step.1.text.toList.tail ∧
    step.1.text.toList.tail ++ step.2 = rest := by
  have joined := cut.joined
  cases letters : step.1.text.toList with
  | nil => exact absurd (by simpa using letters) cut.filled
  | cons first others =>
    rw [letters, List.cons_append] at joined
    obtain ⟨rfl, rfl⟩ := List.cons.inj joined
    exact ⟨rfl, rfl⟩

theorem startsLonger {symbols : Symbols} {chars : List Char} (after : List Char)
    (starts : symbols.startsProperty chars = true) :
    symbols.startsProperty (chars ++ after) = true := by
  obtain ⟨filled, heads⟩ := Symbols.startsPropertyIff.mp starts
  exact Symbols.startsPropertyIff.mpr ⟨filled, heads.trans (List.prefix_append ..)⟩

theorem wordAlone (kind : LexemeKind) (lead : String) (position place : Nat) (chars : List Char) :
    word kind lead place (chars.takeWhile isWord) =
      ((word kind lead position chars).1.placed place, []) := by
  have letters : ∀ c ∈ chars.takeWhile isWord, isWord c = true := fun c member =>
    List.mem_takeWhile_imp member
  simp [word, placed, moved, List.takeWhile_eq_self_iff.mpr letters,
    List.dropWhile_eq_nil_iff.mpr letters]

theorem sigilTail (kind : LexemeKind) (c : Char) (position : Nat) (chars : List Char) :
    (word kind c.toString position chars).1.text.toList.tail = chars.takeWhile isWord := by
  simp [word, text]

theorem quotationAlone (quote : Char) (position place : Nat) (chars : List Char) :
    quotation quote place (quotation quote position chars).1.text.toList.tail =
      ((quotation quote position chars).1.placed place, []) := by
  have inside : ∀ c ∈ chars.takeWhile (· != quote), (c != quote) = true := fun c member =>
    List.mem_takeWhile_imp (p := (· != quote)) member
  cases rest : chars.dropWhile (· != quote) with
  | nil =>
    have value : (quotation quote position chars).1.text.toList.tail =
        chars.takeWhile (· != quote) := by simp [quotation, rest, text]
    rw [value]
    simp [quotation, rest, placed, moved, List.takeWhile_eq_self_iff.mpr inside,
      List.dropWhile_eq_nil_iff.mpr inside]
  | cons closing tail =>
    have value : (quotation quote position chars).1.text.toList.tail =
        chars.takeWhile (· != quote) ++ [quote] := by simp [quotation, rest, text]
    rw [value]
    simp [quotation, rest, placed, moved, List.takeWhile_append_of_pos inside,
      List.dropWhile_append_of_pos inside]

theorem propertyAlone {symbols : Symbols} (position place : Nat) {c : Char} {rest : List Char}
    (starts : symbols.startsProperty (c :: rest) = true) :
    next symbols place c (bare .property symbols.property position).text.toList.tail =
      ((bare .property symbols.property position).placed place, []) := by
  have heads := Symbols.startsPropertyIff.mp starts
  obtain ⟨others, letters, -⟩ := heads.spelled
  have value : (bare .property symbols.property position).text = symbols.property := by
    simp [bare, text]
  have whole : symbols.startsProperty (c :: others) = true :=
    Symbols.startsPropertyIff.mpr ⟨heads.filled, letters ▸ List.prefix_rfl⟩
  have size : symbols.property.length - 1 = others.length := by
    simp [← String.length_toList, letters]
  rw [value, letters, List.tail_cons, next, if_pos whole, size, List.drop_length]
  rfl

theorem plainAlone {symbols : Symbols} (position place : Nat) {c : Char} {rest : List Char}
    (plain : ¬ symbols.startsProperty (c :: rest) = true)
    (still : ¬ symbols.startsProperty
      (c :: (next symbols position c rest).1.text.toList.tail) = true) :
    next symbols place c (next symbols position c rest).1.text.toList.tail =
      ((next symbols position c rest).1.placed place, []) := by
  by_cases sigil : c = symbols.variableSigil
  · have step : next symbols position c rest = word .variable c.toString position rest := by
      rw [next, if_neg plain, if_pos sigil]
    rw [step, sigilTail] at still ⊢
    rw [next, if_neg still, if_pos sigil, wordAlone _ _ position]
  by_cases globalSigil : c = symbols.globalSigil
  · have step : next symbols position c rest = word .global c.toString position rest := by
      rw [next, if_neg plain, if_neg sigil, if_pos globalSigil]
    rw [step, sigilTail] at still ⊢
    rw [next, if_neg still, if_neg sigil, if_pos globalSigil, wordAlone _ _ position]
  by_cases quote : c = symbols.quote
  · have step : next symbols position c rest = quotation c position rest := by
      rw [next, if_neg plain, if_neg sigil, if_neg globalSigil, if_pos quote]
    rw [step] at still ⊢
    rw [next, if_neg still, if_neg sigil, if_neg globalSigil, if_pos quote, quotationAlone]
  by_cases command : singleKind symbols c = .command
  · have step : next symbols position c rest = word .command "" position (c :: rest) := by
      rw [next, if_neg plain, if_neg sigil, if_neg globalSigil, if_neg quote, command]
    have letters : c :: (rest.takeWhile isWord) = (c :: rest).takeWhile isWord := by
      rw [List.takeWhile_cons_of_pos (singleKindCommand command)]
    have tail : (word .command "" position (c :: rest)).1.text.toList.tail = rest.takeWhile isWord := by
      simp [word, text, ← letters]
    rw [step, tail] at still ⊢
    rw [next, if_neg still, if_neg sigil, if_neg globalSigil, if_neg quote, command, letters]
    exact wordAlone ..
  · have single : ∀ position rest, ¬ symbols.startsProperty (c :: rest) = true →
        next symbols position c rest = (bare (singleKind symbols c) c.toString position, rest) := by
      intro position rest plain
      rw [next, if_neg plain, if_neg sigil, if_neg globalSigil, if_neg quote]
      split
      · contradiction
      · rfl
    have tail : (bare (singleKind symbols c) c.toString position).text.toList.tail = [] := by
      simp [bare, text]
    rw [single position rest plain, tail] at still ⊢
    rw [single place [] still]
    rfl

theorem nextAlone (symbols : Symbols) (position place : Nat) (c : Char) (rest : List Char) :
    next symbols place c (next symbols position c rest).1.text.toList.tail =
      ((next symbols position c rest).1.placed place, []) := by
  by_cases property : symbols.startsProperty (c :: rest) = true
  · have step : (next symbols position c rest).1 = bare .property symbols.property position := by
      rw [next, if_pos property]
    rw [step]
    exact propertyAlone position place property
  · refine plainAlone position place property fun starts => property ?_
    -- The text begins what was cut, so the property would have begun that too.
    have longer := startsLonger (next symbols position c rest).2 starts
    rwa [List.cons_append, (nextCut ..).beyondHead.2] at longer

structure Whole (symbols : Symbols) (l : Lexeme) : Prop where
  solid : ∀ c ∈ l.text.toList.head?, isBlank c = false
  filled : l.text ≠ ""
  alone : ∀ c ∈ l.text.toList.head?, ∀ place,
    next symbols place c l.text.toList.tail = (l.placed place, [])

theorem nextWhole (symbols : Symbols) (position : Nat) {c : Char} (rest : List Char)
    (solid : isBlank c = false) : Whole symbols (next symbols position c rest).1 := by
  have cut := nextCut symbols position c rest
  refine ⟨?_, cut.filled, ?_⟩
  all_goals
    rw [cut.beyondHead.1]
    intro d head
    cases Option.some.inj head
  · exact solid
  · exact fun place => nextAlone symbols position place c rest

theorem scanWhole (symbols : Symbols) (position : Nat) (chars : List Char) :
    ∀ l ∈ scanFrom symbols position chars, Whole symbols l := by
  fun_induction scanFrom symbols position chars with
  | case1 position => simp
  | case2 position c rest isSpace ih => exact ih
  | case3 position c rest isSpace step ih =>
    intro l member
    rcases List.mem_cons.mp member with rfl | later
    · exact nextWhole symbols position rest (Bool.eq_false_iff.mpr isSpace)
    · exact ih l later

theorem scanClosed (symbols : Symbols) (position : Nat) (chars : List Char) :
    (scanFrom symbols position chars).Pairwise fun l _ => ¬ l.Unclosed := by
  fun_induction scanFrom symbols position chars with
  | case1 position => exact .nil
  | case2 position c rest isSpace ih => exact ih
  | case3 position c rest isSpace step ih =>
    refine .cons (fun later member unclosed => ?_) ih
    have nothing : step.2 = [] := unclosedTakesAll unclosed
    rw [nothing, scanFrom] at member
    contradiction

theorem scanBlanks (symbols : Symbols) (position : Nat) {gap : List Char}
    (blank : ∀ c ∈ gap, isBlank c = true) (rest : List Char) :
    scanFrom symbols position (gap ++ rest) =
      scanFrom symbols (position + utf8Len gap) rest := by
  induction gap generalizing position with
  | nil => rfl
  | cons c gap ih =>
    simp only [List.mem_cons, forall_eq_or_imp] at blank
    rw [List.cons_append, scanFrom, if_pos blank.1, ih _ blank.2, String.utf8Len_cons]
    congr 1
    omega

theorem scanLexeme {symbols : Symbols} {l : Lexeme} (whole : Whole symbols l) (position : Nat)
    {after : List Char} (ends : after = [] ∨ symbols.Bounds after ∧ ¬ l.Unclosed) :
    scanFrom symbols position (l.text.toList ++ after) =
      l.placed position :: scanFrom symbols (l.placed position).stop after := by
  cases letters : l.text.toList with
  | nil => exact absurd (by simpa using letters) whole.filled
  | cons c others =>
    have solid := whole.solid c (by rw [letters]; rfl)
    have alone := whole.alone c (by rw [letters]; rfl) position
    rw [letters, List.tail_cons] at alone
    have step : next symbols position c (others ++ after) = (l.placed position, after) := by
      rcases ends with rfl | ⟨bounds, closed⟩
      · rw [List.append_nil, alone]
      · have kept : ¬ (next symbols position c others).1.Unclosed := by
          rw [alone]
          exact closed
        rw [nextAppend bounds kept, alone]
        rfl
    rw [List.cons_append, scanFrom, if_neg (by simp [solid]), step]

theorem boundsOfBlank {symbols : Symbols}
    (unbroken : ∀ c ∈ symbols.property.toList, isBlank c = false) {chars : List Char}
    (blank : ∀ c ∈ chars.head?, isBlank c = true) : symbols.Bounds chars := by
  intro c head
  have space := blank c head
  refine ⟨Bool.eq_false_iff.mpr fun letter => ?_, fun inside => ?_⟩
  · rw [wordNotBlank letter] at space
    contradiction
  · rw [unbroken c inside] at space
    contradiction

theorem blankBounds {symbols : Symbols}
    (unbroken : ∀ c ∈ symbols.property.toList, isBlank c = false) {gap : List Char}
    (blank : ∀ c ∈ gap, isBlank c = true) (filled : gap ≠ []) (rest : List Char) :
    symbols.Bounds (gap ++ rest) := by
  cases gap with
  | nil => exact absurd rfl filled
  | cons c gap =>
    have space : isBlank c = true := blank c List.mem_cons_self
    exact boundsOfBlank unbroken (by simpa using space)

theorem scanSpaced {symbols : Symbols}
    (unbroken : ∀ c ∈ symbols.property.toList, isBlank c = false) {lexemes : List Lexeme}
    {chars : List Char} (spaced : Spaced lexemes chars) (whole : ∀ l ∈ lexemes, Whole symbols l)
    (closed : lexemes.Pairwise fun l _ => ¬ l.Unclosed) (position : Nat) :
    (scanFrom symbols position chars).map unplaced = lexemes.map unplaced := by
  induction spaced generalizing position with
  | done => simp [scanFrom]
  | @lexeme l gap rest chars blank between tail ih =>
    simp only [List.mem_cons, forall_eq_or_imp] at whole
    obtain ⟨closedFirst, closedRest⟩ := List.pairwise_cons.mp closed
    have ends : gap ++ chars = [] ∨ symbols.Bounds (gap ++ chars) ∧ ¬ l.Unclosed := by
      cases rest with
      | nil =>
        cases tail
        exact .inl (by simpa using between)
      | cons other rest =>
        have filled : gap ≠ [] := by simp [between]
        exact .inr ⟨blankBounds unbroken blank filled chars, closedFirst other List.mem_cons_self⟩
    rw [scanLexeme whole.1 position ends, List.map_cons, scanBlanks _ _ blank,
      ih whole.2 closedRest]
    rfl

theorem scanRespaced {symbols : Symbols}
    (unbroken : ∀ c ∈ symbols.property.toList, isBlank c = false) {source other : String}
    (respaced : Respaced (scan symbols source) other) :
    (scan symbols other).map unplaced = (scan symbols source).map unplaced := by
  obtain ⟨lead, chars, blank, spelled, spaced⟩ := respaced
  rw [scan, spelled, scanBlanks _ _ blank]
  exact scanSpaced unbroken spaced (scanWhole symbols 0 _) (scanClosed symbols 0 _) _

end Lexeme

namespace Token

def unplaced : Token → Token := moved fun _ => 0

theorem ofRespaced {symbols : Symbols}
    (unbroken : ∀ c ∈ symbols.property.toList, isBlank c = false) {source other : String}
    (respaced : Lexeme.Respaced (Lexeme.scan symbols source) other) :
    (ofSource symbols other).map unplaced = (ofSource symbols source).map unplaced := by
  have same := Lexeme.scanRespaced unbroken respaced
  unfold ofSource ofLexemes unplaced
  rw [← ofLexemesMoved, ← ofLexemesMoved]
  exact congrArg _ same

end Token

theorem Rpn.ofRespaced {symbols : Symbols}
    (unbroken : ∀ c ∈ symbols.property.toList, isBlank c = false) {source other : String}
    (respaced : Lexeme.Respaced (Lexeme.scan symbols source) other) :
    (ofSource? symbols other).map (List.map Token.unplaced) =
      (ofSource? symbols source).map (List.map Token.unplaced) := by
  unfold ofSource? Token.unplaced
  rw [← ofTokensMoved, ← ofTokensMoved]
  exact congrArg _ (Token.ofRespaced unbroken respaced)

end LiveConsole
