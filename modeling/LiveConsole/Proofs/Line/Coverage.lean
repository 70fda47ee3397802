import LiveConsole.Line.Scan
import Mathlib.Data.String.Basic

/-! Lexemes laid end to end over their line. Their spans stand in order, do not overlap and hold
the characters that they claim; only white space stands outside of them. -/
namespace LiveConsole

namespace Symbols

def sigils (symbols : Symbols) : List (LexemeKind × Char) :=
  [(.variable, symbols.variableSigil), (.global, symbols.globalSigil)]

def singles (symbols : Symbols) : List (LexemeKind × Char) :=
  [(.openGroup, symbols.groupOpen), (.closeGroup, symbols.groupClose),
    (.openIndex, symbols.indexOpen), (.closeIndex, symbols.indexClose),
    (.concatenation, symbols.concatenation)]

def characters (symbols : Symbols) : List Char :=
  symbols.quote :: (symbols.sigils ++ symbols.singles).map Prod.snd

structure PropertyHeads (symbols : Symbols) (chars : List Char) : Prop where
  filled : symbols.property ≠ ""
  heads : symbols.property.toList <+: chars

theorem startsPropertyIff {symbols : Symbols} {chars : List Char} :
    symbols.startsProperty chars = true ↔ symbols.PropertyHeads chars := by
  simp only [startsProperty, Bool.and_eq_true, Bool.not_eq_true', String.isEmpty_eq_false_iff,
    List.isPrefixOf_iff_prefix]
  constructor
  · rintro ⟨filled, heads⟩
    exact ⟨filled, heads⟩
  · intro starts
    exact ⟨starts.filled, starts.heads⟩

theorem PropertyHeads.spelled {symbols : Symbols} {c : Char} {rest : List Char}
    (heads : symbols.PropertyHeads (c :: rest)) :
    ∃ others, symbols.property.toList = c :: others ∧ others <+: rest := by
  have starts := heads.heads
  cases letters : symbols.property.toList with
  | nil => exact absurd (String.toList_eq_nil_iff.mp letters) heads.filled
  | cons first others =>
    rw [letters] at starts
    obtain ⟨rfl, within⟩ := List.cons_prefix_cons.mp starts
    exact ⟨others, rfl, within⟩

end Symbols

namespace Lexeme
open Text
open String (utf8Len)

/- What the next lexeme can be. Where symbols coincide, a character can be more than one of these. -/
inductive Taken (symbols : Symbols) (position : Nat) (c : Char) (rest : List Char) :
    Lexeme × List Char → Prop where
  | property (heads : symbols.PropertyHeads (c :: rest)) :
      Taken symbols position c rest
        (bare .property symbols.property position, rest.drop (symbols.property.length - 1))
  | sigil {kind : LexemeKind} (known : (kind, c) ∈ symbols.sigils) :
      Taken symbols position c rest (word kind c.toString position rest)
  | quotation (quote : c = symbols.quote) :
      Taken symbols position c rest (quotation c position rest)
  | single {kind : LexemeKind} (known : (kind, c) ∈ symbols.singles) :
      Taken symbols position c rest (bare kind c.toString position, rest)
  | command (letter : isWord c = true) :
      Taken symbols position c rest (word .command "" position (c :: rest))
  | invalid (other : isWord c = false) (unknown : c ∉ symbols.characters)
      (plain : ¬ symbols.PropertyHeads (c :: rest)) :
      Taken symbols position c rest (bare .invalid c.toString position, rest)

theorem singleKindCases (symbols : Symbols) (c : Char) :
    (singleKind symbols c, c) ∈ symbols.singles ∨ singleKind symbols c = .command ∨
    singleKind symbols c = .invalid ∧ isWord c = false ∧ c ∉ symbols.singles.map Prod.snd := by
  unfold singleKind Symbols.singles
  grind

theorem nextTaken (symbols : Symbols) (position : Nat) (c : Char) (rest : List Char) :
    Taken symbols position c rest (next symbols position c rest) := by
  unfold next
  split
  · rename_i starts
    exact .property (Symbols.startsPropertyIff.mp starts)
  rename_i plain
  split
  · rename_i same
    exact .sigil (by simp [Symbols.sigils, same])
  rename_i notVariable
  split
  · rename_i same
    exact .sigil (by simp [Symbols.sigils, same])
  rename_i notGlobal
  split
  · rename_i same
    exact .quotation same
  rename_i notQuote
  split
  · rename_i command
    exact .command (singleKindCommand command)
  rename_i notCommand
  obtain known | command | ⟨kind, other, unknown⟩ := singleKindCases symbols c
  · exact .single known
  · exact absurd command notCommand
  · have noSigil : c ∉ symbols.sigils.map Prod.snd := by
      simp [Symbols.sigils, notVariable, notGlobal]
    have unused : c ∉ symbols.characters := by
      rw [Symbols.characters, List.map_append, List.mem_cons, List.mem_append]
      exact not_or.mpr ⟨notQuote, not_or.mpr ⟨noSigil, unknown⟩⟩
    rw [kind]
    exact .invalid other unused (mt Symbols.startsPropertyIff.mpr plain)

structure Cut (position : Nat) (chars : List Char) (step : Lexeme × List Char) : Prop where
  position : step.1.position = position
  filled : step.1.text ≠ ""
  joined : step.1.text.toList ++ step.2 = chars

inductive Covers : Nat → List Char → List Lexeme → Prop where
  | done (position : Nat) : Covers position [] []
  | blank {position c rest lexemes} (isSpace : isBlank c = true)
      (tail : Covers (position + c.utf8Size) rest lexemes) : Covers position (c :: rest) lexemes
  | lexeme {position chars step lexemes} (cut : Cut position chars step)
      (tail : Covers step.1.stop step.2 lexemes) : Covers position chars (step.1 :: lexemes)

theorem wordCut (kind : LexemeKind) (position : Nat) {c : Char} (rest : List Char)
    (letter : isWord c = true) : Cut position (c :: rest) (word kind "" position (c :: rest)) := by
  refine ⟨rfl, ?_, ?_⟩
  · simp [word, text, letter]
  · simp [word, text, List.takeWhile_append_dropWhile]

theorem sigilCut (kind : LexemeKind) (position : Nat) (c : Char) (rest : List Char) :
    Cut position (c :: rest) (word kind c.toString position rest) := by
  refine ⟨rfl, ?_, ?_⟩
  · simp [word, text]
  · simp [word, text, List.takeWhile_append_dropWhile]

theorem quotationCut (quote : Char) (position : Nat) (rest : List Char) :
    Cut position (quote :: rest) (quotation quote position rest) := by
  have parts := List.takeWhile_append_dropWhile (p := (· != quote)) (l := rest)
  unfold quotation
  split
  · rename_i open_
    rw [open_] at parts
    exact ⟨rfl, by simp [text], by simpa [text] using parts⟩
  · rename_i closing tail closed
    have same : closing = quote := by
      have head := List.head_dropWhile_not (· != quote) (l := rest) (by simp [closed])
      simpa [closed] using head
    rw [closed, same] at parts
    exact ⟨rfl, by simp [text], by simpa [text] using parts⟩

theorem propertyCut {symbols : Symbols} (position : Nat) {c : Char} {rest : List Char}
    (heads : symbols.PropertyHeads (c :: rest)) :
    Cut position (c :: rest)
      (bare .property symbols.property position, rest.drop (symbols.property.length - 1)) := by
  obtain ⟨others, letters, tail, rfl⟩ := heads.spelled
  have size : symbols.property.length = others.length + 1 := by
    simp [← String.length_toList, letters]
  refine ⟨rfl, by simpa [text, bare] using heads.filled, ?_⟩
  simp [text, bare, letters, size]

theorem bareCut (kind : LexemeKind) (position : Nat) (c : Char) (rest : List Char) :
    Cut position (c :: rest) (bare kind c.toString position, rest) :=
  ⟨rfl, by simp [text, bare], by simp [text, bare]⟩

theorem Taken.cut {symbols position c rest step} (taken : Taken symbols position c rest step) :
    Cut position (c :: rest) step := by
  cases taken with
  | property heads => exact propertyCut position heads
  | sigil known => exact sigilCut ..
  | quotation quote => exact quotationCut ..
  | single known => exact bareCut ..
  | command letter => exact wordCut _ _ _ letter
  | invalid other unknown plain => exact bareCut ..

theorem nextCut (symbols : Symbols) (position : Nat) (c : Char) (rest : List Char) :
    Cut position (c :: rest) (next symbols position c rest) :=
  (nextTaken symbols position c rest).cut

theorem scanCovers (symbols : Symbols) (position : Nat) (chars : List Char) :
    Covers position chars (scanFrom symbols position chars) := by
  fun_induction scanFrom symbols position chars with
  | case1 position => exact .done position
  | case2 position c rest isSpace ih => exact .blank isSpace ih
  | case3 position c rest _ step ih => exact .lexeme (nextCut ..) ih

theorem stopEq (l : Lexeme) : l.stop = l.position + utf8Len l.text.toList := by
  rw [stop, String.utf8Len_toList]

theorem stopAfterStart {position chars step} (cut : Cut position chars step) :
    step.1.position < step.1.stop := by
  have size := mt String.utf8ByteSize_eq_zero_iff.mp cut.filled
  unfold stop
  omega

theorem Covers.startsAfter {position chars lexemes} (covers : Covers position chars lexemes) :
    ∀ l ∈ lexemes, position ≤ l.position := by
  induction covers with
  | done => simp
  | blank _ _ ih => exact fun l member => (Nat.le_add_right _ _).trans (ih l member)
  | lexeme cut _ ih =>
    have forward := stopAfterStart cut
    intro l member
    rcases List.mem_cons.mp member with rfl | later
    · exact cut.position.ge
    · have := ih l later
      have := cut.position
      omega

theorem Covers.filled {position chars lexemes} (covers : Covers position chars lexemes) :
    ∀ l ∈ lexemes, l.text ≠ "" := by
  induction covers with
  | done => simp
  | blank _ _ ih => exact ih
  | lexeme cut _ ih =>
    intro l member
    rcases List.mem_cons.mp member with rfl | later
    · exact cut.filled
    · exact ih l later

theorem Covers.apart {position chars lexemes} (covers : Covers position chars lexemes) :
    lexemes.Pairwise fun a b => a.stop ≤ b.position := by
  induction covers with
  | done => exact .nil
  | blank _ _ ih => exact ih
  | lexeme cut tail ih => exact .cons tail.startsAfter ih

theorem Covers.increasing {position chars lexemes} (covers : Covers position chars lexemes) :
    lexemes.Pairwise fun a b => a.position < b.position := by
  induction covers with
  | done => exact .nil
  | blank _ _ ih => exact ih
  | lexeme cut tail ih =>
    refine .cons (fun l member => ?_) ih
    exact (stopAfterStart cut).trans_le (tail.startsAfter l member)

theorem Covers.located {position chars lexemes} (covers : Covers position chars lexemes) :
    ∀ l ∈ lexemes, ∃ before after, chars = before ++ l.text.toList ++ after ∧
      l.position = position + utf8Len before := by
  induction covers with
  | done => simp
  | @blank position c rest lexemes isSpace tail ih =>
    intro l member
    obtain ⟨before, after, split, place⟩ := ih l member
    refine ⟨c :: before, after, by simp [split], ?_⟩
    rw [place, String.utf8Len_cons]
    omega
  | @lexeme position chars step lexemes cut tail ih =>
    intro l member
    rcases List.mem_cons.mp member with rfl | later
    · exact ⟨[], step.2, cut.joined.symm, cut.position⟩
    · obtain ⟨before, after, split, place⟩ := ih l later
      refine ⟨step.1.text.toList ++ before, after, ?_, ?_⟩
      · simp [← cut.joined, split]
      · rw [place, stopEq, cut.position, String.utf8Len_append]
        omega

theorem Covers.outside {position chars lexemes} (covers : Covers position chars lexemes)
    {before c after} (split : chars = before ++ c :: after)
    (free : ∀ l ∈ lexemes, ¬ (l.position ≤ position + utf8Len before ∧
      position + utf8Len before < l.stop)) : isBlank c = true := by
  induction covers generalizing before with
  | done => simp at split
  | @blank position d rest lexemes isSpace tail ih =>
    cases before with
    | nil =>
      cases split
      exact isSpace
    | cons e before =>
      cases split
      refine ih rfl fun l member => ?_
      simpa [Nat.add_assoc, Nat.add_comm, Nat.add_left_comm] using free l member
  | @lexeme position chars step lexemes cut tail ih =>
    have first := free step.1 List.mem_cons_self
    rw [cut.position, stopEq, cut.position] at first
    have joined : step.1.text.toList ++ step.2 = before ++ c :: after := cut.joined.trans split
    -- A character outside of the first span comes after all of it.
    obtain ⟨between, rfl, rest⟩ | ⟨inside, text, rest⟩ := List.append_eq_append_iff.mp joined
    · refine ih rest fun l member => ?_
      have other := free l (List.mem_cons_of_mem _ member)
      rw [stopEq, cut.position]
      simpa [Nat.add_assoc] using other
    · cases inside with
      | nil =>
        refine @ih [] rest.symm fun l member => ?_
        have other := free l (List.mem_cons_of_mem _ member)
        rw [stopEq, cut.position, text]
        simpa using other
      | cons d inside =>
        have size := d.utf8Size_pos
        rw [text, String.utf8Len_append, String.utf8Len_cons] at first
        omega

theorem scanInside (symbols : Symbols) (source : String) :
    ∀ l ∈ scan symbols source, l.position < source.utf8ByteSize := by
  have covers := scanCovers symbols 0 source.toList
  intro l member
  obtain ⟨before, after, split, place⟩ := covers.located l member
  have filled := mt String.utf8ByteSize_eq_zero_iff.mp (covers.filled l member)
  have size := congrArg utf8Len split
  rw [String.utf8Len_append, String.utf8Len_append, String.utf8Len_toList,
    String.utf8Len_toList] at size
  omega

structure Spans (source : String) (l : Lexeme) : Prop where
  filled : l.text ≠ ""
  starts : String.Pos.Raw.IsValid source ⟨l.position⟩
  stops : String.Pos.Raw.IsValid source ⟨l.stop⟩
  reads : String.Pos.Raw.extract source ⟨l.position⟩ ⟨l.stop⟩ = l.text

theorem endOfPrefixValid (pre post : List Char) :
    String.Pos.Raw.IsValid (String.ofList (pre ++ post)) ⟨utf8Len pre⟩ := by
  have valid := (String.Pos.Raw.isValid_rawEndPos (s := String.ofList pre)).append_right
    (String.ofList post)
  rwa [String.rawEndPos_ofList, ← String.ofList_append] at valid

theorem spansOfLocated {source : String} {l : Lexeme} {before after : List Char}
    (filled : l.text ≠ "") (split : source.toList = before ++ l.text.toList ++ after)
    (place : l.position = utf8Len before) : Spans source l := by
  have joined : source = String.ofList (before ++ l.text.toList ++ after) := by
    rw [← split, String.ofList_toList]
  have stop : l.stop = utf8Len before + utf8Len l.text.toList := by rw [stopEq, place]
  refine ⟨filled, ?_, ?_, ?_⟩
  · rw [joined, place, List.append_assoc]
    exact endOfPrefixValid before _
  · rw [joined, stop, ← String.utf8Len_append]
    exact endOfPrefixValid _ after
  · rw [joined, place, stop, String.extract_of_valid, String.ofList_toList]

structure Reconstructs (source : String) (lexemes : List Lexeme) : Prop where
  increasing : lexemes.Pairwise fun a b => a.position < b.position
  apart : lexemes.Pairwise fun a b => a.stop ≤ b.position
  spans : ∀ l ∈ lexemes, Spans source l
  gaps : ∀ before c after, source.toList = before ++ c :: after →
    (∀ l ∈ lexemes, ¬ (l.position ≤ utf8Len before ∧ utf8Len before < l.stop)) → isBlank c = true

theorem scanReconstructs (symbols : Symbols) (source : String) :
    Reconstructs source (scan symbols source) := by
  have covers := scanCovers symbols 0 source.toList
  refine ⟨covers.increasing, covers.apart, ?_, ?_⟩
  · intro l member
    obtain ⟨before, after, split, place⟩ := covers.located l member
    exact spansOfLocated (covers.filled l member) split (by simpa using place)
  · intro before c after split free
    exact covers.outside split fun l member => by simpa using free l member

end Lexeme
end LiveConsole
