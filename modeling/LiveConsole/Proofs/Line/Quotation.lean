import LiveConsole.Proofs.Line.Grouped
import LiveConsole.Proofs.Line.Occurrence
import Mathlib

/-! Quoted text is inert. What stands between two quotes is one operand, whatever it says: with
another text there, the line has the same tokens in the same order of evaluation, and what comes
after the quotes has moved. -/
namespace LiveConsole
open Text
open String (utf8Len)

def quotedLine (before text after : String) : String := before ++ "'" ++ text ++ "'" ++ after

theorem quotedLineChars (before text after : String) :
    (quotedLine before text after).toList =
      before.toList ++ '\'' :: (text.toList ++ '\'' :: after.toList) := by
  simp [quotedLine]

namespace Lexeme

def literal (position : Nat) (text : String) : Lexeme := ⟨.string, text, position, "'", "'"⟩

theorem literalStop (position : Nat) (text : String) :
    (literal position text).stop = position + text.utf8ByteSize + 2 := by
  have quote : "'".utf8ByteSize = 1 := by decide
  simp only [stop, Lexeme.text, literal, String.utf8ByteSize_append, quote]
  omega

theorem quotationClosed {quote : Char} {text : List Char} (plain : quote ∉ text) (position : Nat)
    (rest : List Char) :
    quotation quote position (text ++ quote :: rest) =
      (⟨.string, String.ofList text, position, quote.toString, quote.toString⟩, rest) := by
  have inside : ∀ c ∈ text, (c != quote) = true := fun c member =>
    bne_iff_ne.mpr fun same => plain (same ▸ member)
  simp [quotation, List.takeWhile_append_of_pos inside, List.dropWhile_append_of_pos inside]

theorem scanLiteral (position : Nat) {text : String} (plain : '\'' ∉ text.toList)
    (rest : List Char) :
    scanFrom .standard position ('\'' :: (text.toList ++ '\'' :: rest)) =
      literal position text ::
        scanFrom .standard (position + text.utf8ByteSize + 2) rest := by
  have step : next .standard position '\'' (text.toList ++ '\'' :: rest) =
      (literal position text, rest) := by
    have quoted := quotationClosed plain position rest
    rw [String.ofList_toList] at quoted
    exact quoted
  rw [scanFrom, if_neg (by decide), step]
  dsimp only
  rw [literalStop]

theorem quoteBounds (rest : List Char) : Symbols.standard.Bounds ('\'' :: rest) := by
  intro c head
  cases Option.some.inj head
  exact ⟨by decide, by decide⟩

theorem scanQuoted {before : String}
    (closed : ∀ l ∈ (scan .standard before).getLast?, ¬ l.Unclosed) {text : String}
    (plain : '\'' ∉ text.toList) (after : String) :
    scan .standard (quotedLine before text after) =
      scan .standard before ++ literal before.utf8ByteSize text ::
        scanFrom .standard (before.utf8ByteSize + text.utf8ByteSize + 2) after.toList := by
  rw [scan, quotedLineChars, scanFromAppend (quoteBounds _) closed, scanLiteral _ plain,
    Nat.zero_add, String.utf8Len_toList]
  rfl

def shifted (place : Nat) (text other : String) (position : Nat) : Nat :=
  if position ≤ place then position else position - text.utf8ByteSize + other.utf8ByteSize

def exchange (place : Nat) (text other : String) (l : Lexeme) : Lexeme :=
  if l.kind = .string ∧ l.position = place then { l with value := other }
  else l.moved (shifted place text other)

theorem exchangeRenames (place : Nat) (text other : String) :
    Renames (shifted place text other) (exchange place text other) := by
  refine ⟨fun l => ?_, fun l => ?_, fun l word => ?_⟩
  · unfold exchange
    split <;> rfl
  · unfold exchange
    split
    · rename_i held
      simp [shifted, held.2]
    · rfl
  · rw [exchange, if_neg (by simp [word])]

theorem exchangeBefore {place : Nat} {l : Lexeme} (earlier : l.position < place)
    (text other : String) : l.exchange place text other = l := by
  rw [exchange, if_neg (by omega), moved, shifted, if_pos earlier.le]

theorem exchangeAfter {place : Nat} {l : Lexeme} (later : place < l.position)
    (text other : String) :
    (l.moved (· + text.utf8ByteSize)).exchange place text other =
      l.moved (· + other.utf8ByteSize) := by
  have beyond : place < (l.moved (· + text.utf8ByteSize)).position := by
    change place < l.position + _
    omega
  have same : (l.moved (· + text.utf8ByteSize)).position - text.utf8ByteSize = l.position :=
    Nat.add_sub_cancel ..
  rw [exchange, if_neg (by omega), moved, shifted, if_neg (by omega), same]
  rfl

theorem scanExchanged {before : String}
    (closed : ∀ l ∈ (scan .standard before).getLast?, ¬ l.Unclosed) {text other : String}
    (plain : '\'' ∉ text.toList) (plainOther : '\'' ∉ other.toList) (after : String) :
    scan .standard (quotedLine before other after) =
      (scan .standard (quotedLine before text after)).map
        (exchange before.utf8ByteSize text other) := by
  have front : (scan .standard before).map (exchange before.utf8ByteSize text other) =
      scan .standard before := by
    have same : ∀ l ∈ scan .standard before,
        l.exchange before.utf8ByteSize text other = id l := fun l member =>
      exchangeBefore (scanInside .standard before l member) text other
    rw [List.map_congr_left same, List.map_id]
  have literal : (literal before.utf8ByteSize text).exchange before.utf8ByteSize text other =
      literal before.utf8ByteSize other := if_pos ⟨rfl, rfl⟩
  have back : (scanFrom .standard (before.utf8ByteSize + text.utf8ByteSize + 2) after.toList).map
      (exchange before.utf8ByteSize text other) =
      scanFrom .standard (before.utf8ByteSize + other.utf8ByteSize + 2) after.toList := by
    -- Both are the scan from right behind an empty literal, moved by the length of the text.
    rw [Nat.add_right_comm, Nat.add_right_comm _ other.utf8ByteSize,
      scanFromMoved _ (before.utf8ByteSize + 2), scanFromMoved _ (before.utf8ByteSize + 2),
      List.map_map]
    refine List.map_congr_left fun l member => ?_
    have starts := (scanCovers .standard _ after.toList).startsAfter l member
    exact exchangeAfter (by omega) text other
  rw [scanQuoted closed plain, scanQuoted closed plainOther, List.map_append, List.map_cons, front,
    literal, back]

end Lexeme

namespace Token
open Lexeme (literal shifted exchange)

theorem renamedApart {place : Nat} {t : Token} (apart : t.position ≠ place) (text other : String) :
    t.renamed (exchange place text other) = t.moved (shifted place text other) := by
  have elsewhere : ¬ (t.lexeme.kind = .string ∧ t.lexeme.position = place) := fun held =>
    apart held.2
  rw [renamed, exchange, if_neg elsewhere]
  rfl

theorem quotedTokens {before : String}
    (closed : ∀ l ∈ (Lexeme.scan .standard before).getLast?, ¬ l.Unclosed) {text : String}
    (plain : '\'' ∉ text.toList) (after : String) :
    ofLexeme (literal before.utf8ByteSize text) ∈
        ofSource .standard (quotedLine before text after) ∧
    ∀ t ∈ ofSource .standard (quotedLine before text after), t.position ≠ before.utf8ByteSize →
      t.position < before.utf8ByteSize ∨
      before.utf8ByteSize + text.utf8ByteSize + 2 ≤ t.position := by
  have increasing := increasing .standard (quotedLine before text after)
  have apart := apart .standard (quotedLine before text after)
  have split := Lexeme.scanQuoted closed plain after
  rw [ofSource, ofLexemes, split, ofLexemesAppend _ _ (by exact LexemeKind.noConfusion)]
    at increasing apart ⊢
  refine ⟨List.mem_append_right _ List.mem_cons_self, fun t member elsewhere => ?_⟩
  rcases List.mem_append.mp member with front | member
  · exact .inl ((List.pairwise_append.mp increasing).2.2 t front _ List.mem_cons_self)
  · rcases List.mem_cons.mp member with rfl | back
    · exact absurd rfl elsewhere
    · have stops := (List.pairwise_cons.mp (List.pairwise_append.mp apart).2.1).1 t back
      rw [← Lexeme.literalStop]
      exact .inr stops

end Token

namespace Rpn
open Lexeme (literal shifted exchange)
open Token (moved)

theorem ofExchanged {before : String}
    (closed : ∀ l ∈ (Lexeme.scan .standard before).getLast?, ¬ l.Unclosed) {text other : String}
    (plain : '\'' ∉ text.toList) (plainOther : '\'' ∉ other.toList) (after : String) :
    ofSource? .standard (quotedLine before other after) =
      (ofSource? .standard (quotedLine before text after)).map
        (List.map (Token.renamed (exchange before.utf8ByteSize text other))) := by
  have renames := Lexeme.exchangeRenames before.utf8ByteSize text other
  unfold ofSource? Token.ofSource Token.ofLexemes
  rw [Lexeme.scanExchanged closed plain plainOther, Token.ofLexemesRenamed renames,
    ofTokensRenamed renames]

theorem arrangedAround {before : String}
    (closed : ∀ l ∈ (Lexeme.scan .standard before).getLast?, ¬ l.Unclosed) {text : String}
    (plain : '\'' ∉ text.toList) {after : String} {arranged : List Token}
    (order : ofSource? .standard (quotedLine before text after) = some arranged) :
    ∃ front back, arranged = front ++ .ofLexeme (literal before.utf8ByteSize text) :: back ∧
      ∀ t ∈ front ++ back, t.position < before.utf8ByteSize ∨
        before.utf8ByteSize + text.utf8ByteSize + 2 ≤ t.position := by
  obtain ⟨inside, others⟩ := Token.quotedTokens closed plain after
  have apart := arrangedApart (Token.increasing .standard _) order
  have within := arrangedFrom order
  obtain ⟨front, back, rfl⟩ :=
    List.append_of_mem ((arrangesTokens order).tokens _ inside (.inl rfl))
  rw [Token.Apart, List.map_append, List.map_cons, List.nodup_middle, ← List.map_append,
    List.nodup_cons] at apart
  refine ⟨front, back, rfl, fun t member => ?_⟩
  have elsewhere : t.position ≠ before.utf8ByteSize := fun same =>
    apart.1 (List.mem_map.mpr ⟨t, member, same⟩)
  obtain ⟨original, originalIn, place⟩ :=
    within t (List.perm_middle.mem_iff.mpr (List.mem_cons_of_mem _ member))
  rw [← place] at elsewhere ⊢
  exact others original originalIn elsewhere

theorem quotedTextIsInert {before : String}
    (closed : ∀ l ∈ (Lexeme.scan .standard before).getLast?, ¬ l.Unclosed) {text other : String}
    (plain : '\'' ∉ text.toList) (plainOther : '\'' ∉ other.toList) (after : String) :
    (ofSource? .standard (quotedLine before text after) = none ∧
      ofSource? .standard (quotedLine before other after) = none) ∨
    ∃ front back : List Token,
      ofSource? .standard (quotedLine before text after) =
        some (front ++ .ofLexeme (literal before.utf8ByteSize text) :: back) ∧
      ofSource? .standard (quotedLine before other after) =
        some (front.map (moved (shifted before.utf8ByteSize text other)) ++
          .ofLexeme (literal before.utf8ByteSize other) ::
            back.map (moved (shifted before.utf8ByteSize text other))) ∧
      ∀ t ∈ front ++ back, t.position < before.utf8ByteSize ∨
        before.utf8ByteSize + text.utf8ByteSize + 2 ≤ t.position := by
  have exchanged := ofExchanged closed plain plainOther after
  cases order : ofSource? .standard (quotedLine before text after) with
  | none =>
    rw [order] at exchanged
    exact .inl ⟨rfl, exchanged⟩
  | some arranged =>
    obtain ⟨front, back, rfl, outside⟩ := arrangedAround closed plain order
    have renamed : ∀ part : List Token, (∀ t ∈ part, t ∈ front ++ back) →
        part.map (Token.renamed (exchange before.utf8ByteSize text other)) =
          part.map (moved (shifted before.utf8ByteSize text other)) := by
      intro part within
      refine List.map_congr_left fun t member => Token.renamedApart ?_ text other
      have place := outside t (within t member)
      omega
    have literal : (Token.ofLexeme (literal before.utf8ByteSize text)).renamed
        (exchange before.utf8ByteSize text other) =
          .ofLexeme (literal before.utf8ByteSize other) :=
      congrArg (Token.mk .string · 0) (if_pos ⟨rfl, rfl⟩)
    refine .inr ⟨front, back, rfl, ?_, outside⟩
    rw [exchanged, order, Option.map_some, List.map_append, List.map_cons, literal,
      renamed front fun t => List.mem_append_left _, renamed back fun t => List.mem_append_right _]

theorem quotedBracketsAreInert :
    ∃ front back : List Token,
      ofSource? .standard (quotedLine "echo \x7b" "\x7d] $x" " . 'b'\x7d") =
        some (front ++ .ofLexeme (literal 6 "\x7d] $x") :: back) ∧
      ofSource? .standard (quotedLine "echo \x7b" "→→" " . 'b'\x7d") =
        some (front.map (moved (shifted 6 "\x7d] $x" "→→")) ++
          .ofLexeme (literal 6 "→→") :: back.map (moved (shifted 6 "\x7d] $x" "→→"))) ∧
      ∀ t ∈ front ++ back, t.position < 6 ∨ 13 ≤ t.position := by
  have closed : ∀ l ∈ (Lexeme.scan .standard "echo \x7b").getLast?, ¬ l.Unclosed := by
    have cut : Lexeme.scan .standard "echo \x7b" =
        [.bare .command "echo" 0, Lexeme.groupOpener 5] := by cbv
    rw [cut]
    decide
  have ordered : ofSource? .standard (quotedLine "echo \x7b" "\x7d] $x" " . 'b'\x7d") ≠ none := by
    have arranged : ofSource? .standard (quotedLine "echo \x7b" "\x7d] $x" " . 'b'\x7d") =
        some [.ofLexeme (literal 6 "\x7d] $x"), .ofLexeme (literal 16 "b"),
          .synthetic concatenationName 14, .ofLexeme (.bare .command "echo" 0)] := by cbv
    simp [arranged]
  exact (quotedTextIsInert closed (by decide) (by decide) " . 'b'\x7d").resolve_left fun refused =>
    ordered refused.1

end Rpn
end LiveConsole
