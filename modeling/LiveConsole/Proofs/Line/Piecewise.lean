import LiveConsole.Proofs.Line.Quotation
import LiveConsole.Proofs.Line.Spacing

/-! A line read piece by piece, wherever its pieces stand: what each kind of piece comes to, with
any text behind it that does not run into it. -/
namespace LiveConsole
open Text

theorem Lexeme.scanUnplaced (symbols : Symbols) (position : Nat) (chars : List Char) :
    (scanFrom symbols position chars).map unplaced = (scanFrom symbols 0 chars).map unplaced := by
  have elsewhere := scanFromMoved symbols 0 position chars
  rw [Nat.zero_add] at elsewhere
  rw [elsewhere, List.map_map]
  rfl

namespace Token
open Lexeme (Names groupOpener groupCloser literal scanUnplaced)

def readAt (place : Place) (chars : List Char) : List Token :=
  ofLexemesAt place ((Lexeme.scanFrom .standard 0 chars).map Lexeme.unplaced)

theorem ofSourceRead (source : String) :
    (ofSource .standard source).map unplaced = readAt .lineStart source.toList :=
  (ofLexemesMoved ..).symm

theorem readRegular (place : Place) (chars : List Char) :
    ∀ t ∈ readAt place chars, t.priority = t.kind.priority := ofLexemesRegular place _

theorem readEnd (place : Place) : readAt place [] = [] := by
  simp [readAt, Lexeme.scanFrom, ofLexemesAt]

theorem readBlanks {gap : List Char} (blank : ∀ c ∈ gap, isBlank c = true) (place : Place)
    (rest : List Char) : readAt place (gap ++ rest) = readAt place rest := by
  rw [readAt, Lexeme.scanBlanks _ _ blank, scanUnplaced]
  rfl

theorem readSpace (place : Place) (rest : List Char) :
    readAt place (' ' :: rest) = readAt place rest := by
  rw [readAt, Lexeme.scanSpace, scanUnplaced]
  rfl

theorem readMark {c : Char} {kind : LexemeKind} (marks : Symbols.standard.Marks c kind)
    (place : Place) (rest : List Char) :
    readAt place (c :: rest) =
      ofLexeme (.bare kind c.toString 0) ::
        readAt (placeAfter (.bare kind c.toString 0)) rest := by
  have same : kindAt place (.bare kind c.toString 0) = kind := kindAtOther place marks.fixed
  rw [readAt, Lexeme.scanMark marks, List.map_cons, scanUnplaced]
  exact congrArg (fun kind => ofKind kind _ :: _) same

theorem readProperty (place : Place) (rest : List Char) :
    readAt place ('-' :: '>' :: rest) =
      ofLexeme (.bare .property "->" 0) :: readAt .inside rest := by
  have step : Lexeme.next .standard 0 '-' ('>' :: rest) = (.bare .property "->" 0, rest) := by
    rw [Lexeme.next, if_pos (by simp [Symbols.startsProperty, Symbols.standard])]
    rfl
  rw [readAt, Lexeme.scanFrom, if_neg (by decide), step, List.map_cons, scanUnplaced]
  rfl

theorem readWord {name : String} (spelled : Lexeme.Word name) (place : Place) {rest : List Char}
    (bounds : ∀ c ∈ rest.head?, isWord c = false) :
    readAt place (name.toList ++ rest) =
      ofKind (kindAt place (.bare .command name 0)) (.bare .command name 0) ::
        readAt .inside rest := by
  rw [readAt, Lexeme.scanWord 0 spelled bounds, List.map_cons, scanUnplaced]
  rfl

theorem readName {name : String} (names : Names name) {place : Place} (leads : place ≠ .inside)
    {rest : List Char} (bounds : ∀ c ∈ rest.head?, isWord c = false) :
    readAt place (name.toList ++ rest) =
      ofLexeme (.bare .command name 0) :: readAt .inside rest := by
  have kind : kindAt place (.bare .command name 0) = .command := by
    cases place <;> simp_all [kindAt, Lexeme.bare, names.head]
  rw [readWord names.word place bounds, kind]
  rfl

theorem readLiteral {text : String} (plain : '\'' ∉ text.toList) (place : Place)
    (rest : List Char) :
    readAt place ('\'' :: (text.toList ++ '\'' :: rest)) =
      ofLexeme (literal 0 text) :: readAt .inside rest := by
  rw [readAt, Lexeme.scanLiteral 0 plain, List.map_cons, scanUnplaced]
  cases place <;> rfl

theorem readGroup {group : String}
    (closed : ∀ l ∈ (Lexeme.scan .standard group).getLast?, ¬ l.Unclosed) (place : Place)
    (rest : List Char) :
    readAt place ('\x7b' :: (group.toList ++ '\x7d' :: rest)) =
      ofLexeme (groupOpener 0) :: (readAt .groupStart group.toList ++
        ofLexeme (groupCloser 0) :: readAt .inside rest) := by
  have content : ((Lexeme.scan .standard group).map (Lexeme.moved (· + (0 + 1)))).map
      Lexeme.unplaced = (Lexeme.scanFrom .standard 0 group.toList).map Lexeme.unplaced :=
    List.map_map ..
  rw [readAt, Lexeme.scanBraced 0 closed, List.map_cons, List.map_append, content, List.map_cons,
    scanUnplaced _ _ rest]
  change ofKind (kindAt place (groupOpener 0)) _ :: ofLexemesAt .groupStart _ = _
  rw [kindAtOther place (by exact LexemeKind.noConfusion),
    ofLexemesAppend _ _ (by exact LexemeKind.noConfusion)]
  rfl

theorem closedRead (place : Place) {source : String}
    (last : ∀ t ∈ (readAt place source.toList).getLast?, ¬ t.lexeme.Unclosed) :
    ∀ l ∈ (Lexeme.scan .standard source).getLast?, ¬ l.Unclosed := by
  have lexemes : (readAt place source.toList).map lexeme =
      (Lexeme.scan .standard source).map Lexeme.unplaced := lexemesOf ..
  intro l member unclosed
  have read : ((readAt place source.toList).map lexeme).getLast? = some l.unplaced := by
    rw [lexemes, List.getLast?_map, Option.mem_def.mp member]
    rfl
  rw [List.getLast?_map] at read
  obtain ⟨t, inside, same⟩ := Option.map_eq_some_iff.mp read
  refine last t inside ?_
  rw [same]
  exact unclosed

theorem openAfterMoved (f : Nat → Nat) (opened : List Bracket) (tokens : List Token) :
    openAfter? opened (tokens.map (moved f)) = openAfter? opened tokens := by
  induction tokens generalizing opened with
  | nil => rfl
  | cons token rest ih =>
    have role : (token.moved f).role = token.role := rfl
    rw [List.map_cons, openAfter?, openAfter?, role]
    split <;> simp only [ih]

theorem readBalanced (place : Place) {source : String}
    (balanced : Balanced (ofSource .standard source)) : Balanced (readAt place source.toList) := by
  rw [Balanced, readAt, Lexeme.unplaced, ofLexemesMoved, openAfterMoved, ← openAfterBrackets,
    bracketsOfLexemes, ← bracketsOfLexemes .lineStart, openAfterBrackets]
  exact balanced

end Token

theorem Rpn.ofSourceRead (source : String) :
    (ofSource? .standard source).map (List.map Token.unplaced) =
      ofTokens? (Token.readAt .lineStart source.toList) := by
  rw [← Token.ofSourceRead, Token.unplaced, ofTokensMoved]
  rfl

theorem Phrase.orderRead {phrase : Phrase} {source : String}
    (read : Token.readAt .lineStart source.toList = phrase.tokens) (filled : phrase.tokens ≠ []) :
    (Rpn.ofSource? .standard source).map (List.map Token.unplaced) =
      some (phrase.arranged none) := by
  have regular := Token.readRegular .lineStart source.toList
  rw [read] at regular
  rw [Rpn.ofSourceRead, read, phrase.arrangedLine filled regular]

end LiveConsole
