import LiveConsole.Proofs.Line.Boundary
import LiveConsole.Proofs.Line.Conservation
import LiveConsole.Proofs.Line.Phrase

/-! A command followed by lines in groups. Each line keeps its tokens and their order of
evaluation, at the place where its group stands; the command comes after all of them. -/
namespace LiveConsole
open Text
open String (utf8Len)

def groupedLine (name : String) (groups : List String) : String :=
  name ++ String.join (groups.map fun group => " \x7b" ++ group ++ "\x7d")

def groupedChars (groups : List String) : List Char :=
  groups.flatMap fun group => ' ' :: '\x7b' :: (group.toList ++ ['\x7d'])

theorem groupedLineChars (name : String) (groups : List String) :
    (groupedLine name groups).toList = name.toList ++ groupedChars groups := by
  simp [groupedLine, groupedChars, String.toList_join, List.flatMap_map]

theorem groupedBounds (groups : List String) :
    ∀ c ∈ (groupedChars groups).head?, isWord c = false := by
  cases groups with
  | nil => simp [groupedChars]
  | cons group rest =>
    intro c head
    cases Option.some.inj head
    decide

namespace Lexeme

def groupOpener (position : Nat) : Lexeme := .bare .openGroup "\x7b" position

def groupCloser (position : Nat) : Lexeme := .bare .closeGroup "\x7d" position

theorem scanSpace (position : Nat) (rest : List Char) :
    scanFrom .standard position (' ' :: rest) = scanFrom .standard (position + 1) rest := by
  rw [scanFrom, if_pos (by decide)]
  rfl

end Lexeme

structure Symbols.Marks (symbols : Symbols) (c : Char) (kind : LexemeKind) : Prop where
  solid : isBlank c = false
  boundary : isWord c = false ∧ c ∉ symbols.property.toList
  plain : c ∉ [symbols.variableSigil, symbols.globalSigil, symbols.quote]
  single : Lexeme.singleKind symbols c = kind

theorem Symbols.Marks.fixed {symbols : Symbols} {c : Char} {kind : LexemeKind}
    (marks : symbols.Marks c kind) : kind ≠ .command := by
  rintro rfl
  have letter := Lexeme.singleKindCommand marks.single
  rw [marks.boundary.1] at letter
  contradiction

theorem Symbols.Marks.bounds {symbols : Symbols} {c : Char} {kind : LexemeKind}
    (marks : symbols.Marks c kind) (rest : List Char) : symbols.Bounds (c :: rest) := by
  intro first head
  cases Option.some.inj head
  exact marks.boundary

namespace Lexeme

theorem scanMark {symbols : Symbols} {c : Char} {kind : LexemeKind} (marks : symbols.Marks c kind)
    (position : Nat) (rest : List Char) :
    scanFrom symbols position (c :: rest) =
      bare kind c.toString position :: scanFrom symbols (position + c.utf8Size) rest := by
  have plain := marks.plain
  simp only [List.mem_cons, List.not_mem_nil, or_false, not_or] at plain
  have starts : symbols.startsProperty (c :: rest) = false := by
    refine Bool.eq_false_iff.mpr fun property => marks.boundary.2 ?_
    obtain ⟨others, letters, -⟩ := (Symbols.startsPropertyIff.mp property).spelled
    rw [letters]
    exact List.mem_cons_self
  have alone : next symbols position c rest = (bare kind c.toString position, rest) := by
    rw [next, if_neg (by simp [starts]), if_neg plain.1, if_neg plain.2.1, if_neg plain.2.2,
      marks.single]
    split
    · exact absurd rfl marks.fixed
    · rfl
  have stop : (bare kind c.toString position).stop = position + c.utf8Size := by
    simp [stopEq, bare, text]
  rw [scanFrom, if_neg (by simp [marks.solid]), alone]
  dsimp only
  rw [stop]

theorem openerMarks : Symbols.standard.Marks '\x7b' .openGroup := by constructor <;> decide

theorem closerMarks : Symbols.standard.Marks '\x7d' .closeGroup := by constructor <;> decide

theorem dotMarks : Symbols.standard.Marks '.' .concatenation := by constructor <;> decide

theorem scanOpener (position : Nat) (rest : List Char) :
    scanFrom .standard position ('\x7b' :: rest) =
      groupOpener position :: scanFrom .standard (position + 1) rest :=
  scanMark openerMarks position rest

theorem scanCloser (position : Nat) (rest : List Char) :
    scanFrom .standard position ('\x7d' :: rest) =
      groupCloser position :: scanFrom .standard (position + 1) rest :=
  scanMark closerMarks position rest

theorem nextWord (position : Nat) {c : Char} (rest : List Char) (letter : isWord c = true) :
    next .standard position c rest = word .command "" position (c :: rest) := by
  have other : ∀ d, isWord d = false → c ≠ d := by
    rintro d symbol rfl
    rw [symbol] at letter
    contradiction
  have kind : singleKind .standard c = .command := by
    simp [singleKind, Symbols.standard, letter, other '\x7b' (by decide), other '\x7d' (by decide),
      other '[' (by decide), other ']' (by decide), other '.' (by decide)]
  have plain : Symbols.standard.startsProperty (c :: rest) = false := by
    simp [Symbols.startsProperty, Symbols.standard, List.isPrefixOf, (other '-' (by decide)).symm]
  have sigil : c ≠ Symbols.standard.variableSigil := other '$' (by decide)
  have globalSigil : c ≠ Symbols.standard.globalSigil := other '@' (by decide)
  have quote : c ≠ Symbols.standard.quote := other '\'' (by decide)
  simp [next, plain, sigil, globalSigil, quote, kind]

structure Word (name : String) : Prop where
  filled : name ≠ ""
  letters : ∀ c ∈ name.toList, isWord c = true

structure Names (name : String) : Prop where
  filled : name ≠ ""
  letters : ∀ c ∈ name.toList, isWord c = true
  head : name.toList.head?.any Char.isDigit = false

theorem Names.word {name : String} (names : Names name) : Word name :=
  ⟨names.filled, names.letters⟩

theorem scanWord (position : Nat) {name : String} (spelled : Word name) {rest : List Char}
    (bounds : ∀ c ∈ rest.head?, isWord c = false) :
    scanFrom .standard position (name.toList ++ rest) =
      bare .command name position :: scanFrom .standard (position + utf8Len name.toList) rest := by
  have stop : (bare .command name position).stop = position + utf8Len name.toList := by
    simp [stopEq, bare, text]
  have whole : word .command "" position (name.toList ++ rest) =
      (bare .command name position, rest) := by
    rw [wordAppend _ _ _ _ bounds]
    simp [word, bare, List.takeWhile_eq_self_iff.mpr spelled.letters,
      List.dropWhile_eq_nil_iff.mpr spelled.letters]
  cases chars : name.toList with
  | nil => exact absurd (by simpa using chars) spelled.filled
  | cons c others =>
    have letter : isWord c = true := spelled.letters c (by rw [chars]; exact List.mem_cons_self)
    rw [chars, List.cons_append] at whole
    rw [chars] at stop
    rw [List.cons_append, scanFrom, if_neg (by simp [wordNotBlank letter]), nextWord _ _ letter,
      whole]
    dsimp only
    rw [stop]

/- What a line must be to mean the same in a group: a first word that is a command stays one, and
its last quote is closed. -/
structure Standalone (source : String) : Prop where
  head : ∀ l ∈ (scan .standard source).head?,
    ¬ (l.kind = .command ∧ l.value.toList.head?.any Char.isDigit = true)
  closed : ∀ l ∈ (scan .standard source).getLast?, ¬ l.Unclosed

theorem scanBraced (position : Nat) {group : String}
    (closed : ∀ l ∈ (scan .standard group).getLast?, ¬ l.Unclosed) (rest : List Char) :
    scanFrom .standard position ('\x7b' :: (group.toList ++ '\x7d' :: rest)) =
      groupOpener position ::
        ((scan .standard group).map (moved (· + (position + 1))) ++
          groupCloser (position + 1 + utf8Len group.toList) ::
            scanFrom .standard (position + 2 + utf8Len group.toList) rest) := by
  have inside : scanFrom .standard (position + 1) group.toList =
      (scan .standard group).map (moved (· + (position + 1))) := by
    have shifted := scanFromMoved .standard 0 (position + 1) group.toList
    rwa [Nat.zero_add] at shifted
  have ends : ∀ l ∈ (scanFrom .standard (position + 1) group.toList).getLast?, ¬ l.Unclosed := by
    rw [inside, List.getLast?_map]
    intro l last
    obtain ⟨original, member, rfl⟩ := Option.map_eq_some_iff.mp last
    exact closed original member
  rw [scanOpener, scanFromAppend (closerMarks.bounds rest) ends, inside, scanCloser]
  congr 4
  omega

theorem scanGroup (position : Nat) {group : String}
    (closed : ∀ l ∈ (scan .standard group).getLast?, ¬ l.Unclosed) (rest : List Char) :
    scanFrom .standard position (' ' :: '\x7b' :: (group.toList ++ '\x7d' :: rest)) =
      groupOpener (position + 1) ::
        ((scan .standard group).map (moved (· + (position + 2))) ++
          groupCloser (position + 2 + utf8Len group.toList) ::
            scanFrom .standard (position + 3 + utf8Len group.toList) rest) :=
  (scanSpace ..).trans (scanBraced (position + 1) closed rest)

end Lexeme

namespace Token
open Lexeme (groupOpener groupCloser Names Standalone)

theorem ofLexemesAppend (place : Place) (front : List Lexeme) {l : Lexeme}
    (fixed : l.kind ≠ .command) (back : List Lexeme) :
    ofLexemesAt place (front ++ l :: back) =
      ofLexemesAt place front ++ ofLexeme l :: ofLexemesAt (placeAfter l) back := by
  induction front generalizing place with
  | nil => simp [ofLexemesAt, ofLexeme, kindAtOther place fixed]
  | cons first others ih => simp [ofLexemesAt, ih]

theorem groupStartEq {lexemes : List Lexeme} (head : ∀ l ∈ lexemes.head?,
      ¬ (l.kind = .command ∧ l.value.toList.head?.any Char.isDigit = true)) :
    ofLexemesAt .groupStart lexemes = ofLexemesAt .lineStart lexemes := by
  cases lexemes with
  | nil => rfl
  | cons l rest =>
    have same : kindAt .groupStart l = kindAt .lineStart l := by
      have head := head l rfl
      unfold kindAt
      cases kind : l.kind <;> first | rfl | simp_all
    simp [ofLexemesAt, same]

def groupTokens : Nat → List String → List Token
  | _, [] => []
  | position, group :: rest =>
      ofLexeme (groupOpener (position + 1)) ::
        ((ofSource .standard group).map (moved (· + (position + 2))) ++
          ofLexeme (groupCloser (position + 2 + utf8Len group.toList)) ::
            groupTokens (position + 3 + utf8Len group.toList) rest)

theorem ofGroupedChars (position : Nat) {groups : List String}
    (standalone : ∀ group ∈ groups, Standalone group) :
    ofLexemesAt .inside (Lexeme.scanFrom .standard position (groupedChars groups)) =
      groupTokens position groups := by
  induction groups generalizing position with
  | nil => simp [groupedChars, Lexeme.scanFrom, ofLexemesAt, groupTokens]
  | cons group rest ih =>
    simp only [List.mem_cons, forall_eq_or_imp] at standalone
    have chars : groupedChars (group :: rest) =
        ' ' :: '\x7b' :: (group.toList ++ '\x7d' :: groupedChars rest) := by
      simp [groupedChars]
    have head := groupStartEq standalone.1.head
    rw [chars, Lexeme.scanGroup position standalone.1.closed, groupTokens, ← ih _ standalone.2]
    change ofLexeme _ :: ofLexemesAt .groupStart _ = _
    rw [ofLexemesAppend _ _ (by exact LexemeKind.noConfusion), ofLexemesMoved, head]
    rfl

theorem ofGroupedLine {name : String} (names : Names name) {groups : List String}
    (standalone : ∀ group ∈ groups, Standalone group) :
    ofSource .standard (groupedLine name groups) =
      ofLexeme (.bare .command name 0) :: groupTokens (utf8Len name.toList) groups := by
  have kind : kindAt .lineStart (.bare .command name 0) = .command := by
    simp [kindAt, Lexeme.bare, names.head]
  rw [ofSource, Lexeme.scan, groupedLineChars,
    Lexeme.scanWord 0 names.word (groupedBounds groups), ofLexemes, ofLexemesAt, kind,
    Nat.zero_add, ← ofGroupedChars _ standalone]
  rfl

theorem ofLexemesRegular (place : Place) (lexemes : List Lexeme) :
    ∀ t ∈ ofLexemesAt place lexemes, t.priority = t.kind.priority := by
  induction lexemes generalizing place with
  | nil => simp [ofLexemesAt]
  | cons l rest ih =>
    intro t member
    rcases List.mem_cons.mp member with rfl | member
    · rfl
    · exact ih _ t member

end Token

namespace Rpn
open Token (moved groupTokens)

theorem arrangeGroup {opener closer : Token} (opens : opener.role = .opens .group)
    (closes : closer.role = .closes .group) {tokens arranged : List Token}
    (regular : ∀ t ∈ tokens, t.priority = t.kind.priority)
    (order : ofTokens? tokens = some arranged) (free : ∀ t ∈ arranged, t.isBarrier = false)
    (operators rest : List Token) :
    arrange? operators (opener :: (tokens ++ closer :: rest)) =
      (arrange? operators rest).map (arranged ++ ·) := by
  obtain ⟨phrase, rfl⟩ := Phrase.ofBalanced (balancedOfArranged order free)
  have filled : phrase.tokens ≠ [] := by
    intro empty
    rw [empty] at order
    contradiction
  have same : phrase.arranged none = arranged :=
    Option.some.inj ((phrase.arrangedLine filled regular).symm.trans order)
  have within := Phrase.arrangePhrase phrase regular (Phrase.shieldedOpener opens operators)
    (Phrase.flushesCloser opens closes operators rest) none (by simp)
  rw [Option.toList_none, List.nil_append] at within
  rw [arrangeOpens opens, within, same]
  simp [Bracket.command]

def arrangedGroups : Nat → List String → List Token
  | _, [] => []
  | position, group :: rest =>
      ((ofSource? .standard group).getD []).map (moved (· + (position + 2))) ++
        arrangedGroups (position + 3 + utf8Len group.toList) rest

theorem arrangeGroups (operators : List Token) (position : Nat) {groups : List String}
    (ordered : ∀ group ∈ groups, ∃ arranged, ofSource? .standard group = some arranged ∧
      ∀ t ∈ arranged, t.isBarrier = false) :
    arrange? operators (groupTokens position groups) =
      some (arrangedGroups position groups ++ operators) := by
  induction groups generalizing position with
  | nil => rfl
  | cons group rest ih =>
    simp only [List.mem_cons, forall_eq_or_imp] at ordered
    obtain ⟨⟨arranged, order, free⟩, later⟩ := ordered
    let shift := moved (· + (position + 2))
    have movedOrder : ofTokens? ((Token.ofSource .standard group).map shift) =
        some (arranged.map shift) := by
      rw [ofTokensMoved]
      exact congrArg _ order
    have regular : ∀ t ∈ (Token.ofSource .standard group).map shift,
        t.priority = t.kind.priority := by
      intro t member
      obtain ⟨original, inside, rfl⟩ := List.mem_map.mp member
      exact Token.ofLexemesRegular .lineStart _ original inside
    have movedFree : ∀ t ∈ arranged.map shift, t.isBarrier = false := by
      intro t member
      obtain ⟨original, inside, rfl⟩ := List.mem_map.mp member
      exact free original inside
    rw [groupTokens, arrangeGroup rfl rfl regular movedOrder movedFree, ih _ later, arrangedGroups,
      order]
    simp [shift]

theorem ofGroupedLine {name : String} (names : Lexeme.Names name) {groups : List String}
    (standalone : ∀ group ∈ groups, Lexeme.Standalone group)
    (ordered : ∀ group ∈ groups, ∃ arranged, ofSource? .standard group = some arranged ∧
      ∀ t ∈ arranged, t.isBarrier = false) :
    ofSource? .standard (groupedLine name groups) =
      some (arrangedGroups (utf8Len name.toList) groups ++
        [Token.ofLexeme (.bare .command name 0)]) := by
  have command : (Token.ofLexeme (.bare .command name 0)).role = .operator := rfl
  rw [ofSource?, Token.ofGroupedLine names standalone, ofTokens?, if_neg (by simp),
    arrangeOperator command]
  exact congrArg _ (arrangeGroups _ _ ordered)

end Rpn
end LiveConsole
