import LiveConsole.Proofs.Line.Piecewise

/-! An operator between two groups, beside a call of the operator's own command. Read as trees, both
lines have one order of evaluation: it depends on neither of the brackets, nor on whether the
command is spelled out. -/
namespace LiveConsole
open Text
open Lexeme (Names groupOpener groupCloser)

inductive Operator where
  | concatenation
  | property
  | index
  deriving DecidableEq, Repr

namespace Operator

def name : Operator → String
  | concatenation => concatenationName
  | property => propertyName
  | index => indexName

def lead : Operator → String
  | concatenation => "."
  | property => "->"
  | index => "["

def trail : Operator → String
  | concatenation | property => ""
  | index => "]"

def line (operator : Operator) (a b : String) : String :=
  "\x7b" ++ a ++ "\x7d" ++ operator.lead ++ "\x7b" ++ b ++ "\x7d" ++ operator.trail

theorem names (operator : Operator) : Names operator.name := by
  cases operator <;> exact ⟨by decide, List.all_eq_true.mp (by decide), by decide⟩

end Operator

namespace Phrase

def group (content rest : Phrase) : Phrase :=
  .bracketed .group (.ofLexeme (groupOpener 0)) (.ofLexeme (groupCloser 0)) rfl rfl content rest

def command (name : String) (rest : Phrase) : Phrase :=
  .operator (.ofLexeme (.bare .command name 0)) rfl rest

def applied (second : Phrase) : Operator → Phrase
  | .concatenation => .operator (.ofLexeme (.bare .concatenation "." 0)) rfl (group second .done)
  | .property => .operator (.ofLexeme (.bare .property "->" 0)) rfl (group second .done)
  | .index => .bracketed .index (.ofLexeme (.bare .openIndex "[" 0))
      (.ofLexeme (.bare .closeIndex "]" 0)) rfl rfl (group second .done) .done

theorem callArranged (operator : Operator) (first second : Phrase) :
    (group first (second.applied operator)).arranged none =
      (command operator.name (group first (group second .done))).arranged none := by
  cases operator <;> simp [group, command, applied, arranged, Bracket.command, Token.operator,
    Token.synthetic, Token.ofLexeme, Token.ofKind, Lexeme.bare, Token.position, Operator.name]

theorem leftArranged {operator : Operator} (waits : operator ≠ .index) (name : String)
    (first second : Phrase) :
    (command name (group first (second.applied operator))).arranged none =
      (group (command name (group first .done)) (second.applied operator)).arranged none := by
  cases operator <;> simp_all [group, command, applied, arranged, Bracket.command]

end Phrase

/- A line that can stand in a group and leave the brackets around it alone. -/
structure Enclosable (source : String) : Prop where
  closed : ∀ l ∈ (Lexeme.scan .standard source).getLast?, ¬ l.Unclosed
  balanced : Token.Balanced (Token.ofSource .standard source)

structure Spells (source : String) (phrase : Phrase) : Prop where
  closed : ∀ l ∈ (Lexeme.scan .standard source).getLast?, ¬ l.Unclosed
  read : Token.readAt .groupStart source.toList = phrase.tokens

theorem Enclosable.spells {source : String} (enclosable : Enclosable source) :
    ∃ phrase, Spells source phrase := by
  obtain ⟨phrase, read⟩ := Phrase.ofBalanced (Token.readBalanced .groupStart enclosable.balanced)
  exact ⟨phrase, enclosable.closed, read.symm⟩

namespace Spells
open Token (readAt)

variable {a b : String} {first second : Phrase}

theorem readGroup (spells : Spells a first) (place : Token.Place) {chars : List Char}
    {rest : Phrase} (follows : readAt .inside chars = rest.tokens) :
    readAt place ('\x7b' :: (a.toList ++ '\x7d' :: chars)) =
      (Phrase.group first rest).tokens := by
  rw [Token.readGroup spells.closed, spells.read, follows]
  rfl

theorem readApplied (spells : Spells b second) (operator : Operator) :
    readAt .inside (operator.lead.toList ++
        '\x7b' :: (b.toList ++ '\x7d' :: operator.trail.toList)) =
      (second.applied operator).tokens := by
  have ended : readAt .inside [] = Phrase.done.tokens := Token.readEnd .inside
  cases operator with
  | concatenation =>
    refine (Token.readMark Lexeme.dotMarks ..).trans (congrArg (_ :: ·) ?_)
    exact spells.readGroup .inside ended
  | property =>
    refine (Token.readProperty ..).trans (congrArg (_ :: ·) ?_)
    exact spells.readGroup .inside ended
  | index =>
    have opens : Symbols.standard.Marks '[' .openIndex := by constructor <;> decide
    have closes : Symbols.standard.Marks ']' .closeIndex := by constructor <;> decide
    have last : readAt .inside [']'] = [.ofLexeme (.bare .closeIndex "]" 0)] :=
      (Token.readMark closes ..).trans (congrArg (_ :: ·) (Token.readEnd .inside))
    refine (Token.readMark opens ..).trans (congrArg (_ :: ·) ?_)
    refine (Token.readGroup spells.closed .inside [']']).trans ?_
    rw [spells.read, last]
    simp [Phrase.group, Phrase.tokens]

theorem readLine (spellsFirst : Spells a first) (spellsSecond : Spells b second)
    (operator : Operator) (place : Token.Place) :
    readAt place (operator.line a b).toList =
      (Phrase.group first (second.applied operator)).tokens := by
  have chars : (operator.line a b).toList = '\x7b' :: (a.toList ++ '\x7d' ::
      (operator.lead.toList ++ '\x7b' :: (b.toList ++ '\x7d' :: operator.trail.toList))) := by
    simp [Operator.line]
  rw [chars]
  exact spellsFirst.readGroup place (spellsSecond.readApplied operator)

theorem readGroups {groups : List String} {phrases : List Phrase}
    (spells : List.Forall₂ Spells groups phrases) :
    readAt .inside (groupedChars groups) = (phrases.foldr Phrase.group .done).tokens := by
  induction spells with
  | nil => exact Token.readEnd .inside
  | @cons group phrase groups phrases here later ih =>
    have chars : groupedChars (group :: groups) =
        ' ' :: '\x7b' :: (group.toList ++ '\x7d' :: groupedChars groups) := by
      simp [groupedChars]
    rw [chars, Token.readSpace]
    exact here.readGroup .inside ih

theorem readGroupedLine {name : String} (names : Names name) {groups : List String}
    {phrases : List Phrase} (spells : List.Forall₂ Spells groups phrases) {place : Token.Place}
    (leads : place ≠ .inside) :
    readAt place (groupedLine name groups).toList =
      (Phrase.command name (phrases.foldr Phrase.group .done)).tokens := by
  rw [groupedLineChars, Token.readName names leads (groupedBounds groups), readGroups spells]
  rfl

theorem ofGroupedLine {name : String} (names : Names name) (spells : Spells a first) :
    Spells (groupedLine name [a]) (Phrase.command name (Phrase.group first .done)) := by
  have read : readAt .groupStart (groupedLine name [a]).toList = _ :=
    readGroupedLine names (.cons spells .nil) Token.Place.noConfusion
  have ends : (Phrase.command name (Phrase.group first .done)).tokens =
      .ofLexeme (.bare .command name 0) :: .ofLexeme (groupOpener 0) :: first.tokens ++
        [.ofLexeme (groupCloser 0)] := rfl
  refine ⟨Token.closedRead .groupStart fun t last => ?_, read⟩
  rw [read, List.foldr_cons, List.foldr_nil, ends, List.getLast?_concat] at last
  cases Option.some.inj last
  exact fun unclosed => LexemeKind.noConfusion unclosed.1

end Spells
end LiveConsole
