import LiveConsole.Json.Basic
import LiveConsole.Line.Scan

/-! Lexemes in their places. A bare word is a command where a command can stand, at the start of
the line or right after an opened group; anywhere else it is a literal. -/
namespace LiveConsole

structure Token where
  kind : LexemeKind
  lexeme : Lexeme
  priority : Nat
  deriving DecidableEq, Repr

namespace Token

def ofKind (kind : LexemeKind) (lexeme : Lexeme) : Token := ⟨kind, lexeme, kind.priority⟩

def ofLexeme (lexeme : Lexeme) : Token := ofKind lexeme.kind lexeme

def synthetic (name : String) (position : Nat) : Token :=
  ofLexeme (.bare .command name position)

def value (t : Token) : String := t.lexeme.value

def position (t : Token) : Nat := t.lexeme.position

def stop (t : Token) : Nat := t.lexeme.stop

def isBarrier (t : Token) : Bool := t.kind.isBarrier

def holds (t : Token) (cursor : Nat) : Bool := t.position ≤ cursor && cursor ≤ t.stop

/- Tokens are told apart by kind, position and priority, and never by their text. -/
def sameAs (a b : Token) : Bool :=
  a.kind == b.kind && a.lexeme.sameAs b.lexeme && a.priority == b.priority

def display (t : Token) : String :=
  t.kind.name ++ ":" ++ toString t.position ++ ": " ++ t.value

inductive Place where
  | lineStart
  | groupStart
  | inside
  deriving DecidableEq, Repr

/- A word that starts with a digit is no command at the start of a line, but it is one right
after an opened group. -/
def kindAt (place : Place) (lexeme : Lexeme) : LexemeKind :=
  match lexeme.kind, place with
  | .command, .groupStart => .command
  | .command, .lineStart =>
      if lexeme.value.toList.head?.any Char.isDigit then .string else .command
  | .command, .inside => .string
  | kind, _ => kind

def placeAfter (lexeme : Lexeme) : Place :=
  if lexeme.kind = .openGroup then .groupStart else .inside

def ofLexemesAt : Place → List Lexeme → List Token
  | _, [] => []
  | place, lexeme :: rest =>
      ofKind (kindAt place lexeme) lexeme :: ofLexemesAt (placeAfter lexeme) rest

def ofLexemes (lexemes : List Lexeme) : List Token := ofLexemesAt .lineStart lexemes

def ofSource (symbols : Symbols) (source : String) : List Token :=
  ofLexemes (Lexeme.scan symbols source)

end Token

def Lexeme.toJson (l : Lexeme) : Json :=
  .record [("kind", .string l.kind.name), ("value", .string l.value),
    ("position", .ofNat l.position), ("prefix", .string l.lead), ("suffix", .string l.trail)]

def Token.toJson (t : Token) : Json :=
  .record [("kind", .string t.kind.name), ("lexeme", t.lexeme.toJson),
    ("priority", .ofNat t.priority)]

end LiveConsole
