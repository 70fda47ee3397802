/-! The smallest spans of a console line that have a meaning of their own. -/
namespace LiveConsole

inductive LexemeKind where
  | invalid
  | command
  | string
  | openGroup
  | closeGroup
  | openIndex
  | closeIndex
  | variable
  | global
  | concatenation
  | property
  deriving DecidableEq, Repr

namespace LexemeKind

def all : List LexemeKind :=
  [.invalid, .command, .string, .openGroup, .closeGroup, .openIndex, .closeIndex, .variable,
    .global, .concatenation, .property]

def name : LexemeKind → String
  | .invalid => "Invalid"
  | .command => "Command"
  | .string => "String"
  | .openGroup => "OpenInline"
  | .closeGroup => "CloseInline"
  | .openIndex => "OpenIndex"
  | .closeIndex => "CloseIndex"
  | .variable => "Identifier"
  | .global => "SpecialIdentifier"
  | .concatenation => "Concatenation"
  | .property => "GetProperty"

def priority : LexemeKind → Nat
  | .invalid | .string | .variable | .global => 0
  | .command | .concatenation | .property => 1
  | .openIndex | .closeIndex => 2
  | .openGroup | .closeGroup => 3

def isOperand : LexemeKind → Bool
  | .string | .variable | .global => true
  | _ => false

def isBarrier : LexemeKind → Bool
  | .openGroup | .openIndex => true
  | _ => false

end LexemeKind

/- A span of the source. `lead` and `trail` are the sigils and quotes around `value`, and
`position` counts the bytes of UTF-8 before the span. -/
structure Lexeme where
  kind : LexemeKind
  value : String
  position : Nat
  lead : String
  trail : String
  deriving DecidableEq, Repr

namespace Lexeme

def bare (kind : LexemeKind) (value : String) (position : Nat) : Lexeme :=
  ⟨kind, value, position, "", ""⟩

def text (l : Lexeme) : String := l.lead ++ l.value ++ l.trail

def isEmpty (l : Lexeme) : Bool := l.lead.isEmpty && l.value.isEmpty && l.trail.isEmpty

def stop (l : Lexeme) : Nat := l.position + l.text.utf8ByteSize

def sameAs (a b : Lexeme) : Bool := a.kind == b.kind && a.position == b.position

end Lexeme
end LiveConsole
