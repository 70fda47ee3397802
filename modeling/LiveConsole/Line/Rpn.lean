import LiveConsole.Line.Token

/-! Tokens in the order of evaluation: operands before the command that takes them. The operators
`.`, `->` and `[ ]` become commands of their own. -/
namespace LiveConsole

def concatenationName : String := "__builtin_concat"
def indexName : String := "__builtin_index"
def propertyName : String := "__builtin_getproperty"

namespace Rpn

def release (priority : Nat) (operators : List Token) : List Token × List Token :=
  operators.span fun operator => !operator.isBarrier && priority ≤ operator.priority

def unwind? (opener : LexemeKind) : List Token → Option (List Token × Token × List Token)
  | [] => none
  | operator :: rest =>
      if operator.isBarrier then
        if operator.kind = opener then some ([], operator, rest) else none
      else (unwind? opener rest).map fun (above, bracket, below) =>
        (operator :: above, bracket, below)

/- The order of evaluation of the tokens still to come, with the operators that wait for their
operands, the latest first. -/
def arrange? : List Token → List Token → Option (List Token)
  | operators, [] => some operators
  | operators, token :: rest =>
      match token.kind with
      | .string | .variable | .global | .invalid =>
          (arrange? operators rest).map fun later => token :: later
      | .command =>
          let (released, kept) := release token.priority operators
          (arrange? (token :: kept) rest).map fun later => released ++ later
      | .concatenation =>
          let (released, kept) := release token.priority operators
          (arrange? (.synthetic concatenationName token.position :: kept) rest).map
            fun later => released ++ later
      | .property =>
          let (released, kept) := release token.priority operators
          (arrange? (.synthetic propertyName token.position :: kept) rest).map
            fun later => released ++ later
      | .openGroup | .openIndex => arrange? (token :: operators) rest
      | .closeGroup =>
          (unwind? .openGroup operators).bind fun (above, _, below) =>
            (arrange? below rest).map fun later => above ++ later
      | .closeIndex =>
          (unwind? .openIndex operators).bind fun (above, bracket, below) =>
            (arrange? below rest).map fun later =>
              above ++ .synthetic indexName bracket.position :: later

def ofTokens? (tokens : List Token) : Option (List Token) :=
  if tokens.isEmpty then none else arrange? [] tokens

def ofSource? (symbols : Symbols) (source : String) : Option (List Token) :=
  ofTokens? (Token.ofSource symbols source)

end Rpn
end LiveConsole
