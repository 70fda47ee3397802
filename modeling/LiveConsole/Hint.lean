import LiveConsole.Engine

/-! Hints while a line is typed: which command, and which of its slots, the cursor is in. Nothing
is invoked; the stack holds tokens in place of the values that they would come to. -/
namespace LiveConsole

/- Slot zero is the command's name or target, and the others are its parameters by number. -/
structure Hint (σ : Type) where
  command : Command σ
  slot : Nat
  token : Token

namespace Hint

/- Where the cursor is. After the end of a group the token is the group's first one, and the hint
is for whatever takes the group's result. -/
structure Located where
  token : Token
  isClosed : Bool
  deriving DecidableEq, Repr

structure Search where
  candidate : Option Token
  isClosed : Bool
  heads : List (Option Token)
  deriving DecidableEq, Repr

namespace Search

def start : Search := ⟨none, false, []⟩

def found (search : Search) (token : Token) : Search :=
  let heads := match search.heads with
    | none :: outer => some token :: outer
    | heads => heads
  ⟨some token, false, heads⟩

def advance (search : Search) (cursor : Nat) (token : Token) : Search :=
  match token.kind with
  | .openGroup => ⟨none, false, none :: search.heads⟩
  | .closeGroup =>
      if token.position < cursor then
        match search.heads with
        | head :: outer => ⟨head, true, outer⟩
        | [] => search
      else search
  | .command | .variable | .global | .string => search.found token
  | _ => search

end Search

def upTo (cursor : Nat) (tokens : List Token) : List Token :=
  tokens.takeWhile fun token => token.position ≤ cursor

def Search.ofTokens (tokens : List Token) (cursor : Nat) : Search :=
  (upTo cursor tokens).foldl (fun search token => Search.advance search cursor token) Search.start

def locate? (tokens : List Token) (cursor : Nat) : Option Located :=
  let search := Search.ofTokens tokens cursor
  search.candidate.map fun token => ⟨token, search.isClosed⟩

variable {σ : Type}

/- Follows the token that the cursor is in through the order of evaluation. `inside` is that token
or the hidden operator that took it, and `isClosed` keeps a group's head from being hinted for
itself. Operands that are not typed yet come later in the source, so those on the stack fill the
leading parameters. -/
def follow? (registry : Registry σ) (located : Token) (isClosed : Bool) :
    Token → List Token → List Token → Option (Hint σ)
  | _, _, [] => none
  | inside, stack, token :: rest =>
      if token.kind ≠ .command then
        follow? registry located isClosed inside
          (if token.isBarrier then stack else token :: stack) rest
      else
        match registry.command? token.value with
        | none => none
        | some command =>
            if token.sameAs inside && !isClosed && !command.hidden then some ⟨command, 0, located⟩
            else
              let operands := (stack.take command.arity).reverse
              let below := stack.drop command.arity
              let taken := operands.findIdx? fun operand => operand.sameAs inside
              let isOperator := command.isBuiltin && command.hidden
              match taken, isOperator with
              | some i, false => some ⟨command, i + 1, located⟩
              | _, _ =>
                  let inside := if taken.isSome then token else inside
                  if command.takesTarget && command.arity ≤ stack.length then
                    match below with
                    | target :: below =>
                        if target.sameAs inside then some ⟨command, 0, located⟩
                        else follow? registry located isClosed inside (token :: below) rest
                    | [] => follow? registry located isClosed inside [token] rest
                  else follow? registry located isClosed inside (token :: below) rest

def ofTokens? (registry : Registry σ) (tokens : List Token) (cursor : Nat) : Option (Hint σ) :=
  match locate? tokens cursor, Rpn.ofTokens? tokens with
  | some located, some arranged =>
      follow? registry located.token located.isClosed located.token [] arranged
  | _, _ => none

def notes (tokens : List Token) (cursor : Nat) : List Note :=
  match locate? tokens cursor, Rpn.ofTokens? tokens with
  | some _, some arranged => [.arranged arranged]
  | _, _ => []

def text (hint : Hint σ) (types : TypeTable) : String :=
  hint.command.syntaxHint types (some hint.slot)

def toJson (hint : Hint σ) (types : TypeTable) : Json :=
  .record [("command", .string hint.command.name), ("slot", .ofNat hint.slot),
    ("token", hint.token.toJson), ("hint", .string (hint.text types))]

end Hint

namespace Engine

variable {σ : Type}

def hint? (engine : Engine σ) (source : String) (cursor : Nat) : Option (Hint σ) :=
  if engine.registry.isEnabled then
    Hint.ofTokens? engine.registry (Token.ofSource engine.symbols source) cursor
  else none

def hintNotes (engine : Engine σ) (source : String) (cursor : Nat) : List Note :=
  if engine.registry.isEnabled then
    .lexed (Lexeme.scan engine.symbols source) ::
      Hint.notes (Token.ofSource engine.symbols source) cursor
  else []

end Engine
end LiveConsole
