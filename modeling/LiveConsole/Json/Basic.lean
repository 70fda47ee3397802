import LiveConsole.Number.Layout

/-! JSON documents. A number is kept as its literal, so that one document has one text. -/
namespace LiveConsole

inductive Json where
  | null
  | bool (value : Bool)
  | number (literal : String)
  | string (text : String)
  | array (items : List Json)
  | object (members : List (String × Json))
  deriving Repr, Inhabited

namespace Json

def ofNat (n : Nat) : Json := .number (toString n)

def ofInt (i : Int) : Json := .number (toString i)

def ofFloat (x : Float) : Json :=
  match Number.jsonText? x with
  | some literal => .number literal
  | none => .null

def ofOption {α : Type} (encode : α → Json) : Option α → Json
  | some value => encode value
  | none => .null

def strings (texts : List String) : Json := .array (texts.map .string)

def record (members : List (String × Json)) : Json :=
  .object (members.mergeSort fun a b => decide (a.1 ≤ b.1))

def member? (name : String) : Json → Option Json
  | .object members => members.lookup name
  | _ => none

end Json
end LiveConsole
