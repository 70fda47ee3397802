import LiveConsole.Json.Basic
import LiveConsole.TypeTable

/-! The values that a console line computes with. Host objects stay with the host: a value holds
a reference, and the host answers what the object looks like now. -/
namespace LiveConsole

structure ObjectRef where
  id : Nat
  className : String
  deriving DecidableEq, Repr

inductive Value where
  | null
  | bool (value : Bool)
  | int (value : Int64)
  | float (value : Float)
  | string (text : String)
  | list (items : List Value)
  | type (ref : TypeRef)
  | object (ref : ObjectRef)

class Host (σ : Type) where
  displayName : σ → ObjectRef → String
  property? : σ → ObjectRef → String → Option Value
  propertyNames : σ → ObjectRef → List String
  element? : σ → ObjectRef → Int64 → Option Value

namespace Value

def isNull : Value → Bool
  | .null => true
  | _ => false

def text? : Value → Option String
  | .string text => some text
  | _ => none

def int? : Value → Option Int64
  | .int value => some value
  | _ => none

def float? : Value → Option Float
  | .float value => some value
  | .int value => some value.toFloat
  | _ => none

def type? : Value → Option TypeRef
  | .type ref => some ref
  | _ => none

mutual

def sameAs : Value → Value → Bool
  | .null, .null => true
  | .bool a, .bool b => a == b
  | .int a, .int b => a == b
  | .float a, .float b => a == b
  | .string a, .string b => a == b
  | .list as, .list bs => sameItems as bs
  | .type a, .type b => a.tag == b.tag
  | .object a, .object b => a.id == b.id
  | _, _ => false

def sameItems : List Value → List Value → Bool
  | [], [] => true
  | a :: as, b :: bs => sameAs a b && sameItems as bs
  | _, _ => false

end

variable {σ : Type} [Host σ]

mutual

def display (host : σ) : Value → String
  | .null => "null"
  | .bool value => if value then "true" else "false"
  | .int value => toString value.toInt
  | .float value => Number.plainText value
  | .string text => text
  | .list items => "[" ++ ", ".intercalate (displayItems host items) ++ "]"
  | .type ref => ref.name
  | .object ref => Host.displayName host ref

def displayItems (host : σ) : List Value → List String
  | [] => []
  | item :: rest => display host item :: displayItems host rest

end

mutual

def toJson (host : σ) : Value → Json
  | .null => .null
  | .bool value => .bool value
  | .int value => .ofInt value.toInt
  | .float value => .ofFloat value
  | .string text => .string text
  | .list items => .array (jsonItems host items)
  | .type ref => .string ref.name
  | .object ref => .string (Host.displayName host ref)

def jsonItems (host : σ) : List Value → List Json
  | [] => []
  | item :: rest => toJson host item :: jsonItems host rest

end

end Value

namespace TypeTable

def tagOf? (table : TypeTable) : Value → Option TypeTag
  | .null => none
  | .bool _ => some .bool
  | .int _ => some .int
  | .float _ => some .float
  | .string _ => some .string
  | .list _ => some .list
  | .type _ => some .type
  | .object ref => some ((table.lookup? ref.className).getD .object)

def accepts (table : TypeTable) (target : TypeTag) (value : Value) : Bool :=
  match table.tagOf? value with
  | some actual => table.isAssignable target actual
  | none => true

end TypeTable
end LiveConsole
