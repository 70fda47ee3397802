import LiveConsole.Number.Reading
import LiveConsole.Text.Classes
import LiveConsole.Value

/-! Conversions between types, and the choice of the best one. -/
namespace LiveConsole

def bestOf? {α β : Type} (beats : β → β → Bool) : List (β × α) → Option (β × α)
  | [] => none
  | first :: rest =>
      match bestOf? beats rest with
      | none => some first
      | some best => if beats best.1 first.1 then some best else some first

structure Converter (σ : Type) where
  target : TypeTag
  source : TypeTag
  isBuiltin : Bool
  run : σ → Value → TypeTag → TypeTable → Option Value × σ

structure ConverterRank where
  source : Nat
  target : Nat
  deriving DecidableEq, Repr

def ConverterRank.beats (a b : ConverterRank) : Bool :=
  a.source < b.source || (a.source == b.source && a.target < b.target)

namespace Converter

variable {σ : Type}

def rank? (c : Converter σ) (types : TypeTable) (requested actual : TypeTag) :
    Option ConverterRank := do
  let target ← types.distance? c.target requested
  let source ← types.distance? c.source actual
  some ⟨source, target⟩

def best? (converters : List (Converter σ)) (types : TypeTable) (requested actual : TypeTag) :
    Option (Converter σ) :=
  (bestOf? ConverterRank.beats (converters.filterMap fun c =>
    (c.rank? types requested actual).map fun rank => (rank, c))).map Prod.snd

def plain (target source : TypeTag) (run : TypeTable → Value → Option Value) : Converter σ :=
  ⟨target, source, true, fun host value _ types => (run types value, host)⟩

def boolOfText? (text : String) : Option Bool :=
  let word := String.ofList ((Text.trim text.toList).map Char.toLower)
  if word = "true" ∨ word = "1" ∨ word = "yes" then some true
  else if word = "false" ∨ word = "0" ∨ word = "no" then some false
  else none

def intOfText? (text : String) : Option Int64 := Number.readInt64? (Text.trim text.toList)

def floatOfText? (text : String) : Option Float := Number.readFloat? (Text.trim text.toList)

variable [Host σ]

def builtins : List (Converter σ) := [
  plain .int .string fun _ value => value.text?.bind fun text => (intOfText? text).map .int,
  plain .float .string fun _ value => value.text?.bind fun text => (floatOfText? text).map .float,
  plain .bool .string fun _ value => value.text?.bind fun text => (boolOfText? text).map .bool,
  plain .float .int fun _ value => value.int?.map fun i => .float i.toFloat,
  plain .type .string fun types value => value.text?.bind fun text =>
    (types.resolve? text).map .type,
  ⟨.string, .object, true, fun host value _ _ => (some (.string (value.display host)), host)⟩]

end Converter
end LiveConsole
