import LiveConsole.Converter
import LiveConsole.Journal

/-! Descriptions of values, line by line. -/
namespace LiveConsole

structure Presenter (σ : Type) where
  type : TypeTag
  lines : σ → Value → TypeTable → List String × σ

namespace Presenter

variable {σ : Type}

def best? (presenters : List (Presenter σ)) (types : TypeTable) (actual : TypeTag) :
    Option (Presenter σ) :=
  (bestOf? (fun a b => decide (a < b)) (presenters.filterMap fun p =>
    (types.distance? p.type actual).map fun distance => (distance, p))).map Prod.snd

def entries (lines : List String) : List LogEntry :=
  if lines.isEmpty then [] else [⟨.log, "\n".intercalate lines⟩]

variable [Host σ]

def listLines (host : σ) : Value → List String
  | .list items =>
      ("list (" ++ toString items.length ++ " items)") :: items.mapIdx fun i item =>
        "  [" ++ toString i ++ "] " ++ item.display host
  | _ => []

def typeLines (types : TypeTable) : Value → List String
  | .type ref => ["type " ++ ref.name,
      "  lineage: " ++ " > ".intercalate ((types.lineage ref.tag).map types.name)]
  | _ => []

def objectLines (host : σ) : Value → List String
  | .object ref =>
      (Host.displayName host ref ++ " (" ++ ref.className ++ ")") ::
        (Host.propertyNames host ref).map fun name =>
          "  " ++ name ++ ": " ++ match Host.property? host ref name with
            | some value => value.display host
            | none => "?"
  | _ => []

def builtins : List (Presenter σ) := [
  ⟨.list, fun host value _ => (listLines host value, host)⟩,
  ⟨.type, fun host value types => (typeLines types value, host)⟩,
  ⟨.object, fun host value _ => (objectLines host value, host)⟩]

end Presenter
end LiveConsole
