import LiveConsole.Proofs.Json.Reading
import LiveConsole.Settings.Document
import Mathlib

/-! Settings that are written are read again as they were: every symbol and every text in whatever
characters, every number up to the end of its range. -/
namespace LiveConsole

namespace RawJson
open Json (raw rawMembers)

theorem lookupMissing {name : String} {members : List (String × RawJson)}
    (other : name ∉ members.map Prod.fst) : members.lookup name = none := by
  refine List.lookup_eq_none_iff.mpr fun member inside => bne_iff_ne.mpr ?_
  rintro rfl
  exact other (List.mem_map_of_mem inside)

theorem namedRead {names : List String} {members : List (String × Json)}
    (known : ∀ member ∈ members, member.1 ∈ names) (distinct : (members.map Prod.fst).Nodup) :
    namedMembers? names (rawMembers members) =
      some (members.map fun member => (member.1, member.2.raw)) := by
  induction members with
  | nil => rfl
  | cons member rest ih =>
    obtain ⟨name, value⟩ := member
    simp only [List.mem_cons, forall_eq_or_imp] at known
    rw [List.map_cons, List.nodup_cons] at distinct
    have later := ih known.2 distinct.2
    have fresh : (rest.map fun member => (member.1, member.2.raw)).lookup name = none :=
      lookupMissing (by simpa using distinct.1)
    simp [rawMembers, namedMembers?, spellingDecoded, later, known.1, fresh]

theorem membersRead {names : List String} {members : List (String × Json)}
    (named : members.map Prod.fst = names) (distinct : names.Nodup) :
    (raw (.object members)).members? names =
      some (members.map fun member => (member.1, member.2.raw)) :=
  namedRead (fun _ inside => named ▸ List.mem_map_of_mem inside) (named ▸ distinct)

theorem textRead (text : String) : (raw (.string text)).text? = some text := spellingDecoded text

theorem charRead (c : Char) : (raw (.string (String.singleton c))).char? = some c := by
  rw [char?, textRead]
  simp

theorem naturalRead {n bound : Nat} (within : n ≤ bound) :
    (raw (.ofNat n)).natural? bound = some n := by
  have value : Number.readNatural? (toString n).toList = some n := by
    rw [Nat.toString_eq_repr, Nat.toList_repr, naturalSpelled]
  simp only [Json.ofNat, raw, natural?, value]
  simpa using within

end RawJson

theorem Symbols.ofJsonToJson (symbols : Symbols) : ofJson? symbols.toJson.raw = some symbols := by
  have distinct : memberNames.Nodup := by decide
  rw [ofJson?, toJson, RawJson.membersRead _ distinct]
  · simp only [List.map_cons, List.map_nil, Option.bind_eq_bind, Option.bind_some]
    simp only [RawJson.valueOr?, List.lookup, String.reduceBEq]
    simp only [Char.toString_eq_singleton, RawJson.charRead, RawJson.textRead, Option.bind_some]
  · rfl

namespace Settings

theorem ofJsonToJson (settings : Settings) : ofJson? settings.toJson.raw = some settings := by
  have distinct : memberNames.Nodup := by decide
  have version : settings.version.toNat ≤ UInt32.size - 1 :=
    Nat.le_pred_of_lt settings.version.toNat_lt
  have scrollback : settings.scrollback.toNat ≤ UInt64.size - 1 :=
    Nat.le_pred_of_lt settings.scrollback.toNat_lt
  rw [ofJson?, toJson, RawJson.membersRead _ distinct]
  · simp only [List.map_cons, List.map_nil, Option.bind_eq_bind, Option.bind_some]
    simp only [RawJson.valueOr?, List.lookup, String.reduceBEq]
    simp only [RawJson.naturalRead version, RawJson.naturalRead scrollback, Symbols.ofJsonToJson,
      RawJson.textRead, Option.map_some, Option.bind_some, UInt32.ofNat_toNat, UInt64.ofNat_toNat]
  · rfl

theorem legible (settings : Settings) : settings.toJson.Legible := by
  simp [toJson, Symbols.toJson, Json.Legible, Json.LegibleMembers, Json.naturalLegible]

theorem ofTextToText (settings : Settings) : ofText? settings.toText = some settings := by
  have text : RawJson.read? settings.toText = some settings.toJson.raw :=
    Json.readPretty settings.legible
  simp only [ofText?, text, Option.bind_some, settings.ofJsonToJson]

theorem loadsSaved (settings : Settings) :
    load (.text settings.toText) =
      (some settings, if currentVersion < settings.version then [.newerVersion] else []) := by
  simp only [load, ofTextToText]

end Settings

end LiveConsole
