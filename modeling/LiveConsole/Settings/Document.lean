import LiveConsole.Json.Printer
import LiveConsole.Json.Reader
import LiveConsole.Settings.Basic

/-! Settings as a JSON document. Members that are left out take their standard values and unknown
members are passed over; a member that stands twice, or whose value does not fit, spoils the
document. An array stands for an object whose members are in the order of declaration. -/
namespace LiveConsole

namespace RawJson

def namedMembers? (names : List String) : List (List Char × RawJson) →
    Option (List (String × RawJson))
  | [] => some []
  | (spelling, value) :: rest => do
      let name ← decoded? spelling
      let later ← namedMembers? names rest
      if names.contains name then
        if (later.lookup name).isSome then none else some ((name, value) :: later)
      else some later

def members? (names : List String) : RawJson → Option (List (String × RawJson))
  | .object members => namedMembers? names members
  | .array items => if items.length ≤ names.length then some (names.zip items) else none
  | _ => none

def natural? (bound : Nat) : RawJson → Option Nat
  | .number spelling => (Number.readNatural? spelling).filter fun value => value ≤ bound
  | _ => none

def text? : RawJson → Option String
  | .string spelling => decoded? spelling
  | _ => none

def char? (json : RawJson) : Option Char :=
  json.text?.bind fun text =>
    match text.toList with
    | [c] => some c
    | _ => none

def valueOr? {α : Type} (members : List (String × RawJson)) (name : String) (standard : α)
    (read? : RawJson → Option α) : Option α :=
  match members.lookup name with
  | none => some standard
  | some value => read? value

end RawJson

namespace Symbols

def memberNames : List String :=
  ["identifier", "special_identifier", "inline_start", "inline_end", "index_start", "index_end",
    "concatenate", "string", "property"]

def ofJson? (json : RawJson) : Option Symbols := do
  let members ← json.members? memberNames
  let char (name : String) (sigil : Char) := RawJson.valueOr? members name sigil RawJson.char?
  let variableSigil ← char "identifier" standard.variableSigil
  let globalSigil ← char "special_identifier" standard.globalSigil
  let groupOpen ← char "inline_start" standard.groupOpen
  let groupClose ← char "inline_end" standard.groupClose
  let indexOpen ← char "index_start" standard.indexOpen
  let indexClose ← char "index_end" standard.indexClose
  let concatenation ← char "concatenate" standard.concatenation
  let quote ← char "string" standard.quote
  let property ← RawJson.valueOr? members "property" standard.property RawJson.text?
  some { variableSigil, globalSigil, groupOpen, groupClose, indexOpen, indexClose, concatenation,
         quote, property }

def toJson (symbols : Symbols) : Json :=
  .object [("identifier", .string symbols.variableSigil.toString),
    ("special_identifier", .string symbols.globalSigil.toString),
    ("inline_start", .string symbols.groupOpen.toString),
    ("inline_end", .string symbols.groupClose.toString),
    ("index_start", .string symbols.indexOpen.toString),
    ("index_end", .string symbols.indexClose.toString),
    ("concatenate", .string symbols.concatenation.toString),
    ("string", .string symbols.quote.toString),
    ("property", .string symbols.property)]

end Symbols

namespace Settings

def memberNames : List String := ["version", "symbols", "scrollback", "last_result"]

def ofJson? (json : RawJson) : Option Settings := do
  let members ← json.members? memberNames
  let version ← RawJson.valueOr? members "version" standard.version fun value =>
    (value.natural? (UInt32.size - 1)).map UInt32.ofNat
  let symbols ← RawJson.valueOr? members "symbols" standard.symbols Symbols.ofJson?
  let scrollback ← RawJson.valueOr? members "scrollback" standard.scrollback fun value =>
    (value.natural? (UInt64.size - 1)).map UInt64.ofNat
  let lastResult ← RawJson.valueOr? members "last_result" standard.lastResult RawJson.text?
  some { version, symbols, scrollback, lastResult }

def toJson (settings : Settings) : Json :=
  .object [("version", .ofNat settings.version.toNat), ("symbols", settings.symbols.toJson),
    ("scrollback", .ofNat settings.scrollback.toNat),
    ("last_result", .string settings.lastResult)]

def ofText? (text : String) : Option Settings := (RawJson.read? text).bind ofJson?

def toText (settings : Settings) : String := settings.toJson.pretty

end Settings

inductive SettingsFile where
  | missing
  | unreadable
  | text (content : String)
  deriving DecidableEq, Repr

inductive SettingsWarning where
  | unreadable
  | invalid
  | newerVersion
  deriving DecidableEq, Repr

def SettingsWarning.message : SettingsWarning → String
  | unreadable => "failed to read settings"
  | invalid => "invalid settings file"
  | newerVersion => "settings written by a newer version, unknown fields are ignored"

def Settings.load : SettingsFile → Option Settings × List SettingsWarning
  | .missing => (none, [])
  | .unreadable => (none, [.unreadable])
  | .text content =>
      match ofText? content with
      | none => (none, [.invalid])
      | some settings =>
          (some settings, if currentVersion < settings.version then [.newerVersion] else [])

end LiveConsole
