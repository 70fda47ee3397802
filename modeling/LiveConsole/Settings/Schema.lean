import LiveConsole.Settings.Document

/-! The JSON schema of a settings document. -/
namespace LiveConsole.Settings

def symbolSchema (symbol : Char) : Json :=
  .record [("type", .string "string"), ("default", .string symbol.toString),
    ("minLength", .ofNat 1), ("maxLength", .ofNat 1)]

def symbolsSchema : Json :=
  let symbols := Symbols.standard
  .record [("description", .string "Sigils and delimiters recognised by the lexer."),
    ("type", .string "object"),
    ("properties", .record [
      ("identifier", symbolSchema symbols.variableSigil),
      ("special_identifier", symbolSchema symbols.globalSigil),
      ("inline_start", symbolSchema symbols.groupOpen),
      ("inline_end", symbolSchema symbols.groupClose),
      ("index_start", symbolSchema symbols.indexOpen),
      ("index_end", symbolSchema symbols.indexClose),
      ("concatenate", symbolSchema symbols.concatenation),
      ("string", symbolSchema symbols.quote),
      ("property", .record [
        ("description",
          .string "Property access operator. May be longer than one character."),
        ("type", .string "string"), ("default", .string symbols.property)])])]

def naturalSchema (format : String) (standard : Nat) : List (String × Json) :=
  [("type", .string "integer"), ("format", .string format), ("minimum", .number "0.0"),
    ("default", .ofNat standard)]

def sortedMembers : Json → Json
  | .object members => .record members
  | json => json

def schema : Json :=
  .record [("$schema", .string "http://json-schema.org/draft-07/schema#"),
    ("title", .string "ConsoleSettings"),
    ("description",
      .string "Console settings, stored as JSON next to the host application's config."),
    ("type", .string "object"),
    ("definitions", .record [("Symbols", symbolsSchema)]),
    ("properties", .record [
      ("version", .record (naturalSchema "uint32" standard.version.toNat)),
      ("symbols", .record [
        ("allOf", .array [.record [("$ref", .string "#/definitions/Symbols")]]),
        ("default", sortedMembers standard.symbols.toJson)]),
      ("scrollback", .record (("description", .string
        "Number of entries kept by the message log before the oldest is evicted.") ::
        naturalSchema "uint" standard.scrollback.toNat)),
      ("last_result", .record [
        ("description", .string ("Name of the global that holds the previous result. " ++
          "The default empty name makes a bare `@` read it.")),
        ("type", .string "string"), ("default", .string standard.lastResult)])])]

end LiveConsole.Settings
