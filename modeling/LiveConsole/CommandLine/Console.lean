import LiveConsole.CommandLine.Arguments
import LiveConsole.Evaluation.Session
import LiveConsole.Hint
import LiveConsole.Scene.Commands
import LiveConsole.Settings.Schema

/-! The program: a console over the demonstration scene, on text in and text out. -/
namespace LiveConsole.CommandLine

structure Printed where
  out : String
  err : String
  notes : List Note

namespace Printed

def nothing : Printed := ⟨"", "", []⟩

def line (text : String) : Printed := ⟨text ++ "\n", "", []⟩

def json (json : Json) : Printed := line json.pretty

def append (a b : Printed) : Printed := ⟨a.out ++ b.out, a.err ++ b.err, a.notes ++ b.notes⟩

instance : Append Printed := ⟨append⟩

def entry (entry : LogEntry) : Printed :=
  match entry.level with
  | .log => line entry.text
  | .warning => ⟨"", "warning: " ++ entry.text ++ "\n", []⟩
  | .error | .exception => ⟨"", "! " ++ entry.text ++ "\n", []⟩

def entries (entries : List LogEntry) : Printed :=
  entries.foldl (fun printed e => printed ++ entry e) nothing

def noted (notes : List Note) : Printed := ⟨"", "", notes⟩

def prompt : Printed := ⟨"> ", "", []⟩

end Printed

def entryJson (entry : LogEntry) : Json :=
  .record [("level", .string entry.level.name), ("text", .string entry.text)]

def submissionJson (host : Scene) (line : String) (outcome : Except CommandError Value)
    (shown : List LogEntry) : Json :=
  let input := ("input", Json.string line)
  let output := ("output", Json.array (shown.map entryJson))
  match outcome with
  | .ok result => .record [input, output, ("result", result.toJson host)]
  | .error error =>
      .record [input, output, ("error", error.toJson), ("message", .string error.message)]

def submitLine (json : Bool) (engine : Engine Scene) (line : String) :
    Bool × Engine Scene × Printed :=
  let run := engine.submit line
  let log := MessageLog.empty engine.settings.scrollback.toNat
  let shown := (log.pushAll (entriesOf run.events)).entries
  let printed :=
    if json then Printed.json (submissionJson run.engine.host line run.outcome shown)
    else Printed.entries shown
  (run.outcome.isOk, run.engine, .noted (notesOf run.events) ++ printed)

def printHint (json : Bool) (engine : Engine Scene) (line : String) (cursor : Nat) : Printed :=
  let printed := match engine.hint? line cursor, json with
    | some hint, true => Printed.json (hint.toJson engine.types)
    | none, true => Printed.json .null
    | some hint, false => Printed.line (hint.text engine.types)
    | none, false => Printed.line "(no hint)"
  .noted (engine.hintNotes line cursor) ++ printed

def printTokens (json : Bool) (symbols : Symbols) (line : String) : Printed :=
  let lexemes := Lexeme.scan symbols line
  let tokens := Token.ofLexemes lexemes
  let arranged := Rpn.ofTokens? tokens
  if json then
    .json (.record [("lexemes", .array (lexemes.map Lexeme.toJson)),
      ("tokens", .array (tokens.map Token.toJson)),
      ("postfix", .ofOption (fun tokens => .array (tokens.map Token.toJson)) arranged)])
  else
    let order := match arranged with
      | some tokens => " ".intercalate (tokens.map Token.value)
      | none => "(invalid)"
    (tokens.map Token.display).foldr (fun text printed => .line text ++ printed)
      (.line ("postfix: " ++ order))

def start (settings : Settings) : Except RegistryError (Engine Scene) × List Note :=
  let discovered := discover Scene.setup .demonstration
  (discovered.outcome.map fun registry => ⟨registry, settings, discovered.host⟩, discovered.notes)

def answer? (json : Bool) (engine : Engine Scene) (typed : String) :
    Option (Engine Scene × Printed) :=
  let line := Text.trimEnd typed.toList
  let word := String.ofList (Text.trim line)
  if word = "exit" ∨ word = "quit" then none
  else match line with
    | '?' :: rest =>
        let partialLine := String.ofList rest
        some (engine, printHint json engine partialLine partialLine.utf8ByteSize)
    | _ =>
        let (_, engine, printed) := submitLine json engine (String.ofList line)
        some (engine, printed)

def converse (json : Bool) (engine : Engine Scene) : List String → Printed
  | [] => .prompt
  | typed :: rest =>
      .prompt ++ match answer? json engine typed with
        | none => .nothing
        | some (engine, printed) => printed ++ converse json engine rest

def submitLines (json : Bool) (engine : Engine Scene) : List String → Bool × Printed
  | [] => (true, .nothing)
  | line :: rest =>
      let (succeeded, engine, printed) := submitLine json engine line
      let (othersSucceeded, others) := submitLines json engine rest
      (succeeded && othersSucceeded, printed ++ others)

def inputLines (input : String) : List String :=
  let parts := input.splitOn "\n"
  if parts.getLast? = some "" then parts.dropLast else parts

structure Finished where
  code : Nat
  printed : Printed

def failureCode (succeeded : Bool) : Nat := if succeeded then 0 else 1

def serve (json : Bool) (engine : Engine Scene) (input : String) : Subcommand → Finished
  | .repl => ⟨0, converse json engine (inputLines input)⟩
  | .run lines =>
      let (succeeded, printed) := submitLines json engine lines
      ⟨failureCode succeeded, printed⟩
  | .hint line cursor => ⟨0, printHint json engine line (cursor.getD line.utf8ByteSize)⟩
  | .catalog => ⟨0, .json engine.registry.catalogJson⟩
  | .tokens line => ⟨0, printTokens json engine.symbols line⟩
  | .schema => ⟨0, .json Settings.schema⟩

def perform (request : Request) (settings : Settings) (input : String) : Finished :=
  match request.subcommand with
  | .schema => ⟨0, .json Settings.schema⟩
  | .tokens line => ⟨0, printTokens request.json settings.symbols line⟩
  | subcommand =>
      match start settings with
      | (.error error, notes) => ⟨1, .noted notes ++ ⟨"", "Error: " ++ error.message ++ "\n", []⟩⟩
      | (.ok engine, notes) =>
          let finished := serve request.json engine input subcommand
          ⟨finished.code, .noted notes ++ finished.printed⟩

def usageCode : Nat := 2

def settingsFor (request : Request) (file : String → SettingsFile) : Settings :=
  ((request.config.bind fun path => (Settings.load (file path)).1)).getD .standard

def execute (file : String → SettingsFile) (arguments : List String) (input : String) : Finished :=
  match Request.ofArguments? arguments with
  | none => ⟨usageCode, .nothing⟩
  | some request => perform request (settingsFor request file) input

end LiveConsole.CommandLine
