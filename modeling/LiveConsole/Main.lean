import LiveConsole.CommandLine.Console

/-! The program on the terminal: arguments, files and the keyboard. -/
namespace LiveConsole.CommandLine

def readSettingsFile (path : String) : IO SettingsFile := do
  try
    return .text (← IO.FS.readFile path)
  catch
    | .noFileOrDirectory .. => return .missing
    | _ => return .unreadable

def display (verbose : Bool) (printed : Printed) : IO Unit := do
  let threshold : Severity := if verbose then .debug else .warn
  for note in printed.notes do
    if threshold.passes note.severity then IO.eprintln note.line
  IO.print printed.out
  IO.eprint printed.err
  (← IO.getStdout).flush

partial def talk (request : Request) (engine : Engine Scene) : IO Unit := do
  display request.verbose .prompt
  let typed ← (← IO.getStdin).getLine
  if typed.isEmpty then return
  match answer? request.json engine typed with
  | none => return
  | some (engine, printed) =>
      display request.verbose printed
      talk request engine

def loadSettings (request : Request) : IO Settings := do
  match request.config with
  | none => return .standard
  | some path =>
      let (settings, warnings) := Settings.load (← readSettingsFile path)
      for warning in warnings do
        IO.eprintln ("WARN " ++ warning.message)
      return settings.getD .standard

def usage : String :=
  "Usage: live-console [--config FILE] [--verbose] [--json] " ++
    "[repl | run LINE... | tokens LINE | hint LINE [--cursor OFFSET] | catalog | schema]"

def serveTerminal (request : Request) (settings : Settings) : IO UInt32 := do
  match request.subcommand, start settings with
  | .repl, (.ok engine, notes) =>
      display request.verbose (.noted notes)
      talk request engine
      return 0
  | _, _ =>
      let finished := perform request settings ""
      display request.verbose finished.printed
      return finished.code.toUInt32

end LiveConsole.CommandLine

open LiveConsole.CommandLine in
def main (arguments : List String) : IO UInt32 := do
  match Request.ofArguments? arguments with
  | none =>
      IO.eprintln usage
      return usageCode.toUInt32
  | some request => serveTerminal request (← loadSettings request)
