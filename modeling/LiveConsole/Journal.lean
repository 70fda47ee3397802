import LiveConsole.Failure
import LiveConsole.Log
import LiveConsole.Text.Quoted
import LiveConsole.Value

/-! What happens while a console works, in order: entries for the scrollback, calls of commands,
and notes for whoever maintains the host. -/
namespace LiveConsole

inductive Severity where
  | error
  | warn
  | info
  | debug
  deriving DecidableEq, Repr

namespace Severity

def name : Severity → String
  | error => "ERROR"
  | warn => "WARN"
  | info => "INFO"
  | debug => "DEBUG"

def rank : Severity → Nat
  | error => 0
  | warn => 1
  | info => 2
  | debug => 3

def passes (threshold severity : Severity) : Bool := severity.rank ≤ threshold.rank

def ofLevel : LogLevel → Severity
  | .log => info
  | .warning => warn
  | .error | .exception => error

end Severity

inductive Note where
  | lexed (lexemes : List Lexeme)
  | arranged (tokens : List Token)
  | registered (command : String)
  | invoking (command : String) (arguments : Nat)
  | lineFailed (error : CommandError)
  /-- The causes stand with the outermost first. -/
  | handlerFailed (command : String) (causes : List String)
  | handlerCrashed (command : String) (message : Option String)
  | converterReplaced (target source : String)
  | presenterReplaced (type : String)
  | discovered (commands types converters presenters : Nat)

namespace Note

def severity : Note → Severity
  | .lexed _ | .arranged _ | .registered _ | .invoking .. | .lineFailed _ => .debug
  | .handlerFailed .. | .handlerCrashed .. => .error
  | .converterReplaced .. | .presenterReplaced _ => .warn
  | .discovered .. => .info

def kindsAndTexts (parts : List (LexemeKind × String)) : String :=
  "[" ++ ", ".intercalate (parts.map fun (kind, text) =>
    "(" ++ kind.name ++ ", " ++ Text.quoted text ++ ")") ++ "]"

def message : Note → String
  | .lexed lexemes => "lexed " ++ kindsAndTexts (lexemes.map fun l => (l.kind, l.value))
  | .arranged tokens => "postfix " ++ kindsAndTexts (tokens.map fun t => (t.kind, t.value))
  | .registered command => "registered command '" ++ command ++ "'"
  | .invoking command arguments =>
      "invoking '" ++ command ++ "' with " ++ toString arguments ++ " args"
  | .lineFailed error => "command failed: " ++ error.message
  | .handlerFailed command causes =>
      "command '" ++ command ++ "' failed: " ++ ": ".intercalate causes
  | .handlerCrashed command message =>
      "command '" ++ command ++ "' panicked: " ++ message.getD "unknown panic"
  | .converterReplaced target source => "replacing converter " ++ target ++ " <- " ++ source
  | .presenterReplaced type => "replacing presenter for " ++ type
  | .discovered commands types converters presenters =>
      "discovery complete: " ++ toString commands ++ " commands, " ++ toString types ++ " types, "
        ++ toString converters ++ " converters, " ++ toString presenters ++ " presenters"

def line (note : Note) : String := note.severity.name ++ " " ++ note.message

end Note

structure Invocation where
  command : String
  byHost : Bool
  target : Option Value
  arguments : List Value

inductive Event where
  | emitted (entry : LogEntry)
  | invoked (call : Invocation)
  | noted (note : Note)

namespace Event

def entry? : Event → Option LogEntry
  | .emitted entry => some entry
  | _ => none

def call? : Event → Option Invocation
  | .invoked call => some call
  | _ => none

def note? : Event → Option Note
  | .noted note => some note
  | .invoked call =>
      if call.byHost then some (.invoking call.command call.arguments.length) else none
  | .emitted _ => none

def log (text : String) : Event := .emitted ⟨.log, text⟩

def exception (text : String) : Event := .emitted ⟨.exception, text⟩

end Event

def entriesOf (events : List Event) : List LogEntry := events.filterMap Event.entry?

def notesOf (events : List Event) : List Note := events.filterMap Event.note?

end LiveConsole
