/-! What the console shows, and the scrollback that keeps the newest of it. -/
namespace LiveConsole

inductive LogLevel where
  | log
  | warning
  | error
  | exception
  deriving DecidableEq, Repr

def LogLevel.name : LogLevel → String
  | log => "Log"
  | warning => "Warning"
  | error => "Error"
  | exception => "Exception"

structure LogEntry where
  level : LogLevel
  text : String
  deriving DecidableEq, Repr

structure MessageLog where
  entries : List LogEntry
  capacity : Nat
  deriving DecidableEq, Repr

namespace MessageLog

def empty (capacity : Nat) : MessageLog := ⟨[], max capacity 1⟩

def push (log : MessageLog) (entry : LogEntry) : MessageLog :=
  if log.entries.length = log.capacity then { log with entries := log.entries.drop 1 ++ [entry] }
  else { log with entries := log.entries ++ [entry] }

def emit (log : MessageLog) (text : String) (level : LogLevel) : MessageLog :=
  log.push ⟨level, text⟩

def pushAll (log : MessageLog) (entries : List LogEntry) : MessageLog := entries.foldl push log

def clear (log : MessageLog) : MessageLog := { log with entries := [] }

def last? (log : MessageLog) : Option LogEntry := log.entries.getLast?

def snapshot (log : MessageLog) : List LogEntry := log.entries

def drain (log : MessageLog) : List LogEntry × MessageLog := (log.entries, log.clear)

end MessageLog
end LiveConsole
