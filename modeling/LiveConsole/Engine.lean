import LiveConsole.Catalog
import LiveConsole.Settings.Basic

/-! A console: what it can look up, how it is configured, and the host that it works on. Each
operation gives its outcome, the console after it, and what happened meanwhile. -/
namespace LiveConsole

structure Engine (σ : Type) where
  registry : Registry σ
  settings : Settings
  host : σ

structure Run (σ α : Type) where
  outcome : Except CommandError α
  engine : Engine σ
  events : List Event

namespace Run

variable {σ α β : Type}

def ok (value : α) (engine : Engine σ) : Run σ α := ⟨.ok value, engine, []⟩

def fail (error : CommandError) (engine : Engine σ) : Run σ α := ⟨.error error, engine, []⟩

def andThen (run : Run σ α) (next : α → Engine σ → Run σ β) : Run σ β :=
  match run.outcome with
  | .error error => ⟨.error error, run.engine, run.events⟩
  | .ok value =>
      let later := next value run.engine
      ⟨later.outcome, later.engine, run.events ++ later.events⟩

def map (f : α → β) (run : Run σ α) : Run σ β := ⟨run.outcome.map f, run.engine, run.events⟩

def after (events : List Event) (run : Run σ α) : Run σ α :=
  { run with events := events ++ run.events }

end Run

namespace Engine

variable {σ : Type}

def types (engine : Engine σ) : TypeTable := engine.registry.types

def symbols (engine : Engine σ) : Symbols := engine.settings.symbols

def withHost (engine : Engine σ) (host : σ) : Engine σ := { engine with host := host }

def compile? (engine : Engine σ) (source : String) : Option (List Token) :=
  Rpn.ofSource? engine.symbols source

def compileNotes (engine : Engine σ) (source : String) : List Note :=
  .lexed (Lexeme.scan engine.symbols source) ::
    match engine.compile? source with
    | some tokens => [.arranged tokens]
    | none => []

end Engine
end LiveConsole
