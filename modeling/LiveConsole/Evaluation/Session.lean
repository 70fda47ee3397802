import LiveConsole.Evaluation.Stack

/-! Lines on a console: run for their value, or submitted and shown. -/
namespace LiveConsole.Engine

variable {σ : Type} [Host σ]

def conclude (engine : Engine σ) (result : Value) : Run σ Value :=
  let engine :=
    { engine with registry := engine.registry.setGlobal engine.settings.lastResult result }
  match result with
  | .null | .string _ => .ok result engine
  | _ =>
      let (lines, host) := engine.registry.present engine.host result
      ⟨.ok result, engine.withHost host, (Presenter.entries lines).map .emitted⟩

def execute (engine : Engine σ) (tokens : List Token) : Run σ Value :=
  if engine.registry.isEnabled then
    (engine.evaluate tokens).andThen fun result engine => engine.conclude result
  else .fail .notReady engine

def run (engine : Engine σ) (source : String) : Run σ Value :=
  if engine.registry.isEnabled then
    Run.after ((engine.compileNotes source).map .noted) <|
      match engine.compile? source with
      | some tokens => engine.execute tokens
      | none => .fail .invalidCommand engine
  else .fail .notReady engine

def outcomeEvents (engine : Engine σ) (source : String) : Except CommandError Value → List Event
  | .ok .null => []
  | .ok result => [.log ("'" ++ result.display engine.host ++ "'")]
  | .error error => [.noted (.lineFailed error), .exception source, .exception error.message]

def submit (engine : Engine σ) (source : String) : Run σ Value :=
  if Text.isBlankText source then .ok .null engine
  else
    let run := engine.run source
    { run with events := run.events ++ outcomeEvents run.engine source run.outcome }

end LiveConsole.Engine
