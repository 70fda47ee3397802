import LiveConsole.Registry

/-! How a host makes itself known: it registers what it has, one entry after another, on top of
what every console has. The first refusal ends the registration. -/
namespace LiveConsole

structure Draft (σ : Type) where
  registry : Registry σ
  host : σ
  notes : List Note

abbrev Setup (σ α : Type) := ExceptT RegistryError (StateM (Draft σ)) α

namespace Setup

variable {σ : Type}

def note (notes : List Note) : Setup σ Unit :=
  modify fun draft => { draft with notes := draft.notes ++ notes }

def put (registry : Registry σ) : Setup σ Unit :=
  modify fun draft => { draft with registry := registry }

def registry : Setup σ (Registry σ) := do
  let draft ← get
  pure draft.registry

def host : Setup σ σ := do
  let draft ← get
  pure draft.host

def command (command : Command σ) : Setup σ Unit := do
  let (registry, notes) ← liftExcept ((← registry).registerCommand command)
  put registry
  note notes
where
  liftExcept {α : Type} : Except RegistryError α → Setup σ α
    | .ok value => pure value
    | .error error => throw error

def type (name : String) (parent : Option String) : Setup σ TypeTag := do
  match (← registry).registerType name parent with
  | .ok (registry, tag) =>
      put registry
      pure tag
  | .error error => throw error

def converter (converter : Converter σ) : Setup σ Unit := do
  let (registry, notes) := (← registry).registerConverter converter
  put registry
  note notes

def presenter (presenter : Presenter σ) : Setup σ Unit := do
  let (registry, notes) := (← registry).registerPresenter presenter
  put registry
  note notes

def global (name : String) (value : Value) : Setup σ Unit := do
  put ((← registry).setGlobal name value)

end Setup

structure Discovered (σ : Type) where
  outcome : Except RegistryError (Registry σ)
  host : σ
  notes : List Note

def Note.discoveredIn {σ : Type} (registry : Registry σ) : Note :=
  .discovered (registry.count .commands) (registry.count .types) (registry.count .converters)
    (registry.count .presenters)

def discover {σ : Type} [Host σ] (setup : Setup σ Unit) (host : σ) : Discovered σ :=
  let (result, draft) := setup.run ⟨.initial, host, Registry.initialNotes⟩
  match result with
  | .error error => ⟨.error error, draft.host, draft.notes⟩
  | .ok () => ⟨.ok { draft.registry with isEnabled := true }, draft.host,
      draft.notes ++ [.discoveredIn draft.registry]⟩

end LiveConsole
