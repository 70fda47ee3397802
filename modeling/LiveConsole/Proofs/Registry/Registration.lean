import LiveConsole.Discovery
import LiveConsole.Proofs.Keyed
import LiveConsole.Proofs.Registry.Reachable

/-! What may be asked of a registry, one thing after another. What is refused changes nothing, and
the registries that are reachable are those that can be asked for. -/
namespace LiveConsole

inductive Registration (σ : Type) where
  | command (command : Command σ)
  | type (name : String) (parent : Option String)
  | converter (converter : Converter σ)
  | presenter (presenter : Presenter σ)
  | sessionVariable (name : String) (value : Value)
  | global (name : String) (value : Value)
  | enabled (isEnabled : Bool)

namespace Registration

variable {σ : Type}

def converter? : Registration σ → Option (Converter σ)
  | .converter added => some added
  | _ => none

def presenter? : Registration σ → Option (Presenter σ)
  | .presenter added => some added
  | _ => none

end Registration

namespace Registry

variable {σ : Type}

def register (registry : Registry σ) : Registration σ → Except RegistryError (Registry σ)
  | .command command => (registry.registerCommand command).map Prod.fst
  | .type name parent => (registry.registerType name parent).map Prod.fst
  | .converter converter => .ok (registry.registerConverter converter).1
  | .presenter presenter => .ok (registry.registerPresenter presenter).1
  | .sessionVariable name value => .ok (registry.setVariable name value)
  | .global name value => .ok (registry.setGlobal name value)
  | .enabled isEnabled => .ok { registry with isEnabled := isEnabled }

def after (registry : Registry σ) (asked : Registration σ) : Registry σ :=
  match registry.register asked with
  | .ok next => next
  | .error _ => registry

def afterAll (registry : Registry σ) (asked : List (Registration σ)) : Registry σ :=
  asked.foldl after registry

theorem afterCommand (registry : Registry σ) (command : Command σ) :
    (∃ error, registry.registerCommand command = .error error ∧
      registry.after (.command command) = registry) ∨
    ∃ next notes, registry.registerCommand command = .ok (next, notes) ∧
      registry.after (.command command) = next := by
  simp only [after, register]
  cases registered : registry.registerCommand command with
  | error error => exact .inl ⟨error, rfl, rfl⟩
  | ok done => exact .inr ⟨done.1, done.2, rfl, rfl⟩

theorem afterType (registry : Registry σ) (name : String) (parent : Option String) :
    (∃ error, registry.registerType name parent = .error error ∧
      registry.after (.type name parent) = registry) ∨
    ∃ next tag, registry.registerType name parent = .ok (next, tag) ∧
      registry.after (.type name parent) = next := by
  simp only [after, register]
  cases registered : registry.registerType name parent with
  | error error => exact .inl ⟨error, rfl, rfl⟩
  | ok done => exact .inr ⟨done.1, done.2, rfl, rfl⟩

theorem Reachable.after [Host σ] {registry : Registry σ} (reached : Reachable registry)
    (asked : Registration σ) : Reachable (registry.after asked) := by
  cases asked with
  | command command =>
    rcases afterCommand registry command with ⟨error, -, same⟩ | ⟨next, notes, done, same⟩
    · rwa [same]
    · rw [same]
      exact reached.command done
  | type name parent =>
    rcases afterType registry name parent with ⟨error, -, same⟩ | ⟨next, tag, done, same⟩
    · rwa [same]
    · rw [same]
      exact reached.type done
  | converter converter => exact reached.converter converter
  | presenter presenter => exact reached.presenter presenter
  | sessionVariable name value => exact reached.sessionVariable name value
  | global name value => exact reached.global name value
  | enabled isEnabled => exact reached.enabled isEnabled

theorem Reachable.afterAll [Host σ] {registry : Registry σ} (reached : Reachable registry)
    (asked : List (Registration σ)) : Reachable (registry.afterAll asked) := by
  induction asked generalizing registry with
  | nil => exact reached
  | cons first rest ih => exact ih (reached.after first)

theorem Reachable.asked [Host σ] {registry : Registry σ} (reached : Reachable registry) :
    ∃ asked, Registry.initial.afterAll asked = registry := by
  have more : ∀ {earlier later : Registry σ} (last : Registration σ),
      earlier.register last = .ok later →
      (∃ asked, Registry.initial.afterAll asked = earlier) →
      ∃ asked, Registry.initial.afterAll asked = later := by
    rintro earlier later last done ⟨asked, rfl⟩
    refine ⟨asked ++ [last], ?_⟩
    have step : Registry.initial.afterAll (asked ++ [last]) =
        (Registry.initial.afterAll asked).after last := List.foldl_append ..
    rw [step, Registry.after, done]
  induction reached with
  | initial => exact ⟨[], rfl⟩
  | command reached registered ih =>
    exact more (.command _) (by rw [register, registered]; rfl) ih
  | enabled reached isEnabled ih => exact more (.enabled isEnabled) rfl ih
  | sessionVariable reached name value ih => exact more (.sessionVariable name value) rfl ih
  | global reached name value ih => exact more (.global name value) rfl ih
  | type reached registered ih =>
    exact more (.type _ _) (by rw [register, registered]; rfl) ih
  | converter reached converter ih => exact more (.converter converter) rfl ih
  | presenter reached presenter ih => exact more (.presenter presenter) rfl ih

theorem afterAllPut {α κ : Type} [DecidableEq κ] {key : α → κ} {list : Registry σ → List α}
    {added? : Registration σ → Option α}
    (step : ∀ registry asked, list (registry.after asked) =
      Keyed.putAll key (list registry) (added? asked).toList)
    (registry : Registry σ) (asked : List (Registration σ)) :
    list (registry.afterAll asked) =
      Keyed.putAll key (list registry) (asked.filterMap added?) := by
  induction asked generalizing registry with
  | nil => rfl
  | cons first rest ih =>
    have next : list ((registry.after first).afterAll rest) = _ := ih (registry.after first)
    change list ((registry.after first).afterAll rest) = _
    rw [next, step, List.filterMap_cons]
    cases added? first <;> rfl

end Registry

theorem Setup.typeRun {σ : Type} (draft : Draft σ) (name : String) (parent : Option String) :
    ((Setup.type name parent).run draft : Except RegistryError TypeTag × Draft σ) =
      match draft.registry.registerType name parent with
      | .ok (registry, tag) => (.ok tag, { draft with registry := registry })
      | .error error => (.error error, draft) := by
  change (match draft.registry.registerType name parent with
    | .ok (registry, tag) => (do Setup.put registry; pure tag : Setup σ TypeTag)
    | .error error => throw error).run draft = _
  split <;> rfl

end LiveConsole
