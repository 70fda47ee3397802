import LiveConsole.Hint
import LiveConsole.Proofs.Evaluation.Frame
import LiveConsole.Proofs.Registry.Reachable
import LiveConsole.Scene.Basic
import Mathlib

/-! Whole sessions on one console. Whatever is asked of it, and however that ends, what was
registered and configured stays as it is, and of the globals only the one for the last result
changes: to the value that the latest line came to. -/
namespace LiveConsole

namespace Bindings

theorem getCons (key name : String) (value : Value) (rest : Bindings) :
    get? ((key, value) :: rest) name = if name = key then some value else rest.get? name := by
  unfold get?
  by_cases same : name = key
  · simp [same]
  · simp [List.lookup_cons, beq_false_of_ne same, same]

theorem getSet (bindings : Bindings) (name other : String) (value : Value) :
    (bindings.set name value).get? other =
      if other = name then some value else bindings.get? other := by
  induction bindings with
  | nil => exact getCons name other value []
  | cons binding rest ih =>
    obtain ⟨key, old⟩ := binding
    rw [set]
    split
    · rename_i isKey
      rw [beq_iff_eq] at isKey
      subst isKey
      simp only [getCons]
      split <;> rfl
    · rename_i isOther
      rw [beq_iff_eq] at isOther
      simp only [getCons, ih]
      split
      · rename_i same
        rw [same, if_neg isOther]
      · rfl

end Bindings

inductive Request where
  | run (source : String)
  | submit (source : String)
  | execute (tokens : List Token)
  | simulate (source : String) (cursor : Nat)
  | hint (source : String) (cursor : Nat)

inductive Answer (σ : Type) where
  | outcome (result : Except CommandError Value)
  | simulation (found : Option (Hint σ))
  | hint (text : Option String)

/- The value that an answered line came to. A blank line that is submitted is no line at all. -/
def Request.value? {σ : Type} : Request → Answer σ → Option Value
  | .submit source, .outcome result =>
      if Text.isBlankText source then none else result.toOption
  | _, .outcome result => result.toOption
  | _, _ => none

abbrev History (σ : Type) := List (Request × Answer σ)

def History.latest? {σ : Type} (history : History σ) : Option Value :=
  (history.filterMap fun (request, answer) => request.value? answer).getLast?

theorem History.latestCons {σ : Type} (request : Request) (answer : Answer σ)
    (rest : History σ) :
    History.latest? ((request, answer) :: rest) = rest.latest?.or (request.value? answer) := by
  unfold latest?
  cases value : request.value? answer with
  | none => simp [value]
  | some value => simp [value, List.getLast?_cons, Option.or_some]

namespace Engine

variable {σ : Type}

structure Persists (before after : Engine σ) : Prop where
  settings : after.settings = before.settings
  commands : after.registry.commands = before.registry.commands
  isEnabled : after.registry.isEnabled = before.registry.isEnabled
  types : after.registry.types = before.registry.types
  converters : after.registry.converters = before.registry.converters
  presenters : after.registry.presenters = before.registry.presenters
  globals : ∀ name, name ≠ before.settings.lastResult →
    after.registry.globals.get? name = before.registry.globals.get? name

theorem Persists.refl (engine : Engine σ) : Persists engine engine :=
  ⟨rfl, rfl, rfl, rfl, rfl, rfl, fun _ _ => rfl⟩

theorem Persists.trans {a b c : Engine σ} (first : Persists a b) (second : Persists b c) :
    Persists a c where
  settings := second.settings.trans first.settings
  commands := second.commands.trans first.commands
  isEnabled := second.isEnabled.trans first.isEnabled
  types := second.types.trans first.types
  converters := second.converters.trans first.converters
  presenters := second.presenters.trans first.presenters
  globals name other :=
    (second.globals name (first.settings ▸ other)).trans (first.globals name other)

theorem Evolves.persists {before after : Engine σ} (evolves : Evolves before after) :
    Persists before after :=
  ⟨evolves.settings, evolves.commands, evolves.isEnabled, evolves.types, evolves.converters,
    evolves.presenters, fun name _ => congrArg (Bindings.get? · name) evolves.globals⟩

def withResult (engine : Engine σ) (value : Option Value) : Engine σ :=
  match value with
  | some value =>
      { engine with registry := engine.registry.setGlobal engine.settings.lastResult value }
  | none => engine

theorem resultPersists (engine : Engine σ) (value : Option Value) :
    Persists engine (engine.withResult value) := by
  cases value with
  | none => exact .refl engine
  | some value =>
    refine ⟨rfl, rfl, rfl, rfl, rfl, rfl, fun name other => ?_⟩
    exact (Bindings.getSet ..).trans (if_neg other)

theorem resultKept (engine : Engine σ) (value : Option Value) :
    (engine.withResult value).registry.globals.get? engine.settings.lastResult =
      value.or (engine.registry.globals.get? engine.settings.lastResult) := by
  cases value with
  | none => rfl
  | some value => exact (Bindings.getSet ..).trans (if_pos rfl)

theorem concludeOutcome (engine : Engine σ) (value : Value) :
    (engine.conclude value).outcome = .ok value := by
  unfold conclude
  dsimp only
  split <;> rfl

theorem concludeEvolves {before after : Engine σ} (evolves : Evolves before after)
    (value : Value) :
    Evolves (before.withResult (some value)) (after.conclude value).engine := by
  have globals : after.registry.globals.set after.settings.lastResult value =
      before.registry.globals.set before.settings.lastResult value := by
    rw [evolves.globals, evolves.settings]
  unfold conclude
  dsimp only
  split <;> exact ⟨evolves.settings, evolves.commands, evolves.isEnabled, globals, evolves.types,
    evolves.converters, evolves.presenters⟩

variable [Host σ]

theorem executeEvolves (engine : Engine σ) (tokens : List Token) :
    Evolves (engine.withResult (engine.execute tokens).outcome.toOption)
      (engine.execute tokens).engine := by
  unfold execute
  split
  · have evolves := evaluateEvolves engine tokens
    cases outcome : (engine.evaluate tokens).outcome with
    | error error =>
      rw [Run.andThen, outcome]
      exact evolves
    | ok value =>
      rw [Run.andThenOf outcome, Run.after, concludeOutcome]
      exact concludeEvolves evolves value
  · exact .refl engine

theorem runEvolves (engine : Engine σ) (source : String) :
    Evolves (engine.withResult (engine.run source).outcome.toOption)
      (engine.run source).engine := by
  unfold run
  split
  · cases engine.compile? source with
    | none => exact .refl engine
    | some tokens => exact executeEvolves engine tokens
  · exact .refl engine

theorem runExecutes {engine : Engine σ} (isEnabled : engine.registry.isEnabled = true)
    {source : String} {tokens : List Token} (compiled : engine.compile? source = some tokens) :
    (engine.run source).outcome = (engine.execute tokens).outcome := by
  rw [run, if_pos isEnabled, compiled]
  rfl

theorem runOk {engine : Engine σ} {source : String} {value : Value}
    (ok : (engine.run source).outcome = .ok value) :
    engine.registry.isEnabled = true ∧ ∃ tokens, engine.compile? source = some tokens ∧
      (engine.evaluate tokens).outcome = .ok value := by
  unfold run at ok
  split at ok
  · rename_i isEnabled
    refine ⟨isEnabled, ?_⟩
    cases compiled : engine.compile? source with
    | none =>
      rw [compiled] at ok
      contradiction
    | some tokens =>
      rw [compiled] at ok
      change (engine.execute tokens).outcome = .ok value at ok
      rw [execute, if_pos isEnabled] at ok
      obtain ⟨result, evaluated, concluded, -⟩ := Run.andThenOk ok
      rw [concludeOutcome] at concluded
      cases concluded
      exact ⟨tokens, rfl, evaluated⟩
  · contradiction

def answer (engine : Engine σ) : Request → Answer σ × Engine σ
  | .run source => (.outcome (engine.run source).outcome, (engine.run source).engine)
  | .submit source => (.outcome (engine.submit source).outcome, (engine.submit source).engine)
  | .execute tokens => (.outcome (engine.execute tokens).outcome, (engine.execute tokens).engine)
  | .simulate source cursor => (.simulation (engine.hint? source cursor), engine)
  | .hint source cursor =>
      (.hint ((engine.hint? source cursor).map fun hint => hint.text engine.types), engine)

theorem answerEvolves (engine : Engine σ) (request : Request) :
    Evolves (engine.withResult (request.value? (engine.answer request).1))
      (engine.answer request).2 := by
  cases request with
  | run source => exact runEvolves engine source
  | execute tokens => exact executeEvolves engine tokens
  | submit source =>
    unfold Request.value? answer submit
    dsimp only
    split
    · exact .refl engine
    · exact runEvolves engine source
  | simulate source cursor => exact .refl engine
  | hint source cursor => exact .refl engine

/- Requests answered one after another, while the host may also change by itself in between. -/
inductive Session : Engine σ → History σ → Engine σ → Prop where
  | done (engine : Engine σ) : Session engine [] engine
  | request {engine last : Engine σ} {rest : History σ} (request : Request)
      (later : Session (engine.answer request).2 rest last) :
      Session engine ((request, (engine.answer request).1) :: rest) last
  | host {engine last : Engine σ} {history : History σ} (host : σ)
      (later : Session (engine.withHost host) history last) : Session engine history last

theorem Session.persists {engine last : Engine σ} {history : History σ}
    (session : Session engine history last) : Persists engine last := by
  induction session with
  | done engine => exact .refl engine
  | request request later ih =>
    exact (resultPersists ..).trans ((answerEvolves _ request).persists.trans ih)
  | host host later ih => exact (evolvesHost _ host).persists.trans ih

theorem Session.lastResult {engine last : Engine σ} {history : History σ}
    (session : Session engine history last) :
    last.registry.globals.get? engine.settings.lastResult =
      history.latest?.or (engine.registry.globals.get? engine.settings.lastResult) := by
  induction session with
  | done engine => rfl
  | @request engine last rest request later ih =>
    have evolves := answerEvolves engine request
    -- The name is the same throughout, so what this request kept under it is there for the rest.
    have settings := evolves.settings.trans (resultPersists ..).settings
    rw [settings, evolves.globals, resultKept] at ih
    rw [ih, History.latestCons, Option.or_assoc]
  | host host later ih => exact ih

theorem sessionsTouchTheLastResult {engine last : Engine σ} {history : History σ}
    (session : Session engine history last) :
    Persists engine last ∧
    last.registry.globals.get? engine.settings.lastResult =
      history.latest?.or (engine.registry.globals.get? engine.settings.lastResult) ∧
    ∀ request, request.value? (engine.answer request).1 = none →
      (engine.answer request).2.registry.globals = engine.registry.globals := by
  refine ⟨session.persists, session.lastResult, fun request nothing => ?_⟩
  have evolves := answerEvolves engine request
  rw [nothing] at evolves
  exact evolves.globals

theorem failedLineKeepsTheResult :
    ∃ last : Engine Scene,
      Session (plain .empty) [(.run "'a'", .outcome (.ok (.string "a"))),
        (.submit " ", .outcome (.ok .null)), (.run "]", .outcome (.error .invalidCommand))] last ∧
      Persists (plain .empty) last ∧ last.registry.globals.get? "" = some (.string "a") := by
  have first : ((plain Scene.empty).answer (.run "'a'")).1 = .outcome (.ok (.string "a")) := by cbv
  have second : (((plain Scene.empty).answer (.run "'a'")).2.answer (.submit " ")).1 =
      .outcome (.ok .null) := by cbv
  have third : ((((plain Scene.empty).answer (.run "'a'")).2.answer (.submit " ")).2.answer
      (.run "]")).1 = .outcome (.error .invalidCommand) := by cbv
  have session := @Session.request _ _ (plain Scene.empty) _ _ (.run "'a'")
    (.request (.submit " ") (.request (.run "]") (.done _)))
  rw [first, second, third] at session
  obtain ⟨persists, result, -⟩ := sessionsTouchTheLastResult session
  exact ⟨_, session, persists, result⟩

end Engine
end LiveConsole
