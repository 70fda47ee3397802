import LiveConsole.Engine

/-! Runs one after another. A run that succeeds is taken apart where its parts meet, and its
results may be renamed before or after they are used. -/
namespace LiveConsole

namespace Run

variable {σ α β γ : Type}

theorem andThenOk {run : Run σ α} {next : α → Engine σ → Run σ β} {result : β}
    (ok : (run.andThen next).outcome = .ok result) :
    ∃ value, run.outcome = .ok value ∧ (next value run.engine).outcome = .ok result ∧
      run.andThen next = (next value run.engine).after run.events := by
  obtain ⟨outcome, engine, events⟩ := run
  cases outcome with
  | error error => simp [andThen] at ok
  | ok value => exact ⟨value, rfl, ok, rfl⟩

theorem andThenFailed {run : Run σ α} {next : α → Engine σ → Run σ β} {error : CommandError}
    (failed : (run.andThen next).outcome = .error error) :
    run.outcome = .error error ∨
      ∃ value, run.outcome = .ok value ∧ (next value run.engine).outcome = .error error := by
  obtain ⟨outcome, engine, events⟩ := run
  cases outcome with
  | error refusal =>
    cases failed
    exact .inl rfl
  | ok value => exact .inr ⟨value, rfl, failed⟩

theorem andThenOf {run : Run σ α} {value : α} (ok : run.outcome = .ok value)
    (next : α → Engine σ → Run σ β) :
    run.andThen next = (next value run.engine).after run.events := by
  obtain ⟨outcome, engine, events⟩ := run
  cases ok
  rfl

theorem mapOk {run : Run σ α} {f : α → β} {result : β} (ok : (run.map f).outcome = .ok result) :
    ∃ value, run.outcome = .ok value ∧ f value = result := by
  obtain ⟨outcome, engine, events⟩ := run
  cases outcome with
  | error error => simp [map, Except.map] at ok
  | ok value =>
    cases ok
    exact ⟨value, rfl, rfl⟩

theorem andThenAssoc (run : Run σ α) (first : α → Engine σ → Run σ β)
    (second : β → Engine σ → Run σ γ) :
    (run.andThen first).andThen second =
      run.andThen fun value engine => (first value engine).andThen second := by
  obtain ⟨outcome, engine, events⟩ := run
  cases outcome with
  | error error => rfl
  | ok value =>
    simp only [andThen]
    cases (first value engine).outcome with
    | error error => rfl
    | ok value => simp [List.append_assoc]

theorem mapAndThen (f : α → β) (run : Run σ α) (next : β → Engine σ → Run σ γ) :
    (run.map f).andThen next = run.andThen fun value engine => next (f value) engine := by
  obtain ⟨outcome, engine, events⟩ := run
  cases outcome <;> rfl

theorem mapAfter (f : α → β) (run : Run σ α) (events : List Event) :
    (run.after events).map f = (run.map f).after events := rfl

theorem mapMap (f : α → β) (g : β → γ) (run : Run σ α) :
    (run.map f).map g = run.map fun value => g (f value) := by
  obtain ⟨outcome, engine, events⟩ := run
  cases outcome <;> rfl

theorem mapOfAndThen (f : β → γ) (run : Run σ α) (next : α → Engine σ → Run σ β) :
    (run.andThen next).map f = run.andThen fun value engine => (next value engine).map f := by
  obtain ⟨outcome, engine, events⟩ := run
  cases outcome <;> rfl

theorem andThenCalls {holds : Invocation → Prop} {run : Run σ α}
    {next : α → Engine σ → Run σ β} (first : ∀ call ∈ run.events.filterMap Event.call?, holds call)
    (later : ∀ value, ∀ call ∈ (next value run.engine).events.filterMap Event.call?, holds call) :
    ∀ call ∈ (run.andThen next).events.filterMap Event.call?, holds call := by
  unfold andThen
  split
  · exact first
  · intro call member
    rcases List.mem_append.mp (List.filterMap_append .. ▸ member) with before | after
    · exact first call before
    · exact later _ call after

end Run
end LiveConsole
