import LiveConsole.Proofs.Evaluation.Transcript
import LiveConsole.Proofs.Evaluation.Typing
import LiveConsole.Proofs.Registry.Conversion

/-! What lines do to the host. As long as its converters and presenters only look, nothing but its
own handlers changes it: after any number of lines the host is what the handlers make of it, applied
to the calls that were made, in the order of the calls. -/
namespace LiveConsole

def Run.calls {σ α : Type} (run : Run σ α) : List Invocation := run.events.filterMap Event.call?

namespace Registry

variable {σ : Type}

def react (registry : Registry σ) (host : σ) (call : Invocation) : σ :=
  match (registry.commandNamed? call.command).map Command.action with
  | some (.host _ handler) => (handler host call.target call.arguments).2
  | _ => host

def reacted (registry : Registry σ) (host : σ) (calls : List Invocation) : σ :=
  calls.foldl registry.react host

theorem reactedSame {registry other : Registry σ} (same : other.commands = registry.commands) :
    other.reacted = registry.reacted := by
  have reacts : other.react = registry.react := by
    funext host call
    unfold react commandNamed?
    rw [same]
  funext host calls
  rw [reacted, reacts, reacted]

structure OnlyLooks (registry : Registry σ) : Prop where
  converters : ∀ converter ∈ registry.converters, ∀ host value requested,
    (converter.run host value requested registry.types).2 = host
  presenters : ∀ presenter ∈ registry.presenters, ∀ host value,
    (presenter.lines host value registry.types).2 = host

namespace OnlyLooks

variable {registry : Registry σ}

theorem convert (looks : registry.OnlyLooks) (host : σ) (value : Value) (requested : TypeTag) :
    (registry.convert host value requested).2 = host := by
  have converted := registry.converted host value requested
  generalize registry.convert host value requested = result at converted ⊢
  cases converted with
  | kept => rfl
  | asked tagged picked =>
    exact looks.converters _ (nearestMember ConverterRank.strict picked) host value requested

theorem bind (looks : registry.OnlyLooks) (operator : Token) (host : σ)
    (parameters : List Parameter) (operands : List Value) :
    (Engine.bindArguments registry operator host parameters operands).2 = host := by
  induction parameters generalizing operands with
  | nil => cases operands <;> rfl
  | cons parameter parameters ih =>
    cases operands with
    | nil => rfl
    | cons operand operands =>
      unfold Engine.bindArguments
      dsimp only
      rw [looks.convert]
      split
      · exact ih operands
      · rfl

theorem present (looks : registry.OnlyLooks) (host : σ) (value : Value) :
    (registry.present host value).2 = host := by
  unfold Registry.present
  split
  · rename_i presenter picked
    obtain ⟨actual, -, nearest⟩ := Option.bind_eq_some_iff.mp picked
    exact looks.presenters presenter (nearestMember strictLess nearest) host value
  · rfl

end OnlyLooks

end Registry

namespace Engine

variable {σ : Type}

theorem Persists.looks {before after : Engine σ} (persists : Persists before after)
    (looks : before.registry.OnlyLooks) : after.registry.OnlyLooks := by
  refine ⟨?_, ?_⟩
  · rw [persists.converters, persists.types]
    exact looks.converters
  · rw [persists.presenters, persists.types]
    exact looks.presenters

def Reacts {α : Type} (engine : Engine σ) (run : Run σ α) : Prop :=
  run.engine.host = engine.registry.reacted engine.host run.calls

theorem Reacts.map {α β : Type} {engine : Engine σ} {run : Run σ α} (reacts : Reacts engine run)
    (f : α → β) : Reacts engine (run.map f) := reacts

theorem reactsSilent {α : Type} {engine : Engine σ} {run : Run σ α}
    (kept : run.engine.host = engine.host) (silent : run.calls = []) : Reacts engine run := by
  rw [Reacts, silent, kept]
  rfl

theorem andThenReacts {α β : Type} {engine : Engine σ} {run : Run σ α}
    {next : α → Engine σ → Run σ β} (first : Reacts engine run)
    (commands : run.engine.registry.commands = engine.registry.commands)
    (later : ∀ value, Reacts run.engine (next value run.engine)) :
    Reacts engine (run.andThen next) := by
  cases outcome : run.outcome with
  | error error =>
    rw [Run.andThen, outcome]
    exact first
  | ok value =>
    have after := later value
    rw [Reacts, Registry.reactedSame commands, first] at after
    rw [Run.andThenOf outcome, Reacts, Run.calls, Run.after, List.filterMap_append]
    exact after.trans List.foldl_append.symm

theorem hostReacts {engine : Engine σ} {command : Command σ} {type : Option TypeTag}
    {handler : HostHandler σ}
    (found : engine.registry.commandNamed? command.name = some command)
    (byHost : command.action = .host type handler) (target : Option Value)
    (arguments : List Value) : Reacts engine (engine.runHost command handler target arguments) := by
  have reacts : engine.registry.react engine.host (callOf command target arguments) =
      (handler engine.host target arguments).2 := by
    unfold Registry.react callOf
    simp only [found, Option.map_some, byHost]
  unfold runHost
  split
  rename_i reply host ran
  rw [ran] at reacts
  split <;> exact reacts.symm

variable [Host σ]

theorem builtinKeeps {engine : Engine σ} (looks : engine.registry.OnlyLooks) (action : Builtin)
    (operator : Token) (arguments : List Value) :
    (action.run engine operator arguments).engine.host = engine.host := by
  have kept {act : Value → Value → Run σ Value}
      (acts : ∀ a b, (act a b).engine.host = engine.host) :
      (Builtin.withTwo engine operator arguments act).engine.host = engine.host :=
    @withTwoHolds σ (fun run => run.engine.host = engine.host) engine operator arguments act rfl
      fun a b _ => acts a b
  cases action with
  | index =>
    refine kept fun value index => ?_
    unfold Builtin.indexing
    split <;> rfl
  | property =>
    refine kept fun value name => ?_
    unfold Builtin.reading
    dsimp only
    split <;> rfl
  | setVariable =>
    refine kept fun name value => ?_
    unfold Builtin.assigning
    dsimp only
    split <;> rfl
  | describe =>
    change (Builtin.describing engine (arguments.head?.getD .null)).engine.host = engine.host
    have presented := looks.present engine.host (arguments.head?.getD .null)
    unfold Builtin.describing
    split
    rename_i lines host described
    rw [described] at presented
    split <;> exact presented
  | _ => rfl

theorem invokeReacts {engine : Engine σ} (looks : engine.registry.OnlyLooks)
    {command : Command σ} (found : engine.registry.commandNamed? command.name = some command)
    (operator : Token) (arguments below : List Value) :
    Reacts engine (engine.invoke command operator arguments below) := by
  unfold invoke
  split
  · rename_i action isBuiltin
    have reacts : engine.registry.react engine.host (callOf command none arguments) =
        engine.host := by
      unfold Registry.react callOf
      simp only [found, Option.map_some, isBuiltin]
    have works := builtinWorks action engine operator arguments
    refine Reacts.map ?_ _
    rw [Reacts, Run.calls, Run.after, List.filterMap_append, works.calls]
    exact (builtinKeeps looks ..).trans reacts.symm
  · rename_i byHost
    exact (hostReacts found byHost ..).map _
  · rename_i type handler byHost
    split
    · exact reactsSilent rfl rfl
    · exact (hostReacts found byHost ..).map _

theorem callReacts {engine : Engine σ} (looks : engine.registry.OnlyLooks) (stack : List Value)
    (operator : Token) : Reacts engine (engine.call stack operator) := by
  unfold call
  cases found : engine.registry.command? operator.value with
  | none => exact reactsSilent rfl rfl
  | some command =>
    obtain ⟨isEnabled, name⟩ := Registry.foundOnly found
    rw [← name, Registry.command?, if_pos isEnabled] at found
    dsimp only
    split
    · exact reactsSilent rfl rfl
    · rw [looks.bind]
      split
      · exact reactsSilent rfl rfl
      · exact invokeReacts looks found ..

theorem stepReacts {engine : Engine σ} (looks : engine.registry.OnlyLooks) (stack : List Value)
    (token : Token) : Reacts engine (engine.step stack token) := by
  unfold step
  split
  · exact reactsSilent rfl rfl
  · split <;> exact reactsSilent rfl rfl
  · split <;> exact reactsSilent rfl rfl
  · exact callReacts looks stack token
  · exact reactsSilent rfl rfl

theorem stepsReact {engine : Engine σ} (looks : engine.registry.OnlyLooks) (stack : List Value)
    (tokens : List Token) : Reacts engine (engine.steps stack tokens) := by
  induction tokens generalizing engine stack with
  | nil => exact reactsSilent rfl rfl
  | cons token rest ih =>
    have evolves := stepEvolves engine stack token
    exact andThenReacts (stepReacts looks stack token) evolves.commands fun next =>
      ih (evolves.persists.looks looks) next

omit [Host σ] in
theorem concludeReacts {engine : Engine σ} (looks : engine.registry.OnlyLooks) (result : Value) :
    Reacts engine (engine.conclude result) := by
  have silent : ∀ entries : List LogEntry, (entries.map Event.emitted).filterMap Event.call? = [] :=
    fun entries => List.filterMap_eq_nil_iff.mpr (by simp [Event.call?])
  unfold conclude
  dsimp only
  split
  · exact reactsSilent rfl rfl
  · exact reactsSilent rfl rfl
  · refine reactsSilent ?_ (silent _)
    exact looks.present engine.host result

theorem evaluateReacts {engine : Engine σ} (looks : engine.registry.OnlyLooks)
    (tokens : List Token) : Reacts engine (engine.evaluate tokens) :=
  andThenReacts (stepsReact looks [] tokens) (stepsEvolves engine [] tokens).commands
    fun _ => reactsSilent rfl rfl

theorem evaluatedReacts {engine : Engine σ} (looks : engine.registry.OnlyLooks)
    (source : String) :
    Reacts engine (engine.evaluated source) ∧ Evolves engine (engine.evaluated source).engine := by
  unfold evaluated
  split
  · split
    · exact ⟨evaluateReacts looks _, evaluateEvolves ..⟩
    · exact ⟨reactsSilent rfl rfl, .refl engine⟩
  · exact ⟨reactsSilent rfl rfl, .refl engine⟩

theorem runReacts {engine : Engine σ} (looks : engine.registry.OnlyLooks) (source : String) :
    Reacts engine (engine.run source) := by
  obtain ⟨notes, ran⟩ := engine.runEvaluated source
  obtain ⟨evaluated, evolves⟩ := evaluatedReacts looks source
  have noted : (notes.map Event.noted).filterMap Event.call? = [] :=
    List.filterMap_eq_nil_iff.mpr (by simp [Event.call?])
  rw [ran, Reacts, Run.calls, Run.after, List.filterMap_append, noted]
  exact andThenReacts evaluated evolves.commands fun result =>
    concludeReacts (evolves.persists.looks looks) result

theorem submitReacts {engine : Engine σ} (looks : engine.registry.OnlyLooks) (source : String) :
    Reacts engine (engine.submit source) := by
  have shown : ∀ (engine : Engine σ) outcome,
      (engine.outcomeEvents source outcome).filterMap Event.call? = [] := by
    intro engine outcome
    unfold outcomeEvents
    split <;> rfl
  have ran := runReacts looks source
  unfold submit
  split
  · exact reactsSilent rfl rfl
  · dsimp only
    rw [Reacts, Run.calls, List.filterMap_append, shown, List.append_nil]
    exact ran

theorem submitPersists (engine : Engine σ) (source : String) :
    Persists engine (engine.submit source).engine :=
  (resultPersists ..).trans (answerEvolves engine (.submit source)).persists

def submitAll (engine : Engine σ) : List String → List Invocation × Engine σ
  | [] => ([], engine)
  | line :: rest =>
      let run := engine.submit line
      let (calls, last) := submitAll run.engine rest
      (run.calls ++ calls, last)

theorem submitAllPersists (engine : Engine σ) (lines : List String) :
    Persists engine (engine.submitAll lines).2 := by
  induction lines generalizing engine with
  | nil => exact .refl engine
  | cons line rest ih => exact (submitPersists engine line).trans (ih _)

theorem submitAllReacts {engine : Engine σ} (looks : engine.registry.OnlyLooks)
    (lines : List String) :
    (engine.submitAll lines).2.host =
      engine.registry.reacted engine.host (engine.submitAll lines).1 := by
  induction lines generalizing engine with
  | nil => rfl
  | cons line rest ih =>
    have persists := submitPersists engine line
    have first := submitReacts looks line
    have later := ih (persists.looks looks)
    rw [Registry.reactedSame persists.commands, first] at later
    exact later.trans List.foldl_append.symm

end Engine
end LiveConsole
