import LiveConsole.Proofs.Evaluation.Session

/-! What a line writes. Built-in commands write while they work, in the order in which they are
invoked, and nothing else writes before the line has come to its end. Then come the description of
the result and, if the line was submitted, the result itself or the reason why there is none. -/
namespace LiveConsole

def Builtin.writes : Builtin → Bool
  | .help | .usage | .listVariables | .describe => true
  | _ => false

structure Job (σ : Type) where
  engine : Engine σ
  name : String
  action : Builtin
  operator : Token
  arguments : List Value

namespace Job

variable {σ : Type}

def call (job : Job σ) : Invocation := ⟨job.name, false, none, job.arguments⟩

variable [Host σ]

def run (job : Job σ) : Run σ Value := job.action.run job.engine job.operator job.arguments

def entries (job : Job σ) : List LogEntry := entriesOf job.run.events

theorem writesOnce (job : Job σ) (writes : job.action.writes = true) :
    ∃ text, job.entries = [⟨.log, text⟩] := by
  obtain ⟨engine, name, action, operator, arguments⟩ := job
  cases action with
  | help => exact ⟨_, rfl⟩
  | usage => exact ⟨_, rfl⟩
  | listVariables => exact ⟨_, rfl⟩
  | describe =>
    change ∃ text, entriesOf (Builtin.describing engine (arguments.head?.getD .null)).events = _
    unfold Builtin.describing
    split
    split <;> exact ⟨_, rfl⟩
  | _ => contradiction

theorem writesNothing (job : Job σ) (silent : job.action.writes = false) : job.entries = [] := by
  obtain ⟨engine, name, action, operator, arguments⟩ := job
  have unwritten {act : Value → Value → Run σ Value} (acts : ∀ a b, (act a b).events = []) :
      (Builtin.withTwo engine operator arguments act).events = [] :=
    @Engine.withTwoHolds σ (fun run => run.events = []) engine operator arguments act rfl
      fun a b _ => acts a b
  have nothing : (action.run engine operator arguments).events = [] := by
    cases action with
    | index =>
      refine unwritten fun value index => ?_
      unfold Builtin.indexing
      split <;> rfl
    | property =>
      refine unwritten fun value name => ?_
      unfold Builtin.reading
      dsimp only
      split <;> rfl
    | setVariable =>
      refine unwritten fun name value => ?_
      unfold Builtin.assigning
      dsimp only
      split <;> rfl
    | help | usage | listVariables | describe => contradiction
    | _ => rfl
  exact congrArg entriesOf nothing

end Job

def ownCalls (events : List Event) : List Invocation :=
  (events.filterMap Event.call?).filter fun call => !call.byHost

theorem entriesAppend (events later : List Event) :
    entriesOf (events ++ later) = entriesOf events ++ entriesOf later :=
  List.filterMap_append

theorem ownCallsAppend (events later : List Event) :
    ownCalls (events ++ later) = ownCalls events ++ ownCalls later := by
  unfold ownCalls
  rw [List.filterMap_append, List.filter_append]

structure Accounts {σ α : Type} [Host σ] (run : Run σ α) (jobs : List (Job σ)) : Prop where
  entries : entriesOf run.events = jobs.flatMap Job.entries
  calls : ownCalls run.events = jobs.map Job.call

namespace Accounts

variable {σ α β : Type} [Host σ]

theorem silent {run : Run σ α} (nothing : run.events = []) : Accounts run [] :=
  ⟨by rw [nothing]; rfl, by rw [nothing]; rfl⟩

theorem map {run : Run σ α} {jobs : List (Job σ)} (accounts : Accounts run jobs) (f : α → β) :
    Accounts (run.map f) jobs := ⟨accounts.entries, accounts.calls⟩

theorem append {run : Run σ α} {later : Run σ β} {jobs others : List (Job σ)}
    (first : Accounts run jobs) (second : Accounts later others) :
    Accounts (later.after run.events) (jobs ++ others) where
  entries := by
    rw [Run.after, entriesAppend, first.entries, second.entries, List.flatMap_append]
  calls := by
    rw [Run.after, ownCallsAppend, first.calls, second.calls, List.map_append]

theorem andThen {run : Run σ α} {jobs : List (Job σ)} (first : Accounts run jobs)
    {next : α → Engine σ → Run σ β} (later : ∀ value engine, Accounts (next value engine) []) :
    Accounts (run.andThen next) jobs := by
  cases outcome : run.outcome with
  | error error =>
    rw [Run.andThen, outcome]
    exact ⟨first.entries, first.calls⟩
  | ok value =>
    rw [Run.andThenOf outcome, ← List.append_nil jobs]
    exact first.append (later ..)

end Accounts

def Registry.description {σ : Type} (registry : Registry σ) (host : σ) (value : Value) :
    List LogEntry :=
  match registry.presenterFor? value with
  | none => []
  | some presenter =>
      match (presenter.lines host value registry.types).1 with
      | [] => []
      | first :: others => [⟨.log, "\n".intercalate (first :: others)⟩]

theorem Registry.descriptionPresented {σ : Type} (registry : Registry σ) (host : σ)
    (value : Value) :
    Presenter.entries (registry.present host value).1 = registry.description host value := by
  unfold present description
  cases registry.presenterFor? value with
  | none => rfl
  | some presenter =>
    dsimp only
    cases (presenter.lines host value registry.types).1 <;> rfl

namespace Engine

variable {σ : Type}

theorem hostAccounts [Host σ] (engine : Engine σ) {command : Command σ} {type : Option TypeTag}
    {handler : HostHandler σ} (byHost : command.action = .host type handler)
    (target : Option Value) (arguments : List Value) :
    Accounts (engine.runHost command handler target arguments) [] := by
  have foreign : (!(callOf command target arguments).byHost) = false := by
    simp [callOf, Command.isBuiltin, byHost]
  unfold runHost
  split
  split <;> exact ⟨rfl, by simp [ownCalls, Event.call?, foreign]⟩

variable [Host σ]

def job? (engine : Engine σ) (stack : List Value) (operator : Token) : Option (Job σ) :=
  match engine.registry.command? operator.value with
  | none => none
  | some command =>
      if stack.length < command.arity then none
      else match command.action, bindArguments engine.registry operator engine.host
          command.parameters (stack.take command.arity).reverse with
        | .builtin action, (.ok arguments, host) =>
            some ⟨engine.withHost host, command.name, action, operator, arguments⟩
        | _, _ => none

theorem builtinAccounts {command : Command σ} {action : Builtin}
    (isBuiltin : command.action = .builtin action) (engine : Engine σ) (operator : Token)
    (arguments : List Value) :
    Accounts ((action.run engine operator arguments).after
      [.invoked (callOf command none arguments)])
      [⟨engine, command.name, action, operator, arguments⟩] := by
  have own : callOf command none arguments = ⟨command.name, false, none, arguments⟩ := by
    simp [callOf, Command.isBuiltin, isBuiltin]
  have calls := (builtinWorks action engine operator arguments).calls
  refine ⟨(List.append_nil _).symm, ?_⟩
  simp [Run.after, ownCalls, Event.call?, own, calls, Job.call]

theorem callAccounts (engine : Engine σ) (stack : List Value) (operator : Token) :
    Accounts (engine.call stack operator) (engine.job? stack operator).toList := by
  unfold call job?
  cases engine.registry.command? operator.value with
  | none => exact .silent rfl
  | some command =>
    dsimp only
    by_cases few : stack.length < command.arity
    · rw [if_pos few, if_pos few]
      exact .silent rfl
    · rw [if_neg few, if_neg few]
      obtain ⟨bound, host⟩ := bindArguments engine.registry operator engine.host
        command.parameters (stack.take command.arity).reverse
      cases bound with
      | error error =>
        cases command.action <;> exact .silent rfl
      | ok arguments =>
        unfold invoke
        cases action : command.action with
        | builtin builtin => exact (builtinAccounts action ..).map _
        | host type handler =>
          cases type with
          | none => exact (hostAccounts _ action ..).map _
          | some type =>
            dsimp only
            split
            · exact .silent rfl
            · exact (hostAccounts _ action ..).map _

def jobs (engine : Engine σ) (stack : List Value) : List Token → List (Job σ)
  | [] => []
  | token :: rest =>
      let here := if token.kind = .command then (engine.job? stack token).toList else []
      let run := engine.step stack token
      match run.outcome with
      | .ok next => here ++ jobs run.engine next rest
      | .error _ => here

theorem stepAccounts (engine : Engine σ) (stack : List Value) (token : Token) :
    Accounts (engine.step stack token)
      (if token.kind = .command then (engine.job? stack token).toList else []) := by
  by_cases isCommand : token.kind = .command
  · rw [if_pos isCommand, stepCommand isCommand]
    exact callAccounts engine stack token
  · rw [if_neg isCommand]
    refine .silent ?_
    unfold step
    split
    · rfl
    · split <;> rfl
    · split <;> rfl
    · contradiction
    · rfl

theorem stepsAccounts (engine : Engine σ) (stack : List Value) (tokens : List Token) :
    Accounts (engine.steps stack tokens) (engine.jobs stack tokens) := by
  induction tokens generalizing engine stack with
  | nil => exact .silent rfl
  | cons token rest ih =>
    have first := stepAccounts engine stack token
    unfold steps jobs
    dsimp only
    cases outcome : (engine.step stack token).outcome with
    | error error =>
      unfold Run.andThen
      rw [outcome]
      exact ⟨first.entries, first.calls⟩
    | ok next =>
      rw [Run.andThenOf outcome]
      exact first.append (ih ..)

def evaluated (engine : Engine σ) (source : String) : Run σ Value :=
  if engine.registry.isEnabled then
    match engine.compile? source with
    | some tokens => engine.evaluate tokens
    | none => .fail .invalidCommand engine
  else .fail .notReady engine

def lineJobs (engine : Engine σ) (source : String) : List (Job σ) :=
  if engine.registry.isEnabled then
    match engine.compile? source with
    | some tokens => engine.jobs [] tokens
    | none => []
  else []

def described (engine : Engine σ) : Except CommandError Value → List LogEntry
  | .error _ | .ok .null | .ok (.string _) => []
  | .ok result => engine.registry.description engine.host result

def echoed (engine : Engine σ) (source : String) : Except CommandError Value → List LogEntry
  | .ok .null => []
  | .ok result => [⟨.log, "'" ++ result.display engine.host ++ "'"⟩]
  | .error error => [⟨.exception, source⟩, ⟨.exception, error.message⟩]

theorem evaluatedAccounts (engine : Engine σ) (source : String) :
    Accounts (engine.evaluated source) (engine.lineJobs source) := by
  unfold evaluated lineJobs
  split
  · split
    · exact (stepsAccounts ..).andThen fun _ _ => .silent rfl
    · exact .silent rfl
  · exact .silent rfl

omit [Host σ] in
theorem concludeDescribes (engine : Engine σ) (result : Value) :
    entriesOf (engine.conclude result).events = engine.described (.ok result) ∧
      ownCalls (engine.conclude result).events = [] := by
  have silent : ∀ entries : List LogEntry, entriesOf (entries.map .emitted) = entries ∧
      ownCalls (entries.map .emitted) = [] := by
    intro entries
    induction entries with
    | nil => exact ⟨rfl, rfl⟩
    | cons entry rest ih => exact ⟨congrArg (entry :: ·) ih.1, ih.2⟩
  cases result with
  | null => exact ⟨rfl, rfl⟩
  | string text => exact ⟨rfl, rfl⟩
  | _ => exact ⟨(silent _).1.trans (Registry.descriptionPresented ..), (silent _).2⟩

theorem runEvaluated (engine : Engine σ) (source : String) :
    ∃ notes : List Note, engine.run source =
      ((engine.evaluated source).andThen fun result engine => engine.conclude result).after
        (notes.map .noted) := by
  unfold run evaluated
  split
  · rename_i isEnabled
    refine ⟨engine.compileNotes source, ?_⟩
    cases engine.compile? source with
    | none => rfl
    | some tokens =>
      dsimp only
      rw [execute, if_pos isEnabled]
  · exact ⟨[], rfl⟩

omit [Host σ] in
theorem notesSilent (notes : List Note) : entriesOf (notes.map .noted) = [] ∧
    ownCalls (notes.map .noted) = [] := by
  induction notes with
  | nil => exact ⟨rfl, rfl⟩
  | cons note rest ih => exact ih

structure Transcribed (engine : Engine σ) (source : String) : Prop where
  outcome : (engine.run source).outcome = (engine.evaluated source).outcome
  jobs : ownCalls (engine.run source).events = (engine.lineJobs source).map Job.call
  writers : ∀ job ∈ engine.lineJobs source,
    job.action.writes = true → ∃ text, job.entries = [⟨.log, text⟩]
  others : ∀ job ∈ engine.lineJobs source, job.action.writes = false → job.entries = []
  entries : entriesOf (engine.run source).events =
    (engine.lineJobs source).flatMap Job.entries ++
      (engine.evaluated source).engine.described (engine.run source).outcome
  logged : ∀ entry ∈ entriesOf (engine.run source).events, entry.level = .log
  blank : Text.isBlankText source = true → engine.submit source = .ok .null engine
  submitted : Text.isBlankText source = false →
    (engine.submit source).outcome = (engine.run source).outcome ∧
    (engine.submit source).engine = (engine.run source).engine ∧
    entriesOf (engine.submit source).events = entriesOf (engine.run source).events ++
      (engine.run source).engine.echoed source (engine.run source).outcome

theorem runTranscribed (engine : Engine σ) (source : String) :
    (engine.run source).outcome = (engine.evaluated source).outcome ∧
    ownCalls (engine.run source).events = (engine.lineJobs source).map Job.call ∧
    entriesOf (engine.run source).events =
      (engine.lineJobs source).flatMap Job.entries ++
        (engine.evaluated source).engine.described (engine.run source).outcome := by
  have accounts := evaluatedAccounts engine source
  obtain ⟨notes, ran⟩ := engine.runEvaluated source
  obtain ⟨unwritten, uncalled⟩ := notesSilent notes
  rw [ran]
  simp only [Run.after, entriesAppend, ownCallsAppend, unwritten, uncalled, List.nil_append]
  cases outcome : (engine.evaluated source).outcome with
  | error error =>
    rw [Run.andThen, outcome]
    exact ⟨rfl, accounts.calls, accounts.entries.trans (List.append_nil _).symm⟩
  | ok result =>
    obtain ⟨described, alone⟩ := (engine.evaluated source).engine.concludeDescribes result
    rw [Run.andThenOf outcome]
    simp only [Run.after, entriesAppend, ownCallsAppend, concludeOutcome, accounts.entries,
      accounts.calls, described, alone, List.append_nil, and_self]

theorem echoedEntries (engine : Engine σ) (source : String)
    (outcome : Except CommandError Value) :
    entriesOf (engine.outcomeEvents source outcome) = engine.echoed source outcome := by
  cases outcome with
  | error error => rfl
  | ok result => cases result <;> rfl

omit [Host σ] in
theorem describedLogged (engine : Engine σ) (outcome : Except CommandError Value) :
    ∀ entry ∈ engine.described outcome, entry.level = .log := by
  unfold described Registry.description
  split
  · simp
  · simp
  · simp
  · split
    · simp
    · split <;> simp

theorem linesAreTranscribed (engine : Engine σ) (source : String) :
    Transcribed engine source := by
  obtain ⟨outcome, jobs, entries⟩ := engine.runTranscribed source
  refine ⟨outcome, jobs, fun job _ => job.writesOnce, fun job _ => job.writesNothing, entries,
    fun entry member => ?_, fun blank => ?_, fun filled => ?_⟩
  · rw [entries] at member
    rcases List.mem_append.mp member with written | described
    · obtain ⟨job, -, wrote⟩ := List.mem_flatMap.mp written
      cases writes : job.action.writes with
      | false => simp [job.writesNothing writes] at wrote
      | true =>
        obtain ⟨text, once⟩ := job.writesOnce writes
        rw [once, List.mem_singleton] at wrote
        rw [wrote]
    · exact describedLogged _ _ entry described
  · rw [submit, if_pos blank]
  · rw [submit, filled]
    exact ⟨rfl, rfl, (entriesAppend ..).trans (congrArg _ (echoedEntries ..))⟩

theorem listingBeforeFailure :
    Transcribed (plain Scene.empty) "getvars->x" ∧
      entriesOf ((plain Scene.empty).submit "getvars->x").events =
        [⟨.log, "No variables"⟩, ⟨.exception, "getvars->x"⟩,
          ⟨.exception, "Unknown property 'x'"⟩] := by
  have transcribed := linesAreTranscribed (plain Scene.empty) "getvars->x"
  obtain ⟨-, -, shown⟩ := transcribed.submitted (by decide)
  have compiled : (plain Scene.empty).compile? "getvars->x" =
    some [.synthetic "getvars" 0, .ofKind .string (.bare .command "x" 9),
      .synthetic propertyName 7] := by cbv
  have failed : ((plain Scene.empty).run "getvars->x").outcome =
      .error (.ofOperand .unknownProperty "x" (.synthetic propertyName 7)) := by
    rw [transcribed.outcome, evaluated, compiled]
    cbv
  have written : ((plain Scene.empty).lineJobs "getvars->x").flatMap Job.entries =
      [⟨.log, "No variables"⟩] := by
    rw [lineJobs, compiled]
    cbv
  rw [transcribed.entries, failed, written] at shown
  exact ⟨transcribed, shown⟩

end Engine
end LiveConsole
