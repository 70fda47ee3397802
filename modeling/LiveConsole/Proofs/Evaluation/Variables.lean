import LiveConsole.Proofs.Evaluation.Session
import LiveConsole.Proofs.Evaluation.Typing
import LiveConsole.Proofs.Keyed
import LiveConsole.Proofs.Line.Boundary

/-! Session variables. The assignments that were completed, in the order of execution, say what the
variables are: each name once, in the order in which the names were first assigned to, with the value
that it was assigned last. An assignment counts also if the rest of its line fails. -/
namespace LiveConsole
open Text

abbrev Writes := List (String × Value)

namespace Bindings

theorem setPut (bindings : Bindings) (name : String) (value : Value) :
    bindings.set name value = Keyed.put Prod.fst (name, value) bindings := by
  induction bindings with
  | nil => rfl
  | cons binding rest ih =>
    obtain ⟨key, old⟩ := binding
    rw [set, Keyed.put, ih]
    by_cases same : key = name
    · rw [if_pos (beq_iff_eq.mpr same), if_pos same, same]
    · rw [if_neg (by simpa using same), if_neg same]

theorem getUnder (bindings : Bindings) (name : String) :
    bindings.get? name = (Keyed.under? Prod.fst name bindings).map Prod.snd := by
  induction bindings with
  | nil => rfl
  | cons binding rest ih =>
    obtain ⟨key, value⟩ := binding
    rw [getCons, ih]
    unfold Keyed.under?
    by_cases same : name = key
    · simp [same]
    · simp [same, Ne.symm same]

end Bindings

namespace Registry

variable {σ : Type} [Host σ]

def assignment? (registry : Registry σ) (host : σ) (call : Invocation) :
    Option (String × Value) :=
  (registry.command? call.command).bind fun command =>
    match command.action, call.arguments with
    | .builtin .setVariable, [name, value] => some (name.display host, value)
    | _, _ => none

theorem assignmentOther {registry : Registry σ} {host : σ} {call : Invocation}
    {command : Command σ} (found : registry.command? call.command = some command)
    (other : command.action ≠ .builtin .setVariable) : registry.assignment? host call = none := by
  unfold assignment?
  rw [found, Option.bind_some]
  split
  · contradiction
  · rfl

end Registry

namespace Engine

variable {σ : Type} [Host σ]

/- The assignments among the calls of a run, which count only if the run succeeds. -/
def completed {α : Type} (run : Run σ α) : Writes :=
  match run.outcome with
  | .ok _ => (run.events.filterMap Event.call?).filterMap
      (run.engine.registry.assignment? run.engine.host)
  | .error _ => []

def writes (engine : Engine σ) (stack : List Value) : List Token → Writes
  | [] => []
  | token :: rest =>
      let run := engine.step stack token
      completed run ++ match run.outcome with
        | .ok stack => writes run.engine stack rest
        | .error _ => []

def bindings (engine : Engine σ) : Bindings := engine.registry.sessionVariables

theorem completedError {α : Type} {run : Run σ α} {error : CommandError}
    (failed : run.outcome = .error error) : completed run = [] := by
  unfold completed
  rw [failed]

theorem completedOne {α : Type} {run : Run σ α} {value : α} {call : Invocation}
    (ok : run.outcome = .ok value) (calls : run.events.filterMap Event.call? = [call]) :
    completed run = (run.engine.registry.assignment? run.engine.host call).toList := by
  unfold completed
  rw [ok, calls]
  dsimp only
  cases assigned : run.engine.registry.assignment? run.engine.host call with
  | none => rw [List.filterMap_cons_none assigned]; rfl
  | some write => rw [List.filterMap_cons_some assigned]; rfl

def Stores {α : Type} (engine : Engine σ) (run : Run σ α) : Prop :=
  run.engine.bindings = Keyed.putAll Prod.fst engine.bindings (completed run)

theorem storesNothing {α : Type} {engine : Engine σ} {run : Run σ α}
    (same : run.engine.bindings = engine.bindings) (nothing : completed run = []) :
    Stores engine run := by
  rw [Stores, nothing, same]
  rfl

theorem invocationStores {command : Command σ} {target : Option Value} {engine : Engine σ}
    (found : engine.registry.command? command.name = some command)
    (fits : TargetFits engine.types command target) (operator : Token) (arguments : List Value) :
    Stores engine (engine.invocation command operator target arguments) := by
  -- The one call of a command that does not assign is no assignment, if it is found at all.
  have other : ∀ {run : Run σ Value}, run.engine.registry.command? command.name = some command →
      command.action ≠ .builtin .setVariable → run.engine.bindings = engine.bindings →
      run.events.filterMap Event.call? = [callOf command target arguments] → Stores engine run := by
    intro run there differs same calls
    refine storesNothing same ?_
    cases outcome : run.outcome with
    | error error => exact completedError outcome
    | ok result =>
      rw [completedOne outcome calls, Registry.assignmentOther there differs]
      rfl
  have calls := invocationCalls fits engine operator arguments
  unfold invocation at calls ⊢
  cases action : command.action with
  | host type handler =>
    rw [action] at calls
    have differs : command.action ≠ .builtin .setVariable := by simp [action]
    unfold runHost at calls ⊢
    dsimp only at calls ⊢
    split at calls <;> exact other found differs rfl calls
  | builtin builtin =>
    rw [action] at calls
    dsimp only at calls ⊢
    have ran := builtinRan builtin engine operator arguments
    generalize builtin.run engine operator arguments = run at ran calls ⊢
    cases ran with
    | fails named => exact storesNothing rfl (completedError rfl)
    | gives differs => exact other found (by simpa [action] using differs) rfl calls
    | shows differs => exact other found (by simpa [action] using differs) rfl calls
    | @assigns name value isAssignment pair =>
      have named : (engine.registry.setVariable (name.display engine.host) value).command?
          command.name = some command := found
      rw [Stores, completedOne rfl calls]
      unfold Registry.assignment? callOf
      change _ = Keyed.putAll Prod.fst _ (Option.bind
        ((engine.registry.setVariable (name.display engine.host) value).command?
          command.name) _).toList
      rw [named, Option.bind_some, action, isAssignment, pair]
      exact Bindings.setPut ..

theorem callStores (engine : Engine σ) (stack : List Value) (operator : Token) :
    Stores engine (engine.call stack operator) := by
  have step := called engine stack operator
  generalize engine.call stack operator = run at step ⊢
  cases step with
  | refused error host => exact storesNothing rfl (completedError rfl)
  | @invoked command operands target below arguments host divides typed =>
    have named : command.name = operator.value := (Registry.foundOnly divides.found).2
    have found : (engine.withHost host).registry.command? command.name = some command := by
      rw [named]
      exact divides.found
    have stores := invocationStores found divides.fits operator arguments
    generalize (engine.withHost host).invocation command operator target arguments = run at stores
    -- The result is put on the stack, and that changes nothing here.
    obtain ⟨outcome, engine, events⟩ := run
    cases outcome <;> exact stores

theorem stepStores (engine : Engine σ) (stack : List Value) (token : Token) :
    Stores engine (engine.step stack token) := by
  have nothing : ∀ stack : List Value, Stores engine (.ok stack engine) :=
    fun stack => storesNothing rfl rfl
  have failing : ∀ error, Stores engine (.fail error engine : Run σ (List Value)) :=
    fun error => storesNothing rfl rfl
  unfold step
  split
  · exact nothing _
  · split
    · exact nothing _
    · exact failing _
  · split
    · exact nothing _
    · exact failing _
  · exact callStores engine stack token
  · exact failing _

theorem stepsStore (engine : Engine σ) (stack : List Value) (tokens : List Token) :
    (engine.steps stack tokens).engine.bindings =
      Keyed.putAll Prod.fst engine.bindings (engine.writes stack tokens) := by
  induction tokens generalizing engine stack with
  | nil => rfl
  | cons token rest ih =>
    have first := stepStores engine stack token
    unfold Stores at first
    rw [steps, writes]
    cases outcome : (engine.step stack token).outcome with
    | error error =>
      rw [Run.andThen, outcome, List.append_nil]
      exact first
    | ok next =>
      rw [Run.andThenOf outcome, Keyed.putAll, List.foldl_append]
      change ((engine.step stack token).engine.steps next rest).engine.bindings = _
      rw [ih, first]
      rfl

def executeWrites (engine : Engine σ) (tokens : List Token) : Writes :=
  if engine.registry.isEnabled then engine.writes [] tokens else []

def lineWrites (engine : Engine σ) (source : String) : Writes :=
  match engine.compile? source with
  | some tokens => engine.executeWrites tokens
  | none => []

def requestWrites (engine : Engine σ) : Request → Writes
  | .run source => engine.lineWrites source
  | .submit source => if isBlankText source then [] else engine.lineWrites source
  | .execute tokens => engine.executeWrites tokens
  | .simulate .. | .hint .. => []

omit [Host σ] in
theorem concludeKeeps (engine : Engine σ) (value : Value) :
    (engine.conclude value).engine.bindings = engine.bindings := by
  unfold conclude
  dsimp only
  split <;> rfl

theorem executeStores (engine : Engine σ) (tokens : List Token) :
    (engine.execute tokens).engine.bindings =
      Keyed.putAll Prod.fst engine.bindings (engine.executeWrites tokens) := by
  unfold execute executeWrites
  split
  · have evaluated : (engine.evaluate tokens).engine.bindings =
        Keyed.putAll Prod.fst engine.bindings (engine.writes [] tokens) := by
      rw [← stepsStore]
      unfold evaluate Run.andThen
      split <;> rfl
    rw [← evaluated]
    unfold Run.andThen
    split
    · rfl
    · exact concludeKeeps ..
  · rfl

theorem lineStores (engine : Engine σ) (source : String) :
    (engine.run source).engine.bindings =
      Keyed.putAll Prod.fst engine.bindings (engine.lineWrites source) := by
  unfold run lineWrites
  split
  · cases engine.compile? source with
    | none => rfl
    | some tokens => exact executeStores engine tokens
  · rename_i disabled
    cases engine.compile? source with
    | none => rfl
    | some tokens =>
      dsimp only
      rw [executeWrites, if_neg disabled]
      rfl

theorem answerStores (engine : Engine σ) (request : Request) :
    (engine.answer request).2.bindings =
      Keyed.putAll Prod.fst engine.bindings (engine.requestWrites request) := by
  cases request with
  | run source => exact lineStores engine source
  | execute tokens => exact executeStores engine tokens
  | submit source =>
    unfold answer submit requestWrites
    dsimp only
    split
    · rfl
    · exact lineStores engine source
  | simulate source cursor => rfl
  | hint source cursor => rfl

inductive Wrote : Engine σ → History σ → Writes → Engine σ → Prop where
  | done (engine : Engine σ) : Wrote engine [] [] engine
  | request {engine last : Engine σ} {rest : History σ} {writes : Writes} (request : Request)
      (later : Wrote (engine.answer request).2 rest writes last) :
      Wrote engine ((request, (engine.answer request).1) :: rest)
        (engine.requestWrites request ++ writes) last
  | host {engine last : Engine σ} {history : History σ} {writes : Writes} (host : σ)
      (later : Wrote (engine.withHost host) history writes last) :
      Wrote engine history writes last

theorem Session.wrote {engine last : Engine σ} {history : History σ}
    (session : Session engine history last) : ∃ writes, Wrote engine history writes last := by
  induction session with
  | done engine => exact ⟨[], .done engine⟩
  | request request later ih =>
    obtain ⟨writes, wrote⟩ := ih
    exact ⟨_, .request request wrote⟩
  | host host later ih =>
    obtain ⟨writes, wrote⟩ := ih
    exact ⟨writes, .host host wrote⟩

namespace Wrote

variable {engine last : Engine σ} {history : History σ} {writes : Writes}

theorem session (wrote : Wrote engine history writes last) : Session engine history last := by
  induction wrote with
  | done engine => exact .done engine
  | request request later ih => exact .request request ih
  | host host later ih => exact .host host ih

theorem stored (wrote : Wrote engine history writes last) :
    last.bindings = Keyed.putAll Prod.fst engine.bindings writes := by
  induction wrote with
  | done engine => rfl
  | @request engine last rest writes request later ih =>
    rw [ih, answerStores, Keyed.putAll, Keyed.putAll, Keyed.putAll, List.foldl_append]
  | host host later ih => exact ih

theorem kept (wrote : Wrote engine history writes last) :
    engine.bindings.map Prod.fst <+: last.bindings.map Prod.fst := by
  rw [wrote.stored]
  exact Keyed.putAllKept ..

theorem names (wrote : Wrote engine history writes last) (blank : engine.bindings = []) :
    last.bindings.map Prod.fst = (writes.map Prod.fst).eraseDups := by
  rw [wrote.stored, blank, Keyed.putAllKeys]

theorem latest (wrote : Wrote engine history writes last) (blank : engine.bindings = [])
    (name : String) : last.bindings.get? name = writes.reverse.lookup name := by
  rw [Bindings.getUnder, wrote.stored, blank, Keyed.putAllUnder]
  change (Option.or _ none).map Prod.snd = Bindings.get? writes.reverse name
  rw [Option.or_none, Bindings.getUnder]

end Wrote

end Engine

def readingLine (name : String) : String := "$" ++ name

def readingToken (name : String) : Token := .ofLexeme ⟨.variable, name, 0, "$", ""⟩

theorem readingChars (name : String) : (readingLine name).toList = '$' :: name.toList := by
  simp [readingLine]

theorem readingNotBlank (name : String) : isBlankText (readingLine name) = false := by
  have solid : isBlank '$' = false := by decide
  rw [isBlankText, readingChars, List.all_cons, solid, Bool.false_and]

theorem scanReading {name : String} (letters : ∀ c ∈ name.toList, isWord c = true) :
    Lexeme.scan .standard (readingLine name) = [⟨.variable, name, 0, "$", ""⟩] := by
  have whole : Lexeme.next .standard 0 '$' name.toList = (⟨.variable, name, 0, "$", ""⟩, []) := by
    have plain : Symbols.standard.startsProperty ('$' :: name.toList) = false := by
      simp [Symbols.startsProperty, Symbols.standard, List.isPrefixOf]
    rw [Lexeme.next, plain]
    simp [Symbols.standard, Lexeme.word, List.takeWhile_eq_self_iff.mpr letters,
      List.dropWhile_eq_nil_iff.mpr letters]
  rw [Lexeme.scan, readingChars, Lexeme.scanFrom, if_neg (by decide), whole]
  dsimp only
  rw [Lexeme.scanFrom]

theorem compileReading {name : String} (letters : ∀ c ∈ name.toList, isWord c = true) :
    Rpn.ofSource? .standard (readingLine name) = some [readingToken name] := by
  rw [Rpn.ofSource?, Token.ofSource, scanReading letters]
  rfl

namespace Engine

variable {σ : Type} [Host σ]

def readingOutcome (name : String) : Option Value → Except CommandError Value
  | some value => .ok value
  | none => .error (.unknownVariable (readingToken name))

theorem runReading {engine : Engine σ} (standard : engine.symbols = .standard)
    (isEnabled : engine.registry.isEnabled = true) {name : String}
    (letters : ∀ c ∈ name.toList, isWord c = true) :
    (engine.run (readingLine name)).outcome =
      readingOutcome name (engine.bindings.get? name) := by
  have compiled : engine.compile? (readingLine name) = some [readingToken name] := by
    rw [compile?, standard, compileReading letters]
  have evaluated : (engine.evaluate [readingToken name]).outcome =
      readingOutcome name (engine.bindings.get? name) := by
    change (Run.andThen (Run.andThen (match engine.bindings.get? name with
      | some value => _
      | none => _) _) _).outcome = _
    cases engine.bindings.get? name <;> rfl
  rw [runExecutes isEnabled compiled, execute, if_pos isEnabled, ← evaluated]
  cases outcome : (engine.evaluate [readingToken name]).outcome with
  | error error => rw [Run.andThen, outcome]
  | ok value =>
    rw [Run.andThenOf outcome]
    exact concludeOutcome ..

theorem submitReading (engine : Engine σ) (name : String) :
    (engine.submit (readingLine name)).outcome = (engine.run (readingLine name)).outcome := by
  rw [submit, readingNotBlank]
  rfl

theorem variablesAreReadAsWritten {engine last : Engine σ} {history : History σ}
    {writes : Writes} (standard : engine.settings.symbols = .standard)
    (isEnabled : engine.registry.isEnabled = true)
    (blank : engine.registry.sessionVariables = [])
    (wrote : Wrote engine history writes last) :
    last.registry.sessionVariables.map Prod.fst = (writes.map Prod.fst).eraseDups ∧
    (∀ name, last.registry.sessionVariables.get? name = writes.reverse.lookup name) ∧
    (∀ {later : Engine σ} {more : History σ}, Session last more later →
      last.registry.sessionVariables.map Prod.fst <+:
        later.registry.sessionVariables.map Prod.fst) ∧
    ∀ name, (∀ c ∈ name.toList, isWord c = true) →
      (last.run ("$" ++ name)).outcome =
        readingOutcome name (writes.reverse.lookup name) ∧
      (last.submit ("$" ++ name)).outcome =
        readingOutcome name (writes.reverse.lookup name) := by
  have persists := wrote.session.persists
  have reading : ∀ name, (∀ c ∈ name.toList, isWord c = true) →
      (last.run (readingLine name)).outcome =
        readingOutcome name (writes.reverse.lookup name) := by
    intro name letters
    rw [← wrote.latest blank name]
    exact runReading ((congrArg Settings.symbols persists.settings).trans standard)
      (persists.isEnabled.trans isEnabled) letters
  refine ⟨wrote.names blank, wrote.latest blank, fun session => ?_, fun name letters => ?_⟩
  · obtain ⟨writes, more⟩ := session.wrote
    exact more.kept
  · exact ⟨reading name letters, (submitReading last name).trans (reading name letters)⟩

theorem failedLineAssigns :
    let line := "echo \x7bsetvar 'b' 'x'\x7d \x7bsetvar 'a' \x7bsetvar 'b' 'z'\x7d\x7d"
    ∃ last : Engine Scene,
      Wrote (plain .empty) [(.run line, .outcome (.error .invalidCommand))]
        [("b", .string "x"), ("b", .string "z"), ("a", .string "z")] last ∧
      last.registry.sessionVariables.map Prod.fst = ["b", "a"] ∧
      (last.run "$b").outcome = .ok (.string "z") ∧
      (last.run "$c").outcome = .error (.unknownVariable (readingToken "c")) := by
  intro line
  let operand (text : String) (position : Nat) : Token :=
    .ofLexeme ⟨.string, text, position, "'", "'"⟩
  let setvar (position : Nat) : Token := .synthetic "setvar" position
  have compiled : (plain Scene.empty).compile? line = some [operand "b" 13, operand "x" 17, setvar 6,
      operand "a" 30, operand "b" 42, operand "z" 46, setvar 35, setvar 23, .synthetic "echo" 0] := by
    change Rpn.ofSource? .standard line = _
    cbv
  have assigned : (plain Scene.empty).requestWrites (.run line) =
      [("b", .string "x"), ("b", .string "z"), ("a", .string "z")] := by
    rw [requestWrites, lineWrites, compiled]
    cbv
  have isEnabled : (plain Scene.empty).registry.isEnabled = true := rfl
  have failed : ((plain Scene.empty).answer (.run line)).1 =
      .outcome (.error .invalidCommand) := by
    change Answer.outcome ((plain Scene.empty).run line).outcome = _
    rw [runExecutes isEnabled compiled]
    cbv
  have wrote := Wrote.request (.run line) (.done ((plain Scene.empty).answer (.run line)).2)
  rw [assigned, failed, List.append_nil] at wrote
  generalize ((plain Scene.empty).answer (.run line)).2 = last at wrote
  obtain ⟨names, -, -, reading⟩ := variablesAreReadAsWritten rfl isEnabled rfl wrote
  exact ⟨last, wrote, names.trans (by decide), (reading "b" (List.all_eq_true.mp (by decide))).1,
    (reading "c" (List.all_eq_true.mp (by decide))).1⟩

end Engine
end LiveConsole
