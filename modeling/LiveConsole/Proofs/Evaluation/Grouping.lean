import LiveConsole.Proofs.Evaluation.Frame
import LiveConsole.Proofs.Line.Grouped
import LiveConsole.Proofs.Registry.Reachable
import LiveConsole.Scene.Basic
import Mathlib

/-! A command with its arguments in groups. The groups are evaluated one after another, as lines of
their own, and the command is invoked once, on their values in the order of the source. -/
namespace LiveConsole.Engine
open String (utf8Len)

variable {σ : Type}

theorem untargetedFits {command : Command σ} (untargeted : command.takesTarget = false)
    (types : TypeTable) : TargetFits types command none := by
  unfold Command.takesTarget at untargeted
  rw [Option.isSome_eq_false_iff, Option.isNone_iff_eq_none] at untargeted
  rw [TargetFits, untargeted]

theorem resultOfCall (run : Run σ Value) :
    ((run.map (· :: [])).andThen .ok).andThen
      (fun stack engine => ⟨resultOf stack, engine, []⟩) = run := by
  obtain ⟨outcome, engine, events⟩ := run
  cases outcome <;> simp [Run.map, Run.andThen, Run.ok, Except.map, resultOf]

variable [Host σ]

def evaluateLine (engine : Engine σ) (source : String) : Run σ Value :=
  match engine.compile? source with
  | some tokens => engine.evaluate tokens
  | none => .fail .invalidCommand engine

def evaluateInTurn (engine : Engine σ) : List String → Run σ (List Value)
  | [] => .ok [] engine
  | source :: rest =>
      (engine.evaluateLine source).andThen fun value engine =>
        (evaluateInTurn engine rest).map (value :: ·)

theorem evaluateLineOk {engine : Engine σ} {source : String} {value : Value}
    (ok : (engine.evaluateLine source).outcome = .ok value) :
    ∃ tokens, engine.compile? source = some tokens ∧
      engine.evaluateLine source = engine.evaluate tokens := by
  unfold evaluateLine at ok ⊢
  cases compiled : engine.compile? source with
  | none =>
    rw [compiled] at ok
    contradiction
  | some tokens => exact ⟨tokens, rfl, rfl⟩

theorem inTurnOk {engine : Engine σ} {source : String} {rest : List String} {values : List Value}
    (ok : (engine.evaluateInTurn (source :: rest)).outcome = .ok values) :
    ∃ tokens value others, engine.compile? source = some tokens ∧
      (engine.evaluate tokens).outcome = .ok value ∧
      ((engine.evaluate tokens).engine.evaluateInTurn rest).outcome = .ok others ∧
      engine.evaluateInTurn (source :: rest) =
        (((engine.evaluate tokens).engine.evaluateInTurn rest).map (value :: ·)).after
          (engine.evaluate tokens).events := by
  obtain ⟨value, first, later, joined⟩ := Run.andThenOk ok
  have whole : engine.evaluateInTurn (source :: rest) = _ := joined
  obtain ⟨tokens, compiled, same⟩ := evaluateLineOk first
  rw [same] at first later whole
  obtain ⟨others, remaining, -⟩ := Run.mapOk later
  exact ⟨tokens, value, others, compiled, first, remaining, whole⟩

theorem inTurnEvolves {engine : Engine σ} {groups : List String} {values : List Value}
    (ok : (engine.evaluateInTurn groups).outcome = .ok values) :
    Evolves engine (engine.evaluateInTurn groups).engine := by
  induction groups generalizing engine values with
  | nil => exact .refl engine
  | cons group rest ih =>
    obtain ⟨tokens, value, others, compiled, first, later, joined⟩ := inTurnOk ok
    rw [joined]
    exact (evaluateEvolves engine tokens).trans (ih later)

theorem inTurnLength {engine : Engine σ} {groups : List String} {values : List Value}
    (ok : (engine.evaluateInTurn groups).outcome = .ok values) :
    values.length = groups.length := by
  induction groups generalizing engine values with
  | nil =>
    cases Except.ok.inj ok
    rfl
  | cons group rest ih =>
    obtain ⟨tokens, value, others, compiled, first, later, joined⟩ := inTurnOk ok
    rw [joined, Run.after, Run.map, later] at ok
    cases Except.ok.inj ok
    exact congrArg Nat.succ (ih later)

theorem inTurnOrdered {engine : Engine σ} (standard : engine.symbols = .standard)
    {groups : List String} {values : List Value}
    (ok : (engine.evaluateInTurn groups).outcome = .ok values) :
    ∀ group ∈ groups, ∃ arranged, Rpn.ofSource? .standard group = some arranged ∧
      ∀ t ∈ arranged, t.isBarrier = false := by
  induction groups generalizing engine values with
  | nil => simp
  | cons group rest ih =>
    obtain ⟨tokens, value, others, compiled, first, later, -⟩ := inTurnOk ok
    have evolves := evaluateEvolves engine tokens
    intro source member
    rcases List.mem_cons.mp member with rfl | member
    · obtain ⟨stack, ran, -⟩ := Run.andThenOk first
      rw [compile?, standard] at compiled
      exact ⟨tokens, compiled, stepsFree ran⟩
    · have kept := congrArg Settings.symbols evolves.settings
      exact ih (kept.trans standard) later source member

theorem stepsGroups {engine : Engine σ} (standard : engine.symbols = .standard)
    {groups : List String} (filled : ∀ group ∈ groups, engine.compile? group ≠ some [])
    {values : List Value} (ok : (engine.evaluateInTurn groups).outcome = .ok values)
    (position : Nat) (base : List Value) :
    engine.steps base (Rpn.arrangedGroups position groups) =
      (engine.evaluateInTurn groups).map fun values => values.reverse ++ base := by
  induction groups generalizing engine values position base with
  | nil => rfl
  | cons group rest ih =>
    obtain ⟨tokens, value, others, compiled, first, later, joined⟩ := inTurnOk ok
    have evolves := evaluateEvolves engine tokens
    have kept := congrArg Settings.symbols evolves.settings
    have nonempty : tokens ≠ [] := by
      rintro rfl
      exact filled group List.mem_cons_self compiled
    have filledRest : ∀ source ∈ rest,
        (engine.evaluate tokens).engine.compile? source ≠ some [] := by
      intro source member
      rw [evolves.compile]
      exact filled source (List.mem_cons_of_mem _ member)
    have order : Rpn.ofSource? .standard group = some tokens := by
      rw [compile?, standard] at compiled
      exact compiled
    -- The other groups are evaluated above the value of this one.
    have remaining := ih (kept.trans standard) filledRest later
      (position + 3 + utf8Len group.toList) (value :: base)
    rw [Rpn.arrangedGroups, order, Option.getD_some, stepsAppend, evaluateFrame nonempty first,
      Run.mapAndThen, Run.andThenOf first, remaining, joined, Run.mapAfter, Run.mapMap]
    simp

structure Grouped (engine : Engine σ) (command : Command σ) (groups : List String) : Prop where
  reached : engine.registry.Reachable
  isEnabled : engine.registry.isEnabled = true
  standard : engine.symbols = .standard
  unconverted : ∀ converter ∈ engine.registry.converters, converter.target ≠ .object
  registered : command ∈ engine.registry.commands
  untargeted : command.takesTarget = false
  named : Lexeme.Names command.name
  objects : ∀ parameter ∈ command.parameters, parameter.type = .object
  arity : groups.length = command.arity
  standalone : ∀ group ∈ groups, Lexeme.Standalone group

theorem groupsAreTransparent {engine : Engine σ} {command : Command σ} {groups : List String}
    (grouped : Grouped engine command groups)
    (filled : ∀ group ∈ groups, engine.compile? group ≠ some []) {values : List Value}
    (ok : (engine.evaluateInTurn groups).outcome = .ok values) :
    ∃ tokens, engine.compile? (groupedLine command.name groups) = some tokens ∧
      engine.evaluate tokens =
        ((engine.evaluateInTurn groups).engine.invocation command
          (.ofLexeme (.bare .command command.name 0)) none values).after
          (engine.evaluateInTurn groups).events ∧
      (engine.evaluate tokens).events.filterMap Event.call? =
        (engine.evaluateInTurn groups).events.filterMap Event.call? ++
          [callOf command none values] := by
  let operator := Token.ofLexeme (.bare .command command.name 0)
  let later := (engine.evaluateInTurn groups).engine
  have evolves : Evolves engine later := inTurnEvolves ok
  have arity : values.length = command.arity := (inTurnLength ok).trans grouped.arity
  have compiled : engine.compile? (groupedLine command.name groups) =
      some (Rpn.arrangedGroups (utf8Len command.name.toList) groups ++ [operator]) := by
    rw [compile?, grouped.standard]
    exact Rpn.ofGroupedLine grouped.named grouped.standalone (inTurnOrdered grouped.standard ok)
  have divides : Divides later values.reverse operator command values none [] := by
    have found := grouped.reached.commandFound grouped.isEnabled grouped.registered
    exact ⟨(evolves.command _).trans found, arity, untargetedFits grouped.untargeted _, by simp⟩
  have keeps : later.registry.KeepsObjects := by
    refine ⟨?_, ?_⟩
    · rw [evolves.types]
      exact grouped.reached.rooted
    · rw [evolves.converters]
      exact grouped.unconverted
  -- Nothing is converted on the way, so the values are the arguments.
  have performed : later.perform command operator none values =
      later.invocation command operator none values := by
    rw [perform, Registry.bindObjects keeps operator later.host grouped.objects arity]
    rfl
  have whole : engine.evaluate (Rpn.arrangedGroups (utf8Len command.name.toList) groups ++
      [operator]) = (later.invocation command operator none values).after
        (engine.evaluateInTurn groups).events := by
    rw [evaluate, stepsAppend, stepsGroups grouped.standard filled ok, Run.mapAndThen,
      Run.andThenAssoc, Run.andThenOf ok, List.append_nil]
    have called : later.steps values.reverse [operator] =
        ((later.invocation command operator none values).map (· :: [])).andThen .ok := by
      rw [← performed, ← callDivided divides]
      rfl
    rw [called, resultOfCall]
  refine ⟨_, compiled, whole, ?_⟩
  rw [whole, Run.after, List.filterMap_append, invocationCalls divides.fits]

def plainConsole : Engine Scene := .plain .empty

def echoCommand : Command Scene :=
  .ofBuiltin ⟨"echo", [⟨"value", .object⟩], false, "Return a value unchanged", .echo⟩

theorem echoGrouped {group : String} (standalone : Lexeme.Standalone group) :
    Grouped plainConsole echoCommand [group] where
  reached := .enabled .initial true
  isEnabled := rfl
  standard := rfl
  unconverted := by decide
  registered := List.mem_map_of_mem (by decide)
  untargeted := rfl
  named := ⟨by decide, List.all_eq_true.mp (by decide), by decide⟩
  objects := by decide
  arity := rfl
  standalone := by simpa using standalone

def assignment : String := "setvar 'x' 'a'"

theorem assignmentStandalone : Lexeme.Standalone assignment := by
  have words : Lexeme.scan .standard assignment =
      [.bare .command "setvar" 0, ⟨.string, "x", 7, "'", "'"⟩, ⟨.string, "a", 11, "'", "'"⟩] := by
    cbv
  refine ⟨?_, ?_⟩ <;> rw [words] <;> decide

theorem assignmentIsTransparent :
    ∃ tokens, plainConsole.compile? (groupedLine "echo" [assignment]) = some tokens ∧
      plainConsole.evaluate tokens =
        ((plainConsole.evaluateInTurn [assignment]).engine.invocation echoCommand
          (.ofLexeme (.bare .command "echo" 0)) none [.string "a"]).after
          (plainConsole.evaluateInTurn [assignment]).events ∧
      (plainConsole.evaluate tokens).events.filterMap Event.call? =
        (plainConsole.evaluateInTurn [assignment]).events.filterMap Event.call? ++
          [callOf echoCommand none [.string "a"]] := by
  have compiled : plainConsole.compile? assignment =
      some [.ofLexeme ⟨.string, "x", 7, "'", "'"⟩, .ofLexeme ⟨.string, "a", 11, "'", "'"⟩,
        .ofLexeme (.bare .command "setvar" 0)] := by
    change Rpn.ofSource? .standard assignment = _
    cbv
  have ok : (plainConsole.evaluateInTurn [assignment]).outcome = .ok [.string "a"] := by
    rw [evaluateInTurn, evaluateLine, compiled]
    cbv
  have filled : plainConsole.compile? assignment ≠ some [] := by simp [compiled]
  exact groupsAreTransparent (echoGrouped assignmentStandalone) (by simpa using filled) ok

/- A line of empty groups has the value null, and leaves nothing for a command to take. -/
theorem emptyGroupIsNoArgument :
    Grouped plainConsole echoCommand ["\x7b\x7d"] ∧
    (plainConsole.evaluateInTurn ["\x7b\x7d"]).outcome = .ok [.null] ∧
    (plainConsole.invocation echoCommand (.ofLexeme (.bare .command "echo" 0)) none
      [.null]).outcome = .ok .null ∧
    ∃ tokens, plainConsole.compile? (groupedLine "echo" ["\x7b\x7d"]) = some tokens ∧
      (plainConsole.evaluate tokens).outcome =
        .error (.expectedParameters 1 (.ofLexeme (.bare .command "echo" 0))) := by
  have brackets : Lexeme.scan .standard "\x7b\x7d" =
      [Lexeme.groupOpener 0, Lexeme.groupCloser 1] := by cbv
  have standalone : Lexeme.Standalone "\x7b\x7d" := by
    refine ⟨?_, ?_⟩ <;> rw [brackets] <;> decide
  refine ⟨echoGrouped standalone, by cbv, by cbv, [.ofLexeme (.bare .command "echo" 0)], ?_, ?_⟩
  · cbv
  · cbv

end LiveConsole.Engine
