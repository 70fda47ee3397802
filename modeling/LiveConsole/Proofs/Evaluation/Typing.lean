import LiveConsole.Proofs.Evaluation.Frame
import LiveConsole.Proofs.Registry.Reachable
import LiveConsole.Scene.Basic
import Mathlib

/-! What handlers are given. Whatever lies on the stack and whatever the converters answer, a
handler runs only on as many arguments as its command has parameters, each of them null or of the
parameter's type, and on a target only where the command takes one. -/
namespace LiveConsole

def TypeTable.HasType (types : TypeTable) (type : TypeTag) (value : Value) : Prop :=
  ∃ actual, types.tagOf? value = some actual ∧ types.isAssignable type actual = true

theorem TypeTable.typeOfAccepted {types : TypeTable} {type : TypeTag} {value : Value}
    (accepted : types.accepts type value = true) : value = .null ∨ types.HasType type value := by
  unfold accepts at accepted
  split at accepted
  · rename_i actual tagged
    exact .inr ⟨actual, tagged, accepted⟩
  · rename_i untagged
    cases value <;> first | exact .inl rfl | contradiction

def Builtin.takesTwo : Builtin → Bool
  | .index | .property | .setVariable => true
  | _ => false

theorem Registry.foundOnly {σ : Type} {registry : Registry σ} {name : String}
    {command : Command σ} (found : registry.command? name = some command) :
    registry.isEnabled = true ∧ command.name = name := by
  unfold command? at found
  split at found
  · rename_i isEnabled
    exact ⟨isEnabled, by simpa using List.find?_some found⟩
  · contradiction

namespace Engine

variable {σ : Type}

structure Conforms (types : TypeTable) (command : Command σ) (call : Invocation) : Prop where
  name : call.command = command.name
  byHost : call.byHost = !command.isBuiltin
  arity : call.arguments.length = command.arity
  arguments : List.Forall₂ (fun parameter argument =>
    argument = .null ∨ types.HasType parameter.type argument) command.parameters call.arguments
  targeted : call.target.isSome = command.takesTarget
  target : ∀ type ∈ command.targetType?, ∀ target ∈ call.target,
    target ≠ .null ∧ types.HasType type target

theorem conformsOf {types : TypeTable} {command : Command σ} {target : Option Value}
    {arguments : List Value} (fits : TargetFits types command target)
    (typed : List.Forall₂ (ArgumentFits types) command.parameters arguments) :
    Conforms types command (callOf command target arguments) := by
  refine ⟨rfl, rfl, typed.length_eq.symm, typed.imp fun _ _ => TypeTable.typeOfAccepted, ?_, ?_⟩
  · unfold Command.takesTarget callOf
    unfold TargetFits at fits
    split at fits
    · rename_i untargeted
      rw [fits, untargeted]
      rfl
    · rename_i type targeted
      obtain ⟨value, rfl, -⟩ := fits
      rw [targeted]
      rfl
  · rintro type targeted value ⟨⟩
    unfold TargetFits at fits
    rw [targeted] at fits
    obtain ⟨_, ⟨⟩, filled, accepted⟩ := fits
    have present : value ≠ .null := by
      rintro rfl
      contradiction
    exact ⟨present, (TypeTable.typeOfAccepted accepted).resolve_left present⟩

def Typed (engine : Engine σ) (call : Invocation) : Prop :=
  ∃ command, engine.registry.command? call.command = some command ∧
    Conforms engine.types command call

theorem Evolves.typed {before after : Engine σ} (evolves : Evolves before after)
    {call : Invocation} (typed : after.Typed call) : before.Typed call := by
  obtain ⟨command, found, conforms⟩ := typed
  rw [evolves.command] at found
  rw [Engine.types, evolves.types] at conforms
  exact ⟨command, found, conforms⟩

variable [Host σ]

theorem callTyped (engine : Engine σ) (stack : List Value) (operator : Token) :
    ∀ call ∈ (engine.call stack operator).events.filterMap Event.call?, engine.Typed call := by
  have step := called engine stack operator
  generalize engine.call stack operator = run at step
  cases step with
  | refused error host => simp [Run.fail]
  | @invoked command operands target below arguments host divides typed =>
    intro call member
    have single := invocationCalls divides.fits (engine.withHost host) operator arguments
    rw [Run.map, single, List.mem_singleton] at member
    subst member
    obtain ⟨-, name⟩ := Registry.foundOnly divides.found
    refine ⟨command, ?_, conformsOf divides.fits typed⟩
    rw [callOf, name]
    exact divides.found

theorem stepTyped (engine : Engine σ) (stack : List Value) (token : Token) :
    ∀ call ∈ (engine.step stack token).events.filterMap Event.call?, engine.Typed call := by
  unfold step
  split
  · simp [Run.ok]
  · split <;> simp [Run.ok, Run.fail]
  · split <;> simp [Run.ok, Run.fail]
  · exact callTyped engine stack token
  · simp [Run.fail]

theorem stepsTyped (engine : Engine σ) (stack : List Value) (tokens : List Token) :
    ∀ call ∈ (engine.steps stack tokens).events.filterMap Event.call?, engine.Typed call := by
  induction tokens generalizing engine stack with
  | nil => simp [steps, Run.ok]
  | cons token rest ih =>
    -- The rest runs in another state, but under the same commands and types.
    refine Run.andThenCalls (stepTyped engine stack token) fun value call member => ?_
    exact (stepEvolves engine stack token).typed (ih _ value call member)

theorem evaluateTyped (engine : Engine σ) (tokens : List Token) :
    ∀ call ∈ (engine.evaluate tokens).events.filterMap Event.call?, engine.Typed call :=
  Run.andThenCalls (stepsTyped engine [] tokens) (by simp)

theorem Typed.pair {engine : Engine σ} (reached : engine.registry.Reachable) {call : Invocation}
    (typed : engine.Typed call) {entry : BuiltinEntry} (member : entry ∈ Builtin.entries)
    (name : entry.name = call.command) (two : entry.action.takesTwo = true) :
    ∃ first second, call.arguments = [first, second] := by
  obtain ⟨command, found, conforms⟩ := typed
  obtain ⟨isEnabled, -⟩ := Registry.foundOnly found
  have installed := reached.commandFound isEnabled (reached.installed entry member)
  have same : Command.ofBuiltin entry = command := by
    change engine.registry.command? entry.name = _ at installed
    rw [name, found] at installed
    exact (Option.some.inj installed).symm
  have size : ∀ entry ∈ Builtin.entries, entry.action.takesTwo = true →
      entry.parameters.length = 2 := by decide
  have arity : call.arguments.length = 2 := by
    rw [conforms.arity, ← same]
    exact size entry member two
  exact List.length_eq_two.mp arity

theorem handlersAreCalledTyped {engine : Engine σ} (reached : engine.registry.Reachable) :
    (∀ (state : Engine σ) (stack : List Value) (operator : Token),
      Called state stack operator (state.call stack operator)) ∧
    ∀ tokens, ∀ call ∈ (engine.evaluate tokens).events.filterMap Event.call?,
      (∃ command, engine.registry.command? call.command = some command ∧
        Conforms engine.types command call) ∧
      ∀ entry ∈ Builtin.entries, entry.name = call.command → entry.action.takesTwo = true →
        ∃ first second, call.arguments = [first, second] := by
  refine ⟨called, fun tokens call member => ?_⟩
  have typed := evaluateTyped engine tokens call member
  exact ⟨typed, fun entry inside name two => typed.pair reached inside name two⟩

theorem indexIsCalledTyped :
    (plain Scene.empty).registry.Reachable ∧
    ∃ command, (plain Scene.empty).registry.command? indexName = some command ∧
      Conforms (plain Scene.empty).types command
        ⟨indexName, false, none, [.string "ab", .int 1]⟩ := by
  have reached : (plain Scene.empty).registry.Reachable := .enabled .initial true
  let tokens : List Token := [.ofLexeme (.bare .string "ab" 0),
    .ofLexeme (.bare .string "1" 0), .synthetic indexName 0]
  have calls : ((plain Scene.empty).evaluate tokens).events.filterMap Event.call? =
      [⟨indexName, false, none, [.string "ab", .int 1]⟩] := by cbv
  have typed := (handlersAreCalledTyped reached).2 tokens _ (calls ▸ List.mem_cons_self)
  exact ⟨reached, typed.1⟩

end Engine
end LiveConsole
