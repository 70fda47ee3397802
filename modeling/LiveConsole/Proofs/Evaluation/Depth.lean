import LiveConsole.Proofs.Evaluation.Ledger
import LiveConsole.Proofs.Evaluation.Refusal
import LiveConsole.Proofs.Registry.Reachable
import LiveConsole.Scene.Basic
import Mathlib

/-! How deep the stack is. An operand adds one value, and a command takes its arguments and its
target and leaves its result, whatever the values are and whatever becomes of its handler. So the
depth can be read off the tokens, and it decides where a line fails for want of operands, and
whether it leaves too many. -/
namespace LiveConsole

def Command.taken {σ : Type} (command : Command σ) : Nat :=
  command.arity + if command.takesTarget then 1 else 0

namespace Registry

variable {σ : Type}

def effect (registry : Registry σ) (token : Token) : Int :=
  match token.kind with
  | .string | .variable | .global => 1
  | .command =>
      match registry.command? token.value with
      | some command => 1 - command.taken
      | none => 0
  | _ => 0

def depth (registry : Registry σ) (tokens : List Token) : Int := (tokens.map registry.effect).sum

end Registry

namespace Engine

variable {σ : Type} [Host σ]

omit [Host σ] in
theorem fitsTaken {types : TypeTable} {command : Command σ} {target : Option Value}
    (fits : TargetFits types command target) :
    target.toList.length = if command.takesTarget then 1 else 0 := by
  unfold TargetFits at fits
  unfold Command.takesTarget
  split at fits <;> rename_i type
  · rw [fits, type]
    rfl
  · obtain ⟨value, rfl, -⟩ := fits
    rw [type]
    rfl

omit [Host σ] in
theorem Divides.height {engine : Engine σ} {stack below operands : List Value} {operator : Token}
    {command : Command σ} {target : Option Value}
    (divides : Divides engine stack operator command operands target below) :
    stack.length = command.taken + below.length := by
  rw [← divides.joined, List.length_append, List.length_append, List.length_reverse,
    divides.arity, fitsTaken divides.fits, Command.taken, Nat.add_assoc]

omit [Host σ] in
theorem Evolves.depth {before after : Engine σ} (evolves : Evolves before after)
    (tokens : List Token) : after.registry.depth tokens = before.registry.depth tokens := by
  have effects : after.registry.effect = before.registry.effect := by
    funext token
    rw [Registry.effect, Registry.effect, evolves.command]
  rw [Registry.depth, Registry.depth, effects]

theorem Ledger.height {engine : Engine σ} {stack last : List Held} {place : Nat}
    {tokens : List Token} {deeds : List (Deed σ)}
    (ledger : Ledger engine stack place tokens deeds last) :
    (last.length : Int) = stack.length + engine.registry.depth tokens := by
  induction ledger with
  | done engine stack place => simp [Registry.depth]
  | @operand engine stack last place token rest deeds value found later ih =>
    have effect : engine.registry.effect token = 1 := by
      have isOperand := operandKind found
      unfold Registry.effect
      cases kind : token.kind <;> rw [kind] at isOperand <;> first | rfl | contradiction
    have depth : engine.registry.depth (token :: rest) = 1 + engine.registry.depth rest := by
      rw [Registry.depth, List.map_cons, List.sum_cons, effect]
      rfl
    rw [ih, depth, List.length_cons]
    omega
  | @command engine next stack below last place token rest deeds work result worked later ih =>
    have effect : engine.registry.effect token = 1 - work.command.taken := by
      rw [Registry.effect, worked.isCommand, worked.found]
    have depth : engine.registry.depth (token :: rest) =
        1 - work.command.taken + engine.registry.depth rest := by
      rw [Registry.depth, List.map_cons, List.sum_cons, effect]
      rfl
    have split := worked.divides.height
    rw [List.length_map, List.length_map] at split
    rw [ih, worked.evolves.depth, depth, List.length_cons]
    omega

theorem heightIsDepth {engine : Engine σ} {tokens : List Token} {stack : List Value}
    (ok : (engine.steps [] tokens).outcome = .ok stack) :
    (stack.length : Int) = engine.registry.depth tokens := by
  obtain ⟨deeds, last, ledger, rfl, -⟩ := @stepsLedger _ _ engine [] tokens stack 0 ok
  have height := ledger.height
  rw [List.length_map, height]
  exact Int.zero_add _

theorem commandAffords {engine : Engine σ} {stack next : List Value} {token : Token}
    {command : Command σ} (isCommand : token.kind = .command)
    (found : engine.registry.command? token.value = some command)
    (ok : (engine.step stack token).outcome = .ok next) : command.taken ≤ stack.length := by
  cases stepOk ok with
  | operand isOperand _ =>
    rw [isCommand] at isOperand
    contradiction
  | command _ divides _ =>
    cases Option.some.inj (found.symm.trans divides.found)
    rw [divides.height]
    exact Nat.le_add_right ..

theorem leftoverIff (engine : Engine σ) (tokens : List Token) :
    (engine.evaluate tokens).outcome = .error .invalidCommand ↔
      (∃ stack, (engine.steps [] tokens).outcome = .ok stack) ∧
        1 < engine.registry.depth tokens := by
  unfold evaluate
  cases ran : (engine.steps [] tokens).outcome with
  | error error =>
    rw [Run.andThen, ran]
    constructor
    · intro failed
      cases Except.error.inj failed
      exact absurd ((stepsNamed engine [] tokens).token _ ran) (by decide)
    · rintro ⟨⟨stack, ok⟩, -⟩
      contradiction
  | ok stack =>
    rw [Run.andThenOf ran, ← heightIsDepth ran]
    change resultOf stack = _ ↔ _
    refine Iff.trans ?_ (and_iff_right ⟨stack, rfl⟩).symm
    rcases stack with _ | ⟨first, _ | ⟨second, rest⟩⟩
    · simp [resultOf]
    · simp [resultOf]
    · simp only [resultOf, List.length_cons, true_iff]
      omega

/- Each value that the tokens make is taken by one command, or is what the line comes to. -/
structure Settled (engine : Engine σ) (tokens : List Token) (deeds : List (Deed σ))
    (result : Held) : Prop where
  ledger : Ledger engine [] 0 tokens deeds [result]
  calls : (engine.evaluate tokens).events.filterMap Event.call? =
    (deeds.filterMap Deed.work).map Work.call
  operators : (deeds.filterMap Deed.work).map Work.operator =
    tokens.filter fun token => token.kind = .command
  conserved : (deeds.flatMap Deed.taken ++ [result]).Perm (deeds.map Deed.made)
  places : deeds.map (fun deed => deed.made.place) = List.range tokens.length

theorem evaluateSettled {engine : Engine σ} {tokens : List Token} {value : Value}
    (filled : tokens ≠ []) (ok : (engine.evaluate tokens).outcome = .ok value) :
    ∃ deeds place, Settled engine tokens deeds ⟨value, place⟩ := by
  obtain ⟨ran, whole⟩ := evaluateOk filled ok
  obtain ⟨deeds, last, ledger, left, calls⟩ := @stepsLedger _ _ engine [] tokens _ 0 ran
  obtain ⟨result, rfl, rfl⟩ := List.map_eq_singleton_iff.mp left
  refine ⟨deeds, result.place, ledger, ?_, ledger.operators, ledger.conserves, ?_⟩
  · rw [whole]
    exact calls
  · rw [ledger.places, List.range_eq_range']

theorem tooFewFails {engine : Engine σ} {front : List Token} {stack : List Value} {token : Token}
    {command : Command σ} (reached : (engine.steps [] front).outcome = .ok stack)
    (tooFew : TooFew ((engine.steps [] front).engine.step stack token) command token)
    (back : List Token) : (engine.evaluate (front ++ token :: back)).outcome =
      .error (.expectedParameters command.arity token) := by
  have outcome := tooFew.outcome
  rw [evaluate, stepsAppend, Run.andThenOf reached, steps]
  simp only [Run.andThen, Run.after, outcome]

theorem valuesAreUsedOnce (engine : Engine σ) :
    (∀ tokens stack, (engine.steps [] tokens).outcome = .ok stack →
      (stack.length : Int) = engine.registry.depth tokens) ∧
    (∀ front token command, token.kind = .command →
      engine.registry.command? token.value = some command →
      (∀ next, (engine.steps [] (front ++ [token])).outcome = .ok next →
        (command.taken : Int) ≤ engine.registry.depth front) ∧
      ∀ stack, (engine.steps [] front).outcome = .ok stack →
        (TooFew ((engine.steps [] front).engine.step stack token) command token ↔
          engine.registry.depth front < command.arity) ∧
        (engine.registry.depth front < command.arity → ∀ back,
          (engine.evaluate (front ++ token :: back)).outcome =
            .error (.expectedParameters command.arity token))) ∧
    (∀ tokens, (engine.evaluate tokens).outcome = .error .invalidCommand ↔
      (∃ stack, (engine.steps [] tokens).outcome = .ok stack) ∧
        1 < engine.registry.depth tokens) ∧
    ∀ tokens value, tokens ≠ [] → (engine.evaluate tokens).outcome = .ok value →
      engine.registry.depth tokens = 1 ∧
        ∃ deeds place, Settled engine tokens deeds ⟨value, place⟩ := by
  refine ⟨fun tokens stack => heightIsDepth, fun front token command isCommand found => ?_,
    leftoverIff engine, fun tokens value filled ok => ⟨?_, evaluateSettled filled ok⟩⟩
  · -- The commands are the same wherever a run has come to.
    have there : (engine.steps [] front).engine.registry.command? token.value = some command := by
      rw [(stepsEvolves engine [] front).command, found]
    refine ⟨fun next ok => ?_, fun stack reached => ?_⟩
    · rw [stepsAppend] at ok
      obtain ⟨stack, reached, last, -⟩ := Run.andThenOk ok
      obtain ⟨final, stepped, -, -⟩ := Run.andThenOk last
      rw [← heightIsDepth reached]
      exact Int.ofNat_le.mpr (commandAffords isCommand there stepped)
    · have few : TooFew ((engine.steps [] front).engine.step stack token) command token ↔
          engine.registry.depth front < command.arity := by
        rw [stepCommand isCommand, tooFewIff there, ← heightIsDepth reached]
        exact Int.ofNat_lt.symm
      exact ⟨few, fun want back => tooFewFails reached (few.mpr want) back⟩
  · rw [← heightIsDepth (evaluateOk filled ok).1]
    rfl

theorem echoIsTaken :
    let echo : Token := .synthetic "echo" 0
    let setvar : Token := .synthetic "setvar" 0
    let tokens : List Token :=
      [.ofLexeme (.bare .string "n" 0), .ofLexeme (.bare .string "a" 0), echo, setvar]
    (∃ deeds place, Settled (plain Scene.empty) tokens deeds ⟨.string "a", place⟩) ∧
      ((plain Scene.empty).evaluate (tokens ++ [setvar])).outcome =
        .error (.expectedParameters 2 setvar) := by
  intro echo setvar tokens
  have facts := valuesAreUsedOnce (plain Scene.empty)
  have ok : ((plain Scene.empty).evaluate tokens).outcome = .ok (.string "a") := by cbv
  obtain ⟨-, settled⟩ := facts.2.2.2 tokens _ (by decide) ok
  have reached : ((plain Scene.empty).steps [] tokens).outcome = .ok [.string "a"] := by cbv
  have found : (plain Scene.empty).registry.command? setvar.value = some (.ofBuiltin
      ⟨"setvar", [⟨"name", .string⟩, ⟨"value", .object⟩], false,
        "Assign a session variable", .setVariable⟩) := rfl
  have want := ((facts.2.1 tokens setvar _ rfl found).2 _ reached).2
  exact ⟨settled, want (by rw [← facts.1 tokens _ reached]; decide) []⟩

end Engine
end LiveConsole
