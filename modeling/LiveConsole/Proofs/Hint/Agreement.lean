import LiveConsole.Proofs.Evaluation.Session
import LiveConsole.Proofs.Hint.Location
import LiveConsole.Proofs.Hint.Replay
import Mathlib

/-! Hints agree with the evaluation. The stack of tokens that a hint is found on is the stack of
the values' origins, so the slot that is hinted is the one that takes the value. -/
namespace LiveConsole
open Token (Apart)

variable {σ : Type}

namespace Hint

def ofFate? (located : Token) : Fate σ → Option (Hint σ)
  | .taken command slot => some ⟨command, slot, located⟩
  | .left _ => none

end Hint

namespace Engine
open Hint

theorem joinedSources {operands : List Sourced} {target : Option Sourced}
    {below stack : List Sourced} (joined : operands.reverse ++ (target.toList ++ below) = stack) :
    stack.map Sourced.source = (operands.map Sourced.source).reverse ++
      ((target.map Sourced.source).toList ++ below.map Sourced.source) := by
  rw [← joined]
  cases target <;> simp

theorem TraceStepped.replays {engine : Engine σ} {registry : Registry σ}
    (lookup : ∀ name, engine.registry.command? name = registry.command? name)
    {stack : List Sourced} {token : Token} {traced : Traced σ}
    (stepped : TraceStepped engine stack token traced) :
    Replays registry (stack.map Sourced.source) token ⟨traced.sources, traced.uses⟩ := by
  cases stepped with
  | operand isOperand => exact .operand isOperand
  | command isCommand found arity targeted joined =>
    refine .command isCommand ((lookup _).symm.trans found) (by rw [List.length_map, arity])
      (by rw [targeted, Option.isSome_map]) (joinedSources joined).symm

theorem hintHeld {engine : Engine σ} (isEnabled : engine.registry.isEnabled = true)
    {source : String} {tokens : List Token} (compiled : engine.compile? source = some tokens)
    {token : Token} (member : token ∈ Token.ofSource engine.symbols source) {cursor : Nat}
    (starts : token.position ≤ cursor) (stops : cursor < token.stop)
    (sought : token.kind = .command ∨ token.kind.isOperand = true) :
    engine.hint? source cursor = follow? engine.registry token false token [] tokens := by
  obtain ⟨before, after, split⟩ := List.append_of_mem member
  obtain ⟨front, back, -⟩ := Token.around split
  have earlier : ∀ t ∈ before, t.position ≤ cursor := fun t inside =>
    (front t inside).le.trans starts
  have later : ∀ t ∈ after, cursor < t.position := fun t inside =>
    stops.trans_le (back t inside).2
  have located := locateHeld earlier starts later (LexemeKind.soughtIff.mpr sought)
  rw [← split] at located
  have order : Rpn.ofTokens? (Token.ofSource engine.symbols source) = some tokens := compiled
  rw [hint?, if_pos isEnabled, Hint.ofTokens?, located, order]

theorem tokenArranged {engine : Engine σ} {source : String} {tokens : List Token}
    (compiled : engine.compile? source = some tokens) {token : Token}
    (member : token ∈ Token.ofSource engine.symbols source)
    (sought : token.kind = .command ∨ token.kind.isOperand = true) : token ∈ tokens := by
  exact Rpn.soughtArranged compiled member (LexemeKind.soughtIff.mpr sought)

variable [Host σ]

theorem traceStepsOk {engine : Engine σ} {stack : List Sourced} {token : Token}
    {rest : List Token} {traced : Traced σ}
    (ok : (engine.traceSteps stack (token :: rest)).outcome = .ok traced) :
    ∃ first later, (engine.traceStep stack token).outcome = .ok first ∧
      ((engine.traceStep stack token).engine.traceSteps first.stack rest).outcome = .ok later ∧
      traced = ⟨later.stack, first.uses ++ later.uses⟩ := by
  obtain ⟨first, stepped, last, -⟩ := Run.andThenOk ok
  obtain ⟨later, remaining, same⟩ := Run.mapOk last
  exact ⟨first, later, stepped, remaining, same.symm⟩

theorem traceStepLookup {engine : Engine σ} {registry : Registry σ}
    (lookup : ∀ name, engine.registry.command? name = registry.command? name)
    (stack : List Sourced) (token : Token) (name : String) :
    (engine.traceStep stack token).engine.registry.command? name = registry.command? name :=
  ((traceStepEvolves ..).command name).trans (lookup name)

theorem followAgrees {engine : Engine σ} {registry : Registry σ}
    (lookup : ∀ name, engine.registry.command? name = registry.command? name)
    {stack : List Sourced} {rest : List Token} {traced : Traced σ}
    (ok : (engine.traceSteps stack rest).outcome = .ok traced)
    (apart : Apart (stack.map Sourced.source ++ rest)) {inside : Token}
    (waiting : inside ∈ stack.map Sourced.source) (located : Token) :
    follow? registry located false inside (stack.map Sourced.source) rest =
      ofFate? located (fate inside traced.uses) ∧
    ∀ origin, fate inside traced.uses = .left origin → origin ∈ traced.sources := by
  induction rest generalizing engine stack traced inside with
  | nil =>
    cases Except.ok.inj ok
    refine ⟨rfl, fun origin left => ?_⟩
    cases left
    exact waiting
  | cons token rest ih =>
    obtain ⟨first, later, step, remaining, rfl⟩ := traceStepsOk ok
    have replays := (traceStepOk step).replays lookup
    have differs : token ≠ inside := by
      rintro rfl
      exact apart.disjoint waiting List.mem_cons_self
    rw [followReplayed replays apart (List.mem_append_left _ waiting) (.inr differs), fateAppend]
    cases becomes : fate inside first.uses with
    | taken command slot => exact ⟨rfl, fun origin left => by cases left⟩
    | left next =>
      -- A hidden builtin may have passed the value on, so another token may be followed from here.
      exact ih (traceStepLookup lookup _ _) remaining (replays.apart apart)
        (replays.keeps waiting becomes)

theorem followReaches {engine : Engine σ} {registry : Registry σ}
    (lookup : ∀ name, engine.registry.command? name = registry.command? name)
    {stack : List Sourced} {before after : List Token} {token : Token} {traced : Traced σ}
    (ok : (engine.traceSteps stack (before ++ token :: after)).outcome = .ok traced)
    (apart : Apart (stack.map Sourced.source ++ (before ++ token :: after))) (located : Token) :
    ∃ (reached : Engine σ) (waiting : List Sourced) (later : Traced σ),
      (∀ name, reached.registry.command? name = registry.command? name) ∧
      (reached.traceSteps waiting (token :: after)).outcome = .ok later ∧
      Apart (waiting.map Sourced.source ++ token :: after) ∧
      follow? registry located false token (stack.map Sourced.source) (before ++ token :: after) =
        follow? registry located false token (waiting.map Sourced.source) (token :: after) ∧
      fate token traced.uses = fate token later.uses ∧ traced.stack = later.stack := by
  induction before generalizing engine stack traced with
  | nil => exact ⟨engine, stack, traced, lookup, ok, apart, rfl, rfl, rfl⟩
  | cons first before ih =>
    rw [List.cons_append] at ok apart ⊢
    obtain ⟨next, rest, step, remaining, rfl⟩ := traceStepsOk ok
    have replays := (traceStepOk step).replays lookup
    obtain ⟨reached, waiting, later, found, last, apartLater, followed, becomes, left⟩ :=
      ih (traceStepLookup lookup _ _) remaining (replays.apart apart)
    have ahead : token ∈ before ++ token :: after :=
      List.mem_append_right _ List.mem_cons_self
    have ignored := replays.ignores fun waiting =>
      apart.disjoint waiting (List.mem_cons_of_mem _ ahead)
    have differs : first ≠ token := by
      rintro rfl
      rw [List.append_cons] at apart
      exact apart.disjoint (List.mem_append_right _ (List.mem_singleton_self _)) ahead
    refine ⟨reached, waiting, later, found, last, apartLater, ?_, ?_, left⟩
    · have member := List.mem_append_right (stack.map Sourced.source)
        (List.mem_cons_of_mem first ahead)
      rw [followReplayed replays apart member (.inr differs), ignored]
      exact followed
    · rw [fateAppend, ignored]
      exact becomes

theorem hintOfCommand {engine : Engine σ} {registry : Registry σ}
    (lookup : ∀ name, engine.registry.command? name = registry.command? name)
    {before after : List Token} {token : Token} {traced : Traced σ}
    (ok : (engine.traceSteps [] (before ++ token :: after)).outcome = .ok traced)
    (apart : Apart (before ++ token :: after)) (isCommand : token.kind = .command)
    {command : Command σ} (found : registry.command? token.value = some command)
    (visible : command.hidden = false) :
    follow? registry token false token [] (before ++ token :: after) = some ⟨command, 0, token⟩ := by
  obtain ⟨reached, waiting, later, -, -, -, followed, -, -⟩ :=
    followReaches lookup ok apart token
  rw [List.map_nil] at followed
  rw [followed, followOwn isCommand found visible]

theorem hintOfOperand {engine : Engine σ} {registry : Registry σ}
    (lookup : ∀ name, engine.registry.command? name = registry.command? name)
    {before after : List Token} {token : Token} {traced : Traced σ}
    (ok : (engine.traceSteps [] (before ++ token :: after)).outcome = .ok traced)
    (apart : Apart (before ++ token :: after)) (isOperand : token.kind.isOperand = true) :
    follow? registry token false token [] (before ++ token :: after) =
      ofFate? token (fate token traced.uses) ∧
    ∀ origin, fate token traced.uses = .left origin → origin ∈ traced.sources := by
  obtain ⟨reached, waiting, later, found, last, apartLater, followed, becomes, left⟩ :=
    followReaches lookup ok apart token
  obtain ⟨first, rest, step, remaining, rfl⟩ := traceStepsOk last
  have stepped := traceStepOk step
  have apartNext := (stepped.replays found).apart apartLater
  cases stepped with
  | @operand value isOperand =>
    obtain ⟨hinted, ends⟩ := followAgrees (traceStepLookup found _ _) remaining apartNext
      List.mem_cons_self token
    rw [List.map_nil] at followed
    rw [followed, becomes, followOperand isOperand]
    refine ⟨hinted, fun origin same => ?_⟩
    rw [Traced.sources, left]
    exact ends origin same
  | command isCommand =>
    rw [isCommand] at isOperand
    contradiction

theorem hintsAgree {engine : Engine σ} {source : String} {value : Value}
    (ok : (engine.run source).outcome = .ok value) {token : Token}
    (member : token ∈ Token.ofSource engine.symbols source) {cursor : Nat}
    (starts : token.position ≤ cursor) (stops : cursor < token.stop) :
    ∃ tokens traced, engine.compile? source = some tokens ∧
      (engine.traceSteps [] tokens).map Traced.values = engine.steps [] tokens ∧
      (engine.traceSteps [] tokens).outcome = .ok traced ∧
      (∀ command, token.kind = .command →
        engine.registry.command? token.value = some command → command.hidden = false →
        engine.hint? source cursor = some ⟨command, 0, token⟩) ∧
      (token.kind.isOperand = true →
        engine.hint? source cursor = ofFate? token (fate token traced.uses) ∧
        ∀ origin, fate token traced.uses = .left origin → traced.stack = [⟨value, origin⟩]) := by
  obtain ⟨isEnabled, tokens, compiled, evaluated⟩ := runOk ok
  have erases := traceErases engine [] tokens
  obtain ⟨stack, ran, -⟩ := Run.andThenOk evaluated
  rw [List.map_nil] at erases
  obtain ⟨traced, trace, values⟩ := Run.mapOk (erases ▸ ran)
  refine ⟨tokens, traced, compiled, erases, trace, ?_, ?_⟩
  · intro command isCommand found visible
    obtain ⟨before, after, rfl⟩ :=
      List.append_of_mem (tokenArranged compiled member (.inl isCommand))
    have apart := Rpn.arrangedApart (Token.increasing engine.symbols source) compiled
    rw [hintHeld isEnabled compiled member starts stops (.inl isCommand)]
    exact hintOfCommand (fun _ => rfl) trace apart isCommand found visible
  · intro isOperand
    obtain ⟨before, after, rfl⟩ :=
      List.append_of_mem (tokenArranged compiled member (.inr isOperand))
    have apart := Rpn.arrangedApart (Token.increasing engine.symbols source) compiled
    obtain ⟨hinted, ends⟩ := hintOfOperand (fun _ => rfl) trace apart isOperand
    rw [hintHeld isEnabled compiled member starts stops (.inr isOperand)]
    refine ⟨hinted, fun origin left => ?_⟩
    have single := (evaluateOk (by simp) evaluated).1
    rw [ran] at single
    cases Except.ok.inj single
    obtain ⟨last, whole, same⟩ := List.map_eq_singleton_iff.mp values
    have source := ends origin left
    rw [Traced.sources, whole] at source
    rw [whole, ← same, List.mem_singleton.mp source]

def joinedOperand : Token := .ofLexeme ⟨.string, "a", 5, "'", "'"⟩

theorem joinedOperandAgrees :
    ∃ tokens traced, (plain Scene.empty).compile? "echo 'a'.'b'" = some tokens ∧
      ((plain Scene.empty).traceSteps [] tokens).map Traced.values =
        (plain Scene.empty).steps [] tokens ∧
      ((plain Scene.empty).traceSteps [] tokens).outcome = .ok traced ∧
      (∀ command, joinedOperand.kind = .command →
        (plain Scene.empty).registry.command? joinedOperand.value = some command →
        command.hidden = false →
        (plain Scene.empty).hint? "echo 'a'.'b'" 6 = some ⟨command, 0, joinedOperand⟩) ∧
      (joinedOperand.kind.isOperand = true →
        (plain Scene.empty).hint? "echo 'a'.'b'" 6 =
          ofFate? joinedOperand (fate joinedOperand traced.uses) ∧
        ∀ origin, fate joinedOperand traced.uses = .left origin →
          traced.stack = [⟨.string "ab", origin⟩]) := by
  have ok : ((plain Scene.empty).run "echo 'a'.'b'").outcome = .ok (.string "ab") := by cbv
  have line : Token.ofSource .standard "echo 'a'.'b'" =
      [.ofLexeme (.bare .command "echo" 0), joinedOperand,
        .ofLexeme (.bare .concatenation "." 8), .ofLexeme ⟨.string, "b", 9, "'", "'"⟩] := by cbv
  have member : joinedOperand ∈ Token.ofSource .standard "echo 'a'.'b'" := by
    rw [line]
    exact List.mem_cons_of_mem _ List.mem_cons_self
  exact hintsAgree ok member (by decide) (by decide)

end Engine
end LiveConsole
