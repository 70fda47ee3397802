import LiveConsole.Proofs.Evaluation.Relocation
import LiveConsole.Proofs.Line.Spacing
import LiveConsole.Proofs.Registry.Reachable
import LiveConsole.Scene.Basic
import Mathlib

/-! Layout means nothing. A line and the same lexemes spread out with other white space run alike,
to the same result, state and entries or to the same error; only the place that the error names may
be another. -/
namespace LiveConsole
open Text

inductive SameOutcome : Except CommandError Value → Except CommandError Value → Prop where
  | value (result : Value) : SameOutcome (.ok result) (.ok result)
  | error {first second : CommandError} (code : first.code = second.code)
      (message : first.message = second.message) (unplaced : first.unplaced = second.unplaced) :
      SameOutcome (.error first) (.error second)

/- Runs that differ at most in what is noted of the line's places. The engine is the whole state:
variables, globals, registrations and the host. -/
structure SameRun {σ : Type} (first second : Run σ Value) : Prop where
  outcome : SameOutcome first.outcome second.outcome
  engine : first.engine = second.engine
  entries : entriesOf first.events = entriesOf second.events
  calls : first.events.filterMap Event.call? = second.events.filterMap Event.call?

theorem sameOutcome {first second : Except CommandError Value}
    (same : first.mapError CommandError.unplaced = second.mapError CommandError.unplaced) :
    SameOutcome first second := by
  cases first with
  | ok value =>
    cases second with
    | ok other =>
      cases Except.ok.inj same
      exact .value value
    | error error => cases same
  | error error =>
    cases second with
    | ok value => cases same
    | error other =>
      have unplaced : error.unplaced = other.unplaced := Except.error.inj same
      have code := congrArg CommandError.code unplaced
      have message := congrArg CommandError.message unplaced
      unfold CommandError.unplaced at code message
      rw [CommandError.codeMoved, CommandError.codeMoved] at code
      rw [CommandError.messageMoved, CommandError.messageMoved] at message
      exact .error code message unplaced

theorem sameRunAfter {σ : Type} {first second : Run σ Value}
    (same : first.moved (fun _ => 0) = second.moved (fun _ => 0)) (before after : List Note) :
    SameRun (first.after (before.map .noted)) (second.after (after.map .noted)) := by
  have silent : ∀ notes : List Note, entriesOf (notes.map .noted) = [] := fun notes => by
    simp [entriesOf, Event.entry?]
  have idle : ∀ notes : List Note, (notes.map Event.noted).filterMap Event.call? = [] :=
    fun notes => by simp [Event.call?]
  obtain ⟨outcome, engine, events⟩ := Run.mk.inj same
  refine ⟨sameOutcome outcome, engine, ?_, ?_⟩
  · simp only [Run.after, entriesOf, List.filterMap_append, events]
    exact congrArg (· ++ _) ((silent before).trans (silent after).symm)
  · simp only [Run.after, List.filterMap_append, idle, events]

namespace Engine

variable {σ : Type}

theorem concludeMoved (f : Nat → Nat) (engine : Engine σ) (result : Value) :
    (engine.conclude result).moved f = engine.conclude result := by
  unfold conclude
  dsimp only
  split <;> rfl

variable [Host σ]

theorem executeMoved (f : Nat → Nat) (engine : Engine σ) (tokens : List Token) :
    engine.execute (tokens.map (Token.moved f)) = (engine.execute tokens).moved f := by
  unfold execute
  split
  · rw [evaluateMoved]
    exact Run.andThenMoved f _ fun result engine => (concludeMoved f engine result).symm
  · rfl

theorem runCompiled (engine : Engine σ) {source other : String}
    (same : (engine.compile? source).map (List.map Token.unplaced) =
      (engine.compile? other).map (List.map Token.unplaced)) :
    SameRun (engine.run source) (engine.run other) := by
  unfold run
  split
  · refine sameRunAfter ?_ _ _
    cases first : engine.compile? source with
    | none =>
      cases second : engine.compile? other with
      | none => rfl
      | some tokens =>
        rw [first, second] at same
        contradiction
    | some tokens =>
      cases second : engine.compile? other with
      | none =>
        rw [first, second] at same
        contradiction
      | some others =>
        rw [first, second] at same
        have erased : tokens.map Token.unplaced = others.map Token.unplaced := Option.some.inj same
        unfold Token.unplaced at erased
        dsimp only
        rw [← executeMoved, ← executeMoved, erased]
  · exact ⟨sameOutcome rfl, rfl, rfl, rfl⟩

theorem layoutIsInsignificant {symbols : Symbols}
    (unbroken : ∀ c ∈ symbols.property.toList, isBlank c = false) {source other : String}
    (respaced : Lexeme.Respaced (Lexeme.scan symbols source) other) :
    (Lexeme.scan symbols other).map Lexeme.unplaced =
      (Lexeme.scan symbols source).map Lexeme.unplaced ∧
    (Rpn.ofSource? symbols other).map (List.map Token.unplaced) =
      (Rpn.ofSource? symbols source).map (List.map Token.unplaced) ∧
    ∀ {σ : Type} [Host σ] (engine : Engine σ), engine.symbols = symbols →
      SameRun (engine.run other) (engine.run source) := by
  have compiled := Rpn.ofRespaced unbroken respaced
  refine ⟨Lexeme.scanRespaced unbroken respaced, compiled, ?_⟩
  rintro σ host engine rfl
  exact runCompiled engine compiled

theorem spreadLineIsInsignificant :
    (Lexeme.scan .standard "  $x \t->  'a b").map Lexeme.unplaced =
      (Lexeme.scan .standard "$x->'a b").map Lexeme.unplaced ∧
    (Rpn.ofSource? .standard "  $x \t->  'a b").map (List.map Token.unplaced) =
      (Rpn.ofSource? .standard "$x->'a b").map (List.map Token.unplaced) ∧
    SameRun ((plain Scene.empty).run "  $x \t->  'a b") ((plain Scene.empty).run "$x->'a b") := by
  have lexemes : Lexeme.scan .standard "$x->'a b" =
      [⟨.variable, "x", 0, "$", ""⟩, .bare .property "->" 2, ⟨.string, "a b", 4, "'", ""⟩] := by
    cbv
  have respaced : Lexeme.Respaced (Lexeme.scan .standard "$x->'a b") "  $x \t->  'a b" := by
    rw [lexemes]
    have blank : ∀ gap : List Char, gap.all isBlank = true → ∀ c ∈ gap, isBlank c = true :=
      fun gap blank => List.all_eq_true.mp blank
    refine ⟨[' ', ' '], _, blank _ (by decide), rfl, ?_⟩
    refine @Lexeme.Spaced.lexeme _ [' ', '\t'] _ _ (blank _ (by decide)) (by decide) ?_
    refine @Lexeme.Spaced.lexeme _ [' ', ' '] _ _ (blank _ (by decide)) (by decide) ?_
    exact @Lexeme.Spaced.lexeme _ [] _ _ (blank _ (by decide)) (by decide) .done
  have unbroken : ∀ c ∈ Symbols.standard.property.toList, isBlank c = false := by
    have solid : (Symbols.standard.property.toList.all fun c => !isBlank c) = true := by decide
    simpa using List.all_eq_true.mp solid
  obtain ⟨cut, arranged, same⟩ := layoutIsInsignificant unbroken respaced
  exact ⟨cut, arranged, same (plain Scene.empty) rfl⟩

end Engine
end LiveConsole
