import LiveConsole.Proofs.Evaluation.Call
import LiveConsole.Proofs.Evaluation.Relocation
import LiveConsole.Proofs.Registry.Reachable
import LiveConsole.Scene.Basic

/-! Evaluation in another place. Tokens that succeed on a stack of their own do the same above other
operands, which stay as they are, and at other positions of the line. -/
namespace LiveConsole

namespace Engine

variable {σ : Type} [Host σ]

def operand? (engine : Engine σ) (token : Token) : Option Value :=
  match token.kind with
  | .string => some (.string token.value)
  | .variable => engine.registry.sessionVariables.get? token.value
  | .global => engine.registry.globals.get? token.value
  | _ => none

inductive Stepped (engine : Engine σ) (stack : List Value) (token : Token) : Prop where
  | operand {value : Value} (isOperand : token.kind.isOperand = true)
      (found : engine.operand? token = some value)
  | command {command : Command σ} {operands : List Value} {target : Option Value}
      {below : List Value} {result : Value} (isCommand : token.kind = .command)
      (divides : Divides engine stack token command operands target below)
      (outcome : (engine.perform command token target operands).outcome = .ok result)

theorem stepOperand {engine : Engine σ} {token : Token} {value : Value}
    (found : engine.operand? token = some value) (stack : List Value) :
    engine.step stack token = .ok (value :: stack) engine := by
  unfold operand? at found
  unfold step
  split at found
  · rename_i kind
    rw [kind, ← Option.some.inj found]
  · rename_i kind
    rw [kind]
    dsimp only
    rw [found]
  · rename_i kind
    rw [kind]
    dsimp only
    rw [found]
  · contradiction

theorem stepCommand {engine : Engine σ} {token : Token} (isCommand : token.kind = .command)
    (stack : List Value) : engine.step stack token = engine.call stack token := by
  unfold step
  rw [isCommand]

theorem stepOk {engine : Engine σ} {stack next : List Value} {token : Token}
    (ok : (engine.step stack token).outcome = .ok next) : Stepped engine stack token := by
  unfold step at ok
  split at ok
  · rename_i kind
    exact .operand (by rw [kind]; rfl) (by rw [operand?, kind])
  · rename_i kind
    split at ok
    · rename_i value found
      have stands : engine.operand? token = some value := by
        rw [operand?, kind]
        exact found
      exact .operand (by rw [kind]; rfl) stands
    · contradiction
  · rename_i kind
    split at ok
    · rename_i value found
      have stands : engine.operand? token = some value := by
        rw [operand?, kind]
        exact found
      exact .operand (by rw [kind]; rfl) stands
    · contradiction
  · rename_i kind
    obtain ⟨command, operands, target, below, divides⟩ := callOk ok
    rw [callDivided divides] at ok
    obtain ⟨result, outcome, -⟩ := Run.mapOk ok
    exact .command kind divides outcome
  · contradiction

theorem stepEvolves (engine : Engine σ) (stack : List Value) (token : Token) :
    Evolves engine (engine.step stack token).engine := by
  unfold step
  split
  · exact .refl engine
  · split <;> exact .refl engine
  · split <;> exact .refl engine
  · exact callEvolves engine stack token
  · exact .refl engine

theorem stepFrame {engine : Engine σ} {stack next : List Value} {token : Token}
    (ok : (engine.step stack token).outcome = .ok next) (base : List Value) :
    engine.step (stack ++ base) token = (engine.step stack token).map (· ++ base) := by
  cases stepOk ok with
  | operand isOperand found =>
    rw [stepOperand found, stepOperand found]
    rfl
  | command isCommand divides outcome =>
    obtain ⟨found, arity, fits, joined⟩ := divides
    have framed : Divides engine (stack ++ base) token _ _ _ _ :=
      ⟨found, arity, fits, by rw [← joined, List.append_assoc, List.append_assoc]⟩
    rw [stepCommand isCommand, stepCommand isCommand, callDivided framed,
      callDivided ⟨found, arity, fits, joined⟩, Run.mapMap]
    rfl

theorem stepsAppend (engine : Engine σ) (stack : List Value) (front back : List Token) :
    engine.steps stack (front ++ back) =
      (engine.steps stack front).andThen fun stack engine => engine.steps stack back := by
  induction front generalizing engine stack with
  | nil => rfl
  | cons token rest ih => simp only [List.cons_append, steps, ih, Run.andThenAssoc]

theorem stepsFrame {engine : Engine σ} {stack next : List Value} {tokens : List Token}
    (ok : (engine.steps stack tokens).outcome = .ok next) (base : List Value) :
    engine.steps (stack ++ base) tokens = (engine.steps stack tokens).map (· ++ base) := by
  induction tokens generalizing engine stack with
  | nil => rfl
  | cons token rest ih =>
    obtain ⟨middle, first, later, -⟩ := Run.andThenOk ok
    have framed : (engine.step (stack ++ base) token).outcome = .ok (middle ++ base) := by
      rw [stepFrame first, Run.map, first]
      rfl
    simp only [steps]
    rw [Run.andThenOf framed, Run.andThenOf first, stepFrame first, Run.mapAfter, ← ih later]
    rfl

theorem operandsBelowAreCarried {engine : Engine σ} {tokens : List Token} {stack : List Value}
    (alone : (engine.steps [] tokens).outcome = .ok stack) (base : List Value) :
    engine.steps base tokens =
      ⟨.ok (stack ++ base), (engine.steps [] tokens).engine, (engine.steps [] tokens).events⟩ := by
  have framed := stepsFrame alone base
  rw [List.nil_append, Run.map, alone] at framed
  exact framed

theorem assignmentLeavesTheThird :
    let tokens : List Token := [.ofLexeme (.bare .string "n" 0),
      .ofLexeme (.bare .string "a" 0), .synthetic "setvar" 0]
    let alone := (plain Scene.empty).steps [] tokens
    alone.outcome = .ok [.string "a"] ∧
      (plain Scene.empty).steps [.null] tokens =
        ⟨.ok [.string "a", .null], alone.engine, alone.events⟩ := by
  intro tokens alone
  have ok : ((plain Scene.empty).steps [] tokens).outcome = .ok [.string "a"] := rfl
  exact ⟨ok, operandsBelowAreCarried ok [.null]⟩

theorem stepsEvolves (engine : Engine σ) (stack : List Value) (tokens : List Token) :
    Evolves engine (engine.steps stack tokens).engine := by
  induction tokens generalizing engine stack with
  | nil => exact .refl engine
  | cons token rest ih => exact andThenEvolves (stepEvolves engine stack token) fun _ _ => ih ..

theorem stepsKinds {engine : Engine σ} {stack next : List Value} {tokens : List Token}
    (ok : (engine.steps stack tokens).outcome = .ok next) :
    ∀ t ∈ tokens, t.kind.isOperand = true ∨ t.kind = .command := by
  induction tokens generalizing engine stack with
  | nil => simp
  | cons token rest ih =>
    obtain ⟨middle, first, later, -⟩ := Run.andThenOk ok
    intro t member
    rcases List.mem_cons.mp member with rfl | member
    · cases stepOk first with
      | operand isOperand found => exact .inl isOperand
      | command isCommand divides outcome => exact .inr isCommand
    · exact ih later t member

theorem stepsFree {engine : Engine σ} {stack next : List Value} {tokens : List Token}
    (ok : (engine.steps stack tokens).outcome = .ok next) : ∀ t ∈ tokens, t.isBarrier = false := by
  intro t member
  unfold Token.isBarrier
  rcases stepsKinds ok t member with isOperand | isCommand
  · cases kind : t.kind <;> rw [kind] at isOperand <;> first | rfl | contradiction
  · rw [isCommand]
    rfl

theorem stepFilled {engine : Engine σ} {stack next : List Value} {token : Token}
    (ok : (engine.step stack token).outcome = .ok next) : next ≠ [] := by
  cases stepOk ok with
  | operand isOperand found =>
    rw [stepOperand found] at ok
    cases ok
    simp
  | command isCommand divides outcome =>
    rw [stepCommand isCommand, callDivided divides] at ok
    obtain ⟨result, -, rfl⟩ := Run.mapOk ok
    simp

theorem stepsFilled {engine : Engine σ} {stack next : List Value} {tokens : List Token}
    (filled : tokens ≠ []) (ok : (engine.steps stack tokens).outcome = .ok next) : next ≠ [] := by
  rw [← List.dropLast_concat_getLast filled, stepsAppend] at ok
  obtain ⟨middle, -, last, -⟩ := Run.andThenOk ok
  obtain ⟨final, only, rest, -⟩ := Run.andThenOk last
  cases rest
  exact stepFilled only

theorem evaluateOk {engine : Engine σ} {tokens : List Token} {value : Value}
    (filled : tokens ≠ []) (ok : (engine.evaluate tokens).outcome = .ok value) :
    (engine.steps [] tokens).outcome = .ok [value] ∧
    engine.evaluate tokens = (engine.steps [] tokens).map fun _ => value := by
  obtain ⟨stack, ran, result, -⟩ := Run.andThenOk ok
  have single : stack = [value] := by
    cases stack with
    | nil => exact absurd rfl (stepsFilled filled ran)
    | cons first others =>
      cases others with
      | nil => rw [← Except.ok.inj result]
      | cons second others => contradiction
  subst single
  refine ⟨ran, ?_⟩
  rw [evaluate, Run.andThenOf ran, Run.map, ran]
  simp [Run.after, resultOf, Except.map]

theorem evaluateEvolves (engine : Engine σ) (tokens : List Token) :
    Evolves engine (engine.evaluate tokens).engine :=
  andThenEvolves (stepsEvolves engine [] tokens) fun _ _ => .refl _

theorem evaluateFrame {engine : Engine σ} {tokens : List Token} {value : Value}
    (filled : tokens ≠ []) (ok : (engine.evaluate tokens).outcome = .ok value)
    (f : Nat → Nat) (base : List Value) :
    engine.steps base (tokens.map (Token.moved f)) =
      (engine.evaluate tokens).map fun value => value :: base := by
  obtain ⟨ran, whole⟩ := evaluateOk filled ok
  have framed := stepsFrame ran base
  have above : (engine.steps base tokens).outcome = .ok (value :: base) := by
    rw [List.nil_append] at framed
    rw [framed, Run.map, ran]
    rfl
  rw [stepsMoved, Run.movedOk above, ← List.nil_append base, framed, whole, Run.mapMap, Run.map, Run.map, ran]
  rfl

end Engine
end LiveConsole
