import LiveConsole.Proofs.Evaluation.Frame

/-! A run with an account of its values. Each token that is evaluated leaves one value, held with the
place of the token, and a command takes what it works on from the top of the stack. So each value is
taken once, or is left at the end. -/
namespace LiveConsole

structure Held where
  value : Value
  place : Nat

structure Work (σ : Type) where
  operator : Token
  command : Command σ
  target : Option Held
  operands : List Held
  arguments : List Value

structure Deed (σ : Type) where
  made : Held
  work : Option (Work σ)

namespace Work

variable {σ : Type}

def taken (work : Work σ) : List Held := work.target.toList ++ work.operands

def call (work : Work σ) : Invocation :=
  Engine.callOf work.command (work.target.map Held.value) work.arguments

end Work

def Deed.taken {σ : Type} (deed : Deed σ) : List Held :=
  match deed.work with
  | some work => work.taken
  | none => []

namespace Engine

variable {σ : Type} [Host σ]

structure Worked (engine : Engine σ) (stack : List Held) (token : Token) (work : Work σ)
    (below : List Held) (result : Value) (next : Engine σ) : Prop where
  isCommand : token.kind = .command
  operator : work.operator = token
  found : engine.registry.command? token.value = some work.command
  arity : work.operands.length = work.command.arity
  fits : TargetFits engine.types work.command (work.target.map Held.value)
  joined : work.operands.reverse ++ (work.target.toList ++ below) = stack
  invoked : ∃ host,
    bindArguments engine.registry token engine.host work.command.parameters
      (work.operands.map Held.value) = (.ok work.arguments, host) ∧
    ((engine.withHost host).invocation work.command token (work.target.map Held.value)
      work.arguments).outcome = .ok result ∧
    ((engine.withHost host).invocation work.command token (work.target.map Held.value)
      work.arguments).engine = next

inductive Ledger : Engine σ → List Held → Nat → List Token → List (Deed σ) → List Held → Prop where
  | done (engine : Engine σ) (stack : List Held) (place : Nat) :
      Ledger engine stack place [] [] stack
  | operand {engine : Engine σ} {stack last : List Held} {place : Nat} {token : Token}
      {rest : List Token} {deeds : List (Deed σ)} {value : Value}
      (found : engine.operand? token = some value)
      (later : Ledger engine (⟨value, place⟩ :: stack) (place + 1) rest deeds last) :
      Ledger engine stack place (token :: rest) (⟨⟨value, place⟩, none⟩ :: deeds) last
  | command {engine next : Engine σ} {stack below last : List Held} {place : Nat} {token : Token}
      {rest : List Token} {deeds : List (Deed σ)} {work : Work σ} {result : Value}
      (worked : Worked engine stack token work below result next)
      (later : Ledger next (⟨result, place⟩ :: below) (place + 1) rest deeds last) :
      Ledger engine stack place (token :: rest) (⟨⟨result, place⟩, some work⟩ :: deeds) last

theorem heldParts {stack : List Held} {operands below : List Value} {target : Option Value}
    (joined : operands.reverse ++ (target.toList ++ below) = stack.map Held.value) :
    ∃ (heldOperands : List Held) (heldTarget : Option Held) (heldBelow : List Held),
      heldOperands.map Held.value = operands ∧ heldTarget.map Held.value = target ∧
      heldBelow.map Held.value = below ∧
      heldOperands.reverse ++ (heldTarget.toList ++ heldBelow) = stack := by
  obtain ⟨top, others, rfl, onTop, underneath⟩ := List.map_eq_append_iff.mp joined.symm
  obtain ⟨middle, bottom, rfl, between, last⟩ := List.map_eq_append_iff.mp underneath
  have operandsHeld : top.reverse.map Held.value = operands := by
    rw [List.map_reverse, onTop, List.reverse_reverse]
  cases target with
  | none =>
    cases List.map_eq_nil_iff.mp between
    exact ⟨top.reverse, none, bottom, operandsHeld, rfl, last, by simp⟩
  | some value =>
    obtain ⟨held, rfl, same⟩ := List.map_eq_singleton_iff.mp between
    exact ⟨top.reverse, some held, bottom, operandsHeld, congrArg some same, last, by simp⟩

theorem performOk {engine : Engine σ} {command : Command σ} {operator : Token}
    {target : Option Value} {operands : List Value} {result : Value}
    (ok : (engine.perform command operator target operands).outcome = .ok result) :
    ∃ arguments host, bindArguments engine.registry operator engine.host command.parameters
        operands = (.ok arguments, host) ∧
      engine.perform command operator target operands =
        (engine.withHost host).invocation command operator target arguments := by
  unfold perform at ok ⊢
  cases bound : bindArguments engine.registry operator engine.host command.parameters operands with
  | mk outcome host =>
    rw [bound] at ok
    cases outcome with
    | error error => contradiction
    | ok arguments => exact ⟨arguments, host, rfl, rfl⟩

inductive Done (engine : Engine σ) (stack : List Held) (token : Token) :
    Run σ (List Value) → Prop where
  | operand {value : Value} (found : engine.operand? token = some value) :
      Done engine stack token (.ok (value :: stack.map Held.value) engine)
  | command {work : Work σ} {below : List Held} {result : Value} {next : Engine σ}
      {events : List Event} (worked : Worked engine stack token work below result next)
      (calls : events.filterMap Event.call? = [work.call]) :
      Done engine stack token ⟨.ok (result :: below.map Held.value), next, events⟩

theorem stepDone {engine : Engine σ} {stack : List Held} {token : Token} {next : List Value}
    (ok : (engine.step (stack.map Held.value) token).outcome = .ok next) :
    Done engine stack token (engine.step (stack.map Held.value) token) := by
  cases stepOk ok with
  | operand isOperand found =>
    rw [stepOperand found]
    exact .operand found
  | @command command operands target below result isCommand divides outcome =>
    obtain ⟨heldOperands, heldTarget, heldBelow, rfl, rfl, rfl, joined⟩ := heldParts divides.joined
    obtain ⟨arguments, host, bound, performed⟩ := performOk outcome
    rw [stepCommand isCommand, callDivided divides]
    rw [performed] at outcome ⊢
    have worked : Worked engine stack token ⟨token, command, heldTarget, heldOperands, arguments⟩
        heldBelow result _ :=
      ⟨isCommand, rfl, divides.found, (List.length_map _).symm.trans divides.arity, divides.fits,
        joined, host, bound, outcome, rfl⟩
    rw [Run.map, outcome]
    exact .command worked (invocationCalls divides.fits ..)

theorem stepsLedger {engine : Engine σ} {stack : List Held} {tokens : List Token}
    {next : List Value} (place : Nat)
    (ok : (engine.steps (stack.map Held.value) tokens).outcome = .ok next) :
    ∃ deeds last, Ledger engine stack place tokens deeds last ∧ last.map Held.value = next ∧
      (engine.steps (stack.map Held.value) tokens).events.filterMap Event.call? =
        (deeds.filterMap Deed.work).map Work.call := by
  induction tokens generalizing engine stack place with
  | nil => exact ⟨[], stack, .done .., Except.ok.inj ok, rfl⟩
  | cons token rest ih =>
    obtain ⟨middle, first, later, joined⟩ := Run.andThenOk ok
    have done := stepDone first
    rw [steps, joined]
    generalize engine.step (stack.map Held.value) token = run at done first later ⊢
    cases done with
    | @operand value found =>
      cases first
      obtain ⟨deeds, last, ledger, same, calls⟩ :=
        @ih _ (⟨value, place⟩ :: stack) (place + 1) later
      exact ⟨_, last, .operand found ledger, same, calls⟩
    | @command work below result state events worked calls =>
      cases first
      obtain ⟨deeds, last, ledger, same, laterCalls⟩ :=
        @ih _ (⟨result, place⟩ :: below) (place + 1) later
      refine ⟨_, last, .command worked ledger, same, ?_⟩
      change (events ++ _).filterMap Event.call? = work.call :: _
      rw [List.filterMap_append, calls]
      exact congrArg (work.call :: ·) laterCalls

omit [Host σ] in
theorem operandKind {engine : Engine σ} {token : Token} {value : Value}
    (found : engine.operand? token = some value) : token.kind.isOperand = true := by
  unfold operand? at found
  split at found <;> rename_i kind
  · rw [kind]
    rfl
  · rw [kind]
    rfl
  · rw [kind]
    rfl
  · contradiction

theorem Worked.divides {engine next : Engine σ} {stack below : List Held} {token : Token}
    {work : Work σ} {result : Value} (worked : Worked engine stack token work below result next) :
    Divides engine (stack.map Held.value) token work.command (work.operands.map Held.value)
      (work.target.map Held.value) (below.map Held.value) := by
  refine ⟨worked.found, (List.length_map _).trans worked.arity, worked.fits, ?_⟩
  rw [← worked.joined, List.map_append, List.map_append, List.map_reverse]
  cases work.target <;> rfl

theorem Worked.evolves {engine next : Engine σ} {stack below : List Held} {token : Token}
    {work : Work σ} {result : Value} (worked : Worked engine stack token work below result next) :
    Evolves engine next := by
  obtain ⟨host, -, -, rfl⟩ := worked.invoked
  exact (evolvesHost ..).trans (invocationEvolves ..)

namespace Ledger

variable {engine : Engine σ} {stack last : List Held} {place : Nat} {tokens : List Token}
  {deeds : List (Deed σ)}

theorem conserves (ledger : Ledger engine stack place tokens deeds last) :
    (deeds.flatMap Deed.taken ++ last).Perm (stack ++ deeds.map Deed.made) := by
  induction ledger with
  | done engine stack place => simp
  | operand found later ih => exact ih.trans List.perm_middle.symm
  | @command engine next stack below last place token rest deeds work result worked later ih =>
    have parts : (work.taken ++ below).Perm stack := by
      rw [← worked.joined, Work.taken, List.append_assoc]
      have turned : (work.operands ++ below).Perm (work.operands.reverse ++ below) :=
        work.operands.reverse_perm.symm.append_right below
      exact (turned.append_left _).trans (List.perm_append_comm_assoc ..)
    change ((work.taken ++ deeds.flatMap Deed.taken) ++ last).Perm
      (stack ++ ⟨result, place⟩ :: deeds.map Deed.made)
    rw [List.append_assoc]
    refine (ih.append_left work.taken).trans ?_
    refine List.Perm.trans ?_ List.perm_middle.symm
    rw [List.cons_append]
    refine List.perm_middle.trans (List.Perm.cons _ ?_)
    rw [← List.append_assoc]
    exact parts.append_right _

theorem places (ledger : Ledger engine stack place tokens deeds last) :
    deeds.map (fun deed => deed.made.place) = List.range' place tokens.length := by
  induction ledger with
  | done engine stack place => rfl
  | operand found later ih =>
    rw [List.map_cons, ih, List.length_cons, List.range'_succ]
  | command worked later ih =>
    rw [List.map_cons, ih, List.length_cons, List.range'_succ]

theorem operators (ledger : Ledger engine stack place tokens deeds last) :
    (deeds.filterMap Deed.work).map Work.operator =
      tokens.filter fun token => token.kind = .command := by
  induction ledger with
  | done engine stack place => rfl
  | @operand engine stack last place token rest deeds value found later ih =>
    have free : token.kind ≠ .command := by
      intro isCommand
      have isOperand := operandKind found
      rw [isCommand] at isOperand
      contradiction
    rw [List.filter_cons_of_neg (by simpa using free)]
    exact ih
  | @command engine next stack below last place token rest deeds work result worked later ih =>
    rw [List.filter_cons_of_pos (by simpa using worked.isCommand), ← ih, ← worked.operator]
    rfl

end Ledger

end Engine
end LiveConsole
