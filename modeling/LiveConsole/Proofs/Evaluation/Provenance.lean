import LiveConsole.Proofs.Evaluation.Frame

/-! Evaluation with the origin of every operand. A value carries the token that it comes from, and
a command at work notes the origins of what it takes. Without origins, this is the evaluation. -/
namespace LiveConsole

structure Sourced where
  value : Value
  source : Token

structure Use (σ : Type) where
  operator : Token
  command : Command σ
  arguments : List Token
  target : Option Token

structure Traced (σ : Type) where
  stack : List Sourced
  uses : List (Use σ)

namespace Traced

variable {σ : Type}

def values (traced : Traced σ) : List Value := traced.stack.map Sourced.value

def sources (traced : Traced σ) : List Token := traced.stack.map Sourced.source

def operand (value : Value) (token : Token) (stack : List Sourced) : Traced σ :=
  ⟨⟨value, token⟩ :: stack, []⟩

def used (result : Value) (command : Command σ) (operator : Token) (operands : List Sourced)
    (target : Option Sourced) (below : List Sourced) : Traced σ :=
  ⟨⟨result, operator⟩ :: below,
    [⟨operator, command, operands.map Sourced.source, target.map Sourced.source⟩]⟩

end Traced

namespace Engine

variable {σ : Type} [Host σ]

def traceInvoke (engine : Engine σ) (command : Command σ) (operator : Token)
    (operands : List Sourced) (arguments : List Value) (below : List Sourced) :
    Run σ (Traced σ) :=
  match command.action with
  | .builtin action =>
      ((action.run engine operator arguments).after
        [.invoked (callOf command none arguments)]).map fun result =>
          .used result command operator operands none below
  | .host none handler =>
      (engine.runHost command handler none arguments).map fun result =>
        .used result command operator operands none below
  | .host (some type) handler =>
      match takeTarget engine.types operator type (below.map Sourced.value) with
      | .error error => .fail error engine
      | .ok (target, _) =>
          (engine.runHost command handler (some target) arguments).map fun result =>
            .used result command operator operands below.head? below.tail

def traceCall (engine : Engine σ) (stack : List Sourced) (operator : Token) : Run σ (Traced σ) :=
  match engine.registry.command? operator.value with
  | none => .fail (.unknownCommand operator) engine
  | some command =>
      if stack.length < command.arity then
        .fail (.expectedParameters command.arity operator) engine
      else
        let operands := (stack.take command.arity).reverse
        let (bound, host) := bindArguments engine.registry operator engine.host
          command.parameters (operands.map Sourced.value)
        match bound with
        | .error error => .fail error (engine.withHost host)
        | .ok arguments =>
            (engine.withHost host).traceInvoke command operator operands arguments
              (stack.drop command.arity)

def traceStep (engine : Engine σ) (stack : List Sourced) (token : Token) : Run σ (Traced σ) :=
  match token.kind with
  | .string => .ok (.operand (.string token.value) token stack) engine
  | .variable =>
      match engine.registry.sessionVariables.get? token.value with
      | some value => .ok (.operand value token stack) engine
      | none => .fail (.unknownVariable token) engine
  | .global =>
      match engine.registry.globals.get? token.value with
      | some value => .ok (.operand value token stack) engine
      | none => .fail (.unknownGlobal token) engine
  | .command => engine.traceCall stack token
  | _ => .fail (.unexpectedToken token) engine

def traceSteps (engine : Engine σ) (stack : List Sourced) : List Token → Run σ (Traced σ)
  | [] => .ok ⟨stack, []⟩ engine
  | token :: rest =>
      (engine.traceStep stack token).andThen fun traced engine =>
        (traceSteps engine traced.stack rest).map fun later =>
          ⟨later.stack, traced.uses ++ later.uses⟩

theorem traceInvokeErases (engine : Engine σ) (command : Command σ) (operator : Token)
    (operands : List Sourced) (arguments : List Value) (below : List Sourced) :
    (engine.traceInvoke command operator operands arguments below).map Traced.values =
      engine.invoke command operator arguments (below.map Sourced.value) := by
  unfold traceInvoke invoke
  cases command.action with
  | builtin action => rw [Run.mapMap]; rfl
  | host type handler =>
    cases type with
    | none => rw [Run.mapMap]; rfl
    | some type =>
      dsimp only
      cases taken : takeTarget engine.types operator type (below.map Sourced.value) with
      | error error => rfl
      | ok parts =>
        obtain ⟨target, rest⟩ := parts
        obtain ⟨joined, -, -⟩ := takeTargetOk taken
        have left : below.tail.map Sourced.value = rest := by
          rw [List.map_tail, joined, List.tail_cons]
        simp only [Run.mapMap, Traced.values, Traced.used, List.map_cons, left]

theorem traceCallErases (engine : Engine σ) (stack : List Sourced) (operator : Token) :
    (engine.traceCall stack operator).map Traced.values =
      engine.call (stack.map Sourced.value) operator := by
  unfold traceCall call
  cases engine.registry.command? operator.value with
  | none => rfl
  | some command =>
    dsimp only
    rw [List.length_map]
    split
    · rfl
    · rw [← List.map_take, ← List.map_drop, ← List.map_reverse]
      obtain ⟨bound, host⟩ := bindArguments engine.registry operator engine.host
        command.parameters ((stack.take command.arity).reverse.map Sourced.value)
      cases bound with
      | error error => rfl
      | ok arguments => exact traceInvokeErases ..

theorem traceStepErases (engine : Engine σ) (stack : List Sourced) (token : Token) :
    (engine.traceStep stack token).map Traced.values =
      engine.step (stack.map Sourced.value) token := by
  unfold traceStep step
  cases token.kind <;> try rfl
  · exact traceCallErases ..
  · dsimp only
    cases engine.registry.sessionVariables.get? token.value <;> rfl
  · dsimp only
    cases engine.registry.globals.get? token.value <;> rfl

theorem traceErases (engine : Engine σ) (stack : List Sourced) (tokens : List Token) :
    (engine.traceSteps stack tokens).map Traced.values =
      engine.steps (stack.map Sourced.value) tokens := by
  induction tokens generalizing engine stack with
  | nil => rfl
  | cons token rest ih =>
    rw [traceSteps, steps, ← traceStepErases, Run.mapAndThen, Run.mapOfAndThen]
    congr 1
    funext traced engine
    rw [Run.mapMap, Traced.values, ← ih engine traced.stack]
    rfl

inductive TraceStepped (engine : Engine σ) (stack : List Sourced) (token : Token) :
    Traced σ → Prop where
  | operand {value : Value} (isOperand : token.kind.isOperand = true) :
      TraceStepped engine stack token (.operand value token stack)
  | command {command : Command σ} {operands : List Sourced} {target : Option Sourced}
      {below : List Sourced} {result : Value} (isCommand : token.kind = .command)
      (found : engine.registry.command? token.value = some command)
      (arity : operands.length = command.arity) (targeted : command.takesTarget = target.isSome)
      (joined : operands.reverse ++ (target.toList ++ below) = stack) :
      TraceStepped engine stack token (.used result command token operands target below)

theorem traceInvokeOk {engine : Engine σ} {command : Command σ} {operator : Token}
    {operands : List Sourced} {arguments : List Value} {stack : List Sourced} {traced : Traced σ}
    (ok : (engine.traceInvoke command operator operands arguments stack).outcome = .ok traced) :
    ∃ result target below, command.takesTarget = target.isSome ∧ target.toList ++ below = stack ∧
      traced = .used result command operator operands target below := by
  unfold Command.takesTarget Command.targetType?
  unfold traceInvoke at ok
  cases action : command.action with
  | builtin builtin =>
    rw [action] at ok
    obtain ⟨result, -, rfl⟩ := Run.mapOk ok
    exact ⟨result, none, stack, rfl, rfl, rfl⟩
  | host type handler =>
    rw [action] at ok
    cases type with
    | none =>
      obtain ⟨result, -, rfl⟩ := Run.mapOk ok
      exact ⟨result, none, stack, rfl, rfl, rfl⟩
    | some type =>
      dsimp only at ok
      cases taken : takeTarget engine.types operator type (stack.map Sourced.value) with
      | error error =>
        rw [taken] at ok
        contradiction
      | ok parts =>
        obtain ⟨target, rest⟩ := parts
        obtain ⟨joined, -, -⟩ := takeTargetOk taken
        rw [taken] at ok
        obtain ⟨result, -, rfl⟩ := Run.mapOk ok
        cases stack with
        | nil => contradiction
        | cons first below => exact ⟨result, some first, below, rfl, rfl, rfl⟩

theorem traceStepOk {engine : Engine σ} {stack : List Sourced} {token : Token} {traced : Traced σ}
    (ok : (engine.traceStep stack token).outcome = .ok traced) :
    TraceStepped engine stack token traced := by
  unfold traceStep at ok
  split at ok
  · rename_i kind
    cases Except.ok.inj ok
    exact .operand (by rw [kind]; rfl)
  · rename_i kind
    split at ok
    · cases Except.ok.inj ok
      exact .operand (by rw [kind]; rfl)
    · contradiction
  · rename_i kind
    split at ok
    · cases Except.ok.inj ok
      exact .operand (by rw [kind]; rfl)
    · contradiction
  · rename_i kind
    unfold traceCall at ok
    cases found : engine.registry.command? token.value with
    | none =>
      rw [found] at ok
      contradiction
    | some command =>
      simp only [found] at ok
      split at ok
      · contradiction
      · rename_i enough
        have arity : (stack.take command.arity).reverse.length = command.arity := by
          rw [List.length_reverse, List.length_take]
          omega
        split at ok
        · contradiction
        · obtain ⟨result, target, below, targeted, joined, rfl⟩ := traceInvokeOk ok
          refine .command kind found arity targeted ?_
          rw [joined, List.reverse_reverse, List.take_append_drop]
  · contradiction

theorem traceStepEvolves (engine : Engine σ) (stack : List Sourced) (token : Token) :
    Evolves engine (engine.traceStep stack token).engine := by
  have evolves := stepEvolves engine (stack.map Sourced.value) token
  rw [← traceStepErases] at evolves
  exact evolves

end Engine

inductive Fate (σ : Type) where
  | taken (command : Command σ) (slot : Nat)
  | left (source : Token)

namespace Use

variable {σ : Type}

/- Slot zero is the target, and the others are the arguments by number. -/
def slot? (use : Use σ) (source : Token) : Option Nat :=
  if use.target = some source then some 0
  else (use.arguments.idxOf? source).map (· + 1)

theorem slotTarget {use : Use σ} {source : Token} (same : use.target = some source) :
    use.slot? source = some 0 := if_pos same

theorem slotArgument {use : Use σ} {source : Token} (differs : use.target ≠ some source) :
    use.slot? source = (use.arguments.idxOf? source).map (· + 1) := if_neg differs

theorem slotNoneIff (use : Use σ) (source : Token) :
    use.slot? source = none ↔ use.target ≠ some source ∧ source ∉ use.arguments := by
  unfold slot?
  split
  · rename_i same
    simp [same]
  · rename_i differs
    rw [Option.map_eq_none_iff, List.idxOf?_eq_none_iff]
    exact (and_iff_right differs).symm

/- A hidden builtin passes on what it takes, as its result. -/
def passesOn (use : Use σ) : Bool := use.command.isBuiltin && use.command.hidden

end Use

variable {σ : Type}

def fate (source : Token) : List (Use σ) → Fate σ
  | [] => .left source
  | use :: rest =>
      match use.slot? source with
      | none => fate source rest
      | some slot => if use.passesOn then fate use.operator rest else .taken use.command slot

theorem fateAppend (source : Token) (front back : List (Use σ)) :
    fate source (front ++ back) =
      match fate source front with
      | .left last => fate last back
      | .taken command slot => .taken command slot := by
  induction front generalizing source with
  | nil => rfl
  | cons use rest ih =>
    rw [List.cons_append, fate, fate]
    cases use.slot? source with
    | none => exact ih source
    | some slot =>
      cases use.passesOn with
      | true => exact ih use.operator
      | false => rfl

end LiveConsole
