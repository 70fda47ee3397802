import LiveConsole.Hint
import LiveConsole.Proofs.Evaluation.Provenance
import LiveConsole.Proofs.Line.Occurrence

/-! A hint's search replays a line on tokens in place of values. What each command takes off the
stack decides where the search goes on. -/
namespace LiveConsole
open Token (Apart)

variable {σ : Type}

structure Replay (σ : Type) where
  stack : List Token
  uses : List (Use σ)

inductive Replays (registry : Registry σ) (stack : List Token) (token : Token) :
    Replay σ → Prop where
  | operand (isOperand : token.kind.isOperand = true) :
      Replays registry stack token ⟨token :: stack, []⟩
  | command {command : Command σ} {operands : List Token} {target : Option Token}
      {below : List Token} (isCommand : token.kind = .command)
      (found : registry.command? token.value = some command)
      (arity : operands.length = command.arity) (targeted : command.takesTarget = target.isSome)
      (joined : operands.reverse ++ (target.toList ++ below) = stack) :
      Replays registry stack token ⟨token :: below, [⟨token, command, operands, target⟩]⟩

namespace Command

def replay? (command : Command σ) (stack : List Token) (token : Token) : Option (Replay σ) :=
  let operands := (stack.take command.arity).reverse
  let below := stack.drop command.arity
  if stack.length < command.arity then none
  else if command.takesTarget then
    match below with
    | target :: below => some ⟨token :: below, [⟨token, command, operands, some target⟩]⟩
    | [] => none
  else some ⟨token :: below, [⟨token, command, operands, none⟩]⟩

theorem replayOk {registry : Registry σ} (command : Command σ) {stack : List Token} {token : Token}
    {replay : Replay σ} (isCommand : token.kind = .command)
    (found : registry.command? token.value = some command)
    (ok : command.replay? stack token = some replay) : Replays registry stack token replay := by
  unfold Command.replay? at ok
  dsimp only at ok
  split at ok
  · contradiction
  · rename_i enough
    have arity : (stack.take command.arity).reverse.length = command.arity := by
      rw [List.length_reverse, List.length_take]
      omega
    have whole := List.take_append_drop command.arity stack
    split at ok
    · rename_i targeted
      split at ok
      · rename_i target below left
        cases Option.some.inj ok
        refine .command isCommand found arity targeted ?_
        rw [List.reverse_reverse, Option.toList_some, List.singleton_append, ← left, whole]
      · contradiction
    · rename_i untargeted
      cases Option.some.inj ok
      refine .command isCommand found arity (Bool.eq_false_iff.mpr untargeted) ?_
      rw [List.reverse_reverse, Option.toList_none, List.nil_append, whole]

end Command

namespace Registry

def replayStep? (registry : Registry σ) (stack : List Token) (token : Token) :
    Option (Replay σ) :=
  if token.kind.isOperand then some ⟨token :: stack, []⟩
  else if token.kind = .command then
    (registry.command? token.value).bind fun command => command.replay? stack token
  else none

theorem foundEnabled {registry : Registry σ} {name : String} {command : Command σ}
    (found : registry.command? name = some command) : registry.isEnabled = true := by
  by_contra disabled
  rw [command?, if_neg disabled] at found
  contradiction

/- There is no replay where an invalid token or an open bracket is left, where a command is not
registered, or where one runs short of operands. -/
def replay? (registry : Registry σ) (stack : List Token) : List Token → Option (Replay σ)
  | [] => some ⟨stack, []⟩
  | token :: rest =>
      (registry.replayStep? stack token).bind fun first =>
        (replay? registry first.stack rest).map fun later =>
          ⟨later.stack, first.uses ++ later.uses⟩

theorem replayStepOk {registry : Registry σ} {stack : List Token} {token : Token}
    {replay : Replay σ} (ok : registry.replayStep? stack token = some replay) :
    Replays registry stack token replay := by
  unfold replayStep? at ok
  split at ok
  · rename_i isOperand
    cases Option.some.inj ok
    exact .operand isOperand
  · split at ok
    · rename_i kind
      obtain ⟨command, found, replayed⟩ := Option.bind_eq_some_iff.mp ok
      exact command.replayOk kind found replayed
    · contradiction

end Registry

theorem Token.freeOfOperand {token : Token} (isOperand : token.kind.isOperand = true) :
    token.isBarrier = false := by
  unfold Token.isBarrier
  cases kind : token.kind <;> rw [kind] at isOperand <;> first | rfl | contradiction

namespace Replays

variable {registry : Registry σ} {stack : List Token} {token : Token} {replay : Replay σ}

theorem free (replays : Replays registry stack token replay) : token.isBarrier = false := by
  cases replays with
  | operand isOperand => exact Token.freeOfOperand isOperand
  | command isCommand =>
    rw [Token.isBarrier, isCommand]
    rfl

theorem apart (replays : Replays registry stack token replay) {rest : List Token}
    (apart : Apart (stack ++ token :: rest)) : Apart (replay.stack ++ rest) := by
  have front : Apart (token :: (stack ++ rest)) :=
    ((List.perm_middle.map Token.position).nodup_iff).mp apart
  cases replays with
  | operand isOperand => exact front
  | command isCommand found arity targeted joined =>
    refine front.sublist (.cons_cons token (List.Sublist.append_right ?_ rest))
    rw [← joined, ← List.append_assoc]
    exact List.sublist_append_right ..

theorem ignores (replays : Replays registry stack token replay) {inside : Token}
    (absent : inside ∉ stack) : fate inside replay.uses = .left inside := by
  cases replays with
  | operand isOperand => rfl
  | @command command operands target below isCommand found arity targeted joined =>
    rw [← joined] at absent
    have untouched : (Use.mk token command operands target).slot? inside = none := by
      refine (Use.slotNoneIff ..).mpr ⟨fun same => absent ?_, fun operand => absent ?_⟩
      · exact List.mem_append_right _ (List.mem_append_left _ (Option.mem_toList.mpr same))
      · exact List.mem_append_left _ (List.mem_reverse.mpr operand)
    rw [fate, untouched]
    rfl

theorem keeps (replays : Replays registry stack token replay) {inside next : Token}
    (waiting : inside ∈ stack) (left : fate inside replay.uses = .left next) :
    next ∈ replay.stack := by
  cases replays with
  | operand isOperand =>
    cases left
    exact List.mem_cons_of_mem _ waiting
  | @command command operands target below isCommand found arity targeted joined =>
    rw [← joined] at waiting
    rw [fate] at left
    cases slot : (Use.mk token command operands target).slot? inside with
    | none =>
      obtain ⟨missed, arguments⟩ := (Use.slotNoneIff ..).mp slot
      rw [slot] at left
      cases left
      rcases List.mem_append.mp waiting with operand | waiting
      · exact absurd (List.mem_reverse.mp operand) arguments
      · rcases List.mem_append.mp waiting with same | kept
        · exact absurd (Option.mem_toList.mp same) missed
        · exact List.mem_cons_of_mem _ kept
    | some place =>
      rw [slot] at left
      dsimp only at left
      split at left
      · cases left
        exact List.mem_cons_self
      · contradiction

theorem pushes (replays : Replays registry stack token replay) : token ∈ replay.stack := by
  cases replays <;> exact List.mem_cons_self

end Replays

theorem Registry.replayFree {registry : Registry σ} {stack tokens : List Token}
    {replay : Replay σ} (ok : registry.replay? stack tokens = some replay) :
    ∀ t ∈ tokens, t.isBarrier = false := by
  induction tokens generalizing stack replay with
  | nil => simp
  | cons token rest ih =>
    obtain ⟨first, step, last⟩ := Option.bind_eq_some_iff.mp ok
    obtain ⟨later, follows, -⟩ := Option.map_eq_some_iff.mp last
    exact List.forall_mem_cons.mpr ⟨(replayStepOk step).free, ih follows⟩

namespace Hint

theorem findSource {sources : List Token} {inside : Token}
    (known : ∀ s ∈ sources, s.sameAs inside = true ↔ s = inside) :
    sources.findIdx? (fun s => s.sameAs inside) = sources.idxOf? inside := by
  induction sources with
  | nil => rfl
  | cons first rest ih =>
    simp only [List.mem_cons, forall_eq_or_imp] at known
    have head : first.sameAs inside = (first == inside) :=
      Bool.eq_iff_iff.mpr (known.1.trans beq_iff_eq.symm)
    rw [List.findIdx?_cons, List.idxOf?_cons, ih known.2, head]

theorem followOperand {token : Token} (isOperand : token.kind.isOperand = true)
    (registry : Registry σ) (located : Token) (isClosed : Bool) (inside : Token)
    (stack rest : List Token) :
    follow? registry located isClosed inside stack (token :: rest) =
      follow? registry located isClosed inside (token :: stack) rest := by
  have operand : token.kind ≠ .command := by
    intro kind
    rw [kind] at isOperand
    contradiction
  rw [follow?, if_pos operand, Token.freeOfOperand isOperand]
  rfl

theorem followOwn {registry : Registry σ} {token : Token} {command : Command σ}
    (isCommand : token.kind = .command) (found : registry.command? token.value = some command)
    (visible : command.hidden = false) (stack rest : List Token) :
    follow? registry token false token stack (token :: rest) = some ⟨command, 0, token⟩ := by
  rw [follow?, if_neg (by simp [isCommand])]
  simp [found, token.sameAsSelf, visible]

theorem builtinUntargeted {command : Command σ} (targeted : command.takesTarget = true) :
    command.isBuiltin = false := by
  unfold Command.takesTarget Command.targetType? at targeted
  unfold Command.isBuiltin
  cases action : command.action with
  | builtin builtin =>
    rw [action] at targeted
    contradiction
  | host type handler => rfl

theorem followCommand {registry : Registry σ} {token inside : Token} {command : Command σ}
    {operands : List Token} {target : Option Token} {below : List Token}
    (isCommand : token.kind = .command)
    (found : registry.command? token.value = some command)
    (arity : operands.length = command.arity) (targeted : command.takesTarget = target.isSome)
    {rest : List Token}
    (apart : Apart (operands.reverse ++ (target.toList ++ below) ++ token :: rest))
    (member : inside ∈ operands.reverse ++ (target.toList ++ below) ++ token :: rest)
    {isClosed : Bool} (other : isClosed = true ∨ token ≠ inside) (located : Token) :
    follow? registry located isClosed inside (operands.reverse ++ (target.toList ++ below))
        (token :: rest) =
      match (Use.mk token command operands target).slot? inside with
      | none => follow? registry located isClosed inside (token :: below) rest
      | some slot =>
          if (Use.mk token command operands target).passesOn then
            follow? registry located isClosed token (token :: below) rest
          else some ⟨command, slot, located⟩ := by
  have known : ∀ s ∈ operands.reverse ++ (target.toList ++ below),
      s.sameAs inside = true ↔ s = inside := fun s waiting =>
    apart.sameAs (List.mem_append_left _ waiting) member
  have unhinted : (token.sameAs inside && !isClosed) = false := by
    rcases other with closed | differs
    · rw [closed, Bool.not_true, Bool.and_false]
    · refine Bool.and_eq_false_iff.mpr (.inl (Bool.eq_false_iff.mpr fun same => differs ?_))
      exact (apart.sameAs (List.mem_append_right _ List.mem_cons_self) member).mp same
  obtain ⟨taken, left⟩ := Engine.stackParts arity (target.toList ++ below)
  have enough : command.arity ≤ (operands.reverse ++ (target.toList ++ below)).length := by
    rw [List.length_append, List.length_reverse]
    omega
  have place : operands.findIdx? (fun s => s.sameAs inside) = operands.idxOf? inside :=
    findSource fun s member => known s (List.mem_append_left _ (List.mem_reverse.mpr member))
  have passes : (command.isBuiltin && command.hidden) =
      (Use.mk token command operands target).passesOn := rfl
  rw [follow?, if_neg (by simp [isCommand])]
  simp only [found, unhinted, taken, left, place, Bool.false_and, Bool.false_eq_true, if_false,
    targeted, enough, decide_true, Bool.and_true, passes]
  cases target with
  | none =>
    rw [Use.slotArgument (by simp)]
    cases operands.idxOf? inside with
    | none => rfl
    | some i => cases (Use.mk token command operands none).passesOn <;> rfl
  | some t =>
    have visible : (Use.mk token command operands (some t)).passesOn = false := by
      rw [Use.passesOn, builtinUntargeted targeted, Bool.false_and]
    rw [visible]
    by_cases same : t = inside
    · subst same
      have absent : operands.idxOf? t = none := by
        refine List.idxOf?_eq_none_iff.mpr fun operand => ?_
        rw [List.append_assoc] at apart
        exact apart.disjoint (List.mem_reverse.mpr operand) List.mem_cons_self
      have self : t.sameAs t = true := (known t (by simp)).mpr rfl
      rw [Use.slotTarget rfl, absent]
      simp [self]
    · have apartTarget : t.sameAs inside = false :=
        Bool.eq_false_iff.mpr fun equal => same ((known t (by simp)).mp equal)
      rw [Use.slotArgument (by simpa using same)]
      cases operands.idxOf? inside with
      | none => simp [apartTarget]
      | some i => rfl

theorem followReplayed {registry : Registry σ} {stack : List Token} {token : Token}
    {replay : Replay σ} (replays : Replays registry stack token replay) {inside : Token}
    {rest : List Token} (apart : Apart (stack ++ token :: rest))
    (member : inside ∈ stack ++ token :: rest) {isClosed : Bool}
    (other : isClosed = true ∨ token ≠ inside) (located : Token) :
    follow? registry located isClosed inside stack (token :: rest) =
      match fate inside replay.uses with
      | .taken command slot => some ⟨command, slot, located⟩
      | .left next => follow? registry located isClosed next replay.stack rest := by
  cases replays with
  | operand isOperand => exact followOperand isOperand ..
  | @command command operands target below isCommand found arity targeted joined =>
    rw [← joined] at apart member ⊢
    rw [followCommand isCommand found arity targeted apart member other located, fate]
    cases Use.slot? _ inside with
    | none => rfl
    | some slot => cases Use.passesOn _ <;> rfl

end Hint
end LiveConsole
