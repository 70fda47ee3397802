import LiveConsole.Proofs.Evaluation.Grouping
import LiveConsole.Proofs.Hint.Location
import LiveConsole.Proofs.Hint.Replay

/-! The cursor on a command's name, up to the place right behind it. Whatever stands there, the name
is what is hinted for, unless a group opens there: the search starts anew in the group, and nothing
of the group is before the cursor. -/
namespace LiveConsole

variable {σ : Type}

namespace Hint

theorem locateOpens {before after : List Token} {opener : Token} {cursor : Nat}
    (earlier : ∀ t ∈ before, t.position ≤ cursor) (starts : opener.position ≤ cursor)
    (later : ∀ t ∈ after, cursor < t.position) (opens : opener.kind = .openGroup) :
    locate? (before ++ opener :: after) cursor = none := by
  unfold locate?
  rw [Search.ofHeld earlier starts later, Search.advanceOpens opens]
  rfl

theorem Search.advanceAt {token : Token} (unsought : token.kind.isSought = false)
    (opens : token.kind ≠ .openGroup) {cursor : Nat} (starts : cursor ≤ token.position)
    (search : Search) : search.advance cursor token = search := by
  by_cases closes : token.kind = .closeGroup
  · exact search.advanceBeyond (Token.roleOfCloser closes) starts
  · exact Search.advancePassed opens closes unsought search cursor

theorem behindHeld {symbols : Symbols} {source : String} {before after : List Token} {token : Token}
    (split : Token.ofSource symbols source = before ++ token :: after) {cursor : Nat}
    (stops : cursor ≤ token.stop) :
    (∀ t ∈ after, cursor < t.position) ∨
    ∃ next rest, after = next :: rest ∧ cursor ≤ next.position ∧ next.position ≤ cursor ∧
      ∀ t ∈ rest, cursor < t.position := by
  obtain ⟨-, back, ordered⟩ := Token.around split
  cases after with
  | nil => exact .inl (by simp)
  | cons next rest =>
    obtain ⟨increases, -⟩ := List.pairwise_cons.mp ordered
    have clear : cursor ≤ next.position := stops.trans (back next List.mem_cons_self).2
    have beyond : ∀ t ∈ rest, cursor < t.position := fun t inside =>
      clear.trans_lt (increases t inside)
    by_cases reached : next.position ≤ cursor
    · exact .inr ⟨next, rest, rfl, clear, reached, beyond⟩
    · exact .inl (List.forall_mem_cons.mpr ⟨by omega, beyond⟩)

theorem locateAlone {symbols : Symbols} {source : String} {token : Token} {cursor : Nat}
    (member : token ∈ Token.ofSource symbols source) (sought : token.kind.isSought = true)
    (holds : token.holds cursor = true)
    (alone : ∀ t ∈ Token.ofSource symbols source, t.kind.isSought = true →
      t.holds cursor = true → t = token) :
    ((∀ t ∈ Token.ofSource symbols source, t.kind = .openGroup → t.position ≠ cursor) →
      locate? (Token.ofSource symbols source) cursor = some ⟨token, false⟩) ∧
    ((∃ t ∈ Token.ofSource symbols source, t.kind = .openGroup ∧ t.position = cursor) →
      locate? (Token.ofSource symbols source) cursor = none) := by
  obtain ⟨starts, stops⟩ : token.position ≤ cursor ∧ cursor ≤ token.stop := by
    simpa [Token.holds] using holds
  obtain ⟨before, after, split⟩ := List.append_of_mem member
  obtain ⟨front, back, -⟩ := Token.around split
  have earlier : ∀ t ∈ before, t.position ≤ cursor := fun t inside =>
    (front t inside).le.trans starts
  -- A group that opens at the cursor opens behind the token.
  have opening : ∀ t ∈ Token.ofSource symbols source, t.kind = .openGroup →
      t.position = cursor → t ∈ after := by
    intro t inside opens place
    rw [split] at inside
    rcases List.mem_append.mp inside with inside | inside
    · have passed := front t inside
      omega
    rcases List.mem_cons.mp inside with rfl | inside
    · rw [opens] at sought
      contradiction
    · exact inside
  rcases behindHeld split stops with later | ⟨next, rest, rfl, clear, reached, beyond⟩
  · refine ⟨fun _ => split ▸ locateHeld earlier starts later sought, ?_⟩
    rintro ⟨opener, inside, opens, place⟩
    have ahead := later opener (opening opener inside opens place)
    omega
  have passed : ∀ t ∈ before ++ [token], t.position ≤ cursor :=
    List.forall_mem_append.mpr ⟨earlier, by simpa using starts⟩
  have inside : next ∈ Token.ofSource symbols source := by simp [split]
  rw [List.append_cons] at split
  by_cases opens : next.kind = .openGroup
  · have place : next.position = cursor := Nat.le_antisymm reached clear
    refine ⟨fun none => absurd place (none next inside opens), fun _ => ?_⟩
    exact split ▸ locateOpens passed reached beyond opens
  have unsought : next.kind.isSought = false := by
    refine Bool.eq_false_iff.mpr fun found => ?_
    have extent : next.position ≤ next.stop := Nat.le_add_right ..
    have held : next.holds cursor = true := by
      simpa [Token.holds, reached] using clear.trans extent
    have follows := (back next List.mem_cons_self).1
    rw [alone next inside found held] at follows
    exact Nat.lt_irrefl _ follows
  constructor
  · intro _
    unfold locate?
    rw [split, Search.ofHeld passed reached beyond, Search.advanceAt unsought opens clear,
      List.foldl_append, List.foldl_cons, List.foldl_nil, Search.advanceSought sought]
    rfl
  · rintro ⟨opener, member, isOpener, place⟩
    rcases List.mem_cons.mp (opening opener member isOpener place) with rfl | later
    · contradiction
    · have ahead := beyond opener later
      omega

theorem followPasses {registry : Registry σ} {token inside : Token} {stack : List Token}
    (known : token.kind = .command → (registry.command? token.value).isSome = true)
    (other : token.sameAs inside = false) (absent : ∀ t ∈ stack, t.sameAs inside = false)
    (located : Token) (isClosed : Bool) :
    ∃ left, (∀ t ∈ left, t.sameAs inside = false) ∧ ∀ rest,
      follow? registry located isClosed inside stack (token :: rest) =
        follow? registry located isClosed inside left rest := by
  by_cases isCommand : token.kind = .command
  · obtain ⟨command, found⟩ := Option.isSome_iff_exists.mp (known isCommand)
    have below : ∀ t ∈ stack.drop command.arity, t.sameAs inside = false := fun t member =>
      absent t (List.mem_of_mem_drop member)
    have untaken : (stack.take command.arity).reverse.findIdx?
        (fun operand => operand.sameAs inside) = none := by
      refine List.findIdx?_eq_none_iff.mpr fun t member => ?_
      exact absent t (List.mem_of_mem_take (List.mem_reverse.mp member))
    simp only [follow?, isCommand, found, other, untaken, ne_eq, not_true_eq_false, if_false,
      Bool.false_and, Bool.false_eq_true, Option.isSome_none]
    split
    · split
      · rename_i target lower left
        rw [left] at below
        obtain ⟨missed, under⟩ := List.forall_mem_cons.mp below
        simp only [missed, Bool.false_eq_true, if_false]
        exact ⟨token :: lower, List.forall_mem_cons.mpr ⟨other, under⟩, fun rest => rfl⟩
      · exact ⟨[token], by simpa using other, fun rest => rfl⟩
    · exact ⟨token :: stack.drop command.arity, List.forall_mem_cons.mpr ⟨other, below⟩,
        fun rest => rfl⟩
  · refine ⟨if token.isBarrier then stack else token :: stack, fun t member => ?_, fun rest => ?_⟩
    · split at member
      · exact absent t member
      · rcases List.mem_cons.mp member with rfl | waiting
        · exact other
        · exact absent t waiting
    · rw [follow?, if_pos isCommand]

theorem followReachesOwn {registry : Registry σ} {token : Token} {command : Command σ}
    (isCommand : token.kind = .command) (found : registry.command? token.value = some command)
    (visible : command.hidden = false) {before stack : List Token}
    (known : ∀ t ∈ before, t.kind = .command → (registry.command? t.value).isSome = true)
    (others : ∀ t ∈ before, t.sameAs token = false) (absent : ∀ t ∈ stack, t.sameAs token = false)
    (after : List Token) :
    follow? registry token false token stack (before ++ token :: after) =
      some ⟨command, 0, token⟩ := by
  induction before generalizing stack with
  | nil => exact followOwn isCommand found visible stack after
  | cons first rest ih =>
    obtain ⟨knownHere, knownLater⟩ := List.forall_mem_cons.mp known
    obtain ⟨other, othersLater⟩ := List.forall_mem_cons.mp others
    obtain ⟨left, apart, passes⟩ := followPasses knownHere other absent token false
    rw [List.cons_append, passes]
    exact ih knownLater othersLater apart

end Hint

namespace Engine
open Hint

structure OnName (engine : Engine σ) (source : String) (cursor : Nat) (token : Token)
    (command : Command σ) : Prop where
  member : token ∈ Token.ofSource engine.symbols source
  isCommand : token.kind = .command
  registered : engine.registry.command? token.value = some command
  visible : command.hidden = false
  holds : token.holds cursor = true
  alone : ∀ t ∈ Token.ofSource engine.symbols source,
    t.kind ∈ [.command, .variable, .global, .string] → t.holds cursor = true → t = token

structure Known (engine : Engine σ) (source : String) (order : List Token) : Prop where
  compiled : engine.compile? source = some order
  registered : ∀ t ∈ order, t.kind = .command → (engine.registry.command? t.value).isSome = true

theorem nameHint {engine : Engine σ} {source : String} {cursor : Nat} {token : Token}
    {command : Command σ} {order : List Token} (onName : OnName engine source cursor token command)
    (known : Known engine source order) :
    ((∀ t ∈ Token.ofSource engine.symbols source, t.kind = .openGroup → t.position ≠ cursor) →
      engine.hint? source cursor = some ⟨command, 0, token⟩) ∧
    ((∃ t ∈ Token.ofSource engine.symbols source, t.kind = .openGroup ∧ t.position = cursor) →
      engine.hint? source cursor = none) := by
  have sought : token.kind.isSought = true := by rw [onName.isCommand]; rfl
  have alone : ∀ t ∈ Token.ofSource engine.symbols source, t.kind.isSought = true →
      t.holds cursor = true → t = token := fun t member isSought =>
    onName.alone t member (LexemeKind.soughtAmong.mp isSought)
  obtain ⟨found, missed⟩ := locateAlone onName.member sought onName.holds alone
  have ordered : Rpn.ofTokens? (Token.ofSource engine.symbols source) = some order :=
    known.compiled
  have isEnabled := Registry.foundEnabled onName.registered
  constructor
  · intro clear
    have apart := Rpn.arrangedApart (Token.increasing engine.symbols source) ordered
    have arranged := Rpn.soughtArranged ordered onName.member sought
    obtain ⟨before, after, rfl⟩ := List.append_of_mem arranged
    have others : ∀ t ∈ before, t.sameAs token = false := by
      intro t inside
      refine Bool.eq_false_iff.mpr fun same => ?_
      have twice := (apart.sameAs (List.mem_append_left _ inside) arranged).mp same
      exact apart.disjoint inside (twice ▸ List.mem_cons_self)
    have registered : ∀ t ∈ before, t.kind = .command →
        (engine.registry.command? t.value).isSome = true := fun t inside =>
      known.registered t (List.mem_append_left _ inside)
    rw [hint?, if_pos isEnabled, Hint.ofTokens?, found clear, ordered]
    exact followReachesOwn onName.isCommand onName.registered onName.visible registered others
      (by simp) after
  · intro opens
    rw [hint?, if_pos isEnabled, Hint.ofTokens?, missed opens]

def echoName : Token := .ofLexeme (.bare .command "echo" 0)

theorem onEchoName {source : String} {rest : List Token}
    (tokens : Token.ofSource .standard source = echoName :: rest)
    (later : ∀ t ∈ rest, t.kind ∈ [.command, .variable, .global, .string] → 4 < t.position) :
    OnName plainConsole source 4 echoName echoCommand := by
  have line : Token.ofSource plainConsole.symbols source = echoName :: rest := tokens
  refine ⟨?_, rfl, by cbv, rfl, by decide, ?_⟩
  · rw [line]
    exact List.mem_cons_self
  · intro t member sought held
    rw [line] at member
    rcases List.mem_cons.mp member with rfl | member
    · rfl
    · have starts := (Bool.and_eq_true_iff.mp held).1
      exact absurd (later t member sought) (by simpa using starts)

theorem indexedNameHint :
    (∃ order, OnName plainConsole "echo[1]" 4 echoName echoCommand ∧
      Known plainConsole "echo[1]" order) ∧
    plainConsole.hint? "echo[1]" 4 = some ⟨echoCommand, 0, echoName⟩ := by
  have lexemes : Lexeme.scan .standard "echo[1]" =
      [.bare .command "echo" 0, .bare .openIndex "[" 4, .bare .command "1" 5,
        .bare .closeIndex "]" 6] := by cbv
  have tokens : Token.ofSource .standard "echo[1]" =
      [echoName, .ofLexeme (.bare .openIndex "[" 4), .ofKind .string (.bare .command "1" 5),
        .ofLexeme (.bare .closeIndex "]" 6)] := congrArg Token.ofLexemes lexemes
  have onName := onEchoName tokens (by decide)
  have known : Known plainConsole "echo[1]" [.ofKind .string (.bare .command "1" 5),
      .synthetic indexName 4, echoName] := by
    refine ⟨?_, by decide⟩
    rw [compile?, Rpn.ofSource?]
    exact (congrArg Rpn.ofTokens? tokens).trans rfl
  refine ⟨⟨_, onName, known⟩, (nameHint onName known).1 ?_⟩
  intro t member
  rw [show Token.ofSource plainConsole.symbols "echo[1]" = _ from tokens] at member
  revert t
  decide

/- A group right behind the name takes the cursor from it. -/
theorem openedGroupHidesName :
    (∃ order, OnName plainConsole "echo\x7b'a'\x7d" 4 echoName echoCommand ∧
      Known plainConsole "echo\x7b'a'\x7d" order) ∧
    plainConsole.hint? "echo\x7b'a'\x7d" 4 = none := by
  have lexemes : Lexeme.scan .standard "echo\x7b'a'\x7d" =
      [.bare .command "echo" 0, .bare .openGroup "\x7b" 4, ⟨.string, "a", 5, "'", "'"⟩,
        .bare .closeGroup "\x7d" 8] := by cbv
  have tokens : Token.ofSource .standard "echo\x7b'a'\x7d" =
      [echoName, .ofLexeme (.bare .openGroup "\x7b" 4), .ofLexeme ⟨.string, "a", 5, "'", "'"⟩,
        .ofLexeme (.bare .closeGroup "\x7d" 8)] := congrArg Token.ofLexemes lexemes
  have onName := onEchoName tokens (by decide)
  have known : Known plainConsole "echo\x7b'a'\x7d"
      [.ofLexeme ⟨.string, "a", 5, "'", "'"⟩, echoName] := by
    refine ⟨?_, by decide⟩
    rw [compile?, Rpn.ofSource?]
    exact (congrArg Rpn.ofTokens? tokens).trans rfl
  exact ⟨⟨_, onName, known⟩, (hintScanned plainConsole rfl lexemes 4).trans rfl⟩

end Engine
end LiveConsole
