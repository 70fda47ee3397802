import LiveConsole.Hint
import LiveConsole.Proofs.Line.Conservation
import LiveConsole.Proofs.Line.Occurrence

/-! Where a hint's search starts: the token that the cursor is in, or after a group the first token
that stands directly in that group. -/
namespace LiveConsole

namespace LexemeKind

def isSought (kind : LexemeKind) : Bool := kind.isOperand || kind = .command

theorem soughtIff {kind : LexemeKind} :
    kind.isSought = true ↔ kind = .command ∨ kind.isOperand = true := by
  rw [isSought, Bool.or_eq_true, decide_eq_true_iff, or_comm]

theorem soughtAmong {kind : LexemeKind} :
    kind.isSought = true ↔ kind ∈ [.command, .variable, .global, .string] := by
  cases kind <;> decide

end LexemeKind

namespace Token

/- The first sought token that is in no group but the one looked at. `depth` counts the groups in
it that are open. -/
def leader? : Nat → List Token → Option Token
  | _, [] => none
  | depth, token :: rest =>
      match token.kind with
      | .openGroup => leader? (depth + 1) rest
      | .closeGroup => leader? (depth - 1) rest
      | kind => if kind.isSought && depth = 0 then some token else leader? depth rest

theorem leaderFound {depth : Nat} {tokens : List Token} {leader : Token}
    (found : leader? depth tokens = some leader) :
    leader ∈ tokens ∧ leader.kind.isSought = true := by
  induction tokens generalizing depth with
  | nil => contradiction
  | cons token rest ih =>
    have later : ∀ {depth}, leader? depth rest = some leader →
        leader ∈ token :: rest ∧ leader.kind.isSought = true :=
      fun found => ⟨List.mem_cons_of_mem _ (ih found).1, (ih found).2⟩
    unfold leader? at found
    split at found
    · exact later found
    · exact later found
    · split at found
      · rename_i sought
        cases Option.some.inj found
        exact ⟨List.mem_cons_self, (Bool.and_eq_true_iff.mp sought).1⟩
      · exact later found

theorem leaderOpens {token : Token} (opens : token.kind = .openGroup) (depth : Nat)
    (rest : List Token) : leader? depth (token :: rest) = leader? (depth + 1) rest := by
  rw [leader?.eq_def]
  simp only [opens]

theorem leaderCloses {token : Token} (closes : token.kind = .closeGroup) (depth : Nat)
    (rest : List Token) : leader? (depth + 1) (token :: rest) = leader? depth rest := by
  rw [leader?.eq_def]
  simp only [closes, Nat.add_sub_cancel]

theorem leaderApart {token : Token} (opens : token.kind ≠ .openGroup)
    (closes : token.kind ≠ .closeGroup) (depth : Nat) (rest : List Token) :
    leader? depth (token :: rest) =
      if token.kind.isSought && depth = 0 then some token else leader? depth rest := by
  rw [leader?.eq_def]
  cases kind : token.kind <;> first | contradiction | simp only [kind]

theorem roleOfCloser {token : Token} (closes : token.kind = .closeGroup) :
    token.role = .closes .group := by
  rw [role, closes]
  rfl

theorem openAfterApart {token : Token} (opens : token.kind ≠ .openGroup)
    (closes : token.kind ≠ .closeGroup) {opened final : List Bracket} {rest : List Token}
    (after : openAfter? opened (token :: rest) = some final) :
    ∃ next, openAfter? next rest = some final ∧ next.count .group = opened.count .group := by
  cases role : token.role with
  | operand | operator =>
    rw [openAfter?, role] at after
    exact ⟨opened, after, rfl⟩
  | opens bracket =>
    cases bracket with
    | group => exact absurd (kindOfOpens role) opens
    | index =>
      rw [openAfter?, role] at after
      exact ⟨.index :: opened, after, rfl⟩
  | closes bracket =>
    cases bracket with
    | group =>
      unfold Token.role at role
      cases kind : token.kind <;> rw [kind] at role closes <;> contradiction
    | index =>
      rw [openAfterCloses role] at after
      obtain ⟨outer, closed, follows⟩ := Option.bind_eq_some_iff.mp after
      cases Bracket.closeSome closed
      exact ⟨outer, follows, rfl⟩

end Token

theorem Rpn.soughtArranged {tokens arranged : List Token}
    (order : ofTokens? tokens = some arranged) {token : Token} (member : token ∈ tokens)
    (sought : token.kind.isSought = true) : token ∈ arranged := by
  have placed := (arrangesTokens order).tokens token member
  unfold Token.role Token.operator at placed
  cases kind : token.kind <;> rw [kind] at placed sought <;>
    first | contradiction | exact placed (by simp [LexemeKind.role])

namespace Hint

theorem Search.advanceSought {token : Token} (sought : token.kind.isSought = true)
    (search : Search) (cursor : Nat) : search.advance cursor token = search.found token := by
  unfold Search.advance
  cases kind : token.kind <;> rw [kind] at sought <;> first | rfl | contradiction

theorem Search.ofHeld {before after : List Token} {token : Token} {cursor : Nat}
    (earlier : ∀ t ∈ before, t.position ≤ cursor) (starts : token.position ≤ cursor)
    (later : ∀ t ∈ after, cursor < t.position) :
    Search.ofTokens (before ++ token :: after) cursor =
      (before.foldl (fun search token => search.advance cursor token) Search.start).advance
        cursor token := by
  have beyond : after.takeWhile (fun t => decide (t.position ≤ cursor)) = [] := by
    cases after with
    | nil => rfl
    | cons t after =>
      have outside := later t List.mem_cons_self
      rw [List.takeWhile_cons, if_neg (by simpa using outside)]
  have held : upTo cursor (before ++ token :: after) = before ++ [token] := by
    rw [upTo, List.takeWhile_append_of_pos (by simpa using earlier), List.takeWhile_cons,
      if_pos (by simpa using starts), beyond]
  rw [Search.ofTokens, held, List.foldl_append, List.foldl_cons, List.foldl_nil]

theorem locateHeld {before after : List Token} {token : Token} {cursor : Nat}
    (earlier : ∀ t ∈ before, t.position ≤ cursor) (starts : token.position ≤ cursor)
    (later : ∀ t ∈ after, cursor < t.position) (sought : token.kind.isSought = true) :
    locate? (before ++ token :: after) cursor = some ⟨token, false⟩ := by
  unfold locate?
  rw [Search.ofHeld earlier starts later, Search.advanceSought sought]
  rfl

theorem Search.advancePassed {token : Token} (opens : token.kind ≠ .openGroup)
    (closes : token.kind ≠ .closeGroup) (unsought : token.kind.isSought = false)
    (search : Search) (cursor : Nat) : search.advance cursor token = search := by
  unfold Search.advance
  cases kind : token.kind <;> rw [kind] at opens closes unsought <;> contradiction

theorem Search.advanceOpens {token : Token} (opens : token.kind = .openGroup) (search : Search)
    (cursor : Nat) : search.advance cursor token = ⟨none, false, none :: search.heads⟩ := by
  rw [Search.advance, opens]

theorem Search.advanceCloses {token : Token} (closes : token.kind = .closeGroup) {cursor : Nat}
    (past : token.position < cursor) {search : Search} {head : Option Token}
    {outer : List (Option Token)} (heads : search.heads = head :: outer) :
    search.advance cursor token = ⟨head, true, outer⟩ := by
  rw [Search.advance, closes]
  simp only [past, if_true, heads]

theorem Search.advanceBeyond {token : Token} {bracket : Bracket}
    (closes : token.role = .closes bracket) {cursor : Nat} (beyond : cursor ≤ token.position)
    (search : Search) : search.advance cursor token = search := by
  have outside : ¬ token.position < cursor := by omega
  unfold Token.role at closes
  unfold Search.advance
  cases kind : token.kind <;> rw [kind] at closes <;>
    first | contradiction | rfl | exact if_neg outside

theorem Search.foundHeads {search : Search} {head : Option Token} {outer : List (Option Token)}
    (heads : search.heads = head :: outer) (token : Token) :
    (search.found token).heads = head.or (some token) :: outer := by
  rw [Search.found, heads]
  cases head <;> rfl

theorem headsAfter {cursor : Nat} {tokens : List Token} {opened : List Bracket}
    (balanced : Token.openAfter? opened tokens = some [])
    (earlier : ∀ t ∈ tokens, t.position < cursor) {search : Search}
    {inner outer : List (Option Token)} {head : Option Token}
    (depth : inner.length = opened.count .group) (heads : search.heads = inner ++ head :: outer) :
    (tokens.foldl (fun search token => search.advance cursor token) search).heads =
      head.or (Token.leader? inner.length tokens) :: outer := by
  induction tokens generalizing opened search inner head with
  | nil =>
    cases Option.some.inj balanced
    cases List.eq_nil_of_length_eq_zero depth
    rw [List.foldl_nil, heads, Token.leader?, Option.or_none]
    rfl
  | cons token rest ih =>
    obtain ⟨here, later⟩ := List.forall_mem_cons.mp earlier
    rw [List.foldl_cons]
    by_cases opens : token.kind = .openGroup
    · have role : token.role = .opens .group := by rw [Token.role, opens]; rfl
      rw [Token.openAfter?, role] at balanced
      have entered : (search.advance cursor token).heads = none :: inner ++ head :: outer := by
        rw [Search.advanceOpens opens, heads]
        rfl
      have deeper : (none :: inner).length = (Bracket.group :: opened).count .group := by
        rw [List.length_cons, List.count_cons_self, depth]
      rw [ih balanced later deeper entered, Token.leaderOpens opens]
      rfl
    by_cases closes : token.kind = .closeGroup
    · rw [Token.openAfterCloses (Token.roleOfCloser closes)] at balanced
      obtain ⟨next, closed, follows⟩ := Option.bind_eq_some_iff.mp balanced
      cases Bracket.closeSome closed
      rw [List.count_cons_self] at depth
      obtain ⟨left, inner, rfl⟩ := List.exists_cons_of_length_eq_add_one depth
      have outside : (search.advance cursor token).heads = inner ++ head :: outer := by
        rw [Search.advanceCloses closes here heads]
        rfl
      rw [ih follows later (Nat.succ.inj depth) outside, List.length_cons,
        Token.leaderCloses closes]
    obtain ⟨next, follows, count⟩ := Token.openAfterApart opens closes balanced
    rw [← count] at depth
    cases sought : token.kind.isSought with
    | false =>
      rw [Search.advancePassed opens closes sought, ih follows later depth heads,
        Token.leaderApart opens closes, sought]
      rfl
    | true =>
      rw [Search.advanceSought sought, Token.leaderApart opens closes, sought]
      cases inner with
      | nil =>
        have found : (search.found token).heads = [] ++ head.or (some token) :: outer :=
          Search.foundHeads heads token
        rw [ih follows later depth found, Option.or_assoc]
        rfl
      | cons innermost inner =>
        have found : (search.found token).heads =
            innermost.or (some token) :: inner ++ head :: outer := Search.foundHeads heads token
        have deeper : (innermost.or (some token) :: inner).length = next.count .group := depth
        rw [ih follows later deeper found]
        rfl

theorem locateClosed {command opener closer : Token} {content : List Token} {cursor : Nat}
    (leads : command.kind.isSought = true) (opens : opener.kind = .openGroup)
    (closes : closer.kind = .closeGroup) (balanced : Token.Balanced content)
    (earlier : ∀ t ∈ command :: opener :: (content ++ [closer]), t.position < cursor) :
    locate? (command :: opener :: (content ++ [closer])) cursor =
      (Token.leader? 0 content).map fun leader => ⟨leader, true⟩ := by
  have held : upTo cursor (command :: opener :: (content ++ [closer])) =
      command :: opener :: (content ++ [closer]) :=
    List.takeWhile_eq_self_iff.mpr fun t member => by simpa using (earlier t member).le
  have within : ∀ t ∈ content, t.position < cursor := fun t member => earlier t (by simp [member])
  have past : closer.position < cursor := earlier closer (by simp)
  let entered := (Search.start.found command).advance cursor opener
  have opened : entered.heads = [] ++ none :: [] :=
    congrArg Search.heads (Search.advanceOpens opens (Search.start.found command) cursor)
  have heads := headsAfter balanced within rfl opened
  unfold locate? Search.ofTokens
  rw [held, List.foldl_cons, List.foldl_cons, List.foldl_append, List.foldl_cons, List.foldl_nil,
    Search.advanceSought leads, Search.advanceCloses closes past heads, Option.none_or]
  rfl

end Hint

theorem Engine.hintScanned {σ : Type} (engine : Engine σ)
    (isEnabled : engine.registry.isEnabled = true) {source : String} {lexemes : List Lexeme}
    (scanned : Lexeme.scan engine.symbols source = lexemes) (cursor : Nat) :
    engine.hint? source cursor =
      Hint.ofTokens? engine.registry (Token.ofLexemes lexemes) cursor := by
  rw [hint?, if_pos isEnabled, Token.ofSource, scanned]

end LiveConsole
