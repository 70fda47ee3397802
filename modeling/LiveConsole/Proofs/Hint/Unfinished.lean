import LiveConsole.Proofs.Evaluation.Operators
import LiveConsole.Proofs.Hint.Closed
import LiveConsole.Proofs.Hint.Meaning
import LiveConsole.Proofs.Line.Unfinished

/-! Hints on a line whose brackets are still open, beside the hints on the finished line. An open
group makes no difference: it leaves nothing behind in either order. An open index has no command
yet, so whatever waits outside of it is handed its base and its place in place of its result. -/
namespace LiveConsole

variable {σ : Type}

namespace Hint

theorem Search.foldBeyond {closers : List Token} {cursor : Nat}
    (closing : ∀ t ∈ closers, ∃ bracket, t.role = .closes bracket)
    (beyond : ∀ t ∈ closers, cursor ≤ t.position) (tokens : List Token) (search : Search) :
    (upTo cursor (tokens ++ closers)).foldl (fun search token => search.advance cursor token)
        search =
      (upTo cursor tokens).foldl (fun search token => search.advance cursor token) search := by
  induction tokens generalizing search with
  | nil =>
    have passed : ∀ (search : Search), ∀ t ∈ upTo cursor closers,
        search.advance cursor t = search := by
      intro search t member
      have inside := (List.takeWhile_sublist _).mem member
      obtain ⟨bracket, closes⟩ := closing t inside
      exact search.advanceBeyond closes (beyond t inside)
    exact (List.foldl_ext _ _ search passed).trans (List.foldl_fixed _)
  | cons token rest ih =>
    unfold upTo at ih ⊢
    rw [List.cons_append, List.takeWhile_cons, List.takeWhile_cons]
    split
    · rw [List.foldl_cons, List.foldl_cons, ih]
    · rfl

theorem locateBeyond {closers : List Token} {cursor : Nat}
    (closing : ∀ t ∈ closers, ∃ bracket, t.role = .closes bracket)
    (beyond : ∀ t ∈ closers, cursor ≤ t.position) (tokens : List Token) :
    locate? (tokens ++ closers) cursor = locate? tokens cursor := by
  unfold locate? Search.ofTokens
  rw [Search.foldBeyond closing beyond]

def along? (registry : Registry σ) (tokens : List Token) (cursor : Nat) (order : List Token) :
    Option (Hint σ) :=
  (locate? tokens cursor).bind fun located =>
    follow? registry located.token located.isClosed located.token [] order

theorem alongBeyond {closers : List Token} {brackets : List Bracket} {cursor : Nat}
    (closing : closers.map Token.role = brackets.map Role.closes)
    (beyond : ∀ t ∈ closers, cursor ≤ t.position) (registry : Registry σ) (tokens : List Token) :
    along? registry (tokens ++ closers) cursor = along? registry tokens cursor := by
  have closes : ∀ t ∈ closers, ∃ bracket, t.role = .closes bracket := by
    intro t member
    have role := List.mem_map_of_mem (f := Token.role) member
    rw [closing] at role
    obtain ⟨bracket, -, same⟩ := List.mem_map.mp role
    exact ⟨bracket, same.symm⟩
  funext order
  rw [along?, along?, locateBeyond closes beyond]

theorem ofOrder (registry : Registry σ) (tokens : List Token) (cursor : Nat) :
    ofTokens? registry tokens cursor =
      (Rpn.ofTokens? tokens).bind (along? registry tokens cursor) := by
  unfold ofTokens? along?
  cases locate? tokens cursor <;> cases Rpn.ofTokens? tokens <;> rfl

theorem followFree (registry : Registry σ) (located : Token) (isClosed : Bool) (inside : Token)
    (stack order : List Token) :
    follow? registry located isClosed inside stack (order.filter fun t => !t.isBarrier) =
      follow? registry located isClosed inside stack order := by
  induction order generalizing inside stack with
  | nil => rfl
  | cons token rest ih =>
    cases barrier : token.isBarrier with
    | true =>
      have bracket : token.kind ≠ .command := by
        intro command
        rw [Token.isBarrier, command] at barrier
        contradiction
      rw [List.filter_cons_of_neg (by simp [barrier]), ih, follow?, if_pos bracket, barrier]
      rfl
    | false =>
      rw [List.filter_cons_of_pos (by simp [barrier])]
      simp only [follow?, ih]

theorem alongFree (registry : Registry σ) (tokens : List Token) (cursor : Nat)
    (order : List Token) :
    along? registry tokens cursor (order.filter fun t => !t.isBarrier) =
      along? registry tokens cursor order := by
  unfold along?
  congr 1
  funext located
  exact followFree ..

theorem groupsKeep (registry : Registry σ) {tokens closers : List Token} {cursor count : Nat}
    (closing : closers.map Token.role = (List.replicate count Bracket.group).map Role.closes)
    (beyond : ∀ t ∈ closers, cursor ≤ t.position)
    (opened : ∀ brackets, Token.openAfter? [] tokens = some brackets →
      brackets = List.replicate count .group) :
    ofTokens? registry (tokens ++ closers) cursor = ofTokens? registry tokens cursor := by
  cases after : Token.openAfter? [] tokens with
  | none =>
    have longer : Token.openAfter? [] (tokens ++ closers) = none := by
      rw [Token.openAfterAppend, after, Option.bind_none]
    rw [ofOrder, ofOrder, Rpn.noOrder after, Rpn.noOrder longer, Option.bind_none, Option.bind_none]
  | some brackets =>
    cases opened brackets after
    by_cases filled : tokens = []
    · subst filled
      rw [← Option.some.inj after, List.map_nil] at closing
      rw [List.map_eq_nil_iff.mp closing, List.append_nil]
    obtain ⟨order, unfinished, finished, ends⟩ := Rpn.finishes filled after closing
    have drops : ∀ t ∈ order, ∀ bracket, t.role = .opens bracket →
        (!t.isBarrier) = false ∧ ∀ command ∈ bracket.command t, (!command.isBarrier) = false := by
      intro t member bracket opens
      have barrier := (Token.isBarrierIff t).mpr ⟨bracket, opens⟩
      have inside : bracket ∈ Rpn.opened order :=
        List.mem_filterMap.mpr ⟨t, member, by rw [Token.bracket?, opens]⟩
      rw [ends] at inside
      cases List.eq_of_mem_replicate inside
      exact ⟨by rw [barrier]; rfl, by simp [Bracket.command]⟩
    have bare := Rpn.settledFiltered (fun t => !t.isBarrier) drops fun _ => true
    rw [ofOrder, ofOrder, finished, unfinished, Option.bind_some, Option.bind_some,
      alongBeyond closing beyond, ← alongFree, bare, alongFree]

def Quiet (registry : Registry σ) (token : Token) : Prop :=
  token.kind = .command → ∀ command, registry.command? token.value = some command →
    (command.isBuiltin && command.hidden) = true

theorem followQuiet {registry : Registry σ} {order : List Token}
    (quiet : ∀ t ∈ order, Quiet registry t) (located : Token) (isClosed : Bool) (inside : Token)
    (stack : List Token) : follow? registry located isClosed inside stack order = none := by
  induction order generalizing inside stack with
  | nil => rfl
  | cons token rest ih =>
    obtain ⟨here, later⟩ := List.forall_mem_cons.mp quiet
    rw [follow?]
    split
    · exact ih later ..
    · rename_i kind
      cases found : registry.command? token.value with
      | none => rfl
      | some command =>
        have passes := here (not_not.mp kind) command found
        obtain ⟨own, hidden⟩ := Bool.and_eq_true_iff.mp passes
        have untargeted : command.takesTarget = false :=
          Bool.eq_false_iff.mpr fun targeted => by simp [builtinUntargeted targeted] at own
        simp only [hidden, own, untargeted, Bool.not_true, Bool.and_false, Bool.false_and,
          Bool.false_eq_true, if_false, Bool.and_self]
        split
        · contradiction
        · exact ih later ..

theorem followFront {registry : Registry σ} {located : Token} {isClosed : Bool} {inside : Token}
    {stack front : List Token} (rest : List Token) :
    follow? registry located isClosed inside stack (front ++ rest) =
        follow? registry located isClosed inside stack front ∨
      follow? registry located isClosed inside stack front = none ∧
        ∃ next left, follow? registry located isClosed inside stack (front ++ rest) =
          follow? registry located isClosed next left rest := by
  induction front generalizing inside stack with
  | nil => exact .inr ⟨rfl, inside, stack, rfl⟩
  | cons token front ih =>
    rcases followStep registry located isClosed inside stack token with
      ⟨ended, -, same⟩ | ⟨next, left, -, same⟩
    · rw [List.cons_append, same, same]
      exact .inl rfl
    · rw [List.cons_append, same, same]
      exact ih

theorem alongFront {registry : Registry σ} {tokens : List Token} {cursor : Nat}
    {front : List Token} {hint : Hint σ} (found : along? registry tokens cursor front = some hint)
    (rest : List Token) : along? registry tokens cursor (front ++ rest) = some hint := by
  obtain ⟨located, place, followed⟩ := Option.bind_eq_some_iff.mp found
  rw [along?, place, Option.bind_some]
  rcases followFront rest with same | ⟨nothing, -⟩
  · rw [same, followed]
  · rw [nothing] at followed
    contradiction

theorem alongQuiet {registry : Registry σ} {rest : List Token}
    (quiet : ∀ t ∈ rest, Quiet registry t) (tokens : List Token) (cursor : Nat)
    (front : List Token) :
    along? registry tokens cursor (front ++ rest) = along? registry tokens cursor front := by
  unfold along?
  congr 1
  funext located
  rcases followFront rest with same | ⟨nothing, next, left, goesOn⟩
  · exact same
  · rw [goesOn, nothing, followQuiet quiet]

theorem quietIndex [Host σ] {registry : Registry σ} (reached : registry.Reachable)
    (isEnabled : registry.isEnabled = true) (position : Nat) :
    Quiet registry (.synthetic indexName position) := by
  obtain ⟨entry, own, named, hides⟩ :
      ∃ entry ∈ Builtin.entries, entry.name = indexName ∧ entry.hidden = true := by decide
  have found := reached.commandFound isEnabled (reached.installed entry own)
  intro isCommand command same
  have value : (Token.synthetic indexName position).value = (Command.ofBuiltin (σ := σ) entry).name :=
    named.symm
  rw [value, found] at same
  cases Option.some.inj same
  exact hides

theorem settledQuiet [Host σ] {registry : Registry σ} (reached : registry.Reachable)
    (isEnabled : registry.isEnabled = true) {operators : List Token}
    (quiet : ∀ t ∈ operators, Quiet registry t) (closes : Nat → Bool) :
    ∀ t ∈ Rpn.settled closes operators, Quiet registry t := by
  intro t member
  rcases Rpn.settledMember member with same | ⟨opener, inside, bracket, opens, arises⟩
  · exact quiet t same
  · cases bracket with
    | group => contradiction
    | index =>
      cases List.mem_singleton.mp arises
      exact quietIndex reached isEnabled _

end Hint

namespace Engine
open Hint

theorem hintAlong {engine : Engine σ} (isEnabled : engine.registry.isEnabled = true)
    {source : String} {order : List Token} (compiled : engine.compile? source = some order)
    (cursor : Nat) :
    engine.hint? source cursor =
      along? engine.registry (Token.ofSource engine.symbols source) cursor order := by
  have ordered : Rpn.ofTokens? (Token.ofSource engine.symbols source) = some order := compiled
  rw [hint?, if_pos isEnabled, ofOrder, ordered, Option.bind_some]

/- Of tokens for any brackets that close groups; of a line for any symbols whose closing brace is a
symbol of its own, as the standard one is. -/
theorem closedGroupsKeepTheHint :
    (∀ (registry : Registry σ) (tokens closers : List Token) (cursor : Nat),
      (∀ t ∈ closers, t.kind = .closeGroup ∧ cursor ≤ t.position) →
      (∀ brackets, Token.openAfter? [] tokens = some brackets →
        brackets = List.replicate closers.length .group) →
      Hint.ofTokens? registry (tokens ++ closers) cursor = Hint.ofTokens? registry tokens cursor) ∧
    ∀ (engine : Engine σ) (source : String) (count cursor : Nat),
      engine.symbols.Marks engine.symbols.groupClose .closeGroup →
      (∀ l ∈ (Lexeme.scan engine.symbols source).getLast?, ¬ l.Unclosed) →
      (∀ brackets, Token.openAfter? [] (Token.ofSource engine.symbols source) = some brackets →
        brackets = List.replicate count .group) →
      cursor ≤ source.utf8ByteSize →
      engine.hint? (finishedLine engine.symbols source (List.replicate count .group)) cursor =
        engine.hint? source cursor := by
  constructor
  · intro registry tokens closers cursor closing opened
    have roles : closers.map Token.role =
        (List.replicate closers.length Bracket.group).map Role.closes := by
      rw [List.map_replicate]
      refine List.eq_replicate_iff.mpr ⟨List.length_map .., fun role member => ?_⟩
      obtain ⟨t, inside, rfl⟩ := List.mem_map.mp member
      exact Token.roleOfCloser (closing t inside).1
    exact groupsKeep registry roles (fun t member => (closing t member).2) opened
  · intro engine source count cursor marks ended opened within
    have closing : ∀ bracket ∈ List.replicate count Bracket.group,
        engine.symbols.Marks (engine.symbols.closing bracket) bracket.closer := by
      intro bracket member
      cases List.eq_of_mem_replicate member
      exact marks
    obtain ⟨closers, joined, roles, beyond⟩ := Token.ofFinishedLine closing ended
    have kept := groupsKeep engine.registry roles (fun t member => within.trans (beyond t member))
      opened
    rw [hint?, hint?, joined, kept]

theorem nestedGroupsKeepTheHint :
    let line := "setvar \x7becho \x7becho 'x'"
    let closers := [22, 30].map fun position => Token.ofLexeme (.bare .closeGroup "\x7d" position)
    Hint.ofTokens? plainConsole.registry (Token.ofSource .standard line ++ closers) 22 =
      Hint.ofTokens? plainConsole.registry (Token.ofSource .standard line) 22 ∧
    plainConsole.hint? (finishedLine .standard line [.group, .group]) 22 =
      plainConsole.hint? line 22 := by
  intro line closers
  obtain ⟨keepsTokens, keepsLines⟩ := closedGroupsKeepTheHint (σ := Scene)
  have lexemes : Lexeme.scan .standard line =
      [.bare .command "setvar" 0, .bare .openGroup "\x7b" 7, .bare .command "echo" 8,
        .bare .openGroup "\x7b" 13, .bare .command "echo" 14, ⟨.string, "x", 19, "'", "'"⟩] := by
    cbv
  have groups : ∀ brackets, Token.openAfter? [] (Token.ofSource .standard line) = some brackets →
      brackets = List.replicate 2 .group := by
    intro brackets after
    rw [Token.ofSource, lexemes] at after
    exact (Option.some.inj after).symm
  have ended : ∀ l ∈ (Lexeme.scan .standard line).getLast?, ¬ l.Unclosed := by
    rw [lexemes]
    decide
  refine ⟨keepsTokens plainConsole.registry _ closers 22 (by decide) groups, ?_⟩
  exact keepsLines plainConsole line 2 22 (Symbols.standardCloses .group) ended groups (by decide)

/- Both searches go alike as far as the innermost open bracket, and only there may one find what the
other one misses. -/
theorem unfinishedLineHint [Host σ] {engine : Engine σ} (reached : engine.registry.Reachable)
    (isEnabled : engine.registry.isEnabled = true) (standard : engine.symbols = .standard)
    {source : String} (ended : ∀ l ∈ (Lexeme.scan .standard source).getLast?, ¬ l.Unclosed)
    {brackets : List Bracket} (unfinished : brackets ≠ [])
    (opened : Token.openAfter? [] (Token.ofSource .standard source) = some brackets)
    {cursor : Nat} (within : cursor ≤ source.utf8ByteSize) :
    let tokens := Token.ofSource .standard source
    let finished := finishedLine .standard source brackets
    ∃ order, engine.compile? source = some order ∧
      engine.compile? finished = some (Rpn.settled (fun _ => true) order) ∧
      engine.hint? source cursor = along? engine.registry tokens cursor order ∧
      engine.hint? finished cursor =
        along? engine.registry tokens cursor (Rpn.settled (fun _ => true) order) ∧
      (∀ hint, along? engine.registry tokens cursor (order.takeWhile fun t => !t.isBarrier) =
          some hint →
        engine.hint? source cursor = some hint ∧ engine.hint? finished cursor = some hint) ∧
      ((∀ t ∈ order.dropWhile fun t => !t.isBarrier, Quiet engine.registry t) →
        engine.hint? source cursor = engine.hint? finished cursor) := by
  intro tokens finished
  obtain ⟨closers, joined, closing, beyond⟩ :=
    Token.ofFinishedLine (fun bracket _ => Symbols.standardCloses bracket) ended
  have filled : Token.ofSource .standard source ≠ [] := by
    intro nothing
    rw [nothing] at opened
    exact unfinished (Option.some.inj opened).symm
  obtain ⟨order, ordered, orderedLater, -⟩ := Rpn.finishes filled opened closing
  rw [← joined] at orderedLater
  have compiled : engine.compile? source = some order := by
    rw [compile?, standard]
    exact ordered
  have compiledLater : engine.compile? finished = some (Rpn.settled (fun _ => true) order) := by
    rw [compile?, standard]
    exact orderedLater
  have hinted := hintAlong isEnabled compiled cursor
  have hintedLater := hintAlong isEnabled compiledLater cursor
  rw [standard] at hinted hintedLater
  rw [joined, alongBeyond closing fun t member => within.trans (beyond t member)] at hintedLater
  refine ⟨order, compiled, compiledLater, hinted, hintedLater, ?_, ?_⟩
  · intro hint found
    have whole := alongFront found (order.dropWhile fun t => !t.isBarrier)
    rw [List.takeWhile_append_dropWhile] at whole
    rw [hinted, hintedLater, Rpn.settledFront]
    exact ⟨whole, alongFront found _⟩
  · intro quiet
    have quietLater := settledQuiet reached isEnabled quiet fun _ => true
    have own := alongQuiet quiet tokens cursor (order.takeWhile fun t => !t.isBarrier)
    rw [List.takeWhile_append_dropWhile] at own
    rw [hinted, hintedLater, Rpn.settledFront, alongQuiet quietLater, own]

theorem indexedGroupHint :
    let line := "setvar $a[\x7becho 0\x7d"
    let hint := ⟨echoCommand, 1, .ofKind .string (.bare .command "0" 16)⟩
    plainConsole.hint? line 16 = some hint ∧
    plainConsole.hint? (finishedLine .standard line [.index]) 16 = some hint := by
  intro line hint
  have lexemes : Lexeme.scan .standard line =
      [.bare .command "setvar" 0, ⟨.variable, "a", 7, "$", ""⟩, .bare .openIndex "[" 9,
        .bare .openGroup "\x7b" 10, .bare .command "echo" 11, .bare .command "0" 16,
        .bare .closeGroup "\x7d" 17] := by cbv
  have ended : ∀ l ∈ (Lexeme.scan .standard line).getLast?, ¬ l.Unclosed := by
    rw [lexemes]
    decide
  have opened : Token.openAfter? [] (Token.ofSource .standard line) = some [.index] := by
    rw [Token.ofSource, lexemes]
    rfl
  have reached : plainConsole.registry.Reachable := .enabled .initial true
  have within : 16 ≤ line.utf8ByteSize := by decide
  obtain ⟨order, compiled, -, -, -, front, -⟩ :=
    unfinishedLineHint reached rfl rfl ended (by decide) opened within
  refine front hint ?_
  have ordered : Rpn.ofTokens? (Token.ofSource .standard line) = some order := compiled
  rw [Token.ofSource, lexemes] at ordered ⊢
  cases Option.some.inj ordered
  rfl

/- What takes the index in the finished line takes the place in it while it is open. -/
theorem openIndexMissesItsResult :
    Token.openAfter? [] (Token.ofSource .standard "setvar $a[0") = some [.index] ∧
    plainConsole.hint? "setvar $a[0" 11 =
      some ⟨setvarCommand, 2, .ofKind .string (.bare .command "0" 10)⟩ ∧
    plainConsole.hint? (finishedLine .standard "setvar $a[0" [.index]) 11 =
      some ⟨setvarCommand, 1, .ofKind .string (.bare .command "0" 10)⟩ := by
  have lexemes : Lexeme.scan .standard "setvar $a[0" =
      [.bare .command "setvar" 0, ⟨.variable, "a", 7, "$", ""⟩, .bare .openIndex "[" 9,
        .bare .command "0" 10] := by cbv
  have finished : Lexeme.scan .standard (finishedLine .standard "setvar $a[0" [.index]) =
      [.bare .command "setvar" 0, ⟨.variable, "a", 7, "$", ""⟩, .bare .openIndex "[" 9,
        .bare .command "0" 10, .bare .closeIndex "]" 11] := by cbv
  refine ⟨?_, (hintScanned plainConsole rfl lexemes 11).trans rfl,
    (hintScanned plainConsole rfl finished 11).trans rfl⟩
  rw [Token.ofSource, lexemes]
  rfl

end Engine
end LiveConsole
