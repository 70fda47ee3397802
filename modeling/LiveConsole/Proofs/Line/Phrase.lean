import LiveConsole.Proofs.Line.Arrangement
import Mathlib.Logic.ExistsUnique

/-! A line whose brackets all close, as the tree that it spells, and its order of evaluation read
off the tree. No priority is compared: between two brackets at most one operator waits. -/
namespace LiveConsole
open Rpn

inductive Phrase where
  | done
  | operand (token : Token) (role : token.role = .operand) (rest : Phrase)
  | operator (token : Token) (role : token.role = .operator) (rest : Phrase)
  | bracketed (bracket : Bracket) (opener closer : Token) (opens : opener.role = .opens bracket)
      (closes : closer.role = .closes bracket) (content rest : Phrase)

namespace Phrase

def tokens : Phrase → List Token
  | done => []
  | operand token _ rest => token :: rest.tokens
  | operator token _ rest => token :: rest.tokens
  | bracketed _ opener closer _ _ content rest =>
      opener :: content.tokens ++ closer :: rest.tokens

/- The translation from left to right, with the operator that waits for its operands. -/
def arranged : Option Token → Phrase → List Token
  | pending, done => pending.toList
  | pending, operand token _ rest => token :: rest.arranged pending
  | pending, operator token _ rest => pending.toList ++ rest.arranged (some token.operator)
  | pending, bracketed bracket opener _ _ _ content rest =>
      content.arranged none ++ bracket.command opener ++ rest.arranged pending

theorem openAfterTokens (phrase : Phrase) (opened : List Bracket) (rest : List Token) :
    Token.openAfter? opened (phrase.tokens ++ rest) = Token.openAfter? opened rest := by
  induction phrase generalizing opened rest with
  | done => rfl
  | operand token role tail ih => simp [tokens, Token.openAfter?, role, ih]
  | operator token role tail ih => simp [tokens, Token.openAfter?, role, ih]
  | bracketed bracket opener closer opens closes content tail inner ih =>
    simp [tokens, Token.openAfter?, opens, closes, inner, ih]

theorem balanced (phrase : Phrase) : Token.Balanced phrase.tokens := by
  have h := openAfterTokens phrase [] []
  simpa [Token.Balanced, Token.openAfter?] using h

def Closing : List Bracket → List Token → Prop
  | [], tokens => ∃ phrase : Phrase, phrase.tokens = tokens
  | bracket :: outer, tokens => ∃ (phrase : Phrase) (closer : Token) (rest : List Token),
      closer.role = .closes bracket ∧ phrase.tokens ++ closer :: rest = tokens ∧ Closing outer rest

theorem Closing.prepend (front : List Token) (extend : Phrase → Phrase)
    (extended : ∀ phrase, (extend phrase).tokens = front ++ phrase.tokens) {opened tokens}
    (closing : Closing opened tokens) : Closing opened (front ++ tokens) := by
  cases opened with
  | nil =>
    obtain ⟨phrase, rfl⟩ := closing
    exact ⟨extend phrase, extended phrase⟩
  | cons bracket outer =>
    obtain ⟨phrase, closer, rest, closes, rfl, later⟩ := closing
    exact ⟨extend phrase, closer, rest, closes, by simp [extended], later⟩

theorem closingOfOpenAfter {opened : List Bracket} {tokens : List Token}
    (closed : Token.openAfter? opened tokens = some []) : Closing opened tokens := by
  induction tokens generalizing opened with
  | nil =>
    cases Option.some.inj closed
    exact ⟨.done, rfl⟩
  | cons token rest ih =>
    cases role : token.role with
    | operand =>
      simp only [Token.openAfter?, role] at closed
      exact (ih closed).prepend [token] (.operand token role) fun _ => rfl
    | operator =>
      simp only [Token.openAfter?, role] at closed
      exact (ih closed).prepend [token] (.operator token role) fun _ => rfl
    | opens bracket =>
      simp only [Token.openAfter?, role] at closed
      obtain ⟨content, closer, after, closes, rfl, later⟩ := ih closed
      have whole := later.prepend (token :: content.tokens ++ [closer])
        (.bracketed bracket token closer role closes content) fun _ => by simp [tokens]
      simpa using whole
    | closes bracket =>
      simp only [Token.openAfter?, role] at closed
      split at closed <;> try contradiction
      split at closed <;> try contradiction
      rename_i same
      exact ⟨.done, token, rest, same ▸ role, rfl, ih closed⟩

theorem ofBalanced {tokens : List Token} (balanced : Token.Balanced tokens) :
    ∃ phrase : Phrase, phrase.tokens = tokens := closingOfOpenAfter balanced

def Ends (rest : List Token) : Prop :=
  ∀ token ∈ rest.head?, ∃ bracket, token.role = .closes bracket

theorem endsCloser {closer : Token} {bracket : Bracket} (closes : closer.role = .closes bracket)
    (rest : List Token) : Ends (closer :: rest) := by
  intro token head
  cases Option.some.inj head
  exact ⟨bracket, closes⟩

theorem doneOfEnds {phrase : Phrase} {rest : List Token} (ends : Ends (phrase.tokens ++ rest)) :
    phrase = done := by
  cases phrase with
  | done => rfl
  | operand token role tail =>
    obtain ⟨bracket, closes⟩ := ends token rfl
    rw [role] at closes
    contradiction
  | operator token role tail =>
    obtain ⟨bracket, closes⟩ := ends token rfl
    rw [role] at closes
    contradiction
  | bracketed bracket opener closer opens closes content tail =>
    obtain ⟨other, clash⟩ := ends opener rfl
    rw [opens] at clash
    contradiction

theorem tokensInjective {a b : Phrase} {restA restB : List Token} (endsA : Ends restA)
    (endsB : Ends restB) (same : a.tokens ++ restA = b.tokens ++ restB) :
    a = b ∧ restA = restB := by
  induction a generalizing b restA restB with
  | done =>
    have empty : b = done := doneOfEnds (by rw [← same]; exact endsA)
    subst empty
    exact ⟨rfl, same⟩
  | operand token role tail ih =>
    cases b with
    | done => cases @doneOfEnds (.operand token role tail) restA (by rw [same]; exact endsB)
    | operand other role' tail' =>
      obtain ⟨rfl, rest⟩ := List.cons.inj same
      obtain ⟨rfl, last⟩ := ih endsA endsB rest
      exact ⟨rfl, last⟩
    | operator other role' tail' =>
      obtain ⟨rfl, -⟩ := List.cons.inj same
      rw [role] at role'
      contradiction
    | bracketed bracket opener closer opens closes content tail' =>
      obtain ⟨rfl, -⟩ := List.cons.inj same
      rw [role] at opens
      contradiction
  | operator token role tail ih =>
    cases b with
    | done => cases @doneOfEnds (.operator token role tail) restA (by rw [same]; exact endsB)
    | operand other role' tail' =>
      obtain ⟨rfl, -⟩ := List.cons.inj same
      rw [role] at role'
      contradiction
    | operator other role' tail' =>
      obtain ⟨rfl, rest⟩ := List.cons.inj same
      obtain ⟨rfl, last⟩ := ih endsA endsB rest
      exact ⟨rfl, last⟩
    | bracketed bracket opener closer opens closes content tail' =>
      obtain ⟨rfl, -⟩ := List.cons.inj same
      rw [role] at opens
      contradiction
  | bracketed bracket opener closer opens closes content tail inner ih =>
    cases b with
    | done =>
      cases @doneOfEnds (.bracketed bracket opener closer opens closes content tail) restA
        (by rw [same]; exact endsB)
    | operand other role' tail' =>
      obtain ⟨rfl, -⟩ := List.cons.inj same
      rw [opens] at role'
      contradiction
    | operator other role' tail' =>
      obtain ⟨rfl, -⟩ := List.cons.inj same
      rw [opens] at role'
      contradiction
    | bracketed bracket' opener' closer' opens' closes' content' tail' =>
      simp only [tokens, List.cons_append, List.append_assoc, List.cons.injEq] at same
      obtain ⟨rfl, rest⟩ := same
      obtain ⟨rfl, after⟩ := inner (endsCloser closes _) (endsCloser closes' _) rest
      obtain ⟨rfl, remaining⟩ := List.cons.inj after
      obtain ⟨rfl, last⟩ := ih endsA endsB remaining
      rw [closes] at closes'
      cases closes'
      exact ⟨rfl, last⟩

structure Waits (operator : Token) : Prop where
  free : operator.isBarrier = false
  priority : operator.priority = LexemeKind.command.priority

theorem priorityOfOperator {token : Token} (role : token.role = .operator) :
    token.kind.priority = LexemeKind.command.priority := by
  unfold Token.role at role
  cases kind : token.kind <;> rw [kind] at role <;> first | rfl | cases role

theorem operatorWaits {token : Token} (role : token.role = .operator)
    (regular : token.priority = token.kind.priority) : Waits token.operator := by
  unfold Token.operator
  split
  · exact ⟨rfl, rfl⟩
  · exact ⟨rfl, rfl⟩
  · exact ⟨Token.freeUnlessOpens fun bracket => by simp [role],
      regular.trans (priorityOfOperator role)⟩

def Shielded (below : List Token) : Prop := ∀ token ∈ below.head?, token.isBarrier = true

theorem shieldedOpener {opener : Token} {bracket : Bracket} (opens : opener.role = .opens bracket)
    (below : List Token) : Shielded (opener :: below) := by
  intro token head
  cases Option.some.inj head
  exact (Token.isBarrierIff opener).mpr ⟨bracket, opens⟩

theorem releaseShielded (priority : Nat) {below : List Token} (shielded : Shielded below) :
    release priority below = ([], below) := by
  cases below with
  | nil => rfl
  | cons token below => simp [releaseParts, shielded token rfl]

theorem releasePending {pending : Option Token} (waits : ∀ t ∈ pending, Waits t)
    {below : List Token} (shielded : Shielded below) :
    release LexemeKind.command.priority (pending.toList ++ below) = (pending.toList, below) := by
  have nothing := releaseShielded LexemeKind.command.priority shielded
  cases pending with
  | none => exact nothing
  | some operator =>
    obtain ⟨free, priority⟩ := waits operator rfl
    simp only [releaseParts, Prod.mk.injEq] at nothing
    simp [releaseParts, free, priority, nothing]

/- Whatever operator waits, the rest of the line begins by releasing it. -/
def Flushes (below rest : List Token) (later : Option (List Token)) : Prop :=
  ∀ pending : Option Token, (∀ t ∈ pending, Waits t) →
    arrange? (pending.toList ++ below) rest = later.map (pending.toList ++ ·)

theorem flushesEnd : Flushes [] [] (some []) := by
  intro pending _
  simp [arrange?]

theorem flushesCloser {bracket : Bracket} {opener closer : Token}
    (opens : opener.role = .opens bracket) (closes : closer.role = .closes bracket)
    (below rest : List Token) :
    Flushes (opener :: below) (closer :: rest)
      ((arrange? below rest).map (bracket.command opener ++ ·)) := by
  intro pending waits
  have free : ∀ t ∈ pending.toList, t.isBarrier = false := fun t member =>
    (waits t (by simpa using member)).free
  rw [arrangeCloses closes, unwindOpens opens free]
  simp [Function.comp_def]

theorem arrangePhrase (phrase : Phrase)
    (regular : ∀ t ∈ phrase.tokens, t.priority = t.kind.priority)
    {below rest : List Token} {later : Option (List Token)} (shielded : Shielded below)
    (flushes : Flushes below rest later) (pending : Option Token) (waits : ∀ t ∈ pending, Waits t) :
    arrange? (pending.toList ++ below) (phrase.tokens ++ rest) =
      later.map (phrase.arranged pending ++ ·) := by
  induction phrase generalizing below rest later pending with
  | done => exact flushes pending waits
  | operand token role tail ih =>
    simp only [tokens, List.mem_cons, forall_eq_or_imp] at regular
    rw [tokens, List.cons_append, arrangeOperand role, ih regular.2 shielded flushes pending waits]
    simp [arranged, Function.comp_def]
  | operator token role tail ih =>
    simp only [tokens, List.mem_cons, forall_eq_or_imp] at regular
    have waiting : ∀ t ∈ some token.operator, Waits t := by
      intro t same
      cases Option.some.inj same
      exact operatorWaits role regular.1
    have priority := regular.1.trans (priorityOfOperator role)
    rw [tokens, List.cons_append, arrangeOperator role, priority, releasePending waits shielded]
    have later := ih regular.2 shielded flushes _ waiting
    rw [Option.toList_some, List.singleton_append] at later
    simp [later, arranged, Function.comp_def]
  | bracketed bracket opener closer opens closes content tail inner ih =>
    simp only [tokens, List.cons_append, List.mem_cons, List.mem_append, or_imp,
      forall_and] at regular
    obtain ⟨-, regularContent, -, regularTail⟩ := regular
    have after := ih regularTail shielded flushes pending waits
    have within := inner regularContent (shieldedOpener opens _)
      (flushesCloser opens closes (pending.toList ++ below) (tail.tokens ++ rest))
      none (by simp)
    rw [Option.toList_none, List.nil_append] at within
    simp only [tokens, List.cons_append, List.append_assoc]
    rw [arrangeOpens opens, within, after]
    simp [arranged, Function.comp_def]

theorem arrangedLine (phrase : Phrase) (filled : phrase.tokens ≠ [])
    (regular : ∀ t ∈ phrase.tokens, t.priority = t.kind.priority) :
    Rpn.ofTokens? phrase.tokens = some (phrase.arranged none) := by
  have arranged := arrangePhrase phrase regular (by simp [Shielded]) flushesEnd none (by simp)
  simpa [Rpn.ofTokens?, filled] using arranged

theorem arrangementIsStructural {tokens : List Token} (filled : tokens ≠ [])
    (balanced : Token.Balanced tokens) (regular : ∀ t ∈ tokens, t.priority = t.kind.priority) :
    (∃! phrase : Phrase, phrase.tokens = tokens) ∧
    ∀ phrase : Phrase, phrase.tokens = tokens →
      Rpn.ofTokens? tokens = some (phrase.arranged none) := by
  constructor
  · obtain ⟨phrase, spelled⟩ := ofBalanced balanced
    refine ⟨phrase, spelled, fun other same => ?_⟩
    have ends : Ends [] := by simp [Ends]
    exact (tokensInjective ends ends (by simp [same, spelled])).1
  · rintro phrase rfl
    exact arrangedLine phrase filled regular

def nestedLine : List Token := [
  .ofLexeme (.bare .command "echo" 0), .ofLexeme (.bare .openGroup "\x7b" 5),
  .ofLexeme (.bare .command "find" 6), .ofLexeme ⟨.string, "M", 11, "'", "'"⟩,
  .ofLexeme (.bare .closeGroup "\x7d" 14), .ofLexeme (.bare .property "->" 15),
  .ofKind .string (.bare .command "fov" 17), .ofLexeme (.bare .openIndex "[" 20),
  .ofLexeme ⟨.variable, "i", 21, "$", ""⟩, .ofLexeme (.bare .closeIndex "]" 23)]

theorem nestedLineIsStructural :
    (∃! phrase : Phrase, phrase.tokens = nestedLine) ∧
    ∀ phrase : Phrase, phrase.tokens = nestedLine →
      Rpn.ofTokens? nestedLine = some (phrase.arranged none) :=
  arrangementIsStructural (by decide) (by decide) (by decide)

end Phrase
end LiveConsole
