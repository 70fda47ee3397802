import LiveConsole.Proofs.Line.Arrangement
import LiveConsole.Proofs.Line.Coverage
import Mathlib.Data.List.Nodup

/-! The tokens of a line in its order of evaluation. Every operand and every operator has a place
there, and no two tokens there stand at the same position of the line. -/
namespace LiveConsole

namespace Token

theorem lexemesOf (place : Place) (lexemes : List Lexeme) :
    (ofLexemesAt place lexemes).map Token.lexeme = lexemes := by
  induction lexemes generalizing place with
  | nil => rfl
  | cons l rest ih => exact congrArg (l :: ·) (ih _)

theorem increasing (symbols : Symbols) (source : String) :
    (ofSource symbols source).Pairwise fun a b => a.position < b.position := by
  have covers := Lexeme.scanCovers symbols 0 source.toList
  have lexemes := covers.increasing
  rw [← lexemesOf .lineStart (Lexeme.scanFrom symbols 0 source.toList), List.pairwise_map] at lexemes
  exact lexemes

theorem apart (symbols : Symbols) (source : String) :
    (ofSource symbols source).Pairwise fun a b => a.stop ≤ b.position := by
  have covers := Lexeme.scanCovers symbols 0 source.toList
  have lexemes := covers.apart
  rw [← lexemesOf .lineStart (Lexeme.scanFrom symbols 0 source.toList), List.pairwise_map] at lexemes
  exact lexemes

theorem around {symbols : Symbols} {source : String} {before after : List Token} {token : Token}
    (split : ofSource symbols source = before ++ token :: after) :
    (∀ t ∈ before, t.position < token.position) ∧
    (∀ t ∈ after, token.position < t.position ∧ token.stop ≤ t.position) ∧
    after.Pairwise fun a b => a.position < b.position := by
  have increases := increasing symbols source
  have separates := apart symbols source
  rw [split] at increases separates
  obtain ⟨-, fromHere, across⟩ := List.pairwise_append.mp increases
  obtain ⟨starts, ordered⟩ := List.pairwise_cons.mp fromHere
  obtain ⟨stops, -⟩ := List.pairwise_cons.mp (List.pairwise_append.mp separates).2.1
  exact ⟨fun t member => across t member token List.mem_cons_self,
    fun t member => ⟨starts t member, stops t member⟩, ordered⟩

theorem lexemeScanned {symbols : Symbols} {source : String} {t : Token}
    (member : t ∈ ofSource symbols source) : t.lexeme ∈ Lexeme.scan symbols source := by
  rw [← lexemesOf .lineStart (Lexeme.scan symbols source)]
  exact List.mem_map_of_mem member

theorem startsInside (symbols : Symbols) (source : String) :
    ∀ t ∈ ofSource symbols source, t.position < source.utf8ByteSize :=
  fun t member => Lexeme.scanInside symbols source t.lexeme (lexemeScanned member)

def Apart (tokens : List Token) : Prop := (tokens.map Token.position).Nodup

theorem Apart.sublist {part whole : List Token} (apart : Apart whole) (within : part.Sublist whole) :
    Apart part := List.Nodup.sublist (within.map _) apart

theorem Apart.disjoint {front back : List Token} (apart : Apart (front ++ back)) {t : Token}
    (left : t ∈ front) (right : t ∈ back) : False := by
  rw [Apart, List.map_append] at apart
  exact (List.nodup_append.mp apart).2.2 _ (List.mem_map_of_mem left) _ (List.mem_map_of_mem right) rfl

theorem Apart.alone {tokens : List Token} (apart : Apart tokens) {a b : Token} (left : a ∈ tokens)
    (right : b ∈ tokens) (same : a.position = b.position) : a = b :=
  List.inj_on_of_nodup_map apart left right same

theorem apartOfIncreasing {tokens : List Token}
    (increasing : tokens.Pairwise fun a b => a.position < b.position) : Apart tokens :=
  List.pairwise_map.mpr (increasing.imp Nat.ne_of_lt)

theorem sourceApart (symbols : Symbols) (source : String) : Apart (ofSource symbols source) :=
  apartOfIncreasing (increasing symbols source)

theorem sameAsIff (a b : Token) : a.sameAs b = true ↔
    a.kind = b.kind ∧ a.lexeme.kind = b.lexeme.kind ∧ a.position = b.position ∧
      a.priority = b.priority := by
  simp [Token.sameAs, Lexeme.sameAs, Token.position, and_assoc]

theorem sameAsSelf (t : Token) : t.sameAs t = true :=
  (sameAsIff t t).mpr ⟨rfl, rfl, rfl, rfl⟩

theorem Apart.sameAs {tokens : List Token} (apart : Apart tokens) {a b : Token} (left : a ∈ tokens)
    (right : b ∈ tokens) : a.sameAs b = true ↔ a = b := by
  constructor
  · intro same
    exact apart.alone left right ((sameAsIff a b).mp same).2.2.1
  · rintro rfl
    exact sameAsSelf a

theorem operatorPosition (t : Token) : t.operator.position = t.position := by
  unfold operator
  split <;> rfl

def countAt (position : Nat) (tokens : List Token) : Nat := (tokens.map Token.position).count position

theorem countAtAppend (position : Nat) (front back : List Token) :
    countAt position (front ++ back) = countAt position front + countAt position back := by
  rw [countAt, List.map_append, List.count_append]
  rfl

theorem countAtCons (position : Nat) (t : Token) (rest : List Token) :
    countAt position (t :: rest) = countAt position [t] + countAt position rest :=
  countAtAppend position [t] rest

theorem countAtOperator (position : Nat) (t : Token) :
    countAt position [t.operator] = countAt position [t] := by
  rw [countAt, countAt, List.map_singleton, List.map_singleton, operatorPosition]

end Token

namespace Rpn
open Token (countAt countAtAppend countAtCons countAtOperator)

theorem commandCount (position : Nat) (bracket : Bracket) (opener : Token) :
    countAt position (bracket.command opener) ≤ countAt position [opener] := by
  cases bracket with
  | group => exact Nat.zero_le _
  | index => exact Nat.le_refl _

theorem Arranges.count {operators tokens arranged : List Token}
    (order : Arranges operators tokens arranged) (position : Nat) :
    countAt position arranged ≤ countAt position operators + countAt position tokens := by
  induction order with
  | done operators => exact Nat.le_add_right _ _
  | @operand operators token rest later role tail ih =>
    have first := countAtCons position token later
    have front := countAtCons position token rest
    omega
  | @operator released kept token rest later role free tail ih =>
    have front := countAtCons position token rest
    have waiting := countAtCons position token.operator kept
    have same := countAtOperator position token
    rw [countAtAppend, countAtAppend]
    omega
  | @opens operators token bracket rest later role tail ih =>
    have front := countAtCons position token rest
    have waiting := countAtCons position token operators
    omega
  | @closes above opener below token bracket rest later role free opens tail ih =>
    have front := countAtCons position token rest
    have waiting := countAtCons position opener below
    have command := commandCount position bracket opener
    rw [countAtAppend, countAtAppend, countAtAppend]
    omega

theorem arrangedFrom {tokens arranged : List Token} (order : ofTokens? tokens = some arranged) :
    ∀ t ∈ arranged, ∃ original ∈ tokens, original.position = t.position := by
  intro t member
  have bound := (arrangesTokens order).count t.position
  have counted : 0 < countAt t.position arranged :=
    List.count_pos_iff.mpr (List.mem_map_of_mem member)
  have found : 0 < countAt t.position tokens :=
    counted.trans_le (bound.trans (Nat.zero_add _).le)
  exact List.mem_map.mp (List.count_pos_iff.mp found)

theorem Arranges.operators {operators tokens arranged : List Token}
    (order : Arranges operators tokens arranged) :
    ∀ t ∈ operators, t.isBarrier = false → t ∈ arranged := by
  induction order with
  | done operators => exact fun t member _ => member
  | operand role tail ih => exact fun t member free => List.mem_cons_of_mem _ (ih t member free)
  | operator role _ tail ih =>
    intro t member free
    rcases List.mem_append.mp member with released | kept
    · exact List.mem_append_left _ released
    · exact List.mem_append_right _ (ih t (List.mem_cons_of_mem _ kept) free)
  | opens role tail ih => exact fun t member free => ih t (List.mem_cons_of_mem _ member) free
  | closes role _ opens tail ih =>
    intro t member free
    rw [List.append_assoc]
    rcases List.mem_append.mp member with inner | member
    · exact List.mem_append_left _ inner
    · rcases List.mem_cons.mp member with rfl | outer
      · have barrier := (Token.isBarrierIff t).mpr ⟨_, opens⟩
        rw [free] at barrier
        contradiction
      · exact List.mem_append_right _ (List.mem_append_right _ (ih t outer free))

theorem Arranges.tokens {operators tokens arranged : List Token}
    (order : Arranges operators tokens arranged) :
    ∀ t ∈ tokens, t.role = .operand ∨ t.role = .operator → t.operator ∈ arranged := by
  induction order with
  | done operators => simp
  | operand role tail ih =>
    intro t member work
    rcases List.mem_cons.mp member with rfl | member
    · rw [Token.operatorOfOperand role]
      exact List.mem_cons_self
    · exact List.mem_cons_of_mem _ (ih t member work)
  | operator role _ tail ih =>
    intro t member work
    rcases List.mem_cons.mp member with rfl | member
    · have kept := tail.operators t.operator List.mem_cons_self (Token.operatorFree role)
      exact List.mem_append_right _ kept
    · exact List.mem_append_right _ (ih t member work)
  | opens role tail ih =>
    intro t member work
    rcases List.mem_cons.mp member with rfl | member
    · rcases work with work | work <;> rw [role] at work <;> contradiction
    · exact ih t member work
  | closes role _ opens tail ih =>
    intro t member work
    rcases List.mem_cons.mp member with rfl | member
    · rcases work with work | work <;> rw [role] at work <;> contradiction
    · exact List.mem_append_right _ (ih t member work)

theorem arrangedApart {tokens arranged : List Token}
    (increasing : tokens.Pairwise fun a b => a.position < b.position)
    (order : ofTokens? tokens = some arranged) : Token.Apart arranged := by
  have distinct : Token.Apart tokens := Token.apartOfIncreasing increasing
  refine List.nodup_iff_count_le_one.mpr fun position => ?_
  have bound := (arrangesTokens order).count position
  have once := List.nodup_iff_count_le_one.mp distinct position
  exact bound.trans ((Nat.zero_add _).le.trans once)

end Rpn
end LiveConsole
