import LiveConsole.Proofs.Line.Arrangement
import Mathlib.Data.List.Perm.Basic

/-! Which lines have an order of evaluation, and what stands in it. Brackets alone decide the first:
no operator, however tightly it binds, takes an open bracket from the stack. Of the second, every
token is accounted for once, and operands keep the order of the line. -/
namespace LiveConsole

namespace Bracket

def close? (bracket : Bracket) : List Bracket → Option (List Bracket)
  | [] => none
  | innermost :: outer => if innermost = bracket then some outer else none

theorem closeSome {bracket : Bracket} {opened outer : List Bracket}
    (closed : bracket.close? opened = some outer) : opened = bracket :: outer := by
  cases opened with
  | nil => contradiction
  | cons innermost others =>
    rw [close?] at closed
    split at closed
    · rename_i same
      rw [same, Option.some.inj closed]
    · contradiction

end Bracket

namespace Token

theorem bracketOfFree {t : Token} (free : t.isBarrier = false) : t.bracket? = none := by
  unfold bracket?
  split
  · rename_i bracket opens
    have barrier := (isBarrierIff t).mpr ⟨bracket, opens⟩
    rw [free] at barrier
    contradiction
  · rfl

theorem operatorNotOperand {t : Token} (operator : t.role = .operator) :
    t.operator.role ≠ .operand := by
  unfold Token.operator
  split
  · exact Role.noConfusion
  · exact Role.noConfusion
  · rw [operator]
    exact Role.noConfusion

def isBracket (t : Token) : Bool :=
  match t.role with
  | .opens _ | .closes _ => true
  | .operand | .operator => false

theorem openAfterCloses {token : Token} {bracket : Bracket} (closes : token.role = .closes bracket)
    (opened : List Bracket) (rest : List Token) :
    openAfter? opened (token :: rest) = (bracket.close? opened).bind (openAfter? · rest) := by
  rw [openAfter?, closes]
  cases opened with
  | nil => rfl
  | cons innermost outer =>
    dsimp only [Bracket.close?]
    split <;> rfl

theorem openAfterAppend (opened : List Bracket) (front back : List Token) :
    openAfter? opened (front ++ back) = (openAfter? opened front).bind (openAfter? · back) := by
  induction front generalizing opened with
  | nil => rfl
  | cons token rest ih =>
    cases role : token.role with
    | operand => simp [openAfter?, role, ih]
    | operator => simp [openAfter?, role, ih]
    | opens bracket => simp [openAfter?, role, ih]
    | closes bracket => simp [openAfterCloses role, Option.bind_assoc, ih]

theorem openAfterBrackets (opened : List Bracket) (tokens : List Token) :
    openAfter? opened (tokens.filter isBracket) = openAfter? opened tokens := by
  induction tokens generalizing opened with
  | nil => rfl
  | cons token rest ih =>
    cases role : token.role with
    | operand => simp [isBracket, openAfter?, role, ih]
    | operator => simp [isBracket, openAfter?, role, ih]
    | opens bracket => simp [isBracket, openAfter?, role, ih]
    | closes bracket =>
      have kept : isBracket token = true := by rw [isBracket, role]
      rw [List.filter_cons_of_pos kept, openAfterCloses role, openAfterCloses role]
      simp [ih]

theorem kindAtOther (place : Place) {l : Lexeme} (other : l.kind ≠ .command) :
    kindAt place l = l.kind := by
  unfold kindAt
  split <;> simp_all

theorem kindAtWord (place : Place) {l : Lexeme} (word : l.kind = .command) :
    kindAt place l = .command ∨ kindAt place l = .string := by
  unfold kindAt
  rw [word]
  cases place with
  | lineStart =>
    dsimp only
    split
    · exact .inr rfl
    · exact .inl rfl
  | groupStart => exact .inl rfl
  | inside => exact .inr rfl

theorem wordNoBracket (place : Place) {l : Lexeme} (word : l.kind = .command) :
    (ofKind (kindAt place l) l).isBracket = false ∧ (ofLexeme l).isBracket = false := by
  rcases kindAtWord place word with kind | kind <;>
    simp [isBracket, role, ofLexeme, ofKind, word, kind, LexemeKind.role]

theorem bracketsOfLexemes (place : Place) (lexemes : List Lexeme) :
    (ofLexemesAt place lexemes).filter isBracket = (lexemes.map ofLexeme).filter isBracket := by
  induction lexemes generalizing place with
  | nil => rfl
  | cons l rest ih =>
    rw [ofLexemesAt, List.map_cons]
    by_cases word : l.kind = .command
    · obtain ⟨placed, alone⟩ := wordNoBracket place word
      rw [List.filter_cons_of_neg (by simp [placed]), List.filter_cons_of_neg (by simp [alone]), ih]
    · rw [kindAtOther place word, List.filter_cons, List.filter_cons, ih]
      rfl

theorem openAfterLexemes (lexemes : List Lexeme) :
    openAfter? [] (ofLexemes lexemes) = openAfter? [] (lexemes.map ofLexeme) := by
  rw [← openAfterBrackets, ofLexemes, bracketsOfLexemes, openAfterBrackets]

def closesWithin : List Token → Nat → Bool
  | [], _ => false
  | token :: rest, depth =>
      match token.role with
      | .operand | .operator => closesWithin rest depth
      | .opens _ => closesWithin rest (depth + 1)
      | .closes _ =>
          match depth with
          | 0 => true
          | depth + 1 => closesWithin rest depth

/- What evaluation gets of a line, in the order of the line. An operator becomes its command, a
pair of brackets becomes the command of an index or nothing, and an open bracket that never closes
stays. -/
def retained : List Token → List Token
  | [] => []
  | token :: rest =>
      match token.role with
      | .operand | .operator => token.operator :: retained rest
      | .opens bracket =>
          (if closesWithin rest 0 then bracket.command token else [token]) ++ retained rest
      | .closes _ => retained rest

def operands (tokens : List Token) : List Token := tokens.filter fun t => t.role = .operand

theorem operandsAppend (front back : List Token) :
    operands (front ++ back) = operands front ++ operands back := List.filter_append ..

theorem operandsCons (token : Token) (rest : List Token) :
    operands (token :: rest) = (if token.role = .operand then [token] else []) ++ operands rest := by
  unfold operands
  split <;> simp_all

theorem operandsCommand (bracket : Bracket) (opener : Token) :
    operands (bracket.command opener) = [] := by
  cases bracket <;> rfl

end Token

namespace Rpn
open Token (closesWithin retained operands operandsCons operandsAppend operandsCommand)

theorem openedOpens {opener : Token} {bracket : Bracket} (opens : opener.role = .opens bracket)
    (below : List Token) : opened (opener :: below) = bracket :: opened below := by
  rw [opened, List.filterMap_cons, Token.bracket?, opens]
  rfl

theorem openedOperator {token : Token} (operator : token.role = .operator) (kept : List Token) :
    opened (token.operator :: kept) = opened kept := by
  rw [opened, List.filterMap_cons, Token.bracketOfOperator operator]
  rfl

theorem unwindOpened (bracket : Bracket) (operators : List Token) :
    (unwind? bracket.opener operators).map (fun (_, _, below) => opened below) =
      bracket.close? (opened operators) := by
  induction operators with
  | nil => rfl
  | cons operator rest ih =>
    cases barrier : operator.isBarrier with
    | true =>
      obtain ⟨innermost, opens⟩ := (Token.isBarrierIff operator).mp barrier
      rw [openedOpens opens, Bracket.close?, unwind?, if_pos barrier, Token.kindOfOpens opens]
      cases innermost <;> cases bracket <;> rfl
    | false =>
      have free : ∀ t ∈ [operator], t.isBarrier = false := by simpa using barrier
      have skipped : opened (operator :: rest) = opened rest := openedFree free rest
      rw [skipped, ← ih, unwind?, if_neg (by simp [barrier]), Option.map_map]
      rfl

theorem arrangeSome (operators tokens : List Token) :
    (arrange? operators tokens).isSome = (Token.openAfter? (opened operators) tokens).isSome := by
  induction tokens generalizing operators with
  | nil => rfl
  | cons token rest ih =>
    cases role : token.role with
    | operand => rw [arrangeOperand role, Option.isSome_map, ih, Token.openAfter?, role]
    | operator =>
      have waiting := openedFree (releaseFree token.priority operators)
        (release token.priority operators).2
      rw [releaseJoined] at waiting
      rw [arrangeOperator role, Option.isSome_map, ih, openedOperator role, ← waiting,
        Token.openAfter?, role]
    | opens bracket => rw [arrangeOpens role, ih, openedOpens role, Token.openAfter?, role]
    | closes bracket =>
      have closed := unwindOpened bracket operators
      rw [arrangeCloses role, Token.openAfterCloses role, ← closed]
      cases unwind? bracket.opener operators with
      | none => rfl
      | some parts => simp [ih]

theorem noOrder {tokens : List Token} (inconsistent : Token.openAfter? [] tokens = none) :
    ofTokens? tokens = none := by
  have nothing := arrangeSome [] tokens
  rw [opened, List.filterMap_nil, inconsistent, Option.isSome_none] at nothing
  unfold ofTokens?
  split
  · rfl
  · exact Option.isNone_iff_eq_none.mp (by simpa using nothing)

theorem acceptsConsistent (tokens : List Token) :
    ((ofTokens? tokens).isSome ↔ tokens ≠ [] ∧ (Token.openAfter? [] tokens).isSome) ∧
    Token.openAfter? [] tokens = Token.openAfter? [] (tokens.filter Token.isBracket) := by
  refine ⟨?_, (Token.openAfterBrackets [] tokens).symm⟩
  have accepted := arrangeSome [] tokens
  unfold ofTokens?
  cases tokens with
  | nil => simp
  | cons token rest =>
    rw [List.isEmpty_cons, if_neg Bool.false_ne_true, accepted]
    simp [opened]

/- What the operators that wait come to, the open brackets among them numbered from the innermost:
a bracket that closes later gives way to its command. -/
def settled (closes : Nat → Bool) : List Token → List Token
  | [] => []
  | operator :: below =>
      match operator.bracket? with
      | some bracket =>
          (if closes 0 then bracket.command operator else [operator]) ++
            settled (fun depth => closes (depth + 1)) below
      | none => operator :: settled closes below

theorem settledOpens {opener : Token} {bracket : Bracket} (opens : opener.role = .opens bracket)
    (closes : Nat → Bool) (below : List Token) :
    settled closes (opener :: below) =
      (if closes 0 then bracket.command opener else [opener]) ++
        settled (fun depth => closes (depth + 1)) below := by
  rw [settled, Token.bracket?, opens]

theorem settledPasses {operator : Token} (free : operator.isBarrier = false) (closes : Nat → Bool)
    (below : List Token) : settled closes (operator :: below) = operator :: settled closes below := by
  rw [settled, Token.bracketOfFree free]

theorem settledOperator {token : Token} (operator : token.role = .operator) (closes : Nat → Bool)
    (kept : List Token) :
    settled closes (token.operator :: kept) = token.operator :: settled closes kept := by
  rw [settled, Token.bracketOfOperator operator]

theorem settledFree {above : List Token} (free : ∀ t ∈ above, t.isBarrier = false)
    (closes : Nat → Bool) (below : List Token) :
    settled closes (above ++ below) = above ++ settled closes below := by
  induction above with
  | nil => rfl
  | cons operator rest ih =>
    simp only [List.mem_cons, forall_eq_or_imp] at free
    rw [List.cons_append, settledPasses free.1, ih free.2, List.cons_append]

theorem settledOpen (operators : List Token) : settled (fun _ => false) operators = operators := by
  induction operators with
  | nil => rfl
  | cons operator below ih =>
    rw [settled]
    split <;> simp [ih]

theorem closesOperand {token : Token} (role : token.role = .operand ∨ token.role = .operator)
    (rest : List Token) : closesWithin (token :: rest) = closesWithin rest := by
  funext depth
  rcases role with role | role <;> simp only [closesWithin, role]

theorem closesOpens {token : Token} {bracket : Bracket} (role : token.role = .opens bracket)
    (rest : List Token) : closesWithin (token :: rest) = fun depth => closesWithin rest (depth + 1) := by
  funext depth
  simp only [closesWithin, role]

theorem closesCloser {token : Token} {bracket : Bracket} (role : token.role = .closes bracket)
    (rest : List Token) :
    closesWithin (token :: rest) 0 = true ∧
    (fun depth => closesWithin (token :: rest) (depth + 1)) = closesWithin rest := by
  refine ⟨by rw [closesWithin, role], ?_⟩
  funext depth
  rw [closesWithin, role]

theorem Arranges.conserves {operators tokens arranged : List Token}
    (order : Arranges operators tokens arranged) :
    arranged.Perm (settled (closesWithin tokens) operators ++ retained tokens) := by
  induction order with
  | done operators =>
    have waiting : settled (closesWithin []) operators = operators := settledOpen operators
    rw [waiting, retained, List.append_nil]
  | @operand operators token rest later role tail ih =>
    rw [closesOperand (.inl role), retained, role, Token.operatorOfOperand role]
    exact (ih.cons token).trans List.perm_middle.symm
  | @operator released kept token rest later role free tail ih =>
    rw [settledOperator role] at ih
    rw [closesOperand (.inr role), settledFree free, retained, role, List.append_assoc]
    exact (ih.trans List.perm_middle.symm).append_left released
  | @opens operators token bracket rest later role tail ih =>
    rw [settledOpens role] at ih
    rw [closesOpens role, retained, role]
    refine ih.trans ?_
    rw [List.append_assoc, ← List.append_assoc, ← List.append_assoc]
    exact List.perm_append_comm.append_right _
  | @closes above opener below token bracket rest later role free opens tail ih =>
    obtain ⟨closed, deeper⟩ := closesCloser role rest
    rw [settledFree free, settledOpens opens, closed, deeper, if_pos rfl, retained, role]
    simp only [List.append_assoc]
    exact (ih.append_left _).append_left above

theorem Arranges.operandsInOrder {operators tokens arranged : List Token}
    (order : Arranges operators tokens arranged) (waiting : operands operators = []) :
    operands arranged = operands tokens := by
  induction order with
  | done operators => exact waiting
  | @operand operators token rest later role tail ih =>
    rw [operandsCons, operandsCons, ih waiting]
  | @operator released kept token rest later role free tail ih =>
    rw [operandsAppend, List.append_eq_nil_iff] at waiting
    have command := Token.operatorNotOperand role
    have follows := ih (by rw [operandsCons, if_neg command, waiting.2]; rfl)
    rw [operandsAppend, waiting.1, follows, operandsCons, if_neg (by simp [role])]
  | @opens operators token bracket rest later role tail ih =>
    have other : token.role ≠ .operand := by simp [role]
    rw [operandsCons] at ih ⊢
    rw [if_neg other] at ih ⊢
    exact ih waiting
  | @closes above opener below token bracket rest later role free opens tail ih =>
    rw [operandsAppend, operandsCons, List.append_eq_nil_iff, List.append_eq_nil_iff] at waiting
    rw [operandsAppend, operandsAppend, waiting.1, operandsCommand, ih waiting.2.2, operandsCons,
      if_neg (by simp [role])]
    rfl

theorem arrangementConserves {tokens arranged : List Token}
    (order : ofTokens? tokens = some arranged) :
    arranged.Perm (retained tokens) ∧ operands arranged = operands tokens := by
  have arranges := arrangesTokens order
  exact ⟨arranges.conserves, arranges.operandsInOrder rfl⟩

def unclosedLine : List Token := [
  .ofLexeme (.bare .command "echo" 0), .ofLexeme (.bare .openGroup "\x7b" 5),
  .ofLexeme ⟨.variable, "items", 6, "$", ""⟩, .ofLexeme (.bare .openIndex "[" 12),
  .ofKind .string (.bare .command "2" 13), .ofLexeme (.bare .closeIndex "]" 14),
  ⟨.concatenation, .bare .concatenation "." 15, 7⟩, .ofLexeme ⟨.string, "km", 16, "'", "'"⟩]

theorem unclosedLineConserves :
    ∃ arranged, ofTokens? unclosedLine = some arranged ∧ arranged.Perm (retained unclosedLine) ∧
      operands arranged = operands unclosedLine := by
  have order : ofTokens? unclosedLine = some [
      .ofLexeme ⟨.variable, "items", 6, "$", ""⟩, .ofKind .string (.bare .command "2" 13),
      .synthetic indexName 12, .ofLexeme ⟨.string, "km", 16, "'", "'"⟩,
      .synthetic concatenationName 15, .ofLexeme (.bare .openGroup "\x7b" 5),
      .ofLexeme (.bare .command "echo" 0)] := by rfl
  exact ⟨_, order, arrangementConserves order⟩

end Rpn
end LiveConsole
