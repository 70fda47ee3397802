import LiveConsole.Line.Rpn
import Mathlib.Data.List.TakeDrop
import Mathlib.Data.List.TakeWhile

/-! What each kind of token does to the operators that wait, as one equation for each role. The
brackets of a line are followed on a stack of their own, apart from the operators. -/
namespace LiveConsole

inductive Bracket where
  | group
  | index
  deriving DecidableEq, Repr

namespace Bracket

def opener : Bracket → LexemeKind
  | group => .openGroup
  | index => .openIndex

def command : Bracket → Token → List Token
  | group, _ => []
  | index, opener => [.synthetic indexName opener.position]

end Bracket

inductive Role where
  | operand
  | operator
  | opens (bracket : Bracket)
  | closes (bracket : Bracket)
  deriving DecidableEq, Repr

def LexemeKind.role : LexemeKind → Role
  | .string | .variable | .global | .invalid => .operand
  | .command | .concatenation | .property => .operator
  | .openGroup => .opens .group
  | .openIndex => .opens .index
  | .closeGroup => .closes .group
  | .closeIndex => .closes .index

namespace Token

def role (t : Token) : Role := t.kind.role

def operator (t : Token) : Token :=
  match t.kind with
  | .concatenation => .synthetic concatenationName t.position
  | .property => .synthetic propertyName t.position
  | _ => t

theorem isBarrierIff (t : Token) : t.isBarrier = true ↔ ∃ bracket, t.role = .opens bracket := by
  unfold isBarrier role
  cases t.kind <;> simp [LexemeKind.isBarrier, LexemeKind.role]

theorem freeUnlessOpens {t : Token} (closed : ∀ bracket, t.role ≠ .opens bracket) :
    t.isBarrier = false := by
  refine Bool.eq_false_iff.mpr fun barrier => ?_
  obtain ⟨bracket, opens⟩ := (isBarrierIff t).mp barrier
  exact closed bracket opens

theorem kindOfOpens {t : Token} {bracket : Bracket} (opens : t.role = .opens bracket) :
    t.kind = bracket.opener := by
  unfold role at opens
  cases kind : t.kind <;> rw [kind] at opens <;> cases opens <;> rfl

def bracket? (t : Token) : Option Bracket :=
  match t.role with
  | .opens bracket => some bracket
  | _ => none

theorem operatorOfOperand {t : Token} (operand : t.role = .operand) : t.operator = t := by
  unfold role at operand
  unfold operator
  cases kind : t.kind <;> rw [kind] at operand <;> first | rfl | contradiction

theorem operatorFree {t : Token} (operator : t.role = .operator) :
    t.operator.isBarrier = false := by
  unfold Token.operator
  split
  · rfl
  · rfl
  · exact freeUnlessOpens fun bracket => by simp [operator]

theorem bracketOfOperator {t : Token} (operator : t.role = .operator) :
    t.operator.bracket? = none := by
  unfold Token.operator
  split
  · rfl
  · rfl
  · rw [bracket?, operator]

/- The brackets still open after some tokens, the innermost first. There are none if a bracket
closes that is not the innermost open one. -/
def openAfter? : List Bracket → List Token → Option (List Bracket)
  | opened, [] => some opened
  | opened, token :: rest =>
      match token.role with
      | .operand | .operator => openAfter? opened rest
      | .opens bracket => openAfter? (bracket :: opened) rest
      | .closes bracket =>
          match opened with
          | innermost :: outer => if innermost = bracket then openAfter? outer rest else none
          | [] => none

def Balanced (tokens : List Token) : Prop := openAfter? [] tokens = some []
instance (tokens) : Decidable (Balanced tokens) := by unfold Balanced; infer_instance

end Token

namespace Rpn

theorem releaseParts (priority : Nat) (operators : List Token) :
    release priority operators =
      (operators.takeWhile fun operator => !operator.isBarrier && priority ≤ operator.priority,
        operators.dropWhile fun operator => !operator.isBarrier && priority ≤ operator.priority) :=
  List.span_eq_takeWhile_dropWhile _ operators

theorem arrangeOperand {token : Token} (operand : token.role = .operand)
    (operators rest : List Token) :
    arrange? operators (token :: rest) = (arrange? operators rest).map (token :: ·) := by
  unfold Token.role at operand
  cases kind : token.kind <;> rw [kind] at operand <;> cases operand <;> simp [arrange?, kind]

theorem arrangeOperator {token : Token} (operator : token.role = .operator)
    (operators rest : List Token) :
    arrange? operators (token :: rest) =
      (arrange? (token.operator :: (release token.priority operators).2) rest).map
        ((release token.priority operators).1 ++ ·) := by
  unfold Token.role at operator
  cases kind : token.kind <;> rw [kind] at operator <;> cases operator <;>
    simp [arrange?, Token.operator, kind]

theorem arrangeOpens {token : Token} {bracket : Bracket} (opens : token.role = .opens bracket)
    (operators rest : List Token) :
    arrange? operators (token :: rest) = arrange? (token :: operators) rest := by
  have kind := Token.kindOfOpens opens
  cases bracket <;> simp [arrange?, kind, Bracket.opener]

theorem arrangeCloses {token : Token} {bracket : Bracket} (closes : token.role = .closes bracket)
    (operators rest : List Token) :
    arrange? operators (token :: rest) =
      (unwind? bracket.opener operators).bind fun (above, opener, below) =>
        (arrange? below rest).map (above ++ bracket.command opener ++ ·) := by
  unfold Token.role at closes
  cases kind : token.kind <;> rw [kind] at closes <;> cases closes <;>
    simp [arrange?, Bracket.opener, Bracket.command, kind]

theorem unwindOpens {opener : Token} {bracket : Bracket} (opens : opener.role = .opens bracket)
    {above : List Token} (free : ∀ t ∈ above, t.isBarrier = false) (below : List Token) :
    unwind? bracket.opener (above ++ opener :: below) = some (above, opener, below) := by
  induction above with
  | nil =>
    have barrier := (Token.isBarrierIff opener).mpr ⟨bracket, opens⟩
    simp [unwind?, barrier, Token.kindOfOpens opens]
  | cons t above ih =>
    have rest := ih fun other member => free other (List.mem_cons_of_mem _ member)
    simp [unwind?, free t List.mem_cons_self, rest]

theorem unwindParts {bracket : Bracket} {operators above below : List Token} {opener : Token}
    (unwound : unwind? bracket.opener operators = some (above, opener, below)) :
    operators = above ++ opener :: below ∧ (∀ t ∈ above, t.isBarrier = false) ∧
    opener.role = .opens bracket := by
  induction operators generalizing above with
  | nil => contradiction
  | cons operator rest ih =>
    unfold unwind? at unwound
    split at unwound
    · split at unwound
      · rename_i barrier kind
        cases unwound
        refine ⟨rfl, by simp, ?_⟩
        unfold Token.role
        rw [kind]
        cases bracket <;> rfl
      · contradiction
    · rename_i free
      obtain ⟨⟨inner, bracket', others⟩, unwound, same⟩ := Option.map_eq_some_iff.mp unwound
      cases same
      obtain ⟨rfl, freeAbove, opens⟩ := ih unwound
      refine ⟨rfl, ?_, opens⟩
      intro t member
      rcases List.mem_cons.mp member with rfl | member
      · exact Bool.eq_false_iff.mpr free
      · exact freeAbove t member

theorem releaseJoined (priority : Nat) (operators : List Token) :
    (release priority operators).1 ++ (release priority operators).2 = operators := by
  rw [releaseParts]
  exact List.takeWhile_append_dropWhile

theorem releaseFree (priority : Nat) (operators : List Token) :
    ∀ t ∈ (release priority operators).1, t.isBarrier = false := by
  intro t member
  rw [releaseParts] at member
  have held := List.mem_takeWhile_imp member
  simp only [Bool.and_eq_true, Bool.not_eq_true'] at held
  exact held.1

inductive Arranges : List Token → List Token → List Token → Prop where
  | done (operators : List Token) : Arranges operators [] operators
  | operand {operators token rest later} (role : token.role = .operand)
      (tail : Arranges operators rest later) : Arranges operators (token :: rest) (token :: later)
  | operator {released kept token rest later} (role : token.role = .operator)
      (free : ∀ t ∈ released, t.isBarrier = false)
      (tail : Arranges (token.operator :: kept) rest later) :
      Arranges (released ++ kept) (token :: rest) (released ++ later)
  | opens {operators token bracket rest later} (role : token.role = .opens bracket)
      (tail : Arranges (token :: operators) rest later) :
      Arranges operators (token :: rest) later
  | closes {above opener below token bracket rest later} (role : token.role = .closes bracket)
      (free : ∀ t ∈ above, t.isBarrier = false) (opens : opener.role = .opens bracket)
      (tail : Arranges below rest later) :
      Arranges (above ++ opener :: below) (token :: rest)
        (above ++ bracket.command opener ++ later)

theorem arranges {operators tokens arranged : List Token}
    (order : arrange? operators tokens = some arranged) : Arranges operators tokens arranged := by
  induction tokens generalizing operators arranged with
  | nil =>
    cases Option.some.inj order
    exact .done operators
  | cons token rest ih =>
    cases role : token.role with
    | operand =>
      rw [arrangeOperand role] at order
      obtain ⟨later, follows, rfl⟩ := Option.map_eq_some_iff.mp order
      exact .operand role (ih follows)
    | operator =>
      rw [arrangeOperator role] at order
      obtain ⟨later, follows, rfl⟩ := Option.map_eq_some_iff.mp order
      have whole := Arranges.operator role (releaseFree token.priority operators) (ih follows)
      rwa [releaseJoined] at whole
    | opens bracket =>
      rw [arrangeOpens role] at order
      exact .opens role (ih order)
    | closes bracket =>
      rw [arrangeCloses role] at order
      obtain ⟨⟨above, opener, below⟩, unwound, follows⟩ := Option.bind_eq_some_iff.mp order
      obtain ⟨later, last, rfl⟩ := Option.map_eq_some_iff.mp follows
      obtain ⟨rfl, free, opens⟩ := unwindParts unwound
      exact .closes role free opens (ih last)

theorem arrangesTokens {tokens arranged : List Token} (order : ofTokens? tokens = some arranged) :
    Arranges [] tokens arranged := by
  unfold ofTokens? at order
  split at order
  · contradiction
  · exact arranges order

def opened (operators : List Token) : List Bracket := operators.filterMap Token.bracket?

theorem openedFree {above : List Token} (free : ∀ t ∈ above, t.isBarrier = false)
    (below : List Token) : opened (above ++ below) = opened below := by
  have nothing : opened above = [] := by
    refine List.filterMap_eq_nil_iff.mpr fun t member => ?_
    unfold Token.bracket?
    split
    · rename_i bracket opens
      have barrier := (Token.isBarrierIff t).mpr ⟨bracket, opens⟩
      rw [free t member] at barrier
      contradiction
    · rfl
  rw [opened, List.filterMap_append]
  exact congrArg (· ++ _) nothing

theorem closedOfArranges {operators tokens arranged : List Token}
    (order : Arranges operators tokens arranged) (free : ∀ t ∈ arranged, t.isBarrier = false) :
    Token.openAfter? (opened operators) tokens = some [] := by
  induction order with
  | done operators =>
    have nothing := openedFree free []
    rw [List.append_nil] at nothing
    rw [nothing]
    rfl
  | operand role tail ih =>
    rw [Token.openAfter?, role]
    exact ih fun t member => free t (List.mem_cons_of_mem _ member)
  | operator role released tail ih =>
    have closed := ih fun t member => free t (List.mem_append_right _ member)
    rw [opened, List.filterMap_cons, Token.bracketOfOperator role] at closed
    rw [Token.openAfter?, role, openedFree released]
    exact closed
  | opens role tail ih =>
    have closed := ih free
    rw [opened, List.filterMap_cons, Token.bracket?, role] at closed
    rw [Token.openAfter?, role]
    exact closed
  | @closes above opener below token bracket rest later role inner opens tail ih =>
    have closed := ih fun t member => free t (List.mem_append_right _ member)
    have innermost : opened (opener :: below) = bracket :: opened below := by
      rw [opened, List.filterMap_cons, Token.bracket?, opens]
      rfl
    rw [Token.openAfter?, role, openedFree inner, innermost]
    simpa using closed

theorem balancedOfArranged {tokens arranged : List Token} (order : ofTokens? tokens = some arranged)
    (free : ∀ t ∈ arranged, t.isBarrier = false) : Token.Balanced tokens :=
  closedOfArranges (arrangesTokens order) free

end Rpn
end LiveConsole
