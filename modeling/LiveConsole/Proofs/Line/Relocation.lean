import LiveConsole.Proofs.Line.Arrangement
import Mathlib.Data.List.Forall2

/-! Positions say where a token stands and decide nothing: moved to other places, lexemes are cut,
given their roles and arranged as they were. Nor does the text of a string decide anything, so
strings may also be exchanged. -/
namespace LiveConsole
open Text

theorem relatedToMap {α β : Type} (f : α → β) (xs : List α) :
    List.Forall₂ (fun x y => f x = y) xs (xs.map f) :=
  List.forall₂_map_right_iff.mpr (List.forall₂_same.mpr fun _ _ => rfl)

theorem mapOfRelated {α β : Type} {f : α → β} {xs : List α} {ys : List β}
    (related : List.Forall₂ (fun x y => f x = y) xs ys) : xs.map f = ys := by
  rwa [← List.forall₂_map_left_iff, List.forall₂_eq_eq_eq] at related

theorem mapRelated {α β γ δ : Type} {P : α → β → Prop} {Q : γ → δ → Prop} {f : α → γ} {g : β → δ}
    {a : Option α} {b : Option β} (related : Option.Rel P a b)
    (kept : ∀ x y, P x y → Q (f x) (g y)) : Option.Rel Q (a.map f) (b.map g) := by
  cases related with
  | some related => exact .some (kept _ _ related)
  | none => exact .none

theorem imageOfRelated {α β : Type} {P : α → β → Prop} {f : α → β} {a : Option α} {b : Option β}
    (related : Option.Rel P a b) (image : ∀ x y, P x y → f x = y) : a.map f = b := by
  cases related with
  | some related => exact congrArg some (image _ _ related)
  | none => rfl

namespace Lexeme

def moved (f : Nat → Nat) (l : Lexeme) : Lexeme := { l with position := f l.position }

structure Renames (f : Nat → Nat) (g : Lexeme → Lexeme) : Prop where
  kind : ∀ l, (g l).kind = l.kind
  position : ∀ l, (g l).position = f l.position
  word : ∀ l, l.kind = .command → g l = l.moved f

theorem movedRenames (f : Nat → Nat) : Renames f (moved f) :=
  ⟨fun _ => rfl, fun _ => rfl, fun _ _ => rfl⟩

theorem quotationMoved (quote : Char) (position offset : Nat) (chars : List Char) :
    quotation quote (position + offset) chars =
      ((quotation quote position chars).1.moved (· + offset), (quotation quote position chars).2) := by
  unfold quotation
  split <;> rfl

theorem nextMoved (symbols : Symbols) (position offset : Nat) (c : Char) (rest : List Char) :
    next symbols (position + offset) c rest =
      ((next symbols position c rest).1.moved (· + offset), (next symbols position c rest).2) := by
  unfold next
  split
  · rfl
  · split
    · rfl
    · split
      · rfl
      · split
        · exact quotationMoved ..
        · split <;> rfl

theorem stopMoved (offset : Nat) (l : Lexeme) : (l.moved (· + offset)).stop = l.stop + offset :=
  Nat.add_right_comm ..

theorem scanFromMoved (symbols : Symbols) (position offset : Nat) (chars : List Char) :
    scanFrom symbols (position + offset) chars =
      (scanFrom symbols position chars).map (moved (· + offset)) := by
  fun_induction scanFrom symbols position chars with
  | case1 position => simp [scanFrom]
  | case2 position c rest isSpace ih =>
    rw [scanFrom, if_pos isSpace, ← ih]
    congr 1
    omega
  | case3 position c rest isSpace step ih =>
    rw [scanFrom, if_neg isSpace, nextMoved, List.map_cons, ← ih, ← stopMoved]

end Lexeme

namespace Token
open Lexeme (Renames movedRenames)

def renamed (g : Lexeme → Lexeme) (t : Token) : Token := { t with lexeme := g t.lexeme }

def moved (f : Nat → Nat) (t : Token) : Token := { t with lexeme := t.lexeme.moved f }

theorem kindMoved (f : Nat → Nat) (t : Token) : (t.moved f).kind = t.kind := rfl

theorem valueMoved (f : Nat → Nat) (t : Token) : (t.moved f).value = t.value := rfl

structure SameRole (l other : Lexeme) : Prop where
  kind : other.kind = l.kind
  digit : l.kind = .command →
    other.value.toList.head?.any Char.isDigit = l.value.toList.head?.any Char.isDigit

theorem kindAtSame {l other : Lexeme} (same : SameRole l other) (place : Place) :
    kindAt place other = kindAt place l := by
  have digit := same.digit
  unfold kindAt
  rw [same.kind]
  cases kind : l.kind with
  | command => cases place <;> simp [digit kind]
  | _ => rfl

structure Follows (P : Lexeme → Lexeme → Prop) (t other : Token) : Prop where
  kind : other.kind = t.kind
  priority : other.priority = t.priority
  lexeme : P t.lexeme other.lexeme

theorem ofLexemesFollow {P : Lexeme → Lexeme → Prop}
    (same : ∀ l other, P l other → SameRole l other)
    {lexemes others : List Lexeme} (related : List.Forall₂ P lexemes others) (place : Place) :
    List.Forall₂ (Follows P) (ofLexemesAt place lexemes) (ofLexemesAt place others) := by
  induction related generalizing place with
  | nil => exact .nil
  | @cons l other rest others related tail ih =>
    have role := kindAtSame (same l other related) place
    have after : placeAfter other = placeAfter l := by
      simp only [placeAfter, (same l other related).kind]
    rw [ofLexemesAt, ofLexemesAt, after]
    exact .cons ⟨role, congrArg LexemeKind.priority role, related⟩ (ih (placeAfter l))

variable {f : Nat → Nat} {g : Lexeme → Lexeme}

theorem ofLexemesRenamed (renames : Renames f g) (place : Place) (lexemes : List Lexeme) :
    ofLexemesAt place (lexemes.map g) = (ofLexemesAt place lexemes).map (renamed g) := by
  have same (l other : Lexeme) (image : g l = other) : SameRole l other := by
    subst image
    exact ⟨renames.kind l, fun word => by rw [renames.word l word]; rfl⟩
  have follow := ofLexemesFollow same (relatedToMap g lexemes) place
  refine (mapOfRelated (follow.imp fun t other follows => ?_)).symm
  obtain ⟨kind, lexeme, priority⟩ := other
  obtain ⟨rfl, rfl, rfl⟩ := follows
  rfl

theorem ofLexemesMoved (f : Nat → Nat) (place : Place) (lexemes : List Lexeme) :
    ofLexemesAt place (lexemes.map (Lexeme.moved f)) = (ofLexemesAt place lexemes).map (moved f) :=
  ofLexemesRenamed (movedRenames f) place lexemes

theorem positionRenamed (renames : Renames f g) (t : Token) :
    (t.renamed g).position = f t.position := renames.position t.lexeme

theorem syntheticRenamed (renames : Renames f g) (name : String) (position : Nat) :
    (synthetic name position).renamed g = synthetic name (f position) :=
  congrArg (Token.mk .command · 1) (renames.word (.bare .command name position) rfl)

theorem operatorRenamed (renames : Renames f g) (t : Token) :
    (t.renamed g).operator = t.operator.renamed g := by
  have same : (t.renamed g).kind = t.kind := rfl
  unfold operator
  rw [same, positionRenamed renames]
  split
  · exact (syntheticRenamed renames ..).symm
  · exact (syntheticRenamed renames ..).symm
  · rfl

/- A relation between tokens that have the same role and bind alike, kept by what the arrangement
makes of them: it then passes from the line to its order of evaluation. -/
structure Alike (R : Token → Token → Prop) : Prop where
  kind {t other : Token} (related : R t other) : other.kind = t.kind
  priority {t other : Token} (related : R t other) : other.priority = t.priority
  operator {t other : Token} (related : R t other) (role : t.role = .operator) :
    R t.operator other.operator
  index {t other : Token} (related : R t other) (role : t.role = .opens .index) :
    R (.synthetic indexName t.position) (.synthetic indexName other.position)

theorem renamedAlike (renames : Renames f g) : Alike fun t other => t.renamed g = other where
  kind := by
    rintro t _ rfl
    rfl
  priority := by
    rintro t _ rfl
    rfl
  operator := by
    rintro t _ rfl -
    exact (operatorRenamed renames t).symm
  index := by
    rintro t _ rfl -
    rw [positionRenamed renames]
    exact syntheticRenamed renames ..

namespace Alike

variable {R : Token → Token → Prop} (alike : Alike R) {t other : Token} (related : R t other)
include alike related

theorem role : other.role = t.role := congrArg LexemeKind.role (alike.kind related)

theorem isBarrier : other.isBarrier = t.isBarrier :=
  congrArg LexemeKind.isBarrier (alike.kind related)

theorem command {bracket : Bracket} (opens : t.role = .opens bracket) :
    List.Forall₂ R (bracket.command t) (bracket.command other) := by
  cases bracket with
  | group => exact .nil
  | index => exact .cons (alike.index related opens) .nil

end Alike

end Token

namespace Rpn
open Lexeme (Renames movedRenames)
open Token (moved renamed Alike)
open List (Forall₂)

section
variable {R : Token → Token → Prop} (alike : Alike R)
include alike

theorem releaseRelated (priority : Nat) {operators others : List Token}
    (waiting : Forall₂ R operators others) :
    Forall₂ R (release priority operators).1 (release priority others).1 ∧
    Forall₂ R (release priority operators).2 (release priority others).2 := by
  rw [releaseParts, releaseParts]
  induction waiting with
  | nil => exact ⟨.nil, .nil⟩
  | @cons t other rest others related tail ih =>
    simp only [List.takeWhile_cons, List.dropWhile_cons, alike.isBarrier related,
      alike.priority related]
    split
    · exact ⟨.cons related ih.1, ih.2⟩
    · exact ⟨.nil, .cons related tail⟩

theorem unwindRelated (opener : LexemeKind) {operators others : List Token}
    (waiting : Forall₂ R operators others) :
    Option.Rel (fun (above, bracket, below) (above', bracket', below') =>
        Forall₂ R above above' ∧ R bracket bracket' ∧ Forall₂ R below below')
      (unwind? opener operators) (unwind? opener others) := by
  induction waiting with
  | nil => exact .none
  | @cons t other rest others related tail ih =>
    rw [unwind?, unwind?, alike.isBarrier related, alike.kind related]
    split
    · split
      · exact .some ⟨.nil, related, tail⟩
      · exact .none
    · exact mapRelated ih fun _ _ parts => ⟨.cons related parts.1, parts.2⟩

theorem arrangeRelated {operators others tokens images : List Token}
    (waiting : Forall₂ R operators others) (line : Forall₂ R tokens images) :
    Option.Rel (Forall₂ R) (arrange? operators tokens) (arrange? others images) := by
  induction line generalizing operators others with
  | nil => exact .some waiting
  | @cons token image rest images related tail ih =>
    have same := alike.role related
    cases role : token.role with
    | operand =>
      rw [arrangeOperand role, arrangeOperand (same.trans role)]
      exact mapRelated (ih waiting) fun _ _ later => .cons related later
    | operator =>
      obtain ⟨released, kept⟩ := releaseRelated alike token.priority waiting
      rw [arrangeOperator role, arrangeOperator (same.trans role), alike.priority related]
      exact mapRelated (ih (.cons (alike.operator related role) kept)) fun _ _ later =>
        List.rel_append released later
    | opens bracket =>
      rw [arrangeOpens role, arrangeOpens (same.trans role)]
      exact ih (.cons related waiting)
    | closes bracket =>
      have unwound := unwindRelated alike bracket.opener waiting
      rw [arrangeCloses role, arrangeCloses (same.trans role)]
      cases parts : unwind? bracket.opener operators with
      | none =>
        rw [parts] at unwound
        generalize unwind? bracket.opener others = found at unwound
        cases unwound
        exact .none
      | some parted =>
        obtain ⟨above, opener, below⟩ := parted
        obtain ⟨-, -, opens⟩ := unwindParts parts
        rw [parts] at unwound
        generalize unwind? bracket.opener others = found at unwound
        cases unwound with
        | some unwound =>
          obtain ⟨aboves, openers, belows⟩ := unwound
          exact mapRelated (ih belows) fun _ _ later =>
            List.rel_append (List.rel_append aboves (alike.command openers opens)) later

theorem ofTokensRelated {tokens images : List Token} (line : Forall₂ R tokens images) :
    Option.Rel (Forall₂ R) (ofTokens? tokens) (ofTokens? images) := by
  cases line with
  | nil => exact .none
  | cons related tail => exact arrangeRelated alike .nil (.cons related tail)

end

theorem ofTokensRenamed {f : Nat → Nat} {g : Lexeme → Lexeme} (renames : Renames f g)
    (tokens : List Token) :
    ofTokens? (tokens.map (renamed g)) = (ofTokens? tokens).map (List.map (renamed g)) := by
  have related := ofTokensRelated (Token.renamedAlike renames) (relatedToMap (renamed g) tokens)
  exact (imageOfRelated related fun _ _ => mapOfRelated).symm

theorem ofTokensMoved (f : Nat → Nat) (tokens : List Token) :
    ofTokens? (tokens.map (moved f)) = (ofTokens? tokens).map (List.map (moved f)) :=
  ofTokensRenamed (movedRenames f) tokens

end Rpn
end LiveConsole
