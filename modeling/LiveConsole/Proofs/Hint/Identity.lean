import LiveConsole.Proofs.Evaluation.Fault
import LiveConsole.Proofs.Hint.Meaning

/-! Which token is meant. Tokens are compared by kind, position and priority and never by their
text, and that tells them apart: those of a line, and those of its order of evaluation, the commands
among them that are made for operators too. So where a hint's search compares the token that it
follows with what is on its stack, it finds that one occurrence and no other. -/
namespace LiveConsole
open Token (Apart)

namespace Token

def Distinct (tokens : List Token) : Prop := tokens.Pairwise fun a b => a.sameAs b = false
instance (tokens) : Decidable (Distinct tokens) := by unfold Distinct; infer_instance

def takenFor (t : Token) (tokens : List Token) : List Token :=
  tokens.filter fun other => other.sameAs t

theorem Apart.distinct {tokens : List Token} (apart : Apart tokens) : Distinct tokens := by
  have places := List.pairwise_map.mp apart
  exact places.imp fun differs => Bool.eq_false_iff.mpr fun same =>
    differs ((sameAsIff _ _).mp same).2.2.1

theorem Apart.takenFor {tokens : List Token} (apart : Apart tokens) {t : Token} (member : t ∈ tokens)
    {part : List Token} (once : part.Nodup) (within : part ⊆ tokens) :
    t.takenFor part = if t ∈ part then [t] else [] := by
  have itself : t.takenFor part = part.filter (· = t) :=
    List.filter_congr fun other inside =>
      Bool.eq_iff_iff.mpr ((apart.sameAs (within inside) member).trans decide_eq_true_iff.symm)
  rw [itself, List.filter_eq, once.count]
  split <;> rfl

inductive Made (tokens : List Token) : Token → Prop where
  | operator {original : Token} {name : String} (typed : original ∈ tokens)
      (stands : (original.kind, name) ∈ [(.concatenation, concatenationName),
        (.property, propertyName), (.openIndex, indexName)]) :
      Made tokens (.synthetic name original.position)

theorem Becomes.typedUnlessMade {tokens : List Token} {original token : Token}
    (typed : original ∈ tokens) (becomes : Becomes original token) :
    token ∈ tokens ∨ Made tokens token := by
  cases becomes with
  | itself operand => exact .inl typed
  | unclosed opens => exact .inl typed
  | closed opens => exact .inr (.operator typed (by simp [kindOfOpens opens, Bracket.opener]))
  | command operator =>
    unfold Token.operator
    split
    · rename_i kind
      exact .inr (.operator typed (by simp [kind]))
    · rename_i kind
      exact .inr (.operator typed (by simp [kind]))
    · exact .inl typed

theorem Made.untyped {tokens : List Token} (apart : Apart tokens) {t : Token}
    (made : Made tokens t) : ∀ typed ∈ tokens, t.sameAs typed = false := by
  cases made with
  | @operator original name inside stands =>
    refine fun typed member => Bool.eq_false_iff.mpr fun same => ?_
    obtain ⟨kind, -, place, -⟩ := (sameAsIff _ _).mp same
    cases apart.alone inside member place
    have command : original.kind = .command := kind.symm
    simp [command] at stands

end Token

structure Unambiguous (tokens order : List Token) : Prop where
  distinct : Token.Distinct order
  origin : ∀ t ∈ order, t ∈ tokens ∨ Token.Made tokens t
  untyped : ∀ t, Token.Made tokens t → ∀ typed ∈ tokens, t.sameAs typed = false

theorem Rpn.unambiguous {tokens order : List Token}
    (increasing : tokens.Pairwise fun a b => a.position < b.position)
    (ordered : ofTokens? tokens = some order) : Unambiguous tokens order where
  distinct := (arrangedApart increasing ordered).distinct
  origin := fun t member => by
    obtain ⟨original, typed, becomes⟩ := arrangedStands ordered member
    exact becomes.typedUnlessMade typed
  untyped := fun _ made => made.untyped (Token.apartOfIncreasing increasing)

namespace Hint
open Engine (plainConsole)

variable {σ : Type}

/- What a search holds between two tokens of the order: the token that it follows, and the stack. -/
structure Shadow where
  inside : Token
  stack : List Token
  deriving DecidableEq, Repr

inductive Course (σ : Type) where
  | ended (hint : Option (Hint σ))
  | reached (shadow : Shadow)

def Course.resume? (registry : Registry σ) (located : Located) (rest : List Token) :
    Course σ → Option (Hint σ)
  | .ended hint => hint
  | .reached shadow =>
      follow? registry located.token located.isClosed shadow.inside shadow.stack rest

namespace Shadow

def start (located : Located) : Shadow := ⟨located.token, []⟩

def aim (located : Located) (command : Command σ) (token inside : Token) (isTargeted : Bool)
    (below : List Token) : Course σ :=
  if isTargeted && below.head?.any fun target => target.sameAs inside then
    .ended (some ⟨command, 0, located.token⟩)
  else .reached ⟨inside, token :: if isTargeted then below.tail else below⟩

def feed (shadow : Shadow) (located : Located) (command : Command σ) (token : Token) : Course σ :=
  let taken := (shadow.stack.take command.arity).reverse.findIdx? fun operand =>
    operand.sameAs shadow.inside
  match taken, command.isBuiltin && command.hidden with
  | some i, false => .ended (some ⟨command, i + 1, located.token⟩)
  | _, _ =>
      aim located command token (if taken.isSome then token else shadow.inside)
        (command.takesTarget && command.arity ≤ shadow.stack.length)
        (shadow.stack.drop command.arity)

def advance (registry : Registry σ) (located : Located) (shadow : Shadow) (token : Token) :
    Course σ :=
  if token.kind ≠ .command then
    .reached ⟨shadow.inside, if token.isBarrier then shadow.stack else token :: shadow.stack⟩
  else
    match registry.command? token.value with
    | none => .ended none
    | some command =>
        if token.sameAs shadow.inside && !located.isClosed && !command.hidden then
          .ended (some ⟨command, 0, located.token⟩)
        else shadow.feed located command token

def course (registry : Registry σ) (located : Located) : Shadow → List Token → Course σ
  | shadow, [] => .reached shadow
  | shadow, token :: rest =>
      match shadow.advance registry located token with
      | .ended hint => .ended hint
      | .reached next => next.course registry located rest

variable {registry : Registry σ} {located : Located}

theorem aimResumes (command : Command σ) (token inside : Token) (isTargeted : Bool)
    (below rest : List Token) :
    (if isTargeted = true then
      match below with
      | target :: below =>
          if target.sameAs inside = true then some ⟨command, 0, located.token⟩
          else follow? registry located.token located.isClosed inside (token :: below) rest
      | [] => follow? registry located.token located.isClosed inside [token] rest
    else follow? registry located.token located.isClosed inside (token :: below) rest) =
      (aim located command token inside isTargeted below).resume? registry located rest := by
  cases isTargeted with
  | false => rfl
  | true =>
    cases below with
    | nil => rfl
    | cons target below =>
      rw [aim, List.head?_cons, Option.any_some, Bool.true_and, if_pos rfl]
      dsimp only
      split <;> rfl

theorem advanceResumes (shadow : Shadow) (token : Token) (rest : List Token) :
    follow? registry located.token located.isClosed shadow.inside shadow.stack (token :: rest) =
      (shadow.advance registry located token).resume? registry located rest := by
  rw [follow?, advance]
  split
  · rfl
  cases registry.command? token.value with
  | none => rfl
  | some command =>
    dsimp only
    split
    · rfl
    unfold feed
    dsimp only
    generalize (shadow.stack.take command.arity).reverse.findIdx? _ = taken
    generalize (command.isBuiltin && command.hidden) = isOperator
    cases taken <;> cases isOperator <;> first | rfl | exact aimResumes ..

theorem courseResumes (shadow : Shadow) (front rest : List Token) :
    follow? registry located.token located.isClosed shadow.inside shadow.stack (front ++ rest) =
      (shadow.course registry located front).resume? registry located rest := by
  induction front generalizing shadow with
  | nil => rfl
  | cons token front ih =>
    rw [List.cons_append, advanceResumes, course]
    cases shadow.advance registry located token with
    | ended hint => rfl
    | reached next => exact ih next

structure Grows (shadow next : Shadow) (tokens : List Token) : Prop where
  stack : next.stack.Sublist (tokens.reverse ++ shadow.stack)
  inside : next.inside = shadow.inside ∨ next.inside ∈ tokens

theorem aimGrows {shadow next : Shadow} {command : Command σ} {token inside : Token}
    {isTargeted : Bool} {below : List Token} (within : below.Sublist shadow.stack)
    (either : inside = shadow.inside ∨ inside = token)
    (aims : aim located command token inside isTargeted below = .reached next) :
    shadow.Grows next [token] := by
  unfold aim at aims
  split at aims
  · contradiction
  · cases aims
    have left : (if isTargeted then below.tail else below).Sublist shadow.stack := by
      split
      · exact (List.tail_sublist below).trans within
      · exact within
    exact ⟨left.cons_cons token, either.imp_right List.mem_singleton.mpr⟩

theorem feedGrows {shadow next : Shadow} {command : Command σ} {token : Token}
    (feeds : shadow.feed located command token = .reached next) : shadow.Grows next [token] := by
  unfold feed at feeds
  dsimp only at feeds
  split at feeds
  · contradiction
  · refine aimGrows (List.drop_sublist ..) ?_ feeds
    split
    · exact .inr rfl
    · exact .inl rfl

theorem advanceGrows {shadow next : Shadow} {token : Token}
    (advances : shadow.advance registry located token = .reached next) :
    shadow.Grows next [token] := by
  unfold advance at advances
  split at advances
  · cases advances
    refine ⟨?_, .inl rfl⟩
    dsimp only
    split
    · exact List.sublist_cons_self ..
    · exact List.Sublist.refl _
  · split at advances
    · contradiction
    · split at advances
      · contradiction
      · exact feedGrows advances

theorem courseGrows {shadow next : Shadow} {tokens : List Token}
    (reaches : shadow.course registry located tokens = .reached next) :
    shadow.Grows next tokens := by
  induction tokens generalizing shadow with
  | nil =>
    cases reaches
    exact ⟨List.Sublist.refl _, .inl rfl⟩
  | cons token rest ih =>
    rw [course] at reaches
    split at reaches
    · contradiction
    · rename_i middle advances
      have first := advanceGrows advances
      have later := ih reaches
      have stack := later.stack.trans (first.stack.append_left rest.reverse)
      rw [← List.append_assoc, ← List.reverse_append, List.singleton_append] at stack
      refine ⟨stack, ?_⟩
      rcases later.inside with same | member
      · rw [same]
        exact first.inside.imp_right (List.mem_append_left rest)
      · exact .inr (List.mem_cons_of_mem _ member)

structure Identifies (shadow : Shadow) (order rest : List Token) : Prop where
  waiting : (shadow.stack.reverse ++ rest).Sublist order
  followed : shadow.inside.takenFor order = [shadow.inside]
  onStack : shadow.inside.takenFor shadow.stack =
    if shadow.inside ∈ shadow.stack then [shadow.inside] else []
  toCome : shadow.inside.takenFor rest = if shadow.inside ∈ rest then [shadow.inside] else []

theorem courseIdentifies {order : List Token} (apart : Apart order)
    (arranged : located.token ∈ order) {front rest : List Token} (split : order = front ++ rest)
    {shadow : Shadow} (reaches : (start located).course registry located front = .reached shadow) :
    shadow.Identifies order rest := by
  have grows := courseGrows reaches
  have passed : shadow.stack.reverse.Sublist front := by
    have stack := grows.stack.reverse
    rwa [start, List.append_nil, List.reverse_reverse] at stack
  have waiting : (shadow.stack.reverse ++ rest).Sublist order := split ▸ passed.append_right rest
  have member : shadow.inside ∈ order := by
    rcases grows.inside with same | inFront
    · exact same ▸ arranged
    · exact split ▸ List.mem_append_left rest inFront
  have distinct : order.Nodup := apart.of_map
  obtain ⟨stackOnce, restOnce, -⟩ := List.nodup_append.mp (distinct.sublist waiting)
  refine ⟨waiting, ?_, ?_, ?_⟩
  · rw [apart.takenFor member distinct (List.Subset.refl order), if_pos member]
  · refine apart.takenFor member (List.nodup_reverse.mp stackOnce) fun t inside => ?_
    exact waiting.mem (List.mem_append_left _ (List.mem_reverse.mpr inside))
  · exact apart.takenFor member restOnce fun t inside =>
      waiting.mem (List.mem_append_right _ inside)

end Shadow

/- At each point of the order a search has ended with the hint that the line gets, or it goes on
from a shadow in which the token that it follows is told from all others. -/
theorem tokensAreToldApart (symbols : Symbols) (source : String) :
    Token.Distinct (Token.ofSource symbols source) ∧
    ∀ order, Rpn.ofSource? symbols source = some order →
      Unambiguous (Token.ofSource symbols source) order ∧
      ∀ (registry : Registry σ) (cursor : Nat) (located : Located),
        locate? (Token.ofSource symbols source) cursor = some located →
        ∀ front rest, order = front ++ rest →
          ofTokens? registry (Token.ofSource symbols source) cursor =
              ((Shadow.start located).course registry located front).resume? registry located rest ∧
          ∀ shadow, (Shadow.start located).course registry located front = .reached shadow →
            shadow.Identifies order rest := by
  have increasing := Token.increasing symbols source
  refine ⟨(Token.sourceApart symbols source).distinct, fun order ordered => ?_⟩
  have known : Rpn.ofTokens? (Token.ofSource symbols source) = some order := ordered
  refine ⟨Rpn.unambiguous increasing known, ?_⟩
  intro registry cursor located found front rest split
  obtain ⟨typed, -, sought⟩ := locatedWithin found
  have arranged : located.token ∈ order := Rpn.soughtArranged known typed sought
  refine ⟨?_, fun shadow reaches =>
    Shadow.courseIdentifies (Rpn.arrangedApart increasing known) arranged split reaches⟩
  rw [ofTokens?, found, known, split]
  exact (Shadow.start located).courseResumes front rest

theorem joinedItemIsToldApart :
    let tokens := Token.ofSource .standard "echo \x7b'a'.$b[0]\x7d"
    let located : Located := ⟨.ofLexeme ⟨.string, "a", 6, "'", "'"⟩, false⟩
    let front : List Token := [located.token, .ofLexeme ⟨.variable, "b", 10, "$", ""⟩,
      .ofKind .string (.bare .command "0" 13), .synthetic indexName 12,
      .synthetic concatenationName 9]
    let rest : List Token := [.ofLexeme (.bare .command "echo" 0)]
    let shadow : Shadow := ⟨.synthetic concatenationName 9, [.synthetic concatenationName 9]⟩
    (Rpn.ofSource? .standard "echo \x7b'a'.$b[0]\x7d" = some (front ++ rest) ∧
      locate? tokens 7 = some located ∧
      (Shadow.start located).course plainConsole.registry located front = .reached shadow) ∧
    Token.Distinct tokens ∧ Unambiguous tokens (front ++ rest) ∧
      ofTokens? plainConsole.registry tokens 7 =
        follow? plainConsole.registry located.token false shadow.inside shadow.stack rest ∧
      shadow.Identifies (front ++ rest) rest := by
  intro tokens located front rest shadow
  have lexemes : Lexeme.scan .standard "echo \x7b'a'.$b[0]\x7d" =
      [.bare .command "echo" 0, .bare .openGroup "\x7b" 5, ⟨.string, "a", 6, "'", "'"⟩,
        .bare .concatenation "." 9, ⟨.variable, "b", 10, "$", ""⟩, .bare .openIndex "[" 12,
        .bare .command "0" 13, .bare .closeIndex "]" 14, .bare .closeGroup "\x7d" 15] := by cbv
  have typed := congrArg Token.ofLexemes lexemes
  have ordered : Rpn.ofSource? .standard "echo \x7b'a'.$b[0]\x7d" = some (front ++ rest) :=
    (congrArg Rpn.ofTokens? typed).trans rfl
  have found : locate? tokens 7 = some located := (congrArg (locate? · 7) typed).trans rfl
  have reaches : (Shadow.start located).course plainConsole.registry located front =
    .reached shadow := rfl
  obtain ⟨distinct, orders⟩ := tokensAreToldApart (σ := Scene) .standard "echo \x7b'a'.$b[0]\x7d"
  obtain ⟨unambiguous, searches⟩ := orders (front ++ rest) ordered
  obtain ⟨resumes, identifies⟩ :=
    searches plainConsole.registry 7 located found front rest rfl
  rw [reaches] at resumes
  exact ⟨⟨ordered, found, reaches⟩, distinct, unambiguous, resumes, identifies shadow reaches⟩

end Hint
end LiveConsole
