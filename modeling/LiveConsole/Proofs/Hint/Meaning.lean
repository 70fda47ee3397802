import LiveConsole.Proofs.Evaluation.Grouping
import LiveConsole.Proofs.Hint.Location
import LiveConsole.Proofs.Hint.Replay

/-! What a hint says, on any line and at any cursor: it is for a visible command that the line
names, one of whose slots it marks, and for a token that the cursor is in or has passed. -/
namespace LiveConsole
open Token (Apart)

variable {σ : Type}

namespace Command

def slots (c : Command σ) (types : TypeTable) : List String :=
  c.name :: c.parameters.map fun parameter => parameter.name ++ ":" ++ types.name parameter.type

def targetPart (c : Command σ) (types : TypeTable) : List String :=
  (c.targetType?.map fun type => "<" ++ types.name type ++ ">").toList

theorem markedAt (texts : List String) (place : Nat) :
    (texts.mapIdx fun i text => marked text (some place == some i)) =
      texts.modify place fun text => "[" ++ text ++ "]" := by
  refine List.ext_getElem? fun i => ?_
  rw [List.getElem?_mapIdx, List.getElem?_modify]
  by_cases same : place = i <;> cases texts[i]? <;> simp [same, marked]

theorem markedNowhere (texts : List String) :
    (texts.mapIdx fun _ text => marked text false) = texts := by
  refine List.ext_getElem? fun i => ?_
  rw [List.getElem?_mapIdx]
  cases texts[i]? <;> rfl

theorem syntaxHintParts (c : Command σ) (types : TypeTable) (slot : Option Nat) :
    c.syntaxHint types slot = " ".intercalate
      (c.targetPart types ++ (c.slots types).mapIdx fun i text => marked text (slot == some i)) := by
  have parameters : (c.parameters.mapIdx fun i parameter =>
        marked (parameter.name ++ ":" ++ types.name parameter.type) (slot == some (i + 1))) =
      (c.parameters.map fun parameter =>
        parameter.name ++ ":" ++ types.name parameter.type).mapIdx
          fun i text => marked text (slot == some (i + 1)) := by
    refine List.ext_getElem? fun i => ?_
    rw [List.getElem?_mapIdx, List.getElem?_mapIdx, List.getElem?_map, Option.map_map]
    rfl
  unfold syntaxHint targetPart slots
  rw [List.mapIdx_cons, parameters]
  cases c.targetType? <;> rfl

theorem syntaxHintPlain (c : Command σ) (types : TypeTable) :
    c.syntaxHint types none = " ".intercalate (c.targetPart types ++ c.slots types) :=
  (c.syntaxHintParts types none).trans
    (congrArg (fun texts => " ".intercalate (c.targetPart types ++ texts)) (markedNowhere _))

theorem syntaxHintMarks (c : Command σ) (types : TypeTable) {slot : Nat}
    (within : slot ≤ c.arity) :
    ∃ front part back, c.slots types = front ++ part :: back ∧ front.length = slot ∧
      c.syntaxHint types (some slot) =
        " ".intercalate (c.targetPart types ++ (front ++ ("[" ++ part ++ "]") :: back)) := by
  have bound : slot < (c.slots types).length := by
    rw [slots, List.length_cons, List.length_map]
    exact Nat.lt_succ_of_le within
  obtain ⟨front, part, back, whole, place, marks⟩ :=
    List.exists_of_modify (fun text => "[" ++ text ++ "]") bound
  exact ⟨front, part, back, whole, place, by rw [syntaxHintParts, markedAt, marks]⟩

end Command

namespace Hint

structure Search.Within (search : Search) (passed : List Token) : Prop where
  candidate : ∀ t ∈ search.candidate, t ∈ passed ∧ t.kind.isSought = true
  heads : ∀ head ∈ search.heads, ∀ t ∈ head, t ∈ passed ∧ t.kind.isSought = true

theorem Search.Within.found {search : Search} {passed : List Token}
    (inside : search.Within passed) {token : Token} (member : token ∈ passed)
    (sought : token.kind.isSought = true) : (search.found token).Within passed := by
  refine ⟨fun t same => ?_, fun head held t same => ?_⟩
  · cases Option.some.inj same
    exact ⟨member, sought⟩
  · unfold Search.found at held
    dsimp only at held
    split at held
    · rename_i outer heads
      rcases List.mem_cons.mp held with rfl | later
      · cases Option.some.inj same
        exact ⟨member, sought⟩
      · exact inside.heads head (by rw [heads]; exact List.mem_cons_of_mem _ later) t same
    · exact inside.heads head held t same

theorem Search.Within.advance {search : Search} {passed : List Token}
    (inside : search.Within passed) (cursor : Nat) {token : Token} (member : token ∈ passed) :
    (search.advance cursor token).Within passed := by
  by_cases sought : token.kind.isSought = true
  · rw [Search.advanceSought sought]
    exact inside.found member sought
  by_cases opens : token.kind = .openGroup
  · rw [Search.advanceOpens opens]
    refine ⟨by simp, fun head held t same => ?_⟩
    rcases List.mem_cons.mp held with rfl | later
    · contradiction
    · exact inside.heads head later t same
  by_cases closes : token.kind = .closeGroup
  · rw [Search.advance, closes]
    dsimp only
    split
    · split
      · rename_i head outer heads
        have held := inside.heads
        rw [heads] at held
        obtain ⟨first, others⟩ := List.forall_mem_cons.mp held
        exact ⟨first, others⟩
      · exact inside
    · exact inside
  · rw [Search.advancePassed opens closes (Bool.eq_false_iff.mpr sought)]
    exact inside

theorem Search.foldWithin (cursor : Nat) {tokens passed : List Token} {search : Search}
    (inside : search.Within passed) (members : ∀ t ∈ tokens, t ∈ passed) :
    (tokens.foldl (fun search token => search.advance cursor token) search).Within passed := by
  induction tokens generalizing search with
  | nil => exact inside
  | cons token rest ih =>
    obtain ⟨here, later⟩ := List.forall_mem_cons.mp members
    exact ih (inside.advance cursor here) later

theorem locatedWithin {tokens : List Token} {cursor : Nat} {located : Located}
    (found : locate? tokens cursor = some located) :
    located.token ∈ tokens ∧ located.token.position ≤ cursor ∧
      located.token.kind.isSought = true := by
  have start : Search.start.Within (upTo cursor tokens) := by
    constructor <;> simp [Search.start]
  have inside := Search.foldWithin cursor start fun t member => member
  obtain ⟨token, candidate, same⟩ := Option.map_eq_some_iff.mp found
  obtain ⟨member, sought⟩ := inside.candidate token candidate
  have starts : token.position ≤ cursor := by simpa using List.mem_takeWhile_imp member
  rw [← same]
  exact ⟨(List.takeWhile_sublist _).mem member, starts, sought⟩

structure FoundAt (registry : Registry σ) (located inside token : Token) (hint : Hint σ) :
    Prop where
  isCommand : token.kind = .command
  registered : registry.command? token.value = some hint.command
  visible : (hint.command.isBuiltin && hint.command.hidden) = false
  within : hint.slot ≤ hint.command.arity
  leads : hint.slot = 0 → token.sameAs inside = true ∨ hint.command.takesTarget = true
  place : hint.token = located

theorem followStep (registry : Registry σ) (located : Token) (isClosed : Bool) (inside : Token)
    (stack : List Token) (token : Token) :
    (∃ ended : Option (Hint σ), (∀ hint ∈ ended, FoundAt registry located inside token hint) ∧
      ∀ rest, follow? registry located isClosed inside stack (token :: rest) = ended) ∨
    ∃ next left, (next = inside ∨ next = token) ∧
      ∀ rest, follow? registry located isClosed inside stack (token :: rest) =
        follow? registry located isClosed next left rest := by
  by_cases isCommand : token.kind = .command
  swap
  · exact .inr ⟨inside, _, .inl rfl, fun rest => by rw [follow?, if_pos isCommand]⟩
  cases found : registry.command? token.value with
  | none => exact .inl ⟨none, by simp, fun rest => by simp [follow?, isCommand, found]⟩
  | some command =>
    simp only [follow?, isCommand, found, ne_eq, not_true_eq_false, if_false]
    split
    · rename_i named
      simp only [Bool.and_eq_true, Bool.not_eq_true'] at named
      refine .inl ⟨_, fun hint same => ?_, fun rest => rfl⟩
      cases Option.some.inj same
      exact ⟨isCommand, found, by simp [named.2], Nat.zero_le _, fun _ => .inl named.1.1, rfl⟩
    split
    · rename_i i taken visible
      have bound := (List.findIdx?_eq_some_iff_findIdx_eq.mp taken).1
      rw [List.length_reverse, List.length_take] at bound
      refine .inl ⟨_, fun hint same => ?_, fun rest => rfl⟩
      cases Option.some.inj same
      exact ⟨isCommand, found, visible, by dsimp only; omega, fun zero => by contradiction, rfl⟩
    -- Nothing visible takes the token here, so all that is left to find is a target.
    generalize follows : (if (List.findIdx? (fun operand => operand.sameAs inside)
      (List.take command.arity stack).reverse).isSome = true then token else inside) = next
    have either : next = inside ∨ next = token := by
      rw [← follows]
      split
      · exact .inr rfl
      · exact .inl rfl
    split
    · rename_i targeted
      obtain ⟨targeted, -⟩ := Bool.and_eq_true_iff.mp targeted
      split
      · split
        · refine .inl ⟨_, fun hint same => ?_, fun rest => rfl⟩
          cases Option.some.inj same
          have visible : (command.isBuiltin && command.hidden) = false := by
            rw [builtinUntargeted targeted, Bool.false_and]
          exact ⟨isCommand, found, visible, Nat.zero_le _, fun _ => .inr targeted, rfl⟩
        · exact .inr ⟨next, _, either, fun rest => rfl⟩
      · exact .inr ⟨next, _, either, fun rest => rfl⟩
    · exact .inr ⟨next, _, either, fun rest => rfl⟩

theorem followFound {registry : Registry σ} {located : Token} {isClosed : Bool} {inside : Token}
    {stack order : List Token} (apart : Apart order)
    (own : inside = located ∨ ∀ t ∈ order, t.sameAs inside = false) {hint : Hint σ}
    (found : follow? registry located isClosed inside stack order = some hint) :
    ∃ t ∈ order, FoundAt registry located located t hint := by
  induction order generalizing inside stack with
  | nil => contradiction
  | cons token rest ih =>
    rcases followStep registry located isClosed inside stack token with
      ⟨ended, finds, same⟩ | ⟨next, left, either, same⟩
    · rw [same] at found
      have here := finds hint found
      refine ⟨token, List.mem_cons_self, { here with leads := fun zero => ?_ }⟩
      refine (here.leads zero).imp_left fun equal => ?_
      rcases own with rfl | other
      · exact equal
      · rw [other token List.mem_cons_self] at equal
        contradiction
    · rw [same] at found
      have goesOn : next = located ∨ ∀ t ∈ rest, t.sameAs next = false := by
        rcases either with rfl | rfl
        · exact own.imp_right fun other t member => other t (List.mem_cons_of_mem _ member)
        · refine .inr fun t member => Bool.eq_false_iff.mpr fun equal => ?_
          have passed : Apart ([next] ++ rest) := apart
          have twice := (apart.sameAs (List.mem_cons_of_mem _ member) List.mem_cons_self).mp equal
          exact passed.disjoint List.mem_cons_self (twice ▸ member)
      obtain ⟨t, member, foundAt⟩ := ih (apart.sublist (List.sublist_cons_self ..)) goesOn found
      exact ⟨t, List.mem_cons_of_mem _ member, foundAt⟩

structure Meaningful (registry : Registry σ) (tokens order : List Token) (cursor : Nat)
    (hint : Hint σ) : Prop where
  isEnabled : registry.isEnabled = true
  named : ∃ t ∈ order, t.kind = .command ∧ registry.command? t.value = some hint.command ∧
    (hint.slot = 0 → hint.token = t ∨ hint.command.takesTarget = true)
  visible : (hint.command.isBuiltin && hint.command.hidden) = false
  within : hint.slot ≤ hint.command.arity
  token : hint.token ∈ tokens ∧ hint.token.position ≤ cursor
  sought : hint.token.kind ∈ [.command, .variable, .global, .string]
  marks : ∀ types, ∃ front part back, hint.command.slots types = front ++ part :: back ∧
    front.length = hint.slot ∧
    hint.command.syntaxHint types none = " ".intercalate
      (hint.command.targetPart types ++ hint.command.slots types) ∧
    hint.text types = " ".intercalate
      (hint.command.targetPart types ++ (front ++ ("[" ++ part ++ "]") :: back))

theorem meaningful {registry : Registry σ} {symbols : Symbols} {source : String} {cursor : Nat}
    {hint : Hint σ}
    (found : ofTokens? registry (Token.ofSource symbols source) cursor = some hint) :
    ∃ order, Rpn.ofSource? symbols source = some order ∧
      Meaningful registry (Token.ofSource symbols source) order cursor hint := by
  unfold ofTokens? at found
  split at found
  swap
  · contradiction
  rename_i located order place ordered
  obtain ⟨member, starts, sought⟩ := locatedWithin place
  have apart := Rpn.arrangedApart (Token.increasing symbols source) ordered
  obtain ⟨t, inside, foundAt⟩ := followFound apart (.inl rfl) found
  have arranged : located.token ∈ order := Rpn.soughtArranged ordered member sought
  refine ⟨order, ordered, ?_⟩
  exact {
    isEnabled := Registry.foundEnabled foundAt.registered
    named := ⟨t, inside, foundAt.isCommand, foundAt.registered, fun zero =>
      (foundAt.leads zero).imp_left fun same =>
        foundAt.place.trans ((apart.sameAs inside arranged).mp same).symm⟩
    visible := foundAt.visible
    within := foundAt.within
    token := by rw [foundAt.place]; exact ⟨member, starts⟩
    sought := by rw [foundAt.place]; exact LexemeKind.soughtAmong.mp sought
    marks := fun types => by
      obtain ⟨front, part, back, whole, length, marked⟩ :=
        hint.command.syntaxHintMarks types foundAt.within
      exact ⟨front, part, back, whole, length, hint.command.syntaxHintPlain types, marked⟩ }

end Hint

namespace Engine
open Hint

/- Of tokens for any registry, enabled or not, and of a line as an engine hints at it. -/
theorem hintsAreMeaningful :
    (∀ (registry : Registry σ) (symbols : Symbols) (source : String) (cursor : Nat)
      (hint : Hint σ),
      Hint.ofTokens? registry (Token.ofSource symbols source) cursor = some hint →
      ∃ order, Rpn.ofSource? symbols source = some order ∧
        Meaningful registry (Token.ofSource symbols source) order cursor hint) ∧
    ∀ (engine : Engine σ) (source : String) (cursor : Nat) (hint : Hint σ),
      engine.hint? source cursor = some hint →
      ∃ order, engine.compile? source = some order ∧
        Meaningful engine.registry (Token.ofSource engine.symbols source) order cursor hint := by
  refine ⟨fun registry symbols source cursor hint found => meaningful found, ?_⟩
  intro engine source cursor hint hinted
  unfold hint? at hinted
  split at hinted
  · exact meaningful hinted
  · contradiction

theorem openTextIsMeant :
    let line := "echo \x7b'a'.'b"
    let hint : Hint Scene := ⟨echoCommand, 1, .ofLexeme ⟨.string, "b", 10, "'", ""⟩⟩
    ∃ order, (Rpn.ofSource? .standard line = some order ∧
        Meaningful plainConsole.registry (Token.ofSource .standard line) order 12 hint) ∧
      plainConsole.compile? line = some order ∧
        Meaningful plainConsole.registry (Token.ofSource .standard line) order 12 hint := by
  intro line hint
  obtain ⟨ofTokens, ofLine⟩ := hintsAreMeaningful (σ := Scene)
  have lexemes : Lexeme.scan .standard line =
      [.bare .command "echo" 0, .bare .openGroup "\x7b" 5, ⟨.string, "a", 6, "'", "'"⟩,
        .bare .concatenation "." 9, ⟨.string, "b", 10, "'", ""⟩] := by cbv
  have hinted : plainConsole.hint? line 12 = some hint :=
    (hintScanned plainConsole rfl lexemes 12).trans rfl
  obtain ⟨order, ordered, tokens⟩ := ofTokens plainConsole.registry .standard line 12 hint hinted
  obtain ⟨same, compiled, whole⟩ := ofLine plainConsole line 12 hint hinted
  cases Option.some.inj (ordered.symm.trans compiled)
  exact ⟨order, ⟨ordered, tokens⟩, compiled, whole⟩

end Engine
end LiveConsole
