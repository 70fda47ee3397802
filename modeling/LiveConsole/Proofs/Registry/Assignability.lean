import LiveConsole.Evaluation.Builtins
import LiveConsole.Proofs.Registry.Dispatch
import LiveConsole.Proofs.Registry.TypeTree

/-! Assignability as an order on types. What lies above a type in its lineage has the rest of that
lineage for its own, so distances add up along a lineage, the types above one type stand in a line,
and whoever asks a type for its parent again and again walks through them up to `object`. -/
namespace LiveConsole

namespace TypeTable

theorem lineageUnregistered {table : TypeTable} {tag : TypeTag} (unknown : table.size ≤ tag.index) :
    table.lineage tag = [] := by
  have absent : table.entry? tag = none := List.getElem?_eq_none unknown
  rw [lineage, absent]

theorem registeredOfLineage {table : TypeTable} {tag ancestor : TypeTag}
    (member : ancestor ∈ table.lineage tag) : tag.index < table.size := by
  refine Nat.lt_of_not_le fun unknown => ?_
  rw [lineageUnregistered unknown] at member
  contradiction

theorem Grown.lineageBeyond {table : TypeTable} (grown : Grown table) {tag ancestor : TypeTag}
    {steps : Nat} (reached : (table.lineage tag)[steps]? = some ancestor) :
    table.lineage ancestor = (table.lineage tag).drop steps := by
  have registered := registeredOfLineage (List.mem_of_getElem? reached)
  refine grown.induct (motive := fun tag => ∀ steps ancestor,
    (table.lineage tag)[steps]? = some ancestor →
      table.lineage ancestor = (table.lineage tag).drop steps) ?_ ?_ tag registered _ _ reached
  · intro steps ancestor reached
    rw [grown.rootLineage] at reached ⊢
    cases steps with
    | zero =>
      cases Option.some.inj reached
      exact grown.rootLineage
    | succ steps => contradiction
  · intro tag parent _ _ descends ih steps ancestor reached
    rw [descends] at reached ⊢
    cases steps with
    | zero =>
      cases Option.some.inj reached
      exact descends
    | succ steps => exact ih steps ancestor reached

theorem Grown.distanceIff {table : TypeTable} (grown : Grown table) {target tag : TypeTag}
    {steps : Nat} :
    table.distance? target tag = some steps ↔ (table.lineage tag)[steps]? = some target := by
  refine ⟨distancePlace, fun reached => ?_⟩
  have registered := registeredOfLineage (List.mem_of_getElem? reached)
  have decreasing := List.pairwise_iff_getElem.mp (grown.ascends tag registered).decreasing
  obtain ⟨inside, same⟩ := List.getElem?_eq_some_iff.mp reached
  refine List.findIdx?_eq_some_iff_getElem.mpr ⟨inside, by simp [same], fun lower before => ?_⟩
  -- Tags fall along a lineage, so no tag stands in it twice.
  have falls := decreasing lower steps (Nat.lt_trans before inside) inside before
  rw [same] at falls
  simp only [beq_iff_eq]
  rintro equal
  rw [equal] at falls
  exact Nat.lt_irrefl _ falls

theorem assignableIff {table : TypeTable} {target tag : TypeTag} :
    table.isAssignable target tag = true ↔ target ∈ table.lineage tag :=
  List.contains_iff_mem

theorem Grown.assignablePlace {table : TypeTable} (grown : Grown table) {target tag : TypeTag} :
    table.isAssignable target tag = true ↔ ∃ steps, table.distance? target tag = some steps := by
  rw [assignableIff, List.mem_iff_getElem?]
  exact exists_congr fun steps => grown.distanceIff.symm

theorem Grown.distanceAdds {table : TypeTable} (grown : Grown table) {a b c : TypeTag} {m n : Nat}
    (first : table.distance? b a = some m) (second : table.distance? c b = some n) :
    table.distance? c a = some (m + n) := by
  rw [grown.distanceIff] at first second ⊢
  rwa [grown.lineageBeyond first, List.getElem?_drop] at second

theorem Grown.assignableBeyond {table : TypeTable} (grown : Grown table) {a b c : TypeTag}
    {m n : Nat} (near : table.distance? b a = some m) (far : table.distance? c a = some n)
    (later : m ≤ n) : table.isAssignable c b = true := by
  rw [grown.distanceIff] at near far
  refine grown.assignablePlace.mpr ⟨n - m, grown.distanceIff.mpr ?_⟩
  rw [grown.lineageBeyond near, List.getElem?_drop, Nat.add_sub_cancel' later, far]

structure TreeOrder (table : TypeTable) : Prop where
  steps : ∀ b a,
    table.isAssignable b a = true ↔ ∃ count, table.distance? b a = some count
  reflexive : ∀ a, a.index < table.size → table.isAssignable a a = true
  antisymmetric : ∀ a b,
    table.isAssignable b a = true → table.isAssignable a b = true → a = b
  transitive : ∀ a b c,
    table.isAssignable b a = true → table.isAssignable c b = true → table.isAssignable c a = true
  greatest : ∀ a, a.index < table.size → table.isAssignable .object a = true
  comparable : ∀ a b c, table.isAssignable b a = true → table.isAssignable c a = true →
    table.isAssignable c b = true ∨ table.isAssignable b c = true
  additive : ∀ a b c m n, table.distance? b a = some m → table.distance? c b = some n →
    table.distance? c a = some (m + n)

theorem Grown.treeOrder {table : TypeTable} (grown : Grown table) : TreeOrder table where
  steps b a := grown.assignablePlace
  reflexive a registered :=
    assignableIff.mpr (List.mem_of_head? (grown.ascends a registered).first)
  antisymmetric a b below above := by
    rw [assignableIff] at below above
    have lower := (grown.ascends a (registeredOfLineage below)).bounded b below
    have upper := (grown.ascends b (registeredOfLineage above)).bounded a above
    exact congrArg TypeTag.mk (Nat.le_antisymm upper lower)
  transitive a b c first second := by
    obtain ⟨m, near⟩ := grown.assignablePlace.mp first
    obtain ⟨n, far⟩ := grown.assignablePlace.mp second
    exact grown.assignablePlace.mpr ⟨m + n, grown.distanceAdds near far⟩
  greatest a registered :=
    assignableIff.mpr (List.mem_of_getLast? (grown.ascends a registered).last)
  comparable a b c first second := by
    obtain ⟨m, near⟩ := grown.assignablePlace.mp first
    obtain ⟨n, far⟩ := grown.assignablePlace.mp second
    rcases Nat.le_total m n with later | earlier
    · exact .inl (grown.assignableBeyond near far later)
    · exact .inr (grown.assignableBeyond far near earlier)
  additive a b c m n := grown.distanceAdds

theorem Grown.height {table : TypeTable} (grown : Grown table) {tag : TypeTag}
    (registered : tag.index < table.size) :
    table.distance? .object tag = some ((table.lineage tag).length - 1) := by
  rw [grown.distanceIff, ← List.getLast?_eq_getElem?]
  exact (grown.ascends tag registered).last

end TypeTable

namespace Builtin

variable {σ : Type} [Host σ]

def readingOn (engine : Engine σ) (operator : Token) (name : String) : Nat → Value → Run σ Value
  | 0, value => .ok value engine
  | count + 1, value =>
      (readingOn engine operator name count value).andThen fun found engine =>
        Builtin.property.run engine operator [found, .string name]

theorem readParent (engine : Engine σ) (operator : Token) (ref : TypeRef) :
    Builtin.property.run engine operator [.type ref, .string "parent"] =
      match (engine.types.lineage ref.tag)[1]? with
      | some parent => .ok (.type (engine.types.ref parent)) engine
      | none => .fail (.ofOperand .unknownProperty "parent" operator) engine := by
  have found : propertyOf? engine.types engine.host (.type ref) "parent" =
      (engine.types.lineage ref.tag)[1]?.map fun parent => .type (engine.types.ref parent) := rfl
  change reading engine operator (.type ref) (.string "parent") = _
  unfold reading
  simp only [Value.display, found]
  cases (engine.types.lineage ref.tag)[1]? <;> rfl

theorem readOnward {engine : Engine σ} {operator : Token} {value : Value} {steps : Nat}
    {ref : TypeRef}
    (read : readingOn engine operator "parent" steps value = .ok (.type ref) engine) :
    readingOn engine operator "parent" (steps + 1) value =
      match (engine.types.lineage ref.tag)[1]? with
      | some parent => .ok (.type (engine.types.ref parent)) engine
      | none => .fail (.ofOperand .unknownProperty "parent" operator) engine := by
  rw [readingOn, read]
  exact readParent engine operator ref

theorem readParents {engine : Engine σ} (grown : engine.types.Grown) (operator : Token)
    {tag ancestor : TypeTag} {steps : Nat}
    (reached : (engine.types.lineage tag)[steps]? = some ancestor) :
    readingOn engine operator "parent" steps (.type (engine.types.ref tag)) =
      .ok (.type (engine.types.ref ancestor)) engine := by
  induction steps generalizing ancestor with
  | zero =>
    have registered := TypeTable.registeredOfLineage (List.mem_of_getElem? reached)
    have first := (grown.ascends tag registered).first
    rw [List.head?_eq_getElem?, reached] at first
    rw [Option.some.inj first]
    rfl
  | succ steps ih =>
    obtain ⟨inside, -⟩ := List.getElem?_eq_some_iff.mp reached
    have below := List.getElem?_eq_getElem (Nat.lt_of_succ_lt inside)
    have parent : (engine.types.lineage (engine.types.lineage tag)[steps])[1]? = some ancestor := by
      rw [grown.lineageBeyond below, List.getElem?_drop, reached]
    rw [readOnward (ih below)]
    simp only [TypeTable.ref, parent]

theorem readBeyondRoot {engine : Engine σ} (grown : engine.types.Grown) (operator : Token)
    {tag : TypeTag} {height : Nat} (root : engine.types.distance? .object tag = some height) :
    readingOn engine operator "parent" (height + 1) (.type (engine.types.ref tag)) =
      .fail (.ofOperand .unknownProperty "parent" operator) engine := by
  have reached := readParents grown operator (grown.distanceIff.mp root)
  rw [readOnward reached]
  simp only [TypeTable.ref, grown.rootLineage]
  rfl

end Builtin

namespace TypeTable

theorem assignabilityIsATree {trials : List Trial} {table : TypeTable}
    (tried : Trials builtin trials table) :
    TreeOrder table ∧
    ∀ {σ : Type} [Host σ] (engine : Engine σ) (operator : Token), engine.types = table →
      ∀ a, a.index < table.size → ∃ height, table.distance? .object a = some height ∧
        (∀ steps ≤ height, ∃ b, (∀ other, table.distance? other a = some steps ↔ other = b) ∧
          Builtin.readingOn engine operator "parent" steps (.type (table.ref a)) =
            .ok (.type (table.ref b)) engine) ∧
        Builtin.readingOn engine operator "parent" (height + 1) (.type (table.ref a)) =
          .fail (.ofOperand .unknownProperty "parent" operator) engine ∧
        (CommandError.ofOperand .unknownProperty "parent" operator).reason = "Unknown property" := by
  have grown := tried.grown builtinGrown
  refine ⟨grown.treeOrder, ?_⟩
  rintro σ _ engine operator rfl a registered
  have root := grown.height registered
  refine ⟨_, root, fun steps low => ?_, Builtin.readBeyondRoot grown operator root, rfl⟩
  obtain ⟨last, -⟩ := List.getElem?_eq_some_iff.mp (grown.distanceIff.mp root)
  have inside : steps < (engine.types.lineage a).length := Nat.lt_of_le_of_lt low last
  have reached := List.getElem?_eq_getElem inside
  refine ⟨_, fun other => ?_, Builtin.readParents grown operator reached⟩
  rw [grown.distanceIff, reached, Option.some.injEq, eq_comm]

theorem tankIsAUnit :
    ∃ (engine : Engine Scene) (operator : Token),
      engine.registry = Registry.initial.afterAll
        [.type "unit" none, .type "tank" (some "unit"), .type "ship" (some "unit")] ∧
      TreeOrder engine.types ∧
      engine.types.isAssignable ⟨7⟩ ⟨8⟩ = true ∧ engine.types.isAssignable ⟨9⟩ ⟨8⟩ = false ∧
      Builtin.readingOn engine operator "parent" 2 (.type (engine.types.ref ⟨8⟩)) =
        .ok (.type (engine.types.ref .object)) engine := by
  let engine : Engine Scene := ⟨Registry.initial.afterAll
    [.type "unit" none, .type "tank" (some "unit"), .type "ship" (some "unit")], .standard, .empty⟩
  let operator : Token := .synthetic propertyName 5
  have tried := Registry.trialsMade (Registry.initial : Registry Scene)
    [.type "unit" none, .type "tank" (some "unit"), .type "ship" (some "unit")]
  obtain ⟨order, reads⟩ := assignabilityIsATree tried
  obtain ⟨height, root, upwards, -⟩ := reads engine operator rfl ⟨8⟩ (by decide)
  have two : height = 2 := Option.some.inj (root.symm.trans rfl)
  subst two
  obtain ⟨top, only, read⟩ := upwards 2 (Nat.le_refl 2)
  rw [← (only .object).mp root] at read
  exact ⟨engine, operator, rfl, order, by decide, by decide, read⟩

end TypeTable
end LiveConsole
