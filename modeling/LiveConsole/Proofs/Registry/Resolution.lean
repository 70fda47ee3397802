import LiveConsole.Proofs.Registry.TypeTree

/-! The type that a pattern stands for: the one of that name, or else the only one in whose name the
pattern can be picked out. Matching takes each character of the pattern where it first comes, and
misses nothing by that. -/
namespace LiveConsole

namespace Text

structure PicksOut (text pattern : String) (places : List Nat) : Prop where
  increasing : places.Pairwise (· < ·)
  reads : places.map (text.toList[·]?) = pattern.toList.map some

def Matches (text pattern : String) : Prop := ∃ places, PicksOut text pattern places

theorem placesOfSublist {pattern text : List Char} (within : pattern.Sublist text) :
    ∃ places : List Nat, places.Pairwise (· < ·) ∧ places.map (text[·]?) = pattern.map some := by
  induction within with
  | slnil => exact ⟨[], .nil, rfl⟩
  | @cons pattern text c within ih =>
    obtain ⟨places, increasing, reads⟩ := ih
    refine ⟨places.map (· + 1), List.pairwise_map.mpr (increasing.imp Nat.succ_lt_succ), ?_⟩
    simpa [Function.comp_def] using reads
  | @cons_cons pattern text c within ih =>
    obtain ⟨places, increasing, reads⟩ := ih
    refine ⟨0 :: places.map (· + 1), List.pairwise_cons.mpr ⟨by simp, ?_⟩, ?_⟩
    · exact List.pairwise_map.mpr (increasing.imp Nat.succ_lt_succ)
    · simpa [Function.comp_def] using reads

theorem placesBeyond {places : List Nat} (beyond : ∀ place ∈ places, 0 < place)
    (increasing : places.Pairwise (· < ·)) :
    ∃ earlier : List Nat, earlier.Pairwise (· < ·) ∧ places = earlier.map (· + 1) := by
  refine ⟨places.map (· - 1), List.pairwise_map.mpr ?_, ?_⟩
  · refine increasing.imp_of_mem fun left right before => ?_
    have := beyond _ left
    omega
  · rw [List.map_map]
    have same : ∀ place ∈ places, ((· + 1) ∘ (· - 1)) place = id place := fun place member =>
      Nat.sub_add_cancel (beyond place member)
    rw [List.map_congr_left same, List.map_id]

theorem sublistOfPlaces {text pattern : List Char} {places : List Nat}
    (increasing : places.Pairwise (· < ·))
    (reads : places.map (text[·]?) = pattern.map some) : pattern.Sublist text := by
  induction text generalizing pattern places with
  | nil =>
    cases places <;> cases pattern <;> simp at reads ⊢
  | cons c text ih =>
    have shifted : ∀ earlier : List Nat,
        (earlier.map (· + 1)).map ((c :: text)[·]?) = earlier.map (text[·]?) := fun earlier => by
      simp [Function.comp_def]
    cases places with
    | nil =>
      cases pattern with
      | nil => exact List.nil_sublist _
      | cons p pattern => contradiction
    | cons first others =>
      obtain ⟨behind, increases⟩ := List.pairwise_cons.mp increasing
      cases first with
      | zero =>
        obtain ⟨earlier, ordered, rfl⟩ := placesBeyond behind increases
        cases pattern with
        | nil => contradiction
        | cons p pattern =>
          rw [List.map_cons, List.map_cons, shifted] at reads
          obtain ⟨head, tail⟩ := List.cons.inj reads
          cases Option.some.inj head
          exact (ih ordered tail).cons_cons c
      | succ first =>
        have beyond : ∀ place ∈ (first + 1) :: others, 0 < place := by
          refine List.forall_mem_cons.mpr ⟨Nat.succ_pos _, fun place member => ?_⟩
          exact Nat.lt_of_le_of_lt (Nat.zero_le _) (behind place member)
        obtain ⟨earlier, ordered, same⟩ := placesBeyond beyond increasing
        rw [same, shifted] at reads
        exact (ih ordered reads).cons c

theorem containsIff (text pattern : String) :
    containsInOrder text pattern = true ↔ Matches text pattern := by
  rw [containsInOrderIff]
  constructor
  · intro within
    obtain ⟨places, increasing, reads⟩ := placesOfSublist within
    exact ⟨places, increasing, reads⟩
  · rintro ⟨places, increasing, reads⟩
    exact sublistOfPlaces increasing reads

instance (text pattern : String) : Decidable (Matches text pattern) :=
  decidable_of_iff _ (containsIff text pattern)

end Text

namespace TypeTable

def Trial.ref? (trial : Trial) : Option TypeRef :=
  trial.tag?.map fun tag => ⟨tag, trial.name⟩

def registeredTypes (trials : List Trial) : List TypeRef :=
  builtin.refs ++ trials.filterMap Trial.ref?

theorem memRefs {table : TypeTable} {type : TypeRef} :
    type ∈ table.refs ↔ type.tag.index < table.size ∧ table.ref type.tag = type := by
  constructor
  · intro member
    obtain ⟨index, inside, rfl⟩ := List.mem_map.mp member
    exact ⟨List.mem_range.mp inside, rfl⟩
  · rintro ⟨registered, same⟩
    exact List.mem_map.mpr ⟨type.tag.index, List.mem_range.mpr registered, same⟩

theorem refsDistinct (table : TypeTable) : table.refs.Nodup := by
  refine List.Nodup.map (fun a b same => ?_) List.nodup_range
  exact congrArg (fun type => type.tag.index) same

theorem Registered.refs {table next : TypeTable} {name : String} {parent tag : TypeTag}
    (added : Registered table next name parent tag) : next.refs = table.refs ++ [⟨tag, name⟩] := by
  have last : next.ref ⟨table.size⟩ = ⟨tag, name⟩ := by
    rw [← added.number, TypeTable.ref, added.name]
  have older : ∀ index ∈ List.range table.size,
      next.ref ⟨index⟩ = table.ref ⟨index⟩ := fun index inside => by
    rw [TypeTable.ref, TypeTable.ref, added.keeps.name ⟨index⟩ (List.mem_range.mp inside)]
  rw [TypeTable.refs, added.size, List.range_succ, List.map_append, List.map_congr_left older,
    List.map_singleton, last]
  rfl

theorem Trials.refs {table last : TypeTable} {trials : List Trial}
    (tried : Trials table trials last) : last.refs = table.refs ++ trials.filterMap Trial.ref? := by
  induction tried with
  | done table => simp
  | @granted table next last name parent tag rest done later ih =>
    rw [ih, (registered done).refs, List.append_assoc]
    rfl
  | refused refused later ih => exact ih

theorem findSpelled (table : TypeTable) (pattern : String) :
    table.find pattern = table.refs.filter fun type => Text.Matches type.name pattern := by
  refine List.filter_congr fun type _ => ?_
  rw [Bool.eq_iff_iff, Text.containsIff, decide_eq_true_iff]

structure Meant (types : List TypeRef) (pattern : String) (type : TypeRef) : Prop where
  registered : type ∈ types
  nearest : type.name = pattern ∨
    (∀ other ∈ types, other.name ≠ pattern) ∧ Text.Matches type.name pattern ∧
      ∀ other ∈ types, Text.Matches other.name pattern → other = type

theorem onlyFound {table : TypeTable} {pattern : String} {type : TypeRef} :
    table.find pattern = [type] ↔ type ∈ table.refs ∧ Text.Matches type.name pattern ∧
      ∀ other ∈ table.refs, Text.Matches other.name pattern → other = type := by
  have distinct : (table.find pattern).Nodup := (refsDistinct table).filter _
  rw [← List.perm_singleton, List.perm_ext_iff_of_nodup distinct (List.nodup_singleton type),
    findSpelled]
  simp only [List.mem_filter, decide_eq_true_iff, List.mem_singleton]
  constructor
  · intro found
    obtain ⟨member, matched⟩ := (found type).mpr rfl
    exact ⟨member, matched, fun other among matched => (found other).mp ⟨among, matched⟩⟩
  · rintro ⟨member, matched, alone⟩ other
    constructor
    · rintro ⟨among, matched⟩
      exact alone other among matched
    · rintro rfl
      exact ⟨member, matched⟩

theorem Grown.lookupIff {table : TypeTable} (grown : Grown table) {pattern : String}
    {type : TypeRef} (member : type ∈ table.refs) :
    table.lookup? pattern = some type.tag ↔ type.name = pattern := by
  obtain ⟨registered, same⟩ := memRefs.mp member
  rw [grown.inverse, and_iff_right registered]
  exact (congrArg (·.name = pattern) same).to_iff

theorem resolveUnnamed {table : TypeTable} {pattern : String}
    (unnamed : table.lookup? pattern = none) (type : TypeRef) :
    table.resolve? pattern = some type ↔ table.find pattern = [type] := by
  simp only [resolve?, unnamed]
  split
  · rename_i only found
    simp [found]
  · rename_i several
    exact ⟨fun nothing => absurd nothing (by simp), fun found => absurd found (several type)⟩

theorem Grown.resolves {table : TypeTable} (grown : Grown table) (pattern : String)
    (type : TypeRef) : table.resolve? pattern = some type ↔ Meant table.refs pattern type := by
  cases named : table.lookup? pattern with
  | some tag =>
    obtain ⟨inside, name⟩ := (grown.inverse pattern tag).mp named
    have listed : table.ref tag ∈ table.refs := memRefs.mpr ⟨inside, rfl⟩
    have resolved : table.resolve? pattern = some (table.ref tag) := by rw [resolve?, named]
    rw [resolved]
    constructor
    · intro found
      cases Option.some.inj found
      exact ⟨listed, .inl name⟩
    · rintro ⟨member, own | ⟨unnamed, -⟩⟩
      · have found := (grown.lookupIff member).mpr own
        rw [Option.some.inj (named.symm.trans found), (memRefs.mp member).2]
      · exact absurd name (unnamed _ listed)
  | none =>
    have unnamed : ∀ other ∈ table.refs, other.name ≠ pattern := by
      intro other member own
      have found := (grown.lookupIff member).mpr own
      exact absurd (named.symm.trans found) (by simp)
    rw [resolveUnnamed named, onlyFound]
    constructor
    · rintro ⟨member, matched, alone⟩
      exact ⟨member, .inr ⟨unnamed, matched, alone⟩⟩
    · rintro ⟨member, own | ⟨-, matched, alone⟩⟩
      · exact absurd own (unnamed type member)
      · exact ⟨member, matched, alone⟩

theorem patternsAreResolved :
    (∀ text pattern : String, Text.containsInOrder text pattern = true ↔
      ∃ places, Text.PicksOut text pattern places) ∧
    ∀ {trials : List Trial} {table : TypeTable}, Trials builtin trials table → ∀ pattern : String,
      table.find pattern =
        (registeredTypes trials).filter (fun type => Text.Matches type.name pattern) ∧
      ∀ type : TypeRef, table.resolve? pattern = some type ↔
        Meant (registeredTypes trials) pattern type := by
  refine ⟨Text.containsIff, fun {trials table} tried pattern => ?_⟩
  have listed : table.refs = registeredTypes trials := tried.refs
  rw [← listed]
  exact ⟨findSpelled table pattern, (tried.grown builtinGrown).resolves pattern⟩

theorem cameraIsMeant :
    ∃ table, Trials builtin [⟨"Component", .object, .ok ⟨7⟩⟩, ⟨"Camera", ⟨7⟩, .ok ⟨8⟩⟩,
        ⟨"Camera", .object, .error (.duplicate "Camera")⟩] table ∧
      table.find "Cm" = [⟨⟨7⟩, "Component"⟩, ⟨⟨8⟩, "Camera"⟩] ∧
      table.resolve? "Cra" = some ⟨⟨8⟩, "Camera"⟩ := by
  have tried : Trials builtin [⟨"Component", .object, .ok ⟨7⟩⟩, ⟨"Camera", ⟨7⟩, .ok ⟨8⟩⟩,
      ⟨"Camera", .object, .error (.duplicate "Camera")⟩] _ :=
    .granted rfl (.granted rfl (.refused rfl (.done _)))
  refine ⟨_, tried, ?_, ?_⟩
  · rw [(patternsAreResolved.2 tried "Cm").1]
    decide
  · refine ((patternsAreResolved.2 tried "Cra").2 ⟨⟨8⟩, "Camera"⟩).mpr ⟨by decide, .inr ?_⟩
    decide

end TypeTable
end LiveConsole
