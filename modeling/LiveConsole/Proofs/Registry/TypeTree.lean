import LiveConsole.Proofs.Registry.Registration
import Mathlib.Data.List.Nodup

/-! The tree of types, however it came about. Tags count the registrations that succeeded, names and
tags are in one-to-one correspondence, and a lineage is a type followed by the lineage of the parent
below which it was registered. What is registered never changes, and a refused registration leaves
everything as it was. -/
namespace LiveConsole

namespace TypeTable

structure Keeps (table later : TypeTable) : Prop where
  size : table.size ≤ later.size
  lookup : ∀ name tag, table.lookup? name = some tag → later.lookup? name = some tag
  name : ∀ tag, tag.index < table.size → later.name tag = table.name tag
  lineage : ∀ tag, tag.index < table.size → later.lineage tag = table.lineage tag

theorem refusedIff (table : TypeTable) (name : String) (parent : TypeTag) :
    (∃ error, table.register name parent = .error error) ↔
      (∃ tag, table.lookup? name = some tag) ∨ table.size ≤ parent.index := by
  unfold register
  cases taken : table.lookup? name with
  | some tag => simp
  | none =>
    cases found : table.entry? parent with
    | none => simpa [TypeTable.size] using List.getElem?_eq_none_iff.mp found
    | some above =>
      have registered : parent.index < table.size := (List.getElem?_eq_some_iff.mp found).1
      simpa using registered

theorem Keeps.refl (table : TypeTable) : Keeps table table :=
  ⟨Nat.le_refl _, fun _ _ found => found, fun _ _ => rfl, fun _ _ => rfl⟩

theorem Keeps.trans {table middle last : TypeTable} (first : Keeps table middle)
    (second : Keeps middle last) : Keeps table last where
  size := Nat.le_trans first.size second.size
  lookup name tag found := second.lookup name tag (first.lookup name tag found)
  name tag inside :=
    (second.name tag (Nat.lt_of_lt_of_le inside first.size)).trans (first.name tag inside)
  lineage tag inside :=
    (second.lineage tag (Nat.lt_of_lt_of_le inside first.size)).trans (first.lineage tag inside)

structure Registered (table next : TypeTable) (name : String) (parent tag : TypeTag) : Prop where
  fresh : table.lookup? name = none
  known : parent.index < table.size
  number : tag.index = table.size
  size : next.size = table.size + 1
  lookup : ∀ other,
    next.lookup? other = if other = name then some tag else table.lookup? other
  keeps : Keeps table next
  name : next.name tag = name
  lineage : next.lineage tag = tag :: next.lineage parent

theorem registered {table next : TypeTable} {name : String} {parent tag : TypeTag}
    (done : table.register name parent = .ok (next, tag)) :
    Registered table next name parent tag := by
  obtain ⟨fresh, inside, rfl, rfl⟩ := registerOk done
  set next : TypeTable := ⟨table.entries ++ [⟨name, ⟨table.size⟩ :: table.lineage parent⟩],
    (name, ⟨table.size⟩) :: table.named⟩
  have size : next.size = table.size + 1 := List.length_append
  have kept : ∀ tag, tag.index < table.size → next.entry? tag = table.entry? tag :=
    fun tag old => entryKept (List.prefix_append ..) old
  have last : next.entry? ⟨table.size⟩ = some ⟨name, ⟨table.size⟩ :: table.lineage parent⟩ :=
    List.getElem?_concat_length
  have lookup : ∀ other,
      next.lookup? other = if other = name then some ⟨table.size⟩ else table.lookup? other := by
    intro other
    change List.lookup other ((name, _) :: table.named) = _
    rw [List.lookup_cons]
    by_cases same : other = name
    · rw [if_pos same, beq_iff_eq.mpr same]
    · rw [if_neg same, beq_eq_false_iff_ne.mpr same]
      rfl
  have names : ∀ tag, tag.index < table.size → next.name tag = table.name tag :=
    fun tag old => by rw [TypeTable.name, kept tag old, TypeTable.name]
  have lineages : ∀ tag, tag.index < table.size → next.lineage tag = table.lineage tag :=
    fun tag old => by rw [TypeTable.lineage, kept tag old, TypeTable.lineage]
  refine ⟨fresh, inside, rfl, size, lookup, ⟨by omega, fun other tag found => ?_, names, lineages⟩,
    by rw [TypeTable.name, last], by rw [lineages parent inside, TypeTable.lineage, last]⟩
  -- A name that was there before is not the one that was added.
  have older : other ≠ name := by
    rintro rfl
    exact absurd found (by simp [fresh])
  rw [lookup, if_neg older, found]

structure Grown (table : TypeTable) : Prop where
  builtin : Keeps builtin table
  inverse : ∀ name tag,
    table.lookup? name = some tag ↔ tag.index < table.size ∧ table.name tag = name
  descent : ∀ tag, tag.index < table.size → tag ≠ .object →
    ∃ parent, parent.index < tag.index ∧ table.lineage tag = tag :: table.lineage parent

theorem builtinGrown : Grown builtin := by
  refine ⟨.refl _, fun name tag => ⟨fun found => ?_, fun ⟨inside, named⟩ => ?_⟩,
    fun tag registered below => ⟨.object, ?_, ?_⟩⟩
  · have pairs : ∀ entry ∈ builtin.named,
        entry.2.index < builtin.size ∧ builtin.name entry.2 = entry.1 := by decide
    obtain ⟨front, back, split, -⟩ := List.lookup_eq_some_iff.mp found
    exact pairs (name, tag) (by simp [split])
  · have rows : ∀ index < builtin.size,
        builtin.lookup? (builtin.name ⟨index⟩) = some ⟨index⟩ := by decide
    rw [← named]
    exact rows tag.index inside
  · exact Nat.pos_of_ne_zero fun root => below (congrArg TypeTag.mk root)
  · have rows : ∀ index < builtin.size, index ≠ 0 →
        builtin.lineage ⟨index⟩ = ⟨index⟩ :: builtin.lineage .object := by decide
    exact rows tag.index registered fun root => below (congrArg TypeTag.mk root)

theorem Registered.grown {table next : TypeTable} {name : String} {parent tag : TypeTag}
    (added : Registered table next name parent tag) (grown : Grown table) : Grown next := by
  -- A tag of the new table is an old one, or the one that was added.
  have either : ∀ other : TypeTag, other.index < next.size → other.index < table.size ∨ other = tag := by
    intro other inside
    rcases Nat.lt_or_ge other.index table.size with old | new
    · exact .inl old
    · have size := added.size
      have same : other.index = tag.index := by rw [added.number]; omega
      exact .inr (congrArg TypeTag.mk same)
  refine ⟨grown.builtin.trans added.keeps, fun other type => ?_, fun type inside below => ?_⟩
  · rw [added.lookup]
    split
    · rename_i same
      subst same
      refine ⟨fun found => ?_, fun ⟨inside, named⟩ => ?_⟩
      · cases found
        exact ⟨by rw [added.number, added.size]; omega, added.name⟩
      · rcases either type inside with old | rfl
        · have taken := (grown.inverse other type).mpr ⟨old, added.keeps.name type old ▸ named⟩
          exact absurd taken (by simp [added.fresh])
        · rfl
    · rename_i older
      rw [grown.inverse]
      refine ⟨fun ⟨old, named⟩ => ?_, fun ⟨inside, named⟩ => ?_⟩
      · exact ⟨by rw [added.size]; omega, (added.keeps.name type old).trans named⟩
      · rcases either type inside with old | rfl
        · exact ⟨old, (added.keeps.name type old).symm.trans named⟩
        · exact absurd (named.symm.trans added.name) older
  · rcases either type inside with old | rfl
    · obtain ⟨above, earlier, descends⟩ := grown.descent type old below
      refine ⟨above, earlier, ?_⟩
      rw [added.keeps.lineage type old, added.keeps.lineage above (Nat.lt_trans earlier old), descends]
    · exact ⟨parent, added.number ▸ added.known, added.lineage⟩

theorem Grown.rootLineage {table : TypeTable} (grown : Grown table) :
    table.lineage .object = [.object] :=
  grown.builtin.lineage .object (by decide)

theorem Grown.induct {table : TypeTable} (grown : Grown table) {motive : TypeTag → Prop}
    (root : motive .object)
    (below : ∀ tag parent, parent.index < tag.index → tag.index < table.size →
      table.lineage tag = tag :: table.lineage parent → motive parent → motive tag)
    (tag : TypeTag) (registered : tag.index < table.size) : motive tag := by
  obtain ⟨index⟩ := tag
  induction index using Nat.strongRecOn with
  | ind index ih =>
    by_cases isRoot : (⟨index⟩ : TypeTag) = .object
    · rw [isRoot]
      exact root
    · obtain ⟨⟨parent⟩, earlier, descends⟩ := grown.descent ⟨index⟩ registered isRoot
      have inside : parent < table.size := Nat.lt_trans earlier registered
      exact below ⟨index⟩ ⟨parent⟩ earlier registered descends (ih parent earlier inside)

structure Ascends (lineage : List TypeTag) (tag : TypeTag) : Prop where
  first : lineage.head? = some tag
  last : lineage.getLast? = some .object
  decreasing : lineage.Pairwise fun lower upper => upper.index < lower.index

theorem Ascends.bounded {lineage : List TypeTag} {tag : TypeTag} (ascends : Ascends lineage tag) :
    ∀ ancestor ∈ lineage, ancestor.index ≤ tag.index := by
  obtain ⟨above, rfl⟩ := List.head?_eq_some_iff.mp ascends.first
  intro ancestor member
  rcases List.mem_cons.mp member with rfl | higher
  · exact Nat.le_refl _
  · exact Nat.le_of_lt (List.rel_of_pairwise_cons ascends.decreasing higher)

theorem Grown.ascends {table : TypeTable} (grown : Grown table) (tag : TypeTag)
    (registered : tag.index < table.size) : Ascends (table.lineage tag) tag := by
  refine grown.induct (motive := fun tag => Ascends (table.lineage tag) tag) ?_ ?_ tag registered
  · rw [grown.rootLineage]
    exact ⟨rfl, rfl, List.pairwise_singleton ..⟩
  · intro tag parent earlier _ descends ih
    rw [descends]
    refine ⟨rfl, ?_, List.pairwise_cons.mpr ⟨fun ancestor member => ?_, ih.decreasing⟩⟩
    · rw [List.getLast?_cons, ih.last]
      rfl
    · exact Nat.lt_of_le_of_lt (ih.bounded ancestor member) earlier

structure Sound (table : TypeTable) : Prop where
  distinct : ∀ tag other, tag.index < table.size → other.index < table.size →
    table.name tag = table.name other → tag = other
  inverse : ∀ name tag,
    table.lookup? name = some tag ↔ tag.index < table.size ∧ table.name tag = name
  lineages : ∀ tag, tag.index < table.size → Ascends (table.lineage tag) tag

theorem Grown.sound {table : TypeTable} (grown : Grown table) : Sound table := by
  refine ⟨fun tag other inside otherInside same => ?_, grown.inverse, grown.ascends⟩
  have found := (grown.inverse (table.name tag) tag).mpr ⟨inside, rfl⟩
  have otherFound := (grown.inverse (table.name tag) other).mpr ⟨otherInside, same.symm⟩
  exact Option.some.inj (found.symm.trans otherFound)

structure Trial where
  name : String
  parent : TypeTag
  outcome : Except TypeError TypeTag

def Trial.tag? (trial : Trial) : Option TypeTag := trial.outcome.toOption

def trial (table : TypeTable) (name : String) (parent : TypeTag) : Trial :=
  ⟨name, parent, (table.register name parent).map Prod.snd⟩

inductive Trials : TypeTable → List Trial → TypeTable → Prop where
  | done (table : TypeTable) : Trials table [] table
  | granted {table next last : TypeTable} {name : String} {parent tag : TypeTag}
      {rest : List Trial} (registered : table.register name parent = .ok (next, tag))
      (later : Trials next rest last) : Trials table (⟨name, parent, .ok tag⟩ :: rest) last
  | refused {table last : TypeTable} {name : String} {parent : TypeTag} {error : TypeError}
      {rest : List Trial} (refused : table.register name parent = .error error)
      (later : Trials table rest last) : Trials table (⟨name, parent, .error error⟩ :: rest) last

theorem Trials.keeps {table last : TypeTable} {trials : List Trial}
    (tried : Trials table trials last) : Keeps table last := by
  induction tried with
  | done table => exact .refl table
  | granted done later ih => exact (registered done).keeps.trans ih
  | refused refused later ih => exact ih

theorem Trials.grown {table last : TypeTable} {trials : List Trial}
    (tried : Trials table trials last) (grown : Grown table) : Grown last := by
  induction tried with
  | done table => exact grown
  | granted done later ih => exact ih ((registered done).grown grown)
  | refused refused later ih => exact ih grown

theorem Trials.numbered {table last : TypeTable} {trials : List Trial}
    (tried : Trials table trials last) :
    (trials.filterMap Trial.tag?).map TypeTag.index =
      List.range' table.size (last.size - table.size) := by
  induction tried with
  | done table => simp
  | @granted table next last name parent tag rest done later ih =>
    obtain ⟨number, size⟩ := And.intro (registered done).number (registered done).size
    have grows : next.size ≤ last.size := later.keeps.size
    have count : last.size - table.size = last.size - next.size + 1 := by omega
    rw [count, List.range'_succ, ← size, ← ih, ← number]
    rfl
  | refused refused later ih => exact ih

theorem Trials.recorded {table last : TypeTable} {trials : List Trial}
    (tried : Trials table trials last) :
    ∀ trial ∈ trials, ∀ tag, trial.outcome = .ok tag →
      last.name tag = trial.name ∧ last.lineage tag = tag :: last.lineage trial.parent := by
  induction tried with
  | done table => simp
  | @granted table next last name parent tag rest done later ih =>
    intro trial member given outcome
    rcases List.mem_cons.mp member with rfl | among
    · cases outcome
      have added := registered done
      have size := added.size
      have fresh : tag.index < next.size := by rw [added.number]; omega
      have old : parent.index < next.size := Nat.lt_of_lt_of_le added.known added.keeps.size
      exact ⟨(later.keeps.name tag fresh).trans added.name,
        by rw [later.keeps.lineage tag fresh, later.keeps.lineage parent old, added.lineage]⟩
    · exact ih trial among given outcome
  | refused refused later ih =>
    intro trial member given outcome
    rcases List.mem_cons.mp member with rfl | among
    · contradiction
    · exact ih trial among given outcome

structure Account (table : TypeTable) (trials : List Trial) (last : TypeTable) : Prop where
  keeps : Keeps table last
  numbered : (trials.filterMap Trial.tag?).map TypeTag.index =
    List.range' table.size (last.size - table.size)
  recorded : ∀ trial ∈ trials, ∀ tag, trial.outcome = .ok tag →
    last.name tag = trial.name ∧ last.lineage tag = tag :: last.lineage trial.parent

theorem Trials.account {table last : TypeTable} {trials : List Trial}
    (tried : Trials table trials last) : Account table trials last :=
  ⟨tried.keeps, tried.numbered, tried.recorded⟩

theorem Trials.append {table middle last : TypeTable} {front back : List Trial}
    (first : Trials table front middle) (second : Trials middle back last) :
    Trials table (front ++ back) last := by
  induction first with
  | done table => exact second
  | granted registered later ih => exact .granted registered (ih second)
  | refused refused later ih => exact .refused refused (ih second)

end TypeTable

namespace Registry
open TypeTable (Trial Trials)

variable {σ : Type}

def trial? (registry : Registry σ) : Registration σ → Option Trial
  | .type name none => some (registry.types.trial name .object)
  | .type name (some parent) => (registry.types.lookup? parent).map (registry.types.trial name)
  | _ => none

def trials (registry : Registry σ) : List (Registration σ) → List Trial
  | [] => []
  | asked :: rest => (registry.trial? asked).toList ++ trials (registry.after asked) rest

theorem belowTried (registry : Registry σ) (name : String) (parent : TypeTag) :
    (∃ error, registry.registerTypeBelow name parent = .error error ∧
      Trials registry.types [registry.types.trial name parent] registry.types) ∨
    ∃ next tag, registry.registerTypeBelow name parent = .ok (next, tag) ∧
      Trials registry.types [registry.types.trial name parent] next.types := by
  unfold registerTypeBelow TypeTable.trial
  cases registered : registry.types.register name parent with
  | ok done =>
    obtain ⟨types, tag⟩ := done
    exact .inr ⟨_, tag, rfl, .granted registered (.done types)⟩
  | error error =>
    cases error <;> exact .inl ⟨_, rfl, .refused registered (.done _)⟩

theorem afterTried (registry : Registry σ) (asked : Registration σ) :
    Trials registry.types (registry.trial? asked).toList (registry.after asked).types := by
  have below : ∀ name parent above, registry.registerType name parent =
      registry.registerTypeBelow name above →
      Trials registry.types [registry.types.trial name above]
        (registry.after (.type name parent)).types := by
    intro name parent above same
    rcases belowTried registry name above with ⟨error, refused, tried⟩ | ⟨next, tag, done, tried⟩
    · rw [← same] at refused
      rcases afterType registry name parent with ⟨-, -, kept⟩ | ⟨_, _, done, -⟩
      · rwa [kept]
      · exact absurd (refused.symm.trans done) (by simp)
    · rw [← same] at done
      rcases afterType registry name parent with ⟨_, refused, -⟩ | ⟨_, _, also, kept⟩
      · exact absurd (refused.symm.trans done) (by simp)
      · cases done.symm.trans also
        rwa [kept]
  cases asked with
  | type name parent =>
    cases parent with
    | none => exact below name none .object rfl
    | some parent =>
      cases found : registry.types.lookup? parent with
      | some above =>
        have same : registry.registerType name (some parent) =
            registry.registerTypeBelow name above := by rw [registerType, found]
        rw [trial?, found]
        exact below name (some parent) above same
      | none =>
        have refused : registry.registerType name (some parent) =
            .error (.unknownType parent) := by rw [registerType, found]
        rcases afterType registry name (some parent) with ⟨_, -, kept⟩ | ⟨_, _, done, -⟩
        · rw [trial?, found, kept]
          exact .done _
        · exact absurd (refused.symm.trans done) (by simp)
  | command command =>
    rcases afterCommand registry command with ⟨error, -, kept⟩ | ⟨next, notes, done, kept⟩
    · rw [kept]
      exact .done _
    · obtain ⟨-, rfl⟩ := commandRegistered done
      rw [kept]
      exact .done _
  | converter converter =>
    change Trials registry.types [] (registry.registerConverter converter).1.types
    unfold registerConverter
    split <;> exact .done _
  | presenter presenter =>
    change Trials registry.types [] (registry.registerPresenter presenter).1.types
    unfold registerPresenter
    split <;> exact .done _
  | sessionVariable name value => exact .done _
  | global name value => exact .done _
  | enabled isEnabled => exact .done _

theorem trialsMade (registry : Registry σ) (asked : List (Registration σ)) :
    Trials registry.types (registry.trials asked) (registry.afterAll asked).types := by
  induction asked generalizing registry with
  | nil => exact .done _
  | cons first rest ih => exact (afterTried registry first).append (ih (registry.after first))

end Registry

theorem Setup.typeAtomic {σ : Type} (draft : Draft σ) (name : String) (parent : Option String) :
    (∃ error, (Setup.type name parent).run draft = (.error error, draft)) ∨
    ∃ tag, (Setup.type name parent).run draft =
      (.ok tag, { draft with registry := draft.registry.after (.type name parent) }) := by
  have run := Setup.typeRun draft name parent
  rcases draft.registry.afterType name parent with ⟨error, refused, -⟩ | ⟨next, tag, done, kept⟩
  · rw [refused] at run
    exact .inl ⟨error, run⟩
  · rw [done] at run
    rw [kept]
    exact .inr ⟨tag, run⟩

namespace TypeTable

theorem typesFormATree :
    (∀ {trials : List Trial} {table : TypeTable}, Trials builtin trials table →
      Sound table ∧ Account builtin trials table ∧
        ∀ {more : List Trial} {last : TypeTable}, Trials table more last → Keeps table last) ∧
    (∀ (table : TypeTable) (name : String) (parent : TypeTag),
      (∃ error, table.register name parent = .error error) ↔
        (∃ tag, table.lookup? name = some tag) ∨ table.size ≤ parent.index) ∧
    ∀ {σ : Type} [Host σ],
      (∀ asked : List (Registration σ), Trials builtin (Registry.initial.trials asked)
        (Registry.initial.afterAll asked).types) ∧
      ∀ (draft : Draft σ) (name : String) (parent : Option String),
        (∃ error, (Setup.type name parent).run draft = (.error error, draft)) ∨
        ∃ tag, (Setup.type name parent).run draft =
          (.ok tag, { draft with registry := draft.registry.after (.type name parent) }) := by
  refine ⟨fun tried => ?_, refusedIff, fun {σ} _ => ⟨fun asked => ?_, Setup.typeAtomic⟩⟩
  · exact ⟨(tried.grown builtinGrown).sound, tried.account, fun more => more.keeps⟩
  · exact Registry.trialsMade Registry.initial asked

theorem familyOfTypes :
    ∃ table, Trials builtin [⟨"unit", .object, .ok ⟨7⟩⟩, ⟨"tank", ⟨7⟩, .ok ⟨8⟩⟩,
        ⟨"unit", ⟨8⟩, .error (.duplicate "unit")⟩,
        ⟨"ship", ⟨9⟩, .error (.unknownParent ⟨9⟩)⟩] table ∧
      Sound table ∧ table.lineage ⟨8⟩ = [⟨8⟩, ⟨7⟩, .object] := by
  have tried : Trials builtin [⟨"unit", .object, .ok ⟨7⟩⟩, ⟨"tank", ⟨7⟩, .ok ⟨8⟩⟩,
      ⟨"unit", ⟨8⟩, .error (.duplicate "unit")⟩,
      ⟨"ship", ⟨9⟩, .error (.unknownParent ⟨9⟩)⟩] _ :=
    .granted rfl (.granted rfl (.refused rfl (.refused rfl (.done _))))
  obtain ⟨sound, account, -⟩ := typesFormATree.1 tried
  have tank := (account.recorded ⟨"tank", ⟨7⟩, .ok ⟨8⟩⟩ (by simp) ⟨8⟩ rfl).2
  have unit := (account.recorded ⟨"unit", .object, .ok ⟨7⟩⟩ (by simp) ⟨7⟩ rfl).2
  have root := account.keeps.lineage .object (by decide)
  exact ⟨_, tried, sound, by rw [tank, unit, root]; rfl⟩

end TypeTable
end LiveConsole
