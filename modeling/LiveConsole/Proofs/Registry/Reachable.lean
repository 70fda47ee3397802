import LiveConsole.Evaluation.Stack

/-! What a console's registry can come to. Every type in it descends from `object`, so a parameter
of that type takes any value, and takes it as it is while nothing converts to it. -/
namespace LiveConsole

namespace TypeTable

structure Rooted (table : TypeTable) : Prop where
  builtin : builtin.entries <+: table.entries
  lineage : ∀ entry ∈ table.entries, TypeTag.object ∈ entry.lineage
  named : ∀ entry ∈ table.named, entry.2.index < table.size

theorem builtinRooted : Rooted builtin := ⟨List.prefix_rfl, by decide, by decide⟩

theorem registerOk {table next : TypeTable} {name : String} {parent tag : TypeTag}
    (registered : table.register name parent = .ok (next, tag)) :
    table.lookup? name = none ∧ parent.index < table.size ∧ tag = ⟨table.size⟩ ∧
      next = ⟨table.entries ++ [⟨name, tag :: table.lineage parent⟩],
        (name, tag) :: table.named⟩ := by
  unfold register at registered
  split at registered
  · contradiction
  · rename_i fresh
    rw [Bool.not_eq_true, Option.isSome_eq_false_iff, Option.isNone_iff_eq_none] at fresh
    split at registered
    · contradiction
    · rename_i above found
      have lineage : table.lineage parent = above.lineage := by rw [TypeTable.lineage, found]
      cases registered
      exact ⟨fresh, (List.getElem?_eq_some_iff.mp found).1, rfl, by rw [lineage]⟩

theorem entryKept {table later : TypeTable} (extended : table.entries <+: later.entries)
    {tag : TypeTag} (registered : tag.index < table.size) :
    later.entry? tag = table.entry? tag := by
  obtain ⟨others, joined⟩ := extended
  unfold entry?
  rw [← joined]
  exact List.getElem?_append_left registered

theorem registerRooted {table next : TypeTable} {name : String} {parent tag : TypeTag}
    (rooted : Rooted table) (registered : table.register name parent = .ok (next, tag)) :
    Rooted next := by
  obtain ⟨-, inside, rfl, rfl⟩ := registerOk registered
  refine ⟨rooted.builtin.trans (List.prefix_append ..), fun entry member => ?_,
    fun entry member => ?_⟩
  · rcases List.mem_append.mp member with old | new
    · exact rooted.lineage entry old
    · cases List.mem_singleton.mp new
      have above : table.lineage parent = table.entries[parent.index].lineage := by
        rw [TypeTable.lineage, entry?, List.getElem?_eq_getElem inside]
      rw [above]
      exact List.mem_cons_of_mem _ (rooted.lineage _ (List.getElem_mem inside))
  · change entry.2.index < (table.entries ++ [_]).length
    rw [List.length_append]
    rcases List.mem_cons.mp member with rfl | old
    · exact Nat.lt_succ_self _
    · exact Nat.lt_succ_of_lt (rooted.named entry old)

theorem lineageKept {table : TypeTable} (rooted : Rooted table) {tag : TypeTag}
    (inside : tag.index < builtin.size) : table.lineage tag = builtin.lineage tag := by
  unfold lineage
  rw [entryKept rooted.builtin inside]

theorem objectLineage {table : TypeTable} (rooted : Rooted table) :
    table.lineage .object = [.object] := lineageKept rooted (by decide)

theorem tagRegistered {table : TypeTable} (rooted : Rooted table) {value : Value} {tag : TypeTag}
    (tagged : table.tagOf? value = some tag) : tag.index < table.size := by
  have size : builtin.size ≤ table.size := rooted.builtin.length_le
  have bound : ∀ tag : TypeTag, tag.index < builtin.size → tag.index < table.size :=
    fun tag isBuiltin => Nat.lt_of_lt_of_le isBuiltin size
  cases value with
  | null => contradiction
  | object ref =>
    cases Option.some.inj tagged
    cases found : table.lookup? ref.className with
    | none => exact bound .object (by decide)
    | some tag =>
      obtain ⟨front, back, split, -⟩ := List.lookup_eq_some_iff.mp found
      exact rooted.named (ref.className, tag) (by simp [split])
  | _ =>
    cases Option.some.inj tagged
    exact bound _ (by decide)

theorem acceptsObject {table : TypeTable} (rooted : Rooted table) (value : Value) :
    table.accepts .object value = true := by
  unfold accepts
  split
  · rename_i tag tagged
    have inside : tag.index < table.entries.length := tagRegistered rooted tagged
    have found : table.entry? tag = some table.entries[tag.index] :=
      List.getElem?_eq_getElem inside
    unfold isAssignable lineage
    rw [found]
    exact List.contains_iff_mem.mpr (rooted.lineage _ (List.getElem_mem inside))
  · rfl

end TypeTable

namespace Registry

variable {σ : Type}

inductive Reachable [Host σ] : Registry σ → Prop where
  | initial : Reachable initial
  | command {registry next : Registry σ} {command : Command σ} {notes : List Note}
      (reached : Reachable registry)
      (registered : registry.registerCommand command = .ok (next, notes)) : Reachable next
  | enabled {registry : Registry σ} (reached : Reachable registry) (isEnabled : Bool) :
      Reachable { registry with isEnabled := isEnabled }
  | sessionVariable {registry : Registry σ} (reached : Reachable registry) (name : String)
      (value : Value) : Reachable (registry.setVariable name value)
  | global {registry : Registry σ} (reached : Reachable registry) (name : String)
      (value : Value) : Reachable (registry.setGlobal name value)
  | type {registry next : Registry σ} {name : String} {parent : Option String} {tag : TypeTag}
      (reached : Reachable registry)
      (registered : registry.registerType name parent = .ok (next, tag)) : Reachable next
  | converter {registry : Registry σ} (reached : Reachable registry) (converter : Converter σ) :
      Reachable (registry.registerConverter converter).1
  | presenter {registry : Registry σ} (reached : Reachable registry) (presenter : Presenter σ) :
      Reachable (registry.registerPresenter presenter).1

theorem registerCommandCases (registry : Registry σ) (command : Command σ) :
    (∃ old ∈ registry.commands, old.name = command.name) ∧
        registry.registerCommand command = .error (.duplicate .commands command.name) ∨
      (∀ old ∈ registry.commands, old.name ≠ command.name) ∧
        registry.registerCommand command =
          .ok ({ registry with commands := registry.commands ++ [command] },
            [.registered command.name]) := by
  unfold registerCommand
  split
  · rename_i taken
    obtain ⟨old, found⟩ := Option.isSome_iff_exists.mp taken
    have named : old.name = command.name := by simpa using List.find?_some found
    exact .inl ⟨⟨old, List.mem_of_find?_eq_some found, named⟩, rfl⟩
  · rename_i fresh
    rw [Bool.not_eq_true, Option.isSome_eq_false_iff, Option.isNone_iff_eq_none] at fresh
    exact .inr ⟨fun old member => by simpa using List.find?_eq_none.mp fresh old member, rfl⟩

theorem commandRegistered {registry next : Registry σ} {command : Command σ} {notes : List Note}
    (registered : registry.registerCommand command = .ok (next, notes)) :
    (∀ old ∈ registry.commands, old.name ≠ command.name) ∧
      next = { registry with commands := registry.commands ++ [command] } := by
  rcases registry.registerCommandCases command with ⟨-, refused⟩ | ⟨fresh, done⟩
  · cases refused.symm.trans registered
  · cases done.symm.trans registered
    exact ⟨fresh, rfl⟩

theorem typeRegistered {registry next : Registry σ} {name : String} {parent : Option String}
    {tag : TypeTag} (registered : registry.registerType name parent = .ok (next, tag)) :
    ∃ above types, registry.types.register name above = .ok (types, tag) ∧
      next = { registry with types := types } := by
  have below : ∀ above, registry.registerTypeBelow name above = .ok (next, tag) →
      ∃ above types, registry.types.register name above = .ok (types, tag) ∧
        next = { registry with types := types } := by
    intro above registered
    unfold registerTypeBelow at registered
    split at registered <;> rename_i done <;> cases registered
    exact ⟨above, _, done, rfl⟩
  unfold registerType at registered
  split at registered
  · exact below _ registered
  · split at registered
    · exact below _ registered
    · contradiction

theorem Reachable.rooted [Host σ] {registry : Registry σ} (reached : Reachable registry) :
    registry.types.Rooted := by
  induction reached with
  | initial => exact TypeTable.builtinRooted
  | command reached registered ih =>
    obtain ⟨-, rfl⟩ := commandRegistered registered
    exact ih
  | enabled reached isEnabled ih => exact ih
  | sessionVariable reached name value ih => exact ih
  | global reached name value ih => exact ih
  | type reached registered ih =>
    obtain ⟨above, types, done, rfl⟩ := typeRegistered registered
    exact TypeTable.registerRooted ih done
  | converter reached converter ih =>
    unfold registerConverter
    split <;> exact ih
  | presenter reached presenter ih =>
    unfold registerPresenter
    split <;> exact ih

theorem Reachable.commandsInduct [Host σ] {motive : List (Command σ) → Prop}
    (start : motive (Builtin.entries.map Command.ofBuiltin))
    (add : ∀ commands command, (∀ old ∈ commands, old.name ≠ command.name) →
      motive commands → motive (commands ++ [command]))
    {registry : Registry σ} (reached : Reachable registry) : motive registry.commands := by
  induction reached with
  | initial => exact start
  | command reached registered ih =>
    obtain ⟨fresh, rfl⟩ := commandRegistered registered
    exact add _ _ fresh ih
  | enabled reached isEnabled ih => exact ih
  | sessionVariable reached name value ih => exact ih
  | global reached name value ih => exact ih
  | type reached registered ih =>
    obtain ⟨above, types, -, rfl⟩ := typeRegistered registered
    exact ih
  | converter reached converter ih =>
    unfold registerConverter
    split <;> exact ih
  | presenter reached presenter ih =>
    unfold registerPresenter
    split <;> exact ih

theorem Reachable.namesApart [Host σ] {registry : Registry σ} (reached : Reachable registry) :
    registry.commands.Pairwise fun a b => a.name ≠ b.name := by
  refine reached.commandsInduct ?_ fun commands command fresh apart => ?_
  · rw [List.pairwise_map]
    change Builtin.entries.Pairwise fun a b => a.name ≠ b.name
    decide
  · refine List.pairwise_append.mpr ⟨apart, List.pairwise_singleton .., ?_⟩
    simpa using fresh

theorem Reachable.installed [Host σ] {registry : Registry σ} (reached : Reachable registry) :
    ∀ entry ∈ Builtin.entries, Command.ofBuiltin entry ∈ registry.commands := by
  intro entry member
  refine reached.commandsInduct (motive := (Command.ofBuiltin entry ∈ ·)) ?_ ?_
  · exact List.mem_map_of_mem member
  · exact fun commands command fresh kept => List.mem_append_left _ kept

theorem Reachable.commandFound [Host σ] {registry : Registry σ} (reached : Reachable registry)
    (isEnabled : registry.isEnabled = true) {command : Command σ}
    (member : command ∈ registry.commands) : registry.command? command.name = some command := by
  obtain ⟨before, after, split⟩ := List.append_of_mem member
  have apart := reached.namesApart
  rw [split] at apart
  have earlier : ∀ other ∈ before, other.name ≠ command.name := fun other inside =>
    (List.pairwise_append.mp apart).2.2 other inside command List.mem_cons_self
  rw [command?, if_pos isEnabled, commandNamed?, split]
  refine List.find?_eq_some_iff_append.mpr ⟨by simp, before, after, rfl, fun other inside => ?_⟩
  simpa using earlier other inside

structure KeepsObjects (registry : Registry σ) : Prop where
  rooted : registry.types.Rooted
  unconverted : ∀ converter ∈ registry.converters, converter.target ≠ .object

theorem convertObject {registry : Registry σ} (keeps : registry.KeepsObjects) (host : σ)
    (value : Value) : registry.convert host value .object = (value, host) := by
  have unfit : ∀ actual, registry.converterFor? .object actual = none := by
    intro actual
    have noneFits : (registry.converters.filterMap fun c =>
        (c.rank? registry.types .object actual).map fun rank => (rank, c)) = [] := by
      refine List.filterMap_eq_nil_iff.mpr fun converter member => ?_
      have differs : (TypeTag.object == converter.target) = false :=
        beq_eq_false_iff_ne.mpr (keeps.unconverted converter member).symm
      have far : registry.types.distance? converter.target .object = none := by
        rw [TypeTable.distance?, TypeTable.objectLineage keeps.rooted]
        simp [differs]
      rw [Converter.rank?, far]
      rfl
    rw [converterFor?, Converter.best?, noneFits]
    rfl
  unfold convert
  split
  · rfl
  · split
    · rfl
    · rw [unfit]

theorem bindObjects {registry : Registry σ} (keeps : registry.KeepsObjects) (operator : Token)
    (host : σ) {parameters : List Parameter} (objects : ∀ p ∈ parameters, p.type = .object)
    {values : List Value} (size : values.length = parameters.length) :
    Engine.bindArguments registry operator host parameters values = (.ok values, host) := by
  induction parameters generalizing values with
  | nil =>
    cases List.length_eq_zero_iff.mp size
    rfl
  | cons parameter parameters ih =>
    cases values with
    | nil => contradiction
    | cons value values =>
      simp only [List.mem_cons, forall_eq_or_imp] at objects
      have rest := ih objects.2 (Nat.succ.inj size)
      simp [Engine.bindArguments, objects.1, convertObject keeps,
        TypeTable.acceptsObject keeps.rooted, rest, Except.map]

end Registry

def Engine.plain {σ : Type} [Host σ] (host : σ) : Engine σ :=
  ⟨{ Registry.initial with isEnabled := true }, .standard, host⟩

end LiveConsole
