import LiveConsole.Proofs.Scene.Deeds

/-! The scene in the course of a session. Its objects stay what they are, with their components and the
owners of these; new ones come under names that are free, and only a call that gives a name changes
one. -/
namespace LiveConsole.Scene

theorem reactTurn (start scene : Scene) (call : Invocation) :
    Turn scene call (start.registry.react scene call) := by
  unfold Registry.react
  split
  · rename_i type handler ran
    obtain ⟨command, found, byHost⟩ := Option.map_eq_some_iff.mp ran
    have member : command ∈ start.registry.commands := List.mem_of_find?_eq_some found
    have named : command.name = call.command := by simpa using List.find?_some found
    obtain ⟨result, deed, same⟩ := deed (ownCommand member byHost) byHost named.symm scene
    rw [same]
    exact deed.turn
  · rename_i noHost
    exact .kept (notRenaming fun isRename => noHost _ _ (by rw [isRename]; rfl))

def nextObject (scene : Scene) : ObjectRef := ⟨scene.entities.length, "GameObject"⟩

def nextStand (scene : Scene) : ObjectRef := ⟨scene.entities.length + 1, "Transform"⟩

theorem spawnParts (scene : Scene) (name : String) :
    scene.spawn name = (scene.nextObject, {
      entities := scene.entities ++
        [.gameObject name [scene.nextStand], .transform name 0.0 0.0 0.0]
      objects := scene.objects ++ [scene.nextObject] }) := by
  simp [spawn, create, attach, update, entity?, nextObject, nextStand, Entity.className]

section
variable {scene : Scene} {ref : ObjectRef} {entity : Entity}

theorem spawnedObject (scene : Scene) (name : String) :
    (scene.spawn name).2.entity? scene.nextObject = some (.gameObject name [scene.nextStand]) := by
  rw [spawnParts]
  simp [entity?, nextObject]

theorem spawnedStand (scene : Scene) (name : String) :
    (scene.spawn name).2.entity? scene.nextStand = some (.transform name 0.0 0.0 0.0) := by
  rw [spawnParts]
  simp [entity?, nextStand]

theorem entityInside (stands : scene.entity? ref = some entity) :
    ref.id < scene.entities.length := (List.getElem?_eq_some_iff.mp stands).1

theorem spawnKeeps (stands : scene.entity? ref = some entity) (name : String) :
    (scene.spawn name).2.entity? ref = some entity := by
  rw [spawnParts]
  exact (List.getElem?_append_left (entityInside stands)).trans stands

theorem spawnCases {name : String} (stands : (scene.spawn name).2.entity? ref = some entity) :
    scene.entity? ref = some entity ∨
      ref.id = scene.nextObject.id ∧ entity = .gameObject name [scene.nextStand] ∨
      ref.id = scene.nextStand.id ∧ entity = .transform name 0.0 0.0 0.0 := by
  rw [spawnParts] at stands
  rcases Nat.lt_or_ge ref.id scene.entities.length with inside | beyond
  · exact .inl ((List.getElem?_append_left inside).symm.trans stands)
  · have added := (List.getElem?_append_right beyond).symm.trans stands
    rcases Nat.exists_eq_add_of_le beyond with ⟨further, place⟩
    rw [place, Nat.add_sub_cancel_left] at added
    rcases further with _ | _ | further
    · exact .inr (.inl ⟨place, (Option.some.inj added).symm⟩)
    · exact .inr (.inr ⟨place, (Option.some.inj added).symm⟩)
    · contradiction

theorem updatedOther {other : ObjectRef} (differs : other.id ≠ ref.id) :
    (scene.update ref entity).entity? other = scene.entity? other :=
  List.getElem?_set_ne differs.symm

theorem updatedSelf {before : Entity} (stands : scene.entity? ref = some before)
    {other : ObjectRef} (same : other.id = ref.id) :
    (scene.update ref entity).entity? other = some entity := by
  unfold entity? update
  rw [same]
  exact List.getElem?_set_self (entityInside stands)

end

theorem renamingStands {scene : Scene} {call : Invocation} {ref : ObjectRef} {name : String}
    (names : scene.renaming? call = some (ref, name)) :
    ∃ old components, scene.entity? ref = some (.gameObject old components) := by
  unfold renaming? at names
  split at names
  · split at names
    · rename_i other old components found
      obtain ⟨text, -, same⟩ := Option.map_eq_some_iff.mp names
      cases same
      exact ⟨old, components, entityOfTarget found⟩
    · contradiction
  · contradiction

def ownerOf? (scene : Scene) (component : ObjectRef) : Option String :=
  (scene.entity? component).bind Entity.owner?

structure Sound (scene : Scene) : Prop where
  apart : scene.objects.Nodup
  objects : ∀ object ∈ scene.objects, object.className = "GameObject" ∧
    ∃ name components, scene.entity? object = some (.gameObject name components) ∧ components ≠ []
  listed : ∀ ref name components, scene.entity? ref = some (.gameObject name components) →
    ⟨ref.id, "GameObject"⟩ ∈ scene.objects

theorem spawnOwner {scene : Scene} {component : ObjectRef} {owner : String}
    (owned : scene.ownerOf? component = some owner) (name : String) :
    (scene.spawn name).2.ownerOf? component = some owner := by
  obtain ⟨entity, stands, named⟩ := Option.bind_eq_some_iff.mp owned
  exact Option.bind_eq_some_iff.mpr ⟨entity, spawnKeeps stands name, named⟩

theorem spawnedOwner (scene : Scene) (name : String) :
    (scene.spawn name).2.ownerOf? scene.nextStand = some name := by
  rw [ownerOf?, spawnedStand]
  rfl

theorem Turn.owner {scene next : Scene} {call : Invocation} (turn : Turn scene call next)
    {component : ObjectRef} {owner : String} (owned : scene.ownerOf? component = some owner) :
    next.ownerOf? component = some owner := by
  obtain ⟨entity, stands, named⟩ := Option.bind_eq_some_iff.mp owned
  have staying : next.entity? component = some entity → next.ownerOf? component = some owner :=
    fun stays => Option.bind_eq_some_iff.mpr ⟨entity, stays, named⟩
  cases turn with
  | kept nameless => exact owned
  | spawned nameless free => exact spawnOwner owned _
  | @renamed ref old name components names found =>
    refine staying ((updatedOther fun same => ?_).trans stands)
    -- An object has no owner, so what is renamed is not the component.
    rw [entity?, same, ← entity?, found] at stands
    cases stands
    contradiction
  | @adjusted ref before after maker nameless found held holds =>
    by_cases same : component.id = ref.id
    · rw [entity?, same, ← entity?, found] at stands
      cases stands
      rw [held] at named
      cases named
      exact Option.bind_eq_some_iff.mpr ⟨after, updatedSelf found same, holds⟩
    · exact staying ((updatedOther same).trans stands)

theorem nameStands {scene : Scene} {object : ObjectRef} {name : String}
    {components : List ObjectRef}
    (stands : scene.entity? object = some (.gameObject name components)) :
    scene.nameOf object = name ∧ scene.components object = components := by
  unfold nameOf Scene.components
  rw [stands]
  exact ⟨rfl, rfl⟩

def nameAfter (scene : Scene) (call : Invocation) (object : ObjectRef) : String :=
  match scene.renaming? call with
  | some (ref, name) => if object.id = ref.id then name else scene.nameOf object
  | none => scene.nameOf object

theorem nameUntouched {scene : Scene} {call : Invocation}
    (nameless : scene.renaming? call = none) (object : ObjectRef) :
    scene.nameAfter call object = scene.nameOf object := by
  rw [nameAfter, nameless]

theorem nameGiven {scene : Scene} {call : Invocation} {ref : ObjectRef} {name : String}
    (names : scene.renaming? call = some (ref, name)) (object : ObjectRef) :
    scene.nameAfter call object = if object.id = ref.id then name else scene.nameOf object := by
  rw [nameAfter, names]

theorem Turn.object {scene next : Scene} {call : Invocation} (turn : Turn scene call next)
    {object : ObjectRef} {old : String} {components : List ObjectRef}
    (stands : scene.entity? object = some (.gameObject old components)) :
    next.entity? object = some (.gameObject (scene.nameAfter call object) components) := by
  have named := (nameStands stands).1
  cases turn with
  | kept nameless => rwa [nameUntouched nameless, named]
  | spawned nameless free =>
    rw [nameUntouched nameless, named]
    exact spawnKeeps stands _
  | @renamed ref former name others names found =>
    rw [nameGiven names]
    by_cases same : object.id = ref.id
    · rw [entity?, same, ← entity?, found] at stands
      cases stands
      rw [if_pos same]
      exact updatedSelf found same
    · rw [if_neg same, named]
      exact (updatedOther same).trans stands
  | @adjusted ref before after owner nameless found held holds =>
    rw [nameUntouched nameless, named]
    refine (updatedOther fun same => ?_).trans stands
    -- What is adjusted has an owner, and an object has none.
    rw [entity?, same, ← entity?, found] at stands
    cases stands
    contradiction

theorem Turn.objects {scene next : Scene} {call : Invocation} (turn : Turn scene call next) :
    next.objects = scene.objects ∨
      scene.renaming? call = none ∧ ∃ name, scene.named? name = none ∧
        next = (scene.spawn name).2 := by
  cases turn with
  | spawned nameless free => exact .inr ⟨nameless, _, free, rfl⟩
  | _ => exact .inl rfl

theorem spawnedObjects (scene : Scene) (name : String) :
    (scene.spawn name).2.objects = scene.objects ++ [scene.nextObject] := by
  rw [spawnParts]

theorem Sound.stands {scene : Scene} (sound : Sound scene) {object : ObjectRef}
    (member : object ∈ scene.objects) :
    ∃ components, scene.entity? object = some (.gameObject (scene.nameOf object) components) := by
  obtain ⟨-, name, components, stands, -⟩ := sound.objects object member
  exact ⟨components, by rw [(nameStands stands).1, stands]⟩

theorem Turn.name {scene next : Scene} {call : Invocation} (turn : Turn scene call next)
    (sound : Sound scene) {object : ObjectRef} (member : object ∈ scene.objects) :
    next.nameOf object = scene.nameAfter call object := by
  obtain ⟨components, stands⟩ := sound.stands member
  exact (nameStands (turn.object stands)).1

theorem Sound.alone {scene : Scene} (sound : Sound scene) {a b : ObjectRef}
    (memberA : a ∈ scene.objects) (memberB : b ∈ scene.objects) (same : a.id = b.id) : a = b := by
  have classes : a.className = b.className :=
    (sound.objects a memberA).1.trans (sound.objects b memberB).1.symm
  cases a
  cases b
  exact (ObjectRef.mk.injEq ..).mpr ⟨same, classes⟩

theorem Sound.fresh {scene : Scene} (sound : Sound scene) :
    ∀ object ∈ scene.objects, object.id ≠ scene.nextObject.id := by
  intro object member
  obtain ⟨components, stands⟩ := sound.stands member
  exact Nat.ne_of_lt (entityInside stands)

theorem Sound.spawned {scene : Scene} (sound : Sound scene) (name : String) :
    Sound (scene.spawn name).2 := by
  constructor
  · rw [spawnedObjects]
    refine List.nodup_append.mpr ⟨sound.apart, List.nodup_singleton _, ?_⟩
    intro object member next isNext same
    rw [same, List.mem_singleton.mp isNext] at member
    exact sound.fresh _ member rfl
  · rw [spawnedObjects]
    intro object member
    rcases List.mem_append.mp member with old | new
    · obtain ⟨isObject, given, components, stands, filled⟩ := sound.objects object old
      exact ⟨isObject, given, components, spawnKeeps stands name, filled⟩
    · cases List.mem_singleton.mp new
      exact ⟨rfl, name, _, spawnedObject scene name, List.cons_ne_nil _ _⟩
  · rw [spawnedObjects]
    intro ref given components stands
    rcases spawnCases stands with old | ⟨same, -⟩ | ⟨-, other⟩
    · exact List.mem_append_left _ (sound.listed ref given components old)
    · rw [same]
      exact List.mem_append_right _ (List.mem_singleton.mpr rfl)
    · contradiction

theorem Turn.sound {scene next : Scene} {call : Invocation} (turn : Turn scene call next)
    (sound : Sound scene) : Sound next := by
  -- As long as no object is added, only the names differ.
  have kept (same : next.objects = scene.objects)
      (listed : ∀ ref name components, next.entity? ref = some (.gameObject name components) →
        ⟨ref.id, "GameObject"⟩ ∈ scene.objects) : Sound next := by
    rw [← same] at listed
    refine ⟨same ▸ sound.apart, fun object member => ?_, listed⟩
    rw [same] at member
    obtain ⟨isObject, name, components, stands, filled⟩ := sound.objects object member
    exact ⟨isObject, _, components, turn.object stands, filled⟩
  cases turn with
  | kept nameless => exact sound
  | spawned nameless free => exact sound.spawned _
  | @renamed ref old name components names found =>
    refine kept rfl fun other given parts stands => ?_
    by_cases same : other.id = ref.id
    · rw [same]
      exact sound.listed ref old components found
    · exact sound.listed other given parts ((updatedOther same).symm.trans stands)
  | @adjusted ref before after owner nameless found held holds =>
    refine kept rfl fun other given parts stands => ?_
    by_cases same : other.id = ref.id
    · rw [updatedSelf found same] at stands
      cases stands
      contradiction
    · exact sound.listed other given parts ((updatedOther same).symm.trans stands)

theorem demonstrationParts : demonstration = {
    entities := [
      .gameObject "Main Camera" [⟨1, "Transform"⟩, ⟨2, "Camera"⟩],
      .transform "Main Camera" 0.0 0.0 0.0, .camera "Main Camera" 60.0,
      .gameObject "Sun" [⟨4, "Transform"⟩, ⟨5, "Light"⟩],
      .transform "Sun" 0.0 0.0 0.0, .light "Sun" 1.0,
      .gameObject "Player" [⟨7, "Transform"⟩], .transform "Player" 0.0 0.0 0.0]
    objects := [⟨0, "GameObject"⟩, ⟨3, "GameObject"⟩, ⟨6, "GameObject"⟩] } := rfl

theorem demonstrationSound : Sound demonstration := by
  rw [demonstrationParts]
  refine ⟨by decide, ?_, ?_⟩
  · intro object member
    simp only [List.mem_cons, List.not_mem_nil, or_false] at member
    rcases member with rfl | rfl | rfl <;> exact ⟨rfl, _, _, rfl, List.cons_ne_nil _ _⟩
  · intro ref name components stands
    obtain ⟨place, className⟩ := ref
    have inside : place < 8 := entityInside stands
    interval_cases place <;> cases stands <;> simp

def Avoided (registry : Registry Scene) (kind : Scene → Invocation → Prop) (scene : Scene)
    (calls : List Invocation) : Prop :=
  ∀ earlier call, earlier ++ [call] <+: calls → ¬ kind (registry.reacted scene earlier) call

theorem reactedKeeps (start : Scene) {kind : Scene → Invocation → Prop} {Good : Scene → Prop}
    (keeps : ∀ {scene next call}, Turn scene call next → ¬ kind scene call → Good scene → Good next)
    {scene : Scene} (good : Good scene) {calls : List Invocation}
    (avoided : Avoided start.registry kind scene calls) :
    Good (start.registry.reacted scene calls) := by
  induction calls generalizing scene with
  | nil => exact good
  | cons call rest ih =>
    have first := avoided [] call (List.prefix_append [call] rest)
    refine ih (keeps (reactTurn start scene call) first good) fun earlier later within => ?_
    exact avoided (call :: earlier) later (List.cons_prefix_cons.mpr ⟨rfl, within⟩)

theorem reactedAlways (start : Scene) {Good : Scene → Prop}
    (keeps : ∀ {scene next call}, Turn scene call next → Good scene → Good next) {scene : Scene}
    (good : Good scene) (calls : List Invocation) : Good (start.registry.reacted scene calls) := by
  have none : Avoided start.registry (fun _ _ => False) scene calls := fun _ _ _ excluded => excluded
  exact reactedKeeps start (fun turn _ => keeps turn) good none

theorem reactedSound (start : Scene) {scene : Scene} (sound : Sound scene)
    (calls : List Invocation) : Sound (start.registry.reacted scene calls) :=
  reactedAlways start (fun turn => turn.sound) sound calls

theorem reactedLast (start scene : Scene) (calls : List Invocation) (call : Invocation) :
    Turn (start.registry.reacted scene calls) call
      (start.registry.reacted scene (calls ++ [call])) := by
  have last : start.registry.reacted scene (calls ++ [call]) =
    start.registry.react (start.registry.reacted scene calls) call := List.foldl_append
  rw [last]
  exact reactTurn start _ call

end LiveConsole.Scene
