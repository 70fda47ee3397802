import LiveConsole.Proofs.Scene.Course

/-! The owners of components. What is made for an object keeps the name that the object has then. So
its owner is the name that the object came with, and it is out of step with the object from when that
is renamed until it gets the same name again. -/
namespace LiveConsole

theorem Entity.ownerShown {entity : Entity} {owner : String} (owned : entity.owner? = some owner) :
    entity.property? "owner" = some (.string owner) ∧
      entity.displayName = owner ++ " (" ++ entity.className ++ ")" := by
  cases entity with
  | gameObject name components => contradiction
  | described object => contradiction
  | _ =>
    cases owned
    refine ⟨rfl, ?_⟩
    rw [String.append_assoc, String.append_assoc]
    rfl

namespace Scene

def InStep (scene : Scene) : Prop :=
  ∀ object ∈ scene.objects, ∀ component ∈ scene.components object,
    Host.property? scene component "owner" = Host.property? scene object "name"

def OwnedBy (scene : Scene) (object : ObjectRef) (name : String) : Prop :=
  ∀ component ∈ scene.components object, scene.ownerOf? component = some name

/- The name of an object when it first was among the objects. -/
def firstName (registry : Registry Scene) (object : ObjectRef) (scene : Scene) :
    List Invocation → String
  | [] => scene.nameOf object
  | call :: rest =>
      if object ∈ scene.objects then scene.nameOf object
      else firstName registry object (registry.react scene call) rest

def ChangesName (scene : Scene) (call : Invocation) : Prop :=
  ∃ ref name, scene.renaming? call = some (ref, name) ∧ scene.nameOf ref ≠ name

section
variable {scene next : Scene} {call : Invocation} {object component : ObjectRef}

theorem ownerShown {owner : String} (owned : scene.ownerOf? component = some owner) :
    Host.property? scene component "owner" = some (.string owner) ∧
      ∃ kind, Host.displayName scene component = owner ++ " (" ++ kind ++ ")" := by
  obtain ⟨entity, stands, named⟩ := Option.bind_eq_some_iff.mp owned
  obtain ⟨property, display⟩ := Entity.ownerShown named
  refine ⟨Option.bind_eq_some_iff.mpr ⟨entity, stands, property⟩, entity.className, ?_⟩
  rw [← display]
  simp only [Host.displayName, stands]

theorem Sound.nameShown (sound : Sound scene) (member : object ∈ scene.objects) :
    Host.property? scene object "name" = some (.string (scene.nameOf object)) := by
  obtain ⟨components, stands⟩ := sound.stands member
  exact Option.bind_eq_some_iff.mpr ⟨_, stands, rfl⟩

theorem Sound.inStepIff (sound : Sound scene) {named : ObjectRef → String}
    (owned : ∀ object ∈ scene.objects, scene.OwnedBy object (named object)) :
    scene.InStep ↔ ∀ object ∈ scene.objects, scene.nameOf object = named object := by
  constructor
  · intro inStep object member
    obtain ⟨-, name, components, stands, filled⟩ := sound.objects object member
    obtain ⟨component, inside⟩ := List.exists_mem_of_ne_nil components filled
    rw [← (nameStands stands).2] at inside
    have same := inStep object member component inside
    rw [(ownerShown (owned object member component inside)).1, sound.nameShown member] at same
    exact (Value.string.inj (Option.some.inj same)).symm
  · intro same object member component inside
    rw [(ownerShown (owned object member component inside)).1, sound.nameShown member,
      same object member]

theorem Turn.ownedBy (turn : Turn scene call next) (sound : Sound scene)
    (member : object ∈ scene.objects) {name : String} (owned : scene.OwnedBy object name) :
    next.OwnedBy object name := by
  obtain ⟨components, stands⟩ := sound.stands member
  intro component inside
  rw [(nameStands (turn.object stands)).2, ← (nameStands stands).2] at inside
  exact turn.owner (owned component inside)

theorem Turn.member (turn : Turn scene call next) (member : object ∈ scene.objects) :
    object ∈ next.objects := by
  rcases turn.objects with same | ⟨-, name, -, rfl⟩
  · rwa [same]
  · rw [spawnedObjects]
    exact List.mem_append_left _ member

theorem Turn.newcomer (turn : Turn scene call next) (new : object ∉ scene.objects)
    (member : object ∈ next.objects) : next.OwnedBy object (next.nameOf object) := by
  rcases turn.objects with same | ⟨-, name, -, rfl⟩
  · rw [same] at member
    exact absurd member new
  · rw [spawnedObjects] at member
    cases List.mem_singleton.mp ((List.mem_append.mp member).resolve_left new)
    have stands := nameStands (spawnedObject scene name)
    intro component inside
    rw [stands.2] at inside
    cases List.mem_singleton.mp inside
    rw [stands.1]
    exact spawnedOwner scene name

theorem unchangedName (unchanged : ¬ scene.ChangesName call) (object : ObjectRef) :
    scene.nameAfter call object = scene.nameOf object := by
  cases names : scene.renaming? call with
  | none => exact nameUntouched names object
  | some given =>
    obtain ⟨ref, name⟩ := given
    rw [nameGiven names]
    split
    · rename_i same
      by_contra differs
      refine unchanged ⟨ref, name, names, fun former => differs ?_⟩
      rw [← former, nameOf, nameOf, entity?, entity?, same]
    · rfl

def Owned (scene : Scene) : Prop :=
  ∀ object ∈ scene.objects, scene.OwnedBy object (scene.nameOf object)

theorem Turn.owned (turn : Turn scene call next) (sound : Sound scene)
    (unchanged : ¬ scene.ChangesName call) (owned : scene.Owned) : next.Owned := by
  intro object member
  by_cases old : object ∈ scene.objects
  · rw [turn.name sound old, unchangedName unchanged]
    exact turn.ownedBy sound old (owned object old)
  · exact turn.newcomer old member

end

section
variable (start : Scene) {scene : Scene} {calls : List Invocation} {object : ObjectRef}

theorem reactedOwnedBy (sound : Sound scene) (member : object ∈ scene.objects) {name : String}
    (owned : scene.OwnedBy object name) (calls : List Invocation) :
    (start.registry.reacted scene calls).OwnedBy object name := by
  have keeps {scene next : Scene} {call : Invocation} (turn : Turn scene call next)
      (good : Sound scene ∧ object ∈ scene.objects ∧ scene.OwnedBy object name) :
      Sound next ∧ object ∈ next.objects ∧ next.OwnedBy object name := by
    obtain ⟨sound, member, owned⟩ := good
    exact ⟨turn.sound sound, turn.member member, turn.ownedBy sound member owned⟩
  exact (reactedAlways start keeps ⟨sound, member, owned⟩ calls).2.2

theorem firstNameOwns (sound : Sound scene)
    (owned : object ∈ scene.objects → scene.OwnedBy object (scene.nameOf object))
    (member : object ∈ (start.registry.reacted scene calls).objects) :
    (start.registry.reacted scene calls).OwnedBy object
      (firstName start.registry object scene calls) := by
  induction calls generalizing scene with
  | nil => exact owned member
  | cons call rest ih =>
    have turn := reactTurn start scene call
    unfold firstName
    split
    · rename_i old
      exact reactedOwnedBy start sound old (owned old) (call :: rest)
    · rename_i new
      exact ih (turn.sound sound) (turn.newcomer new) member

theorem reactedOwned (sound : Sound scene) (owned : scene.Owned)
    (unchanged : Avoided start.registry ChangesName scene calls) :
    (start.registry.reacted scene calls).Owned := by
  have keeps {scene next : Scene} {call : Invocation} (turn : Turn scene call next)
      (unchanged : ¬ scene.ChangesName call) (good : Sound scene ∧ scene.Owned) :
      Sound next ∧ next.Owned :=
    ⟨turn.sound good.1, turn.owned good.1 unchanged good.2⟩
  exact (reactedKeeps start keeps ⟨sound, owned⟩ unchanged).2

end

theorem demonstrationOwned : demonstration.Owned := by
  unfold Owned OwnedBy
  decide

structure OwnersKept (engine last : Engine Scene) (calls : List Invocation) : Prop where
  played : last.host = engine.registry.reacted engine.host calls
  first : ∀ object ∈ last.host.objects, ∀ component ∈ last.host.components object,
    Host.property? last.host component "owner" =
        some (.string (firstName engine.registry object engine.host calls)) ∧
      ∃ kind, Host.displayName last.host component =
        firstName engine.registry object engine.host calls ++ " (" ++ kind ++ ")"
  inStep : last.host.InStep ↔ ∀ object ∈ last.host.objects,
    last.host.nameOf object = firstName engine.registry object engine.host calls
  unchanged : Avoided engine.registry ChangesName engine.host calls → last.host.InStep

theorem ownersAreFirstNames (settings : Settings) :
    ∃ engine, (CommandLine.start settings).1 = .ok engine ∧ engine.host = demonstration ∧
      ∀ lines, OwnersKept engine (engine.submitAll lines).2 (engine.submitAll lines).1 := by
  let engine : Engine Scene := ⟨demonstration.registry, settings, demonstration⟩
  refine ⟨engine, rfl, rfl, fun lines => ?_⟩
  have played := engine.submitAllReacts (onlyLooks demonstration) lines
  have sound : Sound (engine.submitAll lines).2.host := by
    rw [played]
    exact reactedSound demonstration demonstrationSound _
  have owned : ∀ object ∈ (engine.submitAll lines).2.host.objects,
      (engine.submitAll lines).2.host.OwnedBy object
        (firstName engine.registry object engine.host (engine.submitAll lines).1) := by
    rw [played]
    exact fun object => firstNameOwns demonstration demonstrationSound (demonstrationOwned object)
  constructor
  · exact played
  · exact fun object member component inside => ownerShown (owned object member component inside)
  · exact sound.inStepIff owned
  · intro unchanged
    have named := reactedOwned demonstration demonstrationSound demonstrationOwned unchanged
    rw [← played] at named
    exact (sound.inStepIff named).mpr fun object member => rfl

def moonlit : Scene :=
  (Engine.submitAll ⟨demonstration.registry, .standard, demonstration⟩
    ["{find GameObject Sun} {rename Moon}"]).2.host

theorem lightOfTheMoonIsTheSuns :
    ¬ ∀ settings engine, (CommandLine.start settings).1 = .ok engine → ∀ lines,
      (engine.submitAll lines).2.host.InStep := by
  intro whole
  have inStep : moonlit.InStep := whole .standard _ rfl _
  have owner : (Host.property? moonlit ⟨5, "Light"⟩ "owner").bind Value.text? = some "Sun" := by
    decide +kernel
  have name : (Host.property? moonlit ⟨3, "GameObject"⟩ "name").bind Value.text? = some "Moon" := by
    decide +kernel
  have member : ⟨3, "GameObject"⟩ ∈ moonlit.objects := by decide +kernel
  have inside : ⟨5, "Light"⟩ ∈ moonlit.components ⟨3, "GameObject"⟩ := by decide +kernel
  rw [inStep _ member _ inside, name] at owner
  contradiction

end Scene
end LiveConsole
