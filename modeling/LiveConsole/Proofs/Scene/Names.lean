import LiveConsole.Proofs.Keyed
import LiveConsole.Proofs.Registry.RoundTrip
import LiveConsole.Proofs.Scene.Course

/-! The names of the objects. A name stands for the first object that has it, so each object is reached
by its name as long as no two have the same one. What is spawned gets a name that is free; but an
object may be renamed to what another one is called, and no other call makes two names one. -/
namespace LiveConsole.Scene

def names (scene : Scene) : List String := scene.objects.map scene.nameOf

def TakesName (scene : Scene) (call : Invocation) : Prop :=
  ∃ ref name, scene.renaming? call = some (ref, name) ∧
    ∃ other ∈ scene.objects, other.id ≠ ref.id ∧ scene.nameOf other = name

theorem untakenNameless {scene : Scene} {call : Invocation}
    (nameless : scene.renaming? call = none) : ¬ scene.TakesName call := by
  rintro ⟨ref, name, names, -⟩
  rw [nameless] at names
  contradiction

section
variable {scene next : Scene} {call : Invocation}

theorem spawnedNames (sound : Sound scene) (name : String) :
    (scene.spawn name).2.names = scene.names ++ [name] := by
  rw [names, spawnedObjects, List.map_append, List.map_singleton, names]
  congr 1
  · refine List.map_congr_left fun object member => ?_
    obtain ⟨components, stands⟩ := sound.stands member
    exact (nameStands (spawnKeeps stands name)).1
  · rw [(nameStands (spawnedObject scene name)).1]

theorem freeName {name : String} (free : scene.named? name = none) : name ∉ scene.names := by
  intro taken
  obtain ⟨object, member, named⟩ := List.mem_map.mp taken
  have other := List.find?_eq_none.mp free object member
  rw [named] at other
  simp at other

theorem renamedNames (sound : Sound scene) (distinct : scene.names.Nodup) {ref : ObjectRef}
    {name : String} (names : scene.renaming? call = some (ref, name)) :
    (scene.objects.map (scene.nameAfter call)).Nodup ↔ ¬ scene.TakesName call := by
  have kept := List.inj_on_of_nodup_map distinct
  rw [List.nodup_map_iff_inj_on sound.apart]
  constructor
  · rintro apart ⟨other, given, namesToo, taken, member, differs, same⟩
    rw [names] at namesToo
    cases namesToo
    obtain ⟨old, components, stands⟩ := renamingStands names
    have target := sound.listed ref old components stands
    have alike : scene.nameAfter call taken = scene.nameAfter call ⟨ref.id, "GameObject"⟩ := by
      rw [nameGiven names, nameGiven names, if_neg differs, if_pos rfl, same]
    have one : taken = ⟨ref.id, "GameObject"⟩ := apart taken member _ target alike
    rw [one] at differs
    exact differs rfl
  · intro untaken a memberA b memberB alike
    rw [nameGiven names, nameGiven names] at alike
    have elsewhere : ∀ other ∈ scene.objects, other.id ≠ ref.id → scene.nameOf other ≠ name :=
      fun other member differs same => untaken ⟨ref, name, names, other, member, differs, same⟩
    by_cases isA : a.id = ref.id <;> by_cases isB : b.id = ref.id
    · exact sound.alone memberA memberB (isA.trans isB.symm)
    · rw [if_pos isA, if_neg isB] at alike
      exact absurd alike.symm (elsewhere b memberB isB)
    · rw [if_neg isA, if_pos isB] at alike
      exact absurd alike (elsewhere a memberA isA)
    · rw [if_neg isA, if_neg isB] at alike
      exact kept memberA memberB alike

theorem Turn.names (turn : Turn scene call next) (sound : Sound scene)
    (distinct : scene.names.Nodup) : next.names.Nodup ↔ ¬ scene.TakesName call := by
  rcases turn.objects with same | ⟨nameless, name, free, rfl⟩
  · have after : next.names = scene.objects.map (scene.nameAfter call) := by
      rw [Scene.names, same]
      exact List.map_congr_left fun object member => turn.name sound member
    rw [after]
    cases names : scene.renaming? call with
    | none =>
      have untouched : scene.nameAfter call = scene.nameOf := funext (nameUntouched names)
      rw [untouched]
      exact iff_of_true distinct (untakenNameless names)
    | some given => exact renamedNames sound distinct names
  · rw [spawnedNames sound]
    refine iff_of_true (List.nodup_append.mpr ⟨distinct, List.nodup_singleton _, ?_⟩)
      (untakenNameless nameless)
    intro taken member fresh isFresh same
    rw [same, List.mem_singleton.mp isFresh] at member
    exact freeName free member

theorem distinctIffNamed (sound : Sound scene) :
    scene.names.Nodup ↔ ∀ object ∈ scene.objects, ∃ name, scene.named? name = some object := by
  constructor
  · intro distinct object member
    exact ⟨_, (Keyed.underIff scene.nameOf distinct _ object).mpr ⟨member, rfl⟩⟩
  · intro named
    refine (List.nodup_map_iff_inj_on sound.apart).mpr fun a memberA b memberB alike => ?_
    obtain ⟨name, found⟩ := named a memberA
    obtain ⟨other, foundToo⟩ := named b memberB
    have isName : scene.nameOf a = name := by simpa using List.find?_some found
    have isOther : scene.nameOf b = other := by simpa using List.find?_some foundToo
    rw [← isName, alike, isOther, foundToo] at found
    exact (Option.some.inj found).symm

end

theorem convertsNamed {start scene : Scene} {registry : Registry Scene}
    (converters : registry.converters = start.registry.converters)
    (types : registry.types = start.registry.types) (name : String) (object : ObjectRef) :
    registry.convert scene (.string name) objectTag = (.object object, scene) ↔
      scene.named? name = some object := by
  have picked : registry.converterFor? objectTag .string = some (objectOfName objectTag) := by
    rw [Registry.converterFor?, converters, types]
    rfl
  have tagged : registry.types.tagOf? (.string name) = some .string := rfl
  have other : TypeTag.string ≠ objectTag := by decide
  have ran : (objectOfName objectTag).run scene (.string name) objectTag registry.types =
    ((scene.named? name).map .object, scene) := rfl
  simp only [Registry.convert, tagged, if_neg other, picked, ran]
  cases scene.named? name <;> simp

theorem reactedNames (start : Scene) {scene : Scene} (sound : Sound scene)
    (distinct : scene.names.Nodup) {calls : List Invocation}
    (untaken : Avoided start.registry TakesName scene calls) :
    (start.registry.reacted scene calls).names.Nodup := by
  have keeps {scene next : Scene} {call : Invocation} (turn : Turn scene call next)
      (untaken : ¬ scene.TakesName call) (good : Sound scene ∧ scene.names.Nodup) :
      Sound next ∧ next.names.Nodup :=
    ⟨turn.sound good.1, (turn.names good.1 good.2).mpr untaken⟩
  exact (reactedKeeps start keeps ⟨sound, distinct⟩ untaken).2

structure NamesKept (engine last : Engine Scene) (calls : List Invocation) : Prop where
  played : last.host = engine.registry.reacted engine.host calls
  untaken : Avoided engine.registry TakesName engine.host calls → last.host.names.Nodup
  taken : ∀ earlier call, earlier ++ [call] <+: calls →
    (engine.registry.reacted engine.host earlier).names.Nodup →
    ((engine.registry.reacted engine.host (earlier ++ [call])).names.Nodup ↔
      ¬ (engine.registry.reacted engine.host earlier).TakesName call)
  typed : last.registry.types.lookup? "GameObject" = some objectTag
  reached : last.host.names.Nodup ↔ ∀ object ∈ last.host.objects, ∃ name,
    last.registry.convert last.host (.string name) objectTag = (.object object, last.host)

theorem onlyRenamingTakesNames (settings : Settings) :
    ∃ engine, (CommandLine.start settings).1 = .ok engine ∧ engine.host = demonstration ∧
      ∀ lines, NamesKept engine (engine.submitAll lines).2 (engine.submitAll lines).1 := by
  let engine : Engine Scene := ⟨demonstration.registry, settings, demonstration⟩
  refine ⟨engine, rfl, rfl, fun lines => ?_⟩
  have played := engine.submitAllReacts (onlyLooks demonstration) lines
  have persists := engine.submitAllPersists lines
  have distinct : demonstration.names.Nodup := by decide
  constructor
  · exact played
  · intro untaken
    rw [played]
    exact reactedNames demonstration demonstrationSound distinct untaken
  · intro earlier call within apart
    have sound := reactedSound demonstration demonstrationSound earlier
    exact (reactedLast demonstration demonstration earlier call).names sound apart
  · rw [persists.types]
    rfl
  · have sound := reactedSound demonstration demonstrationSound (engine.submitAll lines).1
    simp only [convertsNamed persists.converters persists.types, played]
    exact distinctIffNamed sound

def twoPlayers : Scene :=
  (Engine.submitAll ⟨demonstration.registry, .standard, demonstration⟩
    ["{find GameObject Sun} {rename Player}"]).2.host

theorem sunTakesTheNameOfThePlayer :
    ¬ ∀ settings engine, (CommandLine.start settings).1 = .ok engine → ∀ lines,
      (engine.submitAll lines).2.host.names.Nodup := by
  intro whole
  have distinct : twoPlayers.names.Nodup := whole .standard _ rfl _
  have names : twoPlayers.names = ["Main Camera", "Player", "Player"] := by decide +kernel
  rw [names] at distinct
  revert distinct
  decide

end LiveConsole.Scene
