import LiveConsole.Proofs.Scene.Setup

/-! What the commands of the scene do to it. A command that is refused changes nothing, except the one
that moves: it reads its offsets one after another, and those axes are moved whose offsets come before
the one that is refused. -/
namespace LiveConsole

/- The object that a component was made for, under the name that it had then. -/
def Entity.owner? : Entity → Option String
  | transform owner .. | camera owner _ | light owner _ => some owner
  | _ => none

namespace Scene

def leadingNumbers : List Value → List Float
  | [] => []
  | argument :: rest =>
      match argument.float? with
      | some number => number :: leadingNumbers rest
      | none => []

def displaced (offsets : List Float) (x y z : Float) : Float × Float × Float :=
  match offsets with
  | [] => (x, y, z)
  | [dx] => (x + dx, y, z)
  | [dx, dy] => (x + dx, y + dy, z)
  | dx :: dy :: dz :: _ => (x + dx, y + dy, z + dz)

def shifted (scene : Scene) (target : Option Value) (offsets : List Float) : Scene :=
  match scene.entityOf? target with
  | some (ref, .transform owner x y z) =>
      let (x, y, z) := displaced offsets x y z
      scene.update ref (.transform owner x y z)
  | _ => scene

theorem updateSame {scene : Scene} {ref : ObjectRef} {entity : Entity}
    (stands : scene.entity? ref = some entity) : scene.update ref entity = scene := by
  obtain ⟨inside, same⟩ := List.getElem?_eq_some_iff.mp stands
  rw [update, ← same, List.set_getElem_self]

theorem entityOfTarget {scene : Scene} {target : Option Value} {ref : ObjectRef} {entity : Entity}
    (found : scene.entityOf? target = some (ref, entity)) : scene.entity? ref = some entity := by
  unfold entityOf? at found
  split at found
  · obtain ⟨other, stands, same⟩ := Option.map_eq_some_iff.mp found
    cases same
    exact stands
  · contradiction

theorem shiftedNowhere (scene : Scene) (target : Option Value) :
    scene.shifted target [] = scene := by
  unfold shifted
  split
  · rename_i found
    exact updateSame (entityOfTarget found)
  · rfl

theorem numberArgumentRead (arguments : List Value) (place : Nat) :
    (numberArgument arguments place).toOption = arguments[place]?.bind Value.float? := by
  unfold numberArgument argument
  cases arguments[place]? with
  | none => rfl
  | some value =>
    rw [Option.bind_some]
    simp only [bind, Except.bind]
    split <;> rename_i number <;> rw [number] <;> rfl

theorem leadingSome {arguments : List Value} {number : Float}
    (first : arguments[0]?.bind Value.float? = some number) :
    leadingNumbers arguments = number :: leadingNumbers arguments.tail := by
  cases arguments with
  | nil => contradiction
  | cons argument rest =>
    have isNumber : argument.float? = some number := first
    rw [leadingNumbers, isNumber, List.tail_cons]

theorem leadingNone {arguments : List Value} (first : arguments[0]?.bind Value.float? = none) :
    leadingNumbers arguments = [] := by
  cases arguments with
  | nil => rfl
  | cons argument rest =>
    have noNumber : argument.float? = none := first
    rw [leadingNumbers, noNumber]

theorem translateDisplaces (arguments : List Value) (x y z : Float) :
    (translate arguments x y z).2 = displaced (leadingNumbers arguments) x y z := by
  have first := numberArgumentRead arguments 0
  have second := numberArgumentRead arguments 1
  have third := numberArgumentRead arguments 2
  rw [← List.getElem?_tail] at second
  rw [← List.getElem?_tail, ← List.getElem?_tail] at third
  unfold translate
  cases readX : numberArgument arguments 0 with
  | error refusal =>
    rw [readX] at first
    rw [leadingNone first.symm]
    rfl
  | ok dx =>
    rw [readX] at first
    rw [leadingSome first.symm]
    dsimp only
    cases readY : numberArgument arguments 1 with
    | error refusal =>
      rw [readY] at second
      rw [leadingNone second.symm]
      rfl
    | ok dy =>
      rw [readY] at second
      rw [leadingSome second.symm]
      dsimp only
      cases readZ : numberArgument arguments 2 with
      | error refusal =>
        rw [readZ] at third
        rw [leadingNone third.symm]
        rfl
      | ok dz =>
        rw [readZ] at third
        rw [leadingSome third.symm]
        rfl

theorem moveShifts (scene : Scene) (target : Option Value) (arguments : List Value) :
    (scene.move target arguments).2 = scene.shifted target (leadingNumbers arguments) := by
  unfold move shifted
  cases scene.entityOf? target with
  | none => rfl
  | some found =>
    obtain ⟨ref, entity⟩ := found
    cases entity with
    | transform owner x y z => simp only [translateDisplaces]
    | _ => rfl

def renaming? (scene : Scene) (call : Invocation) : Option (ObjectRef × String) :=
  if call.command = "rename" then
    match scene.entityOf? call.target with
    | some (ref, .gameObject ..) =>
        (scene.textArgument call.arguments 0).toOption.map fun name => (ref, name)
    | _ => none
  else none

theorem notRenaming {scene : Scene} {call : Invocation} (other : call.command ≠ "rename") :
    scene.renaming? call = none := if_neg other

/- All that a call can change: the scene gets a new object, an object gets a name, or a component
becomes another one with the same owner. -/
inductive Turn (scene : Scene) (call : Invocation) : Scene → Prop where
  | kept (nameless : scene.renaming? call = none) : Turn scene call scene
  | spawned {name : String} (nameless : scene.renaming? call = none)
      (free : scene.named? name = none) : Turn scene call (scene.spawn name).2
  | renamed {ref : ObjectRef} {old name : String} {components : List ObjectRef}
      (names : scene.renaming? call = some (ref, name))
      (stands : scene.entity? ref = some (.gameObject old components)) :
      Turn scene call (scene.update ref (.gameObject name components))
  | adjusted {ref : ObjectRef} {before after : Entity} (owner : String)
      (nameless : scene.renaming? call = none) (stands : scene.entity? ref = some before)
      (held : before.owner? = some owner) (holds : after.owner? = some owner) :
      Turn scene call (scene.update ref after)

inductive Deed (scene : Scene) (call : Invocation) : Except Refusal Value × Scene → Prop where
  | refused (refusal : Refusal) (nameless : scene.renaming? call = none)
      (other : call.command ≠ "move") : Deed scene call (.error refusal, scene)
  | halted (refusal : Refusal) (isMove : call.command = "move") :
      Deed scene call (.error refusal, scene.shifted call.target (leadingNumbers call.arguments))
  | done (value : Value) {next : Scene} (turn : Turn scene call next) :
      Deed scene call (.ok value, next)

section
variable (scene : Scene) {call : Invocation}

theorem shiftedTurn (nameless : scene.renaming? call = none) (offsets : List Float) :
    Turn scene call (scene.shifted call.target offsets) := by
  unfold shifted
  split
  · rename_i ref owner x y z found
    exact .adjusted owner nameless (entityOfTarget found) rfl rfl
  · exact .kept nameless

theorem observingDeed (name : String) (named : call.command = name) (other : name ≠ "rename")
    (notMove : name ≠ "move") (result : Except Refusal Value) : Deed scene call (result, scene) := by
  rw [← named] at other notMove
  cases result with
  | error refusal => exact .refused refusal (notRenaming other) notMove
  | ok value => exact .done value (.kept (notRenaming other))

theorem spawnDeed (isSpawn : call.command = "spawn") :
    Deed scene call (scene.spawnNamed call.arguments) := by
  have nameless : scene.renaming? call = none := notRenaming (by rw [isSpawn]; decide)
  have notMove : call.command ≠ "move" := by rw [isSpawn]; decide
  unfold spawnNamed
  split
  · exact .refused _ nameless notMove
  · split
    · exact .refused _ nameless notMove
    · rename_i free
      rw [Bool.not_eq_true, Option.isSome_eq_false_iff, Option.isNone_iff_eq_none] at free
      exact .done _ (.spawned nameless free)

theorem renameDeed (isRename : call.command = "rename") :
    Deed scene call (scene.rename call.target call.arguments) := by
  have notMove : call.command ≠ "move" := by rw [isRename]; decide
  have names : scene.renaming? call = _ := if_pos isRename
  unfold rename
  cases found : scene.entityOf? call.target with
  | none =>
    rw [found] at names
    exact .refused _ names notMove
  | some target =>
    obtain ⟨ref, entity⟩ := target
    rw [found] at names
    cases entity with
    | gameObject old components =>
      cases read : scene.textArgument call.arguments 0 with
      | error refusal =>
        rw [read] at names
        exact .refused refusal names notMove
      | ok name =>
        rw [read] at names
        exact .done _ (.renamed names (entityOfTarget found))
    | _ => exact .refused _ names notMove

theorem zoomDeed (isZoom : call.command = "zoom") :
    Deed scene call (scene.zoom call.target call.arguments) := by
  have nameless : scene.renaming? call = none := notRenaming (by rw [isZoom]; decide)
  have notMove : call.command ≠ "move" := by rw [isZoom]; decide
  unfold zoom
  split
  · rename_i ref owner fieldOfView found
    split
    · split
      · exact .refused _ nameless notMove
      · exact .done _ (.adjusted owner nameless (entityOfTarget found) rfl rfl)
    · exact .refused _ nameless notMove
  · exact .refused _ nameless notMove

theorem moveDeed (isMove : call.command = "move") :
    Deed scene call (scene.move call.target call.arguments) := by
  have nameless : scene.renaming? call = none := notRenaming (by rw [isMove]; decide)
  have shifts := scene.moveShifts call.target call.arguments
  cases result : scene.move call.target call.arguments with
  | mk outcome next =>
    rw [result] at shifts
    cases shifts
    cases outcome with
    | error refusal => exact .halted refusal isMove
    | ok value => exact .done value (scene.shiftedTurn nameless _)

theorem dimDeed (isDim : call.command = "dim") :
    Deed scene call (scene.dim call.target call.arguments) := by
  have nameless : scene.renaming? call = none := notRenaming (by rw [isDim]; decide)
  have notMove : call.command ≠ "move" := by rw [isDim]; decide
  unfold dim
  split
  · rename_i ref owner intensity found
    split
    · exact .done _ (.adjusted owner nameless (entityOfTarget found) rfl rfl)
    · exact .refused _ nameless notMove
  · exact .refused _ nameless notMove

end

theorem deed {command : Command Scene} (member : command ∈ commands) {type : Option TypeTag}
    {handler : HostHandler Scene} (byHost : command.action = .host type handler) {call : Invocation}
    (named : call.command = command.name) (scene : Scene) :
    ∃ result, Deed scene call result ∧
      handler scene call.target call.arguments = (replyOf result.1, result.2) := by
  unfold commands at member
  simp only [List.mem_cons, List.not_mem_nil, or_false] at member
  rcases member with rfl | rfl | rfl | rfl | rfl | rfl | rfl | rfl | rfl <;> cases byHost
  · exact ⟨_, scene.observingDeed "find" named (by decide) (by decide) _, rfl⟩
  · exact ⟨_, scene.observingDeed "objects" named (by decide) (by decide) _, rfl⟩
  · exact ⟨_, scene.spawnDeed named, rfl⟩
  · exact ⟨_, scene.observingDeed "getcomponent" named (by decide) (by decide) _, rfl⟩
  · exact ⟨_, scene.observingDeed "crash" named (by decide) (by decide) _, rfl⟩
  · exact ⟨_, scene.renameDeed named, rfl⟩
  · exact ⟨_, scene.zoomDeed named, rfl⟩
  · exact ⟨_, scene.moveDeed named, rfl⟩
  · exact ⟨_, scene.dimDeed named, rfl⟩

theorem Deed.turn {scene : Scene} {call : Invocation} {result : Except Refusal Value × Scene}
    (deed : Deed scene call result) : Turn scene call result.2 := by
  cases deed with
  | refused refusal nameless other => exact .kept nameless
  | halted refusal isMove => exact scene.shiftedTurn (notRenaming (by rw [isMove]; decide)) _
  | done value turn => exact turn

theorem refusedOf {result : Except Refusal Value} {causes : List String}
    (failed : replyOf result = .failed causes) : ∃ refusal, result = .error refusal := by
  cases result with
  | ok value => contradiction
  | error refusal => exact ⟨refusal, rfl⟩

theorem onlyMovesAreHalfDone {start : Scene} {registry : Registry Scene}
    (loaded : (discover setup start).outcome = .ok registry) {command : Command Scene}
    (member : command ∈ registry.commands) {type : Option TypeTag} {handler : HostHandler Scene}
    (byHost : command.action = .host type handler) (scene : Scene) (target : Option Value)
    (arguments : List Value) {causes : List String}
    (failed : (handler scene target arguments).1 = .failed causes) :
    (command.name ≠ "move" ∨ leadingNumbers arguments = [] →
      (handler scene target arguments).2 = scene) ∧
    (command.name = "move" →
      (handler scene target arguments).2 = scene.shifted target (leadingNumbers arguments)) := by
  cases (discovered start).1.symm.trans loaded
  let call := Engine.callOf command target arguments
  have named : call.command = command.name := rfl
  obtain ⟨result, deed, ran⟩ := deed (ownCommand member byHost) byHost named scene
  have ran : handler scene target arguments = (replyOf result.1, result.2) := ran
  rw [ran] at failed ⊢
  obtain ⟨refusal, refused⟩ := refusedOf failed
  cases deed with
  | refused refusal nameless other => exact ⟨fun _ => rfl, fun isMove => absurd isMove other⟩
  | halted refusal isMove =>
    refine ⟨fun reason => ?_, fun _ => rfl⟩
    have nothing := reason.resolve_left fun other => other isMove
    exact (congrArg (scene.shifted target) nothing).trans (shiftedNowhere ..)
  | done value turn => contradiction

def playerStand : ObjectRef := ⟨7, "Transform"⟩

theorem moveRegistered : moveCommand transformTag ∈ demonstration.registry.commands :=
  List.mem_append_right _ (by simp [commands])

theorem secondOffsetIsRefused :
    (changing move demonstration (some (.object playerStand)) [.float 1.0, .null, .float 2.0]).1 =
        .failed ["argument 1 must be a number"] ∧
      (changing move demonstration (some (.object playerStand)) [.float 1.0, .null, .float 2.0]).2 =
        demonstration.update playerStand (.transform "Player" (0.0 + 1.0) 0.0 0.0) :=
  ⟨rfl, (onlyMovesAreHalfDone (discovered demonstration).1 moveRegistered rfl demonstration _ _
    rfl).2 rfl⟩

theorem refusedMoveIsHalfDone :
    ¬ ∀ command ∈ demonstration.registry.commands, ∀ type handler,
        command.action = .host type handler → ∀ scene target arguments causes,
        Engine.TargetFits types command target →
        List.Forall₂ (Engine.ArgumentFits types) command.parameters arguments →
        (handler scene target arguments).1 = .failed causes →
        (handler scene target arguments).2 = scene := by
  intro whole
  have target : Engine.TargetFits types (moveCommand transformTag) (some (.object playerStand)) :=
    ⟨_, rfl, rfl, rfl⟩
  have arguments : List.Forall₂ (Engine.ArgumentFits types) (moveCommand transformTag).parameters
      [.float 1.0, .null, .float 2.0] := .cons rfl (.cons rfl (.cons rfl .nil))
  have same := whole _ moveRegistered _ _ rfl demonstration _ _ _ target arguments rfl
  have kept := congrArg (fun scene => Host.property? scene playerStand "x") same
  have moved : (0.0 + 1.0 : Float) = 0.0 := Value.float.inj (Option.some.inj kept)
  revert moved
  decide

end Scene
end LiveConsole
