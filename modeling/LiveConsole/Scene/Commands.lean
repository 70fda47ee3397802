import LiveConsole.Discovery
import LiveConsole.Scene.Basic

/-! The commands of the scene, with its types, a conversion from names to objects, a description
of objects, and the main camera as a global. -/
namespace LiveConsole.Scene

inductive Refusal where
  | missingArgument (place : Nat)
  | notNumber (place : Nat)
  | notType
  | notObject
  | wrongTarget (expected : String)
  | nameTaken (name : String)
  | factorNotPositive
  | crash
  deriving DecidableEq, Repr

def Refusal.message : Refusal → String
  | missingArgument place => "missing argument " ++ toString place
  | notNumber place => "argument " ++ toString place ++ " must be a number"
  | notType => "expected a type"
  | notObject => "expected an object"
  | wrongTarget expected => "target is not a " ++ expected
  | nameTaken name => "an object named '" ++ name ++ "' already exists"
  | factorNotPositive => "zoom factor must be positive"
  | crash => "crash requested"

def replyOf : Except Refusal Value → Reply
  | .ok value => .value value
  | .error refusal => .failed [refusal.message]

def argument (arguments : List Value) (place : Nat) : Except Refusal Value :=
  match arguments[place]? with
  | some value => .ok value
  | none => .error (.missingArgument place)

def textArgument (scene : Scene) (arguments : List Value) (place : Nat) : Except Refusal String :=
  (argument arguments place).map fun value => value.display scene

def numberArgument (arguments : List Value) (place : Nat) : Except Refusal Float := do
  match (← argument arguments place).float? with
  | some number => .ok number
  | none => .error (.notNumber place)

def typeArgument (arguments : List Value) (place : Nat) : Except Refusal TypeTag := do
  match (← argument arguments place).type? with
  | some ref => .ok ref.tag
  | none => .error .notType

def entityOf? (scene : Scene) : Option Value → Option (ObjectRef × Entity)
  | some (.object ref) => (scene.entity? ref).map fun entity => (ref, entity)
  | _ => none

/- An object is of a type by its class, as the table knew it when the commands were made. -/
def isOfType (types : TypeTable) (wanted : TypeTag) (ref : ObjectRef) : Bool :=
  match types.tagOf? (.object ref) with
  | some tag => types.isAssignable wanted tag
  | none => false

def orNull : Option ObjectRef → Value
  | some ref => .object ref
  | none => .null

def find (types : TypeTable) (scene : Scene) (arguments : List Value) : Except Refusal Value := do
  let wanted ← typeArgument arguments 0
  let pattern ← scene.textArgument arguments 1
  let found := scene.everything.find? fun (name, ref) =>
    isOfType types wanted ref && Text.containsInOrder name pattern
  return orNull (found.map Prod.snd)

def spawnNamed (scene : Scene) (arguments : List Value) : Except Refusal Value × Scene :=
  match scene.textArgument arguments 0 with
  | .error refusal => (.error refusal, scene)
  | .ok name =>
      if (scene.named? name).isSome then (.error (.nameTaken name), scene)
      else
        let (object, scene) := scene.spawn name
        (.ok (.object object), scene)

def getComponent (types : TypeTable) (scene : Scene) (arguments : List Value) :
    Except Refusal Value := do
  match scene.entityOf? (some (← argument arguments 0)) with
  | some (_, .gameObject _ components) =>
      let wanted ← typeArgument arguments 1
      return orNull (components.find? fun ref => isOfType types wanted ref)
  | _ => .error .notObject

def rename (scene : Scene) (target : Option Value) (arguments : List Value) :
    Except Refusal Value × Scene :=
  match scene.entityOf? target with
  | some (ref, .gameObject _ components) =>
      match scene.textArgument arguments 0 with
      | .ok name => (.ok (.object ref), scene.update ref (.gameObject name components))
      | .error refusal => (.error refusal, scene)
  | _ => (.error (.wrongTarget "GameObject"), scene)

def zoom (scene : Scene) (target : Option Value) (arguments : List Value) :
    Except Refusal Value × Scene :=
  match scene.entityOf? target with
  | some (ref, .camera owner fieldOfView) =>
      match numberArgument arguments 0 with
      | .ok factor =>
          if factor <= 0.0 then (.error .factorNotPositive, scene)
          else
            let narrowed := fieldOfView / factor
            (.ok (.float narrowed), scene.update ref (.camera owner narrowed))
      | .error refusal => (.error refusal, scene)
  | _ => (.error (.wrongTarget "Camera"), scene)

/- Each axis moves as its offset is read, so an offset that is refused leaves the axes before it
moved. -/
def translate (arguments : List Value) (x y z : Float) :
    Except Refusal Unit × Float × Float × Float :=
  match numberArgument arguments 0 with
  | .error refusal => (.error refusal, x, y, z)
  | .ok dx =>
      match numberArgument arguments 1 with
      | .error refusal => (.error refusal, x + dx, y, z)
      | .ok dy =>
          match numberArgument arguments 2 with
          | .error refusal => (.error refusal, x + dx, y + dy, z)
          | .ok dz => (.ok (), x + dx, y + dy, z + dz)

def move (scene : Scene) (target : Option Value) (arguments : List Value) :
    Except Refusal Value × Scene :=
  match scene.entityOf? target with
  | some (ref, .transform owner x y z) =>
      let (moved, x, y, z) := translate arguments x y z
      (moved.map fun () => .list [.float x, .float y, .float z],
        scene.update ref (.transform owner x y z))
  | _ => (.error (.wrongTarget "Transform"), scene)

def clampIntensity (intensity : Float) : Float :=
  if intensity < 0.0 then 0.0 else if 10.0 < intensity then 10.0 else intensity

def dim (scene : Scene) (target : Option Value) (arguments : List Value) :
    Except Refusal Value × Scene :=
  match scene.entityOf? target with
  | some (ref, .light owner intensity) =>
      match numberArgument arguments 0 with
      | .ok amount =>
          let dimmed := clampIntensity (intensity * amount)
          (.ok (.float dimmed), scene.update ref (.light owner dimmed))
      | .error refusal => (.error refusal, scene)
  | _ => (.error (.wrongTarget "Light"), scene)

def observing (act : Scene → List Value → Except Refusal Value) : HostHandler Scene :=
  fun scene _ arguments => (replyOf (act scene arguments), scene)

def changing (act : Scene → Option Value → List Value → Except Refusal Value × Scene) :
    HostHandler Scene :=
  fun scene target arguments =>
    let (result, scene) := act scene target arguments
    (replyOf result, scene)

def findCommand (types : TypeTable) : Command Scene :=
  ⟨"find", "Find an object or component by type and name", false,
    [⟨"type", .type⟩, ⟨"name", .string⟩], .host none (observing (find types))⟩

def objectsCommand : Command Scene :=
  ⟨"objects", "List every object in the scene", false, [],
    .host none (observing fun scene _ => .ok (.list (scene.objects.map .object)))⟩

def spawnCommand : Command Scene :=
  ⟨"spawn", "Create an empty object", false, [⟨"name", .string⟩],
    .host none (changing fun scene _ arguments => scene.spawnNamed arguments)⟩

def getComponentCommand (types : TypeTable) (gameObject : TypeTag) : Command Scene :=
  ⟨"getcomponent", "Get an object's first component of a type", false,
    [⟨"object", gameObject⟩, ⟨"type", .type⟩], .host none (observing (getComponent types))⟩

def crashCommand : Command Scene :=
  ⟨"crash", "Always fails; the error is logged and the result is null", true, [],
    .host none (observing fun _ _ => .error .crash)⟩

def renameCommand (gameObject : TypeTag) : Command Scene :=
  ⟨"rename", "Rename an object", false, [⟨"name", .string⟩],
    .host (some gameObject) (changing rename)⟩

def zoomCommand (camera : TypeTag) : Command Scene :=
  ⟨"zoom", "Divide the field of view by a factor", false, [⟨"factor", .float⟩],
    .host (some camera) (changing zoom)⟩

def moveCommand (transform : TypeTag) : Command Scene :=
  ⟨"move", "Translate by an offset", false, [⟨"x", .float⟩, ⟨"y", .float⟩, ⟨"z", .float⟩],
    .host (some transform) (changing move)⟩

def dimCommand (light : TypeTag) : Command Scene :=
  ⟨"dim", "Scale a light's intensity", false, [⟨"amount", .float⟩],
    .host (some light) (changing dim)⟩

def objectOfName (gameObject : TypeTag) : Converter Scene :=
  ⟨gameObject, .string, false, fun scene value _ _ =>
    (value.text?.bind fun name => (scene.named? name).map .object, scene)⟩

def componentLine (types : TypeTable) (place : Nat) (component : ObjectRef) : String :=
  let kind := match types.lookup? component.className with
    | some tag => types.name tag
    | none => "object"
  "  [" ++ toString place ++ "] " ++ kind

def objectPresenter (gameObject : TypeTag) : Presenter Scene :=
  ⟨gameObject, fun scene value types =>
    (match scene.entityOf? (some value) with
      | some (_, .gameObject name components) =>
          (name ++ " (GameObject)") :: components.mapIdx (componentLine types)
      | _ => [], scene)⟩

def mainCamera (scene : Scene) : Value :=
  orNull <| (scene.named? "Main Camera").bind fun object =>
    (scene.components object).find? fun component => component.className == "Camera"

def setup : Setup Scene Unit := do
  let gameObject ← Setup.type "GameObject" none
  let _ ← Setup.type "Component" none
  let transform ← Setup.type "Transform" (some "Component")
  let camera ← Setup.type "Camera" (some "Component")
  let light ← Setup.type "Light" (some "Component")
  let types := (← Setup.registry).types
  Setup.command (findCommand types)
  Setup.command objectsCommand
  Setup.command spawnCommand
  Setup.command (getComponentCommand types gameObject)
  Setup.command crashCommand
  Setup.command (renameCommand gameObject)
  Setup.command (zoomCommand camera)
  Setup.command (moveCommand transform)
  Setup.command (dimCommand light)
  Setup.converter (objectOfName gameObject)
  Setup.presenter (objectPresenter gameObject)
  Setup.global "main" (mainCamera (← Setup.host))

end LiveConsole.Scene
