import LiveConsole.Value

/-! A scene to try a console on. Its objects have a name and components: where they stand, a
camera, a light, or anything that is described from outside. Every entity keeps its identity while
its state changes. -/
namespace LiveConsole

structure Described where
  className : String
  displayName : String
  properties : List (String × Value)
  propertyNames : List String
  elements : List Value

inductive Entity where
  | gameObject (name : String) (components : List ObjectRef)
  | transform (owner : String) (x y z : Float)
  | camera (owner : String) (fieldOfView : Float)
  | light (owner : String) (intensity : Float)
  | described (object : Described)

namespace Entity

def className : Entity → String
  | gameObject .. => "GameObject"
  | transform .. => "Transform"
  | camera .. => "Camera"
  | light .. => "Light"
  | described object => object.className

def displayName : Entity → String
  | gameObject name _ => name
  | transform owner .. => owner ++ " (Transform)"
  | camera owner _ => owner ++ " (Camera)"
  | light owner _ => owner ++ " (Light)"
  | described object => object.displayName

def property? (entity : Entity) (name : String) : Option Value :=
  match entity with
  | gameObject ownName components =>
      if name = "name" then some (.string ownName)
      else if name = "components" then some (.list (components.map .object))
      else none
  | transform owner x y z =>
      if name = "owner" then some (.string owner)
      else if name = "position" then some (.list [.float x, .float y, .float z])
      else if name = "x" then some (.float x)
      else if name = "y" then some (.float y)
      else if name = "z" then some (.float z)
      else none
  | camera owner fieldOfView =>
      if name = "owner" then some (.string owner)
      else if name = "fov" then some (.float fieldOfView)
      else none
  | light owner intensity =>
      if name = "owner" then some (.string owner)
      else if name = "intensity" then some (.float intensity)
      else none
  | described object => object.properties.lookup name

def propertyNames : Entity → List String
  | gameObject .. => ["name", "components"]
  | transform .. => ["owner", "position"]
  | camera .. => ["owner", "fov"]
  | light .. => ["owner", "intensity"]
  | described object => object.propertyNames

def elements : Entity → List Value
  | gameObject _ components => components.map .object
  | described object => object.elements
  | _ => []

end Entity

structure Scene where
  entities : List Entity
  objects : List ObjectRef

namespace Scene

def empty : Scene := ⟨[], []⟩

def entity? (scene : Scene) (ref : ObjectRef) : Option Entity := scene.entities[ref.id]?

def create (scene : Scene) (entity : Entity) : ObjectRef × Scene :=
  (⟨scene.entities.length, entity.className⟩,
    { scene with entities := scene.entities ++ [entity] })

def update (scene : Scene) (ref : ObjectRef) (entity : Entity) : Scene :=
  { scene with entities := scene.entities.set ref.id entity }

def components (scene : Scene) (ref : ObjectRef) : List ObjectRef :=
  match scene.entity? ref with
  | some (.gameObject _ components) => components
  | _ => []

def nameOf (scene : Scene) (ref : ObjectRef) : String :=
  match scene.entity? ref with
  | some (.gameObject name _) => name
  | _ => ""

def attach (scene : Scene) (ref : ObjectRef) (component : Entity) : Scene :=
  match scene.entity? ref with
  | some (.gameObject name components) =>
      let (added, scene) := scene.create component
      scene.update ref (.gameObject name (components ++ [added]))
  | _ => scene

def spawn (scene : Scene) (name : String) : ObjectRef × Scene :=
  let (object, scene) := scene.create (.gameObject name [])
  let scene := scene.attach object (.transform name 0.0 0.0 0.0)
  (object, { scene with objects := scene.objects ++ [object] })

def named? (scene : Scene) (name : String) : Option ObjectRef :=
  scene.objects.find? fun object => scene.nameOf object == name

def everything (scene : Scene) : List (String × ObjectRef) :=
  scene.objects.flatMap fun object =>
    (scene.components object ++ [object]).map fun ref => (scene.nameOf object, ref)

def demonstration : Scene :=
  let (camera, scene) := empty.spawn "Main Camera"
  let scene := scene.attach camera (.camera "Main Camera" 60.0)
  let (sun, scene) := scene.spawn "Sun"
  let scene := scene.attach sun (.light "Sun" 1.0)
  (scene.spawn "Player").2

instance : Host Scene where
  displayName scene ref := match scene.entity? ref with
    | some entity => entity.displayName
    | none => ""
  property? scene ref name := (scene.entity? ref).bind fun entity => entity.property? name
  propertyNames scene ref := match scene.entity? ref with
    | some entity => entity.propertyNames
    | none => []
  element? scene ref index := do
    let entity ← scene.entity? ref
    let place ← index.toInt.toNat?
    entity.elements[place]?

end Scene
end LiveConsole
