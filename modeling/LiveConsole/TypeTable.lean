/-! The tree of console types. A type has one parent, the root is `object`, and each entry keeps
its whole line of ancestors, itself first. A type is found by a pattern whose characters occur in
its name in order, with any others between them. -/
namespace LiveConsole

def Text.containsInOrder (text pattern : String) : Bool :=
  pattern.toList.isSublist text.toList

theorem Text.containsInOrderIff (text pattern : String) :
    containsInOrder text pattern = true ↔ pattern.toList.Sublist text.toList := by
  simp [containsInOrder]

structure TypeTag where
  index : Nat
  deriving DecidableEq, Repr

namespace TypeTag

def object : TypeTag := ⟨0⟩
def bool : TypeTag := ⟨1⟩
def int : TypeTag := ⟨2⟩
def float : TypeTag := ⟨3⟩
def string : TypeTag := ⟨4⟩
def list : TypeTag := ⟨5⟩
def type : TypeTag := ⟨6⟩

end TypeTag

/- A type as a value: its tag and the name it had when the value was made. -/
structure TypeRef where
  tag : TypeTag
  name : String
  deriving DecidableEq, Repr

structure TypeEntry where
  name : String
  lineage : List TypeTag
  deriving DecidableEq, Repr

structure TypeTable where
  entries : List TypeEntry
  named : List (String × TypeTag)
  deriving DecidableEq, Repr

inductive TypeError where
  | duplicate (name : String)
  | unknownParent (parent : TypeTag)
  deriving DecidableEq, Repr

namespace TypeTable

def builtin : TypeTable where
  entries := [⟨"object", [.object]⟩, ⟨"bool", [.bool, .object]⟩, ⟨"int", [.int, .object]⟩,
    ⟨"float", [.float, .object]⟩, ⟨"string", [.string, .object]⟩, ⟨"list", [.list, .object]⟩,
    ⟨"type", [.type, .object]⟩]
  named := [("object", .object), ("bool", .bool), ("int", .int), ("float", .float),
    ("string", .string), ("list", .list), ("type", .type)]

def size (table : TypeTable) : Nat := table.entries.length

def entry? (table : TypeTable) (tag : TypeTag) : Option TypeEntry := table.entries[tag.index]?

def lookup? (table : TypeTable) (name : String) : Option TypeTag :=
  table.named.lookup name

def name (table : TypeTable) (tag : TypeTag) : String :=
  match table.entry? tag with
  | some entry => entry.name
  | none => "unknown"

def ref (table : TypeTable) (tag : TypeTag) : TypeRef := ⟨tag, table.name tag⟩

def lineage (table : TypeTable) (tag : TypeTag) : List TypeTag :=
  match table.entry? tag with
  | some entry => entry.lineage
  | none => []

def refs (table : TypeTable) : List TypeRef :=
  (List.range table.size).map fun index => table.ref ⟨index⟩

def register (table : TypeTable) (name : String) (parent : TypeTag) :
    Except TypeError (TypeTable × TypeTag) :=
  if (table.lookup? name).isSome then .error (.duplicate name)
  else match table.entry? parent with
    | none => .error (.unknownParent parent)
    | some above =>
        let tag : TypeTag := ⟨table.size⟩
        .ok (⟨table.entries ++ [⟨name, tag :: above.lineage⟩], (name, tag) :: table.named⟩, tag)

def isAssignable (table : TypeTable) (target actual : TypeTag) : Bool :=
  (table.lineage actual).contains target

def distance? (table : TypeTable) (target actual : TypeTag) : Option Nat :=
  (table.lineage actual).findIdx? fun tag => tag == target

def find (table : TypeTable) (pattern : String) : List TypeRef :=
  table.refs.filter fun type => Text.containsInOrder type.name pattern

def resolve? (table : TypeTable) (pattern : String) : Option TypeRef :=
  match table.lookup? pattern with
  | some tag => some (table.ref tag)
  | none =>
      match table.find pattern with
      | [type] => some type
      | _ => none

end TypeTable
end LiveConsole
