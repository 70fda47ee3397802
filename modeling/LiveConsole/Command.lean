import LiveConsole.Builtin
import LiveConsole.Value

/-! Commands: a signature and what runs under it. Only the console's own actions, which `Builtin`
lists, work on the console itself. A host may install one of them again, under any name and
signature; an action on the console that is the host's own is left out. What a host brings is a
handler, which sees the host's state, a target and arguments, and never the console. -/
namespace LiveConsole

inductive Reply where
  | value (result : Value)
  | failed (causes : List String)
  | crashed (message : Option String)

abbrev HostHandler (σ : Type) := σ → Option Value → List Value → Reply × σ

inductive Action (σ : Type) where
  | builtin (action : Builtin)
  | host (target : Option TypeTag) (handler : HostHandler σ)

structure Command (σ : Type) where
  name : String
  description : String
  hidden : Bool
  parameters : List Parameter
  action : Action σ

namespace Command

variable {σ : Type}

def ofBuiltin (entry : BuiltinEntry) : Command σ :=
  ⟨entry.name, entry.description, entry.hidden, entry.parameters, .builtin entry.action⟩

def arity (c : Command σ) : Nat := c.parameters.length

def isBuiltin (c : Command σ) : Bool :=
  match c.action with
  | .builtin _ => true
  | .host .. => false

def targetType? (c : Command σ) : Option TypeTag :=
  match c.action with
  | .builtin _ => none
  | .host target _ => target

def takesTarget (c : Command σ) : Bool := c.targetType?.isSome

def isStatic (c : Command σ) : Bool := !c.isBuiltin && !c.takesTarget

def marked (text : String) (isMarked : Bool) : String :=
  if isMarked then "[" ++ text ++ "]" else text

def syntaxHint (c : Command σ) (types : TypeTable) (slot : Option Nat) : String :=
  let target := match c.targetType? with
    | some type => ["<" ++ types.name type ++ ">"]
    | none => []
  let parameters := c.parameters.mapIdx fun i parameter =>
    marked (parameter.name ++ ":" ++ types.name parameter.type) (slot == some (i + 1))
  " ".intercalate (target ++ marked c.name (slot == some 0) :: parameters)

def helpText (c : Command σ) : String :=
  if c.description.isEmpty then c.name else c.name ++ " - " ++ c.description

end Command
end LiveConsole
