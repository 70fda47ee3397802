import LiveConsole.Command
import LiveConsole.Presenter

/-! Everything that a line's names are looked up in. Commands, types, converters and presenters
are registered before the first line; variables and globals change as lines run, and stand in the
order in which their names were first given a value. -/
namespace LiveConsole

abbrev Bindings := List (String × Value)

namespace Bindings

def get? (bindings : Bindings) (name : String) : Option Value := bindings.lookup name

def set : Bindings → String → Value → Bindings
  | [], name, value => [(name, value)]
  | (other, old) :: rest, name, value =>
      if other == name then (other, value) :: rest else (other, old) :: set rest name value

end Bindings

structure Registry (σ : Type) where
  commands : List (Command σ)
  isEnabled : Bool
  sessionVariables : Bindings
  globals : Bindings
  types : TypeTable
  converters : List (Converter σ)
  presenters : List (Presenter σ)

namespace Registry

variable {σ : Type}

def commandNamed? (registry : Registry σ) (name : String) : Option (Command σ) :=
  registry.commands.find? fun command => command.name == name

def command? (registry : Registry σ) (name : String) : Option (Command σ) :=
  if registry.isEnabled then registry.commandNamed? name else none

def registerCommand (registry : Registry σ) (command : Command σ) :
    Except RegistryError (Registry σ × List Note) :=
  if (registry.commandNamed? command.name).isSome then .error (.duplicate .commands command.name)
  else .ok ({ registry with commands := registry.commands ++ [command] },
    [.registered command.name])

def setVariable (registry : Registry σ) (name : String) (value : Value) : Registry σ :=
  { registry with sessionVariables := registry.sessionVariables.set name value }

def setGlobal (registry : Registry σ) (name : String) (value : Value) : Registry σ :=
  { registry with globals := registry.globals.set name value }

def registerTypeBelow (registry : Registry σ) (name : String) (parent : TypeTag) :
    Except RegistryError (Registry σ × TypeTag) :=
  match registry.types.register name parent with
  | .ok (types, tag) => .ok ({ registry with types := types }, tag)
  | .error (.duplicate name) => .error (.duplicate .types name)
  | .error (.unknownParent parent) => .error (.unknownType ("#" ++ toString parent.index))

def registerType (registry : Registry σ) (name : String) (parent : Option String) :
    Except RegistryError (Registry σ × TypeTag) :=
  match parent with
  | none => registry.registerTypeBelow name .object
  | some parent =>
      match registry.types.lookup? parent with
      | some tag => registry.registerTypeBelow name tag
      | none => .error (.unknownType parent)

def registerConverter (registry : Registry σ) (converter : Converter σ) :
    Registry σ × List Note :=
  match registry.converters.findIdx? fun other =>
      other.target == converter.target && other.source == converter.source with
  | some place =>
      ({ registry with converters := registry.converters.set place converter },
        [.converterReplaced (registry.types.name converter.target)
          (registry.types.name converter.source)])
  | none => ({ registry with converters := registry.converters ++ [converter] }, [])

def registerPresenter (registry : Registry σ) (presenter : Presenter σ) :
    Registry σ × List Note :=
  match registry.presenters.findIdx? fun other => other.type == presenter.type with
  | some place =>
      ({ registry with presenters := registry.presenters.set place presenter },
        [.presenterReplaced (registry.types.name presenter.type)])
  | none => ({ registry with presenters := registry.presenters ++ [presenter] }, [])

def converterFor? (registry : Registry σ) (requested actual : TypeTag) : Option (Converter σ) :=
  Converter.best? registry.converters registry.types requested actual

def presenterFor? (registry : Registry σ) (value : Value) : Option (Presenter σ) :=
  (registry.types.tagOf? value).bind fun actual =>
    Presenter.best? registry.presenters registry.types actual

def convert (registry : Registry σ) (host : σ) (value : Value) (requested : TypeTag) : Value × σ :=
  match registry.types.tagOf? value with
  | none => (value, host)
  | some actual =>
      if actual = requested then (value, host)
      else match registry.converterFor? requested actual with
        | none => (value, host)
        | some converter =>
            let (converted, host) := converter.run host value requested registry.types
            (converted.getD value, host)

def present (registry : Registry σ) (host : σ) (value : Value) : List String × σ :=
  match registry.presenterFor? value with
  | some presenter => presenter.lines host value registry.types
  | none => ([], host)

def count (registry : Registry σ) : Domain → Nat
  | .commands => registry.commands.length
  | .sessionVariables => registry.sessionVariables.length
  | .globals => registry.globals.length
  | .types => registry.types.size
  | .converters => registry.converters.length
  | .presenters => registry.presenters.length

variable [Host σ]

def initial : Registry σ where
  commands := Builtin.entries.map Command.ofBuiltin
  isEnabled := false
  sessionVariables := []
  globals := []
  types := .builtin
  converters := Converter.builtins
  presenters := Presenter.builtins

def initialNotes : List Note := Builtin.entries.map fun entry => .registered entry.name

end Registry
end LiveConsole
