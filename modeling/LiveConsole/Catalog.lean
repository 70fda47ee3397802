import LiveConsole.Registry

/-! A registry's commands as help for users and as data for tools. -/
namespace LiveConsole.Registry
open Text

variable {σ : Type} (registry : Registry σ)

def visibleCommands : List (Command σ) := registry.commands.filter fun c => !c.hidden

def helpLines : List String := registry.visibleCommands.map Command.helpText

def listing (heading : String) (lines : List String) : String :=
  "\n".intercalate (heading :: lines.map fun line => "  " ++ line)

def helpText (topic : Option String) : String :=
  match topic with
  | none => listing "Available commands:" registry.helpLines
  | some topic =>
      match registry.visibleCommands.find? fun c => c.name == topic with
      | some command =>
          listing (command.syntaxHint registry.types none)
            (if command.description.isEmpty then [] else [command.description])
      | none =>
          let matching := registry.visibleCommands.filter fun c => containsInOrder c.name topic
          if matching.isEmpty then
            "No command matches \"" ++ topic ++ "\". Use help to list commands."
          else
            listing ("Commands matching \"" ++ topic ++ "\":") (matching.map Command.helpText)

def parameterJson (parameter : Parameter) : Json :=
  .record [("name", .string parameter.name),
    ("type", .string (registry.types.name parameter.type))]

def commandJson (command : Command σ) : Json :=
  let target := match command.targetType? with
    | some type => [("target", .string (registry.types.name type))]
    | none => []
  .record ([("name", .string command.name), ("description", .string command.description),
    ("builtin", .bool command.isBuiltin), ("hidden", .bool command.hidden),
    ("is_static", .bool command.isStatic),
    ("parameters", .array (command.parameters.map registry.parameterJson))] ++ target)

def commandsJson : Json := .array (registry.commands.map registry.commandJson)

def typeJson (type : TypeRef) : Json :=
  .record [("name", .string type.name),
    ("parents", .strings (((registry.types.lineage type.tag).drop 1).map registry.types.name))]

def countsJson : Json :=
  .record (Domain.all.map fun domain => (domain.slug, .ofNat (registry.count domain)))

def catalogJson : Json :=
  .record [("commands", registry.commandsJson),
    ("types", .array (registry.types.refs.map registry.typeJson)),
    ("domains", registry.countsJson)]

end LiveConsole.Registry
