import LiveConsole.Line.Rpn
import LiveConsole.TypeTable

/-! The commands that every console has: literals, operators and the console's own commands. They
share twelve actions, and no other command sees or changes the console itself. -/
namespace LiveConsole

structure Parameter where
  name : String
  type : TypeTag
  deriving DecidableEq, Repr

inductive Builtin where
  | literalTrue
  | literalFalse
  | literalNull
  | concatenate
  | index
  | property
  | help
  | usage
  | echo
  | setVariable
  | listVariables
  | describe
  deriving DecidableEq, Repr

structure BuiltinEntry where
  name : String
  parameters : List Parameter
  hidden : Bool
  description : String
  action : Builtin
  deriving DecidableEq, Repr

namespace Builtin

def entries : List BuiltinEntry := [
  ⟨"true", [], true, "Boolean true", .literalTrue⟩,
  ⟨"false", [], true, "Boolean false", .literalFalse⟩,
  ⟨"null", [], true, "No value", .literalNull⟩,
  ⟨concatenationName, [⟨"a", .string⟩, ⟨"b", .string⟩], true, "a.b", .concatenate⟩,
  ⟨indexName, [⟨"value", .object⟩, ⟨"index", .int⟩], true, "value[index]", .index⟩,
  ⟨propertyName, [⟨"value", .object⟩, ⟨"name", .string⟩], true, "value->name", .property⟩,
  ⟨"help", [], false, "List available commands", .help⟩,
  ⟨"ls", [], false, "List available commands", .help⟩,
  ⟨"usage", [⟨"topic", .string⟩], false,
    "Show a command's syntax, or commands matching a pattern", .usage⟩,
  ⟨"echo", [⟨"value", .object⟩], false, "Return a value unchanged", .echo⟩,
  ⟨"setvar", [⟨"name", .string⟩, ⟨"value", .object⟩], false, "Assign a session variable",
    .setVariable⟩,
  ⟨"getvars", [], false, "List session variables", .listVariables⟩,
  ⟨"describe", [⟨"value", .object⟩], false, "Print a detailed description of a value", .describe⟩]

def entry? (name : String) : Option BuiltinEntry :=
  entries.find? fun entry => entry.name == name

end Builtin
end LiveConsole
