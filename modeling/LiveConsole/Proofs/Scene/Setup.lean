import LiveConsole.CommandLine.Console
import LiveConsole.Proofs.Evaluation.Effects

/-! What the scene registers, on top of what every console has, and what that leaves to its commands:
its converter and its presenter only look at the scene. -/
namespace LiveConsole.Scene

def objectTag : TypeTag := ⟨7⟩
def componentTag : TypeTag := ⟨8⟩
def transformTag : TypeTag := ⟨9⟩
def cameraTag : TypeTag := ⟨10⟩
def lightTag : TypeTag := ⟨11⟩

def types : TypeTable where
  entries := TypeTable.builtin.entries ++ [
    ⟨"GameObject", [objectTag, .object]⟩, ⟨"Component", [componentTag, .object]⟩,
    ⟨"Transform", [transformTag, componentTag, .object]⟩,
    ⟨"Camera", [cameraTag, componentTag, .object]⟩, ⟨"Light", [lightTag, componentTag, .object]⟩]
  named := [("Light", lightTag), ("Camera", cameraTag), ("Transform", transformTag),
    ("Component", componentTag), ("GameObject", objectTag)] ++ TypeTable.builtin.named

def commands : List (Command Scene) := [
  findCommand types, objectsCommand, spawnCommand, getComponentCommand types objectTag,
  crashCommand, renameCommand objectTag, zoomCommand cameraTag, moveCommand transformTag,
  dimCommand lightTag]

def registry (scene : Scene) : Registry Scene where
  commands := Builtin.entries.map Command.ofBuiltin ++ commands
  isEnabled := true
  sessionVariables := []
  globals := [("main", mainCamera scene)]
  types := types
  converters := Converter.builtins ++ [objectOfName objectTag]
  presenters := Presenter.builtins ++ [objectPresenter objectTag]

theorem discovered (scene : Scene) :
    (discover setup scene).outcome = .ok scene.registry ∧ (discover setup scene).host = scene :=
  ⟨rfl, rfl⟩

theorem onlyLooks (scene : Scene) : scene.registry.OnlyLooks := by
  constructor
  · intro converter member host value requested
    rcases List.mem_append.mp member with isBuiltin | own
    · exact (Converter.builtinHonest converter isBuiltin).quiet host value requested types
    · cases List.mem_singleton.mp own
      rfl
  · intro presenter member host value
    simp only [registry, Presenter.builtins, List.cons_append, List.nil_append, List.mem_cons,
      List.not_mem_nil, or_false] at member
    rcases member with rfl | rfl | rfl | rfl <;> rfl

theorem ownCommand {scene : Scene} {command : Command Scene}
    (member : command ∈ scene.registry.commands) {type : Option TypeTag}
    {handler : HostHandler Scene} (byHost : command.action = .host type handler) :
    command ∈ commands := by
  rcases List.mem_append.mp member with isBuiltin | own
  · obtain ⟨entry, -, rfl⟩ := List.mem_map.mp isBuiltin
    contradiction
  · exact own

end LiveConsole.Scene
