import LiveConsole.Proofs.Evaluation.Session
import LiveConsole.Proofs.Line.Conservation
import LiveConsole.Proofs.Line.Occurrence
import LiveConsole.Proofs.Registry.Registration

/-! The console's own commands and what a host may register beside them. A name is given away once,
and the built-in names are given away first, so that the operators of a line, which are commands
under such names, come to the console's own commands whatever was asked of the registry. -/
namespace LiveConsole

namespace Registry

variable {σ : Type}

theorem afterCommands (registry : Registry σ) (asked : Registration σ) :
    registry.commands <+: (registry.after asked).commands := by
  cases asked with
  | command command =>
    rcases afterCommand registry command with ⟨error, -, kept⟩ | ⟨next, notes, done, kept⟩
    · rw [kept]
    · obtain ⟨-, rfl⟩ := commandRegistered done
      rw [kept]
      exact List.prefix_append ..
  | type name parent =>
    rcases afterType registry name parent with ⟨error, -, kept⟩ | ⟨next, tag, done, kept⟩
    · rw [kept]
    · obtain ⟨above, types, -, rfl⟩ := typeRegistered done
      rw [kept]
  | converter converter =>
    change _ <+: (registry.registerConverter converter).1.commands
    unfold registerConverter
    split <;> exact List.prefix_rfl
  | presenter presenter =>
    change _ <+: (registry.registerPresenter presenter).1.commands
    unfold registerPresenter
    split <;> exact List.prefix_rfl
  | sessionVariable name value => exact List.prefix_rfl
  | global name value => exact List.prefix_rfl
  | enabled isEnabled => exact List.prefix_rfl

theorem commandsKept (registry : Registry σ) (asked : List (Registration σ)) :
    registry.commands <+: (registry.afterAll asked).commands := by
  induction asked generalizing registry with
  | nil => exact List.prefix_rfl
  | cons first rest ih => exact (afterCommands registry first).trans (ih (registry.after first))

end Registry

namespace Setup

variable {σ : Type}

theorem commandRefused {draft : Draft σ} {command : Command σ} {error : RegistryError}
    (refused : draft.registry.registerCommand command = .error error) :
    (Setup.command command).run draft = (.error error, draft) := by
  change (Setup.command.liftExcept (draft.registry.registerCommand command) >>= _).run draft = _
  rw [refused]
  rfl

theorem commandGiven {draft : Draft σ} {command : Command σ} {registry : Registry σ}
    {notes : List Note} (done : draft.registry.registerCommand command = .ok (registry, notes)) :
    (Setup.command command).run draft =
      (.ok (), { draft with registry := registry, notes := draft.notes ++ notes }) := by
  change (Setup.command.liftExcept (draft.registry.registerCommand command) >>= _).run draft = _
  rw [done]
  rfl

theorem commandAtomic (draft : Draft σ) (command : Command σ) :
    (∃ old ∈ draft.registry.commands, old.name = command.name) ∧
        (Setup.command command).run draft =
          (.error (.duplicate .commands command.name), draft) ∨
      (∀ old ∈ draft.registry.commands, old.name ≠ command.name) ∧
        (Setup.command command).run draft =
          (.ok (), { draft with
            registry := draft.registry.after (.command command)
            notes := draft.notes ++ [.registered command.name] }) := by
  rcases draft.registry.registerCommandCases command with ⟨taken, refused⟩ | ⟨fresh, done⟩
  · exact .inl ⟨taken, commandRefused refused⟩
  · have registered : draft.registry.after (.command command) =
        { draft.registry with commands := draft.registry.commands ++ [command] } := by
      rw [Registry.after, Registry.register, done]
      rfl
    rw [registered]
    exact .inr ⟨fresh, commandGiven done⟩

end Setup

namespace Token

inductive Becomes (original : Token) : Token → Prop where
  | itself (operand : original.role = .operand) : Becomes original original
  | command (operator : original.role = .operator) : Becomes original original.operator
  | closed (opens : original.role = .opens .index) :
      Becomes original (.synthetic indexName original.position)
  | unclosed {bracket : Bracket} (opens : original.role = .opens bracket) :
      Becomes original original

theorem Becomes.position {original token : Token} (becomes : Becomes original token) :
    token.position = original.position := by
  cases becomes with
  | command operator => exact operatorPosition original
  | _ => rfl

theorem Becomes.ofOperator {original token : Token} (becomes : Becomes original token)
    (operator : original.role = .operator) : token = original.operator := by
  cases becomes with
  | command => rfl
  | itself role => cases operator.symm.trans role
  | closed role => cases operator.symm.trans role
  | unclosed role => cases operator.symm.trans role

theorem Becomes.ofIndex {original token : Token} (becomes : Becomes original token)
    (opens : original.role = .opens .index) :
    token = original ∨ token = .synthetic indexName original.position := by
  cases becomes with
  | closed => exact .inr rfl
  | unclosed => exact .inl rfl
  | itself role => cases opens.symm.trans role
  | command role => cases opens.symm.trans role

theorem becomesRetained {tokens : List Token} {token : Token} (member : token ∈ retained tokens) :
    ∃ original ∈ tokens, Becomes original token := by
  induction tokens with
  | nil => contradiction
  | cons first rest ih =>
    have later (member : token ∈ retained rest) :
        ∃ original ∈ first :: rest, Becomes original token := by
      obtain ⟨original, inside, becomes⟩ := ih member
      exact ⟨original, List.mem_cons_of_mem first inside, becomes⟩
    rw [retained] at member
    cases role : first.role with
    | operand =>
      rw [role, operatorOfOperand role] at member
      rcases List.mem_cons.mp member with rfl | member
      · exact ⟨token, List.mem_cons_self, .itself role⟩
      · exact later member
    | operator =>
      rw [role] at member
      rcases List.mem_cons.mp member with rfl | member
      · exact ⟨first, List.mem_cons_self, .command role⟩
      · exact later member
    | opens bracket =>
      rw [role] at member
      rcases List.mem_append.mp member with here | member
      · split at here
        · cases bracket with
          | group => contradiction
          | index =>
            cases List.mem_singleton.mp here
            exact ⟨first, List.mem_cons_self, .closed role⟩
        · cases List.mem_singleton.mp here
          exact ⟨token, List.mem_cons_self, .unclosed role⟩
      · exact later member
    | closes bracket =>
      rw [role] at member
      exact later member

end Token

def LexemeKind.builtin? : LexemeKind → Option Builtin
  | .concatenation => some .concatenate
  | .property => some .property
  | .openIndex => some .index
  | _ => none

theorem Rpn.operatorNamed {symbols : Symbols} {source : String} {tokens : List Token}
    (order : ofSource? symbols source = some tokens) {token original : Token}
    (member : token ∈ tokens) (typed : original ∈ Token.ofSource symbols source)
    (same : original.position = token.position) {action : Builtin}
    (stands : original.kind.builtin? = some action) :
    original.kind = .openIndex ∧ token = original ∨
      ∃ entry ∈ Builtin.entries, entry.action = action ∧
        token = .synthetic entry.name original.position := by
  have kept := (arrangementConserves order).1.mem_iff.mp member
  obtain ⟨other, inside, becomes⟩ := Token.becomesRetained kept
  cases (Token.sourceApart symbols source).alone typed inside (same.trans becomes.position)
  have role : original.role = original.kind.role := rfl
  cases kind : original.kind with
  | openIndex =>
    rw [kind] at stands role
    cases stands
    refine (becomes.ofIndex role).imp (fun stays => ⟨rfl, stays⟩) fun named => ?_
    obtain ⟨entry, own, acts, called⟩ :
        ∃ entry ∈ Builtin.entries, entry.action = .index ∧ entry.name = indexName := by decide
    exact ⟨entry, own, acts, called ▸ named⟩
  | concatenation =>
    rw [kind] at stands role
    cases stands
    have named : token = .synthetic concatenationName original.position := by
      rw [becomes.ofOperator role, Token.operator, kind]
    obtain ⟨entry, own, acts, called⟩ :
        ∃ entry ∈ Builtin.entries, entry.action = .concatenate ∧ entry.name = concatenationName := by
      decide
    exact .inr ⟨entry, own, acts, called ▸ named⟩
  | property =>
    rw [kind] at stands role
    cases stands
    have named : token = .synthetic propertyName original.position := by
      rw [becomes.ofOperator role, Token.operator, kind]
    obtain ⟨entry, own, acts, called⟩ :
        ∃ entry ∈ Builtin.entries, entry.action = .property ∧ entry.name = propertyName := by decide
    exact .inr ⟨entry, own, acts, called ▸ named⟩
  | _ =>
    rw [kind] at stands
    contradiction

namespace Engine

variable {σ : Type} [Host σ]

def ownCall (engine : Engine σ) (entry : BuiltinEntry) (operator : Token) (stack : List Value) :
    Run σ (List Value) :=
  let arity := entry.parameters.length
  if stack.length < arity then .fail (.expectedParameters arity operator) engine
  else
    match bindArguments engine.registry operator engine.host entry.parameters
      (stack.take arity).reverse with
    | (.error error, host) => .fail error (engine.withHost host)
    | (.ok arguments, host) =>
        ((entry.action.run (engine.withHost host) operator arguments).after
          [.invoked ⟨entry.name, false, none, arguments⟩]).map fun result =>
            result :: stack.drop arity

theorem ownCalled {engine : Engine σ} {entry : BuiltinEntry} {operator : Token}
    (found : engine.registry.command? operator.value = some (.ofBuiltin entry))
    (stack : List Value) : engine.call stack operator = engine.ownCall entry operator stack := by
  have arity : (Command.ofBuiltin entry : Command σ).arity = entry.parameters.length := rfl
  have parameters : (Command.ofBuiltin entry : Command σ).parameters = entry.parameters := rfl
  unfold call ownCall
  simp only [found, arity, parameters]
  split
  · rfl
  · cases bindArguments engine.registry operator engine.host entry.parameters
      (stack.take entry.parameters.length).reverse with
    | mk bound host => cases bound <;> rfl

def OwnsOperators (engine : Engine σ) : Prop :=
  ∀ source before token after,
    engine.compile? source = some (before ++ token :: after) →
    ∀ original ∈ Token.ofSource engine.symbols source, original.position = token.position →
    ∀ action, original.kind.builtin? = some action →
      original.kind = .openIndex ∧ token = original ∨
      ∃ entry ∈ Builtin.entries, entry.action = action ∧
        token = .synthetic entry.name original.position ∧
        ∀ earlier stack, (engine.steps earlier before).engine.step stack token =
          (engine.steps earlier before).engine.ownCall entry token stack

theorem ownsOperators {engine : Engine σ}
    (installed : ∀ entry ∈ Builtin.entries,
      engine.registry.command? entry.name = some (.ofBuiltin entry)) :
    engine.OwnsOperators := by
  intro source before token after order original typed same action stands
  have member : token ∈ before ++ token :: after := by simp
  refine (Rpn.operatorNamed order member typed same stands).imp id ?_
  rintro ⟨entry, own, acts, rfl⟩
  refine ⟨entry, own, acts, rfl, fun earlier stack => ownCalled ?_ stack⟩
  rw [(stepsEvolves engine earlier before).command]
  exact installed entry own

end Engine

namespace Registry

theorem builtinsAreKept {σ : Type} [Host σ] (asked : List (Registration σ)) :
    ((initial.afterAll asked).commands.Pairwise fun a b => a.name ≠ b.name) ∧
    (∀ more, (initial.afterAll asked).commands <+:
      (initial.afterAll (asked ++ more)).commands) ∧
    (∀ (draft : Draft σ) (command : Command σ), draft.registry = initial.afterAll asked →
      (∃ old ∈ draft.registry.commands, old.name = command.name) ∧
          (Setup.command command).run draft =
            (.error (.duplicate .commands command.name), draft) ∨
        (∀ old ∈ draft.registry.commands, old.name ≠ command.name) ∧
          (Setup.command command).run draft =
            (.ok (), { draft with
              registry := initial.afterAll (asked ++ [.command command])
              notes := draft.notes ++ [.registered command.name] })) ∧
    ((initial.afterAll asked).isEnabled = true → ∀ entry ∈ Builtin.entries,
      (initial.afterAll asked).command? entry.name = some (.ofBuiltin entry)) ∧
    ((initial.afterAll asked).isEnabled = false → ∀ name,
      (initial.afterAll asked).command? name = none) ∧
    ∀ (engine last : Engine σ) (history : History σ), engine.registry = initial.afterAll asked →
      engine.registry.isEnabled = true → Engine.Session engine history last →
      last.OwnsOperators := by
  have reached : Reachable (initial.afterAll asked) := Reachable.initial.afterAll asked
  have installed : (initial.afterAll asked).isEnabled = true → ∀ entry ∈ Builtin.entries,
      (initial.afterAll asked).command? entry.name = some (.ofBuiltin entry) :=
    fun isEnabled entry own => reached.commandFound isEnabled (reached.installed entry own)
  refine ⟨reached.namesApart, fun more => ?_, fun draft command same => ?_, installed,
    fun disabled name => ?_, fun engine last history same isEnabled session => ?_⟩
  · rw [afterAll, afterAll, List.foldl_append]
    exact commandsKept (initial.afterAll asked) more
  · have step : initial.afterAll (asked ++ [.command command]) =
        (initial.afterAll asked).after (.command command) := List.foldl_append ..
    rw [step, ← same]
    exact Setup.commandAtomic draft command
  · rw [command?, if_neg (by simp [disabled])]
  · rw [same] at isEnabled
    have persists := session.persists
    refine Engine.ownsOperators fun entry own => ?_
    rw [← installed isEnabled entry own, command?, command?, commandNamed?, commandNamed?,
      persists.commands, persists.isEnabled, same]

theorem concatenationIsNotTaken :
    ∃ (stranger : Command Scene) (engine : Engine Scene),
      stranger.name = concatenationName ∧
      engine.registry = initial.afterAll [.command stranger, .enabled true] ∧
      (Setup.command stranger).run ⟨engine.registry, engine.host, []⟩ =
        (.error (.duplicate .commands concatenationName), ⟨engine.registry, engine.host, []⟩) ∧
      engine.OwnsOperators := by
  let stranger : Command Scene :=
    ⟨concatenationName, "", false, [], .host none fun host _ _ => (.value .null, host)⟩
  let engine : Engine Scene :=
    ⟨initial.afterAll [.command stranger, .enabled true], .standard, .empty⟩
  obtain ⟨-, -, refused, installed, -, owns⟩ :=
    builtinsAreKept [Registration.command stranger, .enabled true]
  refine ⟨stranger, engine, rfl, rfl, ?_, owns engine engine [] rfl rfl (.done engine)⟩
  rcases refused ⟨engine.registry, engine.host, []⟩ stranger rfl with ⟨-, taken⟩ | ⟨fresh, -⟩
  · exact taken
  · have own : Command.ofBuiltin _ ∈ engine.registry.commands := List.mem_of_getElem? (i := 3) rfl
    exact (fresh _ own rfl).elim

end Registry
end LiveConsole
