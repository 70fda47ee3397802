import LiveConsole.Proofs.Evaluation.Grouping
import LiveConsole.Proofs.Hint.Location
import LiveConsole.Proofs.Hint.Replay

/-! Past the end of a group that a command takes. The group's leader stands for the group's result,
so the hint is for what becomes of the leader: it is left to the command after the group, or a
command in the group has taken it. -/
namespace LiveConsole
open Token (Apart)
open String (utf8Len)

variable {σ : Type}

namespace Hint

theorem followReplay {registry : Registry σ} {stack tokens : List Token} {replay : Replay σ}
    (ok : registry.replay? stack tokens = some replay) {rest : List Token}
    (apart : Apart (stack ++ (tokens ++ rest))) {inside : Token} (member : inside ∈ stack ++ tokens)
    (located : Token) :
    (follow? registry located true inside stack (tokens ++ rest) =
      match fate inside replay.uses with
      | .taken command slot => some ⟨command, slot, located⟩
      | .left next => follow? registry located true next replay.stack rest) ∧
    ∀ next, fate inside replay.uses = .left next → next ∈ replay.stack := by
  induction tokens generalizing stack replay inside with
  | nil =>
    cases Option.some.inj ok
    refine ⟨rfl, fun next left => ?_⟩
    cases left
    simpa using member
  | cons token tokens ih =>
    obtain ⟨first, step, last⟩ := Option.bind_eq_some_iff.mp ok
    obtain ⟨later, follows, rfl⟩ := Option.map_eq_some_iff.mp last
    have replays := Registry.replayStepOk step
    rw [List.cons_append] at apart ⊢
    have known : inside ∈ stack ++ token :: (tokens ++ rest) := by
      rw [← List.cons_append, ← List.append_assoc]
      exact List.mem_append_left _ member
    rw [followReplayed replays apart known (.inl rfl), fateAppend]
    cases becomes : fate inside first.uses with
    | taken command slot => exact ⟨rfl, fun next left => by cases left⟩
    | left next =>
      refine ih follows (replays.apart apart) ?_
      by_cases waiting : inside ∈ stack
      · exact List.mem_append_left _ (replays.keeps waiting becomes)
      · rw [replays.ignores waiting] at becomes
        cases becomes
        rcases List.mem_cons.mp ((List.mem_append.mp member).resolve_left waiting) with rfl | ahead
        · exact List.mem_append_left _ replays.pushes
        · exact List.mem_append_right _ ahead

theorem followConsumer {registry : Registry σ} {token : Token} {command : Command σ}
    (isCommand : token.kind = .command) (found : registry.command? token.value = some command)
    (visible : command.hidden = false) (accepts : 0 < command.arity) (located last : Token) :
    follow? registry located true last [last] [token] = some ⟨command, 1, located⟩ := by
  have taken : ([last].take command.arity).reverse = [last] := by
    rw [List.take_of_length_le accepts, List.reverse_singleton]
  rw [follow?, if_neg (by simp [isCommand])]
  simp [found, taken, last.sameAsSelf, visible]

end Hint

namespace Token
open Lexeme (groupOpener groupCloser Names)
open Text (isWord)

def ofGroup (position : Nat) (group : String) : List Token :=
  ofLexemesAt .groupStart ((Lexeme.scan .standard group).map (Lexeme.moved (· + position)))

theorem ofClosedGroup {name : String} (names : Names name) {group : String}
    (closed : ∀ l ∈ Lexeme.scan .standard group, ¬ l.Unclosed) :
    ofSource .standard (groupedLine name [group] ++ " ") =
      ofLexeme (.bare .command name 0) :: ofLexeme (groupOpener (utf8Len name.toList + 1)) ::
        (ofGroup (utf8Len name.toList + 2) group ++
          [ofLexeme (groupCloser (utf8Len name.toList + 2 + utf8Len group.toList))]) := by
  have chars : (groupedLine name [group] ++ " ").toList =
      name.toList ++ ' ' :: '\x7b' :: (group.toList ++ '\x7d' :: [' ']) := by
    simp [groupedLineChars, groupedChars]
  have bounds : ∀ c ∈ (' ' :: '\x7b' :: (group.toList ++ '\x7d' :: [' '])).head?,
      isWord c = false := by
    intro c head
    cases Option.some.inj head
    decide
  have kind : kindAt .lineStart (.bare .command name 0) = .command := by
    simp [kindAt, Lexeme.bare, names.head]
  rw [ofSource, Lexeme.scan, chars, Lexeme.scanWord 0 names.word bounds,
    Lexeme.scanGroup _ fun l last => closed l (List.mem_of_getLast? last), Lexeme.scanSpace,
    Lexeme.scanFrom, ofLexemes, ofLexemesAt, kind, Nat.zero_add]
  change _ :: ofLexeme _ :: ofLexemesAt .groupStart _ = _
  rw [ofLexemesAppend _ _ (by exact LexemeKind.noConfusion)]
  rfl

end Token

theorem Rpn.ofClosedGroup {name : String} (names : Lexeme.Names name) {group : String}
    (closed : ∀ l ∈ Lexeme.scan .standard group, ¬ l.Unclosed) {arranged : List Token}
    (order : ofTokens? (Token.ofGroup (utf8Len name.toList + 2) group) = some arranged)
    (free : ∀ t ∈ arranged, t.isBarrier = false) :
    ofSource? .standard (groupedLine name [group] ++ " ") =
      some (arranged ++ [.ofLexeme (.bare .command name 0)]) := by
  have command : (Token.ofLexeme (.bare .command name 0)).role = .operator := rfl
  have opens : (Token.ofLexeme (Lexeme.groupOpener (utf8Len name.toList + 1))).role =
      .opens .group := rfl
  have closes : (Token.ofLexeme (Lexeme.groupCloser
      (utf8Len name.toList + 2 + utf8Len group.toList))).role = .closes .group := rfl
  have regular : ∀ t ∈ Token.ofGroup (utf8Len name.toList + 2) group,
      t.priority = t.kind.priority := Token.ofLexemesRegular .groupStart _
  rw [ofSource?, Token.ofClosedGroup names closed, ofTokens?, if_neg (by simp),
    arrangeOperator command, arrangeGroup opens closes regular order free]
  rfl

def Fate.hint (consumer : Command σ) (leader : Token) : Fate σ → Hint σ
  | .taken command slot => ⟨command, slot, leader⟩
  | .left _ => ⟨consumer, 1, leader⟩

namespace Engine
open Hint

structure Reduces (engine : Engine σ) (command : Command σ) (group : String)
    (arranged : List Token) (uses : List (Use σ)) : Prop where
  isEnabled : engine.registry.isEnabled = true
  standard : engine.symbols = .standard
  registered : engine.registry.command? command.name = some command
  visible : command.hidden = false
  accepts : 0 < command.arity
  named : Lexeme.Names command.name
  closed : ∀ l ∈ Lexeme.scan .standard group, ¬ l.Unclosed
  order : Rpn.ofTokens? (Token.ofGroup (utf8Len command.name.toList + 2) group) = some arranged
  replayed : ∃ last, engine.registry.replay? [] arranged = some ⟨[last], uses⟩

section Reduces

variable {engine : Engine σ} {command : Command σ} {group : String} {arranged : List Token}
  {uses : List (Use σ)}

theorem Reduces.arrangement (reduces : Reduces engine command group arranged uses) :
    Rpn.ofSource? .standard (groupedLine command.name [group] ++ " ") =
      some (arranged ++ [.ofLexeme (.bare .command command.name 0)]) := by
  obtain ⟨last, replayed⟩ := reduces.replayed
  exact Rpn.ofClosedGroup reduces.named reduces.closed reduces.order (Registry.replayFree replayed)

theorem Reduces.hintFollows (reduces : Reduces engine command group arranged uses) :
    engine.hint? (groupedLine command.name [group] ++ " ")
        (groupedLine command.name [group] ++ " ").utf8ByteSize =
      (Token.leader? 0 (Token.ofGroup (utf8Len command.name.toList + 2) group)).bind
        fun leader => follow? engine.registry leader true leader []
          (arranged ++ [.ofLexeme (.bare .command command.name 0)]) := by
  obtain ⟨last, replayed⟩ := reduces.replayed
  have balanced := Rpn.balancedOfArranged reduces.order (Registry.replayFree replayed)
  have tokens := Token.ofClosedGroup reduces.named reduces.closed
  have earlier := Token.startsInside .standard (groupedLine command.name [group] ++ " ")
  have order := reduces.arrangement
  rw [Rpn.ofSource?] at order
  rw [tokens] at earlier order
  have located := locateClosed rfl rfl rfl balanced earlier
  rw [hint?, if_pos reduces.isEnabled, Hint.ofTokens?, reduces.standard, tokens, located, order]
  cases Token.leader? 0 (Token.ofGroup (utf8Len command.name.toList + 2) group) <;> rfl

theorem Reduces.followsLeader (reduces : Reduces engine command group arranged uses)
    {leader : Token}
    (found : Token.leader? 0 (Token.ofGroup (utf8Len command.name.toList + 2) group) = some leader) :
    follow? engine.registry leader true leader []
        (arranged ++ [.ofLexeme (.bare .command command.name 0)]) =
      some ((fate leader uses).hint command leader) := by
  obtain ⟨last, replayed⟩ := reduces.replayed
  obtain ⟨member, sought⟩ := Token.leaderFound found
  have inside : leader ∈ [] ++ arranged := Rpn.soughtArranged reduces.order member sought
  have apart := Rpn.arrangedApart
    (Token.increasing .standard (groupedLine command.name [group] ++ " ")) reduces.arrangement
  obtain ⟨followed, ends⟩ := followReplay replayed apart inside leader
  refine followed.trans ?_
  dsimp only
  cases becomes : fate leader uses with
  | taken other slot => rfl
  | left next =>
    cases List.mem_singleton.mp (ends next becomes)
    exact followConsumer rfl reduces.registered reduces.visible reduces.accepts ..

theorem closedGroupHint (reduces : Reduces engine command group arranged uses) :
    engine.compile? (groupedLine command.name [group] ++ " ") =
      some (arranged ++ [.ofLexeme (.bare .command command.name 0)]) ∧
    engine.hint? (groupedLine command.name [group] ++ " ")
        (groupedLine command.name [group] ++ " ").utf8ByteSize =
      (Token.leader? 0 (Token.ofGroup (utf8Len command.name.toList + 2) group)).map
        fun leader => (fate leader uses).hint command leader := by
  refine ⟨by rw [compile?, reduces.standard, reduces.arrangement], ?_⟩
  rw [reduces.hintFollows]
  cases found : Token.leader? 0 (Token.ofGroup (utf8Len command.name.toList + 2) group) with
  | none => rfl
  | some leader => exact reduces.followsLeader found

end Reduces

theorem echoReduces {group : String} {arranged : List Token} {uses : List (Use Scene)}
    (closed : ∀ l ∈ Lexeme.scan .standard group, ¬ l.Unclosed)
    (order : Rpn.ofTokens? (Token.ofGroup 6 group) = some arranged)
    (replayed : ∃ last, plainConsole.registry.replay? [] arranged = some ⟨[last], uses⟩) :
    Reduces plainConsole echoCommand group arranged uses where
  isEnabled := rfl
  standard := rfl
  registered := by cbv
  visible := rfl
  accepts := by decide
  named := ⟨by decide, List.all_eq_true.mp (by decide), by decide⟩
  closed := closed
  order := order
  replayed := replayed

def joinedGroup : String := "'a'.\x7bgetvars\x7d"

theorem joinedGroupHint :
    plainConsole.compile? (groupedLine "echo" [joinedGroup] ++ " ") =
      some [.ofLexeme ⟨.string, "a", 6, "'", "'"⟩, .ofLexeme (.bare .command "getvars" 11),
        .synthetic concatenationName 9, .ofLexeme (.bare .command "echo" 0)] ∧
    plainConsole.hint? (groupedLine "echo" [joinedGroup] ++ " ")
        (groupedLine "echo" [joinedGroup] ++ " ").utf8ByteSize =
      some ⟨echoCommand, 1, .ofLexeme ⟨.string, "a", 6, "'", "'"⟩⟩ := by
  let letter := Token.ofLexeme ⟨.string, "a", 6, "'", "'"⟩
  let listing := Token.ofLexeme (.bare .command "getvars" 11)
  let join := Token.synthetic concatenationName 9
  have lexemes : Lexeme.scan .standard joinedGroup =
      [⟨.string, "a", 0, "'", "'"⟩, .bare .concatenation "." 3, .bare .openGroup "\x7b" 4,
        .bare .command "getvars" 5, .bare .closeGroup "\x7d" 12] := by cbv
  have tokens : Token.ofGroup 6 joinedGroup =
      [letter, .ofLexeme (.bare .concatenation "." 9), .ofLexeme (.bare .openGroup "\x7b" 10),
        listing, .ofLexeme (.bare .closeGroup "\x7d" 18)] := by
    rw [Token.ofGroup, lexemes]
    rfl
  have reduces : Reduces plainConsole echoCommand joinedGroup [letter, listing, join]
      [⟨listing, .ofBuiltin ⟨"getvars", [], false, "List session variables", .listVariables⟩,
          [], none⟩,
        ⟨join, .ofBuiltin ⟨concatenationName, [⟨"a", .string⟩, ⟨"b", .string⟩], true, "a.b",
          .concatenate⟩, [letter, listing], none⟩] := by
    refine echoReduces ?_ ?_ ⟨join, rfl⟩
    · rw [lexemes]
      decide
    · rw [tokens]
      rfl
  obtain ⟨compiled, hinted⟩ := closedGroupHint reduces
  refine ⟨compiled, hinted.trans ?_⟩
  change (Token.leader? 0 (Token.ofGroup 6 joinedGroup)).map _ = _
  rw [tokens]
  rfl

/- The group's only token is in a group of its own, so nothing stands for the result. -/
theorem nestedReduces : Reduces plainConsole echoCommand "\x7btrue\x7d"
    [.ofLexeme (.bare .command "true" 7)]
    [⟨.ofLexeme (.bare .command "true" 7),
      .ofBuiltin ⟨"true", [], true, "Boolean true", .literalTrue⟩, [], none⟩] := by
  have lexemes : Lexeme.scan .standard "\x7btrue\x7d" =
      [.bare .openGroup "\x7b" 0, .bare .command "true" 1, .bare .closeGroup "\x7d" 5] := by cbv
  refine echoReduces ?_ ?_ ⟨.ofLexeme (.bare .command "true" 7), rfl⟩
  · rw [lexemes]
    decide
  · rw [Token.ofGroup, lexemes]
    rfl

def setvarCommand : Command Scene :=
  .ofBuiltin ⟨"setvar", [⟨"name", .string⟩, ⟨"value", .object⟩], false,
    "Assign a session variable", .setVariable⟩

/- The group's leader is an argument within the group. -/
theorem assignmentReduces : Reduces plainConsole echoCommand "'x' \x7bsetvar 'a'\x7d"
    [.ofLexeme ⟨.string, "x", 6, "'", "'"⟩, .ofLexeme ⟨.string, "a", 18, "'", "'"⟩,
      .ofLexeme (.bare .command "setvar" 11)]
    [⟨.ofLexeme (.bare .command "setvar" 11), setvarCommand,
      [.ofLexeme ⟨.string, "x", 6, "'", "'"⟩, .ofLexeme ⟨.string, "a", 18, "'", "'"⟩], none⟩] := by
  have lexemes : Lexeme.scan .standard "'x' \x7bsetvar 'a'\x7d" =
      [⟨.string, "x", 0, "'", "'"⟩, .bare .openGroup "\x7b" 4, .bare .command "setvar" 5,
        ⟨.string, "a", 12, "'", "'"⟩, .bare .closeGroup "\x7d" 15] := by cbv
  refine echoReduces ?_ ?_ ⟨.ofLexeme (.bare .command "setvar" 11), rfl⟩
  · rw [lexemes]
    decide
  · rw [Token.ofGroup, lexemes]
    rfl

theorem closedGroupMissesConsumer :
    (∃ arranged uses, Reduces plainConsole echoCommand "\x7btrue\x7d" arranged uses) ∧
    plainConsole.hint? (groupedLine "echo" ["\x7btrue\x7d"] ++ " ")
      (groupedLine "echo" ["\x7btrue\x7d"] ++ " ").utf8ByteSize = none ∧
    (∃ arranged uses, Reduces plainConsole echoCommand "'x' \x7bsetvar 'a'\x7d" arranged uses) ∧
    plainConsole.hint? (groupedLine "echo" ["'x' \x7bsetvar 'a'\x7d"] ++ " ")
        (groupedLine "echo" ["'x' \x7bsetvar 'a'\x7d"] ++ " ").utf8ByteSize =
      some ⟨setvarCommand, 1, .ofLexeme ⟨.string, "x", 6, "'", "'"⟩⟩ := by
  refine ⟨⟨_, _, nestedReduces⟩, ?_, ⟨_, _, assignmentReduces⟩, ?_⟩
  · refine nestedReduces.hintFollows.trans ?_
    have leaderless : Token.leader? 0 (Token.ofGroup 6 "\x7btrue\x7d") = none := by cbv
    exact congrArg (Option.bind · _) leaderless
  · refine assignmentReduces.hintFollows.trans ?_
    have leader : Token.leader? 0 (Token.ofGroup 6 "'x' \x7bsetvar 'a'\x7d") =
        some (.ofLexeme ⟨.string, "x", 6, "'", "'"⟩) := by cbv
    exact (congrArg (Option.bind · _) leader).trans (assignmentReduces.followsLeader leader)

end Engine
end LiveConsole
