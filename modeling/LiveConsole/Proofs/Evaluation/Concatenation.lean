import LiveConsole.Proofs.Evaluation.Grouping
import LiveConsole.Proofs.Evaluation.Layout
import LiveConsole.Proofs.Evaluation.Operators
import LiveConsole.Proofs.Line.Piecewise

/-! Quoted texts with the concatenation symbol between each two of them. Each symbol waits for the
text after it and takes the one string that the line has come to before, so the texts are joined
from the left. A string is its parameter's type already, and nothing that a host has registered is
asked to convert it. -/
namespace LiveConsole
open Text
open Lexeme (literal)

structure Link where
  before : String
  after : String
  text : String

namespace Link

def source (link : Link) : String :=
  link.before ++ "." ++ link.after ++ "'" ++ link.text ++ "'"

def chars (link : Link) : List Char :=
  link.before.toList ++ '.' :: (link.after.toList ++ '\'' :: (link.text.toList ++ ['\'']))

theorem sourceChars (link : Link) : link.source.toList = link.chars := by
  simp [source, chars]

structure Plain (link : Link) : Prop where
  before : ∀ c ∈ link.before.toList, isBlank c = true
  after : ∀ c ∈ link.after.toList, isBlank c = true
  text : '\'' ∉ link.text.toList

end Link

def joinedLine (lead first : String) (links : List Link) (trail : String) : String :=
  lead ++ "'" ++ first ++ "'" ++ String.join (links.map Link.source) ++ trail

namespace Phrase

def joined : List String → Phrase
  | [] => .done
  | text :: rest => .operator (.ofLexeme (.bare .concatenation "." 0)) rfl
      (.operand (.ofLexeme (literal 0 text)) rfl (joined rest))

def joinedOrder (texts : List String) : List Token :=
  texts.flatMap fun text => [.ofLexeme (literal 0 text), .synthetic concatenationName 0]

theorem arrangedJoined (pending : Option Token) (texts : List String) :
    (joined texts).arranged pending = pending.toList ++ joinedOrder texts := by
  induction texts generalizing pending with
  | nil => exact (List.append_nil _).symm
  | cons text rest ih =>
    change pending.toList ++ _ :: (joined rest).arranged (some _) = _
    rw [ih]
    rfl

end Phrase

namespace Token

theorem readLinks {links : List Link} (plain : ∀ link ∈ links, link.Plain) {trail : List Char}
    (blank : ∀ c ∈ trail, isBlank c = true) :
    readAt .inside (links.flatMap Link.chars ++ trail) =
      (Phrase.joined (links.map Link.text)).tokens := by
  induction links with
  | nil =>
    have spaces := readBlanks blank .inside []
    rw [List.append_nil] at spaces
    exact spaces.trans (readEnd .inside)
  | cons link rest ih =>
    obtain ⟨here, later⟩ := List.forall_mem_cons.mp plain
    have chars : (link :: rest).flatMap Link.chars ++ trail =
        link.before.toList ++ '.' :: (link.after.toList ++ '\'' :: (link.text.toList ++
          '\'' :: (rest.flatMap Link.chars ++ trail))) := by
      simp [Link.chars]
    rw [chars, readBlanks here.before, readMark Lexeme.dotMarks]
    change _ :: readAt .inside _ = _
    rw [readBlanks here.after, readLiteral here.text, ih later]
    rfl

theorem readJoined {lead first : String} {links : List Link} {trail : String}
    (leads : ∀ c ∈ lead.toList, isBlank c = true) (plain : '\'' ∉ first.toList)
    (plainLinks : ∀ link ∈ links, link.Plain) (trails : ∀ c ∈ trail.toList, isBlank c = true) :
    readAt .lineStart (joinedLine lead first links trail).toList =
      (Phrase.operand (.ofLexeme (literal 0 first)) rfl
        (Phrase.joined (links.map Link.text))).tokens := by
  have chars : (joinedLine lead first links trail).toList = lead.toList ++
      '\'' :: (first.toList ++ '\'' :: (links.flatMap Link.chars ++ trail.toList)) := by
    simp [joinedLine, String.toList_join, List.flatMap_map, Link.sourceChars]
  rw [chars, readBlanks leads, readLiteral plain, readLinks plainLinks trails]
  rfl

end Token

theorem TypeTable.acceptsString {table : TypeTable} (rooted : table.Rooted) (text : String) :
    table.accepts .string (.string text) = true := by
  change (table.lineage .string).contains .string = true
  rw [lineageKept rooted (by decide)]
  rfl

namespace Registry

variable {σ : Type}

theorem convertString (registry : Registry σ) (host : σ) (text : String) :
    registry.convert host (.string text) .string = (.string text, host) := rfl

theorem bindStrings [Host σ] {registry : Registry σ} (rooted : registry.types.Rooted)
    (operator : Token) (host : σ) {parameters : List Parameter}
    (strings : ∀ p ∈ parameters, p.type = .string) {texts : List String}
    (size : texts.length = parameters.length) :
    Engine.bindArguments registry operator host parameters (texts.map .string) =
      (.ok (texts.map .string), host) := by
  induction parameters generalizing texts with
  | nil =>
    cases List.length_eq_zero_iff.mp size
    rfl
  | cons parameter parameters ih =>
    cases texts with
    | nil => contradiction
    | cons text texts =>
      obtain ⟨here, later⟩ := List.forall_mem_cons.mp strings
      have rest := ih later (Nat.succ.inj size)
      simp [Engine.bindArguments, here, convertString, TypeTable.acceptsString rooted, rest,
        Except.map]

end Registry

namespace Engine

variable {σ : Type} [Host σ] {engine : Engine σ}

theorem joinStep (reached : engine.registry.Reachable)
    (isEnabled : engine.registry.isEnabled = true) (first second : String) (below : List Value) :
    ∃ events, engine.step (.string second :: .string first :: below)
        (.synthetic concatenationName 0) =
      ⟨.ok (.string (first ++ second) :: below), engine, events⟩ := by
  obtain ⟨entry, own, named, acts, two, strings⟩ :
      ∃ entry ∈ Builtin.entries, entry.name = concatenationName ∧ entry.action = .concatenate ∧
        entry.parameters.length = 2 ∧ ∀ p ∈ entry.parameters, p.type = .string := by decide
  have found := reached.commandFound isEnabled (reached.installed entry own)
  have called : engine.registry.command? (Token.synthetic concatenationName 0).value =
      some (.ofBuiltin entry) := named ▸ found
  have size : [first, second].length = entry.parameters.length := two.symm
  have bound := Registry.bindStrings reached.rooted (.synthetic concatenationName 0) engine.host
    strings size
  have enough : ¬ (Value.string second :: .string first :: below).length < 2 := by simp
  have operands : ((Value.string second :: .string first :: below).take 2).reverse =
      [first, second].map Value.string := rfl
  change ∃ events, engine.call _ _ = _
  rw [ownCalled called]
  unfold ownCall
  simp only [two, enough, if_false, operands, bound, acts]
  exact ⟨_, by simp [Builtin.run, Builtin.concatenated]; rfl⟩

theorem joinSteps (reached : engine.registry.Reachable)
    (isEnabled : engine.registry.isEnabled = true) (texts : List String) (first : String) :
    ∃ events, engine.steps [.string first] (Phrase.joinedOrder texts) =
      ⟨.ok [.string (first ++ String.join texts)], engine, events⟩ := by
  induction texts generalizing first with
  | nil => exact ⟨[], by simp [Phrase.joinedOrder, steps, Run.ok]⟩
  | cons text rest ih =>
    obtain ⟨events, joined⟩ := joinStep reached isEnabled first text []
    obtain ⟨later, remaining⟩ := ih (first ++ text)
    have pushed : engine.step [.string first] (.ofLexeme (literal 0 text)) =
        .ok [.string text, .string first] engine := rfl
    have order : Phrase.joinedOrder (text :: rest) =
        .ofLexeme (literal 0 text) :: .synthetic concatenationName 0 :: Phrase.joinedOrder rest := rfl
    refine ⟨events ++ later, ?_⟩
    rw [order, steps, pushed, Run.andThen]
    dsimp only [Run.ok]
    rw [steps, joined, Run.andThen]
    dsimp only
    rw [remaining]
    simp [String.join_cons, String.append_assoc]

theorem joinedOutcome (reached : engine.registry.Reachable)
    (isEnabled : engine.registry.isEnabled = true) (first : String) (texts : List String) :
    (engine.execute (.ofLexeme (literal 0 first) :: Phrase.joinedOrder texts)).outcome =
      .ok (.string (first ++ String.join texts)) := by
  obtain ⟨events, joined⟩ := joinSteps reached isEnabled texts first
  have pushed : engine.steps [] (.ofLexeme (literal 0 first) :: Phrase.joinedOrder texts) =
      (engine.steps [.string first] (Phrase.joinedOrder texts)).after [] := rfl
  rw [execute, if_pos isEnabled, evaluate, pushed, joined]
  exact concludeOutcome engine _

theorem joinedTextsConcatenate (reached : engine.registry.Reachable)
    (isEnabled : engine.registry.isEnabled = true) (standard : engine.symbols = .standard)
    {lead first trail : String} (leads : ∀ c ∈ lead.toList, isBlank c = true)
    (plain : '\'' ∉ first.toList) {links : List Link} (plainLinks : ∀ link ∈ links, link.Plain)
    (trails : ∀ c ∈ trail.toList, isBlank c = true) :
    (engine.run (joinedLine lead first links trail)).outcome =
      .ok (.string (first ++ String.join (links.map Link.text))) := by
  have read := Token.readJoined leads plain plainLinks trails
  obtain ⟨order, ordered, unplaced⟩ :=
    Option.map_eq_some_iff.mp (Phrase.orderRead read (List.cons_ne_nil _ _))
  have compiled : engine.compile? (joinedLine lead first links trail) = some order := by
    rw [compile?, standard, ordered]
  have arranged : order.map (Token.moved fun _ => 0) =
      .ofLexeme (literal 0 first) :: Phrase.joinedOrder (links.map Link.text) :=
    unplaced.trans (congrArg (_ :: ·) (Phrase.arrangedJoined none _))
  have outcome := joinedOutcome reached isEnabled first (links.map Link.text)
  rw [← arranged, executeMoved] at outcome
  rw [runExecutes isEnabled compiled]
  exact Run.okOfMoved outcome

theorem threeTextsConcatenate :
    (plainConsole.run " 'a.'. '$b' .'é'\t").outcome = .ok (.string "a.$bé") := by
  let links : List Link := [⟨"", " ", "$b"⟩, ⟨" ", "", "é"⟩]
  have line : " 'a.'. '$b' .'é'\t" = joinedLine " " "a." links "\t" := by cbv
  have result : "a.$bé" = "a." ++ String.join (links.map Link.text) := by cbv
  have reached : plainConsole.registry.Reachable := .enabled .initial true
  have blank : ∀ gap : String, gap.toList.all isBlank = true → ∀ c ∈ gap.toList, isBlank c = true :=
    fun gap blank => List.all_eq_true.mp blank
  have plainLinks : ∀ link ∈ links, link.Plain := by
    simp only [links, List.mem_cons, List.not_mem_nil, or_false, forall_eq_or_imp, forall_eq]
    exact ⟨⟨blank _ (by decide), blank _ (by decide), by decide⟩,
      blank _ (by decide), blank _ (by decide), by decide⟩
  rw [line, result]
  exact joinedTextsConcatenate reached rfl rfl (blank " " (by decide)) (by decide) plainLinks
    (blank "\t" (by decide))

end Engine
end LiveConsole
