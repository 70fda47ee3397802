import LiveConsole.Proofs.Evaluation.Grouping
import LiveConsole.Proofs.Hint.Location
import LiveConsole.Proofs.Hint.Replay
import LiveConsole.Proofs.Line.Piecewise
import LiveConsole.Proofs.Line.Unfinished

/-! A command with its first arguments, in a group that is still open. There is one stack of
operands, and an open group does not divide it: the operands before the group are below the
command's own, and fill its leading parameters as far as its own leave room. -/
namespace LiveConsole
open Text
open Token (Apart)

variable {σ : Type}

namespace Rpn
open Token (operands operandsCons)

theorem arrangeOperands {front : List Token} (operand : ∀ t ∈ front, t.role = .operand)
    (operators rest : List Token) :
    arrange? operators (front ++ rest) = (arrange? operators rest).map (front ++ ·) := by
  induction front with
  | nil => simp
  | cons token front ih =>
    obtain ⟨here, later⟩ := List.forall_mem_cons.mp operand
    rw [List.cons_append, arrangeOperand here, ih later, Option.map_map]
    rfl

theorem arrangeArguments {opener name : Token} (opens : opener.role = .opens .group)
    (isCommand : name.kind = .command) {arguments : List Token}
    (operand : ∀ t ∈ arguments, t.role = .operand) (operators : List Token) :
    arrange? operators (opener :: name :: arguments) =
      some (arguments ++ name :: opener :: operators) := by
  have operator : name.role = .operator := by rw [Token.role, isCommand]; rfl
  have itself : name.operator = name := by rw [Token.operator, isCommand]
  have shielded := Phrase.releaseShielded name.priority (Phrase.shieldedOpener opens operators)
  have ends := arrangeOperands operand (name :: opener :: operators) []
  rw [List.append_nil] at ends
  rw [arrangeOpens opens, arrangeOperator operator, shielded, itself, ends]
  simp [arrange?]

theorem ofOpenGroup {leader opener name : Token}
    (leads : leader.role = .operand ∨ leader.kind = .command)
    (opens : opener.role = .opens .group) (isCommand : name.kind = .command)
    {outer inner : List Token} (operand : ∀ t ∈ outer ++ inner, t.role = .operand) :
    ∃ waiting, ofTokens? (leader :: (outer ++ opener :: name :: inner)) =
      some (operands (leader :: outer) ++ (inner ++ name :: opener :: waiting)) := by
  obtain ⟨outside, inside⟩ := List.forall_mem_append.mp operand
  have kept : operands outer = outer := by
    refine List.filter_eq_self.mpr fun t member => ?_
    simpa using outside t member
  rw [ofTokensFilled (by simp)]
  rcases leads with role | kind
  · refine ⟨[], ?_⟩
    rw [arrangeOperand role, arrangeOperands outside, arrangeArguments opens isCommand inside,
      operandsCons, kept]
    simp [role]
  · refine ⟨[leader], ?_⟩
    have role : leader.role = .operator := by rw [Token.role, kind]; rfl
    have itself : leader.operator = leader := by rw [Token.operator, kind]
    rw [arrangeOperator role, itself, arrangeOperands outside,
      arrangeArguments opens isCommand inside, operandsCons, kept]
    simp [role, releaseParts]

end Rpn

namespace Hint

theorem followOperands {front : List Token} (isOperand : ∀ t ∈ front, t.kind.isOperand = true)
    (registry : Registry σ) (located : Token) (isClosed : Bool) (inside : Token)
    (stack rest : List Token) :
    follow? registry located isClosed inside stack (front ++ rest) =
      follow? registry located isClosed inside (front.reverse ++ stack) rest := by
  induction front generalizing stack with
  | nil => rfl
  | cons token front ih =>
    obtain ⟨here, later⟩ := List.forall_mem_cons.mp isOperand
    rw [List.cons_append, followOperand here, ih later, List.reverse_cons, List.append_assoc]
    rfl

theorem followLast {registry : Registry σ} {name last : Token} {below : List Token}
    {command : Command σ} (isCommand : name.kind = .command)
    (found : registry.command? name.value = some command) (visible : command.hidden = false)
    (accepts : 0 < command.arity) (other : name.sameAs last = false)
    (others : ∀ t ∈ below, t.sameAs last = false) (rest : List Token) :
    follow? registry last false last (last :: below) (name :: rest) =
      some ⟨command, min command.arity (below.length + 1), last⟩ := by
  obtain ⟨arity, size⟩ := Nat.exists_eq_add_one_of_ne_zero (Nat.ne_of_gt accepts)
  have taken : ((last :: below).take command.arity).reverse =
      (below.take arity).reverse ++ [last] := by
    rw [size, List.take_succ_cons, List.reverse_cons]
  have before : (below.take arity).reverse.findIdx? (fun t => t.sameAs last) = none := by
    refine List.findIdx?_eq_none_iff.mpr fun t member => ?_
    exact others t (List.mem_of_mem_take (List.mem_reverse.mp member))
  have place : ((below.take arity).reverse ++ [last]).findIdx? (fun t => t.sameAs last) =
      some (min arity below.length) := by
    rw [List.findIdx?_append, before]
    simp [last.sameAsSelf]
  have slot : min command.arity (below.length + 1) = min arity below.length + 1 := by omega
  rw [follow?, if_neg (by simp [isCommand]), slot]
  simp only [found, other, Bool.false_and, Bool.false_eq_true, if_false, taken, place, visible,
    Bool.and_false]

theorem locateLast {symbols : Symbols} {source : String} {before : List Token} {last : Token}
    (ends : Token.ofSource symbols source = before ++ [last])
    (sought : last.kind.isSought = true) :
    locate? (Token.ofSource symbols source) source.utf8ByteSize = some ⟨last, false⟩ := by
  have starts := Token.startsInside symbols source
  rw [ends] at starts ⊢
  obtain ⟨earlier, here⟩ := List.forall_mem_append.mp starts
  exact locateHeld (fun t member => (earlier t member).le) (here last (by simp)).le (by simp) sought

theorem followArguments {registry : Registry σ} {name last : Token} {operands rest : List Token}
    {command : Command σ} (isCommand : name.kind = .command)
    (found : registry.command? name.value = some command) (visible : command.hidden = false)
    (accepts : 0 < command.arity)
    (isOperand : ∀ t ∈ operands ++ [last], t.kind.isOperand = true)
    (apart : Apart (operands ++ [last] ++ name :: rest)) :
    follow? registry last false last [] (operands ++ [last] ++ name :: rest) =
      some ⟨command, min command.arity (operands.length + 1), last⟩ := by
  have known {t : Token} (member : t ∈ operands ++ [last] ++ name :: rest) (differs : t ≠ last) :
      t.sameAs last = false :=
    Bool.eq_false_iff.mpr fun same => differs ((apart.sameAs member (by simp)).mp same)
  have other : name.sameAs last = false := by
    refine known (by simp) fun same => ?_
    have operand := isOperand last (by simp)
    rw [← same, isCommand] at operand
    contradiction
  have others : ∀ t ∈ operands.reverse, t.sameAs last = false := by
    intro t member
    have inside := List.mem_reverse.mp member
    refine known (by simp [inside]) ?_
    rintro rfl
    have front : Apart (operands ++ [t]) := apart.sublist (List.sublist_append_left ..)
    exact front.disjoint inside (List.mem_singleton_self t)
  have taken := followLast isCommand found visible accepts other others rest
  rw [List.length_reverse] at taken
  rw [followOperands isOperand, List.append_nil, List.reverse_append]
  exact taken

end Hint

def quotedWords (texts : List String) : String :=
  String.join (texts.map fun text => " '" ++ text ++ "'")

def openGroupLine (leader : String) (outer : List String) (name : String) (inner : List String) :
    String := leader ++ quotedWords outer ++ " \x7b" ++ name ++ quotedWords inner

/- A word that starts with a digit is a literal where the line starts. -/
def literalsBefore (leader : String) (outer : List String) : Nat :=
  outer.length + if leader.toList.head?.any Char.isDigit then 1 else 0

namespace Token
open Lexeme (Word literal groupOpener)

def quotedChars (texts : List String) : List Char :=
  texts.flatMap fun text => ' ' :: '\'' :: (text.toList ++ ['\''])

theorem quotedWordsChars (texts : List String) :
    (quotedWords texts).toList = quotedChars texts := by
  simp [quotedWords, quotedChars, String.toList_join, List.flatMap_map]

theorem quotedBounds (texts : List String) {rest : List Char}
    (bounds : ∀ c ∈ rest.head?, isWord c = false) :
    ∀ c ∈ (quotedChars texts ++ rest).head?, isWord c = false := by
  cases texts with
  | nil => exact bounds
  | cons text texts =>
    intro c head
    cases Option.some.inj head
    decide

theorem readQuoted {texts : List String} (plain : ∀ text ∈ texts, '\'' ∉ text.toList)
    (rest : List Char) :
    readAt .inside (quotedChars texts ++ rest) =
      texts.map (fun text => ofLexeme (literal 0 text)) ++ readAt .inside rest := by
  induction texts with
  | nil => rfl
  | cons text texts ih =>
    obtain ⟨here, later⟩ := List.forall_mem_cons.mp plain
    have chars : quotedChars (text :: texts) ++ rest =
        ' ' :: '\'' :: (text.toList ++ '\'' :: (quotedChars texts ++ rest)) := by
      simp [quotedChars]
    rw [chars, readSpace, readLiteral here, ih later]
    rfl

theorem readOpenGroup {leader name : String} (leads : Word leader) (named : Word name)
    {outer inner : List String} (plain : ∀ text ∈ outer ++ inner, '\'' ∉ text.toList) :
    readAt .lineStart (openGroupLine leader outer name inner).toList =
      ofKind (kindAt .lineStart (.bare .command leader 0)) (.bare .command leader 0) ::
        (outer.map (fun text => ofLexeme (literal 0 text)) ++
          ofLexeme (groupOpener 0) :: ofLexeme (.bare .command name 0) ::
            inner.map fun text => ofLexeme (literal 0 text)) := by
  obtain ⟨outside, inside⟩ := List.forall_mem_append.mp plain
  have chars : (openGroupLine leader outer name inner).toList = leader.toList ++
      (quotedChars outer ++ ' ' :: '\x7b' :: (name.toList ++ (quotedChars inner ++ []))) := by
    simp [openGroupLine, quotedWordsChars]
  have brace : ∀ c ∈ (' ' :: '\x7b' :: (name.toList ++ (quotedChars inner ++ []))).head?,
      isWord c = false := by
    intro c head
    cases Option.some.inj head
    decide
  rw [chars, readWord leads .lineStart (quotedBounds outer brace), readQuoted outside, readSpace,
    readMark Lexeme.openerMarks, readWord named _ (quotedBounds inner (by simp)),
    readQuoted inside, readEnd, List.append_nil]
  rfl

structure OpenGroup (leader : String) (outer : List String) (name : String) (inner : List String)
    (first : Token) (outside : List Token) (opener command : Token) (inside : List Token) :
    Prop where
  leads : first.kind = kindAt .lineStart (.bare .command leader 0)
  opens : opener.role = .opens .group
  isCommand : command.kind = .command
  named : command.value = name
  strings : ∀ t ∈ outside ++ inside, t.kind = .string
  outerLength : outside.length = outer.length
  innerLength : inside.length = inner.length

theorem kindOfLiterals {tokens : List Token} {texts : List String}
    (read : tokens.map unplaced = texts.map fun text => ofLexeme (literal 0 text)) :
    (∀ t ∈ tokens, t.kind = .string) ∧ tokens.length = texts.length := by
  constructor
  · intro t member
    have same := List.mem_map_of_mem (f := unplaced) member
    rw [read] at same
    obtain ⟨text, -, equal⟩ := List.mem_map.mp same
    exact (congrArg Token.kind equal).symm
  · simpa using congrArg List.length read

theorem ofOpenGroup {leader name : String} (leads : Word leader) (named : Word name)
    {outer inner : List String} (plain : ∀ text ∈ outer ++ inner, '\'' ∉ text.toList) :
    ∃ first outside opener command inside,
      ofSource .standard (openGroupLine leader outer name inner) =
        first :: (outside ++ opener :: command :: inside) ∧
      OpenGroup leader outer name inner first outside opener command inside := by
  have read := ofSourceRead (openGroupLine leader outer name inner)
  rw [readOpenGroup leads named plain] at read
  obtain ⟨first, rest, whole, leadsTo, read⟩ := List.map_eq_cons_iff.mp read
  obtain ⟨outside, rest, rfl, outer, read⟩ := List.map_eq_append_iff.mp read
  obtain ⟨opener, rest, rfl, opens, read⟩ := List.map_eq_cons_iff.mp read
  obtain ⟨command, inside, rfl, isCommand, inner⟩ := List.map_eq_cons_iff.mp read
  obtain ⟨outerStrings, outerLength⟩ := kindOfLiterals outer
  obtain ⟨innerStrings, innerLength⟩ := kindOfLiterals inner
  exact ⟨first, outside, opener, command, inside, whole, congrArg Token.kind leadsTo,
    congrArg Token.role opens, congrArg Token.kind isCommand, congrArg Token.value isCommand,
    List.forall_mem_append.mpr ⟨outerStrings, innerStrings⟩, outerLength, innerLength⟩

theorem kindOfLeader (leader : String) :
    kindAt .lineStart (.bare .command leader 0) = .string ∨
      kindAt .lineStart (.bare .command leader 0) = .command := by
  cases digit : leader.toList.head?.any Char.isDigit <;> simp [kindAt, Lexeme.bare, digit]

section OpenGroup

variable {leader name : String} {outer inner : List String} {first opener command : Token}
  {outside inside : List Token}

theorem OpenGroup.isOperand
    (parts : OpenGroup leader outer name inner first outside opener command inside) :
    ∀ t ∈ operands (first :: outside) ++ inside, t.kind.isOperand = true := by
  have strings : ∀ t ∈ outside ++ inside, t.kind.isOperand = true := by
    intro t member
    rw [parts.strings t member]
    rfl
  obtain ⟨outer, inner⟩ := List.forall_mem_append.mp strings
  refine List.forall_mem_append.mpr ⟨fun t member => ?_, inner⟩
  obtain ⟨member, role⟩ := List.mem_filter.mp member
  rcases List.mem_cons.mp member with rfl | later
  · rcases kindOfLeader leader with literal | command
    · rw [parts.leads, literal]
      rfl
    · rw [Token.role, parts.leads, command] at role
      contradiction
  · exact outer t later

theorem OpenGroup.operandsBefore
    (parts : OpenGroup leader outer name inner first outside opener command inside) :
    (operands (first :: outside)).length = literalsBefore leader outer := by
  have kept : operands outside = outside := by
    refine List.filter_eq_self.mpr fun t member => ?_
    rw [role, parts.strings t (List.mem_append_left _ member)]
    rfl
  rw [operandsCons, kept, role, parts.leads, List.length_append, parts.outerLength, Nat.add_comm,
    literalsBefore]
  cases digit : leader.toList.head?.any Char.isDigit <;>
    simp [kindAt, Lexeme.bare, LexemeKind.role, digit]

end OpenGroup

end Token

namespace Engine
open Hint

theorem openGroupHint {engine : Engine σ} (standard : engine.symbols = .standard)
    {command : Command σ} (registered : engine.registry.command? command.name = some command)
    (visible : command.hidden = false) (accepts : 0 < command.arity) {leader : String}
    (leads : Lexeme.Word leader) (named : Lexeme.Word command.name) {outer inner : List String}
    (plain : ∀ text ∈ outer ++ inner, '\'' ∉ text.toList) (filled : inner ≠ []) :
    let line := openGroupLine leader outer command.name inner
    ∃ last, (Token.ofSource .standard line).getLast? = some last ∧ last.kind = .string ∧
      engine.hint? line line.utf8ByteSize = some ⟨command,
        min command.arity (literalsBefore leader outer + inner.length), last⟩ := by
  intro line
  obtain ⟨first, outside, opener, name, inside, whole, parts⟩ :=
    Token.ofOpenGroup leads named plain
  have typed : inside ≠ [] := by
    rintro rfl
    exact filled (List.length_eq_zero_iff.mp parts.innerLength.symm)
  obtain ⟨front, last, rfl⟩ := (List.eq_nil_or_concat' inside).resolve_left typed
  have roles : ∀ t ∈ outside ++ (front ++ [last]), t.role = .operand := by
    intro t member
    rw [Token.role, parts.strings t member]
    rfl
  have leading : first.role = .operand ∨ first.kind = .command := by
    rw [Token.role, parts.leads]
    exact (Token.kindOfLeader leader).imp_left fun literal => congrArg LexemeKind.role literal
  obtain ⟨waiting, order⟩ := Rpn.ofOpenGroup leading parts.opens parts.isCommand roles
  have apart := Rpn.arrangedApart (whole ▸ Token.increasing .standard line) order
  have ends : Token.ofSource .standard line =
      (first :: (outside ++ opener :: name :: front)) ++ [last] := by
    rw [whole]
    simp
  have isString : last.kind = .string := parts.strings last (by simp)
  have located := locateLast ends (by rw [isString]; rfl)
  have isOperand := parts.isOperand
  rw [← List.append_assoc] at isOperand
  rw [← List.append_assoc, ← List.append_assoc] at order apart
  refine ⟨last, by rw [ends, List.getLast?_concat], isString, ?_⟩
  have isEnabled := Registry.foundEnabled registered
  have hinted := followArguments parts.isCommand (parts.named ▸ registered) visible accepts isOperand
    apart
  have count : (Token.operands (first :: outside) ++ front).length + 1 =
      literalsBefore leader outer + inner.length := by
    have size := parts.innerLength
    rw [List.length_append, List.length_singleton] at size
    rw [List.length_append, parts.operandsBefore]
    omega
  rw [hint?, if_pos isEnabled, standard, Hint.ofTokens?, located, whole, order, ← count]
  exact hinted

def pairCommand : Command Scene :=
  ⟨"pair", "", false, [⟨"a", .object⟩, ⟨"b", .object⟩],
    .host none fun scene _ arguments => (.value (.list arguments), scene)⟩

def pairConsole : Engine Scene :=
  { plainConsole with
    registry := { plainConsole.registry with
      commands := plainConsole.registry.commands ++ [pairCommand] } }

theorem crowdedGroupHint :
    let line := openGroupLine "echo" ["x"] "pair" ["a", "b"]
    ∃ last, (Token.ofSource .standard line).getLast? = some last ∧ last.kind = .string ∧
      pairConsole.hint? line line.utf8ByteSize = some ⟨pairCommand, 2, last⟩ := by
  have registered : pairConsole.registry.command? pairCommand.name = some pairCommand := by cbv
  have leads : Lexeme.Word "echo" := ⟨by decide, List.all_eq_true.mp (by decide)⟩
  have named : Lexeme.Word pairCommand.name := ⟨by decide, List.all_eq_true.mp (by decide)⟩
  have plain : ∀ text ∈ ["x"] ++ ["a", "b"], '\'' ∉ text.toList := by decide
  exact openGroupHint rfl registered rfl (by decide) leads named plain (by decide)

/- The operand before the group fills the first parameter, and the group's own only the second. -/
theorem outerOperandComesFirst :
    plainConsole.registry.registerCommand pairCommand =
      .ok (pairConsole.registry, [.registered "pair"]) ∧
    pairConsole.registry.isEnabled = true ∧ pairConsole.symbols = .standard ∧
    pairConsole.registry.command? "echo" = some echoCommand ∧
    pairConsole.registry.command? "pair" = some pairCommand ∧
    pairCommand.hidden = false ∧ pairCommand.isStatic = true ∧ pairCommand.arity = 2 ∧
    openGroupLine "echo" ["x"] "pair" ["a"] = "echo 'x' \x7bpair 'a'" ∧
    pairConsole.hint? "echo 'x' \x7bpair 'a'" 18 =
      some ⟨pairCommand, 2, .ofLexeme ⟨.string, "a", 15, "'", "'"⟩⟩ := by
  have lexemes : Lexeme.scan .standard "echo 'x' \x7bpair 'a'" =
      [.bare .command "echo" 0, ⟨.string, "x", 5, "'", "'"⟩, .bare .openGroup "\x7b" 9,
        .bare .command "pair" 10, ⟨.string, "a", 15, "'", "'"⟩] := by cbv
  refine ⟨if_neg (by decide), rfl, rfl, by cbv, by cbv, rfl, rfl, rfl, by decide, ?_⟩
  exact (hintScanned pairConsole rfl lexemes 18).trans rfl

end Engine
end LiveConsole
