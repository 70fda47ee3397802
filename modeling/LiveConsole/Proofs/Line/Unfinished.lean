import LiveConsole.Proofs.Line.Conservation
import LiveConsole.Proofs.Line.Grouped
import LiveConsole.Proofs.Line.Occurrence

/-! A line while it is typed, beside the same line with its open brackets closed. Up to the
operators that wait for the rest of the line both are arranged alike. Of those that wait, an open
bracket stays in the order of the first line; in that of the second the command of its index stands
in its place, and nothing in the place of a group. -/
namespace LiveConsole
open String (utf8Len)

namespace Rpn

structure Pauses (operators tokens done waiting : List Token) : Prop where
  free : ∀ t ∈ done, t.isBarrier = false
  resumes : ∀ later, arrange? operators (tokens ++ later) =
    (arrange? waiting later).map (done ++ ·)

theorem Pauses.arranged {operators tokens done waiting : List Token}
    (pauses : Pauses operators tokens done waiting) :
    arrange? operators tokens = some (done ++ waiting) := by
  have ended := pauses.resumes []
  rwa [List.append_nil] at ended

theorem Pauses.start (operators : List Token) : Pauses operators [] [] operators :=
  ⟨by simp, by simp⟩

theorem Pauses.after {operators next rest done waiting : List Token} {token : Token}
    (tail : Pauses next rest done waiting) {front : List Token}
    (free : ∀ t ∈ front, t.isBarrier = false)
    (step : ∀ later, arrange? operators (token :: later) = (arrange? next later).map (front ++ ·)) :
    Pauses operators (token :: rest) (front ++ done) waiting := by
  refine ⟨fun t member => ?_, fun later => ?_⟩
  · exact (List.mem_append.mp member).elim (free t) (tail.free t)
  · rw [List.cons_append, step, tail.resumes, Option.map_map]
    simp [Function.comp_def]

theorem unwindInnermost {bracket : Bracket} {outer : List Bracket} {operators : List Token}
    (innermost : opened operators = bracket :: outer) :
    ∃ above opener below, unwind? bracket.opener operators = some (above, opener, below) ∧
      opened below = outer := by
  have unwound := unwindOpened bracket operators
  rw [innermost, Bracket.close?, if_pos rfl] at unwound
  obtain ⟨⟨above, opener, below⟩, found, rest⟩ := Option.map_eq_some_iff.mp unwound
  exact ⟨above, opener, below, found, rest⟩

theorem commandFree (bracket : Bracket) (opener : Token) :
    ∀ t ∈ bracket.command opener, t.isBarrier = false := by
  cases bracket <;> simp [Bracket.command, Token.isBarrier, Token.synthetic, Token.ofLexeme,
    Token.ofKind, Lexeme.bare, LexemeKind.isBarrier]

theorem pauses (operators : List Token) {tokens : List Token} {brackets : List Bracket}
    (consistent : Token.openAfter? (opened operators) tokens = some brackets) :
    ∃ done waiting, Pauses operators tokens done waiting ∧ opened waiting = brackets := by
  induction tokens generalizing operators with
  | nil => exact ⟨[], operators, .start operators, Option.some.inj consistent⟩
  | cons token rest ih =>
    cases role : token.role with
    | operand =>
      rw [Token.openAfter?, role] at consistent
      obtain ⟨done, waiting, tail, ends⟩ := ih _ consistent
      have free : token.isBarrier = false := Token.freeUnlessOpens fun bracket => by simp [role]
      exact ⟨[token] ++ done, waiting,
        tail.after (by simpa using free) (arrangeOperand role operators), ends⟩
    | operator =>
      have released := openedFree (releaseFree token.priority operators)
        (release token.priority operators).2
      rw [releaseJoined] at released
      rw [Token.openAfter?, role, released, ← openedOperator role] at consistent
      obtain ⟨done, waiting, tail, ends⟩ := ih _ consistent
      exact ⟨_, waiting,
        tail.after (releaseFree token.priority operators) (arrangeOperator role operators), ends⟩
    | opens bracket =>
      rw [Token.openAfter?, role] at consistent
      have entered : Token.openAfter? (opened (token :: operators)) rest = some brackets := by
        rw [openedOpens role]
        exact consistent
      obtain ⟨done, waiting, tail, ends⟩ := ih _ entered
      refine ⟨[] ++ done, waiting, tail.after (by simp) fun later => ?_, ends⟩
      rw [arrangeOpens role]
      simp
    | closes bracket =>
      rw [Token.openAfterCloses role] at consistent
      obtain ⟨outer, closed, follows⟩ := Option.bind_eq_some_iff.mp consistent
      obtain ⟨above, opener, below, unwound, rfl⟩ := unwindInnermost (Bracket.closeSome closed)
      obtain ⟨done, waiting, tail, ends⟩ := ih _ follows
      refine ⟨above ++ bracket.command opener ++ done, waiting, tail.after ?_ fun later => ?_, ends⟩
      · intro t member
        rcases List.mem_append.mp member with inner | command
        · exact (unwindParts unwound).2.1 t inner
        · exact commandFree bracket opener t command
      · rw [arrangeCloses role, unwound]
        rfl

theorem freeOfOpened {operators : List Token} (none : opened operators = []) :
    ∀ t ∈ operators, t.isBarrier = false := by
  intro t member
  refine Token.freeUnlessOpens fun bracket opens => ?_
  have nothing := List.filterMap_eq_nil_iff.mp none t member
  rw [Token.bracket?, opens] at nothing
  contradiction

theorem arrangeClosers (operators : List Token) {closers : List Token}
    (closing : closers.map Token.role = (opened operators).map Role.closes) :
    arrange? operators closers = some (settled (fun _ => true) operators) := by
  induction closers generalizing operators with
  | nil =>
    have free := freeOfOpened (List.map_eq_nil_iff.mp closing.symm)
    have same := settledFree free (fun _ => true) []
    rw [List.append_nil] at same
    rw [same]
    simp [arrange?, settled]
  | cons closer rest ih =>
    cases innermost : opened operators with
    | nil =>
      rw [innermost] at closing
      contradiction
    | cons bracket outer =>
      rw [innermost, List.map_cons, List.map_cons] at closing
      obtain ⟨closes, later⟩ := List.cons.inj closing
      obtain ⟨above, opener, below, unwound, rfl⟩ := unwindInnermost innermost
      obtain ⟨rfl, free, opens⟩ := unwindParts unwound
      rw [arrangeCloses closes, unwound, Option.bind_some, settledFree free, settledOpens opens,
        if_pos rfl]
      dsimp only
      rw [ih _ later, Option.map_some, List.append_assoc]

theorem ofTokensFilled {tokens : List Token} (filled : tokens ≠ []) :
    ofTokens? tokens = arrange? [] tokens := by
  rw [ofTokens?, if_neg (by simpa using filled)]

theorem settledMember {closes : Nat → Bool} {operators : List Token} {t : Token}
    (member : t ∈ settled closes operators) :
    t ∈ operators ∨ ∃ opener ∈ operators, ∃ bracket, opener.role = .opens bracket ∧
      t ∈ bracket.command opener := by
  induction operators generalizing closes with
  | nil => contradiction
  | cons operator below ih =>
    have deeper {closes : Nat → Bool} (member : t ∈ settled closes below) :
        t ∈ operator :: below ∨ ∃ opener ∈ operator :: below, ∃ bracket,
          opener.role = .opens bracket ∧ t ∈ bracket.command opener :=
      (ih member).imp (List.mem_cons_of_mem operator) fun ⟨opener, inside, arises⟩ =>
        ⟨opener, List.mem_cons_of_mem operator inside, arises⟩
    cases barrier : operator.isBarrier with
    | false =>
      rw [settledPasses barrier] at member
      rcases List.mem_cons.mp member with rfl | later
      · exact .inl List.mem_cons_self
      · exact deeper later
    | true =>
      obtain ⟨bracket, opens⟩ := (Token.isBarrierIff operator).mp barrier
      rw [settledOpens opens] at member
      rcases List.mem_append.mp member with here | later
      · split at here
        · exact .inr ⟨operator, List.mem_cons_self, bracket, opens, here⟩
        · exact .inl (List.mem_singleton.mp here ▸ List.mem_cons_self)
      · exact deeper later

theorem settledFiltered (keeps : Token → Bool) {operators : List Token}
    (drops : ∀ t ∈ operators, ∀ bracket, t.role = .opens bracket →
      keeps t = false ∧ ∀ command ∈ bracket.command t, keeps command = false)
    (closes : Nat → Bool) :
    (settled closes operators).filter keeps = operators.filter keeps := by
  induction operators generalizing closes with
  | nil => rfl
  | cons operator below ih =>
    obtain ⟨here, deeper⟩ := List.forall_mem_cons.mp drops
    cases barrier : operator.isBarrier with
    | false =>
      rw [settledPasses barrier, List.filter_cons, List.filter_cons, ih deeper]
    | true =>
      obtain ⟨bracket, opens⟩ := (Token.isBarrierIff operator).mp barrier
      obtain ⟨dropped, commands⟩ := here bracket opens
      have nothing : (bracket.command operator).filter keeps = [] :=
        List.filter_eq_nil_iff.mpr fun command member => by simp [commands command member]
      rw [settledOpens opens, List.filter_append, ih deeper,
        List.filter_cons_of_neg (by simp [dropped])]
      split <;> simp [nothing, dropped]

theorem settledFront (closes : Nat → Bool) (operators : List Token) :
    settled closes operators = operators.takeWhile (fun t => !t.isBarrier) ++
      settled closes (operators.dropWhile fun t => !t.isBarrier) := by
  have free : ∀ t ∈ operators.takeWhile fun t => !t.isBarrier, t.isBarrier = false :=
    fun t member => by simpa using List.mem_takeWhile_imp member
  rw [← settledFree free, List.takeWhile_append_dropWhile]

theorem finishes {tokens closers : List Token} {brackets : List Bracket} (filled : tokens ≠ [])
    (consistent : Token.openAfter? [] tokens = some brackets)
    (closing : closers.map Token.role = brackets.map Role.closes) :
    ∃ order, ofTokens? tokens = some order ∧
      ofTokens? (tokens ++ closers) = some (settled (fun _ => true) order) ∧
      opened order = brackets := by
  obtain ⟨done, waiting, paused, ends⟩ := pauses [] consistent
  have closed := arrangeClosers waiting (ends.symm ▸ closing)
  refine ⟨done ++ waiting, ?_, ?_, (openedFree paused.free waiting).trans ends⟩
  · rw [ofTokensFilled filled, paused.arranged]
  · rw [ofTokensFilled (by simp [filled]), paused.resumes, closed, settledFree paused.free]
    rfl

end Rpn

def Bracket.closer : Bracket → LexemeKind
  | group => .closeGroup
  | index => .closeIndex

namespace Symbols

def closing (symbols : Symbols) : Bracket → Char
  | .group => symbols.groupClose
  | .index => symbols.indexClose

theorem standardCloses (bracket : Bracket) :
    standard.Marks (standard.closing bracket) bracket.closer := by
  cases bracket <;> constructor <;> decide

end Symbols

def finishedLine (symbols : Symbols) (source : String) (brackets : List Bracket) : String :=
  source ++ String.ofList (brackets.map symbols.closing)

namespace Token

theorem ofLexemesJoined (place : Place) (front back : List Lexeme) :
    ∃ later, ofLexemesAt place (front ++ back) =
      ofLexemesAt place front ++ ofLexemesAt later back := by
  induction front generalizing place with
  | nil => exact ⟨place, rfl⟩
  | cons l rest ih =>
    obtain ⟨later, joined⟩ := ih (placeAfter l)
    exact ⟨later, by simp [ofLexemesAt, joined]⟩

theorem ofMarks {symbols : Symbols} {brackets : List Bracket}
    (marks : ∀ bracket ∈ brackets, symbols.Marks (symbols.closing bracket) bracket.closer)
    (place : Place) (position : Nat) :
    (ofLexemesAt place (Lexeme.scanFrom symbols position
      (brackets.map symbols.closing))).map role = brackets.map Role.closes := by
  induction brackets generalizing place position with
  | nil => simp [Lexeme.scanFrom, ofLexemesAt]
  | cons bracket outer ih =>
    obtain ⟨marked, others⟩ := List.forall_mem_cons.mp marks
    have kind : kindAt place (.bare bracket.closer (symbols.closing bracket).toString position) =
        bracket.closer := kindAtOther place marked.fixed
    rw [List.map_cons, Lexeme.scanMark marked, ofLexemesAt, kind, List.map_cons, List.map_cons,
      ih others]
    cases bracket <;> rfl

theorem ofFinishedLine {symbols : Symbols} {source : String} {brackets : List Bracket}
    (marks : ∀ bracket ∈ brackets, symbols.Marks (symbols.closing bracket) bracket.closer)
    (ended : ∀ l ∈ (Lexeme.scan symbols source).getLast?, ¬ l.Unclosed) :
    ∃ closers, ofSource symbols (finishedLine symbols source brackets) =
        ofSource symbols source ++ closers ∧
      closers.map role = brackets.map Role.closes ∧
      ∀ t ∈ closers, source.utf8ByteSize ≤ t.position := by
  have chars : (finishedLine symbols source brackets).toList =
      source.toList ++ brackets.map symbols.closing := by simp [finishedLine]
  have bounds : symbols.Bounds (brackets.map symbols.closing) := by
    cases brackets with
    | nil => simp [Symbols.Bounds]
    | cons bracket outer => exact (marks bracket List.mem_cons_self).bounds _
  have cut : Lexeme.scan symbols (finishedLine symbols source brackets) =
      Lexeme.scan symbols source ++ Lexeme.scanFrom symbols source.utf8ByteSize
        (brackets.map symbols.closing) := by
    rw [Lexeme.scan, chars, Lexeme.scanFromAppend bounds ended, Nat.zero_add,
      String.utf8Len_toList]
    rfl
  obtain ⟨later, joined⟩ := ofLexemesJoined .lineStart (Lexeme.scan symbols source)
    (Lexeme.scanFrom symbols source.utf8ByteSize (brackets.map symbols.closing))
  refine ⟨_, by rw [ofSource, ofLexemes, cut]; exact joined, ofMarks marks later _, ?_⟩
  intro t member
  have lexeme := List.mem_map_of_mem (f := Token.lexeme) member
  rw [lexemesOf] at lexeme
  exact (Lexeme.scanCovers symbols _ _).startsAfter t.lexeme lexeme

end Token
end LiveConsole
