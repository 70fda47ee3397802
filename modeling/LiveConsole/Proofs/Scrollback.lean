import LiveConsole.Log
import Mathlib.Data.List.DropRight
import Mathlib.Data.List.Forall2

/-! The scrollback keeps the newest of what was written to it, and a log without room keeps one
entry. Those who share a log write to it and drain it in any order: each drain hands out the newest
of what was written since the drain before, so nothing comes twice, and nothing is lost as long as
there was room for it. -/
namespace LiveConsole

structure Newest (room : Nat) (kept written : List LogEntry) : Prop where
  suffix : kept <:+ written
  length : kept.length = min written.length room

namespace Newest

variable {room : Nat} {kept written : List LogEntry}

theorem bounded (newest : Newest room kept written) : kept.length ≤ room :=
  newest.length.trans_le (Nat.min_le_right ..)

theorem whole (newest : Newest room kept written) (fits : written.length ≤ room) :
    kept = written :=
  newest.suffix.eq_of_length (newest.length.trans (Nat.min_eq_left fits))

theorem nothing (room : Nat) : Newest room [] [] := ⟨List.suffix_rfl, (Nat.zero_min _).symm⟩

theorem append (newest : Newest room kept written) (space : kept.length < room)
    (entry : LogEntry) : Newest room (kept ++ [entry]) (written ++ [entry]) := by
  have length := newest.length
  have fits : written.length < room := by omega
  rw [newest.whole fits.le]
  refine ⟨List.suffix_rfl, ?_⟩
  rw [List.length_append, List.length_singleton]
  omega

theorem evict (newest : Newest room kept written) (full : kept.length = room) (holds : 0 < room)
    (entry : LogEntry) : Newest room (kept.drop 1 ++ [entry]) (written ++ [entry]) := by
  have length := newest.length
  refine ⟨?_, ?_⟩
  · obtain ⟨older, rfl⟩ := (List.drop_suffix 1 kept).trans newest.suffix
    exact ⟨older, (List.append_assoc ..).symm⟩
  · rw [List.length_append, List.length_append, List.length_drop, List.length_singleton]
    omega

end Newest

namespace MessageLog

structure Keeps (capacity : Nat) (written : List LogEntry) (log : MessageLog) : Prop where
  room : log.capacity = max capacity 1
  newest : Newest (max capacity 1) log.entries written

theorem emptyKeeps (capacity : Nat) : Keeps capacity [] (empty capacity) := ⟨rfl, .nothing _⟩

section Kept
variable {capacity : Nat} {written : List LogEntry} {log : MessageLog}

theorem Keeps.push (keeps : Keeps capacity written log) (entry : LogEntry) :
    Keeps capacity (written ++ [entry]) (log.push entry) := by
  unfold MessageLog.push
  split
  · rename_i full
    refine ⟨keeps.room, keeps.newest.evict (full.trans keeps.room) ?_ entry⟩
    exact Nat.lt_of_lt_of_le Nat.one_pos (Nat.le_max_right ..)
  · rename_i space
    rw [keeps.room] at space
    exact ⟨keeps.room, keeps.newest.append (Nat.lt_of_le_of_ne keeps.newest.bounded space) entry⟩

theorem Keeps.clear (keeps : Keeps capacity written log) : Keeps capacity [] log.clear :=
  ⟨keeps.room, .nothing _⟩

end Kept

inductive Action where
  | push (level : LogLevel) (text : String)
  | emit (text : String) (level : LogLevel)
  | clear
  deriving DecidableEq, Repr

def perform (log : MessageLog) : Action → MessageLog
  | .push level text => log.push ⟨level, text⟩
  | .emit text level => log.emit text level
  | .clear => log.clear

def performAll (log : MessageLog) (actions : List Action) : MessageLog := actions.foldl perform log

def Action.entry? : Action → Option LogEntry
  | push level text => some ⟨level, text⟩
  | emit text level => some ⟨level, text⟩
  | clear => none

def written (actions : List Action) : List LogEntry :=
  (actions.rtakeWhile (· ≠ .clear)).filterMap Action.entry?

theorem writtenCleared (actions : List Action) : written (actions ++ [.clear]) = [] := by
  rw [written, List.rtakeWhile_concat_neg _ _ _ (by decide)]
  rfl

theorem writtenPushed {action : Action} {entry : LogEntry} (pushes : action.entry? = some entry)
    (actions : List Action) : written (actions ++ [action]) = written actions ++ [entry] := by
  have kept : action ≠ .clear := by
    rintro rfl
    contradiction
  rw [written, List.rtakeWhile_concat_pos _ _ _ (by simpa using kept), List.filterMap_append]
  simp [written, pushes]

theorem performKeeps (capacity : Nat) (actions : List Action) :
    Keeps capacity (written actions) ((empty capacity).performAll actions) := by
  induction actions using List.reverseRecOn with
  | nil => exact emptyKeeps capacity
  | append_singleton actions action ih =>
    rw [performAll, List.foldl_concat]
    cases action with
    | push level text =>
      rw [writtenPushed rfl]
      exact ih.push ⟨level, text⟩
    | emit text level =>
      rw [writtenPushed rfl]
      exact ih.push ⟨level, text⟩
    | clear =>
      rw [writtenCleared]
      exact ih.clear

end MessageLog

inductive LogRequest where
  | emit (text : String) (level : LogLevel)
  | drain
  deriving DecidableEq, Repr

inductive LogTurn where
  | emitted (clone : Nat) (entry : LogEntry)
  | drained (clone : Nat) (entries : List LogEntry)
  deriving DecidableEq, Repr

def LogTurn.emission? : LogTurn → Option LogEntry
  | emitted _ entry => some entry
  | drained .. => none

def LogTurn.return? : LogTurn → Option (List LogEntry)
  | emitted .. => none
  | drained _ entries => some entries

structure SharedLog where
  log : MessageLog
  waiting : List (List LogRequest)
  deriving DecidableEq, Repr

namespace SharedLog

/- Whose turn it is, is open. A turn has the log to itself until it is over. -/
inductive Step : SharedLog → LogTurn → SharedLog → Prop where
  | emit {shared : SharedLog} (clone : Nat) {text : String} {level : LogLevel}
      {later : List LogRequest} (next : shared.waiting[clone]? = some (.emit text level :: later)) :
      Step shared (.emitted clone ⟨level, text⟩)
        ⟨shared.log.emit text level, shared.waiting.set clone later⟩
  | drain {shared : SharedLog} (clone : Nat) {later : List LogRequest}
      (next : shared.waiting[clone]? = some (.drain :: later)) :
      Step shared (.drained clone shared.log.drain.1)
        ⟨shared.log.drain.2, shared.waiting.set clone later⟩

inductive Runs : SharedLog → List LogTurn → SharedLog → Prop where
  | done (shared : SharedLog) : Runs shared [] shared
  | turn {first next last : SharedLog} {turn : LogTurn} {turns : List LogTurn}
      (step : Step first turn next) (rest : Runs next turns last) :
      Runs first (turn :: turns) last

def emissions (turns : List LogTurn) : List LogEntry := turns.filterMap LogTurn.emission?

def returns (turns : List LogTurn) : List (List LogEntry) := turns.filterMap LogTurn.return?

/- What is emitted from one drain to the next, and behind the last. The first batch begins with what
was there before. -/
def batches (since : List LogEntry) : List LogTurn → List (List LogEntry)
  | [] => [since]
  | .emitted _ entry :: turns => batches (since ++ [entry]) turns
  | .drained .. :: turns => since :: batches [] turns

theorem batchesTogether (since : List LogEntry) (turns : List LogTurn) :
    (batches since turns).flatten = since ++ emissions turns := by
  induction turns generalizing since with
  | nil => simp [batches, emissions]
  | cons turn turns ih =>
    cases turn with
    | emitted clone entry =>
      rw [batches, ih, List.append_assoc]
      rfl
    | drained clone entries =>
      rw [batches, List.flatten_cons, ih]
      rfl

theorem Runs.newest {capacity : Nat} {first last : SharedLog} {turns : List LogTurn}
    (runs : Runs first turns last) {since : List LogEntry}
    (keeps : MessageLog.Keeps capacity since first.log) :
    List.Forall₂ (Newest (max capacity 1)) (returns turns ++ [last.log.snapshot])
      (batches since turns) := by
  induction runs generalizing since with
  | done shared => exact .cons keeps.newest .nil
  | turn step rest ih =>
    cases step with
    | emit clone next => exact ih (keeps.push _)
    | drain clone next => exact .cons keeps.newest (ih keeps.clear)

section Batches
variable {room : Nat} {kept written : List (List LogEntry)}

theorem newestSublist (newest : List.Forall₂ (Newest room) kept written) :
    kept.flatten.Sublist written.flatten := by
  induction newest with
  | nil => exact .refl _
  | cons head tail ih => exact head.suffix.sublist.append ih

theorem newestWhole (newest : List.Forall₂ (Newest room) kept written)
    (fits : ∀ batch ∈ written, batch.length ≤ room) : kept = written := by
  induction newest with
  | nil => rfl
  | cons head tail ih =>
    obtain ⟨short, shorter⟩ := List.forall_mem_cons.mp fits
    rw [head.whole short, ih shorter]

end Batches

structure Drains (capacity : Nat) (turns : List LogTurn) (last : SharedLog) : Prop where
  newest : List.Forall₂ (Newest (max capacity 1)) (returns turns ++ [last.log.snapshot])
    (batches [] turns)
  once : ((returns turns).flatten ++ last.log.snapshot).Sublist (emissions turns)
  lossless : (∀ batch ∈ batches [] turns, batch.length ≤ max capacity 1) →
    (returns turns).flatten ++ last.log.snapshot = emissions turns

theorem Runs.drains {capacity : Nat} {waiting : List (List LogRequest)} {turns : List LogTurn}
    {last : SharedLog} (runs : Runs ⟨.empty capacity, waiting⟩ turns last) :
    Drains capacity turns last := by
  have newest := runs.newest (MessageLog.emptyKeeps capacity)
  have together : (batches [] turns).flatten = emissions turns := batchesTogether [] turns
  refine ⟨newest, ?_, fun fits => ?_⟩
  · rw [← together, ← List.flatten_concat]
    exact newestSublist newest
  · rw [← together, ← List.flatten_concat, newestWhole newest fits]

theorem newestAreKept (capacity : Nat) :
    (∀ actions, Newest (max capacity 1) ((MessageLog.empty capacity).performAll actions).entries
      (MessageLog.written actions)) ∧
    ∀ {waiting : List (List LogRequest)} {turns : List LogTurn} {last : SharedLog},
      Runs ⟨.empty capacity, waiting⟩ turns last → Drains capacity turns last :=
  ⟨fun actions => (MessageLog.performKeeps capacity actions).newest, Runs.drains⟩

theorem secondIsKept :
    ∃ turns last, Runs ⟨.empty 2, [[.emit "a" .log, .emit "b" .warning, .emit "c" .log,
        .emit "d" .log], [.drain]]⟩ turns last ∧
      returns turns = [[⟨.warning, "b"⟩, ⟨.log, "c"⟩]] ∧ last.log.snapshot = [⟨.log, "d"⟩] ∧
      Drains 2 turns last := by
  have runs : Runs ⟨.empty 2, [[.emit "a" .log, .emit "b" .warning, .emit "c" .log,
      .emit "d" .log], [.drain]]⟩ _ _ :=
    .turn (.emit 0 rfl) (.turn (.emit 0 rfl) (.turn (.emit 0 rfl) (.turn (.drain 1 rfl)
      (.turn (.emit 0 rfl) (.done _)))))
  exact ⟨_, _, runs, rfl, rfl, (newestAreKept 2).2 runs⟩

end SharedLog
end LiveConsole
