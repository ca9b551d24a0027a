import DevHub.Communication.Looper

/-!
An event looper that schedules and cancels correctly: a scheduled timer gets an id
that was never answered before and stays pending until its id is cancelled, and
nothing else changes. `TimerTable` is the plain table of timers that does so.
-/

namespace DevHub.CorrectLooper

open Looper

set_option autoImplicit false

/-- `issued` are the ids that `ScheduleTimer` has answered; `-1` is none of them. -/
class CorrectEventLooper (Looper : Type) {Sink : outParam Type} [EventLooper Looper Sink] where
  start : Looper
  issued : Looper → Int → Prop
  start_pending : EventLooper.pending start = []
  issued_ne : ∀ (looper : Looper) tid, issued looper tid → tid ≠ -1
  pending_issued : ∀ (looper : Looper), ∀ te ∈ EventLooper.pending looper, issued looper te.id
  schedule_fresh : ∀ (looper : Looper) tv flag sink,
    ¬ issued looper (EventLooper.scheduleTimer looper tv flag sink).1
  schedule_issued : ∀ (looper : Looper) tv flag sink tid,
    issued (EventLooper.scheduleTimer looper tv flag sink).2 tid ↔
      tid = (EventLooper.scheduleTimer looper tv flag sink).1 ∨ issued looper tid
  schedule_pending : ∀ (looper : Looper) tv flag sink,
    EventLooper.pending (EventLooper.scheduleTimer looper tv flag sink).2 =
      EventLooper.pending looper ++
        [{ id := (EventLooper.scheduleTimer looper tv flag sink).1, sink := sink, flag := flag,
           interval := tv }]
  cancel_issued : ∀ (looper : Looper) tid other,
    issued (EventLooper.cancelTimer looper tid) other ↔ issued looper other
  cancel_pending : ∀ (looper : Looper) tid,
    EventLooper.pending (EventLooper.cancelTimer looper tid) =
      (EventLooper.pending looper).filter fun te => te.id != tid

/-- The pending timers by increasing id, all of them below the next one. -/
structure TimerTable (Sink : Type) where
  timers : List (TimerElement Sink)
  nextId : Int
  positive : 1 ≤ nextId
  counted : ∀ te ∈ timers, 1 ≤ te.id ∧ te.id < nextId

variable {Sink : Type}

namespace TimerTable

def empty : TimerTable Sink where
  timers := []
  nextId := 1
  positive := by decide
  counted te member := by cases member

def schedule (table : TimerTable Sink) (tv : Timeval) (flag : TimerFlag) (sink : Sink) :
    Int × TimerTable Sink :=
  let te : TimerElement Sink :=
    { id := table.nextId, sink := sink, flag := flag, interval := tv }
  (table.nextId,
    { timers := table.timers ++ [te]
      nextId := table.nextId + 1
      positive := by
        have positive := table.positive
        omega
      counted := by
        intro other member
        have positive := table.positive
        rcases List.mem_append.mp member with older | new
        · have earlier := table.counted other older
          omega
        · rw [List.mem_singleton.mp new]
          simp only [te]
          omega })

def cancel (table : TimerTable Sink) (tid : Int) : TimerTable Sink where
  timers := table.timers.filter fun te => te.id != tid
  nextId := table.nextId
  positive := table.positive
  counted te member := table.counted te (List.mem_filter.mp member).1

end TimerTable

instance : EventLooper (TimerTable Sink) Sink where
  scheduleTimer := TimerTable.schedule
  cancelTimer := TimerTable.cancel
  pending := TimerTable.timers

instance : CorrectEventLooper (TimerTable Sink) where
  start := TimerTable.empty
  issued table tid := 1 ≤ tid ∧ tid < table.nextId
  start_pending := rfl
  issued_ne table tid issued := by omega
  pending_issued table te member := table.counted te member
  schedule_fresh table tv flag sink issued := Int.lt_irrefl _ issued.2
  schedule_issued table tv flag sink tid := by
    have positive := table.positive
    simp only [EventLooper.scheduleTimer, TimerTable.schedule]
    omega
  schedule_pending table tv flag sink := rfl
  cancel_issued table tid other := Iff.rfl
  cancel_pending table tid := rfl

section Timers

variable {Looper : Type} [EventLooper Looper Sink] [DecidableEq Sink]

def timersOf (looper : Looper) (sink : Sink) : List (TimerElement Sink) :=
  (EventLooper.pending looper).filter fun te => te.sink = sink

theorem mem_timers_of {looper : Looper} {sink : Sink} {te : TimerElement Sink} :
    te ∈ timersOf looper sink ↔ te ∈ EventLooper.pending looper ∧ te.sink = sink := by
  simp [timersOf]

variable [correct : CorrectEventLooper Looper]

theorem timers_of_start (sink : Sink) :
    timersOf (CorrectEventLooper.start : Looper) sink = [] := by
  rw [timersOf, CorrectEventLooper.start_pending]
  rfl

theorem timers_of_issued {looper : Looper} {sink : Sink} {te : TimerElement Sink}
    (member : te ∈ timersOf looper sink) : CorrectEventLooper.issued looper te.id :=
  CorrectEventLooper.pending_issued looper te (mem_timers_of.mp member).1

theorem timers_of_schedule (looper : Looper) (tv : Timeval) (flag : TimerFlag) (sink : Sink) :
    timersOf (EventLooper.scheduleTimer looper tv flag sink).2 sink =
      timersOf looper sink ++
        [{ id := (EventLooper.scheduleTimer looper tv flag sink).1, sink := sink, flag := flag,
           interval := tv }] := by
  rw [timersOf, CorrectEventLooper.schedule_pending, List.filter_append]
  simp [timersOf]

theorem timers_of_schedule_other (looper : Looper) (tv : Timeval) (flag : TimerFlag)
    {sink other : Sink} (different : other ≠ sink) :
    timersOf (EventLooper.scheduleTimer looper tv flag sink).2 other = timersOf looper other := by
  rw [timersOf, CorrectEventLooper.schedule_pending, List.filter_append]
  simp [timersOf, Ne.symm different]

theorem timers_of_cancel (looper : Looper) (tid : Int) (sink : Sink) :
    timersOf (EventLooper.cancelTimer looper tid) sink =
      (timersOf looper sink).filter fun te => te.id != tid := by
  rw [timersOf, CorrectEventLooper.cancel_pending, timersOf, List.filter_filter, List.filter_filter]
  apply List.filter_congr
  intro te member
  exact Bool.and_comm _ _

theorem timers_of_cancel_other {looper : Looper} {tid : Int} {sink : Sink}
    (absent : ∀ te ∈ timersOf looper sink, te.id ≠ tid) :
    timersOf (EventLooper.cancelTimer looper tid) sink = timersOf looper sink := by
  rw [timers_of_cancel]
  apply List.filter_eq_self.mpr
  intro te member
  simpa using absent te member

/-- What later calls for `sink` make of a looper: new ids for its own timers only. -/
structure Later (sink : Sink) (before after : Looper) : Prop where
  issued : ∀ tid, CorrectEventLooper.issued before tid → CorrectEventLooper.issued after tid
  pending : ∀ te ∈ EventLooper.pending after, te ∈ EventLooper.pending before ∨
    (¬ CorrectEventLooper.issued before te.id ∧ te.sink = sink)

omit [DecidableEq Sink] in
theorem later_refl (sink : Sink) (looper : Looper) : Later sink looper looper :=
  ⟨fun _ issued => issued, fun _ member => Or.inl member⟩

omit [DecidableEq Sink] in
theorem Later.trans {sink : Sink} {first second third : Looper} (early : Later sink first second)
    (late : Later sink second third) : Later sink first third := by
  constructor
  · intro tid issued
    exact late.issued tid (early.issued tid issued)
  · intro te member
    rcases late.pending te member with older | ⟨fresh, own⟩
    · exact early.pending te older
    · exact Or.inr ⟨fun issued => fresh (early.issued te.id issued), own⟩

omit [DecidableEq Sink] in
theorem later_schedule (looper : Looper) (tv : Timeval) (flag : TimerFlag) (sink : Sink) :
    Later sink looper (EventLooper.scheduleTimer looper tv flag sink).2 := by
  constructor
  · intro tid issued
    exact (CorrectEventLooper.schedule_issued looper tv flag sink tid).mpr (Or.inr issued)
  · intro te member
    rw [CorrectEventLooper.schedule_pending] at member
    rcases List.mem_append.mp member with older | new
    · exact Or.inl older
    · rw [List.mem_singleton.mp new]
      exact Or.inr ⟨CorrectEventLooper.schedule_fresh looper tv flag sink, rfl⟩

omit [DecidableEq Sink] in
theorem later_cancel (looper : Looper) (tid : Int) (sink : Sink) :
    Later sink looper (EventLooper.cancelTimer looper tid) := by
  constructor
  · intro other issued
    exact (CorrectEventLooper.cancel_issued looper tid other).mpr issued
  · intro te member
    rw [CorrectEventLooper.cancel_pending] at member
    exact Or.inl (List.mem_filter.mp member).1

omit [DecidableEq Sink] in
theorem scheduled_issued (looper : Looper) (tv : Timeval) (flag : TimerFlag) (sink : Sink) :
    CorrectEventLooper.issued (EventLooper.scheduleTimer looper tv flag sink).2
      (EventLooper.scheduleTimer looper tv flag sink).1 :=
  (CorrectEventLooper.schedule_issued looper tv flag sink _).mpr (Or.inl rfl)

end Timers

end DevHub.CorrectLooper
