import Mathlib.Tactic.Common

/-!
The timer half of `EventLooperImp`: the ordered list `m_timers`, the id counter
and the libevent events that were added and not deleted. A `TimerElement` is
allocated once for each `ScheduleTimer` call and carries its id, so the id also
stands for the pointer that `std::find` and `erase` compare. A `TimerID`
is a `long` that the source only increments; it is an unbounded `Int` here.
-/

namespace DevHub.Looper

set_option autoImplicit false

inductive TimerFlag where
  | fireOnce
  | firePeriodically
  deriving DecidableEq

structure Timeval where
  sec : Int
  usec : Int
  deriving DecidableEq

structure TimerElement (Sink : Type) where
  id : Int
  sink : Sink
  flag : TimerFlag
  interval : Timeval
  deriving DecidableEq

/-- `timers` is `m_timers`, `nextId` is `m_nextID`; `pending` holds the elements
whose libevent event is added to `m_evBase`. -/
structure EventLooperImp (Sink : Type) where
  timers : List (TimerElement Sink)
  nextId : Int
  pending : List (TimerElement Sink)

variable {Sink : Type}

def EventLooperImp.empty : EventLooperImp Sink where
  timers := []
  nextId := 1
  pending := []

/-- The `for` loop of `ScheduleTimer`: the element goes in front of the first one
whose id is not smaller. -/
def insertLoop (te : TimerElement Sink) : List (TimerElement Sink) → List (TimerElement Sink)
  -- the loop ran to `end()`: no branch of the source inserts the element there
  | [] => []
  | head :: rest =>
      if head.id ≥ te.id then te :: head :: rest else head :: insertLoop te rest

def insertTimer (timers : List (TimerElement Sink)) (te : TimerElement Sink) :
    List (TimerElement Sink) :=
  match timers with
  | [] => [te]
  | _ => insertLoop te timers

/-- `eventNew` and `eventAdd` say whether the libevent calls succeed. A null
`tv` or `sink` and either failure answer -1. -/
def scheduleTimer (looper : EventLooperImp Sink) (tv : Option Timeval) (flag : TimerFlag)
    (sink : Option Sink) (eventNew eventAdd : Bool) : Int × EventLooperImp Sink :=
  match tv, sink with
  | some interval, some sink =>
      let te : TimerElement Sink :=
        { id := looper.nextId, sink := sink, flag := flag, interval := interval }
      let counted := { looper with nextId := looper.nextId + 1 }
      if eventNew = false then (-1, counted)
      else if eventAdd = false then (-1, counted)
      else
        (te.id, { counted with
          pending := looper.pending ++ [te]
          timers := insertTimer looper.timers te })
  | _, _ => (-1, looper)

/-- `erase` of the list position that a search by identity found; `none` is the
call `erase(end())`, whose behaviour is undefined. -/
def eraseFound (timers : List (TimerElement Sink)) (tid : Int) :
    Option (List (TimerElement Sink)) :=
  if timers.any (fun te => te.id == tid) then
    some (timers.eraseP (fun te => te.id == tid))
  else none

def cancelTimer (looper : EventLooperImp Sink) (tid : Int) : EventLooperImp Sink :=
  match eraseFound looper.timers tid with
  | some timers =>
      { looper with
        timers := timers
        pending := looper.pending.filter (fun te => te.id != tid) }
  | none => looper

/-- What libevent does before it calls `on_timeout`: an event without
`EV_PERSIST` is no longer added. -/
def eventFires (looper : EventLooperImp Sink) (te : TimerElement Sink) : EventLooperImp Sink :=
  match te.flag with
  | .fireOnce => { looper with pending := looper.pending.filter (fun other => other.id != te.id) }
  | .firePeriodically => looper

/-- The rest of `OnTimeout` once `m_sink->OnTimer` has returned; `none` when the
element of a one-shot timer is no longer in `m_timers`. -/
def afterOnTimer (looper : EventLooperImp Sink) (te : TimerElement Sink) :
    Option (EventLooperImp Sink) :=
  match te.flag with
  | .fireOnce => (eraseFound looper.timers te.id).map fun timers => { looper with timers := timers }
  | .firePeriodically => some looper

class EventLooper (Looper : Type) (Sink : outParam Type) where
  scheduleTimer : Looper → Timeval → TimerFlag → Sink → Int × Looper
  cancelTimer : Looper → Int → Looper
  pending : Looper → List (TimerElement Sink)

instance : EventLooper (EventLooperImp Sink) Sink where
  scheduleTimer looper tv flag sink :=
    Looper.scheduleTimer looper (some tv) flag (some sink) true true
  cancelTimer := Looper.cancelTimer
  pending := EventLooperImp.pending

/-- What a caller may rely on: no element becomes pending but the one scheduled. -/
class LawfulEventLooper (Looper : Type) {Sink : Type} [EventLooper Looper Sink] : Prop where
  schedule_pending : ∀ (looper : Looper) tv flag sink,
    ∀ te ∈ EventLooper.pending (EventLooper.scheduleTimer looper tv flag sink).2,
      te ∈ EventLooper.pending looper ∨ te.sink = sink
  cancel_pending : ∀ (looper : Looper) tid,
    ∀ te ∈ EventLooper.pending (EventLooper.cancelTimer looper tid),
      te ∈ EventLooper.pending looper

instance : LawfulEventLooper (EventLooperImp Sink) where
  schedule_pending looper tv flag sink te member := by
    rcases List.mem_append.mp member with older | new
    · exact Or.inl older
    · rw [List.mem_singleton.mp new]
      exact Or.inr rfl
  cancel_pending looper tid te member := by
    change te ∈ (cancelTimer looper tid).pending at member
    unfold cancelTimer at member
    split at member
    · exact (List.mem_filter.mp member).1
    · exact member

@[simp] theorem event_fires_timers (looper : EventLooperImp Sink) (te : TimerElement Sink) :
    (eventFires looper te).timers = looper.timers := by
  unfold eventFires
  split <;> rfl

@[simp] theorem event_fires_next_id (looper : EventLooperImp Sink) (te : TimerElement Sink) :
    (eventFires looper te).nextId = looper.nextId := by
  unfold eventFires
  split <;> rfl

theorem event_fires_pending {looper : EventLooperImp Sink} {te other : TimerElement Sink}
    (added : other ∈ (eventFires looper te).pending) : other ∈ looper.pending := by
  unfold eventFires at added
  split at added
  · exact (List.mem_filter.mp added).1
  · exact added

theorem event_fires_once {looper : EventLooperImp Sink} {te : TimerElement Sink}
    (once : te.flag = .fireOnce) : te ∉ (eventFires looper te).pending := by
  simp [eventFires, once]

theorem erase_found_some {timers rest : List (TimerElement Sink)} {tid : Int}
    (found : eraseFound timers tid = some rest) :
    rest = timers.eraseP (fun te => te.id == tid) := by
  unfold eraseFound at found
  split at found
  · exact (Option.some.inj found).symm
  · contradiction

theorem erase_found_none {timers : List (TimerElement Sink)} {tid : Int} :
    eraseFound timers tid = none ↔ tid ∉ timers.map TimerElement.id := by
  simp [eraseFound]

/-- In an id-ordered list the erased element is the only one with its id. -/
theorem erase_ordered (timers : List (TimerElement Sink)) (tid : Int)
    (ordered : timers.Pairwise fun left right => left.id < right.id) :
    timers.eraseP (fun te => te.id == tid) = timers.filter (fun te => te.id != tid) := by
  induction timers with
  | nil => rfl
  | cons head rest ih =>
      obtain ⟨above, tail⟩ := List.pairwise_cons.mp ordered
      by_cases same : head.id = tid
      · have others : ∀ te ∈ rest, te.id ≠ tid := by
          intro te member
          have later : head.id < te.id := above te member
          omega
        rw [List.eraseP_cons_of_pos (by simp [same]), List.filter_cons_of_neg (by simp [same])]
        exact (List.filter_eq_self.mpr (by simpa using others)).symm
      · rw [List.eraseP_cons_of_neg (by simp [same]), List.filter_cons_of_pos (by simp [same]),
          ih tail]

/-- Cancelling over an ordered list drops exactly the elements with that id. -/
theorem cancel_timers_ordered (looper : EventLooperImp Sink) (tid : Int)
    (ordered : looper.timers.Pairwise fun left right => left.id < right.id) :
    (cancelTimer looper tid).timers = looper.timers.filter (fun te => te.id != tid) := by
  unfold cancelTimer
  cases found : eraseFound looper.timers tid with
  | some rest =>
      rw [← erase_ordered looper.timers tid ordered]
      exact erase_found_some found
  | none =>
      have absent := erase_found_none.mp found
      refine (List.filter_eq_self.mpr ?_).symm
      intro te member
      have different : te.id ≠ tid := by
        intro same
        subst same
        exact absent (List.mem_map_of_mem member)
      simpa using different

/-- The loop leaves an element out exactly when all ids are smaller. -/
theorem insert_loop_larger (te : TimerElement Sink) (timers : List (TimerElement Sink))
    (larger : ∀ other ∈ timers, other.id < te.id) : insertLoop te timers = timers := by
  induction timers with
  | nil => rfl
  | cons head rest ih =>
      have first := larger head (by simp)
      rw [insertLoop, if_neg (by omega), ih (by intro other member; exact larger other (by simp [member]))]

end DevHub.Looper
