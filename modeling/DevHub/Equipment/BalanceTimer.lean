import DevHub.Library.Run
import DevHub.Communication.CorrectLooper
import DevHub.Communication.CommServer
import DevHub.Equipment.ElecBalance

/-!
Balances over one event looper. Every `ElecBalance` schedules, compares and cancels
through the one global `m_balanceClTimer`, so a run is the frames of any number of
balances with the ticks of their timers between them; the constructors have run
before. `last` remembers what the last frame of each balance was.
-/

namespace DevHub.BalanceTimer

open Transition Looper CorrectLooper ElecBalance
open TaskUse (TimerSink)

set_option autoImplicit false

inductive Reading where
  | unstable
  | settled
  deriving DecidableEq

def reading (data : Data) : Reading :=
  if data 0 = 'K'.toUInt8 ∧ data 1 = '*'.toUInt8 then .unstable else .settled

structure State (Looper : Type) where
  looper : Looper
  balanceClTimer : Int
  last : Nat → Option Reading

inductive Event where
  | onData (equipment : Nat) (data : Data) (timeUse : Int)
  | onTimer (te : TimerElement TimerSink)

variable {Looper : Type} [EventLooper Looper TimerSink]

def State.start [CorrectEventLooper Looper] : State Looper where
  looper := CorrectEventLooper.start
  balanceClTimer := -1
  last _ := none

def useTimer (equipment : Nat) (looper : Looper) (balanceClTimer : Int) :
    TimerUse → Int × Looper
  | .keep => (balanceClTimer, looper)
  | .start =>
      if balanceClTimer = -1 then
        EventLooper.scheduleTimer looper { sec := 1, usec := 0 } .firePeriodically
          (TimerSink.balance equipment)
      else (balanceClTimer, looper)
  | .stop => (-1, EventLooper.cancelTimer looper balanceClTimer)

/-- `Equipment::OnTimer`: the command written to the peripheral, if any. -/
def onTimer (tid balanceClTimer : Int) : Option String :=
  if tid = balanceClTimer then some "%ER" else none

def onFrame (state : State Looper) (equipment : Nat) (data : Data) (timeUse : Int) :
    State Looper :=
  let used := useTimer equipment state.looper state.balanceClTimer
    (ElecBalance.onData data timeUse).timer
  { looper := used.2
    balanceClTimer := used.1
    last := Function.update state.last equipment (some (reading data)) }

def step (state : State Looper) : Event → Option (State Looper)
  | .onData equipment data timeUse => some (onFrame state equipment data timeUse)
  | .onTimer te => if te ∈ EventLooper.pending state.looper then some state else none

/-- The hub has the same use of the timer. -/
theorem balance_data_use (hub : CommServer.Hub Looper) (equipment : Nat) (steady : Bool) :
    CommServer.onBalanceData hub equipment steady =
      { hub with
        balanceClTimer := (useTimer equipment hub.looper hub.balanceClTimer
          (if steady then .stop else .start)).1
        looper := (useTimer equipment hub.looper hub.balanceClTimer
          (if steady then .stop else .start)).2 } := by
  cases steady with
  | true => rfl
  | false =>
      by_cases unset : hub.balanceClTimer = -1
      · simp [CommServer.onBalanceData, useTimer, unset]
      · simp [CommServer.onBalanceData, useTimer, unset]

/-- A pending timer of one second into the balance itself, whose tick reads it again. -/
def Rereads (state : State Looper) (equipment : Nat) : Prop :=
  ∃ te ∈ timersOf state.looper (.balance equipment),
    te.interval = { sec := 1, usec := 0 } ∧ te.flag = .firePeriodically ∧
      onTimer te.id state.balanceClTimer = some "%ER"

/-- What a frame has to leave: each balance with a timer of its own exactly while its last
frame was unstable, and the timers of every other balance as they were. -/
structure Separate (before : State Looper) (event : Event) (after : State Looper) : Prop where
  unstable : ∀ equipment, after.last equipment = some .unstable → Rereads after equipment
  settled : ∀ equipment, after.last equipment = some .settled →
    timersOf after.looper (.balance equipment) = []
  others : ∀ equipment data timeUse, event = .onData equipment data timeUse →
    ∀ other ≠ equipment, timersOf after.looper (.balance other) =
      timersOf before.looper (.balance other)

/-- A frame that starts with `K` finds no other balance with an unstable value, and any
other frame does not follow an unstable one of its own balance. -/
def Unshared (state : State Looper) : Event → Prop
  | .onData equipment data _ =>
      if data 0 = 'K'.toUInt8 then
        ∀ other, other ≠ equipment → state.last other ≠ some .unstable
      else state.last equipment ≠ some .unstable
  | .onTimer _ => True

def rereadTimer (equipment : Nat) (tid : Int) : TimerElement TimerSink where
  id := tid
  sink := .balance equipment
  flag := .firePeriodically
  interval := { sec := 1, usec := 0 }

/-- The states of the runs within `Unshared`: no balance is read again, or one is. -/
inductive Polled (state : State Looper) : Prop where
  | nobody (stable : ∀ equipment, state.last equipment ≠ some .unstable)
      (unset : state.balanceClTimer = -1)
      (empty : ∀ equipment, timersOf state.looper (.balance equipment) = [])
  | alone (polled : Nat) (unstable : state.last polled = some .unstable)
      (set : state.balanceClTimer ≠ -1)
      (timer : timersOf state.looper (.balance polled) = [rereadTimer polled state.balanceClTimer])
      (stable : ∀ other, other ≠ polled → state.last other ≠ some .unstable)
      (empty : ∀ other, other ≠ polled → timersOf state.looper (.balance other) = [])

theorem frame_cases (data : Data) (timeUse : Int) :
    (data 0 ≠ 'K'.toUInt8 ∧ (ElecBalance.onData data timeUse).timer = .keep ∧
        reading data = .settled) ∨
      (data 0 = 'K'.toUInt8 ∧ (ElecBalance.onData data timeUse).timer = .start ∧
        reading data = .unstable) ∨
      (data 0 = 'K'.toUInt8 ∧ (ElecBalance.onData data timeUse).timer = .stop ∧
        reading data = .settled) := by
  by_cases known : data 0 = 'K'.toUInt8
  · right
    by_cases star : data 1 = '*'.toUInt8
    · left
      simp [ElecBalance.onData, reading, known, star]
    · right
      refine ⟨known, ?_, by simp [reading, star]⟩
      unfold ElecBalance.onData
      rw [if_neg (not_not.mpr known), if_neg star]
      split
      · split
        · rfl
        · split <;> rfl
      · rfl
  · left
    simp [ElecBalance.onData, reading, known]

variable [CorrectEventLooper Looper]

theorem polled_start : Polled (State.start : State Looper) :=
  Polled.nobody (fun _ absurd => by cases absurd) rfl fun _ => timers_of_start _

omit [CorrectEventLooper Looper] in
theorem polled_separate {state : State Looper} (holds : Polled state) :
    (∀ equipment, state.last equipment = some .unstable → Rereads state equipment) ∧
      ∀ equipment, state.last equipment ≠ some .unstable →
        timersOf state.looper (.balance equipment) = [] := by
  cases holds with
  | nobody stable unset empty =>
      exact ⟨fun equipment unstable => absurd unstable (stable equipment),
        fun equipment _ => empty equipment⟩
  | alone polled unstable set timer stable empty =>
      constructor
      · intro equipment shaky
        have same : equipment = polled := by
          by_contra different
          exact stable equipment different shaky
        subst same
        refine ⟨rereadTimer equipment state.balanceClTimer, by simp [timer], rfl, rfl, ?_⟩
        exact if_pos rfl
      · intro equipment still
        apply empty equipment
        intro same
        subst same
        exact still unstable

omit [CorrectEventLooper Looper] in
theorem last_self (state : State Looper) (equipment : Nat) (data : Data) (timeUse : Int) :
    (onFrame state equipment data timeUse).last equipment = some (reading data) :=
  Function.update_self _ _ _

omit [CorrectEventLooper Looper] in
theorem last_other (state : State Looper) {equipment other : Nat} (data : Data) (timeUse : Int)
    (different : other ≠ equipment) :
    (onFrame state equipment data timeUse).last other = state.last other :=
  Function.update_of_ne different _ _

omit [CorrectEventLooper Looper] in
/-- A frame after which its balance is not unstable leaves no unstable one behind
when there was no other. -/
theorem settled_stable {state : State Looper} {equipment : Nat} {data : Data} {timeUse : Int}
    (settled : reading data = .settled)
    (stable : ∀ other, other ≠ equipment → state.last other ≠ some .unstable) (other : Nat) :
    (onFrame state equipment data timeUse).last other ≠ some .unstable := by
  by_cases same : other = equipment
  · rw [same, last_self, settled]
    decide
  · rw [last_other state data timeUse same]
    exact stable other same

omit [EventLooper Looper TimerSink] [CorrectEventLooper Looper] in
theorem alone_is {state : State Looper} {polled equipment : Nat}
    (unstable : state.last polled = some .unstable)
    (stable : ∀ other, other ≠ equipment → state.last other ≠ some .unstable) :
    polled = equipment := by
  by_contra different
  exact stable polled different unstable

omit [CorrectEventLooper Looper] in
theorem unused_frame (state : State Looper) (equipment : Nat) (data : Data) (timeUse : Int)
    (unused : useTimer equipment state.looper state.balanceClTimer
      (ElecBalance.onData data timeUse).timer = (state.balanceClTimer, state.looper)) :
    (onFrame state equipment data timeUse).looper = state.looper ∧
      (onFrame state equipment data timeUse).balanceClTimer = state.balanceClTimer := by
  simp only [onFrame, unused, and_self]

omit [CorrectEventLooper Looper] in
theorem alone_kept {state next : State Looper} {polled : Nat} (looper : next.looper = state.looper)
    (id : next.balanceClTimer = state.balanceClTimer) (set : state.balanceClTimer ≠ -1)
    (timer : timersOf state.looper (.balance polled) = [rereadTimer polled state.balanceClTimer])
    (empty : ∀ other, other ≠ polled → timersOf state.looper (.balance other) = [])
    (unstable : next.last polled = some .unstable)
    (stable : ∀ other, other ≠ polled → next.last other ≠ some .unstable) : Polled next := by
  apply Polled.alone polled unstable
  · rw [id]
    exact set
  · rw [looper, id]
    exact timer
  · exact stable
  · rw [looper]
    exact empty

omit [CorrectEventLooper Looper] in
theorem keep_frame {state : State Looper} {equipment : Nat} {data : Data} {timeUse : Int}
    (holds : Polled state) (keep : (ElecBalance.onData data timeUse).timer = .keep)
    (settled : reading data = .settled) (stable : state.last equipment ≠ some .unstable) :
    Polled (onFrame state equipment data timeUse) ∧
      ∀ other, other ≠ equipment →
        timersOf (onFrame state equipment data timeUse).looper (.balance other) =
          timersOf state.looper (.balance other) := by
  obtain ⟨looper, id⟩ := unused_frame state equipment data timeUse (by rw [keep]; rfl)
  refine ⟨?_, fun other _ => by rw [looper]⟩
  cases holds with
  | nobody allStable unset empty =>
      apply Polled.nobody
      · exact settled_stable settled fun other _ => allStable other
      · rw [id, unset]
      · rw [looper]
        exact empty
  | alone polled unstable set timer others empty =>
      have different : polled ≠ equipment := by
        intro same
        exact stable (same ▸ unstable)
      apply alone_kept looper id set timer empty
      · rw [last_other state data timeUse different, unstable]
      · intro other apart
        by_cases same : other = equipment
        · rw [same, last_self, settled]
          decide
        · rw [last_other state data timeUse same]
          exact others other apart

theorem start_frame {state : State Looper} {equipment : Nat} {data : Data} {timeUse : Int}
    (holds : Polled state) (start : (ElecBalance.onData data timeUse).timer = .start)
    (unstable : reading data = .unstable)
    (stable : ∀ other, other ≠ equipment → state.last other ≠ some .unstable) :
    Polled (onFrame state equipment data timeUse) ∧
      ∀ other, other ≠ equipment →
        timersOf (onFrame state equipment data timeUse).looper (.balance other) =
          timersOf state.looper (.balance other) := by
  have shaky : (onFrame state equipment data timeUse).last equipment = some .unstable := by
    rw [last_self, unstable]
  have still : ∀ other, other ≠ equipment →
      (onFrame state equipment data timeUse).last other ≠ some .unstable := by
    intro other apart
    rw [last_other state data timeUse apart]
    exact stable other apart
  cases holds with
  | nobody allStable unset empty =>
      let called := EventLooper.scheduleTimer state.looper { sec := 1, usec := 0 }
        .firePeriodically (TimerSink.balance equipment)
      have used : onFrame state equipment data timeUse =
          { looper := called.2
            balanceClTimer := called.1
            last := (onFrame state equipment data timeUse).last } := by
        simp [onFrame, start, useTimer, unset, called]
      have others : ∀ other, other ≠ equipment →
          timersOf (onFrame state equipment data timeUse).looper (.balance other) =
            timersOf state.looper (.balance other) := by
        intro other apart
        rw [used]
        apply timers_of_schedule_other
        simpa using apart
      refine ⟨?_, others⟩
      apply Polled.alone equipment shaky
      · rw [used]
        exact CorrectEventLooper.issued_ne called.2 called.1 (scheduled_issued _ _ _ _)
      · rw [used, timers_of_schedule, empty]
        rfl
      · exact still
      · intro other apart
        rw [others other apart, empty]
  | alone polled shaking set timer allStable empty =>
      have same := alone_is shaking stable
      subst same
      obtain ⟨looper, id⟩ := unused_frame state polled data timeUse
        (by rw [start]; exact if_neg set)
      refine ⟨?_, fun other _ => by rw [looper]⟩
      exact alone_kept looper id set timer empty shaky still

theorem stop_looper {state : State Looper} {equipment : Nat} {data : Data} {timeUse : Int}
    (stop : (ElecBalance.onData data timeUse).timer = .stop) (sink : TimerSink) :
    timersOf (onFrame state equipment data timeUse).looper sink =
      (timersOf state.looper sink).filter fun te => te.id != state.balanceClTimer := by
  simp only [onFrame, stop, useTimer, timers_of_cancel]

theorem stop_frame {state : State Looper} {equipment : Nat} {data : Data} {timeUse : Int}
    (holds : Polled state) (stop : (ElecBalance.onData data timeUse).timer = .stop)
    (settled : reading data = .settled)
    (stable : ∀ other, other ≠ equipment → state.last other ≠ some .unstable) :
    Polled (onFrame state equipment data timeUse) ∧
      ∀ other, other ≠ equipment →
        timersOf (onFrame state equipment data timeUse).looper (.balance other) =
          timersOf state.looper (.balance other) := by
  have without : ∀ other, other ≠ equipment → timersOf state.looper (.balance other) = [] :=
    fun other apart => (polled_separate holds).2 other (stable other apart)
  have empty : ∀ other,
      timersOf (onFrame state equipment data timeUse).looper (.balance other) = [] := by
    intro other
    rw [stop_looper stop]
    cases holds with
    | nobody allStable unset empty => simp [empty]
    | alone polled shaking set timer allStable empty =>
        by_cases same : other = polled
        · simp [same, timer, rereadTimer]
        · simp [empty other same]
  constructor
  · apply Polled.nobody
    · exact settled_stable settled stable
    · simp only [onFrame, stop, useTimer]
    · exact empty
  · intro other apart
    rw [empty, without other apart]

theorem step_polled (state : State Looper) (event : Event) (next : State Looper)
    (holds : Polled state) (unshared : Unshared state event)
    (taken : step state event = some next) : Polled next ∧ Separate state event next := by
  have kept : Polled next ∧ ∀ equipment data timeUse, event = .onData equipment data timeUse →
      ∀ other ≠ equipment, timersOf next.looper (.balance other) =
        timersOf state.looper (.balance other) := by
    cases event with
    | onTimer te =>
        simp only [step, Option.ite_none_right_eq_some, Option.some.injEq] at taken
        obtain ⟨-, same⟩ := taken
        subst same
        exact ⟨holds, fun equipment data timeUse absurd => by cases absurd⟩
    | onData equipment data timeUse =>
        cases taken
        have frame : Polled (onFrame state equipment data timeUse) ∧
            ∀ other, other ≠ equipment →
              timersOf (onFrame state equipment data timeUse).looper (.balance other) =
                timersOf state.looper (.balance other) := by
          simp only [Unshared] at unshared
          rcases frame_cases data timeUse with ⟨unknown, keep, settled⟩ |
            ⟨known, start, unstable⟩ | ⟨known, stop, settled⟩
          · rw [if_neg unknown] at unshared
            exact keep_frame holds keep settled unshared
          · rw [if_pos known] at unshared
            exact start_frame holds start unstable unshared
          · rw [if_pos known] at unshared
            exact stop_frame holds stop settled unshared
        refine ⟨frame.1, ?_⟩
        intro other bytes time same
        cases same
        exact frame.2
  obtain ⟨polled, others⟩ := kept
  obtain ⟨unstable, empty⟩ := polled_separate polled
  refine ⟨polled, unstable, ?_, others⟩
  intro equipment settled
  apply empty equipment
  rw [settled]
  decide

/-- Outside `Unshared` a timer outlives its balance's unstable value, is not scheduled,
or is cancelled by another balance. -/
theorem step_shared (state : State Looper) (event : Event) (next : State Looper)
    (holds : Polled state) (shared : ¬ Unshared state event)
    (taken : step state event = some next) : ¬ Separate state event next := by
  intro separate
  cases event with
  | onTimer te => exact shared trivial
  | onData equipment data timeUse =>
      cases taken
      simp only [Unshared] at shared
      rcases frame_cases data timeUse with ⟨unknown, keep, settled⟩ |
        ⟨known, start, unstable⟩ | ⟨known, stop, settled⟩
      · rw [if_neg unknown, not_not] at shared
        obtain ⟨te, member, -⟩ := (polled_separate holds).1 equipment shared
        have gone := separate.settled equipment (by rw [last_self, settled])
        have stays : timersOf (onFrame state equipment data timeUse).looper (.balance equipment) =
            timersOf state.looper (.balance equipment) := by
          simp only [onFrame, keep, useTimer]
        rw [← stays, gone] at member
        cases member
      · rw [if_pos known] at shared
        obtain ⟨other, apart, shaky⟩ : ∃ other, other ≠ equipment ∧
            state.last other = some .unstable := by simpa using shared
        cases holds with
        | nobody stable unset empty => exact stable other shaky
        | alone polled _ set timer stable empty =>
            have same := alone_is shaky stable
            subst same
            obtain ⟨te, member, -⟩ := separate.unstable equipment (by rw [last_self, unstable])
            have stays :
                (onFrame state equipment data timeUse).looper = state.looper := by
              simp only [onFrame, start, useTimer, if_neg set]
            rw [stays, empty equipment (Ne.symm apart)] at member
            cases member
      · rw [if_pos known] at shared
        obtain ⟨other, apart, shaky⟩ : ∃ other, other ≠ equipment ∧
            state.last other = some .unstable := by simpa using shared
        cases holds with
        | nobody stable unset empty => exact stable other shaky
        | alone polled _ set timer stable empty =>
            have same := alone_is shaky stable
            subst same
            have kept := separate.others equipment data timeUse rfl other apart
            rw [stop_looper stop, timer] at kept
            simp [rereadTimer] at kept

/-- Every frame leaves the balances with timers of their own exactly when no frame arrives
that would start or stop a timer while another balance is unstable, and none without a `K`
that follows an unstable one of its balance. -/
theorem separate_iff_unshared (events : List Event) :
    EachStep step Separate (State.start : State Looper) events ↔
      Guarded step Unshared (State.start : State Looper) events :=
  each_step_iff_guarded step_polled step_shared polled_start

/-- `K*` of one balance and `K +` of another: the first one's timer is cancelled. -/
def otherBalance : List Event :=
  [.onData 0 (fun i => if i = 0 then 'K'.toUInt8 else '*'.toUInt8) 0,
    .onData 1 (fun i => if i = 0 then 'K'.toUInt8 else if i = 2 then '+'.toUInt8 else ' '.toUInt8)
      0]

theorem other_balance_cancels :
    ¬ EachStep step Separate (State.start : State (TimerTable TimerSink)) otherBalance := by
  intro separate
  have second := (separate _ rfl).2 _ rfl
  have kept := second.1.others 1 _ 0 rfl 0 (by decide)
  revert kept
  decide

end DevHub.BalanceTimer
