import DevHub.Communication.CorrectLooper
import DevHub.Transcation.Transcation

/-!
What `DownInfo` does with the response timer of the task that `m_task` names: nothing,
it ends the timer, starts one, or starts one and ends it with its own reply. Over a
looper that schedules and cancels correctly each of these keeps the timer in step with
the status, except that a command accepted by a busy task loses the timer it had.
-/

namespace DevHub.TaskTimer

open Looper CorrectLooper TaskUse Transcations

set_option autoImplicit false

variable {Looper : Type} [EventLooper Looper TimerSink]

def responseTimers (looper : Looper) (session : SessionId) : List (TimerElement TimerSink) :=
  timersOf looper (.task session)

structure Matches (looper : Looper) (session : SessionId) (task : Task) : Prop where
  atMostOne : (responseTimers looper session).length ≤ 1
  busy : task.status ≠ .idle → ∃ te ∈ responseTimers looper session, te.id = task.responseTimeout
  idle : task.status = .idle → responseTimers looper session = []

def accepts (transcation : Transcation) (frame : Frame) : Bool :=
  match frameRequest frame with
  | some (some request) => checkCommandName transcation request.cmd
  | _ => false

def scheduled (looper : Looper) (session : SessionId) (val : Int) : Int × Looper :=
  EventLooper.scheduleTimer looper { sec := val, usec := 0 } .firePeriodically
    (TimerSink.task session)

inductive TimerMove (session : SessionId) (before after : TaskContext Looper) : Bool → Prop where
  | stays (looper : after.looper = before.looper)
      (timer : after.task.responseTimeout = before.task.responseTimeout)
      (status : after.task.status = before.task.status) : TimerMove session before after false
  | ends (looper : after.looper =
        EventLooper.cancelTimer before.looper before.task.responseTimeout)
      (timer : after.task.responseTimeout = before.task.responseTimeout)
      (idle : after.task.status = .idle) : TimerMove session before after false
  | starts (val : Int) (looper : after.looper = (scheduled before.looper session val).2)
      (timer : after.task.responseTimeout = (scheduled before.looper session val).1)
      (busy : after.task.status ≠ .idle) : TimerMove session before after true
  | answers (val : Int)
      (looper : after.looper = EventLooper.cancelTimer (scheduled before.looper session val).2
        (scheduled before.looper session val).1)
      (timer : after.task.responseTimeout = (scheduled before.looper session val).1)
      (idle : after.task.status = .idle) : TimerMove session before after true

/-- `ProcessCmd` leaves the timer to run or ends it with its reply. -/
def Waits (before after : TaskContext Looper) : Prop :=
  after.looper = before.looper ∧
    after.task.responseTimeout = before.task.responseTimeout ∧ after.task.status ≠ .idle

def Ends (before after : TaskContext Looper) : Prop :=
  after.looper = EventLooper.cancelTimer before.looper before.task.responseTimeout ∧
    after.task.responseTimeout = before.task.responseTimeout ∧ after.task.status = .idle

theorem finish_ends (ctx : TaskContext Looper) : Ends ctx (finish ctx) := ⟨rfl, rfl, rfl⟩

theorem answer_ends (transId : Nat) (session : SessionId) (errorNo : Int) (cmd : String)
    (reqId : Int) (ctx : TaskContext Looper) :
    Ends ctx (answer transId session errorNo cmd reqId ctx).1 := by
  rw [answer, update_reply (response_reply _ _ _ _)]
  exact finish_ends ctx

theorem process_cmd_timer {transId : Nat} {trans : Transcation} {session : SessionId}
    {request : Request} {ctx after : TaskContext Looper} {out : List Output}
    (busy : ctx.task.status ≠ .idle)
    (taken : processCmd transId trans session request ctx = some (after, out)) :
    Waits ctx after ∨ Ends ctx after := by
  cases process_cmd_carried taken with
  | answers stored writes errorNo cmd decided start device code named task emitted =>
      right
      have ended := answer_ends transId session errorNo cmd request.reqId stored
      obtain ⟨looper, timer, -, -⟩ := stored_kept start
      rw [Ends, looper, timer] at ended
      rw [task]
      exact ended
  | waits command decided given task emitted =>
      left
      rw [task]
      exact ⟨rfl, rfl, by simp [setStatus]⟩
  | nothing decided task emitted =>
      left
      rw [task]
      exact ⟨rfl, rfl, busy⟩

theorem set_trans_status_kept (task : Task) (tsId : Nat) :
    (setTransStatus task tsId).responseTimeout = task.responseTimeout ∧
      (setTransStatus task tsId).status = task.status := by
  unfold setTransStatus
  split <;> exact ⟨rfl, rfl⟩

/-- A declined command ends the timer once every transcation has declined. -/
theorem decline_timer (transId : Nat) (session : SessionId) (before stored : TaskContext Looper)
    (looper : stored.looper = before.looper)
    (timer : stored.task.responseTimeout = before.task.responseTimeout)
    (status : stored.task.status = before.task.status) :
    TimerMove session before (update session (.text "NothingToDo") transId stored).1 false := by
  obtain ⟨sameTimer, sameStatus⟩ := set_trans_status_kept stored.task transId
  by_cases all : checkTransStatusAll (setTransStatus stored.task transId) = true
  · have result : (update session (.text "NothingToDo") transId stored).1 =
        finish { stored with task := setTransStatus stored.task transId } := by
      simp only [update, all, if_true]
    rw [result]
    apply TimerMove.ends
    · change EventLooper.cancelTimer stored.looper _ = _
      rw [looper]
      exact congrArg _ (sameTimer.trans timer)
    · exact sameTimer.trans timer
    · rfl
  · have result : (update session (.text "NothingToDo") transId stored).1 =
        { stored with task := setTransStatus stored.task transId } := by
      simp only [update, all]
      rfl
    rw [result]
    exact TimerMove.stays looper (sameTimer.trans timer) (sameStatus.trans status)

theorem down_info_timer {transId : Nat} {trans : Transcation} {session : SessionId}
    {frame : Frame} {ctx after : TaskContext Looper} {out : List Output}
    (taken : downInfo transId trans session frame ctx = some (after, out)) :
    TimerMove session ctx after (accepts trans frame) := by
  cases down_info_cases taken with
  | ignored decoded decodes request task silent =>
      simp only [accepts, request]
      rw [task]
      exact TimerMove.stays rfl (store_timeout _ _) (store_status _ _)
  | declined decoded request decodes read unknown result =>
      simp only [accepts, read, unknown]
      have declined := decline_timer transId session ctx
        { ctx with task := decoded.store ctx.task } rfl (store_timeout _ _) (store_status _ _)
      rw [← result] at declined
      exact declined
  | accepted decoded request val started rest decodes read known start processed emitted =>
      simp only [accepts, read, known]
      have busy : started.task.status ≠ .idle := by
        rw [start]
        simp [setStatus]
      rcases process_cmd_timer busy processed with ⟨looper, timer, running⟩ | ⟨looper, timer, idle⟩
      · rw [start] at looper timer
        exact TimerMove.starts val looper timer running
      · rw [start] at looper timer
        exact TimerMove.answers val looper timer idle

/-! ### A move among the timers of the looper -/

variable [CorrectEventLooper Looper]

def Named (looper : Looper) (tid : Int) : Prop :=
  tid = -1 ∨ CorrectEventLooper.issued looper tid

def OwnId (looper : Looper) (tid : Int) (session : SessionId) : Prop :=
  ∀ te ∈ EventLooper.pending looper, te.id = tid → te.sink = .task session

/-- A pending timer of the task that its `m_responseTimeout` no longer names. -/
def Stray (looper : Looper) (session : SessionId) (task : Task) : Prop :=
  ∃ te ∈ responseTimers looper session, te.id ≠ task.responseTimeout

theorem named_ne_fresh {looper : Looper} {tid : Int} (named : Named looper tid)
    {te : TimerElement TimerSink} {after : Looper} {sink : TimerSink}
    (later : Later sink looper after) (member : te ∈ EventLooper.pending after)
    (same : te.id = tid) : te ∈ EventLooper.pending looper := by
  rcases later.pending te member with older | ⟨fresh, -⟩
  · exact older
  · rcases named with unset | issued
    · exact absurd (same.trans unset)
        (CorrectEventLooper.issued_ne after te.id (CorrectEventLooper.pending_issued after te member))
    · exact absurd (same ▸ issued) fresh

theorem Named.later {before after : Looper} {tid : Int} (named : Named before tid)
    {sink : TimerSink} (later : Later sink before after) : Named after tid := by
  rcases named with unset | issued
  · exact Or.inl unset
  · exact Or.inr (later.issued tid issued)

theorem move_later {session : SessionId} {before after : TaskContext Looper} {accepted : Bool}
    (moved : TimerMove session before after accepted) :
    Later (.task session) before.looper after.looper := by
  cases moved with
  | stays looper timer status =>
      rw [looper]
      exact later_refl _ _
  | ends looper timer idle =>
      rw [looper]
      exact later_cancel _ _ _
  | starts val looper timer busy =>
      rw [looper]
      exact later_schedule _ _ _ _
  | answers val looper timer idle =>
      rw [looper]
      exact (later_schedule _ _ _ _).trans (later_cancel _ _ _)

/-- `m_responseTimeout` stays or gets an id that nobody had. -/
theorem move_timer {session : SessionId} {before after : TaskContext Looper} {accepted : Bool}
    (moved : TimerMove session before after accepted) :
    after.task.responseTimeout = before.task.responseTimeout ∨
      (CorrectEventLooper.issued after.looper after.task.responseTimeout ∧
        ¬ CorrectEventLooper.issued before.looper after.task.responseTimeout) := by
  cases moved with
  | stays looper timer status => exact Or.inl timer
  | ends looper timer idle => exact Or.inl timer
  | starts val looper timer busy =>
      right
      rw [looper, timer]
      exact ⟨scheduled_issued _ _ _ _, CorrectEventLooper.schedule_fresh _ _ _ _⟩
  | answers val looper timer idle =>
      right
      rw [looper, timer]
      exact ⟨(CorrectEventLooper.cancel_issued _ _ _).mpr (scheduled_issued _ _ _ _),
        CorrectEventLooper.schedule_fresh _ _ _ _⟩

omit [CorrectEventLooper Looper] in
theorem own_id_absent {looper : Looper} {tid : Int} {session : SessionId}
    (own : OwnId looper tid session) {sink : TimerSink} (other : sink ≠ .task session) :
    ∀ te ∈ timersOf looper sink, te.id ≠ tid := by
  intro te member same
  obtain ⟨listed, into⟩ := mem_timers_of.mp member
  exact other (into.symm.trans (own te listed same))

theorem older_id_absent (looper : Looper) (session : SessionId) (val : Int) (sink : TimerSink) :
    ∀ te ∈ timersOf looper sink, te.id ≠ (scheduled looper session val).1 := by
  intro te member same
  exact CorrectEventLooper.schedule_fresh looper _ _ _ (same ▸ timers_of_issued member)

theorem move_others {session : SessionId} {before after : TaskContext Looper} {accepted : Bool}
    (moved : TimerMove session before after accepted)
    (own : OwnId before.looper before.task.responseTimeout session)
    {sink : TimerSink} (other : sink ≠ .task session) :
    timersOf after.looper sink = timersOf before.looper sink := by
  cases moved with
  | stays looper timer status => rw [looper]
  | ends looper timer idle =>
      rw [looper]
      exact timers_of_cancel_other (own_id_absent own other)
  | starts val looper timer busy =>
      rw [looper]
      exact timers_of_schedule_other _ _ _ other
  | answers val looper timer idle =>
      have kept : timersOf (scheduled before.looper session val).2 sink =
          timersOf before.looper sink := timers_of_schedule_other _ _ _ other
      rw [looper, timers_of_cancel_other, kept]
      rw [kept]
      exact older_id_absent _ _ _ _

theorem scheduled_timers (looper : Looper) (session : SessionId) (val : Int) :
    ∃ te : TimerElement TimerSink, te.id = (scheduled looper session val).1 ∧
      responseTimers (scheduled looper session val).2 session =
        responseTimers looper session ++ [te] :=
  ⟨_, rfl, timers_of_schedule _ _ _ _⟩

omit [EventLooper Looper TimerSink] [CorrectEventLooper Looper] in
theorem eq_singleton {timers : List (TimerElement TimerSink)} {te : TimerElement TimerSink}
    (atMostOne : timers.length ≤ 1) (member : te ∈ timers) : timers = [te] := by
  cases timers with
  | nil => cases member
  | cons head rest =>
      have none : rest = [] := by
        apply List.eq_nil_of_length_eq_zero
        simp only [List.length_cons] at atMostOne
        omega
      subst none
      rw [List.mem_singleton.mp member]

theorem ended_matches {looper : Looper} {session : SessionId} {task after : Task}
    (holds : Matches looper session task) (idle : after.status = .idle) :
    Matches (EventLooper.cancelTimer looper task.responseTimeout) session after := by
  have empty : responseTimers (EventLooper.cancelTimer looper task.responseTimeout) session = [] := by
    rw [responseTimers, timers_of_cancel]
    by_cases resting : task.status = .idle
    · have none := holds.idle resting
      rw [responseTimers] at none
      rw [none]
      rfl
    · obtain ⟨te, member, same⟩ := holds.busy resting
      have single := eq_singleton holds.atMostOne member
      rw [responseTimers] at single
      simp [single, same]
  constructor
  · rw [empty]
    exact Nat.zero_le _
  · intro busy
    exact absurd idle busy
  · intro _
    exact empty

theorem move_matches {session : SessionId} {before after : TaskContext Looper} {accepted : Bool}
    (moved : TimerMove session before after accepted)
    (holds : Matches before.looper session before.task)
    (free : accepted = true → before.task.status = .idle) :
    Matches after.looper session after.task := by
  cases moved with
  | stays looper timer status =>
      rw [looper]
      constructor
      · exact holds.atMostOne
      · rw [status, timer]
        exact holds.busy
      · rw [status]
        exact holds.idle
  | ends looper timer idle =>
      rw [looper]
      exact ended_matches holds idle
  | starts val looper timer busy =>
      obtain ⟨te, id, timers⟩ := scheduled_timers before.looper session val
      rw [holds.idle (free rfl), List.nil_append] at timers
      rw [looper]
      constructor
      · rw [timers]
        exact Nat.le_refl 1
      · intro _
        rw [timers]
        exact ⟨te, List.mem_singleton.mpr rfl, id.trans timer.symm⟩
      · intro idle
        exact absurd idle busy
  | answers val looper timer idle =>
      obtain ⟨te, id, timers⟩ := scheduled_timers before.looper session val
      rw [holds.idle (free rfl), List.nil_append] at timers
      have started : Matches (scheduled before.looper session val).2 session
          { before.task with
            responseTimeout := (scheduled before.looper session val).1, status := .accept } := by
        constructor
        · rw [timers]
          exact Nat.le_refl 1
        · intro _
          rw [timers]
          exact ⟨te, List.mem_singleton.mpr rfl, id⟩
        · intro resting
          cases resting
      rw [looper]
      exact ended_matches started idle

/-- A timer that `m_responseTimeout` does not name, or will not after an accept, is
out of reach for good. -/
theorem move_strays {session : SessionId} {before after : TaskContext Looper} {accepted : Bool}
    (moved : TimerMove session before after accepted) {te : TimerElement TimerSink}
    (member : te ∈ responseTimers before.looper session)
    (lost : te.id ≠ before.task.responseTimeout ∨ accepted = true) :
    Stray after.looper session after.task := by
  cases moved with
  | stays looper timer status =>
      have unnamed := lost.resolve_right (by decide)
      refine ⟨te, ?_, ?_⟩
      · rw [looper]
        exact member
      · rw [timer]
        exact unnamed
  | ends looper timer idle =>
      have unnamed := lost.resolve_right (by decide)
      refine ⟨te, ?_, ?_⟩
      · rw [looper, responseTimers, timers_of_cancel]
        exact List.mem_filter.mpr ⟨member, by simpa using unnamed⟩
      · rw [timer]
        exact unnamed
  | starts val looper timer busy =>
      obtain ⟨new, id, timers⟩ := scheduled_timers before.looper session val
      refine ⟨te, ?_, ?_⟩
      · rw [looper, timers]
        exact List.mem_append_left _ member
      · rw [timer]
        exact older_id_absent _ _ _ _ te member
  | answers val looper timer idle =>
      obtain ⟨new, id, timers⟩ := scheduled_timers before.looper session val
      have unnamed := older_id_absent before.looper session val _ te member
      refine ⟨te, ?_, ?_⟩
      · rw [looper, responseTimers, timers_of_cancel]
        rw [responseTimers] at timers
        rw [timers]
        exact List.mem_filter.mpr ⟨List.mem_append_left _ member, by simpa using unnamed⟩
      · rw [timer]
        exact unnamed

omit [CorrectEventLooper Looper] in
theorem stray_unmatched {looper : Looper} {session : SessionId} {task : Task}
    (stray : Stray looper session task) : ¬ Matches looper session task := by
  intro holds
  obtain ⟨te, member, unnamed⟩ := stray
  by_cases idle : task.status = .idle
  · rw [holds.idle idle] at member
    cases member
  · obtain ⟨named, listed, same⟩ := holds.busy idle
    rw [eq_singleton holds.atMostOne listed] at member
    rw [List.mem_singleton.mp member] at unnamed
    exact unnamed same

end DevHub.TaskTimer
