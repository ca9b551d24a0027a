import DevHub.Library.Run
import DevHub.Communication.OneReply
import DevHub.Transcation.TaskTimer

/-!
The response timers of the hub against the status of its tasks, over a looper that
schedules and cancels correctly. The ids that the hub keeps never reach the timer of
another task, so what a callback does with one task leaves the others in step. Two
timers of one task come from a command that is accepted while the task is busy.
-/

namespace DevHub.ReplyTimer

open Transition Looper CorrectLooper TaskUse TaskTimer Transcations CommServer

set_option autoImplicit false

variable {Looper : Type} [EventLooper Looper TimerSink]

def hubStep : Step (Hub Looper) Event := fun hub event =>
  (CommServer.step hub event).map Prod.fst

def TimersMatch (hub : Hub Looper) : Prop :=
  ∀ session, hub.live session → Matches hub.looper session (hub.tasks session)

/-- Each transcation of the loop that accepts the command finds its task idle. -/
def StartsIdle (frame : Frame) : Hub Looper → List Nat → Prop
  | _, [] => True
  | hub, transId :: rest =>
      (∀ transcation session, hub.transcations.find? transId = some transcation →
        transcation.task = some session → accepts transcation frame = true →
        (hub.tasks session).status = .idle) ∧
      ∀ after out, onDownStream hub transId frame = some (after, out) →
        StartsIdle frame after rest

def OneAtATime (hub : Hub Looper) : Event → Prop
  | .onFrame session frame =>
      (hub.tasks session).status = .idle → StartsIdle frame hub (subscribedIds hub session)
  | _ => True

variable [CorrectEventLooper Looper]

/-! ### The hub -/

/-- What every run keeps: an id of the hub names only timers of its own kind. -/
structure Owned (hub : Hub Looper) : Prop where
  named : ∀ session, Named hub.looper (hub.tasks session).responseTimeout
  own : ∀ session, OwnId hub.looper (hub.tasks session).responseTimeout session
  balanceNamed : Named hub.looper hub.balanceClTimer
  balanceOwn : ∀ te ∈ EventLooper.pending hub.looper, te.id = hub.balanceClTimer →
    ∀ session, te.sink ≠ .task session
  created : ∀ session, hub.created ≤ session → responseTimers hub.looper session = []

structure Timed (hub : Hub Looper) : Prop where
  owned : Owned hub
  timers : TimersMatch hub

theorem owned_store {hub : Hub Looper} (owned : Owned hub) {session : SessionId}
    (live : hub.live session) {ctx : TaskContext Looper} {accepted : Bool}
    (moved : TimerMove session (hub.context session) ctx accepted) :
    Owned (hub.store session ctx) := by
  have later : Later (.task session) hub.looper ctx.looper := move_later moved
  constructor
  · intro other
    by_cases same : other = session
    · subst same
      rw [store_task]
      rcases move_timer moved with kept | ⟨issued, -⟩
      · rw [kept]
        exact (owned.named other).later later
      · exact Or.inr issued
    · rw [store_other hub ctx same]
      exact (owned.named other).later later
  · intro other
    by_cases same : other = session
    · subst same
      rw [store_task]
      intro te member named
      rcases move_timer moved with kept | ⟨-, fresh⟩
      · rw [kept] at named
        exact owned.own other te (named_ne_fresh (owned.named other) later member named) named
      · rcases later.pending te member with older | ⟨-, own⟩
        · rw [← named] at fresh
          exact absurd (CorrectEventLooper.pending_issued hub.looper te older) fresh
        · exact own
    · rw [store_other hub ctx same]
      intro te member named
      exact owned.own other te (named_ne_fresh (owned.named other) later member named) named
  · exact owned.balanceNamed.later later
  · intro te member named
    exact owned.balanceOwn te (named_ne_fresh owned.balanceNamed later member named) named
  · intro other uncreated
    have apart : (TimerSink.task other) ≠ .task session := by
      intro same
      cases same
      exact absurd live.1 (Nat.not_lt.mpr uncreated)
    have kept := move_others moved (owned.own session) apart
    exact kept.trans (owned.created other uncreated)

theorem store_other_timers {hub : Hub Looper} (owned : Owned hub) {session other : SessionId}
    {ctx : TaskContext Looper} {accepted : Bool}
    (moved : TimerMove session (hub.context session) ctx accepted) (different : other ≠ session) :
    responseTimers (hub.store session ctx).looper other = responseTimers hub.looper other := by
  apply move_others moved (owned.own session)
  intro same
  cases same
  exact different rfl

theorem timed_store {hub : Hub Looper} (timed : Timed hub) {session : SessionId}
    (live : hub.live session) {ctx : TaskContext Looper} {accepted : Bool}
    (moved : TimerMove session (hub.context session) ctx accepted)
    (free : accepted = true → (hub.tasks session).status = .idle) :
    Timed (hub.store session ctx) := by
  refine ⟨owned_store timed.owned live moved, ?_⟩
  intro other alive
  by_cases same : other = session
  · subst same
    rw [store_task]
    exact move_matches moved (timed.timers other live) free
  · have timers := store_other_timers timed.owned moved same
    obtain ⟨atMostOne, busy, idle⟩ := timed.timers other alive
    rw [store_other hub ctx same]
    exact ⟨timers ▸ atMostOne, timers ▸ busy, timers ▸ idle⟩

theorem stray_store {hub : Hub Looper} (owned : Owned hub) {session other : SessionId}
    {ctx : TaskContext Looper} {accepted : Bool}
    (moved : TimerMove session (hub.context session) ctx accepted)
    (stray : Stray hub.looper other (hub.tasks other)) :
    Stray (hub.store session ctx).looper other ((hub.store session ctx).tasks other) := by
  obtain ⟨te, member, unnamed⟩ := stray
  by_cases same : other = session
  · subst same
    rw [store_task]
    exact move_strays moved member (Or.inl unnamed)
  · rw [store_other hub ctx same]
    refine ⟨te, ?_, unnamed⟩
    rw [store_other_timers owned moved same]
    exact member

omit [CorrectEventLooper Looper] in
theorem down_stream_move {hub after : Hub Looper} {transId : Nat} {frame : Frame}
    {out : List Output} (taken : onDownStream hub transId frame = some (after, out)) :
    (hub.transcations.find? transId = none ∧ after = hub) ∨
      ∃ transcation session ctx, hub.transcations.find? transId = some transcation ∧
        transcation.task = some session ∧ hub.live session ∧
        TimerMove session (hub.context session) ctx (accepts transcation frame) ∧
        after = hub.store session ctx := by
  unfold onDownStream at taken
  split at taken
  · rename_i missing
    obtain ⟨rfl, -⟩ := Prod.mk.inj (Option.some.inj taken)
    exact Or.inl ⟨missing, rfl⟩
  · rename_i transcation found
    obtain ⟨session, tasked, rest⟩ := Option.bind_eq_some_iff.mp taken
    split at rest
    · rename_i live
      obtain ⟨result, handled, same⟩ := Option.map_eq_some_iff.mp rest
      obtain ⟨rfl, -⟩ := Prod.mk.inj same
      exact Or.inr ⟨transcation, session, result.1, found, tasked, live,
        down_info_timer (show downInfo transId transcation session frame _ =
          some (result.1, result.2) from handled), rfl⟩
    · contradiction

theorem down_stream_all_timed {frame : Frame} {hub after : Hub Looper} {ids : List Nat}
    {out : List Output} (timed : Timed hub) (idle : StartsIdle frame hub ids)
    (taken : downStreamAll frame hub ids = some (after, out)) : Timed after := by
  induction ids generalizing hub after out with
  | nil =>
      obtain ⟨rfl, -⟩ := Prod.mk.inj (Option.some.inj taken)
      exact timed
  | cons transId rest ih =>
      obtain ⟨first, head, tail⟩ := Option.bind_eq_some_iff.mp taken
      obtain ⟨later, all, same⟩ := Option.map_eq_some_iff.mp tail
      obtain ⟨rfl, -⟩ := Prod.mk.inj same
      obtain ⟨free, idleLater⟩ := idle
      have kept : Timed first.1 := by
        rcases down_stream_move head with ⟨-, unchanged⟩ |
          ⟨transcation, session, ctx, found, tasked, live, moved, unchanged⟩
        · rw [unchanged]
          exact timed
        · rw [unchanged]
          exact timed_store timed live moved (free transcation session found tasked)
      exact ih kept (idleLater first.1 first.2 head) all

theorem down_stream_stray {frame : Frame} {hub after : Hub Looper} {transId : Nat}
    {out : List Output} (owned : Owned hub) {session : SessionId}
    (stray : Stray hub.looper session (hub.tasks session))
    (taken : onDownStream hub transId frame = some (after, out)) :
    Owned after ∧ Stray after.looper session (after.tasks session) := by
  rcases down_stream_move taken with ⟨-, rfl⟩ |
    ⟨transcation, addressed, ctx, -, -, live, moved, rfl⟩
  · exact ⟨owned, stray⟩
  · exact ⟨owned_store owned live moved, stray_store owned moved stray⟩

theorem down_stream_all_stray {frame : Frame} {hub after : Hub Looper} {ids : List Nat}
    {out : List Output} (owned : Owned hub) {session : SessionId}
    (stray : Stray hub.looper session (hub.tasks session))
    (taken : downStreamAll frame hub ids = some (after, out)) :
    Stray after.looper session (after.tasks session) := by
  induction ids generalizing hub after out with
  | nil =>
      obtain ⟨rfl, -⟩ := Prod.mk.inj (Option.some.inj taken)
      exact stray
  | cons transId rest ih =>
      obtain ⟨first, head, tail⟩ := Option.bind_eq_some_iff.mp taken
      obtain ⟨later, all, same⟩ := Option.map_eq_some_iff.mp tail
      obtain ⟨rfl, -⟩ := Prod.mk.inj same
      obtain ⟨ownedNext, strayNext⟩ := down_stream_stray owned stray head
      exact ih ownedNext strayNext all

/-- A command that a busy task gets leaves it with a timer that nothing cancels. -/
theorem down_stream_all_broken {frame : Frame} {hub after : Hub Looper} {ids : List Nat}
    {out : List Output} (timed : Timed hub) (twice : ¬ StartsIdle frame hub ids)
    (taken : downStreamAll frame hub ids = some (after, out)) :
    ∃ session, hub.live session ∧ Stray after.looper session (after.tasks session) := by
  induction ids generalizing hub after out with
  | nil => exact absurd trivial twice
  | cons transId rest ih =>
      obtain ⟨first, head, tail⟩ := Option.bind_eq_some_iff.mp taken
      obtain ⟨later, all, same⟩ := Option.map_eq_some_iff.mp tail
      obtain ⟨rfl, -⟩ := Prod.mk.inj same
      have reached : ∀ other out, onDownStream hub transId frame = some (other, out) →
          other = first.1 := by
        intro other out again
        rw [head] at again
        exact (Prod.mk.inj (Option.some.inj again)).1.symm
      rcases down_stream_move head with ⟨missing, unchanged⟩ |
        ⟨transcation, session, ctx, found, tasked, live, moved, unchanged⟩
      · have twiceLater : ¬ StartsIdle frame first.1 rest := by
          intro idleLater
          apply twice
          constructor
          · intro transcation session found
            rw [missing] at found
            cases found
          · intro other out again
            rw [reached other out again]
            exact idleLater
        rw [unchanged] at twiceLater all
        exact ih timed twiceLater all
      · by_cases free : accepts transcation frame = true → (hub.tasks session).status = .idle
        · have kept : Timed first.1 := by
            rw [unchanged]
            exact timed_store timed live moved free
          have twiceLater : ¬ StartsIdle frame first.1 rest := by
            intro idleLater
            apply twice
            constructor
            · intro transcation' session' found' tasked'
              rw [found] at found'
              cases found'
              rw [tasked] at tasked'
              cases tasked'
              exact free
            · intro other out again
              rw [reached other out again]
              exact idleLater
          obtain ⟨lost, alive, stray⟩ := ih kept twiceLater all
          rw [unchanged] at alive
          exact ⟨lost, alive, stray⟩
        · obtain ⟨accepted, busy⟩ := Classical.not_imp.mp free
          obtain ⟨te, member, -⟩ := (timed.timers session live).busy busy
          have stray := move_strays moved member (Or.inr accepted)
          have ownedNext : Owned first.1 := by
            rw [unchanged]
            exact owned_store timed.owned live moved
          refine ⟨session, live, down_stream_all_stray ownedNext ?_ all⟩
          rw [unchanged, store_task]
          exact stray

/-! ### The other callbacks -/

theorem finish_timed {hub : Hub Looper} (timed : Timed hub) {session : SessionId}
    (live : hub.live session) : Timed (hub.store session (finish (hub.context session))) :=
  timed_store timed live (TimerMove.ends rfl rfl rfl) fun accepted => by cases accepted

theorem update_info_timed {hub after : Hub Looper} {transId : Nat} {report : Option Json}
    {out : List Output} (timed : Timed hub)
    (taken : onUpdateInfo hub transId report = some (after, out)) : Timed after := by
  unfold onUpdateInfo at taken
  split at taken
  · contradiction
  · obtain ⟨rfl, -⟩ := Prod.mk.inj (Option.some.inj taken)
    exact timed
  · rename_i transcation root found
    obtain ⟨session, tasked, rest⟩ := Option.bind_eq_some_iff.mp taken
    split at rest
    · rename_i live
      obtain ⟨result, updated, same⟩ := Option.map_eq_some_iff.mp rest
      obtain ⟨rfl, -⟩ := Prod.mk.inj same
      have whole : updateInfo transId session (some root) (hub.context session) =
          some (result.1, result.2) := updated
      rcases update_info_cases whole with
        ⟨impossible, -, -⟩ | ⟨parsed, message, -, finished, -, -⟩
      · cases impossible
      · rw [finished]
        exact finish_timed timed live
    · contradiction

theorem balance_data_cases (hub : Hub Looper) (equipment : Nat) (steady : Bool) :
    Later (.balance equipment) hub.looper (onBalanceData hub equipment steady).looper ∧
      ((onBalanceData hub equipment steady).balanceClTimer = -1 ∨
        (onBalanceData hub equipment steady).balanceClTimer = hub.balanceClTimer ∨
        (CorrectEventLooper.issued (onBalanceData hub equipment steady).looper
            (onBalanceData hub equipment steady).balanceClTimer ∧
          ¬ CorrectEventLooper.issued hub.looper
            (onBalanceData hub equipment steady).balanceClTimer)) := by
  unfold onBalanceData
  split
  · exact ⟨later_cancel _ _ _, Or.inl rfl⟩
  · split
    · exact ⟨later_schedule _ _ _ _, Or.inr (Or.inr ⟨scheduled_issued _ _ _ _,
        CorrectEventLooper.schedule_fresh _ _ _ _⟩)⟩
    · exact ⟨later_refl _ _, Or.inr (Or.inl rfl)⟩

omit [CorrectEventLooper Looper] in
theorem balance_data_rest (hub : Hub Looper) (equipment : Nat) (steady : Bool) :
    (onBalanceData hub equipment steady).tasks = hub.tasks ∧
      (onBalanceData hub equipment steady).created = hub.created ∧
      (onBalanceData hub equipment steady).deleted = hub.deleted := by
  unfold onBalanceData
  split
  · exact ⟨rfl, rfl, rfl⟩
  · split <;> exact ⟨rfl, rfl, rfl⟩

theorem balance_data_timers {hub : Hub Looper} (owned : Owned hub) (equipment : Nat)
    (steady : Bool) (session : SessionId) :
    responseTimers (onBalanceData hub equipment steady).looper session =
      responseTimers hub.looper session := by
  unfold onBalanceData
  split
  · apply timers_of_cancel_other
    intro te member same
    obtain ⟨listed, into⟩ := mem_timers_of.mp member
    exact owned.balanceOwn te listed same session into
  · split
    · exact timers_of_schedule_other _ _ _ (by simp)
    · rfl

theorem balance_data_owned {hub : Hub Looper} (owned : Owned hub) (equipment : Nat)
    (steady : Bool) : Owned (onBalanceData hub equipment steady) := by
  obtain ⟨later, id⟩ := balance_data_cases hub equipment steady
  obtain ⟨tasks, created, -⟩ := balance_data_rest hub equipment steady
  constructor
  · rw [tasks]
    exact fun session => (owned.named session).later later
  · rw [tasks]
    intro session te member named
    exact owned.own session te (named_ne_fresh (owned.named session) later member named) named
  · rcases id with unset | kept | ⟨issued, -⟩
    · exact Or.inl unset
    · rw [kept]
      exact owned.balanceNamed.later later
    · exact Or.inr issued
  · intro te member named
    have issued := CorrectEventLooper.pending_issued _ te member
    rcases id with unset | kept | ⟨-, fresh⟩
    · exact absurd (named.trans unset) (CorrectEventLooper.issued_ne _ _ issued)
    · rw [kept] at named
      exact owned.balanceOwn te (named_ne_fresh owned.balanceNamed later member named) named
    · rcases later.pending te member with older | ⟨-, own⟩
      · rw [← named] at fresh
        exact absurd (CorrectEventLooper.pending_issued hub.looper te older) fresh
      · intro session same
        rw [own] at same
        cases same
  · intro session uncreated
    rw [balance_data_timers owned]
    exact owned.created session (created ▸ uncreated)

theorem balance_data_timed {hub : Hub Looper} (timed : Timed hub) (equipment : Nat)
    (steady : Bool) : Timed (onBalanceData hub equipment steady) := by
  refine ⟨balance_data_owned timed.owned equipment steady, ?_⟩
  obtain ⟨tasks, created, deleted⟩ := balance_data_rest hub equipment steady
  intro session live
  rw [Hub.live, created, deleted] at live
  obtain ⟨atMostOne, busy, idle⟩ := timed.timers session live
  have timers := balance_data_timers timed.owned equipment steady session
  rw [tasks]
  exact ⟨timers ▸ atMostOne, timers ▸ busy, timers ▸ idle⟩

theorem timeout_timed {hub after : Hub Looper} {te : TimerElement TimerSink} {out : List Output}
    (timed : Timed hub) (taken : onTimeout hub te = some (after, out)) : Timed after := by
  unfold onTimeout at taken
  split at taken
  · contradiction
  · split at taken
    · rename_i session sink
      split at taken
      · rename_i live
        by_cases fires : te.id = (hub.context session).task.responseTimeout
        · obtain ⟨rfl, -⟩ := Prod.mk.inj (Option.some.inj taken)
          simp only [onTimer, if_pos fires]
          exact finish_timed (balance_data_timed timed 0 true) live
        · obtain ⟨rfl, -⟩ := Prod.mk.inj (Option.some.inj taken)
          simp only [onTimer, if_neg fires]
          rw [store_context]
          exact timed
      · contradiction
    · obtain ⟨rfl, -⟩ := Prod.mk.inj (Option.some.inj taken)
      exact timed

omit [EventLooper Looper TimerSink] [CorrectEventLooper Looper] in
theorem subscribe_all_timeout (session : SessionId) (hub : Hub Looper) (ids : List Nat) :
    ((subscribeAll session hub ids).tasks session).responseTimeout =
      (hub.tasks session).responseTimeout := by
  have added (task : Task) (id : Nat) :
      (addTranscation task id).responseTimeout = task.responseTimeout := by
    unfold addTranscation
    split <;> rfl
  induction ids generalizing hub with
  | nil => rfl
  | cons id rest ih =>
      rw [subscribeAll, List.foldl_cons, ← subscribeAll, ih, Wiring.subscribe_one_tasks]
      simp only [if_true]
      exact added _ _

omit [EventLooper Looper TimerSink] [CorrectEventLooper Looper] in
theorem subscribe_all_balance (ids : List Nat) (hub : Hub Looper) (session : SessionId) :
    (subscribeAll session hub ids).balanceClTimer = hub.balanceClTimer := by
  induction ids generalizing hub with
  | nil => rfl
  | cons id rest ih =>
      rw [subscribeAll, List.foldl_cons, ← subscribeAll, ih]
      simp only [subscribeOne, setTransTask, Hub.modifyTask, subscibeTranscationId]
      split <;> split <;> (try split) <;> rfl

theorem connection_timed {hub : Hub Looper} (timed : Timed hub) (ip : String)
    (memory : TaskMemory) : Timed (onConnection hub ip memory) := by
  obtain ⟨created, deleted, -, looper, tasks⟩ := Wiring.connection_rest hub ip memory
  have unset : ((onConnection hub ip memory).tasks hub.created).responseTimeout = -1 := by
    rw [onConnection, subscribe_all_timeout]
    simp [openSession, Task.new]
  have resting := Wiring.connection_idle hub ip memory
  have balance : (onConnection hub ip memory).balanceClTimer = hub.balanceClTimer :=
    subscribe_all_balance _ _ _
  have older : ∀ te ∈ EventLooper.pending hub.looper, te.id ≠ -1 := fun te member =>
    CorrectEventLooper.issued_ne _ _ (CorrectEventLooper.pending_issued _ te member)
  have empty := timed.owned.created hub.created (Nat.le_refl _)
  constructor
  · constructor
    · intro session
      rw [looper]
      by_cases new : session = hub.created
      · subst new
        exact Or.inl unset
      · rw [tasks session new]
        exact timed.owned.named session
    · intro session te member named
      rw [looper] at member
      by_cases new : session = hub.created
      · subst new
        rw [unset] at named
        exact absurd named (older te member)
      · rw [tasks session new] at named
        exact timed.owned.own session te member named
    · rw [looper, balance]
      exact timed.owned.balanceNamed
    · rw [looper, balance]
      exact timed.owned.balanceOwn
    · intro session uncreated
      rw [created] at uncreated
      rw [looper]
      exact timed.owned.created session (Nat.le_of_succ_le uncreated)
  · intro session live
    obtain ⟨exists_, kept⟩ := live
    rw [created] at exists_
    rw [deleted] at kept
    rw [looper]
    by_cases new : session = hub.created
    · subst new
      constructor
      · rw [empty]
        exact Nat.zero_le _
      · intro busy
        exact absurd resting busy
      · intro _
        exact empty
    · rw [tasks session new]
      exact timed.timers session ⟨Nat.lt_of_le_of_ne (Nat.lt_succ_iff.mp exists_) new, kept⟩

theorem start_timed (transcations : StdMap Nat Transcation) :
    Timed (Hub.start transcations (CorrectEventLooper.start : Looper)) := by
  have none : ∀ te ∈ EventLooper.pending (CorrectEventLooper.start : Looper), False := by
    rw [CorrectEventLooper.start_pending]
    intro te member
    cases member
  constructor
  · constructor
    · exact fun session => Or.inl rfl
    · exact fun session te member => (none te member).elim
    · exact Or.inl rfl
    · exact fun te member => (none te member).elim
    · exact fun session _ => timers_of_start _
  · intro session live
    cases live.1

theorem step_timed (hub : Hub Looper) (event : Event) (after : Hub Looper) (timed : Timed hub)
    (alone : OneAtATime hub event) (taken : hubStep hub event = some after) : Timed after := by
  obtain ⟨result, stepped, rfl⟩ := Option.map_eq_some_iff.mp taken
  obtain ⟨after, out⟩ := result
  cases event with
  | onConnection ip memory =>
      cases stepped
      exact connection_timed timed ip memory
  | onFrame session frame =>
      simp only [CommServer.step, Option.ite_none_right_eq_some] at stepped
      rcases Wiring.frame_cases stepped.2 with ⟨-, unchanged, -⟩ | ⟨idle, all⟩
      · rw [unchanged]
        exact timed
      · exact down_stream_all_timed timed (alone idle) all
  | updateInfo transId report => exact update_info_timed timed stepped
  | onTimer te => exact timeout_timed timed stepped
  | balanceData equipment steady =>
      cases stepped
      exact balance_data_timed timed equipment steady
  | broadcast =>
      simp only [CommServer.step, Option.ite_none_right_eq_some, Option.some.injEq] at stepped
      obtain ⟨-, same⟩ := stepped
      cases same
      exact timed

theorem step_untimed (hub : Hub Looper) (event : Event) (after : Hub Looper) (timed : Timed hub)
    (twice : ¬ OneAtATime hub event) (taken : hubStep hub event = some after) :
    ¬ TimersMatch after := by
  intro holds
  obtain ⟨result, stepped, rfl⟩ := Option.map_eq_some_iff.mp taken
  obtain ⟨after, out⟩ := result
  cases event with
  | onFrame session frame =>
      obtain ⟨idle, started⟩ := Classical.not_imp.mp twice
      simp only [CommServer.step, Option.ite_none_right_eq_some] at stepped
      rcases Wiring.frame_cases stepped.2 with ⟨busy, -, -⟩ | ⟨-, all⟩
      · exact busy idle
      · obtain ⟨lost, live, stray⟩ := down_stream_all_broken timed started all
        have same := Wiring.down_stream_all_same_wiring all
        apply stray_unmatched stray
        apply holds lost
        rw [Hub.live, same.created, same.deleted]
        exact live
  | onConnection ip memory => exact twice trivial
  | updateInfo transId report => exact twice trivial
  | onTimer te => exact twice trivial
  | balanceData equipment steady => exact twice trivial
  | broadcast => exact twice trivial

/-- In every state of a run each task has its one timer exactly while it is busy, if and
only if no transcation accepts a command for a task that is busy at that moment. -/
theorem timers_match_iff (transcations : StdMap Nat Transcation) (events : List Event) :
    Always hubStep TimersMatch (Hub.start transcations (CorrectEventLooper.start : Looper)) events ↔
      Guarded hubStep OneAtATime (Hub.start transcations (CorrectEventLooper.start : Looper))
        events := by
  have initial : Timed (Hub.start transcations (CorrectEventLooper.start : Looper)) :=
    start_timed transcations
  have rule : EachStep hubStep (fun _ _ after => TimersMatch after)
      (Hub.start transcations (CorrectEventLooper.start : Looper)) events ↔
      Guarded hubStep OneAtATime (Hub.start transcations (CorrectEventLooper.start : Looper))
        events := by
    apply each_step_iff_guarded (fun hub event after timed alone taken => ?_) step_untimed initial
    have kept := step_timed hub event after timed alone taken
    exact ⟨kept, kept.timers⟩
  exact ⟨fun always => rule.mp always.2, fun alone => ⟨initial.timers, rule.mpr alone⟩⟩

def twoSolders : StdMap Nat Transcation :=
  (StdMap.empty.insert 1 OneReply.solderTranscation).insert 2 OneReply.solderTranscation

/-- Both transcations of a client accept its command and wait for a device. -/
theorem both_start_timer :
    ¬ Always hubStep TimersMatch
      (Hub.start twoSolders (CorrectEventLooper.start : TimerTable TimerSink))
      [.onConnection "10.0.0.1" ⟨none, 0⟩,
        .onFrame 0 (.json (OneReply.ask "GetSpitParam").value)] := by
  intro always
  have asked := ((always.2 _ rfl).2 _ rfl).1
  have alone := (asked 0 (by decide)).atMostOne
  revert alone
  decide

end DevHub.ReplyTimer
