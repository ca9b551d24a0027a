import DevHub.Communication.OneReply

/-!
Who refers to whom when a client drops. `Session::OnDisconnect` unlinks the session
from the subscription lists and deletes it with its task and its connection;
`m_connections`, the `m_task` of the transcations and the timers of the task keep
what they point to. Without disconnections every reference is to a live object.
-/

namespace DevHub.Lifetime

open Looper TaskUse Transcations CommServer Wiring Transition

set_option autoImplicit false

inductive LifeEvent where
  | hub (event : Event)
  | disconnect (session : SessionId)

section Looper

variable {Looper : Type} [EventLooper Looper TimerSink]

/-- `RemoveSessionInMap`: a list that gets empty is erased with its key. -/
def removeSessionInMap (hub : Hub Looper) (session : SessionId) : Hub Looper :=
  { hub with
    transcationSessions := hub.transcationSessions.filterMapValues fun list =>
      let left := list.erase session
      if left = [] then none else some left }

def onDisconnect (hub : Hub Looper) (session : SessionId) : Hub Looper :=
  let hub := removeSessionInMap hub session
  { hub with deleted := session :: hub.deleted }

def lifeStep : Step (Hub Looper) LifeEvent
  | hub, .hub event => (step hub event).map Prod.fst
  | hub, .disconnect session => if hub.live session then some (onDisconnect hub session) else none

/-- A balance belongs to its equipment, which the hub never deletes. -/
def SinkLive (hub : Hub Looper) : TimerSink → Prop
  | .task session => hub.live session
  | .balance _ => True

structure NoDangling (hub : Hub Looper) : Prop where
  connections : ∀ session ∈ hub.connections, hub.live session
  tasks : ∀ transId transcation session, hub.transcations.find? transId = some transcation →
    transcation.task = some session → hub.live session
  sinks : ∀ te ∈ EventLooper.pending hub.looper, SinkLive hub te.sink

/-! ### Timers -/

def SinksFrom (sink : TimerSink) (before after : Looper) : Prop :=
  ∀ te ∈ EventLooper.pending after, te ∈ EventLooper.pending before ∨ te.sink = sink

theorem sinks_from_trans {sink : TimerSink} {first second third : Looper}
    (early : SinksFrom sink first second) (late : SinksFrom sink second third) :
    SinksFrom sink first third := by
  intro te member
  rcases late te member with middle | scheduled
  · exact early te middle
  · exact Or.inr scheduled

theorem sinks_from_refl (sink : TimerSink) (looper : Looper) : SinksFrom sink looper looper :=
  fun _ member => Or.inl member

variable [LawfulEventLooper Looper]

theorem cancel_sinks (sink : TimerSink) (looper : Looper) (tid : Int) :
    SinksFrom sink looper (EventLooper.cancelTimer looper tid) :=
  fun te member => Or.inl (LawfulEventLooper.cancel_pending looper tid te member)

theorem finish_sinks (sink : TimerSink) (ctx : TaskContext Looper) :
    SinksFrom sink ctx.looper (finish ctx).looper :=
  cancel_sinks sink ctx.looper ctx.task.responseTimeout

theorem update_sinks (sink : TimerSink) (session : SessionId) (data : Message) (transId : Nat)
    (ctx : TaskContext Looper) :
    SinksFrom sink ctx.looper (update session data transId ctx).1.looper := by
  unfold update
  split
  · dsimp only
    split
    · exact finish_sinks sink { ctx with task := setTransStatus ctx.task transId }
    · exact sinks_from_refl sink ctx.looper
  · exact finish_sinks sink ctx

theorem answer_sinks (sink : TimerSink) (transId : Nat) (session : SessionId) (errorNo : Int)
    (cmd : String) (reqId : Int) (ctx : TaskContext Looper) :
    SinksFrom sink ctx.looper (answer transId session errorNo cmd reqId ctx).1.looper :=
  update_sinks sink session _ transId ctx

section Commands

variable {sink : TimerSink} {transId : Nat} {trans : Transcation} {session : SessionId}
  {request : Request} {ctx after : TaskContext Looper} {out : List Output}

theorem process_cmd_sinks
    (taken : processCmd transId trans session request ctx = some (after, out)) :
    SinksFrom sink ctx.looper after.looper := by
  cases process_cmd_carried taken with
  | answers stored writes errorNo cmd decided start device code named task emitted =>
      have answered := answer_sinks sink transId session errorNo cmd request.reqId stored
      rw [(stored_kept start).1] at answered
      rw [task]
      exact answered
  | waits command decided given task emitted =>
      rw [task]
      exact sinks_from_refl sink ctx.looper
  | nothing decided task emitted =>
      rw [task]
      exact sinks_from_refl sink ctx.looper

/-- Only the response timer is scheduled, for the task that works on the request. -/
theorem down_info_sinks {frame : Frame}
    (taken : downInfo transId trans session frame ctx = some (after, out)) :
    SinksFrom (.task session) ctx.looper after.looper := by
  cases down_info_cases taken with
  | ignored decoded decodes request task silent =>
      rw [task]
      exact sinks_from_refl _ ctx.looper
  | declined decoded request decodes read unknown result =>
      rw [show after = _ from congrArg Prod.fst result]
      exact update_sinks _ session _ transId { ctx with task := decoded.store ctx.task }
  | accepted decoded request val started rest decodes read known start processed emitted =>
      have later : SinksFrom (.task session) started.looper after.looper :=
        process_cmd_sinks processed
      rw [start] at later
      apply sinks_from_trans _ later
      exact LawfulEventLooper.schedule_pending ctx.looper _ _ (TimerSink.task session)

end Commands

/-! ### Steps -/

omit [EventLooper Looper TimerSink] [LawfulEventLooper Looper] in
theorem same_wiring_live {before after : Hub Looper} (same : SameWiring before after)
    (session : SessionId) : after.live session ↔ before.live session := by
  rw [Hub.live, Hub.live, same.created, same.deleted]

def NewSinksLive (hub after : Hub Looper) : Prop :=
  ∀ te ∈ EventLooper.pending after.looper,
    te ∈ EventLooper.pending hub.looper ∨ SinkLive hub te.sink

theorem down_stream_sinks {hub after : Hub Looper} {transId : Nat} {frame : Frame}
    {out : List Output} (taken : onDownStream hub transId frame = some (after, out)) :
    NewSinksLive hub after := by
  unfold onDownStream at taken
  split at taken
  · obtain ⟨rfl, -⟩ := Prod.mk.inj (Option.some.inj taken)
    exact fun te member => Or.inl member
  · obtain ⟨session, -, rest⟩ := Option.bind_eq_some_iff.mp taken
    split at rest
    · rename_i live
      obtain ⟨result, handled, same⟩ := Option.map_eq_some_iff.mp rest
      obtain ⟨rfl, -⟩ := Prod.mk.inj same
      intro te member
      apply (down_info_sinks handled te member).imp_right
      intro scheduled
      rw [scheduled]
      exact live
    · cases rest

theorem down_stream_all_sinks {frame : Frame} {ids : List Nat} {hub after : Hub Looper}
    {out : List Output} (taken : downStreamAll frame hub ids = some (after, out)) :
    NewSinksLive hub after := by
  induction ids generalizing hub out with
  | nil =>
      obtain ⟨rfl, -⟩ := Prod.mk.inj (Option.some.inj taken)
      exact fun te member => Or.inl member
  | cons transId rest ih =>
      obtain ⟨first, head, tail⟩ := Option.bind_eq_some_iff.mp taken
      obtain ⟨later, all, same⟩ := Option.map_eq_some_iff.mp tail
      obtain ⟨rfl, -⟩ := Prod.mk.inj same
      have wiring := down_stream_same_wiring head
      intro te member
      rcases ih all te member with middle | live
      · exact down_stream_sinks head te middle
      · right
        cases sink : te.sink with
        | task session =>
            rw [sink] at live
            exact (same_wiring_live wiring session).mp live
        | balance equipment => trivial

theorem step_sinks {hub after : Hub Looper} {event : Event} {out : List Output}
    (taken : step hub event = some (after, out)) : NewSinksLive hub after := by
  have cancelled {ctx : TaskContext Looper} {session : SessionId}
      (from_hub : ∀ te ∈ EventLooper.pending ctx.looper, te ∈ EventLooper.pending hub.looper) :
      NewSinksLive hub (hub.store session (finish ctx)) :=
    fun te member => Or.inl (from_hub te (LawfulEventLooper.cancel_pending _ _ te member))
  cases event with
  | onConnection ip memory =>
      obtain ⟨rfl, -⟩ := Prod.mk.inj (Option.some.inj taken)
      obtain ⟨-, -, -, looper, -⟩ := connection_rest hub ip memory
      intro te member
      rw [looper] at member
      exact Or.inl member
  | onFrame session frame =>
      simp only [step] at taken
      split at taken
      · rcases frame_cases taken with ⟨-, rfl, -⟩ | ⟨-, all⟩
        · exact fun te member => Or.inl member
        · exact down_stream_all_sinks all
      · cases taken
  | updateInfo transId report =>
      rcases update_info_hub_cases taken with ⟨-, rfl, -⟩ | ⟨_, _, session, _, -, -, -, rfl, -⟩
      · exact fun te member => Or.inl member
      · exact cancelled (fun te member => member)
  | onTimer te =>
      rcases timeout_cases taken with
        ⟨rfl, -⟩ | ⟨session, -, ⟨-, -, rfl⟩ | ⟨silenced, -, stopped, rfl, -⟩⟩
      · exact fun te member => Or.inl member
      · exact fun te member => Or.inl member
      · intro te member
        have before := LawfulEventLooper.cancel_pending _ _ te member
        rw [show (silenced.looper = _) from stopped] at before
        exact Or.inl (LawfulEventLooper.cancel_pending _ _ te before)
  | balanceData equipment steady =>
      obtain ⟨rfl, -⟩ := Prod.mk.inj (Option.some.inj taken)
      unfold onBalanceData
      split
      · exact fun te member => Or.inl (LawfulEventLooper.cancel_pending _ _ te member)
      · split
        · intro te member
          apply (LawfulEventLooper.schedule_pending hub.looper _ _ _ te member).imp_right
          intro scheduled
          rw [scheduled]
          trivial
        · exact fun te member => Or.inl member
  | broadcast =>
      simp only [step] at taken
      split at taken
      · obtain ⟨rfl, -⟩ := Prod.mk.inj (Option.some.inj taken)
        exact fun te member => Or.inl member
      · cases taken

/-! ### Runs -/

/-- The references of a hub that no client has left. -/
structure Linked (hub : Hub Looper) : Prop where
  wired : Wired hub
  connected : ∀ session, session ∈ hub.connections ↔ session < hub.created
  sinks : ∀ te ∈ EventLooper.pending hub.looper, SinkLive hub te.sink

omit [LawfulEventLooper Looper] in
theorem linked_no_dangling {hub : Hub Looper} (linked : Linked hub) : NoDangling hub := by
  have live {session : SessionId} (created : session < hub.created) : hub.live session := by
    refine ⟨created, ?_⟩
    rw [linked.wired.undeleted]
    exact List.not_mem_nil
  constructor
  · intro session member
    exact live ((linked.connected session).mp member)
  · intro transId transcation session found tasked
    rw [linked.wired.tasked transId transcation found] at tasked
    obtain ⟨list, listed, last⟩ := Option.bind_eq_some_iff.mp tasked
    exact live ((linked.wired.created transId list listed).2 session (List.mem_of_getLast? last))
  · exact linked.sinks

theorem hub_step_linked {hub after : Hub Looper} {event : Event} {out : List Output}
    (linked : Linked hub) (taken : step hub event = some (after, out)) : Linked after := by
  have wired := step_wired linked.wired taken
  have grows : (∀ session, session ∈ after.connections ↔ session < after.created) ∧
      hub.created ≤ after.created := by
    rcases step_same_wiring taken with same | ⟨ip, memory, -, rfl⟩
    · rw [same.connections, same.created]
      exact ⟨linked.connected, Nat.le_refl _⟩
    · obtain ⟨created, -, connections, -, -⟩ := connection_rest hub ip memory
      rw [created, connections]
      constructor
      · intro session
        rw [List.mem_append, linked.connected, List.mem_singleton, Nat.lt_succ_iff_lt_or_eq]
      · exact Nat.le_succ _
  refine ⟨wired, grows.1, ?_⟩
  intro te member
  have live : SinkLive hub te.sink :=
    (step_sinks taken te member).elim (linked.sinks te) id
  cases sink : te.sink with
  | task session =>
      rw [sink] at live
      refine ⟨Nat.lt_of_lt_of_le live.1 grows.2, ?_⟩
      rw [wired.undeleted]
      exact List.not_mem_nil
  | balance equipment => trivial

omit [LawfulEventLooper Looper] in
/-- The connection of a client that left stays in `m_connections`. -/
theorem disconnect_dangles {hub : Hub Looper} (linked : Linked hub)
    {session : SessionId} (live : hub.live session) :
    ¬ NoDangling (onDisconnect hub session) := by
  intro holds
  have listed : session ∈ (onDisconnect hub session).connections :=
    (linked.connected session).mpr live.1
  exact (holds.connections session listed).2 List.mem_cons_self

end Looper

def Stays (_ : Hub (EventLooperImp TimerSink)) (event : LifeEvent) : Prop :=
  ∀ session, event ≠ .disconnect session

/-- Every reference is to a live object in every state of a run exactly when no
client drops in it. -/
theorem references_live_iff_stays (transcations : StdMap Nat Transcation)
    (events : List LifeEvent) :
    Always lifeStep NoDangling (Hub.start transcations EventLooperImp.empty) events ↔
      Guarded lifeStep Stays (Hub.start transcations EventLooperImp.empty) events := by
  have initial : Linked (Hub.start transcations (EventLooperImp.empty : EventLooperImp TimerSink)) := by
    refine ⟨start_wired transcations _, ?_, ?_⟩
    · intro session
      exact iff_of_false List.not_mem_nil (Nat.not_lt_zero session)
    · intro te member
      cases member
  have steps : EachStep lifeStep (fun _ _ next => NoDangling next)
      (Hub.start transcations EventLooperImp.empty) events ↔
        Guarded lifeStep Stays (Hub.start transcations EventLooperImp.empty) events := by
    apply each_step_iff_guarded _ _ initial
    · intro hub event after linked stays taken
      cases event with
      | hub event =>
          obtain ⟨⟨next, out⟩, moved, rfl⟩ := Option.map_eq_some_iff.mp taken
          have kept := hub_step_linked linked moved
          exact ⟨kept, linked_no_dangling kept⟩
      | disconnect session => exact absurd rfl (stays session)
    · intro hub event after linked leaves taken
      cases event with
      | hub event => exact absurd (fun session same => by cases same) leaves
      | disconnect session =>
          rw [lifeStep] at taken
          split at taken
          · rename_i live
            obtain rfl := Option.some.inj taken
            exact disconnect_dangles linked live
          · cases taken
  rw [Always, steps]
  exact and_iff_right (linked_no_dangling initial)

/-- A client drops while its command is at the device: the transcation still
points to its task. -/
theorem dropped_client_dangles :
    ¬ Always lifeStep NoDangling (Hub.start OneReply.balanceAndSolder EventLooperImp.empty)
      ([.hub (.onConnection "10.0.0.1" ⟨none, 0⟩),
        .hub (.onFrame 0 (.json (OneReply.ask "GetSpitParam").value)), .disconnect 0] ++ []) := by
  intro holds
  have final := always_at holds rfl
  exact absurd (final.tasks 2 _ 0 rfl rfl) (by decide)

end DevHub.Lifetime
