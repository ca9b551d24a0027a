import DevHub.Communication.AccessControl
import DevHub.Transcation.Asked

/-!
Which request a message names. What is sent while a frame is handled is made of that frame.
A device report and a timeout come later and are made of the task: the observer notes
for each session the last request whose command reached a device through its task, until
the next frame reaches that task, and this request is the one that the task still shows.
-/

namespace DevHub.Identify

open Looper TaskUse Transcations CommServer Wiring Asking Transition
open AccessControl (callOf passed handled_passes)

set_option autoImplicit false

/-- The hub, the request whose command is at a device, and what the last step emitted. -/
structure Observed (Looper : Type) where
  hub : Hub Looper
  handed : SessionId → Option Asked
  sent : List Output

def taskOf {Looper : Type} (hub : Hub Looper) (transId : Nat) : Option SessionId :=
  (hub.transcations.find? transId).bind Transcation.task

def touches {Looper : Type} (hub : Hub Looper) (about : Output → Option Nat) (session : SessionId)
    (out : List Output) : Bool :=
  out.any fun output => (about output).bind (taskOf hub) = some session

def observe {Looper : Type} (state : Observed Looper) (event : Event) (out : List Output) :
    SessionId → Option Asked :=
  match event with
  | .onConnection _ _ => fun session =>
      if session = state.hub.created then none else state.handed session
  | .onFrame _ frame => fun session =>
      if touches state.hub callOf session out then
        if touches state.hub commandedBy session out then askedIn frame else none
      else state.handed session
  | _ => state.handed

variable {Looper : Type} [EventLooper Looper TimerSink]

def observedStep : Step (Observed Looper) Event := fun state event =>
  (step state.hub event).map fun result =>
    { hub := result.1, handed := observe state event result.2, sent := result.2 }

def Observed.start (transcations : StdMap Nat Transcation) (looper : Looper) : Observed Looper where
  hub := Hub.start transcations looper
  handed _ := none
  sent := []

/-- Whatever answers a request carries its name and number, in its format. -/
def NamesRequest (before : Observed Looper) (event : Event) (after : Observed Looper) : Prop :=
  ∀ receiver message source, .sendMessage receiver message source ∈ after.sent →
    match event with
    | .onFrame _ frame => source ≠ .busy →
        ∃ asked, askedIn frame = some asked ∧ Carries asked message
    | .updateInfo _ _ => ∀ asked, before.handed receiver = some asked → Carries asked message
    | .onTimer _ => ∀ asked, before.handed receiver = some asked → Carries asked message
    | _ => True

/-- The same where a timeout is an object with the name "Timeout" and the number, and a
report to a text begins with its items; what `ERROR_COMMAND` names, and the name in an
error of `BalanceCl`, is left open. -/
def TellsRequest (before : Observed Looper) (event : Event) (after : Observed Looper) : Prop :=
  ∀ receiver message source, .sendMessage receiver message source ∈ after.sent →
    match event with
    | .onFrame _ frame => source ≠ .busy →
        ∃ asked, askedIn frame = some asked ∧ Answer asked message source
    | .updateInfo _ _ => ∀ asked, before.handed receiver = some asked → DataReply asked message
    | .onTimer _ => ∃ reqId,
        message = .styled (.object [("ReqId", .int reqId), ("cmd", .string "Timeout")]) ∧
          ∀ asked, before.handed receiver = some asked → reqId = asked.request.reqId
    | _ => True

/-- The invariant: a task shows the request whose command is at a device. -/
def Shown (state : Observed Looper) : Prop :=
  ∀ session asked, state.handed session = some asked →
    Holds (state.hub.tasks session) asked ∧ Noted (state.hub.tasks session) asked.request

/-! ### The loop over the transcations -/

/-- What a part of the loop leaves behind, by the request in the frame. -/
structure Walked (asks : Option Asked) (hub after : Hub Looper) (out : List Output) : Prop where
  apart : ∀ session, touches hub callOf session out = false →
    after.tasks session = hub.tasks session
  held : ∀ session asked, asks = some asked → touches hub callOf session out = true →
    Holds (after.tasks session) asked
  noted : ∀ session, touches hub commandedBy session out = true →
    ∃ asked, asks = some asked ∧ Noted (after.tasks session) asked.request
  kept : ∀ session asked, asks = some asked → Noted (hub.tasks session) asked.request →
    Noted (after.tasks session) asked.request
  answers : ∀ receiver message source, .sendMessage receiver message source ∈ out →
    ∃ asked, asks = some asked ∧ Answer asked message source

omit [EventLooper Looper TimerSink] in
theorem touches_append (hub : Hub Looper) (about : Output → Option Nat) (session : SessionId)
    (first second : List Output) :
    touches hub about session (first ++ second) =
      (touches hub about session first || touches hub about session second) :=
  List.any_append

omit [EventLooper Looper TimerSink] in
theorem touches_cons (hub : Hub Looper) (about : Output → Option Nat) (session : SessionId)
    (output : Output) (out : List Output) :
    touches hub about session (output :: out) =
      (decide ((about output).bind (taskOf hub) = some session) || touches hub about session out) :=
  List.any_cons

omit [EventLooper Looper TimerSink] in
theorem Walked.append {asks : Option Asked} {hub middle after : Hub Looper}
    {first second : List Output} (early : Walked asks hub middle first)
    (late : Walked asks middle after second) (same : middle.transcations = hub.transcations) :
    Walked asks hub after (first ++ second) := by
  have touched (about : Output → Option Nat) (session : SessionId) :
      touches middle about session second = touches hub about session second := by
    have tasks : taskOf middle = taskOf hub := by
      funext transId
      rw [taskOf, taskOf, same]
    rw [touches, touches, tasks]
  constructor
  · intro session none_
    rw [touches_append, Bool.or_eq_false_iff] at none_
    rw [late.apart session (by rw [touched]; exact none_.2), early.apart session none_.1]
  · intro session asked asks some_
    rw [touches_append] at some_
    cases later : touches hub callOf session second with
    | true => exact late.held session asked asks (by rw [touched]; exact later)
    | false =>
        rw [later, Bool.or_false] at some_
        rw [late.apart session (by rw [touched]; exact later)]
        exact early.held session asked asks some_
  · intro session some_
    rw [touches_append] at some_
    cases later : touches hub commandedBy session second with
    | true => exact late.noted session (by rw [touched]; exact later)
    | false =>
        rw [later, Bool.or_false] at some_
        obtain ⟨asked, asks, noted⟩ := early.noted session some_
        exact ⟨asked, asks, late.kept session asked asks noted⟩
  · intro session asked asks noted
    exact late.kept session asked asks (early.kept session asked asks noted)
  · intro receiver message source sent
    rcases List.mem_append.mp sent with one | many
    · exact early.answers receiver message source one
    · exact late.answers receiver message source many

theorem is_reply_answer {frame : Frame} {asked : Asked} (asks : askedIn frame = some asked)
    {stored : Task} (holds : Holds stored asked) {message : Message} {source : Source}
    (reply : IsReply stored asked.request message source) : Answer asked message source := by
  have plain (errorNo : Int) (cmd : String)
      (same : message = response stored errorNo cmd asked.request.reqId)
      (named : asked.request.cmd ≠ "BalanceCl" → cmd = asked.request.cmd) :
      (∃ errorNo cmd, message = asked.reply errorNo cmd asked.request.reqId) ∧
        (asked.request.cmd ≠ "BalanceCl" → Carries asked message) := by
    rw [holds_response holds] at same
    refine ⟨⟨errorNo, cmd, same⟩, ?_⟩
    intro other
    rw [same, named other]
    exact reply_carries asks errorNo
  cases source with
  | nothingToDo transId =>
      obtain ⟨cmd, reqId, same⟩ := reply
      exact ⟨cmd, reqId, same.trans (holds_response holds _ _ _)⟩
  | busy =>
      obtain ⟨errorNo, cmd, same, named⟩ := reply
      exact plain errorNo cmd same named
  | reply transId =>
      obtain ⟨errorNo, cmd, same, named⟩ := reply
      exact plain errorNo cmd same named
  | timeout =>
      obtain ⟨errorNo, cmd, same, named⟩ := reply
      exact plain errorNo cmd same named

omit [EventLooper Looper TimerSink] in
theorem silent_walked {hub after : Hub Looper} {asks : Option Asked} {transId : Nat}
    (apart : ∀ session, taskOf hub transId ≠ some session →
      after.tasks session = hub.tasks session)
    (nobody : taskOf hub transId = none ∨ asks = none) :
    Walked asks hub after [.downStream transId] := by
  have visit (session : SessionId) : touches hub callOf session [.downStream transId] =
      decide (taskOf hub transId = some session) := by
    rw [touches_cons]
    exact Bool.or_false _
  constructor
  · intro session none_
    rw [visit] at none_
    exact apart session (of_decide_eq_false none_)
  · intro session asked asks some_
    rw [visit] at some_
    rcases nobody with missing | unasked
    · rw [missing] at some_
      cases some_
    · rw [unasked] at asks
      cases asks
  · intro session some_
    cases some_
  · intro session asked asks noted
    rcases nobody with missing | unasked
    · rw [apart session (by simp [missing])]
      exact noted
    · rw [unasked] at asks
      cases asks
  · intro receiver message source sent
    cases List.mem_singleton.mp sent

omit [EventLooper Looper TimerSink] in
theorem replied_walked {hub : Hub Looper} {transId : Nat} {session : SessionId} {frame : Frame}
    {asked : Asked} {stored : Task} {ctx : TaskContext Looper} {out : List Output}
    (owner : taskOf hub transId = some session) (asks : askedIn frame = some asked)
    (holds : Holds stored asked) (note : SameNote stored (hub.tasks session))
    (alone : passed out = []) (replied : Replied transId asked.request stored ctx.task out) :
    Walked (askedIn frame) hub (hub.store session ctx) (.downStream transId :: out) := by
  have visit (other : SessionId) :
      touches hub callOf other (.downStream transId :: out) = decide (session = other) := by
    have rest : touches hub callOf other out = false := by
      apply List.any_eq_false.mpr
      intro output member
      simp [List.filterMap_eq_nil_iff.mp alone output member]
    rw [touches_cons, rest, Bool.or_false]
    simp [callOf, owner]
  constructor
  · intro other none_
    rw [visit] at none_
    exact store_other hub ctx (Ne.symm (of_decide_eq_false none_))
  · intro other asked' asks' some_
    rw [visit] at some_
    obtain rfl := of_decide_eq_true some_
    obtain rfl := Option.some.inj (asks.symm.trans asks')
    rw [store_task]
    exact same_head_holds replied.head holds
  · intro other some_
    obtain ⟨output, member, command⟩ := List.any_eq_true.mp some_
    obtain ⟨commander, commands, works⟩ := Option.bind_eq_some_iff.mp (of_decide_eq_true command)
    rcases List.mem_cons.mp member with same | later
    · rw [same] at commands
      cases commands
    · obtain ⟨same, noted⟩ := replied.handed output later commander commands
      rw [same, owner] at works
      obtain rfl := Option.some.inj works
      rw [store_task]
      exact ⟨asked, asks, noted⟩
  · intro other asked' asks' noted
    obtain rfl := Option.some.inj (asks.symm.trans asks')
    by_cases same : other = session
    · rw [same] at noted ⊢
      rw [store_task]
      cases replied.noted with
      | inl kept => exact same_note_noted kept (same_note_noted note noted)
      | inr renewed => exact renewed
    · rw [store_other hub ctx same]
      exact noted
  · intro receiver message source sent
    rcases List.mem_cons.mp sent with same | later
    · cases same
    · exact ⟨asked, asks,
        is_reply_answer asks holds (replied.replies receiver message source later)⟩

theorem down_stream_walked {hub after : Hub Looper} {transId : Nat} {frame : Frame}
    {out : List Output} (taken : onDownStream hub transId frame = some (after, out)) :
    Walked (askedIn frame) hub after out := by
  rcases down_stream_info taken with
    ⟨missing, same, sent⟩ | ⟨transcation, session, ctx, handledOut, found, tasked, handled, rfl, rfl⟩
  · rw [same, sent]
    apply silent_walked (fun _ _ => rfl)
    left
    rw [taskOf, missing, Option.bind_none]
  · have owner : taskOf hub transId = some session := by
      rw [taskOf, found]
      exact tasked
    rcases down_info_replied handled with ⟨nothing, rfl⟩ | ⟨asked, stored, asks, holds, note, replied⟩
    · apply silent_walked _ (Or.inr nothing)
      intro other apart
      apply store_other
      intro same
      exact apart (owner.trans (congrArg some same.symm))
    · have alone := handled_passes (down_info_handled handled)
      exact replied_walked owner asks holds note alone replied

theorem down_stream_all_walked {frame : Frame} {hub after : Hub Looper} {ids : List Nat}
    {out : List Output} (taken : downStreamAll frame hub ids = some (after, out)) :
    Walked (askedIn frame) hub after out := by
  induction ids generalizing hub out with
  | nil =>
      obtain ⟨rfl, rfl⟩ := Prod.mk.inj (Option.some.inj taken)
      constructor
      · exact fun _ _ => rfl
      · intro session asked _ some_
        cases some_
      · intro session some_
        cases some_
      · exact fun _ _ _ noted => noted
      · intro receiver message source sent
        cases sent
  | cons transId rest ih =>
      obtain ⟨first, head, tail⟩ := Option.bind_eq_some_iff.mp taken
      obtain ⟨later, all, sameOut⟩ := Option.map_eq_some_iff.mp tail
      obtain ⟨rfl, rfl⟩ := Prod.mk.inj sameOut
      exact (down_stream_walked head).append (ih all) (down_stream_same_wiring head).transcations

/-! ### One step -/

omit [EventLooper Looper TimerSink] in
theorem shown_kept {state : Observed Looper} (shown : Shown state) {after : Hub Looper}
    {sent : List Output}
    (kept : ∀ session, SameHead (after.tasks session) (state.hub.tasks session) ∧
      SameNote (after.tasks session) (state.hub.tasks session)) :
    Shown { hub := after, handed := state.handed, sent := sent } := by
  intro session asked handed
  obtain ⟨holds, noted⟩ := shown session asked handed
  exact ⟨same_head_holds (kept session).1 holds, same_note_noted (kept session).2 noted⟩

omit [EventLooper Looper TimerSink] in
theorem same_tasks_shown {state : Observed Looper} (shown : Shown state) {after : Hub Looper}
    {sent : List Output} (same : after.tasks = state.hub.tasks) :
    Shown { hub := after, handed := state.handed, sent := sent } := by
  apply shown_kept shown
  intro session
  rw [same]
  exact ⟨same_head_refl _, rfl, rfl⟩

omit [EventLooper Looper TimerSink] in
theorem store_shows (hub : Hub Looper) (session : SessionId) (ctx : TaskContext Looper)
    (head : SameHead ctx.task (hub.tasks session)) (note : SameNote ctx.task (hub.tasks session))
    (other : SessionId) : SameHead ((hub.store session ctx).tasks other) (hub.tasks other) ∧
      SameNote ((hub.store session ctx).tasks other) (hub.tasks other) := by
  by_cases same : other = session
  · rw [same, store_task]
    exact ⟨head, note⟩
  · rw [store_other hub ctx same]
    exact ⟨same_head_refl _, rfl, rfl⟩

theorem frame_tells {state after : Observed Looper} {sender : SessionId} {frame : Frame}
    (shown : Shown state) (taken : observedStep state (.onFrame sender frame) = some after) :
    Shown after ∧ TellsRequest state (.onFrame sender frame) after := by
  obtain ⟨⟨hub, out⟩, moved, rfl⟩ := Option.map_eq_some_iff.mp taken
  simp only [step] at moved
  split at moved
  · unfold onFrame at moved
    split at moved
    · obtain ⟨rfl, rfl⟩ := Prod.mk.inj (Option.some.inj moved)
      constructor
      · exact same_tasks_shown shown rfl
      · intro receiver message source sent accepted
        cases List.mem_singleton.mp sent
        exact absurd rfl accepted
    · have walked := down_stream_all_walked moved
      constructor
      · intro session asked handed
        simp only [observe] at handed
        split at handed
        · rename_i reached
          split at handed
          · rename_i commanded
            obtain ⟨asked', asks, noted⟩ := walked.noted session commanded
            obtain rfl := Option.some.inj (asks.symm.trans handed)
            exact ⟨walked.held session asked' asks reached, noted⟩
          · cases handed
        · rename_i apart
          rw [walked.apart session (by simpa using apart)]
          exact shown session asked handed
      · intro receiver message source sent _
        exact walked.answers receiver message source sent
  · cases moved

omit [EventLooper Looper TimerSink] in
theorem data_reply {task : Task} {root : Json} {message : Message} {asked : Asked}
    (data : DataMessage task root message) (holds : Holds task asked)
    (noted : Noted task asked.request) : DataReply asked message := by
  cases asked with
  | json request =>
      have format : task.format = some .json := holds
      cases data with
      | json _ =>
          rw [noted.1, noted.2]
          exact ⟨_, rfl, rfl, rfl⟩
      | common data other => cases format.symm.trans other
      | unset other => cases format.symm.trans other
  | common machineId stationId slotId request =>
      obtain ⟨format, machine, station, slot⟩ := holds
      cases data with
      | json other => cases format.symm.trans other
      | common data _ =>
          refine ⟨data, ?_⟩
          rw [buildCommDataResponse, machine, station, slot]
      | unset other => cases format.symm.trans other

theorem timer_tells {state after : Observed Looper} {te : TimerElement TimerSink}
    (shown : Shown state) (taken : observedStep state (.onTimer te) = some after) :
    Shown after ∧ TellsRequest state (.onTimer te) after := by
  obtain ⟨⟨hub, out⟩, moved, rfl⟩ := Option.map_eq_some_iff.mp taken
  rcases timeout_cases moved with
    ⟨rfl, polls⟩ | ⟨session, -, ⟨-, rfl, rfl⟩ | ⟨silenced, task, -, rfl, rfl⟩⟩
  · constructor
    · exact same_tasks_shown shown rfl
    · intro receiver message source sent
      obtain ⟨equipment, same⟩ := polls _ sent
      cases same
  · constructor
    · apply shown_kept shown
      exact store_shows state.hub session _ ⟨rfl, rfl, rfl, rfl⟩ ⟨rfl, rfl⟩
    · intro receiver message source sent
      cases sent
  · have head : SameHead (finish silenced).task (state.hub.tasks session) := by
      rw [← task]
      exact ⟨rfl, rfl, rfl, rfl⟩
    have note : SameNote (finish silenced).task (state.hub.tasks session) := by
      rw [← task]
      exact ⟨rfl, rfl⟩
    constructor
    · apply shown_kept shown
      exact store_shows state.hub session (finish silenced) head note
    · intro receiver message source sent
      rcases List.mem_append.mp sent with notice | last
      · obtain ⟨key, -, same⟩ := List.mem_map.mp notice
        cases same
      · cases List.mem_singleton.mp last
        refine ⟨(state.hub.tasks session).reqId, rfl, ?_⟩
        intro asked handed
        exact (shown session asked handed).2.2

theorem report_tells {state after : Observed Looper} {transId : Nat} {report : Option Json}
    (shown : Shown state) (taken : observedStep state (.updateInfo transId report) = some after) :
    Shown after ∧ TellsRequest state (.updateInfo transId report) after := by
  obtain ⟨⟨hub, out⟩, moved, rfl⟩ := Option.map_eq_some_iff.mp taken
  rcases update_info_hub_cases moved with
    ⟨-, rfl, rfl⟩ | ⟨root, transcation, session, message, -, -, -, rfl, rfl, data⟩
  · constructor
    · exact same_tasks_shown shown rfl
    · intro receiver message source sent
      cases sent
  · constructor
    · apply shown_kept shown
      exact store_shows state.hub session _ ⟨rfl, rfl, rfl, rfl⟩ ⟨rfl, rfl⟩
    · intro receiver message' source sent asked handed
      cases List.mem_singleton.mp sent
      obtain ⟨holds, noted⟩ := shown session asked handed
      exact data_reply data holds noted

theorem step_tells {state after : Observed Looper} {event : Event} (shown : Shown state)
    (taken : observedStep state event = some after) :
    Shown after ∧ TellsRequest state event after := by
  cases event with
  | onFrame sender frame => exact frame_tells shown taken
  | updateInfo transId report => exact report_tells shown taken
  | onTimer te => exact timer_tells shown taken
  | onConnection peerIp memory =>
      obtain ⟨⟨hub, out⟩, moved, rfl⟩ := Option.map_eq_some_iff.mp taken
      obtain ⟨rfl, rfl⟩ := Prod.mk.inj (Option.some.inj moved)
      obtain ⟨-, -, -, -, tasks⟩ := connection_rest state.hub peerIp memory
      refine ⟨?_, fun _ _ _ _ => trivial⟩
      intro session asked handed
      simp only [observe] at handed
      split at handed
      · cases handed
      · rename_i older
        rw [tasks session older]
        exact shown session asked handed
  | balanceData equipment steady =>
      obtain ⟨⟨hub, out⟩, moved, rfl⟩ := Option.map_eq_some_iff.mp taken
      obtain ⟨rfl, rfl⟩ := Prod.mk.inj (Option.some.inj moved)
      exact ⟨same_tasks_shown shown (balance_data_tasks _ _ _), fun _ _ _ _ => trivial⟩
  | broadcast =>
      obtain ⟨⟨hub, out⟩, moved, rfl⟩ := Option.map_eq_some_iff.mp taken
      simp only [step] at moved
      split at moved
      · obtain ⟨rfl, rfl⟩ := Prod.mk.inj (Option.some.inj moved)
        exact ⟨same_tasks_shown shown rfl, fun _ _ _ _ => trivial⟩
      · cases moved

/-- In every run what is sent about a request tells which one it is about. -/
theorem replies_tell_request (transcations : StdMap Nat Transcation) (looper : Looper)
    (events : List Event) :
    EachStep observedStep TellsRequest (Observed.start transcations looper) events := by
  have initial : Shown (Observed.start transcations looper) := by
    intro session asked handed
    cases handed
  apply each_step_of_keeps _ initial
  intro state event after shown taken
  exact step_tells shown taken

def readableBalance : Transcation where
  kind := .balance
  transName := "balance"
  task := none
  commandNames := ["BalanceCl"]
  ipWhiteList := ["10.0.0.1"]
  peripherals := [{ equipmentName := "balance", equipmentNo := 1, fd := 5 }]

def readBalance : Frame :=
  .json (.object [("ReqId", .int 7), ("cmd", .string "BalanceCl"), ("param", .array [.int 1])])

def firstTimer : TimerElement TimerSink where
  id := 1
  sink := .task 0
  flag := .firePeriodically
  interval := { sec := 20, usec := 0 }

/-- The balance stays silent, and the timeout names no command. -/
theorem timeout_unnamed :
    ¬ EachStep observedStep NamesRequest
      (Observed.start (StdMap.empty.insert 1 readableBalance)
        (EventLooperImp.empty : EventLooperImp TimerSink))
      [.onConnection "10.0.0.1" ⟨none, 0⟩, .onFrame 0 readBalance, .onTimer firstTimer] := by
  intro named
  have fired := (((named _ rfl).2 _ rfl).2 _ rfl).1
  have carries := fired 0 _ .timeout (List.mem_append_right _ (List.mem_singleton_self _))
    (.json { cmd := "BalanceCl", reqId := 7, param := .array [.int 1] }) rfl
  rcases carries with ⟨root, same, name, -⟩
  cases same
  exact absurd name (by simp [Json.member])

end DevHub.Identify
