import DevHub.Communication.Routing

/-!
The idle check of `OnFrame` as a gate. The observer notes which transcations have an
open command and on which task it runs: `ProcessCmd` opens it, a reply of the
transcation or a timeout of the task ends it. The gate holds as long as an open
command runs on the task of the transcation's last subscriber and that task is not
idle; the guard names the connections, frames and reports that keep it so.
-/

namespace DevHub.BusyGate

open Looper TaskUse Transcations CommServer Wiring FlagWalk FrameWalk Transition

set_option autoImplicit false

structure Watched (Looper : Type) where
  hub : Hub Looper
  openOn : Nat → Option SessionId
  sent : List Output

def note (openOn : Nat → Option SessionId) : Output → Nat → Option SessionId
  | .processCmd transId session => Function.update openOn transId (some session)
  | .sendMessage _ _ (.reply transId) => Function.update openOn transId none
  | .sendMessage session _ .timeout => fun transId =>
      if openOn transId = some session then none else openOn transId
  | _ => openOn

variable {Looper : Type} [EventLooper Looper TimerSink]

def watchedStep : Step (Watched Looper) Event := fun state event =>
  (step state.hub event).map fun result =>
    { hub := result.1, openOn := result.2.foldl note state.openOn, sent := result.2 }

def Watched.start (transcations : StdMap Nat Transcation) (looper : Looper) : Watched Looper where
  hub := Hub.start transcations looper
  openOn _ := none
  sent := []

/-- No output starts a command of a transcation that has one open. -/
def Fresh (openOn : Nat → Option SessionId) : List Output → Prop
  | [] => True
  | output :: rest =>
      (∀ transId session, output = .processCmd transId session → openOn transId = none) ∧
        Fresh (note openOn output) rest

/-- One step through the gate: nothing starts twice, and a frame that comes while a
transcation of its session has an open command is answered Busy and goes nowhere. -/
def Gated (before : Watched Looper) (event : Event) (after : Watched Looper) : Prop :=
  Fresh before.openOn after.sent ∧
    ∀ session frame, event = .onFrame session frame →
      (∃ transId ∈ subscribedIds before.hub session, before.openOn transId ≠ none) →
        after.sent = [.sendMessage session busyMessage .busy]

/-- The events that the gate is made for: nobody connects to a transcation that is
at work, an idle session has its transcations for itself, only the last of them that
has the command may leave it to a device, and a report ends the command of its task. -/
def Orderly (before : Watched Looper) (event : Event) : Prop :=
  match event with
  | .onConnection ip _ => ∀ transId ∈ getTransIds before.hub ip, before.openOn transId = none
  | .onFrame session frame => (before.hub.tasks session).status = .idle →
      (∀ transId ∈ subscribedIds before.hub session, before.openOn transId ≠ none →
        lastSubscriber before.hub transId = some session) ∧
      ∀ request, frameRequest frame = some (some request) →
        (∀ transId ∈ subscribedIds before.hub session,
          lastSubscriber before.hub transId = some session) ∧
        HoldsLast (verdictAt before.hub request) (subscribedIds before.hub session)
  | .updateInfo transId (some _) => ∀ other session, before.openOn other = some session →
      lastSubscriber before.hub transId = some session → other = transId
  | _ => True

/-- The flags of the session's task are those of a walk that has not begun. -/
def Rested (hub : Hub Looper) (session : SessionId) : Prop :=
  subscribedIds hub session = [] ∨
    ∃ transId, Represents [] (subscribedIds hub session) (.ahead transId) (hub.tasks session)

structure Gate (state : Watched Looper) : Prop where
  wired : Wired state.hub
  placed : ∀ transId session, state.openOn transId = some session →
    lastSubscriber state.hub transId = some session ∧
      (state.hub.tasks session).status ≠ .idle
  rested : ∀ session < state.hub.created, (state.hub.tasks session).status = .idle →
    Rested state.hub session

/-! ### Outputs -/

theorem fresh_of_no_start {openOn : Nat → Option SessionId} {out : List Output}
    (silent : ∀ output ∈ out, ∀ transId session, output ≠ .processCmd transId session) :
    Fresh openOn out := by
  induction out generalizing openOn with
  | nil => trivial
  | cons output rest ih =>
      obtain ⟨head, tail⟩ := List.forall_mem_cons.mp silent
      constructor
      · intro transId session same
        exact absurd same (head transId session)
      · exact ih tail

theorem note_nothing {openOn : Nat → Option SessionId} {out : List Output}
    (silent : ∀ output ∈ out, ∀ openOn, note openOn output = openOn) :
    out.foldl note openOn = openOn := by
  induction out generalizing openOn with
  | nil => rfl
  | cons output rest ih =>
      obtain ⟨head, tail⟩ := List.forall_mem_cons.mp silent
      rw [List.foldl_cons, head, ih tail]

def noteEmission (session : SessionId) (openOn : Nat → Option SessionId) :
    Emission → Nat → Option SessionId
  | .start transId => Function.update openOn transId (some session)
  | .reply transId => Function.update openOn transId none
  | .noTaker _ => openOn

def FreshEmitted (session : SessionId) (openOn : Nat → Option SessionId) :
    List Emission → Prop
  | [] => True
  | emitted :: rest =>
      (∀ transId, emitted = .start transId → openOn transId = none) ∧
        FreshEmitted session (noteEmission session openOn emitted) rest

theorem own_note {session : SessionId} {json : Prop} {output : Output}
    (own : OwnOutput session json output) (openOn : Nat → Option SessionId) :
    note openOn output = ((emission output).map (noteEmission session openOn)).getD openOn := by
  cases output with
  | sendMessage receiver message source =>
      cases source with
      | nothingToDo transId => rfl
      | reply transId => rfl
      | busy => exact own.2.elim
      | timeout => exact own.2.elim
  | processCmd transId receiver =>
      obtain rfl := own
      rfl
  | downStream transId => rfl
  | writeData transId equipmentNo data => rfl
  | recvCommand transId equipmentNo cmd => rfl
  | onTaskTimeout transId => rfl
  | pollBalance equipment => rfl
  | broadcast receiver => rfl

theorem own_notes {session : SessionId} {json : Prop} {out : List Output}
    {openOn : Nat → Option SessionId} (owned : ∀ output ∈ out, OwnOutput session json output)
    (fresh : FreshEmitted session openOn (out.filterMap emission)) :
    Fresh openOn out ∧
      out.foldl note openOn = (out.filterMap emission).foldl (noteEmission session) openOn := by
  induction out generalizing openOn with
  | nil => exact ⟨trivial, rfl⟩
  | cons output rest ih =>
      obtain ⟨own, ownRest⟩ := List.forall_mem_cons.mp owned
      have noted := own_note own openOn
      cases emits : emission output with
      | none =>
          rw [emits] at noted
          rw [List.filterMap_cons_none emits] at fresh ⊢
          obtain ⟨freshRest, same⟩ := ih ownRest fresh
          rw [Fresh, List.foldl_cons, noted]
          refine ⟨⟨?_, freshRest⟩, same⟩
          intro transId receiver same
          subst same
          cases emits
      | some emitted =>
          rw [emits] at noted
          rw [List.filterMap_cons_some emits] at fresh ⊢
          obtain ⟨freshRest, same⟩ := ih ownRest fresh.2
          rw [Fresh, List.foldl_cons, List.foldl_cons, noted]
          refine ⟨⟨?_, freshRest⟩, same⟩
          intro transId receiver same
          subst same
          cases emits
          exact fresh.1 transId rfl

theorem walk_held {verdict : Nat → Verdict} {holder : Nat} {ids : List Nat} {last : Phase}
    {emitted : List Emission} (walked : walk verdict (.held holder) ids = some (last, emitted)) :
    last = .held holder ∧ emitted = [] := by
  induction ids generalizing emitted with
  | nil =>
      obtain ⟨rfl, rfl⟩ := Prod.mk.inj (Option.some.inj walked)
      exact ⟨rfl, rfl⟩
  | cons transId rest ih =>
      obtain ⟨moved, stepped, walkedRest⟩ := Option.bind_eq_some_iff.mp walked
      obtain ⟨moves, later, same⟩ := Option.map_eq_some_iff.mp walkedRest
      obtain ⟨rfl, rfl⟩ := Prod.mk.inj same
      cases decided : verdict transId with
      | declines =>
          rw [decided] at stepped
          obtain rfl := Option.some.inj stepped
          obtain ⟨rest_last, rest_emitted⟩ := ih later
          exact ⟨rest_last, rest_emitted⟩
      | answers =>
          rw [decided] at stepped
          cases stepped
      | holds =>
          rw [decided] at stepped
          cases stepped

def afterWalk (session : SessionId) (openOn : Nat → Option SessionId) :
    Phase → Nat → Option SessionId
  | .held holder => Function.update openOn holder (some session)
  | _ => openOn

/-- A phase in which no transcation holds the command. -/
def Free (phase : Phase) : Prop := ∀ holder, phase ≠ .held holder

theorem walk_step_declines {transId : Nat} {phase : Phase} {moved : Phase × List Emission}
    (free : Free phase) (stepped : walkStep transId .declines phase = some moved) :
    Free moved.1 ∧ (moved.2 = [] ∨ moved.2 = [.noTaker transId]) := by
  cases phase with
  | held holder => exact absurd rfl (free holder)
  | ahead target =>
      rw [walkStep] at stepped
      split at stepped
      · rename_i reached
        obtain rfl := Option.some.inj stepped
        exact ⟨by simp [Free], Or.inr (by rw [reached])⟩
      · obtain rfl := Option.some.inj stepped
        exact ⟨by simp [Free], Or.inl rfl⟩
  | behind target =>
      obtain rfl := Option.some.inj stepped
      exact ⟨by simp [Free], Or.inl rfl⟩

theorem walk_step_answers {transId : Nat} {phase : Phase} {moved : Phase × List Emission}
    (free : Free phase) (stepped : walkStep transId .answers phase = some moved) :
    moved = (.behind transId, [.start transId, .reply transId]) := by
  cases phase with
  | held holder => exact absurd rfl (free holder)
  | ahead target => exact (Option.some.inj stepped).symm
  | behind target => exact (Option.some.inj stepped).symm

theorem walk_step_holds {transId : Nat} {phase : Phase} {moved : Phase × List Emission}
    (free : Free phase) (stepped : walkStep transId .holds phase = some moved) :
    moved = (.held transId, [.start transId]) := by
  cases phase with
  | held holder => exact absurd rfl (free holder)
  | ahead target => exact (Option.some.inj stepped).symm
  | behind target => exact (Option.some.inj stepped).symm

theorem walk_opens {verdict : Nat → Verdict} (session : SessionId) {ids : List Nat}
    {phase last : Phase} {emitted : List Emission} {openOn : Nat → Option SessionId}
    (closed : ∀ transId ∈ ids, openOn transId = none) (free : Free phase)
    (walked : walk verdict phase ids = some (last, emitted)) :
    FreshEmitted session openOn emitted ∧
      emitted.foldl (noteEmission session) openOn = afterWalk session openOn last := by
  induction ids generalizing phase emitted with
  | nil =>
      obtain ⟨rfl, rfl⟩ := Prod.mk.inj (Option.some.inj walked)
      refine ⟨trivial, ?_⟩
      cases phase with
      | held holder => exact absurd rfl (free holder)
      | ahead last => rfl
      | behind last => rfl
  | cons transId rest ih =>
      obtain ⟨moved, stepped, walkedRest⟩ := Option.bind_eq_some_iff.mp walked
      obtain ⟨moves, later, same⟩ := Option.map_eq_some_iff.mp walkedRest
      obtain ⟨rfl, rfl⟩ := Prod.mk.inj same
      obtain ⟨closedHere, closedRest⟩ := List.forall_mem_cons.mp closed
      cases decided : verdict transId with
      | declines =>
          rw [decided] at stepped
          obtain ⟨freeRest, silent⟩ := walk_step_declines free stepped
          obtain ⟨freshRest, noted⟩ := ih closedRest freeRest later
          rcases silent with nothing | refused
          · rw [nothing]
            exact ⟨freshRest, noted⟩
          · rw [refused]
            refine ⟨⟨?_, freshRest⟩, noted⟩
            intro other same
            cases same
      | answers =>
          rw [decided] at stepped
          have answered := walk_step_answers free stepped
          subst answered
          have restored : noteEmission session
              (noteEmission session openOn (.start transId)) (.reply transId) = openOn := by
            rw [noteEmission, noteEmission, Function.update_idem, ← closedHere,
              Function.update_eq_self]
          obtain ⟨freshRest, noted⟩ := ih closedRest (by simp [Free]) later
          simp only [List.cons_append, List.nil_append, FreshEmitted, List.foldl_cons, restored]
          refine ⟨⟨?_, ?_, freshRest⟩, noted⟩
          · intro other same
            cases same
            exact closedHere
          · intro other same
            cases same
      | holds =>
          rw [decided] at stepped
          have held := walk_step_holds free stepped
          subst held
          obtain ⟨last_eq, nothing⟩ := walk_held later
          rw [last_eq, nothing]
          refine ⟨⟨?_, trivial⟩, rfl⟩
          intro other same
          cases same
          exact closedHere

/-! ### Steps -/

omit [EventLooper Looper TimerSink] in
theorem same_wiring_last_subscriber {before after : Hub Looper} (same : SameWiring before after) :
    lastSubscriber after = lastSubscriber before := by
  funext transId
  rw [lastSubscriber, lastSubscriber, same.sessions]

omit [EventLooper Looper TimerSink] in
theorem same_wiring_subscribed {before after : Hub Looper} (same : SameWiring before after) :
    subscribedIds after = subscribedIds before := by
  funext session
  rw [subscribedIds, subscribedIds, same.sessions]

omit [EventLooper Looper TimerSink] in
theorem rested_kept {before after : Hub Looper} {session : SessionId}
    (same : SameWiring before after)
    (status : (after.tasks session).status = (before.tasks session).status)
    (flags : (after.tasks session).transcationReptStatus =
      (before.tasks session).transcationReptStatus)
    (rested : Rested before session) : Rested after session := by
  rw [Rested, same_wiring_subscribed same]
  apply rested.imp_right
  intro given
  rcases given with ⟨transId, holds⟩
  exact ⟨transId, represents_congr holds status flags⟩

omit [EventLooper Looper TimerSink] in
theorem cleared_rested {hub : Hub Looper} {session : SessionId}
    (keys : (hub.tasks session).transcationReptStatus.keys = subscribedIds hub session)
    (idle : (hub.tasks session).status = .idle)
    (unset : ∀ transId ∈ subscribedIds hub session,
      (hub.tasks session).transcationReptStatus.find? transId = some false) :
    Rested hub session := by
  by_cases empty : subscribedIds hub session = []
  · exact Or.inl empty
  · exact Or.inr ⟨_, unset_represents empty keys idle unset⟩

omit [EventLooper Looper TimerSink] in
/-- When only the task of one session changes and nothing stays open on it. -/
theorem gate_kept {before after : Watched Looper} {session : SessionId} (gate : Gate before)
    (kept : OthersKept session before.hub after.hub)
    (still : ∀ transId other, after.openOn transId = some other →
      other ≠ session ∧ before.openOn transId = some other)
    (rested : session < before.hub.created → (after.hub.tasks session).status = .idle →
      Rested after.hub session) : Gate after := by
  obtain ⟨same, others⟩ := kept
  constructor
  · exact same.wired gate.wired
  · intro transId other opened
    obtain ⟨different, was⟩ := still transId other opened
    rw [same_wiring_last_subscriber same, others other different]
    exact gate.placed transId other was
  · intro other exists_ idle
    by_cases here : other = session
    · subst here
      exact rested (same.created ▸ exists_) idle
    · rw [others other here] at idle
      rw [same.created] at exists_
      apply rested_kept same _ _ (gate.rested other exists_ idle)
      · rw [others other here]
      · rw [others other here]

omit [EventLooper Looper TimerSink] in
theorem gate_calm {state : Watched Looper} {after : Hub Looper} (gate : Gate state)
    (same : SameWiring state.hub after)
    (tasks : ∀ session, (after.tasks session).status = (state.hub.tasks session).status ∧
      (after.tasks session).transcationReptStatus =
        (state.hub.tasks session).transcationReptStatus) (out : List Output) :
    Gate { hub := after, openOn := state.openOn, sent := out } := by
  constructor
  · exact same.wired gate.wired
  · intro transId other opened
    rw [same_wiring_last_subscriber same, (tasks other).1]
    exact gate.placed transId other opened
  · intro other exists_ rests
    rw [same.created] at exists_
    rw [(tasks other).1] at rests
    exact rested_kept same (tasks other).1 (tasks other).2 (gate.rested other exists_ rests)

omit [EventLooper Looper TimerSink] in
theorem idle_closed {state : Watched Looper} (gate : Gate state) {session : SessionId}
    (idle : (state.hub.tasks session).status = .idle)
    (owned : ∀ transId ∈ subscribedIds state.hub session, state.openOn transId ≠ none →
      lastSubscriber state.hub transId = some session) :
    ∀ transId ∈ subscribedIds state.hub session, state.openOn transId = none := by
  intro transId member
  cases opened : state.openOn transId with
  | none => rfl
  | some holder =>
      obtain ⟨last, busy⟩ := gate.placed transId holder opened
      have own := owned transId member (by rw [opened]; simp)
      obtain rfl := Option.some.inj (last.symm.trans own)
      exact absurd idle busy

omit [EventLooper Looper TimerSink] in
/-- The session that a walk leaves busy holds its own transcation. -/
theorem held_gate {state : Watched Looper} (gate : Gate state) {session : SessionId}
    {after : Hub Looper} {out : List Output} {holder : Nat}
    (idle : (state.hub.tasks session).status = .idle) (kept : OthersKept session state.hub after)
    (taker : lastSubscriber state.hub holder = some session)
    (busy : (after.tasks session).status ≠ .idle) :
    Gate { hub := after, openOn := Function.update state.openOn holder (some session), sent := out } := by
  constructor
  · exact kept.wiring.wired gate.wired
  · intro transId other opened
    rw [same_wiring_last_subscriber kept.wiring]
    simp only [Function.update_apply] at opened
    split at opened
    · rename_i here
      obtain rfl := Option.some.inj opened
      rw [here]
      exact ⟨taker, busy⟩
    · obtain ⟨last, run⟩ := gate.placed transId other opened
      have different : other ≠ session := by
        intro same
        subst same
        exact run idle
      rw [kept.tasks other different]
      exact ⟨last, run⟩
  · intro other exists_ rests
    have different : other ≠ session := by
      intro same
      subst same
      exact busy rests
    rw [kept.wiring.created] at exists_
    rw [kept.tasks other different] at rests
    apply rested_kept kept.wiring _ _ (gate.rested other exists_ rests)
    · rw [kept.tasks other different]
    · rw [kept.tasks other different]

theorem request_gate {state : Watched Looper} (gate : Gate state) {session : SessionId}
    {frame : Frame} {request : Request} {after : Hub Looper} {out : List Output}
    (live : state.hub.live session) (idle : (state.hub.tasks session).status = .idle)
    (read : frameRequest frame = some (some request))
    (closed : ∀ transId ∈ subscribedIds state.hub session, state.openOn transId = none)
    (own : ∀ transId ∈ subscribedIds state.hub session,
      lastSubscriber state.hub transId = some session)
    (order : HoldsLast (verdictAt state.hub request) (subscribedIds state.hub session))
    (taken : downStreamAll frame state.hub (subscribedIds state.hub session) = some (after, out)) :
    Fresh state.openOn out ∧
      Gate { hub := after, openOn := out.foldl note state.openOn, sent := out } := by
  have placed (transId : Nat) (member : transId ∈ subscribedIds state.hub session) :
      Serves state.hub session transId :=
    (Routing.wired_serves_iff gate.wired member).mpr (own transId member)
  rcases gate.rested session live.1 idle with empty | ⟨target, holds⟩
  · rw [empty] at taken
    obtain ⟨rfl, rfl⟩ := Prod.mk.inj (Option.some.inj taken)
    exact ⟨trivial, ⟨gate.wired, gate.placed, gate.rested⟩⟩
  · have free : Free (.ahead target) := by simp [Free]
    obtain ⟨⟨last, emitted⟩, walked⟩ := walk_total (verdictAt state.hub request) (.ahead target)
      (subscribedIds state.hub session) order (fun holder same => absurd same (free holder))
    have nonempty : subscribedIds state.hub session ≠ [] := List.ne_nil_of_mem holds.position
    obtain ⟨⟨represents, emission_eq, owned, -⟩, kept⟩ := down_stream_all_refines placed read
      (fun _ empty => absurd empty nonempty) holds walked taken
    obtain ⟨freshEmitted, noted⟩ := walk_opens session closed free walked
    rw [← emission_eq] at freshEmitted noted
    obtain ⟨fresh, same⟩ := own_notes owned freshEmitted
    refine ⟨fresh, ?_⟩
    rw [same, noted]
    cases last with
    | ahead stale => cases represents.position
    | behind reached =>
        apply gate_kept gate kept
        · intro transId other opened
          refine ⟨?_, opened⟩
          intro same
          subst same
          exact (gate.placed transId other opened).2 idle
        · intro _ _
          right
          rw [same_wiring_subscribed kept.wiring]
          exact ⟨reached, behind_represents (by simpa using represents)⟩
    | held holder =>
        apply held_gate gate idle kept (own holder represents.position)
        intro rests
        exact represents.idle.mp rests holder rfl

theorem frame_gate {state : Watched Looper} (gate : Gate state) {session : SessionId}
    {frame : Frame} {after : Hub Looper} {out : List Output}
    (orderly : Orderly state (.onFrame session frame))
    (taken : step state.hub (.onFrame session frame) = some (after, out)) :
    Gated state (.onFrame session frame)
        { hub := after, openOn := out.foldl note state.openOn, sent := out } ∧
      Gate { hub := after, openOn := out.foldl note state.openOn, sent := out } := by
  simp only [step] at taken
  split at taken
  swap
  · cases taken
  rename_i live
  rcases frame_cases taken with ⟨busy, rfl, rfl⟩ | ⟨idle, all⟩
  · refine ⟨⟨fresh_of_no_start (by simp), ?_⟩, gate.wired, gate.placed, gate.rested⟩
    intro _ _ same _
    cases same
    rfl
  · obtain ⟨owned, requested⟩ := orderly idle
    have closed := idle_closed gate idle owned
    -- an idle session has nothing open, so the Busy half has no case here
    have vacuous : ∀ session' frame', Event.onFrame session frame = .onFrame session' frame' →
        (∃ transId ∈ subscribedIds state.hub session', state.openOn transId ≠ none) →
          out = [.sendMessage session' busyMessage .busy] := by
      intro _ _ same given
      rcases given with ⟨transId, member, opened⟩
      cases same
      exact absurd (closed transId member) opened
    by_cases read : ∃ request, frameRequest frame = some (some request)
    · obtain ⟨request, read⟩ := read
      obtain ⟨own, order⟩ := requested request read
      obtain ⟨fresh, kept⟩ := request_gate gate live idle read closed own order all
      exact ⟨⟨fresh, vacuous⟩, kept⟩
    · obtain ⟨reached, tasks⟩ :=
        down_stream_all_ignored (fun request found => read ⟨request, found⟩) all
      have same := down_stream_all_same_wiring all
      have fresh : Fresh state.openOn out := by
        apply fresh_of_no_start
        intro _ member transId holder same
        subst same
        obtain ⟨other, impossible⟩ := reached _ member
        cases impossible
      have noted : out.foldl note state.openOn = state.openOn := by
        apply note_nothing
        intro output member openOn
        obtain ⟨transId, rfl⟩ := reached output member
        rfl
      refine ⟨⟨fresh, vacuous⟩, ?_⟩
      rw [noted]
      exact gate_calm gate same tasks out

omit [EventLooper Looper TimerSink] in
theorem finish_rested {hub after : Hub Looper} (wired : Wired hub) {session : SessionId}
    (created : session < hub.created) (same : SameWiring hub after)
    {before : Task} (known : before.transcationReptStatus.keys =
      (hub.tasks session).transcationReptStatus.keys)
    (finished : Finished before (after.tasks session)) : Rested after session := by
  obtain ⟨keys, cleared⟩ := cleared_flags finished
  have subscribed : (after.tasks session).transcationReptStatus.keys =
      subscribedIds after session := by
    rw [keys, known, wired.flags session created, same_wiring_subscribed same]
  exact cleared_rested subscribed finished.idle
    (fun transId member => cleared transId (subscribed ▸ member))

theorem update_info_gate {state : Watched Looper} (gate : Gate state) {transId : Nat}
    {report : Option Json} {after : Hub Looper} {out : List Output}
    (orderly : Orderly state (.updateInfo transId report))
    (taken : step state.hub (.updateInfo transId report) = some (after, out)) :
    Fresh state.openOn out ∧
      Gate { hub := after, openOn := out.foldl note state.openOn, sent := out } := by
  rcases update_info_hub_cases taken with
    ⟨-, rfl, rfl⟩ | ⟨root, transcation, session, message, rfl, found, tasked, same, rfl, -⟩
  · exact ⟨trivial, gate.wired, gate.placed, gate.rested⟩
  · refine ⟨fresh_of_no_start (by simp), ?_⟩
    have last : lastSubscriber state.hub transId = some session :=
      (gate.wired.tasked transId transcation found).symm.trans tasked
    have kept : OthersKept session state.hub after := by
      rw [same]
      refine ⟨store_same_wiring state.hub session _ (StdMap.keys_map_values _ _), ?_⟩
      intro other different
      exact store_other _ _ different
    apply gate_kept gate kept
    · intro other holder opened
      have elsewhere : other ≠ transId ∧ state.openOn other = some holder := by
        simpa [note, Function.update_apply] using opened
      refine ⟨?_, elsewhere.2⟩
      intro same
      subst same
      exact elsewhere.1 (orderly other holder elsewhere.2 last)
    · intro created _
      apply finish_rested gate.wired created kept.wiring rfl
      rw [same, store_task]
      exact finish_finished (state.hub.context session)

theorem timer_gate {state : Watched Looper} (gate : Gate state) {te : TimerElement TimerSink}
    {after : Hub Looper} {out : List Output}
    (taken : step state.hub (.onTimer te) = some (after, out)) :
    Fresh state.openOn out ∧
      Gate { hub := after, openOn := out.foldl note state.openOn, sent := out } := by
  rcases timeout_cases taken with
    ⟨rfl, polls⟩ | ⟨session, -, ⟨-, rfl, same⟩ | ⟨silenced, known, -, same, rfl⟩⟩
  · have noted : out.foldl note state.openOn = state.openOn := by
      apply note_nothing
      intro output member openOn
      obtain ⟨equipment, rfl⟩ := polls output member
      rfl
    rw [noted]
    refine ⟨?_, gate.wired, gate.placed, gate.rested⟩
    apply fresh_of_no_start
    intro _ member transId holder same
    subst same
    obtain ⟨equipment, impossible⟩ := polls _ member
    cases impossible
  · rw [store_context] at same
    subst same
    exact ⟨trivial, gate.wired, gate.placed, gate.rested⟩
  · have noted (openOn : Nat → Option SessionId) :
        ((state.hub.tasks session).transcationReptStatus.keys.map Output.onTaskTimeout).foldl
          note openOn = openOn := by
      apply note_nothing
      intro output member openOn
      obtain ⟨transId, -, rfl⟩ := List.mem_map.mp member
      rfl
    have kept : OthersKept session state.hub after := by
      rcases step_same_wiring taken with wiring | ⟨_, _, impossible, -⟩
      · refine ⟨wiring, ?_⟩
        intro other different
        rw [same]
        exact store_other state.hub (finish silenced) different
      · cases impossible
    constructor
    · apply fresh_of_no_start
      intro output member
      rcases List.mem_append.mp member with device | message
      · obtain ⟨transId, -, rfl⟩ := List.mem_map.mp device
        simp
      · rw [List.mem_singleton.mp message]
        simp
    · apply gate_kept gate kept
      · intro transId other opened
        rw [List.foldl_append, noted] at opened
        simp only [List.foldl_cons, List.foldl_nil, note] at opened
        split at opened
        · cases opened
        · rename_i elsewhere
          refine ⟨?_, opened⟩
          intro same
          subst same
          exact elsewhere opened
      · intro created _
        have finished : Finished (state.hub.tasks session) (after.tasks session) := by
          have reached : after.tasks session = (finish silenced).task := by
            rw [same]
            exact store_task state.hub session (finish silenced)
          rw [reached, ← known]
          exact finish_finished silenced
        exact finish_rested gate.wired created kept.wiring rfl finished

omit [EventLooper Looper TimerSink] in
theorem connection_gate {state : Watched Looper} (gate : Gate state) {ip : String}
    {memory : TaskMemory}
    (unused : ∀ transId ∈ getTransIds state.hub ip, state.openOn transId = none) :
    Gate { hub := onConnection state.hub ip memory, openOn := state.openOn, sent := [] } := by
  obtain ⟨created, -, -, -, tasks⟩ := connection_rest state.hub ip memory
  have sessions := connection_sessions gate.wired ip memory
  have wired := connection_wired gate.wired ip memory
  constructor
  · exact wired
  · intro transId session opened
    obtain ⟨last, busy⟩ := gate.placed transId session opened
    have elsewhere : transId ∉ getTransIds state.hub ip := by
      intro admitted
      have closed := unused transId admitted
      rw [closed] at opened
      cases opened
    obtain ⟨list, listed, final⟩ := Option.bind_eq_some_iff.mp last
    have older : session ≠ state.hub.created := by
      have made := (gate.wired.created transId list listed).2 session (List.mem_of_getLast? final)
      exact Nat.ne_of_lt made
    dsimp only
    rw [lastSubscriber, sessions, if_neg elsewhere, tasks session older]
    exact ⟨last, busy⟩
  · intro session exists_ idle
    dsimp only at exists_ idle ⊢
    by_cases new : session = state.hub.created
    · subst new
      apply cleared_rested (wired.flags _ exists_) idle
      intro transId member
      rw [connection_subscribed_new gate.wired] at member
      rw [connection_flags, if_pos member]
    · rw [tasks session new] at idle
      have bounded : session < state.hub.created + 1 := created ▸ exists_
      have older := Nat.lt_of_le_of_ne (Nat.le_of_lt_succ bounded) new
      rw [Rested, connection_subscribed gate.wired ip memory new, tasks session new]
      exact gate.rested session older idle

theorem orderly_gated {state after : Watched Looper} {event : Event} (gate : Gate state)
    (orderly : Orderly state event) (taken : watchedStep state event = some after) :
    Gate after ∧ Gated state event after := by
  obtain ⟨⟨hub, out⟩, moved, rfl⟩ := Option.map_eq_some_iff.mp taken
  cases event with
  | onFrame session frame =>
      obtain ⟨gated, kept⟩ := frame_gate gate orderly moved
      exact ⟨kept, gated⟩
  | updateInfo transId report =>
      obtain ⟨fresh, kept⟩ := update_info_gate gate orderly moved
      exact ⟨kept, fresh, by simp⟩
  | onTimer te =>
      obtain ⟨fresh, kept⟩ := timer_gate gate moved
      exact ⟨kept, fresh, by simp⟩
  | onConnection ip memory =>
      obtain ⟨rfl, rfl⟩ := Prod.mk.inj (Option.some.inj moved)
      exact ⟨connection_gate gate orderly, trivial, by simp⟩
  | balanceData equipment steady =>
      obtain ⟨rfl, rfl⟩ := Prod.mk.inj (Option.some.inj moved)
      refine ⟨gate_calm gate (balance_data_wiring state.hub equipment steady) ?_ [], trivial,
        by simp⟩
      intro session
      rw [balance_data_tasks]
      exact ⟨rfl, rfl⟩
  | broadcast =>
      simp only [step] at moved
      split at moved
      · obtain ⟨rfl, rfl⟩ := Prod.mk.inj (Option.some.inj moved)
        have noted : (state.hub.connections.map Output.broadcast).foldl note state.openOn =
            state.openOn := by
          apply note_nothing
          intro output member openOn
          obtain ⟨session, -, rfl⟩ := List.mem_map.mp member
          rfl
        rw [noted]
        refine ⟨⟨gate.wired, gate.placed, gate.rested⟩, fresh_of_no_start ?_, by simp⟩
        intro output member
        obtain ⟨session, -, rfl⟩ := List.mem_map.mp member
        simp
      · cases moved

/-- In a run of orderly events no transcation starts a command while one of its
commands is open, and every frame that comes in that time is answered Busy only. -/
theorem busy_gate_of_orderly (transcations : StdMap Nat Transcation) (looper : Looper)
    (events : List Event)
    (orderly : Guarded watchedStep Orderly (Watched.start transcations looper) events) :
    EachStep watchedStep Gated (Watched.start transcations looper) events := by
  have initial : Gate (Watched.start transcations looper) := by
    refine ⟨start_wired transcations looper, ?_, ?_⟩
    · intro transId session opened
      cases opened
    · intro session exists_
      cases exists_
  exact each_step_of_guarded (fun _ _ _ gate within taken => orderly_gated gate within taken)
    initial orderly

def spitParam : Frame := .json (OneReply.ask "GetSpitParam").value

/-- A lone client that asks again before the device has replied. -/
theorem lone_client_gated :
    EachStep watchedStep Gated
      (Watched.start OneReply.balanceAndSolder (EventLooperImp.empty : EventLooperImp TimerSink))
      [.onConnection "10.0.0.1" ⟨none, 0⟩, .onFrame 0 spitParam, .onFrame 0 spitParam] := by
  apply busy_gate_of_orderly
  intro connected taken
  refine ⟨fun _ _ => rfl, ?_⟩
  cases taken
  intro asked taken
  constructor
  · intro _
    refine ⟨by decide, ?_⟩
    intro request read
    cases read
    exact ⟨by decide, by decide⟩
  · cases taken
    intro again taken
    constructor
    · intro idle
      cases idle
    · trivial

/-- The second client of an address starts a command, and the first one, whose own
task is idle, starts it again before the device has replied. -/
theorem second_command_started :
    ¬ EachStep watchedStep Gated
      (Watched.start OneReply.balanceAndSolder (EventLooperImp.empty : EventLooperImp TimerSink))
      (Routing.twoClients ++ [.onFrame 1 spitParam] ++ [.onFrame 0 spitParam]) := by
  intro gated
  obtain ⟨-, answeredBusy⟩ := each_step_at gated rfl rfl
  have busy := answeredBusy 0 spitParam rfl ⟨2, by decide, by decide⟩
  exact absurd (congrArg List.length busy) (by decide)

end DevHub.BusyGate
