import DevHub.Communication.Lifetime
import DevHub.Transcation.Returns

/-!
Which transcations a frame reaches. Every session is remembered with the address it
connected from; the session lists are compared with the white lists of the
configuration, over runs in which clients connect, send and leave in any order. A run
ends where `OnFrame` does not return: an exception leaves `DownInfo`, or the `m_task` of a
transcation was deleted with its session.
-/

namespace DevHub.AccessControl

open Looper TaskUse Transcations CommServer Wiring Lifetime Returns Transition

set_option autoImplicit false

/-- The transcations whose white list contains the address, by increasing id. -/
def admitted (transcations : StdMap Nat Transcation) (ip : String) : List Nat :=
  transcations.keysWhere fun transcation => checkIp transcation ip

def callOf : Output → Option Nat
  | .downStream transId => some transId
  | _ => none

/-- The ids of the `OnDownStream` calls among the outputs of a step. -/
def passed (out : List Output) : List Nat := out.filterMap callOf

def answerOf : Output → Option (SessionId × Message)
  | .sendMessage session message _ => some (session, message)
  | _ => none

def answered (out : List Output) : List (SessionId × Message) := out.filterMap answerOf

/-- What the loop of `OnFrame` has called and sent where it ends, and whether it returned. -/
structure Passing (Looper : Type) where
  hub : Hub Looper
  calls : List Nat
  answers : List (SessionId × Message)
  returned : Bool

/-- `peers` holds the address of every session in the order of the connections; `calls` and
`answers` are those of the last step. -/
structure Access (Looper : Type) extends Passing Looper where
  peers : List String

/-- The calls of the loop, the last of which does not return when the rest is left out. -/
inductive PassedUpTo (takes : Nat → Prop) : List Nat → List Nat → Bool → Prop
  | all {ids : List Nat} (every : ∀ transId ∈ ids, takes transId) : PassedUpTo takes ids ids true
  | upTo {before rest : List Nat} {transId : Nat} (every : ∀ other ∈ before, takes other)
      (left : ¬ takes transId) :
      PassedUpTo takes (before ++ transId :: rest) (before ++ [transId]) false

section Looper

variable {Looper : Type} [EventLooper Looper TimerSink]

/-- The loop of `OnFrame`. What keeps `DownInfo` from returning comes before it sends anything. -/
def passAll (frame : Frame) (hub : Hub Looper) : List Nat → Passing Looper
  | [] => { hub := hub, calls := [], answers := [], returned := true }
  | transId :: rest =>
      match onDownStream hub transId frame with
      | none => { hub := hub, calls := [transId], answers := [], returned := false }
      | some first =>
          let later := passAll frame first.1 rest
          { later with
            calls := transId :: later.calls
            answers := answered first.2 ++ later.answers }

def passFrame (hub : Hub Looper) (session : SessionId) (frame : Frame) : Passing Looper :=
  if (hub.tasks session).status ≠ .idle then
    { hub := hub, calls := [], answers := [(session, busyMessage)], returned := true }
  else passAll frame hub (subscribedIds hub session)

def Access.start (transcations : StdMap Nat Transcation) (looper : Looper) : Access Looper where
  hub := Hub.start transcations looper
  calls := []
  answers := []
  returned := true
  peers := []

def peersAfter (peers : List String) : Event → List String
  | .onConnection peerIp _ => peers ++ [peerIp]
  | _ => peers

def accessStep : Step (Access Looper) LifeEvent
  | access, .hub (.onFrame session frame) =>
      if access.returned ∧ access.hub.live session then
        some { toPassing := passFrame access.hub session frame, peers := access.peers }
      else none
  | access, .hub event =>
      if access.returned then
        (step access.hub event).map fun result =>
          { hub := result.1
            calls := passed result.2
            answers := answered result.2
            returned := true
            peers := peersAfter access.peers event }
      else none
  | access, .disconnect session =>
      if access.returned ∧ access.hub.live session then
        some
          { hub := onDisconnect access.hub session
            calls := []
            answers := []
            returned := true
            peers := access.peers }
      else none

/-- No list of `m_transcationSessions` is empty, has a session twice or a closed one. -/
def ListsSound (hub : Hub Looper) : Prop :=
  ∀ transId list, hub.transcationSessions.find? transId = some list →
    list ≠ [] ∧ list.Nodup ∧ ∀ session ∈ list, hub.live session

/-- The loop of `OnFrame` goes over the transcations that admitted the session, and over
none for a session that was closed. -/
structure Controlled (transcations : StdMap Nat Transcation) (access : Access Looper) : Prop where
  sound : ListsSound access.hub
  targets : ∀ session, access.hub.live session → ∃ ip, access.peers[session]? = some ip ∧
    subscribedIds access.hub session = admitted transcations ip
  closed : ∀ session, ¬ access.hub.live session → subscribedIds access.hub session = []

/-- A frame reaches the transcations that admitted its session, each once, and only a
session that is still connected has frames. -/
def PassedAll (transcations : StdMap Nat Transcation) (before : Access Looper)
    (event : LifeEvent) (after : Access Looper) : Prop :=
  ∀ session frame, event = .hub (.onFrame session frame) →
    before.hub.live session ∧ ∃ ip, before.peers[session]? = some ip ∧
      after.calls = admitted transcations ip

/-- The call of `DownInfo` returns: the task was not deleted, and every conversion succeeds. -/
def Takes (hub : Hub Looper) (frame : Frame) (transId : Nat) : Prop :=
  ∀ transcation, hub.transcations.find? transId = some transcation →
    ∃ session, transcation.task = some session ∧ hub.live session ∧ DownSafe transcation frame

/-- The frame of an idle session reaches the transcations that admitted it, up to the first
that does not return; the frame of a busy one is answered Busy and reaches none. -/
def PassedIdle (transcations : StdMap Nat Transcation) (before : Access Looper)
    (event : LifeEvent) (after : Access Looper) : Prop :=
  ∀ session frame, event = .hub (.onFrame session frame) →
    before.hub.live session ∧ ∃ ip, before.peers[session]? = some ip ∧
      ((before.hub.tasks session).status = .idle →
        PassedUpTo (Takes before.hub frame) (admitted transcations ip) after.calls
          after.returned) ∧
      ((before.hub.tasks session).status ≠ .idle →
        after.calls = [] ∧ after.answers = [(session, busyMessage)] ∧ after.returned = true)

structure Listed (transcations : StdMap Nat Transcation) (access : Access Looper) : Prop where
  peers : access.peers.length = access.hub.created
  deleted : ∀ session ∈ access.hub.deleted, session < access.hub.created
  whites : ∀ ip, getTransIds access.hub ip = admitted transcations ip
  sound : ListsSound access.hub
  listed : ∀ transId session,
    (∃ list, access.hub.transcationSessions.find? transId = some list ∧ session ∈ list) ↔
      access.hub.live session ∧
        ∃ ip, access.peers[session]? = some ip ∧ transId ∈ admitted transcations ip

/-! ### The calls of a frame -/

theorem to_device_passes {out : List Output} (device : ∀ output ∈ out, ToDevice output) :
    passed out = [] := by
  apply List.filterMap_eq_nil_iff.mpr
  intro output member
  have kind := device output member
  cases output with
  | downStream transId => cases kind
  | _ => rfl

theorem processed_passes {transId : Nat} {session : SessionId} {atOnce : Bool}
    {before after : Task} {out : List Output}
    (processed : Processed transId session atOnce before after out) : passed out = [] := by
  cases processed with
  | answered writes message decided device result emitted finished =>
      subst emitted
      rw [passed, List.filterMap_append]
      exact List.append_eq_nil_iff.mpr ⟨to_device_passes device, rfl⟩
  | pending decided device busy flags format => exact to_device_passes device

theorem update_passes (session : SessionId) (data : Message) (transId : Nat)
    (ctx : TaskContext Looper) : passed (update session data transId ctx).2 = [] := by
  unfold update
  split
  · dsimp only
    split <;> rfl
  · rfl

theorem handled_passes {transId : Nat} {trans : Transcation} {session : SessionId} {frame : Frame}
    {before after : TaskContext Looper} {out : List Output}
    (handled : Handled transId trans session frame before after out) : passed out = [] := by
  cases handled with
  | ignored request silent status flags =>
      subst silent
      rfl
  | declined stored request read unknown status flags format result =>
      rw [show out = _ from congrArg Prod.snd result]
      exact update_passes session _ transId stored
  | accepted stored request result read known flags format emitted processed =>
      subst emitted
      rw [passed, List.filterMap_cons_none rfl]
      exact processed_passes processed

theorem down_stream_passes {hub after : Hub Looper} {transId : Nat} {frame : Frame}
    {out : List Output} (taken : onDownStream hub transId frame = some (after, out)) :
    passed out = [transId] := by
  rcases down_stream_cases taken with ⟨-, -, only⟩ | ⟨_, _, _, handledOut, -, -, handled, -, only⟩
  · rw [only]
    rfl
  · rw [only]
    exact congrArg (List.cons transId) (handled_passes handled)

theorem down_stream_takes (hub : Hub Looper) (transId : Nat) (frame : Frame) :
    (onDownStream hub transId frame).isSome = true ↔ Takes hub frame transId := by
  rw [onDownStream, Takes]
  cases hub.transcations.find? transId with
  | none => simp
  | some transcation =>
      dsimp only
      cases named : transcation.task with
      | none =>
          refine iff_of_false (by simp) fun takes => ?_
          obtain ⟨session, same, -⟩ := takes transcation rfl
          rw [named] at same
          cases same
      | some session =>
          rw [Option.bind_some]
          by_cases live : hub.live session
          · rw [if_pos live, Option.isSome_map, down_info_returns]
            constructor
            · intro safe other same
              cases same
              exact ⟨session, named, live, safe⟩
            · intro takes
              obtain ⟨other, same, -, safe⟩ := takes transcation rfl
              exact safe
          · refine iff_of_false (by simp [live]) fun takes => ?_
            obtain ⟨other, same, still, -⟩ := takes transcation rfl
            rw [named, Option.some.injEq] at same
            exact live (same ▸ still)

omit [EventLooper Looper TimerSink] in
theorem same_wiring_takes {before after : Hub Looper} (same : SameWiring before after)
    (frame : Frame) : Takes after frame = Takes before frame := by
  funext transId
  simp only [Takes, same.transcations, Hub.live, same.created, same.deleted]

theorem pass_all_up_to (frame : Frame) (hub : Hub Looper) (ids : List Nat) :
    PassedUpTo (Takes hub frame) ids (passAll frame hub ids).calls
        (passAll frame hub ids).returned ∧
      SameWiring hub (passAll frame hub ids).hub := by
  induction ids generalizing hub with
  | nil => exact ⟨.all (fun _ member => nomatch member), same_wiring_refl hub⟩
  | cons transId rest ih =>
      have takes := down_stream_takes hub transId frame
      rw [passAll]
      cases taken : onDownStream hub transId frame with
      | none =>
          rw [taken] at takes
          have left : ¬ Takes hub frame transId := fun given => nomatch takes.mpr given
          have stopped : PassedUpTo (Takes hub frame) ([] ++ transId :: rest) ([] ++ [transId]) false :=
            .upTo (fun _ member => nomatch member) left
          exact ⟨stopped, same_wiring_refl hub⟩
      | some first =>
          rw [taken] at takes
          have here : Takes hub frame transId := takes.mp rfl
          have same : SameWiring hub first.1 := down_stream_same_wiring taken
          obtain ⟨later, wiring⟩ := ih first.1
          rw [same_wiring_takes same] at later
          refine ⟨?_, same.trans wiring⟩
          dsimp only
          generalize (passAll frame first.1 rest).calls = calls at later ⊢
          generalize (passAll frame first.1 rest).returned = returned at later ⊢
          cases later with
          | all every => exact .all (List.forall_mem_cons.mpr ⟨here, every⟩)
          | @upTo before behind stuck every left =>
              have stopped : PassedUpTo (Takes hub frame) ((transId :: before) ++ stuck :: behind)
                  ((transId :: before) ++ [stuck]) false :=
                .upTo (List.forall_mem_cons.mpr ⟨here, every⟩) left
              exact stopped

theorem pass_all_returns (frame : Frame) (hub : Hub Looper) (ids : List Nat) :
    ((downStreamAll frame hub ids).map fun result =>
        (result.1, passed result.2, answered result.2)) =
      if (passAll frame hub ids).returned then
        some ((passAll frame hub ids).hub, (passAll frame hub ids).calls,
          (passAll frame hub ids).answers)
      else none := by
  induction ids generalizing hub with
  | nil => rfl
  | cons transId rest ih =>
      rw [downStreamAll, passAll]
      cases taken : onDownStream hub transId frame with
      | none => rfl
      | some first =>
          have early : passed first.2 = [transId] := down_stream_passes taken
          have later := ih first.1
          dsimp only
          rw [Option.bind_some, Option.map_map]
          cases all : downStreamAll frame first.1 rest with
          | none =>
              rw [all, Option.map_none] at later
              split at later
              · cases later
              · rename_i left
                rw [if_neg left]
                rfl
          | some result =>
              rw [all, Option.map_some] at later
              split at later
              · rename_i returned
                simp only [Option.some.injEq, Prod.mk.injEq] at later
                obtain ⟨hub, calls, answers⟩ := later
                simp only [Option.map_some, Function.comp_apply, if_pos returned, ← hub, ← calls,
                  ← answers, passed, answered, List.filterMap_append]
                rw [← passed, early]
                rfl
              · cases later

theorem pass_frame_returns (hub : Hub Looper) (session : SessionId) (frame : Frame) :
    ((onFrame hub session frame).map fun result =>
        (result.1, passed result.2, answered result.2)) =
      if (passFrame hub session frame).returned then
        some ((passFrame hub session frame).hub, (passFrame hub session frame).calls,
          (passFrame hub session frame).answers)
      else none := by
  rw [onFrame, passFrame]
  split
  · rfl
  · exact pass_all_returns frame hub (subscribedIds hub session)

theorem pass_frame_same_wiring (hub : Hub Looper) (session : SessionId) (frame : Frame) :
    SameWiring hub (passFrame hub session frame).hub := by
  rw [passFrame]
  split
  · exact same_wiring_refl hub
  · exact (pass_all_up_to frame hub (subscribedIds hub session)).2

/-! ### Steps -/

omit [EventLooper Looper TimerSink] in
theorem subscribed_of_listed {transcations : StdMap Nat Transcation} {access : Access Looper}
    (holds : Listed transcations access) {session : SessionId} (live : access.hub.live session) :
    ∃ ip, access.peers[session]? = some ip ∧
      subscribedIds access.hub session = admitted transcations ip := by
  have bound : session < access.peers.length := holds.peers ▸ live.1
  have here := List.getElem?_eq_getElem bound
  refine ⟨access.peers[session], here, ?_⟩
  apply StdMap.increasing_ext (subscribed_ids_sorted _ _) (StdMap.keys_where_sorted _ _)
  intro transId
  rw [mem_subscribed_ids, holds.listed]
  simp [live, here, admitted]

omit [EventLooper Looper TimerSink] in
theorem listed_controlled {transcations : StdMap Nat Transcation} {access : Access Looper}
    (holds : Listed transcations access) : Controlled transcations access := by
  refine ⟨holds.sound, fun session live => subscribed_of_listed holds live, ?_⟩
  intro session closed
  apply List.eq_nil_iff_forall_not_mem.mpr
  intro transId member
  exact closed ((holds.listed transId session).mp (mem_subscribed_ids.mp member)).1

omit [EventLooper Looper TimerSink] in
theorem same_wiring_listed {transcations : StdMap Nat Transcation} {access : Access Looper}
    (holds : Listed transcations access) {after : Access Looper}
    (same : SameWiring access.hub after.hub) (peers : after.peers = access.peers) :
    Listed transcations after := by
  have live (session : SessionId) : after.hub.live session ↔ access.hub.live session :=
    same_wiring_live same session
  constructor
  · rw [peers, holds.peers, same.created]
  · rw [same.deleted, same.created]
    exact holds.deleted
  · intro ip
    rw [← holds.whites ip, getTransIds, same.transcations, getTransIds]
  · intro transId list found
    rw [same.sessions] at found
    obtain ⟨nonempty, distinct, members⟩ := holds.sound transId list found
    exact ⟨nonempty, distinct, fun session member => (live session).mpr (members session member)⟩
  · intro transId session
    rw [same.sessions, live, peers]
    exact holds.listed transId session

omit [EventLooper Looper TimerSink] in
theorem connection_whites (hub : Hub Looper) (ip : String) (memory : TaskMemory) (other : String) :
    getTransIds (onConnection hub ip memory) other = getTransIds hub other := by
  apply StdMap.increasing_ext (trans_ids_sorted _ _) (trans_ids_sorted _ _)
  intro transId
  rw [mem_trans_ids, mem_trans_ids, connection_transcations]
  cases hub.transcations.find? transId with
  | none => simp
  | some transcation =>
      by_cases admits : transId ∈ getTransIds hub ip
      · simp [admits, checkIp]
      · simp [admits]

omit [EventLooper Looper TimerSink] in
theorem connection_live {hub : Hub Looper} (fresh : hub.created ∉ hub.deleted) (ip : String)
    (memory : TaskMemory) (session : SessionId) :
    (onConnection hub ip memory).live session ↔ hub.live session ∨ session = hub.created := by
  obtain ⟨grown, undeleted, -, -, -⟩ := connection_rest hub ip memory
  rw [Hub.live, Hub.live, grown, undeleted, Nat.lt_succ_iff_lt_or_eq]
  constructor
  · intro given
    exact given.1.imp (fun older => ⟨older, given.2⟩) id
  · intro given
    rcases given with older | new
    · exact ⟨Or.inl older.1, older.2⟩
    · exact ⟨Or.inr new, new ▸ fresh⟩

omit [EventLooper Looper TimerSink] in
theorem sound_created {hub : Hub Looper} (sound : ListsSound hub) (transId : Nat)
    (list : List SessionId) (found : hub.transcationSessions.find? transId = some list)
    (session : SessionId) (member : session ∈ list) : session < hub.created :=
  ((sound transId list found).2.2 session member).1

omit [EventLooper Looper TimerSink] in
theorem connection_sound {hub : Hub Looper} (sound : ListsSound hub)
    (fresh : hub.created ∉ hub.deleted) (ip : String) (memory : TaskMemory) :
    ListsSound (onConnection hub ip memory) := by
  have live := connection_live fresh ip memory
  intro transId list found
  rw [connection_lists (sound_created sound) ip memory] at found
  split at found
  · cases found
    cases older : hub.transcationSessions.find? transId with
    | none => simpa using (live hub.created).mpr (Or.inr rfl)
    | some list =>
        obtain ⟨-, distinct, members⟩ := sound transId list older
        have unlisted : hub.created ∉ list := fun member =>
          absurd (members _ member).1 (Nat.lt_irrefl _)
        refine ⟨by simp, ?_, ?_⟩
        · apply List.nodup_append.mpr
          refine ⟨distinct, List.pairwise_singleton _ _, ?_⟩
          intro session member other new same
          exact unlisted (List.mem_singleton.mp new ▸ same ▸ member)
        · intro session member
          rcases List.mem_append.mp member with before | new
          · exact (live session).mpr (Or.inl (members session before))
          · exact (live session).mpr (Or.inr (List.mem_singleton.mp new))
  · obtain ⟨nonempty, distinct, members⟩ := sound transId list found
    exact ⟨nonempty, distinct, fun session member =>
      (live session).mpr (Or.inl (members session member))⟩

omit [EventLooper Looper TimerSink] in
theorem connection_holds_iff {hub : Hub Looper} (sound : ListsSound hub) (ip : String)
    (memory : TaskMemory) (transId : Nat) (session : SessionId) :
    (∃ list, (onConnection hub ip memory).transcationSessions.find? transId = some list ∧
        session ∈ list) ↔
      if session = hub.created then transId ∈ getTransIds hub ip
      else ∃ list, hub.transcationSessions.find? transId = some list ∧ session ∈ list := by
  rw [connection_lists (sound_created sound) ip memory]
  by_cases new : session = hub.created
  · rw [if_pos new]
    have unlisted : ¬ ∃ list, hub.transcationSessions.find? transId = some list ∧
        session ∈ list := by
      intro given
      obtain ⟨list, found, member⟩ := given
      exact absurd (new ▸ sound_created sound transId list found session member) (Nat.lt_irrefl _)
    by_cases admits : transId ∈ getTransIds hub ip
    · simp [admits, new]
    · rw [if_neg admits]
      exact iff_of_false unlisted admits
  · rw [if_neg new]
    split
    · cases hub.transcationSessions.find? transId with
      | none => simp [new]
      | some list => simp [new]
    · exact Iff.rfl

omit [EventLooper Looper TimerSink] in
theorem connection_listed {transcations : StdMap Nat Transcation} {access : Access Looper}
    (holds : Listed transcations access) (ip : String) (memory : TaskMemory) {after : Access Looper}
    (hub : after.hub = onConnection access.hub ip memory) (peers : after.peers = access.peers ++ [ip]) :
    Listed transcations after := by
  obtain ⟨grown, undeleted, -, -, -⟩ := connection_rest access.hub ip memory
  have fresh : access.hub.created ∉ access.hub.deleted := fun member =>
    absurd (holds.deleted _ member) (Nat.lt_irrefl _)
  constructor
  · rw [hub, peers, List.length_append, holds.peers, grown]
    rfl
  · intro session member
    rw [hub, undeleted] at member
    rw [hub, grown]
    exact Nat.lt_succ_of_lt (holds.deleted session member)
  · intro other
    rw [hub, connection_whites, holds.whites]
  · rw [hub]
    exact connection_sound holds.sound fresh ip memory
  · intro transId session
    rw [hub, peers, connection_holds_iff holds.sound, connection_live fresh, holds.whites]
    split
    · rename_i new
      have last : (access.peers ++ [ip])[session]? = some ip := by
        rw [new, ← holds.peers]
        simp
      rw [last]
      simp [new]
    · rename_i older
      rw [holds.listed transId session, or_iff_left older]
      apply and_congr_right
      intro alive
      rw [List.getElem?_append_left (holds.peers ▸ alive.1)]

omit [EventLooper Looper TimerSink] in
/-- `RemoveSessionInMap` takes the session out of every list and erases what gets empty. -/
theorem disconnect_lists (hub : Hub Looper) (session : SessionId) (transId : Nat)
    (list : List SessionId) :
    (onDisconnect hub session).transcationSessions.find? transId = some list ↔
      ∃ before, hub.transcationSessions.find? transId = some before ∧
        list = before.erase session ∧ list ≠ [] := by
  rw [onDisconnect, removeSessionInMap, StdMap.find_filter_map_values, Option.bind_eq_some_iff]
  apply exists_congr
  intro before
  apply and_congr_right
  intro _
  dsimp only
  split
  · rename_i empty
    rw [empty]
    exact iff_of_false (by simp) fun given => given.2 given.1
  · rename_i nonempty
    rw [Option.some.injEq]
    constructor
    · intro same
      subst same
      exact ⟨rfl, nonempty⟩
    · exact fun given => given.1.symm

omit [EventLooper Looper TimerSink] in
theorem disconnect_listed {transcations : StdMap Nat Transcation} {access : Access Looper}
    (holds : Listed transcations access) {session : SessionId} (live : access.hub.live session)
    {after : Access Looper} (hub : after.hub = onDisconnect access.hub session)
    (peers : after.peers = access.peers) : Listed transcations after := by
  have still (other : SessionId) : (onDisconnect access.hub session).live other ↔
      access.hub.live other ∧ other ≠ session := by
    simp only [Hub.live, onDisconnect, removeSessionInMap, List.mem_cons, not_or]
    exact ⟨fun given => ⟨⟨given.1, given.2.2⟩, given.2.1⟩, fun given => ⟨given.1.1, given.2, given.1.2⟩⟩
  constructor
  · rw [hub, peers]
    exact holds.peers
  · intro other member
    rw [hub] at member ⊢
    rcases List.mem_cons.mp member with same | older
    · exact same ▸ live.1
    · exact holds.deleted other older
  · rw [hub]
    exact holds.whites
  · intro transId list found
    rw [hub] at found ⊢
    obtain ⟨before, known, same, nonempty⟩ := (disconnect_lists _ _ _ _).mp found
    obtain ⟨-, distinct, members⟩ := holds.sound transId before known
    refine ⟨nonempty, same ▸ distinct.erase session, ?_⟩
    intro other member
    rw [same, distinct.mem_erase_iff] at member
    exact (still other).mpr ⟨members other member.2, member.1⟩
  · intro transId other
    rw [hub, peers, still, and_right_comm, ← holds.listed]
    simp only [disconnect_lists]
    constructor
    · intro given
      obtain ⟨list, ⟨before, known, same, -⟩, member⟩ := given
      obtain ⟨-, distinct, -⟩ := holds.sound transId before known
      rw [same, distinct.mem_erase_iff] at member
      exact ⟨⟨before, known, member.2⟩, member.1⟩
    · intro given
      obtain ⟨⟨before, known, member⟩, different⟩ := given
      obtain ⟨-, distinct, -⟩ := holds.sound transId before known
      have kept : other ∈ before.erase session := distinct.mem_erase_iff.mpr ⟨different, member⟩
      exact ⟨_, ⟨before, known, rfl, List.ne_nil_of_mem kept⟩, kept⟩

theorem access_step_listed {transcations : StdMap Nat Transcation} (access : Access Looper)
    (event : LifeEvent) (after : Access Looper) (holds : Listed transcations access)
    (taken : accessStep access event = some after) : Listed transcations after := by
  have other {event : Event} {result : Hub Looper × List Output}
      (moved : step access.hub event = some result) (hub : after.hub = result.1)
      (peers : after.peers = peersAfter access.peers event) : Listed transcations after := by
    rcases step_same_wiring moved with same | ⟨ip, memory, rfl, opened⟩
    · cases event with
      | onConnection ip memory =>
          cases moved
          exact connection_listed holds ip memory hub peers
      | _ => exact same_wiring_listed holds (hub ▸ same) peers
    · exact connection_listed holds ip memory (hub.trans opened) peers
  cases event with
  | hub event =>
      cases event with
      | onFrame session frame =>
          rw [accessStep] at taken
          split at taken
          · cases taken
            exact same_wiring_listed holds (pass_frame_same_wiring access.hub session frame) rfl
          · cases taken
      | _ =>
          simp only [accessStep] at taken
          split at taken
          · obtain ⟨result, moved, rfl⟩ := Option.map_eq_some_iff.mp taken
            exact other moved rfl rfl
          · cases taken
  | disconnect session =>
      rw [accessStep] at taken
      split at taken
      · rename_i both
        cases taken
        exact disconnect_listed holds both.2 rfl rfl
      · cases taken

theorem frame_passes {transcations : StdMap Nat Transcation} {access after : Access Looper}
    (holds : Listed transcations access) {event : LifeEvent}
    (taken : accessStep access event = some after) : PassedIdle transcations access event after := by
  intro session frame same
  subst same
  rw [accessStep] at taken
  split at taken
  · rename_i both
    cases taken
    obtain ⟨ip, here, ids⟩ := subscribed_of_listed holds both.2
    refine ⟨both.2, ip, here, ?_, ?_⟩
    · intro idle
      rw [passFrame, if_neg (not_not.mpr idle), ← ids]
      exact (pass_all_up_to frame access.hub (subscribedIds access.hub session)).1
    · intro busy
      rw [passFrame, if_pos busy]
      exact ⟨rfl, rfl, rfl⟩
  · cases taken

omit [EventLooper Looper TimerSink] in
theorem start_listed (transcations : StdMap Nat Transcation) (looper : Looper) :
    Listed transcations (Access.start transcations looper) := by
  constructor
  · rfl
  · intro session member
    cases member
  · intro ip
    apply StdMap.increasing_ext (trans_ids_sorted _ _) (StdMap.keys_where_sorted _ _)
    intro transId
    rw [mem_trans_ids, Access.start, Hub.start, StdMap.find_map_values, StdMap.mem_keys_where]
    cases transcations.find? transId with
    | none => simp
    | some transcation => simp [checkIp]
  · intro transId list found
    cases found
  · intro transId session
    apply iff_of_false
    · intro given
      obtain ⟨list, found, -⟩ := given
      cases found
    · intro given
      exact absurd given.1.1 (Nat.not_lt_zero session)

end Looper

/-- In every run the session lists hold the open sessions with the transcations that
admitted them, the frame of an idle session reaches these, each once, as long as the calls
return, and the frame of a busy session is answered Busy. -/
theorem access_controlled {Looper : Type} [EventLooper Looper TimerSink]
    (transcations : StdMap Nat Transcation) (looper : Looper) (events : List LifeEvent) :
    Always accessStep (Controlled transcations) (Access.start transcations looper) events ∧
      EachStep accessStep (PassedIdle transcations) (Access.start transcations looper) events := by
  have initial := start_listed transcations looper
  constructor
  · have keeps (access : Access Looper) (event : LifeEvent) (after : Access Looper)
        (holds : Listed transcations access) (taken : accessStep access event = some after) :
        Listed transcations after ∧ Controlled transcations after := by
      have kept := access_step_listed access event after holds taken
      exact ⟨kept, listed_controlled kept⟩
    exact ⟨listed_controlled initial, each_step_of_keeps keeps initial⟩
  · have keeps (access : Access Looper) (event : LifeEvent) (after : Access Looper)
        (holds : Listed transcations access) (taken : accessStep access event = some after) :
        Listed transcations after ∧ PassedIdle transcations access event after :=
      ⟨access_step_listed access event after holds taken, frame_passes holds taken⟩
    exact each_step_of_keeps keeps initial

/-- The second frame comes while the first command is at the device. -/
theorem busy_frame_unpassed :
    ¬ EachStep accessStep (PassedAll OneReply.balanceAndSolder)
      (Access.start OneReply.balanceAndSolder EventLooperImp.empty)
      [.hub (.onConnection "10.0.0.1" ⟨none, 0⟩),
        .hub (.onFrame 0 (.json (OneReply.ask "GetSpitParam").value)),
        .hub (.onFrame 0 (.json (OneReply.ask "GetSpitParam").value))] := by
  intro holds
  obtain ⟨-, ip, peer, calls⟩ := (((holds _ rfl).2 _ rfl).2 _ rfl).1 0 _ rfl
  cases peer
  revert calls
  decide

end DevHub.AccessControl
