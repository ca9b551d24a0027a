import DevHub.Communication.CommServer

/-!
What connects sessions, tasks and transcations: a transcation points to the task
of its last subscriber, and a task has a report flag for each transcation that its
session subscribed to. Only `OnConnection` changes this wiring; every other step is
shown to leave it alone.
-/

namespace DevHub.Wiring

open Looper TaskUse Transcations CommServer

set_option autoImplicit false

variable {Looper : Type} [EventLooper Looper TimerSink]

def lastSubscriber (hub : Hub Looper) (transId : Nat) : Option SessionId :=
  (hub.transcationSessions.find? transId).bind List.getLast?

structure Wired (hub : Hub Looper) : Prop where
  tasked : ∀ transId transcation, hub.transcations.find? transId = some transcation →
    transcation.task = lastSubscriber hub transId
  known : ∀ transId ∈ hub.transcationSessions.keys, transId ∈ hub.transcations.keys
  created : ∀ transId list, hub.transcationSessions.find? transId = some list →
    list ≠ [] ∧ ∀ session ∈ list, session < hub.created
  flags : ∀ session < hub.created,
    (hub.tasks session).transcationReptStatus.keys = subscribedIds hub session
  undeleted : hub.deleted = []

/-- Two hubs with the same sessions and subscriptions, and the same keys in every task. -/
structure SameWiring (before after : Hub Looper) : Prop where
  transcations : after.transcations = before.transcations
  sessions : after.transcationSessions = before.transcationSessions
  connections : after.connections = before.connections
  created : after.created = before.created
  deleted : after.deleted = before.deleted
  keys : ∀ session, (after.tasks session).transcationReptStatus.keys =
    (before.tasks session).transcationReptStatus.keys

omit [EventLooper Looper TimerSink] in
theorem same_wiring_refl (hub : Hub Looper) : SameWiring hub hub :=
  ⟨rfl, rfl, rfl, rfl, rfl, fun _ => rfl⟩

omit [EventLooper Looper TimerSink] in
theorem SameWiring.trans {first second third : Hub Looper} (early : SameWiring first second)
    (late : SameWiring second third) : SameWiring first third where
  transcations := late.transcations.trans early.transcations
  sessions := late.sessions.trans early.sessions
  connections := late.connections.trans early.connections
  created := late.created.trans early.created
  deleted := late.deleted.trans early.deleted
  keys session := (late.keys session).trans (early.keys session)

omit [EventLooper Looper TimerSink] in
theorem SameWiring.wired {before after : Hub Looper} (same : SameWiring before after)
    (holds : Wired before) : Wired after := by
  constructor
  · intro transId transcation found
    rw [same.transcations] at found
    rw [lastSubscriber, same.sessions]
    exact holds.tasked transId transcation found
  · rw [same.sessions, same.transcations]
    exact holds.known
  · rw [same.sessions, same.created]
    exact holds.created
  · intro session exists_
    rw [same.created] at exists_
    rw [same.keys, subscribedIds, same.sessions]
    exact holds.flags session exists_
  · rw [same.deleted]
    exact holds.undeleted

omit [EventLooper Looper TimerSink] in
theorem mem_subscribed_ids {hub : Hub Looper} {session : SessionId} {transId : Nat} :
    transId ∈ subscribedIds hub session ↔
      ∃ list, hub.transcationSessions.find? transId = some list ∧ session ∈ list := by
  simp [subscribedIds, StdMap.mem_keys_where]

omit [EventLooper Looper TimerSink] in
theorem subscribed_ids_sorted (hub : Hub Looper) (session : SessionId) :
    (subscribedIds hub session).Pairwise fun left right => left < right :=
  StdMap.keys_where_sorted _ _

omit [EventLooper Looper TimerSink] in
theorem trans_ids_sorted (hub : Hub Looper) (ip : String) :
    (getTransIds hub ip).Pairwise fun left right => left < right :=
  StdMap.keys_where_sorted _ _

omit [EventLooper Looper TimerSink] in
theorem start_wired (transcations : StdMap Nat Transcation) (looper : Looper) :
    Wired (Hub.start transcations looper) := by
  constructor
  · intro transId transcation found
    rw [Hub.start, StdMap.find_map_values] at found
    obtain ⟨configured, -, rfl⟩ := Option.map_eq_some_iff.mp found
    rfl
  · intro transId member
    cases member
  · intro transId list found
    cases found
  · intro session exists_
    cases exists_
  · rfl

/-! ### Steps that keep the wiring -/

theorem update_keys (session : SessionId) (data : Message) (transId : Nat)
    (ctx : TaskContext Looper) :
    (update session data transId ctx).1.task.transcationReptStatus.keys =
      ctx.task.transcationReptStatus.keys := by
  have finished (ctx : TaskContext Looper) :
      (finish ctx).task.transcationReptStatus.keys = ctx.task.transcationReptStatus.keys :=
    StdMap.keys_map_values _ _
  have marked (task : Task) :
      (setTransStatus task transId).transcationReptStatus.keys =
        task.transcationReptStatus.keys := by
    unfold setTransStatus
    split
    · rename_i present
      exact StdMap.keys_insert_of_mem (StdMap.mem_keys.mpr ⟨_, present⟩) true
    · rfl
  unfold update
  split
  · simp only
    split
    · rw [finished, marked]
    · exact marked ctx.task
  · exact finished ctx

omit [EventLooper Looper TimerSink] in
theorem processed_keys {transId : Nat} {session : SessionId} {atOnce : Bool} {before after : Task}
    {out : List Output} (processed : Processed transId session atOnce before after out) :
    after.transcationReptStatus.keys = before.transcationReptStatus.keys := by
  cases processed with
  | answered writes message decided device result emitted finished =>
      rw [finished.reset, StdMap.keys_map_values]
  | pending decided device busy flags format => rw [flags]

theorem handled_keys {transId : Nat} {transcation : Transcation} {session : SessionId}
    {frame : Frame} {before after : TaskContext Looper} {out : List Output}
    (handled : Handled transId transcation session frame before after out) :
    after.task.transcationReptStatus.keys = before.task.transcationReptStatus.keys := by
  cases handled with
  | ignored request silent status flags => rw [flags]
  | declined stored request read unknown status flags format result =>
      have updated := update_keys session (.text "NothingToDo") transId stored
      rw [← result, flags] at updated
      exact updated
  | accepted stored request result read known flags format emitted processed =>
      rw [processed_keys processed, flags]

omit [EventLooper Looper TimerSink] in
theorem store_same_wiring (hub : Hub Looper) (session : SessionId) (ctx : TaskContext Looper)
    (keys : ctx.task.transcationReptStatus.keys =
      (hub.tasks session).transcationReptStatus.keys) : SameWiring hub (hub.store session ctx) := by
  refine ⟨rfl, rfl, rfl, rfl, rfl, ?_⟩
  intro other
  simp only [Hub.store]
  split
  · rename_i same
    rw [keys, same]
  · rfl

/-- What an `OnDownStream` call does: it misses the id, or one task gets the frame. -/
theorem down_stream_info {hub after : Hub Looper} {transId : Nat} {frame : Frame}
    {out : List Output} (taken : onDownStream hub transId frame = some (after, out)) :
    (hub.transcations.find? transId = none ∧ after = hub ∧ out = [.downStream transId]) ∨
      ∃ transcation session ctx handledOut,
        hub.transcations.find? transId = some transcation ∧ transcation.task = some session ∧
          downInfo transId transcation session frame (hub.context session) =
            some (ctx, handledOut) ∧
          after = hub.store session ctx ∧ out = .downStream transId :: handledOut := by
  unfold onDownStream at taken
  split at taken
  · rename_i missing
    obtain ⟨rfl, rfl⟩ := Prod.mk.inj (Option.some.inj taken)
    exact Or.inl ⟨missing, rfl, rfl⟩
  · rename_i transcation found
    obtain ⟨session, tasked, rest⟩ := Option.bind_eq_some_iff.mp taken
    split at rest
    · obtain ⟨result, handled, same⟩ := Option.map_eq_some_iff.mp rest
      obtain ⟨rfl, rfl⟩ := Prod.mk.inj same
      exact Or.inr ⟨transcation, session, result.1, result.2, found, tasked, handled, rfl, rfl⟩
    · contradiction

theorem down_stream_cases {hub after : Hub Looper} {transId : Nat} {frame : Frame}
    {out : List Output} (taken : onDownStream hub transId frame = some (after, out)) :
    (hub.transcations.find? transId = none ∧ after = hub ∧ out = [.downStream transId]) ∨
      ∃ transcation session ctx handledOut,
        hub.transcations.find? transId = some transcation ∧ transcation.task = some session ∧
          Handled transId transcation session frame (hub.context session) ctx handledOut ∧
          after = hub.store session ctx ∧ out = .downStream transId :: handledOut := by
  rcases down_stream_info taken with
    missing | ⟨transcation, session, ctx, handledOut, found, tasked, handled, same, sent⟩
  · exact Or.inl missing
  · exact Or.inr ⟨transcation, session, ctx, handledOut, found, tasked, down_info_handled handled,
      same, sent⟩

theorem down_stream_same_wiring {hub after : Hub Looper} {transId : Nat} {frame : Frame}
    {out : List Output} (taken : onDownStream hub transId frame = some (after, out)) :
    SameWiring hub after := by
  rcases down_stream_cases taken with ⟨-, rfl, -⟩ | ⟨_, session, ctx, _, -, -, handled, rfl, -⟩
  · exact same_wiring_refl _
  · exact store_same_wiring hub session ctx (handled_keys handled)

theorem down_stream_all_same_wiring {frame : Frame} {hub after : Hub Looper} {ids : List Nat}
    {out : List Output} (taken : downStreamAll frame hub ids = some (after, out)) :
    SameWiring hub after := by
  induction ids generalizing hub after out with
  | nil =>
      obtain ⟨rfl, rfl⟩ := Prod.mk.inj (Option.some.inj taken)
      exact same_wiring_refl _
  | cons transId rest ih =>
      obtain ⟨first, head, tail⟩ := Option.bind_eq_some_iff.mp taken
      obtain ⟨later, all, same⟩ := Option.map_eq_some_iff.mp tail
      obtain ⟨rfl, rfl⟩ := Prod.mk.inj same
      exact (down_stream_same_wiring head).trans (ih all)

theorem frame_cases {hub after : Hub Looper} {session : SessionId} {frame : Frame}
    {out : List Output} (taken : onFrame hub session frame = some (after, out)) :
    ((hub.tasks session).status ≠ .idle ∧ after = hub ∧
        out = [.sendMessage session busyMessage .busy]) ∨
      ((hub.tasks session).status = .idle ∧
        downStreamAll frame hub (subscribedIds hub session) = some (after, out)) := by
  unfold onFrame at taken
  split at taken
  · rename_i busy
    obtain ⟨rfl, rfl⟩ := Prod.mk.inj (Option.some.inj taken)
    exact Or.inl ⟨busy, rfl, rfl⟩
  · rename_i idle
    exact Or.inr ⟨not_not.mp idle, taken⟩

theorem update_info_hub_cases {hub after : Hub Looper} {transId : Nat} {report : Option Json}
    {out : List Output} (taken : onUpdateInfo hub transId report = some (after, out)) :
    (report = none ∧ after = hub ∧ out = []) ∨
      ∃ root transcation session message,
        report = some root ∧ hub.transcations.find? transId = some transcation ∧
          transcation.task = some session ∧
          after = hub.store session (finish (hub.context session)) ∧
          out = [.sendMessage session message (.reply transId)] ∧
          DataMessage (hub.tasks session) root message := by
  unfold onUpdateInfo at taken
  split at taken
  · contradiction
  · obtain ⟨rfl, rfl⟩ := Prod.mk.inj (Option.some.inj taken)
    exact Or.inl ⟨rfl, rfl, rfl⟩
  · rename_i transcation root found
    obtain ⟨session, tasked, rest⟩ := Option.bind_eq_some_iff.mp taken
    split at rest
    · obtain ⟨result, updated, same⟩ := Option.map_eq_some_iff.mp rest
      obtain ⟨rfl, rfl⟩ := Prod.mk.inj same
      rcases update_info_cases updated with ⟨impossible, -, -⟩ | ⟨parsed, message, read, after, sent, data⟩
      · contradiction
      · cases read
        exact Or.inr ⟨root, transcation, session, message, rfl, found, tasked, after ▸ rfl, sent, data⟩
    · contradiction

theorem timeout_cases {hub after : Hub Looper} {te : TimerElement TimerSink} {out : List Output}
    (taken : onTimeout hub te = some (after, out)) :
    (after = hub ∧ ∀ output ∈ out, ∃ equipment, output = .pollBalance equipment) ∨
      ∃ session, te.sink = .task session ∧
        ((te.id ≠ (hub.tasks session).responseTimeout ∧ out = [] ∧
            after = hub.store session (hub.context session)) ∨
          ∃ silenced,
            silenced.task = hub.tasks session ∧
            silenced.looper = EventLooper.cancelTimer hub.looper hub.balanceClTimer ∧
            after =
              { hub.store session (finish silenced) with balanceClTimer := -1 } ∧
            out = (hub.tasks session).transcationReptStatus.keys.map Output.onTaskTimeout
              ++ [.sendMessage session (timeoutMessage (hub.tasks session)) .timeout]) := by
  unfold onTimeout at taken
  split at taken
  · contradiction
  · split at taken
    · rename_i session sink
      split at taken
      · right
        refine ⟨session, sink, ?_⟩
        rcases on_timer_cases session te.id (hub.context session) hub.balanceClTimer with
          ⟨other, nothing⟩ | ⟨silenced, kept, cancelled, fired⟩
        · rw [nothing] at taken
          obtain ⟨rfl, rfl⟩ := Prod.mk.inj (Option.some.inj taken)
          exact Or.inl ⟨other, rfl, rfl⟩
        · rw [fired] at taken
          obtain ⟨rfl, rfl⟩ := Prod.mk.inj (Option.some.inj taken)
          exact Or.inr ⟨silenced, kept, cancelled, rfl, rfl⟩
      · contradiction
    · rename_i equipment sink
      obtain ⟨rfl, rfl⟩ := Prod.mk.inj (Option.some.inj taken)
      left
      refine ⟨rfl, ?_⟩
      intro output member
      split at member
      · exact ⟨equipment, List.mem_singleton.mp member⟩
      · cases member

/-! ### Connections -/

omit [EventLooper Looper TimerSink] in
theorem subscribe_one_sessions (session : SessionId) (hub : Hub Looper) (id other : Nat)
    (fresh : ∀ list, hub.transcationSessions.find? id = some list → session ∉ list) :
    (subscribeOne session hub id).transcationSessions.find? other =
      if other = id then some ((hub.transcationSessions.find? id).getD [] ++ [session])
      else hub.transcationSessions.find? other := by
  have kept : (subscribeOne session hub id).transcationSessions =
      (subscibeTranscationId hub id session).transcationSessions := by
    simp only [subscribeOne, setTransTask]
    split <;> rfl
  rw [kept]
  cases found : hub.transcationSessions.find? id with
  | none => simp [subscibeTranscationId, found, StdMap.find_insert]
  | some list => simp [subscibeTranscationId, found, fresh list found, StdMap.find_insert]

omit [EventLooper Looper TimerSink] in
theorem subscribe_one_transcations (session : SessionId) (hub : Hub Looper) (id other : Nat) :
    (subscribeOne session hub id).transcations.find? other =
      (hub.transcations.find? other).map fun transcation =>
        if other = id then { transcation with task := some session } else transcation := by
  have kept : (subscibeTranscationId hub id session).transcations = hub.transcations := by
    unfold subscibeTranscationId
    split
    · rfl
    · split <;> rfl
  simp only [subscribeOne, setTransTask, Hub.modifyTask, kept]
  split
  · rename_i transcation found
    by_cases same : other = id
    · simp [StdMap.find_insert, same, found]
    · simp [StdMap.find_insert, same]
  · rename_i missing
    by_cases same : other = id
    · simp [same, missing]
    · simp [same]

omit [EventLooper Looper TimerSink] in
theorem subscribe_one_tasks (session : SessionId) (hub : Hub Looper) (id : Nat) :
    (subscribeOne session hub id).tasks = fun other =>
      if other = session then addTranscation (hub.tasks session) id else hub.tasks other := by
  have kept : (subscibeTranscationId hub id session).tasks = hub.tasks := by
    unfold subscibeTranscationId
    split
    · rfl
    · split <;> rfl
  simp only [subscribeOne, setTransTask, Hub.modifyTask, kept]
  split <;> rfl

omit [EventLooper Looper TimerSink] in
theorem subscribe_one_rest (session : SessionId) (hub : Hub Looper) (id : Nat) :
    (subscribeOne session hub id).created = hub.created ∧
      (subscribeOne session hub id).deleted = hub.deleted ∧
      (subscribeOne session hub id).connections = hub.connections ∧
      (subscribeOne session hub id).looper = hub.looper := by
  simp only [subscribeOne, setTransTask, Hub.modifyTask, subscibeTranscationId]
  split <;> split <;> (try split) <;> exact ⟨rfl, rfl, rfl, rfl⟩

omit [EventLooper Looper TimerSink] in
theorem subscribe_all_sessions (session : SessionId) (hub : Hub Looper) (ids : List Nat)
    (distinct : ids.Nodup)
    (fresh : ∀ id ∈ ids, ∀ list, hub.transcationSessions.find? id = some list → session ∉ list)
    (other : Nat) :
    (subscribeAll session hub ids).transcationSessions.find? other =
      if other ∈ ids then some ((hub.transcationSessions.find? other).getD [] ++ [session])
      else hub.transcationSessions.find? other := by
  induction ids generalizing hub with
  | nil => simp [subscribeAll]
  | cons id rest ih =>
      obtain ⟨notLater, distinctRest⟩ := List.nodup_cons.mp distinct
      have head := subscribe_one_sessions session hub id
      have unvisited : ∀ later ∈ rest, (subscribeOne session hub id).transcationSessions.find? later =
          hub.transcationSessions.find? later := by
        intro later member
        rw [head later (fresh id List.mem_cons_self), if_neg]
        intro same
        subst same
        exact notLater member
      have tail := ih (subscribeOne session hub id) distinctRest (by
        intro later member list found
        rw [unvisited later member] at found
        exact fresh later (List.mem_cons_of_mem _ member) list found)
      rw [subscribeAll, List.foldl_cons, ← subscribeAll, tail,
        head other (fresh id List.mem_cons_self)]
      by_cases same : other = id
      · subst same
        simp [notLater]
      · simp [same]

omit [EventLooper Looper TimerSink] in
theorem subscribe_all_transcations (session : SessionId) (hub : Hub Looper) (ids : List Nat)
    (other : Nat) :
    (subscribeAll session hub ids).transcations.find? other =
      (hub.transcations.find? other).map fun transcation =>
        if other ∈ ids then { transcation with task := some session } else transcation := by
  induction ids generalizing hub with
  | nil => simp [subscribeAll]
  | cons id rest ih =>
      rw [subscribeAll, List.foldl_cons, ← subscribeAll, ih, subscribe_one_transcations]
      cases hub.transcations.find? other with
      | none => rfl
      | some transcation => by_cases first : other = id <;> by_cases later : other ∈ rest <;>
          simp [first, later]

theorem add_transcation_flags (task : Task) (id other : Nat) :
    (addTranscation task id).transcationReptStatus.find? other =
      if other = id ∧ task.transcationReptStatus.find? id = none then some false
      else task.transcationReptStatus.find? other := by
  unfold addTranscation
  split
  · rename_i present
    simp [present]
  · rename_i absent
    by_cases same : other = id <;> simp [StdMap.find_insert, same, absent]

omit [EventLooper Looper TimerSink] in
/-- A task without flags ends with one flag, not set, for each transcation visited. -/
theorem subscribe_all_flags (session : SessionId) (hub : Hub Looper) (ids : List Nat)
    (unset : ∀ id ∈ ids, (hub.tasks session).transcationReptStatus.find? id ≠ some true)
    (other : Nat) :
    ((subscribeAll session hub ids).tasks session).transcationReptStatus.find? other =
      if other ∈ ids then some false
      else (hub.tasks session).transcationReptStatus.find? other := by
  induction ids generalizing hub with
  | nil => simp [subscribeAll]
  | cons id rest ih =>
      have head (key : Nat) :
          ((subscribeOne session hub id).tasks session).transcationReptStatus.find? key =
            if key = id ∧ (hub.tasks session).transcationReptStatus.find? id = none then some false
            else (hub.tasks session).transcationReptStatus.find? key := by
        rw [subscribe_one_tasks]
        simp only [if_true]
        exact add_transcation_flags _ _ _
      rw [subscribeAll, List.foldl_cons, ← subscribeAll, ih]
      · by_cases later : other ∈ rest
        · simp [later]
        · by_cases same : other = id
          · subst same
            have notTrue := unset other List.mem_cons_self
            rw [if_neg later, head, if_pos List.mem_cons_self]
            cases found : (hub.tasks session).transcationReptStatus.find? other with
            | none => simp
            | some flag =>
                cases flag with
                | false => simp
                | true => exact absurd found notTrue
          · have elsewhere : other ∉ id :: rest := by simp [same, later]
            have untouched := head other
            rw [if_neg (by simp [same])] at untouched
            rw [if_neg later, if_neg elsewhere, untouched]
      · intro key member
        rw [head]
        split
        · simp
        · exact unset key (List.mem_cons_of_mem _ member)

omit [EventLooper Looper TimerSink] in
theorem subscribe_all_rest (session : SessionId) (hub : Hub Looper) (ids : List Nat) :
    (subscribeAll session hub ids).created = hub.created ∧
      (subscribeAll session hub ids).deleted = hub.deleted ∧
      (subscribeAll session hub ids).connections = hub.connections ∧
      (subscribeAll session hub ids).looper = hub.looper ∧
      ∀ other, other ≠ session → (subscribeAll session hub ids).tasks other = hub.tasks other := by
  induction ids generalizing hub with
  | nil => exact ⟨rfl, rfl, rfl, rfl, fun _ _ => rfl⟩
  | cons id rest ih =>
      obtain ⟨created, deleted, connections, looper, tasks⟩ := ih (subscribeOne session hub id)
      obtain ⟨created', deleted', connections', looper'⟩ := subscribe_one_rest session hub id
      rw [subscribeAll, List.foldl_cons, ← subscribeAll]
      refine ⟨created.trans created', deleted.trans deleted', connections.trans connections',
        looper.trans looper', ?_⟩
      intro other different
      rw [tasks other different, subscribe_one_tasks]
      exact if_neg different

omit [EventLooper Looper TimerSink] in
theorem add_transcation_status (task : Task) (id : Nat) :
    (addTranscation task id).status = task.status := by
  unfold addTranscation
  split <;> rfl

omit [EventLooper Looper TimerSink] in
theorem subscribe_all_status (session : SessionId) (hub : Hub Looper) (ids : List Nat) :
    ((subscribeAll session hub ids).tasks session).status = (hub.tasks session).status := by
  induction ids generalizing hub with
  | nil => rfl
  | cons id rest ih =>
      rw [subscribeAll, List.foldl_cons, ← subscribeAll, ih, subscribe_one_tasks]
      simp only [if_true]
      exact add_transcation_status _ _

omit [EventLooper Looper TimerSink] in
theorem mem_trans_ids {hub : Hub Looper} {ip : String} {transId : Nat} :
    transId ∈ getTransIds hub ip ↔
      ∃ transcation, hub.transcations.find? transId = some transcation ∧
        checkIp transcation ip = true :=
  StdMap.mem_keys_where

omit [EventLooper Looper TimerSink] in
theorem connection_lists {hub : Hub Looper}
    (created : ∀ transId list, hub.transcationSessions.find? transId = some list →
      ∀ session ∈ list, session < hub.created)
    (ip : String) (memory : TaskMemory) (transId : Nat) :
    (onConnection hub ip memory).transcationSessions.find? transId =
      if transId ∈ getTransIds hub ip then
        some ((hub.transcationSessions.find? transId).getD [] ++ [hub.created])
      else hub.transcationSessions.find? transId := by
  apply subscribe_all_sessions
  · exact (trans_ids_sorted hub ip).imp Nat.ne_of_lt
  · intro id _ list found member
    exact absurd (created id list found _ member) (Nat.lt_irrefl _)

omit [EventLooper Looper TimerSink] in
theorem connection_sessions {hub : Hub Looper} (wired : Wired hub) (ip : String)
    (memory : TaskMemory) (transId : Nat) :
    (onConnection hub ip memory).transcationSessions.find? transId =
      if transId ∈ getTransIds hub ip then
        some ((hub.transcationSessions.find? transId).getD [] ++ [hub.created])
      else hub.transcationSessions.find? transId :=
  connection_lists (fun id list found => (wired.created id list found).2) ip memory transId

omit [EventLooper Looper TimerSink] in
theorem connection_transcations (hub : Hub Looper) (ip : String) (memory : TaskMemory)
    (transId : Nat) :
    (onConnection hub ip memory).transcations.find? transId =
      (hub.transcations.find? transId).map fun transcation =>
        if transId ∈ getTransIds hub ip then { transcation with task := some hub.created }
        else transcation :=
  subscribe_all_transcations _ _ _ _

omit [EventLooper Looper TimerSink] in
theorem connection_rest (hub : Hub Looper) (ip : String) (memory : TaskMemory) :
    (onConnection hub ip memory).created = hub.created + 1 ∧
      (onConnection hub ip memory).deleted = hub.deleted ∧
      (onConnection hub ip memory).connections = hub.connections ++ [hub.created] ∧
      (onConnection hub ip memory).looper = hub.looper ∧
      ∀ other, other ≠ hub.created →
        (onConnection hub ip memory).tasks other = hub.tasks other := by
  obtain ⟨created, deleted, connections, looper, tasks⟩ :=
    subscribe_all_rest hub.created (openSession hub memory) (getTransIds hub ip)
  refine ⟨created, deleted, connections, looper, ?_⟩
  intro other different
  rw [onConnection, tasks other different]
  exact if_neg different

omit [EventLooper Looper TimerSink] in
theorem connection_flags (hub : Hub Looper) (ip : String) (memory : TaskMemory) (transId : Nat) :
    ((onConnection hub ip memory).tasks hub.created).transcationReptStatus.find? transId =
      if transId ∈ getTransIds hub ip then some false else none := by
  have fresh : ((openSession hub memory).tasks hub.created).transcationReptStatus =
      StdMap.empty := by
    simp [openSession, Task.new]
  rw [onConnection, subscribe_all_flags]
  · rw [fresh]
    rfl
  · intro id member
    rw [fresh]
    intro set
    cases set

omit [EventLooper Looper TimerSink] in
theorem connection_idle (hub : Hub Looper) (ip : String) (memory : TaskMemory) :
    ((onConnection hub ip memory).tasks hub.created).status = .idle := by
  rw [onConnection, subscribe_all_status]
  simp [openSession, Task.new]

omit [EventLooper Looper TimerSink] in
theorem connection_subscribed {hub : Hub Looper} (wired : Wired hub) (ip : String)
    (memory : TaskMemory) {session : SessionId} (older : session ≠ hub.created) :
    subscribedIds (onConnection hub ip memory) session = subscribedIds hub session := by
  apply StdMap.increasing_ext (subscribed_ids_sorted _ _) (subscribed_ids_sorted _ _)
  intro transId
  rw [mem_subscribed_ids, mem_subscribed_ids, connection_sessions wired]
  by_cases admitted : transId ∈ getTransIds hub ip
  · cases found : hub.transcationSessions.find? transId with
    | none => simp [admitted, older]
    | some list => simp [admitted, older]
  · simp [admitted]

omit [EventLooper Looper TimerSink] in
theorem connection_subscribed_new {hub : Hub Looper} (wired : Wired hub) (ip : String)
    (memory : TaskMemory) :
    subscribedIds (onConnection hub ip memory) hub.created = getTransIds hub ip := by
  apply StdMap.increasing_ext (subscribed_ids_sorted _ _) (trans_ids_sorted _ _)
  intro transId
  rw [mem_subscribed_ids, connection_sessions wired]
  by_cases admitted : transId ∈ getTransIds hub ip
  · simp [admitted]
  · simp only [admitted, if_false]
    constructor
    · intro given
      rcases given with ⟨list, found, member⟩
      exact absurd ((wired.created transId list found).2 _ member) (Nat.lt_irrefl _)
    · exact False.elim

omit [EventLooper Looper TimerSink] in
theorem connection_wired {hub : Hub Looper} (wired : Wired hub) (ip : String)
    (memory : TaskMemory) : Wired (onConnection hub ip memory) := by
  have sessions := connection_sessions wired ip memory
  have transcations := connection_transcations hub ip memory
  obtain ⟨created, deleted, -, -, tasks⟩ := connection_rest hub ip memory
  constructor
  · intro transId transcation found
    rw [transcations] at found
    obtain ⟨before, known, rfl⟩ := Option.map_eq_some_iff.mp found
    rw [lastSubscriber, sessions]
    split
    · simp
    · exact wired.tasked transId before known
  · intro transId member
    obtain ⟨list, found⟩ := StdMap.mem_keys.mp member
    rw [sessions] at found
    have listed : transId ∈ hub.transcations.keys := by
      split at found
      · rename_i admitted
        obtain ⟨transcation, known, -⟩ := mem_trans_ids.mp admitted
        exact StdMap.mem_keys.mpr ⟨transcation, known⟩
      · exact wired.known transId (StdMap.mem_keys.mpr ⟨list, found⟩)
    obtain ⟨transcation, known⟩ := StdMap.mem_keys.mp listed
    exact StdMap.mem_keys.mpr ⟨_, by rw [transcations, known, Option.map_some]⟩
  · intro transId list found
    rw [sessions] at found
    rw [created]
    split at found
    · obtain rfl := Option.some.inj found
      refine ⟨by simp, ?_⟩
      intro session member
      rcases List.mem_append.mp member with older | new
      · cases known : hub.transcationSessions.find? transId with
        | none => simp [known] at older
        | some list =>
            rw [known] at older
            exact Nat.lt_succ_of_lt ((wired.created transId list known).2 session older)
      · rw [List.mem_singleton.mp new]
        exact Nat.lt_succ_self _
    · obtain ⟨nonempty, members⟩ := wired.created transId list found
      exact ⟨nonempty, fun session member => Nat.lt_succ_of_lt (members session member)⟩
  · intro session exists_
    rw [created] at exists_
    by_cases new : session = hub.created
    · subst new
      rw [connection_subscribed_new wired]
      apply StdMap.increasing_ext (StdMap.keys_sorted _) (trans_ids_sorted _ _)
      intro transId
      rw [StdMap.mem_keys, connection_flags]
      by_cases admitted : transId ∈ getTransIds hub ip
      · simp [admitted]
      · simp [admitted]
    · rw [tasks session new, connection_subscribed wired ip memory new]
      exact wired.flags session (by omega)
  · rw [deleted]
    exact wired.undeleted

theorem balance_data_wiring (hub : Hub Looper) (equipment : Nat) (steady : Bool) :
    SameWiring hub (onBalanceData hub equipment steady) := by
  unfold onBalanceData
  split
  · exact ⟨rfl, rfl, rfl, rfl, rfl, fun _ => rfl⟩
  · split
    · exact ⟨rfl, rfl, rfl, rfl, rfl, fun _ => rfl⟩
    · exact same_wiring_refl _

theorem balance_data_tasks (hub : Hub Looper) (equipment : Nat) (steady : Bool) :
    (onBalanceData hub equipment steady).tasks = hub.tasks := by
  unfold onBalanceData
  split
  · rfl
  · split <;> rfl

theorem step_same_wiring {hub after : Hub Looper} {event : Event} {out : List Output}
    (taken : step hub event = some (after, out)) :
    SameWiring hub after ∨ ∃ ip memory, event = .onConnection ip memory ∧
      after = onConnection hub ip memory := by
  cases event with
  | onConnection ip memory =>
      obtain ⟨rfl, -⟩ := Prod.mk.inj (Option.some.inj taken)
      exact Or.inr ⟨ip, memory, rfl, rfl⟩
  | onFrame session frame =>
      left
      simp only [step] at taken
      split at taken
      · rcases frame_cases taken with ⟨-, rfl, -⟩ | ⟨-, all⟩
        · exact same_wiring_refl _
        · exact down_stream_all_same_wiring all
      · contradiction
  | updateInfo transId report =>
      left
      rcases update_info_hub_cases taken with ⟨-, rfl, -⟩ | ⟨_, _, session, _, -, -, -, rfl, -⟩
      · exact same_wiring_refl _
      · exact store_same_wiring hub session _ (StdMap.keys_map_values _ _)
  | onTimer te =>
      left
      rcases timeout_cases taken with ⟨rfl, -⟩ | ⟨session, -, ⟨-, -, rfl⟩ | ⟨silenced, kept, -, rfl, -⟩⟩
      · exact same_wiring_refl _
      · exact store_same_wiring hub session _ rfl
      · have keys : (finish silenced).task.transcationReptStatus.keys =
            (hub.tasks session).transcationReptStatus.keys := by
          rw [← kept]
          exact StdMap.keys_map_values _ _
        obtain ⟨transcations, sessions, connections, created, deleted, keys⟩ :=
          store_same_wiring hub session (finish silenced) keys
        exact ⟨transcations, sessions, connections, created, deleted, keys⟩
  | balanceData equipment steady =>
      left
      obtain ⟨rfl, -⟩ := Prod.mk.inj (Option.some.inj taken)
      exact balance_data_wiring hub equipment steady
  | broadcast =>
      left
      simp only [step] at taken
      split at taken
      · obtain ⟨rfl, -⟩ := Prod.mk.inj (Option.some.inj taken)
        exact same_wiring_refl _
      · contradiction

theorem step_wired {hub after : Hub Looper} {event : Event} {out : List Output}
    (wired : Wired hub) (taken : step hub event = some (after, out)) : Wired after := by
  rcases step_same_wiring taken with same | ⟨ip, memory, -, rfl⟩
  · exact same.wired wired
  · exact connection_wired wired ip memory

end DevHub.Wiring
