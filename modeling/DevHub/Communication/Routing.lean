import DevHub.Communication.OneReply

/-!
Where the replies to a frame go. The observer notes for each transcation the
sessions whose frames started a command there that no reply has ended; a device
report is the reply to the oldest of them. A reply goes to the session that `m_task`
names, so it is routed right as long as that session is also the submitter.
-/

namespace DevHub.Routing

open Looper TaskUse Transcations CommServer Wiring FlagWalk FrameWalk Transition

set_option autoImplicit false

/-- The hub, who waits for a device report of a transcation, oldest first, and what
the last step emitted. -/
structure Observed (Looper : Type) where
  hub : Hub Looper
  waiting : Nat → List SessionId
  sent : List Output

def receivers (out : List Output) : List SessionId :=
  out.filterMap fun output =>
    match output with
    | .sendMessage session _ _ => some session
    | _ => none

/-- The frame started a command of the transcation and left it to the device. -/
def opened (out : List Output) (transId : Nat) : Bool :=
  let emitted := out.filterMap emission
  decide (.start transId ∈ emitted) && !decide (.reply transId ∈ emitted)

/-- A report ends the oldest wait of its transcation, a timeout every wait of its session. -/
def observe (waiting : Nat → List SessionId) (event : Event) (out : List Output) :
    Nat → List SessionId :=
  match event with
  | .onFrame session _ => fun transId =>
      if opened out transId then waiting transId ++ [session] else waiting transId
  | .updateInfo transId (some _) => fun other =>
      if other = transId then (waiting other).tail else waiting other
  | .onTimer te => fun transId =>
      (waiting transId).filter fun session => te.sink ≠ .task session || out.isEmpty
  | _ => waiting

variable {Looper : Type} [EventLooper Looper TimerSink]

def observedStep : Step (Observed Looper) Event := fun state event =>
  (step state.hub event).map fun result =>
    { hub := result.1, waiting := observe state.waiting event result.2, sent := result.2 }

def Observed.start (transcations : StdMap Nat Transcation) (looper : Looper) : Observed Looper where
  hub := Hub.start transcations looper
  waiting _ := []
  sent := []

/-- Whatever a frame or a report makes the hub send goes to the submitter of that
frame, or of the frame that the report is for. -/
def Routed (before : Observed Looper) (event : Event) (after : Observed Looper) : Prop :=
  match event with
  | .onFrame session _ => ∀ receiver ∈ receivers after.sent, receiver = session
  | .updateInfo transId _ => ∀ session, (before.waiting transId).head? = some session →
      ∀ receiver ∈ receivers after.sent, receiver = session
  | _ => True

def flag (hub : Hub Looper) (session : SessionId) (transId : Nat) : Option Bool :=
  (hub.tasks session).transcationReptStatus.find? transId

/-- No transcation that now belongs to another session answers the request at once,
and those that decline it leave a flag of that session's task unset. -/
def Undisturbed (hub : Hub Looper) (session : SessionId) (request : Request) : Prop :=
  ∀ transId ∈ subscribedIds hub session, ∀ other, lastSubscriber hub transId = some other →
    other ≠ session →
      verdictAt hub request transId ≠ .answers ∧
        (verdictAt hub request transId = .declines →
          ∃ key, flag hub other key = some false ∧
            ¬ (key ∈ subscribedIds hub session ∧ lastSubscriber hub key = some other ∧
              verdictAt hub request key = .declines))

/-- The submitter is still the last subscriber where a reply is made. -/
def Direct (before : Observed Looper) (event : Event) : Prop :=
  match event with
  | .onFrame session frame => (before.hub.tasks session).status = .idle →
      ∀ request, frameRequest frame = some (some request) →
        Undisturbed before.hub session request
  | .updateInfo transId (some _) => ∀ session, (before.waiting transId).head? = some session →
      lastSubscriber before.hub transId = some session
  | _ => True

omit [EventLooper Looper TimerSink] in
theorem mem_receivers {out : List Output} {session : SessionId} :
    session ∈ receivers out ↔ ∃ message source, .sendMessage session message source ∈ out := by
  rw [receivers, List.mem_filterMap]
  constructor
  · intro given
    rcases given with ⟨output, member, sends⟩
    split at sends
    · obtain rfl := Option.some.inj sends
      exact ⟨_, _, member⟩
    · cases sends
  · intro given
    rcases given with ⟨message, source, member⟩
    exact ⟨_, member, rfl⟩

theorem receivers_append (first second : List Output) :
    receivers (first ++ second) = receivers first ++ receivers second :=
  List.filterMap_append

theorem device_receivers {out : List Output} (device : ∀ output ∈ out, ToDevice output) :
    receivers out = [] := by
  apply List.eq_nil_iff_forall_not_mem.mpr
  intro session member
  obtain ⟨message, source, sent⟩ := mem_receivers.mp member
  exact device _ sent

/-! ### One transcation -/

/-- What a visit to a transcation of a session's task does, by its verdict. -/
structure Visit (hub : Hub Looper) (session : SessionId) (transId : Nat) (request : Request)
    (after : Hub Looper) (out : List Output) : Prop where
  kept : OthersKept session hub after
  own : ∀ receiver ∈ receivers out, receiver = session
  answers : verdictAt hub request transId = .answers → session ∈ receivers out
  holds : verdictAt hub request transId = .holds →
    receivers out = [] ∧ ∀ key, flag after session key = flag hub session key
  complete : verdictAt hub request transId = .declines →
    (∀ key, key ≠ transId → flag hub session key ≠ some false) → session ∈ receivers out
  silent : verdictAt hub request transId = .declines →
    (∃ key, key ≠ transId ∧ flag hub session key = some false) →
      receivers out = [] ∧
        ∀ key, flag after session key = if key = transId then some true else flag hub session key

omit [EventLooper Looper TimerSink] in
theorem Visit.cons {hub after : Hub Looper} {session : SessionId} {transId : Nat}
    {request : Request} {out : List Output} {output : Output}
    (visit : Visit hub session transId request after out) (silent : receivers [output] = []) :
    Visit hub session transId request after (output :: out) := by
  have same : receivers (output :: out) = receivers out := by
    rw [← List.singleton_append, receivers_append, silent, List.nil_append]
  constructor
  · exact visit.kept
  · rw [same]
    exact visit.own
  · rw [same]
    exact visit.answers
  · rw [same]
    exact visit.holds
  · rw [same]
    exact visit.complete
  · rw [same]
    exact visit.silent

theorem update_receivers (session : SessionId) (data : Message) (transId : Nat)
    (ctx : TaskContext Looper) :
    ∀ receiver ∈ receivers (update session data transId ctx).2, receiver = session := by
  intro receiver member
  obtain ⟨message, source, sent⟩ := mem_receivers.mp member
  unfold update at sent
  split at sent
  · dsimp only at sent
    split at sent
    · cases List.mem_singleton.mp sent
      rfl
    · cases sent
  · cases List.mem_singleton.mp sent
    rfl

theorem declined_visit {hub : Hub Looper} {session : SessionId} {transId : Nat}
    {request : Request} {stored after : TaskContext Looper} {out : List Output}
    (key : transId ∈ (hub.tasks session).transcationReptStatus.keys)
    (decided : verdictAt hub request transId = .declines)
    (flags : stored.task.transcationReptStatus = (hub.tasks session).transcationReptStatus)
    (result : (after, out) = update session (.text "NothingToDo") transId stored)
    (kept : OthersKept session hub (hub.store session after)) :
    Visit hub session transId request (hub.store session after) out := by
  have emitted : out = (update session (.text "NothingToDo") transId stored).2 :=
    congrArg Prod.snd result
  have storedKey : transId ∈ stored.task.transcationReptStatus.keys := flags ▸ key
  constructor
  · exact kept
  · rw [emitted]
    exact update_receivers session _ transId stored
  · intro answers
    rw [decided] at answers
    cases answers
  · intro holds
    rw [decided] at holds
    cases holds
  · intro _ allSet
    have others : ∀ other ∈ stored.task.transcationReptStatus.keys, other ≠ transId →
        stored.task.transcationReptStatus.find? other = some true := by
      intro other member different
      obtain ⟨set, found⟩ := StdMap.mem_keys.mp member
      have notFalse := allSet other different
      rw [flag, ← flags, found] at notFalse
      cases set with
      | true => exact found
      | false => exact absurd rfl notFalse
    obtain ⟨message, finished, updated, -, -⟩ := decline_all session storedKey others
    rw [emitted, updated]
    exact List.mem_singleton_self session
  · intro _ given
    rcases given with ⟨other, different, unset⟩
    rw [flag, ← flags] at unset
    rw [decline_silent storedKey different unset] at result
    obtain ⟨rfl, rfl⟩ := Prod.mk.inj result
    refine ⟨rfl, ?_⟩
    intro asked
    rw [flag, store_task, set_trans_status storedKey, flag, ← flags]
    exact StdMap.find_insert _ _ _ _

omit [EventLooper Looper TimerSink] in
theorem accepted_visit {hub : Hub Looper} {session : SessionId} {transId : Nat}
    {request : Request} {atOnce : Bool} {stored : Task} {after : TaskContext Looper}
    {out : List Output}
    (decided : verdictAt hub request transId = if atOnce then .answers else .holds)
    (flags : stored.transcationReptStatus = (hub.tasks session).transcationReptStatus)
    (processed : Processed transId session atOnce stored after.task out)
    (kept : OthersKept session hub (hub.store session after)) :
    Visit hub session transId request (hub.store session after) out := by
  cases processed with
  | answered writes message atOnceEq device result emitted finished =>
      rw [if_pos atOnceEq] at decided
      have sent : receivers out = [session] := by
        rw [emitted, receivers_append, device_receivers device]
        rfl
      constructor
      · exact kept
      · intro receiver member
        rw [sent] at member
        exact List.mem_singleton.mp member
      · intro _
        rw [sent]
        exact List.mem_singleton_self session
      · intro holds
        rw [decided] at holds
        cases holds
      · intro declines
        rw [decided] at declines
        cases declines
      · intro declines
        rw [decided] at declines
        cases declines
  | pending atOnceEq device busy same format =>
      have sent := device_receivers device
      rw [if_neg (by simp [atOnceEq])] at decided
      constructor
      · exact kept
      · intro receiver member
        rw [sent] at member
        cases member
      · intro answers
        rw [decided] at answers
        cases answers
      · intro _
        refine ⟨sent, ?_⟩
        intro asked
        rw [flag, store_task, same, flags, flag]
      · intro declines
        rw [decided] at declines
        cases declines
      · intro declines
        rw [decided] at declines
        cases declines

theorem down_stream_visit {hub after : Hub Looper} {session : SessionId} {transId : Nat}
    {frame : Frame} {request : Request} {out : List Output}
    (serves : Serves hub session transId)
    (key : transId ∈ (hub.tasks session).transcationReptStatus.keys)
    (read : frameRequest frame = some (some request))
    (taken : onDownStream hub transId frame = some (after, out)) :
    Visit hub session transId request after out := by
  obtain ⟨transcation, found, tasked⟩ := serves
  have wiring := down_stream_same_wiring taken
  rcases down_stream_cases taken with
    ⟨missing, -, -⟩ | ⟨transcation', session', ctx, handledOut, found', tasked', handled, rfl, rfl⟩
  · rw [found] at missing
    cases missing
  · obtain rfl := Option.some.inj (found.symm.trans found')
    obtain rfl := Option.some.inj (tasked.symm.trans tasked')
    have kept : OthersKept session hub (hub.store session ctx) :=
      ⟨wiring, fun other different => store_other hub ctx different⟩
    have visit : Visit hub session transId request (hub.store session ctx) handledOut := by
      cases handled with
      | ignored early silent status flags =>
          rw [read] at early
          cases early
      | declined stored request' read' unknown status flags format result =>
          obtain rfl := Option.some.inj (Option.some.inj (read.symm.trans read'))
          apply declined_visit key _ flags result kept
          rw [verdictAt, found]
          exact if_pos unknown
      | accepted stored request' result read' known flags format emitted processed =>
          obtain rfl := Option.some.inj (Option.some.inj (read.symm.trans read'))
          subst emitted
          apply (accepted_visit _ flags processed kept).cons rfl
          rw [verdictAt, found]
          exact if_neg (by simp [known])
    exact visit.cons rfl

/-! ### The loop -/

/-- Every transcation of the list belongs to a task that has its flag. -/
def Placed (hub : Hub Looper) (ids : List Nat) : Prop :=
  ∀ transId ∈ ids, ∃ session, Serves hub session transId ∧
    transId ∈ (hub.tasks session).transcationReptStatus.keys

def UndisturbedOver (hub : Hub Looper) (session : SessionId) (request : Request)
    (ids : List Nat) : Prop :=
  ∀ transId ∈ ids, ∀ other, Serves hub other transId → other ≠ session →
    verdictAt hub request transId ≠ .answers ∧
      (verdictAt hub request transId = .declines →
        ∃ key, flag hub other key = some false ∧
          ¬ (key ∈ ids ∧ Serves hub other key ∧ verdictAt hub request key = .declines))

omit [EventLooper Looper TimerSink] in
theorem serves_unique {hub : Hub Looper} {first second : SessionId} {transId : Nat}
    (left : Serves hub first transId) (right : Serves hub second transId) : first = second := by
  obtain ⟨transcation, found, tasked⟩ := left
  obtain ⟨transcation', found', tasked'⟩ := right
  obtain rfl := Option.some.inj (found.symm.trans found')
  exact Option.some.inj (tasked.symm.trans tasked')

omit [EventLooper Looper TimerSink] in
theorem same_wiring_serves_iff {before after : Hub Looper} (same : SameWiring before after)
    (session : SessionId) (transId : Nat) :
    Serves after session transId ↔ Serves before session transId := by
  rw [Serves, Serves, same.transcations]

omit [EventLooper Looper TimerSink] in
theorem placed_tail {before after : Hub Looper} (same : SameWiring before after) {transId : Nat}
    {rest : List Nat} (placed : Placed before (transId :: rest)) : Placed after rest := by
  intro other member
  obtain ⟨session, serves, key⟩ := placed other (List.mem_cons_of_mem _ member)
  refine ⟨session, (same_wiring_serves_iff same session other).mpr serves, ?_⟩
  rw [same.keys]
  exact key

omit [EventLooper Looper TimerSink] in
theorem others_kept_flag {session other : SessionId} {before after : Hub Looper}
    (kept : OthersKept session before after) (different : other ≠ session) (key : Nat) :
    flag after other key = flag before other key := by
  rw [flag, kept.tasks other different, flag]

theorem down_stream_all_cons {hub after : Hub Looper} {transId : Nat} {rest : List Nat}
    {frame : Frame} {request : Request} {out : List Output}
    (placed : Placed hub (transId :: rest)) (read : frameRequest frame = some (some request))
    (taken : downStreamAll frame hub (transId :: rest) = some (after, out)) :
    ∃ middle early late session, Serves hub session transId ∧
      Visit hub session transId request middle early ∧ Placed middle rest ∧
      downStreamAll frame middle rest = some (after, late) ∧
      receivers out = receivers early ++ receivers late := by
  obtain ⟨session, serves, key⟩ := placed transId List.mem_cons_self
  obtain ⟨first, head, tail⟩ := Option.bind_eq_some_iff.mp taken
  obtain ⟨later, all, same⟩ := Option.map_eq_some_iff.mp tail
  obtain ⟨rfl, rfl⟩ := Prod.mk.inj same
  have visit := down_stream_visit serves key read head
  exact ⟨first.1, first.2, later.2, session, serves, visit, placed_tail visit.kept.wiring placed,
    all, receivers_append _ _⟩

omit [EventLooper Looper TimerSink] in
theorem visit_undisturbed {hub middle : Hub Looper} {session visited : SessionId}
    {request : Request} {transId : Nat} {rest : List Nat} {out : List Output}
    (serves : Serves hub visited transId) (visit : Visit hub visited transId request middle out)
    (quiet : UndisturbedOver hub session request (transId :: rest)) :
    UndisturbedOver middle session request rest := by
  have same := visit.kept.wiring
  intro other member owner owns different
  rw [same_wiring_serves_iff same] at owns
  rw [same_wiring_verdict same]
  obtain ⟨notAnswers, declines⟩ := quiet other (List.mem_cons_of_mem _ member) owner owns different
  refine ⟨notAnswers, ?_⟩
  intro declined
  obtain ⟨key, unset, outside⟩ := declines declined
  refine ⟨key, ?_, ?_⟩
  · by_cases here : owner = visited
    · subst here
      have notVisited : key ≠ transId ∨ verdictAt hub request transId ≠ .declines := by
        by_contra both
        push Not at both
        obtain ⟨rfl, decided⟩ := both
        exact outside ⟨List.mem_cons_self, serves, decided⟩
      cases decided : verdictAt hub request transId with
      | answers =>
          exact absurd decided (quiet transId List.mem_cons_self owner serves different).1
      | holds => rw [(visit.holds decided).2, unset]
      | declines =>
          have apart := notVisited.resolve_right (not_not.mpr decided)
          rw [(visit.silent decided ⟨key, apart, unset⟩).2, if_neg apart, unset]
    · rw [others_kept_flag visit.kept here, unset]
  · intro given
    rcases given with ⟨later, ownsKey, declinesKey⟩
    rw [same_wiring_serves_iff same] at ownsKey
    exact outside ⟨List.mem_cons_of_mem _ later, ownsKey, declinesKey⟩

theorem undisturbed_loop {session : SessionId} {frame : Frame} {request : Request}
    {ids : List Nat} {hub after : Hub Looper} {out : List Output} (placed : Placed hub ids)
    (read : frameRequest frame = some (some request))
    (quiet : UndisturbedOver hub session request ids)
    (taken : downStreamAll frame hub ids = some (after, out)) :
    ∀ receiver ∈ receivers out, receiver = session := by
  induction ids generalizing hub out with
  | nil =>
      obtain ⟨rfl, rfl⟩ := Prod.mk.inj (Option.some.inj taken)
      intro receiver member
      cases member
  | cons transId rest ih =>
      obtain ⟨middle, early, late, visited, serves, visit, placedRest, all, sent⟩ :=
        down_stream_all_cons placed read taken
      have later := ih placedRest (visit_undisturbed serves visit quiet) all
      have first : ∀ receiver ∈ receivers early, receiver = session := by
        intro receiver member
        by_cases same : visited = session
        · exact (visit.own receiver member).trans same
        obtain ⟨notAnswers, declines⟩ := quiet transId List.mem_cons_self visited serves same
        have none_sent : receivers early = [] := by
          cases decided : verdictAt hub request transId with
          | answers => exact absurd decided notAnswers
          | holds => exact (visit.holds decided).1
          | declines =>
              obtain ⟨key, unset, outside⟩ := declines decided
              have apart : key ≠ transId := by
                intro same
                subst same
                exact outside ⟨List.mem_cons_self, serves, decided⟩
              exact (visit.silent decided ⟨key, apart, unset⟩).1
        rw [none_sent] at member
        cases member
      intro receiver member
      rw [sent] at member
      exact (List.mem_append.mp member).elim (first receiver) (later receiver)

/-- A transcation that answers at once sends its reply to the session it belongs to. -/
theorem answering_loop {frame : Frame} {request : Request} {owner : SessionId} {transId : Nat}
    {ids : List Nat} {hub after : Hub Looper} {out : List Output} (placed : Placed hub ids)
    (read : frameRequest frame = some (some request)) (member : transId ∈ ids)
    (owns : Serves hub owner transId) (answers : verdictAt hub request transId = .answers)
    (taken : downStreamAll frame hub ids = some (after, out)) : owner ∈ receivers out := by
  induction ids generalizing hub out with
  | nil => cases member
  | cons head rest ih =>
      obtain ⟨middle, early, late, visited, serves, visit, placedRest, all, sent⟩ :=
        down_stream_all_cons placed read taken
      have same := visit.kept.wiring
      rw [sent, List.mem_append]
      rcases List.mem_cons.mp member with rfl | later
      · rw [serves_unique owns serves]
        exact Or.inl (visit.answers answers)
      · right
        apply ih placedRest later ((same_wiring_serves_iff same _ _).mpr owns) _ all
        rw [same_wiring_verdict same]
        exact answers

omit [EventLooper Looper TimerSink] in
/-- A transcation behind the head of the loop still declines for its owner after it. -/
theorem declines_later {hub middle : Hub Looper} {request : Request} {owner : SessionId}
    {head key : Nat} {rest : List Nat} (same : SameWiring hub middle) (different : key ≠ head)
    (left : key ∈ head :: rest ∧ Serves hub owner key ∧ verdictAt hub request key = .declines) :
    key ∈ rest ∧ Serves middle owner key ∧ verdictAt middle request key = .declines := by
  obtain ⟨member, owns, declines⟩ := left
  refine ⟨(List.mem_cons.mp member).resolve_left different,
    (same_wiring_serves_iff same _ _).mpr owns, ?_⟩
  rw [same_wiring_verdict same]
  exact declines

/-- When the transcations left in the loop complete the flags of a task, its session
is sent a message. -/
theorem completing_loop {frame : Frame} {request : Request} {owner : SessionId}
    {ids : List Nat} {hub after : Hub Looper} {out : List Output} (placed : Placed hub ids)
    (read : frameRequest frame = some (some request))
    (some_left : ∃ transId ∈ ids, Serves hub owner transId ∧
      verdictAt hub request transId = .declines)
    (all_left : ∀ key, flag hub owner key = some false →
      key ∈ ids ∧ Serves hub owner key ∧ verdictAt hub request key = .declines)
    (taken : downStreamAll frame hub ids = some (after, out)) : owner ∈ receivers out := by
  induction ids generalizing hub out with
  | nil =>
      obtain ⟨transId, member, -⟩ := some_left
      cases member
  | cons head rest ih =>
      obtain ⟨middle, early, late, visited, serves, visit, placedRest, all, sent⟩ :=
        down_stream_all_cons placed read taken
      have same := visit.kept.wiring
      rw [sent, List.mem_append]
      by_cases declinesHere : visited = owner ∧ verdictAt hub request head = .declines
      · obtain ⟨rfl, decided⟩ := declinesHere
        by_cases last : ∀ key, key ≠ head → flag hub visited key ≠ some false
        · exact Or.inl (visit.complete decided last)
        · push Not at last
          have flags := (visit.silent decided last).2
          right
          obtain ⟨key, apart, unset⟩ := last
          apply ih placedRest _ _ all
          · exact ⟨key, declines_later same apart (all_left key unset)⟩
          · intro other unsetOther
            rw [flags] at unsetOther
            split at unsetOther
            · cases unsetOther
            · rename_i different
              exact declines_later same different (all_left other unsetOther)
      · have elsewhere : ∀ key, Serves hub owner key → verdictAt hub request key = .declines →
            key ≠ head := by
          intro key ownsKey declinesKey same
          subst same
          exact declinesHere ⟨serves_unique serves ownsKey, declinesKey⟩
        by_cases answersHere : visited = owner ∧ verdictAt hub request head = .answers
        · obtain ⟨rfl, decided⟩ := answersHere
          exact Or.inl (visit.answers decided)
        · right
          have flags : ∀ key, flag middle owner key = flag hub owner key := by
            by_cases here : visited = owner
            · subst here
              cases decided : verdictAt hub request head with
              | declines => exact absurd ⟨rfl, decided⟩ declinesHere
              | answers => exact absurd ⟨rfl, decided⟩ answersHere
              | holds => exact (visit.holds decided).2
            · exact others_kept_flag visit.kept (Ne.symm here)
          apply ih placedRest _ _ all
          · obtain ⟨transId, left⟩ := some_left
            exact ⟨transId, declines_later same (elsewhere transId left.2.1 left.2.2) left⟩
          · intro key unset
            rw [flags] at unset
            have left := all_left key unset
            exact declines_later same (elsewhere key left.2.1 left.2.2) left

/-! ### Whole runs -/

omit [EventLooper Looper TimerSink] in
/-- `m_task` of a subscribed transcation is the task of its last subscriber. -/
theorem wired_serves_iff {hub : Hub Looper} (wired : Wired hub) {session other : SessionId}
    {transId : Nat} (member : transId ∈ subscribedIds hub session) :
    Serves hub other transId ↔ lastSubscriber hub transId = some other := by
  obtain ⟨list, found, -⟩ := mem_subscribed_ids.mp member
  obtain ⟨transcation, known⟩ :=
    StdMap.mem_keys.mp (wired.known transId (StdMap.mem_keys.mpr ⟨list, found⟩))
  rw [← wired.tasked transId transcation known, Serves]
  constructor
  · intro given
    rcases given with ⟨transcation', known', tasked⟩
    obtain rfl := Option.some.inj (known.symm.trans known')
    exact tasked
  · intro tasked
    exact ⟨transcation, known, tasked⟩

omit [EventLooper Looper TimerSink] in
theorem wired_placed {hub : Hub Looper} (wired : Wired hub) (session : SessionId) :
    Placed hub (subscribedIds hub session) := by
  intro transId member
  obtain ⟨list, found, -⟩ := mem_subscribed_ids.mp member
  obtain ⟨nonempty, created⟩ := wired.created transId list found
  have lastMember := List.getLast_mem nonempty
  refine ⟨list.getLast nonempty, (wired_serves_iff wired member).mpr ?_, ?_⟩
  · rw [lastSubscriber, found, Option.bind_some, List.getLast?_eq_some_getLast nonempty]
  · rw [wired.flags _ (created _ lastMember)]
    exact mem_subscribed_ids.mpr ⟨list, found, lastMember⟩

omit [EventLooper Looper TimerSink] in
theorem undisturbed_iff {hub : Hub Looper} (wired : Wired hub) (session : SessionId)
    (request : Request) :
    Undisturbed hub session request ↔
      UndisturbedOver hub session request (subscribedIds hub session) := by
  apply forall₂_congr
  intro transId member
  apply forall_congr'
  intro other
  rw [wired_serves_iff wired member]
  apply imp_congr_right
  intro _
  apply imp_congr_right
  intro _
  apply and_congr_right
  intro _
  apply imp_congr_right
  intro _
  apply exists_congr
  intro key
  apply and_congr_right
  intro _
  apply not_congr
  apply and_congr_right
  intro memberKey
  rw [wired_serves_iff wired memberKey]

theorem frame_routed_iff {hub after : Hub Looper} (wired : Wired hub) {session : SessionId}
    {frame : Frame} {out : List Output}
    (taken : step hub (.onFrame session frame) = some (after, out)) :
    (∀ receiver ∈ receivers out, receiver = session) ↔
      ((hub.tasks session).status = .idle →
        ∀ request, frameRequest frame = some (some request) →
          Undisturbed hub session request) := by
  simp only [step] at taken
  split at taken
  swap
  · cases taken
  rcases frame_cases taken with ⟨busy, -, rfl⟩ | ⟨idle, all⟩
  · apply iff_of_true
    · intro receiver member
      exact List.mem_singleton.mp member
    · intro idle
      exact absurd idle busy
  · have placed := wired_placed wired session
    constructor
    · intro routed _ request read
      rw [undisturbed_iff wired]
      intro transId member other owns different
      constructor
      · intro answers
        exact different (routed other (answering_loop placed read member owns answers all))
      · intro declines
        by_contra complete
        apply different
        apply routed other
        apply completing_loop placed read ⟨transId, member, owns, declines⟩ _ all
        intro key unset
        by_contra outside
        exact complete ⟨key, unset, outside⟩
    · intro quiet
      by_cases read : ∃ request, frameRequest frame = some (some request)
      · obtain ⟨request, read⟩ := read
        exact undisturbed_loop placed read
          ((undisturbed_iff wired session request).mp (quiet idle request read)) all
      · obtain ⟨reached, -⟩ := down_stream_all_ignored (fun request found => read ⟨request, found⟩) all
        intro receiver member
        obtain ⟨message, source, sent⟩ := mem_receivers.mp member
        obtain ⟨transId, impossible⟩ := reached _ sent
        cases impossible

theorem update_info_receivers {hub after : Hub Looper} (wired : Wired hub) {transId : Nat}
    {root : Json} {out : List Output}
    (taken : step hub (.updateInfo transId (some root)) = some (after, out)) :
    ∃ owner, lastSubscriber hub transId = some owner ∧ receivers out = [owner] := by
  rcases update_info_hub_cases taken with
    ⟨missing, -, -⟩ | ⟨_, transcation, session, message, -, found, tasked, -, rfl, -⟩
  · cases missing
  · exact ⟨session, (wired.tasked transId transcation found).symm.trans tasked, rfl⟩

def Sound (state : Observed Looper) : Prop := Wired state.hub

theorem observed_sound {state after : Observed Looper} {event : Event} (wired : Sound state)
    (taken : observedStep state event = some after) : Sound after := by
  obtain ⟨⟨hub, out⟩, moved, rfl⟩ := Option.map_eq_some_iff.mp taken
  exact step_wired wired moved

theorem step_routed_iff {state after : Observed Looper} {event : Event} (wired : Sound state)
    (taken : observedStep state event = some after) :
    Routed state event after ↔ Direct state event := by
  obtain ⟨⟨hub, out⟩, moved, rfl⟩ := Option.map_eq_some_iff.mp taken
  cases event with
  | onFrame session frame => exact frame_routed_iff wired moved
  | updateInfo transId report =>
      cases report with
      | none =>
          apply iff_of_true
          · intro session _ receiver member
            rcases update_info_hub_cases moved with ⟨-, -, rfl⟩ | ⟨_, _, _, _, impossible, -⟩
            · cases member
            · cases impossible
          · trivial
      | some root =>
          obtain ⟨owner, last, sent⟩ := update_info_receivers wired moved
          apply forall₂_congr
          intro session _
          simp only [sent, last, List.mem_singleton, forall_eq, Option.some.injEq]
  | onConnection peerIp memory => exact Iff.rfl
  | onTimer te => exact Iff.rfl
  | balanceData equipment steady => exact Iff.rfl
  | broadcast => exact Iff.rfl

/-- In a run every reply to a frame goes to the session that submitted the frame
exactly when, at each request, no transcation that a later connection took over
would answer the session or complete the flags of the wrong task, and at each report the
submitter is still the last subscriber. -/
theorem replies_routed_iff_direct (transcations : StdMap Nat Transcation) (looper : Looper)
    (events : List Event) :
    EachStep observedStep Routed (Observed.start transcations looper) events ↔
      Guarded observedStep Direct (Observed.start transcations looper) events := by
  have initial : Sound (Observed.start transcations looper) := start_wired transcations looper
  apply each_step_congr _ _ initial
  · intro state event after wired taken
    exact observed_sound wired taken
  · intro state event after wired taken
    exact step_routed_iff wired taken

def twoClients : List Event :=
  [.onConnection "10.0.0.1" ⟨none, 0⟩, .onConnection "10.0.0.1" ⟨none, 0⟩]

/-- The first client asks and the second one gets the result. -/
theorem first_client_reply_misrouted :
    ¬ EachStep observedStep Routed
      (Observed.start OneReply.balanceAndSolder (EventLooperImp.empty : EventLooperImp TimerSink))
      (twoClients ++ [.onFrame 0 (.json (OneReply.ask "BalanceQp").value)]) := by
  intro routed
  have replies := each_step_at routed rfl rfl
  exact absurd (replies 1 (by decide)) (by decide)

end DevHub.Routing
