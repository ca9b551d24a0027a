import DevHub.Communication.FrameWalk

/-!
One client, its transcations and a list of requests, each served to its end
before the next one comes. The report flags of the client's task at the start of
a request are those of the walk's phase `ahead`; a request is answered exactly
once when its taker does not stand behind the transcation that is ahead.
-/

namespace DevHub.OneReply

open Looper TaskUse Transcations CommServer Wiring FlagWalk FrameWalk

set_option autoImplicit false

structure Setup where
  transcations : StdMap Nat Transcation
  peerIp : String
  memory : TaskMemory
  nonempty : transcations.keysWhere (fun transcation => checkIp transcation peerIp) ≠ []
  known : ∀ transId transcation, transcations.find? transId = some transcation →
    checkIp transcation peerIp = true →
    ∀ cmd ∈ transcation.commandNames, cmd ∈ implemented transcation.kind
  disjoint : ∀ left right first second,
    transcations.find? left = some first → checkIp first peerIp = true →
    transcations.find? right = some second → checkIp second peerIp = true →
    ∀ cmd, cmd ∈ first.commandNames → cmd ∈ second.commandNames → left = right

/-- A well-formed request, and the report of the device should it be asked. -/
structure Exchange where
  value : Json
  request : Request
  reads : readRequest value = some (some request)
  report : Json
  readable : (getMemberFromJson report).isSome = true

namespace Setup

def ids (setup : Setup) : List Nat :=
  setup.transcations.keysWhere fun transcation => checkIp transcation setup.peerIp

def lastId (setup : Setup) : Nat := setup.ids.getLast setup.nonempty

def verdict (setup : Setup) (request : Request) (transId : Nat) : Verdict :=
  match setup.transcations.find? transId with
  | some transcation => FrameWalk.verdict transcation request
  | none => .declines

/-- The subscribed transcation that has the command in its list. -/
def taker (setup : Setup) (request : Request) : Option Nat :=
  setup.ids.find? fun transId => setup.verdict request transId ≠ .declines

variable {Looper : Type} [EventLooper Looper TimerSink]

def hub (setup : Setup) (looper : Looper) : Hub Looper :=
  onConnection (Hub.start setup.transcations looper) setup.peerIp setup.memory

end Setup

def client : SessionId := 0

/-- The transcation whose command was started and not answered. -/
def dispatched (out : List Output) : Option Nat :=
  (out.filterMap emission).foldl
    (fun holder emitted =>
      match emitted with
      | .start transId => some transId
      | .reply _ => none
      | .noTaker _ => holder)
    none

variable {Looper : Type} [EventLooper Looper TimerSink]

/-- One request run to completion: the device answers a command it was given. -/
def serve (hub : Hub Looper) (exchange : Exchange) : Option (Hub Looper × List Output) :=
  (step hub (.onFrame client (.json exchange.value))).bind fun served =>
    match dispatched served.2 with
    | none => some served
    | some transId =>
        (step served.1 (.updateInfo transId (some exchange.report))).map fun answered =>
          (answered.1, served.2 ++ answered.2)

def received (out : List Output) : List Message :=
  out.filterMap fun output =>
    match output with
    | .sendMessage session message _ => if session = client then some message else none
    | _ => none

/-- Exactly one reply, and it is `ERROR_COMMAND` just when nobody has the command. -/
def AnsweredOnce (setup : Setup) (exchange : Exchange) (out : List Output) : Prop :=
  ∃ message, received out = [message] ∧
    (isErrorCommand message = true ↔
      ∀ transId ∈ setup.ids, ∀ transcation,
        setup.transcations.find? transId = some transcation →
        exchange.request.cmd ∉ transcation.commandNames)

def OneReplyEach (setup : Setup) : Hub Looper → List Exchange → Prop
  | _, [] => True
  | hub, exchange :: rest =>
      ∃ after out, serve hub exchange = some (after, out) ∧ AnsweredOnce setup exchange out ∧
        OneReplyEach setup after rest

/-- `last` is the transcation that answered the latest command at once, or the last
one of the client when the latest command went to the device. -/
def NoneBehind (setup : Setup) (last : Nat) : List Exchange → Prop
  | [] => True
  | exchange :: rest =>
      match setup.taker exchange.request with
      | none => NoneBehind setup last rest
      | some transId =>
          (equipNo exchange.request.param).isSome = true ∧ transId ≤ last ∧
            NoneBehind setup
              (if setup.verdict exchange.request transId = .answers then transId
              else setup.lastId) rest

theorem ids_sorted (setup : Setup) :
    setup.ids.Pairwise fun left right => left < right :=
  StdMap.keys_where_sorted _ _

theorem last_id_mem (setup : Setup) : setup.lastId ∈ setup.ids := List.getLast_mem _

theorem mem_ids {setup : Setup} {transId : Nat} :
    transId ∈ setup.ids ↔ ∃ transcation, setup.transcations.find? transId = some transcation ∧
      checkIp transcation setup.peerIp = true :=
  StdMap.mem_keys_where

theorem verdict_declines {transcation : Transcation} {request : Request} :
    FrameWalk.verdict transcation request = .declines ↔
      request.cmd ∉ transcation.commandNames := by
  unfold FrameWalk.verdict checkCommandName
  by_cases listed : request.cmd ∈ transcation.commandNames
  · rw [if_neg (by simpa using listed)]
    by_cases atOnce : answersAtOnce transcation request = true <;> simp [atOnce, listed]
  · simp [listed]

theorem taker_none {setup : Setup} {request : Request} :
    setup.taker request = none ↔
      ∀ transId ∈ setup.ids, ∀ transcation,
        setup.transcations.find? transId = some transcation →
        request.cmd ∉ transcation.commandNames := by
  simp only [Setup.taker, List.find?_eq_none, decide_eq_true_eq, not_not]
  apply forall₂_congr
  intro transId member
  obtain ⟨transcation, found, -⟩ := mem_ids.mp member
  simp [Setup.verdict, found, verdict_declines]

theorem taker_some {setup : Setup} {request : Request} {transId : Nat}
    (taker : setup.taker request = some transId) :
    transId ∈ setup.ids ∧ setup.verdict request transId ≠ .declines ∧
      ∀ other ∈ setup.ids, other ≠ transId → setup.verdict request other = .declines := by
  have member := List.mem_of_find?_eq_some taker
  have takes : setup.verdict request transId ≠ .declines := by
    simpa using List.find?_some taker
  refine ⟨member, takes, ?_⟩
  intro other otherMember different
  obtain ⟨transcation, found, admitted⟩ := mem_ids.mp member
  obtain ⟨second, foundSecond, admittedSecond⟩ := mem_ids.mp otherMember
  simp only [Setup.verdict, found, ne_eq, verdict_declines, not_not] at takes
  simp only [Setup.verdict, foundSecond, verdict_declines]
  intro listed
  exact different (setup.disjoint other transId second transcation foundSecond admittedSecond
    found admitted request.cmd listed takes)

/-! ### The state before a request -/

/-- Between two requests: the wiring of the connection, and flags that are set
behind `last` only. -/
structure Ready (setup : Setup) (looper : Looper) (last : Nat) (hub : Hub Looper) : Prop where
  wiring : SameWiring (setup.hub looper) hub
  flags : Represents [] setup.ids (.ahead last) (hub.tasks client)

omit [EventLooper Looper TimerSink] in
theorem trans_ids_start (setup : Setup) (looper : Looper) :
    getTransIds (Hub.start setup.transcations looper) setup.peerIp = setup.ids := by
  apply StdMap.increasing_ext (trans_ids_sorted _ _) (ids_sorted setup)
  intro transId
  rw [mem_trans_ids, mem_ids, Hub.start, StdMap.find_map_values]
  constructor
  · intro given
    rcases given with ⟨transcation, found, admitted⟩
    obtain ⟨configured, known, rfl⟩ := Option.map_eq_some_iff.mp found
    exact ⟨configured, known, admitted⟩
  · intro given
    rcases given with ⟨transcation, found, admitted⟩
    exact ⟨{ transcation with task := none }, by rw [found]; rfl, admitted⟩

omit [EventLooper Looper TimerSink] in
theorem hub_subscribed (setup : Setup) (looper : Looper) :
    subscribedIds (setup.hub looper) client = setup.ids := by
  rw [← trans_ids_start setup looper]
  exact connection_subscribed_new (start_wired setup.transcations looper) setup.peerIp setup.memory

omit [EventLooper Looper TimerSink] in
theorem hub_transcation (setup : Setup) (looper : Looper) {transId : Nat}
    (member : transId ∈ setup.ids) :
    ∃ transcation, setup.transcations.find? transId = some transcation ∧
      (setup.hub looper).transcations.find? transId =
        some { transcation with task := some client } := by
  obtain ⟨transcation, found, -⟩ := mem_ids.mp member
  refine ⟨transcation, found, ?_⟩
  have started : (Hub.start setup.transcations looper).transcations.find? transId =
      some { transcation with task := none } := by
    rw [Hub.start, StdMap.find_map_values, found]
    rfl
  rw [Setup.hub, connection_transcations, trans_ids_start, started, Option.map_some,
    if_pos member]
  rfl

omit [EventLooper Looper TimerSink] in
theorem hub_ready (setup : Setup) (looper : Looper) :
    Ready setup looper setup.lastId (setup.hub looper) := by
  have wired : Wired (setup.hub looper) :=
    connection_wired (start_wired setup.transcations looper) setup.peerIp setup.memory
  have created : (setup.hub looper).created = 1 := (connection_rest _ _ _).1
  refine ⟨same_wiring_refl _, unset_represents setup.nonempty ?_ (connection_idle _ _ _) ?_⟩
  · rw [wired.flags client (by rw [created]; decide)]
    exact hub_subscribed setup looper
  · intro transId member
    have unset := connection_flags (Hub.start setup.transcations looper) setup.peerIp setup.memory
      transId
    rw [trans_ids_start, if_pos (show transId ∈ setup.ids from member)] at unset
    exact unset

section Served

variable {setup : Setup} {looper : Looper} {hub : Hub Looper}

omit [EventLooper Looper TimerSink] in
theorem client_subscribed (wiring : SameWiring (setup.hub looper) hub) :
    subscribedIds hub client = setup.ids := by
  rw [← hub_subscribed setup looper, subscribedIds, subscribedIds, wiring.sessions]

omit [EventLooper Looper TimerSink] in
theorem client_live (wiring : SameWiring (setup.hub looper) hub) : hub.live client := by
  obtain ⟨created, deleted, -⟩ := connection_rest (Hub.start setup.transcations looper)
    setup.peerIp setup.memory
  rw [Hub.live, wiring.created, wiring.deleted, Setup.hub, created, deleted]
  exact ⟨Nat.zero_lt_one, List.not_mem_nil⟩

omit [EventLooper Looper TimerSink] in
theorem client_serves (wiring : SameWiring (setup.hub looper) hub) {transId : Nat}
    (member : transId ∈ setup.ids) : Serves hub client transId := by
  obtain ⟨transcation, -, found⟩ := hub_transcation setup looper member
  exact ⟨_, by rw [wiring.transcations]; exact found, rfl⟩

omit [EventLooper Looper TimerSink] in
theorem client_verdict (wiring : SameWiring (setup.hub looper) hub) (request : Request)
    {transId : Nat} (member : transId ∈ setup.ids) :
    verdictAt hub request transId = setup.verdict request transId := by
  obtain ⟨transcation, configured, found⟩ := hub_transcation setup looper member
  rw [verdictAt, wiring.transcations, found, Setup.verdict, configured]
  rfl

/-- A transcation of the client returns from a request unless it takes the
request and the parameter does not convert. -/
theorem down_stream_returns (wiring : SameWiring (setup.hub looper) hub) {transId : Nat}
    (member : transId ∈ setup.ids) (exchange : Exchange) :
    (onDownStream hub transId (.json exchange.value)).isSome = true ↔
      (setup.verdict exchange.request transId ≠ .declines →
        (equipNo exchange.request.param).isSome = true) := by
  obtain ⟨transcation, configured, found⟩ := hub_transcation setup looper member
  obtain ⟨transcation', configured', admitted⟩ := mem_ids.mp member
  obtain rfl := Option.some.inj (configured.symm.trans configured')
  have known := setup.known transId transcation configured admitted exchange.request.cmd
  have handled : onDownStream hub transId (.json exchange.value) =
      (downInfo transId { transcation with task := some client } client (.json exchange.value)
        (hub.context client)).map fun result =>
          (hub.store client result.1, .downStream transId :: result.2) := by
    rw [onDownStream, wiring.transcations, found]
    simp only [Option.bind_some, if_pos (client_live wiring)]
  have decision : setup.verdict exchange.request transId ≠ .declines ↔
      exchange.request.cmd ∈ transcation.commandNames := by
    rw [Setup.verdict, configured]
    simp [verdict_declines]
  rw [handled, Option.isSome_map, decision, downInfo]
  simp only [decodeFrame, Option.bind_some, exchange.reads, dispatch]
  by_cases listed : exchange.request.cmd ∈ transcation.commandNames
  · rw [if_neg (by simpa [checkCommandName] using listed), Option.isSome_map,
      process_cmd_returns (show exchange.request.cmd ∈
        implemented ({ transcation with task := some client } : Transcation).kind from known listed)]
    simp [listed]
  · rw [if_pos (by simpa [checkCommandName] using listed)]
    simp [listed]

theorem loop_returns {rest : List Nat} (exchange : Exchange)
    (wiring : SameWiring (setup.hub looper) hub) (members : ∀ transId ∈ rest, transId ∈ setup.ids) :
    (downStreamAll (.json exchange.value) hub rest).isSome = true ↔
      ∀ transId ∈ rest, setup.verdict exchange.request transId ≠ .declines →
        (equipNo exchange.request.param).isSome = true := by
  induction rest generalizing hub with
  | nil => simp [downStreamAll]
  | cons transId rest ih =>
      obtain ⟨member, membersRest⟩ := List.forall_mem_cons.mp members
      rw [downStreamAll, List.forall_mem_cons, ← down_stream_returns wiring member exchange]
      cases moved : onDownStream hub transId (.json exchange.value) with
      | none => simp
      | some first =>
          have later := ih (wiring.trans (down_stream_same_wiring (moved.trans rfl))) membersRest
          rw [Option.bind_some, Option.isSome_map, later]
          simp

theorem request_step {last : Nat} (ready : Ready setup looper last hub) (exchange : Exchange) :
    step hub (.onFrame client (.json exchange.value)) =
      downStreamAll (.json exchange.value) hub setup.ids := by
  have idle : (hub.tasks client).status = .idle := by
    rw [ready.flags.idle]
    intro holder same
    cases same
  rw [step, if_pos (client_live ready.wiring), onFrame, if_neg (not_not.mpr idle),
    client_subscribed ready.wiring]

end Served

def codes (emitted : List Emission) : List Bool :=
  emitted.filterMap fun emission =>
    match emission with
    | .noTaker _ => some true
    | .reply _ => some false
    | .start _ => none

theorem received_codes {out : List Output} {json : Prop} (styled : json)
    (owned : ∀ output ∈ out, OwnOutput client json output) :
    (received out).map isErrorCommand = codes (out.filterMap emission) := by
  induction out with
  | nil => rfl
  | cons output rest ih =>
      obtain ⟨own, ownRest⟩ := List.forall_mem_cons.mp owned
      have later := ih ownRest
      cases output with
      | sendMessage session message source =>
          obtain ⟨rfl, code⟩ := own
          cases source with
          | nothingToDo transId =>
              have error := code styled
              simp only [received, codes, emission, List.filterMap_cons, if_true, List.map_cons,
                error] at later ⊢
              rw [later]
          | reply transId =>
              have result := code styled
              simp only [received, codes, emission, List.filterMap_cons, if_true, List.map_cons,
                result] at later ⊢
              rw [later]
          | busy => exact code.elim
          | timeout => exact code.elim
      | processCmd transId session => exact later
      | downStream transId => exact later
      | writeData transId equipmentNo data => exact later
      | recvCommand transId equipmentNo cmd => exact later
      | onTaskTimeout transId => exact later
      | pollBalance equipment => exact later
      | broadcast session => exact later

theorem answered_once_iff {setup : Setup} {exchange : Exchange} {out : List Output} :
    AnsweredOnce setup exchange out ↔
      (received out).map isErrorCommand = [(setup.taker exchange.request).isNone] := by
  rw [AnsweredOnce, ← taker_none]
  constructor
  · intro given
    rcases given with ⟨message, single, code⟩
    rw [single, List.map_singleton, List.singleton_inj, Bool.eq_iff_iff, code,
      Option.isNone_iff_eq_none]
  · intro same
    obtain ⟨message, single, code⟩ := List.map_eq_singleton_iff.mp same
    exact ⟨message, single, by rw [code, Option.isNone_iff_eq_none]⟩

/-! ### One request -/

section Requests

variable {setup : Setup} {looper : Looper} {last : Nat} {hub : Hub Looper}

theorem request_walks (ready : Ready setup looper last hub) (exchange : Exchange)
    (returns : setup.taker exchange.request = none ∨
      (equipNo exchange.request.param).isSome = true)
    {phase : Phase} {emitted : List Emission}
    (walked : walk (setup.verdict exchange.request) (.ahead last) setup.ids =
      some (phase, emitted)) :
    ∃ after out, step hub (.onFrame client (.json exchange.value)) = some (after, out) ∧
      Represents setup.ids [] phase (after.tasks client) ∧
      out.filterMap emission = emitted ∧
      (received out).map isErrorCommand = codes emitted ∧
      (after.tasks client).format = some .json ∧ SameWiring (setup.hub looper) after := by
  have complete : (downStreamAll (.json exchange.value) hub setup.ids).isSome = true := by
    rw [loop_returns exchange ready.wiring (fun _ member => member)]
    intro transId member takes
    rcases returns with nobody | converts
    · have declines := taker_none.mp nobody transId member
      obtain ⟨transcation, found, -⟩ := mem_ids.mp member
      rw [Setup.verdict, found] at takes
      exact absurd (verdict_declines.mpr (declines transcation found)) takes
    · exact converts
  obtain ⟨⟨after, out⟩, taken⟩ := Option.isSome_iff_exists.mp complete
  have read : frameRequest (.json exchange.value) = some (some exchange.request) := by
    simp [frameRequest, decodeFrame, exchange.reads]
  have same : ∀ transId ∈ setup.ids,
      verdictAt hub exchange.request transId = setup.verdict exchange.request transId :=
    fun transId member => client_verdict ready.wiring exchange.request member
  obtain ⟨⟨represents, emission_eq, owned, format⟩, kept⟩ :=
    down_stream_all_refines (fun transId member => client_serves ready.wiring member) read
      (fun _ empty => absurd empty (List.ne_nil_of_mem (last_id_mem setup))) ready.flags
      ((walk_congr same _).trans walked) taken
  have styled : FromJson (.json exchange.value) := ⟨exchange.value, rfl⟩
  refine ⟨after, out, (request_step ready exchange).trans taken, represents, emission_eq, ?_,
    format styled, ready.wiring.trans kept.wiring⟩
  rw [received_codes styled owned, emission_eq]

theorem device_replies (exchange : Exchange) {transId : Nat} {after : Hub Looper}
    (wiring : SameWiring (setup.hub looper) after) (member : transId ∈ setup.ids)
    (keys : (after.tasks client).transcationReptStatus.keys = setup.ids)
    (format : (after.tasks client).format = some .json) :
    ∃ final message, step after (.updateInfo transId (some exchange.report)) =
        some (final, [.sendMessage client message (.reply transId)]) ∧
      isErrorCommand message = false ∧ Ready setup looper setup.lastId final := by
  obtain ⟨transcation, found, tasked⟩ := client_serves wiring member
  obtain ⟨data, readable⟩ := Option.isSome_iff_exists.mp exchange.readable
  have message : update client
      (buildDataResponse exchange.report (after.tasks client).cmdName (after.tasks client).reqId)
      transId (after.context client) = _ := update_reply rfl client transId _
  have answered : step after (.updateInfo transId (some exchange.report)) =
      some (after.store client (finish (after.context client)),
        [.sendMessage client (buildDataResponse exchange.report (after.tasks client).cmdName
          (after.tasks client).reqId) (.reply transId)]) := by
    simp only [step, onUpdateInfo, found, tasked, Option.bind_some, if_pos (client_live wiring),
      updateInfo, readable, Option.map_some, Hub.context, format]
    simp only [Hub.context] at message
    rw [message]
  refine ⟨_, _, answered, by simp [isErrorCommand, buildDataResponse, errorCommand], ?_, ?_⟩
  · apply wiring.trans
    exact store_same_wiring after client _ (StdMap.keys_map_values _ _)
  · obtain ⟨cleared_keys, cleared⟩ := cleared_flags (finish_finished (after.context client))
    have allKeys : (finish (after.context client)).task.transcationReptStatus.keys = setup.ids :=
      cleared_keys.trans keys
    rw [store_task]
    apply unset_represents setup.nonempty allKeys rfl
    intro other visited
    exact cleared other (allKeys ▸ visited)

theorem serve_no_taker (ready : Ready setup looper last hub) (exchange : Exchange)
    (nobody : setup.taker exchange.request = none) :
    ∃ after out, serve hub exchange = some (after, out) ∧
      (received out).map isErrorCommand = [true] ∧ Ready setup looper last after := by
  have decline : ∀ transId ∈ setup.ids, setup.verdict exchange.request transId = .declines := by
    intro transId member
    obtain ⟨transcation, found, -⟩ := mem_ids.mp member
    rw [Setup.verdict, found]
    exact verdict_declines.mpr (taker_none.mp nobody transId member transcation found)
  have walked := walk_no_taker (setup.verdict exchange.request) last setup.ids
    ((ids_sorted setup).imp Nat.ne_of_lt) ready.flags.position decline
  obtain ⟨after, out, served, represents, emission_eq, received_eq, -, wiring⟩ :=
    request_walks ready exchange (Or.inl nobody) walked
  have none_dispatched : dispatched out = none := by
    rw [dispatched, emission_eq]
    rfl
  exact ⟨after, out, by simp only [serve, served, Option.bind_some, none_dispatched], received_eq,
    ⟨wiring, behind_represents represents⟩⟩

/-- A request with a taker is answered by it; a taker behind `last` makes the
client hear `ERROR_COMMAND` first. -/
theorem serve_taker (ready : Ready setup looper last hub) (exchange : Exchange) {transId : Nat}
    (taker : setup.taker exchange.request = some transId)
    (converts : (equipNo exchange.request.param).isSome = true) :
    ∃ after out, serve hub exchange = some (after, out) ∧
      (received out).map isErrorCommand = (if last < transId then [true] else []) ++ [false] ∧
      Ready setup looper
        (if setup.verdict exchange.request transId = .answers then transId else setup.lastId)
        after := by
  obtain ⟨member, takes, others⟩ := taker_some taker
  have walked := walk_one_taker (setup.verdict exchange.request) last transId setup.ids
    (ids_sorted setup) ready.flags.position member takes others
  obtain ⟨after, out, served, represents, emission_eq, received_eq, format, wiring⟩ :=
    request_walks ready exchange (Or.inr converts) walked
  have early : codes (if last < transId then [.noTaker last] else []) =
      if last < transId then [true] else [] := by
    split <;> rfl
  cases decided : setup.verdict exchange.request transId with
  | declines => exact absurd decided takes
  | answers =>
      rw [decided] at represents emission_eq received_eq
      have none_dispatched : dispatched out = none := by
        rw [dispatched, emission_eq]
        split <;> rfl
      refine ⟨after, out, by simp only [serve, served, Option.bind_some, none_dispatched], ?_, ?_⟩
      · rw [received_eq, ← early]
        simp [codes, taken]
      · rw [if_pos rfl]
        exact ⟨wiring, behind_represents represents⟩
  | holds =>
      rw [decided] at represents emission_eq received_eq
      have dispatched_eq : dispatched out = some transId := by
        rw [dispatched, emission_eq]
        split <;> rfl
      have keys := represents.keys
      rw [List.append_nil] at keys
      obtain ⟨final, message, answered, code, readyFinal⟩ :=
        device_replies exchange wiring member keys format
      refine ⟨final, out ++ [.sendMessage client message (.reply transId)], ?_, ?_, ?_⟩
      · simp only [serve, served, Option.bind_some, dispatched_eq, answered, Option.map_some]
      · have split : received (out ++ [.sendMessage client message (.reply transId)]) =
            received out ++ [message] := by
          simp [received, List.filterMap_append]
        rw [split, List.map_append, received_eq, ← early, List.map_singleton, code]
        simp [codes, taken]
      · rw [if_neg (by simp)]
        exact readyFinal

theorem serve_stuck (ready : Ready setup looper last hub) (exchange : Exchange) {transId : Nat}
    (taker : setup.taker exchange.request = some transId)
    (unconverted : ¬ (equipNo exchange.request.param).isSome = true) :
    serve hub exchange = none := by
  obtain ⟨member, takes, -⟩ := taker_some taker
  have stuck : ¬ (downStreamAll (.json exchange.value) hub setup.ids).isSome = true := by
    rw [loop_returns exchange ready.wiring (fun _ member => member)]
    intro returns
    exact unconverted (returns transId member takes)
  rw [serve, request_step ready exchange, Option.not_isSome_iff_eq_none.mp stuck, Option.bind_none]

end Requests

theorem one_reply_from {setup : Setup} {looper : Looper} (exchanges : List Exchange) {last : Nat}
    {hub : Hub Looper} (ready : Ready setup looper last hub) :
    OneReplyEach setup hub exchanges ↔ NoneBehind setup last exchanges := by
  induction exchanges generalizing last hub with
  | nil => exact Iff.rfl
  | cons exchange rest ih =>
      rw [OneReplyEach, NoneBehind]
      cases taker : setup.taker exchange.request with
      | none =>
          obtain ⟨after, out, served, received_eq, readyAfter⟩ :=
            serve_no_taker ready exchange taker
          have answered : AnsweredOnce setup exchange out := by
            rw [answered_once_iff, received_eq, taker]
            rfl
          simp only
          rw [← ih readyAfter]
          constructor
          · intro given
            rcases given with ⟨after', out', served', -, later⟩
            obtain ⟨rfl, rfl⟩ := Prod.mk.inj (Option.some.inj (served.symm.trans served'))
            exact later
          · exact fun later => ⟨after, out, served, answered, later⟩
      | some transId =>
          by_cases converts : (equipNo exchange.request.param).isSome = true
          · obtain ⟨after, out, served, received_eq, readyAfter⟩ :=
              serve_taker ready exchange taker converts
            have answered : AnsweredOnce setup exchange out ↔ transId ≤ last := by
              rw [answered_once_iff, received_eq, taker]
              by_cases behind : last < transId
              · simp [behind]
              · simp [behind, Nat.not_lt.mp behind]
            simp only
            rw [← ih readyAfter]
            constructor
            · intro given
              rcases given with ⟨after', out', served', once, later⟩
              obtain ⟨rfl, rfl⟩ := Prod.mk.inj (Option.some.inj (served.symm.trans served'))
              exact ⟨converts, answered.mp once, later⟩
            · intro given
              rcases given with ⟨-, order, later⟩
              exact ⟨after, out, served, answered.mpr order, later⟩
          · have stuck := serve_stuck ready exchange taker converts
            simp only
            constructor
            · intro given
              rcases given with ⟨after, out, served, -⟩
              rw [stuck] at served
              cases served
            · intro given
              rcases given with ⟨converted, -⟩
              exact absurd converted converts

/-- Every request is answered exactly once, with `ERROR_COMMAND` just when nobody
has its command, exactly when no request is taken by a transcation behind the one
that last answered at once, and every taken parameter converts. -/
theorem one_reply_iff_none_behind (setup : Setup) (looper : Looper) (exchanges : List Exchange) :
    OneReplyEach setup (setup.hub looper) exchanges ↔
      NoneBehind setup setup.lastId exchanges :=
  one_reply_from exchanges (hub_ready setup looper)

/-! ### Two requests in a row -/

def balanceTranscation : Transcation where
  kind := .balance
  transName := "balance"
  task := none
  commandNames := ["BalanceQp"]
  ipWhiteList := ["10.0.0.1"]
  peripherals := [{ equipmentName := "balance", equipmentNo := 1, fd := 5 }]

def solderTranscation : Transcation where
  kind := .solder
  transName := "solder"
  task := none
  commandNames := ["GetSpitParam"]
  ipWhiteList := ["10.0.0.1"]
  peripherals := [{ equipmentName := "solder", equipmentNo := 1, fd := 6 }]

def balanceAndSolder : StdMap Nat Transcation :=
  (StdMap.empty.insert 1 balanceTranscation).insert 2 solderTranscation

theorem balance_and_solder_cases {transId : Nat} {transcation : Transcation}
    (found : balanceAndSolder.find? transId = some transcation) :
    (transId = 1 ∧ transcation = balanceTranscation) ∨
      (transId = 2 ∧ transcation = solderTranscation) := by
  rw [balanceAndSolder, StdMap.find_insert, StdMap.find_insert] at found
  split at found
  · rename_i second
    exact Or.inr ⟨second, (Option.some.inj found).symm⟩
  · split at found
    · rename_i first
      exact Or.inl ⟨first, (Option.some.inj found).symm⟩
    · cases found

def balanceThenSolder : Setup where
  transcations := balanceAndSolder
  peerIp := "10.0.0.1"
  memory := { format := none, reqId := 0 }
  nonempty := by decide
  known := by
    intro transId transcation found _
    rcases balance_and_solder_cases found with ⟨-, rfl⟩ | ⟨-, rfl⟩ <;> decide
  disjoint := by
    intro left right first second foundLeft _ foundRight _
    rcases balance_and_solder_cases foundLeft with ⟨rfl, rfl⟩ | ⟨rfl, rfl⟩ <;>
      rcases balance_and_solder_cases foundRight with ⟨rfl, rfl⟩ | ⟨rfl, rfl⟩ <;>
      simp [balanceTranscation, solderTranscation]

def ask (cmd : String) : Exchange where
  value := .object [("ReqId", .int 7), ("cmd", .string cmd), ("param", .array [.int 1])]
  request := { cmd := cmd, reqId := 7, param := .array [.int 1] }
  reads := rfl
  report := .object [("X", .string "1.0")]
  readable := rfl

/-- `BalanceQp` is answered at once and leaves the flag of the second transcation
set; the next command, which is that transcation's own, gets two replies. -/
theorem command_behind_answered_twice :
    ¬ OneReplyEach balanceThenSolder (balanceThenSolder.hub EventLooperImp.empty)
      [ask "BalanceQp", ask "GetSpitParam"] := by
  intro given
  rcases given with ⟨between, early, served, -, after, out, servedNext, once, -⟩
  have replies : ((serve (balanceThenSolder.hub EventLooperImp.empty) (ask "BalanceQp")).bind
      fun first => (serve first.1 (ask "GetSpitParam")).map
        fun second => (received second.2).map isErrorCommand) = some [true, false] := rfl
  rw [served, Option.bind_some, servedNext, Option.map_some, answered_once_iff.mp once] at replies
  cases replies

end DevHub.OneReply
