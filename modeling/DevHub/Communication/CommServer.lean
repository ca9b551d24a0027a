import DevHub.Library.Run
import DevHub.Transcation.Transcation

/-!
The hub: `CommServer` with its sessions, the transcations of `TranscationManager`
and the event looper. A session, its task and its connection are created
together and share one number. A step is one callback of the event loop; it
answers `none` when the callback cannot occur, or does not return because an
exception leaves it or it uses an object that was deleted.
-/

namespace DevHub.CommServer

open Looper TaskUse Transcations

set_option autoImplicit false

structure Hub (Looper : Type) where
  transcations : StdMap Nat Transcation
  transcationSessions : StdMap Nat (List SessionId)
  connections : List SessionId
  tasks : SessionId → Task
  created : Nat
  deleted : List SessionId
  looper : Looper
  balanceClTimer : Int

/-- The two uninitialised members of a new `Task`. -/
structure TaskMemory where
  format : Option CommunicationFormat
  reqId : Int

/-- The callbacks of the event loop. `balanceData` is the timer half of
`ElecBalance::OnData`; its other half is `updateInfo`. -/
inductive Event where
  | onConnection (peerIp : String) (memory : TaskMemory)
  | onFrame (session : SessionId) (frame : Frame)
  | updateInfo (transId : Nat) (report : Option Json)
  | onTimer (te : TimerElement TimerSink)
  | balanceData (equipment : Nat) (steady : Bool)
  | broadcast

variable {Looper : Type} [EventLooper Looper TimerSink]

def Hub.start (transcations : StdMap Nat Transcation) (looper : Looper) : Hub Looper where
  transcations := transcations.mapValues fun _ transcation => { transcation with task := none }
  transcationSessions := StdMap.empty
  connections := []
  tasks _ := Task.new none 0
  created := 0
  deleted := []
  looper := looper
  balanceClTimer := -1

def Hub.live (hub : Hub Looper) (session : SessionId) : Prop :=
  session < hub.created ∧ session ∉ hub.deleted

instance (hub : Hub Looper) (session : SessionId) : Decidable (hub.live session) :=
  inferInstanceAs (Decidable (_ ∧ _))

def Hub.context (hub : Hub Looper) (session : SessionId) : TaskContext Looper where
  task := hub.tasks session
  looper := hub.looper

def Hub.store (hub : Hub Looper) (session : SessionId) (ctx : TaskContext Looper) : Hub Looper :=
  { hub with
    tasks := fun other => if other = session then ctx.task else hub.tasks other
    looper := ctx.looper }

omit [EventLooper Looper TimerSink] in
@[simp] theorem store_task (hub : Hub Looper) (session : SessionId) (ctx : TaskContext Looper) :
    (hub.store session ctx).tasks session = ctx.task := if_pos rfl

omit [EventLooper Looper TimerSink] in
theorem store_other (hub : Hub Looper) (ctx : TaskContext Looper) {session other : SessionId}
    (different : other ≠ session) : (hub.store session ctx).tasks other = hub.tasks other :=
  if_neg different

omit [EventLooper Looper TimerSink] in
theorem store_context (hub : Hub Looper) (session : SessionId) :
    hub.store session (hub.context session) = hub := by
  have same : (hub.store session (hub.context session)).tasks = hub.tasks := by
    funext other
    by_cases here : other = session
    · rw [here, store_task]
      rfl
    · exact store_other hub _ here
  calc hub.store session (hub.context session)
      = { hub with tasks := (hub.store session (hub.context session)).tasks } := rfl
    _ = hub := by rw [same]

def Hub.modifyTask (hub : Hub Looper) (session : SessionId) (f : Task → Task) : Hub Looper :=
  { hub with
    tasks := fun other => if other = session then f (hub.tasks session) else hub.tasks other }

def getTransIds (hub : Hub Looper) (ip : String) : List Nat :=
  hub.transcations.keysWhere fun transcation => checkIp transcation ip

def subscibeTranscationId (hub : Hub Looper) (id : Nat) (session : SessionId) : Hub Looper :=
  match hub.transcationSessions.find? id with
  | none => { hub with transcationSessions := hub.transcationSessions.insert id [session] }
  | some list =>
      if session ∈ list then hub
      else { hub with transcationSessions := hub.transcationSessions.insert id (list ++ [session]) }

def setTransTask (hub : Hub Looper) (id : Nat) (session : SessionId) : Hub Looper :=
  match hub.transcations.find? id with
  | some transcation =>
      { hub with transcations := hub.transcations.insert id { transcation with task := some session } }
  | none => hub

def subscribeOne (session : SessionId) (hub : Hub Looper) (id : Nat) : Hub Looper :=
  let hub := subscibeTranscationId hub id session
  let hub := hub.modifyTask session fun task => addTranscation task id
  setTransTask hub id session

/-- The loop of `OnConnection` over the ids that admit the peer. -/
def subscribeAll (session : SessionId) (hub : Hub Looper) (ids : List Nat) : Hub Looper :=
  ids.foldl (subscribeOne session) hub

/-- `new Session`, `SetConnection` and `m_connections.push_back`. -/
def openSession (hub : Hub Looper) (memory : TaskMemory) : Hub Looper :=
  { hub with
    created := hub.created + 1
    connections := hub.connections ++ [hub.created]
    tasks := fun other =>
      if other = hub.created then Task.new memory.format memory.reqId else hub.tasks other }

def onConnection (hub : Hub Looper) (peerIp : String) (memory : TaskMemory) : Hub Looper :=
  subscribeAll hub.created (openSession hub memory) (getTransIds hub peerIp)

def subscribedIds (hub : Hub Looper) (session : SessionId) : List Nat :=
  hub.transcationSessions.keysWhere fun list => session ∈ list

def onDownStream (hub : Hub Looper) (transId : Nat) (frame : Frame) :
    Option (Hub Looper × List Output) :=
  match hub.transcations.find? transId with
  | none => some (hub, [.downStream transId])
  | some transcation =>
      transcation.task.bind fun session =>
        if hub.live session then
          (downInfo transId transcation session frame (hub.context session)).map fun result =>
            (hub.store session result.1, .downStream transId :: result.2)
        else none

def downStreamAll (frame : Frame) (hub : Hub Looper) : List Nat → Option (Hub Looper × List Output)
  | [] => some (hub, [])
  | transId :: rest =>
      (onDownStream hub transId frame).bind fun first =>
        (downStreamAll frame first.1 rest).map fun later => (later.1, first.2 ++ later.2)

def busyMessage : Message := .styled (.object [("cmd", .string "Busy")])

def onFrame (hub : Hub Looper) (session : SessionId) (frame : Frame) :
    Option (Hub Looper × List Output) :=
  if (hub.tasks session).status ≠ .idle then
    some (hub, [.sendMessage session busyMessage .busy])
  else downStreamAll frame hub (subscribedIds hub session)

/-- `Transcation::UpdateInfo`: the task is needed once the report parses. -/
def onUpdateInfo (hub : Hub Looper) (transId : Nat) (report : Option Json) :
    Option (Hub Looper × List Output) :=
  match hub.transcations.find? transId, report with
  | none, _ => none
  | some _, none => some (hub, [])
  | some transcation, some root =>
      transcation.task.bind fun session =>
        if hub.live session then
          (updateInfo transId session (some root) (hub.context session)).map fun result =>
            (hub.store session result.1, result.2)
        else none

/-- `OnTimeout` of a periodic timer: the registry stays as it is. -/
def onTimeout (hub : Hub Looper) (te : TimerElement TimerSink) :
    Option (Hub Looper × List Output) :=
  if te ∉ EventLooper.pending hub.looper then none
  else
    match te.sink with
    | .task session =>
        if hub.live session then
          let fired := onTimer session te.id (hub.context session) hub.balanceClTimer
          some ({ hub.store session fired.1 with balanceClTimer := fired.2.1 }, fired.2.2)
        else none
    | .balance equipment =>
        some (hub, if te.id = hub.balanceClTimer then [.pollBalance equipment] else [])

def onBalanceData (hub : Hub Looper) (equipment : Nat) (steady : Bool) : Hub Looper :=
  if steady then
    { hub with
      looper := EventLooper.cancelTimer hub.looper hub.balanceClTimer
      balanceClTimer := -1 }
  else if hub.balanceClTimer = -1 then
    let (tid, looper) :=
      EventLooper.scheduleTimer hub.looper { sec := 1, usec := 0 } .firePeriodically
        (TimerSink.balance equipment)
    { hub with looper := looper, balanceClTimer := tid }
  else hub

def step (hub : Hub Looper) : Event → Option (Hub Looper × List Output)
  | .onConnection peerIp memory => some (onConnection hub peerIp memory, [])
  | .onFrame session frame => if hub.live session then onFrame hub session frame else none
  | .updateInfo transId report => onUpdateInfo hub transId report
  | .onTimer te => onTimeout hub te
  | .balanceData equipment steady => some (onBalanceData hub equipment steady, [])
  | .broadcast =>
      if ∀ session ∈ hub.connections, hub.live session then
        some (hub, hub.connections.map Output.broadcast)
      else none

end DevHub.CommServer
