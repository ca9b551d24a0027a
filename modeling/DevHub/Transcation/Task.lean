import DevHub.Library.StdMap
import DevHub.Communication.Looper
import DevHub.Transcation.Json

/-!
`Task`: the state that a session shares with its transcations. A task is named
by the session that owns it. Its functions change the task and the event looper
and list what they emit, so that a caller sees nothing else change.
-/

namespace DevHub.TaskUse

open Looper

set_option autoImplicit false

abbrev SessionId := Nat

inductive TaskStatus where
  | idle
  | accept
  | run
  deriving DecidableEq

inductive CommunicationFormat where
  | json
  | common
  deriving DecidableEq

/-- A text that `toStyledString` made of a value, or any other string. -/
inductive Message where
  | styled (root : Json)
  | text (data : String)

/-- The `ITimerUserSink` objects of the hub: tasks, and balances by their object. -/
inductive TimerSink where
  | task (session : SessionId)
  | balance (equipment : Nat)
  deriving DecidableEq

/-- The test whether an element of the hub is still `pending` compares whole elements. -/
instance : LawfulBEq (TimerElement TimerSink) := instLawfulBEq

/-- Where a `SendMessage` call stands: in `CommServer::OnFrame`, in the
`NothingToDo` branch or the rest of `Task::Update`, in `Task::OnTimer`. -/
inductive Source where
  | busy
  | nothingToDo (transId : Nat)
  | reply (transId : Nat)
  | timeout
  deriving DecidableEq

/-- What a step emits. `downStream` and `processCmd` are the calls that reach
`Transcation::DownInfo` and `ProcessCmd`, the latter with the task it works on. -/
inductive Output where
  | sendMessage (session : SessionId) (message : Message) (source : Source)
  | downStream (transId : Nat)
  | processCmd (transId : Nat) (session : SessionId)
  | writeData (transId : Nat) (equipmentNo : Int) (data : String)
  | recvCommand (transId : Nat) (equipmentNo : Int) (cmd : String)
  | onTaskTimeout (transId : Nat)
  | pollBalance (equipment : Nat)
  | broadcast (session : SessionId)

def errorFormat : Int := 1
def errorParam : Int := 2
def errorCommand : Int := 3
def errorDevopen : Int := 4

/-- `format` is `none` while `m_format` holds no value of the enumeration. -/
structure Task where
  format : Option CommunicationFormat
  machineId : String
  stationId : String
  slotId : String
  status : TaskStatus
  transcationReptStatus : StdMap Nat Bool
  cmdName : String
  reqId : Int
  responseTimeout : Int

/-- The constructor leaves `m_format` and `m_reqId` as the memory was. -/
def Task.new (format : Option CommunicationFormat) (reqId : Int) : Task where
  format := format
  machineId := ""
  stationId := ""
  slotId := ""
  status := .idle
  transcationReptStatus := StdMap.empty
  cmdName := ""
  reqId := reqId
  responseTimeout := -1

def buildResponse (errorNo : Int) (cmd : String) (reqId : Int) : Message :=
  .styled (.object [("ReqId", .int reqId), ("cmd", .string cmd), ("resultCode", .int errorNo)])

def buildCommResponse (errorNo : Int) (task : Task) (cmd : String) (reqId : Int) : Message :=
  .text (task.machineId ++ "," ++ task.stationId ++ "," ++ task.slotId ++ "," ++ cmd ++ ","
    ++ toString errorNo ++ "," ++ toString reqId)

/-- The reply text of every error branch; neither format leaves it empty. -/
def response (task : Task) (errorNo : Int) (cmd : String) (reqId : Int) : Message :=
  match task.format with
  | some .json => buildResponse errorNo cmd reqId
  | some .common => buildCommResponse errorNo task cmd reqId
  | none => .text ""

structure TaskContext (Looper : Type) where
  task : Task
  looper : Looper

variable {Looper : Type} [EventLooper Looper TimerSink]

def startResponseTimer (session : SessionId) (val : Int) (ctx : TaskContext Looper) :
    TaskContext Looper :=
  let (tid, looper) :=
    EventLooper.scheduleTimer ctx.looper { sec := val, usec := 0 } .firePeriodically
      (TimerSink.task session)
  { task := { ctx.task with responseTimeout := tid }, looper := looper }

def stopResponseTimer (ctx : TaskContext Looper) : TaskContext Looper :=
  { ctx with looper := EventLooper.cancelTimer ctx.looper ctx.task.responseTimeout }

def addTranscation (task : Task) (tsId : Nat) : Task :=
  match task.transcationReptStatus.find? tsId with
  | some _ => task
  | none => { task with transcationReptStatus := task.transcationReptStatus.insert tsId false }

def setTransStatus (task : Task) (tsId : Nat) : Task :=
  match task.transcationReptStatus.find? tsId with
  | some _ => { task with transcationReptStatus := task.transcationReptStatus.insert tsId true }
  | none => task

def checkTransStatusAll (task : Task) : Bool :=
  task.transcationReptStatus.entries.all Prod.snd

def resetAllTransStatus (task : Task) : Task :=
  { task with transcationReptStatus := task.transcationReptStatus.mapValues fun _ _ => false }

/-- `StopResponseTimer`, `ResetAllTransStatus` and `task_idle`: the end of a command. -/
def finish (ctx : TaskContext Looper) : TaskContext Looper :=
  let ctx := stopResponseTimer ctx
  { ctx with task := { resetAllTransStatus ctx.task with status := .idle } }

def update (session : SessionId) (data : Message) (transId : Nat) (ctx : TaskContext Looper) :
    TaskContext Looper × List Output :=
  match data with
  | .text "NothingToDo" =>
      let task := setTransStatus ctx.task transId
      if checkTransStatusAll task then
        let res := response task errorCommand task.cmdName task.reqId
        (finish { ctx with task := task }, [.sendMessage session res (.nothingToDo transId)])
      else ({ ctx with task := task }, [])
  | data => (finish ctx, [.sendMessage session data (.reply transId)])

def timeoutMessage (task : Task) : Message :=
  .styled (.object [("ReqId", .int task.reqId), ("cmd", .string "Timeout")])

/-- `Task::OnTimer` with the global `m_balanceClTimer`, which it also cancels. -/
def onTimer (session : SessionId) (tid : Int) (ctx : TaskContext Looper) (balanceClTimer : Int) :
    TaskContext Looper × Int × List Output :=
  if tid = ctx.task.responseTimeout then
    let silenced := { ctx with looper := EventLooper.cancelTimer ctx.looper balanceClTimer }
    (finish silenced, -1,
      ctx.task.transcationReptStatus.keys.map Output.onTaskTimeout
        ++ [.sendMessage session (timeoutMessage ctx.task) .timeout])
  else (ctx, balanceClTimer, [])

def isReply : Message → Bool
  | .text data => data ≠ "NothingToDo"
  | .styled _ => true

theorem update_reply {data : Message} (reply : isReply data = true) (session : SessionId)
    (transId : Nat) (ctx : TaskContext Looper) :
    update session data transId ctx =
      (finish ctx, [.sendMessage session data (.reply transId)]) := by
  unfold update
  split
  · cases reply
  · rfl

/-- A comma-separated text is never the word `NothingToDo`. -/
theorem comma_reply {data : String} (comma : ',' ∈ data.toList) : isReply (.text data) = true := by
  apply decide_eq_true
  intro same
  subst same
  revert comma
  decide

theorem response_reply (task : Task) (errorNo : Int) (cmd : String) (reqId : Int) :
    isReply (response task errorNo cmd reqId) = true := by
  unfold response
  split
  · rfl
  · apply comma_reply
    simp [String.toList_append]
  · rfl

theorem on_timer_cases (session : SessionId) (tid : Int) (ctx : TaskContext Looper)
    (balanceClTimer : Int) :
    (tid ≠ ctx.task.responseTimeout ∧
        onTimer session tid ctx balanceClTimer = (ctx, balanceClTimer, [])) ∨
      ∃ silenced, silenced.task = ctx.task ∧
        silenced.looper = EventLooper.cancelTimer ctx.looper balanceClTimer ∧
        onTimer session tid ctx balanceClTimer =
          (finish silenced, -1, ctx.task.transcationReptStatus.keys.map Output.onTaskTimeout
            ++ [.sendMessage session (timeoutMessage ctx.task) .timeout]) := by
  by_cases fires : tid = ctx.task.responseTimeout
  · right
    refine ⟨{ ctx with looper := EventLooper.cancelTimer ctx.looper balanceClTimer }, rfl, rfl, ?_⟩
    rw [onTimer, if_pos fires]
  · left
    exact ⟨fires, by rw [onTimer, if_neg fires]⟩

end DevHub.TaskUse
