import DevHub.Transcation.Task

/-!
`Transcation`: how a frame becomes a request, what `ProcessCmd` does with it and
how a device report becomes a reply. The answer `none` is an exception that
leaves the function, or a null `m_task`. Everything a transcation changes is in the
`TaskContext` of its task.
-/

namespace DevHub.Transcations

open Looper TaskUse

set_option autoImplicit false

structure Peripheral where
  equipmentName : String
  equipmentNo : Int
  fd : Int

/-- The classes that `TranscationManager::Update` builds. -/
inductive Kind where
  | balance
  | solder
  | glueDispenser
  deriving DecidableEq

/-- `task` is `m_task`, as the session that owns the task. -/
structure Transcation where
  kind : Kind
  transName : String
  task : Option SessionId
  commandNames : List String
  ipWhiteList : List String
  peripherals : List Peripheral

/-- A frame as the strict `Json::Reader` takes it: `json` when it parses. -/
inductive Frame where
  | json (value : Json)
  | text (info : String)

/-- What the decoding half of `DownInfo` finds: the fields for
`SetAuxiliaryParam`, the format it sets and `value`; `value` is `none` after an
early return, which comes before `SetCommFormat`. -/
structure Decoded where
  auxiliary : Option (String × String × String)
  format : CommunicationFormat
  value : Option Json

def isSpace (c : Char) : Bool := c = ' ' || ('\t' ≤ c && c ≤ '\r')

/-- `std::stoi`; both of its exceptions are `none`. -/
def stoi (s : String) : Option Int :=
  let (negative, rest) :=
    match s.toList.dropWhile isSpace with
    | '-' :: rest => (true, rest)
    | '+' :: rest => (false, rest)
    | rest => (false, rest)
  let digits := rest.takeWhile Char.isDigit
  let magnitude : Int := digits.foldl (fun acc c => acc * 10 + (c.toNat - '0'.toNat : Nat)) 0
  let value := if negative then -magnitude else magnitude
  if digits = [] then none
  else if Json.minInt ≤ value ∧ value ≤ Json.maxInt then some value
  else none

/-- `split` with `skip_empty` left at its default. -/
def split (str : String) (delim : Char) : List String :=
  ((str.toList.splitOn delim).filter fun item => !item.isEmpty).map String.ofList

def commandMembers (cmd : String) (equpNum : Int) : Option (List (String × Json)) :=
  if cmd = "BalanceQp" ∨ cmd = "BalanceCl" then
    some [("cmd", .string cmd), ("param", .array [.int equpNum])]
  else if cmd = "GetSpitParam" then
    some [("cmd", .string cmd), ("equipNum", .int equpNum)]
  else none

/-- The loop over the comma-separated items; its index runs through the cases once.
A `root` without members is null, and its text does not parse to a value either. -/
def decodeItems : List String → Option Decoded
  | machineId :: stationId :: slotId :: rest =>
      let decoded : Decoded :=
        { auxiliary := some (machineId, stationId, slotId), format := .common, value := none }
      match rest with
      | [] => some { decoded with value := some .null }
      | cmd :: rest =>
          (stoi slotId).bind fun equpNum =>
            if equpNum < 0 ∨ equpNum > 6 then some decoded
            else
              match commandMembers cmd equpNum with
              | none => some decoded
              | some members =>
                  match rest with
                  | [] => some { decoded with value := some (.object members) }
                  | item :: _ =>
                      (stoi item).bind fun reqId =>
                        if reqId < 0 then some decoded
                        else
                          some { decoded with
                            value := some (.object (("ReqId", .int reqId) :: members)) }
  | _ => some { auxiliary := none, format := .common, value := some .null }

def decodeFrame : Frame → Option Decoded
  | .json value => some { auxiliary := none, format := .json, value := some value }
  | .text info => decodeItems (split info ',')

def Decoded.store (decoded : Decoded) (task : Task) : Task :=
  let task :=
    match decoded.auxiliary with
    | some (machineId, stationId, slotId) =>
        { task with machineId := machineId, stationId := stationId, slotId := slotId }
    | none => task
  if decoded.value.isSome then { task with format := some decoded.format } else task

/-- A value that passed the checks of `DownInfo`, with the members `ProcessCmd` reads. -/
structure Request where
  cmd : String
  reqId : Int
  param : Json

/-- The checks on `cmd` and `ReqId`: `some none` is a failed check. -/
def readRequest (value : Json) : Option (Option Request) :=
  (value.member "cmd").bind fun cmd =>
    match cmd with
    | .string cmd =>
        (value.member "ReqId").bind fun reqId =>
          if reqId.isInt then
            (value.member "param").bind fun param =>
              reqId.asInt.map fun reqId => some { cmd := cmd, reqId := reqId, param := param }
          else some none
    | _ => some none

/-- The request in a frame, for any task: `some none` when `DownInfo` returns early. -/
def frameRequest (frame : Frame) : Option (Option Request) :=
  (decodeFrame frame).bind fun decoded =>
    match decoded.value with
    | none => some none
    | some value => readRequest value

def checkIp (trans : Transcation) (ip : String) : Bool := trans.ipWhiteList.contains ip

def checkCommandName (trans : Transcation) (command : String) : Bool :=
  trans.commandNames.contains command

def selectPeripherals (trans : Transcation) (equipNo : Int) : Option Peripheral :=
  trans.peripherals.find? fun p => p.equipmentName = trans.transName && p.equipmentNo = equipNo

/-- The parameter check that opens every command: `some none` is `ERROR_FORMAT`. -/
def equipNo (param : Json) : Option (Option Int) :=
  match param with
  | .null | .array _ => ((param.element 0).bind Json.asInt).map some
  | _ => some none

variable {Looper : Type} [EventLooper Looper TimerSink]

def answer (transId : Nat) (session : SessionId) (errorNo : Int) (cmd : String) (reqId : Int)
    (ctx : TaskContext Looper) : TaskContext Looper × List Output :=
  update session (response ctx.task errorNo cmd reqId) transId ctx

def setReqId (ctx : TaskContext Looper) (cmd : String) (reqId : Int) : TaskContext Looper :=
  { ctx with task := { ctx.task with reqId := reqId, cmdName := cmd } }

def setStatus (ctx : TaskContext Looper) (status : TaskStatus) : TaskContext Looper :=
  { ctx with task := { ctx.task with status := status } }

/-- `GetSpitParam` of `TranscationSolderCtrl` and `TranscationGlueDispenser`. -/
def getSpitParam (transId : Nat) (trans : Transcation) (session : SessionId) (request : Request)
    (ctx : TaskContext Looper) : Option (TaskContext Looper × List Output) :=
  (equipNo request.param).map fun found =>
    match found with
    | none => answer transId session errorFormat "GetSpitParam" request.reqId ctx
    | some equipNo =>
        let ctx := setReqId ctx "GetSpitParam" request.reqId
        match selectPeripherals trans equipNo with
        | none => answer transId session errorParam "GetSpitParam" request.reqId ctx
        | some _ => (setStatus ctx .run, [.recvCommand transId equipNo request.cmd])

def balanceQp (transId : Nat) (trans : Transcation) (session : SessionId) (request : Request)
    (ctx : TaskContext Looper) : Option (TaskContext Looper × List Output) :=
  (equipNo request.param).map fun found =>
    match found with
    | none => answer transId session errorFormat "BalanceQp" request.reqId ctx
    | some equipNo =>
        match selectPeripherals trans equipNo with
        | none => answer transId session errorParam "BalanceQp" request.reqId ctx
        | some p =>
            if p.fd > 0 then
              let (ctx, sent) := answer transId session 0 "BalanceQp" request.reqId ctx
              (ctx, .writeData transId equipNo "%ET" :: sent)
            else answer transId session errorDevopen "BalanceQp" request.reqId ctx

/-- The error replies of this command carry the name of the other one. -/
def balanceCl (transId : Nat) (trans : Transcation) (session : SessionId) (request : Request)
    (ctx : TaskContext Looper) : Option (TaskContext Looper × List Output) :=
  (equipNo request.param).map fun found =>
    match found with
    | none => answer transId session errorFormat "BalanceQp" request.reqId ctx
    | some equipNo =>
        let ctx := setReqId ctx "BalanceCl" request.reqId
        match selectPeripherals trans equipNo with
        | none => answer transId session errorParam "BalanceQp" request.reqId ctx
        | some p =>
            if p.fd > 0 then (setStatus ctx .run, [.writeData transId equipNo "%ER"])
            else answer transId session errorDevopen "BalanceQp" request.reqId ctx

def processCmd (transId : Nat) (trans : Transcation) (session : SessionId) (request : Request)
    (ctx : TaskContext Looper) : Option (TaskContext Looper × List Output) :=
  match trans.kind with
  | .balance =>
      if request.cmd = "BalanceQp" then balanceQp transId trans session request ctx
      else if request.cmd = "BalanceCl" then balanceCl transId trans session request ctx
      else some (ctx, [])
  | .solder | .glueDispenser =>
      if request.cmd = "GetSpitParam" then getSpitParam transId trans session request ctx
      else some (ctx, [])

def implemented : Kind → List String
  | .balance => ["BalanceQp", "BalanceCl"]
  | .solder => ["GetSpitParam"]
  | .glueDispenser => ["GetSpitParam"]

/-- `DownInfo` from `CheckCommandName` on. -/
def dispatch (transId : Nat) (trans : Transcation) (session : SessionId) (request : Request)
    (ctx : TaskContext Looper) : Option (TaskContext Looper × List Output) :=
  if checkCommandName trans request.cmd = false then
    some (update session (.text "NothingToDo") transId ctx)
  else
    let val := if request.cmd = "BalanceCl" then 20 else 15
    let ctx := setStatus (startResponseTimer session val ctx) .accept
    (processCmd transId trans session request ctx).map fun result =>
      (result.1, .processCmd transId session :: result.2)

/-- `session` is the one whose task `m_task` points to. -/
def downInfo (transId : Nat) (trans : Transcation) (session : SessionId) (frame : Frame)
    (ctx : TaskContext Looper) : Option (TaskContext Looper × List Output) :=
  (decodeFrame frame).bind fun decoded =>
    let ctx := { ctx with task := decoded.store ctx.task }
    match decoded.value with
    | none => some (ctx, [])
    | some value =>
        (readRequest value).bind fun read =>
          match read with
          | none => some (ctx, [])
          | some request => dispatch transId trans session request ctx

/-- One member in `GetMemberFromJson`: objects, arrays and doubles add no text. -/
def memberText : Json → Option (List String)
  | .object _ => some []
  | .array _ => some []
  | .string value => some [value]
  | .real _ => some []
  | .uint value => (Json.uint value).asUInt.map fun number => [toString number]
  | value => value.asInt.map fun number => [toString number]

def getMemberFromJson : Json → Option (List String)
  | .null => some []
  | .object members => (members.mapM fun entry => memberText entry.2).map List.flatten
  | _ => none

def buildDataResponse (data : Json) (cmd : String) (reqId : Int) : Message :=
  .styled (.object
    [("ReqId", .int reqId), ("cmd", .string cmd), ("result", data), ("resultCode", .int 0)])

def buildCommDataResponse (data : List String) (task : Task) : Message :=
  .text (data.foldl (fun text item => text ++ "," ++ item)
    (task.machineId ++ "," ++ task.stationId ++ "," ++ task.slotId))

/-- `report` is the value that the buffer parses to. -/
def updateInfo (transId : Nat) (session : SessionId) (report : Option Json)
    (ctx : TaskContext Looper) : Option (TaskContext Looper × List Output) :=
  match report with
  | none => some (ctx, [])
  | some root =>
      (getMemberFromJson root).map fun data =>
        let res :=
          match ctx.task.format with
          | some .json => buildDataResponse root ctx.task.cmdName ctx.task.reqId
          | some .common => buildCommDataResponse data ctx.task
          | none => .text ""
        update session res transId ctx

def servedBy (trans : Transcation) (request : Request) (available : Peripheral → Bool) : Bool :=
  match equipNo request.param with
  | some (some number) => (selectPeripherals trans number).any available
  | _ => false

/-- Whether `ProcessCmd` replies itself, with the result or with an error. -/
def answersAtOnce (trans : Transcation) (request : Request) : Bool :=
  match trans.kind with
  | .balance =>
      request.cmd = "BalanceQp" ||
        (request.cmd = "BalanceCl" && !servedBy trans request fun p => p.fd > 0)
  | .solder | .glueDispenser =>
      request.cmd = "GetSpitParam" && !servedBy trans request fun _ => true

def ToDevice : Output → Prop
  | .writeData _ _ _ => True
  | .recvCommand _ _ _ => True
  | _ => False

/-- A reply that `ProcessCmd` sends: in the task's format and never `ERROR_COMMAND`. -/
def ResultMessage (task : Task) (message : Message) : Prop :=
  ∃ answering errorNo cmd reqId, answering.format = task.format ∧ errorNo ≠ errorCommand ∧
    message = response answering errorNo cmd reqId

structure Finished (before after : Task) : Prop where
  idle : after.status = .idle
  reset : after.transcationReptStatus = before.transcationReptStatus.mapValues fun _ _ => false
  format : after.format = before.format

/-- The two ways `ProcessCmd` ends: with its reply, or with the command at the device. -/
inductive Processed (transId : Nat) (session : SessionId) (atOnce : Bool) (before after : Task)
    (out : List Output) : Prop where
  | answered (writes : List Output) (message : Message)
      (decided : atOnce = true) (device : ∀ output ∈ writes, ToDevice output)
      (result : ResultMessage before message)
      (emitted : out = writes ++ [.sendMessage session message (.reply transId)])
      (finished : Finished before after)
  | pending
      (decided : atOnce = false) (device : ∀ output ∈ out, ToDevice output)
      (busy : after.status ≠ .idle)
      (flags : after.transcationReptStatus = before.transcationReptStatus)
      (format : after.format = before.format)

theorem finish_finished (ctx : TaskContext Looper) : Finished ctx.task (finish ctx).task :=
  ⟨rfl, rfl, rfl⟩

theorem answer_processed (transId : Nat) (session : SessionId) (errorNo : Int) (cmd : String)
    (reqId : Int) (before : Task) (ctx : TaskContext Looper) (writes : List Output)
    (device : ∀ output ∈ writes, ToDevice output) (code : errorNo ≠ errorCommand)
    (flags : ctx.task.transcationReptStatus = before.transcationReptStatus)
    (format : ctx.task.format = before.format) :
    Processed transId session true before (answer transId session errorNo cmd reqId ctx).1.task
      (writes ++ (answer transId session errorNo cmd reqId ctx).2) := by
  rw [answer, update_reply (response_reply _ _ _ _)]
  apply Processed.answered writes _ rfl device _ rfl _
  · exact ⟨ctx.task, errorNo, cmd, reqId, format, code, rfl⟩
  · exact ⟨rfl, flags ▸ rfl, format⟩

/-! ### What `ProcessCmd` does -/

/-- The outcomes of `ProcessCmd`: its own reply, made in `stored`; the command at a device;
nothing, for a command that it does not implement. -/
inductive Carried (transId : Nat) (trans : Transcation) (session : SessionId) (request : Request)
    (ctx after : TaskContext Looper) (out : List Output) : Prop where
  | answers (stored : TaskContext Looper) (writes : List Output) (errorNo : Int) (cmd : String)
      (decided : answersAtOnce trans request = true)
      (start : stored = ctx ∨ stored = setReqId ctx request.cmd request.reqId)
      (device : writes = [] ∨ ∃ number, writes = [.writeData transId number "%ET"])
      (code : errorNo ≠ errorCommand) (named : request.cmd ≠ "BalanceCl" → cmd = request.cmd)
      (task : after = (answer transId session errorNo cmd request.reqId stored).1)
      (emitted : out = writes ++ (answer transId session errorNo cmd request.reqId stored).2)
  | waits (command : Output)
      (decided : answersAtOnce trans request = false)
      (given : ∃ number, command = .recvCommand transId number request.cmd ∨
        command = .writeData transId number "%ER")
      (task : after = setStatus (setReqId ctx request.cmd request.reqId) .run)
      (emitted : out = [command])
  | nothing (decided : answersAtOnce trans request = false) (task : after = ctx)
      (emitted : out = [])

section Commands

variable {transId : Nat} {trans : Transcation} {session : SessionId} {request : Request}
variable {ctx after : TaskContext Looper} {out : List Output}

theorem answer_carried {stored : TaskContext Looper} {errorNo : Int} {cmd : String}
    (decided : answersAtOnce trans request = true)
    (start : stored = ctx ∨ stored = setReqId ctx request.cmd request.reqId)
    (code : errorNo ≠ errorCommand) (named : request.cmd ≠ "BalanceCl" → cmd = request.cmd)
    (result : answer transId session errorNo cmd request.reqId stored = (after, out)) :
    Carried transId trans session request ctx after out := by
  apply Carried.answers stored [] errorNo cmd decided start (Or.inl rfl) code named
  · rw [result]
  · rw [result]
    rfl

theorem get_spit_param_carried (known : request.cmd = "GetSpitParam")
    (decides : answersAtOnce trans request = !servedBy trans request fun _ => true)
    (taken : getSpitParam transId trans session request ctx = some (after, out)) :
    Carried transId trans session request ctx after out := by
  obtain ⟨found, parsed, result⟩ := Option.map_eq_some_iff.mp taken
  have named : request.cmd ≠ "BalanceCl" → "GetSpitParam" = request.cmd := fun _ => known.symm
  cases found with
  | none =>
      have decided : answersAtOnce trans request = true := by simp [decides, servedBy, parsed]
      exact answer_carried decided (Or.inl rfl) (by decide) named result
  | some number =>
      cases selected : selectPeripherals trans number with
      | none =>
          simp only [selected] at result
          have decided : answersAtOnce trans request = true := by
            simp [decides, servedBy, parsed, selected]
          exact answer_carried decided (Or.inr (by rw [known])) (by decide) named result
      | some p =>
          simp only [selected, Prod.mk.injEq] at result
          apply Carried.waits (.recvCommand transId number request.cmd)
          · simp [decides, servedBy, parsed, selected]
          · exact ⟨number, Or.inl rfl⟩
          · rw [known]
            exact result.1.symm
          · exact result.2.symm

theorem balance_qp_carried (known : request.cmd = "BalanceQp")
    (decided : answersAtOnce trans request = true)
    (taken : balanceQp transId trans session request ctx = some (after, out)) :
    Carried transId trans session request ctx after out := by
  obtain ⟨found, -, result⟩ := Option.map_eq_some_iff.mp taken
  have named : request.cmd ≠ "BalanceCl" → "BalanceQp" = request.cmd := fun _ => known.symm
  cases found with
  | none => exact answer_carried decided (Or.inl rfl) (by decide) named result
  | some number =>
      cases selected : selectPeripherals trans number with
      | none =>
          simp only [selected] at result
          exact answer_carried decided (Or.inl rfl) (by decide) named result
      | some p =>
          simp only [selected] at result
          split at result
          · obtain ⟨rfl, rfl⟩ := Prod.mk.inj result
            exact Carried.answers ctx [.writeData transId number "%ET"] 0 "BalanceQp" decided
              (Or.inl rfl) (Or.inr ⟨number, rfl⟩) (by decide) named rfl rfl
          · exact answer_carried decided (Or.inl rfl) (by decide) named result

theorem balance_cl_carried (known : request.cmd = "BalanceCl")
    (decides : answersAtOnce trans request = !servedBy trans request fun p => p.fd > 0)
    (taken : balanceCl transId trans session request ctx = some (after, out)) :
    Carried transId trans session request ctx after out := by
  obtain ⟨found, parsed, result⟩ := Option.map_eq_some_iff.mp taken
  have named : request.cmd ≠ "BalanceCl" → "BalanceQp" = request.cmd :=
    fun other => absurd known other
  have noted : setReqId ctx "BalanceCl" request.reqId = setReqId ctx request.cmd request.reqId := by
    rw [known]
  cases found with
  | none =>
      have decided : answersAtOnce trans request = true := by simp [decides, servedBy, parsed]
      exact answer_carried decided (Or.inl rfl) (by decide) named result
  | some number =>
      cases selected : selectPeripherals trans number with
      | none =>
          simp only [selected] at result
          have decided : answersAtOnce trans request = true := by
            simp [decides, servedBy, parsed, selected]
          exact answer_carried decided (Or.inr noted) (by decide) named result
      | some p =>
          simp only [selected] at result
          split at result
          · rename_i opened
            obtain ⟨rfl, rfl⟩ := Prod.mk.inj result
            apply Carried.waits (.writeData transId number "%ER")
            · simpa [decides, servedBy, parsed, selected] using opened
            · exact ⟨number, Or.inr rfl⟩
            · rw [noted]
            · rfl
          · rename_i unopened
            have decided : answersAtOnce trans request = true := by
              simpa [decides, servedBy, parsed, selected] using unopened
            exact answer_carried decided (Or.inr noted) (by decide) named result

theorem process_cmd_carried
    (taken : processCmd transId trans session request ctx = some (after, out)) :
    Carried transId trans session request ctx after out := by
  have untouched (decided : answersAtOnce trans request = false)
      (same : some (ctx, []) = some (after, out)) :
      Carried transId trans session request ctx after out := by
    obtain ⟨rfl, rfl⟩ := Prod.mk.inj (Option.some.inj same)
    exact Carried.nothing decided rfl rfl
  unfold processCmd at taken
  split at taken
  · rename_i kind
    split at taken
    · rename_i qp
      exact balance_qp_carried qp (by simp [answersAtOnce, kind, qp]) taken
    · split at taken
      · rename_i cl
        exact balance_cl_carried cl (by simp [answersAtOnce, kind, cl]) taken
      · rename_i qp cl
        exact untouched (by simp [answersAtOnce, kind, qp, cl]) taken
  all_goals
    rename_i kind
    split at taken
    · rename_i spit
      exact get_spit_param_carried spit (by simp [answersAtOnce, kind, spit]) taken
    · rename_i spit
      exact untouched (by simp [answersAtOnce, kind, spit]) taken

omit [EventLooper Looper TimerSink] in
theorem stored_kept {stored : TaskContext Looper}
    (start : stored = ctx ∨ stored = setReqId ctx request.cmd request.reqId) :
    stored.looper = ctx.looper ∧ stored.task.responseTimeout = ctx.task.responseTimeout ∧
      stored.task.transcationReptStatus = ctx.task.transcationReptStatus ∧
      stored.task.format = ctx.task.format := by
  rcases start with same | same
  · rw [same]
    exact ⟨rfl, rfl, rfl, rfl⟩
  · rw [same]
    exact ⟨rfl, rfl, rfl, rfl⟩

theorem process_cmd_processed (busy : ctx.task.status ≠ .idle)
    (taken : processCmd transId trans session request ctx = some (after, out)) :
    Processed transId session (answersAtOnce trans request) ctx.task after.task out := by
  cases process_cmd_carried taken with
  | answers stored writes errorNo cmd decided start device code named task emitted =>
      have written : ∀ output ∈ writes, ToDevice output := by
        rcases device with none | ⟨number, single⟩
        · simp [none]
        · simp [single, ToDevice]
      obtain ⟨-, -, flags, format⟩ := stored_kept start
      rw [decided, task, emitted]
      exact answer_processed transId session errorNo cmd request.reqId ctx.task stored writes
        written code flags format
  | waits command decided given task emitted =>
      rw [decided, task, emitted]
      apply Processed.pending rfl
      · obtain ⟨number, solder | balance⟩ := given
        · simp [solder, ToDevice]
        · simp [balance, ToDevice]
      · simp [setStatus]
      · rfl
      · rfl
  | nothing decided task emitted =>
      rw [decided, task, emitted]
      exact Processed.pending rfl (by simp) busy rfl rfl

end Commands

/-- An implemented command returns exactly when its parameter converts. -/
theorem process_cmd_returns {transId : Nat} {trans : Transcation} {session : SessionId}
    {request : Request} {ctx : TaskContext Looper}
    (known : request.cmd ∈ implemented trans.kind) :
    (processCmd transId trans session request ctx).isSome = (equipNo request.param).isSome := by
  unfold processCmd
  cases kind : trans.kind with
  | balance =>
      rw [kind] at known
      by_cases qp : request.cmd = "BalanceQp"
      · simp [qp, balanceQp]
      · have cl : request.cmd = "BalanceCl" := by simpa [implemented, qp] using known
        simp [cl, balanceCl]
  | solder =>
      rw [kind] at known
      have cmd : request.cmd = "GetSpitParam" := by simpa [implemented] using known
      simp [cmd, getSpitParam]
  | glueDispenser =>
      rw [kind] at known
      have cmd : request.cmd = "GetSpitParam" := by simpa [implemented] using known
      simp [cmd, getSpitParam]

inductive Handled (transId : Nat) (trans : Transcation) (session : SessionId) (frame : Frame)
    (before : TaskContext Looper) (after : TaskContext Looper) (out : List Output) : Prop where
  | ignored (request : frameRequest frame = some none)
      (silent : out = []) (status : after.task.status = before.task.status)
      (flags : after.task.transcationReptStatus = before.task.transcationReptStatus)
  | declined (stored : TaskContext Looper) (request : Request)
      (read : frameRequest frame = some (some request))
      (unknown : checkCommandName trans request.cmd = false)
      (status : stored.task.status = before.task.status)
      (flags : stored.task.transcationReptStatus = before.task.transcationReptStatus)
      (format : ∀ value, frame = .json value → stored.task.format = some .json)
      (result : (after, out) = update session (.text "NothingToDo") transId stored)
  | accepted (stored : Task) (request : Request) (result : List Output)
      (read : frameRequest frame = some (some request))
      (known : checkCommandName trans request.cmd = true)
      (flags : stored.transcationReptStatus = before.task.transcationReptStatus)
      (format : ∀ value, frame = .json value → stored.format = some .json)
      (emitted : out = .processCmd transId session :: result)
      (processed :
        Processed transId session (answersAtOnce trans request) stored after.task result)

theorem store_status (decoded : Decoded) (task : Task) :
    (decoded.store task).status = task.status := by
  unfold Decoded.store
  split <;> split <;> rfl

theorem store_flags (decoded : Decoded) (task : Task) :
    (decoded.store task).transcationReptStatus = task.transcationReptStatus := by
  unfold Decoded.store
  split <;> split <;> rfl

theorem store_timeout (decoded : Decoded) (task : Task) :
    (decoded.store task).responseTimeout = task.responseTimeout := by
  unfold Decoded.store
  split <;> split <;> rfl

/-! ### What `DownInfo` does -/

inductive Reads (transId : Nat) (trans : Transcation) (session : SessionId) (frame : Frame)
    (ctx : TaskContext Looper) : Prop where
  | throws (read : frameRequest frame = none) (left : downInfo transId trans session frame ctx = none)
  | dropped (decoded : Decoded) (decodes : decodeFrame frame = some decoded)
      (read : frameRequest frame = some none)
      (done : downInfo transId trans session frame ctx =
        some ({ ctx with task := decoded.store ctx.task }, []))
  | request (decoded : Decoded) (request : Request) (decodes : decodeFrame frame = some decoded)
      (read : frameRequest frame = some (some request))
      (format : (decoded.store ctx.task).format.isSome = true)
      (done : downInfo transId trans session frame ctx =
        dispatch transId trans session request { ctx with task := decoded.store ctx.task })

theorem down_info_reads (transId : Nat) (trans : Transcation) (session : SessionId) (frame : Frame)
    (ctx : TaskContext Looper) : Reads transId trans session frame ctx := by
  cases decodes : decodeFrame frame with
  | none => exact Reads.throws (by rw [frameRequest, decodes]; rfl) (by rw [downInfo, decodes]; rfl)
  | some decoded =>
      cases found : decoded.value with
      | none =>
          apply Reads.dropped decoded decodes
          · simp [frameRequest, decodes, found]
          · simp [downInfo, decodes, found]
      | some value =>
          have format : (decoded.store ctx.task).format.isSome = true := by
            simp [Decoded.store, found]
          cases read : readRequest value with
          | none =>
              apply Reads.throws
              · simp [frameRequest, decodes, found, read]
              · simp [downInfo, decodes, found, read]
          | some request =>
              cases request with
              | none =>
                  apply Reads.dropped decoded decodes
                  · simp [frameRequest, decodes, found, read]
                  · simp [downInfo, decodes, found, read]
              | some request =>
                  apply Reads.request decoded request decodes _ format
                  · simp [downInfo, decodes, found, read]
                  · simp [frameRequest, decodes, found, read]

/-- The outcomes of `DownInfo`: a frame without a request, a request that the transcation
does not list, or one that `ProcessCmd` gets after the timer was started. -/
inductive Informed (transId : Nat) (trans : Transcation) (session : SessionId) (frame : Frame)
    (ctx after : TaskContext Looper) (out : List Output) : Prop where
  | ignored (decoded : Decoded) (decodes : decodeFrame frame = some decoded)
      (request : frameRequest frame = some none)
      (task : after = { ctx with task := decoded.store ctx.task }) (silent : out = [])
  | declined (decoded : Decoded) (request : Request) (decodes : decodeFrame frame = some decoded)
      (read : frameRequest frame = some (some request))
      (unknown : checkCommandName trans request.cmd = false)
      (result : (after, out) = update session (.text "NothingToDo") transId
        { ctx with task := decoded.store ctx.task })
  | accepted (decoded : Decoded) (request : Request) (val : Int) (started : TaskContext Looper)
      (rest : List Output) (decodes : decodeFrame frame = some decoded)
      (read : frameRequest frame = some (some request))
      (known : checkCommandName trans request.cmd = true)
      (start : started =
        setStatus (startResponseTimer session val { ctx with task := decoded.store ctx.task }) .accept)
      (processed : processCmd transId trans session request started = some (after, rest))
      (emitted : out = .processCmd transId session :: rest)

theorem down_info_cases {transId : Nat} {trans : Transcation} {session : SessionId}
    {frame : Frame} {ctx after : TaskContext Looper} {out : List Output}
    (taken : downInfo transId trans session frame ctx = some (after, out)) :
    Informed transId trans session frame ctx after out := by
  cases down_info_reads transId trans session frame ctx with
  | throws read left =>
      rw [left] at taken
      cases taken
  | dropped decoded decodes read done =>
      rw [done] at taken
      obtain ⟨rfl, rfl⟩ := Prod.mk.inj (Option.some.inj taken)
      exact Informed.ignored decoded decodes read rfl rfl
  | request decoded request decodes read format done =>
      rw [done, dispatch] at taken
      split at taken
      · rename_i unknown
        exact Informed.declined decoded request decodes read unknown (Option.some.inj taken).symm
      · rename_i known
        obtain ⟨result, processed, same⟩ := Option.map_eq_some_iff.mp taken
        obtain ⟨rfl, rfl⟩ := Prod.mk.inj same
        exact Informed.accepted decoded request _ _ result.2 decodes read (by simpa using known) rfl
          processed rfl

theorem down_info_handled {transId : Nat} {trans : Transcation} {session : SessionId}
    {frame : Frame} {ctx after : TaskContext Looper} {out : List Output}
    (taken : downInfo transId trans session frame ctx = some (after, out)) :
    Handled transId trans session frame ctx after out := by
  have format (decoded : Decoded) (decodes : decodeFrame frame = some decoded) :
      ∀ value, frame = .json value → (decoded.store ctx.task).format = some .json := by
    intro value same
    subst same
    cases decodes
    rfl
  cases down_info_cases taken with
  | ignored decoded decodes request task silent =>
      rw [task]
      exact Handled.ignored request silent (store_status _ _) (store_flags _ _)
  | declined decoded request decodes read unknown result =>
      exact Handled.declined _ request read unknown (store_status _ _) (store_flags _ _)
        (format decoded decodes) result
  | accepted decoded request val started rest decodes read known start processed emitted =>
      have busy : started.task.status ≠ .idle := by
        rw [start]
        simp [setStatus]
      have accepted := process_cmd_processed busy processed
      rw [start] at accepted
      refine Handled.accepted _ request rest read known ?_ ?_ emitted accepted
      · exact store_flags decoded ctx.task
      · exact format decoded decodes

omit [EventLooper Looper TimerSink] in
theorem comm_data_reply (data : List String) (task : Task) :
    isReply (buildCommDataResponse data task) = true := by
  have kept (items : List String) (text : String) (comma : ',' ∈ text.toList) :
      ',' ∈ (items.foldl (fun text item => text ++ "," ++ item) text).toList := by
    induction items generalizing text with
    | nil => exact comma
    | cons item rest ih =>
        apply ih
        simp [String.toList_append, comma]
  apply comma_reply
  apply kept
  simp [String.toList_append]

/-- The reply that a device report becomes, by the format that the task has. -/
inductive DataMessage (task : Task) (root : Json) : Message → Prop where
  | json (format : task.format = some .json) :
      DataMessage task root (buildDataResponse root task.cmdName task.reqId)
  | common (data : List String) (format : task.format = some .common) :
      DataMessage task root (buildCommDataResponse data task)
  | unset (format : task.format = none) : DataMessage task root (.text "")

theorem update_info_cases {transId : Nat} {session : SessionId} {report : Option Json}
    {ctx after : TaskContext Looper} {out : List Output}
    (taken : updateInfo transId session report ctx = some (after, out)) :
    (report = none ∧ after = ctx ∧ out = []) ∨
      ∃ root message, report = some root ∧ after = finish ctx ∧
        out = [.sendMessage session message (.reply transId)] ∧
        DataMessage ctx.task root message := by
  cases report with
  | none =>
      obtain ⟨rfl, rfl⟩ := Prod.mk.inj (Option.some.inj taken)
      exact Or.inl ⟨rfl, rfl, rfl⟩
  | some root =>
      obtain ⟨data, -, result⟩ := Option.map_eq_some_iff.mp taken
      simp only at result
      right
      split at result
      · rename_i format
        rw [update_reply rfl] at result
        obtain ⟨rfl, rfl⟩ := Prod.mk.inj result
        exact ⟨root, _, rfl, rfl, rfl, DataMessage.json format⟩
      · rename_i format
        rw [update_reply (comm_data_reply _ _)] at result
        obtain ⟨rfl, rfl⟩ := Prod.mk.inj result
        exact ⟨root, _, rfl, rfl, rfl, DataMessage.common data format⟩
      · rename_i format
        rw [update_reply (by decide)] at result
        obtain ⟨rfl, rfl⟩ := Prod.mk.inj result
        exact ⟨root, _, rfl, rfl, rfl, DataMessage.unset format⟩

end DevHub.Transcations
