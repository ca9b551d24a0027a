import DevHub.Equipment.ElecBalance
import DevHub.Library.Run
import DevHub.Plc.Event
import Mathlib.Logic.Function.Basic

/-!
`PlcFins` objects on a shared `Plc`. The PLC has a command word for each of them; a
FINS call reaches it only with a session, and then succeeds or not as the event says.
`emitted` lists what the last callback called, with the value of `m_sys` at each call.
-/

namespace DevHub.PlcFins

open PlcEvent (ConnectionStatus bLEndianUshort)
open Transition

set_option autoImplicit false

inductive PlcStatus where
  | busy
  | idel
  deriving DecidableEq

def ebalanceQp : UInt16 := 1
def ebalanceCz : UInt16 := 3
def errorTimeout : UInt16 := 4
def errorResult : UInt16 := 6

/-- `sys` is `m_sys`, a null pointer is `none`. -/
structure Plc where
  connectionStatus : ConnectionStatus
  sys : Option Nat

inductive FinsCall where
  | readWord
  | writeWord (value : UInt16)
  | writeInt32 (value : String)
  | disconnect
  deriving DecidableEq

/-- The calls of `PlcFins` objects: into finslib, and `WriteData` of a peripheral. -/
inductive Output (ι : Type) where
  | fins (client : ι) (sys : Option Nat) (call : FinsCall)
  | writeData (client : ι) (data : String)

/-- `status` is `m_status`, `word` what the PLC holds at `m_cmdAddr`. -/
structure State (ι : Type) where
  plc : Plc
  status : ι → PlcStatus
  word : ι → UInt16
  emitted : List (Output ι)

def State.start {ι : Type} (word : ι → UInt16) : State ι where
  plc := { connectionStatus := .connectNo, sys := none }
  status := fun _ => .idel
  word := word
  emitted := []

/-- What `UpdateInfo` finds in its argument: an error text, a text that is no document, or
the members `symbol` and `value`. -/
inductive Info where
  | error
  | unreadable
  | value (symbol value : String)

/-- The callbacks, with the outcomes of the FINS calls that they make, and the writes of
the PLC itself. `timeUse` is the time since `m_startTime`. -/
inductive Event (ι : Type) where
  | detect (client : ι) (timeUse : Int) (read write : Bool)
  | valuePolling (client : ι)
  | reconnect (client : ι) (sys : Option Nat) (errorVal : Int)
  | updateInfo (client : ι) (info : Info) (data command : Bool)
  | plcWrites (client : ι) (word : UInt16)

variable {ι : Type} [DecidableEq ι]

def emit (state : State ι) (output : Output ι) : State ι :=
  { state with emitted := state.emitted ++ [output] }

def setStatus (state : State ι) (client : ι) (status : PlcStatus) : State ι :=
  { state with status := Function.update state.status client status }

omit [DecidableEq ι] in
def call (state : State ι) (client : ι) (finsCall : FinsCall) : State ι :=
  emit state (.fins client state.plc.sys finsCall)

/-- Without a session finslib answers an error. -/
def reaches (state : State ι) (outcome : Bool) : Bool := state.plc.sys.isSome && outcome

/-- `finslib_memory_area_write_word` of a `short` in the byte order of the host. -/
def writeCommand (state : State ι) (client : ι) (value : UInt16) (outcome : Bool) : State ι :=
  let called := call state client (.writeWord value)
  if reaches state outcome then
    { called with word := Function.update called.word client (bLEndianUshort value true) }
  else called

omit [DecidableEq ι] in
def onDisconnect (state : State ι) (client : ι) : State ι :=
  { call state client .disconnect with plc := { connectionStatus := .connectNo, sys := none } }

/-- `trim`: blanks at both ends. -/
def trim (s : String) : String :=
  String.ofList (((s.toList.dropWhile fun c => c = ' ').reverse.dropWhile fun c => c = ' ').reverse)

def valueText (symbol value : String) : String :=
  if symbol = "+" then value else "-" ++ trim value

/-- `UpdateInfo`. The result of a write of the command word is not looked at. -/
def updateInfo (state : State ι) (client : ι) (info : Info) (data command : Bool) : State ι :=
  match info with
  | .error => setStatus (writeCommand state client errorResult command) client .idel
  | .unreadable => state
  | .value symbol value =>
      let called := call state client (.writeInt32 (valueText symbol value))
      if reaches state data = false then onDisconnect called client
      else setStatus (writeCommand called client 0 command) client .idel

def detectIdle (state : State ι) (client : ι) (read write : Bool) : State ι :=
  if state.plc.sys = none then state
  else
    let called := call state client .readWord
    if reaches state read = false then onDisconnect called client
    else if state.word client = ebalanceQp then
      writeCommand (emit called (.writeData client "%ET")) client 0 write
    else if state.word client = ebalanceCz then
      setStatus (emit called (.writeData client "%ER")) client .busy
    else called

def detectBusy (state : State ι) (client : ι) (timeUse : Int) (write : Bool) : State ι :=
  if timeUse > 15000 then
    let called := writeCommand state client errorTimeout write
    if reaches state write = false then onDisconnect called client
    else setStatus called client .idel
  else state

def plcConnect (state : State ι) (sys : Option Nat) (errorVal : Int) : Bool × State ι :=
  if state.plc.connectionStatus = .connectOk then (true, state)
  else if sys = none ∨ errorVal ≠ 0 then
    (false, { state with plc := { state.plc with sys := none } })
  else (true, { state with plc := { connectionStatus := .connectOk, sys := sys } })

/-- `PlcFins::Connect`, when `m_sys` is null. -/
def onReconnect (state : State ι) (client : ι) (sys : Option Nat) (errorVal : Int) : State ι :=
  if state.plc.sys = none then
    let connected := plcConnect state sys errorVal
    if connected.1 then setStatus connected.2 client .idel else connected.2
  else state

omit [DecidableEq ι] in
def onValuePolling (state : State ι) (client : ι) : State ι :=
  match state.status client with
  | .busy => emit state (.writeData client "%ER")
  | .idel => state

def step : Step (State ι) (Event ι)
  | state, event =>
      let quiet := { state with emitted := [] }
      match event with
      | .detect client timeUse read write =>
          match state.status client with
          | .idel => some (detectIdle quiet client read write)
          | .busy => some (detectBusy quiet client timeUse write)
      | .valuePolling client => some (onValuePolling quiet client)
      | .reconnect client sys errorVal => some (onReconnect quiet client sys errorVal)
      | .updateInfo client info data command => some (updateInfo quiet client info data command)
      | .plcWrites client word =>
          some { quiet with word := Function.update quiet.word client word }

/-- What a balance passes to its `PlcFins`. The text of a reading is a document. -/
def balanceInfo : ElecBalance.Update → Info
  | .errorFrame => .error
  | .errorData => .error
  | .reading symbol value _ _ => .value symbol value

/-! ### What a call changes -/

@[simp] theorem write_command_plc (state : State ι) (client : ι) (value : UInt16) (outcome : Bool) :
    (writeCommand state client value outcome).plc = state.plc := by
  unfold writeCommand
  split <;> rfl

@[simp] theorem write_command_status (state : State ι) (client : ι) (value : UInt16)
    (outcome : Bool) : (writeCommand state client value outcome).status = state.status := by
  unfold writeCommand
  split <;> rfl

@[simp] theorem write_command_emitted (state : State ι) (client : ι) (value : UInt16)
    (outcome : Bool) :
    (writeCommand state client value outcome).emitted =
      state.emitted ++ [.fins client state.plc.sys (.writeWord value)] := by
  unfold writeCommand
  split <;> rfl

theorem write_command_word (state : State ι) (client : ι) (value : UInt16) (outcome : Bool) :
    (writeCommand state client value outcome).word =
      if reaches state outcome then
        Function.update state.word client (bLEndianUshort value true)
      else state.word := by
  unfold writeCommand
  split <;> rfl

omit [DecidableEq ι] in
theorem plc_connect_state (state : State ι) (sys : Option Nat) (errorVal : Int) :
    ∃ plc, (plcConnect state sys errorVal).2 = { state with plc := plc } := by
  unfold plcConnect
  split
  · exact ⟨state.plc, rfl⟩
  · split
    · exact ⟨_, rfl⟩
    · exact ⟨_, rfl⟩

end DevHub.PlcFins
