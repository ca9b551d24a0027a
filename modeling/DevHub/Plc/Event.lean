import DevHub.Library.Run
import DevHub.Transcation.Json

/-!
The PLC events of a machine: `ReadData`, the three `SniffingPlcEvent` handlers that
report to the upstream client, and `SendEapData`. The PLC is its event block, as
the words that a read puts into `rd_buf`; a read covers the frame of the handler.
Whether a read, a send or a write succeeds is part of the poll, and what the hub does
with an event is noted in `log`.
-/

namespace DevHub.PlcEvent

open Transition

set_option autoImplicit false

def bLEndianUshort (value : UInt16) (enable : Bool) : UInt16 :=
  if enable then ((value &&& 0x00FF) <<< 8) ||| ((value &&& 0xFF00) >>> 8) else value

def bLEndianIntSwap (value : UInt32) (enable : Bool) : UInt32 :=
  if enable then
    ((value &&& 0x000000FF) <<< 8) ||| ((value &&& 0x0000FF00) >>> 8)
      ||| ((value &&& 0x00FF0000) <<< 8) ||| ((value &&& 0xFF000000) >>> 8)
  else value

inductive PlcProtocol where
  | fins
  | rtu
  deriving DecidableEq

structure PlcAlarmInfo where
  name : String
  enable : Bool
  status : Bool
  level : String

structure MachineContex where
  protocol : PlcProtocol
  sectionName : String
  machineName : String
  wordSwap : Bool
  intSwap : Bool
  plcAlarmCodeList : Nat → Option PlcAlarmInfo

inductive EventAction where
  | alarmCode
  | machineStatus
  | machineYield
  deriving DecidableEq

def EventAction.name : EventAction → String
  | alarmCode => "AlarmCode"
  | machineStatus => "MachineStatus"
  | machineYield => "MachineYield"

structure Event where
  eventAction : EventAction
  eventName : String
  plcEventAddr : String
  eapEventAddr : String
  eapDataSize : Nat
  flag : String
  machineContex : MachineContex

abbrev Block := Nat → UInt16

/-- What a handler makes of a block: whether a report is due, the event that it
should carry, and the value that goes to `UpdateEvent`. -/
structure Report where
  due : Bool
  event : Json
  message : Option Json

/-- `sent` is the message that a connected client took. -/
structure Handled where
  id : UInt16
  report : Report
  sent : Option Json
  acked : Bool

inductive ConnectionStatus where
  | connectOk
  | connectNo
  deriving DecidableEq

structure Line where
  block : Block
  connectionStatus : ConnectionStatus
  sequenceID : UInt16
  log : List Handled

/-- A new handler: `m_sequenceID` is initialised with -1. -/
def Line.start (block : Block) : Line where
  block := block
  connectionStatus := .connectNo
  sequenceID := 0xFFFF
  log := []

structure Outcome where
  read : Bool
  upstream : Bool
  write : Bool

inductive Happening where
  | plcWrites (block : Block)
  | poll (outcome : Outcome)
  | reconnect (connected : Bool)

def currentId (ev : Event) (block : Block) : UInt16 :=
  bLEndianUshort (block 0) ev.machineContex.wordSwap

def readAddr (ev : Event) : String :=
  match ev.machineContex.protocol with
  | .fins => ev.flag ++ ev.plcEventAddr
  | .rtu => ev.plcEventAddr

/-- The address of `SendEapData`; the other branch names the block of the PLC. -/
def writeAddr (ev : Event) : String :=
  match ev.machineContex.protocol with
  | .fins => ev.flag ++ ev.eapEventAddr
  | .rtu => ev.plcEventAddr

/-- `on_disconnect`, which only the FINS proxy calls when a transfer fails. -/
def transferFailed (ev : Event) (line : Line) : Line :=
  match ev.machineContex.protocol with
  | .fins => { line with connectionStatus := .connectNo }
  | .rtu => line

/-- Whether the block was read, and the line after that. -/
def readData (ev : Event) (line : Line) (read : Bool) : Bool × Line :=
  if line.connectionStatus = .connectNo then (false, line)
  else if read then (true, line)
  else (false, transferFailed ev line)

/-- The words of the three `Fream_..._eap` structures: `RESULT_Pass` and a zero. -/
def ackFrame (id : UInt16) : List UInt16 := [id, 0x10, 0]

/-- A write to the address of the block replaces its first words. -/
def writeWords (ev : Event) (line : Line) (words : List UInt16) : Line :=
  if writeAddr ev = readAddr ev then
    { line with block := fun index => ((words.take ev.eapDataSize)[index]?).getD (line.block index) }
  else line

def sendEapData (ev : Event) (line : Line) (words : List UInt16) (write : Bool) : Bool × Line :=
  if line.connectionStatus = .connectNo then (false, line)
  else if write then (true, writeWords ev line words)
  else (false, transferFailed ev line)

def sectionList (ev : Event) (event : Json) : Json :=
  .object [("SectionList", .array [.object [
    ("MachineList", .array [.object [
      ("EventList", .array [event]), ("Name", .string ev.machineContex.machineName)]]),
    ("Name", .string ev.machineContex.sectionName)]])]

/-- The loops over the 16 bits of the 20 content words. -/
def alarmList (ev : Event) (block : Block) : List Json :=
  (List.range 20).flatMap fun i =>
    (List.range 16).flatMap fun j =>
      if bLEndianUshort (block (2 + i)) ev.machineContex.wordSwap &&& (1 <<< UInt16.ofNat j) ≠ 0 then
        match ev.machineContex.plcAlarmCodeList (i * 0x10 + j) with
        | some alarm =>
            if alarm.enable then
              [.object [("Level", .string alarm.level), ("Name", .string alarm.name),
                ("Status", .bool alarm.status)]]
            else []
        | none => []
      else []

def alarmCodeReport (ev : Event) (block : Block) : Report :=
  let alarms := alarmList ev block
  let event : Json := .object [("Action", .string ev.eventAction.name),
    ("AlarmList", .array alarms), ("Name", .string ev.eventName)]
  { due := !alarms.isEmpty
    event := event
    message := if alarms.isEmpty then none else some (sectionList ev event) }

def machineStatusReport (ev : Event) (block : Block) : Report :=
  let event : Json := .object [("Action", .string ev.eventAction.name),
    ("MachineStateCode", .int (bLEndianUshort (block 2) ev.machineContex.wordSwap).toNat),
    ("Name", .string ev.eventName)]
  { due := true, event := event, message := some (sectionList ev event) }

/-- An `unsigned int` in two words, the low one first. -/
def doubleWord (block : Block) (index : Nat) : UInt32 :=
  (block (index + 1)).toUInt32 <<< 16 ||| (block index).toUInt32

/-- The handler fills `event` and sends `root`, which is still null. -/
def machineYieldReport (ev : Event) (block : Block) : Report where
  due := true
  event := .object [("Action", .string ev.eventAction.name),
    ("Input", .uint (bLEndianIntSwap (doubleWord block 2) ev.machineContex.intSwap).toNat),
    ("Name", .string ev.eventName),
    ("Oee", .int (bLEndianUshort (block 7) ev.machineContex.wordSwap).toNat),
    ("Output", .uint (bLEndianIntSwap (doubleWord block 4) ev.machineContex.intSwap).toNat),
    ("Yield", .int (bLEndianUshort (block 6) ev.machineContex.wordSwap).toNat)]
  message := some .null

/-- The frame of the three handlers. The id is stored before `UpdateEvent` or, for
the machine status, after it; nothing can come in between. -/
def sniffing (ev : Event) (report : Report) (line : Line) (outcome : Outcome) : Line :=
  let read := readData ev line outcome.read
  if read.1 = false then read.2
  else if line.sequenceID = currentId ev line.block then read.2
  else
    let id := currentId ev line.block
    let ack := sendEapData ev { read.2 with sequenceID := id } (ackFrame id) outcome.write
    { ack.2 with
      log := line.log ++ [{
        id := id
        report := report
        sent := if outcome.upstream then report.message else none
        acked := ack.1 }] }

def alarmCodeSniffing (ev : Event) (line : Line) (outcome : Outcome) : Line :=
  sniffing ev (alarmCodeReport ev line.block) line outcome

def machineStatusSniffing (ev : Event) (line : Line) (outcome : Outcome) : Line :=
  sniffing ev (machineStatusReport ev line.block) line outcome

def machineYieldSniffing (ev : Event) (line : Line) (outcome : Outcome) : Line :=
  sniffing ev (machineYieldReport ev line.block) line outcome

def sniffingPlcEvent (ev : Event) : Line → Outcome → Line :=
  match ev.eventAction with
  | .alarmCode => alarmCodeSniffing ev
  | .machineStatus => machineStatusSniffing ev
  | .machineYield => machineYieldSniffing ev

def onReconnect (line : Line) (connected : Bool) : Line :=
  if line.connectionStatus = .connectNo ∧ connected then { line with connectionStatus := .connectOk }
  else line

def step (ev : Event) : Step Line Happening
  | line, .plcWrites block => some { line with block := block }
  | line, .poll outcome => some (sniffingPlcEvent ev line outcome)
  | line, .reconnect connected => some (onReconnect line connected)

end DevHub.PlcEvent
