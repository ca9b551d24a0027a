import DevHub.Library.Run
import DevHub.Equipment.Sequence

/-!
The controllers of one process. A `SequenceState` is one static object for all of
them, and `sequenceEquipmen` is the controller that its member of that name points
to: construction, every transition and every timeout overwrite it. A handler works
on that controller, not on the one that got the input.
-/

namespace DevHub.SolderCtrls

open Sequence Transition

set_option autoImplicit false

structure SolderCtrl where
  type : SequenceType
  state : SequenceState
  equipData : List UInt8

/-- An effect and the controller through whose peripheral and updater it goes. -/
structure Output where
  equip : Nat
  effect : Effect
  deriving DecidableEq

/-- The controllers by their object, the static states, and all effects so far. -/
structure Process where
  ctrls : Nat → Option SolderCtrl
  sequenceEquipmen : SequenceState → Option Nat
  log : List Output

inductive Event where
  | construct (equip : Nat) (type : SequenceType)
  | recvCommand (equip : Nat) (cmd : String)
  | onData (equip : Nat) (data : List UInt8)
  | onTaskTimeout (equip : Nat)

def Event.equip : Event → Nat
  | construct equip _ => equip
  | recvCommand equip _ => equip
  | onData equip _ => equip
  | onTaskTimeout equip => equip

def Process.start : Process where
  ctrls _ := none
  sequenceEquipmen _ := none
  log := []

def Process.put (process : Process) (equip : Nat) (ctrl : SolderCtrl) : Process :=
  { process with ctrls := Function.update process.ctrls equip (some ctrl) }

/-- `ChangeState(&Next::Instance(type, equip))` after the effects. -/
def Process.advance (process : Process) (equip : Nat) (ctrl : SolderCtrl) (reaction : Reaction) :
    Process where
  ctrls := Function.update process.ctrls equip (some { ctrl with state := reaction.next })
  sequenceEquipmen := Function.update process.sequenceEquipmen reaction.next (some equip)
  log := process.log ++ reaction.effects.map fun effect => { equip := equip, effect := effect }

/-- A call of a handler of the static object `state`. -/
def callState (process : Process) (state : SequenceState)
    (handler : SequenceType → Option Reaction) : Option Process :=
  (process.sequenceEquipmen state).bind fun owner =>
    (process.ctrls owner).map fun ctrl =>
      match handler ctrl.type with
      | none => process
      | some reaction => process.advance owner ctrl reaction

def recvUpstreamOf (convert : Int → String) (process : Process) (equip : Nat)
    (data : List UInt8) : Option Process :=
  (process.ctrls equip).bind fun ctrl =>
    callState process ctrl.state fun type => recvUpstream convert type ctrl.state data

/-- `buf` after the copy loop: 100 bytes, zero behind the frame. -/
def frameBuffer (frame : List UInt8) : List UInt8 := frame.rightpad 100 0

/-- The copy loop writes behind `buf` when the frame is longer. -/
def copyFrame (process : Process) (equip : Nat) (frame : List UInt8) : Process :=
  if frame.length ≤ 100 then process
  else { process with log := process.log ++ [{ equip := equip, effect := .outside }] }

def pushByte (process : Process) (equip : Nat) (byte : UInt8) : Option Process :=
  (process.ctrls equip).map fun ctrl =>
    process.put equip { ctrl with equipData := ctrl.equipData ++ [byte] }

def clearData (process : Process) (equip : Nat) : Option Process :=
  (process.ctrls equip).map fun ctrl => process.put equip { ctrl with equipData := [] }

def receiveByte (convert : Int → String) (process : Process) (equip : Nat) (byte : UInt8) :
    Option Process :=
  if byte ≠ etx then pushByte process equip byte
  else
    (process.ctrls equip).bind fun ctrl =>
      (recvUpstreamOf convert (copyFrame process equip ctrl.equipData) equip
        (frameBuffer ctrl.equipData)).bind fun process => clearData process equip

def receiveBytes (convert : Int → String) (equip : Nat) :
    List UInt8 → Process → Option Process
  | [], process => some process
  | byte :: rest, process =>
      (receiveByte convert process equip byte).bind fun process =>
        receiveBytes convert equip rest process

/-- `OnData`; it is called with at least one byte. -/
def onData (convert : Int → String) (process : Process) (equip : Nat) (data : List UInt8) :
    Option Process :=
  if data = [] then none
  else if data.head? = some Sequence.ack then recvUpstreamOf convert process equip data
  else receiveBytes convert equip data process

def recvCommand (process : Process) (equip : Nat) (cmd : String) : Option Process :=
  (process.ctrls equip).bind fun ctrl =>
    callState process ctrl.state fun _ => recvDownStream ctrl.state cmd

/-- `m_state = &SequenceIdleState::Instance(type, this)`. -/
def enterIdle (process : Process) (equip : Nat) (ctrl : SolderCtrl) : Process :=
  process.advance equip ctrl { effects := [], next := .idle }

/-- The constructors differ in the type only. -/
def construct (process : Process) (equip : Nat) (type : SequenceType) : Option Process :=
  match process.ctrls equip with
  | some _ => none
  | none => some (enterIdle process equip { type := type, state := .idle, equipData := [] })

def onTaskTimeout (process : Process) (equip : Nat) : Option Process :=
  (process.ctrls equip).map fun ctrl => enterIdle process equip ctrl

def step (convert : Int → String) : Step Process Event
  | process, .construct equip type => construct process equip type
  | process, .recvCommand equip cmd => recvCommand process equip cmd
  | process, .onData equip data => onData convert process equip data
  | process, .onTaskTimeout equip => onTaskTimeout process equip

end DevHub.SolderCtrls
