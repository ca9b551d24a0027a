import DevHub.Library.Run
import DevHub.Library.StdMap
import DevHub.Plc.Downstream
import DevHub.Plc.Event
import Mathlib.Data.String.Basic

/-!
Machines, their events and the `Director`. A `Machine *` is its position among the
machines that were built, a null pointer is `none`. `uses` lists the pointers that
the code follows; nothing is said of a hub that followed one to no object.
-/

namespace DevHub.Machines

open PlcEvent (MachineContex PlcAlarmInfo PlcProtocol)
open Transition

set_option autoImplicit false

structure StationEventProfile where
  name : String
  action : String
  flag : String
  plcBlockAddress : String
  plcBlockSize : Nat
  eapBlockAddress : String
  eapBlockSize : Nat

structure PlcAlarmProfile extends PlcAlarmInfo where
  wordOffset : Nat
  bitOffset : Nat

structure MainDeviceProfile where
  deviceType : String
  protocol : String
  dataFormat : String
  mainEvents : List StationEventProfile
  alarmCodeList : List PlcAlarmProfile

structure LineStation where
  events : List StationEventProfile

structure LineMachine where
  name : String
  enable : Bool
  mainDeviceProfile : MainDeviceProfile
  stations : List LineStation

/-- A null list of machines is an empty one. -/
structure LineSection where
  name : String
  machines : List LineMachine

inductive EventClass where
  | register
  | heareBeat
  | eapCommand
  | eventChangedFlag
  | noticeMessage
  | alarmCode
  | machineStatus
  | machineYield
  | breakPoint
  | checkIn
  | postResult
  deriving DecidableEq

structure Event where
  eventClass : EventClass
  profile : StationEventProfile
  machineContex : MachineContex

def eventClasses : List (String × EventClass) :=
  [("Register", .register), ("HeartBeat", .heareBeat), ("EapCommand", .eapCommand),
    ("EventChangedFlag", .eventChangedFlag), ("NoticeText", .noticeMessage),
    ("AlarmCode", .alarmCode), ("MachineStatus", .machineStatus),
    ("MachineYield", .machineYield), ("BreakPoint", .breakPoint), ("CheckIn", .checkIn),
    ("PostResult", .postResult)]

def buildEvent (contex : MachineContex) (sep : StationEventProfile) : Option Event :=
  (eventClasses.lookup sep.action).map fun eventClass =>
    { eventClass := eventClass, profile := sep, machineContex := contex }

structure Machine where
  name : String
  machineContex : MachineContex
  mainEvents : StdMap String (Option Event)
  stationsEvents : StdMap String (Option Event)

/-- Nothing calls `SetName`. -/
def Machine.new (contex : MachineContex) : Machine where
  name := ""
  machineContex := contex
  mainEvents := StdMap.empty
  stationsEvents := StdMap.empty

def push (events : StdMap String (Option Event)) (name : String) (ev : Event) :
    StdMap String (Option Event) :=
  if name ∈ events.keys then events else events.insert name (some ev)

def pushMainEvent (machine : Machine) (name : String) (ev : Event) : Machine :=
  { machine with mainEvents := push machine.mainEvents name ev }

def pushStationsEvent (machine : Machine) (name : String) (ev : Event) : Machine :=
  { machine with stationsEvents := push machine.stationsEvents name ev }

/-- The tokens of `DataFormat` up to `Default`. -/
def dataFormats (dataFormat : String) : List String :=
  ((dataFormat.toList.splitOn ' ').map String.ofList).takeWhile fun token => token ≠ "Default"

def buildContex (sectionName : String) (lineMachine : LineMachine) : Option MachineContex :=
  let profile := lineMachine.mainDeviceProfile
  let contex (protocol : PlcProtocol) : MachineContex :=
    { protocol := protocol
      sectionName := sectionName
      machineName := lineMachine.name
      wordSwap := (dataFormats profile.dataFormat).contains "WordSwap"
      intSwap := (dataFormats profile.dataFormat).contains "IntSwap"
      plcAlarmCodeList := fun offset =>
        (profile.alarmCodeList.find? fun alarm =>
          (alarm.wordOffset * 0x10 + alarm.bitOffset) % 2 ^ 32 = offset).map
            PlcAlarmProfile.toPlcAlarmInfo }
  if profile.protocol = "Fins" then some (contex .fins)
  else if profile.protocol = "RTU" then some (contex .rtu)
  else none

def buildOne (pushEvent : Machine → String → Event → Machine) (machine : Machine)
    (sep : StationEventProfile) : Machine :=
  match buildEvent machine.machineContex sep with
  | none => machine
  | some ev => pushEvent machine sep.name ev

def buildCustomEvents (stations : List LineStation) (machine : Machine) : Machine :=
  stations.foldl (fun machine station => station.events.foldl (buildOne pushStationsEvent) machine)
    machine

def buildMainDeviceProfile (profile : MainDeviceProfile) (machine : Machine) : Machine :=
  profile.mainEvents.foldl (buildOne pushMainEvent) machine

/-- The three calls of the builder. Without a `PlcContex` they go on with a pointer that
was never set, or with a machine that was deleted. -/
def buildMachine (sectionName : String) (lineMachine : LineMachine) : Option Machine :=
  (buildContex sectionName lineMachine).map fun contex =>
    buildMainDeviceProfile lineMachine.mainDeviceProfile
      (buildCustomEvents lineMachine.stations (Machine.new contex))

/-- What `GetEvent` returns; a name that is in neither map leaves it without a value. -/
inductive Found where
  | event (ev : Event)
  | null
  | nothing

def Found.ofEntry : Option Event → Found
  | some ev => .event ev
  | none => .null

def getEvent (machine : Machine) (evName : String) : Found :=
  match machine.mainEvents.find? evName, machine.stationsEvents.find? evName with
  | some ev, _ => .ofEntry ev
  | none, some ev => .ofEntry ev
  | none, none => .nothing

/-- A pointer that is followed: the event is one of the machine at the position. -/
inductive Use where
  | machine (index : Option Nat)
  | event (index : Nat) (found : Found)

def Use.valid : Use → Bool
  | .machine index => index.isSome
  | .event _ (.event _) => true
  | .event _ _ => false

structure Director where
  objects : List Machine
  machines : StdMap String (Option Nat)
  uses : List Use

def Director.new : Director where
  objects := []
  machines := StdMap.empty
  uses := []

def Director.sound (director : Director) : Bool := director.uses.all Use.valid

def Director.use (director : Director) (use : Use) : Director :=
  if director.sound then { director with uses := director.uses ++ [use] } else director

def constructMachine (director : Director) (sectionName : String) (lineMachine : LineMachine) :
    Option Director :=
  (buildMachine sectionName lineMachine).map fun machine =>
    { director with
      objects := director.objects ++ [machine]
      machines := director.machines.insert (sectionName ++ machine.name)
        (some director.objects.length) }

def LineMachine.enabledPlc (lineMachine : LineMachine) : Bool :=
  lineMachine.mainDeviceProfile.deviceType = "PLC" && lineMachine.enable

def flashSection (director : Director) (sect : LineSection) : Option Director :=
  sect.machines.foldlM (fun director lineMachine =>
    if lineMachine.enabledPlc then constructMachine director sect.name lineMachine
    else some director) director

def flashLineMachineList (design : List LineSection) : Option Director :=
  design.foldlM flashSection Director.new

def eventPolling (index : Nat) (director : Director) : Director :=
  match director.objects[index]? with
  | none => director
  | some machine =>
      (machine.mainEvents.entries ++ machine.stationsEvents.entries).foldl
        (fun director entry => director.use (.event index (.ofEntry entry.2))) director

def machinesPolling (director : Director) : Director :=
  director.machines.entries.foldl (fun director entry =>
    match entry.2 with
    | none => director.use (.machine none)
    | some index => eventPolling index (director.use (.machine (some index)))) director

/-- `m_machines[...]` adds a null pointer for a key that is not there. -/
def writeMachineData (director : Director) (sectionName machineName eventName : String) :
    Director :=
  match director.machines.find? (sectionName ++ machineName) with
  | none =>
      if director.sound then
        { director with machines := director.machines.insert (sectionName ++ machineName) none }
      else director
  | some none => director
  | some (some index) =>
      match director.objects[index]? with
      | none => director
      | some machine =>
          (director.use (.machine (some index))).use (.event index (getEvent machine eventName))

/-- `Director::OnFrame` on the value that the frame parses to. -/
def onFrame (director : Director) (frame : Option Json) : Director :=
  (Downstream.onFrame frame).calls.foldl (fun director call =>
    writeMachineData director call.sectionName call.machineName call.eventName) director

/-- The heartbeat half of `Machine::OnTimer`; its lookup adds a null event. -/
def heartBeat (index : Nat) (machine : Machine) (director : Director) : Director :=
  match machine.mainEvents.find? "HeartBeat" with
  | none =>
      { director with
        objects := director.objects.set index
          { machine with mainEvents := machine.mainEvents.insert "HeartBeat" none } }
  | some none => director
  | some (some ev) => director.use (.event index (.event ev))

inductive Happening where
  | heartBeat (index : Nat)
  | valuePolling (index : Nat)
  | machinesPolling
  | frame (document : Option Json)

def step : Step Director Happening
  | director, happening =>
      if director.sound then
        match happening with
        | .heartBeat index =>
            director.objects[index]?.map fun machine => heartBeat index machine director
        | .valuePolling index => director.objects[index]?.map fun _ => eventPolling index director
        | .machinesPolling => some (machinesPolling director)
        | .frame document => some (onFrame director document)
      else none

end DevHub.Machines
