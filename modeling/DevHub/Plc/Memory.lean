import DevHub.Plc.Event
import DevHub.Transcation.Transcation

/-!
The memory of a PLC under the transfers of its events. `PlcReadWorlds` and
`PlcWriteWorlds` turn an address text and a size into a span of words; a poll is the
handler of the event with the words that its read brings, and the frame that it
acknowledges with. How finslib reads an address is the parameter `finsAddress`.
-/

namespace DevHub.PlcMemory

open PlcEvent Transition

set_option autoImplicit false

/-- A word of a PLC. The registers of Modbus have no memory area. -/
structure Cell where
  area : String
  index : Nat
  deriving DecidableEq

abbrev Memory := Cell → UInt16

/-- An event with its polled size and the machine whose proxy it uses. The sizes are
`PlcBlockSize` and `EapBlockSize` of the designer XML, as it has them. -/
structure StationEvent extends Event where
  plcDataSize : Nat
  machine : Nat

/-- `connection` is the status of the proxy of each machine, `sequenceID` is the
`m_sequenceID` of each event. -/
structure Plant where
  memory : Memory
  connection : Nat → ConnectionStatus
  sequenceID : Nat → UInt16

/-- `stack` is what stands in memory behind the words of a frame, or where a read
puts none. -/
inductive PlantEvent where
  | plcWrites (memory : Memory)
  | poll (index : Nat) (outcome : Outcome) (stack : Nat → UInt16)
  | reconnect (machine : Nat) (connected : Bool)

/-- `stoi` of the Modbus proxy; the request has 16 bits for the address. -/
def modbusAddress (addr : String) : Option Cell :=
  (Transcations.stoi addr).map fun number =>
    { area := "", index := (number % 65536).toNat }

def span (start : Option Cell) (words : Nat) : List Cell :=
  match start with
  | none => []
  | some first =>
      (List.range words).map fun i => { area := first.area, index := first.index + i }

section Proxies

variable (finsAddress : String → Option Cell)

def resolve (protocol : PlcProtocol) (addr : String) : Option Cell :=
  match protocol with
  | .fins => finsAddress addr
  | .rtu => modbusAddress addr

def blockStart (ev : StationEvent) (addr : String) : Option Cell :=
  match ev.machineContex.protocol with
  | .fins => finsAddress (ev.flag ++ addr)
  | .rtu => modbusAddress addr

def plcBlock (ev : StationEvent) : List Cell :=
  span (blockStart finsAddress ev ev.plcEventAddr) (ev.plcDataSize / 2)

def eapBlock (ev : StationEvent) : List Cell :=
  span (blockStart finsAddress ev ev.eapEventAddr) (ev.eapDataSize / 2)

/-- The registers of one request. A number from 2^31 on passes the check of libmodbus
as a negative one, but its message is never answered as the proxy expects. -/
def registers (limit number : Nat) : Nat := if number ≤ limit then number else 0

/-- The words that `PlcReadWorlds` transfers: only the FINS proxy halves the size. -/
def readCells (ev : StationEvent) : List Cell :=
  span (resolve finsAddress ev.machineContex.protocol (readAddr ev.toEvent))
    (match ev.machineContex.protocol with
    | .fins => ev.plcDataSize / 2
    | .rtu => registers 125 ev.plcDataSize)

/-- The words that `PlcWriteWorlds` transfers: no proxy halves the size. -/
def writeCells (ev : StationEvent) : List Cell :=
  span (resolve finsAddress ev.machineContex.protocol (writeAddr ev.toEvent))
    (match ev.machineContex.protocol with
    | .fins => ev.eapDataSize
    | .rtu => registers 123 ev.eapDataSize)

def transferable (ev : StationEvent) (addr : String) (limit size : Nat) : Bool :=
  (resolve finsAddress ev.machineContex.protocol addr).isSome &&
    match ev.machineContex.protocol with
    | .fins => true
    | .rtu => size ≤ limit

/-- Whether `PlcReadWorlds` can return 0. The Modbus proxy compares unsigned numbers, so it
takes the -1 of a failed read for a size of `2 ^ 32 - 1`. -/
def readable (ev : StationEvent) : Bool :=
  transferable finsAddress ev (readAddr ev.toEvent) 125 ev.plcDataSize ||
    (ev.machineContex.protocol = .rtu && (modbusAddress (readAddr ev.toEvent)).isSome &&
      ev.plcDataSize = 2 ^ 32 - 1)

def rdBuf (ev : StationEvent) (memory : Memory) (stack : Nat → UInt16) : Block := fun index =>
  match (readCells finsAddress ev)[index]? with
  | some cell => memory cell
  | none => stack index

/-- The words of `frame` go to the cells one by one, then what stands behind it. -/
def writeFrom (memory : Memory) (frame : List UInt16) (stack : Nat → UInt16) (offset : Nat) :
    List Cell → Memory
  | [] => memory
  | cell :: rest =>
      writeFrom (Function.update memory cell ((frame[offset]?).getD (stack offset))) frame stack
        (offset + 1) rest

def writeAck (ev : StationEvent) (memory : Memory) (stack : Nat → UInt16) :
    List Handled → Memory
  | [] => memory
  | handled :: _ =>
      if handled.acked then
        writeFrom memory (ackFrame handled.id) stack 0 (writeCells finsAddress ev)
      else memory

def pollEvent (plant : Plant) (index : Nat) (ev : StationEvent) (outcome : Outcome)
    (stack : Nat → UInt16) : Plant :=
  let line := sniffingPlcEvent ev.toEvent
    { block := rdBuf finsAddress ev plant.memory stack
      connectionStatus := plant.connection ev.machine
      sequenceID := plant.sequenceID index
      log := [] }
    { outcome with
      read := outcome.read && readable finsAddress ev
      write := outcome.write &&
        transferable finsAddress ev (writeAddr ev.toEvent) 123 ev.eapDataSize }
  { connection := Function.update plant.connection ev.machine line.connectionStatus
    sequenceID := Function.update plant.sequenceID index line.sequenceID
    memory := writeAck finsAddress ev plant.memory stack line.log }

def plantStep (events : List StationEvent) : Step Plant PlantEvent
  | plant, .plcWrites memory => some { plant with memory := memory }
  | plant, .poll index outcome stack =>
      events[index]?.map fun ev => pollEvent finsAddress plant index ev outcome stack
  | plant, .reconnect machine connected =>
      some (if plant.connection machine = .connectNo ∧ connected then
        { plant with connection := Function.update plant.connection machine .connectOk }
      else plant)

end Proxies

end DevHub.PlcMemory
