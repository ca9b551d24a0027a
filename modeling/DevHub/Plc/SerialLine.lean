import DevHub.Modbus.Link
import DevHub.Plc.Handled
import DevHub.Plc.Memory

/-!
`ModbusRtuPlcProxy` on its serial line: `PlcReadWorlds` and `PlcWriteWorlds` with the calls of
libmodbus, down to the bytes, against a PLC that serves Modbus. The polls of `PlcMemory` read and
write words of a memory; here the words are registers of a server, and what the polls of one
machine do is what they do there.
-/

namespace DevHub.SerialLine

open PlcEvent PlcMemory HandledEvent Transition AddressSpace
open Modbus hiding Outcome

set_option autoImplicit false

/-- The proxy's context and the PLC's tables, with the status of the proxy and the `m_sequenceID`
of each event. -/
structure SerialPlant where
  client : Context
  mapping : Mapping
  connection : ConnectionStatus
  sequenceID : Nat → UInt16

/-- What the PLC's buffer holds behind a request, and the pieces in which the line delivers the
request and its response. -/
structure Delivery where
  stale : List UInt8
  requests : Cut rtuBackend .indication
  responses : Cut rtuBackend .confirmation

/-- `stack` is what stands in memory behind the words of a frame, or where a read puts none;
`read` and `write` deliver the two requests of a poll. The program of the PLC writes its own
registers. -/
inductive SerialEvent where
  | plcWrites (registers : List UInt16)
  | poll (index : Nat) (stack : Nat → UInt16) (read write : Delivery)
  | reconnect (connected : Bool)

/-- An event of a machine on the line, with sizes that an `int` holds. -/
structure RtuEvent extends StationEvent where
  rtu : machineContex.protocol = .rtu
  sized : plcDataSize < 2 ^ 31 ∧ eapDataSize < 2 ^ 31

section Line

variable (server : Context)

/-- `ModbusRtuPlcProxy::PlcReadWorlds`: its result, and the registers that it stores. -/
def plcReadWorlds (plant : SerialPlant) (plcAddr : String) (recvLen : Nat) (delivery : Delivery) :
    Option (SerialPlant × Int × List UInt16) :=
  match Transcations.stoi plcAddr with
  | none => some (plant, -1, [])
  | some addr =>
      (exchange rtuBackend delivery.requests delivery.responses server delivery.stale plant.client
          plant.mapping (.readRegisters false addr recvLen)).map fun (client, mapping, result) =>
        let left := { plant with client := client, mapping := mapping }
        match result with
        | .error _ => (left, -1, [])
        | .ok read => (left, if read.rc = recvLen then 0 else -1, read.registers)

def plcWriteWorlds (plant : SerialPlant) (dataAddr : String) (data : List UInt16) (len : Nat)
    (delivery : Delivery) : Option (SerialPlant × Int) :=
  match Transcations.stoi dataAddr with
  | none => some (plant, -1)
  | some addr =>
      (exchange rtuBackend delivery.requests delivery.responses server delivery.stale plant.client
          plant.mapping (.writeRegisters addr len data)).map fun (client, mapping, result) =>
        let left := { plant with client := client, mapping := mapping }
        match result with
        | .error _ => (left, -1)
        | .ok written => (left, if written.rc < 0 then -1 else 0)

def memoryOf (frame : List UInt16) (stack : Nat → UInt16) (len : Nat) : List UInt16 :=
  (List.range len).map fun i => (frame[i]?).getD (stack i)

/-- A handler's poll: `ReadData`, and for a new id `SendEapData`. -/
def pollEvent (ev : RtuEvent) (index : Nat) (stack : Nat → UInt16) (read write : Delivery)
    (plant : SerialPlant) : Option SerialPlant :=
  if plant.connection = .connectNo then some plant
  else
    (plcReadWorlds server plant (readAddr ev.toEvent) ev.plcDataSize read).bind
      fun (left, ret, words) =>
        let id := currentId ev.toEvent fun i => (words[i]?).getD (stack i)
        if ret ≠ 0 ∨ left.sequenceID index = id then some left
        else
          (plcWriteWorlds server
              { left with sequenceID := Function.update left.sequenceID index id }
              (writeAddr ev.toEvent) (memoryOf (ackFrame id) stack ev.eapDataSize) ev.eapDataSize
              write).map Prod.fst

def serialStep (events : List RtuEvent) : Step SerialPlant SerialEvent
  | plant, .plcWrites registers =>
      if registers.length = plant.mapping.registers.tab.length then
        some { plant with
          mapping := { plant.mapping with
            registers := { plant.mapping.registers with tab := registers } } }
      else none
  | plant, .poll index stack read write =>
      (events[index]?).bind fun ev => pollEvent server ev index stack read write plant
  | plant, .reconnect connected =>
      some (if plant.connection = .connectNo ∧ connected then
        { plant with connection := .connectOk }
      else plant)

end Line

/-! ### A poll on the words of a memory -/

section Words

variable (finsAddress : String → Option Cell)

/-- The line that `PlcMemory.pollEvent` gives to the handler, and the outcome of its transfers. -/
def lineOf (plant : Plant) (index : Nat) (ev : StationEvent) (stack : Nat → UInt16) : Line where
  block := rdBuf finsAddress ev plant.memory stack
  connectionStatus := plant.connection ev.machine
  sequenceID := plant.sequenceID index
  log := []

def outcomeOf (ev : StationEvent) (outcome : Outcome) : Outcome :=
  { outcome with
    read := outcome.read && readable finsAddress ev
    write := outcome.write &&
      transferable finsAddress ev (writeAddr ev.toEvent) 123 ev.eapDataSize }

variable {finsAddress} {ev : StationEvent}

theorem rtu_connection (rtu : ev.machineContex.protocol = .rtu) (report : Report) (line : Line)
    (outcome : Outcome) :
    (sniffing ev.toEvent report line outcome).connectionStatus = line.connectionStatus := by
  have failed (line : Line) : transferFailed ev.toEvent line = line := by
    rw [transferFailed, rtu]
  have read : (readData ev.toEvent line outcome.read).2 = line := by
    rw [readData]
    split
    · rfl
    · split
      · rfl
      · exact failed line
  have sent (line : Line) (words : List UInt16) (write : Bool) :
      (sendEapData ev.toEvent line words write).2.connectionStatus = line.connectionStatus := by
    rw [sendEapData]
    split
    · rfl
    · split
      · rw [writeWords]
        split <;> rfl
      · rw [failed]
  rw [sniffing]
  split
  · rw [read]
  · split
    · rw [read]
    · dsimp only
      rw [sent, read]

theorem poll_ignored (rtu : ev.machineContex.protocol = .rtu) {plant : Plant} {index : Nat}
    {outcome : Outcome} {stack : Nat → UInt16}
    (ignored : ¬ Takes ev.toEvent (lineOf finsAddress plant index ev stack)
      (outcomeOf finsAddress ev outcome)) :
    PlcMemory.pollEvent finsAddress plant index ev outcome stack = plant := by
  have same : sniffingPlcEvent ev.toEvent (lineOf finsAddress plant index ev stack)
      (outcomeOf finsAddress ev outcome) = lineOf finsAddress plant index ev stack := by
    rw [sniffing_plc_event_report]
    obtain ⟨status, unchanged⟩ := sniffing_ignores
      (eventReport ev.toEvent (lineOf finsAddress plant index ev stack).block) ignored
    have kept := rtu_connection rtu
      (eventReport ev.toEvent (lineOf finsAddress plant index ev stack).block)
      (lineOf finsAddress plant index ev stack) (outcomeOf finsAddress ev outcome)
    rw [unchanged] at kept ⊢
    dsimp only at kept
    rw [kept]
  rw [lineOf, outcomeOf] at same
  rw [PlcMemory.pollEvent, same]
  simp only [writeAck, Function.update_eq_self]

theorem poll_taken (rtu : ev.machineContex.protocol = .rtu) {plant : Plant} {index : Nat}
    {outcome : Outcome} {stack : Nat → UInt16}
    (taken : Takes ev.toEvent (lineOf finsAddress plant index ev stack)
      (outcomeOf finsAddress ev outcome)) :
    PlcMemory.pollEvent finsAddress plant index ev outcome stack =
      { plant with
        sequenceID := Function.update plant.sequenceID index
          (currentId ev.toEvent (rdBuf finsAddress ev plant.memory stack))
        memory :=
          if (outcomeOf finsAddress ev outcome).write then
            writeFrom plant.memory
              (ackFrame (currentId ev.toEvent (rdBuf finsAddress ev plant.memory stack))) stack 0
              (writeCells finsAddress ev)
          else plant.memory } := by
  obtain ⟨id, log⟩ := sniffing_takes
    (eventReport ev.toEvent (lineOf finsAddress plant index ev stack).block) taken
  have kept := rtu_connection rtu
    (eventReport ev.toEvent (lineOf finsAddress plant index ev stack).block)
    (lineOf finsAddress plant index ev stack) (outcomeOf finsAddress ev outcome)
  rw [← sniffing_plc_event_report] at id log kept
  rw [lineOf, outcomeOf] at id log kept
  rw [PlcMemory.pollEvent]
  dsimp only at id log kept ⊢
  rw [id, log, kept]
  simp only [Function.update_eq_self, List.nil_append, writeAck, outcomeOf]
  rfl

theorem writes_from_span {memory : Memory} {area : String} {place : Nat} {frame : List UInt16}
    {stack : Nat → UInt16} (count offset : Nat) (cell : Cell) :
    writeFrom memory frame stack offset
        ((List.range count).map fun i => { area := area, index := place + i }) cell =
      if cell.area = area ∧ place ≤ cell.index ∧ cell.index < place + count then
        (frame[offset + (cell.index - place)]?).getD (stack (offset + (cell.index - place)))
      else memory cell := by
  induction count generalizing memory offset place with
  | zero =>
      rw [if_neg (by omega)]
      rfl
  | succ count ih =>
      have later : ((List.range (count + 1)).map fun i =>
            ({ area := area, index := place + i } : Cell)) =
          { area := area, index := place } ::
            (List.range count).map fun i => { area := area, index := place + 1 + i } := by
        rw [List.range_succ_eq_map, List.map_cons, List.map_map, Nat.add_zero]
        congr 1
        apply List.map_congr_left
        intro i _
        rw [Function.comp_apply, Nat.succ_eq_add_one, Nat.add_assoc, Nat.add_comm 1 i]
      rw [later, writeFrom, ih]
      by_cases here : cell = { area := area, index := place }
      · subst here
        rw [if_neg fun inside => Nat.not_succ_le_self _ inside.2.1,
          if_pos ⟨rfl, Nat.le_refl _, Nat.lt_add_of_pos_right (Nat.succ_pos _)⟩]
        dsimp only
        rw [Function.update_self, Nat.sub_self, Nat.add_zero]
      · rw [Function.update_of_ne here]
        by_cases same : cell.area = area
        · have apart : cell.index ≠ place := by
            rintro rfl
            subst same
            exact here rfl
          by_cases inside : place + 1 ≤ cell.index ∧ cell.index < place + 1 + count
          · have shift : offset + 1 + (cell.index - (place + 1)) =
                offset + (cell.index - place) := by omega
            rw [if_pos ⟨same, inside⟩, if_pos ⟨same, by omega, by omega⟩, shift]
          · rw [if_neg fun both => inside both.2, if_neg fun both => inside (by omega)]
        · rw [if_neg fun both => same both.1, if_neg fun both => same both.1]

end Words

/-! ### The plant beside the line -/

def present (mapping : Mapping) (addr : String) (limit nb : Nat) : Bool :=
  match Transcations.stoi addr with
  | none => false
  | some addr =>
      decide (1 ≤ nb ∧ nb ≤ limit ∧ (readRange mapping.registers.space (wireWord addr) nb).isSome)

/-- A poll succeeds where the PLC has the registers that it asks for. -/
def outcomeAt (mapping : Mapping) (ev : RtuEvent) : Outcome where
  read := present mapping (readAddr ev.toEvent) 125 ev.plcDataSize
  upstream := true
  write := present mapping (writeAddr ev.toEvent) 123 ev.eapDataSize

def memoryWith (memory : Memory) (registers : Table UInt16) : Memory := fun cell =>
  if cell.area = "" then (registers.space cell.index).getD (memory cell) else memory cell

section Beside

variable (server : Context) (finsAddress : String → Option Cell) (events : List RtuEvent) (machine : Nat)

def plantStepAt (plant : SerialPlant) (view : Plant) : SerialEvent → Option Plant
  | .plcWrites registers =>
      plantStep finsAddress (events.map RtuEvent.toStationEvent) view
        (.plcWrites (memoryWith view.memory { plant.mapping.registers with tab := registers }))
  | .poll index stack _ _ =>
      (events[index]?).bind fun ev =>
        plantStep finsAddress (events.map RtuEvent.toStationEvent) view
          (.poll index (outcomeAt plant.mapping ev) stack)
  | .reconnect connected =>
      plantStep finsAddress (events.map RtuEvent.toStationEvent) view (.reconnect machine connected)

def bothStep : Step (SerialPlant × Plant) SerialEvent
  | (plant, view), event =>
      (serialStep server events plant event).bind fun next =>
        (plantStepAt finsAddress events machine plant view event).map fun after => (next, after)

end Beside

/-- The registers of the PLC are words of the plant's memory. -/
structure Represents (slave : UInt8) (machine : Nat) (plant : SerialPlant) (view : Plant) :
    Prop where
  addressed : plant.client.slave = some slave
  cleanBits : Clean plant.mapping.bits
  cleanInputs : Clean plant.mapping.inputBits
  memory : ∀ place value, plant.mapping.registers.space place = some value →
    view.memory { area := "", index := place } = value
  connection : view.connection machine = plant.connection
  sequenceID : view.sequenceID = plant.sequenceID

/-! ### Words and registers -/

section Words

variable {finsAddress : String → Option Cell} {ev : StationEvent}

theorem registers_few {limit number : Nat} (few : number ≤ limit) :
    registers limit number = number := if_pos few

theorem words_read (rtu : ev.machineContex.protocol = .rtu) {memory : Memory}
    {space : Space UInt16}
    (same : ∀ place value, space place = some value → memory { area := "", index := place } = value)
    {addr : Int} (parsed : Transcations.stoi (readAddr ev.toEvent) = some addr)
    (few : ev.plcDataSize ≤ 125) {words : List UInt16}
    (read : readRange space (wireWord addr) ev.plcDataSize = some words) (stack : Nat → UInt16) :
    rdBuf finsAddress ev memory stack = fun i => (words[i]?).getD (stack i) := by
  obtain ⟨length, stored⟩ := read_eq_some_iff.mp read
  have cells : readCells finsAddress ev = (List.range ev.plcDataSize).map fun i =>
      { area := "", index := wireWord addr + i } := by
    simp only [readCells, resolve, rtu, modbusAddress, parsed, registers_few few, Option.map_some]
    rfl
  funext i
  rw [rdBuf, cells, List.getElem?_map]
  by_cases inside : i < ev.plcDataSize
  · obtain ⟨value, there⟩ : ∃ value, words[i]? = some value :=
      ⟨words.get ⟨i, by omega⟩, List.getElem?_eq_getElem _⟩
    rw [List.getElem?_range inside, there]
    exact same _ _ ((stored i inside).trans there)
  · rw [List.getElem?_eq_none (by simpa using inside), List.getElem?_eq_none (by omega)]
    rfl

theorem words_written (rtu : ev.machineContex.protocol = .rtu) {memory : Memory}
    {space : Space UInt16}
    (same : ∀ place value, space place = some value → memory { area := "", index := place } = value)
    {addr : Int} (parsed : Transcations.stoi (writeAddr ev.toEvent) = some addr)
    (few : ev.eapDataSize ≤ 123) (frame : List UInt16) (stack : Nat → UInt16) (place : Nat)
    {value : UInt16} (stored : writeRange space (wireWord addr)
      (srcValues (memoryOf frame stack ev.eapDataSize) ev.eapDataSize) place = some value) :
    writeFrom memory frame stack 0 (writeCells finsAddress ev) { area := "", index := place } =
      value := by
  have cells : writeCells finsAddress ev = (List.range ev.eapDataSize).map fun i =>
      { area := "", index := wireWord addr + i } := by
    simp only [writeCells, resolve, rtu, modbusAddress, parsed, registers_few few, Option.map_some]
    rfl
  rw [cells, writes_from_span]
  by_cases inside : wireWord addr ≤ place ∧ place < wireWord addr + ev.eapDataSize
  · rw [if_pos ⟨rfl, inside⟩]
    obtain ⟨i, rfl⟩ := Nat.exists_eq_add_of_le inside.1
    have there : i < ev.eapDataSize := by omega
    rw [write_inside (by rw [src_values_length]; exact there), srcValues, List.getElem?_map,
      List.getElem?_range there, Option.map_some, memoryOf, List.getD_eq_getElem?_getD,
      List.getElem?_map, List.getElem?_range there] at stored
    rw [Nat.zero_add, Nat.add_sub_cancel_left]
    exact Option.some.inj stored
  · rw [if_neg fun both => inside both.2]
    rcases Nat.lt_or_ge place (wireWord addr) with before | behind
    · rw [write_before _ before] at stored
      exact same place value stored
    · rw [write_behind (by rw [src_values_length]; omega)] at stored
      exact same place value stored

end Words

section Refines

variable {server : Context} {slave : UInt8} (hears : rtuBackend.Hears server slave)
  (direct : slave ≠ broadcastAddress)

include hears direct

theorem read_cases {machine : Nat} {plant : SerialPlant} {view : Plant}
    (represents : Represents slave machine plant view) (plcAddr : String) (recvLen : Nat)
    (delivery : Delivery) :
    ∃ left ret words,
      plcReadWorlds server plant plcAddr recvLen delivery = some (left, ret, words) ∧
      Represents slave machine left view ∧
      left.mapping.registers.space = plant.mapping.registers.space ∧
      (present plant.mapping plcAddr 125 recvLen = true → ret = 0 ∧
        ∃ addr, Transcations.stoi plcAddr = some addr ∧ recvLen ≤ 125 ∧
          readRange plant.mapping.registers.space (wireWord addr) recvLen = some words) ∧
      (present plant.mapping plcAddr 125 recvLen = false → ret ≠ 0) := by
  rw [plcReadWorlds, present]
  cases parsed : Transcations.stoi plcAddr with
  | none => exact ⟨plant, -1, [], rfl, represents, rfl, nofun, fun _ => by decide⟩
  | some addr =>
      have loud : ¬ (rtuBackend.rtu = true ∧ slave = broadcastAddress) := fun both => direct both.2
      have above : (Command.readRegisters false addr recvLen).Above plant.mapping := trivial
      obtain ⟨sender, left, done, device, own, kept⟩ := exchange_refines rtu_lawful
        delivery.requests delivery.responses represents.addressed hears loud represents.cleanBits
        represents.cleanInputs above delivery.stale
      dsimp only
      rw [done, Option.map_some, decide_eq_true_iff, decide_eq_false_iff_not]
      have still (same : left.device = plant.mapping.device) :
          left.registers.space = plant.mapping.registers.space ∧
            Represents slave machine { plant with client := sender, mapping := left } view := by
        have holding : left.registers.space = plant.mapping.registers.space :=
          congrArg Device.holding same
        exact ⟨holding, own, kept.clean represents.cleanBits, kept.inputBits ▸ represents.cleanInputs,
          fun place value here => represents.memory place value (holding ▸ here),
          represents.connection, represents.sequenceID⟩
      by_cases there : 1 ≤ recvLen ∧ recvLen ≤ 125 ∧
          (readRange plant.mapping.registers.space (wireWord addr) recvLen).isSome
      · obtain ⟨values, present⟩ := Option.isSome_iff_exists.mp there.2.2
        have ran := read_present plant.mapping.device there.1 there.2.1 present
        rw [ran] at device ⊢
        obtain ⟨holding, kept⟩ := still device
        refine ⟨_, _, _, rfl, kept, holding, fun _ => ⟨if_pos rfl, addr, rfl, there.2.1, present⟩,
          fun absent => absurd there absent⟩
      · obtain ⟨errno, ran⟩ := read_absent plant.mapping.device there
        rw [ran] at device ⊢
        obtain ⟨holding, kept⟩ := still device
        exact ⟨_, _, _, rfl, kept, holding, fun present => absurd present there, fun _ => by decide⟩

theorem write_cases {machine : Nat} {plant : SerialPlant} {view : Plant}
    (represents : Represents slave machine plant view) (dataAddr : String) (data : List UInt16)
    (len : Nat) (delivery : Delivery) :
    ∃ left ret,
      plcWriteWorlds server plant dataAddr data len delivery = some (left, ret) ∧
      left.connection = plant.connection ∧ left.sequenceID = plant.sequenceID ∧
      left.client.slave = some slave ∧ Kept plant.mapping left.mapping ∧
      (present plant.mapping dataAddr 123 len = true → ∃ addr,
        Transcations.stoi dataAddr = some addr ∧ len ≤ 123 ∧
          left.mapping.registers.space =
            writeRange plant.mapping.registers.space (wireWord addr) (srcValues data len)) ∧
      (present plant.mapping dataAddr 123 len = false →
        left.mapping.registers.space = plant.mapping.registers.space) := by
  rw [plcWriteWorlds, present]
  cases parsed : Transcations.stoi dataAddr with
  | none =>
      exact ⟨plant, -1, rfl, rfl, rfl, represents.addressed, kept_refl _, nofun, fun _ => rfl⟩
  | some addr =>
      have loud : ¬ (rtuBackend.rtu = true ∧ slave = broadcastAddress) := fun both => direct both.2
      have above : (Command.writeRegisters addr len data).Above plant.mapping := trivial
      obtain ⟨sender, left, done, device, own, kept⟩ := exchange_refines rtu_lawful
        delivery.requests delivery.responses represents.addressed hears loud represents.cleanBits
        represents.cleanInputs above delivery.stale
      dsimp only
      rw [done, Option.map_some, decide_eq_true_iff, decide_eq_false_iff_not]
      by_cases there : 1 ≤ len ∧ len ≤ 123 ∧
          (readRange plant.mapping.registers.space (wireWord addr) len).isSome
      · have ran := write_present plant.mapping.device data there.1 there.2.1 there.2.2
        rw [ran] at device ⊢
        exact ⟨_, _, rfl, rfl, rfl, own, kept,
          fun _ => ⟨addr, rfl, there.2.1, congrArg Device.holding device⟩,
          fun absent => absurd there absent⟩
      · obtain ⟨errno, ran⟩ := write_absent plant.mapping.device data there
        rw [ran] at device ⊢
        exact ⟨_, _, rfl, rfl, rfl, own, kept, fun present => absurd present there,
          fun _ => congrArg Device.holding device⟩

omit hears direct in
theorem present_congr {mapping left : Mapping}
    (same : left.registers.space = mapping.registers.space) (addr : String) (limit nb : Nat) :
    present left addr limit nb = present mapping addr limit nb := by
  rw [present, present, same]

omit hears direct in
/-- Where a server has the registers of a request, the library takes the request. -/
theorem present_transferable {mapping : Mapping} {finsAddress : String → Option Cell}
    {ev : StationEvent} (rtu : ev.machineContex.protocol = .rtu) {addr : String} {limit nb : Nat}
    (there : present mapping addr limit nb = true) :
    transferable finsAddress ev addr limit nb = true := by
  rw [present] at there
  split at there
  · cases there
  · rename_i parsed
    have few := (of_decide_eq_true there).2.1
    simp [transferable, resolve, rtu, modbusAddress, parsed, few]

/-- A poll over the line is a poll of the plant, and never waits. -/
theorem poll_represents (finsAddress : String → Option Cell) {machine : Nat} {plant : SerialPlant}
    {view : Plant} (represents : Represents slave machine plant view) {ev : RtuEvent}
    (own : ev.machine = machine) (index : Nat) (stack : Nat → UInt16)
    (first second : Delivery) :
    ∃ next, pollEvent server ev index stack first second plant = some next ∧
      Represents slave machine next (PlcMemory.pollEvent finsAddress view index ev.toStationEvent
        (outcomeAt plant.mapping ev) stack) := by
  have status : view.connection ev.machine = plant.connection := own ▸ represents.connection
  rw [pollEvent]
  by_cases waits : plant.connection = .connectNo
  · have ignored : ¬ Takes ev.toEvent (lineOf finsAddress view index ev.toStationEvent stack)
        (outcomeOf finsAddress ev.toStationEvent (outcomeAt plant.mapping ev)) := by
      rintro ⟨connected, -, -⟩
      rw [lineOf, status, waits] at connected
      cases connected
    rw [if_pos waits, poll_ignored ev.rtu ignored]
    exact ⟨plant, rfl, represents⟩
  · rw [if_neg waits]
    obtain ⟨left, ret, words, done, kept, same, read, unread⟩ :=
      read_cases hears direct represents (readAddr ev.toEvent) ev.plcDataSize first
    rw [done, Option.bind_some]
    dsimp only
    cases there : present plant.mapping (readAddr ev.toEvent) 125 ev.plcDataSize with
    | false =>
        have ignored : ¬ Takes ev.toEvent (lineOf finsAddress view index ev.toStationEvent stack)
            (outcomeOf finsAddress ev.toStationEvent (outcomeAt plant.mapping ev)) := by
          rintro ⟨-, arrived, -⟩
          rw [outcomeOf, outcomeAt, there] at arrived
          cases arrived
        rw [if_pos (.inl (unread there)), poll_ignored ev.rtu ignored]
        exact ⟨left, rfl, kept⟩
    | true =>
        obtain ⟨rfl, addr, parsed, few, stored⟩ := read there
        have block : rdBuf finsAddress ev.toStationEvent view.memory stack =
            fun i => (words[i]?).getD (stack i) :=
          words_read ev.rtu represents.memory parsed few stored stack
        have arrives : (outcomeOf finsAddress ev.toStationEvent
            (outcomeAt plant.mapping ev)).read = true := by
          rw [outcomeOf, outcomeAt, readable, there, present_transferable ev.rtu there]
          rfl
        have written : (outcomeOf finsAddress ev.toStationEvent (outcomeAt plant.mapping ev)).write =
            present plant.mapping (writeAddr ev.toEvent) 123 ev.eapDataSize := by
          cases room : present plant.mapping (writeAddr ev.toEvent) 123 ev.eapDataSize with
          | true => rw [outcomeOf, outcomeAt, room, present_transferable ev.rtu room]; rfl
          | false => rw [outcomeOf, outcomeAt, room]; rfl
        by_cases known : left.sequenceID index =
            currentId ev.toEvent fun i => (words[i]?).getD (stack i)
        · have ignored : ¬ Takes ev.toEvent (lineOf finsAddress view index ev.toStationEvent stack)
              (outcomeOf finsAddress ev.toStationEvent (outcomeAt plant.mapping ev)) := by
            rintro ⟨-, -, other⟩
            dsimp only [lineOf] at other
            rw [kept.sequenceID, block] at other
            exact other known
          rw [if_pos (.inr known), poll_ignored ev.rtu ignored]
          exact ⟨left, rfl, kept⟩
        · have taken : Takes ev.toEvent (lineOf finsAddress view index ev.toStationEvent stack)
              (outcomeOf finsAddress ev.toStationEvent (outcomeAt plant.mapping ev)) := by
            refine ⟨?_, arrives, ?_⟩
            · dsimp only [lineOf]
              rw [status]
              cases connection : plant.connection with
              | connectOk => rfl
              | connectNo => exact absurd connection waits
            · dsimp only [lineOf]
              rw [kept.sequenceID, block]
              exact known
          rw [if_neg (not_or_intro (fun wrong => wrong rfl) known), poll_taken ev.rtu taken, block,
            written]
          have marked (id : UInt16) : Represents slave machine
              { left with sequenceID := Function.update left.sequenceID index id }
              { view with sequenceID := Function.update view.sequenceID index id } :=
            ⟨kept.addressed, kept.cleanBits, kept.cleanInputs, kept.memory, kept.connection,
              congrArg (Function.update · index id) kept.sequenceID⟩
          obtain ⟨next, ret, wrote, connection, sequenceID, addressed, keeps, room, closed⟩ :=
            write_cases hears direct (marked _) (writeAddr ev.toEvent)
              (memoryOf (ackFrame (currentId ev.toEvent fun i => (words[i]?).getD (stack i))) stack
                ev.eapDataSize) ev.eapDataSize second
          rw [present_congr same] at room closed
          rw [wrote, Option.map_some]
          refine ⟨next, rfl, addressed, keeps.clean kept.cleanBits,
            keeps.inputBits ▸ kept.cleanInputs, ?_, connection ▸ kept.connection,
            sequenceID ▸ (marked _).sequenceID⟩
          intro place value stored
          dsimp only at stored ⊢
          cases fits : present plant.mapping (writeAddr ev.toEvent) 123 ev.eapDataSize with
          | false =>
              rw [if_neg Bool.false_ne_true]
              rw [closed fits] at stored
              exact kept.memory place value stored
          | true =>
              obtain ⟨number, taken, small, space⟩ := room fits
              rw [if_pos rfl]
              rw [space] at stored
              exact words_written ev.rtu kept.memory taken small _ stack place stored

/-- What an event is on the line, it is in the plant. -/
theorem step_represents {finsAddress : String → Option Cell} {events : List RtuEvent}
    {machine : Nat} (owned : ∀ ev ∈ events, ev.machine = machine) {plant next : SerialPlant}
    {view : Plant} (represents : Represents slave machine plant view) {event : SerialEvent}
    (taken : serialStep server events plant event = some next) :
    ∃ after, plantStepAt finsAddress events machine plant view event = some after ∧
      Represents slave machine next after := by
  cases event with
  | plcWrites registers =>
      rw [serialStep] at taken
      split at taken
      · cases taken
        refine ⟨_, rfl, represents.addressed, represents.cleanBits, represents.cleanInputs, ?_,
          represents.connection, represents.sequenceID⟩
        intro place value stored
        dsimp only [memoryWith] at stored ⊢
        rw [if_pos rfl, stored]
        rfl
      · cases taken
  | poll index stack first second =>
      obtain ⟨ev, found, polled⟩ := Option.bind_eq_some_iff.mp taken
      have own := owned ev (List.mem_of_getElem? found)
      obtain ⟨reached, done, same⟩ := poll_represents hears direct finsAddress represents own
        index stack first second
      rw [done] at polled
      cases polled
      refine ⟨_, ?_, same⟩
      rw [plantStepAt, found, Option.bind_some, plantStep, List.getElem?_map, found]
      rfl
  | reconnect connected =>
      rw [serialStep, Option.some.injEq] at taken
      subst taken
      refine ⟨_, rfl, ?_⟩
      rw [represents.connection]
      split
      · exact ⟨represents.addressed, represents.cleanBits, represents.cleanInputs,
          represents.memory, Function.update_self .., represents.sequenceID⟩
      · exact represents

/-- Over any run of polls, reconnections and writes of the PLC's program, what happens on the
serial line, byte by byte, is what the plant makes of the same events when it is told which polls
the PLC has the registers for; and no poll waits. -/
theorem serial_line_refines (finsAddress : String → Option Cell) {events : List RtuEvent}
    {machine : Nat} (owned : ∀ ev ∈ events, ev.machine = machine) {plant finish : SerialPlant}
    {view : Plant} (represents : Represents slave machine plant view)
    {happenings : List SerialEvent}
    (reached : run (serialStep server events) plant happenings = some finish) :
    ∃ after,
      run (bothStep server finsAddress events machine) (plant, view) happenings =
        some (finish, after) ∧
      Represents slave machine finish after ∧
      ∀ index < events.length, ∀ stack first second,
        (serialStep server events finish (.poll index stack first second)).isSome := by
  induction happenings generalizing plant view with
  | nil =>
      cases reached
      refine ⟨view, rfl, represents, fun index inside stack first second => ?_⟩
      have found := List.getElem?_eq_getElem inside
      have own := owned _ (List.getElem_mem inside)
      obtain ⟨next, done, -⟩ := poll_represents hears direct finsAddress represents own index stack
        first second
      rw [serialStep, found, Option.bind_some, done]
      rfl
  | cons event rest ih =>
      obtain ⟨next, head, tail⟩ := run_cons_some reached
      obtain ⟨after, moved, same⟩ := step_represents hears direct owned represents head
      obtain ⟨last, ran, final, polls⟩ := ih same tail
      refine ⟨last, ?_, final, polls⟩
      rw [run, bothStep, head, Option.bind_some, moved]
      exact ran

end Refines

def statusEvent : RtuEvent where
  eventAction := .machineStatus
  eventName := "status"
  plcEventAddr := "10"
  eapEventAddr := "20"
  eapDataSize := 3
  flag := ""
  machineContex :=
    { protocol := .rtu
      sectionName := "section"
      machineName := "machine"
      wordSwap := false
      intSwap := false
      plcAlarmCodeList := fun _ => none }
  plcDataSize := 3
  machine := 0
  rtu := rfl
  sized := by decide

/-- A PLC with 32 registers, behind a proxy that has just connected. -/
def connectedPlant : SerialPlant where
  client := { slave := some 5, tid := 0 }
  mapping := modbusMappingNewStartAddress 0 0 0 0 0 32 0 0
  connection := .connectOk
  sequenceID := fun _ => 0xFFFF

/-- Every message comes byte by byte. -/
def slowly : Delivery where
  stale := []
  requests := .bytewise rtuBackend .indication
  responses := .bytewise rtuBackend .confirmation

theorem status_polled :
    ∃ finish after,
      run (bothStep { slave := some 5, tid := 0 } (fun _ => none) [statusEvent] 0)
        (connectedPlant,
          { memory := fun _ => 0, connection := fun _ => .connectOk, sequenceID := fun _ => 0xFFFF })
        [.poll 0 (fun _ => 0) slowly slowly] = some (finish, after) ∧
      Represents 5 0 finish after ∧
      ∀ index < [statusEvent].length, ∀ stack first second,
        (serialStep { slave := some 5, tid := 0 } [statusEvent] finish
          (.poll index stack first second)).isSome := by
  have clean := new_mapping_clean 0 0 0 0 0 32 0 0
  have start : Represents 5 0 connectedPlant
      { memory := fun _ => 0, connection := fun _ => .connectOk, sequenceID := fun _ => 0xFFFF } := by
    refine ⟨rfl, clean.1, clean.2, ?_, rfl, rfl⟩
    intro place value stored
    rw [Table.space, Table.get] at stored
    split at stored
    · cases stored
    · exact (List.eq_of_mem_replicate (List.mem_of_getElem? stored)).symm
  have hears : rtuBackend.Hears { slave := some 5, tid := 0 } 5 := rtu_lawful.accepted _ 5 (.inl rfl)
  have owned : ∀ ev ∈ [statusEvent], ev.machine = 0 := by
    intro ev member
    rw [List.mem_singleton] at member
    rw [member]
    rfl
  obtain ⟨next, done, -⟩ := poll_represents hears (by decide) (fun _ => none) start
    (owned statusEvent (List.mem_singleton_self _)) 0 (fun _ => 0) slowly slowly
  refine ⟨next, serial_line_refines hears (by decide) (fun _ => none) owned start ?_⟩
  rw [run, serialStep, List.getElem?_cons_zero, Option.bind_some, done]
  rfl

end DevHub.SerialLine
