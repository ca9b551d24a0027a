import DevHub.Plc.Memory

/-!
Which words of the PLC an event touches. A layout is a set of events whose blocks
have addresses and lie apart; the footprint of an event is exact when it reads its
PLC block and writes its EAP block, no word more, no word less and none from behind
the acknowledgement.
-/

namespace DevHub.Footprint

open PlcEvent PlcMemory Transition

set_option autoImplicit false

abbrev Apart (left right : List Cell) : Prop := ∀ cell ∈ left, cell ∉ right

structure Layout (finsAddress : String → Option Cell) where
  events : List StationEvent
  addressed : ∀ ev ∈ events, (blockStart finsAddress ev ev.plcEventAddr).isSome = true ∧
    (blockStart finsAddress ev ev.eapEventAddr).isSome = true
  plcApart : events.Pairwise fun left right =>
    Apart (plcBlock finsAddress left) (plcBlock finsAddress right)
  eapApart : events.Pairwise fun left right =>
    Apart (eapBlock finsAddress left) (eapBlock finsAddress right)
  mixedApart : ∀ left ∈ events, ∀ right ∈ events,
    Apart (eapBlock finsAddress left) (plcBlock finsAddress right)

structure FootprintExact (finsAddress : String → Option Cell) (ev : StationEvent) : Prop where
  reads : readCells finsAddress ev = plcBlock finsAddress ev
  writes : writeCells finsAddress ev = eapBlock finsAddress ev
  framed : ∀ id, (writeCells finsAddress ev).length ≤ (ackFrame id).length

/-- A poll changes no word of a PLC block and none of another event's EAP block. -/
def Confined (finsAddress : String → Option Cell) (events : List StationEvent) (before : Plant)
    (happening : PlantEvent) (after : Plant) : Prop :=
  ∀ index outcome stack, happening = .poll index outcome stack →
    ∀ other ev, events[other]? = some ev → ∀ cell,
      cell ∈ plcBlock finsAddress ev ∨ other ≠ index ∧ cell ∈ eapBlock finsAddress ev →
        after.memory cell = before.memory cell

theorem Layout.eap_apart {finsAddress : String → Option Cell} (layout : Layout finsAddress)
    {i j : Nat} {left right : StationEvent} (first : layout.events[i]? = some left)
    (second : layout.events[j]? = some right) (different : i ≠ j) :
    Apart (eapBlock finsAddress left) (eapBlock finsAddress right) := by
  obtain ⟨iBound, rfl⟩ := List.getElem?_eq_some_iff.mp first
  obtain ⟨jBound, rfl⟩ := List.getElem?_eq_some_iff.mp second
  have pairs := List.pairwise_iff_getElem.mp layout.eapApart
  rcases Nat.lt_or_gt_of_ne different with before | after
  · exact pairs i j iBound jBound before
  · exact fun cell here there => pairs j i jBound iBound after cell there here

theorem span_length (first : Cell) (words : Nat) : (span (some first) words).length = words := by
  simp [span]

theorem write_from_apart {cells : List Cell} {cell : Cell} (apart : cell ∉ cells)
    (memory : Memory) (frame : List UInt16) (stack : Nat → UInt16) (offset : Nat) :
    writeFrom memory frame stack offset cells cell = memory cell := by
  induction cells generalizing memory offset with
  | nil => rfl
  | cons head rest ih =>
      have different : cell ≠ head := List.ne_of_not_mem_cons apart
      rw [writeFrom, ih (List.not_mem_of_not_mem_cons apart), Function.update_of_ne different]

section Events

variable {finsAddress : String → Option Cell}

theorem write_ack_apart {ev : StationEvent} {cell : Cell}
    (apart : cell ∉ writeCells finsAddress ev) (memory : Memory) (stack : Nat → UInt16)
    (log : List Handled) : writeAck finsAddress ev memory stack log cell = memory cell := by
  cases log with
  | nil => rfl
  | cons handled rest =>
      rw [writeAck]
      split
      · exact write_from_apart apart _ _ _ _
      · rfl

theorem poll_memory (plant : Plant) (index : Nat) (ev : StationEvent) (outcome : Outcome)
    (stack : Nat → UInt16) {cell : Cell} (apart : cell ∉ writeCells finsAddress ev) :
    (pollEvent finsAddress plant index ev outcome stack).memory cell = plant.memory cell :=
  write_ack_apart apart _ _ _

theorem step_confined {events : List StationEvent}
    (apart : ∀ (i j : Nat) left right, events[i]? = some left → events[j]? = some right →
      Apart (writeCells finsAddress left) (plcBlock finsAddress right) ∧
        (i ≠ j → Apart (writeCells finsAddress left) (eapBlock finsAddress right)))
    {before after : Plant} {happening : PlantEvent}
    (taken : plantStep finsAddress events before happening = some after) :
    Confined finsAddress events before happening after := by
  intro index outcome stack polled other ev known cell member
  subst polled
  obtain ⟨polled, found, rfl⟩ := Option.map_eq_some_iff.mp taken
  obtain ⟨plc, eap⟩ := apart index other polled ev found known
  apply poll_memory
  intro written
  rcases member with block | ⟨different, block⟩
  · exact plc cell written block
  · exact eap (Ne.symm different) cell written block

theorem fins_reads_block {ev : StationEvent} (fins : ev.machineContex.protocol = .fins) :
    readCells finsAddress ev = plcBlock finsAddress ev := by
  simp [readCells, plcBlock, resolve, blockStart, readAddr, fins]

/-- The FINS proxy writes at the right place, but a word for each byte of the block. -/
theorem fins_write_cells {ev : StationEvent} (fins : ev.machineContex.protocol = .fins) :
    writeCells finsAddress ev =
      span (blockStart finsAddress ev ev.eapEventAddr) ev.eapDataSize := by
  simp [writeCells, resolve, blockStart, writeAddr, fins]

/-- The Modbus proxy writes over the block of the PLC. -/
theorem rtu_write_cells {ev : StationEvent} (rtu : ev.machineContex.protocol = .rtu) :
    writeCells finsAddress ev =
      span (blockStart finsAddress ev ev.plcEventAddr) (registers 123 ev.eapDataSize) := by
  simp [writeCells, resolve, blockStart, writeAddr, rtu]

theorem rtu_read_cells {ev : StationEvent} (rtu : ev.machineContex.protocol = .rtu) :
    readCells finsAddress ev =
      span (blockStart finsAddress ev ev.plcEventAddr) (registers 125 ev.plcDataSize) := by
  simp [readCells, resolve, blockStart, readAddr, rtu]

theorem registers_half {limit number : Nat} (positive : 0 < limit) :
    registers limit number = number / 2 ↔ number = 0 := by
  unfold registers
  split <;> omega

/-- An event whose blocks have addresses touches exactly them when there is nothing
to write and, over Modbus, nothing to read. -/
theorem exact_iff_nothing {ev : StationEvent}
    (plc : (blockStart finsAddress ev ev.plcEventAddr).isSome = true)
    (eap : (blockStart finsAddress ev ev.eapEventAddr).isSome = true) :
    FootprintExact finsAddress ev ↔
      ev.eapDataSize = 0 ∧ (ev.machineContex.protocol = .rtu → ev.plcDataSize = 0) := by
  obtain ⟨plcStart, plcFound⟩ := Option.isSome_iff_exists.mp plc
  obtain ⟨eapStart, eapFound⟩ := Option.isSome_iff_exists.mp eap
  have eapLength : (eapBlock finsAddress ev).length = ev.eapDataSize / 2 := by
    rw [eapBlock, eapFound, span_length]
  have plcLength : (plcBlock finsAddress ev).length = ev.plcDataSize / 2 := by
    rw [plcBlock, plcFound, span_length]
  cases protocol : ev.machineContex.protocol with
  | fins =>
      have written : writeCells finsAddress ev =
          span (blockStart finsAddress ev ev.eapEventAddr) ev.eapDataSize :=
        fins_write_cells protocol
      constructor
      · intro exact
        have lengths := congrArg List.length exact.writes
        rw [written, eapFound, span_length, eapLength] at lengths
        refine ⟨by omega, ?_⟩
        intro impossible
        cases impossible
      · intro nothing
        constructor
        · exact fins_reads_block protocol
        · rw [written, eapBlock, nothing.1]
        · intro id
          rw [written, eapFound, span_length, nothing.1]
          exact Nat.zero_le _
  | rtu =>
      have written : writeCells finsAddress ev =
          span (blockStart finsAddress ev ev.plcEventAddr) (registers 123 ev.eapDataSize) :=
        rtu_write_cells protocol
      have received : readCells finsAddress ev =
          span (blockStart finsAddress ev ev.plcEventAddr) (registers 125 ev.plcDataSize) :=
        rtu_read_cells protocol
      constructor
      · intro exact
        have lengths := congrArg List.length exact.writes
        have readLengths := congrArg List.length exact.reads
        rw [written, plcFound, span_length, eapLength, registers_half (by decide)] at lengths
        rw [received, plcFound, span_length, plcLength, registers_half (by decide)] at readLengths
        exact ⟨lengths, fun _ => readLengths⟩
      · intro nothing
        have unread := nothing.2 rfl
        constructor
        · rw [received, plcBlock, unread]
          rfl
        · rw [written, eapBlock, nothing.1, plcFound, eapFound]
          rfl
        · intro id
          rw [written, plcFound, span_length, nothing.1]
          exact Nat.zero_le _

end Events

/-- In every run over a layout each footprint is exact and no acknowledgement reaches
another block exactly when no event has anything to write or, over Modbus, to read. -/
theorem footprint_exact_iff_nothing (finsAddress : String → Option Cell)
    (layout : Layout finsAddress) (plant : Plant) (happenings : List PlantEvent) :
    ((∀ ev ∈ layout.events, FootprintExact finsAddress ev) ∧
        EachStep (plantStep finsAddress layout.events) (Confined finsAddress layout.events) plant
          happenings) ↔
      ∀ ev ∈ layout.events, ev.eapDataSize = 0 ∧
        (ev.machineContex.protocol = .rtu → ev.plcDataSize = 0) := by
  have exact (ev : StationEvent) (member : ev ∈ layout.events) :=
    exact_iff_nothing (layout.addressed ev member).1 (layout.addressed ev member).2
  constructor
  · intro holds ev member
    exact (exact ev member).mp (holds.1 ev member)
  · intro nothing
    have exacts (ev : StationEvent) (member : ev ∈ layout.events) :=
      (exact ev member).mpr (nothing ev member)
    refine ⟨exacts, ?_⟩
    have confined (before : Plant) (happening : PlantEvent) (after : Plant) (_ : True)
        (taken : plantStep finsAddress layout.events before happening = some after) :
        True ∧ Confined finsAddress layout.events before happening after := by
      refine ⟨trivial, step_confined ?_ taken⟩
      intro i j left right found known
      rw [(exacts left (List.mem_of_getElem? found)).writes]
      exact ⟨layout.mixedApart left (List.mem_of_getElem? found) right
        (List.mem_of_getElem? known), fun different => layout.eap_apart found known different⟩
    exact each_step_of_keeps confined trivial

/-! ### Two neighbours of the designer XML -/

def lineContex : MachineContex where
  protocol := .fins
  sectionName := "GP01"
  machineName := "GP01-M01"
  wordSwap := false
  intSwap := false
  plcAlarmCodeList := fun _ => none

def machineStatus : StationEvent where
  eventAction := .machineStatus
  eventName := "MachineStatus"
  plcEventAddr := "5094"
  eapEventAddr := "6056"
  eapDataSize := 6
  flag := "DM"
  machineContex := lineContex
  plcDataSize := 6
  machine := 0

def machineYield : StationEvent where
  eventAction := .machineYield
  eventName := "MachineYield"
  plcEventAddr := "5097"
  eapEventAddr := "6059"
  eapDataSize := 6
  flag := "DM"
  machineContex := lineContex
  plcDataSize := 16
  machine := 0

def dmAddress (start : String) : Option Cell :=
  match start.toList with
  | 'D' :: 'M' :: digits =>
      (Transcations.stoi (String.ofList digits)).map fun number =>
        { area := "DM", index := number.toNat }
  | _ => none

def neighbours : Layout dmAddress where
  events := [machineStatus, machineYield]
  addressed := by decide
  plcApart := by
    decide
  eapApart := by
    decide
  mixedApart := by
    decide

def neighbourPlant : Plant where
  memory cell := if cell.index = 5094 then 5 else 7
  connection _ := .connectNo
  sequenceID _ := 0xFFFF

/-- The acknowledgement of a machine status covers that of the machine yield behind it. -/
theorem neighbour_overwritten :
    (¬ ∀ ev ∈ neighbours.events, FootprintExact dmAddress ev) ∧
      ¬ EachStep (plantStep dmAddress neighbours.events) (Confined dmAddress neighbours.events)
        neighbourPlant
        [.reconnect 0 true,
          .poll 0 { read := true, upstream := true, write := true } fun _ => 0] := by
  constructor
  · intro exact
    have writes := (exact machineStatus (List.mem_cons_self ..)).writes
    exact absurd (congrArg List.length writes) (by decide)
  · intro confined
    have kept := ((confined _ rfl).2 _ rfl).1 0 _ _ rfl 1 machineYield rfl
      { area := "DM", index := 6059 } (Or.inr ⟨by decide, by decide⟩)
    exact absurd kept (by decide)

end DevHub.Footprint
