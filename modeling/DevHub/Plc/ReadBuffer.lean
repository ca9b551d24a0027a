import DevHub.Plc.Handled
import DevHub.Plc.Memory
import Mathlib.Data.List.Basic

/-!
`rd_buf` in one poll: the bytes that `PlcReadWorlds` stores there, and the fields of the
packed frames that the three handlers decode. The register read is the one of modbus.c,
finslib is the parameter `finsRead`, and what was in the buffer before is part of the poll.
-/

namespace DevHub.ReadBuffer

open PlcEvent PlcMemory HandledEvent

set_option autoImplicit false

def evDataBuffLen : Nat := 1000

def toInt (number : Nat) : Int :=
  if number < 2 ^ 31 then number else (number : Int) - 2 ^ 32

/-- A reply that came with the right function and check sum. The count of its bytes is a
byte. -/
structure Reply where
  registers : List UInt16
  short : registers.length ≤ 127

/-- The result of `modbus_read_registers` and the registers that it stores. The request
has 16 bits for the number. -/
def modbusReadRegisters (nb : Int) (reply : Option Reply) : Int × List UInt16 :=
  if 125 < nb then (-1, [])
  else
    match reply with
    | none => (-1, [])
    | some reply =>
        if nb % 65536 = reply.registers.length then (reply.registers.length, reply.registers)
        else (-1, [])

def bytesOf (word : UInt16) : List UInt8 := [word.toUInt8, (word >>> 8).toUInt8]

def words (buf : Nat → UInt8) : Block := fun index =>
  (buf (2 * index)).toUInt16 ||| ((buf (2 * index + 1)).toUInt16 <<< 8)

structure Poll where
  connectionStatus : ConnectionStatus
  sequenceID : UInt16
  reply : Option Reply
  stack : Nat → UInt8

structure Field where
  offset : Nat
  size : Nat

def sequenceIdField : Field where
  offset := 0
  size := 2

/-- What a handler decodes of a new event, in the frames `Fream_..._plc`. -/
def frameFields : EventAction → List Field
  | .alarmCode => ⟨2, 2⟩ :: (List.range 20).map fun i => ⟨4 + 2 * i, 2⟩
  | .machineStatus => [⟨4, 2⟩]
  | .machineYield => [⟨4, 4⟩, ⟨8, 4⟩, ⟨12, 2⟩, ⟨14, 2⟩]

/-- `sizeof` of the frames. -/
def frameLength : EventAction → Nat
  | .alarmCode => 44
  | .machineStatus => 6
  | .machineYield => 16

section Finslib

-- The bytes of an address and a number of words, where the read succeeds.
variable (finsRead : String → Nat → Option (List UInt8))

/-- Finslib stores two bytes for each word. -/
def StoresWords : Prop :=
  ∀ addr number bytes, finsRead addr number = some bytes → bytes.length = 2 * number

def finsReadWorlds (plcAddr : String) (recvLen : Nat) : Int × List UInt8 :=
  match finsRead plcAddr (recvLen / 2) with
  | some bytes => (0, bytes)
  | none => (-1, [])

/-- The result is compared with `recvLen` as an `unsigned int`. -/
def rtuReadWorlds (plcAddr : String) (recvLen : Nat) (reply : Option Reply) : Int × List UInt8 :=
  match Transcations.stoi plcAddr with
  | none => (-1, [])
  | some _ =>
      let read := modbusReadRegisters (toInt recvLen) reply
      (if read.1 % 2 ^ 32 = recvLen then 0 else -1, read.2.flatMap bytesOf)

def readData (ev : StationEvent) (poll : Poll) : Int × List UInt8 :=
  if poll.connectionStatus = .connectNo then (-2, [])
  else
    match ev.machineContex.protocol with
    | .fins => finsReadWorlds finsRead (readAddr ev.toEvent) ev.plcDataSize
    | .rtu => rtuReadWorlds (readAddr ev.toEvent) ev.plcDataSize poll.reply

def rdBuf (ev : StationEvent) (poll : Poll) : Nat → UInt8 := fun index =>
  ((readData finsRead ev poll).2[index]?).getD (poll.stack index)

def NewId (ev : StationEvent) (poll : Poll) : Prop :=
  poll.sequenceID ≠ currentId ev.toEvent (words (rdBuf finsRead ev poll))

instance (ev : StationEvent) (poll : Poll) : Decidable (NewId finsRead ev poll) :=
  inferInstanceAs (Decidable (_ ≠ _))

def decoded (ev : StationEvent) (poll : Poll) : List Field :=
  if (readData finsRead ev poll).1 ≠ 0 then []
  else sequenceIdField ::
    if NewId finsRead ev poll then frameFields ev.eventAction else []

structure Inside (ev : StationEvent) (poll : Poll) : Prop where
  stored : (readData finsRead ev poll).2.length ≤ evDataBuffLen
  decoded : ∀ field ∈ decoded finsRead ev poll,
    field.offset + field.size ≤ (readData finsRead ev poll).2.length

/-- The bytes that a handler needs: those of the id, and of a new event the frame. -/
def required (ev : StationEvent) (poll : Poll) : Nat :=
  if NewId finsRead ev poll then frameLength ev.eventAction else 2

/-- The size is at least what the handler needs, as bytes or as registers, and at most the
buffer; `2 ^ 32 - 1` is what the Modbus proxy takes the error of a read for. -/
def SizeFits (ev : StationEvent) (poll : Poll) : Prop :=
  match ev.machineContex.protocol with
  | .fins => required finsRead ev poll ≤ ev.plcDataSize ∧ ev.plcDataSize ≤ evDataBuffLen + 1
  | .rtu => required finsRead ev poll ≤ 2 * ev.plcDataSize ∧ ev.plcDataSize ≠ 2 ^ 32 - 1

end Finslib

/-! ### What a read stores -/

theorem bytes_of_length (registers : List UInt16) :
    (registers.flatMap bytesOf).length = 2 * registers.length := by
  induction registers with
  | nil => rfl
  | cons word rest ih =>
      rw [List.flatMap_cons, List.length_append, ih, List.length_cons, bytesOf]
      simp only [List.length_cons, List.length_nil]
      omega

/-- A register read that the proxy takes as answered: of all its registers, or of none, for
the one size that is the error -1. -/
theorem modbus_read_cases {size : Nat} (sized : size < 2 ^ 32) {reply : Option Reply}
    (answered : (modbusReadRegisters (toInt size) reply).1 % 2 ^ 32 = size) :
    (size = 2 ^ 32 - 1 ∧ (modbusReadRegisters (toInt size) reply).2 = []) ∨
      (size ≤ 125 ∧ (modbusReadRegisters (toInt size) reply).2.length = size) := by
  have failed (same : ((-1 : Int) % 2 ^ 32) = size) : size = 2 ^ 32 - 1 := by omega
  unfold modbusReadRegisters at answered ⊢
  split at answered
  · rename_i many
    exact Or.inl ⟨failed answered, by rw [if_pos many]⟩
  · rename_i few
    rw [if_neg few]
    cases reply with
    | none => exact Or.inl ⟨failed answered, rfl⟩
    | some reply =>
        simp only at answered ⊢
        split at answered
        · rename_i same
          have short := reply.short
          have whole : reply.registers.length = size := by
            simp only at answered
            omega
          right
          rw [if_pos same]
          refine ⟨?_, whole⟩
          have plain : toInt size = size := if_pos (by omega)
          omega
        · rename_i other
          exact Or.inl ⟨failed answered, by rw [if_neg other]⟩

section Finslib

variable {finsRead : String → Nat → Option (List UInt8)} {ev : StationEvent} {poll : Poll}

theorem fins_stored (stores : StoresWords finsRead) (fins : ev.machineContex.protocol = .fins)
    (success : (readData finsRead ev poll).1 = 0) :
    (readData finsRead ev poll).2.length = 2 * (ev.plcDataSize / 2) := by
  unfold readData at success ⊢
  split at success
  · cases success
  · rename_i connected
    rw [if_neg connected]
    simp only [fins, finsReadWorlds] at success ⊢
    cases read : finsRead (readAddr ev.toEvent) (ev.plcDataSize / 2) with
    | none =>
        rw [read] at success
        cases success
    | some bytes => exact stores _ _ _ read

theorem rtu_stored (sized : ev.plcDataSize < 2 ^ 32) (rtu : ev.machineContex.protocol = .rtu)
    (success : (readData finsRead ev poll).1 = 0) :
    (ev.plcDataSize = 2 ^ 32 - 1 ∧ (readData finsRead ev poll).2.length = 0) ∨
      (ev.plcDataSize ≤ 125 ∧ (readData finsRead ev poll).2.length = 2 * ev.plcDataSize) := by
  unfold readData at success ⊢
  split at success
  · cases success
  · rename_i connected
    rw [if_neg connected]
    simp only [rtu, rtuReadWorlds] at success ⊢
    cases number : Transcations.stoi (readAddr ev.toEvent) with
    | none =>
        rw [number] at success
        cases success
    | some addr =>
        rw [number] at success
        simp only at success ⊢
        split at success
        · rename_i answered
          rw [bytes_of_length]
          rcases modbus_read_cases sized answered with refused | whole
          · exact Or.inl ⟨refused.1, by rw [refused.2]; rfl⟩
          · exact Or.inr ⟨whole.1, by rw [whole.2]⟩
        · cases success

/-! ### What a handler decodes -/

theorem frame_fields_within (action : EventAction) (stored : Nat) :
    (∀ field ∈ frameFields action, field.offset + field.size ≤ stored) ↔
      frameLength action ≤ stored := by
  cases action with
  | alarmCode =>
      constructor
      · intro within
        have last : (⟨42, 2⟩ : Field) ∈ frameFields .alarmCode :=
          List.mem_cons_of_mem _ (List.mem_map.mpr ⟨19, by decide, rfl⟩)
        exact within ⟨42, 2⟩ last
      · intro whole field member
        rcases List.mem_cons.mp member with first | content
        · subst first
          exact le_trans (by decide) whole
        · obtain ⟨i, below, rfl⟩ := List.mem_map.mp content
          have last := List.mem_range.mp below
          rw [frameLength] at whole
          simp only
          omega
  | machineStatus => simp [frameFields, frameLength]
  | machineYield =>
      simp only [frameFields, frameLength, List.forall_mem_cons, List.not_mem_nil, false_imp_iff,
        implies_true, and_true]
      omega

theorem two_le_frame_length (action : EventAction) : 2 ≤ frameLength action := by
  cases action <;> decide

theorem decoded_within (success : (readData finsRead ev poll).1 = 0) (stored : Nat) :
    (∀ field ∈ decoded finsRead ev poll, field.offset + field.size ≤ stored) ↔
      required finsRead ev poll ≤ stored := by
  have shortest := two_le_frame_length ev.eventAction
  rw [decoded, if_neg (by simp [success]), required, List.forall_mem_cons]
  by_cases fresh : NewId finsRead ev poll
  · rw [if_pos fresh, if_pos fresh, frame_fields_within, sequenceIdField]
    exact and_iff_right_of_imp fun whole => le_trans shortest whole
  · rw [if_neg fresh, if_neg fresh, sequenceIdField]
    simp

theorem required_even (finsRead : String → Nat → Option (List UInt8)) (ev : StationEvent)
    (poll : Poll) : 2 ≤ required finsRead ev poll ∧ required finsRead ev poll % 2 = 0 := by
  unfold required
  split
  · cases ev.eventAction <;> decide
  · decide

theorem report_of_fields (ev : Event) {left right : Nat → UInt8}
    (agree : ∀ field ∈ frameFields ev.eventAction, ∀ index, field.offset ≤ index →
      index < field.offset + field.size → left index = right index) :
    eventReport ev (words left) = eventReport ev (words right) := by
  have word {field : Field} (member : field ∈ frameFields ev.eventAction) {index : Nat}
      (from_offset : field.offset ≤ 2 * index)
      (to_end : 2 * index + 2 ≤ field.offset + field.size) :
      words left index = words right index := by
    have low := agree field member (2 * index) from_offset (by omega)
    have high := agree field member (2 * index + 1) (by omega) (by omega)
    rw [words, words, low, high]
  unfold eventReport
  cases action : ev.eventAction with
  | alarmCode =>
      have content (i : Nat) (below : i ∈ List.range 20) :
          words left (2 + i) = words right (2 + i) := by
        have member : (⟨4 + 2 * i, 2⟩ : Field) ∈ frameFields ev.eventAction := by
          rw [action]
          exact List.mem_cons_of_mem _ (List.mem_map.mpr ⟨i, below, rfl⟩)
        exact word member (by simp only; omega) (by simp only; omega)
      have alarms : alarmList ev (words left) = alarmList ev (words right) := by
        unfold alarmList
        apply List.flatMap_congr
        intro i below
        rw [content i below]
      simp only [alarmCodeReport, alarms]
  | machineStatus =>
      have code : words left 2 = words right 2 :=
        word (show ⟨4, 2⟩ ∈ _ by simp [action, frameFields]) (by decide) (by decide)
      simp only [machineStatusReport, code]
  | machineYield =>
      have input (index : Nat) (inside : 4 ≤ 2 * index ∧ 2 * index + 2 ≤ 4 + 4) :
          words left index = words right index :=
        word (show ⟨4, 4⟩ ∈ _ by simp [action, frameFields]) inside.1 inside.2
      have output (index : Nat) (inside : 8 ≤ 2 * index ∧ 2 * index + 2 ≤ 8 + 4) :
          words left index = words right index :=
        word (show ⟨8, 4⟩ ∈ _ by simp [action, frameFields]) inside.1 inside.2
      have yield : words left 6 = words right 6 :=
        word (show ⟨12, 2⟩ ∈ _ by simp [action, frameFields]) (by decide) (by decide)
      have oee : words left 7 = words right 7 :=
        word (show ⟨14, 2⟩ ∈ _ by simp [action, frameFields]) (by decide) (by decide)
      simp only [machineYieldReport, doubleWord, input 2 (by decide), input 3 (by decide),
        output 4 (by decide), output 5 (by decide), yield, oee]

/-- A poll that stays inside reports nothing of what was in the buffer before. -/
theorem inside_ignores_stack (success : (readData finsRead ev poll).1 = 0)
    (inside : Inside finsRead ev poll) (fresh : NewId finsRead ev poll) (other : Nat → UInt8) :
    eventReport ev.toEvent (words (rdBuf finsRead ev { poll with stack := other })) =
      eventReport ev.toEvent (words (rdBuf finsRead ev poll)) := by
  apply report_of_fields
  intro field member index _ below
  have listed : field ∈ decoded finsRead ev poll := by
    rw [decoded, if_neg (by simp [success]), if_pos fresh]
    exact List.mem_cons_of_mem _ member
  have stored := Nat.lt_of_lt_of_le below (inside.decoded field listed)
  have same : readData finsRead ev { poll with stack := other } = readData finsRead ev poll := rfl
  rw [rdBuf, rdBuf, same, List.getElem?_eq_getElem stored, Option.getD_some, Option.getD_some]

/-- The bytes that are stored are those of the words that the poll transfers. -/
theorem stored_cells (stores : StoresWords finsRead) {finsAddress : String → Option Cell}
    (addressed : (resolve finsAddress ev.machineContex.protocol (readAddr ev.toEvent)).isSome)
    (sized : ev.plcDataSize < 2 ^ 32) (success : (readData finsRead ev poll).1 = 0) :
    (readData finsRead ev poll).2.length = 2 * (readCells finsAddress ev).length := by
  obtain ⟨first, found⟩ := Option.isSome_iff_exists.mp addressed
  rw [readCells, found, span, List.length_map, List.length_range]
  cases protocol : ev.machineContex.protocol with
  | fins => exact fins_stored stores protocol success
  | rtu =>
      rcases rtu_stored sized protocol success with refused | whole
      · have none : registers 125 ev.plcDataSize = 0 := if_neg (by omega)
        rw [refused.2]
        simp only [none]
      · have all : registers 125 ev.plcDataSize = ev.plcDataSize := if_pos whole.1
        rw [whole.2]
        simp only [all]

/-- The polls of the PLC's memory allow every successful read. -/
theorem success_readable {finsAddress : String → Option Cell}
    (addressed : ev.machineContex.protocol = .fins →
      (finsAddress (readAddr ev.toEvent)).isSome)
    (sized : ev.plcDataSize < 2 ^ 32) (success : (readData finsRead ev poll).1 = 0) :
    readable finsAddress ev = true := by
  unfold readable transferable
  cases protocol : ev.machineContex.protocol with
  | fins => simp [resolve, addressed protocol]
  | rtu =>
      have number : (modbusAddress (readAddr ev.toEvent)).isSome := by
        unfold readData at success
        split at success
        · cases success
        · simp only [protocol, rtuReadWorlds] at success
          unfold modbusAddress
          cases found : Transcations.stoi (readAddr ev.toEvent) with
          | none =>
              rw [found] at success
              cases success
          | some addr => rfl
      rcases rtu_stored sized protocol success with refused | whole
      · simp [number, refused.1]
      · simp [resolve, number, whole.1]

end Finslib

/-- A successful poll stays inside the buffer, and its handler inside what was read, exactly
when the size fits. -/
theorem poll_inside_iff (finsRead : String → Nat → Option (List UInt8))
    (stores : StoresWords finsRead) {ev : StationEvent} (sized : ev.plcDataSize < 2 ^ 32)
    {poll : Poll} (success : (readData finsRead ev poll).1 = 0) :
    Inside finsRead ev poll ↔ SizeFits finsRead ev poll := by
  have needs := required_even finsRead ev poll
  have inside : Inside finsRead ev poll ↔
      (readData finsRead ev poll).2.length ≤ evDataBuffLen ∧
        required finsRead ev poll ≤ (readData finsRead ev poll).2.length := by
    rw [← decoded_within success]
    exact ⟨fun both => ⟨both.stored, both.decoded⟩, fun both => ⟨both.1, both.2⟩⟩
  rw [inside, SizeFits]
  cases protocol : ev.machineContex.protocol with
  | fins =>
      rw [fins_stored stores protocol success]
      simp only [evDataBuffLen]
      omega
  | rtu =>
      simp only [evDataBuffLen]
      rcases rtu_stored sized protocol success with refused | whole
      · rw [refused.2]
        omega
      · rw [whole.2]
        omega

def yieldEvent (plcBlockSize : Nat) : StationEvent where
  eventAction := .machineYield
  eventName := "MachineYield"
  plcEventAddr := "5097"
  eapEventAddr := "6059"
  eapDataSize := 6
  flag := "DM"
  machineContex := {
    protocol := .fins
    sectionName := "s1"
    machineName := "m1"
    wordSwap := false
    intSwap := false
    plcAlarmCodeList := fun _ => none }
  plcDataSize := plcBlockSize
  machine := 0

def onesRead (_ : String) (number : Nat) : Option (List UInt8) :=
  some (List.replicate (2 * number) 1)

theorem ones_stores : StoresWords onesRead := by
  intro addr number bytes read
  cases read
  exact List.length_replicate

def firstPoll : Poll where
  connectionStatus := .connectOk
  sequenceID := 0xFFFF
  reply := none
  stack _ := 0

theorem whole_frame_inside :
    Inside onesRead (yieldEvent 16) firstPoll ↔ SizeFits onesRead (yieldEvent 16) firstPoll :=
  poll_inside_iff onesRead ones_stores (by decide) rfl

/-- Of eight bytes the handler decodes sixteen. -/
theorem short_block_outside :
    StoresWords onesRead ∧ (readData onesRead (yieldEvent 8) firstPoll).1 = 0 ∧
      ¬ Inside onesRead (yieldEvent 8) firstPoll := by
  refine ⟨ones_stores, rfl, ?_⟩
  intro inside
  have listed : (⟨14, 2⟩ : Field) ∈ decoded onesRead (yieldEvent 8) firstPoll := by
    have fresh : NewId onesRead (yieldEvent 8) firstPoll := by decide
    rw [decoded, if_neg (by decide), if_pos fresh]
    simp [yieldEvent, frameFields]
  have beyond : 16 ≤ 8 := inside.decoded ⟨14, 2⟩ listed
  exact absurd beyond (by decide)

end DevHub.ReadBuffer
