import DevHub.Library.Packed
import DevHub.Library.Space
import DevHub.Modbus.Receive

/-!
`modbus_reply`: the tables of a device, what each request reads and writes of them, and the
response. The request stands in a buffer that is longer than it, and a table has a place for
each of its values only; what is done to any other place is not said by the code.
-/

namespace DevHub.Modbus

set_option autoImplicit false

/-! ### The mapping -/

/-- A table of a `modbus_mapping_t`, and the address of its first value. -/
structure Table (α : Type) where
  start : Int
  tab : List α

namespace Table

variable {α : Type}

/-- `none` for a place outside of the table. -/
def get (table : Table α) (i : Int) : Option α :=
  if i < 0 then none else table.tab[i.toNat]?

def set (table : Table α) (i : Int) (value : α) : Option (Table α) :=
  if 0 ≤ i ∧ i < table.tab.length then
    some { table with tab := table.tab.set i.toNat value }
  else none

def getAll (table : Table α) : Int → Nat → Option (List α)
  | _, 0 => some []
  | i, count + 1 =>
      (table.get i).bind fun value => (table.getAll (i + 1) count).map (value :: ·)

def setAll : Table α → Int → List α → Option (Table α)
  | table, _, [] => some table
  | table, i, value :: rest => (table.set i value).bind fun next => next.setAll (i + 1) rest

end Table

/-! ### The values at their addresses -/

namespace Table

open AddressSpace

variable {α : Type}

/-- What stands at the addresses that a client names. -/
def space (table : Table α) : Space α := fun address => table.get (address - table.start)

/-- What no request changes: where a table begins and how long it is. -/
def shape (table : Table α) : Int × Nat := (table.start, table.tab.length)

theorem get_is_some_iff (table : Table α) (i : Int) :
    (table.get i).isSome ↔ 0 ≤ i ∧ i < table.tab.length := by
  rw [get]
  by_cases below : i < 0
  · rw [if_pos below]
    simp only [Option.isSome_none, Bool.false_eq_true, false_iff]
    omega
  · rw [if_neg below, Option.isSome_iff_ne_none, Ne, List.getElem?_eq_none_iff]
    omega

theorem read_space (table : Table α) (address count : Nat) :
    readRange table.space address count = table.getAll (address - table.start) count := by
  induction count generalizing address with
  | zero => rfl
  | succ count ih =>
      have next : ((address + 1 : Nat) : Int) - table.start = address - table.start + 1 := by omega
      rw [readRange, getAll, ih, next]
      rfl

/-- The comparison that the code makes before it touches a range. -/
theorem outside_iff (table : Table α) (address count : Nat) (some : 1 ≤ count) :
    ((address : Int) - table.start < 0 ∨
        (address : Int) - table.start + count > table.tab.length) ↔
      readRange table.space address count = none := by
  rw [← Option.not_isSome_iff_eq_none, read_is_some_iff]
  constructor
  · intro outside each
    have first := (get_is_some_iff table _).mp (each 0 some)
    have last := (get_is_some_iff table _).mp (each (count - 1) (by omega))
    omega
  · intro missing
    by_contra inside
    apply missing
    intro i within
    apply (get_is_some_iff table _).mpr
    omega

theorem set_space {table next : Table α} {address : Nat} {value : α}
    (done : table.set (address - table.start) value = some next) :
    next.space = writeRange table.space address [value] ∧ next.shape = table.shape := by
  rw [set] at done
  split at done
  · rename_i inside
    cases done
    constructor
    · funext place
      by_cases here : place = address
      · subst here
        have stored : writeRange table.space place [value] (place + 0) = [value][0]? :=
          write_inside Nat.one_pos
        rw [Nat.add_zero] at stored
        rw [stored, space, get]
        dsimp only
        rw [if_neg (by omega), List.getElem?_set_self (by omega)]
        rfl
      · have kept : writeRange table.space address [value] place = table.space place := by
          by_cases before : place < address
          · exact write_before _ before
          · exact write_behind (by rw [List.length_singleton]; omega)
        rw [kept, space, space, get, get]
        dsimp only
        by_cases below : (place : Int) - table.start < 0
        · rw [if_pos below, if_pos below]
        · rw [if_neg below, if_neg below, List.getElem?_set_ne (by omega)]
    · rw [shape, shape, List.length_set]
  · cases done

theorem set_all_space {table next : Table α} {address : Nat} {values : List α}
    (done : table.setAll (address - table.start) values = some next) :
    next.space = writeRange table.space address values ∧ next.shape = table.shape := by
  induction values generalizing table address with
  | nil =>
      cases done
      exact ⟨(write_nil _ _).symm, rfl⟩
  | cons value rest ih =>
      rw [setAll, Option.bind_eq_some_iff] at done
      obtain ⟨middle, first, later⟩ := done
      obtain ⟨wrote, same⟩ := set_space first
      have start : middle.start = table.start := congrArg Prod.fst same
      have place : (address : Int) - table.start + 1 = (address + 1 : Nat) - middle.start := by
        rw [start]
        omega
      rw [place] at later
      obtain ⟨more, last⟩ := ih later
      rw [more, wrote, ← write_cons, last, same]
      exact ⟨rfl, rfl⟩

theorem set_is_some {table : Table α} {i : Int} (inside : 0 ≤ i ∧ i < table.tab.length)
    (value : α) : (table.set i value).isSome := by
  rw [set, if_pos inside]
  rfl

theorem set_all_is_some {table : Table α} {i : Int} {values : List α} (front : 0 ≤ i)
    (room : i + values.length ≤ table.tab.length) : (table.setAll i values).isSome := by
  induction values generalizing table i with
  | nil => rfl
  | cons value rest ih =>
      rw [List.length_cons] at room
      have inside : 0 ≤ i ∧ i < table.tab.length := by omega
      have next : table.set i value = some { table with tab := table.tab.set i.toNat value } :=
        if_pos inside
      rw [setAll, next, Option.bind_some]
      apply ih
      · omega
      · rw [List.length_set]
        omega

theorem set_all_below {table : Table α} {i : Int} {values : List α} (below : i < 0)
    (some : values ≠ []) : table.setAll i values = none := by
  cases values with
  | nil => exact absurd rfl some
  | cons value rest =>
      rw [setAll, set, if_neg (by omega)]
      rfl

theorem get_all_is_some {table : Table α} {i : Int} {count : Nat} (front : 0 ≤ i)
    (room : i + count ≤ table.tab.length) : (table.getAll i count).isSome := by
  induction count generalizing i with
  | zero => rfl
  | succ count ih =>
      obtain ⟨value, here⟩ := Option.isSome_iff_exists.mp
        ((get_is_some_iff table i).mpr (by omega))
      rw [getAll, here, Option.bind_some, Option.isSome_map]
      exact ih (by omega) (by omega)

theorem get_all_length {table : Table α} {i : Int} {count : Nat} {values : List α}
    (known : table.getAll i count = some values) : values.length = count := by
  induction count generalizing i values with
  | zero =>
      cases known
      rfl
  | succ count ih =>
      rw [getAll, Option.bind_eq_some_iff] at known
      obtain ⟨value, -, later⟩ := known
      obtain ⟨rest, same, rfl⟩ := Option.map_eq_some_iff.mp later
      rw [List.length_cons, ih same]

end Table

structure Mapping where
  bits : Table UInt8
  inputBits : Table UInt8
  registers : Table UInt16
  inputRegisters : Table UInt16

def modbusMappingNewStartAddress (startBits nbBits startInputBits nbInputBits startRegisters
    nbRegisters startInputRegisters nbInputRegisters : Nat) : Mapping where
  bits := ⟨startBits, List.replicate nbBits 0⟩
  inputBits := ⟨startInputBits, List.replicate nbInputBits 0⟩
  registers := ⟨startRegisters, List.replicate nbRegisters 0⟩
  inputRegisters := ⟨startInputRegisters, List.replicate nbInputRegisters 0⟩

/-! ### Responses -/

structure Sft where
  slave : UInt8
  function : UInt8
  tid : UInt16

/-- The mapping that is left, whether the line is flushed, and the response with its header. -/
structure Reply where
  mapping : Mapping
  flush : Bool
  rsp : Except Errno (List UInt8)

/-- `none` where a place outside of a table is touched. -/
abbrev Replied := Option Reply

/-- `(nb / 8) + ((nb % 8) ? 1 : 0)`. -/
def byteCount (nb : Nat) : Nat := nb / 8 + if nb % 8 ≠ 0 then 1 else 0

def responseIoStatus : List UInt8 → Nat → Nat → List UInt8
  | [], shift, oneByte => if shift ≠ 0 then [UInt8.ofNat oneByte] else []
  | status :: rest, shift, oneByte =>
      let oneByte := oneByte ||| status.toNat <<< shift
      if shift = 7 then UInt8.ofNat oneByte :: responseIoStatus rest 0 0
      else responseIoStatus rest (shift + 1) oneByte

/-- The values that `modbus_set_bits_from_bytes` stores, from bit `i` of the bytes on. -/
def setBitsFromBytes (tabByte : Nat → UInt8) : Nat → Nat → Nat → List UInt8
  | 0, _, _ => []
  | nbBits + 1, i, shift =>
      (if tabByte (i / 8) &&& UInt8.ofNat (1 <<< shift) ≠ 0 then 1 else 0) ::
        setBitsFromBytes tabByte nbBits (i + 1) ((shift + 1) % 8)

def registerBytes (register : UInt16) : List UInt8 :=
  [(register >>> 8).toUInt8, (register &&& 0xFF).toUInt8]

section Responses

variable (backend : Backend) (sft : Sft)

def buildResponseBasis : List UInt8 := backend.header sft.tid sft.slave ++ [sft.function]

def responseException (mapping : Mapping) (exceptionCode : UInt8) (toFlush : Bool) : Replied :=
  some
    { mapping := mapping
      flush := toFlush
      rsp := .ok (buildResponseBasis backend { sft with function := sft.function + 0x80 } ++
        [exceptionCode]) }

variable (req : List UInt8) (reqLength : Nat) (mapping : Mapping)

def reqAddress : Nat := wordAt req (backend.headerLength + 1)

def reqNb : Nat := wordAt req (backend.headerLength + 3)

/-- The reads of the two kinds of tables. -/
def replyRead {α : Type} (table : Table α) (maxNb : Int) (body : Nat → List α → List UInt8) :
    Replied :=
  let nb := reqNb backend req
  let mappingAddress := (reqAddress backend req : Int) - table.start
  if nb < 1 ∨ maxNb < nb then
    responseException backend sft mapping exceptionIllegalDataValue true
  else if mappingAddress < 0 ∨ mappingAddress + nb > table.tab.length then
    responseException backend sft mapping exceptionIllegalDataAddress false
  else
    (table.getAll mappingAddress nb).map fun values =>
      { mapping := mapping
        flush := false
        rsp := .ok (buildResponseBasis backend sft ++ body nb values) }

def replyReadBits (table : Table UInt8) : Replied :=
  replyRead backend sft req mapping table maxReadBits fun nb values =>
    UInt8.ofNat (byteCount nb) :: responseIoStatus values 0 0

def replyReadRegisters (table : Table UInt16) : Replied :=
  replyRead backend sft req mapping table maxReadRegisters fun nb values =>
    UInt8.ofNat (nb <<< 1) :: values.flatMap registerBytes

/-- The request itself is the response. -/
def copyRequest (left : Mapping) : Reply where
  mapping := left
  flush := false
  rsp := .ok (req.take reqLength)

def replyWriteSingleCoil : Replied :=
  let mappingAddress := (reqAddress backend req : Int) - mapping.bits.start
  if mappingAddress < 0 ∨ mappingAddress ≥ mapping.bits.tab.length then
    responseException backend sft mapping exceptionIllegalDataAddress false
  else
    let data := reqNb backend req
    if data = 0xFF00 ∨ data = 0 then
      (mapping.bits.set mappingAddress (if data ≠ 0 then 1 else 0)).map fun bits =>
        copyRequest req reqLength { mapping with bits := bits }
    else responseException backend sft mapping exceptionIllegalDataValue false

def replyWriteSingleRegister : Replied :=
  let mappingAddress := (reqAddress backend req : Int) - mapping.registers.start
  if mappingAddress < 0 ∨ mappingAddress ≥ mapping.registers.tab.length then
    responseException backend sft mapping exceptionIllegalDataAddress false
  else
    let data := reqNb backend req
    (mapping.registers.set mappingAddress (UInt16.ofNat data)).map fun registers =>
      copyRequest req reqLength { mapping with registers := registers }

/-- The four bytes of the address and the quantity, copied. -/
def writtenResponse (left : Mapping) : Reply where
  mapping := left
  flush := false
  rsp := .ok (buildResponseBasis backend sft ++ (req.drop (backend.headerLength + 1)).take 4)

/-- The writes of several values, which begin behind the byte count. -/
def replyWriteMultiple {α : Type} (table : Table α) (maxNb : Int) (values : Nat → List α)
    (left : Table α → Mapping) : Replied :=
  let nb := reqNb backend req
  let mappingAddress := (reqAddress backend req : Int) - table.start
  if nb < 1 ∨ maxNb < nb then
    responseException backend sft mapping exceptionIllegalDataValue true
  else if mappingAddress < 0 ∨ mappingAddress + nb > table.tab.length then
    responseException backend sft mapping exceptionIllegalDataAddress false
  else
    (table.setAll mappingAddress (values nb)).map fun written =>
      writtenResponse backend sft req (left written)

def registersAt (first nb : Nat) : List UInt16 :=
  (List.range nb).map fun i =>
    UInt16.ofNat (wordAt req (backend.headerLength + first + 2 * i))

def replyWriteMultipleCoils : Replied :=
  replyWriteMultiple backend sft req mapping mapping.bits maxWriteBits
    (fun nb => setBitsFromBytes (fun i => byteAt req (backend.headerLength + 6 + i)) nb 0 0)
    fun bits => { mapping with bits := bits }

def replyWriteMultipleRegisters : Replied :=
  replyWriteMultiple backend sft req mapping mapping.registers maxWriteRegisters
    (registersAt backend req 6) fun registers => { mapping with registers := registers }

/-- `_REPORT_SLAVE_ID`, the run indicator, and "LMB3.1.4". -/
def slaveIdText : List UInt8 :=
  [180, 0xFF] ++ [0x4C, 0x4D, 0x42, 0x33, 0x2E, 0x31, 0x2E, 0x34]

def replyReportSlaveId : Replied :=
  some
    { mapping := mapping
      flush := false
      rsp := .ok (buildResponseBasis backend sft ++
        UInt8.ofNat slaveIdText.length :: slaveIdText) }

def replyMaskWriteRegister : Replied :=
  let mappingAddress := (reqAddress backend req : Int) - mapping.registers.start
  if mappingAddress < 0 ∨ mappingAddress ≥ mapping.registers.tab.length then
    responseException backend sft mapping exceptionIllegalDataAddress false
  else
    (mapping.registers.get mappingAddress).bind fun data =>
      let and := UInt16.ofNat (wordAt req (backend.headerLength + 3))
      let or := UInt16.ofNat (wordAt req (backend.headerLength + 5))
      (mapping.registers.set mappingAddress (data &&& and ||| or &&& ~~~and)).map fun registers =>
        copyRequest req reqLength { mapping with registers := registers }

/-- The address that is written is compared with the end of the table only: the address that is
read is compared with its start twice. -/
def replyWriteAndReadRegisters : Replied :=
  let nb := reqNb backend req
  let addressWrite := wordAt req (backend.headerLength + 5)
  let nbWrite := wordAt req (backend.headerLength + 7)
  let nbWriteBytes := (byteAt req (backend.headerLength + 9)).toNat
  let mappingAddress := (reqAddress backend req : Int) - mapping.registers.start
  let mappingAddressWrite := (addressWrite : Int) - mapping.registers.start
  if nbWrite < 1 ∨ maxWrWriteRegisters < nbWrite ∨ nb < 1 ∨ maxWrReadRegisters < nb ∨
      nbWriteBytes ≠ nbWrite * 2 then
    responseException backend sft mapping exceptionIllegalDataValue true
  else if mappingAddress < 0 ∨ mappingAddress + nb > mapping.registers.tab.length ∨
      mappingAddress < 0 ∨ mappingAddressWrite + nbWrite > mapping.registers.tab.length then
    responseException backend sft mapping exceptionIllegalDataAddress false
  else
    (mapping.registers.setAll mappingAddressWrite (registersAt backend req 10 nbWrite)).bind
      fun registers =>
        (registers.getAll mappingAddress nb).map fun values =>
          { mapping := { mapping with registers := registers }
            flush := false
            rsp := .ok (buildResponseBasis backend sft ++
              UInt8.ofNat (nb <<< 1) :: values.flatMap registerBytes) }

def reqSft : Sft where
  slave := byteAt req (backend.headerLength - 1)
  function := byteAt req backend.headerLength
  tid := backend.responseTid req

/-- The analysis of a request, without what `send_msg` does. The length is that of
`prepare_response_tid`. -/
def modbusReplyRsp : Replied :=
  let sft := reqSft backend req
  let length := reqLength - backend.checksumLength
  match FunctionCode.ofByte sft.function with
  | some .readCoils => replyReadBits backend sft req mapping mapping.bits
  | some .readDiscreteInputs => replyReadBits backend sft req mapping mapping.inputBits
  | some .readHoldingRegisters => replyReadRegisters backend sft req mapping mapping.registers
  | some .readInputRegisters =>
      replyReadRegisters backend sft req mapping mapping.inputRegisters
  | some .writeSingleCoil => replyWriteSingleCoil backend sft req length mapping
  | some .writeSingleRegister => replyWriteSingleRegister backend sft req length mapping
  | some .writeMultipleCoils => replyWriteMultipleCoils backend sft req mapping
  | some .writeMultipleRegisters => replyWriteMultipleRegisters backend sft req mapping
  | some .reportSlaveId => replyReportSlaveId backend sft mapping
  | some .readExceptionStatus => some ⟨mapping, false, .error .enoprotoopt⟩
  | some .maskWriteRegister => replyMaskWriteRegister backend sft req length mapping
  | some .writeAndReadRegisters => replyWriteAndReadRegisters backend sft req mapping
  | none => responseException backend sft mapping exceptionIllegalFunction true

/-- What goes out on the line: nothing for a broadcast. -/
def sentReply (rsp : List UInt8) : List UInt8 :=
  if backend.rtu ∧ byteAt req (backend.headerLength - 1) = broadcastAddress then []
  else backend.sendMsgPre rsp

def modbusReply : Replied :=
  (modbusReplyRsp backend req reqLength mapping).map fun reply =>
    { reply with rsp := reply.rsp.map (sentReply backend req) }

end Responses

end DevHub.Modbus
