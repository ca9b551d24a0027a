import DevHub.Modbus.Server

/-!
What `modbus_reply` touches: places of the tables, for any request but one kind, and the buffer
of the response, which holds every response with its checksum.
-/

namespace DevHub.Modbus

set_option autoImplicit false

/-! ### Places outside of the tables -/

section Places

variable (backend : Backend) (sft : Sft) (req : List UInt8) (reqLength : Nat) (mapping : Mapping)

/-- A write and read that passes the checks of `modbus_reply`, and whose write begins before the
registers. -/
structure WritesBelow : Prop where
  function : FunctionCode.ofByte (byteAt req backend.headerLength) = some .writeAndReadRegisters
  nbWrite : 1 ≤ wordAt req (backend.headerLength + 7) ∧
    wordAt req (backend.headerLength + 7) ≤ maxWrWriteRegisters
  nb : 1 ≤ reqNb backend req ∧ reqNb backend req ≤ maxWrReadRegisters
  nbWriteBytes : (byteAt req (backend.headerLength + 9)).toNat =
    wordAt req (backend.headerLength + 7) * 2
  readInside : mapping.registers.start ≤ reqAddress backend req ∧
    (reqAddress backend req : Int) - mapping.registers.start + reqNb backend req ≤
      mapping.registers.tab.length
  writeEnd : (wordAt req (backend.headerLength + 5) : Int) - mapping.registers.start +
    wordAt req (backend.headerLength + 7) ≤ mapping.registers.tab.length
  writeBelow : (wordAt req (backend.headerLength + 5) : Int) < mapping.registers.start

variable {backend sft req reqLength mapping}

theorem exception_defined (exceptionCode : UInt8) (toFlush : Bool) :
    responseException backend sft mapping exceptionCode toFlush ≠ none :=
  Option.some_ne_none _

theorem read_defined {α : Type} (table : Table α) (maxNb : Int)
    (body : Nat → List α → List UInt8) :
    replyRead backend sft req mapping table maxNb body ≠ none := by
  rw [replyRead]
  split
  · exact exception_defined _ _
  · split
    · exact exception_defined _ _
    · rename_i inside
      rw [Ne, Option.map_eq_none_iff, ← Option.not_isSome_iff_eq_none, not_not]
      exact Table.get_all_is_some (by omega) (by omega)

theorem write_multiple_defined {α : Type} (table : Table α) (maxNb : Int)
    {values : Nat → List α} (count : ∀ nb, (values nb).length = nb) (left : Table α → Mapping) :
    replyWriteMultiple backend sft req mapping table maxNb values left ≠ none := by
  rw [replyWriteMultiple]
  split
  · exact exception_defined _ _
  · split
    · exact exception_defined _ _
    · rename_i inside
      rw [Ne, Option.map_eq_none_iff, ← Option.not_isSome_iff_eq_none, not_not]
      exact Table.set_all_is_some (by omega) (by rw [count]; omega)

theorem set_bits_length (tabByte : Nat → UInt8) (nbBits i shift : Nat) :
    (setBitsFromBytes tabByte nbBits i shift).length = nbBits := by
  induction nbBits generalizing i shift with
  | zero => rfl
  | succ nbBits ih => rw [setBitsFromBytes, List.length_cons, ih]

variable (backend req) in
theorem registers_at_length (first nb : Nat) : (registersAt backend req first nb).length = nb := by
  rw [registersAt, List.length_map, List.length_range]

theorem write_single_coil_defined : replyWriteSingleCoil backend sft req reqLength mapping ≠ none := by
  rw [replyWriteSingleCoil]
  dsimp only
  split
  · exact exception_defined _ _
  · rename_i inside
    split
    · rw [Ne, Option.map_eq_none_iff, ← Option.not_isSome_iff_eq_none, not_not]
      exact Table.set_is_some (by omega) _
    · exact exception_defined _ _

theorem write_single_register_defined :
    replyWriteSingleRegister backend sft req reqLength mapping ≠ none := by
  rw [replyWriteSingleRegister]
  dsimp only
  split
  · exact exception_defined _ _
  · rename_i inside
    rw [Ne, Option.map_eq_none_iff, ← Option.not_isSome_iff_eq_none, not_not]
    exact Table.set_is_some (by omega) _

theorem mask_write_defined : replyMaskWriteRegister backend sft req reqLength mapping ≠ none := by
  rw [replyMaskWriteRegister]
  dsimp only
  split
  · exact exception_defined _ _
  · rename_i inside
    obtain ⟨data, here⟩ := Option.isSome_iff_exists.mp
      ((Table.get_is_some_iff mapping.registers
        ((reqAddress backend req : Int) - mapping.registers.start)).mpr (by omega))
    rw [here, Option.bind_some, Ne, Option.map_eq_none_iff, ← Option.not_isSome_iff_eq_none, not_not]
    exact Table.set_is_some (by omega) _

theorem write_and_read_undefined_iff
    (function : FunctionCode.ofByte (byteAt req backend.headerLength) = some .writeAndReadRegisters) :
    replyWriteAndReadRegisters backend sft req mapping = none ↔ WritesBelow backend req mapping := by
  rw [replyWriteAndReadRegisters]
  split
  · rename_i wrong
    constructor
    · exact fun undefined => absurd undefined (exception_defined _ _)
    · rintro ⟨-, nbWrite, nb, nbWriteBytes, -, -, -⟩
      omega
  · rename_i right
    split
    · rename_i outside
      constructor
      · exact fun undefined => absurd undefined (exception_defined _ _)
      · rintro ⟨-, -, -, -, readInside, writeEnd, -⟩
        omega
    · rename_i inside
      have length := registers_at_length backend req 10
        (wordAt req (backend.headerLength + 7))
      constructor
      · intro undefined
        have below : (wordAt req (backend.headerLength + 5) : Int) < mapping.registers.start := by
          by_contra above
          have present : (mapping.registers.setAll
              ((wordAt req (backend.headerLength + 5) : Int) - mapping.registers.start)
              (registersAt backend req 10 (wordAt req (backend.headerLength + 7)))).isSome :=
            Table.set_all_is_some (by omega) (by omega)
          obtain ⟨registers, written⟩ := Option.isSome_iff_exists.mp present
          have same := congrArg Prod.fst (Table.set_all_space written).2
          have size := congrArg Prod.snd (Table.set_all_space written).2
          dsimp only [Table.shape] at same size
          rw [written, Option.bind_some, Option.map_eq_none_iff,
            ← Option.not_isSome_iff_eq_none] at undefined
          apply undefined
          apply Table.get_all_is_some
          · omega
          · omega
        exact ⟨function, by omega, by omega, by omega, by omega, by omega, below⟩
      · intro wrong
        have below := wrong.writeBelow
        rw [Table.set_all_below (by omega), Option.bind_none]
        intro empty
        rw [empty, List.length_nil] at length
        omega

/-- No request touches a place outside of the tables but a write and read that writes below
them. -/
theorem reply_undefined_iff :
    modbusReply backend req reqLength mapping = none ↔ WritesBelow backend req mapping := by
  rw [modbusReply, Option.map_eq_none_iff, modbusReplyRsp, reqSft]
  cases known : FunctionCode.ofByte (byteAt req backend.headerLength) with
  | none =>
      refine iff_of_false (exception_defined _ _) fun wrong => ?_
      rw [wrong.function] at known
      cases known
  | some code =>
      by_cases both : code = .writeAndReadRegisters
      · subst both
        exact write_and_read_undefined_iff known
      · refine iff_of_false ?_ fun wrong => ?_
        · cases code with
          | readCoils => exact read_defined _ _ _
          | readDiscreteInputs => exact read_defined _ _ _
          | readHoldingRegisters => exact read_defined _ _ _
          | readInputRegisters => exact read_defined _ _ _
          | writeSingleCoil => exact write_single_coil_defined
          | writeSingleRegister => exact write_single_register_defined
          | readExceptionStatus => exact Option.some_ne_none _
          | writeMultipleCoils => exact write_multiple_defined _ _ (fun _ => set_bits_length _ _ _ _) _
          | writeMultipleRegisters =>
              exact write_multiple_defined _ _ (fun _ => registers_at_length _ _ _ _) _
          | reportSlaveId => exact Option.some_ne_none _
          | maskWriteRegister => exact mask_write_defined
          | writeAndReadRegisters => exact absurd rfl both
        · rw [wrong.function] at known
          cases known
          exact both rfl

end Places

/-! ### The buffer of the response -/

section Buffer

variable {backend : Backend} (lawful : backend.Lawful)
include lawful

theorem header_length (tid : UInt16) (slave : UInt8) :
    (backend.header tid slave).length = backend.headerLength := by
  obtain ⟨length, -⟩ := message_pdu lawful tid slave []
  rw [Backend.message, lawful.grows, List.append_nil, List.length_nil] at length
  omega

theorem basis_length (sft : Sft) :
    (buildResponseBasis backend sft).length = backend.headerLength + 1 := by
  rw [buildResponseBasis, List.length_append, header_length lawful]
  rfl

end Buffer

def FitsBuffer (backend : Backend) (replied : Replied) : Prop := ∀ reply rsp,
  replied = some reply → reply.rsp = .ok rsp →
    rsp.length + backend.checksumLength ≤ backend.maxAduLength

section Free

variable {backend : Backend} {sft : Sft} {req : List UInt8} {reqLength : Nat}

theorem io_status_length (statuses : List UInt8) {shift : Nat} (oneByte : Nat) (room : shift < 8) :
    (responseIoStatus statuses shift oneByte).length = (shift + statuses.length + 7) / 8 := by
  induction statuses generalizing shift oneByte with
  | nil =>
      rw [responseIoStatus]
      split
      · rw [List.length_singleton, List.length_nil]
        omega
      · rw [List.length_nil]
        omega
  | cons first rest ih =>
      rw [responseIoStatus]
      split
      · rw [List.length_cons, ih _ (by omega), List.length_cons]
        omega
      · rw [ih _ (by omega), List.length_cons]
        congr 1
        omega

theorem echo_fits (short : reqLength + backend.checksumLength ≤ backend.maxAduLength)
    (left : Mapping) : FitsBuffer backend (some (copyRequest req reqLength left)) := by
  rintro reply rsp replied built
  cases replied
  cases built
  have taken := List.length_take_le reqLength req
  omega

theorem mapped_fits {α : Type} {result : Option α} {reply : α → Reply}
    (each : ∀ value, FitsBuffer backend (some (reply value))) :
    FitsBuffer backend (result.map reply) := by
  rintro made rsp replied built
  obtain ⟨value, -, rfl⟩ := Option.map_eq_some_iff.mp replied
  exact each value _ rsp rfl built

theorem register_bytes_length (registers : List UInt16) :
    (registers.flatMap registerBytes).length = 2 * registers.length := by
  induction registers with
  | nil => rfl
  | cons register rest ih =>
      have two : (registerBytes register).length = 2 := rfl
      rw [List.flatMap_cons, List.length_append, ih, List.length_cons]
      omega

end Free

section Fits

variable {backend : Backend} {sft : Sft} {req : List UInt8} {reqLength : Nat} {mapping : Mapping}
variable (lawful : backend.Lawful)
include lawful

theorem exception_fits (exceptionCode : UInt8) (toFlush : Bool) :
    FitsBuffer backend (responseException backend sft mapping exceptionCode toFlush) := by
  rintro reply rsp replied built
  have room := lawful.roomy
  cases replied
  cases built
  rw [List.length_append, basis_length lawful, List.length_singleton]
  omega

theorem data_fits {data : List UInt8} (few : data.length ≤ 252) {left : Mapping} :
    FitsBuffer backend (some ⟨left, false, .ok (buildResponseBasis backend sft ++ data)⟩) := by
  rintro reply rsp replied built
  have room := lawful.roomy
  cases replied
  cases built
  rw [List.length_append, basis_length lawful]
  omega

theorem read_fits {α : Type} {table : Table α} {maxNb : Int} {body : Nat → List α → List UInt8}
    (few : ∀ (nb : Nat) values, (nb : Int) ≤ maxNb → values.length = nb → (body nb values).length ≤ 252) :
    FitsBuffer backend (replyRead backend sft req mapping table maxNb body) := by
  rw [replyRead]
  split
  · exact exception_fits lawful _ _
  · rename_i right
    split
    · exact exception_fits lawful _ _
    · rintro reply rsp replied built
      obtain ⟨values, known, rfl⟩ := Option.map_eq_some_iff.mp replied
      have length := Table.get_all_length known
      exact data_fits lawful (few _ _ (by omega) length) _ rsp rfl built

theorem written_fits (left : Mapping) :
    FitsBuffer backend (some (writtenResponse backend sft req left)) := by
  apply data_fits lawful
  have taken := List.length_take_le 4 (req.drop (backend.headerLength + 1))
  omega

theorem write_multiple_fits {α : Type} {table : Table α} {maxNb : Int} {values : Nat → List α}
    {left : Table α → Mapping} :
    FitsBuffer backend (replyWriteMultiple backend sft req mapping table maxNb values left) := by
  rw [replyWriteMultiple]
  split
  · exact exception_fits lawful _ _
  · split
    · exact exception_fits lawful _ _
    · exact mapped_fits fun written => written_fits lawful _

/-- The response to any request fits in the buffer, its checksum included. -/
theorem rsp_fits (short : reqLength ≤ backend.maxAduLength)
    (checked : backend.checksumLength ≤ reqLength) :
    FitsBuffer backend (modbusReplyRsp backend req reqLength mapping) := by
  have copy (left : Mapping) :
      FitsBuffer backend (some (copyRequest req (reqLength - backend.checksumLength) left)) :=
    echo_fits (by omega) left
  have bits {table : Table UInt8} :
      FitsBuffer backend (replyReadBits backend (reqSft backend req) req mapping table) := by
    apply read_fits lawful
    intro nb values few length
    rw [List.length_cons, io_status_length values 0 (by decide), length]
    rw [maxReadBits] at few
    omega
  have registers {table : Table UInt16} :
      FitsBuffer backend (replyReadRegisters backend (reqSft backend req) req mapping table) := by
    apply read_fits lawful
    intro nb values few length
    rw [List.length_cons, register_bytes_length, length]
    rw [maxReadRegisters] at few
    omega
  rw [modbusReplyRsp]
  cases FunctionCode.ofByte (reqSft backend req).function with
  | none => exact exception_fits lawful _ _
  | some code =>
      cases code with
      | readCoils => exact bits
      | readDiscreteInputs => exact bits
      | readHoldingRegisters => exact registers
      | readInputRegisters => exact registers
      | writeSingleCoil =>
          dsimp only
          rw [replyWriteSingleCoil]
          dsimp only
          split
          · exact exception_fits lawful _ _
          · split
            · exact mapped_fits fun next => copy _
            · exact exception_fits lawful _ _
      | writeSingleRegister =>
          dsimp only
          rw [replyWriteSingleRegister]
          split
          · exact exception_fits lawful _ _
          · exact mapped_fits fun next => copy _
      | readExceptionStatus =>
          rintro reply rsp replied built
          cases replied
          cases built
      | writeMultipleCoils => exact write_multiple_fits lawful
      | writeMultipleRegisters => exact write_multiple_fits lawful
      | reportSlaveId => exact data_fits lawful (by decide)
      | maskWriteRegister =>
          dsimp only
          rw [replyMaskWriteRegister]
          split
          · exact exception_fits lawful _ _
          · rintro reply rsp replied built
            obtain ⟨old, -, stored⟩ := Option.bind_eq_some_iff.mp replied
            exact mapped_fits (fun next => copy _) reply rsp stored built
      | writeAndReadRegisters =>
          dsimp only
          rw [replyWriteAndReadRegisters]
          split
          · exact exception_fits lawful _ _
          · rename_i right
            split
            · exact exception_fits lawful _ _
            · rintro reply rsp replied built
              obtain ⟨next, -, read⟩ := Option.bind_eq_some_iff.mp replied
              obtain ⟨values, known, rfl⟩ := Option.map_eq_some_iff.mp read
              have length := Table.get_all_length known
              rw [maxWrReadRegisters] at right
              refine data_fits lawful ?_ _ rsp rfl built
              rw [List.length_cons, register_bytes_length, length]
              omega

end Fits

theorem write_coil_fits :
    FitsBuffer rtuBackend (modbusReplyRsp rtuBackend [5, 5, 0, 1, 0xFF, 0, 0xDC, 0x7E] 8
      (modbusMappingNewStartAddress 0 4 0 4 0 4 0 4)) :=
  rsp_fits rtu_lawful (by decide) (by decide)

end DevHub.Modbus
