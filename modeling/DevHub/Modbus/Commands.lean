import DevHub.Modbus.Client

/-!
The commands of a client. The message of a call says what the call was made for, wherever it
stands in a buffer, and a response that a server sends says what the device answered.
-/

namespace DevHub.Modbus

open AddressSpace Packed

set_option autoImplicit false

/-! ### Numbers and bytes -/

/-- The word that two bytes of an `int` say. -/
def wireWord (value : Int) : Nat := (value % 65536).toNat

theorem byte_of_nat (value : Int) : (byteOf value).toNat = (value % 256).toNat := by
  rw [byteOf, UInt8.toNat_ofNat']
  omega

theorem word_of_bytes (value : Int) : wordOf (highByte value) (byteOf value) = wireWord value := by
  rw [wordOf, highByte, byte_of_nat, byte_of_nat, wireWord]
  omega

theorem wire_word_small {value : Nat} (small : value < 65536) : wireWord value = value := by
  rw [wireWord]
  omega

theorem register_word (register : UInt16) :
    wordOf (register >>> 8).toUInt8 (register &&& 0xFF).toUInt8 = register.toNat := by
  have small := register.toNat_lt
  have eight : (8 : UInt16).toNat % 16 = 8 := rfl
  have mask : (0xFF : UInt16).toNat = 2 ^ 8 - 1 := rfl
  rw [wordOf, UInt16.toNat_toUInt8, UInt16.toNat_toUInt8, UInt16.toNat_shiftRight,
    UInt16.toNat_and, eight, mask, Nat.shiftRight_eq_div_pow, Nat.and_two_pow_sub_one_eq_mod]
  omega

theorem word_at_drop (msg : List UInt8) (start i : Nat) :
    wordAt (msg.drop start) i = wordAt msg (start + i) := by
  rw [wordAt, wordAt, byte_at_drop, byte_at_drop, Nat.add_assoc]

theorem registers_read {buffer : List UInt8} {start : Nat} {registers : List UInt16}
    {rest : List UInt8} (behind : buffer.drop start = registers.flatMap registerBytes ++ rest) :
    ((List.range registers.length).map fun i => UInt16.ofNat (wordAt buffer (start + 2 * i))) =
      registers := by
  induction registers generalizing start with
  | nil => rfl
  | cons register more ih =>
      have cut : buffer.drop start = (register >>> 8).toUInt8 :: (register &&& 0xFF).toUInt8 ::
          (more.flatMap registerBytes ++ rest) := by
        rw [behind]
        rfl
      have first : wordAt buffer (start + 2 * 0) = register.toNat := by
        rw [Nat.mul_zero, ← word_at_drop, cut, ← register_word]
        rfl
      have later : buffer.drop (start + 2) = more.flatMap registerBytes ++ rest := by
        rw [← List.drop_drop, cut]
        rfl
      rw [List.length_cons, List.range_succ_eq_map, List.map_cons, first, UInt16.ofNat_toNat,
        List.map_map]
      congr 1
      refine Eq.trans (List.map_congr_left fun i _ => ?_) (ih later)
      have place : start + 2 * Nat.succ i = start + 2 + 2 * i := by omega
      rw [Function.comp_apply, place]

theorem bits_read {backend : Backend} {buffer : List UInt8} {bits : List Bool} {rest : List UInt8}
    (behind : buffer.drop (backend.headerLength + 6) = pack bits ++ rest) :
    (List.range bits.length).map (bitAt backend buffer) = bits := by
  apply List.ext_getElem
  · simp
  · intro i inside own
    have place : i / 8 < (pack bits).length := by
      rw [pack_length]
      omega
    simp only [List.getElem_map, List.getElem_range, bitAt]
    rw [← byte_at_drop, behind, byte_at_append place, byteAt, pack_bit, List.getD_eq_getElem _ _ own]

/-! ### Commands -/

inductive Command where
  | readBits (input : Bool) (addr : Int) (nb : Nat)
  | readRegisters (input : Bool) (addr : Int) (nb : Nat)
  | writeBit (addr status : Int)
  | writeRegister (addr value : Int)
  | writeBits (addr : Int) (nb : Nat) (src : List UInt8)
  | writeRegisters (addr : Int) (nb : Nat) (src : List UInt16)
  | maskWriteRegister (addr : Int) (andMask orMask : UInt16)
  | writeAndReadRegisters (writeAddr : Int) (writeNb : Nat) (src : List UInt16) (readAddr : Int)
      (readNb : Nat)
  | reportSlaveId (maxDest : Nat)

def srcValues (src : List UInt16) (nb : Nat) : List UInt16 :=
  (List.range nb).map fun i => src.getD i 0

namespace Command

def call (backend : Backend) : Command → Except Errno Call
  | .readBits false addr nb => modbusReadBits backend addr nb
  | .readBits true addr nb => modbusReadInputBits backend addr nb
  | .readRegisters false addr nb => modbusReadRegisters backend addr nb
  | .readRegisters true addr nb => modbusReadInputRegisters backend addr nb
  | .writeBit addr status => modbusWriteBit addr status
  | .writeRegister addr value => modbusWriteRegister addr value
  | .writeBits addr nb src => modbusWriteBits addr nb src
  | .writeRegisters addr nb src => modbusWriteRegisters addr nb src
  | .maskWriteRegister addr andMask orMask => modbusMaskWriteRegister addr andMask orMask
  | .writeAndReadRegisters writeAddr writeNb src readAddr readNb =>
      modbusWriteAndReadRegisters backend writeAddr writeNb src readAddr readNb
  | .reportSlaveId maxDest => modbusReportSlaveId backend maxDest

def request : Command → Request
  | .readBits input addr nb => .readBits input (wireWord addr) nb
  | .readRegisters input addr nb => .readRegisters input (wireWord addr) nb
  | .writeBit addr status => .writeBit (wireWord addr) (some (status ≠ 0))
  | .writeRegister addr value => .writeRegister (wireWord addr) (UInt16.ofNat (wireWord value))
  | .writeBits addr nb src => .writeBits (wireWord addr) (srcBits src nb)
  | .writeRegisters addr nb src => .writeRegisters (wireWord addr) (srcValues src nb)
  | .maskWriteRegister addr andMask orMask => .maskWrite (wireWord addr) andMask orMask
  | .writeAndReadRegisters writeAddr writeNb src readAddr readNb =>
      .writeAndRead (wireWord writeAddr) (srcValues src writeNb) true (wireWord readAddr) readNb
  | .reportSlaveId _ => .slaveId

/-- The error of a call that sends nothing. -/
def unsent : Command → Option Errno
  | .readBits _ _ nb => if nb > maxReadBits then some .embmdata else none
  | .readRegisters _ _ nb => if nb > maxReadRegisters then some .embmdata else none
  | .writeBits _ nb _ => if nb > maxWriteBits then some .embmdata else none
  | .writeRegisters _ nb _ => if nb > maxWriteRegisters then some .embmdata else none
  | .writeAndReadRegisters _ writeNb _ _ readNb =>
      if writeNb > maxWrWriteRegisters ∨ readNb > maxWrReadRegisters then some .embmdata else none
  | .reportSlaveId maxDest => if maxDest = 0 then some .einval else none
  | _ => none

def maxDest : Command → Nat
  | .reportSlaveId maxDest => maxDest
  | _ => 0

end Command

def Response.outcome (maxDest : Nat) : Response → Except Errno Outcome
  | .bits values => .ok { rc := values.length, bits := values.map status, registers := [] }
  | .registers values => .ok { rc := values.length, bits := [], registers := values }
  | .echo => .ok (returned 1)
  | .written count => .ok (returned count)
  | .slaveId =>
      .ok { rc := slaveIdText.length, bits := slaveIdText.take maxDest, registers := [] }
  | .exception code _ => .error (.embx code)
  | .nothing => .error .enoprotoopt

/-- A call as the caller sees it: the device does what is asked, and the answer is returned. -/
def Command.run (command : Command) (device : Device) : Device × Except Errno Outcome :=
  match command.unsent with
  | some errno => (device, .error errno)
  | none =>
      let served := device.serve command.request
      (served.1, served.2.outcome command.maxDest)

/-- The call of a command that is not asked for too much. -/
def Command.sends (backend : Backend) : Command → Call
  | .readBits input addr nb =>
      readIoStatus backend (if input then .readDiscreteInputs else .readCoils) addr nb
  | .readRegisters input addr nb =>
      readCall backend
        (requestBasis (if input then .readInputRegisters else .readHoldingRegisters) addr nb)
  | .writeBit addr status => writeSingle .writeSingleCoil addr (if status ≠ 0 then 0xFF00 else 0)
  | .writeRegister addr value => writeSingle .writeSingleRegister addr value
  | .writeBits addr nb src =>
      writeCall (requestBasis .writeMultipleCoils addr nb ++
        byteOf (intByteCount nb) :: writeBitsBytes src nb (intByteCount nb).toNat 0 0)
  | .writeRegisters addr nb src =>
      writeCall (requestBasis .writeMultipleRegisters addr nb ++ byteOf (nb * 2) :: srcBytes src nb)
  | .maskWriteRegister addr andMask orMask =>
      writeCall ((requestBasis .maskWriteRegister addr 0).take 3 ++
        (registerBytes andMask ++ registerBytes orMask))
  | .writeAndReadRegisters writeAddr writeNb src readAddr readNb =>
      readCall backend (requestBasis .writeAndReadRegisters readAddr readNb ++
        [highByte writeAddr, byteOf writeAddr, highByte writeNb, byteOf writeNb,
          byteOf (writeNb * 2)] ++ srcBytes src writeNb)
  | .reportSlaveId maxDest =>
      { pdu := (requestBasis .reportSlaveId 0 0).take 1
        idle := returned 0
        outcome := fun rc rsp =>
          { rc := rc
            bits := (rsp.drop (backend.headerLength + 2)).take (min rc maxDest)
            registers := [] } }

theorem call_cases (backend : Backend) (command : Command) :
    command.call backend = command.unsent.elim (.ok (command.sends backend)) .error := by
  cases command with
  | readBits input addr nb =>
      cases input with
      | false =>
          rw [Command.call, modbusReadBits, Command.unsent]
          split <;> rfl
      | true =>
          rw [Command.call, modbusReadInputBits, Command.unsent]
          split <;> rfl
  | readRegisters input addr nb =>
      cases input with
      | false =>
          rw [Command.call, modbusReadRegisters, readRegisters, Command.unsent]
          split <;> rfl
      | true =>
          rw [Command.call, modbusReadInputRegisters, readRegisters, Command.unsent]
          split <;> rfl
  | writeBit addr status' => rfl
  | writeRegister addr value => rfl
  | writeBits addr nb src =>
      rw [Command.call, modbusWriteBits, Command.unsent]
      split <;> rfl
  | writeRegisters addr nb src =>
      rw [Command.call, modbusWriteRegisters, Command.unsent]
      split <;> rfl
  | maskWriteRegister addr andMask orMask => rfl
  | writeAndReadRegisters writeAddr writeNb src readAddr readNb =>
      rw [Command.call, modbusWriteAndReadRegisters, Command.unsent]
      by_cases writes : (writeNb : Int) > maxWrWriteRegisters
      · rw [if_pos writes, if_pos (.inl writes)]
        rfl
      · by_cases reads : (readNb : Int) > maxWrReadRegisters
        · rw [if_neg writes, if_pos reads, if_pos (.inr reads)]
          rfl
        · rw [if_neg writes, if_neg reads, if_neg (not_or_intro writes reads)]
          rfl
  | reportSlaveId maxDest =>
      rw [Command.call, modbusReportSlaveId, Command.unsent]
      by_cases none : maxDest = 0
      · rw [if_pos none, if_pos (by omega)]
        rfl
      · rw [if_neg none, if_neg (by omega)]
        rfl

theorem few_bits {input : Bool} {addr : Int} {nb : Nat}
    (within : (Command.readBits input addr nb).unsent = none) : nb ≤ 2000 := by
  by_contra many
  rw [Command.unsent, maxReadBits, if_pos (by omega)] at within
  cases within

theorem few_registers {input : Bool} {addr : Int} {nb : Nat}
    (within : (Command.readRegisters input addr nb).unsent = none) : nb ≤ 125 := by
  by_contra many
  rw [Command.unsent, maxReadRegisters, if_pos (by omega)] at within
  cases within

theorem few_written_bits {addr : Int} {nb : Nat} {src : List UInt8}
    (within : (Command.writeBits addr nb src).unsent = none) : nb ≤ 1968 := by
  by_contra many
  rw [Command.unsent, maxWriteBits, if_pos (by omega)] at within
  cases within

theorem few_written_registers {addr : Int} {nb : Nat} {src : List UInt16}
    (within : (Command.writeRegisters addr nb src).unsent = none) : nb ≤ 123 := by
  by_contra many
  rw [Command.unsent, maxWriteRegisters, if_pos (by omega)] at within
  cases within

theorem few_exchanged {writeAddr readAddr : Int} {writeNb readNb : Nat} {src : List UInt16}
    (within : (Command.writeAndReadRegisters writeAddr writeNb src readAddr readNb).unsent = none) :
    writeNb ≤ 121 ∧ readNb ≤ 125 := by
  by_contra many
  rw [Command.unsent, maxWrWriteRegisters, maxWrReadRegisters, if_pos (by omega)] at within
  cases within

/-! ### What a request says -/

theorem src_values_length (src : List UInt16) (nb : Nat) : (srcValues src nb).length = nb := by
  rw [srcValues, List.length_map, List.length_range]

theorem src_bytes_values (src : List UInt16) (nb : Nat) :
    srcBytes src nb = (srcValues src nb).flatMap registerBytes := by
  rw [srcBytes, srcValues, Int.toNat_natCast, List.flatMap_map]

/-- The parts of a call's message: what it says in any buffer that it stands in, and that it is
as long as it says. -/
structure Says (backend : Backend) (command : Command) (pdu : List UInt8) : Prop where
  request : ∀ buffer rest, buffer.drop backend.headerLength = pdu ++ rest →
    requestAt backend buffer = command.request
  whole : Whole .indication pdu

section Says

variable {backend : Backend} {buffer pdu rest : List UInt8}

theorem byte_at_behind (behind : buffer.drop backend.headerLength = pdu) (i : Nat) :
    byteAt buffer (backend.headerLength + i) = byteAt pdu i := by
  rw [← byte_at_drop, behind]

theorem word_at_behind (behind : buffer.drop backend.headerLength = pdu) (i : Nat) :
    wordAt buffer (backend.headerLength + i) = wordAt pdu i := by
  rw [← word_at_drop, behind]

theorem request_front {function : FunctionCode} {addr nb : Int}
    (behind : buffer.drop backend.headerLength = requestBasis function addr nb ++ rest) :
    FunctionCode.ofByte (byteAt buffer backend.headerLength) = some function ∧
      reqAddress backend buffer = wireWord addr ∧ reqNb backend buffer = wireWord nb := by
  refine ⟨?_, ?_, ?_⟩
  · rw [← Nat.add_zero backend.headerLength, byte_at_behind behind]
    exact of_byte_byte function
  · rw [reqAddress, word_at_behind behind, ← word_of_bytes]
    rfl
  · rw [reqNb, word_at_behind behind, ← word_of_bytes]
    rfl

theorem whole_basis {function : FunctionCode} {addr nb : Int}
    (meta' : computeMetaLengthAfterFunction function.byte .indication = 4) :
    Whole .indication (requestBasis function addr nb) := by
  have none : dataCount .indication (requestBasis function addr nb) = 0 := by
    cases function with
    | readCoils => rfl
    | readDiscreteInputs => rfl
    | readHoldingRegisters => rfl
    | readInputRegisters => rfl
    | writeSingleCoil => rfl
    | writeSingleRegister => rfl
    | readExceptionStatus => cases meta'
    | writeMultipleCoils => cases meta'
    | writeMultipleRegisters => cases meta'
    | reportSlaveId => cases meta'
    | maskWriteRegister => cases meta'
    | writeAndReadRegisters => cases meta'
  have count : metaCount .indication (requestBasis function addr nb) = 4 := meta'
  constructor
  · rw [none, count]
    rfl
  · show 5 ≤ 253
    decide

theorem basis_asks {function : FunctionCode} {command : Command} {addr nb : Int}
    (meta' : computeMetaLengthAfterFunction function.byte .indication = 4)
    (asks : ∀ buffer, FunctionCode.ofByte (byteAt buffer backend.headerLength) = some function →
      reqAddress backend buffer = wireWord addr → reqNb backend buffer = wireWord nb →
      requestAt backend buffer = command.request) :
    Says backend command (requestBasis function addr nb) := by
  refine ⟨fun buffer rest behind => ?_, whole_basis meta'⟩
  obtain ⟨code, address, count⟩ := request_front behind
  exact asks buffer code address count

theorem byte_of_small {count : Nat} (small : count < 256) : (byteOf count).toNat = count := by
  rw [byte_of_nat]
  omega

theorem int_byte_count (nb : Nat) : intByteCount nb = byteCount nb := by
  rw [intByteCount, byteCount, Int.tdiv_eq_ediv_of_nonneg (Int.natCast_nonneg _),
    Int.tmod_eq_emod_of_nonneg (Int.natCast_nonneg _)]
  by_cases whole : nb % 8 = 0
  · rw [if_neg (by omega), if_neg (by omega)]
    omega
  · rw [if_pos (by omega), if_pos (by omega)]
    omega

theorem write_bits_asks {addr : Int} {nb : Nat} {src : List UInt8} (few : nb ≤ 1968) :
    Says backend (.writeBits addr nb src) (requestBasis .writeMultipleCoils addr nb ++
      byteOf (intByteCount nb) :: writeBitsBytes src nb (intByteCount nb).toNat 0 0) := by
  have bytes : byteCount nb = (nb + 7) / 8 := byte_count_eq nb
  have packed : writeBitsBytes src nb (byteCount nb) 0 0 = pack (srcBits src nb) :=
    write_bits_pack src (Nat.zero_le nb) bytes
  have length : (pack (srcBits src nb)).length = byteCount nb := by
    rw [pack_length, src_bits_length, bytes]
  rw [int_byte_count, Int.toNat_natCast, packed]
  constructor
  · intro buffer rest behind
    rw [List.append_assoc] at behind
    obtain ⟨code, address, count⟩ := request_front behind
    have values : buffer.drop (backend.headerLength + 6) = pack (srcBits src nb) ++ rest := by
      rw [← List.drop_drop, behind]
      rfl
    have read := bits_read values
    rw [src_bits_length] at read
    rw [requestAt, code]
    dsimp only
    rw [address, count, wire_word_small (by omega), read]
    rfl
  · have own : dataCount .indication (requestBasis .writeMultipleCoils addr nb ++
        byteOf (byteCount nb) :: pack (srcBits src nb)) = (byteOf (byteCount nb)).toNat := rfl
    have five : metaCount .indication (requestBasis .writeMultipleCoils addr nb ++
        byteOf (byteCount nb) :: pack (srcBits src nb)) = 5 := rfl
    have total : (requestBasis .writeMultipleCoils addr nb ++
        byteOf (byteCount nb) :: pack (srcBits src nb)).length = 6 + byteCount nb := by
      rw [List.length_append, List.length_cons, length]
      exact Nat.add_comm 5 _ ▸ by omega
    constructor
    · rw [own, five, total, byte_of_small (by omega)]
    · omega

theorem write_registers_asks {addr : Int} {nb : Nat} {src : List UInt16} (few : nb ≤ 123) :
    Says backend (.writeRegisters addr nb src) (requestBasis .writeMultipleRegisters addr nb ++
      byteOf (nb * 2) :: srcBytes src nb) := by
  have length : (srcBytes src nb).length = 2 * nb := by
    rw [src_bytes_values, register_bytes_length, src_values_length]
  have double : ((nb : Int) * 2) = (2 * nb : Nat) := by omega
  rw [double]
  constructor
  · intro buffer rest behind
    rw [List.append_assoc] at behind
    obtain ⟨code, address, count⟩ := request_front behind
    have values : buffer.drop (backend.headerLength + 6) =
        (srcValues src nb).flatMap registerBytes ++ rest := by
      rw [← List.drop_drop, behind, ← src_bytes_values]
      rfl
    have read := registers_read values
    rw [src_values_length] at read
    rw [requestAt, code]
    dsimp only
    rw [address, count, wire_word_small (by omega), registersAt, read]
    rfl
  · have own : dataCount .indication (requestBasis .writeMultipleRegisters addr nb ++
        byteOf (2 * nb : Nat) :: srcBytes src nb) = (byteOf (2 * nb : Nat)).toNat := rfl
    have five : metaCount .indication (requestBasis .writeMultipleRegisters addr nb ++
        byteOf (2 * nb : Nat) :: srcBytes src nb) = 5 := rfl
    have total : (requestBasis .writeMultipleRegisters addr nb ++
        byteOf (2 * nb : Nat) :: srcBytes src nb).length = 6 + 2 * nb := by
      rw [List.length_append, List.length_cons, length]
      exact Nat.add_comm 5 _ ▸ by omega
    constructor
    · rw [own, five, total, byte_of_small (by omega)]
    · omega

theorem mask_write_asks {addr : Int} {andMask orMask : UInt16} :
    Says backend (.maskWriteRegister addr andMask orMask)
      ((requestBasis .maskWriteRegister addr 0).take 3 ++
        (registerBytes andMask ++ registerBytes orMask)) := by
  constructor
  · intro buffer rest behind
    have code : FunctionCode.ofByte (byteAt buffer backend.headerLength) =
        some .maskWriteRegister := by
      rw [← Nat.add_zero backend.headerLength, byte_at_behind behind]
      exact of_byte_byte .maskWriteRegister
    have address : reqAddress backend buffer = wireWord addr := by
      rw [reqAddress, word_at_behind behind, ← word_of_bytes]
      rfl
    have and' : reqNb backend buffer = andMask.toNat := by
      rw [reqNb, word_at_behind behind, ← register_word]
      rfl
    have or' : wordAt buffer (backend.headerLength + 5) = orMask.toNat := by
      rw [word_at_behind behind, ← register_word]
      rfl
    rw [requestAt, code]
    dsimp only
    rw [address, and', or', UInt16.ofNat_toNat, UInt16.ofNat_toNat]
    rfl
  · constructor
    · rfl
    · show 7 ≤ 253
      decide

theorem write_and_read_asks {writeAddr readAddr : Int} {writeNb readNb : Nat} {src : List UInt16}
    (few : writeNb ≤ 121) (less : readNb ≤ 125) :
    Says backend (.writeAndReadRegisters writeAddr writeNb src readAddr readNb)
      (requestBasis .writeAndReadRegisters readAddr readNb ++
        [highByte writeAddr, byteOf writeAddr, highByte writeNb, byteOf writeNb,
          byteOf (writeNb * 2)] ++ srcBytes src writeNb) := by
  have length : (srcBytes src writeNb).length = 2 * writeNb := by
    rw [src_bytes_values, register_bytes_length, src_values_length]
  have double : ((writeNb : Int) * 2) = (2 * writeNb : Nat) := by omega
  rw [double]
  constructor
  · intro buffer rest behind
    have whole := behind
    rw [List.append_assoc, List.append_assoc] at behind
    obtain ⟨code, address, count⟩ := request_front behind
    have place : wordAt buffer (backend.headerLength + 5) = wireWord writeAddr := by
      rw [word_at_behind whole, ← word_of_bytes]
      rfl
    have writes : wordAt buffer (backend.headerLength + 7) = writeNb := by
      rw [word_at_behind whole]
      exact (word_of_bytes writeNb).trans (wire_word_small (by omega))
    have bytes : (byteAt buffer (backend.headerLength + 9)).toNat = writeNb * 2 := by
      rw [byte_at_behind whole]
      exact (byte_of_small (by omega)).trans (Nat.mul_comm 2 writeNb)
    have values : buffer.drop (backend.headerLength + 10) =
        (srcValues src writeNb).flatMap registerBytes ++ rest := by
      rw [← List.drop_drop, behind, ← src_bytes_values]
      rfl
    have read := registers_read values
    rw [src_values_length] at read
    rw [requestAt, code]
    dsimp only
    rw [address, count, place, writes, wire_word_small (by omega), registersAt, read, bytes,
      decide_eq_true rfl]
    rfl
  · have own : dataCount .indication (requestBasis .writeAndReadRegisters readAddr readNb ++
        [highByte writeAddr, byteOf writeAddr, highByte writeNb, byteOf writeNb,
          byteOf (2 * writeNb : Nat)] ++ srcBytes src writeNb) =
        (byteOf (2 * writeNb : Nat)).toNat := rfl
    have nine : metaCount .indication (requestBasis .writeAndReadRegisters readAddr readNb ++
        [highByte writeAddr, byteOf writeAddr, highByte writeNb, byteOf writeNb,
          byteOf (2 * writeNb : Nat)] ++ srcBytes src writeNb) = 9 := rfl
    have total : (requestBasis .writeAndReadRegisters readAddr readNb ++
        [highByte writeAddr, byteOf writeAddr, highByte writeNb, byteOf writeNb,
          byteOf (2 * writeNb : Nat)] ++ srcBytes src writeNb).length = 10 + 2 * writeNb := by
      rw [List.length_append, length]
      rfl
    constructor
    · rw [own, nine, total, byte_of_small (by omega)]
    · omega

theorem slave_id_asks (maxDest : Nat) :
    Says backend (.reportSlaveId maxDest) ((requestBasis .reportSlaveId 0 0).take 1) := by
  constructor
  · intro buffer rest behind
    have code : FunctionCode.ofByte (byteAt buffer backend.headerLength) = some .reportSlaveId := by
      rw [← Nat.add_zero backend.headerLength, byte_at_behind behind]
      exact of_byte_byte .reportSlaveId
    rw [requestAt, code]
    rfl
  · constructor
    · rfl
    · show 1 ≤ 253
      decide

theorem bit_word_status (status' : Int) :
    bitWord (wireWord (if status' ≠ 0 then 0xFF00 else 0)) = some (decide (status' ≠ 0)) := by
  by_cases on : status' ≠ 0
  · rw [if_pos on, decide_eq_true on]
    rfl
  · rw [if_neg on, decide_eq_false on]
    rfl

variable (backend) in
/-- A call within the bounds of its function asks the device for what it was called with. -/
theorem sends_asks {command : Command} (within : command.unsent = none) :
    Says backend command (command.sends backend).pdu := by
  cases command with
  | readBits input addr nb =>
      have few := few_bits within
      cases input with
      | false =>
          refine basis_asks rfl fun buffer code address count => ?_
          rw [requestAt, code]
          dsimp only
          rw [address, count, wire_word_small (by omega)]
          rfl
      | true =>
          refine basis_asks rfl fun buffer code address count => ?_
          rw [requestAt, code]
          dsimp only
          rw [address, count, wire_word_small (by omega)]
          rfl
  | readRegisters input addr nb =>
      have few := few_registers within
      cases input with
      | false =>
          refine basis_asks rfl fun buffer code address count => ?_
          rw [requestAt, code]
          dsimp only
          rw [address, count, wire_word_small (by omega)]
          rfl
      | true =>
          refine basis_asks rfl fun buffer code address count => ?_
          rw [requestAt, code]
          dsimp only
          rw [address, count, wire_word_small (by omega)]
          rfl
  | writeBit addr status' =>
      refine basis_asks rfl fun buffer code address count => ?_
      rw [requestAt, code]
      dsimp only
      rw [address, count, bit_word_status]
      rfl
  | writeRegister addr value =>
      refine basis_asks rfl fun buffer code address count => ?_
      rw [requestAt, code]
      dsimp only
      rw [address, count]
      rfl
  | writeBits addr nb src => exact write_bits_asks (few_written_bits within)
  | writeRegisters addr nb src => exact write_registers_asks (few_written_registers within)
  | maskWriteRegister addr andMask orMask => exact mask_write_asks
  | writeAndReadRegisters writeAddr writeNb src readAddr readNb =>
      exact write_and_read_asks (few_exchanged within).1 (few_exchanged within).2
  | reportSlaveId maxDest => exact slave_id_asks maxDest

end Says

/-! ### What a response says -/

/-- The function code of a response and what follows it, for a request without its header. -/
def Response.pdu (request : List UInt8) : Response → List UInt8
  | .bits values => byteAt request 0 :: UInt8.ofNat (byteCount values.length) :: pack values
  | .registers values =>
      byteAt request 0 :: UInt8.ofNat (values.length <<< 1) :: values.flatMap registerBytes
  | .echo => request
  | .written _ => byteAt request 0 :: (request.drop 1).take 4
  | .slaveId => byteAt request 0 :: UInt8.ofNat slaveIdText.length :: slaveIdText
  | .exception code _ => [byteAt request 0 + 0x80, code]
  | .nothing => []

inductive Answers : Command → Response → Prop
  | exception (command : Command) (code : UInt8) (flush : Bool) (known : code < exceptionMax) :
      Answers command (.exception code flush)
  | bits (input : Bool) (addr : Int) (values : List Bool) :
      Answers (.readBits input addr values.length) (.bits values)
  | registers (input : Bool) (addr : Int) (values : List UInt16) :
      Answers (.readRegisters input addr values.length) (.registers values)
  | bit (addr status : Int) : Answers (.writeBit addr status) .echo
  | register (addr value : Int) : Answers (.writeRegister addr value) .echo
  | writtenBits (addr : Int) (nb : Nat) (src : List UInt8) :
      Answers (.writeBits addr nb src) (.written nb)
  | writtenRegisters (addr : Int) (nb : Nat) (src : List UInt16) :
      Answers (.writeRegisters addr nb src) (.written nb)
  | mask (addr : Int) (andMask orMask : UInt16) :
      Answers (.maskWriteRegister addr andMask orMask) .echo
  | exchanged (writeAddr : Int) (writeNb : Nat) (src : List UInt16) (readAddr : Int)
      (values : List UInt16) :
      Answers (.writeAndReadRegisters writeAddr writeNb src readAddr values.length)
        (.registers values)
  | slaveId (maxDest : Nat) : Answers (.reportSlaveId maxDest) .slaveId

section Served

variable {device : Device} {command : Command}

theorem refused_cases {α : Type} (space : Space α) (maxNb : Int) (address count : Nat) :
    (∃ code flush, Device.refused space maxNb address count = some (.exception code flush) ∧
        code < exceptionMax) ∨
      Device.refused space maxNb address count = none ∧
        ∃ values, readRange space address count = some values := by
  rw [Device.refused]
  split
  · exact .inl ⟨_, _, rfl, by decide⟩
  · split
    · exact .inl ⟨_, _, rfl, by decide⟩
    · rename_i present
      rw [Option.isNone_iff_eq_none] at present
      exact .inr ⟨rfl, Option.ne_none_iff_exists'.mp present⟩

theorem read_answers {α : Type} {space : Space α} {maxNb : Int} {address count : Nat}
    {answer : List α → Response}
    (fits : ∀ values : List α, values.length = count → Answers command (answer values)) :
    Answers command (device.readFrom space maxNb address count answer).2 := by
  rw [Device.readFrom]
  rcases refused_cases space maxNb address count with ⟨code, flush, same, known⟩ | ⟨same, values, read⟩
  · rw [same]
    exact .exception command code flush known
  · rw [same, read]
    exact fits values (read_length read)

theorem write_answers {α : Type} {space : Space α} {maxNb : Int} {address : Nat}
    {values : List α} {left : Space α → Device}
    (fits : Answers command (.written values.length)) :
    Answers command (device.writeTo space maxNb address values left).2 := by
  rw [Device.writeTo]
  rcases refused_cases space maxNb address values.length with ⟨code, flush, same, known⟩ | ⟨same, -⟩
  · rw [same]
    exact .exception command code flush known
  · rw [same]
    exact fits

theorem write_one_answers {α : Type} {space : Space α} {address : Nat} {value : α → Option α}
    {left : Space α → Device} (fits : Answers command .echo) :
    Answers command (device.writeOne space address value left).2 := by
  rw [Device.writeOne]
  split
  · exact .exception command _ _ (by decide)
  · split
    · exact .exception command _ _ (by decide)
    · exact fits

theorem served_answers (device : Device) (command : Command) :
    Answers command (device.serve command.request).2 := by
  cases command with
  | readBits input addr nb =>
      refine read_answers fun values length => ?_
      subst length
      exact .bits input addr values
  | readRegisters input addr nb =>
      refine read_answers fun values length => ?_
      subst length
      exact .registers input addr values
  | writeBit addr status' => exact write_one_answers (.bit addr status')
  | writeRegister addr value => exact write_one_answers (.register addr value)
  | writeBits addr nb src =>
      apply write_answers
      rw [src_bits_length]
      exact .writtenBits addr nb src
  | writeRegisters addr nb src =>
      apply write_answers
      rw [src_values_length]
      exact .writtenRegisters addr nb src
  | maskWriteRegister addr andMask orMask => exact write_one_answers (.mask addr andMask orMask)
  | writeAndReadRegisters writeAddr writeNb src readAddr readNb =>
      rw [Command.request, Device.serve, Device.exchange]
      split
      · exact .exception _ _ _ (by decide)
      · split
        · exact .exception _ _ _ (by decide)
        · rename_i inside
          dsimp only
          rw [not_or, Option.isNone_iff_eq_none, Option.isNone_iff_eq_none] at inside
          obtain ⟨values, present⟩ := Option.ne_none_iff_exists'.mp inside.1
          obtain ⟨old, room⟩ := Option.ne_none_iff_exists'.mp inside.2
          have still : (readRange (writeRange device.holding (wireWord writeAddr)
              (srcValues src writeNb)) (wireWord readAddr) readNb).isSome := by
            apply read_is_some_iff.mpr
            intro i within
            rw [write_is_some (by rw [room]; rfl)]
            exact read_is_some_iff.mp (by rw [present]; rfl) i within
          obtain ⟨found, same⟩ := Option.isSome_iff_exists.mp still
          rw [same, Option.getD_some]
          have length := read_length same
          subst length
          exact .exchanged writeAddr writeNb src readAddr found
  | reportSlaveId maxDest => exact .slaveId maxDest

end Served

section Sent

variable {backend : Backend} (lawful : backend.Lawful)
include lawful

theorem response_sent {tid : UInt16} {slave : UInt8} {pdu stale : List UInt8} {response : Response}
    (some : pdu ≠ []) (long : ∀ count, response = .written count → 5 ≤ pdu.length)
    (answered : response ≠ .nothing) (loud : ¬ (backend.rtu = true ∧ slave = broadcastAddress)) :
    response.sent backend (backend.message tid slave pdu ++ stale)
        (backend.message tid slave pdu).length =
      .ok (backend.message (backend.responseTid (backend.message tid slave pdu)) slave
        (response.pdu pdu)) := by
  obtain ⟨front, checksum, frontLength, checksumLength, last, same⟩ := lawful.sent tid slave pdu
  have positive := lawful.headerPositive
  have pduPositive := List.length_pos_iff.mpr some
  have behind : (backend.message tid slave pdu ++ stale).drop backend.headerLength =
      pdu ++ (checksum ++ stale) := by
    rw [same, ← frontLength, List.append_assoc, List.append_assoc, List.drop_left]
  have own : byteAt (backend.message tid slave pdu ++ stale) (backend.headerLength - 1) = slave := by
    rw [same, List.append_assoc, List.append_assoc, byte_at_append (by omega), last]
  have function : byteAt (backend.message tid slave pdu ++ stale) backend.headerLength =
      byteAt pdu 0 := by
    rw [← Nat.add_zero backend.headerLength, byte_at_behind behind, byte_at_append pduPositive]
  have sft : reqSft backend (backend.message tid slave pdu ++ stale) =
      { slave := slave
        function := byteAt pdu 0
        tid := backend.responseTid (backend.message tid slave pdu) } := by
    rw [reqSft, own, function, lawful.tidFront]
  have out (rsp : List UInt8) :
      sentReply backend (backend.message tid slave pdu ++ stale) rsp = backend.sendMsgPre rsp := by
    rw [sentReply, own, if_neg loud]
  have basis (bytes : List UInt8) (code : UInt8) :
      backend.sendMsgPre (buildResponseBasis backend
          { slave := slave
            function := code
            tid := backend.responseTid (backend.message tid slave pdu) } ++ bytes) =
        backend.message (backend.responseTid (backend.message tid slave pdu)) slave
          (code :: bytes) := by
    rw [buildResponseBasis, List.append_assoc, List.singleton_append]
    rfl
  rw [Response.sent, sft]
  cases response with
  | bits values =>
      rw [Response.rsp, Except.map, out, basis]
      rfl
  | registers values =>
      rw [Response.rsp, Except.map, out, basis]
      rfl
  | echo =>
      rw [Response.rsp, Except.map, out, List.take_append_of_le_length (Nat.sub_le _ _),
        lawful.echoed]
      rfl
  | written count =>
      have enough := long count rfl
      have copied : ((backend.message tid slave pdu ++ stale).drop
          (backend.headerLength + 1)).take 4 = (pdu.drop 1).take 4 := by
        rw [← List.drop_drop, behind, List.drop_append_of_le_length pduPositive,
          List.take_append_of_le_length (by rw [List.length_drop]; omega)]
      rw [Response.rsp, Except.map, out, copied, basis]
      rfl
  | slaveId =>
      rw [Response.rsp, Except.map, out, basis]
      rfl
  | exception code flush =>
      rw [Response.rsp, Except.map, out, basis]
      rfl
  | nothing => exact absurd rfl answered

end Sent

end DevHub.Modbus
