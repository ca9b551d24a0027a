import DevHub.Modbus.Commands

/-!
`check_confirmation`, and what a call makes of the response to its request: it returns what the
device answered.
-/

namespace DevHub.Modbus

open AddressSpace Packed

set_option autoImplicit false

/-! ### What a call makes of a response -/

theorem plain_code (function : FunctionCode) : ¬ (0x80 ≤ function.byte) := by
  cases function <;> decide

theorem exception_code (function : FunctionCode) :
    0x80 ≤ function.byte + 0x80 ∧ function.byte = function.byte + 0x80 - 0x80 := by
  cases function <;> decide

/-- A confirmation of a request: both behind their headers, and let through by the backend. -/
structure Confirms (backend : Backend) (req pdu rsp answer : List UInt8) : Prop where
  asked : ∃ rest, req.drop backend.headerLength = pdu ++ rest
  said : ∃ rest, rsp.drop backend.headerLength = answer ++ rest
  checked : backend.preCheckConfirmation req rsp = .ok ()
  length : rsp.length = backend.headerLength + answer.length + backend.checksumLength

section Confirmed

variable {backend : Backend} {req pdu rsp answer : List UInt8}

theorem asked_byte (confirms : Confirms backend req pdu rsp answer) {i : Nat}
    (inside : i < pdu.length) : byteAt req (backend.headerLength + i) = byteAt pdu i := by
  obtain ⟨rest, behind⟩ := confirms.asked
  rw [byte_at_behind behind, byte_at_append inside]

theorem said_byte (confirms : Confirms backend req pdu rsp answer) {i : Nat}
    (inside : i < answer.length) : byteAt rsp (backend.headerLength + i) = byteAt answer i := by
  obtain ⟨rest, behind⟩ := confirms.said
  rw [byte_at_behind behind, byte_at_append inside]

theorem said_word (confirms : Confirms backend req pdu rsp answer) {i : Nat}
    (inside : i + 1 < answer.length) : wordAt rsp (backend.headerLength + i) = wordAt answer i := by
  rw [wordAt, Nat.add_assoc, said_byte confirms (by omega), said_byte confirms inside, wordAt]

theorem asked_code (confirms : Confirms backend req pdu rsp answer) (some : pdu ≠ []) :
    byteAt req backend.headerLength = byteAt pdu 0 :=
  asked_byte (i := 0) confirms (List.length_pos_iff.mpr some)

theorem said_code (confirms : Confirms backend req pdu rsp answer) (some : answer ≠ []) :
    byteAt rsp backend.headerLength = byteAt answer 0 :=
  said_byte (i := 0) confirms (List.length_pos_iff.mpr some)

theorem confirm_exception {function : FunctionCode} {more : List UInt8} {code : UInt8}
    (known : code < exceptionMax)
    (confirms : Confirms backend req (function.byte :: more) rsp [function.byte + 0x80, code]) :
    checkConfirmation backend req rsp rsp.length = .error (.embx code) := by
  have asks : byteAt req backend.headerLength = function.byte :=
    asked_code confirms (List.cons_ne_nil _ _)
  have tells : byteAt rsp backend.headerLength = function.byte + 0x80 :=
    said_code confirms (List.cons_ne_nil _ _)
  have stored : byteAt rsp (backend.headerLength + 1) = code :=
    said_byte (i := 1) confirms Nat.one_lt_two
  have whole : rsp.length = backend.headerLength + 2 + backend.checksumLength := confirms.length
  obtain ⟨high, back⟩ := exception_code function
  rw [checkConfirmation, confirms.checked]
  dsimp only
  rw [tells, if_pos high, asks, stored, if_pos ⟨whole, back⟩, if_pos known]

theorem confirm_values {function : FunctionCode} {more others : List UInt8} {count : Nat}
    (confirms : Confirms backend req (function.byte :: more) rsp (function.byte :: others))
    (length : computeResponseLengthFromRequest backend req = some rsp.length ∨
      computeResponseLengthFromRequest backend req = none)
    (values : nbValues backend function.byte req rsp = (count, count)) :
    checkConfirmation backend req rsp rsp.length = .ok count := by
  have asks : byteAt req backend.headerLength = function.byte :=
    asked_code confirms (List.cons_ne_nil _ _)
  have tells : byteAt rsp backend.headerLength = function.byte :=
    said_code confirms (List.cons_ne_nil _ _)
  rw [checkConfirmation, confirms.checked]
  dsimp only
  rw [tells, if_neg (plain_code function), if_pos length, asks, if_neg (not_not_intro rfl), values]
  dsimp only
  rw [if_pos rfl]

theorem expected_length {function : FunctionCode} {addr nb : Int} (more : List UInt8)
    (confirms : Confirms backend req (requestBasis function addr nb ++ more) rsp answer) :
    FunctionCode.ofByte (byteAt req backend.headerLength) = some function ∧
      wordAt req (backend.headerLength + 3) = wireWord nb := by
  obtain ⟨rest, behind⟩ := confirms.asked
  rw [List.append_assoc] at behind
  obtain ⟨code, -, count⟩ := request_front behind
  exact ⟨code, count⟩

theorem counted_response {function : FunctionCode} {count : Nat} {data : List UInt8}
    (small : count < 256)
    (confirms : Confirms backend req pdu rsp (function.byte :: UInt8.ofNat count :: data)) :
    (byteAt rsp (backend.headerLength + 1)).toNat = count ∧
      ∃ rest, rsp.drop (backend.headerLength + 2) = data ++ rest := by
  constructor
  · have stored : byteAt rsp (backend.headerLength + 1) = UInt8.ofNat count :=
      said_byte (i := 1) confirms (by simp)
    rw [stored, UInt8.toNat_ofNat', Nat.mod_eq_of_lt small]
  · obtain ⟨rest, behind⟩ := confirms.said
    refine ⟨rest, ?_⟩
    rw [← List.drop_drop, behind]
    rfl

theorem read_bits_returns {function : FunctionCode} {addr : Int} {values : List Bool}
    (reads : function = .readCoils ∨ function = .readDiscreteInputs) (few : values.length ≤ 2000)
    (confirms : Confirms backend req (requestBasis function addr values.length) rsp
      (function.byte :: UInt8.ofNat (byteCount values.length) :: pack values)) :
    (checkConfirmation backend req rsp rsp.length).map
        (fun rc => (readIoStatus backend function addr values.length).outcome rc rsp) =
      .ok { rc := values.length, bits := values.map status, registers := [] } := by
  have bytes := byte_count_eq values.length
  have packed : (pack values).length = byteCount values.length := by
    rw [pack_length, bytes]
  obtain ⟨count, rest, data⟩ := counted_response (by omega) confirms
  obtain ⟨code, nb⟩ := expected_length [] (by rw [List.append_nil]; exact confirms)
  rw [wire_word_small (by omega)] at nb
  have total := confirms.length
  rw [List.length_cons, List.length_cons, packed] at total
  have rc : checkConfirmation backend req rsp rsp.length = .ok (byteCount values.length) := by
    apply confirm_values confirms
    · left
      rw [computeResponseLengthFromRequest, code, nb, total]
      rcases reads with rfl | rfl
      · simp only [Option.map_some, Option.some.injEq]
        omega
      · simp only [Option.map_some, Option.some.injEq]
        omega
    · rw [nbValues, of_byte_byte, nb, count]
      rcases reads with rfl | rfl <;> rfl
  have taken : (rsp.drop (backend.headerLength + 2)).take (byteCount values.length) =
      pack values := by
    rw [data, ← packed, List.take_left]
  rw [rc, Except.map, readIoStatus]
  dsimp only
  rw [taken, io_status_pack]

theorem registers_returned {function : FunctionCode} {addr : Int} (more : List UInt8)
    {values : List UInt16}
    (reads : function = .readHoldingRegisters ∨ function = .readInputRegisters ∨
      function = .writeAndReadRegisters) (few : values.length ≤ 125)
    (confirms : Confirms backend req (requestBasis function addr values.length ++ more) rsp
      (function.byte :: UInt8.ofNat (values.length <<< 1) :: values.flatMap registerBytes)) :
    checkConfirmation backend req rsp rsp.length = .ok values.length ∧
      destRegisters backend rsp values.length = values := by
  have double : values.length <<< 1 = 2 * values.length := by
    rw [Nat.shiftLeft_eq]
    omega
  obtain ⟨count, rest, data⟩ := counted_response (by omega) confirms
  obtain ⟨code, nb⟩ := expected_length more confirms
  rw [wire_word_small (by omega)] at nb
  have total := confirms.length
  rw [List.length_cons, List.length_cons, register_bytes_length] at total
  constructor
  · apply confirm_values confirms
    · left
      rw [computeResponseLengthFromRequest, code, nb, total]
      rcases reads with rfl | rfl | rfl
      · simp only [Option.map_some, Option.some.injEq]
        omega
      · simp only [Option.map_some, Option.some.injEq]
        omega
      · simp only [Option.map_some, Option.some.injEq]
        omega
    · have half : 2 * values.length / 2 = values.length := by omega
      rw [nbValues, of_byte_byte, nb, count, double, half]
      rcases reads with rfl | rfl | rfl <;> rfl
  · exact registers_read data

theorem echo_confirms {function : FunctionCode} {more : List UInt8}
    (size : (function = .writeSingleCoil ∨ function = .writeSingleRegister) ∧ more.length = 4 ∨
      function = .maskWriteRegister ∧ more.length = 6)
    (confirms : Confirms backend req (function.byte :: more) rsp (function.byte :: more)) :
    checkConfirmation backend req rsp rsp.length = .ok 1 := by
  have asks : byteAt req backend.headerLength = function.byte :=
    asked_code confirms (List.cons_ne_nil _ _)
  have total := confirms.length
  rw [List.length_cons] at total
  apply confirm_values confirms
  · left
    rw [computeResponseLengthFromRequest, asks, of_byte_byte, total]
    rcases size with ⟨rfl | rfl, length⟩ | ⟨rfl, length⟩
    · rw [length]
      rfl
    · rw [length]
      rfl
    · rw [length]
      rfl
  · rw [nbValues, of_byte_byte]
    rcases size with ⟨rfl | rfl, -⟩ | ⟨rfl, -⟩ <;> rfl

theorem written_confirms {function : FunctionCode} {addr : Int} {nb : Nat} {more : List UInt8}
    (writes : function = .writeMultipleCoils ∨ function = .writeMultipleRegisters)
    (few : nb < 65536)
    (confirms : Confirms backend req (requestBasis function addr nb ++ more) rsp
      (requestBasis function addr nb)) :
    checkConfirmation backend req rsp rsp.length = .ok nb := by
  obtain ⟨code, count⟩ := expected_length more confirms
  rw [wire_word_small few] at count
  have stored : wordAt rsp (backend.headerLength + 3) = nb := by
    have inside : 3 + 1 < (requestBasis function addr nb).length := Nat.lt_succ_self 4
    rw [said_word confirms inside]
    exact (word_of_bytes nb).trans (wire_word_small few)
  have total : rsp.length = backend.headerLength + 5 + backend.checksumLength := confirms.length
  apply confirm_values confirms
  · left
    rw [computeResponseLengthFromRequest, code, total]
    rcases writes with rfl | rfl <;> rfl
  · rw [nbValues, of_byte_byte, count, stored]
    rcases writes with rfl | rfl <;> rfl

theorem slave_id_confirms
    (confirms : Confirms backend req [FunctionCode.reportSlaveId.byte] rsp
      (FunctionCode.reportSlaveId.byte :: UInt8.ofNat slaveIdText.length :: slaveIdText)) :
    checkConfirmation backend req rsp rsp.length = .ok slaveIdText.length ∧
      ∃ rest, rsp.drop (backend.headerLength + 2) = slaveIdText ++ rest := by
  obtain ⟨count, data⟩ := counted_response (by decide) confirms
  have asks : byteAt req backend.headerLength = FunctionCode.reportSlaveId.byte :=
    asked_code confirms (List.cons_ne_nil _ _)
  refine ⟨confirm_values confirms (.inr ?_) ?_, data⟩
  · rw [computeResponseLengthFromRequest, asks, of_byte_byte]
    rfl
  · rw [nbValues, of_byte_byte, count]

end Confirmed

/-! ### The result of a call -/

theorem sends_front (backend : Backend) (command : Command) :
    ∃ (function : FunctionCode) (more : List UInt8),
      (command.sends backend).pdu = function.byte :: more := by
  cases command with
  | readBits input addr nb => exact ⟨_, _, rfl⟩
  | readRegisters input addr nb => exact ⟨_, _, rfl⟩
  | writeBit addr status' => exact ⟨_, _, rfl⟩
  | writeRegister addr value => exact ⟨_, _, rfl⟩
  | writeBits addr nb src => exact ⟨_, _, rfl⟩
  | writeRegisters addr nb src => exact ⟨_, _, rfl⟩
  | maskWriteRegister addr andMask orMask => exact ⟨_, _, rfl⟩
  | writeAndReadRegisters writeAddr writeNb src readAddr readNb => exact ⟨_, _, rfl⟩
  | reportSlaveId maxDest => exact ⟨_, _, rfl⟩

/-- A call returns what the device answered. -/
theorem sends_returns {backend : Backend} {command : Command} {response : Response}
    {req rsp : List UInt8} (within : command.unsent = none) (answers : Answers command response)
    (confirms : Confirms backend req (command.sends backend).pdu rsp
      (response.pdu (command.sends backend).pdu)) :
    (checkConfirmation backend req rsp rsp.length).map
        (fun rc => (command.sends backend).outcome rc rsp) =
      response.outcome command.maxDest := by
  cases answers with
  | exception command code flush known =>
      obtain ⟨function, more, front⟩ := sends_front backend command
      rw [front] at confirms
      rw [confirm_exception known confirms]
      rfl
  | bits input addr values =>
      have few := few_bits within
      cases input with
      | false => exact read_bits_returns (.inl rfl) few confirms
      | true => exact read_bits_returns (.inr rfl) few confirms
  | registers input addr values =>
      have few := few_registers within
      have reads : (if input then FunctionCode.readInputRegisters else .readHoldingRegisters) =
          .readHoldingRegisters ∨
          (if input then FunctionCode.readInputRegisters else .readHoldingRegisters) =
          .readInputRegisters ∨
          (if input then FunctionCode.readInputRegisters else .readHoldingRegisters) =
          .writeAndReadRegisters := by
        cases input <;> decide
      obtain ⟨rc, same⟩ := registers_returned [] reads few
        (by rw [List.append_nil]; exact confirms)
      rw [rc, Except.map, Command.sends, readCall]
      dsimp only
      rw [same]
      rfl
  | bit addr status' =>
      rw [echo_confirms (.inl ⟨.inl rfl, rfl⟩) confirms]
      rfl
  | register addr value =>
      rw [echo_confirms (.inl ⟨.inr rfl, rfl⟩) confirms]
      rfl
  | writtenBits addr nb src =>
      have few := few_written_bits within
      rw [written_confirms (.inl rfl) (by omega) confirms]
      rfl
  | writtenRegisters addr nb src =>
      have few := few_written_registers within
      rw [written_confirms (.inr rfl) (by omega) confirms]
      rfl
  | mask addr andMask orMask =>
      rw [echo_confirms (.inr ⟨rfl, rfl⟩) confirms]
      rfl
  | exchanged writeAddr writeNb src readAddr values =>
      have few := (few_exchanged within).2
      obtain ⟨rc, same⟩ := registers_returned _ (.inr (.inr rfl)) few
        (by rw [← List.append_assoc]; exact confirms)
      rw [rc, Except.map, Command.sends, readCall]
      dsimp only
      rw [same]
      rfl
  | slaveId maxDest =>
      obtain ⟨rc, rest, data⟩ := slave_id_confirms confirms
      have taken : (rsp.drop (backend.headerLength + 2)).take (min slaveIdText.length maxDest) =
          slaveIdText.take maxDest := by
        rw [data, List.take_append_of_le_length (Nat.min_le_left _ _), Nat.min_comm, ← List.take_take,
          List.take_length]
      rw [rc, Except.map, Command.sends]
      dsimp only
      rw [taken]
      rfl

theorem counted_whole (function : FunctionCode) {count : Nat} {data : List UInt8}
    (one : computeMetaLengthAfterFunction function.byte .confirmation = 1)
    (counts : function.byte ≤ FunctionCode.readInputRegisters.byte ∨
      function.byte = FunctionCode.reportSlaveId.byte ∨
      function.byte = FunctionCode.writeAndReadRegisters.byte)
    (small : count ≤ 251) (length : data.length = count) :
    Whole .confirmation (function.byte :: UInt8.ofNat count :: data) := by
  have data' : dataCount .confirmation (function.byte :: UInt8.ofNat count :: data) = count := by
    have stored : (UInt8.ofNat count).toNat = count := by
      rw [UInt8.toNat_ofNat', Nat.mod_eq_of_lt (by omega)]
    exact (if_pos counts).trans stored
  have one' : metaCount .confirmation (function.byte :: UInt8.ofNat count :: data) = 1 := one
  constructor
  · rw [data', one', List.length_cons, List.length_cons, length]
    omega
  · rw [List.length_cons, List.length_cons, length]
    omega

theorem registers_whole (function : FunctionCode) {values : List UInt16}
    (one : computeMetaLengthAfterFunction function.byte .confirmation = 1)
    (counts : function.byte ≤ FunctionCode.readInputRegisters.byte ∨
      function.byte = FunctionCode.reportSlaveId.byte ∨
      function.byte = FunctionCode.writeAndReadRegisters.byte) (few : values.length ≤ 125) :
    Whole .confirmation (function.byte :: UInt8.ofNat (values.length <<< 1) ::
      values.flatMap registerBytes) := by
  have double : values.length <<< 1 = 2 * values.length := by
    rw [Nat.shiftLeft_eq]
    omega
  rw [double]
  exact counted_whole function one counts (by omega) (register_bytes_length values)

theorem response_whole (backend : Backend) {command : Command} {response : Response}
    (within : command.unsent = none) (answers : Answers command response) :
    Whole .confirmation (response.pdu (command.sends backend).pdu) := by
  cases answers with
  | exception command code flush known =>
      obtain ⟨function, more, front⟩ := sends_front backend command
      rw [front]
      constructor
      · cases function <;> rfl
      · show 2 ≤ 253
        decide
  | bits input addr values =>
      have few := few_bits within
      have bytes := byte_count_eq values.length
      have length : (pack values).length = byteCount values.length := by
        rw [pack_length, bytes]
      cases input with
      | false => exact counted_whole .readCoils rfl (by decide) (by omega) length
      | true =>
          exact counted_whole .readDiscreteInputs rfl (by decide) (by omega) length
  | registers input addr values =>
      have few := few_registers within
      cases input with
      | false => exact registers_whole .readHoldingRegisters rfl (by decide) few
      | true => exact registers_whole .readInputRegisters rfl (by decide) few
  | bit addr status' => exact ⟨rfl, by show 5 ≤ 253; decide⟩
  | register addr value => exact ⟨rfl, by show 5 ≤ 253; decide⟩
  | writtenBits addr nb src => exact ⟨rfl, by show 5 ≤ 253; decide⟩
  | writtenRegisters addr nb src => exact ⟨rfl, by show 5 ≤ 253; decide⟩
  | mask addr andMask orMask => exact ⟨rfl, by show 7 ≤ 253; decide⟩
  | exchanged writeAddr writeNb src readAddr values =>
      have few := (few_exchanged within).2
      exact registers_whole .writeAndReadRegisters rfl (by decide) few
  | slaveId maxDest => exact ⟨rfl, by show 12 ≤ 253; decide⟩

end DevHub.Modbus
