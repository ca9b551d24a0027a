import DevHub.Modbus.Device

/-!
The functions of a client. Each builds a request, and makes its result of the confirmation when
`check_confirmation` lets it through; between the two it waits on the line.
-/

namespace DevHub.Modbus

open Packed

set_option autoImplicit false

/-- The value that is returned, and what is stored in `dest` from its first element on. -/
structure Outcome where
  rc : Int
  bits : List UInt8
  registers : List UInt16
  deriving DecidableEq

def returned (rc : Int) : Outcome where
  rc := rc
  bits := []
  registers := []

/-- A call that has built its request: the function code and what follows it, the result when
nothing was sent, and the result for the number and the bytes of a confirmation. -/
structure Call where
  pdu : List UInt8
  idle : Outcome
  outcome : Nat → List UInt8 → Outcome

/-- `build_request_basis` from the function code on. -/
def requestBasis (function : FunctionCode) (addr nb : Int) : List UInt8 :=
  [function.byte, highByte addr, byteOf addr, highByte nb, byteOf nb]

/-! ### Requests -/

/-- The bits of one byte that are left when `left` of them are still to be looked at. -/
def ioStatusByte (temp : UInt8) (nb : Int) : Nat → Nat → List UInt8
  | 0, _ => []
  | left + 1, pos =>
      if pos < nb then
        (if temp &&& UInt8.ofNat (1 <<< (7 - left)) ≠ 0 then 1 else 0) ::
          ioStatusByte temp nb left (pos + 1)
      else []

def ioStatusBytes (nb : Int) : List UInt8 → Nat → List UInt8
  | [], _ => []
  | temp :: rest, pos =>
      let bits := ioStatusByte temp nb 8 pos
      bits ++ ioStatusBytes nb rest (pos + bits.length)

/-- The bits of one byte of `modbus_write_bits`: the byte, `bit_check` and `pos` behind it. -/
def writeBitsByte (src : List UInt8) (nb : Int) : Nat → UInt8 → Int → Nat → UInt8 × Int × Nat
  | 0, byte, bitCheck, pos => (byte, bitCheck, pos)
  | left + 1, byte, bitCheck, pos =>
      if bitCheck < nb then
        let bit := UInt8.ofNat (1 <<< (7 - left))
        writeBitsByte src nb left (if byteAt src pos ≠ 0 then byte ||| bit else byte &&& ~~~bit)
          (bitCheck + 1) (pos + 1)
      else (byte, bitCheck + 1, pos)

def writeBitsBytes (src : List UInt8) (nb : Int) : Nat → Int → Nat → List UInt8
  | 0, _, _ => []
  | count + 1, bitCheck, pos =>
      let (byte, checked, next) := writeBitsByte src nb 8 0 bitCheck pos
      byte :: writeBitsBytes src nb count checked next

/-- `src[i] >> 8` and `src[i] & 0x00FF` for the values that are sent. -/
def srcBytes (src : List UInt16) (nb : Int) : List UInt8 :=
  (List.range nb.toNat).flatMap fun i => registerBytes (src.getD i 0)

section Functions

variable (backend : Backend)

def destRegisters (rsp : List UInt8) (rc : Nat) : List UInt16 :=
  (List.range rc).map fun i => UInt16.ofNat (wordAt rsp (backend.headerLength + 2 + 2 * i))

def readIoStatus (function : FunctionCode) (addr nb : Int) : Call where
  pdu := requestBasis function addr nb
  idle := returned nb
  outcome rc rsp :=
    { rc := nb
      bits := ioStatusBytes nb ((rsp.drop (backend.headerLength + 2)).take rc) 0
      registers := [] }

def modbusReadBits (addr nb : Int) : Except Errno Call :=
  if nb > maxReadBits then .error .embmdata
  else .ok (readIoStatus backend .readCoils addr nb)

def modbusReadInputBits (addr nb : Int) : Except Errno Call :=
  if nb > maxReadBits then .error .embmdata
  else .ok (readIoStatus backend .readDiscreteInputs addr nb)

def readCall (pdu : List UInt8) : Call where
  pdu := pdu
  idle := returned 0
  outcome rc rsp := { rc := rc, bits := [], registers := destRegisters backend rsp rc }

def readRegisters (function : FunctionCode) (addr nb : Int) : Except Errno Call :=
  if nb > maxReadRegisters then .error .embmdata
  else .ok (readCall backend (requestBasis function addr nb))

def modbusReadRegisters (addr nb : Int) : Except Errno Call :=
  if nb > maxReadRegisters then .error .embmdata
  else readRegisters backend .readHoldingRegisters addr nb

def modbusReadInputRegisters (addr nb : Int) : Except Errno Call :=
  if nb > maxReadRegisters then .error .embmdata
  else readRegisters backend .readInputRegisters addr nb

/-- A call that returns what `check_confirmation` returns. -/
def writeCall (pdu : List UInt8) : Call where
  pdu := pdu
  idle := returned 0
  outcome rc _ := returned rc

def writeSingle (function : FunctionCode) (addr value : Int) : Call :=
  writeCall (requestBasis function addr value)

def modbusWriteBit (addr status : Int) : Except Errno Call :=
  .ok (writeSingle .writeSingleCoil addr (if status ≠ 0 then 0xFF00 else 0))

def modbusWriteRegister (addr value : Int) : Except Errno Call :=
  .ok (writeSingle .writeSingleRegister addr value)

/-- `(nb / 8) + ((nb % 8) ? 1 : 0)` of an `int`. -/
def intByteCount (nb : Int) : Int := nb.tdiv 8 + if nb.tmod 8 ≠ 0 then 1 else 0

def modbusWriteBits (addr nb : Int) (src : List UInt8) : Except Errno Call :=
  if nb > maxWriteBits then .error .embmdata
  else
    .ok (writeCall (requestBasis .writeMultipleCoils addr nb ++
      byteOf (intByteCount nb) :: writeBitsBytes src nb (intByteCount nb).toNat 0 0))

def modbusWriteRegisters (addr nb : Int) (src : List UInt16) : Except Errno Call :=
  if nb > maxWriteRegisters then .error .embmdata
  else
    .ok (writeCall (requestBasis .writeMultipleRegisters addr nb ++
      byteOf (nb * 2) :: srcBytes src nb))

/-- The two bytes of the number of values are not used. -/
def modbusMaskWriteRegister (addr : Int) (andMask orMask : UInt16) : Except Errno Call :=
  .ok (writeCall ((requestBasis .maskWriteRegister addr 0).take 3 ++
    (registerBytes andMask ++ registerBytes orMask)))

def modbusWriteAndReadRegisters (writeAddr writeNb : Int) (src : List UInt16)
    (readAddr readNb : Int) : Except Errno Call :=
  if writeNb > maxWrWriteRegisters then .error .embmdata
  else if readNb > maxWrReadRegisters then .error .embmdata
  else
    .ok (readCall backend (requestBasis .writeAndReadRegisters readAddr readNb ++
      [highByte writeAddr, byteOf writeAddr, highByte writeNb, byteOf writeNb,
        byteOf (writeNb * 2)] ++ srcBytes src writeNb))

/-- The address and the number of values are not used. -/
def modbusReportSlaveId (maxDest : Int) : Except Errno Call :=
  if maxDest ≤ 0 then .error .einval
  else
    .ok
      { pdu := (requestBasis .reportSlaveId 0 0).take 1
        idle := returned 0
        outcome := fun rc rsp =>
          { rc := rc
            bits := (rsp.drop (backend.headerLength + 2)).take (min rc maxDest.toNat)
            registers := [] } }

/-! ### Confirmations -/

/-- `none` is `MSG_LENGTH_UNDEFINED`. -/
def computeResponseLengthFromRequest (req : List UInt8) : Option Nat :=
  let nb := wordAt req (backend.headerLength + 3)
  let length : Option Nat :=
    match FunctionCode.ofByte (byteAt req backend.headerLength) with
    | some .readCoils | some .readDiscreteInputs => some (2 + byteCount nb)
    | some .writeAndReadRegisters | some .readHoldingRegisters | some .readInputRegisters =>
        some (2 + 2 * nb)
    | some .readExceptionStatus => some 3
    | some .reportSlaveId => none
    | some .maskWriteRegister => some 7
    | _ => some 5
  length.map fun length => backend.headerLength + length + backend.checksumLength

/-- `req_nb_value` and `rsp_nb_value`. -/
def nbValues (function : UInt8) (req rsp : List UInt8) : Nat × Nat :=
  let nb := wordAt req (backend.headerLength + 3)
  let count := (byteAt rsp (backend.headerLength + 1)).toNat
  match FunctionCode.ofByte function with
  | some .readCoils | some .readDiscreteInputs => (byteCount nb, count)
  | some .writeAndReadRegisters | some .readHoldingRegisters | some .readInputRegisters =>
      (nb, count / 2)
  | some .writeMultipleCoils | some .writeMultipleRegisters =>
      (nb, wordAt rsp (backend.headerLength + 3))
  | some .reportSlaveId => (count, count)
  | _ => (1, 1)

def checkConfirmation (req rsp : List UInt8) (rspLength : Nat) : Except Errno Nat :=
  let function := byteAt rsp backend.headerLength
  match backend.preCheckConfirmation req rsp with
  | .error errno => .error errno
  | .ok _ =>
      let computed := computeResponseLengthFromRequest backend req
      if 0x80 ≤ function then
        if rspLength = backend.headerLength + 2 + backend.checksumLength ∧
            byteAt req backend.headerLength = function - 0x80 then
          let exceptionCode := byteAt rsp (backend.headerLength + 1)
          if exceptionCode < exceptionMax then .error (.embx exceptionCode) else .error .embbadexc
        else .error .embbadexc
      else if computed = some rspLength ∨ computed = none then
        if function ≠ byteAt req backend.headerLength then .error .embbaddata
        else
          let (reqNbValue, rspNbValue) := nbValues backend function req rsp
          if reqNbValue = rspNbValue then .ok rspNbValue else .error .embbaddata
      else .error .embbaddata

/-! ### Calls on a line -/

/-- The header of a request: RTU asserts that the slave has been set. -/
def requestSlave (ctx : Context) : Except Errno UInt8 :=
  match ctx.slave with
  | some slave => .ok slave
  | none => if backend.rtu then .error .failedAssertion else .ok 0xFF

def Call.start (call : Call) (ctx : Context) : Except Errno (Context × List UInt8) :=
  (requestSlave backend ctx).map fun slave =>
    let tid := backend.nextTid ctx.tid
    ({ ctx with tid := tid }, backend.message tid slave call.pdu)

/-- What the call makes of what was received. -/
def Call.returned (call : Call) (req : List UInt8) (received : Except Errno (Nat × List UInt8)) :
    Except Errno Outcome :=
  received.bind fun (rspLength, rsp) =>
    (checkConfirmation backend req rsp rspLength).map fun rc => call.outcome rc rsp

/-- The call behind what `recv` brings once its request has been sent; `none` while it waits. -/
def Call.finish (call : Call) (ctx : Context) (req : List UInt8) (recvs : List Recv) :
    Option (Except Errno Outcome) :=
  (modbusReceiveMsg backend .confirmation ctx recvs).map (call.returned backend req)

/-- What `send_msg` makes of the number that `send` returned. -/
def Call.sent (call : Call) (ctx : Context) (req : List UInt8) (sent : Except Errno Nat)
    (recvs : List Recv) : Option (Except Errno Outcome) :=
  match sent with
  | .error errno => some (.error errno)
  | .ok rc =>
      if rc = 0 then some (.ok call.idle)
      else if rc ≠ req.length then some (.error .embbaddata)
      else call.finish backend ctx req recvs

end Functions

/-! ### Bits on the line -/

theorem bits_of_byte_drop (byte : UInt8) {left : Nat} (room : left < 8) :
    (bitsOfByte byte).drop (7 - left) =
      byte.toNat.testBit (7 - left) :: (bitsOfByte byte).drop (8 - left) := by
  have length : (bitsOfByte byte).length = 8 := by simp [bitsOfByte]
  have inside : 7 - left < (bitsOfByte byte).length := by omega
  have next : 7 - left + 1 = 8 - left := by omega
  rw [List.drop_eq_getElem_cons inside, next]
  congr 1
  simp only [bitsOfByte, List.getElem_map, List.getElem_range]

theorem io_status_byte (temp : UInt8) (nb : Nat) {left : Nat} (room : left ≤ 8) (pos : Nat) :
    ioStatusByte temp nb left pos =
      (((bitsOfByte temp).drop (8 - left)).take (nb - pos)).map status := by
  induction left generalizing pos with
  | zero =>
      have length : (bitsOfByte temp).length = 8 := by simp [bitsOfByte]
      rw [ioStatusByte, List.drop_eq_nil_of_le (by omega), List.take_nil, List.map_nil]
  | succ left ih =>
      have seven : 8 - (left + 1) = 7 - left := by omega
      rw [ioStatusByte, seven, bits_of_byte_drop temp (by omega)]
      by_cases more : pos < nb
      · have count : nb - pos = nb - (pos + 1) + 1 := by omega
        rw [if_pos (by omega), ih (by omega), count, List.take_succ_cons, List.map_cons]
        congr 1
        rw [status]
        exact if_congr (bit_test temp (by omega)) rfl rfl
      · have none : nb - pos = 0 := by omega
        rw [if_neg (by omega), none]
        rfl

theorem io_status_bytes (nb : Nat) (bytes : List UInt8) (pos : Nat) :
    ioStatusBytes nb bytes pos = ((unpack bytes).take (nb - pos)).map status := by
  induction bytes generalizing pos with
  | nil =>
      have empty : unpack [] = [] := rfl
      rw [ioStatusBytes, empty, List.take_nil, List.map_nil]
  | cons temp rest ih =>
      have length : (bitsOfByte temp).length = 8 := by simp [bitsOfByte]
      have first := io_status_byte temp nb (Nat.le_refl 8) pos
      rw [Nat.sub_self, List.drop_zero] at first
      have cut : unpack (temp :: rest) = bitsOfByte temp ++ unpack rest := rfl
      have later : nb - (pos + min (nb - pos) 8) = nb - pos - 8 := by omega
      rw [ioStatusBytes, first, ih, cut, List.take_append, length, List.map_append,
        List.length_map, List.length_take, length, later]

theorem io_status_pack (bits : List Bool) :
    ioStatusBytes bits.length (pack bits) 0 = bits.map status := by
  rw [io_status_bytes, Nat.sub_zero, unpack_pack_take]

theorem bit_cleared (byte : UInt8) (bit : Fin 8) (small : byte.toNat < 2 ^ bit.val) :
    byte &&& ~~~UInt8.ofNat (1 <<< bit.val) = byte := by
  have all : ∀ n < 256, ∀ bit : Fin 8, n < 2 ^ bit.val →
      UInt8.ofNat n &&& ~~~UInt8.ofNat (1 <<< bit.val) = UInt8.ofNat n := by decide +kernel
  have own := all byte.toNat byte.toNat_lt bit small
  rwa [UInt8.ofNat_toNat] at own

theorem bit_set (byte : UInt8) (bit : Fin 8) (small : byte.toNat < 2 ^ bit.val) :
    (byte ||| UInt8.ofNat (1 <<< bit.val)).toNat = byte.toNat + 2 ^ bit.val := by
  have all : ∀ n < 256, ∀ bit : Fin 8, n < 2 ^ bit.val →
      (UInt8.ofNat n ||| UInt8.ofNat (1 <<< bit.val)).toNat = n + 2 ^ bit.val := by decide +kernel
  have own := all byte.toNat byte.toNat_lt bit small
  rwa [UInt8.ofNat_toNat] at own

theorem byte_of_bits_next (filled : List Bool) (room : filled.length < 8) (bit : Bool) :
    (if bit then byteOfBits filled ||| UInt8.ofNat (1 <<< filled.length)
      else byteOfBits filled &&& ~~~UInt8.ofNat (1 <<< filled.length)) =
      byteOfBits (filled ++ [bit]) := by
  have value := byte_of_bits_nat (Nat.le_of_lt room)
  have longer : (filled ++ [bit]).length ≤ 8 := by
    rw [List.length_append, List.length_singleton]
    omega
  have small : (byteOfBits filled).toNat < 2 ^ filled.length := by
    rw [value]
    exact number_lt filled
  apply UInt8.toNat_inj.mp
  rw [byte_of_bits_nat longer, number_append, number_cons, number_nil, ← value]
  cases bit with
  | false => simp [bit_cleared _ ⟨filled.length, room⟩ small]
  | true => simp [bit_set _ ⟨filled.length, room⟩ small]

def srcBits (src : List UInt8) (nb : Nat) : List Bool :=
  (List.range nb).map fun i => isOn (byteAt src i)

theorem src_bits_length (src : List UInt8) (nb : Nat) : (srcBits src nb).length = nb := by
  rw [srcBits, List.length_map, List.length_range]

theorem src_bits_drop (src : List UInt8) {nb pos : Nat} (inside : pos < nb) :
    (srcBits src nb).drop pos = isOn (byteAt src pos) :: (srcBits src nb).drop (pos + 1) := by
  have length : pos < (srcBits src nb).length := by rwa [src_bits_length]
  rw [List.drop_eq_getElem_cons length]
  congr 1
  simp only [srcBits, List.getElem_map, List.getElem_range]

theorem write_bits_byte (src : List UInt8) {nb pos left : Nat} (filled : List Bool)
    (full : filled.length + left = 8) (more : pos + left ≤ nb) :
    writeBitsByte src nb left (byteOfBits filled) pos pos =
      (byteOfBits (filled ++ ((srcBits src nb).drop pos).take left), ((pos + left : Nat) : Int),
        pos + left) := by
  induction left generalizing pos filled with
  | zero => rw [writeBitsByte, List.take_zero, List.append_nil, Nat.add_zero]
  | succ left ih =>
      have place : 7 - left = filled.length := by omega
      have next := byte_of_bits_next filled (by omega) (isOn (byteAt src pos))
      have test : byteAt src pos ≠ 0 ↔ isOn (byteAt src pos) = true := by
        rw [isOn, decide_eq_true_iff]
      have count : ((pos : Int) + 1) = (pos + 1 : Nat) := by omega
      rw [writeBitsByte, if_pos (by omega), src_bits_drop src (by omega), List.take_succ_cons, place]
      dsimp only
      rw [if_congr test rfl rfl, next, count, ih _ (by simp; omega) (by omega), List.append_assoc,
        List.singleton_append]
      congr 2 <;> omega

theorem write_bits_last (src : List UInt8) {nb pos left : Nat} (filled : List Bool)
    (full : filled.length + left = 8) (few : nb ≤ pos + left) :
    (writeBitsByte src nb left (byteOfBits filled) pos pos).1 =
      byteOfBits (filled ++ (srcBits src nb).drop pos) := by
  induction left generalizing pos filled with
  | zero =>
      rw [writeBitsByte, List.drop_eq_nil_of_le (by rw [src_bits_length]; omega), List.append_nil]
  | succ left ih =>
      rw [writeBitsByte]
      by_cases more : pos < nb
      · have place : 7 - left = filled.length := by omega
        have next := byte_of_bits_next filled (by omega) (isOn (byteAt src pos))
        have test : byteAt src pos ≠ 0 ↔ isOn (byteAt src pos) = true := by
          rw [isOn, decide_eq_true_iff]
        have count : ((pos : Int) + 1) = (pos + 1 : Nat) := by omega
        rw [if_pos (by omega), src_bits_drop src more, place]
        dsimp only
        rw [if_congr test rfl rfl, next, count, ih _ (by simp; omega) (by omega), List.append_assoc,
          List.singleton_append]
      · rw [if_neg (by omega), List.drop_eq_nil_of_le (by rw [src_bits_length]; omega),
          List.append_nil]

theorem write_bits_pack (src : List UInt8) {nb count pos : Nat} (inside : pos ≤ nb)
    (bytes : count = (nb - pos + 7) / 8) :
    writeBitsBytes src nb count pos pos = pack ((srcBits src nb).drop pos) := by
  induction count generalizing pos with
  | zero =>
      rw [writeBitsBytes, List.drop_eq_nil_of_le (by rw [src_bits_length]; omega), pack_nil]
  | succ count ih =>
      rw [writeBitsBytes]
      have empty : (0 : UInt8) = byteOfBits [] := rfl
      have length : ((srcBits src nb).drop pos).length = nb - pos := by
        rw [List.length_drop, src_bits_length]
      by_cases more : pos + 8 ≤ nb
      · have byte := write_bits_byte src [] (rfl : 0 + 8 = 8) more
        rw [empty, byte]
        dsimp only
        rw [ih more (by omega), List.nil_append, ← List.drop_drop,
          ← pack_byte (by rw [List.length_take, length]; omega), List.take_append_drop]
      · have last := write_bits_last src [] (rfl : 0 + 8 = 8) (by omega : nb ≤ pos + 8)
        have none : count = 0 := by omega
        subst none
        rw [empty]
        dsimp only
        rw [last, writeBitsBytes, List.nil_append, pack_last (by rw [← List.length_pos_iff]; omega)
          (by omega)]

end DevHub.Modbus
