import DevHub.Library.Crc
import DevHub.Modbus.Context

/-!
The checksum of an RTU message. The two tables are a register that takes a byte at once; it is
the register of the polynomial that takes one bit at a time. Messages are found damaged in all
the cases for which the polynomial was chosen.
-/

namespace DevHub.Crc16

open Crc Modbus

set_option autoImplicit false

def tableCrcHi : List UInt8 :=
  [
    0x00, 0xC1, 0x81, 0x40, 0x01, 0xC0, 0x80, 0x41, 0x01, 0xC0, 0x80, 0x41, 0x00, 0xC1, 0x81, 0x40,
    0x01, 0xC0, 0x80, 0x41, 0x00, 0xC1, 0x81, 0x40, 0x00, 0xC1, 0x81, 0x40, 0x01, 0xC0, 0x80, 0x41,
    0x01, 0xC0, 0x80, 0x41, 0x00, 0xC1, 0x81, 0x40, 0x00, 0xC1, 0x81, 0x40, 0x01, 0xC0, 0x80, 0x41,
    0x00, 0xC1, 0x81, 0x40, 0x01, 0xC0, 0x80, 0x41, 0x01, 0xC0, 0x80, 0x41, 0x00, 0xC1, 0x81, 0x40,
    0x01, 0xC0, 0x80, 0x41, 0x00, 0xC1, 0x81, 0x40, 0x00, 0xC1, 0x81, 0x40, 0x01, 0xC0, 0x80, 0x41,
    0x00, 0xC1, 0x81, 0x40, 0x01, 0xC0, 0x80, 0x41, 0x01, 0xC0, 0x80, 0x41, 0x00, 0xC1, 0x81, 0x40,
    0x00, 0xC1, 0x81, 0x40, 0x01, 0xC0, 0x80, 0x41, 0x01, 0xC0, 0x80, 0x41, 0x00, 0xC1, 0x81, 0x40,
    0x01, 0xC0, 0x80, 0x41, 0x00, 0xC1, 0x81, 0x40, 0x00, 0xC1, 0x81, 0x40, 0x01, 0xC0, 0x80, 0x41,
    0x01, 0xC0, 0x80, 0x41, 0x00, 0xC1, 0x81, 0x40, 0x00, 0xC1, 0x81, 0x40, 0x01, 0xC0, 0x80, 0x41,
    0x00, 0xC1, 0x81, 0x40, 0x01, 0xC0, 0x80, 0x41, 0x01, 0xC0, 0x80, 0x41, 0x00, 0xC1, 0x81, 0x40,
    0x00, 0xC1, 0x81, 0x40, 0x01, 0xC0, 0x80, 0x41, 0x01, 0xC0, 0x80, 0x41, 0x00, 0xC1, 0x81, 0x40,
    0x01, 0xC0, 0x80, 0x41, 0x00, 0xC1, 0x81, 0x40, 0x00, 0xC1, 0x81, 0x40, 0x01, 0xC0, 0x80, 0x41,
    0x00, 0xC1, 0x81, 0x40, 0x01, 0xC0, 0x80, 0x41, 0x01, 0xC0, 0x80, 0x41, 0x00, 0xC1, 0x81, 0x40,
    0x01, 0xC0, 0x80, 0x41, 0x00, 0xC1, 0x81, 0x40, 0x00, 0xC1, 0x81, 0x40, 0x01, 0xC0, 0x80, 0x41,
    0x01, 0xC0, 0x80, 0x41, 0x00, 0xC1, 0x81, 0x40, 0x00, 0xC1, 0x81, 0x40, 0x01, 0xC0, 0x80, 0x41,
    0x00, 0xC1, 0x81, 0x40, 0x01, 0xC0, 0x80, 0x41, 0x01, 0xC0, 0x80, 0x41, 0x00, 0xC1, 0x81, 0x40]

def tableCrcLo : List UInt8 :=
  [
    0x00, 0xC0, 0xC1, 0x01, 0xC3, 0x03, 0x02, 0xC2, 0xC6, 0x06, 0x07, 0xC7, 0x05, 0xC5, 0xC4, 0x04,
    0xCC, 0x0C, 0x0D, 0xCD, 0x0F, 0xCF, 0xCE, 0x0E, 0x0A, 0xCA, 0xCB, 0x0B, 0xC9, 0x09, 0x08, 0xC8,
    0xD8, 0x18, 0x19, 0xD9, 0x1B, 0xDB, 0xDA, 0x1A, 0x1E, 0xDE, 0xDF, 0x1F, 0xDD, 0x1D, 0x1C, 0xDC,
    0x14, 0xD4, 0xD5, 0x15, 0xD7, 0x17, 0x16, 0xD6, 0xD2, 0x12, 0x13, 0xD3, 0x11, 0xD1, 0xD0, 0x10,
    0xF0, 0x30, 0x31, 0xF1, 0x33, 0xF3, 0xF2, 0x32, 0x36, 0xF6, 0xF7, 0x37, 0xF5, 0x35, 0x34, 0xF4,
    0x3C, 0xFC, 0xFD, 0x3D, 0xFF, 0x3F, 0x3E, 0xFE, 0xFA, 0x3A, 0x3B, 0xFB, 0x39, 0xF9, 0xF8, 0x38,
    0x28, 0xE8, 0xE9, 0x29, 0xEB, 0x2B, 0x2A, 0xEA, 0xEE, 0x2E, 0x2F, 0xEF, 0x2D, 0xED, 0xEC, 0x2C,
    0xE4, 0x24, 0x25, 0xE5, 0x27, 0xE7, 0xE6, 0x26, 0x22, 0xE2, 0xE3, 0x23, 0xE1, 0x21, 0x20, 0xE0,
    0xA0, 0x60, 0x61, 0xA1, 0x63, 0xA3, 0xA2, 0x62, 0x66, 0xA6, 0xA7, 0x67, 0xA5, 0x65, 0x64, 0xA4,
    0x6C, 0xAC, 0xAD, 0x6D, 0xAF, 0x6F, 0x6E, 0xAE, 0xAA, 0x6A, 0x6B, 0xAB, 0x69, 0xA9, 0xA8, 0x68,
    0x78, 0xB8, 0xB9, 0x79, 0xBB, 0x7B, 0x7A, 0xBA, 0xBE, 0x7E, 0x7F, 0xBF, 0x7D, 0xBD, 0xBC, 0x7C,
    0xB4, 0x74, 0x75, 0xB5, 0x77, 0xB7, 0xB6, 0x76, 0x72, 0xB2, 0xB3, 0x73, 0xB1, 0x71, 0x70, 0xB0,
    0x50, 0x90, 0x91, 0x51, 0x93, 0x53, 0x52, 0x92, 0x96, 0x56, 0x57, 0x97, 0x55, 0x95, 0x94, 0x54,
    0x9C, 0x5C, 0x5D, 0x9D, 0x5F, 0x9F, 0x9E, 0x5E, 0x5A, 0x9A, 0x9B, 0x5B, 0x99, 0x59, 0x58, 0x98,
    0x88, 0x48, 0x49, 0x89, 0x4B, 0x8B, 0x8A, 0x4A, 0x4E, 0x8E, 0x8F, 0x4F, 0x8D, 0x4D, 0x4C, 0x8C,
    0x44, 0x84, 0x85, 0x45, 0x87, 0x47, 0x46, 0x86, 0x82, 0x42, 0x43, 0x83, 0x41, 0x81, 0x80, 0x40]

/-- `crc_hi` and `crc_lo` after one more byte. -/
def crcByte (crc : UInt8 × UInt8) (byte : UInt8) : UInt8 × UInt8 :=
  let i := crc.1 ^^^ byte
  (crc.2 ^^^ tableCrcHi.getD i.toNat 0, tableCrcLo.getD i.toNat 0)

def crcBytes (buffer : List UInt8) : UInt8 × UInt8 := buffer.foldl crcByte (0xFF, 0xFF)

def crc16 (buffer : List UInt8) : UInt16 :=
  (crcBytes buffer).1.toUInt16 <<< 8 ||| (crcBytes buffer).2.toUInt16

/-! ### The register of the polynomial -/

def poly : BitVec 16 := 0xA001#16

/-- `crc_hi` is the low byte of the register. -/
def register (crc : UInt8 × UInt8) : BitVec 16 := crc.2.toBitVec ++ crc.1.toBitVec

def byteBits (byte : UInt8) : List Bool := bitsOf byte.toBitVec

def bitsOfBytes (bytes : List UInt8) : List Bool := bytes.flatMap byteBits

theorem table_entry (i : UInt8) :
    (shift poly)^[8] (i.toBitVec.setWidth 16) =
      register (tableCrcHi.getD i.toNat 0, tableCrcLo.getD i.toNat 0) := by
  have all : ∀ n < 256, (shift poly)^[8] (BitVec.ofNat 16 n) =
      register (tableCrcHi.getD n 0, tableCrcLo.getD n 0) := by
    decide +kernel
  have word : i.toBitVec.setWidth 16 = BitVec.ofNat 16 i.toNat := by
    apply BitVec.eq_of_toNat_eq
    simp
  rw [word]
  exact all i.toNat i.toNat_lt

theorem high_byte_down (byte : UInt8) :
    (shift poly)^[8] (byte.toBitVec ++ 0#8) = byte.toBitVec.setWidth 16 := by
  have all : ∀ n < 256, (shift poly)^[8] (BitVec.ofNat 8 n ++ 0#8) = BitVec.ofNat 16 n := by
    decide +kernel
  have word : byte.toBitVec.setWidth 16 = BitVec.ofNat 16 byte.toNat := by
    apply BitVec.eq_of_toNat_eq
    simp
  have same : byte.toBitVec = BitVec.ofNat 8 byte.toNat := by
    apply BitVec.eq_of_toNat_eq
    simp
  rw [word, ← all byte.toNat byte.toNat_lt, ← same]

theorem register_split (crc : UInt8 × UInt8) :
    register crc = (crc.2.toBitVec ++ 0#8) ^^^ crc.1.toBitVec.setWidth 16 := by
  apply BitVec.eq_of_getLsbD_eq
  intro i inside
  rw [register, BitVec.getLsbD_xor, BitVec.getLsbD_append, BitVec.getLsbD_append]
  by_cases low : i < 8
  · simp [low, inside]
  · simp [low, BitVec.getLsbD_of_ge _ i (Nat.le_of_not_lt low)]

/-- The tables take in the eight bits of a byte. -/
theorem crc_byte_bits (crc : UInt8 × UInt8) (byte : UInt8) :
    register (crcByte crc byte) = feedAll poly (register crc) (byteBits byte) := by
  have length : (byteBits byte).length = 8 := by simp [byteBits, bitsOf]
  have taken : (wordOf (byteBits byte) : BitVec 16) = byte.toBitVec.setWidth 16 := by
    apply BitVec.eq_of_getLsbD_eq
    intro i inside
    rw [word_of_bit _ inside, byteBits, bitsOf]
    by_cases low : i < 8
    · simp [low, inside]
    · simp [low, BitVec.getLsbD_of_ge byte.toBitVec i (Nat.le_of_not_lt low)]
  have joined : register crc ^^^ byte.toBitVec.setWidth 16 =
      (crc.2.toBitVec ++ 0#8) ^^^ (crc.1 ^^^ byte).toBitVec.setWidth 16 := by
    rw [register_split, BitVec.xor_assoc, UInt8.toBitVec_xor, BitVec.setWidth_xor]
  rw [feed_all_word poly _ (by omega), length, taken, joined, iterate_shift_xor, high_byte_down,
    table_entry, register_split, register_split]
  simp only [crcByte, UInt8.toBitVec_xor, BitVec.setWidth_xor]
  ac_rfl

theorem crc_bits (buffer : List UInt8) (crc : UInt8 × UInt8) :
    register (buffer.foldl crcByte crc) = feedAll poly (register crc) (bitsOfBytes buffer) := by
  induction buffer generalizing crc with
  | nil => rfl
  | cons byte rest ih =>
      rw [List.foldl_cons, ih, crc_byte_bits, bitsOfBytes, bitsOfBytes, List.flatMap_cons,
        feed_all_append]

/-! ### Messages -/

/-- `_modbus_rtu_send_msg_pre`. -/
def rtuSendMsgPre (req : List UInt8) : List UInt8 :=
  req ++ [(crc16 req >>> 8).toUInt8, (crc16 req &&& 0x00FF).toUInt8]

/-- `_modbus_rtu_check_integrity`: 0 for a message that is ignored. -/
def rtuCheckIntegrity (ctx : Context) (msg : List UInt8) : Except Errno Nat :=
  if some (byteAt msg 0) ≠ ctx.slave ∧ byteAt msg 0 ≠ broadcastAddress then .ok 0
  else if crc16 (msg.take (msg.length - 2)) =
      (byteAt msg (msg.length - 2)).toUInt16 <<< 8 ||| (byteAt msg (msg.length - 1)).toUInt16 then
    .ok msg.length
  else .error .embbadcrc

theorem word_nat (high low : UInt8) :
    (high.toUInt16 <<< 8 ||| low.toUInt16).toNat = high.toNat * 256 + low.toNat := by
  have small := low.toNat_lt
  have large := high.toNat_lt
  have eight : (8 : UInt16).toNat % 16 = 8 := rfl
  rw [UInt16.toNat_or, UInt16.toNat_shiftLeft, UInt8.toNat_toUInt16, UInt8.toNat_toUInt16, eight,
    Nat.shiftLeft_eq, Nat.mod_eq_of_lt (by omega), Nat.mul_comm,
    ← Nat.two_pow_add_eq_or_of_lt (by omega : low.toNat < 2 ^ 8)]

theorem bytes_of_word (high low : UInt8) :
    ((high.toUInt16 <<< 8 ||| low.toUInt16) >>> 8).toUInt8 = high ∧
      ((high.toUInt16 <<< 8 ||| low.toUInt16) &&& 0x00FF).toUInt8 = low := by
  have small := low.toNat_lt
  have large := high.toNat_lt
  constructor
  · have eight : (8 : UInt16).toNat % 16 = 8 := rfl
    apply UInt8.toNat_inj.mp
    rw [UInt16.toNat_toUInt8, UInt16.toNat_shiftRight, word_nat, eight, Nat.shiftRight_eq_div_pow]
    omega
  · have mask : (0x00FF : UInt16).toNat = 2 ^ 8 - 1 := rfl
    apply UInt8.toNat_inj.mp
    rw [UInt16.toNat_toUInt8, UInt16.toNat_and, word_nat, mask, Nat.and_two_pow_sub_one_eq_mod]
    omega

theorem word_inj {high low other last : UInt8} :
    high.toUInt16 <<< 8 ||| low.toUInt16 = other.toUInt16 <<< 8 ||| last.toUInt16 ↔
      (high, low) = (other, last) := by
  constructor
  · intro same
    obtain ⟨first, second⟩ := bytes_of_word high low
    obtain ⟨third, fourth⟩ := bytes_of_word other last
    rw [same, third] at first
    rw [same, fourth] at second
    rw [first, second]
  · intro same
    cases same
    rfl

theorem register_inj {crc other : UInt8 × UInt8} (same : register crc = register other) :
    crc = other := by
  have bits (i : Nat) := congrArg (fun word => word.getLsbD i) same
  simp only [register, BitVec.getLsbD_append] at bits
  have first : crc.1 = other.1 := by
    apply UInt8.toBitVec_inj.mp
    apply BitVec.eq_of_getLsbD_eq
    intro i inside
    simpa [inside] using bits i
  have second : crc.2 = other.2 := by
    apply UInt8.toBitVec_inj.mp
    apply BitVec.eq_of_getLsbD_eq
    intro i inside
    have high : ¬ i + 8 < 8 := by omega
    simpa [high] using bits (i + 8)
  exact Prod.ext first second

theorem bits_of_register (crc : UInt8 × UInt8) :
    bitsOfBytes [crc.1, crc.2] = bitsOf (register crc) := by
  rw [register, bits_append]
  simp [bitsOfBytes, byteBits]

/-- The last two bytes are the checksum of the others exactly when the whole message leaves the
register at zero. -/
theorem checksum_iff (body : List UInt8) (high low : UInt8) :
    crc16 body = high.toUInt16 <<< 8 ||| low.toUInt16 ↔
      feedAll poly 0xFFFF#16 (bitsOfBytes (body ++ [high, low])) = 0#16 := by
  have start : register (0xFF, 0xFF) = 0xFFFF#16 := rfl
  have whole : bitsOfBytes (body ++ [high, low]) =
      bitsOfBytes body ++ bitsOf (register (high, low)) := by
    rw [← bits_of_register, bitsOfBytes, bitsOfBytes, bitsOfBytes, List.flatMap_append]
  have taken : feedAll poly 0xFFFF#16 (bitsOfBytes body) = register (crcBytes body) := by
    rw [crcBytes, crc_bits, start]
  have top : poly.msb = true := rfl
  rw [crc16, word_inj, whole, feed_all_check poly top, taken]
  constructor
  · intro same
    rw [← same]
  · intro same
    exact (register_inj same).symm

theorem rtu_message (req : List UInt8) :
    rtuSendMsgPre req = req ++ [(crcBytes req).1, (crcBytes req).2] := by
  obtain ⟨high, low⟩ := bytes_of_word (crcBytes req).1 (crcBytes req).2
  rw [rtuSendMsgPre, crc16, high, low]

/-- A single bit comes back to itself after 32767 shifts, later than in any message. -/
theorem bits_apart : ∀ distance, 0 < distance → distance < 2048 →
    (shift poly)^[distance] 1#16 ≠ 1#16 := by
  intro distance positive short
  have away : staysAway poly (shift poly 1#16) 2047 = true := by decide +kernel
  obtain ⟨shifts, rfl⟩ := Nat.exists_eq_add_of_lt positive
  have further : (shift poly)^[shifts] (shift poly 1#16) ≠ 1#16 :=
    stays_away poly away (by omega)
  rw [Nat.zero_add, Function.iterate_succ_apply]
  exact further

theorem rtu_check_iff {ctx : Context} {msg : List UInt8} (long : 2 ≤ msg.length)
    (known : some (byteAt msg 0) = ctx.slave ∨ byteAt msg 0 = broadcastAddress) :
    rtuCheckIntegrity ctx msg = .ok msg.length ↔
      feedAll poly 0xFFFF#16 (bitsOfBytes msg) = 0#16 := by
  have behind : msg.drop (msg.length - 2) =
      [byteAt msg (msg.length - 2), byteAt msg (msg.length - 1)] := by
    obtain ⟨high, low, two⟩ : ∃ high low, msg.drop (msg.length - 2) = [high, low] := by
      apply List.length_eq_two.mp
      rw [List.length_drop]
      omega
    have first : msg[msg.length - 2]? = some high := by
      rw [← Nat.add_zero (msg.length - 2), ← List.getElem?_drop, two]
      rfl
    have second : msg[msg.length - 1]? = some low := by
      rw [show msg.length - 1 = msg.length - 2 + 1 by omega, ← List.getElem?_drop, two]
      rfl
    rw [two, byteAt, byteAt, List.getD_eq_getElem?_getD, List.getD_eq_getElem?_getD, first, second]
    rfl
  have tail : msg = msg.take (msg.length - 2) ++
      [byteAt msg (msg.length - 2), byteAt msg (msg.length - 1)] := by
    rw [← behind, List.take_append_drop]
  have taken : ¬ (some (byteAt msg 0) ≠ ctx.slave ∧ byteAt msg 0 ≠ broadcastAddress) := by
    rintro ⟨other, direct⟩
    rcases known with own | broadcast
    · exact other own
    · exact direct broadcast
  rw [rtuCheckIntegrity, if_neg taken]
  conv => rhs; rw [tail]
  rw [← checksum_iff]
  split
  · rename_i same
    simp [same]
  · rename_i different
    simp [different]

theorem rtu_check_cases (ctx : Context) (msg : List UInt8) :
    rtuCheckIntegrity ctx msg = .ok 0 ∨ rtuCheckIntegrity ctx msg = .ok msg.length ∨
      rtuCheckIntegrity ctx msg = .error .embbadcrc := by
  rw [rtuCheckIntegrity]
  split
  · exact .inl rfl
  · split
    · exact .inr (.inl rfl)
    · exact .inr (.inr rfl)

/-! ### Damaged messages -/

def damaged (msg errors : List UInt8) : List UInt8 := List.zipWith (· ^^^ ·) msg errors

/-- An odd number of bits, or two. -/
def Few (errors : List UInt8) : Prop :=
  (bitsOfBytes errors).count true % 2 = 1 ∨ (bitsOfBytes errors).count true = 2

/-- All of them within sixteen consecutive bits. -/
def Burst (errors : List UInt8) : Prop :=
  ∃ before burst after, bitsOfBytes errors =
      List.replicate before false ++ (burst ++ List.replicate after false) ∧
    burst.length ≤ 16 ∧ true ∈ burst

theorem damaged_bits {msg errors : List UInt8} (same : msg.length = errors.length) :
    bitsOfBytes (damaged msg errors) = xorBits (bitsOfBytes msg) (bitsOfBytes errors) := by
  induction msg generalizing errors with
  | nil =>
      cases errors with
      | nil => rfl
      | cons error later => cases same
  | cons byte rest ih =>
      cases errors with
      | nil => cases same
      | cons error later =>
          have next : damaged (byte :: rest) (error :: later) =
              (byte ^^^ error) :: damaged rest later := rfl
          have lengths : (byteBits byte).length = (byteBits error).length := by
            simp [byteBits, bitsOf]
          have byteSplit : byteBits (byte ^^^ error) = xorBits (byteBits byte) (byteBits error) := by
            rw [byteBits, UInt8.toBitVec_xor, bits_xor, byteBits, byteBits]
          rw [next, bitsOfBytes, bitsOfBytes, bitsOfBytes, List.flatMap_cons, List.flatMap_cons,
            List.flatMap_cons, xorBits, List.zipWith_append lengths]
          exact congrArg₂ (· ++ ·) byteSplit (ih (Nat.succ.inj same))

theorem bits_length (bytes : List UInt8) : (bitsOfBytes bytes).length = 8 * bytes.length := by
  induction bytes with
  | nil => rfl
  | cons byte rest ih =>
      rw [bitsOfBytes, List.flatMap_cons, List.length_append, List.length_cons]
      rw [bitsOfBytes] at ih
      have eight : (byteBits byte).length = 8 := by simp [byteBits, bitsOf]
      omega

theorem errors_noticed {errors : List UInt8} (short : errors.length ≤ 256)
    (wrong : Few errors ∨ Burst errors) : feedAll poly 0#16 (bitsOfBytes errors) ≠ 0#16 := by
  have top : poly.msb = true := rfl
  rcases wrong with few | ⟨before, burst, after, same, fits, wrong⟩
  · have odd : parity (bitsOf poly) = true := by decide
    apply few_noticed top odd bits_apart _ few
    rw [bits_length]
    omega
  · rw [same]
    exact burst_noticed poly top fits wrong before after

/-- A message that the check lets through is never let through with an odd number of its bits,
two of them, or bits of a burst the other way. -/
theorem damage_noticed {ctx : Context} {msg errors : List UInt8} (same : msg.length = errors.length)
    (long : 2 ≤ msg.length) (short : msg.length ≤ 256)
    (accepted : rtuCheckIntegrity ctx msg = .ok msg.length) (wrong : Few errors ∨ Burst errors) :
    rtuCheckIntegrity ctx (damaged msg errors) = .ok 0 ∨
      rtuCheckIntegrity ctx (damaged msg errors) = .error .embbadcrc := by
  have length : (damaged msg errors).length = msg.length := by
    simp [damaged, same]
  by_cases known : some (byteAt msg 0) = ctx.slave ∨ byteAt msg 0 = broadcastAddress
  · have zero := (rtu_check_iff long known).mp accepted
    have bits : (bitsOfBytes msg).length = (bitsOfBytes errors).length := by
      rw [bits_length, bits_length, same]
    have lost := errors_noticed (by omega) wrong
    rw [Ne, ← errors_accepted poly _ bits zero, ← damaged_bits same] at lost
    by_cases taken : some (byteAt (damaged msg errors) 0) = ctx.slave ∨
        byteAt (damaged msg errors) 0 = broadcastAddress
    · rw [← rtu_check_iff (by omega) taken] at lost
      rcases rtu_check_cases ctx (damaged msg errors) with ignored | taken | refused
      · exact .inl ignored
      · exact absurd taken lost
      · exact .inr refused
    · rw [not_or] at taken
      exact .inl (if_pos taken)
  · rw [not_or] at known
    rw [rtuCheckIntegrity, if_pos known] at accepted
    simp only [Except.ok.injEq] at accepted
    omega

theorem two_bits_noticed :
    rtuCheckIntegrity { slave := some 5, tid := 0 }
        (damaged (rtuSendMsgPre [5, 3, 0, 0, 0, 1]) [0, 0, 0x40, 0, 0, 0, 1, 0]) = .ok 0 ∨
      rtuCheckIntegrity { slave := some 5, tid := 0 }
        (damaged (rtuSendMsgPre [5, 3, 0, 0, 0, 1]) [0, 0, 0x40, 0, 0, 0, 1, 0]) =
        .error .embbadcrc :=
  damage_noticed rfl (by decide) (by decide) (by decide +kernel) (.inl (.inr (by decide +kernel)))

end DevHub.Crc16
