import Mathlib.Data.List.GetD
import Mathlib.Tactic.Common
import Mathlib.Tactic.Ring

/-!
Bits packed into bytes, the first of them lowest in the first byte. Packing is cut into bytes;
what is read back is what was packed, and then zeros up to the end of the last byte.
-/

namespace Packed

set_option autoImplicit false

/-- The number whose lowest bit comes first. -/
def number (bits : List Bool) : Nat := bits.foldr (fun bit higher => bit.toNat + 2 * higher) 0

def byteOfBits (bits : List Bool) : UInt8 := UInt8.ofNat (number bits)

def bitsOfByte (byte : UInt8) : List Bool := (List.range 8).map byte.toNat.testBit

def pack : List Bool → List UInt8
  | [] => []
  | bit :: rest => byteOfBits (bit :: rest.take 7) :: pack (rest.drop 7)
termination_by bits => bits.length
decreasing_by simp only [List.length_drop, List.length_cons]; omega

def unpack (bytes : List UInt8) : List Bool := bytes.flatMap bitsOfByte

@[simp] theorem number_nil : number [] = 0 := rfl

@[simp] theorem number_cons (bit : Bool) (rest : List Bool) :
    number (bit :: rest) = bit.toNat + 2 * number rest := rfl

theorem number_append (first second : List Bool) :
    number (first ++ second) = number first + 2 ^ first.length * number second := by
  induction first with
  | nil => simp
  | cons bit rest ih =>
      rw [List.cons_append, number_cons, ih, number_cons, List.length_cons, Nat.pow_succ]
      ring

theorem number_lt (bits : List Bool) : number bits < 2 ^ bits.length := by
  induction bits with
  | nil => decide
  | cons bit rest ih =>
      have one : bit.toNat ≤ 1 := Bool.toNat_le bit
      rw [number_cons, List.length_cons, Nat.pow_succ]
      omega

theorem number_bit (bits : List Bool) (i : Nat) :
    (number bits).testBit i = bits.getD i false := by
  induction bits generalizing i with
  | nil => simp
  | cons bit rest ih =>
      cases i with
      | zero => cases bit <;> simp [Nat.testBit_zero]
      | succ i =>
          have half : (bit.toNat + 2 * number rest) / 2 = number rest := by
            have one : bit.toNat ≤ 1 := Bool.toNat_le bit
            omega
          rw [number_cons, Nat.testBit_add_one, half, ih]
          rfl

theorem byte_of_bits_nat {bits : List Bool} (fits : bits.length ≤ 8) :
    (byteOfBits bits).toNat = number bits := by
  have small : number bits < 2 ^ 8 :=
    Nat.lt_of_lt_of_le (number_lt bits) (Nat.pow_le_pow_right (by decide) fits)
  rw [byteOfBits, UInt8.toNat_ofNat', Nat.mod_eq_of_lt small]

theorem bits_of_byte_of_bits {bits : List Bool} (fits : bits.length ≤ 8) :
    bitsOfByte (byteOfBits bits) = bits ++ List.replicate (8 - bits.length) false := by
  apply List.ext_getElem
  · simp [bitsOfByte]
    omega
  · intro i inside _
    have eight : i < 8 := by simpa [bitsOfByte] using inside
    simp only [bitsOfByte, List.getElem_map, List.getElem_range]
    rw [byte_of_bits_nat fits, number_bit, List.getElem_append]
    by_cases own : i < bits.length
    · rw [dif_pos own, List.getD_eq_getElem _ _ own]
    · rw [dif_neg own, List.getElem_replicate, List.getD_eq_default _ _ (Nat.le_of_not_lt own)]

theorem pack_nil : pack [] = [] := by
  rw [pack]

theorem pack_byte {first : List Bool} (eight : first.length = 8) (rest : List Bool) :
    pack (first ++ rest) = byteOfBits first :: pack rest := by
  cases first with
  | nil => cases eight
  | cons bit more =>
      have seven : more.length = 7 := Nat.succ.inj eight
      rw [List.cons_append, pack, ← seven, List.take_left, List.drop_left]

theorem pack_last {bits : List Bool} (some : bits ≠ []) (fits : bits.length ≤ 8) :
    pack bits = [byteOfBits bits] := by
  cases bits with
  | nil => exact absurd rfl some
  | cons bit rest =>
      have seven : rest.length ≤ 7 := Nat.le_of_succ_le_succ fits
      rw [pack, List.take_of_length_le seven, List.drop_eq_nil_of_le seven, pack_nil]

theorem pack_length (bits : List Bool) : (pack bits).length = (bits.length + 7) / 8 := by
  induction bits using pack.induct with
  | case1 => rw [pack_nil]; rfl
  | case2 bit rest ih =>
      rw [pack, List.length_cons, ih, List.length_drop, List.length_cons]
      omega

/-- What was packed is read back, with zeros up to the end of the last byte. -/
theorem unpack_pack (bits : List Bool) :
    unpack (pack bits) =
      bits ++ List.replicate (8 * ((bits.length + 7) / 8) - bits.length) false := by
  induction bits using pack.induct with
  | case1 =>
      rw [pack_nil]
      rfl
  | case2 bit rest ih =>
      have fits : (bit :: rest.take 7).length ≤ 8 := by
        rw [List.length_cons, List.length_take]
        omega
      have cut : unpack (pack (bit :: rest)) =
          bitsOfByte (byteOfBits (bit :: rest.take 7)) ++ unpack (pack (rest.drop 7)) := by
        rw [pack]
        rfl
      rw [cut, bits_of_byte_of_bits fits, ih, List.length_drop, List.length_cons, List.length_take,
        List.length_cons]
      by_cases more : 7 ≤ rest.length
      · have none : 8 - (min 7 rest.length + 1) = 0 := by omega
        have count : 8 * ((rest.length - 7 + 7) / 8) - (rest.length - 7) =
            8 * ((rest.length + 1 + 7) / 8) - (rest.length + 1) := by omega
        rw [none, count, List.replicate_zero, List.append_nil, List.cons_append, ← List.append_assoc,
          List.take_append_drop]
        rfl
      · have beyond : rest.length ≤ 7 := by omega
        have none : rest.length - 7 = 0 := by omega
        have count : 8 - (min 7 rest.length + 1) =
            8 * ((rest.length + 1 + 7) / 8) - (rest.length + 1) := by omega
        rw [List.take_of_length_le beyond, List.drop_eq_nil_of_le beyond, none, count]
        simp

theorem unpack_pack_take (bits : List Bool) : (unpack (pack bits)).take bits.length = bits := by
  rw [unpack_pack, List.take_left]

theorem pack_bit (bits : List Bool) (i : Nat) :
    ((pack bits).getD (i / 8) 0).toNat.testBit (i % 8) = bits.getD i false := by
  induction bits using pack.induct generalizing i with
  | case1 =>
      rw [pack_nil]
      simp
  | case2 bit rest ih =>
      have fits : (bit :: rest.take 7).length ≤ 8 := by
        rw [List.length_cons, List.length_take]
        omega
      rw [pack]
      by_cases first : i < 8
      · have zero : i / 8 = 0 := by omega
        have same : i % 8 = i := by omega
        rw [zero, same, List.getD_cons_zero, byte_of_bits_nat fits, number_bit]
        cases i with
        | zero => rfl
        | succ i =>
            rw [List.getD_cons_succ, List.getD_cons_succ, List.getD_eq_getElem?_getD,
              List.getD_eq_getElem?_getD, List.getElem?_take_of_lt (by omega)]
      · obtain ⟨k, rfl⟩ : ∃ k, i = k + 8 := ⟨i - 8, by omega⟩
        have next : (k + 8) / 8 = k / 8 + 1 := by omega
        have same : (k + 8) % 8 = k % 8 := by omega
        have behind : 7 + k = k + 7 := by omega
        rw [next, same, List.getD_cons_succ, ih, List.getD_cons_succ, List.getD_eq_getElem?_getD,
          List.getD_eq_getElem?_getD, List.getElem?_drop, behind]

end Packed
