import Mathlib.Data.BitVec
import Mathlib.Data.List.GetD
import Mathlib.Data.List.Zip
import Mathlib.Tactic.Common

/-!
Cyclic redundancy checks as a register that takes one bit at a time, its low end first. The
register is linear in what it takes, so a pattern of errors goes unnoticed exactly when the
pattern alone leaves an empty register at zero. A shift that loses nothing finds every burst
no longer than the register, a parity that the shift keeps finds every odd number of errors,
and two errors meet only at a distance after which a single bit comes back to itself.
-/

namespace Crc

set_option autoImplicit false

variable {w : Nat} (poly : BitVec w)

/-- One shift to the right; the bit that falls out takes the polynomial in. -/
def shift (crc : BitVec w) : BitVec w :=
  if crc.getLsbD 0 then (crc >>> 1) ^^^ poly else crc >>> 1

def feed (crc : BitVec w) (bit : Bool) : BitVec w :=
  shift poly (crc ^^^ (BitVec.ofBool bit).setWidth w)

def feedAll (crc : BitVec w) (bits : List Bool) : BitVec w := bits.foldl (feed poly) crc

def bitsOf {v : Nat} (word : BitVec v) : List Bool := (List.range v).map word.getLsbD

def xorBits (first second : List Bool) : List Bool := List.zipWith Bool.xor first second

def parity (bits : List Bool) : Bool := bits.foldl Bool.xor false

theorem shift_zero : shift poly 0#w = 0#w := by
  simp [shift]

theorem shift_xor (first second : BitVec w) :
    shift poly (first ^^^ second) = shift poly first ^^^ shift poly second := by
  rw [shift, shift, shift, BitVec.getLsbD_xor, BitVec.ushiftRight_xor_distrib]
  cases first.getLsbD 0 with
  | false =>
      cases second.getLsbD 0 with
      | false => simp
      | true => simp [BitVec.xor_assoc]
  | true =>
      cases second.getLsbD 0 with
      | false =>
          simp only [Bool.xor_false, if_true, Bool.false_eq_true, if_false]
          rw [BitVec.xor_assoc, BitVec.xor_comm (second >>> 1), ← BitVec.xor_assoc]
      | true =>
          simp only [bne_self_eq_false, Bool.false_eq_true, if_false, if_true]
          rw [BitVec.xor_assoc, BitVec.xor_comm poly, BitVec.xor_assoc, BitVec.xor_self,
            BitVec.xor_zero]

theorem feed_xor (first second : BitVec w) (bit other : Bool) :
    feed poly (first ^^^ second) (bit ^^ other) = feed poly first bit ^^^ feed poly second other := by
  rw [feed, feed, feed, ← shift_xor]
  congr 1
  have split : (BitVec.ofBool (bit ^^ other)).setWidth w =
      (BitVec.ofBool bit).setWidth w ^^^ (BitVec.ofBool other).setWidth w := by
    rw [← BitVec.setWidth_xor, BitVec.ofBool_xor_ofBool]
  rw [split]
  ac_rfl

theorem feed_all_append (crc : BitVec w) (first second : List Bool) :
    feedAll poly crc (first ++ second) = feedAll poly (feedAll poly crc first) second :=
  List.foldl_append

/-- What two lines give together is what they give apart. -/
theorem feed_all_xor (first second : BitVec w) {bits others : List Bool}
    (same : bits.length = others.length) :
    feedAll poly (first ^^^ second) (xorBits bits others) =
      feedAll poly first bits ^^^ feedAll poly second others := by
  induction bits generalizing others first second with
  | nil =>
      cases others with
      | nil => rfl
      | cons other later => cases same
  | cons bit rest ih =>
      cases others with
      | nil => cases same
      | cons other later =>
          have step := ih (feed poly first bit) (feed poly second other) (Nat.succ.inj same)
          rw [← feed_xor] at step
          exact step

theorem feed_false (crc : BitVec w) : feed poly crc false = shift poly crc := by
  rw [feed]
  congr 1
  simp

theorem feed_all_zeros (crc : BitVec w) (count : Nat) :
    feedAll poly crc (List.replicate count false) = (shift poly)^[count] crc := by
  induction count generalizing crc with
  | zero => rfl
  | succ count ih =>
      rw [List.replicate_succ, feedAll, List.foldl_cons, feed_false]
      exact ih (shift poly crc)

theorem iterate_shift_xor (count : Nat) (first second : BitVec w) :
    (shift poly)^[count] (first ^^^ second) =
      (shift poly)^[count] first ^^^ (shift poly)^[count] second := by
  induction count generalizing first second with
  | zero => rfl
  | succ count ih =>
      rw [Function.iterate_succ_apply, shift_xor, ih]
      rfl

/-- A polynomial with its highest bit set loses nothing in a shift. -/
theorem shift_eq_zero {poly crc : BitVec w} (top : poly.msb = true) (zero : shift poly crc = 0#w) :
    crc = 0#w := by
  have shifted : (crc >>> 1).msb = false := by
    rw [BitVec.msb_ushiftRight]
    simp
  rw [shift] at zero
  cases low : crc.getLsbD 0 with
  | true =>
      rw [low, if_pos rfl] at zero
      rw [BitVec.xor_eq_zero_iff.mp zero] at shifted
      rw [shifted] at top
      cases top
  | false =>
      rw [low, if_neg Bool.false_ne_true] at zero
      apply BitVec.eq_of_getLsbD_eq
      intro i _
      cases i with
      | zero => simp [low]
      | succ i =>
          have bit := congrArg (fun word => word.getLsbD i) zero
          simp only [BitVec.getLsbD_ushiftRight] at bit
          rw [Nat.add_comm 1 i] at bit
          simpa using bit

theorem iterate_shift_eq_zero {poly crc : BitVec w} (top : poly.msb = true) {count : Nat} :
    (shift poly)^[count] crc = 0#w ↔ crc = 0#w := by
  induction count generalizing crc with
  | zero => rfl
  | succ count ih =>
      rw [Function.iterate_succ_apply, ih]
      constructor
      · exact shift_eq_zero top
      · rintro rfl
        exact shift_zero poly

/-! ### Words -/

def wordOf (bits : List Bool) : BitVec w :=
  bits.foldr (fun bit word => (BitVec.ofBool bit).setWidth w ^^^ (word <<< 1)) 0#w

theorem word_of_bit (bits : List Bool) {i : Nat} (inside : i < w) :
    (wordOf bits : BitVec w).getLsbD i = bits.getD i false := by
  induction bits generalizing i with
  | nil => simp [wordOf]
  | cons bit rest ih =>
      have next : (wordOf (bit :: rest) : BitVec w) =
          (BitVec.ofBool bit).setWidth w ^^^ (wordOf rest <<< 1) := rfl
      rw [next, BitVec.getLsbD_xor]
      cases i with
      | zero => simp [inside]
      | succ i =>
          rw [List.getD_cons_succ, ← ih (Nat.lt_of_succ_lt inside), BitVec.getLsbD_shiftLeft]
          simp [inside, -BitVec.getLsbD_eq_getElem]

theorem word_of_bits (word : BitVec w) : wordOf (bitsOf word) = word := by
  apply BitVec.eq_of_getLsbD_eq
  intro i inside
  rw [word_of_bit _ inside, bitsOf]
  simp [inside]

theorem word_of_eq_zero {bits : List Bool} (fits : bits.length ≤ w) :
    (wordOf bits : BitVec w) = 0#w ↔ true ∉ bits := by
  constructor
  · intro zero member
    obtain ⟨i, inside, bit⟩ := List.mem_iff_getElem.mp member
    have room : i < w := by omega
    have low := word_of_bit bits room
    rw [zero, List.getD_eq_getElem _ _ inside, bit] at low
    simp at low
  · intro none
    apply BitVec.eq_of_getLsbD_eq
    intro i inside
    rw [word_of_bit bits inside]
    by_cases short : i < bits.length
    · rw [List.getD_eq_getElem _ _ short]
      have other : bits[i] ≠ true := fun bit => none (bit ▸ List.getElem_mem short)
      simp [other]
    · rw [List.getD_eq_default _ _ (by omega)]
      simp

theorem bits_append {n m : Nat} (high : BitVec n) (low : BitVec m) :
    bitsOf (high ++ low) = bitsOf low ++ bitsOf high := by
  have range : List.range (n + m) = List.range m ++ (List.range n).map (m + ·) := by
    rw [Nat.add_comm, List.range_add]
  rw [bitsOf, range, List.map_append, List.map_map, bitsOf, bitsOf]
  congr 1
  · apply List.map_congr_left
    intro i inside
    rw [BitVec.getLsbD_append, if_pos (List.mem_range.mp inside)]
  · apply List.map_congr_left
    intro i _
    rw [Function.comp_apply, BitVec.getLsbD_append, if_neg (by omega), Nat.add_sub_cancel_left]

/-- Bits that fit into the register leave what their word, taken in at once, is shifted to. -/
theorem feed_all_word (crc : BitVec w) {bits : List Bool} (fits : bits.length ≤ w) :
    feedAll poly crc bits = (shift poly)^[bits.length] (crc ^^^ wordOf bits) := by
  induction bits generalizing crc with
  | nil => simp [feedAll, wordOf]
  | cons bit rest ih =>
      have room : rest.length < w := fits
      have back : shift poly (wordOf rest <<< 1) = wordOf rest := by
        have low : (wordOf rest <<< 1 : BitVec w).getLsbD 0 = false := by simp
        rw [shift, low, if_neg Bool.false_ne_true]
        apply BitVec.eq_of_getLsbD_eq
        intro i inside
        rw [BitVec.getLsbD_ushiftRight, BitVec.getLsbD_shiftLeft]
        by_cases last : 1 + i < w
        · simp [last]
        · have end_ : (wordOf rest : BitVec w).getLsbD i = false := by
            rw [word_of_bit rest inside, List.getD_eq_default _ _ (by omega)]
          simp [last, end_]
      have next : (wordOf (bit :: rest) : BitVec w) =
          (BitVec.ofBool bit).setWidth w ^^^ (wordOf rest <<< 1) := rfl
      rw [List.length_cons, Function.iterate_succ_apply, next, ← BitVec.xor_assoc, shift_xor, back]
      exact ih (feed poly crc bit) (Nat.le_of_lt room)

/-! ### What is accepted -/

/-- A line is accepted when its last word is what the register holds before it. -/
theorem feed_all_check (top : poly.msb = true) (crc : BitVec w) (bits : List Bool)
    (word : BitVec w) :
    feedAll poly crc (bits ++ bitsOf word) = 0#w ↔ word = feedAll poly crc bits := by
  have length : (bitsOf word).length = w := by simp [bitsOf]
  rw [feed_all_append, feed_all_word poly _ (Nat.le_of_eq length), length,
    iterate_shift_eq_zero top, word_of_bits, BitVec.xor_eq_zero_iff]
  exact eq_comm

/-- Errors in an accepted line go unnoticed when the errors alone are. -/
theorem errors_accepted (crc : BitVec w) {bits errors : List Bool}
    (same : bits.length = errors.length) (accepted : feedAll poly crc bits = 0#w) :
    feedAll poly crc (xorBits bits errors) = 0#w ↔ feedAll poly 0#w errors = 0#w := by
  have together := feed_all_xor poly crc 0#w same
  rw [BitVec.xor_zero, accepted, BitVec.zero_xor] at together
  rw [together]

theorem zeros_before (bits : List Bool) (count : Nat) :
    feedAll poly 0#w (List.replicate count false ++ bits) = feedAll poly 0#w bits := by
  rw [feed_all_append, feed_all_zeros]
  congr 1
  induction count with
  | zero => rfl
  | succ count ih => rw [Function.iterate_succ_apply, shift_zero, ih]

theorem burst_noticed (top : poly.msb = true) {burst : List Bool} (fits : burst.length ≤ w)
    (wrong : true ∈ burst) (before after : Nat) :
    feedAll poly 0#w (List.replicate before false ++ (burst ++ List.replicate after false)) ≠ 0#w := by
  rw [zeros_before, feed_all_append, feed_all_zeros, feed_all_word poly 0#w fits]
  intro zero
  rw [iterate_shift_eq_zero top, iterate_shift_eq_zero top, BitVec.zero_xor,
    word_of_eq_zero fits] at zero
  exact zero wrong

/-! ### Odd numbers of errors -/

theorem parity_cons (bit : Bool) (bits : List Bool) :
    parity (bit :: bits) = (bit ^^ parity bits) := by
  have shifted (start : Bool) : bits.foldl Bool.xor start = (start ^^ parity bits) := by
    rw [parity]
    induction bits generalizing start with
    | nil => simp
    | cons bit rest ih => rw [List.foldl_cons, List.foldl_cons, ih, ih (false ^^ bit)]; simp
  rw [parity, List.foldl_cons, shifted]
  simp

theorem parity_append (first second : List Bool) :
    parity (first ++ second) = (parity first ^^ parity second) := by
  induction first with
  | nil => simp [parity]
  | cons bit rest ih => rw [List.cons_append, parity_cons, parity_cons, ih, Bool.xor_assoc]

theorem parity_xor {bits others : List Bool} (same : bits.length = others.length) :
    parity (xorBits bits others) = (parity bits ^^ parity others) := by
  induction bits generalizing others with
  | nil =>
      cases others with
      | nil => rfl
      | cons other later => cases same
  | cons bit rest ih =>
      cases others with
      | nil => cases same
      | cons other later =>
          have next : xorBits (bit :: rest) (other :: later) =
              (bit ^^ other) :: xorBits rest later := rfl
          rw [next, parity_cons, parity_cons, parity_cons, ih (Nat.succ.inj same)]
          cases bit <;> cases other <;> simp

theorem parity_odd (bits : List Bool) : parity bits = decide (bits.count true % 2 = 1) := by
  induction bits with
  | nil => rfl
  | cons bit rest ih =>
      rw [parity_cons, ih]
      cases bit with
      | false => simp
      | true =>
          rw [List.count_cons_self, Bool.true_xor, ← decide_not]
          apply decide_eq_decide.mpr
          omega

theorem bits_xor (first second : BitVec w) :
    bitsOf (first ^^^ second) = xorBits (bitsOf first) (bitsOf second) := by
  rw [bitsOf, bitsOf, bitsOf, xorBits, List.zipWith_map, List.zipWith_self]
  simp

theorem parity_down (crc : BitVec w) :
    parity (bitsOf (crc >>> 1)) = (parity (bitsOf crc) ^^ crc.getLsbD 0) := by
  cases w with
  | zero => simp [bitsOf, parity, BitVec.getLsbD_of_ge]
  | succ n =>
      have whole : bitsOf crc = crc.getLsbD 0 :: (List.range n).map fun i => crc.getLsbD (1 + i) := by
        rw [bitsOf, List.range_succ_eq_map, List.map_cons, List.map_map]
        congr 2
        funext i
        rw [Function.comp_apply, Nat.add_comm 1 i]
      have down : bitsOf (crc >>> 1) = ((List.range n).map fun i => crc.getLsbD (1 + i)) ++ [false] := by
        have last : crc.getLsbD (1 + n) = false := BitVec.getLsbD_of_ge crc (1 + n) (by omega)
        rw [bitsOf, List.range_succ, List.map_append]
        simp [last]
      have single : parity [false] = false := rfl
      rw [down, parity_append, single, whole, parity_cons]
      cases crc.getLsbD 0 <;> simp

/-- A polynomial with an odd number of bits keeps the parity. -/
theorem parity_shift {poly : BitVec w} (odd : parity (bitsOf poly) = true) (crc : BitVec w) :
    parity (bitsOf (shift poly crc)) = parity (bitsOf crc) := by
  rw [shift]
  cases low : crc.getLsbD 0 with
  | false => rw [if_neg Bool.false_ne_true, parity_down, low, Bool.xor_false]
  | true =>
      have same : (bitsOf (crc >>> 1)).length = (bitsOf poly).length := by simp [bitsOf]
      rw [if_pos rfl, bits_xor, parity_xor same, parity_down, low, odd]
      simp

theorem parity_feed {poly : BitVec w} (odd : parity (bitsOf poly) = true) (crc : BitVec w)
    (bit : Bool) : parity (bitsOf (feed poly crc bit)) = (parity (bitsOf crc) ^^ bit) := by
  have same : (bitsOf crc).length = (bitsOf ((BitVec.ofBool bit).setWidth w)).length := by
    simp [bitsOf]
  rw [feed, parity_shift odd, bits_xor, parity_xor same]
  congr 1
  cases w with
  | zero => cases odd
  | succ n =>
      rw [bitsOf, List.range_succ_eq_map, List.map_cons, parity_cons, List.map_map]
      have rest : parity ((List.range n).map
          (((BitVec.ofBool bit).setWidth (n + 1)).getLsbD ∘ Nat.succ)) = false := by
        have none : (List.map (((BitVec.ofBool bit).setWidth (n + 1)).getLsbD ∘ Nat.succ)
            (List.range n)).count true = 0 := by
          rw [List.count_eq_zero]
          simp
        rw [parity_odd, none]
        rfl
      rw [rest]
      simp

theorem parity_feed_all {poly : BitVec w} (odd : parity (bitsOf poly) = true) (crc : BitVec w)
    (bits : List Bool) :
    parity (bitsOf (feedAll poly crc bits)) = (parity (bitsOf crc) ^^ parity bits) := by
  induction bits generalizing crc with
  | nil => simp [feedAll, parity]
  | cons bit rest ih =>
      have step := ih (feed poly crc bit)
      rw [parity_feed odd, Bool.xor_assoc, ← parity_cons] at step
      exact step

theorem odd_noticed {poly : BitVec w} (odd : parity (bitsOf poly) = true) {errors : List Bool}
    (wrong : errors.count true % 2 = 1) : feedAll poly 0#w errors ≠ 0#w := by
  intro zero
  have kept := parity_feed_all odd 0#w errors
  rw [zero, parity_odd errors, wrong] at kept
  cases parity (bitsOf 0#w) <;> simp at kept

/-! ### Two errors -/

/-- Two errors meet when a bit comes back to itself over their distance. -/
theorem pair_noticed_iff (top : poly.msb = true) (before gap after : Nat) :
    feedAll poly 0#w (List.replicate before false ++
        (true :: List.replicate gap false ++ true :: List.replicate after false)) ≠ 0#w ↔
      (shift poly)^[gap + 1] 1#w ≠ 1#w := by
  have one : (BitVec.ofBool true).setWidth w = 1#w := by
    apply BitVec.eq_of_toNat_eq
    simp
  have first : feedAll poly 0#w (true :: List.replicate gap false) =
      (shift poly)^[gap + 1] 1#w := by
    rw [feedAll, List.foldl_cons, feed, one, BitVec.zero_xor]
    exact feed_all_zeros poly _ gap
  have second (crc : BitVec w) : feedAll poly crc (true :: List.replicate after false) =
      (shift poly)^[after + 1] (crc ^^^ 1#w) := by
    rw [feedAll, List.foldl_cons, feed, one]
    exact feed_all_zeros poly _ after
  rw [zeros_before, feed_all_append, first, second, Ne, iterate_shift_eq_zero top,
    BitVec.xor_eq_zero_iff]

def staysAway (crc : BitVec w) : Nat → Bool
  | 0 => true
  | count + 1 => crc != 1#w && staysAway (shift poly crc) count

theorem stays_away {crc : BitVec w} {count : Nat} (away : staysAway poly crc count = true)
    {shifts : Nat} (inside : shifts < count) : (shift poly)^[shifts] crc ≠ 1#w := by
  induction count generalizing crc shifts with
  | zero => cases inside
  | succ count ih =>
      rw [staysAway, Bool.and_eq_true, bne_iff_ne] at away
      cases shifts with
      | zero => exact away.1
      | succ shifts => exact ih away.2 (Nat.lt_of_succ_lt_succ inside)

theorem all_false {bits : List Bool} (none : bits.count true = 0) :
    bits = List.replicate bits.length false := by
  rw [List.eq_replicate_iff]
  refine ⟨rfl, ?_⟩
  intro bit member
  have absent := List.count_eq_zero.mp none
  cases bit with
  | false => rfl
  | true => exact absurd member absent

theorem first_error {bits : List Bool} {count : Nat} (errors : bits.count true = count + 1) :
    ∃ before rest, bits = List.replicate before false ++ true :: rest ∧ rest.count true = count := by
  induction bits with
  | nil => cases errors
  | cons bit rest ih =>
      cases bit with
      | true =>
          rw [List.count_cons_self] at errors
          exact ⟨0, rest, rfl, Nat.succ.inj errors⟩
      | false =>
          rw [List.count_cons_of_ne (by simp)] at errors
          obtain ⟨before, later, same, left⟩ := ih errors
          exact ⟨before + 1, later, by rw [same]; rfl, left⟩

/-- Two errors, or any odd number of them, in a line shorter than the period of a bit. -/
theorem few_noticed {poly : BitVec w} (top : poly.msb = true)
    (odd : parity (bitsOf poly) = true) {period : Nat}
    (apart : ∀ distance, 0 < distance → distance < period → (shift poly)^[distance] 1#w ≠ 1#w)
    {errors : List Bool} (fits : errors.length ≤ period)
    (wrong : errors.count true % 2 = 1 ∨ errors.count true = 2) :
    feedAll poly 0#w errors ≠ 0#w := by
  rcases wrong with wrong | two
  · exact odd_noticed odd wrong
  · obtain ⟨before, rest, rfl, one⟩ := first_error two
    obtain ⟨gap, rest, rfl, none⟩ := first_error one
    rw [all_false none] at fits ⊢
    apply (pair_noticed_iff poly top before gap rest.length).mpr
    apply apart _ (Nat.succ_pos gap)
    simp only [List.length_append, List.length_replicate, List.length_cons] at fits
    omega

end Crc
