import Mathlib.Tactic.Common
import Mathlib.Data.Rat.Defs
import Mathlib.Algebra.Field.Rat
import Mathlib.Data.List.TakeWhile

/-!
How `std::istream` reads a floating-point number from text. The characters that can
belong to a number are collected, then converted as a whole; a conversion that fails
stores zero, and a text of white space alone stores nothing. Numbers are rationals, so
rounding and overflow are left out.
-/

namespace FloatText

set_option autoImplicit false

def isSpace (c : Char) : Bool := c = ' ' || ('\t' ≤ c && c ≤ '\r')

def significand (chars : List Char) : List Char × List Char × List Char :=
  match chars.dropWhile Char.isDigit with
  | '.' :: rest =>
      (chars.takeWhile Char.isDigit, rest.takeWhile Char.isDigit, rest.dropWhile Char.isDigit)
  | rest => (chars.takeWhile Char.isDigit, [], rest)

/-- The exponent behind a significand; an exponent without digits is collected, too, and
makes the conversion fail. -/
def exponent (rest : List Char) : Option Int :=
  let digits (sign : Int) (chars : List Char) : Option Int :=
    let digits := chars.takeWhile Char.isDigit
    if digits = [] then none else some (sign * Nat.ofDigitChars 10 digits 0)
  match rest with
  | 'e' :: '-' :: chars => digits (-1) chars
  | 'e' :: '+' :: chars => digits 1 chars
  | 'e' :: chars => digits 1 chars
  | 'E' :: '-' :: chars => digits (-1) chars
  | 'E' :: '+' :: chars => digits 1 chars
  | 'E' :: chars => digits 1 chars
  | _ => some 0

def unsigned (chars : List Char) : Rat :=
  let (whole, fraction, rest) := significand chars
  if whole = [] ∧ fraction = [] then 0
  else
    match exponent rest with
    | none => 0
    | some e =>
        (Nat.ofDigitChars 10 (whole ++ fraction) 0 : Rat) * (10 : Rat) ^ (e - fraction.length)

/-- `stream >> value`; `none` leaves the variable as it was. -/
def extract (chars : List Char) : Option Rat :=
  match chars.dropWhile isSpace with
  | [] => none
  | '-' :: rest => some (-unsigned rest)
  | '+' :: rest => some (unsigned rest)
  | rest => some (unsigned rest)

/-- An unsigned decimal number: digits, with at most one point among them. -/
def decimal (chars : List Char) : Option Rat :=
  let whole := chars.takeWhile Char.isDigit
  match chars.dropWhile Char.isDigit with
  | [] => if whole = [] then none else some (Nat.ofDigitChars 10 whole 0)
  | '.' :: fraction =>
      if fraction.all Char.isDigit ∧ ¬ (whole = [] ∧ fraction = []) then
        some ((Nat.ofDigitChars 10 (whole ++ fraction) 0 : Rat) / 10 ^ fraction.length)
      else none
  | _ => none

theorem decimal_cases {chars : List Char} {number : Rat} (read : decimal chars = some number) :
    (chars ≠ [] ∧ (∀ c ∈ chars, c.isDigit = true) ∧ number = Nat.ofDigitChars 10 chars 0) ∨
      ∃ whole fraction, chars = whole ++ '.' :: fraction ∧
        (∀ c ∈ whole, c.isDigit = true) ∧ (∀ c ∈ fraction, c.isDigit = true) ∧
        ¬ (whole = [] ∧ fraction = []) ∧
        number = (Nat.ofDigitChars 10 (whole ++ fraction) 0 : Rat) / 10 ^ fraction.length := by
  have parts : chars.takeWhile Char.isDigit ++ chars.dropWhile Char.isDigit = chars :=
    List.takeWhile_append_dropWhile
  have digits : ∀ c ∈ chars.takeWhile Char.isDigit, c.isDigit = true :=
    fun c member => List.mem_takeWhile_imp member
  unfold decimal at read
  dsimp only at read
  split at read
  · rename_i ends
    rw [ends, List.append_nil] at parts
    rw [parts] at read digits
    rw [Option.ite_none_left_eq_some] at read
    exact Or.inl ⟨read.1, digits, (Option.some.inj read.2).symm⟩
  · rename_i fraction point
    rw [point] at parts
    rw [Option.ite_none_right_eq_some] at read
    obtain ⟨⟨all, some_⟩, value⟩ := read
    exact Or.inr ⟨_, fraction, parts.symm, digits, List.all_eq_true.mp all, some_,
      (Option.some.inj value).symm⟩
  · cases read

theorem decimal_chars {chars : List Char} {number : Rat} (read : decimal chars = some number) :
    chars ≠ [] ∧ ∀ c ∈ chars, c.isDigit = true ∨ c = '.' := by
  rcases decimal_cases read with ⟨nonempty, digits, -⟩ | ⟨whole, fraction, rfl, front, behind, -, -⟩
  · exact ⟨nonempty, fun c member => Or.inl (digits c member)⟩
  · refine ⟨by simp, ?_⟩
    intro c member
    rcases List.mem_append.mp member with early | late
    · exact Or.inl (front c early)
    · rcases List.mem_cons.mp late with point | later
      · exact Or.inr point
      · exact Or.inl (behind c later)

/-- What follows a number and cannot belong to it. -/
def Ends (rest : List Char) : Prop :=
  ∀ c, rest.head? = some c → c.isDigit = false ∧ c ≠ '.' ∧ c ≠ 'e' ∧ c ≠ 'E'

theorem ends_digits {digits rest : List Char} (all : ∀ c ∈ digits, c.isDigit = true)
    (ends : ∀ c, rest.head? = some c → c.isDigit = false) :
    (digits ++ rest).takeWhile Char.isDigit = digits ∧
      (digits ++ rest).dropWhile Char.isDigit = rest := by
  rw [List.takeWhile_append_of_pos all, List.dropWhile_append_of_pos all]
  cases rest with
  | nil => exact ⟨List.append_nil _, rfl⟩
  | cons c more =>
      have stop := ends c rfl
      simp [stop]

theorem ends_exponent {rest : List Char} (ends : Ends rest) : exponent rest = some 0 := by
  unfold exponent
  dsimp only
  split
  · exact absurd rfl (ends _ rfl).2.2.1
  · exact absurd rfl (ends _ rfl).2.2.1
  · exact absurd rfl (ends _ rfl).2.2.1
  · exact absurd rfl (ends _ rfl).2.2.2
  · exact absurd rfl (ends _ rfl).2.2.2
  · exact absurd rfl (ends _ rfl).2.2.2
  · rfl

theorem unsigned_decimal {chars rest : List Char} {number : Rat}
    (read : decimal chars = some number) (ends : Ends rest) :
    unsigned (chars ++ rest) = number := by
  rcases decimal_cases read with
    ⟨nonempty, digits, rfl⟩ | ⟨whole, fraction, rfl, front, behind, some_, rfl⟩
  · obtain ⟨taken, dropped⟩ := ends_digits digits fun c head => (ends c head).1
    have cut : significand (chars ++ rest) = (chars, [], rest) := by
      unfold significand
      rw [taken, dropped]
      split
      · exact absurd rfl (ends '.' rfl).2.1
      · rfl
    simp [unsigned, cut, nonempty, ends_exponent ends]
  · have point : ∀ c, ('.' :: (fraction ++ rest)).head? = some c → c.isDigit = false := by
      intro c head
      cases head
      rfl
    obtain ⟨taken, dropped⟩ := ends_digits front point
    obtain ⟨more, after⟩ := ends_digits behind fun c head => (ends c head).1
    have cut : significand (whole ++ '.' :: fraction ++ rest) = (whole, fraction, rest) := by
      unfold significand
      rw [List.append_assoc, List.cons_append, taken, dropped]
      simp only [more, after]
    simp only [unsigned, cut, if_neg some_, ends_exponent ends]
    rw [Int.zero_sub, zpow_neg, zpow_natCast, div_eq_mul_inv]

theorem number_plain {c : Char} (belongs : c.isDigit = true ∨ c = '.') :
    isSpace c = false ∧ c ≠ '-' ∧ c ≠ '+' := by
  rcases belongs with digit | rfl
  · have low : '0' ≤ c := by
      simp only [Char.isDigit, Bool.and_eq_true, decide_eq_true_eq] at digit
      exact digit.1
    have above (other : Char) (less : other < '0') : c ≠ other := by
      rintro rfl
      exact absurd less (Char.not_lt.mpr low)
    refine ⟨?_, above '-' (by decide), above '+' (by decide)⟩
    simp only [isSpace, Bool.or_eq_false_iff, decide_eq_false_iff_not, Bool.and_eq_false_iff]
    refine ⟨above ' ' (by decide), Or.inr ?_⟩
    intro high
    exact absurd (Char.le_trans low high) (by decide)
  · decide

/-- A decimal number is read as it is, whatever white space stands in front of it. -/
theorem extract_decimal {front chars rest : List Char} {number : Rat}
    (space : ∀ c ∈ front, isSpace c = true) (read : decimal chars = some number)
    (ends : Ends rest) : extract (front ++ (chars ++ rest)) = some number := by
  obtain ⟨nonempty, belong⟩ := decimal_chars read
  have value := unsigned_decimal read ends
  cases chars with
  | nil => exact absurd rfl nonempty
  | cons c more =>
      obtain ⟨stop, minus, plus⟩ := number_plain (belong c List.mem_cons_self)
      unfold extract
      rw [List.dropWhile_append_of_pos space, List.cons_append,
        List.dropWhile_cons_of_neg (by simp [stop])]
      split
      · rename_i empty
        cases empty
      · rename_i same
        exact absurd (List.cons.inj same).1 minus
      · rename_i same
        exact absurd (List.cons.inj same).1 plus
      · exact congrArg some value

theorem extract_negative {chars : List Char} {number : Rat} (read : decimal chars = some number) :
    extract ('-' :: chars) = some (-number) := by
  have none_ : Ends [] := by
    intro c head
    cases head
  have value := unsigned_decimal read none_
  rw [List.append_nil] at value
  rw [← value]
  rfl

end FloatText
