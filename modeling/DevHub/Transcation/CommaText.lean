import DevHub.Transcation.Transcation
import Mathlib.Data.List.TakeWhile

/-!
The comma-separated texts: what `split` and `std::stoi` find in a text that was put
together from items and numbers, and the result code of a reply in either format.
-/

namespace DevHub.CommaText

open TaskUse Transcations

set_option autoImplicit false

structure Item (text : String) : Prop where
  nonempty : text ≠ ""
  bare : ',' ∉ text.toList

theorem nat_digits (n : Nat) : ∀ c ∈ (toString n).toList, c.isDigit = true := by
  intro c member
  rw [Nat.toString_eq_repr, Nat.toList_repr] at member
  exact Nat.isDigit_of_mem_toDigits (by decide) (by decide) member

theorem nat_item (n : Nat) : Item (toString n) := by
  constructor
  · exact Nat.repr_ne_empty
  · intro comma
    exact absurd (nat_digits n ',' comma) (by decide)

theorem int_item (value : Int) : Item (toString value) := by
  cases value with
  | ofNat n => exact nat_item n
  | negSucc n =>
      have text : (toString (Int.negSucc n)).toList = '-' :: (toString (n + 1)).toList := by
        rw [show toString (Int.negSucc n) = "-" ++ toString (n + 1) from rfl, String.toList_append]
        rfl
      constructor
      · intro empty
        rw [empty] at text
        cases text
      · rw [text, List.mem_cons, not_or]
        exact ⟨by decide, (nat_item (n + 1)).bare⟩

theorem magnitude_digits (digits : List Char) (start : Nat) :
    digits.foldl (fun (acc : Int) c => acc * 10 + ((c.toNat - '0'.toNat : Nat) : Int)) start =
      (Nat.ofDigitChars 10 digits start : Int) := by
  induction digits generalizing start with
  | nil => simp
  | cons c rest ih =>
      rw [List.foldl_cons, Nat.ofDigitChars_cons, ← ih]
      congr 1
      push_cast
      omega

theorem digit_plain {c : Char} (digit : c.isDigit = true) :
    isSpace c = false ∧ c ≠ '-' ∧ c ≠ '+' := by
  have low : '0' ≤ c := by
    simp only [Char.isDigit, Bool.and_eq_true, decide_eq_true_eq] at digit
    exact digit.1
  have above (other : Char) (less : other < '0') : c ≠ other := by
    intro same
    subst same
    exact absurd less (Char.not_lt.mpr low)
  refine ⟨?_, above '-' (by decide), above '+' (by decide)⟩
  simp only [isSpace, Bool.or_eq_false_iff, decide_eq_false_iff_not, Bool.and_eq_false_iff]
  refine ⟨above ' ' (by decide), Or.inr ?_⟩
  intro high
  exact absurd (Char.le_trans low high) (by decide)

theorem stoi_digits {text : String} (nonempty : text.toList ≠ [])
    (digits : ∀ c ∈ text.toList, c.isDigit = true) :
    stoi text =
      let value : Int := Nat.ofDigitChars 10 text.toList 0
      if Json.minInt ≤ value ∧ value ≤ Json.maxInt then some value else none := by
  unfold stoi
  cases chars : text.toList with
  | nil => exact absurd chars nonempty
  | cons c rest =>
      rw [chars] at digits
      obtain ⟨space, minus, plus⟩ := digit_plain (digits c List.mem_cons_self)
      have all : (c :: rest).takeWhile Char.isDigit = c :: rest :=
        List.takeWhile_eq_self_iff.mpr digits
      rw [List.dropWhile_cons_of_neg (by simp [space])]
      split
      rename_i sign negative tail split_
      have plain : (negative, tail) = (false, c :: rest) := by
        rw [← split_]
        split
        · rename_i same
          exact absurd (List.cons.inj same).1 minus
        · rename_i same
          exact absurd (List.cons.inj same).1 plus
        · rfl
      obtain ⟨rfl, rfl⟩ := Prod.mk.inj plain
      have magnitude := magnitude_digits (c :: rest) 0
      rw [Int.natCast_zero] at magnitude
      simp only [all, magnitude]
      simp

theorem stoi_nat (n : Nat) :
    stoi (toString n) = if (n : Int) ≤ Json.maxInt then some (n : Int) else none := by
  have low : Json.minInt ≤ (n : Int) := by
    simp only [Json.minInt]
    omega
  rw [stoi_digits (by simp) (nat_digits n)]
  simp [low]

theorem split_items {items : List String} (each : ∀ item ∈ items, Item item) (some_ : items ≠ []) :
    split (String.intercalate "," items) ',' = items := by
  have bare : ∀ chars ∈ items.map String.toList, ',' ∉ chars := by
    intro chars member
    obtain ⟨item, inItems, rfl⟩ := List.mem_map.mp member
    exact (each item inItems).bare
  have nonempty : ∀ chars ∈ items.map String.toList, (!chars.isEmpty) = true := by
    intro chars member
    obtain ⟨item, inItems, rfl⟩ := List.mem_map.mp member
    simpa using (each item inItems).nonempty
  rw [split, String.toList_intercalate, show ",".toList = [','] from rfl,
    List.splitOn_intercalate ',' bare (by simpa using some_), List.filter_eq_self.mpr nonempty,
    List.map_map]
  apply List.map_id''
  intro item
  simp

/-- The code of a reply: a member of the object, or the item before the last one. -/
def resultCode : Message → Option Int
  | .styled root =>
      match root.member "resultCode" with
      | some (.int code) => some code
      | _ => none
  | .text data => ((data.toList.splitOn ',').reverse[1]?).bind fun item => stoi (String.ofList item)

theorem comm_response_code (errorNo : Nat) (small : (errorNo : Int) ≤ Json.maxInt) (task : Task)
    (cmd : String) (reqId : Int) :
    resultCode (buildCommResponse errorNo task cmd reqId) = some (errorNo : Int) := by
  have comma : ",".toList = [','] := rfl
  have code := List.splitOn_eq_singleton (nat_item errorNo).bare
  have last := List.splitOn_eq_singleton (int_item reqId).bare
  have cut (front : List Char) :
      (front ++ ',' :: ((toString errorNo).toList ++ ',' :: (toString reqId).toList)).splitOn ',' =
        front.splitOn ',' ++ [(toString errorNo).toList, (toString reqId).toList] := by
    rw [List.splitOn_append_cons_self, List.splitOn_append_cons_self, code, last]
    rfl
  have text : (task.machineId ++ "," ++ task.stationId ++ "," ++ task.slotId ++ "," ++ cmd ++ ","
      ++ toString (errorNo : Int) ++ "," ++ toString reqId).toList =
        (task.machineId ++ "," ++ task.stationId ++ "," ++ task.slotId ++ "," ++ cmd).toList ++
          ',' :: ((toString errorNo).toList ++ ',' :: (toString reqId).toList) := by
    simp only [String.toList_append, comma, List.append_assoc, List.singleton_append]
    rfl
  rw [buildCommResponse, resultCode, text, cut, List.reverse_append]
  simp only [List.reverse_cons, List.reverse_nil, List.nil_append, List.cons_append,
    List.getElem?_cons_succ, List.getElem?_cons_zero, Option.bind_some, String.ofList_toList]
  rw [stoi_nat, if_pos small]

theorem response_code (errorNo : Nat) (small : (errorNo : Int) ≤ Json.maxInt) {task : Task}
    (format : task.format.isSome = true) (cmd : String) (reqId : Int) :
    resultCode (response task errorNo cmd reqId) = some (errorNo : Int) := by
  unfold response
  split
  · rfl
  · exact comm_response_code errorNo small task cmd reqId
  · rename_i missing
    rw [missing] at format
    cases format

end DevHub.CommaText
