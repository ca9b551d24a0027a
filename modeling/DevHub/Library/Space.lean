import Mathlib.Data.List.GetD
import Mathlib.Tactic.Common

/-!
A space of addresses, at some of which a value stands: reading and writing a range of it, and
what a range tells of another.
-/

namespace AddressSpace

set_option autoImplicit false

abbrev Space (α : Type*) := Nat → Option α

variable {α : Type*}

/-- The values of a range, `none` when one of them is missing. -/
def readRange (space : Space α) (address : Nat) : Nat → Option (List α)
  | 0 => some []
  | count + 1 =>
      (space address).bind fun value => (readRange space (address + 1) count).map (value :: ·)

def writeRange (space : Space α) (address : Nat) (values : List α) : Space α := fun place =>
  if place < address then space place
  else (values[place - address]?).or (space place)

def Apart (address count other size : Nat) : Prop :=
  address + count ≤ other ∨ other + size ≤ address

theorem read_eq_some_iff {space : Space α} {address count : Nat} {values : List α} :
    readRange space address count = some values ↔
      values.length = count ∧ ∀ i < count, space (address + i) = values[i]? := by
  induction count generalizing address values with
  | zero =>
      rw [readRange, Option.some.injEq]
      constructor
      · rintro rfl
        exact ⟨rfl, fun i inside => absurd inside (Nat.not_lt_zero i)⟩
      · rintro ⟨empty, -⟩
        exact (List.length_eq_zero_iff.mp empty).symm
  | succ count ih =>
      rw [readRange, Option.bind_eq_some_iff]
      simp only [Option.map_eq_some_iff]
      constructor
      · rintro ⟨value, here, rest, later, rfl⟩
        obtain ⟨length, each⟩ := ih.mp later
        refine ⟨by rw [List.length_cons, length], fun i inside => ?_⟩
        cases i with
        | zero => exact here
        | succ i =>
            rw [List.getElem?_cons_succ, ← each i (Nat.lt_of_succ_lt_succ inside)]
            congr 1
            omega
      · rintro ⟨length, each⟩
        cases values with
        | nil => cases length
        | cons value rest =>
            refine ⟨value, each 0 (Nat.succ_pos _), rest, ih.mpr ⟨Nat.succ.inj length, ?_⟩, rfl⟩
            intro i inside
            rw [← List.getElem?_cons_succ, ← each (i + 1) (Nat.succ_lt_succ inside)]
            congr 1
            omega

theorem read_length {space : Space α} {address count : Nat} {values : List α}
    (known : readRange space address count = some values) : values.length = count :=
  (read_eq_some_iff.mp known).1

theorem read_is_some_iff {space : Space α} {address count : Nat} :
    (readRange space address count).isSome ↔ ∀ i < count, (space (address + i)).isSome := by
  induction count generalizing address with
  | zero => simp [readRange]
  | succ count ih =>
      rw [readRange]
      constructor
      · intro known i inside
        obtain ⟨values, whole⟩ := Option.isSome_iff_exists.mp known
        obtain ⟨value, here, rest⟩ := Option.bind_eq_some_iff.mp whole
        cases i with
        | zero =>
            rw [Nat.add_zero, here]
            rfl
        | succ i =>
            obtain ⟨later, same, -⟩ := Option.map_eq_some_iff.mp rest
            have tail := ih.mp (Option.isSome_iff_exists.mpr ⟨later, same⟩) i
              (Nat.lt_of_succ_lt_succ inside)
            rwa [Nat.add_right_comm, Nat.add_assoc] at tail
      · intro each
        obtain ⟨value, here⟩ := Option.isSome_iff_exists.mp (each 0 (Nat.succ_pos _))
        have tail : (readRange space (address + 1) count).isSome := by
          apply ih.mpr
          intro i inside
          have next := each (i + 1) (Nat.succ_lt_succ inside)
          rwa [Nat.add_comm i, ← Nat.add_assoc] at next
        rw [Nat.add_zero] at here
        rw [here, Option.bind_some, Option.isSome_map]
        exact tail

theorem write_before {space : Space α} {address place : Nat} (values : List α)
    (before : place < address) : writeRange space address values place = space place := by
  rw [writeRange, if_pos before]

theorem write_behind {space : Space α} {address place : Nat} {values : List α}
    (behind : address + values.length ≤ place) :
    writeRange space address values place = space place := by
  rw [writeRange, if_neg (by omega), List.getElem?_eq_none (by omega), Option.none_or]

theorem write_inside {space : Space α} {address i : Nat} {values : List α}
    (inside : i < values.length) : writeRange space address values (address + i) = values[i]? := by
  rw [writeRange, if_neg (by omega), Nat.add_sub_cancel_left, List.getElem?_eq_getElem inside,
    Option.some_or]

theorem write_nil (space : Space α) (address : Nat) : writeRange space address [] = space := by
  funext place
  by_cases before : place < address
  · exact write_before [] before
  · exact write_behind (Nat.le_of_not_lt before)

theorem write_cons (space : Space α) (address : Nat) (value : α) (rest : List α) :
    writeRange space address (value :: rest) = writeRange (writeRange space address [value]) (address + 1) rest := by
  funext place
  by_cases before : place < address
  · rw [write_before _ before, write_before _ (by omega), write_before _ before]
  · by_cases here : place = address
    · subst here
      have first (values : List α) : writeRange space place (value :: values) place = some value :=
        write_inside (i := 0) (Nat.succ_pos _)
      rw [write_before _ (Nat.lt_succ_self _), first, first]
    · have single : writeRange space address [value] place = space place :=
        write_behind (by rw [List.length_singleton]; omega)
      rw [writeRange, if_neg before, writeRange, if_neg (by omega), single]
      have next : place - address = place - (address + 1) + 1 := by omega
      rw [next, List.getElem?_cons_succ]

theorem read_write (space : Space α) (address : Nat) (values : List α) :
    readRange (writeRange space address values) address values.length = some values :=
  read_eq_some_iff.mpr ⟨rfl, fun _ inside => write_inside inside⟩

theorem read_congr {space other : Space α} {address count : Nat}
    (same : ∀ i < count, space (address + i) = other (address + i)) :
    readRange space address count = readRange other address count := by
  induction count generalizing address with
  | zero => rfl
  | succ count ih =>
      rw [readRange, readRange, ← Nat.add_zero address, same 0 (Nat.succ_pos _), Nat.add_zero]
      congr 1
      funext value
      rw [ih]
      intro i inside
      have next := same (i + 1) (Nat.succ_lt_succ inside)
      rwa [Nat.add_comm i, ← Nat.add_assoc] at next

theorem read_write_apart {space : Space α} {address other count : Nat} {values : List α}
    (apart : Apart address values.length other count) :
    readRange (writeRange space address values) other count = readRange space other count := by
  apply read_congr
  intro i inside
  rcases apart with behind | before
  · exact write_behind (by omega)
  · exact write_before values (by omega)

theorem write_is_some {space : Space α} {address : Nat} {values : List α}
    (room : (readRange space address values.length).isSome) (place : Nat) :
    (writeRange space address values place).isSome = (space place).isSome := by
  by_cases before : place < address
  · rw [write_before values before]
  · by_cases behind : address + values.length ≤ place
    · rw [write_behind behind]
    · obtain ⟨i, rfl⟩ : ∃ i, place = address + i := ⟨place - address, by omega⟩
      have inside : i < values.length := by omega
      rw [write_inside inside, read_is_some_iff.mp room i inside, List.getElem?_eq_getElem inside]
      rfl

/-! ### Values seen through a function -/

def mapSpace {β : Type*} (f : α → β) (space : Space α) : Space β := fun place =>
  (space place).map f

theorem read_map {β : Type*} (f : α → β) (space : Space α) (address count : Nat) :
    readRange (mapSpace f space) address count = (readRange space address count).map (List.map f) := by
  induction count generalizing address with
  | zero => rfl
  | succ count ih =>
      rw [readRange, readRange, ih, mapSpace]
      cases space address with
      | none => rfl
      | some value =>
          cases readRange space (address + 1) count with
          | none => rfl
          | some rest => rfl

theorem write_map {β : Type*} (f : α → β) (space : Space α) (address : Nat) (values : List α) :
    mapSpace f (writeRange space address values) =
      writeRange (mapSpace f space) address (values.map f) := by
  funext place
  rw [mapSpace, writeRange, writeRange]
  split
  · rfl
  · rw [List.getElem?_map]
    cases values[place - address]? with
    | none => rfl
    | some value => rfl

end AddressSpace
