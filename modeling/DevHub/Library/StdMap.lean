import Mathlib.Data.Nat.Basic
import Mathlib.Order.Lattice
import Mathlib.Tactic.Common

/-!
Ordered maps as `std::map` offers them: entries by increasing key, at most one
for each key. The order is a field, so a loop over `entries` visits the keys as
an iterator does. Every operation has one lemma for `find?` and one for `keys`.
-/

set_option autoImplicit false

structure StdMap (κ α : Type*) [LinearOrder κ] where
  entries : List (κ × α)
  sorted : entries.Pairwise fun left right => left.1 < right.1

namespace StdMap

variable {κ α β : Type*} [LinearOrder κ]

def empty : StdMap κ α where
  entries := []
  sorted := List.Pairwise.nil

def keys (map : StdMap κ α) : List κ := map.entries.map Prod.fst

def find? (map : StdMap κ α) (key : κ) : Option α :=
  (map.entries.find? fun entry => entry.1 = key).map Prod.snd

def insertEntry (key : κ) (value : α) : List (κ × α) → List (κ × α)
  | [] => [(key, value)]
  | head :: rest =>
      if key < head.1 then (key, value) :: head :: rest
      else if key = head.1 then (key, value) :: rest
      else head :: insertEntry key value rest

theorem mem_insert_entry {key : κ} {value : α} {entry : κ × α} {entries : List (κ × α)}
    (member : entry ∈ insertEntry key value entries) :
    entry = (key, value) ∨ entry ∈ entries := by
  induction entries with
  | nil => exact Or.inl (List.mem_singleton.mp member)
  | cons head rest ih =>
      rw [insertEntry] at member
      split at member
      · exact List.mem_cons.mp member
      · split at member
        · exact (List.mem_cons.mp member).imp_right (List.mem_cons_of_mem head)
        · rcases List.mem_cons.mp member with first | later
          · exact Or.inr (first ▸ List.mem_cons_self)
          · exact (ih later).imp_right (List.mem_cons_of_mem head)

theorem insert_entry_sorted (key : κ) (value : α) (entries : List (κ × α))
    (sorted : entries.Pairwise fun left right => left.1 < right.1) :
    (insertEntry key value entries).Pairwise fun left right => left.1 < right.1 := by
  induction entries with
  | nil => exact List.pairwise_singleton _ _
  | cons head rest ih =>
      obtain ⟨above, tail⟩ := List.pairwise_cons.mp sorted
      rw [insertEntry]
      split
      · rename_i before
        apply List.Pairwise.cons _ sorted
        intro entry member
        rcases List.mem_cons.mp member with first | later
        · exact first ▸ before
        · exact lt_trans before (above entry later)
      · rename_i notBefore
        split
        · rename_i same
          exact List.Pairwise.cons (fun entry later => same ▸ above entry later) tail
        · rename_i different
          apply List.Pairwise.cons _ (ih tail)
          intro entry member
          rcases mem_insert_entry member with added | later
          · exact added ▸ lt_of_le_of_ne (not_lt.mp notBefore) (Ne.symm different)
          · exact above entry later

def insert (map : StdMap κ α) (key : κ) (value : α) : StdMap κ α where
  entries := insertEntry key value map.entries
  sorted := insert_entry_sorted key value map.entries map.sorted

def mapValues (f : κ → α → β) (map : StdMap κ α) : StdMap κ β where
  entries := map.entries.map fun entry => (entry.1, f entry.1 entry.2)
  sorted := by
    rw [List.pairwise_map]
    exact map.sorted

def filterMapValues (f : α → Option β) (map : StdMap κ α) : StdMap κ β where
  entries := map.entries.filterMap fun entry => (f entry.2).map fun value => (entry.1, value)
  sorted := by
    rw [List.pairwise_filterMap]
    apply map.sorted.imp
    intro left right less other kept another also
    obtain ⟨value, -, rfl⟩ := Option.map_eq_some_iff.mp kept
    obtain ⟨second, -, rfl⟩ := Option.map_eq_some_iff.mp also
    exact less

theorem keys_sorted (map : StdMap κ α) : map.keys.Pairwise fun left right => left < right :=
  List.pairwise_map.mpr map.sorted

theorem find_entries (entries : List (κ × α)) (key : κ) (value : α)
    (sorted : entries.Pairwise fun left right => left.1 < right.1) :
    (entries.find? fun entry => entry.1 = key).map Prod.snd = some value ↔
      (key, value) ∈ entries := by
  induction entries with
  | nil => simp
  | cons head rest ih =>
      obtain ⟨above, tail⟩ := List.pairwise_cons.mp sorted
      by_cases same : head.1 = key
      · have others : (key, value) ∉ rest := by
          intro member
          exact absurd same (ne_of_lt (above _ member))
        rw [List.find?_cons_of_pos (by simpa using same), List.mem_cons, or_iff_left others,
          Option.map_some, Option.some.injEq, Prod.ext_iff]
        constructor
        · exact fun value => ⟨same.symm, value.symm⟩
        · exact fun both => both.2.symm
      · have different : (key, value) ≠ head := by
          intro same
          subst same
          exact same rfl
        rw [List.find?_cons_of_neg (by simpa using same), ih tail, List.mem_cons,
          or_iff_right different]

theorem find_eq_some {map : StdMap κ α} {key : κ} {value : α} :
    map.find? key = some value ↔ (key, value) ∈ map.entries :=
  find_entries map.entries key value map.sorted

theorem mem_keys {map : StdMap κ α} {key : κ} :
    key ∈ map.keys ↔ ∃ value, map.find? key = some value := by
  simp only [keys, List.mem_map, find_eq_some, Prod.exists, exists_and_right, exists_eq_right]

theorem insert_entry_find (key other : κ) (value : α) (entries : List (κ × α)) :
    ((insertEntry key value entries).find? fun entry => entry.1 = other).map Prod.snd =
      if other = key then some value
      else (entries.find? fun entry => entry.1 = other).map Prod.snd := by
  induction entries with
  | nil =>
      by_cases same : other = key
      · simp [insertEntry, same]
      · simp [insertEntry, same, Ne.symm same]
  | cons head rest ih =>
      rw [insertEntry]
      by_cases before : key < head.1
      · by_cases same : other = key
        · simp [before, same]
        · simp [before, same, Ne.symm same]
      · by_cases match_head : key = head.1
        · by_cases same : other = key
          · rw [if_neg before, if_pos match_head, if_pos same,
              List.find?_cons_of_pos (by simpa using same.symm), Option.map_some]
          · have skipped : head.1 ≠ other := fun found => same (found ▸ match_head.symm)
            rw [if_neg before, if_pos match_head, if_neg same,
              List.find?_cons_of_neg (by simpa using Ne.symm same),
              List.find?_cons_of_neg (by simpa using skipped)]
        · rw [if_neg before, if_neg match_head]
          by_cases found : head.1 = other
          · have different : other ≠ key := fun same => match_head (found.trans same).symm
            simp [found, different]
          · rw [List.find?_cons_of_neg (by simpa using found), ih,
              List.find?_cons_of_neg (by simpa using found)]

theorem find_insert (map : StdMap κ α) (key other : κ) (value : α) :
    (map.insert key value).find? other = if other = key then some value else map.find? other :=
  insert_entry_find key other value map.entries

theorem find_map_values (f : κ → α → β) (map : StdMap κ α) (key : κ) :
    (map.mapValues f).find? key = (map.find? key).map (f key) := by
  obtain ⟨entries, sorted⟩ := map
  simp only [find?, mapValues]
  clear sorted
  induction entries with
  | nil => rfl
  | cons head rest ih =>
      by_cases same : head.1 = key
      · simp [same]
      · rw [List.map_cons, List.find?_cons_of_neg (by simpa using same), ih,
          List.find?_cons_of_neg (by simpa using same)]

theorem find_filter_map_values (f : α → Option β) (map : StdMap κ α) (key : κ) :
    (map.filterMapValues f).find? key = (map.find? key).bind f := by
  apply Option.ext
  intro value
  rw [find_eq_some, filterMapValues, List.mem_filterMap]
  constructor
  · intro given
    obtain ⟨entry, member, mapped⟩ := given
    obtain ⟨kept, found, same⟩ := Option.map_eq_some_iff.mp mapped
    cases same
    exact Option.bind_eq_some_iff.mpr ⟨entry.2, find_eq_some.mpr member, found⟩
  · intro given
    obtain ⟨before, found, kept⟩ := Option.bind_eq_some_iff.mp given
    exact ⟨(key, before), find_eq_some.mp found, by rw [kept]; rfl⟩

theorem keys_map_values (f : κ → α → β) (map : StdMap κ α) : (map.mapValues f).keys = map.keys := by
  simp [keys, mapValues]

theorem mem_keys_insert {map : StdMap κ α} {key other : κ} {value : α} :
    other ∈ (map.insert key value).keys ↔ other = key ∨ other ∈ map.keys := by
  rw [mem_keys, mem_keys, find_insert]
  by_cases same : other = key
  · simp [same]
  · simp [same]

def erase (map : StdMap κ α) (key : κ) : StdMap κ α where
  entries := map.entries.filter fun entry => decide (entry.1 ≠ key)
  sorted := map.sorted.filter _

theorem mem_keys_erase {map : StdMap κ α} {key other : κ} :
    other ∈ (map.erase key).keys ↔ other ∈ map.keys ∧ other ≠ key := by
  simp only [keys, erase, List.mem_map, List.mem_filter, decide_eq_true_eq]
  constructor
  · rintro ⟨entry, ⟨member, different⟩, rfl⟩
    exact ⟨⟨entry, member, rfl⟩, different⟩
  · rintro ⟨⟨entry, member, rfl⟩, different⟩
    exact ⟨entry, ⟨member, different⟩, rfl⟩

theorem increasing_ext {left right : List κ} (first : left.Pairwise fun a b => a < b)
    (second : right.Pairwise fun a b => a < b) (same : ∀ key, key ∈ left ↔ key ∈ right) :
    left = right := by
  apply List.Perm.eq_of_pairwise (fun _ _ _ _ less more => absurd less (lt_asymm more)) first second
  exact (List.perm_ext_iff_of_nodup (first.imp ne_of_lt) (second.imp ne_of_lt)).mpr same

theorem keys_insert_of_mem {map : StdMap κ α} {key : κ} (present : key ∈ map.keys) (value : α) :
    (map.insert key value).keys = map.keys := by
  apply increasing_ext (keys_sorted _) (keys_sorted _)
  intro other
  rw [mem_keys_insert]
  exact or_iff_right_of_imp fun same => same ▸ present

def keysWhere (map : StdMap κ α) (test : α → Bool) : List κ :=
  (map.entries.filter fun entry => test entry.2).map Prod.fst

theorem keys_where_sorted (map : StdMap κ α) (test : α → Bool) :
    (map.keysWhere test).Pairwise fun left right => left < right :=
  List.pairwise_map.mpr (map.sorted.filter _)

theorem mem_keys_where {map : StdMap κ α} {test : α → Bool} {key : κ} :
    key ∈ map.keysWhere test ↔ ∃ value, map.find? key = some value ∧ test value = true := by
  simp [keysWhere, find_eq_some]

end StdMap
