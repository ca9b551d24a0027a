import Mathlib.Tactic.Common

/-!
Lists made of segments that each follow a mark. `joined mark segments` puts the mark
in front of every segment; where the segments are free of the mark, what stands
between two marks, or behind the last one, is one of them.
-/

namespace Segments

set_option autoImplicit false

variable {α : Type*}

def joined (mark : α) (segments : List (List α)) : List α :=
  (segments.map fun segment => mark :: segment).flatten

theorem joined_cons (mark : α) (segment : List α) (rest : List (List α)) :
    joined mark (segment :: rest) = mark :: (segment ++ joined mark rest) := rfl

theorem joined_append (mark : α) (first second : List (List α)) :
    joined mark (first ++ second) = joined mark first ++ joined mark second := by
  simp only [joined, List.map_append, List.flatten_append]

theorem joined_singleton (mark : α) (segment : List α) :
    joined mark [segment] = mark :: segment := by
  simp [joined]

/-- Nothing follows, or the next mark does. -/
def Closed (mark : α) (rest : List α) : Prop := rest = [] ∨ rest.head? = some mark

theorem joined_closed (mark : α) (segments : List (List α)) : Closed mark (joined mark segments) := by
  cases segments with
  | nil => exact Or.inl rfl
  | cons segment rest => exact Or.inr rfl

theorem split_closed (mark : α) (rest : List α) :
    ∃ free closed, rest = free ++ closed ∧ mark ∉ free ∧ Closed mark closed := by
  induction rest with
  | nil => exact ⟨[], [], rfl, List.not_mem_nil, Or.inl rfl⟩
  | cons head tail ih =>
      by_cases marked : head = mark
      · exact ⟨[], head :: tail, rfl, List.not_mem_nil, Or.inr (congrArg some marked)⟩
      · obtain ⟨free, closed, split, absent, ends⟩ := ih
        refine ⟨head :: free, closed, by rw [split, List.cons_append], ?_, ends⟩
        intro member
        rcases List.mem_cons.mp member with same | later
        · exact marked same.symm
        · exact absent later

theorem closed_unique {mark : α} {left right restLeft restRight : List α}
    (freeLeft : mark ∉ left) (freeRight : mark ∉ right)
    (closedLeft : Closed mark restLeft) (closedRight : Closed mark restRight)
    (same : left ++ restLeft = right ++ restRight) : left = right ∧ restLeft = restRight := by
  induction left generalizing right with
  | nil =>
      cases right with
      | nil => exact ⟨rfl, same⟩
      | cons head tail =>
          rw [List.nil_append] at same
          rcases closedLeft with empty | marked
          · rw [empty] at same
            cases same
          · rw [same, List.cons_append, List.head?_cons] at marked
            exact absurd (Option.some.inj marked ▸ List.mem_cons_self) freeRight
  | cons head tail ih =>
      cases right with
      | nil =>
          rw [List.nil_append] at same
          rcases closedRight with empty | marked
          · rw [empty] at same
            cases same
          · rw [← same, List.cons_append, List.head?_cons] at marked
            exact absurd (Option.some.inj marked ▸ List.mem_cons_self) freeLeft
      | cons other more =>
          rw [List.cons_append, List.cons_append, List.cons.injEq] at same
          obtain ⟨tails, rests⟩ := ih (fun member => freeLeft (List.mem_cons_of_mem _ member))
            (fun member => freeRight (List.mem_cons_of_mem _ member)) same.2
          exact ⟨by rw [same.1, tails], rests⟩

/-- Where a symbol other than the mark stands, some segment is cut there. -/
theorem symbol_in_segment {mark symbol : α} {segments : List (List α)} {before after : List α}
    (split : joined mark segments = before ++ symbol :: after) (other : symbol ≠ mark) :
    ∃ early left right, before = early ++ mark :: left ∧ left ++ symbol :: right ∈ segments := by
  induction segments generalizing before with
  | nil => exact absurd split (by simp [joined])
  | cons segment rest ih =>
      rw [joined_cons, ← List.cons_append] at split
      rcases List.append_eq_append_iff.mp split with ⟨middle, head, tail⟩ | ⟨middle, head, tail⟩
      · obtain ⟨early, left, right, cut, member⟩ := ih tail
        refine ⟨mark :: segment ++ early, left, right, ?_, List.mem_cons_of_mem _ member⟩
        rw [head, cut, List.append_assoc]
      · cases middle with
        | nil =>
            have next : joined mark rest = [] ++ symbol :: after := tail.symm
            obtain ⟨early, left, right, cut, member⟩ := ih next
            exact absurd cut (by simp)
        | cons first more =>
            rw [List.cons_append, List.cons.injEq] at tail
            cases before with
            | nil =>
                rw [List.nil_append, List.cons.injEq] at head
                exact absurd (tail.1.trans head.1.symm) other
            | cons start left =>
                rw [List.cons_append, List.cons.injEq] at head
                refine ⟨[], left, more, ?_, ?_⟩
                · rw [← head.1, List.nil_append]
                · rw [tail.1, ← head.2]
                  exact List.mem_cons_self

/-- What stands free of the mark between a mark and the next one, or the end, is a segment. -/
theorem between_is_segment {mark : α} {segments : List (List α)} {before between rest : List α}
    (free : ∀ segment ∈ segments, mark ∉ segment)
    (split : joined mark segments = before ++ mark :: (between ++ rest))
    (open_ : mark ∉ between) (closed : Closed mark rest) : between ∈ segments := by
  induction segments generalizing before with
  | nil => exact absurd split (by simp [joined])
  | cons segment others ih =>
      have head := free segment List.mem_cons_self
      have tail : ∀ other ∈ others, mark ∉ other := fun other member =>
        free other (List.mem_cons_of_mem _ member)
      rw [joined_cons] at split
      cases before with
      | nil =>
          rw [List.nil_append, List.cons.injEq] at split
          obtain ⟨same, -⟩ := closed_unique head open_ (joined_closed mark others) closed split.2
          rw [← same]
          exact List.mem_cons_self
      | cons first more =>
          rw [List.cons_append, List.cons.injEq] at split
          rcases List.append_eq_append_iff.mp split.2 with ⟨middle, whole, later⟩ |
            ⟨middle, whole, later⟩
          · exact List.mem_cons_of_mem _ (ih tail later)
          · cases middle with
            | nil =>
                have next : joined mark others = [] ++ mark :: (between ++ rest) := later.symm
                exact List.mem_cons_of_mem _ (ih tail next)
            | cons symbol others =>
                rw [List.cons_append, List.cons.injEq] at later
                rw [whole, ← later.1] at head
                exact absurd (List.mem_append_right more List.mem_cons_self) head

variable [DecidableEq α]

theorem split_joined {mark : α} {front : List α} {segments : List (List α)} (open_ : mark ∉ front)
    (free : ∀ segment ∈ segments, mark ∉ segment) :
    (front ++ joined mark segments).splitOn mark = front :: segments := by
  induction segments generalizing front with
  | nil => simp [joined, List.splitOn_eq_singleton open_]
  | cons segment rest ih =>
      rw [joined_cons, List.splitOn_append_cons_self_of_not_mem open_,
        ih (free segment List.mem_cons_self) fun later member =>
          free later (List.mem_cons_of_mem _ member)]

theorem split_free {mark : α} (list : List α) : ∀ part ∈ list.splitOn mark, mark ∉ part := by
  induction length : list.length using Nat.strongRecOn generalizing list with
  | ind n ih =>
      by_cases marked : mark ∈ list
      · obtain ⟨front, rest, rfl, open_⟩ := List.eq_append_cons_of_mem marked
        have shorter : rest.length < n := by
          rw [← length, List.length_append, List.length_cons]
          omega
        rw [List.splitOn_append_cons_self_of_not_mem open_]
        intro part member
        rcases List.mem_cons.mp member with first | later
        · exact first ▸ open_
        · exact ih rest.length shorter rest rfl part later
      · rw [List.splitOn_eq_singleton marked]
        intro part member
        exact List.mem_singleton.mp member ▸ marked

/-- A symbol that each segment holds at most once occurs at most once for each mark. -/
theorem count_joined_le {mark symbol : α} {segments : List (List α)} (other : symbol ≠ mark)
    (once : ∀ segment ∈ segments, segment.count symbol ≤ 1) :
    (joined mark segments).count symbol ≤ segments.length := by
  induction segments with
  | nil => exact Nat.le_refl 0
  | cons segment rest ih =>
      have head := once segment List.mem_cons_self
      have tail := ih fun later member => once later (List.mem_cons_of_mem _ member)
      rw [joined_cons, List.count_cons_of_ne (Ne.symm other), List.count_append, List.length_cons]
      omega

end Segments
