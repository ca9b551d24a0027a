import Mathlib.Tactic.Common

/-!
Streams cut into frames by a delimiter. The frames are the nonempty segments that
a delimiter ends, in order, and the tail is what follows the last delimiter; both
are read off `List.splitOn`. The lemmas consume a stream from its left end, one
delimiter-free segment at a time.
-/

namespace Delimited

set_option autoImplicit false

variable {α : Type*} [DecidableEq α]

def frames (delimiter : α) (stream : List α) : List (List α) :=
  (stream.splitOn delimiter).dropLast.filter fun segment => !segment.isEmpty

def tail (delimiter : α) (stream : List α) : List α :=
  (stream.splitOn delimiter).getLast (List.splitOn_ne_nil delimiter stream)

theorem frames_open {delimiter : α} {segment : List α} (free : delimiter ∉ segment) :
    frames delimiter segment = [] := by
  simp [frames, List.splitOn_eq_singleton free]

theorem tail_open {delimiter : α} {segment : List α} (free : delimiter ∉ segment) :
    tail delimiter segment = segment := by
  simp [tail, List.splitOn_eq_singleton free]

theorem frames_close_empty (delimiter : α) (rest : List α) :
    frames delimiter (delimiter :: rest) = frames delimiter rest := by
  have split := List.splitOn_append_cons_self_of_not_mem
    (show delimiter ∉ ([] : List α) by simp) rest
  rw [List.nil_append] at split
  rw [frames, split, List.dropLast_cons_of_ne_nil (List.splitOn_ne_nil _ _),
    List.filter_cons_of_neg (by simp), frames]

theorem frames_close {delimiter : α} {segment : List α} (free : delimiter ∉ segment)
    (nonempty : segment ≠ []) (rest : List α) :
    frames delimiter (segment ++ delimiter :: rest) = segment :: frames delimiter rest := by
  rw [frames, List.splitOn_append_cons_self_of_not_mem free,
    List.dropLast_cons_of_ne_nil (List.splitOn_ne_nil _ _),
    List.filter_cons_of_pos (by simp [nonempty]), frames]

theorem tail_close {delimiter : α} {segment : List α} (free : delimiter ∉ segment)
    (rest : List α) :
    tail delimiter (segment ++ delimiter :: rest) = tail delimiter rest := by
  simp only [tail, List.splitOn_append_cons_self_of_not_mem free]
  exact List.getLast_cons (List.splitOn_ne_nil _ _)

end Delimited
