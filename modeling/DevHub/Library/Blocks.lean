import DevHub.Library.Segments

/-!
Streams of blocks that all have one length. The blocks of a stream come back from it, also
from a part of it that ends where a block ends; and where every block begins with a mark
that it does not hold a second time, a stream cut in front of marks is cut between blocks.
-/

namespace Blocks

set_option autoImplicit false

variable {α β : Type*}

structure Format (α β : Type*) where
  encode : α → List β
  size : Nat
  positive : 0 < size
  length_encode : ∀ block, (encode block).length = size
  injective : Function.Injective encode

variable (format : Format α β)

def Format.stream (blocks : List α) : List β := blocks.flatMap format.encode

theorem stream_cons (block : α) (rest : List α) :
    format.stream (block :: rest) = format.encode block ++ format.stream rest := rfl

theorem stream_append (first second : List α) :
    format.stream (first ++ second) = format.stream first ++ format.stream second :=
  List.flatMap_append

theorem encode_ne_nil (block : α) : format.encode block ≠ [] := by
  intro empty
  have size := format.length_encode block
  rw [empty] at size
  exact absurd size (Nat.ne_of_lt format.positive)

theorem stream_front {front blocks : List α} {rest : List β}
    (same : format.stream front ++ rest = format.stream blocks) :
    ∃ later, blocks = front ++ later ∧ rest = format.stream later := by
  induction front generalizing blocks with
  | nil => exact ⟨blocks, rfl, same⟩
  | cons block more ih =>
      rw [stream_cons, List.append_assoc] at same
      cases blocks with
      | nil =>
          have empty := (List.append_eq_nil_iff.mp same).1
          exact absurd empty (encode_ne_nil format block)
      | cons other others =>
          rw [stream_cons] at same
          have lengths : (format.encode block).length = (format.encode other).length := by
            rw [format.length_encode, format.length_encode]
          obtain ⟨heads, tails⟩ := List.append_inj same lengths
          obtain ⟨later, rfl, ends⟩ := ih tails
          exact ⟨later, by rw [format.injective heads, List.cons_append], ends⟩

theorem stream_injective {first second : List α}
    (same : format.stream first = format.stream second) : first = second := by
  have front : format.stream first ++ [] = format.stream second := by rw [List.append_nil, same]
  obtain ⟨later, rfl, rest⟩ := stream_front format front
  cases later with
  | nil => exact (List.append_nil first).symm
  | cons block more =>
      rw [stream_cons] at rest
      exact absurd (List.append_eq_nil_iff.mp rest.symm).1 (encode_ne_nil format block)

theorem flatten_stream (groups : List (List α)) :
    (groups.map format.stream).flatten = format.stream groups.flatten := by
  induction groups with
  | nil => rfl
  | cons group rest ih => rw [List.map_cons, List.flatten_cons, List.flatten_cons, ih, stream_append]

variable {mark : β}

/-- A cut in front of a mark, or at the end, is between two blocks. -/
theorem stream_cut {blocks : List α} {front back : List β}
    (inside : ∀ block ∈ blocks, mark ∉ (format.encode block).tail)
    (closed : Segments.Closed mark back) (same : front ++ back = format.stream blocks) :
    ∃ first second, blocks = first ++ second ∧ front = format.stream first ∧
      back = format.stream second := by
  induction blocks generalizing front with
  | nil =>
      obtain ⟨noFront, noBack⟩ := List.append_eq_nil_iff.mp same
      exact ⟨[], [], rfl, noFront, noBack⟩
  | cons block rest ih =>
      rw [stream_cons] at same
      rcases List.append_eq_append_iff.mp same with ⟨missing, whole, behind⟩ |
        ⟨more, whole, behind⟩
      · -- The front ends in the block, so what is missing of it begins with the mark.
        cases front with
        | nil =>
            exact ⟨[], block :: rest, rfl, rfl, same⟩
        | cons head started =>
            cases missing with
            | nil =>
                rw [List.append_nil] at whole
                refine ⟨[block], rest, rfl, ?_, by simpa using behind⟩
                rw [← whole, stream_cons]
                exact (List.append_nil _).symm
            | cons next others =>
                have tail := inside block List.mem_cons_self
                rw [whole, List.cons_append, List.tail_cons] at tail
                rw [behind, List.cons_append] at closed
                rcases closed with empty | marked
                · cases empty
                · rw [List.head?_cons, Option.some.injEq] at marked
                  exact absurd (List.mem_append_right started (marked ▸ List.mem_cons_self)) tail
      · obtain ⟨first, second, rfl, front, back⟩ :=
          ih (fun other member => inside other (List.mem_cons_of_mem _ member)) behind.symm
        exact ⟨block :: first, second, rfl, by rw [whole, front, stream_cons], back⟩

/-- Pieces that all begin with the mark are whole groups of blocks. -/
theorem stream_groups {pieces : List (List β)} {blocks : List α}
    (inside : ∀ block ∈ blocks, mark ∉ (format.encode block).tail)
    (marked : ∀ piece ∈ pieces, piece.head? = some mark)
    (same : pieces.flatten = format.stream blocks) :
    ∃ groups : List (List α), groups.flatten = blocks ∧
      pieces = groups.map format.stream ∧ ∀ group ∈ groups, group ≠ [] := by
  induction pieces generalizing blocks with
  | nil =>
      cases blocks with
      | nil => exact ⟨[], rfl, rfl, fun _ member => nomatch member⟩
      | cons block rest =>
          have empty := (List.append_eq_nil_iff.mp (same.symm.trans rfl)).1
          exact absurd empty (encode_ne_nil format block)
  | cons piece rest ih =>
      have later : ∀ other ∈ rest, other.head? = some mark := fun other member =>
        marked other (List.mem_cons_of_mem _ member)
      have closed : Segments.Closed mark rest.flatten := by
        cases rest with
        | nil => exact Or.inl rfl
        | cons next others =>
            right
            rw [List.flatten_cons, List.head?_append, later next List.mem_cons_self]
            rfl
      rw [List.flatten_cons] at same
      obtain ⟨group, others, rfl, first, second⟩ := stream_cut format inside closed same
      obtain ⟨groups, rfl, pieces, present⟩ :=
        ih (fun block member => inside block (List.mem_append_right _ member)) later second
      refine ⟨group :: groups, rfl, by rw [List.map_cons, first, pieces], ?_⟩
      intro other member
      rcases List.mem_cons.mp member with same | among
      · have head := marked piece List.mem_cons_self
        rintro rfl
        rw [first, ← same] at head
        cases head
      · exact present other among

end Blocks
