import Mathlib.Tactic.Common

/-!
Input streams with the state bits that `std::istream` keeps, and the line reader
`std::getline`. A stream ends at the end of its text, or with an error where the text cannot
be read any further; only the end sets `eofbit`. Every line that is read makes the stream
smaller, so a loop over the lines ends.
-/

set_option autoImplicit false

structure TextStream (α : Type*) where
  rest : List α
  readError : Bool
  eofbit : Bool
  failbit : Bool
  badbit : Bool

namespace TextStream

variable {α : Type*}

def good (stream : TextStream α) : Bool := !stream.eofbit && !stream.failbit && !stream.badbit

def holding (text : List α) : TextStream α where
  rest := text
  readError := false
  eofbit := false
  failbit := false
  badbit := false

variable [DecidableEq α]

/-- The line up to the delimiter, which is dropped, or up to the end; `none` where the stream
tests false afterwards. -/
def getline (delimiter : α) (stream : TextStream α) : Option (List α) × TextStream α :=
  if stream.good then
    if delimiter ∈ stream.rest then
      (some (stream.rest.takeWhile fun symbol => symbol ≠ delimiter),
        { stream with rest := (stream.rest.dropWhile fun symbol => symbol ≠ delimiter).tail })
    else if stream.readError then (none, { stream with rest := [], badbit := true })
    else if stream.rest = [] then (none, { stream with eofbit := true, failbit := true })
    else (some stream.rest, { stream with rest := [], eofbit := true })
  else (none, { stream with failbit := true })

def size (stream : TextStream α) : Nat := stream.rest.length + if stream.good then 1 else 0

theorem cut_line {delimiter : α} {line : List α} (free : delimiter ∉ line) (rest : List α) :
    (line ++ delimiter :: rest).takeWhile (fun symbol => symbol ≠ delimiter) = line ∧
      (line ++ delimiter :: rest).dropWhile (fun symbol => symbol ≠ delimiter) =
        delimiter :: rest := by
  have others : ∀ symbol ∈ line, decide (symbol ≠ delimiter) = true := by
    intro symbol member
    exact decide_eq_true fun same => free (same ▸ member)
  constructor
  · rw [List.takeWhile_append_of_pos others, List.takeWhile_cons_of_neg (by simp),
      List.append_nil]
  · rw [List.dropWhile_append_of_pos others, List.dropWhile_cons_of_neg (by simp)]

/-- A line that its delimiter ends is read, and the stream goes on behind the delimiter. -/
theorem getline_line {delimiter : α} {line : List α} (free : delimiter ∉ line) (more : List α) :
    getline delimiter (holding (line ++ delimiter :: more)) = (some line, holding more) := by
  obtain ⟨before, behind⟩ := cut_line free more
  have delimited : delimiter ∈ (holding (line ++ delimiter :: more)).rest :=
    List.mem_append_right line List.mem_cons_self
  have ready : (holding (line ++ delimiter :: more)).good = true := rfl
  rw [getline, if_pos ready, if_pos delimited]
  simp only [holding, before, behind, List.tail_cons]

theorem getline_end (delimiter : α) :
    getline delimiter (holding ([] : List α)) =
      (none, { holding [] with eofbit := true, failbit := true }) := rfl

inductive Reads (delimiter : α) (stream : TextStream α) : Option (List α) → TextStream α → Prop where
  | line (line more : List α) (good : stream.good = true)
      (text : stream.rest = line ++ delimiter :: more) :
      Reads delimiter stream (some line) { stream with rest := more }
  | last (good : stream.good = true) (ends : stream.readError = false) (some_ : stream.rest ≠ []) :
      Reads delimiter stream (some stream.rest) { stream with rest := [], eofbit := true }
  | atEnd (good : stream.good = true) (ends : stream.readError = false) :
      Reads delimiter stream none { stream with eofbit := true, failbit := true }
  | error (good : stream.good = true) (breaks : stream.readError = true) :
      Reads delimiter stream none { stream with rest := [], badbit := true }
  | failed (bad : stream.good = false) :
      Reads delimiter stream none { stream with failbit := true }

theorem getline_reads (delimiter : α) (stream : TextStream α) :
    Reads delimiter stream (getline delimiter stream).1 (getline delimiter stream).2 := by
  unfold getline
  split
  · rename_i good
    split
    · rename_i delimited
      obtain ⟨line, more, text, free⟩ := List.eq_append_cons_of_mem delimited
      obtain ⟨before, behind⟩ := cut_line free more
      rw [text, before, behind]
      exact Reads.line line more good text
    · split
      · rename_i breaks
        exact Reads.error good breaks
      · rename_i ends
        have ends : stream.readError = false := by simpa using ends
        split
        · exact Reads.atEnd good ends
        · rename_i some_
          exact Reads.last good ends some_
  · rename_i bad
    exact Reads.failed (by simpa using bad)

theorem getline_size {delimiter : α} {stream after : TextStream α} {line : List α}
    (taken : getline delimiter stream = (some line, after)) : after.size < stream.size := by
  have reads := getline_reads delimiter stream
  rw [taken] at reads
  cases reads with
  | line _ more good text =>
      have same : ({ stream with rest := more } : TextStream α).good = true := good
      simp only [size, same, good, text, if_true, List.length_append, List.length_cons]
      omega
  | last good ends some_ =>
      have ended : ({ stream with rest := [], eofbit := true } : TextStream α).good = false := by
        simp [TextStream.good]
      simp only [size, ended, good, List.length_nil]
      simp

/-- A stream whose end is not reached: it failed, or it has an error instead of an end. -/
def Endless (stream : TextStream α) : Prop :=
  stream.eofbit = false ∧
    (stream.readError = true ∨ stream.failbit = true ∨ stream.badbit = true)

omit [DecidableEq α] in
theorem endless_failed {stream : TextStream α} (endless : Endless stream)
    (ends : stream.readError = false) : stream.good = false := by
  rcases endless.2 with breaks | failed | bad
  · rw [ends] at breaks
    cases breaks
  · simp [good, failed]
  · simp [good, bad]

theorem getline_endless {delimiter : α} {stream : TextStream α} (endless : Endless stream) :
    Endless (getline delimiter stream).2 := by
  have reads := getline_reads delimiter stream
  generalize (getline delimiter stream).1 = result at reads
  generalize (getline delimiter stream).2 = after at reads
  cases reads with
  | line line more good text => exact endless
  | last good ends some_ =>
      rw [endless_failed endless ends] at good
      cases good
  | atEnd good ends =>
      rw [endless_failed endless ends] at good
      cases good
  | error good breaks => exact ⟨endless.1, Or.inr (Or.inr rfl)⟩
  | failed bad => exact ⟨endless.1, Or.inr (Or.inl rfl)⟩

end TextStream
