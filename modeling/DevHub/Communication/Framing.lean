import DevHub.Library.Delimited
import Mathlib.Algebra.Group.Int.Defs
import Mathlib.Algebra.Group.Nat.Defs

/-!
Frames of the byte stream: the receiving loop of `Session::OnData` and
`TcpClient::OnData` with its `pos`, `len` and `m_rdBuffer`, and what the two
senders hand to `Connection::Send`. The loop is first read as one pass over the
stream in which every byte carries its index in the chunk it arrived in, and
then compared with the delimited stream itself.
-/

namespace DevHub.Framing

open Delimited

set_option autoImplicit false

abbrev Byte := UInt8

/-- `len += m_rdBuffer.size()` adds in `size_t` and cuts the sum back to an `int`. -/
def toInt32 (sum : Int) : Int := sum.bmod (2 ^ 32)

/-- The `for` loop of both `OnData` functions, from index `i` on. `onFrame` is what
a complete frame makes of the call to `OnFrame`. -/
def onDataLoop (onFrame : List Byte → List (List Byte)) (i pos : Nat) (rdBuffer : List Byte) :
    List Byte → List Byte × List (List Byte)
  | [] => (rdBuffer, [])
  | byte :: rest =>
      if byte = 0 then
        let len := toInt32 ((i : Int) - pos + rdBuffer.length)
        if len > 1 then
          let (left, frames) := onDataLoop onFrame (i + 1) i [] rest
          (left, onFrame rdBuffer ++ frames)
        -- the buffer stays although the frame in it has ended
        else onDataLoop onFrame (i + 1) i rdBuffer rest
      else onDataLoop onFrame (i + 1) pos (rdBuffer ++ [byte]) rest

/-- `m_rdBuffer` after the call and the frames given to `CommServer::OnFrame`. -/
def Session.onData (rdBuffer buf : List Byte) : List Byte × List (List Byte) :=
  onDataLoop (fun frame => [frame]) 0 0 rdBuffer buf

def TcpClient.onData (frameRecver : Bool) (rdBuffer buf : List Byte) :
    List Byte × List (List Byte) :=
  onDataLoop (fun frame => if frameRecver then [frame] else []) 0 0 rdBuffer buf

def onDataCalls (onData : List Byte → List Byte → List Byte × List (List Byte))
    (rdBuffer : List Byte) : List (List Byte) → List Byte × List (List Byte)
  | [] => (rdBuffer, [])
  | chunk :: rest =>
      let (left, frames) := onData rdBuffer chunk
      let (last, later) := onDataCalls onData left rest
      (last, frames ++ later)

/-- The decoder answers with the frames of the whole stream and keeps its tail. -/
def Decodes (onData : List Byte → List Byte → List Byte × List (List Byte))
    (chunks : List (List Byte)) : Prop :=
  onDataCalls onData [] chunks = (tail 0 chunks.flatten, frames 0 chunks.flatten)

def indexed (chunks : List (List Byte)) : List (Byte × Nat) :=
  chunks.flatMap fun chunk => chunk.zipIdx

/-- A run of nonzero bytes and the chunk indices of the NULs that follow it. -/
structure Block where
  bytes : Nat
  nuls : List Nat

/-- A stream as blocks; only the first one may have no bytes. -/
structure Blocks where
  head : Block
  more : List Block

def Blocks.consByte (blocks : Blocks) : Blocks :=
  { blocks with head := { blocks.head with bytes := blocks.head.bytes + 1 } }

def Blocks.consNul (i : Nat) (blocks : Blocks) : Blocks :=
  if blocks.head.bytes = 0 then
    { blocks with head := { blocks.head with nuls := i :: blocks.head.nuls } }
  else { head := { bytes := 0, nuls := [i] }, more := blocks.head :: blocks.more }

def blocks : List (Byte × Nat) → Blocks
  | [] => { head := { bytes := 0, nuls := [] }, more := [] }
  | (byte, i) :: rest => if byte = 0 then (blocks rest).consNul i else (blocks rest).consByte

/-- The test of the loop at a NUL with index `i`, when `since` bytes follow the
NUL before it and `buffered` bytes wait. -/
def Passes (i since buffered : Nat) : Prop :=
  1 < toInt32 (min i (since + 1) + buffered : Nat)

instance (i since buffered : Nat) : Decidable (Passes i since buffered) :=
  inferInstanceAs (Decidable (1 < toInt32 _))

/-- Some NUL after the bytes passes the test: the first one, or a later one, which
finds no byte between itself and the NUL before it. -/
def Block.Closed (block : Block) : Prop :=
  block.bytes = 0 ∨
    match block.nuls with
    | [] => True
    | first :: later =>
        Passes first block.bytes block.bytes ∨ ∃ i ∈ later, Passes i 0 block.bytes

/-- All blocks are closed when `before` bytes stand in front of the first one. -/
def Blocks.ClosedAfter (before : Nat) (blocks : Blocks) : Prop :=
  Block.Closed { blocks.head with bytes := before + blocks.head.bytes } ∧
    ∀ block ∈ blocks.more, block.Closed

/-- Every segment that has ended is closed by a NUL that the loop recognises. -/
def Closes (chunks : List (List Byte)) : Prop := (blocks (indexed chunks)).ClosedAfter 0

theorem to_int32_small {sum : Int} (positive : 0 ≤ sum) (small : sum < 2 ^ 31) :
    toInt32 sum = sum := by
  unfold toInt32
  rw [Int.bmod_eq_emod_of_lt] <;> omega

theorem passes_small {i since buffered : Nat} (small : min i (since + 1) + buffered < 2 ^ 31) :
    Passes i since buffered ↔ 1 < min i (since + 1) + buffered := by
  unfold Passes
  rw [to_int32_small] <;> omega

theorem not_passes_empty (i : Nat) : ¬ Passes i 0 0 := by
  rw [passes_small] <;> omega

/-- One pass over the indexed stream: `since` counts the bytes after the last NUL. -/
def readStream (since : Nat) (rdBuffer : List Byte) :
    List (Byte × Nat) → List Byte × List (List Byte)
  | [] => (rdBuffer, [])
  | (byte, i) :: rest =>
      if byte = 0 then
        if Passes i since rdBuffer.length then
          ((readStream 0 [] rest).1, rdBuffer :: (readStream 0 [] rest).2)
        else readStream 0 rdBuffer rest
      else readStream (since + 1) (rdBuffer ++ [byte]) rest

def sinceNul (since : Nat) : List Byte → Nat
  | [] => since
  | byte :: rest => sinceNul (if byte = 0 then 0 else since + 1) rest

/-- Within a chunk `i - pos` is the number of bytes since the last NUL and one
more, or the index itself while the chunk has had no NUL. -/
theorem read_chunk (chunk : List Byte) (more : List (Byte × Nat)) (i pos since : Nat)
    (rdBuffer : List Byte) (before : pos ≤ i) (distance : i - pos = min i (since + 1)) :
    readStream since rdBuffer (chunk.zipIdx i ++ more) =
      let (left, frames) := onDataLoop (fun frame => [frame]) i pos rdBuffer chunk
      ((readStream (sinceNul since chunk) left more).1,
        frames ++ (readStream (sinceNul since chunk) left more).2) := by
  induction chunk generalizing i pos since rdBuffer with
  | nil => rfl
  | cons byte rest ih =>
      rw [List.zipIdx_cons, List.cons_append, readStream, onDataLoop, sinceNul]
      by_cases ended : byte = 0
      · have sum : (i : Int) - pos + rdBuffer.length =
            ((min i (since + 1) + rdBuffer.length : Nat) : Int) := by omega
        have next := fun buffer => ih (i + 1) i 0 buffer (by omega) (by omega)
        simp only [ended, if_true, sum]
        by_cases passes : Passes i since rdBuffer.length
        · have tested : toInt32 ((min i (since + 1) + rdBuffer.length : Nat) : Int) > 1 := passes
          simp only [passes, tested, if_true, next []]
          rfl
        · have tested : ¬ toInt32 ((min i (since + 1) + rdBuffer.length : Nat) : Int) > 1 := passes
          simp only [passes, tested, if_false, next rdBuffer]
      · simp only [ended, if_false]
        exact ih (i + 1) pos (since + 1) (rdBuffer ++ [byte]) (by omega) (by omega)

theorem calls_read_stream (chunks : List (List Byte)) (since : Nat) (rdBuffer : List Byte) :
    onDataCalls Session.onData rdBuffer chunks = readStream since rdBuffer (indexed chunks) := by
  induction chunks generalizing since rdBuffer with
  | nil => rfl
  | cons chunk rest ih =>
      have first := read_chunk chunk (indexed rest) 0 0 since rdBuffer (Nat.le_refl 0) (by omega)
      rw [indexed, List.flatMap_cons, ← indexed, first, onDataCalls, Session.onData]
      simp only [ih (sinceNul since chunk)]

theorem indexed_bytes (chunks : List (List Byte)) :
    (indexed chunks).map Prod.fst = chunks.flatten := by
  induction chunks with
  | nil => rfl
  | cons chunk rest ih =>
      rw [indexed, List.flatMap_cons, ← indexed, List.map_append, ih, List.flatten_cons,
        List.zipIdx_map_fst]

/-- The loop never delivers more frames than the stream has; a finished segment
that is still buffered may be delivered late. -/
theorem read_count (stream : List (Byte × Nat)) (segment rdBuffer : List Byte)
    (free : 0 ∉ segment) (held : rdBuffer = [] → segment = []) :
    (readStream segment.length rdBuffer stream).2.length ≤
      (frames 0 (segment ++ stream.map Prod.fst)).length +
        if segment = [] ∧ rdBuffer ≠ [] then 1 else 0 := by
  induction stream generalizing segment rdBuffer with
  | nil => exact Nat.zero_le _
  | cons head rest ih =>
      obtain ⟨byte, i⟩ := head
      rw [readStream, List.map_cons]
      by_cases ended : byte = 0
      · have emptied := ih [] [] (by simp) (fun _ => rfl)
        have kept := ih [] rdBuffer (by simp) (fun _ => rfl)
        simp only [List.length_nil, List.nil_append] at emptied kept
        subst ended
        rw [if_pos rfl]
        by_cases nothing : segment = []
        · subst nothing
          rw [List.nil_append, frames_close_empty]
          by_cases empty : rdBuffer = []
          · have fails : ¬ Passes i 0 0 := by
              unfold Passes
              rw [to_int32_small] <;> omega
            simp only [empty, List.length_nil, fails, if_false]
            simpa [empty] using kept
          · split
            · simpa [empty] using emptied
            · simpa [empty] using kept
        · have full : rdBuffer ≠ [] := fun empty => nothing (held empty)
          rw [frames_close free nothing]
          split
          · simpa [nothing] using emptied
          · simpa [nothing, full] using kept
      · rw [if_neg ended]
        have longer := ih (segment ++ [byte]) (rdBuffer ++ [byte])
          (by simpa [free] using Ne.symm ended) (by simp)
        simp only [List.length_append, List.length_singleton, List.append_assoc,
          List.singleton_append, List.append_eq_nil_iff, List.cons_ne_self, and_false, false_and,
          if_false, Nat.add_zero] at longer
        exact Nat.le_add_right_of_le longer

/-- The segment before the blocks has ended unnoticed: a NUL has to close it
before the next byte. -/
def Blocks.ClosesLate (length : Nat) (blocks : Blocks) : Prop :=
  blocks.head.bytes = 0 ∧ (∃ i ∈ blocks.head.nuls, Passes i 0 length) ∧
    ∀ block ∈ blocks.more, block.Closed

theorem closed_after_byte (before : Nat) (blocks : Blocks) :
    blocks.consByte.ClosedAfter before ↔ blocks.ClosedAfter (before + 1) := by
  have same : before + (blocks.head.bytes + 1) = before + 1 + blocks.head.bytes := by omega
  simp only [Blocks.ClosedAfter, Blocks.consByte, same]

theorem closed_after_nothing (i : Nat) (blocks : Blocks) :
    (blocks.consNul i).ClosedAfter 0 ↔ blocks.ClosedAfter 0 := by
  by_cases empty : blocks.head.bytes = 0
  · simp [Blocks.ClosedAfter, Blocks.consNul, Block.Closed, empty]
  · simp [Blocks.ClosedAfter, Blocks.consNul, Block.Closed, empty]

theorem closed_after_segment (i length : Nat) (blocks : Blocks) (nonempty : length ≠ 0) :
    (blocks.consNul i).ClosedAfter length ↔
      if Passes i length length then blocks.ClosedAfter 0 else blocks.ClosesLate length := by
  by_cases empty : blocks.head.bytes = 0 <;> by_cases passes : Passes i length length
  all_goals
    simp [Blocks.ClosedAfter, Blocks.ClosesLate, Blocks.consNul, Block.Closed, empty, passes,
      nonempty]

theorem closes_late_byte (length : Nat) (blocks : Blocks) :
    ¬ blocks.consByte.ClosesLate length := by
  simp [Blocks.ClosesLate, Blocks.consByte]

theorem closes_late_nul (i length : Nat) (blocks : Blocks) :
    (blocks.consNul i).ClosesLate length ↔
      if Passes i 0 length then blocks.ClosedAfter 0 else blocks.ClosesLate length := by
  by_cases empty : blocks.head.bytes = 0 <;> by_cases passes : Passes i 0 length
  all_goals
    simp [Blocks.ClosedAfter, Blocks.ClosesLate, Blocks.consNul, Block.Closed, empty, passes]

/-- From the middle of a segment the pass agrees with the stream exactly when all
blocks are closed. -/
def ExactFromSegment (stream : List (Byte × Nat)) : Prop :=
  ∀ segment, 0 ∉ segment →
    (readStream segment.length segment stream =
        (tail 0 (segment ++ stream.map Prod.fst), frames 0 (segment ++ stream.map Prod.fst)) ↔
      (blocks stream).ClosedAfter segment.length)

/-- The same when the segment has ended and still waits in the buffer. -/
def ExactFromEnded (stream : List (Byte × Nat)) : Prop :=
  ∀ segment, 0 ∉ segment → segment ≠ [] →
    (readStream 0 segment stream =
        (tail 0 (stream.map Prod.fst), segment :: frames 0 (stream.map Prod.fst)) ↔
      (blocks stream).ClosesLate segment.length)

theorem exact_from_segment_nul {rest : List (Byte × Nat)} (i : Nat)
    (exact : ExactFromSegment rest) (ended : ExactFromEnded rest) :
    ExactFromSegment ((0, i) :: rest) := by
  intro segment free
  have emptied := exact [] (by simp)
  simp only [List.length_nil, List.nil_append] at emptied
  rw [readStream, if_pos rfl, blocks, if_pos rfl, List.map_cons]
  by_cases nothing : segment = []
  · subst nothing
    rw [List.length_nil, if_neg (not_passes_empty i), closed_after_nothing, ← emptied, tail_close (by simp),
      List.nil_append, frames_close_empty]
  · rw [closed_after_segment i _ _ (by simpa using nothing), tail_close free,
      frames_close free nothing]
    by_cases passes : Passes i segment.length segment.length
    · rw [if_pos passes, if_pos passes, ← emptied]
      simp [Prod.ext_iff]
    · rw [if_neg passes, if_neg passes]
      exact ended segment free nothing

theorem exact_from_ended_nul {rest : List (Byte × Nat)} (i : Nat)
    (exact : ExactFromSegment rest) (ended : ExactFromEnded rest) :
    ExactFromEnded ((0, i) :: rest) := by
  intro segment free nonempty
  have emptied := exact [] (by simp)
  simp only [List.length_nil, List.nil_append] at emptied
  have closes : tail 0 (0 :: rest.map Prod.fst) = tail (0 : Byte) (rest.map Prod.fst) :=
    tail_close List.not_mem_nil _
  rw [readStream, if_pos rfl, blocks, if_pos rfl, List.map_cons, closes_late_nul, closes,
    frames_close_empty]
  by_cases passes : Passes i 0 segment.length
  · rw [if_pos passes, if_pos passes, ← emptied]
    simp [Prod.ext_iff]
  · rw [if_neg passes, if_neg passes]
    exact ended segment free nonempty

/-- A byte behind an ended segment is appended to it: one frame is lost for good. -/
theorem exact_from_ended_byte {rest : List (Byte × Nat)} {byte : Byte} (i : Nat)
    (nonzero : byte ≠ 0) : ExactFromEnded ((byte, i) :: rest) := by
  intro segment free nonempty
  rw [readStream, if_neg nonzero, blocks, if_neg nonzero]
  apply iff_of_false _ (closes_late_byte _ _)
  intro exact
  have count := read_count rest [byte] (segment ++ [byte]) (by simpa using Ne.symm nonzero)
    (by simp)
  rw [List.length_singleton] at count
  simp only [exact, List.map_cons, List.length_cons, List.singleton_append, List.cons_ne_self,
    false_and, if_false] at count
  omega

theorem read_exact (stream : List (Byte × Nat)) :
    ExactFromSegment stream ∧ ExactFromEnded stream := by
  induction stream with
  | nil =>
      constructor
      · intro segment free
        simp [readStream, blocks, Blocks.ClosedAfter, Block.Closed, tail_open free, frames_open free]
      · intro segment free nonempty
        simp [readStream, blocks, Blocks.ClosesLate]
  | cons head rest ih =>
      obtain ⟨byte, i⟩ := head
      by_cases ended : byte = 0
      · subst ended
        exact ⟨exact_from_segment_nul i ih.1 ih.2, exact_from_ended_nul i ih.1 ih.2⟩
      · refine ⟨?_, exact_from_ended_byte i ended⟩
        intro segment free
        have longer := ih.1 (segment ++ [byte]) (by simpa [free] using Ne.symm ended)
        rw [List.length_append, List.length_singleton, List.append_assoc] at longer
        rw [readStream, if_neg ended, blocks, if_neg ended, closed_after_byte, ← longer]
        rfl

theorem session_decodes_iff (chunks : List (List Byte)) :
    Decodes Session.onData chunks ↔ Closes chunks := by
  have exact := (read_exact (indexed chunks)).1 [] (by simp)
  rw [indexed_bytes] at exact
  rw [Decodes, calls_read_stream chunks 0]
  exact exact

theorem on_data_loop_frames (onFrame : List Byte → List (List Byte)) (i pos : Nat)
    (rdBuffer chunk : List Byte) :
    onDataLoop onFrame i pos rdBuffer chunk =
      let (left, frames) := onDataLoop (fun frame => [frame]) i pos rdBuffer chunk
      (left, frames.flatMap onFrame) := by
  induction chunk generalizing i pos rdBuffer with
  | nil => rfl
  | cons byte rest ih =>
      simp only [onDataLoop]
      split
      · split
        · rw [ih]
          simp
        · exact ih _ _ _
      · exact ih _ _ _

theorem client_receives (chunks : List (List Byte)) (rdBuffer : List Byte) :
    onDataCalls (TcpClient.onData true) rdBuffer chunks =
      onDataCalls Session.onData rdBuffer chunks := rfl

/-- Without a receiver `TcpClient` takes the frames out of the buffer and drops them. -/
theorem client_drops (chunks : List (List Byte)) (rdBuffer : List Byte) :
    onDataCalls (TcpClient.onData false) rdBuffer chunks =
      ((onDataCalls Session.onData rdBuffer chunks).1, []) := by
  induction chunks generalizing rdBuffer with
  | nil => rfl
  | cons chunk rest ih =>
      have dropped : TcpClient.onData false rdBuffer chunk =
          ((Session.onData rdBuffer chunk).1, []) := by
        rw [TcpClient.onData, on_data_loop_frames]
        simp [Session.onData]
      simp only [onDataCalls, dropped, ih, List.append_nil]

/-- Both decoders answer with the frames of the stream and keep its tail exactly
when every ended segment is closed, and a client without receiver has no frame. -/
theorem decoding_exact_iff_closes (frameRecver : Bool) (chunks : List (List Byte)) :
    (Decodes Session.onData chunks ∧ Decodes (TcpClient.onData frameRecver) chunks) ↔
      (Closes chunks ∧ (frameRecver = true ∨ frames 0 chunks.flatten = [])) := by
  rw [← session_decodes_iff]
  cases frameRecver with
  | true => simp [Decodes, client_receives]
  | false =>
      apply and_congr_right
      intro decodes
      rw [Decodes] at decodes
      have left : (onDataCalls Session.onData [] chunks).1 = tail 0 chunks.flatten := by
        rw [decodes]
      rw [Decodes, client_drops, left, Prod.mk.injEq]
      constructor
      · intro given
        rcases given with ⟨-, none⟩
        exact Or.inr none.symm
      · intro either
        rcases either with absurdity | none
        · contradiction
        · exact ⟨rfl, none.symm⟩

/-- Below 2^30 bytes only a one-byte segment can be missed: its NULs all open a chunk. -/
theorem closed_of_small {block : Block} (small : block.bytes < 2 ^ 30) :
    block.Closed ↔ (block.bytes = 1 → block.nuls ≠ [] → ∃ i ∈ block.nuls, 0 < i) := by
  obtain ⟨bytes, nuls⟩ := block
  simp only at small
  cases nuls with
  | nil => simp [Block.Closed]
  | cons first later =>
      have opening : Passes first bytes bytes ↔ 1 < min first (bytes + 1) + bytes :=
        passes_small (by omega)
      have following (i : Nat) : Passes i 0 bytes ↔ 1 < min i (0 + 1) + bytes :=
        passes_small (by omega)
      simp only [Block.Closed, opening, following]
      by_cases one : bytes = 1
      · have positive (i : Nat) : 1 < min i (0 + 1) + 1 ↔ 0 < i := by omega
        have reached : 1 < min first (1 + 1) + 1 ↔ 0 < first := by omega
        simp [one, positive, reached]
      · have passes : bytes = 0 ∨ 1 < min first (bytes + 1) + bytes := by omega
        constructor
        · exact fun _ single => absurd single one
        · exact fun _ => passes.imp_right Or.inl

/-- A letter and its NUL: read in one chunk, missed when they arrive apart. -/
theorem split_letter_missed :
    ¬ (Decodes Session.onData [[65], [0]] ∧ Decodes (TcpClient.onData true) [[65], [0]]) ∧
      Decodes Session.onData [[65, 0]] := by
  constructor
  · intro decodes
    cases decodes.1
  · rfl

end DevHub.Framing
