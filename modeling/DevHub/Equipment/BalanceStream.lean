import DevHub.Library.Blocks
import DevHub.Device.Peripheral
import DevHub.Equipment.Sequence
import Mathlib.Data.List.Flatten

/-!
The stream of frames that a balance sends, as `read` cuts it. `OnData` takes each read for
one frame: it looks at the first frame of a read only, and where a frame is cut it takes the
missing characters from the buffer and reports the rest of the frame as an error.
-/

namespace DevHub.BalanceStream

open Transition Peripheral

set_option autoImplicit false

/-- A frame; its characters are not NUL. -/
structure Frame where
  steady : Bool
  negative : Bool
  value : List UInt8
  unit : List UInt8
  eight : value.length = 8
  three : unit.length = 3
  characters : 0 ∉ value ++ unit

def Frame.status (frame : Frame) : UInt8 :=
  if frame.steady then ' '.toUInt8 else '*'.toUInt8

def Frame.sign (frame : Frame) : UInt8 :=
  if frame.negative then '-'.toUInt8 else '+'.toUInt8

def Frame.bytes (frame : Frame) : List UInt8 :=
  'K'.toUInt8 :: frame.status :: frame.sign :: (frame.value ++ frame.unit)

/-- What the updater gets, apart from the time that the answer took. -/
inductive Outcome where
  | measurement (symbol value unit : String)
  | error
  deriving DecidableEq

def outcome : ElecBalance.Update → Outcome
  | .errorFrame => .error
  | .errorData => .error
  | .reading symbol value unit _ => .measurement symbol value unit

/-- The measurement of a stable frame. The unit is without its blanks. -/
def Frame.measurement (frame : Frame) : Option Outcome :=
  if frame.steady then
    some (.measurement (if frame.negative then "-" else "+") (ElecBalance.text frame.value)
      (ElecBalance.text (frame.unit.filter fun byte => byte ≠ ' '.toUInt8)))
  else none

theorem bytes_length (frame : Frame) : frame.bytes.length = 14 := by
  simp [Frame.bytes, frame.eight, frame.three]

theorem bytes_injective : Function.Injective Frame.bytes := by
  intro frame other same
  have status : ∀ {first second : Bool},
      (if first then ' '.toUInt8 else '*'.toUInt8) =
        (if second then ' '.toUInt8 else '*'.toUInt8) → first = second := by
    decide
  have sign : ∀ {first second : Bool},
      (if first then '-'.toUInt8 else '+'.toUInt8) =
        (if second then '-'.toUInt8 else '+'.toUInt8) → first = second := by
    decide
  simp only [Frame.bytes, Frame.status, Frame.sign, List.cons.injEq, true_and] at same
  obtain ⟨sameStatus, sameSign, characters⟩ := same
  obtain ⟨values, units⟩ := List.append_inj characters (frame.eight.trans other.eight.symm)
  have steadies := status sameStatus
  have negatives := sign sameSign
  cases frame
  cases other
  simp only [Frame.mk.injEq]
  exact ⟨steadies, negatives, values, units⟩

def format : Blocks.Format Frame UInt8 where
  encode := Frame.bytes
  size := 14
  positive := by decide
  length_encode := bytes_length
  injective := bytes_injective

/-- The reads into which the stream of the frames is cut. -/
structure Cutting (frames : List Frame) where
  reads : List Read
  whole : (reads.flatMap fun read => read.chunk.bytes) = format.stream frames

def onData (buffer : ReadBuffer) (time : Int) : Option Outcome :=
  (ElecBalance.onData buffer.data time).update.map outcome

/-- The balance reports the stable frames, one by one, and nothing else. -/
def Exact {frames : List Frame} (buffer : ReadBuffer) (cutting : Cutting frames) : Prop :=
  (run (Peripheral.step onData) (State.start buffer) cutting.reads).map
      (fun finish => finish.reports.filterMap id) =
    some (frames.filterMap Frame.measurement)

/-- The read is one frame, or several frames of which only the first one may be stable. -/
def OneMeasured (read : Read) : Prop :=
  ∃ first rest, read.chunk.bytes = format.stream (first :: rest) ∧
    ∀ frame ∈ rest, frame.steady = false

/-! ### One read -/

theorem read_front {chunk : Chunk} {frame : Frame} {more : List UInt8}
    (front : chunk.bytes = frame.bytes ++ more) (buffer : ReadBuffer) {i : Nat} (inside : i < 14) :
    (buffer.read chunk).data i = frame.bytes.getD i 0 := by
  have length := bytes_length frame
  have long : i < chunk.bytes.length := by
    rw [front, List.length_append]
    omega
  rw [read_data, if_pos long, front, List.getD_append _ _ _ _ (by omega)]

theorem value_front {data : ElecBalance.Data} {frame : Frame}
    (front : ∀ i < 14, data i = frame.bytes.getD i 0) :
    ((List.range 8).map fun i => data (i + 3)) = frame.value := by
  apply List.ext_getElem
  · rw [List.length_map, List.length_range, frame.eight]
  · intro i inside other
    have bound := frame.eight ▸ other
    rw [List.getElem_map, List.getElem_range, front (i + 3) (by omega)]
    simp only [Frame.bytes, List.getD_cons_succ]
    rw [List.getD_append _ _ _ _ other, List.getD_eq_getElem _ _ other]

theorem unit_front {data : ElecBalance.Data} {frame : Frame}
    (front : ∀ i < 14, data i = frame.bytes.getD i 0) :
    ((List.range 3).map fun i => data (i + 11)) = frame.unit := by
  apply List.ext_getElem
  · rw [List.length_map, List.length_range, frame.three]
  · intro i inside other
    have bound := frame.three ▸ other
    have behind : i + 8 - frame.value.length = i := by
      rw [frame.eight]
      omega
    rw [List.getElem_map, List.getElem_range, front (i + 11) (by omega)]
    simp only [Frame.bytes, List.getD_cons_succ]
    rw [List.getD_append_right _ _ _ _ (by rw [frame.eight]; omega), behind,
      List.getD_eq_getElem _ _ other]

theorem first_frame {chunk : Chunk} {frame : Frame} {more : List UInt8}
    (front : chunk.bytes = frame.bytes ++ more) (buffer : ReadBuffer) (time : Int) :
    onData (buffer.read chunk) time = frame.measurement := by
  have known : ∀ i < 14, (buffer.read chunk).data i = frame.bytes.getD i 0 :=
    fun i inside => read_front front buffer inside
  have head : (buffer.read chunk).data 0 = 'K'.toUInt8 := known 0 (by decide)
  have status : (buffer.read chunk).data 1 = frame.status := known 1 (by decide)
  have sign : (buffer.read chunk).data 2 = frame.sign := known 2 (by decide)
  rw [onData, Frame.measurement]
  cases steady : frame.steady with
  | false =>
      rw [Frame.status, steady, if_neg Bool.false_ne_true] at status
      rw [ElecBalance.onData, if_neg (not_not.mpr head), if_pos status]
      rfl
  | true =>
      rw [Frame.status, steady, if_pos rfl] at status
      have minus : ¬ '-'.toUInt8 = '+'.toUInt8 := by decide
      have signed : (buffer.read chunk).data 2 = '+'.toUInt8 ∨
          (buffer.read chunk).data 2 = '-'.toUInt8 := by
        rw [sign, Frame.sign]
        cases frame.negative with
        | false => exact Or.inl rfl
        | true => exact Or.inr rfl
      rw [ElecBalance.update_reading time head status signed, ElecBalance.value, ElecBalance.unit,
        value_front known, unit_front known, sign, Frame.sign]
      cases frame.negative with
      | false => rfl
      | true => simp only [if_true, if_neg minus, Option.map_some, outcome]

theorem other_front {chunk : Chunk} (other : chunk.bytes.head? ≠ some 'K'.toUInt8)
    (buffer : ReadBuffer) (time : Int) : onData (buffer.read chunk) time = some .error := by
  have received := List.length_pos_iff.mpr chunk.nonempty
  have head : (buffer.read chunk).data 0 ≠ 'K'.toUInt8 := by
    rw [read_data, if_pos received, List.getD_eq_getElem _ _ received]
    rw [List.head?_eq_getElem?, List.getElem?_eq_getElem received] at other
    exact fun same => other (congrArg some same)
  rw [onData, ElecBalance.onData, if_pos head]
  rfl

/-! ### The reports of a run -/

def reported (buffer : ReadBuffer) : List Read → List (Option Outcome)
  | [] => []
  | read :: rest =>
      onData (buffer.read read.chunk) read.time :: reported (buffer.read read.chunk) rest

theorem run_reported (state : State (Option Outcome)) (reads : List Read) :
    (run (Peripheral.step onData) state reads).map (fun finish => finish.reports) =
      some (state.reports ++ reported state.buffer reads) := by
  induction reads generalizing state with
  | nil => simp [run, reported]
  | cons read rest ih =>
      simp only [run, Peripheral.step, Option.bind_some]
      rw [ih]
      simp only [reported, List.append_assoc, List.singleton_append]

theorem exact_iff {frames : List Frame} (buffer : ReadBuffer) (cutting : Cutting frames) :
    Exact buffer cutting ↔
      (reported buffer cutting.reads).filterMap id = frames.filterMap Frame.measurement := by
  have reports := congrArg (Option.map fun reports => reports.filterMap id)
    (run_reported (State.start buffer) cutting.reads)
  rw [Option.map_map] at reports
  simp only [State.start, List.nil_append, Option.map_some] at reports
  rw [Exact]
  exact (Eq.congr_left reports).trans Option.some_inj

theorem reported_groups (buffer : ReadBuffer) {reads : List Read} {groups : List (List Frame)}
    (pieces : (reads.map fun read => read.chunk.bytes) = groups.map format.stream)
    (present : ∀ group ∈ groups, group ≠ []) :
    (reported buffer reads).filterMap id =
      groups.flatMap fun group => (group.take 1).filterMap Frame.measurement := by
  induction reads generalizing buffer groups with
  | nil =>
      cases groups with
      | nil => rfl
      | cons group others => cases pieces
  | cons read rest ih =>
      cases groups with
      | nil => cases pieces
      | cons group others =>
          simp only [List.map_cons, List.cons.injEq] at pieces
          cases group with
          | nil => exact absurd rfl (present [] List.mem_cons_self)
          | cons frame more =>
              have front : read.chunk.bytes = frame.bytes ++ format.stream more := pieces.1
              have later := ih (buffer.read read.chunk) pieces.2 fun other member =>
                present other (List.mem_cons_of_mem _ member)
              rw [reported, first_frame front, List.flatMap_cons, ← later]
              cases measured : frame.measurement with
              | none => simp [measured]
              | some outcome => simp [measured]

/-- The first frames of the groups are all that is measured exactly when the others are not
stable. -/
theorem firsts_exact_iff {groups : List (List Frame)} :
    (groups.flatMap fun group => (group.take 1).filterMap Frame.measurement) =
        groups.flatten.filterMap Frame.measurement ↔
      ∀ group ∈ groups, ∀ frame ∈ group.drop 1, frame.steady = false := by
  have silent (frames : List Frame) : frames.filterMap Frame.measurement = [] ↔
      ∀ frame ∈ frames, frame.steady = false := by
    rw [List.filterMap_eq_nil_iff]
    apply forall₂_congr
    intro frame _
    rw [Frame.measurement]
    cases frame.steady with
    | false => simp
    | true => simp
  induction groups with
  | nil => simp
  | cons group rest ih =>
      have cut : group.filterMap Frame.measurement =
          (group.take 1).filterMap Frame.measurement ++
            (group.drop 1).filterMap Frame.measurement := by
        rw [← List.filterMap_append, List.take_append_drop]
      have fewer : ((rest.flatMap fun group =>
          (group.take 1).filterMap Frame.measurement)).Sublist
            (rest.flatten.filterMap Frame.measurement) := by
        rw [← List.flatMap_id, List.filterMap_flatMap]
        exact List.Sublist.flatMap_right _ fun group _ =>
          (List.take_sublist 1 group).filterMap _
      rw [List.flatMap_cons, List.flatten_cons, List.filterMap_append, cut, List.append_assoc,
        List.append_cancel_left_eq, List.forall_mem_cons, ← silent]
      constructor
      · intro same
        have lengths := congrArg List.length same
        have bound := fewer.length_le
        rw [List.length_append] at lengths
        have none : (group.drop 1).filterMap Frame.measurement = [] :=
          List.eq_nil_of_length_eq_zero (by omega)
        rw [none, List.nil_append] at same
        exact ⟨none, ih.mp same⟩
      · rintro ⟨none, rests⟩
        rw [none, List.nil_append, ih.mpr rests]

/-! ### The reads of a stream -/

theorem groups_of_measured {reads : List Read} (measured : ∀ read ∈ reads, OneMeasured read) :
    ∃ groups : List (List Frame),
      (reads.map fun read => read.chunk.bytes) = groups.map format.stream ∧
      (∀ group ∈ groups, group ≠ []) ∧
      ∀ group ∈ groups, ∀ frame ∈ group.drop 1, frame.steady = false := by
  induction reads with
  | nil => exact ⟨[], rfl, List.forall_mem_nil _, List.forall_mem_nil _⟩
  | cons read rest ih =>
      obtain ⟨first, more, bytes, silent⟩ := measured read List.mem_cons_self
      obtain ⟨groups, pieces, present, others⟩ :=
        ih fun other member => measured other (List.mem_cons_of_mem _ member)
      refine ⟨(first :: more) :: groups, by rw [List.map_cons, List.map_cons, bytes, pieces], ?_, ?_⟩
      · exact List.forall_mem_cons.mpr ⟨List.cons_ne_nil _ _, present⟩
      · exact List.forall_mem_cons.mpr ⟨silent, others⟩

theorem measured_of_groups {reads : List Read} {groups : List (List Frame)}
    (pieces : (reads.map fun read => read.chunk.bytes) = groups.map format.stream)
    (present : ∀ group ∈ groups, group ≠ [])
    (silent : ∀ group ∈ groups, ∀ frame ∈ group.drop 1, frame.steady = false) :
    ∀ read ∈ reads, OneMeasured read := by
  intro read member
  have piece : read.chunk.bytes ∈ groups.map format.stream := by
    rw [← pieces]
    exact List.mem_map_of_mem member
  obtain ⟨group, among, same⟩ := List.mem_map.mp piece
  cases group with
  | nil => exact absurd rfl (present [] among)
  | cons first rest => exact ⟨first, rest, same.symm, silent _ among⟩

theorem marked_of_exact {buffer : ReadBuffer} {reads : List Read} {frames : List Frame}
    (exact_ : (reported buffer reads).filterMap id = frames.filterMap Frame.measurement) :
    ∀ read ∈ reads, read.chunk.bytes.head? = some 'K'.toUInt8 := by
  have noError : Outcome.error ∉ (reported buffer reads).filterMap id := by
    rw [exact_, List.mem_filterMap]
    rintro ⟨frame, -, measured⟩
    rw [Frame.measurement] at measured
    cases steady : frame.steady with
    | false => simp [steady] at measured
    | true => simp [steady] at measured
  clear exact_
  induction reads generalizing buffer with
  | nil => exact fun _ member => nomatch member
  | cons read rest ih =>
      rw [reported, List.mem_filterMap] at noError
      intro other member
      rcases List.mem_cons.mp member with rfl | later
      · by_contra unmarked
        exact noError ⟨some .error, by rw [other_front unmarked]; exact List.mem_cons_self, rfl⟩
      · have noLater : Outcome.error ∉
            (reported (buffer.read read.chunk) rest).filterMap id := by
          rw [List.mem_filterMap]
          rintro ⟨report, among, same⟩
          exact noError ⟨report, List.mem_cons_of_mem _ among, same⟩
        exact ih noLater other later

/-- When a `K` only stands at the front of frames, it does not stand further behind in any. -/
theorem inside_frames {frames : List Frame}
    (unmarked : ∀ frame ∈ frames, 'K'.toUInt8 ∉ frame.value ++ frame.unit) :
    ∀ frame ∈ frames, 'K'.toUInt8 ∉ (format.encode frame).tail := by
  intro frame member inside
  have status : 'K'.toUInt8 ≠ frame.status := by
    rw [Frame.status]
    cases frame.steady with
    | false => decide
    | true => decide
  have sign : 'K'.toUInt8 ≠ frame.sign := by
    rw [Frame.sign]
    cases frame.negative with
    | false => decide
    | true => decide
  have among : 'K'.toUInt8 ∈ frame.status :: frame.sign :: (frame.value ++ frame.unit) := inside
  rcases List.mem_cons.mp among with first | rest
  · exact status first
  · rcases List.mem_cons.mp rest with second | characters
    · exact sign second
    · exact unmarked frame member characters

/-- The stable frames are reported, one by one and without an error, when each read is one
frame, or several of which only the first may be stable. Where no value and no unit has a
`K` it is so in no other cutting of the stream. -/
theorem measured_exact_iff {frames : List Frame} (buffer : ReadBuffer) (cutting : Cutting frames) :
    ((∀ read ∈ cutting.reads, OneMeasured read) → Exact buffer cutting) ∧
      ((∀ frame ∈ frames, 'K'.toUInt8 ∉ frame.value ++ frame.unit) →
        (Exact buffer cutting ↔ ∀ read ∈ cutting.reads, OneMeasured read)) := by
  have whole : (cutting.reads.map fun read => read.chunk.bytes).flatten = format.stream frames := by
    rw [← cutting.whole, List.flatMap_def]
  have enough (measured : ∀ read ∈ cutting.reads, OneMeasured read) : Exact buffer cutting := by
    obtain ⟨groups, pieces, present, silent⟩ := groups_of_measured measured
    rw [pieces, Blocks.flatten_stream] at whole
    rw [exact_iff, reported_groups buffer pieces present,
      ← Blocks.stream_injective format whole]
    exact firsts_exact_iff.mpr silent
  refine ⟨enough, fun unmarked => ⟨fun exact_ => ?_, enough⟩⟩
  rw [exact_iff] at exact_
  have marked : ∀ piece ∈ cutting.reads.map fun read => read.chunk.bytes,
      piece.head? = some 'K'.toUInt8 := by
    intro piece member
    obtain ⟨read, among, rfl⟩ := List.mem_map.mp member
    exact marked_of_exact exact_ read among
  obtain ⟨groups, rfl, pieces, present⟩ :=
    Blocks.stream_groups format (inside_frames unmarked) marked whole
  rw [reported_groups buffer pieces present] at exact_
  exact measured_of_groups pieces present (firsts_exact_iff.mp exact_)

def stableFrame : Frame where
  steady := true
  negative := false
  value := Sequence.bytes "   12.50"
  unit := Sequence.bytes "g  "
  eight := by decide
  three := by decide
  characters := by decide

def readOf (text : String) (nonempty : Sequence.bytes text ≠ [])
    (short : (Sequence.bytes text).length ≤ 1000) : Read where
  chunk := { bytes := Sequence.bytes text, nonempty := nonempty, short := short }
  time := 0

def cutFrame : Cutting [stableFrame] where
  reads := [readOf "K +   12" (by decide) (by decide), readOf ".50g  " (by decide) (by decide)]
  whole := by decide

/-- A frame that is cut gives a wrong measurement and an error. -/
theorem cut_frame_not_exact : ¬ Exact (.filled 0) cutFrame := by
  rw [exact_iff]
  decide +kernel

end DevHub.BalanceStream
