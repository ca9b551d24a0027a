import DevHub.Equipment.Scanner

/-!
What a report takes from the read buffer behind the bytes of its read. The text of a
`KeyenceScanner` ends at the first NUL and the frame of a balance has fixed places, so a
read that lacks them is filled up with what earlier reads have left there.
-/

namespace DevHub.Leftover

open Transition Peripheral Scanners

set_option autoImplicit false

inductive Equipment where
  | keyence (dev : String)
  | balance

inductive Report where
  | keyence (report : KeyenceReport)
  | balance (update : Option ElecBalance.Update)
  deriving DecidableEq

/-- `OnData` of the equipment. The time is that of the report, or the one since the last
command to the balance. -/
def onData (equipment : Equipment) (buffer : ReadBuffer) (time : Int) : Report :=
  match equipment with
  | .keyence dev => .keyence (keyenceOnData dev buffer time)
  | .balance => .balance (ElecBalance.onData buffer.data time).update

/-- The read has all that the report needs: the end of the text; for a balance the first
character, and each further one that the ones before it make necessary, where the unit may
be cut short by a NUL. -/
def Whole (equipment : Equipment) (bytes : List UInt8) : Prop :=
  match equipment with
  | .keyence _ => 0 ∈ bytes
  | .balance =>
      bytes.getD 0 0 = 'K'.toUInt8 →
        1 < bytes.length ∧ (bytes.getD 1 0 = ' '.toUInt8 →
          2 < bytes.length ∧ (bytes.getD 2 0 = '+'.toUInt8 ∨ bytes.getD 2 0 = '-'.toUInt8 →
            14 ≤ bytes.length ∨ 0 ∈ bytes.drop 11))

/-! ### The scanner -/

theorem keyence_whole {chunk : Chunk} (dev : String) (time : Int) (ends : 0 ∈ chunk.bytes)
    (buffer other : ReadBuffer) :
    onData (.keyence dev) (buffer.read chunk) time =
      onData (.keyence dev) (other.read chunk) time := by
  have code (buffer : ReadBuffer) : Sequence.cString (buffer.read chunk).bytes =
      some (chunk.bytes.takeWhile fun byte => decide (byte ≠ 0)) := by
    have whole : (buffer.read chunk).bytes =
        chunk.bytes ++ buffer.bytes.drop chunk.bytes.length := rfl
    rw [Sequence.cString, whole, if_pos (List.mem_append_left _ ends), Sequence.text_front _ ends]
  simp only [onData, keyenceOnData, code]

/-- The buffer with one character behind the read. -/
def oneBehind (chunk : Chunk) : ReadBuffer where
  bytes := List.replicate chunk.bytes.length 0 ++ 1 :: List.replicate (1023 - chunk.bytes.length) 0
  size := by
    have short := chunk.short
    rw [List.length_append, List.length_cons, List.length_replicate, List.length_replicate]
    omega

theorem keyence_open {chunk : Chunk} (dev : String) (time : Int) (open_ : 0 ∉ chunk.bytes) :
    onData (.keyence dev) ((ReadBuffer.filled 0).read chunk) time ≠
      onData (.keyence dev) ((oneBehind chunk).read chunk) time := by
  intro same
  have codes := congrArg KeyenceReport.code (Report.keyence.inj same)
  have short := chunk.short
  obtain ⟨n, more⟩ : ∃ n, 1024 - chunk.bytes.length = n + 1 := ⟨1023 - chunk.bytes.length, by omega⟩
  obtain ⟨m, rest⟩ : ∃ m, 1023 - chunk.bytes.length = m + 1 := ⟨1022 - chunk.bytes.length, by omega⟩
  have ended : Sequence.cString ((ReadBuffer.filled 0).read chunk).bytes = some chunk.bytes := by
    rw [Sequence.cString, filled_read, more, List.replicate_succ, if_pos (by simp),
      Sequence.text_back _ open_]
    simp
  have longer : Sequence.cString ((oneBehind chunk).read chunk).bytes =
      some (chunk.bytes ++ [1]) := by
    have behind : ((oneBehind chunk).read chunk).bytes =
        chunk.bytes ++ 1 :: List.replicate (1023 - chunk.bytes.length) 0 := by
      simp [ReadBuffer.read, oneBehind]
    rw [Sequence.cString, behind, rest, List.replicate_succ, if_pos (by simp),
      Sequence.text_back _ open_]
    simp
  rw [keyenceOnData, keyenceOnData, ended, longer] at codes
  have lengths := congrArg List.length (Option.some.inj codes)
  simp at lengths

/-! ### The balance -/

theorem agree_inside (buffer other : ReadBuffer) {chunk : Chunk} {i : Nat}
    (inside : i < chunk.bytes.length) :
    (buffer.read chunk).data i = (other.read chunk).data i := by
  rw [read_data, read_data, if_pos inside, if_pos inside]

theorem unit_places (buffer : ReadBuffer) :
    ((List.range 3).map fun i => buffer.data (i + 11)) = (buffer.bytes.drop 11).take 3 := by
  have size := buffer.size
  apply List.ext_getElem
  · rw [List.length_map, List.length_range, List.length_take, List.length_drop]
    omega
  · intro i inside other
    rw [List.length_map, List.length_range] at inside
    have bound : i + 11 < buffer.bytes.length := by omega
    rw [List.getElem_map, List.getElem_range, ReadBuffer.data, List.getD_eq_getElem _ _ bound,
      List.getElem_take, List.getElem_drop]
    simp only [Nat.add_comm]

theorem unit_read (buffer : ReadBuffer) (chunk : Chunk) (cut : chunk.bytes.length < 14) :
    ∃ back, ((List.range 3).map fun i => (buffer.read chunk).data (i + 11)) =
      chunk.bytes.drop 11 ++ back := by
  have short : (chunk.bytes.drop 11).length ≤ 3 := by
    rw [List.length_drop]
    omega
  rw [unit_places, ReadBuffer.read, List.drop_append, List.take_append, List.take_of_length_le short]
  exact ⟨_, rfl⟩

theorem unit_filled (byte : UInt8) (chunk : Chunk) (cut : chunk.bytes.length < 14) :
    ((List.range 3).map fun i => ((ReadBuffer.filled byte).read chunk).data (i + 11)) =
      chunk.bytes.drop 11 ++ List.replicate (3 - (chunk.bytes.drop 11).length) byte := by
  have short : (chunk.bytes.drop 11).length ≤ 3 := by
    rw [List.length_drop]
    omega
  have room : min (3 - (chunk.bytes.drop 11).length)
      (1024 - chunk.bytes.length - (11 - chunk.bytes.length)) =
        3 - (chunk.bytes.drop 11).length := by
    rw [List.length_drop]
    omega
  rw [unit_places, filled_read, List.drop_append, List.take_append, List.take_of_length_le short,
    List.drop_replicate, List.take_replicate, room]

/-- A NUL among the received characters of the unit ends it. -/
theorem unit_ended (buffer other : ReadBuffer) {chunk : Chunk} (cut : chunk.bytes.length < 14)
    (ends : 0 ∈ chunk.bytes.drop 11) :
    ElecBalance.unit (buffer.read chunk).data = ElecBalance.unit (other.read chunk).data := by
  obtain ⟨back, first⟩ := unit_read buffer chunk cut
  obtain ⟨another, second⟩ := unit_read other chunk cut
  have kept : 0 ∈ (chunk.bytes.drop 11).filter fun byte => decide (byte ≠ ' '.toUInt8) :=
    List.mem_filter.mpr ⟨ends, by decide⟩
  rw [ElecBalance.unit, ElecBalance.unit, first, second, List.filter_append, List.filter_append,
    ElecBalance.text, ElecBalance.text, Sequence.text_front _ kept, Sequence.text_front _ kept]

theorem unit_open {chunk : Chunk} (cut : chunk.bytes.length < 14)
    (open_ : 0 ∉ chunk.bytes.drop 11) :
    ElecBalance.unit ((ReadBuffer.filled 0).read chunk).data ≠
      ElecBalance.unit ((ReadBuffer.filled 1).read chunk).data := by
  intro same
  obtain ⟨n, missing⟩ : ∃ n, 3 - (chunk.bytes.drop 11).length = n + 1 := by
    rw [List.length_drop]
    exact ⟨2 - (chunk.bytes.length - 11), by omega⟩
  have kept : 0 ∉ (chunk.bytes.drop 11).filter fun byte => decide (byte ≠ ' '.toUInt8) :=
    fun member => open_ (List.mem_filter.mp member).1
  have lengths := congrArg (fun unit => unit.toList.length) same
  simp only [ElecBalance.unit, unit_filled _ chunk cut, missing, List.filter_append,
    List.filter_replicate, ElecBalance.text, Sequence.text_back _ kept] at lengths
  have zero : ¬ (0 : UInt8) = ' '.toUInt8 := by decide
  have one : ¬ (1 : UInt8) = ' '.toUInt8 := by decide
  simp [zero, one] at lengths

theorem value_inside (buffer other : ReadBuffer) {chunk : Chunk} (long : 11 ≤ chunk.bytes.length) :
    ElecBalance.value (buffer.read chunk).data = ElecBalance.value (other.read chunk).data := by
  apply congrArg ElecBalance.text
  apply List.map_congr_left
  intro i member
  rw [List.mem_range] at member
  exact agree_inside buffer other (by omega)

theorem unit_inside (buffer other : ReadBuffer) {chunk : Chunk}
    (complete : 14 ≤ chunk.bytes.length ∨ 0 ∈ chunk.bytes.drop 11) :
    ElecBalance.unit (buffer.read chunk).data = ElecBalance.unit (other.read chunk).data := by
  by_cases cut : chunk.bytes.length < 14
  · exact unit_ended buffer other cut (complete.resolve_left (Nat.not_le.mpr cut))
  · have places : ((List.range 3).map fun i => (buffer.read chunk).data (i + 11)) =
        (List.range 3).map fun i => (other.read chunk).data (i + 11) := by
      apply List.map_congr_left
      intro i member
      rw [List.mem_range] at member
      exact agree_inside buffer other (by omega)
    rw [ElecBalance.unit, ElecBalance.unit, places]

theorem balance_whole {chunk : Chunk} (time : Int) (whole : Whole .balance chunk.bytes)
    (buffer other : ReadBuffer) :
    onData .balance (buffer.read chunk) time = onData .balance (other.read chunk) time := by
  have received := List.length_pos_iff.mpr chunk.nonempty
  have known {i : Nat} (inside : i < chunk.bytes.length) :
      (buffer.read chunk).data i = chunk.bytes.getD i 0 := by
    rw [read_data, if_pos inside]
  apply congrArg Report.balance
  apply ElecBalance.update_congr time (agree_inside buffer other received)
  · intro head
    rw [known received] at head
    exact agree_inside buffer other (whole head).1
  · intro head steady
    rw [known received] at head
    rw [known (whole head).1] at steady
    exact agree_inside buffer other ((whole head).2 steady).1
  · intro head steady sign
    rw [known received] at head
    rw [known (whole head).1] at steady
    rw [known ((whole head).2 steady).1] at sign
    have complete := ((whole head).2 steady).2 sign
    have long : 11 ≤ chunk.bytes.length := by
      rcases complete with full | ended
      · omega
      · have present := List.length_pos_of_mem ended
        rw [List.length_drop] at present
        omega
    exact ⟨value_inside buffer other long, unit_inside buffer other complete⟩

theorem balance_cut {chunk : Chunk} (time : Int) (cut : ¬ Whole .balance chunk.bytes) :
    ∃ buffer other : ReadBuffer,
      onData .balance (buffer.read chunk) time ≠ onData .balance (other.read chunk) time := by
  have received := List.length_pos_iff.mpr chunk.nonempty
  have known (buffer : ReadBuffer) {i : Nat} (inside : i < chunk.bytes.length) :
      (buffer.read chunk).data i = chunk.bytes.getD i 0 := by
    rw [read_data, if_pos inside]
  have filled (byte : UInt8) {i : Nat} (behind : chunk.bytes.length ≤ i) (within : i < 1024) :
      ((ReadBuffer.filled byte).read chunk).data i = byte := by
    rw [read_data, if_neg (Nat.not_lt.mpr behind), ReadBuffer.data, ReadBuffer.filled,
      List.getD_replicate _ within]
  simp only [Whole, Classical.not_imp, not_and_or] at cut
  obtain ⟨head, short⟩ := cut
  have update (buffer : ReadBuffer) : onData .balance (buffer.read chunk) time =
      .balance (ElecBalance.onData (buffer.read chunk).data time).update := rfl
  have starts (buffer : ReadBuffer) : ¬ (buffer.read chunk).data 0 ≠ 'K'.toUInt8 := by
    rw [known buffer received, not_not]
    exact head
  have star : ¬ ' '.toUInt8 = '*'.toUInt8 := by decide
  rcases short with single | ⟨steady, short⟩
  · -- The status: an asterisk is silent, anything but a blank an error.
    refine ⟨.filled 0, .filled '*'.toUInt8, ?_⟩
    intro same
    rw [update, update, Report.balance.injEq, ElecBalance.onData, if_neg (starts _),
      filled 0 (Nat.not_lt.mp single) (by decide), ElecBalance.onData, if_neg (starts _),
      filled _ (Nat.not_lt.mp single) (by decide)] at same
    cases same
  · have long : 1 < chunk.bytes.length := by
      by_contra single
      have missing : chunk.bytes.getD 1 0 = 0 := List.getD_eq_default _ _ (Nat.not_lt.mp single)
      rw [missing] at steady
      exact absurd steady (by decide)
    rcases short with double | ⟨sign, notComplete⟩
    · -- The sign: a reading or an error.
      refine ⟨.filled 0, .filled '+'.toUInt8, ?_⟩
      intro same
      rw [update, update, Report.balance.injEq, ElecBalance.onData, if_neg (starts _),
        known _ long, steady, if_neg star, if_pos rfl,
        filled 0 (Nat.not_lt.mp double) (by decide), ElecBalance.onData, if_neg (starts _),
        known _ long, steady, if_neg star, if_pos rfl,
        filled _ (Nat.not_lt.mp double) (by decide)] at same
      cases same
    · -- The unit.
      obtain ⟨few, open_⟩ := not_or.mp notComplete
      have three : 2 < chunk.bytes.length := by
        by_contra double
        have missing : chunk.bytes.getD 2 0 = 0 := List.getD_eq_default _ _ (Nat.not_lt.mp double)
        rw [missing] at sign
        exact absurd sign (by decide)
      refine ⟨.filled 0, .filled 1, ?_⟩
      intro same
      have reading (buffer : ReadBuffer) := ElecBalance.update_reading time
        ((known buffer received).trans head) ((known buffer long).trans steady)
        ((known buffer three).symm ▸ sign)
      rw [update, update, Report.balance.injEq, reading, reading] at same
      simp only [Option.some.injEq, ElecBalance.Update.reading.injEq] at same
      exact unit_open (Nat.not_le.mp few) open_ same.2.2.1

/-! ### Runs of reads -/

theorem whole_iff (equipment : Equipment) (read : Read) :
    Whole equipment read.chunk.bytes ↔ ∀ buffer other : ReadBuffer,
      onData equipment (buffer.read read.chunk) read.time =
        onData equipment (other.read read.chunk) read.time := by
  constructor
  · intro whole buffer other
    cases equipment with
    | keyence dev => exact keyence_whole dev read.time whole buffer other
    | balance => exact balance_whole read.time whole buffer other
  · intro same
    by_contra cut
    cases equipment with
    | keyence dev => exact keyence_open dev read.time cut (same _ _)
    | balance =>
        obtain ⟨buffer, other, differ⟩ := balance_cut read.time cut
        exact differ (same buffer other)

/-- Over every run of reads each report depends on the bytes of its read only, exactly when
every read is whole. -/
theorem reports_of_bytes_iff (equipment : Equipment) (buffer : ReadBuffer) (reads : List Read) :
    EachStep (Peripheral.step (onData equipment)) (OfBytes (onData equipment)) (State.start buffer)
        reads ↔
      Guarded (Peripheral.step (onData equipment))
        (fun _ read => Whole equipment read.chunk.bytes) (State.start buffer) reads := by
  apply each_step_congr (fun _ _ _ _ _ => trivial) _ trivial
  intro state read next _ taken
  rw [of_bytes_iff taken, whole_iff]

def frameRead : Read where
  chunk := {
    bytes := Sequence.bytes "K +   12.50g  "
    nonempty := by decide
    short := by decide }
  time := 0

def cutRead : Read where
  chunk := {
    bytes := Sequence.bytes "K -"
    nonempty := by decide
    short := by decide }
  time := 0

/-- The read that was cut off reports the value and the unit of the frame before it. -/
theorem cut_frame_reports_leftover :
    ¬ EachStep (Peripheral.step (onData .balance)) (OfBytes (onData .balance))
      (State.start (.filled 0)) [frameRead, cutRead] := by
  intro ofBytes
  have second := ((ofBytes _ rfl).2 _ rfl).1 ((ReadBuffer.filled 0).read cutRead.chunk)
    (read_agree _ _ _)
  exact absurd second (by decide +kernel)

end DevHub.Leftover
