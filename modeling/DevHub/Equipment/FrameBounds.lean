import DevHub.Equipment.LoneRun

/-!
What the parsing of frames touches. Every access of a call is listed with what bounds it:
the bytes of `buf`, the digits of the comma fields, and the report, which is made of the
frame or of something else. The device alone decides whether the accesses stay within.
-/

namespace DevHub.FrameBounds

open Sequence SolderCtrls Transition Isolation LoneCtrl
open Conformance (Input)

set_option autoImplicit false

/-- `buf[index]`, `dt[position]` of a field, and a report of `Press` and `time` with whether
both were assigned from a frame. -/
inductive Access where
  | buf (index : Nat)
  | digit (position : Nat) (item : List UInt8)
  | report (fromFrame : Bool)
  deriving DecidableEq

def Access.Sound : Access → Prop
  | buf index => index < 100
  | digit position item => position < item.length
  | report fromFrame => fromFrame = true

def textOf (data : List UInt8) : List UInt8 := data.takeWhile fun byte => decide (byte ≠ 0)

/-- The digits of a field, when the loop comes to it. -/
def digits (fields : List (List UInt8)) (index count : Nat) : List Access :=
  match fields[index]? with
  | none => []
  | some item => (List.range count).map fun position => .digit position item

/-- The handler's accesses to a frame that stands in `buf`. Of a text that does not end in
`buf` the fields are those of its part inside. -/
def handled (type : SequenceType) (state : SequenceState) (data : List UInt8) : List Access :=
  match state with
  | .idle => []
  | .upLoad => [.buf 0]
  | .upLoadRepA0 =>
      .buf 3 :: if (frameBuffer data)[3]? = some 'A'.toUInt8 then [.buf 4] else []
  | .upLoadRep =>
      match type with
      | .solderSequence =>
          [.buf 8, .buf 9, .buf 10, .buf 11, .buf 13, .buf 14, .buf 15, .buf 16, .buf 17,
            .report (18 ≤ data.length)]
      | .glueSequence =>
          let text := textOf (frameBuffer data)
          (List.range (text.length + 1)).map .buf ++ digits (items text) 3 6 ++
            digits (items text) 11 5 ++ [.report (11 < (items text).length)]

/-- A read that begins with an ACK is not in `buf`, and what is reported of it is not a frame. -/
def accesses (type : SequenceType) (state : SequenceState) : Call → List Access
  | .frame data => (List.range data.length).map .buf ++ handled type state data
  | .read data =>
      match state with
      | .upLoadRep =>
          match type with
          | .solderSequence => [.report false]
          | .glueSequence =>
              digits (items (textOf data)) 3 6 ++ digits (items (textOf data)) 11 5 ++
                [.report false]
      | _ => []

def allAccesses (convert : Int → String) (type : SequenceType) (state : SequenceState) :
    List Call → List Access
  | [] => []
  | call :: rest =>
      accesses type state call ++
        allAccesses convert type (serve convert type state call).1 rest

def callsOf (ctrl : SolderCtrl) : Input → List Call
  | .onData first rest => (decode ctrl.equipData (first :: rest)).1
  | .recvCommand _ => []
  | .onTaskTimeout => []

def step (convert : Int → String) (equip : Nat) : Step Process Input := fun process input =>
  SolderCtrls.step convert process (input.event equip)

def Bounded (convert : Int → String) (equip : Nat) (process : Process) (input : Input)
    (_ : Process) : Prop :=
  ∀ ctrl, process.ctrls equip = some ctrl →
    ∀ access ∈ allAccesses convert ctrl.type ctrl.state (callsOf ctrl input), access.Sound

/-- The fields of a frame of the glue dispenser: at least twelve of them in front of a NUL
that stands in `buf`, with the digits of the time and of the pressure. -/
def GlueFields (data : List UInt8) : Prop :=
  (data.length < 100 ∨ 0 ∈ data) ∧ 11 < (items (textOf data)).length ∧
    (∀ item, (items (textOf data))[3]? = some item → 6 ≤ item.length) ∧
    ∀ item, (items (textOf data))[11]? = some item → 5 ≤ item.length

/-- The frame fits `buf`, and one that is reported has its values. -/
def FrameParsable (type : SequenceType) (state : SequenceState) (data : List UInt8) : Prop :=
  data.length ≤ 100 ∧ (state = .upLoadRep →
    match type with
    | .solderSequence => 18 ≤ data.length
    | .glueSequence => GlueFields data)

/-- No read that begins with an ACK comes where the frame is awaited. -/
def Parsable (type : SequenceType) (state : SequenceState) : Call → Prop
  | .read _ => state ≠ .upLoadRep
  | .frame data => FrameParsable type state data

def AllParsable (convert : Int → String) (type : SequenceType) (state : SequenceState) :
    List Call → Prop
  | [] => True
  | call :: rest =>
      Parsable type state call ∧ AllParsable convert type (serve convert type state call).1 rest

/-! ### The accesses of one call -/

theorem buf_sound_iff (count : Nat) :
    (∀ access ∈ (List.range count).map Access.buf, access.Sound) ↔ count ≤ 100 := by
  rw [List.forall_mem_map]
  constructor
  · intro sound
    by_contra long
    exact absurd (sound 100 (List.mem_range.mpr (by omega))) (Nat.lt_irrefl 100)
  · intro short index member
    exact Nat.lt_of_lt_of_le (List.mem_range.mp member) short

theorem digits_sound_iff (fields : List (List UInt8)) (index count : Nat) :
    (∀ access ∈ digits fields index count, access.Sound) ↔
      ∀ item, fields[index]? = some item → count ≤ item.length := by
  rw [digits]
  cases found : fields[index]? with
  | none => simp
  | some item =>
      simp only [Option.some.injEq, forall_eq']
      rw [List.forall_mem_map]
      constructor
      · intro sound
        by_contra short
        exact absurd (sound item.length (List.mem_range.mpr (by omega))) (Nat.lt_irrefl _)
      · intro long position member
        exact Nat.lt_of_lt_of_le (List.mem_range.mp member) long

theorem report_sound_iff (fromFrame : Prop) [Decidable fromFrame] :
    (Access.report (decide fromFrame)).Sound ↔ fromFrame :=
  decide_eq_true_iff

theorem printed_text {data : List UInt8} (printed : 0 ∉ data) : textOf data = data := by
  have whole := text_back [] printed
  rw [List.append_nil, List.takeWhile_nil, List.append_nil] at whole
  exact whole

theorem frame_text (data : List UInt8) : textOf (frameBuffer data) = textOf data := by
  rw [textOf, textOf, frameBuffer, List.rightpad]
  by_cases ends : 0 ∈ data
  · exact text_front _ ends
  · have printed : data.takeWhile (fun byte => decide (byte ≠ 0)) = data := printed_text ends
    rw [text_back _ ends, printed]
    simp

theorem text_ends_iff {data : List UInt8} (short : data.length ≤ 100) :
    (textOf data).length + 1 ≤ 100 ↔ data.length < 100 ∨ 0 ∈ data := by
  by_cases ends : 0 ∈ data
  · obtain ⟨front, back, rfl, open_⟩ := List.eq_append_cons_of_mem ends
    have text : textOf (front ++ 0 :: back) = front := by
      rw [textOf, text_back _ open_]
      simp
    rw [List.length_append, List.length_cons] at short
    rw [text]
    exact iff_of_true (by omega) (Or.inr ends)
  · rw [printed_text ends, or_iff_left ends]
    exact Iff.rfl

theorem frame_sound_iff (type : SequenceType) (state : SequenceState) (data : List UInt8) :
    (∀ access ∈ accesses type state (.frame data), access.Sound) ↔
      FrameParsable type state data := by
  rw [accesses, List.forall_mem_append, buf_sound_iff]
  unfold FrameParsable
  apply and_congr_right
  intro short
  cases state with
  | idle => simp [handled]
  | upLoad => simp [handled, Access.Sound]
  | upLoadRepA0 =>
      simp only [handled, List.forall_mem_cons]
      split
      · simp [Access.Sound]
      · simp [Access.Sound]
  | upLoadRep =>
      cases type with
      | solderSequence => simp [handled, Access.Sound]
      | glueSequence =>
          rw [handled, frame_text, List.forall_mem_append, List.forall_mem_append,
            List.forall_mem_append, buf_sound_iff, digits_sound_iff, digits_sound_iff,
            text_ends_iff short, List.forall_mem_singleton, report_sound_iff]
          constructor
          · rintro ⟨⟨⟨ends, time⟩, pressure⟩, reported⟩ -
            exact ⟨ends, reported, time, pressure⟩
          · intro fields
            obtain ⟨ends, reported, time, pressure⟩ := fields rfl
            exact ⟨⟨⟨ends, time⟩, pressure⟩, reported⟩

theorem call_sound_iff (type : SequenceType) (state : SequenceState) (call : Call) :
    (∀ access ∈ accesses type state call, access.Sound) ↔ Parsable type state call := by
  cases call with
  | frame data => exact frame_sound_iff type state data
  | read data =>
      cases state with
      | idle => simp [accesses, Parsable]
      | upLoad => simp [accesses, Parsable]
      | upLoadRepA0 => simp [accesses, Parsable]
      | upLoadRep =>
          have reported : .report false ∈ accesses type .upLoadRep (.read data) := by
            cases type with
            | solderSequence => exact List.mem_singleton_self _
            | glueSequence => exact List.mem_append_right _ (List.mem_singleton_self _)
          refine iff_of_false (fun sound => ?_) (fun within => within rfl)
          exact Bool.false_ne_true (sound _ reported)

theorem item_number_some {text item : List UInt8} {index count : Nat}
    (found : (items text)[index]? = some item) (long : count ≤ item.length) :
    itemNumber text index count = some (number ((item ++ [0]).take count)) := by
  have inside : 0 + count ≤ (item ++ [0]).length := by
    rw [List.length_append]
    omega
  rw [itemNumber, found, Option.bind_some, field, if_pos inside, Option.map_some, List.drop_zero]

/-- What is parsed within the bounds is read inside the frame. -/
theorem parsable_within (convert : Int → String) {type : SequenceType} {state : SequenceState}
    {data : List UInt8} (parsable : FrameParsable type state data) :
    Within convert type state (.frame data) := by
  obtain ⟨short, values⟩ := parsable
  have long := frame_buffer_length data
  refine ⟨short, ?_⟩
  cases state with
  | idle => trivial
  | upLoad => trivial
  | upLoadRepA0 =>
      have third : 3 < (frameBuffer data).length := by omega
      have fourth : 4 < (frameBuffer data).length := by omega
      exact ⟨third, fun _ => fourth⟩
  | upLoadRep =>
      rw [Readable, Call.data]
      cases type with
      | solderSequence =>
          have pressure : 8 + 4 ≤ (frameBuffer data).length := by omega
          have time : 13 + 5 ≤ (frameBuffer data).length := by omega
          rw [reportedParams, solderParams, field, if_pos pressure, Option.bind_some, field,
            if_pos time, Option.map_some, Option.isSome_some]
      | glueSequence =>
          obtain ⟨ends, many, time, pressure⟩ := values rfl
          have terminated : 0 ∈ frameBuffer data := by
            rw [frameBuffer, List.rightpad, List.mem_append]
            rcases ends with free | inside
            · exact Or.inr (List.mem_replicate.mpr ⟨by omega, rfl⟩)
            · exact Or.inl inside
          have text : cString (frameBuffer data) = some (textOf data) := by
            rw [cString, if_pos terminated, ← frame_text data]
            rfl
          have third := List.getElem?_eq_getElem (show 3 < (items (textOf data)).length by omega)
          have eleventh := List.getElem?_eq_getElem many
          rw [reportedParams, glueParams, text, Option.bind_some,
            item_number_some third (time _ third), Option.bind_some,
            item_number_some eleventh (pressure _ eleventh), Option.map_some, Option.isSome_some]

/-! ### Runs -/

theorem calls_sound_iff (convert : Int → String) (type : SequenceType) (state : SequenceState)
    (calls : List Call) :
    (∀ access ∈ allAccesses convert type state calls, access.Sound) ↔
      AllParsable convert type state calls := by
  induction calls generalizing state with
  | nil => exact iff_of_true (List.forall_mem_nil _) trivial
  | cons call rest ih =>
      rw [allAccesses, AllParsable, List.forall_mem_append, call_sound_iff, ih]

/-- The controller has the static object of its state. -/
def Alive (equip : Nat) (process : Process) : Prop :=
  ∃ ctrl, process.ctrls equip = some ctrl ∧ process.sequenceEquipmen ctrl.state = some equip

/-- The calls of the input can be parsed in the states in which they come. -/
def Fitting (convert : Int → String) (equip : Nat) (process : Process) (input : Input) : Prop :=
  ∀ ctrl, process.ctrls equip = some ctrl →
    AllParsable convert ctrl.type ctrl.state (callsOf ctrl input)

/-- In every run of a lone controller, from any state, the accesses are within their bounds
exactly when every frame and every read comes as the parsing takes for granted. -/
theorem bounded_iff_fitting (convert : Int → String) {equip : Nat} (sole : Sole equip)
    (inputs : List Input) :
    EachStep (step convert equip) (Bounded convert equip) sole.process inputs ↔
      Guarded (step convert equip) (Fitting convert equip) sole.process inputs := by
  have initial : Alive equip sole.process := ⟨sole.ctrl, sole.found, sole.owned⟩
  apply each_step_congr _ _ initial
  · intro process input next alive taken
    obtain ⟨ctrl, found, owned⟩ := alive
    obtain ⟨after, moved, follows⟩ := step_follows convert input found owned
    obtain rfl := Option.some.inj (taken.symm.trans moved)
    exact ⟨_, follows_here follows, follows.owned.mpr owned⟩
  · intro process input next _ _
    apply forall₂_congr
    intro ctrl _
    exact calls_sound_iff convert ctrl.type ctrl.state (callsOf ctrl input)

def awaitingFrame : Sole 0 where
  process := {
    ctrls := fun equip =>
      if equip = 0 then some { type := .glueSequence, state := .upLoadRep, equipData := [] }
      else none
    sequenceEquipmen := fun state => if state = .upLoadRep then some 0 else none
    log := [] }
  ctrl := { type := .glueSequence, state := .upLoadRep, equipData := [] }
  found := rfl
  owned := rfl

/-- A frame with one field is reported with two values that nothing was assigned to. -/
theorem short_frame_not_bounded :
    ¬ EachStep (step (fun _ => "") 0) (Bounded (fun _ => "") 0) awaitingFrame.process
      [.onData 0x31 [etx]] := by
  intro bounded
  obtain ⟨next, taken, -⟩ := step_follows (fun _ => "") (.onData 0x31 [etx]) awaitingFrame.found
    awaitingFrame.owned
  have sound := (bounded next taken).1 awaitingFrame.ctrl awaitingFrame.found (.report false)
    (by decide +kernel)
  exact Bool.false_ne_true sound

end DevHub.FrameBounds
