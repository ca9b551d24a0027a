import DevHub.Equipment.LoneRun

/-!
A controller after `OnTaskTimeout`, compared with a new one. The timeout brings the state
back but not the bytes of the frame that was being received: they stand in front of the next
frame, so only without them the two controllers answer alike.
-/

namespace DevHub.TimeoutReset

open Sequence SolderCtrls Transition Isolation LoneCtrl
open Conformance (Input Lone start_constructed)

set_option autoImplicit false

def outputs (convert : Int → String) (equip : Nat) (process : Process) (inputs : List Input) :
    Option (List Effect) :=
  (run (SolderCtrls.step convert) process (inputs.map (Input.event equip))).map fun last =>
    (last.log.drop process.log.length).map Output.effect

def fresh (equip : Nat) (type : SequenceType) : Process := (Lone.start equip type).process

/-- After a timeout every sequence of inputs is answered as by a new controller. -/
def ResetsFully (convert : Int → String) (equip : Nat) (type : SequenceType) (process : Process) :
    Prop :=
  ∃ timedOut, onTaskTimeout process equip = some timedOut ∧
    ∀ inputs, outputs convert equip timedOut inputs = outputs convert equip (fresh equip type) inputs

/-! ### Outputs of the lone controller -/

theorem tagged_effects (equip : Nat) (effects : List Effect) :
    (tagged equip effects).map Output.effect = effects := by
  rw [tagged, List.map_map]
  exact List.map_id _

theorem outputs_lone (convert : Int → String) {process : Process} {equip : Nat} {ctrl : SolderCtrl}
    (found : process.ctrls equip = some ctrl)
    (owned : process.sequenceEquipmen ctrl.state = some equip) (inputs : List Input) :
    outputs convert equip process inputs = some (loneAll convert ctrl inputs).2 := by
  obtain ⟨last, ran, follows⟩ := run_follows convert inputs found owned
  rw [outputs, ran, Option.map_some, follows.log, List.drop_left, tagged_effects]

theorem lone_type (convert : Int → String) (ctrl : SolderCtrl) (inputs : List Input) :
    (loneAll convert ctrl inputs).1.type = ctrl.type := by
  induction inputs generalizing ctrl with
  | nil => rfl
  | cons input rest ih =>
      rw [loneAll, ih]
      cases input with
      | recvCommand cmd =>
          rw [lone]
          cases recvDownStream ctrl.state cmd with
          | none => rfl
          | some reaction => rfl
      | onData first rest => rfl
      | onTaskTimeout => rfl

/-! ### An exchange that shows the bytes -/

def awaiting : SequenceType → SequenceState
  | .glueSequence => .upLoadRep
  | .solderSequence => .upLoadRepA0

def exchange (frame : List UInt8) : List Input :=
  [.recvCommand "GetSpitParam", .onData Sequence.ack [],
    .onData ((frame ++ [etx]).head (by simp)) (frame ++ [etx]).tail]

theorem frame_decoded {frame : List UInt8} (plain : etx ∉ frame) (equipData rest : List UInt8) :
    decodeBytes equipData (frame ++ etx :: rest) =
      (.frame (equipData ++ frame) :: (decodeBytes [] rest).1, (decodeBytes [] rest).2) := by
  induction frame generalizing equipData with
  | nil =>
      rw [List.nil_append, decodeBytes, if_neg (by simp), List.append_nil]
  | cons byte more ih =>
      have inside : byte ≠ etx := fun same => plain (same ▸ List.mem_cons_self)
      rw [List.cons_append, decodeBytes, if_pos inside,
        ih fun member => plain (List.mem_cons_of_mem _ member), List.append_assoc,
        List.singleton_append]

theorem exchange_effects (convert : Int → String) (type : SequenceType) :
    ∃ effects, ∀ equipData frame, etx ∉ frame → frame.head? ≠ some Sequence.ack →
      (loneAll convert { type := type, state := .idle, equipData := equipData }
          (exchange frame)).2 =
        effects ++ (serve convert type (awaiting type) (.frame (equipData ++ frame))).2 := by
  have received {equipData frame : List UInt8} (plain : etx ∉ frame)
      (starts : frame.head? ≠ some Sequence.ack) :
      decode equipData ((frame ++ [etx]).head (by simp) :: (frame ++ [etx]).tail) =
        ([.frame (equipData ++ frame)], []) := by
    have noAck : (frame ++ [etx]).head? ≠ some Sequence.ack := by
      cases frame with
      | nil => decide
      | cons byte more => exact starts
    rw [List.cons_head_tail, decode, if_neg noAck, frame_decoded plain]
    rfl
  cases type with
  | glueSequence =>
      refine ⟨[.writePeripheralData [enq],
        .writePeripheralData ([stx] ++ bytes "08UL000,01DA" ++ [etx])], ?_⟩
      intro equipData frame plain starts
      simp only [exchange, loneAll, lone, receive, received plain starts, serveAll,
        List.append_nil]
      rfl
  | solderSequence =>
      refine ⟨[.writePeripheralData [enq],
        .writePeripheralData ([stx] ++ bytes "08UL001D01C1" ++ [etx])], ?_⟩
      intro equipData frame plain starts
      simp only [exchange, loneAll, lone, receive, received plain starts, serveAll,
        List.append_nil]
      rfl

/-! ### Frames that differ with bytes in front -/

/-- The answer with which a soldering controller refuses. -/
def Refused (data : List UInt8) : Prop :=
  (frameBuffer data)[3]? = some 'A'.toUInt8 ∧ (frameBuffer data)[4]? = some '2'.toUInt8

instance (data : List UInt8) : Decidable (Refused data) := inferInstanceAs (Decidable (_ ∧ _))

theorem refused_iff (convert : Int → String) (data : List UInt8) :
    .writePeripheralData [Sequence.ack] ∉
        (serve convert .solderSequence .upLoadRepA0 (.frame data)).2 ↔ Refused data := by
  have long := frame_buffer_length data
  obtain ⟨third, readThird⟩ : ∃ byte, (frameBuffer data)[3]? = some byte :=
    ⟨_, List.getElem?_eq_getElem (by omega)⟩
  obtain ⟨fourth, readFourth⟩ : ∃ byte, (frameBuffer data)[4]? = some byte :=
    ⟨_, List.getElem?_eq_getElem (by omega)⟩
  have copied : .writePeripheralData [Sequence.ack] ∉ (Call.frame data).copied := by
    rw [Call.copied]
    split
    · exact List.not_mem_nil
    · decide
  simp only [serve, recvUpstream, Call.data, upLoadRepA0RecvUpstream, readThird, readFourth,
    List.mem_append, not_or, Refused, Option.some.injEq]
  rw [and_iff_right copied]
  by_cases letter : third = 'A'.toUInt8
  · rw [if_pos letter]
    by_cases digit : fourth = '2'.toUInt8
    · rw [if_pos digit]
      exact iff_of_true (by decide) ⟨letter, digit⟩
    · rw [if_neg digit]
      exact iff_of_false (by decide) fun both => digit both.2
  · rw [if_neg letter]
    exact iff_of_false (by decide) fun both => letter both.1

def refusal : List UInt8 := [0x30, 0x30, 0x30, 'A'.toUInt8, '2'.toUInt8]

/-- Behind other bytes it is one only if they are one themselves. -/
theorem refusal_behind {equipData : List UInt8} (left : equipData ≠ [])
    (refused : Refused (equipData ++ refusal)) : Refused equipData := by
  have long : 5 < (equipData ++ refusal).length := by
    have present := List.length_pos_iff.mpr left
    have five : refusal.length = 5 := rfl
    rw [List.length_append]
    omega
  obtain ⟨third, fourth⟩ := refused
  rw [frameBuffer, List.rightpad, List.getElem?_append_left (by omega)] at third fourth
  have noLetter : ¬ some (0x30 : UInt8) = some 'A'.toUInt8 := by decide
  have noDigit : ¬ some (0x30 : UInt8) = some '2'.toUInt8 := by decide
  -- The letter is in `equipData` and the digit too, or one of them is a zero of `refusal`.
  rcases equipData with _ | ⟨_, _ | ⟨_, _ | ⟨_, _ | ⟨_, _ | ⟨_, _⟩⟩⟩⟩⟩
  · exact absurd rfl left
  · exact absurd third noLetter
  · exact absurd third noLetter
  · exact absurd third noLetter
  · exact absurd fourth noDigit
  · exact ⟨third, fourth⟩

theorem solder_differs (convert : Int → String) {equipData : List UInt8} (left : equipData ≠ []) :
    ∃ frame, etx ∉ frame ∧ frame.head? ≠ some Sequence.ack ∧
      (serve convert .solderSequence .upLoadRepA0 (.frame (equipData ++ frame))).2 ≠
        (serve convert .solderSequence .upLoadRepA0 (.frame frame)).2 := by
  by_cases refused : Refused equipData
  · refine ⟨[], by decide, by decide, ?_⟩
    intro same
    rw [← refused_iff convert, ← List.append_nil equipData, same, refused_iff] at refused
    exact absurd refused (by decide)
  · refine ⟨refusal, by decide, by decide, ?_⟩
    intro same
    have alone : Refused refusal := by decide
    rw [← refused_iff convert, ← same, refused_iff] at alone
    exact refused (refusal_behind left alone)

/-- Twelve items, and one byte less than fits `buf`. -/
def longAnswer : List UInt8 := bytes "1,1,1,111111,1,1,1,1,1,1,1," ++ List.replicate 72 '1'.toUInt8

theorem long_answer_length : longAnswer.length = 99 := by decide +kernel

theorem long_answer_within (convert : Int → String) :
    Within convert .glueSequence .upLoadRep (.frame longAnswer) := by
  have text : cString (frameBuffer longAnswer) = some longAnswer := by decide +kernel
  have time : itemNumber longAnswer 3 6 = some 111111 := by decide +kernel
  have pressure : itemNumber longAnswer 11 5 = some 11111 := by decide +kernel
  constructor
  · rw [FitsBuf, long_answer_length]
    decide
  · rw [Readable, Call.data, reportedParams, glueParams, text, Option.bind_some, time,
      Option.bind_some, pressure, Option.map_some, Option.isSome_some]

/-- Behind other bytes the answer does not fit, or is not terminated. -/
theorem long_answer_behind (convert : Int → String) {equipData : List UInt8}
    (left : equipData ≠ []) :
    ¬ Within convert .glueSequence .upLoadRep (.frame (equipData ++ longAnswer)) := by
  rintro ⟨fits, readable⟩
  have present := List.length_pos_iff.mpr left
  rw [FitsBuf, List.length_append, long_answer_length] at fits
  obtain ⟨byte, rfl⟩ := List.length_eq_one_iff.mp (show equipData.length = 1 by omega)
  have full : frameBuffer ([byte] ++ longAnswer) = byte :: longAnswer := by
    rw [frameBuffer, List.rightpad, List.length_append, long_answer_length]
    exact List.append_nil _
  rw [Readable, Call.data, reportedParams, glueParams, full] at readable
  by_cases zero : byte = 0
  · have empty : cString (byte :: longAnswer) = some [] := by
      rw [zero, cString, if_pos List.mem_cons_self]
      rfl
    rw [empty, Option.bind_some] at readable
    exact absurd readable (by simp [itemNumber, items])
  · have printed : (0 : UInt8) ∉ longAnswer := by decide +kernel
    have open_ : (0 : UInt8) ∉ byte :: longAnswer := by
      rw [List.mem_cons, not_or]
      exact ⟨fun same => zero same.symm, printed⟩
    rw [cString, if_neg open_] at readable
    cases readable

theorem glue_differs (convert : Int → String) {equipData : List UInt8} (left : equipData ≠ []) :
    ∃ frame, etx ∉ frame ∧ frame.head? ≠ some Sequence.ack ∧
      (serve convert .glueSequence .upLoadRep (.frame (equipData ++ frame))).2 ≠
        (serve convert .glueSequence .upLoadRep (.frame frame)).2 := by
  refine ⟨longAnswer, by decide +kernel, by decide, ?_⟩
  intro same
  have alone := serve_inside_iff.mpr (long_answer_within convert)
  rw [← same, serve_inside_iff] at alone
  exact long_answer_behind convert left alone

theorem leftover_shows (convert : Int → String) (type : SequenceType) {equipData : List UInt8}
    (left : equipData ≠ []) :
    ∃ inputs, (loneAll convert { type := type, state := .idle, equipData := equipData } inputs).2 ≠
      (loneAll convert { type := type, state := .idle, equipData := [] } inputs).2 := by
  have differs : ∃ frame, etx ∉ frame ∧ frame.head? ≠ some Sequence.ack ∧
      (serve convert type (awaiting type) (.frame (equipData ++ frame))).2 ≠
        (serve convert type (awaiting type) (.frame frame)).2 := by
    cases type with
    | glueSequence => exact glue_differs convert left
    | solderSequence => exact solder_differs convert left
  obtain ⟨frame, plain, starts, differ⟩ := differs
  obtain ⟨effects, exchanged⟩ := exchange_effects convert type
  refine ⟨exchange frame, ?_⟩
  rw [exchanged equipData frame plain starts, exchanged [] frame plain starts, List.nil_append]
  exact fun same => differ (List.append_cancel_left same)

/-- After every history a timeout resets the controller fully exactly when it has no byte of
an open frame. -/
theorem timeout_resets_iff (convert : Int → String) (equip : Nat) (type : SequenceType)
    (history : List Input) :
    ∃ process ctrl,
      run (SolderCtrls.step convert) (fresh equip type) (history.map (Input.event equip)) =
        some process ∧
      process.ctrls equip = some ctrl ∧
      (ResetsFully convert equip type process ↔ ctrl.equipData = []) := by
  let start : SolderCtrl := { type := type, state := .idle, equipData := [] }
  have here := Conformance.advance_owned Process.start equip start { effects := [], next := .idle }
  have new : (fresh equip type).ctrls equip = some start := here.1
  have points : (fresh equip type).sequenceEquipmen start.state = some equip := here.2
  obtain ⟨process, ran, follows⟩ := run_follows convert history new points
  have found := follows_here follows
  have same : onTaskTimeout process equip =
      some (enterIdle process equip (loneAll convert start history).1) := by
    rw [onTaskTimeout, found, Option.map_some]
  obtain ⟨foundIdle, pointsIdle⟩ := Conformance.advance_owned process equip
    (loneAll convert start history).1 { effects := [], next := .idle }
  have kept : (loneAll convert start history).1.type = type := lone_type convert start history
  have timedOut (inputs : List Input) :
      outputs convert equip (enterIdle process equip (loneAll convert start history).1) inputs =
        some (loneAll convert {
          type := type
          state := .idle
          equipData := (loneAll convert start history).1.equipData } inputs).2 := by
    rw [enterIdle, outputs_lone convert foundIdle pointsIdle, kept]
  have asNew (inputs : List Input) :
      outputs convert equip (fresh equip type) inputs = some (loneAll convert start inputs).2 :=
    outputs_lone convert new points inputs
  refine ⟨process, _, ran, found, ?_, ?_⟩
  · rintro ⟨after, taken, answers⟩
    obtain rfl := Option.some.inj (same.symm.trans taken)
    by_contra left
    obtain ⟨inputs, differ⟩ := leftover_shows convert type left
    have equal := answers inputs
    rw [timedOut, asNew] at equal
    exact differ (Option.some.inj equal)
  · intro empty
    refine ⟨_, same, fun inputs => ?_⟩
    rw [timedOut, asNew, empty]

/-- A byte of a frame that was not received to its end. -/
theorem byte_survives_timeout :
    ¬ ∃ process,
      run (SolderCtrls.step fun _ => "") (fresh 0 .solderSequence) [.onData 0 [0x30]] =
        some process ∧
      ResetsFully (fun _ => "") 0 .solderSequence process := by
  rintro ⟨process, reached, after, taken, answers⟩
  have differ := answers (exchange refusal)
  obtain rfl := Option.some.inj reached
  obtain rfl := Option.some.inj taken
  exact absurd differ (by decide +kernel)

end DevHub.TimeoutReset
