import DevHub.Plc.Handled

/-!
The byte order of the acknowledgements. A handler decodes the words of a frame with
the swap functions and writes its own frame in the order of the host, so the two
agree exactly where no words are swapped.
-/

namespace DevHub.ByteOrder

open PlcEvent HandledEvent Transition

set_option autoImplicit false

def resultPass : UInt16 := 0x10

/-- The frame repeats the id word as it was read, and decodes to the id of the event
and to `RESULT_Pass` with the conversion of the handler. -/
structure Speaks (ev : Event) (block : Block) (frame : List UInt16) : Prop where
  raw : frame[0]? = some (block 0)
  id : frame[0]?.map (bLEndianUshort · ev.machineContex.wordSwap) = some (currentId ev block)
  result : frame[1]?.map (bLEndianUshort · ev.machineContex.wordSwap) = some resultPass

/-- The acknowledgement of an event that the poll handled speaks as the PLC does. -/
def AckSpeaks (ev : Event) (before : Line) (happening : Happening) (after : Line) : Prop :=
  ∀ outcome, happening = .poll outcome →
    ∀ entry, after.log = before.log ++ [entry] → entry.acked = true →
      Speaks ev before.block (ackFrame entry.id)

/-- No event is acknowledged where words are swapped. -/
def Unswapped (ev : Event) (line : Line) : Happening → Prop
  | .poll outcome => Takes ev line outcome → outcome.write = true →
      ev.machineContex.wordSwap = false
  | _ => True

/-- `RESULT_Pass` comes out as 0x1000 where words are swapped. -/
theorem speaks_iff_unswapped (ev : Event) (block : Block) :
    Speaks ev block (ackFrame (currentId ev block)) ↔ ev.machineContex.wordSwap = false := by
  constructor
  · intro speaks
    cases swap : ev.machineContex.wordSwap with
    | false => rfl
    | true =>
        have result := speaks.result
        rw [swap] at result
        have code : some (bLEndianUshort resultPass true) = some resultPass := result
        exact absurd code (by decide)
  · intro unswapped
    have plain (value : UInt16) : bLEndianUshort value ev.machineContex.wordSwap = value := by
      rw [unswapped]
      rfl
    constructor
    · exact congrArg some (plain _)
    · exact congrArg some (plain _)
    · exact congrArg some (plain _)

theorem poll_speaks_iff (ev : Event) (line : Line) (outcome : Outcome) :
    AckSpeaks ev line (.poll outcome) (sniffingPlcEvent ev line outcome) ↔
      Unswapped ev line (.poll outcome) := by
  rw [sniffing_plc_event_report]
  by_cases taken : Takes ev line outcome
  · have noted := (sniffing_takes (eventReport ev line.block) taken).2
    constructor
    · intro speaks _ write
      exact (speaks_iff_unswapped ev line.block).mp (speaks outcome rfl _ noted write)
    · intro unswapped polled same entry appended acked
      rw [noted, List.append_cancel_left_eq, List.singleton_inj] at appended
      subst appended
      exact (speaks_iff_unswapped ev line.block).mpr (unswapped taken acked)
  · obtain ⟨status, unchanged⟩ := sniffing_ignores (eventReport ev line.block) taken
    constructor
    · intro _ takes
      exact absurd takes taken
    · intro _ polled same entry appended
      rw [unchanged] at appended
      exact absurd (congrArg List.length appended) (by simp)

theorem step_speaks_iff {ev : Event} {line next : Line} {happening : Happening}
    (taken : step ev line happening = some next) :
    AckSpeaks ev line happening next ↔ Unswapped ev line happening := by
  cases happening with
  | poll outcome =>
      cases taken
      exact poll_speaks_iff ev line outcome
  | plcWrites block => exact iff_of_true (fun outcome same => nomatch same) trivial
  | reconnect connected => exact iff_of_true (fun outcome same => nomatch same) trivial

/-- In a run every acknowledgement speaks the byte order of the PLC exactly when no
event of a machine with swapped words is acknowledged. -/
theorem acks_speak_iff_unswapped (ev : Event) (block : Block) (happenings : List Happening) :
    EachStep (step ev) (AckSpeaks ev) (Line.start block) happenings ↔
      Guarded (step ev) (Unswapped ev) (Line.start block) happenings := by
  apply each_step_congr (fun _ _ _ _ _ => trivial) _ trivial
  intro line happening next _ taken
  exact step_speaks_iff taken

/-- The id word 0x0500 of the PLC is answered with the word 5. -/
theorem swapped_ack_garbled :
    ¬ EachStep (step statusEvent) (AckSpeaks statusEvent) (Line.start statusBlock)
        [.reconnect true, .poll { read := true, upstream := true, write := true }] := by
  intro speaks
  have spoken := ((speaks _ rfl).2 _ rfl).1 _ rfl _ rfl rfl
  exact absurd spoken.raw (by decide)

end DevHub.ByteOrder
