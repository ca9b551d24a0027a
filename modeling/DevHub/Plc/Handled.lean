import DevHub.Plc.Event

/-!
When a stored id stands for a handled event. The handlers store the id of a block
whatever happens to its report and its acknowledgement; the guard says of each poll
that both arrive, and of each write of the PLC that it does not hit the id that a new
handler starts with.
-/

namespace DevHub.HandledEvent

open PlcEvent Transition

set_option autoImplicit false

inductive Contains : Json → Json → Prop where
  | whole (value : Json) : Contains value value
  | element {elements : List Json} {part value : Json} (listed : part ∈ elements)
      (inside : Contains part value) : Contains (.array elements) value
  | member {members : List (String × Json)} {entry : String × Json} {value : Json}
      (listed : entry ∈ members) (inside : Contains entry.2 value) :
      Contains (.object members) value

/-- A connected client took the event where a report is due, and the PLC took the
acknowledgement. -/
structure Complete (entry : Handled) : Prop where
  reported : entry.report.due = true →
    ∃ message, entry.sent = some message ∧ Contains message entry.report.event
  acknowledged : entry.acked = true

/-- The handler ignores the block only if it completed the event with its id. -/
def MarkedHandled (ev : Event) (line : Line) : Prop :=
  line.sequenceID = currentId ev line.block →
    ∃ entry, line.log.getLast? = some entry ∧ entry.id = line.sequenceID ∧ Complete entry

/-- The poll reads an id that is not the stored one. -/
def Takes (ev : Event) (line : Line) (outcome : Outcome) : Prop :=
  line.connectionStatus = .connectOk ∧ outcome.read = true ∧
    line.sequenceID ≠ currentId ev line.block

def eventReport (ev : Event) : Block → Report :=
  match ev.eventAction with
  | .alarmCode => alarmCodeReport ev
  | .machineStatus => machineStatusReport ev
  | .machineYield => machineYieldReport ev

/-- The event of a taken id is reported and acknowledged, and it is not a machine
yield; before the first event the PLC does not write the initial id. -/
def Arrives (ev : Event) (line : Line) : Happening → Prop
  | .plcWrites block => line.log = [] → line.sequenceID ≠ currentId ev block
  | .poll outcome => Takes ev line outcome →
      ev.eventAction ≠ .machineYield ∧
        ((eventReport ev line.block).due = true → outcome.upstream = true) ∧
        outcome.write = true
  | .reconnect _ => True

/-! ### The handlers -/

theorem sniffing_plc_event_report (ev : Event) (line : Line) (outcome : Outcome) :
    sniffingPlcEvent ev line outcome = sniffing ev (eventReport ev line.block) line outcome := by
  unfold sniffingPlcEvent eventReport
  cases ev.eventAction <;> rfl

theorem transfer_failed_line (ev : Event) (line : Line) :
    ∃ status, transferFailed ev line = { line with connectionStatus := status } := by
  unfold transferFailed
  cases ev.machineContex.protocol with
  | fins => exact ⟨_, rfl⟩
  | rtu => exact ⟨_, rfl⟩

theorem read_data_line (ev : Event) (line : Line) (read : Bool) :
    ∃ status, (readData ev line read).2 = { line with connectionStatus := status } := by
  unfold readData
  split
  · exact ⟨_, rfl⟩
  · split
    · exact ⟨_, rfl⟩
    · exact transfer_failed_line ev line

theorem read_data_connected {ev : Event} {line : Line} {read : Bool}
    (connected : line.connectionStatus = .connectOk) (arrived : read = true) :
    readData ev line read = (true, line) := by
  simp [readData, connected, arrived]

theorem read_data_succeeds {ev : Event} {line : Line} {read : Bool}
    (succeeds : (readData ev line read).1 = true) :
    line.connectionStatus = .connectOk ∧ read = true := by
  unfold readData at succeeds
  cases status : line.connectionStatus with
  | connectNo => simp [status] at succeeds
  | connectOk =>
      cases read with
      | false => simp [status] at succeeds
      | true => exact ⟨rfl, rfl⟩

theorem sniffing_ignores {ev : Event} (report : Report) {line : Line} {outcome : Outcome}
    (ignored : ¬ Takes ev line outcome) :
    ∃ status, sniffing ev report line outcome = { line with connectionStatus := status } := by
  have unchanged := read_data_line ev line outcome.read
  unfold sniffing
  by_cases read : (readData ev line outcome.read).1 = false
  · simpa only [if_pos read] using unchanged
  · have succeeds : (readData ev line outcome.read).1 = true := by
      simpa using read
    have received := read_data_succeeds succeeds
    have same : line.sequenceID = currentId ev line.block := by
      by_contra other
      exact ignored ⟨received.1, received.2, other⟩
    simpa only [if_neg read, if_pos same] using unchanged

theorem write_words_marks (ev : Event) (line : Line) (words : List UInt16) :
    (writeWords ev line words).sequenceID = line.sequenceID := by
  unfold writeWords
  split <;> rfl

theorem send_eap_data_marks (ev : Event) (line : Line) (words : List UInt16) (write : Bool) :
    (sendEapData ev line words write).2.sequenceID = line.sequenceID := by
  unfold sendEapData
  split
  · rfl
  · split
    · exact write_words_marks ev line words
    · obtain ⟨status, failed⟩ := transfer_failed_line ev line
      simp only [failed]

theorem send_eap_data_connected (ev : Event) {line : Line} (words : List UInt16)
    (write : Bool) (connected : line.connectionStatus = .connectOk) :
    (sendEapData ev line words write).1 = write := by
  cases write with
  | true => simp [sendEapData, connected]
  | false => simp [sendEapData, connected]

/-- A poll that takes an id stores it and notes the event, sent and acknowledged or not. -/
theorem sniffing_takes {ev : Event} (report : Report) {line : Line} {outcome : Outcome}
    (taken : Takes ev line outcome) :
    (sniffing ev report line outcome).sequenceID = currentId ev line.block ∧
      (sniffing ev report line outcome).log = line.log ++ [{
        id := currentId ev line.block
        report := report
        sent := if outcome.upstream then report.message else none
        acked := outcome.write }] := by
  obtain ⟨connected, received, other⟩ := taken
  unfold sniffing
  rw [read_data_connected connected received]
  simp only [Bool.true_eq_false, if_false, if_neg other]
  have stored : ({ line with sequenceID := currentId ev line.block } : Line).connectionStatus =
      .connectOk := connected
  rw [send_eap_data_connected ev _ outcome.write stored]
  exact ⟨send_eap_data_marks ev _ _ _, rfl⟩

/-! ### The reports -/

theorem section_list_contains (ev : Event) (event : Json) :
    Contains (sectionList ev event) event := by
  unfold sectionList
  apply Contains.member (List.mem_singleton_self _)
  apply Contains.element (List.mem_singleton_self _)
  apply Contains.member (List.mem_cons_self ..)
  apply Contains.element (List.mem_singleton_self _)
  apply Contains.member (List.mem_cons_self ..)
  apply Contains.element (List.mem_singleton_self _)
  exact Contains.whole event

/-- The message of a due report carries the event, but for a machine yield. -/
theorem event_report_carries {ev : Event} {block : Block}
    (carrying : ev.eventAction ≠ .machineYield) (due : (eventReport ev block).due = true) :
    ∃ message, (eventReport ev block).message = some message ∧
      Contains message (eventReport ev block).event := by
  unfold eventReport at due ⊢
  cases action : ev.eventAction with
  | alarmCode =>
      simp only [action] at due ⊢
      refine ⟨sectionList ev (alarmCodeReport ev block).event, ?_, section_list_contains ev _⟩
      have alarms : (alarmList ev block).isEmpty = false := by
        simpa [alarmCodeReport] using due
      simp [alarmCodeReport, alarms]
  | machineStatus => exact ⟨_, rfl, section_list_contains ev _⟩
  | machineYield => exact absurd action carrying

/-- No taken machine yield is completed: its message is the null value. -/
theorem machine_yield_incomplete {ev : Event} {line : Line} {outcome : Outcome}
    (yield : ev.eventAction = .machineYield) (taken : Takes ev line outcome) :
    ∃ entry, (sniffingPlcEvent ev line outcome).log = line.log ++ [entry] ∧
      ¬ Complete entry := by
  rw [sniffing_plc_event_report]
  refine ⟨_, (sniffing_takes _ taken).2, fun complete => ?_⟩
  simp only [eventReport, yield] at complete
  obtain ⟨message, sent, carried⟩ := complete.reported rfl
  cases upstream : outcome.upstream with
  | false => simp [upstream] at sent
  | true =>
      simp only [upstream, if_true, machineYieldReport, Option.some.injEq] at sent
      subst sent
      nomatch carried

/-! ### Runs -/

/-- The last event taken is complete and has the stored id; before the first one the
block does not hold the initial id. -/
structure Invariant (ev : Event) (line : Line) : Prop where
  fresh : line.log = [] → line.sequenceID ≠ currentId ev line.block
  last : ∀ entry, line.log.getLast? = some entry →
    entry.id = line.sequenceID ∧ Complete entry

theorem marked_handled_of_invariant {ev : Event} {line : Line} (invariant : Invariant ev line) :
    MarkedHandled ev line := by
  intro marked
  cases final : line.log.getLast? with
  | none => exact absurd marked (invariant.fresh (List.getLast?_eq_none_iff.mp final))
  | some entry => exact ⟨entry, rfl, invariant.last entry final⟩

theorem invariant_connection {ev : Event} {line : Line} (status : ConnectionStatus)
    (invariant : Invariant ev line) :
    Invariant ev { line with connectionStatus := status } where
  fresh := invariant.fresh
  last := invariant.last

theorem invariant_poll {ev : Event} {line : Line} {outcome : Outcome}
    (invariant : Invariant ev line) (arrives : Arrives ev line (.poll outcome)) :
    Invariant ev (sniffingPlcEvent ev line outcome) := by
  rw [sniffing_plc_event_report]
  by_cases taken : Takes ev line outcome
  · obtain ⟨carrying, upstream, write⟩ := arrives taken
    obtain ⟨stored, noted⟩ := sniffing_takes (eventReport ev line.block) taken
    constructor
    · intro empty
      simp [noted] at empty
    · intro entry final
      rw [noted, List.getLast?_concat, Option.some.injEq] at final
      subst final
      refine ⟨stored.symm, fun due => ?_, write⟩
      simpa only [upstream due, if_true] using event_report_carries carrying due
  · obtain ⟨status, unchanged⟩ := sniffing_ignores (eventReport ev line.block) taken
    rw [unchanged]
    exact invariant_connection status invariant

theorem invariant_step {ev : Event} {line next : Line} {happening : Happening}
    (invariant : Invariant ev line) (arrives : Arrives ev line happening)
    (taken : step ev line happening = some next) : Invariant ev next := by
  cases happening with
  | plcWrites block =>
      cases taken
      exact ⟨arrives, invariant.last⟩
  | poll outcome =>
      cases taken
      exact invariant_poll invariant arrives
  | reconnect connected =>
      cases taken
      unfold onReconnect
      split
      · exact invariant_connection .connectOk invariant
      · exact invariant

theorem invariant_start {ev : Event} {block : Block} (other : currentId ev block ≠ 0xFFFF) :
    Invariant ev (Line.start block) where
  fresh := fun _ => other.symm
  last := fun _ final => nomatch final

/-- In a run whose events are all reported and acknowledged when their ids are taken,
the handler never ignores an event that it has not completed. -/
theorem marked_handled_of_arrives {ev : Event} {block : Block} {happenings : List Happening}
    (other : currentId ev block ≠ 0xFFFF)
    (arrives : Guarded (step ev) (Arrives ev) (Line.start block) happenings) :
    Always (step ev) (MarkedHandled ev) (Line.start block) happenings := by
  have initial := invariant_start other
  have keeps (line : Line) (happening : Happening) (next : Line)
      (invariant : Invariant ev line) (guard : Arrives ev line happening)
      (taken : step ev line happening = some next) :
      Invariant ev next ∧ MarkedHandled ev next := by
    have kept := invariant_step invariant guard taken
    exact ⟨kept, marked_handled_of_invariant kept⟩
  exact ⟨marked_handled_of_invariant initial, each_step_of_guarded keeps initial arrives⟩

/-! ### A machine status -/

def statusEvent : Event where
  eventAction := .machineStatus
  eventName := "MachineStatus"
  plcEventAddr := "1000"
  eapEventAddr := "1100"
  eapDataSize := 3
  flag := "DM"
  machineContex :=
    { protocol := .fins, sectionName := "Line", machineName := "Machine", wordSwap := true,
      intSwap := false, plcAlarmCodeList := fun _ => none }

def statusBlock : Block := fun index => if index = 0 then 0x0500 else 0

theorem status_marked_handled :
    currentId statusEvent statusBlock ≠ 0xFFFF ∧
      Always (step statusEvent) (MarkedHandled statusEvent) (Line.start statusBlock)
        [.reconnect true, .poll { read := true, upstream := true, write := true }] := by
  have other : currentId statusEvent statusBlock ≠ 0xFFFF := by decide
  refine ⟨other, marked_handled_of_arrives other ?_⟩
  intro connected taken
  cases taken
  refine ⟨trivial, fun polled taken => ?_⟩
  exact ⟨fun _ => ⟨by decide, fun _ => rfl, rfl⟩, trivial⟩

/-- The acknowledgement fails, and the id is stored all the same. -/
theorem unacknowledged_status_marked :
    ¬ Always (step statusEvent) (MarkedHandled statusEvent) (Line.start statusBlock)
        [.reconnect true, .poll { read := true, upstream := true, write := false }] := by
  intro always
  obtain ⟨entry, final, -, complete⟩ := ((always.2 _ rfl).2 _ rfl).1 (by decide)
  have lost : entry.acked = false := by
    rw [← Option.some.inj final]
    decide
  rw [complete.acknowledged] at lost
  exact absurd lost (by decide)

end DevHub.HandledEvent
