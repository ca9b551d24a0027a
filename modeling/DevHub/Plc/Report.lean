import DevHub.Library.StdMap
import DevHub.Plc.Handled
import Mathlib.Data.String.Basic

/-!
The text of an upstream report, read back. A handler builds six values from the inside
out, each by assignment of a copy, and passes the text of `root` to `UpdateEvent`. The
writer and the reader of JsonCpp are a parameter; reading a text back gives the value
up to the type of its integers.
-/

namespace DevHub.Report

open HandledEvent PlcEvent

set_option autoImplicit false

/-! ### JsonCpp -/

/-- `value[name] = member`; there is no result where JsonCpp throws its type error. -/
def set (value : Json) (name : String) (member : Json) : Option Json :=
  match value with
  | .null => some (.object [(name, member)])
  | .object members => some (.object (StdMap.insertEntry name member members))
  | _ => none

def append (value element : Json) : Option Json :=
  match value with
  | .null => some (.array [element])
  | .array elements => some (.array (elements ++ [element]))
  | _ => none

structure JsonText where
  toStyledString : Json → String
  parse : String → Option Json

mutual

def plain : Json → Json
  | .uint value => .int value
  | .array elements => .array (plainElements elements)
  | .object members => .object (plainMembers members)
  | .null => .null
  | .int value => .int value
  | .real value => .real value
  | .string value => .string value
  | .bool value => .bool value

def plainElements : List Json → List Json
  | [] => []
  | value :: rest => plain value :: plainElements rest

def plainMembers : List (String × Json) → List (String × Json)
  | [] => []
  | (name, value) :: rest => (name, plain value) :: plainMembers rest

end

/-- The text of the value parses to a value that differs at most in the types of its
integers. -/
def JsonText.ReadsBack (text : JsonText) (value : Json) : Prop :=
  ∃ document, text.parse (text.toStyledString value) = some document ∧ plain document = plain value

/-! ### The handlers -/

/-- `section["Name"]`, `machine["Name"]`, `event["Name"]` and `event["Action"]`. -/
structure Parts where
  lineSection : Json
  machine : Json
  event : Json

def names (ev : Event) (action : String) : Option Parts := do
  let lineSection ← set .null "Name" (.string ev.machineContex.sectionName)
  let machine ← set .null "Name" (.string ev.machineContex.machineName)
  let event ← set .null "Name" (.string ev.eventName)
  let event ← set event "Action" (.string action)
  some { lineSection := lineSection, machine := machine, event := event }

/-- From `arrayEvents.append(event)` to `root["SectionList"] = arraySections`. -/
def assemble (parts : Parts) : Option Json := do
  let arrayEvents ← append .null parts.event
  let machine ← set parts.machine "EventList" arrayEvents
  let arrayMachines ← append .null machine
  let lineSection ← set parts.lineSection "MachineList" arrayMachines
  let arraySections ← append .null lineSection
  set .null "SectionList" arraySections

def alarmRoot (ev : Event) (action : String) (alarms : List Json) : Option Json := do
  let parts ← names ev action
  if alarms.isEmpty then none
  else
    let event ← set parts.event "AlarmList" (.array alarms)
    assemble { parts with event := event }

def alarmCodeRoot (ev : Event) (action : String) (block : Block) : Option Json :=
  alarmRoot ev action (alarmList ev block)

def machineStatusRoot (ev : Event) (action : String) (block : Block) : Option Json := do
  let parts ← names ev action
  let event ← set parts.event "MachineStateCode"
    (.int (bLEndianUshort (block 2) ev.machineContex.wordSwap).toNat)
  assemble { parts with event := event }

/-- Nothing is assigned to `root`. -/
def machineYieldRoot (ev : Event) (action : String) (block : Block) : Option Json := do
  let parts ← names ev action
  let event ← set parts.event "Input"
    (.uint (bLEndianIntSwap (doubleWord block 2) ev.machineContex.intSwap).toNat)
  let event ← set event "Output"
    (.uint (bLEndianIntSwap (doubleWord block 4) ev.machineContex.intSwap).toNat)
  let event ← set event "Yield" (.int (bLEndianUshort (block 6) ev.machineContex.wordSwap).toNat)
  let _ ← set event "Oee" (.int (bLEndianUshort (block 7) ev.machineContex.wordSwap).toNat)
  some .null

/-- The value whose text the handler passes to `UpdateEvent` for a block with a new id,
if it passes one. The text of `m_eventAction` is any here, though `BuildEvent` makes the
handler for one text only. -/
def root (ev : Event) (action : String) : Block → Option Json :=
  match ev.eventAction with
  | .alarmCode => alarmCodeRoot ev action
  | .machineStatus => machineStatusRoot ev action
  | .machineYield => machineYieldRoot ev action

/-- The text that a handler passes for a block, with `sequenceID` as the stored id. -/
def updateEvent (text : JsonText) (ev : Event) (action : String) (sequenceID : UInt16)
    (block : Block) : Option String :=
  if sequenceID = currentId ev block then none
  else (root ev action block).map text.toStyledString

/-! ### What the receiver reads -/

/-- `document["SectionList"][0]`. -/
def sectionOf (document : Json) : Option Json :=
  (document.member "SectionList").bind (Json.element · 0)

def machineOf (document : Json) : Option Json :=
  ((sectionOf document).bind (Json.member · "MachineList")).bind (Json.element · 0)

def eventOf (document : Json) : Option Json :=
  ((machineOf document).bind (Json.member · "EventList")).bind (Json.element · 0)

def HasPayload (ev : Event) (block : Block) (event : Json) : Prop :=
  match ev.eventAction with
  | .alarmCode => (event.member "AlarmList").map plain = some (.array (alarmList ev block))
  | .machineStatus =>
      (event.member "MachineStateCode").bind Json.asUInt =
        some (bLEndianUshort (block 2) ev.machineContex.wordSwap).toNat
  | .machineYield =>
      (event.member "Input").bind Json.asUInt =
          some (bLEndianIntSwap (doubleWord block 2) ev.machineContex.intSwap).toNat ∧
        (event.member "Output").bind Json.asUInt =
          some (bLEndianIntSwap (doubleWord block 4) ev.machineContex.intSwap).toNat ∧
        (event.member "Yield").bind Json.asUInt =
          some (bLEndianUshort (block 6) ev.machineContex.wordSwap).toNat ∧
        (event.member "Oee").bind Json.asUInt =
          some (bLEndianUshort (block 7) ev.machineContex.wordSwap).toNat

structure Complete (ev : Event) (action : String) (block : Block) (document : Json) : Prop where
  sectionName : (sectionOf document).bind (Json.member · "Name") =
    some (.string ev.machineContex.sectionName)
  machineName : (machineOf document).bind (Json.member · "Name") =
    some (.string ev.machineContex.machineName)
  eventName : (eventOf document).bind (Json.member · "Name") = some (.string ev.eventName)
  eventAction : (eventOf document).bind (Json.member · "Action") = some (.string action)
  payload : ∃ event, eventOf document = some event ∧ HasPayload ev block event

/-! ### Assembly -/

theorem set_null (name : String) (member : Json) :
    set .null name member = some (.object [(name, member)]) := rfl

theorem set_before (name other : String) (before : name < other) (value kept : Json)
    (rest : List (String × Json)) :
    set (.object ((other, kept) :: rest)) name value =
      some (.object ((name, value) :: (other, kept) :: rest)) := by
  simp only [set, StdMap.insertEntry, if_pos before]

theorem set_between (first name other : String) (above : first < name) (before : name < other)
    (value head kept : Json) (rest : List (String × Json)) :
    set (.object ((first, head) :: (other, kept) :: rest)) name value =
      some (.object ((first, head) :: (name, value) :: (other, kept) :: rest)) := by
  simp only [set, StdMap.insertEntry, if_neg (lt_asymm above), if_neg (ne_of_gt above),
    if_pos before]

theorem names_parts (ev : Event) (action : String) :
    names ev action = some {
      lineSection := .object [("Name", .string ev.machineContex.sectionName)]
      machine := .object [("Name", .string ev.machineContex.machineName)]
      event := .object [("Action", .string action), ("Name", .string ev.eventName)] } := by
  have event := set_before "Action" "Name" (by decide) (.string action) (.string ev.eventName) []
  simp only [names, Option.bind_eq_bind, set_null, Option.bind_some, event]

theorem assemble_section_list (ev : Event) (event : Json) :
    assemble {
      lineSection := .object [("Name", .string ev.machineContex.sectionName)]
      machine := .object [("Name", .string ev.machineContex.machineName)]
      event := event } = some (sectionList ev event) := by
  have machine (name : Json) := set_before "EventList" "Name" (by decide) (.array [event]) name []
  have lineSection (machines name : Json) :=
    set_before "MachineList" "Name" (by decide) machines name []
  simp only [assemble, append, Option.bind_eq_bind, Option.bind_some, machine, lineSection]
  rfl

def alarmEvent (ev : Event) (action : String) (alarms : List Json) : Json :=
  .object [("Action", .string action), ("AlarmList", .array alarms), ("Name", .string ev.eventName)]

theorem alarm_root (ev : Event) (action : String) (alarms : List Json) :
    alarmRoot ev action alarms =
      if alarms.isEmpty then none else some (sectionList ev (alarmEvent ev action alarms)) := by
  have event := set_between "Action" "AlarmList" "Name" (by decide) (by decide)
    (.array alarms) (.string action) (.string ev.eventName) []
  simp only [alarmRoot, names_parts, Option.bind_eq_bind, Option.bind_some, event,
    assemble_section_list]
  rfl

theorem machine_status_root (ev : Event) (action : String) (block : Block) :
    machineStatusRoot ev action block =
      some (sectionList ev (.object [("Action", .string action),
        ("MachineStateCode", .int (bLEndianUshort (block 2) ev.machineContex.wordSwap).toNat),
        ("Name", .string ev.eventName)])) := by
  have event (value : Json) := set_between "Action" "MachineStateCode" "Name" (by decide)
    (by decide) value (.string action) (.string ev.eventName) []
  simp only [machineStatusRoot, names_parts, Option.bind_eq_bind, Option.bind_some, event,
    assemble_section_list]

/-- The four assignments to the event of a yield succeed, and change nothing of `root`. -/
theorem machine_yield_root (ev : Event) (action : String) (block : Block) :
    machineYieldRoot ev action block = some .null := by
  simp only [machineYieldRoot, names_parts, Option.bind_eq_bind, Option.bind_some, set]

/-- The messages of the polls are the values that the handlers build. -/
theorem event_report_root (ev : Event) (block : Block) :
    (eventReport ev block).message = root ev ev.eventAction.name block := by
  cases action : ev.eventAction with
  | alarmCode =>
      simp only [eventReport, root, action, alarmCodeReport, alarmCodeRoot, alarm_root]
      rfl
  | machineStatus =>
      simp only [eventReport, root, action, machineStatusReport, machine_status_root]
  | machineYield =>
      simp only [eventReport, root, action, machineYieldReport, machine_yield_root]

/-! ### Reading back -/

theorem plain_members_find (members : List (String × Json)) (name : String) :
    (plainMembers members).find? (fun entry => entry.1 = name) =
      (members.find? fun entry => entry.1 = name).map fun entry => (entry.1, plain entry.2) := by
  induction members with
  | nil => rfl
  | cons entry rest ih =>
      by_cases same : entry.1 = name
      · simp [plainMembers, same]
      · simp [plainMembers, same, ih]

theorem plain_member (value : Json) (name : String) :
    (plain value).member name = (value.member name).map plain := by
  cases value with
  | object members =>
      simp only [plain, Json.member, plain_members_find]
      cases members.find? fun entry => entry.1 = name with
      | none => rfl
      | some entry => rfl
  | _ => rfl

theorem plain_elements_get (elements : List Json) (index : Nat) :
    (plainElements elements).getD index .null = plain (elements.getD index .null) := by
  induction elements generalizing index with
  | nil => rfl
  | cons value rest ih =>
      cases index with
      | zero => rfl
      | succ index => exact ih index

theorem plain_element (value : Json) (index : Nat) :
    (plain value).element index = (value.element index).map plain := by
  cases value with
  | array elements => exact congrArg some (plain_elements_get elements index)
  | _ => rfl

theorem plain_text {value : Json} {text : String} (same : plain value = .string text) :
    value = .string text := by
  cases value with
  | string other => exact same
  | _ => cases same

theorem plain_section (document : Json) :
    sectionOf (plain document) = (sectionOf document).map plain := by
  unfold sectionOf
  rw [plain_member]
  cases document.member "SectionList" with
  | none => rfl
  | some value => exact plain_element value 0

theorem plain_nested (outer : Option Json) (name : String) :
    ((outer.map plain).bind (Json.member · name)).bind (Json.element · 0) =
      ((outer.bind (Json.member · name)).bind (Json.element · 0)).map plain := by
  cases outer with
  | none => rfl
  | some value =>
      simp only [Option.map_some, Option.bind_some, plain_member]
      cases value.member name with
      | none => rfl
      | some inner => exact plain_element inner 0

theorem plain_machine (document : Json) :
    machineOf (plain document) = (machineOf document).map plain := by
  unfold machineOf
  rw [plain_section]
  exact plain_nested _ _

theorem plain_event (document : Json) :
    eventOf (plain document) = (eventOf document).map plain := by
  unfold eventOf
  rw [plain_machine]
  exact plain_nested _ _

theorem text_read_back {outer : Option Json} {name text : String}
    (normal : (outer.map plain).bind (Json.member · name) = some (.string text)) :
    outer.bind (Json.member · name) = some (.string text) := by
  cases outer with
  | none => cases normal
  | some value =>
      simp only [Option.map_some, Option.bind_some, plain_member] at normal
      obtain ⟨inner, found, same⟩ := Option.map_eq_some_iff.mp normal
      rw [Option.bind_some, found, plain_text same]

theorem plain_number (value : Json) : (plain value).asUInt = value.asUInt := by
  cases value with
  | uint number =>
      simp only [plain, Json.asUInt]
      by_cases small : number ≤ Json.maxUInt
      · simp [small]
      · simp [small]
  | _ => rfl

theorem number_read_back {outer : Option Json} {value : Json}
    (normal : outer.map plain = some value) : outer.bind Json.asUInt = value.asUInt := by
  obtain ⟨inner, found, same⟩ := Option.map_eq_some_iff.mp normal
  rw [found, Option.bind_some, ← same, plain_number]

theorem word_as_uint (word : UInt16) : (Json.int word.toNat).asUInt = some word.toNat := by
  have bound : word.toNat < 2 ^ 16 := word.toNat_lt
  have range : 0 ≤ (word.toNat : Int) ∧ (word.toNat : Int) ≤ Json.maxUInt := by
    unfold Json.maxUInt
    omega
  rw [Json.asUInt, if_pos range]
  rfl

theorem plain_elements_fixed {elements : List Json}
    (fixed : ∀ value ∈ elements, plain value = value) : plainElements elements = elements := by
  induction elements with
  | nil => rfl
  | cons value rest ih =>
      have tail := ih fun other member => fixed other (List.mem_cons_of_mem value member)
      rw [plainElements, fixed value List.mem_cons_self, tail]

theorem alarm_list_plain (ev : Event) (block : Block) :
    plainElements (alarmList ev block) = alarmList ev block := by
  apply plain_elements_fixed
  intro value member
  simp only [alarmList, List.mem_flatMap] at member
  obtain ⟨i, -, j, -, member⟩ := member
  split at member
  · split at member
    · split at member
      · rw [List.mem_singleton.mp member]
        rfl
      · cases member
    · cases member
  · cases member

/-- Where the receiver finds the event of a `sectionList`, and the names around it. -/
theorem section_list_read_back {ev : Event} {event document : Json}
    (same : plain document = plain (sectionList ev event)) :
    (sectionOf document).bind (Json.member · "Name") =
        some (.string ev.machineContex.sectionName) ∧
      (machineOf document).bind (Json.member · "Name") =
        some (.string ev.machineContex.machineName) ∧
      ∃ found, eventOf document = some found ∧ plain found = plain event := by
  have lineSection : (sectionOf (plain document)).bind (Json.member · "Name") =
      some (.string ev.machineContex.sectionName) := by
    rw [same]
    rfl
  have machine : (machineOf (plain document)).bind (Json.member · "Name") =
      some (.string ev.machineContex.machineName) := by
    rw [same]
    rfl
  have inner : eventOf (plain document) = some (plain event) := by
    rw [same]
    rfl
  rw [plain_section] at lineSection
  rw [plain_machine] at machine
  rw [plain_event] at inner
  exact ⟨text_read_back lineSection, text_read_back machine, Option.map_eq_some_iff.mp inner⟩

theorem event_read_back {ev : Event} {action : String} {block : Block} {event document : Json}
    (same : plain document = plain (sectionList ev event))
    (name : (plain event).member "Name" = some (.string ev.eventName))
    (acted : (plain event).member "Action" = some (.string action))
    (payload : ∀ found, plain found = plain event → HasPayload ev block found) :
    Complete ev action block document := by
  obtain ⟨lineSection, machine, found, inner, normal⟩ := section_list_read_back same
  have text (member : String) (value : String)
      (known : (plain event).member member = some (.string value)) :
      (eventOf document).bind (Json.member · member) = some (.string value) := by
    apply text_read_back
    rw [inner, Option.map_some, Option.bind_some, normal]
    exact known
  constructor
  · exact lineSection
  · exact machine
  · exact text "Name" ev.eventName name
  · exact text "Action" action acted
  · exact ⟨found, inner, payload found normal⟩

theorem root_complete {ev : Event} {action : String} {block : Block} {value document : Json}
    (carrying : ev.eventAction ≠ .machineYield) (built : root ev action block = some value)
    (same : plain document = plain value) : Complete ev action block document := by
  unfold root at built
  cases handler : ev.eventAction with
  | alarmCode =>
      simp only [handler, alarmCodeRoot, alarm_root] at built
      split at built
      · cases built
      · cases built
        apply event_read_back same rfl rfl
        intro found normal
        unfold HasPayload
        simp only [handler]
        rw [← plain_member, normal]
        exact congrArg (fun alarms => some (Json.array alarms)) (alarm_list_plain ev block)
  | machineStatus =>
      simp only [handler, machine_status_root] at built
      cases built
      apply event_read_back same rfl rfl
      intro found normal
      have code : (found.member "MachineStateCode").map plain =
          some (.int (bLEndianUshort (block 2) ev.machineContex.wordSwap).toNat) := by
        rw [← plain_member, normal]
        rfl
      unfold HasPayload
      simp only [handler]
      exact (number_read_back code).trans (word_as_uint _)
  | machineYield => exact absurd handler carrying

theorem null_incomplete {ev : Event} {action : String} {block : Block} {document : Json}
    (same : plain document = plain .null) : ¬ Complete ev action block document := by
  intro complete
  have name := complete.sectionName
  cases document with
  | null => cases name
  | _ => cases same

/-! ### Every report -/

def ReportComplete (text : JsonText) (ev : Event) (action : String) (sequenceID : UInt16)
    (block : Block) : Prop :=
  ∀ message, updateEvent text ev action sequenceID block = some message →
    ∃ document, text.parse message = some document ∧ Complete ev action block document

/-- A report for a new id, read back, is complete exactly when it is not of a machine yield. -/
theorem report_complete_iff (text : JsonText) (ev : Event) (action : String)
    (sequenceID : UInt16) (block : Block) (fresh : sequenceID ≠ currentId ev block)
    (reads : ∀ value, root ev action block = some value → text.ReadsBack value) :
    ReportComplete text ev action sequenceID block ↔ ev.eventAction ≠ .machineYield := by
  have passed : updateEvent text ev action sequenceID block =
      (root ev action block).map text.toStyledString := by
    rw [updateEvent, if_neg fresh]
  constructor
  · intro complete yield
    have built : root ev action block = some .null := by
      simp only [root, yield, machine_yield_root]
    obtain ⟨document, parsed, same⟩ := reads .null built
    have sent : updateEvent text ev action sequenceID block = some (text.toStyledString .null) := by
      rw [passed, built, Option.map_some]
    obtain ⟨other, also, whole⟩ := complete _ sent
    cases parsed.symm.trans also
    exact null_incomplete same whole
  · intro carrying message sent
    rw [passed] at sent
    obtain ⟨value, built, written⟩ := Option.map_eq_some_iff.mp sent
    obtain ⟨document, parsed, same⟩ := reads value built
    exact ⟨document, written ▸ parsed, root_complete carrying built same⟩

def statusText : String :=
  "\x7b\n   \"SectionList\" : [\n      \x7b\n         \"MachineList\" : [\n            \x7b\n" ++
  "               \"EventList\" : [\n                  \x7b\n" ++
  "                     \"Action\" : \"MachineStatus\",\n" ++
  "                     \"MachineStateCode\" : 0,\n" ++
  "                     \"Name\" : \"MachineStatus\"\n                  \x7d\n" ++
  "               ],\n               \"Name\" : \"Machine\"\n            \x7d\n" ++
  "         ],\n         \"Name\" : \"Line\"\n      \x7d\n   ]\n\x7d\n"

def textOf (message : String) (value : Json) : JsonText where
  toStyledString := fun _ => message
  parse := fun _ => some value

theorem status_report_complete :
    ∃ value, root statusEvent "MachineStatus" statusBlock = some value ∧
      (ReportComplete (textOf statusText value) statusEvent "MachineStatus" 0xFFFF statusBlock ↔
        statusEvent.eventAction ≠ .machineYield) := by
  have built := machine_status_root statusEvent "MachineStatus" statusBlock
  refine ⟨_, built, report_complete_iff _ statusEvent _ _ _ (by decide) ?_⟩
  intro value same
  cases built.symm.trans same
  exact ⟨_, rfl, rfl⟩

def yieldEvent : Event := { statusEvent with eventAction := .machineYield }

/-- A machine yield sends the text of a null value. -/
theorem yield_report_empty :
    (textOf "null\n" .null).ReadsBack .null ∧
      ¬ ReportComplete (textOf "null\n" .null) yieldEvent "MachineYield" 0xFFFF statusBlock := by
  refine ⟨⟨.null, rfl, rfl⟩, fun complete => ?_⟩
  have sent : updateEvent (textOf "null\n" .null) yieldEvent "MachineYield" 0xFFFF statusBlock =
      some "null\n" := by
    rw [updateEvent, if_neg (by decide)]
    exact congrArg (Option.map _) (machine_yield_root yieldEvent "MachineYield" statusBlock)
  obtain ⟨document, parsed, whole⟩ := complete _ sent
  cases parsed
  exact null_incomplete rfl whole

end DevHub.Report
