import DevHub.Plc.Station

/-!
What a line document says of its sections, machines, stations, events and alarms, read off
the tree by the names on the way to each element, and the same of the profile that the loader
returns. A profile that was loaded at all shows what the elements below its last `LineSections`
say, each `Machines` replacing the one before it.
-/

namespace DevHub.Outline

open Checks XmlTree Station

set_option autoImplicit false

structure EventOutline where
  name : String
  action : String
  flag : String
  plcBlockAddress : String
  eapBlockAddress : String
  deriving DecidableEq

structure AlarmOutline where
  name : String
  wordOffset : Option Nat
  bitOffset : Option Nat
  deriving DecidableEq

structure StationOutline where
  name : String
  events : List EventOutline
  deriving DecidableEq

structure MachineOutline where
  name : String
  events : List EventOutline
  alarms : List AlarmOutline
  stations : List StationOutline
  deriving DecidableEq

structure SectionOutline where
  name : String
  machines : Option (List MachineOutline)
  deriving DecidableEq

/-! ### The document -/

def given (name : String) (element : Element) : Option String :=
  (named name element.children).getLast?.bind Element.getText

def eventIn (element : Element) : EventOutline where
  name := (given "Name" element).getD ""
  action := (given "Action" element).getD ""
  flag := (given "Flag" element).getD ""
  plcBlockAddress := (given "PlcBlockAddress" element).getD ""
  eapBlockAddress := (given "EapBlockAddress" element).getD ""

def eventsIn (found : List Element) : List EventOutline :=
  (found.filter fun element => given "Properties" element ≠ some "NoPlcEvent").map eventIn

def alarmIn (element : Element) : AlarmOutline where
  name := (given "Name" element).getD ""
  wordOffset := (given "WordOffset" element).map strtoul
  bitOffset := (given "BitOffset" element).map strtoul

def stationIn (element : Element) : StationOutline where
  name := (given "Name" element).getD ""
  events := eventsIn (path ["Events", "StationEventProfile"] element)

def machineIn (element : Element) : MachineOutline where
  name := (given "Name" element).getD ""
  events := eventsIn (path ["MainDeviceProfile", "Events", "StationEventProfile"] element)
  alarms := (path ["MainDeviceProfile", "AlarmCodeList", "PlcAlarmInfo"] element).map alarmIn
  stations := (path ["Stations", "LineStation"] element).map stationIn

def sectionIn (element : Element) : SectionOutline where
  name := (given "Name" element).getD ""
  machines := some ((path ["Machines", "LineMachine"] element).map machineIn)

/-- The reference extraction: everything below the root, level by level. -/
def lineIn (root : Element) : List SectionOutline :=
  (path ["LineSections", "LineSection"] root).map sectionIn

/-! ### The profile -/

def eventOutline (event : StationEventProfile) : EventOutline where
  name := event.name
  action := event.action
  flag := event.flag
  plcBlockAddress := event.plcBlockAddress
  eapBlockAddress := event.eapBlockAddress

def alarmOutline (alarm : PlcAlarmInfo) : AlarmOutline where
  name := alarm.name
  wordOffset := alarm.wordOffset
  bitOffset := alarm.bitOffset

def stationOutline (station : LineStation) : StationOutline where
  name := station.name
  events := station.events.map eventOutline

def machineOutline (lineMachine : LineMachine) : MachineOutline where
  name := lineMachine.name
  events := lineMachine.mainDeviceProfile.mainEvents.map eventOutline
  alarms := lineMachine.mainDeviceProfile.alarmCodeList.map alarmOutline
  stations := lineMachine.stations.map stationOutline

def sectionOutline (sect : LineSection) : SectionOutline where
  name := sect.name
  machines := sect.machines.map (List.map machineOutline)

/-- `none` where the list of sections was never assigned. -/
def lineOutline (design : LineStationDesiginProfile) : Option (List SectionOutline) :=
  design.lineSections.map (List.map sectionOutline)

/-! ### Texts and lists of a record -/

section Members

variable {σ α : Type} {fields : List (String × Entry σ)} {field : Entry σ} {state last : σ}
  {element : Element}

/-- A member that only the text of one name sets has the text that was given last. -/
theorem read_given (get : σ → α) (name : String) (shown : Option String → α)
    {set : σ → String → σ} (found : fields.lookup name = some (.text set))
    (sets : ∀ state value, get (set state value) = shown (some value))
    (others : ∀ entry ∈ fields, entry.1 ≠ name → entry.2.Effect get fun old _ => old)
    (fresh : get state = shown none) (read : readFields fields state element.siblings = .ok last) :
    get last = shown (given name element) := by
  have own : (Entry.text set).Effect get fun _ element => shown element.getText := by
    rw [effect_text_iff]
    intro state element value text
    rw [sets, text]
  rw [read_fields_effect found own others read, fold_last, fresh, named_siblings, given]
  cases (named name element.children).getLast? with
  | none => rfl
  | some final => rfl

/-- A pointer that only the elements of one name set is what is made of the last one. -/
theorem read_last (get : σ → Option α) (name : String) (made : Element → α)
    (found : fields.lookup name = some field)
    (own : field.Effect get fun _ element => some (made element))
    (others : ∀ entry ∈ fields, entry.1 ≠ name → entry.2.Effect get fun old _ => old)
    (fresh : get state = none) {nodes : List Node}
    (read : readFields fields state nodes = .ok last) :
    get last = (named name nodes).getLast?.map made := by
  rw [read_fields_effect found own others read, fold_last, fresh]
  cases (named name nodes).getLast? with
  | none => rfl
  | some final => rfl

theorem read_added (get : σ → List α) (name : String) (added : Element → List α)
    (found : fields.lookup name = some field)
    (own : field.Effect get fun old element => old ++ added element)
    (others : ∀ entry ∈ fields, entry.1 ≠ name → entry.2.Effect get fun old _ => old)
    (read : readFields fields state element.siblings = .ok last) :
    get last = get state ++ (named name element.children).flatMap added := by
  rw [read_fields_effect found own others read, List.foldl_append_eq_append, named_siblings,
    List.flatMap_def]

theorem read_pushed {τ β : Type} {make : Element → Except Null (List τ)} {view : τ → β}
    {added : Element → List β} {name : String} {items made : List τ}
    (makes : ∀ element made, make element = .ok made → made.map view = added element)
    (read : readFields [(name, .made make (· ++ ·))] items element.siblings = .ok made) :
    made.map view = items.map view ++ (named name element.children).flatMap added := by
  apply read_added (List.map view) name added List.lookup_cons_self _ _ read
  · apply made_effect
    intro items element part made
    rw [List.map_append, makes element part made]
  · intro entry member other
    rw [List.mem_singleton.mp member] at other
    exact absurd rfl other

end Members

/-! ### Events and alarms -/

theorem event_read {element : Element} {event : StationEventProfile}
    (read : readFields eventFields .new element.siblings = .ok event) :
    eventOutline event = eventIn element ∧
      event.properties = (given "Properties" element).getD "" := by
  have name := read_given StationEventProfile.name "Name" (fun text => text.getD "") rfl
    (fun _ _ => rfl) (by simp [eventFields, effect_text_iff]) rfl read
  have action := read_given StationEventProfile.action "Action" (fun text => text.getD "") rfl
    (fun _ _ => rfl) (by simp [eventFields, effect_text_iff]) rfl read
  have flag := read_given StationEventProfile.flag "Flag" (fun text => text.getD "") rfl
    (fun _ _ => rfl) (by simp [eventFields, effect_text_iff]) rfl read
  have plcBlockAddress := read_given StationEventProfile.plcBlockAddress "PlcBlockAddress"
    (fun text => text.getD "") rfl (fun _ _ => rfl) (by simp [eventFields, effect_text_iff]) rfl
    read
  have eapBlockAddress := read_given StationEventProfile.eapBlockAddress "EapBlockAddress"
    (fun text => text.getD "") rfl (fun _ _ => rfl) (by simp [eventFields, effect_text_iff]) rfl
    read
  have properties := read_given StationEventProfile.properties "Properties"
    (fun text => text.getD "") rfl (fun _ _ => rfl) (by simp [eventFields, effect_text_iff]) rfl
    read
  refine ⟨?_, properties⟩
  rw [eventOutline, name, action, flag, plcBlockAddress, eapBlockAddress, eventIn]

theorem make_event_outline {element : Element} {made : List StationEventProfile}
    (taken : makeEvent element = .ok made) : made.map eventOutline = eventsIn [element] := by
  rw [makeEvent] at taken
  obtain ⟨event, read, rfl⟩ := map_ok taken
  obtain ⟨outline, properties⟩ := event_read (read_elements_read read)
  have dropped : event.properties = "NoPlcEvent" ↔
      given "Properties" element = some "NoPlcEvent" := by
    rw [properties]
    cases given "Properties" element with
    | none => simp
    | some text => simp
  by_cases plain : event.properties = "NoPlcEvent"
  · simp [eventsIn, plain, dropped.mp plain]
  · have kept : given "Properties" element ≠ some "NoPlcEvent" := fun same =>
      plain (dropped.mpr same)
    simp [eventsIn, plain, kept, outline]

theorem alarm_read {element : Element} {alarm : PlcAlarmInfo}
    (read : readFields alarmFields .new element.siblings = .ok alarm) :
    alarmOutline alarm = alarmIn element := by
  have name := read_given PlcAlarmInfo.name "Name" (fun text => text.getD "") rfl
    (fun _ _ => rfl) (by simp [alarmFields, effect_text_iff]) rfl read
  have wordOffset := read_given PlcAlarmInfo.wordOffset "WordOffset" (Option.map strtoul) rfl
    (fun _ _ => rfl) (by simp [alarmFields, effect_text_iff]) rfl read
  have bitOffset := read_given PlcAlarmInfo.bitOffset "BitOffset" (Option.map strtoul) rfl
    (fun _ _ => rfl) (by simp [alarmFields, effect_text_iff]) rfl read
  rw [alarmOutline, name, wordOffset, bitOffset, alarmIn]

theorem make_alarm_outline {element : Element} {made : List PlcAlarmInfo}
    (taken : makeAlarm element = .ok made) : made.map alarmOutline = [alarmIn element] := by
  rw [makeAlarm] at taken
  obtain ⟨alarm, read, rfl⟩ := map_ok taken
  rw [List.map_singleton, alarm_read (read_elements_read read)]

theorem events_in_flat {α : Type} (found : List α) (inner : α → List Element) :
    eventsIn (found.flatMap inner) = found.flatMap fun one => eventsIn (inner one) := by
  rw [eventsIn, List.filter_flatMap, List.map_flatMap]
  rfl

theorem events_read {element : Element} {events last : List StationEventProfile}
    (read : readFields eventsFields events element.siblings = .ok last) :
    last.map eventOutline =
      events.map eventOutline ++ eventsIn (named "StationEventProfile" element.children) := by
  rw [read_pushed (fun _ _ => make_event_outline) read, ← events_in_flat,
    List.flatMap_singleton']

theorem alarms_read {element : Element} {alarms last : List PlcAlarmInfo}
    (read : readFields alarmsFields alarms element.siblings = .ok last) :
    last.map alarmOutline =
      alarms.map alarmOutline ++ (named "PlcAlarmInfo" element.children).map alarmIn := by
  rw [read_pushed (fun _ _ => make_alarm_outline) read,
    ← List.map_eq_flatMap]

/-! ### Machines -/

theorem device_read {element : Element} {device last : MainDeviceProfile}
    (read : readFields mainDeviceFields device element.siblings = .ok last) :
    last.mainEvents.map eventOutline = device.mainEvents.map eventOutline ++
        eventsIn (path ["Events", "StationEventProfile"] element) ∧
      last.alarmCodeList.map alarmOutline = device.alarmCodeList.map alarmOutline ++
        (path ["AlarmCodeList", "PlcAlarmInfo"] element).map alarmIn := by
  have events := read_added (fun device : MainDeviceProfile => device.mainEvents.map eventOutline)
    "Events" (fun element => eventsIn (named "StationEventProfile" element.children)) rfl
    (inside_effect fun _ _ _ => events_read)
    (by simp [mainDeviceFields, effect_text_iff, inside_effect]) read
  have alarms := read_added (fun device : MainDeviceProfile =>
      device.alarmCodeList.map alarmOutline) "AlarmCodeList"
    (fun element => (named "PlcAlarmInfo" element.children).map alarmIn) rfl
    (inside_effect fun _ _ _ => alarms_read)
    (by simp [mainDeviceFields, effect_text_iff, inside_effect]) read
  constructor
  · rw [events, path]
    simp [events_in_flat]
  · rw [alarms, path]
    simp [List.map_flatMap]

theorem station_read {element : Element} {station : LineStation}
    (read : readFields lineStationFields .new element.siblings = .ok station) :
    stationOutline station = stationIn element := by
  have name := read_given LineStation.name "Name" (fun text => text.getD "") rfl
    (fun _ _ => rfl) (by simp [lineStationFields, effect_text_iff, inside_effect]) rfl read
  have events := read_added (fun station : LineStation => station.events.map eventOutline)
    "Events" (fun element => eventsIn (named "StationEventProfile" element.children)) rfl
    (inside_effect fun _ _ _ => events_read) (by simp [lineStationFields, effect_text_iff]) read
  rw [stationOutline, name, events, stationIn, path]
  simp [events_in_flat, LineStation.new]

theorem make_station_outline {element : Element} {made : List LineStation}
    (taken : makeLineStation element = .ok made) :
    made.map stationOutline = [stationIn element] := by
  rw [makeLineStation] at taken
  obtain ⟨station, read, rfl⟩ := map_ok taken
  rw [List.map_singleton, station_read read]

theorem stations_read {element : Element} {stations last : List LineStation}
    (read : readFields stationsFields stations element.siblings = .ok last) :
    last.map stationOutline =
      stations.map stationOutline ++ (named "LineStation" element.children).map stationIn := by
  rw [read_pushed (fun _ _ => make_station_outline) read, ← List.map_eq_flatMap]

theorem machine_read {element : Element} {lineMachine : LineMachine}
    (read : readFields lineMachineFields .new element.siblings = .ok lineMachine) :
    machineOutline lineMachine = machineIn element := by
  have name := read_given LineMachine.name "Name" (fun text => text.getD "") rfl
    (fun _ _ => rfl) (by simp [lineMachineFields, effect_text_iff, inside_effect]) rfl read
  have events := read_added
    (fun machine : LineMachine => machine.mainDeviceProfile.mainEvents.map eventOutline)
    "MainDeviceProfile" (fun element => eventsIn (path ["Events", "StationEventProfile"] element))
    rfl
    (inside_effect fun _ _ _ inner => (device_read inner).1)
    (by simp [lineMachineFields, effect_text_iff, inside_effect]) read
  have alarms := read_added
    (fun machine : LineMachine => machine.mainDeviceProfile.alarmCodeList.map alarmOutline)
    "MainDeviceProfile"
    (fun element => (path ["AlarmCodeList", "PlcAlarmInfo"] element).map alarmIn) rfl
    (inside_effect fun _ _ _ inner => (device_read inner).2)
    (by simp [lineMachineFields, effect_text_iff, inside_effect]) read
  have stations := read_added (fun machine : LineMachine => machine.stations.map stationOutline)
    "Stations" (fun element => (named "LineStation" element.children).map stationIn) rfl
    (inside_effect fun _ _ _ => stations_read)
    (by simp [lineMachineFields, effect_text_iff, inside_effect]) read
  rw [machineOutline, name, events, alarms, stations, machineIn]
  simp [LineMachine.new, MainDeviceProfile.new, path, events_in_flat, List.map_flatMap,
    List.flatMap_assoc]

theorem make_machine_outline {element : Element} {made : List LineMachine}
    (taken : makeLineMachine element = .ok made) :
    made.map machineOutline = [machineIn element] := by
  rw [makeLineMachine] at taken
  obtain ⟨lineMachine, read, rfl⟩ := map_ok taken
  rw [List.map_singleton, machine_read read]

theorem machine_list_read {element : Element} {machines : List LineMachine}
    (read : getLineMachineList element.siblings = .ok machines) :
    machines.map machineOutline = (named "LineMachine" element.children).map machineIn := by
  rw [read_pushed (fun _ _ => make_machine_outline) read, ← List.map_eq_flatMap]
  rfl

/-! ### Sections -/

/-- What a section is loaded as: the machines of the last `Machines`. -/
def sectionLoaded (element : Element) : SectionOutline where
  name := (given "Name" element).getD ""
  machines := (named "Machines" element.children).getLast?.map fun machines =>
    (named "LineMachine" machines.children).map machineIn

theorem section_read {element : Element} {sect : LineSection}
    (read : readFields lineSectionFields .new element.siblings = .ok sect) :
    sectionOutline sect = sectionLoaded element := by
  have name := read_given LineSection.name "Name" (fun text => text.getD "") rfl
    (fun _ _ => rfl) (by simp [lineSectionFields, effect_text_iff, made_effect]) rfl read
  have machines := read_last (fun sect : LineSection => sect.machines.map (List.map machineOutline))
    "Machines" (fun machines => (named "LineMachine" machines.children).map machineIn) rfl
    (made_effect fun _ element machines listed => by
      rw [Option.map_some, machine_list_read listed])
    (by simp [lineSectionFields, effect_text_iff]) rfl read
  rw [sectionOutline, name, machines, named_siblings, sectionLoaded]

theorem section_list_read {nodes : List Node} {before sections : List LineSection}
    (read : nodes.foldlM pushLineSection before = .ok sections) :
    sections.map sectionOutline =
      before.map sectionOutline ++ (elements nodes).map sectionLoaded := by
  induction nodes generalizing before with
  | nil =>
      cases read
      rw [elements, List.filterMap_nil, List.map_nil, List.append_nil]
  | cons node rest ih =>
      rw [List.foldlM_cons] at read
      obtain ⟨next, pushed, later⟩ := bind_ok read
      rw [pushLineSection] at pushed
      cases shown : node.toElement with
      | none =>
          rw [shown] at pushed
          cases pushed
      | some element =>
          rw [shown] at pushed
          obtain ⟨sect, filled, rfl⟩ := map_ok pushed
          have first : elements (node :: rest) = element :: elements rest :=
            List.filterMap_cons_some shown
          rw [ih later, first, List.map_append, List.map_singleton, section_read filled,
            List.map_cons, List.append_assoc, List.singleton_append]

/-- What a profile that was loaded shows: the sections of the last `LineSections`. -/
theorem design_read {root : Element} {design : LineStationDesiginProfile}
    (read : readFields designFields .new root.children = .ok design) :
    lineOutline design = (named "LineSections" root.children).getLast?.map fun sections =>
      (elements sections.children).map sectionLoaded := by
  apply read_last lineOutline "LineSections" _ rfl _ _ rfl read
  · apply made_effect
    intro design element sections listed
    rw [lineOutline, Option.map_some, section_list_read listed, List.map_nil, List.nil_append,
      elements_siblings]
  · simp [designFields, effect_text_iff, lineOutline]

end DevHub.Outline
