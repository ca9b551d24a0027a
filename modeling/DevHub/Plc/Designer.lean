import DevHub.Plc.Outline

/-!
The documents that the loader gets through. `kinds` says what the loader looks for among the
children of each element; a node that it comes to under one of these names has to be an
element, and one that stands for a text has to have one. The walk over the profile then needs
the two pointers that only a `LineSections` and a `Machines` assign.
-/

namespace DevHub.Designer

open Checks XmlTree Station Outline

set_option autoImplicit false

/-- The children of the elements that the loader looks into. -/
inductive Place where
  | design
  | sections
  | sect
  | machines
  | lineMachine
  | mainDevice
  | protocol
  | settings
  | events
  | event
  | alarms
  | alarm
  | normalSettingList
  | stations
  | lineStation

def kinds : Place → List (String × Kind Place)
  | .design =>
      [("LineSections", .record .sections), ("Assembly", .text), ("PluginName", .text),
        ("Version", .text), ("Enable", .text), ("AutoLoaded", .text),
        ("DefaultCarrierSlotCount", .text), ("DefaultTraySlotCount", .text)]
  | .sections => []
  | .sect =>
      [("Machines", .record .machines), ("Name", .text), ("Enable", .text),
        ("UpdateTimeTicks", .text), ("SectionID", .text), ("ReadOnly", .text)]
  | .machines => [("LineMachine", .record .lineMachine)]
  | .lineMachine =>
      [("Name", .text), ("Enable", .text), ("UpdateTimeTicks", .text),
        ("MainDeviceProfile", .record .mainDevice), ("CarrierSlotCount", .text),
        ("TraySlotCount", .text), ("Uph", .text), ("Stations", .record .stations)]
  | .mainDevice =>
      [("Name", .text), ("Enable", .text), ("UpdateTimeTicks", .text), ("DeviceType", .text),
        ("ProtocolInfo", .record .protocol), ("PortName", .text), ("BaudRate", .text),
        ("DataBits", .text), ("StopBits", .text), ("Parity", .text), ("Priority", .text),
        ("ProcessTimeout", .text), ("Port", .text), ("WriteBufferSize", .text),
        ("WriteTimeout", .text), ("WriteRetryCount", .text), ("ReadTimeout", .text),
        ("ReadBufferSize", .text), ("KeepAliveInterval", .text), ("SockType", .text),
        ("IsQueueMode", .text), ("RoutePort", .text), ("AutoReconnectInterval", .text),
        ("IpAddress", .text), ("PollFrequency", .text), ("HeartBeatFrequency", .text),
        ("NormalSettings", .record .settings), ("MotorSettings", .record .settings),
        ("PlcDataBlock", .record .settings), ("EapDataBlock", .record .settings),
        ("Events", .record .events), ("AlarmCodeList", .record .alarms),
        ("NormalSettingList", .record .normalSettingList), ("DataFormat", .text)]
  | .protocol => [("Protocol", .text), ("StationID", .text)]
  | .settings => [("Flag", .text), ("BeginAddress", .text), ("DataSize", .text)]
  | .events => [("StationEventProfile", .record .event)]
  | .event =>
      [("Name", .text), ("Enable", .text), ("UpdateTimeTicks", .text), ("Flag", .text),
        ("Action", .text), ("Properties", .text), ("PlcBlockAddress", .text),
        ("PlcBlockSize", .text), ("EapBlockAddress", .text), ("EapBlockSize", .text)]
  | .alarms => [("PlcAlarmInfo", .record .alarm)]
  | .alarm =>
      [("Name", .text), ("Remark", .text), ("Enable", .text), ("UpdateTimeTicks", .text),
        ("Status", .text), ("Level", .text), ("Duration", .text), ("WordOffset", .text),
        ("BitOffset", .text)]
  | .normalSettingList => [("PlcMemoryProfileInfo", .plain)]
  | .stations => [("LineStation", .record .lineStation)]
  | .lineStation =>
      [("Events", .record .events), ("Name", .text), ("Enable", .text),
        ("UpdateTimeTicks", .text), ("MaxInputCacheCarrierCount", .text),
        ("MaxOutputCacheCarrierCount", .text), ("Properties", .text)]

/-- Below `LineSections` every node is a section, and in an event or an alarm every node is
taken for an element. -/
def kindAt : Place → String → Option (Kind Place)
  | .sections, _ => some (.record .sect)
  | .event, name => some (((kinds .event).lookup name).getD .plain)
  | .alarm, name => some (((kinds .alarm).lookup name).getD .plain)
  | place, name => (kinds place).lookup name

/-- The document loads: no null pointer is followed in the loader, and the walk finds the list
of sections and in each section that of its machines. -/
structure Loads (root : Element) : Prop where
  readable : ∀ node ∈ root.children, Readable kindAt .design node
  assigned : ∃ sections, (named "LineSections" root.children).getLast? = some sections ∧
    ∀ sect ∈ elements sections.children, named "Machines" sect.children ≠ []

/-! ### The tables of the loader -/

theorem protocol_fit : FieldsFit kindAt protocolFields .protocol :=
  lookup_fits (by simp [protocolFields, kinds, fits_text])

theorem settings_fit : FieldsFit kindAt settingsFields .settings :=
  lookup_fits (by simp [settingsFields, kinds, fits_text])

theorem normal_setting_list_fit : FieldsFit kindAt normalSettingListFields .normalSettingList :=
  lookup_fits (by simp [normalSettingListFields, kinds, fits_plain])

theorem event_fit (name : String) :
    Option.Rel (Entry.Fits kindAt) (eventFields.lookup name) ((kinds .event).lookup name) :=
  lookup_fits (by simp [eventFields, kinds, fits_text]) name

theorem make_event_iff (element : Element) :
    (∃ made, makeEvent element = .ok made) ↔ (Kind.record Place.event).Holds kindAt element := by
  rw [makeEvent, map_succeeds]
  exact read_elements_iff event_fit (fun _ => rfl) StationEventProfile.new element.siblings

theorem events_fit : FieldsFit kindAt eventsFields .events :=
  lookup_fits (by simp [eventsFields, kinds, fits_made make_event_iff])

theorem alarm_fit (name : String) :
    Option.Rel (Entry.Fits kindAt) (alarmFields.lookup name) ((kinds .alarm).lookup name) :=
  lookup_fits (by simp [alarmFields, kinds, fits_text]) name

theorem make_alarm_iff (element : Element) :
    (∃ made, makeAlarm element = .ok made) ↔ (Kind.record Place.alarm).Holds kindAt element := by
  rw [makeAlarm, map_succeeds]
  exact read_elements_iff alarm_fit (fun _ => rfl) PlcAlarmInfo.new element.siblings

theorem alarms_fit : FieldsFit kindAt alarmsFields .alarms :=
  lookup_fits (by simp [alarmsFields, kinds, fits_made make_alarm_iff])

theorem main_device_fit : FieldsFit kindAt mainDeviceFields .mainDevice :=
  lookup_fits (by
    simp [mainDeviceFields, kinds, fits_text, fits_inside protocol_fit, fits_inside settings_fit,
      fits_inside events_fit, fits_inside alarms_fit, fits_inside normal_setting_list_fit])

theorem line_station_fit : FieldsFit kindAt lineStationFields .lineStation :=
  lookup_fits (by simp [lineStationFields, kinds, fits_text, fits_inside events_fit])

theorem make_line_station_iff (element : Element) :
    (∃ made, makeLineStation element = .ok made) ↔
      (Kind.record Place.lineStation).Holds kindAt element := by
  rw [makeLineStation, map_succeeds]
  exact read_fields_iff line_station_fit .new element.siblings

theorem stations_fit : FieldsFit kindAt stationsFields .stations :=
  lookup_fits (by simp [stationsFields, kinds, fits_made make_line_station_iff])

theorem line_machine_fit : FieldsFit kindAt lineMachineFields .lineMachine :=
  lookup_fits (by
    simp [lineMachineFields, kinds, fits_text, fits_inside main_device_fit,
      fits_inside stations_fit])

theorem make_line_machine_iff (element : Element) :
    (∃ made, makeLineMachine element = .ok made) ↔
      (Kind.record Place.lineMachine).Holds kindAt element := by
  rw [makeLineMachine, map_succeeds]
  exact read_fields_iff line_machine_fit .new element.siblings

theorem machines_fit : FieldsFit kindAt machinesFields .machines :=
  lookup_fits (by simp [machinesFields, kinds, fits_made make_line_machine_iff])

theorem line_machine_list_iff (element : Element) :
    (∃ machines, getLineMachineList element.siblings = .ok machines) ↔
      (Kind.record Place.machines).Holds kindAt element :=
  read_fields_iff machines_fit [] element.siblings

theorem line_section_fit : FieldsFit kindAt lineSectionFields .sect :=
  lookup_fits (by
    simp [lineSectionFields, kinds, fits_text, fits_made line_machine_list_iff])

theorem line_section_list_iff (element : Element) :
    (∃ sections, getLineSectionList element.siblings = .ok sections) ↔
      (Kind.record Place.sections).Holds kindAt element := by
  apply fold_succeeds
  intro sections node
  rw [readable_iff, pushLineSection]
  cases shown : node.toElement with
  | none => simp [kindAt]
  | some element =>
      simp only [map_succeeds, read_fields_iff line_section_fit]
      simp [kindAt, Kind.Holds]

theorem design_fit : FieldsFit kindAt designFields .design :=
  lookup_fits (by simp [designFields, kinds, fits_text, fits_made line_section_list_iff])

theorem profile_iff {nodes : List Node} {root : Element}
    (rooted : firstChildElement nodes = some root) :
    (∃ design, getLineStationDesiginProfile (some nodes) = .ok (some design)) ↔
      ∀ node ∈ root.children, Readable kindAt .design node := by
  rw [← read_fields_iff design_fit LineStationDesiginProfile.new root.children]
  simp only [getLineStationDesiginProfile, rooted]
  cases readFields designFields .new root.children with
  | error null => simp
  | ok design => simp

theorem profile_read {nodes : List Node} {root : Element} {design : LineStationDesiginProfile}
    (rooted : firstChildElement nodes = some root)
    (loaded : getLineStationDesiginProfile (some nodes) = .ok (some design)) :
    readFields designFields .new root.children = .ok design := by
  simp only [getLineStationDesiginProfile, rooted] at loaded
  cases read : readFields designFields .new root.children with
  | error null =>
      simp only [read] at loaded
      cases loaded
  | ok made =>
      simp only [read] at loaded
      cases loaded
      rfl

/-! ### The walk -/

theorem flash_iff (unset : LineMachine → Bool) (nodes : List Node) :
    (∃ calls, flashLineMachineList unset (some nodes) = .ok calls) ↔
      ∃ design, getLineStationDesiginProfile (some nodes) = .ok (some design) ∧
        ∃ sections, lineOutline design = some sections ∧
          ∀ sect ∈ sections, sect.machines.isSome = true := by
  rw [flashLineMachineList]
  cases getLineStationDesiginProfile (some nodes) with
  | error stop => simp
  | ok loaded =>
      cases loaded with
      | none => simp
      | some design =>
          cases listed : design.lineSections with
          | none => simp [lineOutline, listed]
          | some sections =>
              have one (sect : LineSection) : (∃ calls, flashSection unset sect = .ok calls) ↔
                  sect.machines.isSome = true := by
                rw [flashSection]
                cases sect.machines with
                | none => simp
                | some machines => simp
              simp [listed, lineOutline, map_succeeds, check_all_succeeds, one, sectionOutline]

theorem assigned_iff {root : Element} {design : LineStationDesiginProfile}
    (read : readFields designFields .new root.children = .ok design) :
    (∃ sections, lineOutline design = some sections ∧
        ∀ sect ∈ sections, sect.machines.isSome = true) ↔
      ∃ sections, (named "LineSections" root.children).getLast? = some sections ∧
        ∀ sect ∈ elements sections.children, named "Machines" sect.children ≠ [] := by
  rw [design_read read]
  cases (named "LineSections" root.children).getLast? with
  | none => simp
  | some sections => simp [sectionLoaded]

/-- The loader and the walk end without a null pointer and without a pointer that was never
assigned exactly for the documents that load. -/
theorem loads_iff (unset : LineMachine → Bool) {nodes : List Node} {root : Element}
    (rooted : firstChildElement nodes = some root) :
    (∃ calls, flashLineMachineList unset (some nodes) = .ok calls) ↔ Loads root := by
  rw [flash_iff]
  constructor
  · rintro ⟨design, loaded, assigned⟩
    exact ⟨(profile_iff rooted).mp ⟨design, loaded⟩,
      (assigned_iff (profile_read rooted loaded)).mp assigned⟩
  · intro loads
    obtain ⟨design, loaded⟩ := (profile_iff rooted).mpr loads.readable
    exact ⟨design, loaded, (assigned_iff (profile_read rooted loaded)).mpr loads.assigned⟩

def deviceRoot (children : List Node) : Element where
  value := "LineStationDesiginProfile"
  children :=
    [.element "LineSections"
      [.element "LineSection"
        [.element "Name" [.text "GP01"], .element "Remark" [],
          .element "Machines"
            [.element "LineMachine"
              [.element "Name" [.text "GP01-M01"], .element "MainDeviceProfile" children]]]]]

def documentOf (root : Element) : List Node := [.element root.value root.children]

/-- A device without alarms. -/
theorem no_alarm_loads : Loads (deviceRoot [.element "AlarmCodeList" []]) :=
  (loads_iff (fun _ => true)
    (rfl : firstChildElement (documentOf (deviceRoot [.element "AlarmCodeList" []])) = some _)).mp
    ⟨[], rfl⟩

/-- An alarm whose remark is empty stops the loader. -/
theorem empty_remark_stops :
    ¬ ∃ calls, flashLineMachineList (fun _ => true)
      (some (documentOf (deviceRoot
        [.element "AlarmCodeList" [.element "PlcAlarmInfo" [.element "Remark" []]]]))) =
        .ok calls := by
  have stopped : flashLineMachineList (fun _ => true)
      (some (documentOf (deviceRoot
        [.element "AlarmCodeList" [.element "PlcAlarmInfo" [.element "Remark" []]]]))) =
        .error (.null .text) := rfl
  rw [stopped]
  rintro ⟨calls, same⟩
  cases same

end DevHub.Designer
