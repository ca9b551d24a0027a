import DevHub.Library.XmlTree
import DevHub.Plc.Registry
import DevHub.Transcation.CommaText

/-!
The loader of the line designer's document, and the walk over what it returns. A document is
the tree that TinyXML made of the file, `none` where `LoadFile` failed. A member that the
constructor leaves without a value is `none` until the loader assigns it; a loop of the source
that compares the values of sibling nodes is the table of its branches, in their order.
-/

namespace DevHub.Station

open Checks XmlTree
open Transcations (isSpace)

set_option autoImplicit false

/-! ### Numbers -/

def digitOf (c : Char) : Nat :=
  if c.isDigit then c.toNat - '0'.toNat
  else if c.isAlpha then c.toLower.toNat - 'a'.toNat + 10
  else 36

def digitsIn (base : Nat) (digits : List Char) : Nat :=
  (digits.takeWhile fun c => digitOf c < base).foldl (fun value c => value * base + digitOf c) 0

/-- Base 0 of the `strtoul` family: the prefix says which base it is. -/
def prefixBase : List Char → Nat × List Char
  | '0' :: x :: c :: rest =>
      if x.toLower = 'x' ∧ digitOf c < 16 then (16, c :: rest) else (8, x :: c :: rest)
  | '0' :: rest => (8, rest)
  | digits => (10, digits)

def unsignedOf (max base : Nat) (text : String) : Nat :=
  let (negative, rest) :=
    match text.toList.dropWhile isSpace with
    | '-' :: rest => (true, rest)
    | '+' :: rest => (false, rest)
    | rest => (false, rest)
  let (base, digits) := if base = 0 then prefixBase rest else (base, rest)
  let value := digitsIn base digits
  if value > max then max
  else if negative then (max + 1 - value) % (max + 1)
  else value

/-- Always called with base 10; `unsigned long` has 32 bits on the board. -/
def strtoul (text : String) : Nat := unsignedOf (2 ^ 32 - 1) 10 text

/-- Always called with base 0. -/
def strtoull (text : String) : Nat := unsignedOf (2 ^ 64 - 1) 0 text

theorem digit_decimal {c : Char} (digit : c.isDigit = true) :
    digitOf c = c.toNat - '0'.toNat ∧ digitOf c < 10 := by
  have high : c.toNat ≤ '9'.toNat := by
    simp only [Char.isDigit, Bool.and_eq_true, decide_eq_true_eq] at digit
    exact digit.2
  have nine : '9'.toNat = 57 := rfl
  have zero : '0'.toNat = 48 := rfl
  rw [digitOf, if_pos digit]
  omega

theorem digits_in_decimal {digits : List Char} (all : ∀ c ∈ digits, c.isDigit = true) :
    digitsIn 10 digits = Nat.ofDigitChars 10 digits 0 := by
  have whole : digits.takeWhile (fun c => digitOf c < 10) = digits := by
    rw [List.takeWhile_eq_self_iff]
    intro c member
    exact decide_eq_true (digit_decimal (all c member)).2
  rw [digitsIn, whole, Nat.ofDigitChars_eq_foldl]
  apply List.foldl_ext
  intro value c member
  rw [(digit_decimal (all c member)).1, Nat.mul_comm]

theorem strtoul_nat {n : Nat} (fits : n < 2 ^ 32) : strtoul (toString n) = n := by
  have digits := CommaText.nat_digits n
  have value : digitsIn 10 (toString n).toList = n := by
    rw [digits_in_decimal digits]
    simp
  rw [strtoul, unsignedOf]
  cases chars : (toString n).toList with
  | nil => simp at chars
  | cons c rest =>
      rw [chars] at digits value
      obtain ⟨space, minus, plus⟩ := CommaText.digit_plain (digits c List.mem_cons_self)
      rw [List.dropWhile_cons_of_neg (by simp [space])]
      split
      rename_i negative tail sign
      have plain : (false, c :: rest) = (negative, tail) := by
        rw [← sign]
        split
        · rename_i same
          exact absurd (List.cons.inj same).1 minus
        · rename_i same
          exact absurd (List.cons.inj same).1 plus
        · rfl
      cases plain
      have base : (if (10 : Nat) = 0 then prefixBase (c :: rest) else (10, c :: rest)) =
          (10, c :: rest) := rfl
      have small : ¬ n > 2 ^ 32 - 1 := by omega
      simp only [base, value, if_neg small]
      rfl

def toInt (value : Nat) : Int := if value < 2 ^ 31 then value else value - 2 ^ 32

/-- A text that is neither of the two leaves the member as it was. -/
def toBool (text : String) (old : Option Bool) : Option Bool :=
  if text = "true" then some true else if text = "false" then some false else old

/-! ### The structures of station.h -/

structure SerialParameter where
  portName : String
  baud : Option Int
  parity : Option Char
  dataBit : Option Int
  stopBit : Option Int

structure StationEventProfile where
  name : String
  enable : Option Bool
  updateTimeTicks : Option Nat
  action : String
  flag : String
  properties : String
  plcBlockAddress : String
  plcBlockSize : Option Nat
  eapBlockAddress : String
  eapBlockSize : Option Nat

structure ProtocolInfo where
  protocol : String
  stationId : Option Int

structure Settings where
  flag : String
  beginAddress : String
  dataSize : Option Nat

structure PlcAlarmInfo where
  name : String
  remark : String
  enable : Option Bool
  updateTimeTicks : Option Nat
  status : Option Bool
  level : String
  duration : Option Nat
  wordOffset : Option Nat
  bitOffset : Option Nat

structure MainDeviceProfile where
  name : String
  enable : Option Bool
  updateTimeTicks : Option Nat
  deviceType : String
  protocolInfo : ProtocolInfo
  serialPara : SerialParameter
  priority : String
  processTimeout : Option Nat
  port : Option Nat
  writeBufferSize : Option Nat
  writeTimeout : Option Nat
  writeRetryCount : Option Nat
  readTimeout : Option Nat
  readBufferSize : Option Nat
  keepAliveInterval : Option Nat
  sockType : String
  isQueueMode : Option Bool
  routePort : Option Nat
  autoReconnectInterval : Option Nat
  ipAddress : String
  pollFrequency : Option Nat
  heartBeatFrequency : Option Nat
  normalSettings : Settings
  motorSettings : Settings
  plcDataBlock : Settings
  eapDataBlock : Settings
  mainEvents : List StationEventProfile
  alarmCodeList : List PlcAlarmInfo
  dataFormat : String

structure LineStation where
  name : String
  enable : Option Bool
  updateTimeTicks : Option Nat
  maxInputCacheCarrierCount : Option Nat
  maxOutputCacheCarrierCount : Option Nat
  properties : String
  events : List StationEventProfile

/-- `p_mainEvents` is the address of `mainDeviceProfile.mainEvents`. -/
structure LineMachine where
  name : String
  enable : Option Bool
  updateTimeTicks : Option Nat
  mainDeviceProfile : MainDeviceProfile
  carrierSlotCount : Option Nat
  traySlotCount : Option Nat
  uph : Option Nat
  stations : List LineStation

structure LineSection where
  name : String
  enable : Option Bool
  updateTimeTicks : Option Nat
  sectionID : String
  readOnly : Option Bool
  machines : Option (List LineMachine)

structure LineStationDesiginProfile where
  assembly : String
  pluginName : String
  version : String
  enable : Option Bool
  autoLoaded : Option Bool
  lineSections : Option (List LineSection)
  defaultCarrierSlotCount : Option Nat
  defaultTraySlotCount : Option Nat

def StationEventProfile.new : StationEventProfile where
  name := ""
  enable := none
  updateTimeTicks := none
  action := ""
  flag := ""
  properties := ""
  plcBlockAddress := ""
  plcBlockSize := none
  eapBlockAddress := ""
  eapBlockSize := none

def PlcAlarmInfo.new : PlcAlarmInfo where
  name := ""
  remark := ""
  enable := none
  updateTimeTicks := none
  status := none
  level := ""
  duration := none
  wordOffset := none
  bitOffset := none

def Settings.new : Settings where
  flag := ""
  beginAddress := ""
  dataSize := none

def MainDeviceProfile.new : MainDeviceProfile where
  name := ""
  enable := none
  updateTimeTicks := none
  deviceType := ""
  protocolInfo := { protocol := "", stationId := none }
  serialPara := { portName := "", baud := none, parity := none, dataBit := none, stopBit := none }
  priority := ""
  processTimeout := none
  port := none
  writeBufferSize := none
  writeTimeout := none
  writeRetryCount := none
  readTimeout := none
  readBufferSize := none
  keepAliveInterval := none
  sockType := ""
  isQueueMode := none
  routePort := none
  autoReconnectInterval := none
  ipAddress := ""
  pollFrequency := none
  heartBeatFrequency := none
  normalSettings := .new
  motorSettings := .new
  plcDataBlock := .new
  eapDataBlock := .new
  mainEvents := []
  alarmCodeList := []
  dataFormat := ""

def LineStation.new : LineStation where
  name := ""
  enable := none
  updateTimeTicks := none
  maxInputCacheCarrierCount := none
  maxOutputCacheCarrierCount := none
  properties := ""
  events := []

def LineMachine.new : LineMachine where
  name := ""
  enable := none
  updateTimeTicks := none
  mainDeviceProfile := .new
  carrierSlotCount := none
  traySlotCount := none
  uph := none
  stations := []

def LineSection.new : LineSection where
  name := ""
  enable := none
  updateTimeTicks := none
  sectionID := ""
  readOnly := none
  machines := none

def LineStationDesiginProfile.new : LineStationDesiginProfile where
  assembly := ""
  pluginName := ""
  version := ""
  enable := none
  autoLoaded := none
  lineSections := none
  defaultCarrierSlotCount := none
  defaultTraySlotCount := none

/-! ### Events and alarms -/

def eventFields : List (String × Entry StationEventProfile) :=
  [("Name", .text fun event text => { event with name := text }),
    ("Enable", .text fun event text => { event with enable := toBool text event.enable }),
    ("UpdateTimeTicks", .text fun event text =>
      { event with updateTimeTicks := some (strtoull text) }),
    ("Flag", .text fun event text => { event with flag := text }),
    ("Action", .text fun event text => { event with action := text }),
    ("Properties", .text fun event text => { event with properties := text }),
    ("PlcBlockAddress", .text fun event text => { event with plcBlockAddress := text }),
    ("PlcBlockSize", .text fun event text => { event with plcBlockSize := some (strtoul text) }),
    ("EapBlockAddress", .text fun event text => { event with eapBlockAddress := text }),
    ("EapBlockSize", .text fun event text => { event with eapBlockSize := some (strtoul text) })]

/-- Converts the node before it looks at its value. No caller reads the number it returns. -/
def getEventProfile : StationEventProfile → Node → Except Null StationEventProfile :=
  readElement eventFields

def alarmFields : List (String × Entry PlcAlarmInfo) :=
  [("Name", .text fun alarm text => { alarm with name := text }),
    ("Remark", .text fun alarm text => { alarm with remark := text }),
    ("Enable", .text fun alarm text => { alarm with enable := toBool text alarm.enable }),
    ("UpdateTimeTicks", .text fun alarm text =>
      { alarm with updateTimeTicks := some (strtoull text) }),
    ("Status", .text fun alarm text => { alarm with status := toBool text alarm.status }),
    ("Level", .text fun alarm text => { alarm with level := text }),
    ("Duration", .text fun alarm text => { alarm with duration := some (strtoul text) }),
    ("WordOffset", .text fun alarm text => { alarm with wordOffset := some (strtoul text) }),
    ("BitOffset", .text fun alarm text => { alarm with bitOffset := some (strtoul text) })]

/-- Like `GetEventProfile`. -/
def getAlarmCodeList : PlcAlarmInfo → Node → Except Null PlcAlarmInfo :=
  readElement alarmFields

/-- The event of one `StationEventProfile`, unless it is deleted again. -/
def makeEvent (element : Element) : Except Null (List StationEventProfile) :=
  (element.siblings.foldlM getEventProfile .new).map fun event =>
    if event.properties = "NoPlcEvent" then [] else [event]

/-- The loop below `Events`, of a device as of a station. -/
def eventsFields : List (String × Entry (List StationEventProfile)) :=
  [("StationEventProfile", .made makeEvent (· ++ ·))]

def makeAlarm (element : Element) : Except Null (List PlcAlarmInfo) :=
  (element.siblings.foldlM getAlarmCodeList .new).map fun alarm => [alarm]

def alarmsFields : List (String × Entry (List PlcAlarmInfo)) :=
  [("PlcAlarmInfo", .made makeAlarm (· ++ ·))]

/-! ### Machines -/

def protocolFields : List (String × Entry ProtocolInfo) :=
  [("Protocol", .text fun info text => { info with protocol := text }),
    ("StationID", .text fun info text => { info with stationId := some (toInt (strtoul text)) })]

/-- The loop of `NormalSettings`, `MotorSettings`, `PlcDataBlock` and `EapDataBlock`. -/
def settingsFields : List (String × Entry Settings) :=
  [("Flag", .text fun settings text => { settings with flag := text }),
    ("BeginAddress", .text fun settings text => { settings with beginAddress := text }),
    ("DataSize", .text fun settings text => { settings with dataSize := some (strtoul text) })]

/-- The loop below `NormalSettingList` assigns nothing, nor does the one below its elements. -/
def normalSettingListFields : List (String × Entry Unit) :=
  [("PlcMemoryProfileInfo", .record fun done _ => .ok done)]

def stopBits (text : String) (old : Option Int) : Option Int :=
  if text = "One" then some 1 else if text = "Two" then some 2 else old

def parityOf (text : String) (old : Option Char) : Option Char :=
  if text = "None" then some 'N'
  else if text = "Odd" then some 'O'
  else if text = "Even" then some 'E'
  else if text = "Mark" then some 'M'
  else if text = "Space" then some 'S'
  else old

def mainDeviceFields : List (String × Entry MainDeviceProfile) :=
  [("Name", .text fun device text => { device with name := text }),
    ("Enable", .text fun device text => { device with enable := toBool text device.enable }),
    ("UpdateTimeTicks", .text fun device text =>
      { device with updateTimeTicks := some (strtoull text) }),
    ("DeviceType", .text fun device text => { device with deviceType := text }),
    ("ProtocolInfo", .inside MainDeviceProfile.protocolInfo
      (fun device info => { device with protocolInfo := info }) protocolFields),
    ("PortName", .text fun device text =>
      { device with serialPara := { device.serialPara with portName := text } }),
    ("BaudRate", .text fun device text =>
      { device with serialPara := { device.serialPara with baud := some (toInt (strtoul text)) } }),
    ("DataBits", .text fun device text =>
      { device with
        serialPara := { device.serialPara with dataBit := some (toInt (strtoul text)) } }),
    ("StopBits", .text fun device text =>
      { device with
        serialPara :=
          { device.serialPara with stopBit := stopBits text device.serialPara.stopBit } }),
    ("Parity", .text fun device text =>
      { device with
        serialPara :=
          { device.serialPara with parity := parityOf text device.serialPara.parity } }),
    ("Priority", .text fun device text => { device with priority := text }),
    ("ProcessTimeout", .text fun device text =>
      { device with processTimeout := some (strtoul text) }),
    ("Port", .text fun device text => { device with port := some (strtoul text) }),
    ("WriteBufferSize", .text fun device text =>
      { device with writeBufferSize := some (strtoul text) }),
    ("WriteTimeout", .text fun device text => { device with writeTimeout := some (strtoul text) }),
    ("WriteRetryCount", .text fun device text =>
      { device with writeRetryCount := some (strtoul text) }),
    ("ReadTimeout", .text fun device text => { device with readTimeout := some (strtoul text) }),
    ("ReadBufferSize", .text fun device text =>
      { device with readBufferSize := some (strtoul text) }),
    ("KeepAliveInterval", .text fun device text =>
      { device with keepAliveInterval := some (strtoul text) }),
    ("SockType", .text fun device text => { device with sockType := text }),
    ("IsQueueMode", .text fun device text =>
      { device with isQueueMode := toBool text device.isQueueMode }),
    ("RoutePort", .text fun device text => { device with routePort := some (strtoul text) }),
    ("AutoReconnectInterval", .text fun device text =>
      { device with autoReconnectInterval := some (strtoul text) }),
    ("IpAddress", .text fun device text => { device with ipAddress := text }),
    ("PollFrequency", .text fun device text =>
      { device with pollFrequency := some (strtoul text) }),
    ("HeartBeatFrequency", .text fun device text =>
      { device with heartBeatFrequency := some (strtoul text) }),
    ("NormalSettings", .inside MainDeviceProfile.normalSettings
      (fun device settings => { device with normalSettings := settings }) settingsFields),
    ("MotorSettings", .inside MainDeviceProfile.motorSettings
      (fun device settings => { device with motorSettings := settings }) settingsFields),
    ("PlcDataBlock", .inside MainDeviceProfile.plcDataBlock
      (fun device settings => { device with plcDataBlock := settings }) settingsFields),
    ("EapDataBlock", .inside MainDeviceProfile.eapDataBlock
      (fun device settings => { device with eapDataBlock := settings }) settingsFields),
    ("Events", .inside MainDeviceProfile.mainEvents
      (fun device events => { device with mainEvents := events }) eventsFields),
    ("AlarmCodeList", .inside MainDeviceProfile.alarmCodeList
      (fun device alarms => { device with alarmCodeList := alarms }) alarmsFields),
    ("NormalSettingList", .inside (fun _ => ()) (fun device _ => device) normalSettingListFields),
    ("DataFormat", .text fun device text => { device with dataFormat := text })]

def lineStationFields : List (String × Entry LineStation) :=
  [("Events", .inside LineStation.events
      (fun station events => { station with events := events }) eventsFields),
    ("Name", .text fun station text => { station with name := text }),
    ("Enable", .text fun station text => { station with enable := toBool text station.enable }),
    ("UpdateTimeTicks", .text fun station text =>
      { station with updateTimeTicks := some (strtoull text) }),
    ("MaxInputCacheCarrierCount", .text fun station text =>
      { station with maxInputCacheCarrierCount := some (strtoul text) }),
    ("MaxOutputCacheCarrierCount", .text fun station text =>
      { station with maxOutputCacheCarrierCount := some (strtoul text) }),
    ("Properties", .text fun station text => { station with properties := text })]

def makeLineStation (element : Element) : Except Null (List LineStation) :=
  (readFields lineStationFields .new element.siblings).map fun station => [station]

def stationsFields : List (String × Entry (List LineStation)) :=
  [("LineStation", .made makeLineStation (· ++ ·))]

def lineMachineFields : List (String × Entry LineMachine) :=
  [("Name", .text fun machine text => { machine with name := text }),
    ("Enable", .text fun machine text => { machine with enable := toBool text machine.enable }),
    ("UpdateTimeTicks", .text fun machine text =>
      { machine with updateTimeTicks := some (strtoull text) }),
    ("MainDeviceProfile", .inside LineMachine.mainDeviceProfile
      (fun machine device => { machine with mainDeviceProfile := device }) mainDeviceFields),
    ("CarrierSlotCount", .text fun machine text =>
      { machine with carrierSlotCount := some (strtoul text) }),
    ("TraySlotCount", .text fun machine text =>
      { machine with traySlotCount := some (strtoul text) }),
    ("Uph", .text fun machine text => { machine with uph := some (strtoul text) }),
    ("Stations", .inside LineMachine.stations
      (fun machine stations => { machine with stations := stations }) stationsFields)]

def makeLineMachine (element : Element) : Except Null (List LineMachine) :=
  (readFields lineMachineFields .new element.siblings).map fun machine => [machine]

def machinesFields : List (String × Entry (List LineMachine)) :=
  [("LineMachine", .made makeLineMachine (· ++ ·))]

/-- `nodes` is the node it is called with and its siblings. -/
def getLineMachineList (nodes : List Node) : Except Null (List LineMachine) :=
  readFields machinesFields [] nodes

/-! ### Sections -/

def lineSectionFields : List (String × Entry LineSection) :=
  [("Machines", .made (fun element => getLineMachineList element.siblings)
      fun sect machines => { sect with machines := some machines }),
    ("Name", .text fun sect text => { sect with name := text }),
    ("Enable", .text fun sect text => { sect with enable := toBool text sect.enable }),
    ("UpdateTimeTicks", .text fun sect text =>
      { sect with updateTimeTicks := some (strtoull text) }),
    ("SectionID", .text fun sect text => { sect with sectionID := text }),
    ("ReadOnly", .text fun sect text => { sect with readOnly := toBool text sect.readOnly })]

/-- One pass of the loop, which takes every node for a section. -/
def pushLineSection (sections : List LineSection) (node : Node) :
    Except Null (List LineSection) :=
  match node.toElement with
  | none => .error .element
  | some element =>
      (readFields lineSectionFields .new element.siblings).map fun sect => sections ++ [sect]

def getLineSectionList (nodes : List Node) : Except Null (List LineSection) :=
  nodes.foldlM pushLineSection []

def designFields : List (String × Entry LineStationDesiginProfile) :=
  [("LineSections", .made (fun element => getLineSectionList element.siblings)
      fun design sections => { design with lineSections := some sections }),
    ("Assembly", .text fun design text => { design with assembly := text }),
    ("PluginName", .text fun design text => { design with pluginName := text }),
    ("Version", .text fun design text => { design with version := text }),
    ("Enable", .text fun design text => { design with enable := toBool text design.enable }),
    ("AutoLoaded", .text fun design text =>
      { design with autoLoaded := toBool text design.autoLoaded }),
    ("DefaultCarrierSlotCount", .text fun design text =>
      { design with defaultCarrierSlotCount := some (strtoul text) }),
    ("DefaultTraySlotCount", .text fun design text =>
      { design with defaultTraySlotCount := some (strtoul text) })]

inductive Stop where
  | null (null : Null)
  | unassigned
  | noRoot
  | notLoaded
  deriving DecidableEq

/-- The text that the `TiXmlPrinter` makes of the document is not used. -/
def getLineStationDesiginProfile (document : Option (List Node)) :
    Except Stop (Option LineStationDesiginProfile) :=
  match document with
  | none => .ok none
  | some nodes =>
      match firstChildElement nodes with
      | none => .error .noRoot
      | some root =>
          match readFields designFields .new root.children with
          | .error null => .error (.null null)
          | .ok design => .ok (some design)

/-! ### The walk of `FlashLineMachineList` -/

section Walk

variable (unset : LineMachine → Bool)

/-- `unset` is what an `Enable` that was never assigned reads as. -/
def LineMachine.enabledPlc (lineMachine : LineMachine) : Bool :=
  lineMachine.mainDeviceProfile.deviceType = "PLC" && lineMachine.enable.getD (unset lineMachine)

def flashSection (sect : LineSection) : Except Stop (List (String × LineMachine)) :=
  match sect.machines with
  | none => .error .unassigned
  | some machines =>
      .ok ((machines.filter (LineMachine.enabledPlc unset)).map fun lineMachine =>
        (sect.name, lineMachine))

/-- The calls of `ConstructMachine`, in their order. Nothing reads the map of the sections. -/
def flashLineMachineList (document : Option (List Node)) :
    Except Stop (List (String × LineMachine)) :=
  match getLineStationDesiginProfile document with
  | .error stop => .error stop
  | .ok none => .error .notLoaded
  | .ok (some design) =>
      match design.lineSections with
      | none => .error .unassigned
      | some sections => (checkAll (flashSection unset) sections).map List.flatten

end Walk

/-! ### The design that the director is built from -/

section Design

variable (unset : LineMachine → Bool) (flag : Bool) (number : Nat)

/-- `number` is what a number that was never assigned reads as, `flag` a truth value. -/
def directorEvent (event : StationEventProfile) : Machines.StationEventProfile where
  name := event.name
  action := event.action
  flag := event.flag
  plcBlockAddress := event.plcBlockAddress
  plcBlockSize := event.plcBlockSize.getD number
  eapBlockAddress := event.eapBlockAddress
  eapBlockSize := event.eapBlockSize.getD number

def directorAlarm (alarm : PlcAlarmInfo) : Machines.PlcAlarmProfile where
  name := alarm.name
  enable := alarm.enable.getD flag
  status := alarm.status.getD flag
  level := alarm.level
  wordOffset := alarm.wordOffset.getD number
  bitOffset := alarm.bitOffset.getD number

def directorMachine (lineMachine : LineMachine) : Machines.LineMachine where
  name := lineMachine.name
  enable := lineMachine.enable.getD (unset lineMachine)
  mainDeviceProfile :=
    { deviceType := lineMachine.mainDeviceProfile.deviceType
      protocol := lineMachine.mainDeviceProfile.protocolInfo.protocol
      dataFormat := lineMachine.mainDeviceProfile.dataFormat
      mainEvents := lineMachine.mainDeviceProfile.mainEvents.map (directorEvent number)
      alarmCodeList := lineMachine.mainDeviceProfile.alarmCodeList.map (directorAlarm flag number) }
  stations := lineMachine.stations.map fun station =>
    { events := station.events.map (directorEvent number) }

def directorSection (sect : LineSection) : Machines.LineSection where
  name := sect.name
  machines := (sect.machines.getD []).map (directorMachine unset flag number)

theorem enabled_calls {sections : List LineSection} {groups : List (List (String × LineMachine))}
    (walked : checkAll (flashSection unset) sections = .ok groups) :
    Registry.enabledMachines (sections.map (directorSection unset flag number)) =
      groups.flatten.map fun call => (call.1, directorMachine unset flag number call.2) := by
  induction sections generalizing groups with
  | nil =>
      cases walked
      rfl
  | cons sect rest ih =>
      rw [checkAll] at walked
      cases first : flashSection unset sect with
      | error stop => simp [first] at walked
      | ok calls =>
          simp only [first] at walked
          obtain ⟨others, later, rfl⟩ := map_ok walked
          rw [List.map_cons, Registry.enabledMachines, List.flatMap_cons, List.flatten_cons,
            List.map_append, ← ih later, Registry.enabledMachines]
          congr 1
          rw [flashSection] at first
          cases listed : sect.machines with
          | none => simp [listed] at first
          | some machines =>
              simp only [listed, Except.ok.injEq] at first
              subst first
              simp only [directorSection, listed, Option.getD_some, List.filter_map, List.map_map]
              rfl

/-- The walk builds the director of the design that was loaded, call by call. -/
theorem flash_constructs {document : Option (List Node)} {calls : List (String × LineMachine)}
    (walked : flashLineMachineList unset document = .ok calls) :
    ∃ design sections, getLineStationDesiginProfile document = .ok (some design) ∧
      design.lineSections = some sections ∧
      Machines.flashLineMachineList (sections.map (directorSection unset flag number)) =
        (calls.map fun call => (call.1, directorMachine unset flag number call.2)).foldlM
          Registry.constructPair Machines.Director.new := by
  rw [flashLineMachineList] at walked
  cases loaded : getLineStationDesiginProfile document with
  | error stop => simp [loaded] at walked
  | ok result =>
      cases result with
      | none => simp [loaded] at walked
      | some design =>
          cases listed : design.lineSections with
          | none => simp [loaded, listed] at walked
          | some sections =>
              simp only [loaded, listed] at walked
              obtain ⟨groups, checked, rfl⟩ := map_ok walked
              refine ⟨design, sections, rfl, listed, ?_⟩
              rw [Registry.flash_pairs, enabled_calls unset flag number checked]

end Design

end DevHub.Station
