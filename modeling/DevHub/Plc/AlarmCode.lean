import DevHub.Library.Run
import DevHub.Library.StdMap
import DevHub.Plc.Machine
import DevHub.Plc.ReadBuffer
import DevHub.Plc.Report
import Mathlib.Data.List.Forall2
import Mathlib.Data.List.ProdSigma
import Mathlib.Data.Nat.Bitwise

/-!
`Ev_AlarmCode` on the map of its machine. `BuildMachine` enters each alarm by its offset
and `insert` keeps the first of several; the handlers look offsets up with `[]`, which
enters a null pointer for an offset without an alarm. All alarm events of a machine share
the map. The keys are values of `unsigned int`. A handler scans the twenty content words of
`rd_buf`, also those that the read of its `PlcBlockSize` did not store.
-/

namespace DevHub.AlarmCode

open PlcEvent PlcMemory ReadBuffer Transition

set_option autoImplicit false

structure PlcAlarm extends PlcAlarmInfo where
  wordOffset : UInt32
  bitOffset : UInt32

def PlcAlarm.offset (alarm : PlcAlarm) : UInt32 := alarm.wordOffset * 0x10 + alarm.bitOffset

/-- A null pointer is `none`. -/
abbrev AlarmCodeList := StdMap Nat (Option PlcAlarmInfo)

/-- `insert`, which keeps an entry that is there. -/
def insertAlarm (list : AlarmCodeList) (alarm : PlcAlarm) : AlarmCodeList :=
  if alarm.offset.toNat ∈ list.keys then list
  else list.insert alarm.offset.toNat (some alarm.toPlcAlarmInfo)

def buildAlarmCodeList (alarms : List PlcAlarm) : AlarmCodeList :=
  alarms.foldl insertAlarm StdMap.empty

/-- `list[key]`, and the map after it. -/
def subscript (list : AlarmCodeList) (key : Nat) : Option PlcAlarmInfo × AlarmCodeList :=
  match list.find? key with
  | some alarm => (alarm, list)
  | none => (none, list.insert key none)

def alarmInfo (alarm : PlcAlarmInfo) : Json :=
  .object [("Level", .string alarm.level), ("Name", .string alarm.name),
    ("Status", .bool alarm.status)]

structure Scan where
  list : AlarmCodeList
  alarmList : List Json

/-- The body of the inner loop; `contents` are the words after the swap. -/
def scanBit (content : Nat → UInt16) (i : Nat) (scan : Scan) (j : Nat) : Scan :=
  if content i &&& (1 <<< UInt16.ofNat j) ≠ 0 then
    let looked := subscript scan.list (i * 0x10 + j)
    match looked.1 with
    | some alarm =>
        if alarm.enable then
          { list := looked.2, alarmList := scan.alarmList ++ [alarmInfo alarm] }
        else { scan with list := looked.2 }
    | none => { scan with list := looked.2 }
  else scan

def scanWord (content : Nat → UInt16) (scan : Scan) (i : Nat) : Scan :=
  (List.range 16).foldl (scanBit content i) scan

def scanContent (content : Nat → UInt16) (list : AlarmCodeList) : Scan :=
  (List.range 20).foldl (scanWord content) { list := list, alarmList := [] }

/-- The content words of a block in the order of the host. -/
def correctedContent (ev : Event) (block : Block) (i : Nat) : UInt16 :=
  bLEndianUshort (block (2 + i)) ev.machineContex.wordSwap

structure Reported where
  handler : Nat
  message : Option Json

/-- The alarm events of a machine: their map, and the `m_sequenceID` of each. -/
structure Alarms where
  list : AlarmCodeList
  sequenceID : Nat → UInt16
  log : List Reported

def Alarms.start (alarms : List PlcAlarm) (sequenceID : Nat → UInt16) : Alarms where
  list := buildAlarmCodeList alarms
  sequenceID := sequenceID
  log := []

/-- A handler, what the proxies answer to its read, and what `rd_buf` held before. -/
structure AlarmPoll where
  handler : Nat
  connectionStatus : ConnectionStatus
  finsRead : String → Nat → Option (List UInt8)
  reply : Option Reply
  stack : Nat → UInt8

def AlarmPoll.seen (poll : AlarmPoll) (sequenceID : UInt16) : ReadBuffer.Poll where
  connectionStatus := poll.connectionStatus
  sequenceID := sequenceID
  reply := poll.reply
  stack := poll.stack

section Sniffing

variable (ev : StationEvent) (state : Alarms) (poll : AlarmPoll)

def readAlarms : Int × List UInt8 :=
  ReadBuffer.readData poll.finsRead ev (poll.seen (state.sequenceID poll.handler))

def readBlock : Block :=
  words (rdBuf poll.finsRead ev (poll.seen (state.sequenceID poll.handler)))

def sniffingPlcEvent : Alarms :=
  if (readAlarms ev state poll).1 ≠ 0 then state
  else
    let block := readBlock ev state poll
    let id := currentId ev.toEvent block
    if state.sequenceID poll.handler = id then state
    else
      let scan := scanContent (correctedContent ev.toEvent block) state.list
      { list := scan.list
        sequenceID := Function.update state.sequenceID poll.handler id
        log := state.log ++ [{
          handler := poll.handler
          message := Report.alarmRoot ev.toEvent ev.eventAction.name scan.alarmList }] }

end Sniffing

/-- Nothing is said of a poll that stores more bytes than `rd_buf` has. -/
def step (events : Nat → StationEvent) : Step Alarms AlarmPoll
  | state, poll =>
      let ev := events poll.handler
      if (readAlarms ev state poll).2.length ≤ evDataBuffLen then
        some (sniffingPlcEvent ev state poll)
      else none

/-! ### The alarms of a block -/

/-- A word among the bytes that were read: the PLC sends the high byte of a swapped word
first. -/
def wordRead (swap : Bool) (bytes : List UInt8) (index : Nat) : Option Nat :=
  match bytes[2 * index]?, bytes[2 * index + 1]? with
  | some first, some second =>
      some (if swap then first.toNat * 256 + second.toNat else second.toNat * 256 + first.toNat)
  | _, _ => none

/-- A content word of the frame; one that was not read has no bits. -/
def contentRead (swap : Bool) (bytes : List UInt8) (i : Nat) : Nat :=
  (wordRead swap bytes (2 + i)).getD 0

/-- The first configured alarm at bit `j` of word `i`; the offsets are `unsigned int`s. -/
def configuredAt (alarms : List PlcAlarm) (i j : Nat) : Option PlcAlarm :=
  alarms.find? fun alarm => alarm.wordOffset * 16 + alarm.bitOffset = UInt32.ofNat (16 * i + j)

def activeAt (alarms : List PlcAlarm) (content : Nat → Nat) (position : Nat × Nat) :
    Option PlcAlarm :=
  if (content position.1).testBit position.2 then
    (configuredAt alarms position.1 position.2).filter fun alarm => alarm.enable
  else none

/-- The bits whose alarm is reported, in the order of word and bit. -/
def activeAlarms (alarms : List PlcAlarm) (content : Nat → Nat) : List PlcAlarm :=
  ((List.range 20).product (List.range 16)).filterMap (activeAt alarms content)

structure Shows (alarm : PlcAlarm) (entry : Json) : Prop where
  name : entry.member "Name" = some (.string alarm.name)
  status : entry.member "Status" = some (.bool alarm.status)
  level : entry.member "Level" = some (.string alarm.level)

/-- The message is sent if there are active alarms, and shows exactly these. -/
structure Decodes (active : List PlcAlarm) (message : Option Json) : Prop where
  sent : message.isSome = true ↔ active ≠ []
  alarmList : ∀ root, message = some root →
    ∃ event entries, Report.eventOf root = some event ∧
      event.member "AlarmList" = some (.array entries) ∧ List.Forall₂ Shows active entries

section Polls

variable (alarms : List PlcAlarm) (events : Nat → StationEvent)

def AfterPolls (state : Alarms) : Prop :=
  ∃ sequenceID polls, run (step events) (Alarms.start alarms sequenceID) polls = some state

/-- The poll reports the new id `id` with the alarms that are active in the bytes it read, and
would report the same behind any other polls and over any other contents of `rd_buf`. -/
def ReportsRead (before : Alarms) (poll : AlarmPoll) (id : Nat) (after : Alarms) : Prop :=
  let ev := events poll.handler
  let content := contentRead ev.machineContex.wordSwap (readAlarms ev before poll).2
  ∃ message, Decodes (activeAlarms alarms content) message ∧
    (after.sequenceID poll.handler).toNat = id ∧
    after.log = before.log ++ [{ handler := poll.handler, message := message }] ∧
    ∀ other stack, AfterPolls alarms events other → (other.sequenceID poll.handler).toNat ≠ id →
      (sniffingPlcEvent ev other { poll with stack := stack }).log =
        other.log ++ [{ handler := poll.handler, message := message }]

/-- A successful poll reports an id that it read and that is new; any other poll of the handler
changes nothing, whatever `rd_buf` held. -/
def PollDecodes (before : Alarms) (poll : AlarmPoll) (after : Alarms) : Prop :=
  let ev := events poll.handler
  let unchanged := ∀ stack, sniffingPlcEvent ev before { poll with stack := stack } = before
  (readAlarms ev before poll).1 = 0 →
    match wordRead ev.machineContex.wordSwap (readAlarms ev before poll).2 0 with
    | none => unchanged
    | some id =>
        if (before.sequenceID poll.handler).toNat = id then unchanged
        else ReportsRead alarms events before poll id after

/-- The bytes that a successful read stores for the `PlcBlockSize` of the event. -/
def polledBytes (ev : StationEvent) : Nat :=
  match ev.machineContex.protocol with
  | .fins => 2 * (ev.plcDataSize / 2)
  | .rtu => if ev.plcDataSize = 2 ^ 32 - 1 then 0 else 2 * ev.plcDataSize

/-- A successful poll reads the id and, where that is new, the word of every enabled alarm. -/
def Covered (before : Alarms) (poll : AlarmPoll) : Prop :=
  let ev := events poll.handler
  (readAlarms ev before poll).1 = 0 →
    2 ≤ polledBytes ev ∧
      (before.sequenceID poll.handler ≠ currentId ev.toEvent (readBlock ev before poll) →
        ∀ i < 20, ∀ j < 16, ∀ alarm, configuredAt alarms i j = some alarm →
          alarm.enable = true → 2 * (2 + i) + 2 ≤ polledBytes ev)

end Polls

/-! ### Lookups -/

/-- The alarm that `list[key]` answers: an entry with a null pointer counts as none. -/
def view (list : AlarmCodeList) (key : Nat) : Option PlcAlarmInfo := (list.find? key).join

theorem subscript_answer (list : AlarmCodeList) (key : Nat) :
    (subscript list key).1 = view list key := by
  unfold subscript view
  cases list.find? key with
  | none => rfl
  | some alarm => rfl

theorem subscript_view (list : AlarmCodeList) (key : Nat) :
    view (subscript list key).2 = view list := by
  unfold subscript
  cases found : list.find? key with
  | some alarm => rfl
  | none =>
      funext other
      unfold view
      rw [StdMap.find_insert]
      by_cases same : other = key
      · rw [if_pos same, same, found]
        rfl
      · rw [if_neg same]

def bitAlarms (alarmAt : Nat → Option PlcAlarmInfo) (content : Nat → UInt16) (i j : Nat) :
    List Json :=
  if content i &&& (1 <<< UInt16.ofNat j) ≠ 0 then
    ((alarmAt (i * 0x10 + j)).filter fun alarm => alarm.enable).toList.map alarmInfo
  else []

theorem scan_bit (content : Nat → UInt16) (i j : Nat) (scan : Scan) :
    view (scanBit content i scan j).list = view scan.list ∧
      (scanBit content i scan j).alarmList =
        scan.alarmList ++ bitAlarms (view scan.list) content i j := by
  unfold scanBit bitAlarms
  split
  · simp only [subscript_answer]
    cases view scan.list (i * 0x10 + j) with
    | none => exact ⟨subscript_view _ _, (List.append_nil _).symm⟩
    | some alarm =>
        cases enabled : alarm.enable with
        | true => simp [enabled, subscript_view, Option.filter]
        | false => simp [enabled, subscript_view]
  · exact ⟨rfl, (List.append_nil _).symm⟩

/-- A loop whose body appends to the alarms and leaves the view appends in turn. -/
theorem scan_loop {body : Scan → Nat → Scan}
    (appended : (Nat → Option PlcAlarmInfo) → Nat → List Json)
    (once : ∀ scan index, view (body scan index).list = view scan.list ∧
      (body scan index).alarmList = scan.alarmList ++ appended (view scan.list) index)
    (indices : List Nat) (scan : Scan) :
    view (indices.foldl body scan).list = view scan.list ∧
      (indices.foldl body scan).alarmList =
        scan.alarmList ++ indices.flatMap (appended (view scan.list)) := by
  induction indices generalizing scan with
  | nil => exact ⟨rfl, (List.append_nil _).symm⟩
  | cons index rest ih =>
      obtain ⟨kept, grown⟩ := once scan index
      obtain ⟨later, more⟩ := ih (body scan index)
      rw [List.foldl_cons, List.flatMap_cons, ← List.append_assoc, ← grown, later, more, kept]
      exact ⟨rfl, rfl⟩

def contentAlarms (alarmAt : Nat → Option PlcAlarmInfo) (content : Nat → UInt16) : List Json :=
  (List.range 20).flatMap fun i => (List.range 16).flatMap (bitAlarms alarmAt content i)

theorem scan_content (content : Nat → UInt16) (list : AlarmCodeList) :
    view (scanContent content list).list = view list ∧
      (scanContent content list).alarmList = contentAlarms (view list) content := by
  have word (scan : Scan) (i : Nat) :
      view (scanWord content scan i).list = view scan.list ∧
        (scanWord content scan i).alarmList = scan.alarmList ++
          (List.range 16).flatMap (bitAlarms (view scan.list) content i) := by
    unfold scanWord
    exact scan_loop (fun alarmAt => bitAlarms alarmAt content i)
      (fun scan j => scan_bit content i j scan) (List.range 16) scan
  have scanned := scan_loop
    (fun alarmAt i => (List.range 16).flatMap (bitAlarms alarmAt content i))
    word (List.range 20) { list := list, alarmList := [] }
  unfold scanContent contentAlarms
  rw [List.nil_append] at scanned
  exact scanned

/-! ### The map that the builder makes -/

theorem insert_alarm_find (list : AlarmCodeList) (alarm : PlcAlarm) (key : Nat) :
    (insertAlarm list alarm).find? key =
      (list.find? key).or
        (if alarm.offset.toNat = key then some (some alarm.toPlcAlarmInfo) else none) := by
  unfold insertAlarm
  by_cases present : alarm.offset.toNat ∈ list.keys
  · rw [if_pos present]
    by_cases same : alarm.offset.toNat = key
    · obtain ⟨kept, found⟩ := StdMap.mem_keys.mp present
      rw [same] at found
      rw [found, Option.some_or]
    · rw [if_neg same, Option.or_none]
  · rw [if_neg present, StdMap.find_insert]
    by_cases same : key = alarm.offset.toNat
    · have missing : list.find? key = none := by
        rw [Option.eq_none_iff_forall_ne_some]
        intro kept found
        exact present (StdMap.mem_keys.mpr ⟨kept, same ▸ found⟩)
      rw [if_pos same, if_pos same.symm, missing, Option.none_or]
    · rw [if_neg same, if_neg (Ne.symm same), Option.or_none]

theorem insert_alarms_find (alarms : List PlcAlarm) (list : AlarmCodeList) (key : Nat) :
    (alarms.foldl insertAlarm list).find? key =
      (list.find? key).or ((alarms.find? fun alarm => alarm.offset.toNat = key).map
        fun alarm => some alarm.toPlcAlarmInfo) := by
  induction alarms generalizing list with
  | nil => exact (Option.or_none).symm
  | cons alarm rest ih =>
      rw [List.foldl_cons, ih, insert_alarm_find, Option.or_assoc]
      by_cases same : alarm.offset.toNat = key
      · rw [List.find?_cons_of_pos (by simpa using same), if_pos same, Option.some_or]
        rfl
      · rw [List.find?_cons_of_neg (by simpa using same), if_neg same, Option.none_or]

theorem build_view (alarms : List PlcAlarm) (key : Nat) :
    view (buildAlarmCodeList alarms) key =
      (alarms.find? fun alarm => alarm.offset.toNat = key).map PlcAlarm.toPlcAlarmInfo := by
  unfold view buildAlarmCodeList
  rw [insert_alarms_find]
  cases alarms.find? fun alarm => alarm.offset.toNat = key with
  | none => rfl
  | some alarm => rfl

/-! ### The active alarms -/

theorem bit_test (word : UInt16) {j : Nat} (bound : j < 16) :
    word &&& (1 <<< UInt16.ofNat j) ≠ 0 ↔ word.toNat.testBit j = true := by
  have index : (UInt16.ofNat j).toNat = j :=
    UInt16.toNat_ofNat_of_lt' (bound.trans (by decide))
  have power : 2 ^ j < 2 ^ 16 := Nat.pow_lt_pow_right (by decide) bound
  rw [Ne, ← UInt16.toNat_inj, UInt16.toNat_and, UInt16.toNat_shiftLeft, index,
    Nat.mod_eq_of_lt bound, UInt16.toNat_one, Nat.shiftLeft_eq, one_mul, Nat.mod_eq_of_lt power,
    Nat.and_two_pow]
  cases word.toNat.testBit j with
  | true => simp
  | false => simp

theorem offset_at (alarm : PlcAlarm) {i j : Nat} (word : i < 20) (bit : j < 16) :
    alarm.offset.toNat = i * 0x10 + j ↔
      alarm.wordOffset * 16 + alarm.bitOffset = UInt32.ofNat (16 * i + j) := by
  have bound : 16 * i + j < 2 ^ 32 := by omega
  rw [← UInt32.toNat_inj, UInt32.toNat_ofNat_of_lt' bound, Nat.mul_comm i]
  rfl

theorem bit_alarms_configured (alarms : List PlcAlarm) (content : Nat → UInt16) {i j : Nat}
    (word : i < 20) (bit : j < 16) :
    bitAlarms (view (buildAlarmCodeList alarms)) content i j =
      ((activeAt alarms (fun i => (content i).toNat) (i, j)).map fun alarm =>
        alarmInfo alarm.toPlcAlarmInfo).toList := by
  have first : view (buildAlarmCodeList alarms) (i * 0x10 + j) =
      (configuredAt alarms i j).map PlcAlarm.toPlcAlarmInfo := by
    rw [build_view, configuredAt]
    simp only [offset_at _ word bit]
  unfold bitAlarms activeAt
  rw [first]
  by_cases active : (content i).toNat.testBit j = true
  · rw [if_pos ((bit_test _ bit).mpr active), if_pos active]
    cases configuredAt alarms i j with
    | none => rfl
    | some alarm =>
        cases enabled : alarm.enable with
        | true => simp [enabled, Option.filter]
        | false => simp [enabled, Option.filter]
  · rw [if_neg fun found => active ((bit_test _ bit).mp found), if_neg active]
    rfl

/-- The two loops append the active alarms in the order of word and bit. -/
theorem content_alarms_active (alarms : List PlcAlarm) (content : Nat → UInt16) :
    contentAlarms (view (buildAlarmCodeList alarms)) content =
      (activeAlarms alarms fun i => (content i).toNat).map fun alarm =>
        alarmInfo alarm.toPlcAlarmInfo := by
  unfold contentAlarms activeAlarms
  rw [List.map_filterMap, List.filterMap_eq_flatMap_toList, List.product, List.flatMap_assoc]
  apply List.flatMap_congr
  intro i word
  rw [List.flatMap_map]
  apply List.flatMap_congr
  intro j bit
  exact bit_alarms_configured alarms content (List.mem_range.mp word) (List.mem_range.mp bit)

theorem active_congr {alarms : List PlcAlarm} {content other : Nat → Nat}
    (agree : ∀ i < 20, ∀ j < 16, ∀ alarm, configuredAt alarms i j = some alarm →
      alarm.enable = true → content i = other i) :
    activeAlarms alarms content = activeAlarms alarms other := by
  apply List.filterMap_congr
  intro position inside
  obtain ⟨word, bit⟩ := List.mem_product.mp inside
  have same := agree position.1 (List.mem_range.mp word) position.2 (List.mem_range.mp bit)
  unfold activeAt
  cases configured : configuredAt alarms position.1 position.2 with
  | none => simp
  | some alarm =>
      cases enabled : alarm.enable with
      | true => rw [same alarm configured enabled]
      | false => simp [Option.filter, enabled]

theorem active_grows {alarms : List PlcAlarm} {content other : Nat → Nat}
    (grows : ∀ i j, (content i).testBit j = true → (other i).testBit j = true) {i j : Nat}
    (word : i < 20) (bit : j < 16) {alarm : PlcAlarm}
    (configured : configuredAt alarms i j = some alarm) (enabled : alarm.enable = true)
    (unset : (content i).testBit j = false) (set : (other i).testBit j = true) :
    (activeAlarms alarms content).length < (activeAlarms alarms other).length := by
  have mono (position : Nat × Nat) : (activeAt alarms content position).isSome = true →
      (activeAt alarms other position).isSome = true := by
    unfold activeAt
    intro active
    split at active
    · rename_i here
      rw [if_pos (grows _ _ here)]
      exact active
    · cases active
  have more (positions : List (Nat × Nat)) :
      positions.countP (fun position => (activeAt alarms content position).isSome) ≤
        positions.countP fun position => (activeAt alarms other position).isSome :=
    List.countP_mono_left fun position _ => mono position
  have inside : (i, j) ∈ (List.range 20).product (List.range 16) :=
    List.mem_product.mpr ⟨List.mem_range.mpr word, List.mem_range.mpr bit⟩
  obtain ⟨before, behind, split⟩ := List.append_of_mem inside
  have silent : (activeAt alarms content (i, j)).isSome = false := by
    simp [activeAt, unset]
  have loud : (activeAt alarms other (i, j)).isSome = true := by
    simp [activeAt, set, configured, Option.filter, enabled]
  unfold activeAlarms
  rw [List.length_filterMap_eq_countP, List.length_filterMap_eq_countP, split,
    List.countP_append, List.countP_append,
    List.countP_cons_of_neg (by simp [silent]), List.countP_cons_of_pos (by simp [loud])]
  have first := more before
  have last := more behind
  omega

/-! ### The words of the buffer -/

theorem word_value (low high : UInt8) :
    (low.toUInt16 ||| (high.toUInt16 <<< 8)).toNat = high.toNat * 256 + low.toNat := by
  have small := low.toNat_lt
  have large := high.toNat_lt
  have eight : (8 : UInt16).toNat % 16 = 8 := rfl
  rw [UInt16.toNat_or, UInt16.toNat_shiftLeft, UInt8.toNat_toUInt16, UInt8.toNat_toUInt16, eight,
    Nat.shiftLeft_eq, Nat.mod_eq_of_lt (by omega), Nat.mul_comm, Nat.or_comm,
    ← Nat.two_pow_add_eq_or_of_lt (by omega : low.toNat < 2 ^ 8)]

theorem swapped_value (value : UInt16) :
    (bLEndianUshort value true).toNat = value.toNat % 256 * 256 + value.toNat / 256 := by
  have bound := value.toNat_lt
  have eight : (8 : UInt16).toNat % 16 = 8 := rfl
  have low : (0x00FF : UInt16).toNat = 2 ^ 8 - 1 := rfl
  have high : (0xFF00 : UInt16).toNat >>> 8 = 2 ^ 8 - 1 := rfl
  rw [bLEndianUshort, if_pos rfl, UInt16.toNat_or, UInt16.toNat_shiftLeft, UInt16.toNat_shiftRight,
    UInt16.toNat_and, UInt16.toNat_and, eight, low, Nat.shiftRight_and_distrib, high,
    Nat.and_two_pow_sub_one_eq_mod, Nat.and_two_pow_sub_one_eq_mod, Nat.shiftLeft_eq,
    Nat.shiftRight_eq_div_pow, Nat.mod_eq_of_lt (by omega), Nat.mul_comm,
    ← Nat.two_pow_add_eq_or_of_lt (by omega : value.toNat / 2 ^ 8 % 2 ^ 8 < 2 ^ 8)]
  omega

theorem corrected_value (low high : UInt8) (swap : Bool) :
    (bLEndianUshort (low.toUInt16 ||| (high.toUInt16 <<< 8)) swap).toNat =
      if swap then low.toNat * 256 + high.toNat else high.toNat * 256 + low.toNat := by
  have small := low.toNat_lt
  cases swap with
  | false => exact word_value low high
  | true =>
      rw [swapped_value, word_value, if_pos rfl]
      omega
def bufferOf (bytes : List UInt8) (stack : Nat → UInt8) : Block :=
  words fun index => (bytes[index]?).getD (stack index)

theorem word_read_some (swap : Bool) {bytes : List UInt8} {index : Nat}
    (read : 2 * index + 2 ≤ bytes.length) (stack : Nat → UInt8) :
    wordRead swap bytes index = some (bLEndianUshort (bufferOf bytes stack index) swap).toNat := by
  have low : 2 * index < bytes.length := by omega
  have high : 2 * index + 1 < bytes.length := by omega
  rw [wordRead, bufferOf, words, List.getElem?_eq_getElem low, List.getElem?_eq_getElem high,
    Option.getD_some, Option.getD_some, corrected_value]

theorem word_read_none (swap : Bool) {bytes : List UInt8} {index : Nat}
    (short : bytes.length < 2 * index + 2) : wordRead swap bytes index = none := by
  have high : bytes[2 * index + 1]? = none := List.getElem?_eq_none (by omega)
  rw [wordRead, high]
  cases bytes[2 * index]? <;> rfl

theorem content_read (swap : Bool) {bytes : List UInt8} {i : Nat}
    (read : 2 * (2 + i) + 2 ≤ bytes.length) (stack : Nat → UInt8) :
    contentRead swap bytes i = (bLEndianUshort (bufferOf bytes stack (2 + i)) swap).toNat := by
  rw [contentRead, word_read_some swap read stack, Option.getD_some]

theorem buffer_unread (swap : Bool) {bytes : List UInt8} {index : Nat}
    (unread : bytes.length ≤ 2 * index) (byte : UInt8) :
    (bLEndianUshort (bufferOf bytes (fun _ => byte) index) swap).toNat =
      byte.toNat * 256 + byte.toNat := by
  have low : bytes[2 * index]? = none := List.getElem?_eq_none unread
  have high : bytes[2 * index + 1]? = none := List.getElem?_eq_none (by omega)
  rw [bufferOf, words, low, high, Option.getD_none, corrected_value, ite_self]

/-! ### Polls -/

theorem alarm_root_some (ev : Event) (action : String) (alarms : List Json) :
    (Report.alarmRoot ev action alarms).isSome = true ↔ alarms ≠ [] := by
  rw [Report.alarm_root]
  cases alarms with
  | nil => simp
  | cons alarm rest => simp

theorem alarm_root_list {ev : Event} {action : String} {alarms : List Json} {message : Json}
    (built : Report.alarmRoot ev action alarms = some message) :
    ∃ event, Report.eventOf message = some event ∧
      event.member "AlarmList" = some (.array alarms) := by
  rw [Report.alarm_root] at built
  split at built
  · cases built
  · cases built
    exact ⟨Report.alarmEvent ev action alarms, rfl, rfl⟩

theorem alarm_info_shows (alarm : PlcAlarm) : Shows alarm (alarmInfo alarm.toPlcAlarmInfo) :=
  ⟨rfl, rfl, rfl⟩

def alarmMessage (ev : StationEvent) (active : List PlcAlarm) : Option Json :=
  Report.alarmRoot ev.toEvent ev.eventAction.name
    (active.map fun alarm => alarmInfo alarm.toPlcAlarmInfo)

theorem alarm_message_decodes (ev : StationEvent) (active : List PlcAlarm) :
    Decodes active (alarmMessage ev active) := by
  constructor
  · rw [alarmMessage, alarm_root_some, ne_eq, List.map_eq_nil_iff]
  · intro root built
    obtain ⟨event, found, listed⟩ := alarm_root_list built
    refine ⟨event, _, found, listed, List.forall₂_map_right_iff.mpr ?_⟩
    exact List.forall₂_same.mpr fun alarm _ => alarm_info_shows alarm

theorem decodes_length {ev : StationEvent} {active shown : List PlcAlarm}
    (decodes : Decodes active (alarmMessage ev shown)) : shown.length = active.length := by
  cases built : alarmMessage ev shown with
  | none =>
      have silent (listed : List PlcAlarm) (none : Decodes listed (alarmMessage ev shown)) :
          listed = [] := by
        by_contra some
        have sent := none.sent.mpr some
        rw [built] at sent
        cases sent
      rw [silent shown (alarm_message_decodes ev shown), silent active decodes]
  | some root =>
      obtain ⟨event, entries, found, listed, shows⟩ := decodes.alarmList root built
      obtain ⟨event', entries', found', listed', shows'⟩ :=
        (alarm_message_decodes ev shown).alarmList root built
      rw [found, Option.some.injEq] at found'
      subst found'
      rw [listed, Option.some.injEq, Json.array.injEq] at listed'
      subst listed'
      rw [shows.length_eq, shows'.length_eq]

section Sniffing

variable {alarms : List PlcAlarm} {events : Nat → StationEvent} {ev : StationEvent}
  {state : Alarms} {poll : AlarmPoll}

theorem sniffing_same (same : state.sequenceID poll.handler =
    currentId ev.toEvent (readBlock ev state poll)) : sniffingPlcEvent ev state poll = state := by
  rw [sniffingPlcEvent]
  split
  · rfl
  · exact if_pos same

theorem sniffing_view : view (sniffingPlcEvent ev state poll).list = view state.list := by
  rw [sniffingPlcEvent]
  split
  · rfl
  · dsimp only
    split
    · rfl
    · exact (scan_content _ state.list).1

/-- A poll that finds a new id reports the alarms that are active in `rd_buf`. -/
theorem sniffing_new (mapped : view state.list = view (buildAlarmCodeList alarms))
    (success : (readAlarms ev state poll).1 = 0)
    (fresh : state.sequenceID poll.handler ≠ currentId ev.toEvent (readBlock ev state poll)) :
    (sniffingPlcEvent ev state poll).sequenceID poll.handler =
        currentId ev.toEvent (readBlock ev state poll) ∧
      (sniffingPlcEvent ev state poll).log = state.log ++ [{
        handler := poll.handler
        message := alarmMessage ev (activeAlarms alarms fun i =>
          (correctedContent ev.toEvent (readBlock ev state poll) i).toNat) }] := by
  have appended := (scan_content (correctedContent ev.toEvent (readBlock ev state poll))
    state.list).2
  rw [mapped, content_alarms_active] at appended
  rw [sniffingPlcEvent, if_neg (not_not.mpr success)]
  dsimp only
  rw [if_neg fresh]
  refine ⟨Function.update_self .., ?_⟩
  dsimp only
  rw [appended]
  rfl

theorem after_polls_view (reached : AfterPolls alarms events state) :
    view state.list = view (buildAlarmCodeList alarms) := by
  obtain ⟨sequenceID, polls, ran⟩ := reached
  have keeps (before : Alarms) (poll : AlarmPoll) (next : Alarms)
      (mapped : view before.list = view (buildAlarmCodeList alarms))
      (taken : step events before poll = some next) :
      view next.list = view (buildAlarmCodeList alarms) := by
    rw [step] at taken
    split at taken
    · cases taken
      exact sniffing_view.trans mapped
    · cases taken
  have kept := reached_of_keeps keeps rfl ran
  exact kept

theorem after_polls_step {next : Alarms} (reached : AfterPolls alarms events state)
    (taken : step events state poll = some next) : AfterPolls alarms events next := by
  obtain ⟨sequenceID, polls, ran⟩ := reached
  refine ⟨sequenceID, polls ++ [poll], ?_⟩
  rw [run_append, ran, Option.bind_some, run, taken]
  rfl

theorem read_polled (stores : StoresWords poll.finsRead) (sized : ev.plcDataSize < 2 ^ 32)
    (success : (readAlarms ev state poll).1 = 0) :
    (readAlarms ev state poll).2.length = polledBytes ev := by
  rw [polledBytes]
  cases protocol : ev.machineContex.protocol with
  | fins => exact fins_stored stores protocol success
  | rtu =>
      dsimp only
      rcases rtu_stored sized protocol success with ⟨refused, nothing⟩ | ⟨few, whole⟩
      · rw [if_pos refused]
        exact nothing
      · rw [if_neg (by omega)]
        exact whole

theorem polled_even (ev : StationEvent) : polledBytes ev % 2 = 0 := by
  rw [polledBytes]
  split
  · omega
  · split <;> omega

/-- Without the id among the bytes read, an event is made of what the buffer held. -/
theorem unread_id_changes (mapped : view state.list = view (buildAlarmCodeList alarms))
    (success : (readAlarms ev state poll).1 = 0)
    (unread : (readAlarms ev state poll).2.length = 0) :
    ∃ stack, sniffingPlcEvent ev state { poll with stack := stack } ≠ state := by
  have none : (readAlarms ev state poll).2.length ≤ 2 * 0 := Nat.le_of_eq unread
  have idOf (byte : UInt8) : (currentId ev.toEvent (readBlock ev state
      { poll with stack := fun _ => byte })).toNat = byte.toNat * 256 + byte.toNat :=
    buffer_unread ev.machineContex.wordSwap none byte
  have changed (byte : UInt8) (other : (state.sequenceID poll.handler).toNat ≠
      byte.toNat * 256 + byte.toNat) :
      sniffingPlcEvent ev state { poll with stack := fun _ => byte } ≠ state := by
    have fresh : state.sequenceID poll.handler ≠ currentId ev.toEvent (readBlock ev state
        { poll with stack := fun _ => byte }) := fun same => other (same ▸ idOf byte)
    intro same
    have read : (readAlarms ev state { poll with stack := fun _ => byte }).1 = 0 := success
    have stored := (sniffing_new mapped read fresh).1
    rw [same] at stored
    exact fresh stored
  by_cases zero : (state.sequenceID poll.handler).toNat = 0
  · exact ⟨_, changed 1 (zero ▸ by decide)⟩
  · exact ⟨_, changed 0 zero⟩

section Read

variable (mapped : view state.list = view (buildAlarmCodeList alarms))
  (success : (readAlarms ev state poll).1 = 0)
include mapped success

theorem covered_message
    (covered : ∀ i < 20, ∀ j < 16, ∀ alarm, configuredAt alarms i j = some alarm →
      alarm.enable = true → 2 * (2 + i) + 2 ≤ (readAlarms ev state poll).2.length)
    (fresh : state.sequenceID poll.handler ≠ currentId ev.toEvent (readBlock ev state poll)) :
    (sniffingPlcEvent ev state poll).log = state.log ++ [{
      handler := poll.handler
      message := alarmMessage ev (activeAlarms alarms
        (contentRead ev.machineContex.wordSwap (readAlarms ev state poll).2)) }] := by
  have same : (activeAlarms alarms fun i =>
      (correctedContent ev.toEvent (readBlock ev state poll) i).toNat) =
      activeAlarms alarms
        (contentRead ev.machineContex.wordSwap (readAlarms ev state poll).2) :=
    active_congr fun i word j bit alarm configured enabled =>
      (content_read _ (covered i word j bit alarm configured enabled) poll.stack).symm
  rw [(sniffing_new mapped success fresh).2, same]

/-- An enabled alarm whose word was not read is reported over a buffer of ones. -/
theorem uncovered_message {i j : Nat} (word : i < 20) (bit : j < 16) {alarm : PlcAlarm}
    (configured : configuredAt alarms i j = some alarm) (enabled : alarm.enable = true)
    (short : (readAlarms ev state poll).2.length < 2 * (2 + i) + 2)
    (whole : (readAlarms ev state poll).2.length % 2 = 0)
    (stack : poll.stack = fun _ => 0xFF)
    (fresh : state.sequenceID poll.handler ≠ currentId ev.toEvent (readBlock ev state poll))
    {message : Option Json}
    (decodes : Decodes (activeAlarms alarms
      (contentRead ev.machineContex.wordSwap (readAlarms ev state poll).2)) message) :
    (sniffingPlcEvent ev state poll).log ≠
      state.log ++ [{ handler := poll.handler, message := message }] := by
  intro same
  rw [(sniffing_new mapped success fresh).2, List.append_cancel_left_eq, List.singleton_inj,
    Reported.mk.injEq] at same
  have length := decodes_length (same.2 ▸ decodes)
  have ones (index : Nat) (unread : (readAlarms ev state poll).2.length ≤ 2 * (2 + index)) :
      (correctedContent ev.toEvent (readBlock ev state poll) index).toNat = 65535 := by
    have value := buffer_unread ev.machineContex.wordSwap unread 0xFF
    rw [← stack] at value
    exact value
  have set (bit : Nat) (below : bit < 16) : Nat.testBit 65535 bit = true := by
    have all : (65535 : Nat) = 2 ^ 16 - 1 := rfl
    rw [all, Nat.testBit_two_pow_sub_one]
    exact decide_eq_true below
  have unset (index bit : Nat) (unread : (readAlarms ev state poll).2.length < 2 * (2 + index) + 2) :
      (contentRead ev.machineContex.wordSwap (readAlarms ev state poll).2 index).testBit bit =
        false := by
    rw [contentRead, word_read_none _ unread]
    exact Nat.zero_testBit bit
  have grows (index bit : Nat) (active : (contentRead ev.machineContex.wordSwap
      (readAlarms ev state poll).2 index).testBit bit = true) :
      (correctedContent ev.toEvent (readBlock ev state poll) index).toNat.testBit bit = true := by
    by_cases read : 2 * (2 + index) + 2 ≤ (readAlarms ev state poll).2.length
    · rw [content_read _ read poll.stack] at active
      exact active
    · rw [unset index bit (by omega)] at active
      cases active
  have more := active_grows grows word bit configured enabled (unset i j short) ?_
  · omega
  · rw [ones i (by omega)]
    exact set j bit

end Read

/-- A poll decodes what it reads exactly when it reads enough. -/
theorem poll_decodes_iff (stores : StoresWords poll.finsRead)
    (sized : (events poll.handler).plcDataSize < 2 ^ 32)
    (reached : AfterPolls alarms events state) :
    PollDecodes alarms events state poll
        (sniffingPlcEvent (events poll.handler) state poll) ↔
      Covered alarms events state poll := by
  have mapped := after_polls_view reached
  unfold PollDecodes Covered
  dsimp only
  apply imp_congr_right
  intro success
  have length := read_polled stores sized success
  have even := polled_even (events poll.handler)
  rw [← length] at even ⊢
  by_cases known : 2 ≤ (readAlarms (events poll.handler) state poll).2.length
  · have idOf (other : Alarms) (stack : Nat → UInt8) :
        wordRead (events poll.handler).machineContex.wordSwap
            (readAlarms (events poll.handler) state poll).2 0 =
          some (currentId (events poll.handler).toEvent
            (readBlock (events poll.handler) other { poll with stack := stack })).toNat :=
      word_read_some _ known stack
    have own := idOf state poll.stack
    rw [own, and_iff_right known]
    dsimp only
    split
    · rename_i same
      have old := UInt16.toNat_inj.mp same
      refine iff_of_true (fun stack => ?_) fun fresh => absurd old fresh
      apply sniffing_same
      apply UInt16.toNat_inj.mp
      rw [← Option.some.injEq, ← idOf state stack, own, ← same]
    · rename_i other
      have fresh : state.sequenceID poll.handler ≠ currentId (events poll.handler).toEvent
          (readBlock (events poll.handler) state poll) := fun same => other (congrArg _ same)
      rw [forall_prop_of_true fresh]
      constructor
      · rintro ⟨message, decodes, -, -, anywhere⟩ i word j bit alarm configured enabled
        by_contra short
        have here := anywhere state (fun _ => 0xFF) reached other
        have read : (readAlarms (events poll.handler) state
          { poll with stack := fun _ => 0xFF }).1 = 0 := success
        refine uncovered_message mapped read word bit configured enabled (Nat.lt_of_not_le short)
          even rfl ?_ decodes here
        intro same
        have again := idOf state fun _ => 0xFF
        rw [own, Option.some.injEq] at again
        exact other (same ▸ again.symm)
      · intro covered
        refine ⟨_, alarm_message_decodes (events poll.handler) _,
          congrArg UInt16.toNat (sniffing_new mapped success fresh).1,
          covered_message mapped success covered fresh, ?_⟩
        intro earlier stack behind new
        have read : (readAlarms (events poll.handler) earlier { poll with stack := stack }).1 = 0 :=
          success
        refine covered_message (after_polls_view behind) read covered ?_
        intro same
        have again := idOf earlier stack
        rw [own, Option.some.injEq] at again
        exact new (same ▸ again.symm)
  · have none : wordRead (events poll.handler).machineContex.wordSwap
        (readAlarms (events poll.handler) state poll).2 0 = none := word_read_none _ (by omega)
    rw [none]
    refine iff_of_false (fun unchanged => ?_) fun both => known both.1
    obtain ⟨stack, changes⟩ := unread_id_changes mapped success (by omega)
    exact changes (unchanged stack)

end Sniffing

/-- In a run of polls by the alarm events of a machine each new id is reported with exactly the
active alarms of the bytes read, whatever was polled before, exactly when every poll that
succeeds reads the id and, where that is new, the words of the enabled alarms. -/
theorem alarms_decoded_iff (alarms : List PlcAlarm) {events : Nat → StationEvent}
    (sized : ∀ handler, (events handler).plcDataSize < 2 ^ 32) (sequenceID : Nat → UInt16)
    {polls : List AlarmPoll} (stores : ∀ poll ∈ polls, StoresWords poll.finsRead) :
    EachStep (step events) (PollDecodes alarms events) (Alarms.start alarms sequenceID) polls ↔
      Guarded (step events) (Covered alarms events) (Alarms.start alarms sequenceID) polls := by
  have keeps (state : Alarms) (poll : AlarmPoll) (next : Alarms)
      (reached : AfterPolls alarms events state) (taken : step events state poll = some next) :
      AfterPolls alarms events next := after_polls_step reached taken
  refine each_step_congr_mem keeps ?_ ⟨sequenceID, [], rfl⟩
  intro poll member state next reached taken
  rw [step] at taken
  split at taken
  · cases taken
    exact poll_decodes_iff (stores poll member) (sized poll.handler) reached
  · cases taken

def alarmEvent (plcBlockSize : Nat) : StationEvent where
  eventAction := .alarmCode
  eventName := "AlarmCode"
  plcEventAddr := "5000"
  eapEventAddr := "6000"
  eapDataSize := 6
  flag := "DM"
  machineContex := {
    protocol := .fins
    sectionName := "s1"
    machineName := "m1"
    wordSwap := true
    intSwap := false
    plcAlarmCodeList := fun _ => none }
  plcDataSize := plcBlockSize
  machine := 0

def doorAlarm : PlcAlarm where
  name := "door"
  enable := true
  status := true
  level := "1"
  wordOffset := 0
  bitOffset := 0

/-- A poll of the only handler behind one that left bytes of ones. -/
def alarmPoll : AlarmPoll where
  handler := 0
  connectionStatus := .connectOk
  finsRead := onesRead
  reply := none
  stack _ := 0xFF

theorem whole_block_decoded :
    EachStep (step fun _ => alarmEvent 44) (PollDecodes [doorAlarm] fun _ => alarmEvent 44)
        (Alarms.start [doorAlarm] fun _ => 0xFFFF) [alarmPoll, alarmPoll] ↔
      Guarded (step fun _ => alarmEvent 44) (Covered [doorAlarm] fun _ => alarmEvent 44)
        (Alarms.start [doorAlarm] fun _ => 0xFFFF) [alarmPoll, alarmPoll] := by
  apply alarms_decoded_iff [doorAlarm] (fun _ => by decide)
  intro poll member
  rcases List.mem_cons.mp member with rfl | later
  · exact ones_stores
  · rw [List.mem_singleton] at later
    subst later
    exact ones_stores

/-- Of four bytes the handler scans all the words: the alarm is one of the bytes left there. -/
theorem stale_alarm_reported :
    ¬ EachStep (step fun _ => alarmEvent 4) (PollDecodes [doorAlarm] fun _ => alarmEvent 4)
      (Alarms.start [doorAlarm] fun _ => 0xFFFF) [alarmPoll] := by
  intro holds
  have decodes := (holds _ rfl).1
  have reached : AfterPolls [doorAlarm] (fun _ => alarmEvent 4)
      (Alarms.start [doorAlarm] fun _ => 0xFFFF) := ⟨_, [], rfl⟩
  rw [poll_decodes_iff ones_stores (by decide) reached] at decodes
  have beyond : 6 ≤ 4 := (decodes rfl).2 (by decide) 0 (by decide) 0 (by decide) doorAlarm rfl rfl
  exact absurd beyond (by decide)

/-! ### The context -/

def PlcAlarm.profile (alarm : PlcAlarm) : Machines.PlcAlarmProfile where
  toPlcAlarmInfo := alarm.toPlcAlarmInfo
  wordOffset := alarm.wordOffset.toNat
  bitOffset := alarm.bitOffset.toNat

/-- The context of the machine answers an offset as the map does. -/
theorem build_contex_view {sectionName : String} {lineMachine : Machines.LineMachine}
    {contex : MachineContex} {alarms : List PlcAlarm}
    (configured : lineMachine.mainDeviceProfile.alarmCodeList = alarms.map PlcAlarm.profile)
    (built : Machines.buildContex sectionName lineMachine = some contex) :
    contex.plcAlarmCodeList = view (buildAlarmCodeList alarms) := by
  have lookup (key : Nat) :
      ((lineMachine.mainDeviceProfile.alarmCodeList.find? fun alarm =>
          (alarm.wordOffset * 0x10 + alarm.bitOffset) % 2 ^ 32 = key).map
        Machines.PlcAlarmProfile.toPlcAlarmInfo) = view (buildAlarmCodeList alarms) key := by
    rw [build_view, configured, List.find?_map, Option.map_map]
    have offset (alarm : PlcAlarm) :
        (alarm.profile.wordOffset * 0x10 + alarm.profile.bitOffset) % 2 ^ 32 =
          alarm.offset.toNat := by
      simp [PlcAlarm.offset, PlcAlarm.profile]
    simp only [Function.comp_def, offset]
    rfl
  simp only [Machines.buildContex] at built
  split at built
  · cases built
    exact funext lookup
  · split at built
    · cases built
      exact funext lookup
    · cases built

/-- Where the context answers as the map does, the alarms that a scan appends are those of
the report. -/
theorem scan_alarm_list {ev : Event} {list : AlarmCodeList} (block : Block)
    (same : ev.machineContex.plcAlarmCodeList = view list) :
    (scanContent (correctedContent ev block) list).alarmList = alarmList ev block := by
  rw [(scan_content _ list).2]
  unfold contentAlarms alarmList
  apply List.flatMap_congr
  intro i _
  apply List.flatMap_congr
  intro j _
  unfold bitAlarms correctedContent
  rw [same]
  cases view list (i * 0x10 + j) with
  | none => rfl
  | some alarm =>
      cases enabled : alarm.enable with
      | true => simp [enabled, Option.filter, alarmInfo]
      | false => simp [enabled, Option.filter]

end DevHub.AlarmCode
