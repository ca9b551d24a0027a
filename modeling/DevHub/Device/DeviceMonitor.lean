import DevHub.Library.Run
import DevHub.Library.StdMap
import Mathlib.Data.String.Basic

/-!
The ticks of `DeviceMonitor::OnTimer`. Each tick gets the keyboards that are plugged in and
tells them by the handler that `get_handler_starting_with` selects, which only looks at the
first character. A peripheral that has left is erased in the middle of the loop over the map.
-/

namespace DevHub.DeviceMonitor

open Transition

set_option autoImplicit false

structure Device where
  handlers : List String

/-- `find_first_of` searches for a character of the set. -/
def getHandlerStartingWith (device : Device) (startsWith : String) : String :=
  (device.handlers.find? fun handler =>
    handler.toList.head?.any fun first => startsWith.toList.contains first).getD ""

def Device.name (device : Device) : String := getHandlerStartingWith device "event"

/-- The peripheral; only an open that succeeds sets `m_fd` and `m_rwEvent`. -/
structure Usb where
  devName : String
  opened : Bool

/-- The calls of a tick. `erasedIterator` is the advance of an iterator that was erased. -/
inductive Call where
  | openPeripheral (dev : String) (success : Bool)
  | close (dev : String) (opened : Bool)
  | delete (dev : String)
  | erasedIterator
  deriving DecidableEq

structure Monitor where
  peripherals : StdMap String Usb
  log : List Call

def Monitor.start : Monitor where
  peripherals := .empty
  log := []

/-- The keyboards of a tick, and what the devices answer to `open`. -/
structure Tick where
  keyboards : List Device
  opens : String → Bool

def Monitor.leave (monitor : Monitor) (dev : String) (usb : Usb) : Monitor where
  peripherals := monitor.peripherals.erase dev
  log := monitor.log ++ [.close dev usb.opened, .delete dev, .erasedIterator]

def Monitor.arrive (monitor : Monitor) (dev : String) (success : Bool) : Monitor where
  peripherals := monitor.peripherals.insert dev {
    devName := "/dev/input/" ++ dev
    opened := success }
  log := monitor.log ++ [.openPeripheral dev success]

def found (keyboards : List Device) (dev : String) : Bool :=
  keyboards.any fun device => device.name = dev

/-- The first loop, with its flag. Behind an erased entry it goes on with the next one. -/
def removeLoop (keyboards : List Device) (flag : Bool) (monitor : Monitor) :
    List (String × Usb) → Monitor
  | [] => monitor
  | (dev, usb) :: rest =>
      let flag := if found keyboards dev then true else flag
      if flag = false then removeLoop keyboards flag (monitor.leave dev usb) rest
      else removeLoop keyboards false monitor rest

def addLoop (opens : String → Bool) (monitor : Monitor) : List Device → Monitor
  | [] => monitor
  | device :: rest =>
      match monitor.peripherals.find? device.name with
      | some _ => addLoop opens monitor rest
      | none => addLoop opens (monitor.arrive device.name (opens device.name)) rest

def onTimer (monitor : Monitor) (tick : Tick) : Monitor :=
  addLoop tick.opens
    (removeLoop tick.keyboards false monitor monitor.peripherals.entries) tick.keyboards

def step : Step Monitor Tick := fun monitor tick => some (onTimer monitor tick)

/-! ### What a tick should do -/

def IsEvent (handler : String) : Prop := "event".toList <+: handler.toList

instance (handler : String) : Decidable (IsEvent handler) :=
  inferInstanceAs (Decidable (_ <+: _))

def Present (tick : Tick) (handler : String) : Prop :=
  ∃ device ∈ tick.keyboards, handler ∈ device.handlers ∧ IsEvent handler

def Left (before : Monitor) (tick : Tick) (dev : String) : Prop :=
  dev ∈ before.peripherals.keys ∧ ¬ Present tick dev

def New (before : Monitor) (tick : Tick) (dev : String) : Prop :=
  Present tick dev ∧ dev ∉ before.peripherals.keys

def Call.opens (dev : String) : Call → Bool
  | openPeripheral name _ => name = dev
  | _ => false

def Call.closes (dev : String) : Call → Bool
  | close name _ => name = dev
  | _ => false

def Call.deletes (dev : String) : Call → Bool
  | delete name => name = dev
  | _ => false

structure Proper (before : Monitor) (tick : Tick) (calls : List Call) : Prop where
  left : ∀ dev, Left before tick dev →
    calls.countP (Call.closes dev) = 1 ∧ calls.countP (Call.deletes dev) = 1
  stayed : ∀ dev, ¬ Left before tick dev →
    calls.countP (Call.closes dev) = 0 ∧ calls.countP (Call.deletes dev) = 0
  arrived : ∀ dev, New before tick dev → calls.countP (Call.opens dev) = 1
  others : ∀ dev, ¬ New before tick dev → calls.countP (Call.opens dev) = 0
  opened : ∀ dev opened, .close dev opened ∈ calls → opened = true
  iterator : .erasedIterator ∉ calls

structure Tracked (before : Monitor) (tick : Tick) (after : Monitor) : Prop where
  keys : ∀ dev, dev ∈ after.peripherals.keys ↔ Present tick dev
  calls : ∃ calls, after.log = before.log ++ calls ∧ Proper before tick calls

/-- No peripheral leaves, and the first handler of a device that begins with one of the
letters of `event` begins with the word, and is the only kind of handler that does. -/
structure Steady (before : Monitor) (tick : Tick) : Prop where
  stays : ∀ dev ∈ before.peripherals.keys, ∃ device ∈ tick.keyboards, device.name = dev
  events : ∀ device ∈ tick.keyboards, IsEvent device.name
  selected : ∀ device ∈ tick.keyboards, ∀ handler ∈ device.handlers, IsEvent handler →
    ∃ other ∈ tick.keyboards, other.name = handler

/-! ### The loops -/

theorem found_iff {keyboards : List Device} {dev : String} :
    found keyboards dev = true ↔ ∃ device ∈ keyboards, device.name = dev := by
  simp [found]

theorem remove_cons (keyboards : List Device) (monitor : Monitor) (dev : String) (usb : Usb)
    (rest : List (String × Usb)) :
    removeLoop keyboards false monitor ((dev, usb) :: rest) =
      removeLoop keyboards false
        (if found keyboards dev = true then monitor else monitor.leave dev usb) rest := by
  rw [removeLoop]
  cases found keyboards dev with
  | true => rfl
  | false => rfl

theorem remove_keys {keyboards : List Device} {monitor : Monitor} {entries : List (String × Usb)}
    {dev : String} :
    dev ∈ (removeLoop keyboards false monitor entries).peripherals.keys ↔
      dev ∈ monitor.peripherals.keys ∧ (dev ∈ entries.map Prod.fst → found keyboards dev = true) := by
  induction entries generalizing monitor with
  | nil => simp [removeLoop]
  | cons entry rest ih =>
      obtain ⟨name, usb⟩ := entry
      rw [remove_cons, ih, List.map_cons, List.mem_cons]
      cases present : found keyboards name with
      | true =>
          rw [if_pos rfl]
          apply and_congr_right
          intro _
          constructor
          · rintro later (rfl | member)
            · exact present
            · exact later member
          · exact fun all member => all (Or.inr member)
      | false =>
          rw [if_neg Bool.false_ne_true, Monitor.leave, StdMap.mem_keys_erase]
          constructor
          · rintro ⟨⟨kept, different⟩, later⟩
            refine ⟨kept, ?_⟩
            rintro (same | member)
            · exact absurd same different
            · exact later member
          · rintro ⟨kept, all⟩
            refine ⟨⟨kept, ?_⟩, fun member => all (Or.inr member)⟩
            rintro rfl
            rw [all (Or.inl rfl)] at present
            cases present

def removal (keyboards : List Device) (entry : String × Usb) : List Call :=
  if found keyboards entry.1 = true then []
  else [.close entry.1 entry.2.opened, .delete entry.1, .erasedIterator]

theorem remove_log (keyboards : List Device) (monitor : Monitor) (entries : List (String × Usb)) :
    (removeLoop keyboards false monitor entries).log =
      monitor.log ++ entries.flatMap (removal keyboards) := by
  induction entries generalizing monitor with
  | nil => exact (List.append_nil _).symm
  | cons entry rest ih =>
      obtain ⟨name, usb⟩ := entry
      rw [remove_cons, ih, List.flatMap_cons, removal]
      cases found keyboards name with
      | true => rfl
      | false =>
          simp only [Bool.false_eq_true, if_false, Monitor.leave, List.append_assoc]

theorem add_cons_found {opens : String → Bool} {monitor : Monitor} {device : Device}
    {rest : List Device} (known : device.name ∈ monitor.peripherals.keys) :
    addLoop opens monitor (device :: rest) = addLoop opens monitor rest := by
  obtain ⟨usb, present⟩ := StdMap.mem_keys.mp known
  rw [addLoop, present]

theorem add_cons_new {opens : String → Bool} {monitor : Monitor} {device : Device}
    {rest : List Device} (unknown : device.name ∉ monitor.peripherals.keys) :
    addLoop opens monitor (device :: rest) =
      addLoop opens (monitor.arrive device.name (opens device.name)) rest := by
  have absent : monitor.peripherals.find? device.name = none := by
    cases present : monitor.peripherals.find? device.name with
    | none => rfl
    | some usb => exact absurd (StdMap.mem_keys.mpr ⟨usb, present⟩) unknown
  rw [addLoop, absent]

theorem arrive_keys {monitor : Monitor} {name dev : String} {success : Bool} :
    dev ∈ (monitor.arrive name success).peripherals.keys ↔
      dev = name ∨ dev ∈ monitor.peripherals.keys :=
  StdMap.mem_keys_insert

theorem add_keys {opens : String → Bool} {monitor : Monitor} {keyboards : List Device}
    {dev : String} :
    dev ∈ (addLoop opens monitor keyboards).peripherals.keys ↔
      dev ∈ monitor.peripherals.keys ∨ ∃ device ∈ keyboards, device.name = dev := by
  induction keyboards generalizing monitor with
  | nil => simp [addLoop]
  | cons device rest ih =>
      rw [List.exists_mem_cons_iff]
      by_cases known : device.name ∈ monitor.peripherals.keys
      · rw [add_cons_found known, ih]
        constructor
        · rintro (kept | later)
          · exact Or.inl kept
          · exact Or.inr (Or.inr later)
        · rintro (kept | rfl | later)
          · exact Or.inl kept
          · exact Or.inl known
          · exact Or.inr later
      · rw [add_cons_new known, ih, arrive_keys, or_comm (a := dev = device.name), or_assoc,
          eq_comm (a := dev)]

def Arriving (monitor : Monitor) (keyboards : List Device) (dev : String) : Prop :=
  (∃ device ∈ keyboards, device.name = dev) ∧ dev ∉ monitor.peripherals.keys

theorem arriving_cons_found {monitor : Monitor} {device : Device} {rest : List Device}
    (known : device.name ∈ monitor.peripherals.keys) {dev : String} :
    Arriving monitor (device :: rest) dev ↔ Arriving monitor rest dev := by
  rw [Arriving, Arriving, List.exists_mem_cons_iff]
  apply and_congr_left
  intro unknown
  exact or_iff_right fun same => unknown (same ▸ known)

theorem arriving_cons_new {monitor : Monitor} {device : Device} {rest : List Device}
    {success : Bool} {dev : String} (other : device.name ≠ dev) :
    Arriving monitor (device :: rest) dev ↔
      Arriving (monitor.arrive device.name success) rest dev := by
  rw [Arriving, Arriving, List.exists_mem_cons_iff, arrive_keys, or_iff_right other,
    or_iff_right (Ne.symm other)]

theorem add_log (opens : String → Bool) (monitor : Monitor) (keyboards : List Device) :
    ∃ calls, (addLoop opens monitor keyboards).log = monitor.log ++ calls ∧
      (∀ call ∈ calls, ∃ dev success, call = .openPeripheral dev success) ∧
      ∀ dev, (Arriving monitor keyboards dev → calls.countP (Call.opens dev) = 1) ∧
        (¬ Arriving monitor keyboards dev → calls.countP (Call.opens dev) = 0) := by
  induction keyboards generalizing monitor with
  | nil =>
      refine ⟨[], (List.append_nil _).symm, List.forall_mem_nil _, fun dev => ⟨?_, fun _ => rfl⟩⟩
      rintro ⟨⟨device, member, -⟩, -⟩
      cases member
  | cons device rest ih =>
      by_cases known : device.name ∈ monitor.peripherals.keys
      · rw [add_cons_found known]
        obtain ⟨calls, log, opens, counts⟩ := ih monitor
        refine ⟨calls, log, opens, fun dev => ?_⟩
        rw [arriving_cons_found known]
        exact counts dev
      · rw [add_cons_new known]
        obtain ⟨calls, log, opened, counts⟩ :=
          ih (monitor.arrive device.name (opens device.name))
        refine ⟨.openPeripheral device.name (opens device.name) :: calls, ?_, ?_, fun dev => ?_⟩
        · rw [log, Monitor.arrive, List.append_assoc, List.singleton_append]
        · exact List.forall_mem_cons.mpr ⟨⟨_, _, rfl⟩, opened⟩
        · by_cases same : device.name = dev
          · -- The peripheral is in the map for the rest of the loop.
            have once : calls.countP (Call.opens dev) = 0 :=
              (counts dev).2 fun arriving => arriving.2 (arrive_keys.mpr (Or.inl same.symm))
            have arriving : Arriving monitor (device :: rest) dev :=
              ⟨⟨device, List.mem_cons_self, same⟩, same ▸ known⟩
            have counted : Call.opens dev (.openPeripheral device.name (opens device.name)) = true :=
              decide_eq_true same
            rw [List.countP_cons_of_pos counted, once]
            exact ⟨fun _ => rfl, fun no => absurd arriving no⟩
          · have skipped : ¬ Call.opens dev (.openPeripheral device.name (opens device.name)) = true :=
              fun counted => same (of_decide_eq_true counted)
            rw [List.countP_cons_of_neg skipped, arriving_cons_new same]
            exact counts dev

/-! ### A tick -/

theorem tick_keys (monitor : Monitor) (tick : Tick) (dev : String) :
    dev ∈ (onTimer monitor tick).peripherals.keys ↔
      ∃ device ∈ tick.keyboards, device.name = dev := by
  rw [onTimer, add_keys, remove_keys, found_iff]
  constructor
  · rintro (⟨kept, here⟩ | here)
    · exact here kept
    · exact here
  · exact Or.inr

theorem name_cases (device : Device) : device.name = "" ∨ device.name ∈ device.handlers := by
  rw [Device.name, getHandlerStartingWith]
  cases selected : device.handlers.find? fun handler =>
      handler.toList.head?.any fun first => "event".toList.contains first with
  | none => exact Or.inl rfl
  | some handler => exact Or.inr (List.mem_of_find?_eq_some selected)

/-- When the names under which the devices are kept are their handlers beginning with
`event`. -/
theorem names_present_iff (tick : Tick) :
    (∀ dev, (∃ device ∈ tick.keyboards, device.name = dev) ↔ Present tick dev) ↔
      (∀ device ∈ tick.keyboards, IsEvent device.name) ∧
        ∀ device ∈ tick.keyboards, ∀ handler ∈ device.handlers, IsEvent handler →
          ∃ other ∈ tick.keyboards, other.name = handler := by
  constructor
  · intro same
    constructor
    · intro device member
      obtain ⟨-, -, -, event⟩ := (same device.name).mp ⟨device, member, rfl⟩
      exact event
    · intro device member handler among event
      exact (same handler).mpr ⟨device, member, among, event⟩
  · rintro ⟨events, selected⟩ dev
    constructor
    · rintro ⟨device, member, rfl⟩
      have event := events device member
      refine ⟨device, member, ?_, event⟩
      rcases name_cases device with empty | among
      · rw [empty] at event
        exact absurd event (by decide)
      · exact among
    · rintro ⟨device, member, among, event⟩
      exact selected device member dev among event

/-- What a tick adds to the log: the removals, and the calls for the arrivals. -/
theorem tick_log (before : Monitor) (tick : Tick) :
    ∃ calls, (onTimer before tick).log =
        before.log ++ (before.peripherals.entries.flatMap (removal tick.keyboards) ++ calls) ∧
      (∀ call ∈ calls, ∃ dev success, call = .openPeripheral dev success) ∧
      ∀ dev, (Arriving (removeLoop tick.keyboards false before before.peripherals.entries)
          tick.keyboards dev → calls.countP (Call.opens dev) = 1) ∧
        (¬ Arriving (removeLoop tick.keyboards false before before.peripherals.entries)
          tick.keyboards dev → calls.countP (Call.opens dev) = 0) := by
  obtain ⟨calls, log, opens, counts⟩ := add_log tick.opens
    (removeLoop tick.keyboards false before before.peripherals.entries) tick.keyboards
  exact ⟨calls, by rw [onTimer, log, remove_log, List.append_assoc], opens, counts⟩

/-- A departure advances an iterator that was erased. -/
theorem departure_breaks {before : Monitor} {tick : Tick} {dev : String}
    (kept : dev ∈ before.peripherals.keys)
    (gone : ¬ ∃ device ∈ tick.keyboards, device.name = dev) :
    ¬ ∃ calls, (onTimer before tick).log = before.log ++ calls ∧ Proper before tick calls := by
  rintro ⟨calls, log, proper⟩
  obtain ⟨others, whole, -⟩ := tick_log before tick
  apply proper.iterator
  rw [List.append_cancel_left (log.symm.trans whole)]
  apply List.mem_append_left
  obtain ⟨entry, member, rfl⟩ := List.mem_map.mp kept
  refine List.mem_flatMap.mpr ⟨entry, member, ?_⟩
  rw [removal, if_neg (mt found_iff.mp gone)]
  simp

theorem tracked_of_steady {before : Monitor} {tick : Tick} (steady : Steady before tick) :
    Tracked before tick (onTimer before tick) := by
  have names := (names_present_iff tick).mpr ⟨steady.events, steady.selected⟩
  have keys (dev : String) : dev ∈ (onTimer before tick).peripherals.keys ↔ Present tick dev :=
    (tick_keys before tick dev).trans (names dev)
  have noneLeft (dev : String) : ¬ Left before tick dev :=
    fun left => left.2 ((names dev).mp (steady.stays dev left.1))
  have silent : before.peripherals.entries.flatMap (removal tick.keyboards) = [] := by
    rw [List.flatMap_eq_nil_iff]
    intro entry member
    exact if_pos (found_iff.mpr (steady.stays entry.1 (List.mem_map_of_mem member)))
  have arriving (dev : String) :
      Arriving (removeLoop tick.keyboards false before before.peripherals.entries)
        tick.keyboards dev ↔ New before tick dev := by
    have same : dev ∈ (removeLoop tick.keyboards false before
        before.peripherals.entries).peripherals.keys ↔ dev ∈ before.peripherals.keys := by
      rw [remove_keys, found_iff]
      exact and_iff_left_of_imp fun kept _ => steady.stays dev kept
    rw [Arriving, New, names dev, same]
  obtain ⟨calls, log, opens, counts⟩ := tick_log before tick
  rw [silent, List.nil_append] at log
  have none (test : Call → Bool) (passes : ∀ dev success, test (.openPeripheral dev success) = false) :
      calls.countP test = 0 := by
    rw [List.countP_eq_zero]
    intro call member
    obtain ⟨dev, success, rfl⟩ := opens call member
    simp [passes]
  refine ⟨keys, calls, log, ?_⟩
  constructor
  · exact fun dev left => absurd left (noneLeft dev)
  · exact fun dev _ => ⟨none _ fun _ _ => rfl, none _ fun _ _ => rfl⟩
  · exact fun dev new => (counts dev).1 ((arriving dev).mpr new)
  · exact fun dev old => (counts dev).2 fun new => old ((arriving dev).mp new)
  · intro dev opened member
    obtain ⟨_, _, same⟩ := opens _ member
    cases same
  · intro member
    obtain ⟨_, _, same⟩ := opens _ member
    cases same

theorem steady_of_tracked {before : Monitor} {tick : Tick}
    (tracked : Tracked before tick (onTimer before tick)) : Steady before tick := by
  have names (dev : String) : (∃ device ∈ tick.keyboards, device.name = dev) ↔ Present tick dev :=
    (tick_keys before tick dev).symm.trans (tracked.keys dev)
  obtain ⟨events, selected⟩ := (names_present_iff tick).mp names
  refine ⟨?_, events, selected⟩
  intro dev kept
  by_contra gone
  exact departure_breaks kept gone tracked.calls

/-- In every run of ticks the map and the calls follow the devices exactly when none of them
leaves and the selected handlers are those beginning with `event`. -/
theorem tracked_iff_steady (monitor : Monitor) (ticks : List Tick) :
    EachStep step Tracked monitor ticks ↔ Guarded step Steady monitor ticks := by
  apply each_step_congr (fun _ _ _ _ _ => trivial) _ trivial
  intro before tick after _ taken
  obtain rfl := Option.some.inj taken
  exact ⟨steady_of_tracked, tracked_of_steady⟩

def plugged : Tick where
  keyboards := [{ handlers := ["sysrq", "kbd", "event3"] }]
  opens _ := true

def unplugged : Tick where
  keyboards := []
  opens _ := true

theorem unplugged_not_tracked : ¬ EachStep step Tracked .start [plugged, unplugged] := by
  intro tracked
  have second := ((tracked _ rfl).2 _ rfl).1
  have kept : "event3" ∈ (onTimer .start plugged).peripherals.keys := by decide
  have gone : ¬ ∃ device ∈ unplugged.keyboards, device.name = "event3" := by decide
  exact departure_breaks kept gone second.calls

end DevHub.DeviceMonitor
