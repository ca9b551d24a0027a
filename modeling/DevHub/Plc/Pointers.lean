import DevHub.Plc.Registry

/-!
Which pointers the heartbeats, the polls and the downstream frames follow. A run is
safe while every machine and event it follows was registered when the design was
loaded, no map holds a null pointer and the maps are the loaded ones.
-/

namespace DevHub.Pointers

open Machines Registry Transition

set_option autoImplicit false

def Holds (machine : Machine) (ev : Event) : Prop :=
  ∃ name, machine.mainEvents.find? name = some (some ev) ∨
    machine.stationsEvents.find? name = some (some ev)

/-- What `PushMainEvent`, `PushStationsEvent` and `ConstructMachine` entered. -/
def Registered (start : Director) : Use → Prop
  | .machine (some index) => ∃ key, start.machines.find? key = some (some index)
  | .machine none => False
  | .event index (.event ev) =>
      ∃ machine, start.objects[index]? = some machine ∧ Holds machine ev
  | .event _ _ => False

structure NoNull (director : Director) : Prop where
  events : ∀ machine ∈ director.objects, ∀ name,
    machine.mainEvents.find? name ≠ some none ∧ machine.stationsEvents.find? name ≠ some none
  machines : ∀ key, director.machines.find? key ≠ some none

structure Intact (start director : Director) : Prop where
  objects : director.objects = start.objects
  machines : director.machines = start.machines
  used : ∀ use ∈ director.uses, Registered start use

def Safe (start _ : Director) (_ : Happening) (after : Director) : Prop :=
  NoNull after ∧ Intact start after

/-- The names of a `WriteMachineData` call are those of a registered machine and of one
of its events. -/
def Known (director : Director) (call : Downstream.Call) : Prop :=
  ∃ index machine,
    director.machines.find? (call.sectionName ++ call.machineName) = some (some index) ∧
      director.objects[index]? = some machine ∧
        (call.eventName ∈ machine.mainEvents.keys ∨ call.eventName ∈ machine.stationsEvents.keys)

def Guard (director : Director) : Happening → Prop
  | .heartBeat index =>
      ∀ machine, director.objects[index]? = some machine → "HeartBeat" ∈ machine.mainEvents.keys
  | .valuePolling _ => True
  | .machinesPolling => True
  | .frame document => ∀ call ∈ (Downstream.onFrame document).calls, Known director call

/-! ### The loaded hub -/

theorem push_no_null {events : StdMap String (Option Event)}
    (full : ∀ name, events.find? name ≠ some none) (name other : String) (ev : Event) :
    (push events name ev).find? other ≠ some none := by
  rw [push]
  split
  · exact full other
  · rw [StdMap.find_insert]
    split
    · simp
    · exact full other

def Full (machine : Machine) : Prop :=
  ∀ name, machine.mainEvents.find? name ≠ some none ∧ machine.stationsEvents.find? name ≠ some none

theorem build_one_full {pushEvent : Machine → String → Event → Machine}
    (keeps : ∀ machine name ev, Full machine → Full (pushEvent machine name ev))
    (profiles : List StationEventProfile) {machine : Machine} (full : Full machine) :
    Full (profiles.foldl (buildOne pushEvent) machine) := by
  induction profiles generalizing machine with
  | nil => exact full
  | cons sep rest ih =>
      apply ih
      rw [buildOne]
      split
      · exact full
      · exact keeps _ _ _ full

theorem push_main_full (machine : Machine) (name : String) (ev : Event) (full : Full machine) :
    Full (pushMainEvent machine name ev) := fun other =>
  ⟨push_no_null (fun key => (full key).1) name other ev, (full other).2⟩

theorem push_stations_full (machine : Machine) (name : String) (ev : Event) (full : Full machine) :
    Full (pushStationsEvent machine name ev) := fun other =>
  ⟨(full other).1, push_no_null (fun key => (full key).2) name other ev⟩

theorem build_machine_full {sectionName : String} {lineMachine : LineMachine} {machine : Machine}
    (built : buildMachine sectionName lineMachine = some machine) : Full machine := by
  obtain ⟨contex, -, rfl⟩ := Option.map_eq_some_iff.mp built
  apply build_one_full push_main_full
  have stations (list : List LineStation) (start : Machine) (full : Full start) :
      Full (buildCustomEvents list start) := by
    induction list generalizing start with
    | nil => exact full
    | cons station rest ih => exact ih _ (build_one_full push_stations_full _ full)
  apply stations
  intro name
  simp [Machine.new, StdMap.find?, StdMap.empty]

theorem built_no_null {pairs : List (String × LineMachine)} {director : Director}
    (built : Built pairs director) : NoNull director := by
  constructor
  · intro machine member
    have listed : some machine ∈ pairs.map fun pair => buildMachine pair.1 pair.2 := by
      rw [← built.objects]
      exact List.mem_map_of_mem member
    obtain ⟨pair, -, made⟩ := List.mem_map.mp listed
    exact build_machine_full made
  · exact built.total

theorem built_placed {pairs : List (String × LineMachine)} {director : Director}
    (built : Built pairs director) {key : String} {index : Nat}
    (found : director.machines.find? key = some (some index)) :
    ∃ machine, director.objects[index]? = some machine := by
  obtain ⟨pair, here, -⟩ := Option.map_eq_some_iff.mp ((built.found key index).mp found).1
  have bound : index < director.objects.length := by
    rw [built.length]
    exact (List.getElem?_eq_some_iff.mp here).1
  exact ⟨_, List.getElem?_eq_getElem bound⟩

/-! ### What one operation follows -/

section Follow

variable {start : Director}

theorem registered_valid {use : Use} (registered : Registered start use) : use.valid = true := by
  unfold Registered at registered
  split at registered
  · rfl
  · cases registered
  · rfl
  · cases registered

theorem Intact.sound {director : Director} (intact : Intact start director) :
    director.sound = true :=
  List.all_eq_true.mpr fun use member => registered_valid (intact.used use member)

theorem Intact.use {director : Director} (intact : Intact start director) {use : Use}
    (registered : Registered start use) : Intact start (director.use use) := by
  rw [Director.use, if_pos intact.sound]
  refine ⟨intact.objects, intact.machines, ?_⟩
  intro other member
  rcases List.mem_append.mp member with before | added
  · exact intact.used other before
  · exact List.mem_singleton.mp added ▸ registered

theorem event_polling_intact (full : NoNull start) (index : Nat) {director : Director}
    (intact : Intact start director) : Intact start (eventPolling index director) := by
  unfold eventPolling
  split
  · exact intact
  · rename_i machine object
    rw [intact.objects] at object
    have member := List.mem_of_getElem? object
    have registered : ∀ entry ∈ machine.mainEvents.entries ++ machine.stationsEvents.entries,
        Registered start (.event index (.ofEntry entry.2)) := by
      intro entry listed
      obtain ⟨name, pointer⟩ := entry
      have found : machine.mainEvents.find? name = some pointer ∨
          machine.stationsEvents.find? name = some pointer :=
        (List.mem_append.mp listed).imp StdMap.find_eq_some.mpr StdMap.find_eq_some.mpr
      cases pointer with
      | none =>
          rcases found with main | station
          · exact absurd main (full.events machine member name).1
          · exact absurd station (full.events machine member name).2
      | some ev => exact ⟨machine, object, name, found⟩
    generalize machine.mainEvents.entries ++ machine.stationsEvents.entries = entries at registered
    induction entries generalizing director with
    | nil => exact intact
    | cons entry rest ih =>
        obtain ⟨head, tail⟩ := List.forall_mem_cons.mp registered
        exact ih (intact.use head) tail

theorem machines_polling_intact (full : NoNull start) {director : Director}
    (intact : Intact start director) : Intact start (machinesPolling director) := by
  rw [machinesPolling, intact.machines]
  have listed : ∀ entry ∈ start.machines.entries, start.machines.find? entry.1 = some entry.2 :=
    fun entry member => StdMap.find_eq_some.mpr member
  generalize start.machines.entries = entries at listed
  induction entries generalizing director with
  | nil => exact intact
  | cons entry rest ih =>
      obtain ⟨head, tail⟩ := List.forall_mem_cons.mp listed
      apply ih _ tail
      dsimp only
      split
      · rename_i null
        exact absurd (null ▸ head) (full.machines entry.1)
      · rename_i index placed
        apply event_polling_intact full
        exact intact.use ⟨entry.1, placed ▸ head⟩

theorem get_event_registered (full : NoNull start) {index : Nat} {machine : Machine}
    (object : start.objects[index]? = some machine) {eventName : String}
    (known : eventName ∈ machine.mainEvents.keys ∨ eventName ∈ machine.stationsEvents.keys) :
    Registered start (.event index (getEvent machine eventName)) := by
  have member := List.mem_of_getElem? object
  obtain ⟨main, station⟩ := full.events machine member eventName
  unfold getEvent
  split
  · rename_i pointer found
    cases pointer with
    | none => exact absurd found main
    | some ev => exact ⟨machine, object, eventName, Or.inl found⟩
  · rename_i pointer _ found
    cases pointer with
    | none => exact absurd found station
    | some ev => exact ⟨machine, object, eventName, Or.inr found⟩
  · rename_i absent missing
    rw [StdMap.mem_keys, StdMap.mem_keys, absent, missing] at known
    simp at known

theorem write_known (full : NoNull start) {director : Director} (intact : Intact start director)
    {call : Downstream.Call} (known : Known start call) :
    Intact start
      (writeMachineData director call.sectionName call.machineName call.eventName) := by
  obtain ⟨index, machine, found, object, named⟩ := known
  rw [writeMachineData, intact.machines, found]
  dsimp only
  rw [intact.objects, object]
  have registered : Registered start (.machine (some index)) := ⟨_, found⟩
  exact (intact.use registered).use (get_event_registered full object named)

/-- A hub that is no longer intact: it followed an unregistered pointer or its map of
machines has a key that was not loaded. Both stay so. -/
def Broken (start director : Director) : Prop :=
  (∃ use ∈ director.uses, ¬ Registered start use) ∨
    ∃ key ∈ director.machines.keys, key ∉ start.machines.keys

theorem broken_not_intact {director : Director} (broken : Broken start director) :
    ¬ Intact start director := by
  intro intact
  rcases broken with ⟨use, member, unregistered⟩ | ⟨key, member, unknown⟩
  · exact unregistered (intact.used use member)
  · exact unknown (intact.machines ▸ member)

theorem Broken.use {director : Director} (broken : Broken start director) (use : Use) :
    Broken start (director.use use) := by
  rw [Director.use]
  split
  · apply broken.imp_left
    rintro ⟨other, member, unregistered⟩
    exact ⟨other, List.mem_append_left _ member, unregistered⟩
  · exact broken

theorem Broken.write {director : Director} (broken : Broken start director)
    (sectionName machineName eventName : String) :
    Broken start (writeMachineData director sectionName machineName eventName) := by
  unfold writeMachineData
  split
  · split
    · apply broken.imp_right
      rintro ⟨key, member, unknown⟩
      exact ⟨key, StdMap.mem_keys_insert.mpr (Or.inr member), unknown⟩
    · exact broken
  · exact broken
  · split
    · exact broken
    · exact (broken.use _).use _

theorem write_unknown {pairs : List (String × LineMachine)} (built : Built pairs start)
    {director : Director} (intact : Intact start director) {call : Downstream.Call}
    (unknown : ¬ Known start call) :
    Broken start (writeMachineData director call.sectionName call.machineName call.eventName) := by
  unfold writeMachineData
  rw [intact.machines, if_pos intact.sound]
  split
  · rename_i missing
    right
    refine ⟨_, StdMap.mem_keys_insert.mpr (Or.inl rfl), ?_⟩
    rw [StdMap.mem_keys, missing]
    simp
  · rename_i null
    exact absurd null (built.total _)
  · rename_i index found
    obtain ⟨machine, object⟩ := built_placed built found
    rw [intact.objects, object]
    left
    have registered : Registered start (.machine (some index)) := ⟨_, found⟩
    have first := intact.use registered
    refine ⟨.event index (getEvent machine call.eventName), ?_, ?_⟩
    · dsimp only
      rw [Director.use, if_pos first.sound]
      simp
    · have nothing : getEvent machine call.eventName = .nothing := by
        have unnamed : ¬ (call.eventName ∈ machine.mainEvents.keys ∨
            call.eventName ∈ machine.stationsEvents.keys) := fun named =>
          unknown ⟨index, machine, found, object, named⟩
        rw [StdMap.mem_keys, StdMap.mem_keys, not_or] at unnamed
        rw [getEvent, Option.eq_none_iff_forall_ne_some.mpr (not_exists.mp unnamed.1),
          Option.eq_none_iff_forall_ne_some.mpr (not_exists.mp unnamed.2)]
      rw [nothing]
      exact id

theorem broken_calls {director : Director} (broken : Broken start director)
    (calls : List Downstream.Call) :
    Broken start (calls.foldl (fun director call =>
      writeMachineData director call.sectionName call.machineName call.eventName) director) := by
  induction calls generalizing director with
  | nil => exact broken
  | cons call rest ih => exact ih (broken.write _ _ _)

theorem calls_known (full : NoNull start) {director : Director} (intact : Intact start director)
    {calls : List Downstream.Call} (known : ∀ call ∈ calls, Known start call) :
    Intact start (calls.foldl (fun director call =>
      writeMachineData director call.sectionName call.machineName call.eventName) director) := by
  induction calls generalizing director with
  | nil => exact intact
  | cons call rest ih =>
      obtain ⟨head, tail⟩ := List.forall_mem_cons.mp known
      exact ih (write_known full intact head) tail

theorem calls_unknown {pairs : List (String × LineMachine)} (built : Built pairs start)
    {director : Director} (intact : Intact start director) {calls : List Downstream.Call}
    (unknown : ¬ ∀ call ∈ calls, Known start call) :
    Broken start (calls.foldl (fun director call =>
      writeMachineData director call.sectionName call.machineName call.eventName) director) := by
  induction calls generalizing director with
  | nil => exact absurd (List.forall_mem_nil _) unknown
  | cons call rest ih =>
      by_cases head : Known start call
      · apply ih (write_known (built_no_null built) intact head)
        intro tail
        exact unknown (List.forall_mem_cons.mpr ⟨head, tail⟩)
      · exact broken_calls (write_unknown built intact head) rest

end Follow

/-! ### Runs -/

theorem Known.of_intact {start director : Director} (intact : Intact start director)
    {call : Downstream.Call} : Known director call ↔ Known start call := by
  rw [Known, intact.objects, intact.machines]
  exact Iff.rfl

theorem intact_no_null {start director : Director} (full : NoNull start)
    (intact : Intact start director) : NoNull director :=
  ⟨intact.objects ▸ full.events, intact.machines ▸ full.machines⟩

theorem step_guarded {pairs : List (String × LineMachine)} {start : Director}
    (built : Built pairs start) (director : Director) (happening : Happening) (after : Director)
    (intact : Intact start director) (guard : Guard director happening)
    (taken : step director happening = some after) : Intact start after := by
  have full := built_no_null built
  simp only [step, if_pos intact.sound] at taken
  cases happening with
  | heartBeat index =>
      obtain ⟨machine, object, rfl⟩ := Option.map_eq_some_iff.mp taken
      obtain ⟨pointer, found⟩ := StdMap.mem_keys.mp (guard machine object)
      rw [intact.objects] at object
      rw [heartBeat, found]
      cases pointer with
      | none => exact absurd found (full.events machine (List.mem_of_getElem? object) _).1
      | some ev => exact intact.use ⟨machine, object, _, Or.inl found⟩
  | valuePolling index =>
      obtain ⟨machine, -, rfl⟩ := Option.map_eq_some_iff.mp taken
      exact event_polling_intact full index intact
  | machinesPolling =>
      cases taken
      exact machines_polling_intact full intact
  | frame document =>
      cases taken
      exact calls_known full intact fun call member =>
        (Known.of_intact intact).mp (guard call member)

theorem step_unguarded {pairs : List (String × LineMachine)} {start : Director}
    (built : Built pairs start) (director : Director) (happening : Happening) (after : Director)
    (intact : Intact start director) (outside : ¬ Guard director happening)
    (taken : step director happening = some after) : ¬ Intact start after := by
  simp only [step, if_pos intact.sound] at taken
  cases happening with
  | heartBeat index =>
      obtain ⟨machine, object, rfl⟩ := Option.map_eq_some_iff.mp taken
      have absent : machine.mainEvents.find? "HeartBeat" = none := by
        by_contra present
        apply outside
        intro other same
        cases object.symm.trans same
        exact StdMap.mem_keys.mpr (Option.ne_none_iff_exists'.mp present)
      rw [heartBeat, absent]
      intro unchanged
      have objects := unchanged.objects
      rw [← intact.objects] at objects
      have position := congrArg (fun list => list[index]?) objects
      simp only [List.getElem?_set_self (List.getElem?_eq_some_iff.mp object).1, object,
        Option.some.injEq] at position
      have events := congrArg (fun machine => machine.mainEvents.find? "HeartBeat") position
      simp [StdMap.find_insert, absent] at events
  | valuePolling index => exact absurd trivial outside
  | machinesPolling => exact absurd trivial outside
  | frame document =>
      cases taken
      apply broken_not_intact
      apply calls_unknown built intact
      intro known
      exact outside fun call member => (Known.of_intact intact).mpr (known call member)

/-- The pointers of a run are registered, and the maps as loaded, exactly while every
heartbeat finds its event and every frame names machines and events that exist. -/
theorem registered_only_iff_guarded {design : List LineSection} {start : Director}
    (loaded : flashLineMachineList design = some start) (happenings : List Happening) :
    EachStep step (Safe start) start happenings ↔ Guarded step Guard start happenings := by
  have built := flash_built loaded
  have full := built_no_null built
  have initial : Intact start start := ⟨rfl, rfl, by simp [built.unused]⟩
  have keeps (director : Director) (happening : Happening) (after : Director)
      (intact : Intact start director) (guard : Guard director happening)
      (taken : step director happening = some after) :
      Intact start after ∧ Safe start director happening after := by
    have kept := step_guarded built director happening after intact guard taken
    exact ⟨kept, intact_no_null full kept, kept⟩
  have breaks (director : Director) (happening : Happening) (after : Director)
      (intact : Intact start director) (outside : ¬ Guard director happening)
      (taken : step director happening = some after) : ¬ Safe start director happening after :=
    fun safe => step_unguarded built director happening after intact outside taken safe.2
  exact each_step_iff_guarded keeps breaks initial

/-- A line without the event: its first heartbeat leaves a null pointer, which the next
poll follows. -/
theorem heart_beat_null : ∃ start, flashLineMachineList namedMachines = some start ∧
    ¬ EachStep step (Safe start) start [.heartBeat 0, .valuePolling 0] := by
  refine ⟨_, rfl, ?_⟩
  intro safe
  have first := (safe _ rfl).1.1
  exact (first.events _ List.mem_cons_self "HeartBeat").1 rfl

def beatingStation : LineMachine :=
  { solderStation with
    name := ""
    mainDeviceProfile := { solderStation.mainDeviceProfile with
      mainEvents := {
        name := "HeartBeat"
        action := "HeartBeat"
        flag := "DM"
        plcBlockAddress := "300"
        plcBlockSize := 2
        eapBlockAddress := "400"
        eapBlockSize := 2 } :: solderStation.mainDeviceProfile.mainEvents } }

def beatingLine : List LineSection :=
  [{ name := "s1", machines := [beatingStation] }, { name := "s2", machines := [beatingStation] }]

/-- The event of the frame stands beside the machines, where the walk looks for it. -/
def alarmFrame : Json :=
  .object [("SectionList", .array [.object [
      ("EventList", .array [.object [("Name", .string "alarm")]]),
      ("MachineList", .array [.object [("Name", .string "")]]),
      ("Name", .string "s1")]]),
    ("SequenceID", .int 7)]

theorem polls_registered : ∃ start, flashLineMachineList beatingLine = some start ∧
    EachStep step (Safe start) start
      [.heartBeat 1, .valuePolling 0, .frame (some alarmFrame), .machinesPolling, .heartBeat 0] := by
  refine ⟨_, rfl, ?_⟩
  apply (@registered_only_iff_guarded beatingLine _ rfl _).mpr
  intro _ beaten
  cases beaten
  refine ⟨?_, ?_⟩
  · intro machine here
    cases here
    decide
  intro _ polled
  cases polled
  refine ⟨trivial, ?_⟩
  intro _ framed
  cases framed
  refine ⟨?_, ?_⟩
  · intro call member
    have only : call = ⟨"s1", "", "alarm", .object [("Name", .string "alarm")]⟩ :=
      List.mem_singleton.mp member
    subst only
    exact ⟨0, _, rfl, rfl, .inl (by decide)⟩
  intro _ again
  cases again
  refine ⟨trivial, ?_⟩
  intro _ last
  refine ⟨?_, trivial⟩
  intro machine here
  cases here
  decide

end DevHub.Pointers
