import DevHub.Plc.Registry

/-!
`Director::ConstructMachine` over the builder it shares with every other machine. A
`Machine *` is the position of its object among those that `BuildMachine` created, and a
deleted object leaves its position empty. `m_machine` outlives the `delete` of a machine
with an unknown protocol, so the two later steps of the builder and the director itself
follow it; `faults` lists where they do.
-/

namespace DevHub.Construct

open Machines Transition
open PlcEvent (MachineContex)

set_option autoImplicit false

inductive PlcProxy where
  | fins
  | rtu

/-- What `GetPlcProxy` returns; `ModBus` leaves it without a value. -/
inductive ProxyFound where
  | proxy (proxy : PlcProxy)
  | null
  | nothing

def getPlcProxy (name : String) : ProxyFound :=
  if name = "Fins" then .proxy .fins
  else if name = "RTU" then .proxy .rtu
  else if name = "ModBus" then .nothing
  else .null

inductive Place where
  | buildCustomEvents
  | buildMainDeviceProfile
  | constructMachine
  deriving DecidableEq

inductive Fault where
  | deletedMachine (place : Place)
  | unsetContex (place : Place)
  deriving DecidableEq

def Fault.place : Fault → Place
  | .deletedMachine place => place
  | .unsetContex place => place

structure Hub where
  objects : List (Option Machine)
  builder : Option Nat
  machines : StdMap String Nat
  faults : List Fault

def Hub.new : Hub where
  objects := []
  builder := none
  machines := StdMap.empty
  faults := []

/-- `m_machine = new PlcMachine`, with the context it was given or deleted again. -/
def Hub.building (hub : Hub) (object : Option Machine) : Hub :=
  { hub with objects := hub.objects ++ [object], builder := some hub.objects.length }

/-- Where `BuildMachine` returns. Nothing is said of a `ModBus` machine, whose context is
a pointer that was never set. -/
inductive Return where
  | built
  | unknownProtocol
  | noProxy
  deriving DecidableEq

def buildMachine (hub : Hub) (sectionName : String) (lineMachine : LineMachine) :
    Option (Return × Hub) :=
  match buildContex sectionName lineMachine with
  | some contex =>
      match getPlcProxy lineMachine.mainDeviceProfile.protocol with
      | .proxy _ => some (.built, hub.building (some (Machine.new contex)))
      | .null => some (.noProxy, hub.building (some (Machine.new contex)))
      | .nothing => none
  | none =>
      if lineMachine.mainDeviceProfile.protocol = "ModBus" then none
      else some (.unknownProtocol, hub.building none)

/-- One profile of the two loops, which make the event before they follow `m_machine`. -/
def buildOne (place : Place) (pushEvent : Machine → String → Event → Machine) (hub : Hub)
    (sep : StationEventProfile) : Hub :=
  match eventClasses.lookup sep.action with
  | none => hub
  | some _ =>
      match hub.builder with
      | none => hub
      | some index =>
          match hub.objects[index]? with
          | some (some machine) =>
              { hub with
                objects := hub.objects.set index
                  (some (Machines.buildOne pushEvent machine sep)) }
          | _ => { hub with faults := hub.faults ++ [.deletedMachine place, .unsetContex place] }

def buildCustomEvents (stations : List LineStation) (hub : Hub) : Hub :=
  if hub.builder = none then hub
  else stations.foldl (fun hub station =>
    station.events.foldl (buildOne .buildCustomEvents pushStationsEvent) hub) hub

def buildMainDeviceProfile (profile : MainDeviceProfile) (hub : Hub) : Hub :=
  if hub.builder = none then hub
  else profile.mainEvents.foldl (buildOne .buildMainDeviceProfile pushMainEvent) hub

section Remains

-- What `GetName` reads where a machine was deleted.
variable (remains : String)

def constructMachine (hub : Hub) (sectionName : String) (lineMachine : LineMachine) :
    Option Hub :=
  (buildMachine hub sectionName lineMachine).map fun done =>
    let hub := buildMainDeviceProfile lineMachine.mainDeviceProfile
      (buildCustomEvents lineMachine.stations done.2)
    match hub.builder with
    | none => hub
    | some index =>
        match hub.objects[index]? with
        | some (some machine) =>
            { hub with
              machines := hub.machines.insert (sectionName ++ machine.name) index
              builder := none }
        | _ =>
            { hub with
              machines := hub.machines.insert (sectionName ++ remains) index
              builder := none
              faults := hub.faults ++ [.deletedMachine .constructMachine] }

def step : Step Hub (String × LineMachine)
  | hub, pair => constructMachine remains hub pair.1 pair.2

end Remains

/-- The protocol is none of the three, or there is no proxy. -/
def Fails (hub : Hub) (sectionName : String) (lineMachine : LineMachine) : Prop :=
  ∃ done, buildMachine hub sectionName lineMachine = some done ∧ done.1 ≠ .built

/-- The key is new or names another object. -/
def Entered (start finish : Hub) (key : String) : Prop :=
  finish.machines.find? key ≠ start.machines.find? key

/-- What stands behind the key, a deleted object as `none`. -/
def object (hub : Hub) (key : String) : Option (Option Machine) :=
  (hub.machines.find? key).bind fun index => hub.objects[index]?

/-- Later calls do after the failed one what they do without it: they leave the builder
alike, enter the same keys with the same machines and come to the same faults. -/
def LaterAlike (remains : String) (before after : Hub) : Prop :=
  ∀ later without, run (step remains) before later = some without →
    ∃ finish, run (step remains) after later = some finish ∧
      finish.builder = without.builder ∧
      finish.faults.drop after.faults.length = without.faults.drop before.faults.length ∧
      ∀ key, (Entered after finish key ↔ Entered before without key) ∧
        (Entered before without key → object finish key = object without key)

structure NoTrace (remains : String) (before after : Hub) : Prop where
  machines : after.machines = before.machines
  faults : ∀ fault ∈ after.faults.drop before.faults.length, fault.place = .constructMachine
  ready : LaterAlike remains before after

/-! ### One call -/

theorem contex_has_proxy {sectionName : String} {lineMachine : LineMachine}
    {contex : MachineContex} (set : buildContex sectionName lineMachine = some contex) :
    ∃ proxy, getPlcProxy lineMachine.mainDeviceProfile.protocol = .proxy proxy := by
  by_cases fins : lineMachine.mainDeviceProfile.protocol = "Fins"
  · exact ⟨.fins, if_pos fins⟩
  · by_cases rtu : lineMachine.mainDeviceProfile.protocol = "RTU"
    · exact ⟨.rtu, by rw [getPlcProxy, if_neg fins, if_pos rtu]⟩
    · simp only [buildContex, if_neg fins, if_neg rtu] at set
      cases set

theorem build_with_contex {sectionName : String} {lineMachine : LineMachine}
    {contex : MachineContex} (set : buildContex sectionName lineMachine = some contex) (hub : Hub) :
    buildMachine hub sectionName lineMachine =
      some (.built, hub.building (some (Machine.new contex))) := by
  obtain ⟨proxy, found⟩ := contex_has_proxy set
  simp only [buildMachine, set, found]

/-- The proxies of the two protocols are always there, so only the protocol fails. -/
theorem fails_iff {hub : Hub} {sectionName : String} {lineMachine : LineMachine} :
    Fails hub sectionName lineMachine ↔
      buildMachine hub sectionName lineMachine = some (.unknownProtocol, hub.building none) := by
  constructor
  · intro failed
    obtain ⟨done, taken, other⟩ := failed
    cases set : buildContex sectionName lineMachine with
    | some contex =>
        rw [build_with_contex set] at taken
        cases taken
        exact absurd rfl other
    | none =>
        simp only [buildMachine, set] at taken ⊢
        split at taken
        · cases taken
        · exact if_neg ‹_›
  · intro taken
    exact ⟨_, taken, fun same => by cases same⟩

def objectFaults (place : Place) (object : Option Machine) (profiles : List StationEventProfile) :
    List Fault :=
  profiles.flatMap fun sep =>
    if object = none ∧ (eventClasses.lookup sep.action).isSome then
      [.deletedMachine place, .unsetContex place]
    else []

theorem build_one_building (place : Place) (pushEvent : Machine → String → Event → Machine)
    (hub : Hub) (object : Option Machine) (sep : StationEventProfile) :
    buildOne place pushEvent (hub.building object) sep =
      { hub with faults := hub.faults ++ objectFaults place object [sep] }.building
        (object.map fun machine => Machines.buildOne pushEvent machine sep) := by
  cases known : eventClasses.lookup sep.action with
  | none =>
      have unchanged (machine : Machine) : Machines.buildOne pushEvent machine sep = machine := by
        simp only [Machines.buildOne, buildEvent, known, Option.map_none]
      cases object <;> simp [buildOne, objectFaults, known, unchanged, Hub.building]
  | some eventClass =>
      cases object <;> simp [buildOne, objectFaults, known, Hub.building]

theorem build_profiles (place : Place) (pushEvent : Machine → String → Event → Machine)
    (profiles : List StationEventProfile) (hub : Hub) (object : Option Machine) :
    profiles.foldl (buildOne place pushEvent) (hub.building object) =
      { hub with faults := hub.faults ++ objectFaults place object profiles }.building
        (object.map fun machine => profiles.foldl (Machines.buildOne pushEvent) machine) := by
  induction profiles generalizing hub object with
  | nil => simp [objectFaults]
  | cons sep rest ih =>
      rw [List.foldl_cons, build_one_building, ih]
      cases object <;> simp [objectFaults]

theorem build_custom_events (stations : List LineStation) (hub : Hub) (object : Option Machine) :
    buildCustomEvents stations (hub.building object) =
      { hub with
        faults := hub.faults ++
          objectFaults .buildCustomEvents object (stations.flatMap LineStation.events) }.building
        (object.map (Machines.buildCustomEvents stations)) := by
  rw [buildCustomEvents, if_neg (by simp [Hub.building])]
  induction stations generalizing hub object with
  | nil => cases object <;> simp [objectFaults, Machines.buildCustomEvents]
  | cons station rest ih =>
      rw [List.foldl_cons, build_profiles, ih]
      cases object <;> simp [objectFaults, Machines.buildCustomEvents]

theorem build_main_device_profile (profile : MainDeviceProfile) (hub : Hub)
    (object : Option Machine) :
    buildMainDeviceProfile profile (hub.building object) =
      { hub with
        faults := hub.faults ++
          objectFaults .buildMainDeviceProfile object profile.mainEvents }.building
        (object.map (Machines.buildMainDeviceProfile profile)) := by
  rw [buildMainDeviceProfile, if_neg (by simp [Hub.building]), build_profiles]
  rfl

/-- The faults of the two builder functions on an object that was deleted. -/
def builderFaults (lineMachine : LineMachine) : List Fault :=
  objectFaults .buildCustomEvents none (lineMachine.stations.flatMap LineStation.events) ++
    objectFaults .buildMainDeviceProfile none lineMachine.mainDeviceProfile.mainEvents

theorem construct_built {sectionName : String} {lineMachine : LineMachine} {machine : Machine}
    (built : Machines.buildMachine sectionName lineMachine = some machine) (remains : String)
    (hub : Hub) :
    constructMachine remains hub sectionName lineMachine = some
      { objects := hub.objects ++ [some machine]
        builder := none
        machines := hub.machines.insert (sectionName ++ machine.name) hub.objects.length
        faults := hub.faults } := by
  obtain ⟨contex, set, rfl⟩ := Option.map_eq_some_iff.mp built
  have faultless (place : Place) (machine : Machine) (profiles : List StationEventProfile) :
      objectFaults place (some machine) profiles = [] := by simp [objectFaults]
  simp only [constructMachine, build_with_contex set, Option.map_some, build_custom_events,
    build_main_device_profile, faultless, List.append_nil]
  simp [Hub.building]

theorem construct_failed {hub : Hub} {sectionName : String} {lineMachine : LineMachine}
    (failed : Fails hub sectionName lineMachine) (remains : String) :
    constructMachine remains hub sectionName lineMachine = some
      { objects := hub.objects ++ [none]
        builder := none
        machines := hub.machines.insert (sectionName ++ remains) hub.objects.length
        faults := hub.faults ++ (builderFaults lineMachine ++
          [.deletedMachine .constructMachine]) } := by
  simp only [constructMachine, fails_iff.mp failed, Option.map_some, build_custom_events,
    build_main_device_profile]
  simp [Hub.building, builderFaults]

/-! ### Later calls -/

structure Addition where
  object : Option Machine
  key : String
  faults : List Fault

def Hub.add (hub : Hub) (addition : Addition) : Hub where
  objects := hub.objects ++ [addition.object]
  builder := none
  machines := hub.machines.insert addition.key hub.objects.length
  faults := hub.faults ++ addition.faults

theorem construct_adds (remains sectionName : String) (lineMachine : LineMachine) :
    (∀ hub, constructMachine remains hub sectionName lineMachine = none) ∨
      ∃ addition : Addition, ∀ hub,
        constructMachine remains hub sectionName lineMachine = some (hub.add addition) := by
  cases set : buildContex sectionName lineMachine with
  | some contex =>
      right
      obtain ⟨machine, built⟩ : ∃ machine,
          Machines.buildMachine sectionName lineMachine = some machine := by
        simp [Machines.buildMachine, set]
      exact ⟨⟨some machine, sectionName ++ machine.name, []⟩, fun hub => by
        rw [construct_built built, Hub.add, List.append_nil]⟩
  | none =>
      by_cases undefined : lineMachine.mainDeviceProfile.protocol = "ModBus"
      · left
        intro hub
        simp [constructMachine, buildMachine, set, undefined]
      · right
        refine ⟨⟨none, sectionName ++ remains,
          builderFaults lineMachine ++ [.deletedMachine .constructMachine]⟩, ?_⟩
        intro hub
        have failed : Fails hub sectionName lineMachine :=
          fails_iff.mpr (by simp [buildMachine, set, undefined])
        exact construct_failed failed remains

theorem run_adds (remains : String) (later : List (String × LineMachine)) :
    (∀ hub, run (step remains) hub later = none) ∨
      ∃ additions : List Addition, ∀ hub,
        run (step remains) hub later = some (additions.foldl Hub.add hub) := by
  induction later with
  | nil => exact Or.inr ⟨[], fun hub => rfl⟩
  | cons pair rest ih =>
      rcases construct_adds remains pair.1 pair.2 with stuck | added
      · left
        intro hub
        rw [run, step, stuck hub, Option.bind_none]
      · obtain ⟨addition, added⟩ := added
        rcases ih with stuck | adds
        · left
          intro hub
          rw [run, step, added hub, Option.bind_some, stuck]
        · obtain ⟨additions, adds⟩ := adds
          right
          refine ⟨addition :: additions, ?_⟩
          intro hub
          rw [run, step, added hub, Option.bind_some, adds, List.foldl_cons]

def lastUnder (key : String) : List Addition → Option Nat
  | [] => none
  | addition :: rest =>
      match lastUnder key rest with
      | some position => some (position + 1)
      | none => if key = addition.key then some 0 else none

theorem add_faults (additions : List Addition) (hub : Hub) :
    (additions.foldl Hub.add hub).faults = hub.faults ++ additions.flatMap Addition.faults := by
  induction additions generalizing hub with
  | nil => simp
  | cons addition rest ih => rw [List.foldl_cons, ih, List.flatMap_cons, ← List.append_assoc]; rfl

theorem add_objects (additions : List Addition) (hub : Hub) :
    (additions.foldl Hub.add hub).objects = hub.objects ++ additions.map Addition.object := by
  induction additions generalizing hub with
  | nil => simp
  | cons addition rest ih => rw [List.foldl_cons, ih, List.map_cons, List.append_cons]; rfl

theorem add_builder (additions : List Addition) {hub : Hub} (idle : hub.builder = none) :
    (additions.foldl Hub.add hub).builder = none := by
  induction additions generalizing hub with
  | nil => exact idle
  | cons addition rest ih => exact ih rfl

theorem add_find (additions : List Addition) (hub : Hub) (key : String) :
    (additions.foldl Hub.add hub).machines.find? key =
      match lastUnder key additions with
      | some position => some (hub.objects.length + position)
      | none => hub.machines.find? key := by
  induction additions generalizing hub with
  | nil => rfl
  | cons addition rest ih =>
      rw [List.foldl_cons, ih, lastUnder]
      cases lastUnder key rest with
      | some position =>
          have length : (hub.add addition).objects.length = hub.objects.length + 1 := by
            simp [Hub.add]
          simp only [length, Nat.add_assoc, Nat.add_comm 1]
      | none =>
          by_cases same : key = addition.key <;> simp [Hub.add, StdMap.find_insert, same]

/-- The builder is idle and every entry names an object. -/
structure Hub.Sound (hub : Hub) : Prop where
  builder : hub.builder = none
  known : ∀ key index, hub.machines.find? key = some index → index < hub.objects.length

theorem add_sound {hub : Hub} (sound : hub.Sound) (addition : Addition) :
    (hub.add addition).Sound := by
  constructor
  · rfl
  · intro key index found
    rw [Hub.add, StdMap.find_insert] at found
    rw [Hub.add, List.length_append, List.length_singleton]
    split at found
    · cases found
      exact Nat.lt_succ_self _
    · exact Nat.lt_succ_of_lt (sound.known key index found)

theorem reached_sound {remains : String} {earlier : List (String × LineMachine)} {hub : Hub}
    (reached : run (step remains) Hub.new earlier = some hub) : hub.Sound := by
  have start : Hub.new.Sound := ⟨rfl, fun key index found => by cases found⟩
  rcases run_adds remains earlier with stuck | adds
  · rw [stuck] at reached
    cases reached
  · obtain ⟨additions, adds⟩ := adds
    rw [adds] at reached
    cases reached
    clear adds
    generalize Hub.new = hub at start
    induction additions generalizing hub with
    | nil => exact start
    | cons addition rest ih => exact ih _ (add_sound start addition)

theorem entered_iff {hub : Hub} (sound : hub.Sound) (additions : List Addition) (key : String) :
    Entered hub (additions.foldl Hub.add hub) key ↔ (lastUnder key additions).isSome := by
  rw [Entered, add_find]
  cases lastUnder key additions with
  | none => simp
  | some position =>
      simp only [Option.isSome_some, iff_true]
      intro same
      have below := sound.known key _ same.symm
      omega

theorem object_added {hub : Hub} {additions : List Addition} {key : String} {position : Nat}
    (last : lastUnder key additions = some position) :
    object (additions.foldl Hub.add hub) key = (additions.map Addition.object)[position]? := by
  rw [object, add_find, last, add_objects, Option.bind_some,
    List.getElem?_append_right (Nat.le_add_right _ _), Nat.add_sub_cancel_left]

theorem later_alike {before after : Hub} (first : before.Sound) (second : after.Sound)
    (remains : String) : LaterAlike remains before after := by
  intro later without taken
  rcases run_adds remains later with stuck | adds
  · rw [stuck] at taken
    cases taken
  · obtain ⟨additions, adds⟩ := adds
    rw [adds] at taken
    cases taken
    refine ⟨_, adds after, ?_, ?_, ?_⟩
    · rw [add_builder additions first.builder, add_builder additions second.builder]
    · rw [add_faults, add_faults, List.drop_left, List.drop_left]
    · intro key
      rw [entered_iff first, entered_iff second]
      refine ⟨Iff.rfl, ?_⟩
      intro entered
      obtain ⟨position, last⟩ := Option.isSome_iff_exists.mp entered
      rw [object_added last, object_added last]

/-! ### The failed call -/

/-- The deleted machine is registered, under a key made from what is left of its name. -/
theorem failed_registered {hub after : Hub} {remains sectionName : String}
    {lineMachine : LineMachine} (failed : Fails hub sectionName lineMachine)
    (taken : constructMachine remains hub sectionName lineMachine = some after) :
    object after (sectionName ++ remains) = some none := by
  rw [construct_failed failed] at taken
  cases taken
  simp [object, StdMap.find_insert]

theorem failed_machines_changed {hub after : Hub} (sound : hub.Sound)
    {remains sectionName : String} {lineMachine : LineMachine}
    (failed : Fails hub sectionName lineMachine)
    (taken : constructMachine remains hub sectionName lineMachine = some after) :
    after.machines ≠ hub.machines := by
  intro same
  rw [construct_failed failed] at taken
  cases taken
  have found := StdMap.find_insert hub.machines (sectionName ++ remains) (sectionName ++ remains)
    hub.objects.length
  rw [if_pos rfl, show hub.machines.insert _ _ = hub.machines from same] at found
  exact absurd (sound.known _ _ found) (Nat.lt_irrefl _)

def visited (lineMachine : LineMachine) : List StationEventProfile :=
  lineMachine.stations.flatMap LineStation.events ++ lineMachine.mainDeviceProfile.mainEvents

theorem object_faults_elsewhere (place : Place) (profiles : List StationEventProfile)
    (other : place ≠ .constructMachine) :
    (∀ fault ∈ objectFaults place none profiles, fault.place = .constructMachine) ↔
      ∀ sep ∈ profiles, eventClasses.lookup sep.action = none := by
  simp only [objectFaults, List.mem_flatMap]
  constructor
  · intro elsewhere sep member
    by_contra known
    have here := elsewhere (.deletedMachine place)
      ⟨sep, member, by simp [Option.isSome_iff_ne_none.mpr known]⟩
    exact other here
  · intro unknown fault given
    obtain ⟨sep, member, inside⟩ := given
    simp [unknown sep member] at inside

/-- The builder follows the deleted machine and its context for every profile with a
known action. -/
theorem failed_faults_iff {hub after : Hub} {remains sectionName : String}
    {lineMachine : LineMachine} (failed : Fails hub sectionName lineMachine)
    (taken : constructMachine remains hub sectionName lineMachine = some after) :
    (∀ fault ∈ after.faults.drop hub.faults.length, fault.place = .constructMachine) ↔
      ∀ sep ∈ visited lineMachine, eventClasses.lookup sep.action = none := by
  rw [construct_failed failed] at taken
  cases taken
  simp only [List.drop_left, builderFaults, visited, List.forall_mem_append,
    object_faults_elsewhere .buildCustomEvents _ (by decide),
    object_faults_elsewhere .buildMainDeviceProfile _ (by decide)]
  simp [Fault.place]

theorem failed_later_alike {hub after : Hub} (sound : hub.Sound) {remains sectionName : String}
    {lineMachine : LineMachine} (failed : Fails hub sectionName lineMachine)
    (taken : constructMachine remains hub sectionName lineMachine = some after) :
    LaterAlike remains hub after := by
  rw [construct_failed failed] at taken
  cases taken
  exact later_alike sound (add_sound sound ⟨none, sectionName ++ remains, _⟩) remains

/-- A machine that cannot be built always leaves a trace. -/
theorem failed_leaves_trace (remains : String) (earlier : List (String × LineMachine))
    {before : Hub} (reached : run (step remains) Hub.new earlier = some before)
    {sectionName : String} {lineMachine : LineMachine}
    (failed : Fails before sectionName lineMachine) :
    ∃ after, constructMachine remains before sectionName lineMachine = some after ∧
      ¬ NoTrace remains before after := by
  have taken := construct_failed failed remains
  refine ⟨_, taken, ?_⟩
  intro untouched
  exact failed_machines_changed (reached_sound reached) failed taken untouched.machines

def demoMachine : LineMachine :=
  { Registry.solderStation with
    mainDeviceProfile := { Registry.solderStation.mainDeviceProfile with protocol := "None" } }

theorem demo_machine_leaves_trace :
    ∃ after, constructMachine "" Hub.new "s1" demoMachine = some after ∧
      ¬ NoTrace "" Hub.new after :=
  failed_leaves_trace "" [] rfl
    ⟨(.unknownProtocol, Hub.new.building none), by rfl, by decide⟩

theorem demo_machine_registered_deleted :
    Fails Hub.new "s1" demoMachine ∧
      ∃ after, constructMachine "" Hub.new "s1" demoMachine = some after ∧
        after.machines.entries = [("s1", 0)] ∧ after.objects = [none] ∧
          ¬ NoTrace "" Hub.new after := by
  refine ⟨⟨(.unknownProtocol, Hub.new.building none), rfl, by decide⟩, _, rfl, rfl, rfl, ?_⟩
  intro untouched
  have entries := congrArg StdMap.entries untouched.machines
  cases entries

/-! ### Designs without a failure -/

/-- The hub of a director whose machines were all built. -/
structure Refines (hub : Hub) (director : Director) : Prop where
  objects : hub.objects = director.objects.map some
  machines : ∀ key, director.machines.find? key = (hub.machines.find? key).map some
  faultless : hub.faults = []

theorem construct_refines {hub : Hub} {director next : Director} (refines : Refines hub director)
    (remains : String) {sectionName : String} {lineMachine : LineMachine}
    (taken : Machines.constructMachine director sectionName lineMachine = some next) :
    ∃ after, constructMachine remains hub sectionName lineMachine = some after ∧
      Refines after next := by
  obtain ⟨machine, built, rfl⟩ := Option.map_eq_some_iff.mp taken
  refine ⟨_, construct_built built remains hub, ?_⟩
  constructor
  · simp [refines.objects]
  · intro key
    simp only [StdMap.find_insert, refines.machines, refines.objects, List.length_map]
    split <;> rfl
  · exact refines.faultless

/-- The calls for a design that loads come to the director of `FlashLineMachineList`. -/
theorem flash_refines (remains : String) {design : List LineSection} {director : Director}
    (loaded : flashLineMachineList design = some director) :
    ∃ hub, run (step remains) Hub.new (Registry.enabledMachines design) = some hub ∧
      Refines hub director := by
  rw [Registry.flash_pairs] at loaded
  have start : Refines Hub.new Director.new := ⟨rfl, fun key => rfl, rfl⟩
  generalize Registry.enabledMachines design = pairs at loaded
  generalize Hub.new = hub at start
  generalize Director.new = first at start loaded
  induction pairs generalizing hub first with
  | nil =>
      cases loaded
      exact ⟨hub, rfl, start⟩
  | cons pair rest ih =>
      obtain ⟨next, head, tail⟩ := Option.bind_eq_some_iff.mp loaded
      obtain ⟨after, taken, refines⟩ := construct_refines start remains head
      obtain ⟨finish, ran, final⟩ := ih after next refines tail
      exact ⟨finish, by rw [run, step, taken]; exact ran, final⟩

end DevHub.Construct
