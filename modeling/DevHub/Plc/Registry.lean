import DevHub.Plc.Machine

/-!
The machine registry after the line design was loaded, and what the heartbeat, the
polls and the downstream frames follow in it. `Built` says where every machine of the
design ended up; `Intact` compares a later hub with the loaded one.
-/

namespace DevHub.Registry

open Machines Transition

set_option autoImplicit false

/-- The section names and machines for which the loop calls `ConstructMachine`. -/
def enabledMachines (design : List LineSection) : List (String × LineMachine) :=
  design.flatMap fun sect =>
    (sect.machines.filter LineMachine.enabledPlc).map fun lineMachine => (sect.name, lineMachine)

def constructPair (director : Director) (pair : String × LineMachine) : Option Director :=
  constructMachine director pair.1 pair.2

theorem flash_section_pairs (director : Director) (sect : LineSection) :
    flashSection director sect =
      ((sect.machines.filter LineMachine.enabledPlc).map fun lineMachine =>
        (sect.name, lineMachine)).foldlM constructPair director := by
  rw [flashSection]
  induction sect.machines generalizing director with
  | nil => rfl
  | cons lineMachine rest ih =>
      cases enabled : lineMachine.enabledPlc with
      | true =>
          rw [List.filter_cons_of_pos enabled, List.map_cons, List.foldlM_cons, List.foldlM_cons,
            if_pos enabled]
          exact congrArg _ (funext ih)
      | false =>
          rw [List.filter_cons_of_neg (by simp [enabled]), List.foldlM_cons,
            if_neg (by simp [enabled])]
          exact ih director

theorem flash_pairs (design : List LineSection) :
    flashLineMachineList design = (enabledMachines design).foldlM constructPair Director.new := by
  rw [flashLineMachineList]
  generalize Director.new = director
  induction design generalizing director with
  | nil => rfl
  | cons sect rest ih =>
      rw [List.foldlM_cons, flash_section_pairs, enabledMachines, List.flatMap_cons,
        List.foldlM_append]
      exact congrArg _ (funext ih)

section Built

theorem build_one_name (pushEvent : Machine → String → Event → Machine)
    (named : ∀ machine name ev, (pushEvent machine name ev).name = machine.name)
    (profiles : List StationEventProfile) (machine : Machine) :
    (profiles.foldl (buildOne pushEvent) machine).name = machine.name := by
  induction profiles generalizing machine with
  | nil => rfl
  | cons sep rest ih =>
      rw [List.foldl_cons, ih, buildOne]
      split
      · rfl
      · exact named _ _ _

theorem build_machine_name {sectionName : String} {lineMachine : LineMachine} {machine : Machine}
    (built : buildMachine sectionName lineMachine = some machine) : machine.name = "" := by
  obtain ⟨contex, -, rfl⟩ := Option.map_eq_some_iff.mp built
  rw [buildMainDeviceProfile, build_one_name pushMainEvent fun _ _ _ => rfl, buildCustomEvents]
  have unnamed (start : Machine) :
      (lineMachine.stations.foldl (fun machine station =>
        station.events.foldl (buildOne pushStationsEvent) machine) start).name = start.name := by
    induction lineMachine.stations generalizing start with
    | nil => rfl
    | cons station rest ih =>
        rw [List.foldl_cons, ih]
        exact build_one_name pushStationsEvent (fun _ _ _ => rfl) _ _
  exact unnamed (Machine.new contex)

/-- The machine of the pair at a position stands at that position, under the name of its
section alone, unless a later pair has the same section. -/
structure Built (pairs : List (String × LineMachine)) (director : Director) : Prop where
  objects : director.objects.map some = pairs.map fun pair => buildMachine pair.1 pair.2
  found : ∀ key index, director.machines.find? key = some (some index) ↔
    pairs[index]?.map Prod.fst = some key ∧
      ∀ later, index < later → pairs[later]?.map Prod.fst ≠ some key
  total : ∀ key, director.machines.find? key ≠ some none
  unused : director.uses = []

theorem Built.length {pairs : List (String × LineMachine)} {director : Director}
    (built : Built pairs director) : director.objects.length = pairs.length := by
  simpa using congrArg List.length built.objects

theorem construct_built {pairs : List (String × LineMachine)} {before after : Director}
    {pair : String × LineMachine} (built : Built pairs before)
    (taken : constructPair before pair = some after) : Built (pairs ++ [pair]) after := by
  obtain ⟨machine, made, rfl⟩ := Option.map_eq_some_iff.mp taken
  have key : pair.1 ++ machine.name = pair.1 := by rw [build_machine_name made, String.append_empty]
  have last : (pairs ++ [pair])[pairs.length]? = some pair := by simp
  have beyond (index : Nat) (above : pairs.length < index) : (pairs ++ [pair])[index]? = none := by
    apply List.getElem?_eq_none
    rw [List.length_append]
    exact above
  have old (index : Nat) (below : index < pairs.length) :
      (pairs ++ [pair])[index]? = pairs[index]? := List.getElem?_append_left below
  constructor
  · simp [built.objects, made]
  · intro name index
    simp only [key, StdMap.find_insert, built.length]
    by_cases same : name = pair.1
    · rw [if_pos same, Option.some.injEq, Option.some.injEq, same]
      constructor
      · intro position
        subst position
        refine ⟨by rw [last]; rfl, ?_⟩
        intro later above
        simp [beyond later above]
      · intro here
        obtain ⟨there, alone⟩ := here
        rcases Nat.lt_trichotomy index pairs.length with below | equal | above
        · exact absurd (by rw [last]; rfl) (alone pairs.length below)
        · exact equal.symm
        · simp [beyond index above] at there
    · rw [if_neg same, built.found]
      have other (index : Nat) : (pairs ++ [pair])[index]?.map Prod.fst = some name ↔
          pairs[index]?.map Prod.fst = some name := by
        rcases Nat.lt_trichotomy index pairs.length with below | equal | above
        · rw [old index below]
        · simp [equal, Ne.symm same]
        · rw [beyond index above, List.getElem?_eq_none (Nat.le_of_lt above)]
      simp only [ne_eq, other]
  · intro name
    simp only [key, StdMap.find_insert]
    split
    · simp
    · exact built.total name
  · exact built.unused

theorem construct_all_built {pairs rest : List (String × LineMachine)} {before after : Director}
    (built : Built pairs before) (taken : rest.foldlM constructPair before = some after) :
    Built (pairs ++ rest) after := by
  induction rest generalizing pairs before with
  | nil =>
      cases taken
      rw [List.append_nil]
      exact built
  | cons pair rest ih =>
      obtain ⟨middle, first, later⟩ := Option.bind_eq_some_iff.mp taken
      rw [List.append_cons]
      exact ih (construct_built built first) later

theorem flash_built {design : List LineSection} {director : Director}
    (loaded : flashLineMachineList design = some director) :
    Built (enabledMachines design) director := by
  rw [flash_pairs] at loaded
  have empty : Built [] Director.new := by
    constructor
    · rfl
    · intro key index
      simp [Director.new, StdMap.find?, StdMap.empty]
    · intro key
      simp [Director.new, StdMap.find?, StdMap.empty]
    · rfl
  exact construct_all_built empty loaded

end Built

/-- `WriteMachineData` with the names of a machine goes to that machine and its event,
and every machine is still in the map. -/
structure Delivers (design : List LineSection) (director : Director) : Prop where
  reached : ∀ index sectionName lineMachine,
    (enabledMachines design)[index]? = some (sectionName, lineMachine) →
      ∃ machine, buildMachine sectionName lineMachine = some machine ∧
        director.objects[index]? = some machine ∧
          ∀ eventName, (writeMachineData director sectionName lineMachine.name eventName).uses =
            [.machine (some index), .event index (getEvent machine eventName)]
  kept : ∀ index, index < (enabledMachines design).length →
    ∃ key, director.machines.find? key = some (some index)

theorem write_uses {director : Director} (unused : director.uses = []) {index : Nat}
    {machine : Machine} (object : director.objects[index]? = some machine)
    (sectionName machineName eventName : String) :
    (writeMachineData director sectionName machineName eventName).uses =
        [.machine (some index), .event index (getEvent machine eventName)] ↔
      director.machines.find? (sectionName ++ machineName) = some (some index) := by
  unfold writeMachineData
  split
  · rename_i missing
    split <;> simp [unused, missing]
  · rename_i null
    simp [unused, null]
  · rename_i other found
    rw [found]
    split
    · rename_i absent
      have different : other ≠ index := by
        intro same
        rw [same, object] at absent
        cases absent
      simp [unused, different]
    · rename_i held there
      by_cases same : other = index
      · have machines : held = machine := Option.some.inj (there.symm.trans (same ▸ object))
        simp [Director.use, Director.sound, Use.valid, unused, same, machines]
      · simp [Director.use, Director.sound, Use.valid, unused, same]

/-- The registry delivers exactly when the machines have no names to look up by. -/
theorem delivers_iff_unnamed {design : List LineSection} {director : Director}
    (loaded : flashLineMachineList design = some director)
    (distinct : ((enabledMachines design).map fun pair => (pair.1, pair.2.name)).Nodup) :
    Delivers design director ↔ ∀ pair ∈ enabledMachines design, pair.2.name = "" := by
  have built := flash_built loaded
  constructor
  · intro delivers pair member
    obtain ⟨index, here⟩ := List.mem_iff_getElem?.mp member
    obtain ⟨machine, -, object, uses⟩ := delivers.reached index pair.1 pair.2 here
    have target := (write_uses built.unused object pair.1 pair.2.name "").mp (uses "")
    have keys := ((built.found _ _).mp target).1
    rw [here, Option.map_some, Option.some.injEq] at keys
    have texts := congrArg String.toList keys
    simpa [String.toList_append] using texts
  · intro unnamed
    have target (index : Nat) (pair : String × LineMachine)
        (here : (enabledMachines design)[index]? = some pair) :
        director.machines.find? pair.1 = some (some index) := by
      rw [built.found, here]
      refine ⟨rfl, ?_⟩
      intro later above same
      obtain ⟨other, there, section_same⟩ := Option.map_eq_some_iff.mp same
      have pairs : (other.1, other.2.name) = (pair.1, pair.2.name) := by
        rw [section_same, unnamed _ (List.mem_of_getElem? there),
          unnamed _ (List.mem_of_getElem? here)]
      obtain ⟨first, alike⟩ := List.getElem?_eq_some_iff.mp here
      obtain ⟨second, equal⟩ := List.getElem?_eq_some_iff.mp there
      have different := List.pairwise_iff_getElem.mp distinct index later (by simpa using first)
        (by simpa using second) above
      apply different
      simp only [List.getElem_map, alike, equal, pairs]
    constructor
    · intro index sectionName lineMachine here
      have bound : index < director.objects.length := by
        rw [built.length]
        exact (List.getElem?_eq_some_iff.mp here).1
      have object := List.getElem?_eq_getElem bound
      refine ⟨director.objects[index], ?_, object, ?_⟩
      · have position := congrArg (fun list => list[index]?) built.objects
        simpa [here, object] using position.symm
      · intro eventName
        rw [write_uses built.unused object, unnamed _ (List.mem_of_getElem? here),
          String.append_empty]
        exact target index (sectionName, lineMachine) here
    · intro index bound
      exact ⟨_, target index _ (List.getElem?_eq_getElem bound)⟩

def solderStation : LineMachine where
  name := "m1"
  enable := true
  mainDeviceProfile := {
    deviceType := "PLC"
    protocol := "Fins"
    dataFormat := "Default"
    mainEvents := [{
      name := "alarm"
      action := "AlarmCode"
      flag := "DM"
      plcBlockAddress := "100"
      plcBlockSize := 44
      eapBlockAddress := "200"
      eapBlockSize := 6 }]
    alarmCodeList := [] }
  stations := []

def namedMachines : List LineSection :=
  [{ name := "s1", machines := [solderStation, { solderStation with name := "m2" }] },
    { name := "s2", machines := [solderStation] }]

theorem named_machine_lost :
    ((enabledMachines namedMachines).map fun pair => (pair.1, pair.2.name)).Nodup ∧
      ∃ director, flashLineMachineList namedMachines = some director ∧
        ¬ Delivers namedMachines director := by
  refine ⟨by decide, _, rfl, ?_⟩
  intro delivers
  obtain ⟨machine, -, -, uses⟩ := delivers.reached 0 "s1" solderStation rfl
  have missed : 0 = 2 := congrArg List.length (uses "alarm")
  cases missed

/-- Without names one machine of each section is found under its section. -/
def unnamedMachines : List LineSection :=
  [{ name := "s1", machines := [{ solderStation with name := "" }] },
    { name := "s2", machines := [{ solderStation with name := "" }] }]

theorem unnamed_machine_delivers :
    ∃ director, flashLineMachineList unnamedMachines = some director ∧
      Delivers unnamedMachines director := by
  refine ⟨_, rfl, ?_⟩
  apply (delivers_iff_unnamed rfl (by decide)).mpr
  decide

end DevHub.Registry
