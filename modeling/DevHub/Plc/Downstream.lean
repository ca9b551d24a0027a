import DevHub.Transcation.Json

/-!
`Director::OnFrame`: the walk over a downstream document and the `WriteMachineData`
calls that it makes. A JsonCpp type error ends the walk; nothing in the hub catches
it, and the calls before it have been made.
-/

namespace DevHub.Downstream

set_option autoImplicit false

structure Call where
  sectionName : String
  machineName : String
  eventName : String
  data : Json

/-- `returns` is false when an exception leaves the walk. -/
structure Walk where
  calls : List Call
  returns : Bool

namespace Walk

def done : Walk where
  calls := []
  returns := true

def thrown : Walk where
  calls := []
  returns := false

def next (first second : Walk) : Walk :=
  if first.returns then { calls := first.calls ++ second.calls, returns := second.returns }
  else first

def each {α : Type*} (body : α → Walk) : List α → Walk
  | [] => done
  | item :: rest => (body item).next (each body rest)

theorem each_returns {α : Type*} {body : α → Walk} {items : List α} :
    (each body items).returns = true ↔ ∀ item ∈ items, (body item).returns = true := by
  induction items with
  | nil => simp [each, done]
  | cons item rest ih =>
      rw [each, next, List.forall_mem_cons, ← ih]
      cases head : (body item).returns with
      | true => simp
      | false => simp [head]

theorem each_silent {α : Type*} {body : α → Walk} {items : List α}
    (silent : ∀ item ∈ items, (body item).calls = []) : (each body items).calls = [] := by
  induction items with
  | nil => rfl
  | cons item rest ih =>
      obtain ⟨head, tail⟩ := List.forall_mem_cons.mp silent
      rw [each, next]
      split
      · rw [head, ih tail]
        rfl
      · exact head

end Walk

def nameOf (value : Json) : Option (Option String) := (value.member "Name").map Json.text

/-- A loop over the member `list` of `parent`; the entries without a name are skipped. -/
def loop (parent : Json) (list : String) (body : String → Json → Walk) : Walk :=
  match (parent.member list).bind Json.items with
  | none => .thrown
  | some entries => .each (fun entry =>
      match nameOf entry with
      | none => .thrown
      | some none => .done
      | some (some name) => body name entry) entries

/-- The events of every machine are looked up in `SectionList[i]`, the section. -/
def onFrame (frame : Option Json) : Walk :=
  match frame with
  | some (.object members) =>
      let root : Json := .object members
      match root.member "SequenceID", root.member "SectionList" with
      | some sequenceID, some sectionList =>
          if sequenceID.isInt = false then .done
          else
            match sectionList with
            | .null => .done
            | _ =>
                loop root "SectionList" fun sectionName sect =>
                  loop sect "MachineList" fun machineName _ =>
                    loop sect "EventList" fun eventName event =>
                      { calls := [⟨sectionName, machineName, eventName, event⟩], returns := true }
      | _, _ => .done
  | _ => .done

/-! ### Documents nested as the reports of the hub -/

structure EventNode where
  name : String
  value : Json
  named : value.member "Name" = some (.string name)

structure MachineNode where
  name : String
  events : List EventNode
  value : Json
  named : value.member "Name" = some (.string name)
  listed : value.member "EventList" = some (.array (events.map EventNode.value))

/-- As in the reports, the events stand in the machines and not beside them. -/
structure SectionNode where
  name : String
  machines : List MachineNode
  value : Json
  named : value.member "Name" = some (.string name)
  listed : value.member "MachineList" = some (.array (machines.map MachineNode.value))
  nested : value.member "EventList" = some .null

/-- `Value::isIntegral`, without its bounds. -/
def integral : Json → Prop
  | .int _ => True
  | .uint _ => True
  | .real value => value.den = 1
  | _ => False

structure Document where
  sequenceID : Json
  sections : List SectionNode
  members : List (String × Json)
  numbered : (Json.object members).member "SequenceID" = some sequenceID
  whole : integral sequenceID
  listed : (Json.object members).member "SectionList" =
    some (.array (sections.map SectionNode.value))

def Document.paths (document : Document) : List Call :=
  document.sections.flatMap fun sect =>
    sect.machines.flatMap fun machine =>
      machine.events.map fun event => ⟨sect.name, machine.name, event.name, event.value⟩

def Follows (document : Document) : Prop :=
  (onFrame (some (.object document.members))).calls = document.paths

/-- The machines of a section have no events where the walk looks for them. -/
theorem section_silent (sect : SectionNode) :
    (loop sect.value "MachineList" fun machineName _ =>
      loop sect.value "EventList" fun eventName event =>
        { calls := [⟨sect.name, machineName, eventName, event⟩], returns := true }).calls = [] := by
  simp only [loop, sect.listed, sect.nested, Option.bind_some, Json.items]
  apply Walk.each_silent
  intro entry _
  split
  · rfl
  · rfl
  · rfl

theorem document_silent (document : Document) :
    (onFrame (some (.object document.members))).calls = [] := by
  simp only [onFrame, document.numbered, document.listed]
  split
  · rfl
  · rw [loop, document.listed]
    simp only [Option.bind_some, Json.items]
    apply Walk.each_silent
    intro entry member
    obtain ⟨sect, -, rfl⟩ := List.mem_map.mp member
    simp only [nameOf, sect.named, Option.map_some, Json.text]
    exact section_silent sect

/-- The walk makes the calls of the document exactly when no machine has an event. -/
theorem follows_iff_no_path (document : Document) :
    Follows document ↔ ∀ sect ∈ document.sections, ∀ machine ∈ sect.machines, machine.events = [] := by
  have silent := document_silent document
  constructor
  · intro follows sect listed machine held
    have empty : document.paths = [] := follows.symm.trans silent
    have none := List.flatMap_eq_nil_iff.mp (List.flatMap_eq_nil_iff.mp empty sect listed) machine held
    exact List.map_eq_nil_iff.mp none
  · intro empty
    have none : document.paths = [] := by
      apply List.flatMap_eq_nil_iff.mpr
      intro sect listed
      apply List.flatMap_eq_nil_iff.mpr
      intro machine held
      rw [empty sect listed machine held]
      rfl
    exact silent.trans none.symm

def alarmNode : EventNode where
  name := "alarm"
  value := .object [("Action", .string "AlarmCode"), ("Name", .string "alarm")]
  named := rfl

def machineNode : MachineNode where
  name := "m1"
  events := [alarmNode]
  value := .object [("EventList", .array [alarmNode.value]), ("Name", .string "m1")]
  named := rfl
  listed := rfl

def sectionNode : SectionNode where
  name := "s1"
  machines := [machineNode]
  value := .object [("MachineList", .array [machineNode.value]), ("Name", .string "s1")]
  named := rfl
  listed := rfl
  nested := rfl

def alarmDocument : Document where
  sequenceID := .int 7
  sections := [sectionNode]
  members := [("SectionList", .array [sectionNode.value]), ("SequenceID", .int 7)]
  numbered := rfl
  whole := trivial
  listed := rfl

theorem alarm_lost : ¬ Follows alarmDocument := by
  intro follows
  have none : alarmDocument.paths = [] := follows.symm.trans (document_silent alarmDocument)
  exact List.cons_ne_nil _ _ none

/-! ### Documents whose walk returns -/

/-- A list that the walk can go through: elements at positions, each an object with a
name or null. The entries whose name is a string satisfy `entry`. -/
def Listing (parent : Json) (list : String) (entry : Json → Prop) : Prop :=
  ∃ value entries, parent.member list = some value ∧ value.items = some entries ∧
    ∀ item ∈ entries, ∃ name, nameOf item = some name ∧ (name.isSome → entry item)

def WellNested (root : Json) : Prop :=
  Listing root "SectionList" fun sect =>
    Listing sect "MachineList" fun _ => Listing sect "EventList" fun _ => True

/-- The documents that `OnFrame` walks through: an object with a number and a list. -/
def Walked (frame : Option Json) (root : Json) : Prop :=
  ∃ members sequenceID sectionList, frame = some (.object members) ∧ root = .object members ∧
    root.member "SequenceID" = some sequenceID ∧ sequenceID.isInt = true ∧
    root.member "SectionList" = some sectionList ∧ sectionList ≠ .null

theorem loop_returns {parent : Json} {list : String} {body : String → Json → Walk}
    {entry : Json → Prop} (body_returns : ∀ name item, (body name item).returns = true ↔ entry item) :
    (loop parent list body).returns = true ↔ Listing parent list entry := by
  unfold loop Listing
  cases read : (parent.member list).bind Json.items with
  | none =>
      apply iff_of_false Bool.false_ne_true
      intro listing
      obtain ⟨value, entries, found, listed, -⟩ := listing
      rw [found, Option.bind_some, listed] at read
      cases read
  | some entries =>
      obtain ⟨value, found, listed⟩ := Option.bind_eq_some_iff.mp read
      simp only [found, Option.some.injEq, exists_and_left, exists_eq_left', listed,
        Walk.each_returns]
      apply forall₂_congr
      intro item _
      cases nameOf item with
      | none => simp [Walk.thrown]
      | some name =>
          cases name with
          | none => simp [Walk.done]
          | some name => simp [body_returns]

theorem on_frame_cases (frame : Option Json) :
    (onFrame frame = .done ∧ ∀ root, ¬ Walked frame root) ∨
      ∃ root, Walked frame root ∧
        onFrame frame = loop root "SectionList" fun sectionName sect =>
          loop sect "MachineList" fun machineName _ =>
            loop sect "EventList" fun eventName event =>
              { calls := [⟨sectionName, machineName, eventName, event⟩], returns := true } := by
  unfold onFrame
  split
  · rename_i members
    dsimp only
    split
    · rename_i sequenceID sectionList numbered listed
      split
      · rename_i fraction
        left
        refine ⟨rfl, ?_⟩
        intro root walked
        obtain ⟨_, _, _, same, rfl, found, whole, -⟩ := walked
        cases same
        cases numbered.symm.trans found
        rw [fraction] at whole
        cases whole
      · rename_i whole
        split
        · left
          refine ⟨rfl, ?_⟩
          intro root walked
          obtain ⟨_, _, _, same, rfl, -, -, found, proper⟩ := walked
          cases same
          exact proper (Option.some.inj (found.symm.trans listed))
        · rename_i proper
          right
          exact ⟨.object members, ⟨members, sequenceID, sectionList, rfl, rfl, numbered,
            by simpa using whole, listed, proper⟩, rfl⟩
    · rename_i absent
      left
      refine ⟨rfl, ?_⟩
      intro root walked
      obtain ⟨_, sequenceID, sectionList, same, rfl, numbered, -, listed, -⟩ := walked
      cases same
      exact absent sequenceID sectionList numbered listed
  · rename_i other
    left
    refine ⟨rfl, ?_⟩
    intro root walked
    obtain ⟨members, _, _, same, -⟩ := walked
    exact other members same

theorem on_frame_returns (frame : Option Json) :
    (onFrame frame).returns = true ↔ ∀ root, Walked frame root → WellNested root := by
  rcases on_frame_cases frame with ⟨done, ignored⟩ | ⟨root, walked, walks⟩
  · rw [done]
    exact iff_of_true rfl fun root walked => absurd walked (ignored root)
  · have nested : (onFrame frame).returns = true ↔ WellNested root := by
      rw [walks]
      exact loop_returns fun _ sect => loop_returns fun _ _ => loop_returns fun _ _ =>
        iff_of_true rfl trivial
    constructor
    · intro returns other also
      obtain ⟨_, _, _, same, rfl, -⟩ := walked
      obtain ⟨_, _, _, alike, rfl, -⟩ := also
      cases same
      cases alike
      exact nested.mp returns
    · exact fun shaped => nested.mpr (shaped root walked)

end DevHub.Downstream
