import DevHub.Library.Segments
import DevHub.Library.StdMap
import DevHub.Transcation.CommaText
import Mathlib.Data.String.Basic

/-!
The comma-separated reply with the data of a device. A device reports a flat object; its
members are a map from names to scalars, so they stand in the order of the names.
-/

namespace DevHub.CommaData

open TaskUse Transcations Segments

set_option autoImplicit false

inductive Scalar where
  | string (value : String)
  | int (value : Int)
  | uint (value : Nat)
  | real (value : Rat)
  | bool (value : Bool)

def Scalar.json : Scalar → Json
  | string value => .string value
  | int value => .int value
  | uint value => .uint value
  | real value => .real value
  | bool value => .bool value

/-- `asString` of the value; `realText` is the text that JsonCpp gives a double. -/
def Scalar.asString (realText : Rat → String) : Scalar → String
  | string value => value
  | int value => toString value
  | uint value => toString value
  | real value => realText value
  | bool value => if value then "true" else "false"

abbrev Report := StdMap String Scalar

def Report.json (report : Report) : Json :=
  .object (report.entries.map fun entry => (entry.1, entry.2.json))

/-- The reply is built, and behind the three fields of the client it has a field for each
member, in order: the text of its value. -/
def Complete (realText : Rat → String) (task : Task) (report : Report) : Prop :=
  ∃ data rest, getMemberFromJson report.json = some data ∧
    buildCommDataResponse data task =
      .text (task.machineId ++ "," ++ task.stationId ++ "," ++ task.slotId ++ rest) ∧
    rest.toList.splitOn ',' =
      [] :: report.entries.map fun entry => (entry.2.asString realText).toList

/-- A string without a comma, or an integer of 32 bits. -/
def Scalar.Plain : Scalar → Prop
  | string value => ',' ∉ value.toList
  | int value => Json.minInt ≤ value ∧ value ≤ Json.maxInt
  | uint value => value ≤ Json.maxUInt
  | real _ => False
  | bool _ => False

/-- What one member adds to the reply, if `asInt` or `asUInt` does not throw. -/
def Scalar.texts : Scalar → Option (List String)
  | string value => some [value]
  | int value => if Json.minInt ≤ value ∧ value ≤ Json.maxInt then some [toString value] else none
  | uint value => if value ≤ Json.maxUInt then some [toString value] else none
  | real _ => some []
  | bool value => some [if value then "1" else "0"]

theorem member_texts (value : Scalar) : memberText value.json = value.texts := by
  cases value with
  | string value => rfl
  | int value =>
      simp only [Scalar.json, memberText, Json.asInt, Scalar.texts]
      split <;> rfl
  | uint value =>
      simp only [Scalar.json, memberText, Json.asUInt, Scalar.texts]
      split <;> rfl
  | real value => rfl
  | bool value => cases value <;> rfl

theorem texts_le_one {value : Scalar} {texts : List String} (added : value.texts = some texts) :
    texts.length ≤ 1 := by
  cases value with
  | string value =>
      obtain rfl := Option.some.inj added
      exact Nat.le_refl 1
  | int value =>
      rw [Scalar.texts, Option.ite_none_right_eq_some] at added
      obtain rfl := Option.some.inj added.2
      exact Nat.le_refl 1
  | uint value =>
      rw [Scalar.texts, Option.ite_none_right_eq_some] at added
      obtain rfl := Option.some.inj added.2
      exact Nat.le_refl 1
  | real value =>
      obtain rfl := Option.some.inj added
      exact Nat.zero_le 1
  | bool value =>
      obtain rfl := Option.some.inj added
      exact Nat.le_refl 1

theorem texts_bare {value : Scalar} {texts : List String} (added : value.texts = some texts)
    (bare : ∀ text, value = .string text → ',' ∉ text.toList) :
    ∀ text ∈ texts, ',' ∉ text.toList := by
  intro text member
  cases value with
  | string value =>
      obtain rfl := Option.some.inj added
      exact List.mem_singleton.mp member ▸ bare value rfl
  | int value =>
      rw [Scalar.texts, Option.ite_none_right_eq_some] at added
      obtain rfl := Option.some.inj added.2
      exact List.mem_singleton.mp member ▸ (CommaText.int_item value).bare
  | uint value =>
      rw [Scalar.texts, Option.ite_none_right_eq_some] at added
      obtain rfl := Option.some.inj added.2
      exact List.mem_singleton.mp member ▸ (CommaText.nat_item value).bare
  | real value =>
      obtain rfl := Option.some.inj added
      cases member
  | bool value =>
      obtain rfl := Option.some.inj added
      rw [List.mem_singleton.mp member]
      cases value <;> decide

theorem plain_iff_texts (realText : Rat → String) (value : Scalar) :
    value.Plain ↔ value.texts = some [value.asString realText] ∧
      ',' ∉ (value.asString realText).toList := by
  cases value with
  | string value => exact ⟨fun bare => ⟨rfl, bare⟩, fun given => given.2⟩
  | int value =>
      rw [Scalar.Plain, Scalar.texts, Option.ite_none_right_eq_some]
      exact ⟨fun fits => ⟨⟨fits, rfl⟩, (CommaText.int_item value).bare⟩, fun given => given.1.1⟩
  | uint value =>
      rw [Scalar.Plain, Scalar.texts, Option.ite_none_right_eq_some]
      exact ⟨fun fits => ⟨⟨fits, rfl⟩, (CommaText.nat_item value).bare⟩, fun given => given.1.1⟩
  | real value =>
      apply iff_of_false id
      intro given
      cases given.1
  | bool value =>
      apply iff_of_false id
      intro given
      have spelled := List.singleton_inj.mp (Option.some.inj given.1)
      cases value with
      | true => exact absurd spelled (by decide : "1" ≠ "true")
      | false => exact absurd spelled (by decide : "0" ≠ "false")

/-! ### The reply -/

theorem data_text (items : List String) (front : String) :
    (items.foldl (fun text item => text ++ "," ++ item) front).toList =
      front.toList ++ joined ',' (items.map String.toList) := by
  induction items generalizing front with
  | nil => simp [joined]
  | cons item rest ih =>
      rw [List.foldl_cons, ih, List.map_cons, joined_cons]
      simp only [String.toList_append, List.append_assoc]
      rfl

theorem reply_rest (data : List String) (task : Task) (rest : String) :
    buildCommDataResponse data task =
        .text (task.machineId ++ "," ++ task.stationId ++ "," ++ task.slotId ++ rest) ↔
      rest.toList = joined ',' (data.map String.toList) := by
  have front : (task.machineId ++ "," ++ task.stationId ++ "," ++ task.slotId ++ rest).toList =
      (task.machineId ++ "," ++ task.stationId ++ "," ++ task.slotId).toList ++ rest.toList :=
    String.toList_append
  rw [buildCommDataResponse, Message.text.injEq, ← String.toList_inj, data_text, front,
    List.append_cancel_left_eq]
  exact eq_comm

def addedTexts (entries : List (String × Scalar)) : Option (List String) :=
  (entries.mapM fun entry : String × Scalar => entry.2.texts).map List.flatten

theorem report_data (report : Report) :
    getMemberFromJson report.json = addedTexts report.entries := by
  simp only [Report.json, getMemberFromJson, addedTexts, List.mapM_map, Function.comp_def,
    member_texts]

theorem added_texts_cons (entry : String × Scalar) (rest : List (String × Scalar)) :
    addedTexts (entry :: rest) =
      entry.2.texts.bind fun texts => (addedTexts rest).map fun more => texts ++ more := by
  rw [addedTexts, addedTexts, List.mapM_cons]
  cases entry.2.texts with
  | none => rfl
  | some texts =>
      cases rest.mapM fun entry : String × Scalar => entry.2.texts with
      | none => rfl
      | some lists => rfl

theorem added_texts_of_plain (realText : Rat → String) {entries : List (String × Scalar)}
    (plain : ∀ entry ∈ entries, entry.2.Plain) :
    addedTexts entries = some (entries.map fun entry => entry.2.asString realText) := by
  induction entries with
  | nil => rfl
  | cons entry rest ih =>
      have first := ((plain_iff_texts realText entry.2).mp (plain entry List.mem_cons_self)).1
      have later := ih fun other member => plain other (List.mem_cons_of_mem _ member)
      rw [added_texts_cons, first, later]
      rfl

theorem added_texts_bare {entries : List (String × Scalar)} {data : List String}
    (added : addedTexts entries = some data)
    (bare : ∀ entry ∈ entries, ∀ text, entry.2 = .string text → ',' ∉ text.toList) :
    ∀ text ∈ data, ',' ∉ text.toList := by
  induction entries generalizing data with
  | nil =>
      obtain rfl := Option.some.inj added
      intro text member
      cases member
  | cons entry rest ih =>
      rw [added_texts_cons] at added
      obtain ⟨texts, first, later⟩ := Option.bind_eq_some_iff.mp added
      obtain ⟨more, others, rfl⟩ := Option.map_eq_some_iff.mp later
      intro text member
      rcases List.mem_append.mp member with own | other
      · exact texts_bare first (bare entry List.mem_cons_self) text own
      · exact ih others (fun other inside => bare other (List.mem_cons_of_mem _ inside)) text other

theorem added_texts_le {entries : List (String × Scalar)} {data : List String}
    (added : addedTexts entries = some data) : data.length ≤ entries.length := by
  induction entries generalizing data with
  | nil =>
      obtain rfl := Option.some.inj added
      exact Nat.le_refl 0
  | cons entry rest ih =>
      rw [added_texts_cons] at added
      obtain ⟨texts, first, later⟩ := Option.bind_eq_some_iff.mp added
      obtain ⟨more, others, rfl⟩ := Option.map_eq_some_iff.mp later
      have one := texts_le_one first
      have tail := ih others
      rw [List.length_append, List.length_cons]
      omega

theorem added_texts_each {entries : List (String × Scalar)} {spelled : String × Scalar → String}
    (added : addedTexts entries = some (entries.map spelled)) :
    ∀ entry ∈ entries, entry.2.texts = some [spelled entry] := by
  induction entries with
  | nil =>
      intro entry member
      cases member
  | cons entry rest ih =>
      rw [added_texts_cons] at added
      obtain ⟨texts, first, later⟩ := Option.bind_eq_some_iff.mp added
      obtain ⟨more, others, whole⟩ := Option.map_eq_some_iff.mp later
      have one := texts_le_one first
      have tail := added_texts_le others
      have lengths := congrArg List.length whole
      rw [List.length_append, List.length_map, List.length_cons] at lengths
      obtain ⟨text, rfl⟩ := List.length_eq_one_iff.mp (by omega : texts.length = 1)
      rw [List.singleton_append, List.map_cons, List.cons.injEq] at whole
      intro other member
      rcases List.mem_cons.mp member with same | inside
      · rw [same, first, whole.1]
      · exact ih (whole.2 ▸ others) other inside

/-- The reply to a device report has a field for each member exactly when every member is a
string without a comma or an integer of 32 bits. -/
theorem comma_data_complete_iff (realText : Rat → String) (task : Task) (report : Report) :
    Complete realText task report ↔ ∀ entry ∈ report.entries, entry.2.Plain := by
  constructor
  · rintro ⟨data, rest, got, reply, fields⟩ entry member
    rw [reply_rest] at reply
    rw [report_data] at got
    have spelledBare (other : String × Scalar) (inside : other ∈ report.entries) :
        ',' ∉ (other.2.asString realText).toList := by
      apply split_free rest.toList
      rw [fields]
      exact List.mem_cons_of_mem _ (List.mem_map.mpr ⟨other, inside, rfl⟩)
    have bare := added_texts_bare got fun other inside text same => by
      have own := spelledBare other inside
      rw [same] at own
      exact own
    have cut : rest.toList.splitOn ',' = [] :: data.map String.toList := by
      rw [reply, ← List.nil_append (joined _ _)]
      apply split_joined List.not_mem_nil
      intro part inside
      obtain ⟨text, inData, rfl⟩ := List.mem_map.mp inside
      exact bare text inData
    have same : data = report.entries.map fun entry => entry.2.asString realText := by
      rw [cut, List.cons.injEq] at fields
      apply List.map_injective_iff.mpr fun _ _ => String.toList_injective
      rw [fields.2, List.map_map]
      rfl
    rw [same] at got
    exact (plain_iff_texts realText entry.2).mpr
      ⟨added_texts_each got entry member, spelledBare entry member⟩
  · intro plain
    refine ⟨report.entries.map fun entry => entry.2.asString realText,
      String.ofList (joined ',' (report.entries.map fun entry =>
        (entry.2.asString realText).toList)), ?_, ?_, ?_⟩
    · rw [report_data, added_texts_of_plain realText plain]
    · rw [reply_rest, String.toList_ofList, List.map_map]
      rfl
    · rw [String.toList_ofList, ← List.nil_append (joined _ _)]
      apply split_joined List.not_mem_nil
      intro part inside
      obtain ⟨entry, member, rfl⟩ := List.mem_map.mp inside
      exact ((plain_iff_texts realText entry.2).mp (plain entry member)).2

/-- A glue dispenser whose pressure is not a whole number: the reply lacks it. -/
theorem real_pressure_missing :
    ¬ Complete (fun _ => "12.5") (Task.new (some .common) 1)
      ((StdMap.empty.insert "Press" (.real (25 / 2))).insert "time" (.int 3)) := by
  rintro ⟨data, rest, got, reply, fields⟩
  obtain rfl := Option.some.inj got
  rw [reply_rest] at reply
  rw [reply] at fields
  have lengths : 2 = 3 := congrArg List.length fields
  cases lengths

end DevHub.CommaData
