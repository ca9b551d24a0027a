import DevHub.Library.FloatText
import DevHub.Plc.Fins

/-!
What a stable frame of a balance makes `PlcFins` write. The value goes through the report
of `ElecBalance`, `trim` and `convertFromString`; `data` is the text that is converted, and
the float written is the number that the stream reads from it.
-/

namespace DevHub.Weight

open PlcFins FloatText

set_option autoImplicit false

variable {ι : Type} [DecidableEq ι]

/-- `convertFromString` for a `float`, which `none` leaves uninitialised. -/
def convertFromString (s : String) : Option Rat := extract s.toList

/-- `OnData` of a balance with `UpdateInfo` of its `PlcFins`, the writes of which succeed. -/
def onData (state : State ι) (client : ι) (frame : ElecBalance.Data) (timeUse : Int) : State ι :=
  match (ElecBalance.onData frame timeUse).update with
  | none => state
  | some update => updateInfo state client (balanceInfo update) true true

def floats (emitted : List (Output ι)) : List (Option Rat) :=
  emitted.filterMap fun output =>
    match output with
    | .fins _ _ (.writeInt32 text) => some (convertFromString text)
    | _ => none

def codes (emitted : List (Output ι)) : List UInt16 :=
  emitted.filterMap fun output =>
    match output with
    | .fins _ _ (.writeWord value) => some value
    | _ => none

structure Stable (frame : ElecBalance.Data) : Prop where
  head : frame 0 = 'K'.toUInt8
  steady : frame 1 = ' '.toUInt8
  sign : frame 2 = '+'.toUInt8 ∨ frame 2 = '-'.toUInt8

def valueField (frame : ElecBalance.Data) : String :=
  String.ofList (((List.range 8).map fun i => frame (i + 3)).map fun byte =>
    Char.ofNat byte.toNat)

def weight (frame : ElecBalance.Data) : Option Rat := decimal (trim (valueField frame)).toList

def signed (frame : ElecBalance.Data) (number : Rat) : Rat :=
  if frame 2 = '-'.toUInt8 then -number else number

/-- The weight of the frame with success, or an error and no data. -/
def Delivered (frame : ElecBalance.Data) (emitted : List (Output ι)) : Prop :=
  (∃ number, weight frame = some number ∧ floats emitted = [some (signed frame number)] ∧
      codes emitted = [0]) ∨
    (floats emitted = [] ∧ ∃ code, code ≠ 0 ∧ codes emitted = [code])

/-! ### The text of a weight -/

theorem trim_blanks (s : String) :
    ∃ front back, s.toList = front ++ ((trim s).toList ++ back) ∧
      (∀ c ∈ front, c = ' ') ∧ ∀ c ∈ back, c = ' ' := by
  let rest := s.toList.dropWhile fun c => c = ' '
  have blank {c : Char} {chars : List Char}
      (member : c ∈ chars.takeWhile fun c => decide (c = ' ')) : c = ' ' := by
    simpa using List.mem_takeWhile_imp member
  refine ⟨s.toList.takeWhile fun c => c = ' ', (rest.reverse.takeWhile fun c => c = ' ').reverse,
    ?_, fun c member => blank member, fun c member => blank (List.mem_reverse.mp member)⟩
  have whole : (trim s).toList ++ (rest.reverse.takeWhile fun c => c = ' ').reverse = rest := by
    rw [trim, String.toList_ofList, ← List.reverse_append, List.takeWhile_append_dropWhile,
      List.reverse_reverse]
  rw [whole, List.takeWhile_append_dropWhile]

/-- A field with a decimal number has no NUL, so the report has it as it is. -/
theorem value_of_weight {frame : ElecBalance.Data} {number : Rat}
    (decimal : weight frame = some number) : ElecBalance.value frame = valueField frame := by
  obtain ⟨front, back, whole, leading, trailing⟩ := trim_blanks (valueField frame)
  have belong := (decimal_chars decimal).2
  have present : ∀ byte ∈ (List.range 8).map fun i => frame (i + 3), decide (byte ≠ 0) = true := by
    intro byte member
    rw [decide_eq_true_eq]
    rintro rfl
    have nul : Char.ofNat 0 ∈ (valueField frame).toList := by
      rw [valueField, String.toList_ofList]
      exact List.mem_map.mpr ⟨0, member, rfl⟩
    rw [whole] at nul
    rcases List.mem_append.mp nul with early | late
    · exact absurd (leading _ early) (by decide)
    · rcases List.mem_append.mp late with inside | behind
      · rcases belong _ inside with digit | point
        · exact absurd digit (by decide)
        · exact absurd point (by decide)
      · exact absurd (trailing _ behind) (by decide)
  rw [ElecBalance.value, ElecBalance.text, List.takeWhile_eq_self_iff.mpr present]
  rfl

theorem blanks_end {back : List Char} (blank : ∀ c ∈ back, c = ' ') : Ends back := by
  intro c head
  obtain rfl := blank c (List.mem_of_head? head)
  decide

theorem value_text_weight {frame : ElecBalance.Data} {number : Rat}
    (decimal : weight frame = some number) :
    convertFromString (valueText (if frame 2 = '-'.toUInt8 then "-" else "+")
      (ElecBalance.value frame)) = some (signed frame number) := by
  rw [value_of_weight decimal]
  unfold convertFromString signed
  by_cases negative : frame 2 = '-'.toUInt8
  · have text : (valueText "-" (valueField frame)).toList =
        '-' :: (trim (valueField frame)).toList := by
      rw [valueText, if_neg (by decide), String.toList_append]
      rfl
    rw [if_pos negative, if_pos negative, text]
    exact extract_negative decimal
  · obtain ⟨front, back, whole, leading, trailing⟩ := trim_blanks (valueField frame)
    rw [if_neg negative, if_neg negative, valueText, if_pos rfl, whole]
    apply extract_decimal _ decimal (blanks_end trailing)
    intro c member
    rw [leading c member]
    rfl

/-! ### The writes -/

theorem stable_written {state : State ι} (client : ι) {frame : ElecBalance.Data} (timeUse : Int)
    (stable : Stable frame) (session : state.plc.sys ≠ none) :
    (onData state client frame timeUse).emitted =
      state.emitted ++ [.fins client state.plc.sys (.writeInt32 (valueText
        (if frame 2 = '-'.toUInt8 then "-" else "+") (ElecBalance.value frame))),
        .fins client state.plc.sys (.writeWord 0)] := by
  have reached : reaches state true = true := by
    simpa [reaches] using Option.isSome_iff_ne_none.mpr session
  have blank : ¬ ' '.toUInt8 = '*'.toUInt8 := by decide
  have update : (ElecBalance.onData frame timeUse).update =
      some (.reading (if frame 2 = '-'.toUInt8 then "-" else "+") (ElecBalance.value frame)
        (ElecBalance.unit frame) timeUse) := by
    unfold ElecBalance.onData
    rw [if_neg (not_not.mpr stable.head), stable.steady, if_neg blank, if_pos rfl]
    rcases stable.sign with plus | minus
    · have other : ¬ '+'.toUInt8 = '-'.toUInt8 := by decide
      rw [plus, if_pos rfl, if_neg other]
    · have other : ¬ '-'.toUInt8 = '+'.toUInt8 := by decide
      rw [minus, if_neg other, if_pos rfl, if_pos rfl]
  simp [onData, update, balanceInfo, updateInfo, reached, setStatus, call, emit]

/-- A steady value is delivered as a weight or not at all exactly when the field, without its
blanks, is a decimal number. -/
theorem weight_delivered_iff (state : State ι) (client : ι) (frame : ElecBalance.Data)
    (timeUse : Int) (stable : Stable frame) (session : state.plc.sys ≠ none) :
    Delivered frame (onData { state with emitted := [] } client frame timeUse).emitted ↔
      (weight frame).isSome = true := by
  have written :=
    @stable_written ι _ { state with emitted := [] } client frame timeUse stable session
  rw [List.nil_append] at written
  rw [written]
  constructor
  · rintro (⟨number, decimal, -⟩ | ⟨nothing, -⟩)
    · rw [decimal, Option.isSome_some]
    · cases nothing
  · intro decimal
    obtain ⟨number, found⟩ := Option.isSome_iff_exists.mp decimal
    refine Or.inl ⟨number, found, ?_, rfl⟩
    exact congrArg (fun weight => [weight]) (value_text_weight found)

def received (text : String) : ElecBalance.Data := fun i => (text.toList.map Char.toUInt8).getD i 0

def connected : State Nat :=
  { State.start (fun _ => 0) with plc := { connectionStatus := .connectOk, sys := some 1 } }

/-- A weight of minus 12.5. -/
theorem weight_delivered :
    Delivered (received "K -   12.50g  ")
      (onData { connected with emitted := [] } 0 (received "K -   12.50g  ") 0).emitted :=
  (weight_delivered_iff connected 0 (received "K -   12.50g  ") 0
    ⟨by decide, by decide, by decide⟩ (by decide)).mpr (by decide)

/-- An overload is completed with success. -/
theorem overload_delivered :
    ¬ Delivered (received "K +   OL   g  ")
      (onData { connected with emitted := [] } 0 (received "K +   OL   g  ") 0).emitted := by
  rintro (⟨number, decimal, -⟩ | ⟨nothing, -⟩)
  · have none_ : weight (received "K +   OL   g  ") = none := by decide
    rw [none_] at decimal
    cases decimal
  · cases nothing

end DevHub.Weight
