import Mathlib.Tactic.Common

/-!
What `ElecBalance::OnData` makes of a frame: its use of `m_balanceClTimer`, and the
text for the updater. `data` is the read buffer from the first received byte on; the
source does not look at the length of the frame.
-/

namespace DevHub.ElecBalance

set_option autoImplicit false

abbrev Data := Nat → UInt8

/-- `start` is the branch that schedules a timer when there is none, `stop` the cancel. -/
inductive TimerUse where
  | keep
  | start
  | stop
  deriving DecidableEq

/-- The argument of `UpdateInfo`: one of the two error texts, or the members of the object
whose text it is; `steady` is always `true`. -/
inductive Update where
  | errorFrame
  | errorData
  | reading (symbol value unit : String) (timeUse : Int)
  deriving DecidableEq

structure Received where
  timer : TimerUse
  update : Option Update

def text (buf : List UInt8) : String :=
  String.ofList ((buf.takeWhile fun byte => byte ≠ 0).map fun byte => Char.ofNat byte.toNat)

/-- The eight bytes behind the symbol. The condition with which the loop would enter the
first one twice compares a negation with a blank and never holds. -/
def value (data : Data) : String := text ((List.range 8).map fun i => data (i + 3))

def unit (data : Data) : String :=
  text (((List.range 3).map fun i => data (i + 11)).filter fun byte => byte ≠ ' '.toUInt8)

/-- `timeUse` is the time since the last command to the balance. -/
def onData (data : Data) (timeUse : Int) : Received :=
  if data 0 ≠ 'K'.toUInt8 then { timer := .keep, update := some .errorFrame }
  else if data 1 = '*'.toUInt8 then { timer := .start, update := none }
  else if data 1 = ' '.toUInt8 then
    if data 2 = '+'.toUInt8 then
      { timer := .stop, update := some (.reading "+" (value data) (unit data) timeUse) }
    else if data 2 = '-'.toUInt8 then
      { timer := .stop, update := some (.reading "-" (value data) (unit data) timeUse) }
    else { timer := .stop, update := some .errorData }
  else { timer := .stop, update := some .errorData }

/-- Only a frame with an unstable value is not passed on. -/
theorem on_data_silent_iff (data : Data) (timeUse : Int) :
    (onData data timeUse).update = none ↔ (onData data timeUse).timer = .start := by
  unfold onData
  split
  · simp
  · split
    · simp
    · split
      · split
        · simp
        · split <;> simp
      · simp

theorem update_reading {data : Data} (timeUse : Int) (head : data 0 = 'K'.toUInt8)
    (steady : data 1 = ' '.toUInt8) (sign : data 2 = '+'.toUInt8 ∨ data 2 = '-'.toUInt8) :
    (onData data timeUse).update =
      some (.reading (if data 2 = '+'.toUInt8 then "+" else "-") (value data) (unit data)
        timeUse) := by
  have blank : ¬ ' '.toUInt8 = '*'.toUInt8 := by decide
  rw [onData, if_neg (not_not.mpr head), steady, if_neg blank, if_pos rfl]
  by_cases plus : data 2 = '+'.toUInt8
  · rw [if_pos plus, if_pos plus]
  · rw [if_neg plus, if_neg plus, if_pos (sign.resolve_left plus)]

/-- The report depends on the first character, and on each further part only if the ones
before it make it necessary. -/
theorem update_congr {data other : Data} (timeUse : Int) (head : data 0 = other 0)
    (status : data 0 = 'K'.toUInt8 → data 1 = other 1)
    (sign : data 0 = 'K'.toUInt8 → data 1 = ' '.toUInt8 → data 2 = other 2)
    (rest : data 0 = 'K'.toUInt8 → data 1 = ' '.toUInt8 →
      data 2 = '+'.toUInt8 ∨ data 2 = '-'.toUInt8 →
        value data = value other ∧ unit data = unit other) :
    (onData data timeUse).update = (onData other timeUse).update := by
  by_cases starts : data 0 = 'K'.toUInt8
  · by_cases steady : data 1 = ' '.toUInt8
    · by_cases signed : data 2 = '+'.toUInt8 ∨ data 2 = '-'.toUInt8
      · obtain ⟨values, units⟩ := rest starts steady signed
        rw [update_reading timeUse starts steady signed, values, units,
          sign starts steady, ← update_reading timeUse (head ▸ starts) (status starts ▸ steady)
            (sign starts steady ▸ signed)]
      · obtain ⟨notPlus, notMinus⟩ := not_or.mp signed
        rw [onData, onData, ← head, ← status starts, ← sign starts steady, if_neg notPlus,
          if_neg notPlus, if_neg notMinus, if_neg notMinus]
    · rw [onData, onData, ← head, ← status starts, if_neg steady, if_neg steady]
  · rw [onData, onData, ← head, if_pos starts, if_pos starts]

end DevHub.ElecBalance
