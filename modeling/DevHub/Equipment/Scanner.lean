import DevHub.Device.Peripheral
import DevHub.Equipment.Sequence

/-!
The scanners. A `KeyenceScanner` passes on the text in the read buffer. A `HandhelScanner`
collects the keys of a barcode until Enter, in variables that are static: there is one
buffer, and one length, for all scanners of the process.
-/

namespace DevHub.Scanners

open Peripheral

set_option autoImplicit false

/-- The members of a report. `code` is `none` where the text does not end in the buffer. -/
structure KeyenceReport where
  dev : String
  time : Int
  code : Option (List UInt8)
  deriving DecidableEq

/-- `KeyenceScanner::OnData`; it does not look at the number of bytes read. -/
def keyenceOnData (dev : String) (buffer : ReadBuffer) (time : Int) : KeyenceReport where
  dev := dev
  time := time
  code := Sequence.cString buffer.bytes

def keyAsciiMap : List UInt8 :=
  [0, 0] ++ Sequence.bytes "1234567890" ++ [0, 0, 0, 0] ++ Sequence.bytes "qwertyuiop" ++
    [0, 0, 0, 0] ++ Sequence.bytes "asdfghjkl" ++ [0, 0, 0, 0, 0] ++ Sequence.bytes "zxcvbnm"

/-- The members of a `struct input_event` that are used, and the time when it is handled. -/
structure InputEvent where
  type : UInt16
  code : UInt16
  time : Int
  deriving DecidableEq

/-- `barBuf` and `i` of `OnData`; `barBuf` has 100 bytes. -/
structure Statics where
  barBuf : List UInt8
  i : Nat
  deriving DecidableEq

def Statics.clear : Statics where
  barBuf := List.replicate 100 0
  i := 0

/-- `outside` stands for an access outside `barBuf` or `key_ascii_map`. -/
inductive Output where
  | updateInfo (dev : String) (time : Int) (code : List UInt8)
  | outside
  deriving DecidableEq

structure HandhelScanner where
  updater : Bool
  devName : String

/-- `barBuf[i ++] = c`; behind the buffer the character is lost. -/
def push (statics : Statics) (c : UInt8) : Statics × List Output :=
  ({ barBuf := statics.barBuf.set statics.i c, i := statics.i + 1 },
    if statics.i < 100 then [] else [.outside])

/-- The loop that keeps every other character, and the zero behind them. -/
def everyOther (barBuf : List UInt8) (sendLen : Nat) : List UInt8 :=
  ((List.range sendLen).foldl (fun buf j => buf.set (j + 1) (buf.getD (j * 2 + 2) 0)) barBuf).set
    sendLen 0

def onEnter (scanner : HandhelScanner) (statics : Statics) (time : Int) : Statics × List Output :=
  let (ended, lost) := push statics '\n'.toUInt8
  let sendLen := ended.i / 2
  let code := (everyOther ended.barBuf sendLen).takeWhile fun byte => byte ≠ 0
  (.clear,
    lost ++ (if sendLen * 2 < 100 then [] else [.outside]) ++
      if scanner.updater ∧ sendLen > 0 then [.updateInfo scanner.devName time code] else [])

/-- One pass of the loop over the events. The map is read one behind its end, too. -/
def onEvent (scanner : HandhelScanner) (statics : Statics) (event : InputEvent) :
    Statics × List Output :=
  if event.type = 1 then
    if event.code = 28 then onEnter scanner statics event.time
    else if event.code.toNat > keyAsciiMap.length then (statics, [])
    else
      match keyAsciiMap[event.code.toNat]? with
      | none => (statics, [.outside])
      | some c => if c ≠ 0 then push statics c else (statics, [])
  else (statics, [])

def handhelOnData (scanner : HandhelScanner) (statics : Statics) :
    List InputEvent → Statics × List Output
  | [] => (statics, [])
  | event :: rest =>
      let first := onEvent scanner statics event
      let later := handhelOnData scanner first.1 rest
      (later.1, first.2 ++ later.2)

def InputEvent.isKey (event : InputEvent) : Bool :=
  event.type = 1 && (event.code = 28 || (keyAsciiMap[event.code.toNat]?).any fun c => c ≠ 0)

theorem on_event_other {event : InputEvent} (other : event.isKey = false)
    (scanner : HandhelScanner) (statics : Statics) :
    (onEvent scanner statics event).1 = statics ∧
      ∀ another, (onEvent scanner another event).2 = (onEvent scanner statics event).2 := by
  unfold onEvent
  by_cases key : event.type = 1
  · simp only [InputEvent.isKey, key, decide_true, Bool.true_and, Bool.or_eq_false_iff,
      decide_eq_false_iff_not] at other
    obtain ⟨notEnter, noChar⟩ := other
    simp only [if_pos key, if_neg notEnter]
    by_cases beyond : event.code.toNat > keyAsciiMap.length
    · simp only [if_pos beyond]
      exact ⟨trivial, fun _ => trivial⟩
    · simp only [if_neg beyond]
      cases found : keyAsciiMap[event.code.toNat]? with
      | none => exact ⟨rfl, fun _ => rfl⟩
      | some c =>
          have zero : ¬ c ≠ 0 := by
            rw [found] at noChar
            simpa using noChar
          simp only [if_neg zero]
          exact ⟨trivial, fun _ => trivial⟩
  · simp only [if_neg key]
    exact ⟨trivial, fun _ => trivial⟩

theorem on_data_other {batch : List InputEvent} (other : batch.any InputEvent.isKey = false)
    (scanner : HandhelScanner) (statics : Statics) :
    (handhelOnData scanner statics batch).1 = statics ∧
      ∀ another, (handhelOnData scanner another batch).2 =
        (handhelOnData scanner statics batch).2 := by
  induction batch with
  | nil => exact ⟨rfl, fun _ => rfl⟩
  | cons event rest ih =>
      rw [List.any_cons, Bool.or_eq_false_iff] at other
      have first := on_event_other other.1 scanner
      have later := ih other.2
      have kept (statics : Statics) : (handhelOnData scanner statics (event :: rest)) =
          ((handhelOnData scanner statics rest).1,
            (onEvent scanner statics event).2 ++ (handhelOnData scanner statics rest).2) := by
        rw [handhelOnData]
        simp only [(first statics).1]
      rw [kept statics]
      refine ⟨later.1, ?_⟩
      intro another
      rw [kept another, (first statics).2 another, later.2 another]

end DevHub.Scanners
