import DevHub.Equipment.Barcode
import Mathlib.Data.List.Induction

/-!
The indices that `HandhelScanner::OnData` uses. The write position is reset by Enter only and
never compared with the size of the buffer, and the check before `key_ascii_map` lets the code
pass that is equal to its size.
-/

namespace DevHub.ScanBounds

open Scanners Barcode

set_option autoImplicit false

inductive Access where
  | barBuf (index : Nat)
  | keyAsciiMap (index : Nat)
  deriving DecidableEq

def Within : Access → Prop
  | .barBuf index => index < 100
  | .keyAsciiMap index => index < 51

instance : DecidablePred Within
  | .barBuf index => inferInstanceAs (Decidable (index < 100))
  | .keyAsciiMap index => inferInstanceAs (Decidable (index < 51))

/-- Enter: the newline, the loop with its `printf`, and the zero behind the text. -/
def enterAccesses (i : Nat) : List Access :=
  let sendLen := (i + 1) / 2
  .barBuf i :: ((List.range sendLen).flatMap fun j =>
    [.barBuf j, .barBuf (j * 2 + 2), .barBuf (j + 1)]) ++ [.barBuf sendLen]

def eventAccesses (statics : Statics) (event : InputEvent) : List Access :=
  if event.type = 1 then
    if event.code = 28 then enterAccesses statics.i
    else if event.code.toNat > keyAsciiMap.length then []
    else
      .keyAsciiMap event.code.toNat ::
        match keyAsciiMap[event.code.toNat]? with
        | none => []
        | some c => if c ≠ 0 then [.barBuf statics.i] else []
  else []

def accesses (scanner : HandhelScanner) (statics : Statics) : List InputEvent → List Access
  | [] => []
  | event :: rest =>
      eventAccesses statics event ++ accesses scanner (onEvent scanner statics event).1 rest

def callAccesses (scanner : HandhelScanner) (statics : Statics) :
    List (List InputEvent) → List Access
  | [] => []
  | batch :: rest =>
      accesses scanner statics batch ++
        callAccesses scanner (handhelOnData scanner statics batch).1 rest

def isEnter (event : InputEvent) : Bool := event.type = 1 && event.code = 28

def isChar (event : InputEvent) : Bool :=
  event.type = 1 && keyAsciiMap.getD event.code.toNat 0 ≠ 0

/-- The characters since the last Enter. -/
def pendingChars (events : List InputEvent) : Nat :=
  (events.reverse.takeWhile fun event => !isEnter event).countP isChar

/-- With `count` characters before it, the event finds room: 98 characters may stand before
an Enter and 99 before another character, and no key has the code 51. -/
def EventFits (count : Nat) (event : InputEvent) : Prop :=
  (isEnter event = true → count ≤ 98) ∧ (isChar event = true → count ≤ 99) ∧
    ¬ (event.type = 1 ∧ event.code = 51)

def Fits (events : List InputEvent) : Prop :=
  ∀ before event after, events = before ++ event :: after →
    EventFits (pendingChars before) event

/-! ### One event -/

theorem enter_within (i : Nat) : (∀ access ∈ enterAccesses i, Within access) ↔ i ≤ 98 := by
  constructor
  · intro within
    have newline : i < 100 := within (.barBuf i) (by simp [enterAccesses])
    by_contra long
    -- With 99 characters the last pass of the loop reads at 100.
    have read : Within (.barBuf (49 * 2 + 2)) := by
      apply within
      rw [show i = 99 by omega]
      simp only [enterAccesses, List.mem_append, List.mem_cons, List.mem_flatMap, List.mem_range]
      exact Or.inl (Or.inr ⟨49, by decide, by simp⟩)
    exact absurd read (by decide)
  · intro short access member
    simp only [enterAccesses, List.cons_append, List.mem_cons, List.mem_append, List.mem_flatMap,
      List.mem_range, List.not_mem_nil, or_false] at member
    rcases member with rfl | ⟨j, below, rfl | rfl | rfl⟩ | rfl
    all_goals
      simp only [Within]
      omega

/-- What an event is to the loop, with what it uses and what it does. -/
inductive Kind (event : InputEvent) : Prop where
  | enter (key : isEnter event = true) (plain : isChar event = false)
      (inside : ¬ (event.type = 1 ∧ event.code = 51))
      (used : ∀ statics, eventAccesses statics event = enterAccesses statics.i)
      (done : ∀ scanner statics, onEvent scanner statics event =
        onEnter scanner statics event.time)
  | char (c : UInt8) (notEnter : isEnter event = false) (key : isChar event = true)
      (inside : ¬ (event.type = 1 ∧ event.code = 51)) (below : event.code.toNat < 51)
      (used : ∀ statics, eventAccesses statics event =
        [.keyAsciiMap event.code.toNat, .barBuf statics.i])
      (done : ∀ scanner statics, onEvent scanner statics event = push statics c)
  | last (notEnter : isEnter event = false) (plain : isChar event = false)
      (beyond : event.type = 1 ∧ event.code = 51)
      (used : ∀ statics, eventAccesses statics event = [.keyAsciiMap 51])
      (done : ∀ scanner statics, onEvent scanner statics event = (statics, [.outside]))
  | other (notEnter : isEnter event = false) (plain : isChar event = false)
      (inside : ¬ (event.type = 1 ∧ event.code = 51))
      (used : ∀ statics, ∀ access ∈ eventAccesses statics event, Within access)
      (done : ∀ scanner statics, onEvent scanner statics event = (statics, []))

theorem mapped_kind (event : InputEvent) (key : event.type = 1) (enter : event.code ≠ 28)
    (inside : event.code.toNat < 51) : Kind event := by
  have notEnter : isEnter event = false := by simp [isEnter, enter]
  have notLast : ¬ (event.type = 1 ∧ event.code = 51) := by
    rintro ⟨-, last⟩
    rw [last] at inside
    exact absurd inside (by decide)
  have listed : event.code.toNat < keyAsciiMap.length := inside
  have checked : ¬ event.code.toNat > keyAsciiMap.length := Nat.not_lt_of_lt listed
  have found := List.getElem?_eq_getElem listed
  by_cases zero : keyAsciiMap[event.code.toNat] = 0
  · apply Kind.other notEnter
    · rw [isChar, List.getD_eq_getElem _ _ listed, zero]
      simp
    · exact notLast
    · intro statics access member
      rw [eventAccesses, if_pos key, if_neg enter, if_neg checked, found, zero] at member
      obtain rfl := List.mem_singleton.mp member
      exact inside
    · intro scanner statics
      rw [onEvent, if_pos key, if_neg enter, if_neg checked, found, zero]
      rfl
  · apply Kind.char keyAsciiMap[event.code.toNat] notEnter
    · rw [isChar, List.getD_eq_getElem _ _ listed]
      simp [key, zero]
    · exact notLast
    · exact inside
    · intro statics
      rw [eventAccesses, if_pos key, if_neg enter, if_neg checked, found]
      simp only [if_pos zero]
    · intro scanner statics
      rw [onEvent, if_pos key, if_neg enter, if_neg checked, found]
      simp only [if_pos zero]

/-- A code above the size of the map is left alone, and the code that is equal to it is not. -/
theorem unmapped_kind (event : InputEvent) (key : event.type = 1) (enter : event.code ≠ 28)
    (unmapped : ¬ event.code.toNat < 51) : Kind event := by
  have notEnter : isEnter event = false := by simp [isEnter, enter]
  by_cases last : event.code = 51
  · have none : keyAsciiMap[event.code.toNat]? = none := by
      rw [last]
      rfl
    have checked : ¬ event.code.toNat > keyAsciiMap.length := by
      rw [last]
      decide
    apply Kind.last notEnter
    · rw [isChar, last]
      simp [keyAsciiMap, Sequence.bytes]
    · exact ⟨key, last⟩
    · intro statics
      rw [eventAccesses, if_pos key, if_neg enter, if_neg checked, none, last]
      rfl
    · intro scanner statics
      rw [onEvent, if_pos key, if_neg enter, if_neg checked, none]
  · have notLast : event.code.toNat ≠ 51 := fun same => last (UInt16.toNat_inj.mp same)
    have beyond : event.code.toNat > keyAsciiMap.length :=
      Nat.lt_of_le_of_ne (Nat.le_of_not_lt unmapped) (Ne.symm notLast)
    apply Kind.other notEnter
    · rw [isChar, List.getD_eq_default _ _ (Nat.le_of_lt beyond)]
      simp
    · exact fun both => last both.2
    · intro statics access member
      rw [eventAccesses, if_pos key, if_neg enter, if_pos beyond] at member
      cases member
    · intro scanner statics
      rw [onEvent, if_pos key, if_neg enter, if_pos beyond]

theorem event_kind (event : InputEvent) : Kind event := by
  by_cases key : event.type = 1
  · by_cases enter : event.code = 28
    · apply Kind.enter
      · simp [isEnter, key, enter]
      · rw [isChar, enter]
        simp [keyAsciiMap, Sequence.bytes]
      · simp [enter]
      · intro statics
        rw [eventAccesses, if_pos key, if_pos enter]
      · intro scanner statics
        rw [onEvent, if_pos key, if_pos enter]
    · by_cases inside : event.code.toNat < 51
      · exact mapped_kind event key enter inside
      · exact unmapped_kind event key enter inside
  · apply Kind.other
    · simp [isEnter, key]
    · simp [isChar, key]
    · exact fun both => key both.1
    · intro statics access member
      rw [eventAccesses, if_neg key] at member
      cases member
    · intro scanner statics
      rw [onEvent, if_neg key]

theorem event_within (statics : Statics) (event : InputEvent) :
    (∀ access ∈ eventAccesses statics event, Within access) ↔ EventFits statics.i event := by
  cases event_kind event with
  | enter key plain inside used done =>
      rw [used, enter_within]
      simp [EventFits, key, plain, inside]
  | char c notEnter key inside below used done =>
      rw [used]
      have short : statics.i < 100 ↔ statics.i ≤ 99 := Nat.lt_succ_iff
      simp [EventFits, notEnter, key, inside, Within, below, short]
  | last notEnter plain beyond used done =>
      rw [used]
      simp [EventFits, beyond, Within]
  | other notEnter plain inside used done =>
      have fits : EventFits statics.i event := by simp [EventFits, notEnter, plain, inside]
      exact ⟨fun _ => fits, fun _ => used statics⟩

/-- The outputs of the model show an access outside exactly when there is one. -/
theorem event_outside (scanner : HandhelScanner) (statics : Statics) (event : InputEvent) :
    .outside ∈ (onEvent scanner statics event).2 ↔
      ¬ ∀ access ∈ eventAccesses statics event, Within access := by
  rw [event_within]
  cases event_kind event with
  | enter key plain inside used done =>
      rw [done]
      by_cases short : statics.i ≤ 98
      · have room : statics.i < 100 := by omega
        have half : (statics.i + 1) / 2 * 2 < 100 := by omega
        simp [onEnter, push, room, half, EventFits, short, plain, inside]
      · have half : ¬ (statics.i + 1) / 2 * 2 < 100 := by omega
        simp [onEnter, push, half, EventFits, short, key]
  | char c notEnter key inside below used done =>
      rw [done]
      by_cases room : statics.i < 100
      · have short : statics.i ≤ 99 := by omega
        simp [push, room, EventFits, notEnter, key, inside, short]
      · have long : ¬ statics.i ≤ 99 := by omega
        simp [push, room, EventFits, notEnter, key, inside, long]
  | last notEnter plain beyond used done =>
      rw [done]
      simp [EventFits, beyond]
  | other notEnter plain inside used done =>
      rw [done]
      simp [EventFits, notEnter, plain, inside]

/-! ### Streams -/

theorem on_event_i (scanner : HandhelScanner) (statics : Statics) (event : InputEvent) :
    (onEvent scanner statics event).1.i =
      if isEnter event then 0 else if isChar event then statics.i + 1 else statics.i := by
  cases event_kind event with
  | enter key plain inside used done =>
      rw [done, if_pos key]
      rfl
  | char c notEnter key inside below used done =>
      rw [done, if_neg (by simp [notEnter]), if_pos key]
      rfl
  | last notEnter plain beyond used done =>
      rw [done, if_neg (by simp [notEnter]), if_neg (by simp [plain])]
  | other notEnter plain inside used done =>
      rw [done, if_neg (by simp [notEnter]), if_neg (by simp [plain])]

theorem pending_snoc (events : List InputEvent) (event : InputEvent) :
    pendingChars (events ++ [event]) =
      if isEnter event then 0
      else if isChar event then pendingChars events + 1 else pendingChars events := by
  rw [pendingChars, List.reverse_append, List.reverse_singleton, List.singleton_append]
  cases enter : isEnter event with
  | true => simp [enter]
  | false =>
      rw [List.takeWhile_cons_of_pos (by simp [enter]), List.countP_cons]
      cases char : isChar event with
      | true => simp [pendingChars]
      | false => simp [pendingChars]

theorem on_data_i (scanner : HandhelScanner) (events : List InputEvent) :
    (handhelOnData scanner .clear events).1.i = pendingChars events := by
  induction events using List.reverseRecOn with
  | nil => rfl
  | append_singleton events event ih =>
      rw [on_data_append, pending_snoc, ← ih]
      exact on_event_i scanner _ event

theorem accesses_append (scanner : HandhelScanner) (statics : Statics)
    (first second : List InputEvent) :
    accesses scanner statics (first ++ second) =
      accesses scanner statics first ++
        accesses scanner (handhelOnData scanner statics first).1 second := by
  induction first generalizing statics with
  | nil => rfl
  | cons event rest ih =>
      rw [List.cons_append, accesses, ih, accesses, List.append_assoc]
      rfl

theorem call_accesses_flatten (scanner : HandhelScanner) (statics : Statics)
    (calls : List (List InputEvent)) :
    callAccesses scanner statics calls = accesses scanner statics calls.flatten := by
  induction calls generalizing statics with
  | nil => rfl
  | cons batch rest ih => rw [List.flatten_cons, accesses_append, callAccesses, ih]

theorem fits_snoc (events : List InputEvent) (event : InputEvent) :
    Fits (events ++ [event]) ↔ Fits events ∧ EventFits (pendingChars events) event := by
  constructor
  · intro fits
    constructor
    · intro before other after split
      exact fits before other (after ++ [event]) (by simp [split])
    · exact fits events event [] rfl
  · rintro ⟨earlier, last⟩ before other after split
    induction after using List.reverseRecOn with
    | nil =>
        obtain ⟨rfl, same⟩ := List.append_inj' split rfl
        obtain ⟨rfl, -⟩ := List.cons.inj same
        exact last
    | append_singleton after final _ =>
        rw [← List.cons_append, ← List.append_assoc] at split
        obtain ⟨rfl, -⟩ := List.append_inj' split rfl
        exact earlier before other after rfl

/-- Every index is below its array's size exactly for the streams in which each event
finds room. -/
theorem accesses_within_iff (scanner : HandhelScanner) (calls : List (List InputEvent)) :
    (∀ access ∈ callAccesses scanner .clear calls, Within access) ↔ Fits calls.flatten := by
  rw [call_accesses_flatten]
  induction calls.flatten using List.reverseRecOn with
  | nil =>
      constructor
      · intro _ before event after split
        simp at split
      · intro _ access member
        cases member
  | append_singleton events event ih =>
      rw [accesses_append, fits_snoc, ← ih, ← on_data_i scanner events, ← event_within]
      simp only [accesses, List.append_nil, List.mem_append]
      constructor
      · intro within
        exact ⟨fun access member => within access (Or.inl member),
          fun access member => within access (Or.inr member)⟩
      · rintro ⟨earlier, last⟩ access (member | member)
        · exact earlier access member
        · exact last access member

/-- The code 51 passes the check and is one behind the map. -/
theorem last_code_outside :
    ¬ ∀ access ∈ callAccesses counterScanner .clear [[keyEvent 51 0]], Within access := by
  decide

end DevHub.ScanBounds
