import DevHub.Equipment.Scanner

/-!
The barcodes that a handheld scanner sends. Every key arrives twice, once when it is pressed
and once when it is released, and Enter compacts the buffer in place: the loop writes at
`j + 1` what it reads at `j * 2 + 2`, so a byte is read before it is written over.
-/

namespace DevHub.Barcode

open Scanners

set_option autoImplicit false

/-! ### The compaction -/

def passes (barBuf : List UInt8) (count : Nat) : List UInt8 :=
  (List.range count).foldl (fun buf j => buf.set (j + 1) (buf.getD (j * 2 + 2) 0)) barBuf

theorem passes_succ (barBuf : List UInt8) (count : Nat) :
    passes barBuf (count + 1) =
      (passes barBuf count).set (count + 1) ((passes barBuf count).getD (count * 2 + 2) 0) := by
  rw [passes, List.range_succ, List.foldl_append]
  rfl

theorem passes_length (barBuf : List UInt8) (count : Nat) :
    (passes barBuf count).length = barBuf.length := by
  induction count with
  | zero => rfl
  | succ count ih => rw [passes_succ, List.length_set, ih]

/-- After `count` passes the bytes up to `count` are the even ones, the others are unchanged. -/
theorem passes_get (barBuf : List UInt8) (count index : Nat)
    (inside : count * 2 < barBuf.length) :
    (passes barBuf count).getD index 0 =
      if index ≤ count then barBuf.getD (index * 2) 0 else barBuf.getD index 0 := by
  induction count generalizing index with
  | zero =>
      by_cases first : index ≤ 0
      · obtain rfl := Nat.le_zero.mp first
        rfl
      · rw [if_neg first]
        rfl
  | succ count ih =>
      have earlier (index : Nat) := ih index (by omega)
      have length := passes_length barBuf count
      -- The byte that is read stands behind all those written so far.
      have unread := earlier (count * 2 + 2)
      rw [if_neg (by omega)] at unread
      rw [passes_succ, unread]
      by_cases written : index = count + 1
      · subst written
        rw [if_pos (Nat.le_refl _), List.getD_eq_getElem?_getD,
          List.getElem?_set_self (by omega), Option.getD_some, Nat.add_mul]
      · rw [List.getD_eq_getElem?_getD, List.getElem?_set_ne (by omega),
          ← List.getD_eq_getElem?_getD, earlier]
        by_cases low : index ≤ count
        · rw [if_pos low, if_pos (by omega)]
        · rw [if_neg low, if_neg (by omega)]

def doubled (text : List UInt8) : List UInt8 := text.flatMap fun c => [c, c]

theorem doubled_length (text : List UInt8) : (doubled text).length = text.length * 2 := by
  induction text with
  | nil => rfl
  | cons c rest ih =>
      rw [doubled, List.flatMap_cons, List.length_append, List.length_cons, ← doubled, ih]
      simp only [List.length_cons, List.length_nil]
      omega

theorem doubled_get (text tail : List UInt8) (index : Nat) (inside : index < text.length) :
    (doubled text ++ tail).getD (index * 2) 0 = text[index] := by
  induction text generalizing index with
  | nil => cases inside
  | cons c rest ih =>
      cases index with
      | zero => rfl
      | succ index =>
          have shifted : (index + 1) * 2 = index * 2 + 1 + 1 := by omega
          have below : index < rest.length := by simpa using inside
          rw [shifted, List.getElem_cons_succ, ← ih index below]
          rfl

/-- Compacting a doubled text gives the text, up to the zero that ends it. -/
theorem every_other_doubled (text tail : List UInt8) (nonzero : ∀ c ∈ text, c ≠ 0)
    (ended : tail ≠ []) :
    (everyOther (doubled text ++ tail) text.length).takeWhile (fun byte => byte ≠ 0) = text := by
  have behind : 0 < tail.length := List.length_pos_iff.mpr ended
  have length := passes_length (doubled text ++ tail) text.length
  rw [List.length_append, doubled_length] at length
  have front : (passes (doubled text ++ tail) text.length).take text.length = text := by
    apply List.ext_getElem
    · rw [List.length_take]
      omega
    · intro index taken inside
      have compacted := passes_get (doubled text ++ tail) text.length index (by
        rw [List.length_append, doubled_length]
        omega)
      rw [if_pos (by omega), doubled_get text tail index inside] at compacted
      rw [List.getElem_take, ← compacted, List.getD_eq_getElem _ _ (by omega)]
  have split : everyOther (doubled text ++ tail) text.length =
      text ++ 0 :: (passes (doubled text ++ tail) text.length).drop (text.length + 1) := by
    change (passes (doubled text ++ tail) text.length).set text.length 0 = _
    rw [List.set_eq_take_append_cons_drop, if_pos (by omega), front]
  rw [split, List.takeWhile_append_of_pos (by simpa using nonzero)]
  simp

/-! ### One event -/

/-- The statics after these bytes have been written to the cleared buffer. -/
def holding (written : List UInt8) : Statics where
  barBuf := written ++ List.replicate (100 - written.length) 0
  i := written.length

theorem push_holding (written : List UInt8) (c : UInt8) (room : written.length < 100) :
    push (holding written) c = (holding (written ++ [c]), []) := by
  obtain ⟨left, same⟩ : ∃ left, 100 - written.length = left + 1 := ⟨99 - written.length, by omega⟩
  have less : 100 - (written.length + 1) = left := by omega
  have space : (holding written).i < 100 := room
  rw [push, if_pos space]
  simp only [holding, same, less, List.replicate_succ, List.set_append_right _ _ (Nat.le_refl _),
    Nat.sub_self, List.set_cons_zero, List.append_assoc, List.length_append,
    List.length_singleton]
  rfl

/-- The event is of another type, or of a key in the map that has no character. -/
def isNoise (event : InputEvent) : Bool :=
  event.type ≠ 1 ||
    (event.code ≠ 28 && event.code.toNat < 51 && keyAsciiMap.getD event.code.toNat 0 = 0)

/-- A barcode: the keys before Enter. -/
structure Scan where
  keys : List UInt16
  short : keys.length ≤ 49
  translated : ∀ code ∈ keys, keyAsciiMap.getD code.toNat 0 ≠ 0

def Scan.text (scan : Scan) : List UInt8 :=
  scan.keys.map fun code => keyAsciiMap.getD code.toNat 0

/-- The key codes of the scan: each key is pressed and released, and so is Enter. -/
def Scan.codes (scan : Scan) : List UInt16 :=
  (scan.keys ++ [28]).flatMap fun code => [code, code]

/-- Apart from noise the events are those of the scans, in order. -/
def Carries (events : List InputEvent) (scans : List Scan) : Prop :=
  (events.filter fun event => !isNoise event).map InputEvent.code = scans.flatMap Scan.codes

def onDataCalls (scanner : HandhelScanner) (statics : Statics) :
    List (List InputEvent) → Statics × List Output
  | [] => (statics, [])
  | batch :: rest =>
      let first := handhelOnData scanner statics batch
      let later := onDataCalls scanner first.1 rest
      (later.1, first.2 ++ later.2)

def report : Output → Option (String × List UInt8)
  | .updateInfo dev _ code => some (dev, code)
  | .outside => none

def reports (scanner : HandhelScanner) (scans : List Scan) : List (Option (String × List UInt8)) :=
  if scanner.updater then
    (scans.filter fun scan => scan.keys ≠ []).map fun scan => some (scanner.devName, scan.text)
  else []

theorem translated_inside {code : UInt16} (translated : keyAsciiMap.getD code.toNat 0 ≠ 0) :
    code.toNat < keyAsciiMap.length := by
  by_contra beyond
  exact translated (List.getD_eq_default _ _ (Nat.le_of_not_lt beyond))

theorem translated_not_enter {code : UInt16} (translated : keyAsciiMap.getD code.toNat 0 ≠ 0) :
    code ≠ 28 := by
  intro enter
  subst enter
  exact translated rfl

theorem on_event_noise {event : InputEvent} (noise : isNoise event = true)
    (scanner : HandhelScanner) (statics : Statics) :
    onEvent scanner statics event = (statics, []) := by
  unfold onEvent
  by_cases key : event.type = 1
  · simp only [isNoise, key, ne_eq, not_true_eq_false, decide_false, Bool.false_or,
      Bool.and_eq_true, decide_eq_true_eq] at noise
    obtain ⟨⟨notEnter, inside⟩, zero⟩ := noise
    have bound : event.code.toNat < keyAsciiMap.length := inside
    rw [List.getD_eq_getElem _ _ bound] at zero
    rw [if_pos key, if_neg notEnter, if_neg (by omega), List.getElem?_eq_getElem bound, zero]
    rfl
  · rw [if_neg key]

theorem on_event_key {event : InputEvent} (key : event.type = 1)
    (translated : keyAsciiMap.getD event.code.toNat 0 ≠ 0) (scanner : HandhelScanner)
    (statics : Statics) :
    onEvent scanner statics event = push statics (keyAsciiMap.getD event.code.toNat 0) := by
  have inside := translated_inside translated
  rw [onEvent, if_pos key, if_neg (translated_not_enter translated), if_neg (by omega),
    List.getElem?_eq_getElem inside]
  rw [List.getD_eq_getElem _ _ inside] at translated ⊢
  simp only [if_pos translated]

theorem on_enter_doubled {text : List UInt8} (short : text.length ≤ 49)
    (nonzero : ∀ c ∈ text, c ≠ 0) (scanner : HandhelScanner) (time : Int) :
    onEnter scanner (holding (doubled text)) time =
      (.clear, if scanner.updater ∧ text ≠ [] then
        [.updateInfo scanner.devName time text] else []) := by
  have length := doubled_length text
  have half : (holding (doubled text ++ ['\n'.toUInt8])).i / 2 = text.length := by
    simp only [holding, List.length_append, List.length_singleton, length]
    omega
  have buffer : (holding (doubled text ++ ['\n'.toUInt8])).barBuf =
      doubled text ++ '\n'.toUInt8 :: List.replicate (99 - (doubled text).length) 0 := by
    simp only [holding, List.length_append, List.length_singleton, List.append_assoc]
    rw [show 100 - ((doubled text).length + 1) = 99 - (doubled text).length by omega]
    rfl
  rw [onEnter, push_holding _ _ (by omega)]
  simp only [half, buffer, every_other_doubled text _ nonzero (List.cons_ne_nil _ _)]
  rw [if_pos (by omega)]
  simp only [List.length_pos_iff, ne_eq, List.nil_append]

/-! ### Streams -/

theorem on_data_append (scanner : HandhelScanner) (statics : Statics)
    (first second : List InputEvent) :
    handhelOnData scanner statics (first ++ second) =
      ((handhelOnData scanner (handhelOnData scanner statics first).1 second).1,
        (handhelOnData scanner statics first).2 ++
          (handhelOnData scanner (handhelOnData scanner statics first).1 second).2) := by
  induction first generalizing statics with
  | nil => rfl
  | cons event rest ih =>
      rw [List.cons_append, handhelOnData, ih]
      simp only [handhelOnData, List.append_assoc]

/-- How the events are cut into calls does not matter. -/
theorem on_data_calls_flatten (scanner : HandhelScanner) (statics : Statics)
    (calls : List (List InputEvent)) :
    onDataCalls scanner statics calls = handhelOnData scanner statics calls.flatten := by
  induction calls generalizing statics with
  | nil => rfl
  | cons batch rest ih =>
      rw [List.flatten_cons, on_data_append, onDataCalls, ih]

theorem on_data_without_noise (scanner : HandhelScanner) (statics : Statics)
    (events : List InputEvent) :
    handhelOnData scanner statics events =
      handhelOnData scanner statics (events.filter fun event => !isNoise event) := by
  induction events generalizing statics with
  | nil => rfl
  | cons event rest ih =>
      cases noise : isNoise event with
      | true =>
          rw [List.filter_cons_of_neg (by simp [noise]), ← ih, handhelOnData]
          simp only [on_event_noise noise, List.nil_append]
      | false =>
          rw [List.filter_cons_of_pos (by simp [noise]), handhelOnData, handhelOnData, ih]

theorem on_data_keys (scanner : HandhelScanner) (keys : List UInt16) (before : List UInt8)
    (events : List InputEvent)
    (translated : ∀ code ∈ keys, keyAsciiMap.getD code.toNat 0 ≠ 0)
    (short : before.length + keys.length ≤ 49) (typed : ∀ event ∈ events, event.type = 1)
    (carried : events.map InputEvent.code = keys.flatMap fun code => [code, code]) :
    handhelOnData scanner (holding (doubled before)) events =
      (holding (doubled (before ++ keys.map fun code => keyAsciiMap.getD code.toNat 0)), []) := by
  induction keys generalizing before events with
  | nil =>
      obtain rfl := List.map_eq_nil_iff.mp carried
      simp [handhelOnData]
  | cons code rest ih =>
      obtain ⟨press, others, rfl, pressed, carried⟩ := List.map_eq_cons_iff.mp carried
      obtain ⟨release, others, rfl, released, carried⟩ := List.map_eq_cons_iff.mp carried
      have known := translated code (by simp)
      have length := doubled_length before
      rw [List.length_cons] at short
      have first : onEvent scanner (holding (doubled before)) press =
          (holding (doubled before ++ [keyAsciiMap.getD code.toNat 0]), []) := by
        rw [on_event_key (typed press (by simp)) (pressed ▸ known), pressed,
          push_holding _ _ (by omega)]
      have second : onEvent scanner
          (holding (doubled before ++ [keyAsciiMap.getD code.toNat 0])) release =
          (holding (doubled (before ++ [keyAsciiMap.getD code.toNat 0])), []) := by
        rw [on_event_key (typed release (by simp)) (released ▸ known), released,
          push_holding _ _ (by
            rw [List.length_append, List.length_singleton]
            omega)]
        simp [doubled]
      have later := ih (before ++ [keyAsciiMap.getD code.toNat 0]) others
        (fun code member => translated code (by simp [member]))
        (by
          rw [List.length_append, List.length_singleton]
          omega)
        (fun event member => typed event (by simp [member])) carried
      simp only [handhelOnData, first, second, later, List.append_assoc, List.map_cons,
        List.singleton_append, List.nil_append]

theorem on_data_scan (scanner : HandhelScanner) (scan : Scan) (events : List InputEvent)
    (typed : ∀ event ∈ events, event.type = 1)
    (carried : events.map InputEvent.code = scan.codes) :
    ∃ time, handhelOnData scanner .clear events =
      (.clear, if scanner.updater ∧ scan.keys ≠ [] then
        [.updateInfo scanner.devName time scan.text] else []) := by
  rw [Scan.codes, List.flatMap_append] at carried
  obtain ⟨keys, enters, rfl, keyed, entered⟩ := List.map_eq_append_iff.mp carried
  obtain ⟨press, others, rfl, pressed, entered⟩ := List.map_eq_cons_iff.mp entered
  obtain ⟨release, others, rfl, released, entered⟩ := List.map_eq_cons_iff.mp entered
  obtain rfl := List.map_eq_nil_iff.mp entered
  have collected : handhelOnData scanner .clear keys = (holding (doubled scan.text), []) :=
    on_data_keys scanner scan.keys [] keys scan.translated (by simpa using scan.short)
      (fun event member => typed event (by simp [member])) keyed
  have nonzero : ∀ c ∈ scan.text, c ≠ 0 := by
    intro c member
    obtain ⟨code, key, rfl⟩ := List.mem_map.mp member
    exact scan.translated code key
  have short : scan.text.length ≤ 49 := by
    rw [Scan.text, List.length_map]
    exact scan.short
  have first : onEvent scanner (holding (doubled scan.text)) press =
      onEnter scanner (holding (doubled scan.text)) press.time := by
    rw [onEvent, if_pos (typed press (by simp)), if_pos pressed]
  have second : onEvent scanner .clear release = (.clear, []) := by
    rw [onEvent, if_pos (typed release (by simp)), if_pos released]
    have short : ([] : List UInt8).length ≤ 49 := Nat.zero_le 49
    have empty := on_enter_doubled short (fun c member => by cases member) scanner release.time
    simp only [ne_eq, not_true_eq_false, and_false, if_false] at empty
    exact empty
  have same : scan.text ≠ [] ↔ scan.keys ≠ [] := by simp [Scan.text]
  refine ⟨press.time, ?_⟩
  rw [on_data_append, collected]
  simp only [List.nil_append, handhelOnData, first, on_enter_doubled short nonzero, second,
    List.append_nil, same]

theorem on_data_scans (scanner : HandhelScanner) (scans : List Scan) (events : List InputEvent)
    (typed : ∀ event ∈ events, event.type = 1)
    (carried : events.map InputEvent.code = scans.flatMap Scan.codes) :
    (handhelOnData scanner .clear events).1 = .clear ∧
      (handhelOnData scanner .clear events).2.map report = reports scanner scans := by
  induction scans generalizing events with
  | nil =>
      obtain rfl := List.map_eq_nil_iff.mp carried
      simp [handhelOnData, reports]
  | cons scan rest ih =>
      rw [List.flatMap_cons] at carried
      obtain ⟨own, others, rfl, head, tail⟩ := List.map_eq_append_iff.mp carried
      obtain ⟨time, scanned⟩ := on_data_scan scanner scan own
        (fun event member => typed event (by simp [member])) head
      obtain ⟨cleared, later⟩ := ih others (fun event member => typed event (by simp [member])) tail
      rw [on_data_append, scanned]
      refine ⟨cleared, ?_⟩
      rw [List.map_append, later]
      by_cases updater : scanner.updater = true
      · by_cases empty : scan.keys = []
        · simp [reports, updater, empty]
        · simp [reports, updater, empty, report]
      · simp [reports, updater]

/-- However the events are cut into calls, the scanner reports the text of every scan that
is not empty, once and in order. -/
theorem barcodes_reported (scanner : HandhelScanner) (scans : List Scan)
    (calls : List (List InputEvent)) (carried : Carries calls.flatten scans) :
    (onDataCalls scanner .clear calls).2.map report = reports scanner scans := by
  rw [on_data_calls_flatten, on_data_without_noise]
  apply (on_data_scans scanner scans _ _ carried).2
  intro event member
  obtain ⟨-, kept⟩ := List.mem_filter.mp member
  by_contra other
  simp [isNoise, other] at kept

/-- The keys 1, 2, 3 and 1. -/
def firstScan : Scan where
  keys := [2, 3, 4, 2]
  short := by decide
  translated := by
    intro code member
    simp only [List.mem_cons, List.not_mem_nil, or_false] at member
    rcases member with rfl | rfl | rfl | rfl
    all_goals decide

/-- The keys 9 and Q. -/
def secondScan : Scan where
  keys := [10, 16]
  short := by decide
  translated := by
    intro code member
    simp only [List.mem_cons, List.not_mem_nil, or_false] at member
    rcases member with rfl | rfl
    all_goals decide

def counterScanner : HandhelScanner where
  updater := true
  devName := "/dev/input/event3"

def keyEvent (code : UInt16) (time : Int) : InputEvent where
  type := 1
  code := code
  time := time

/-- Two scans with synchronisation events between them, cut inside of the keys. -/
theorem two_scans_reported :
    (onDataCalls counterScanner .clear
        [[keyEvent 2 7, { type := 0, code := 0, time := 7 }],
          [keyEvent 2 8, keyEvent 3 8, keyEvent 3 9, keyEvent 4 9, keyEvent 4 10, keyEvent 2 10],
          [keyEvent 2 11, keyEvent 28 11, keyEvent 28 12, keyEvent 10 20],
          [{ type := 0, code := 0, time := 20 }, keyEvent 10 21, keyEvent 16 21, keyEvent 16 22,
            keyEvent 28 22, keyEvent 28 23]]).2.map report =
      reports counterScanner [firstScan, secondScan] :=
  barcodes_reported counterScanner [firstScan, secondScan] _ (show _ = _ by decide)

end DevHub.Barcode
