import DevHub.Library.Run
import DevHub.Equipment.Scanner

/-!
Several handheld scanners of one process. Each has its own device and its own reports, but
the characters of a barcode that is not complete yet stand in the one static buffer. As long
as a scanner only finds its own characters there, it reports what it would report alone.
-/

namespace DevHub.SharedScan

open Transition Scanners

set_option autoImplicit false

/-- `toucher` is the scanner that used the statics last. -/
structure Process (ι : Type) where
  statics : Statics
  toucher : Option ι
  log : List (ι × Output)

def Process.start {ι : Type} : Process ι where
  statics := .clear
  toucher := none
  log := []

/-- The events of one `OnData` call, and the scanner that they come from. -/
structure Batch (ι : Type) where
  scanner : ι
  events : List InputEvent

def Batch.hasKeys {ι : Type} (batch : Batch ι) : Bool := batch.events.any InputEvent.isKey

variable {ι : Type}

def step (scanners : ι → HandhelScanner) : Step (Process ι) (Batch ι) := fun process batch =>
  let result := handhelOnData (scanners batch.scanner) process.statics batch.events
  some {
    statics := result.1
    toucher := if batch.hasKeys then some batch.scanner else process.toucher
    log := process.log ++ result.2.map fun output => (batch.scanner, output) }

/-- Keys of a scanner find no characters of another one in the buffer. -/
def Unshared (process : Process ι) (batch : Batch ι) : Prop :=
  batch.hasKeys = true → process.statics.i = 0 ∨ process.toucher = some batch.scanner

/-! ### The buffer between two barcodes -/

def Clean (statics : Statics) : Prop := statics.i = 0 → statics = .clear

theorem on_event_clean {statics : Statics} (scanner : HandhelScanner) (event : InputEvent)
    (clean : Clean statics) : Clean (onEvent scanner statics event).1 := by
  unfold onEvent
  split
  · split
    · exact fun _ => rfl
    · split
      · exact clean
      · split
        · exact clean
        · split
          · intro empty
            cases empty
          · exact clean
  · exact clean

theorem on_data_clean {statics : Statics} (scanner : HandhelScanner) (events : List InputEvent)
    (clean : Clean statics) : Clean (handhelOnData scanner statics events).1 := by
  induction events generalizing statics with
  | nil => exact clean
  | cons event rest ih => exact ih (on_event_clean scanner event clean)

variable [DecidableEq ι]

def outputsOf (scanner : ι) (process : Process ι) : List Output :=
  process.log.filterMap fun entry => if entry.1 = scanner then some entry.2 else none

theorem step_outputs {scanners : ι → HandhelScanner} {process next : Process ι} {batch : Batch ι}
    (taken : step scanners process batch = some next) (scanner : ι) :
    outputsOf scanner next = outputsOf scanner process ++
      if batch.scanner = scanner then
        (handhelOnData (scanners batch.scanner) process.statics batch.events).2
      else [] := by
  obtain rfl := Option.some.inj taken
  rw [outputsOf, List.filterMap_append, List.filterMap_map, outputsOf]
  by_cases own : batch.scanner = scanner
  · simp [own, Function.comp_def]
  · simp [own]

/-- `alone` is the process in which the scanner got its own batches only: its statics are
those of the process while its own characters stand in them, and clear otherwise. -/
structure Own (scanner : ι) (process alone : Process ι) : Prop where
  outputs : outputsOf scanner process = outputsOf scanner alone
  clean : Clean process.statics
  statics : alone.statics = if process.toucher = some scanner then process.statics else .clear

theorem own_statics {scanner : ι} {process alone : Process ι} (own : Own scanner process alone)
    (free : process.statics.i = 0 ∨ process.toucher = some scanner) :
    alone.statics = process.statics := by
  rw [own.statics]
  by_cases toucher : process.toucher = some scanner
  · rw [if_pos toucher]
  · rw [if_neg toucher]
    rcases free with empty | same
    · exact (own.clean empty).symm
    · exact absurd same toucher

theorem own_batch {scanners : ι → HandhelScanner} {scanner : ι} {process next alone : Process ι}
    {batch : Batch ι} (own : Own scanner process alone) (free : Unshared process batch)
    (taken : step scanners process batch = some next) (mine : batch.scanner = scanner) :
    ∃ after, step scanners alone batch = some after ∧ Own scanner next after := by
  have clean := on_data_clean (scanners batch.scanner) batch.events own.clean
  refine ⟨_, rfl, ?_, ?_, ?_⟩
  · rw [step_outputs taken, step_outputs rfl, if_pos mine, if_pos mine, own.outputs]
    cases keys : batch.hasKeys with
    | true => rw [own_statics own (mine ▸ free keys)]
    | false => rw [(on_data_other keys _ alone.statics).2 process.statics]
  · obtain rfl := Option.some.inj taken
    exact clean
  · obtain rfl := Option.some.inj taken
    cases keys : batch.hasKeys with
    | true => simp only [if_true, mine, own_statics own (mine ▸ free keys)]
    | false =>
        simp only [Bool.false_eq_true, if_false, (on_data_other keys _ _).1]
        exact own.statics

theorem own_other {scanners : ι → HandhelScanner} {scanner : ι} {process next alone : Process ι}
    {batch : Batch ι} (own : Own scanner process alone) (free : Unshared process batch)
    (taken : step scanners process batch = some next) (others : batch.scanner ≠ scanner) :
    Own scanner next alone := by
  have clean := on_data_clean (scanners batch.scanner) batch.events own.clean
  have outputs : outputsOf scanner next = outputsOf scanner alone := by
    rw [step_outputs taken, if_neg others, List.append_nil, own.outputs]
  obtain rfl := Option.some.inj taken
  refine ⟨outputs, clean, ?_⟩
  cases keys : batch.hasKeys with
  | true =>
      have different : some batch.scanner ≠ some scanner :=
        fun same => others (Option.some.inj same)
      simp only [if_true, if_neg different]
      rw [own.statics]
      by_cases toucher : process.toucher = some scanner
      · rw [if_pos toucher]
        rcases free keys with empty | same
        · exact own.clean empty
        · exact absurd (same.symm.trans toucher) different
      · rw [if_neg toucher]
  | false =>
      have idle := on_data_other keys (scanners batch.scanner) process.statics
      simp only [Bool.false_eq_true, if_false, idle.1]
      exact own.statics

/-- In every run in which no scanner finds characters of another one, each scanner reports
what it reports when it gets its own batches alone. -/
theorem alone_of_unshared (scanners : ι → HandhelScanner) (batches : List (Batch ι))
    (unshared : Guarded (step scanners) Unshared Process.start batches) (scanner : ι) :
    (run (step scanners) Process.start batches).map (outputsOf scanner) =
      (run (step scanners) Process.start
        (batches.filter fun batch => batch.scanner = scanner)).map (outputsOf scanner) := by
  have total (batches : List (Batch ι)) (process : Process ι) :
      ∃ finish, run (step scanners) process batches = some finish := by
    induction batches generalizing process with
    | nil => exact ⟨process, rfl⟩
    | cons batch rest ih => exact ih _
  obtain ⟨finish, reached⟩ := total batches Process.start
  have initial : Own scanner (Process.start : Process ι) Process.start :=
    ⟨rfl, fun _ => rfl, rfl⟩
  have matched (process : Process ι) (batch : Batch ι) (next view : Process ι)
      (own : Own scanner process view) (free : Unshared process batch)
      (taken : step scanners process batch = some next)
      (mine : decide (batch.scanner = scanner) = true) :
      ∃ after, step scanners view batch = some after ∧ Own scanner next after :=
    own_batch own free taken (of_decide_eq_true mine)
  have dropped (process : Process ι) (batch : Batch ι) (next view : Process ι)
      (own : Own scanner process view) (free : Unshared process batch)
      (taken : step scanners process batch = some next)
      (others : decide (batch.scanner = scanner) = false) : Own scanner next view :=
    own_other own free taken (of_decide_eq_false others)
  obtain ⟨alone, ran, own⟩ :=
    run_filter_simulates (Own scanner) _ matched dropped initial unshared reached
  rw [reached, ran, Option.map_some, Option.map_some, own.outputs]

def keys (codes : List UInt16) : List InputEvent :=
  codes.flatMap fun code =>
    [{ type := 1, code := code, time := 0 }, { type := 1, code := code, time := 0 }]

def twoScanners (scanner : Nat) : HandhelScanner where
  updater := true
  devName := "/dev/input/event" ++ toString scanner

/-- Two barcodes, one after the other. -/
theorem whole_scans_alone :
    (run (step twoScanners) Process.start [⟨0, keys [2, 28]⟩, ⟨1, keys [3, 28]⟩]).map
        (outputsOf 0) =
      (run (step twoScanners) Process.start
        ([⟨0, keys [2, 28]⟩, ⟨1, keys [3, 28]⟩].filter fun batch => batch.scanner = 0)).map
          (outputsOf 0) :=
  alone_of_unshared twoScanners [⟨0, keys [2, 28]⟩, ⟨1, keys [3, 28]⟩]
    (fun _ first => ⟨fun _ => Or.inl rfl, by
      cases first
      exact fun _ second => ⟨fun _ => Or.inl rfl, trivial⟩⟩) 0

/-- A scan that is cut by another device: its key is in the other barcode. -/
theorem cut_scan_mixes :
    ¬ ∀ scanner : Nat,
      (run (step twoScanners) Process.start [⟨0, keys [2]⟩, ⟨1, keys [3, 28]⟩]).map
          (outputsOf scanner) =
        (run (step twoScanners) Process.start
          ([⟨0, keys [2]⟩, ⟨1, keys [3, 28]⟩].filter fun batch => batch.scanner = scanner)).map
            (outputsOf scanner) := by
  intro alone
  exact absurd (alone 1) (by decide)

end DevHub.SharedScan
