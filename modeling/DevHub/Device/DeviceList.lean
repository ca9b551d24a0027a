import DevHub.Library.TextStream
import Mathlib.Data.List.AList

/-!
The list of input devices: `Device::read` and `Device::to_string`, and the loop of
`get_devices`, whose condition is that the stream has not reached its end. A `std::string` is
a list of characters. The entries of an `unordered_map` stand in the order of its iteration.
-/

namespace DevHub.DeviceList

open TextStream

set_option autoImplicit false

abbrev Text := List Char

structure IData where
  bus : Text
  vendor : Text
  product : Text
  version : Text
  deriving DecidableEq

structure Device where
  i : IData
  n : Text
  p : Text
  s : Text
  u : Text
  h : List Text
  b : AList fun _ : Text => Text

def Device.new : Device where
  i := { bus := [], vendor := [], product := [], version := [] }
  n := []
  p := []
  s := []
  u := []
  h := []
  b := ∅

/-- `line.substr(line.find_first_of(c) + 1)`; the whole line where there is no `c`. -/
def afterFirst (c : Char) (line : Text) : Text :=
  if c ∈ line then (line.dropWhile fun other => other ≠ c).tail else line

/-- `line.substr(0, line.find_first_of(c))`. -/
def untilFirst (c : Char) (line : Text) : Text := line.takeWhile fun other => other ≠ c

def readHandlers (ss : TextStream Char) : List Text :=
  match _taken : getline ' ' ss with
  | (some h, after) => h :: readHandlers after
  | (none, _) => []
termination_by ss.size
decreasing_by exact getline_size (by assumption)

def readI (line : Text) : IData :=
  let bus := afterFirst '=' line
  let vendor := afterFirst '=' bus
  let product := afterFirst '=' vendor
  let version := afterFirst '=' product
  { bus := untilFirst ' ' bus
    vendor := untilFirst ' ' vendor
    product := untilFirst ' ' product
    version := untilFirst ' ' version }

def readB (b : AList fun _ : Text => Text) (line : Text) : AList fun _ : Text => Text :=
  let entry := afterFirst ' ' line
  b.insert (untilFirst '=' entry) (afterFirst '=' entry)

def readLine (dev : Device) (line : Text) : Option Device :=
  match line.head? with
  | some 'I' => some { dev with i := readI line }
  | some 'N' => some { dev with n := afterFirst '=' line }
  | some 'P' => some { dev with p := afterFirst '=' line }
  | some 'S' => some { dev with s := afterFirst '=' line }
  | some 'U' => some { dev with u := afterFirst '=' line }
  | some 'H' => some { dev with h := dev.h ++ readHandlers (holding (afterFirst '=' line)) }
  | some 'B' => some { dev with b := readB dev.b line }
  | _ => none

def readLoop (dev : Device) (f : TextStream Char) : Device × TextStream Char :=
  match _taken : getline '\n' f with
  | (some line, after) =>
      match readLine dev line with
      | some next => readLoop next after
      | none => (dev, after)
  | (none, after) => (dev, after)
termination_by f.size
decreasing_by exact getline_size (by assumption)

/-- `Device::read`; true if there is more to read. -/
def read (dev : Device) (f : TextStream Char) : Bool × Device × TextStream Char :=
  let (dev, f) := readLoop dev f
  (!f.eofbit, dev, f)

def labelled (label : String) (value : Text) : Text := label.toList ++ value ++ ['\n']

def Device.toString (dev : Device) : Text :=
  "I: Bus=".toList ++ dev.i.bus ++ " Vendor=".toList ++ dev.i.vendor ++ " Product=".toList ++
    dev.i.product ++ " Version=".toList ++ dev.i.version ++ ['\n'] ++
  labelled "N: Name=" dev.n ++
  labelled "P: Phys=" dev.p ++
  labelled "S: Sysfs=" dev.s ++
  labelled "U: Uniq=" dev.u ++
  labelled "H: Handlers=" (dev.h.flatMap fun h => h ++ [' ']) ++
  (dev.b.entries.flatMap fun entry => "B: ".toList ++ entry.1 ++ ['='] ++ entry.2 ++ ['\n']) ++
  ['\n']

/-- The file that `get_devices` opens; `readError` says that its contents end in an error. -/
structure InputFile where
  opens : Bool
  contents : Text
  readError : Bool

def openFile (file : InputFile) : TextStream Char where
  rest := if file.opens then file.contents else []
  readError := file.opens && file.readError
  eofbit := false
  failbit := !file.opens
  badbit := false

/-- The loop of `get_devices`; `none` when more passes than `fuel` are made. -/
def devicesLoop : Nat → Device → TextStream Char → Option (List Device)
  | 0, _, _ => none
  | fuel + 1, dev, f =>
      match read dev f with
      | (true, dev, f) => (devicesLoop fuel { dev with b := ∅, h := [] } f).map fun res => dev :: res
      | (false, _, _) => some []

def getDevices (fuel : Nat) (file : InputFile) : Option (List Device) :=
  devicesLoop fuel { Device.new with b := ∅, h := [] } (openFile file)

def Ends (file : InputFile) : Prop := ∃ fuel, (getDevices fuel file).isSome = true

def Returns (file : InputFile) (res : List Device) : Prop :=
  ∃ enough, ∀ fuel, enough ≤ fuel → getDevices fuel file = some res

theorem read_eq (dev : Device) (f : TextStream Char) :
    read dev f = (!(readLoop dev f).2.eofbit, (readLoop dev f).1, (readLoop dev f).2) := rfl

/-! ### One line -/

section Lines

variable {dev next : Device} {f after : TextStream Char} {line : Text}

theorem read_loop_line (taken : getline '\n' f = (some line, after))
    (read_ : readLine dev line = some next) : readLoop dev f = readLoop next after := by
  rw [readLoop]
  split
  · rename_i other later same
    obtain ⟨rfl, rfl⟩ := Prod.mk.inj (taken.symm.trans same) |>.imp_left Option.some.inj
    rw [read_]
  · rename_i later same
    cases taken.symm.trans same

theorem read_loop_break (taken : getline '\n' f = (some line, after))
    (stop : readLine dev line = none) : readLoop dev f = (dev, after) := by
  rw [readLoop]
  split
  · rename_i other later same
    obtain ⟨rfl, rfl⟩ := Prod.mk.inj (taken.symm.trans same) |>.imp_left Option.some.inj
    rw [stop]
  · rename_i later same
    cases taken.symm.trans same

theorem read_loop_end (taken : getline '\n' f = (none, after)) :
    readLoop dev f = (dev, after) := by
  rw [readLoop]
  split
  · rename_i other later same
    cases taken.symm.trans same
  · rename_i later same
    rw [(Prod.mk.inj (taken.symm.trans same)).2]

end Lines

/-! ### Ending -/

theorem read_loop_endless (dev : Device) (f : TextStream Char) (endless : Endless f) :
    Endless (readLoop dev f).2 := by
  have later : Endless (getline '\n' f).2 := getline_endless endless
  fun_induction readLoop dev f with
  | case1 dev f line after taken next read_ ih =>
      rw [taken] at later
      exact ih later (getline_endless later)
  | case2 dev f line after taken stop =>
      rw [taken] at later
      exact later
  | case3 dev f after taken =>
      rw [taken] at later
      exact later

/-- A stream without an end is never found to be at its end. -/
theorem devices_loop_endless (fuel : Nat) (dev : Device) (f : TextStream Char)
    (endless : Endless f) : devicesLoop fuel dev f = none := by
  induction fuel generalizing dev f with
  | zero => rfl
  | succ fuel ih =>
      have later := read_loop_endless dev f endless
      have more : read dev f = (true, (readLoop dev f).1, (readLoop dev f).2) := by
        rw [read_eq, later.1]
        rfl
      rw [devicesLoop, more]
      simp only [ih _ _ later, Option.map_none]

theorem holding_rest {f : TextStream Char} (good : f.good = true) (ends : f.readError = false) :
    f = holding f.rest := by
  obtain ⟨rest, readError, eofbit, failbit, badbit⟩ := f
  simp only [TextStream.good, Bool.and_eq_true, Bool.not_eq_true'] at good
  obtain ⟨⟨rfl, rfl⟩, rfl⟩ := good
  cases ends
  rfl

theorem read_loop_at_end (dev : Device) {f : TextStream Char} (ended : f.eofbit = true) :
    (readLoop dev f).2.eofbit = true := by
  have bad : f.good = false := by simp [TextStream.good, ended]
  have taken : getline '\n' f = (none, { f with failbit := true }) := by
    rw [getline, if_neg (by simp [bad])]
  rw [read_loop_end taken]
  exact ended

theorem read_loop_shorter (dev : Device) (f : TextStream Char) (good : f.good = true)
    (ends : f.readError = false) :
    (readLoop dev f).2.eofbit = true ∨
      ∃ rest, (readLoop dev f).2 = holding rest ∧ rest.length < f.rest.length := by
  have reads := getline_reads '\n' f
  fun_induction readLoop dev f with
  | case1 dev f line after taken next read_ ih =>
      rw [taken] at reads
      cases reads with
      | line _ more good text =>
          rw [text, List.length_append, List.length_cons]
          rcases ih good ends (getline_reads '\n' _) with ended | ⟨rest, left, shorter⟩
          · exact Or.inl ended
          · refine Or.inr ⟨rest, left, ?_⟩
            have below : rest.length < more.length := shorter
            omega
      | last good ends some_ => exact Or.inl (read_loop_at_end next rfl)
  | case2 dev f line after taken stop =>
      rw [taken] at reads
      cases reads with
      | line _ more good text =>
          refine Or.inr ⟨more, holding_rest good ends, ?_⟩
          rw [text, List.length_append, List.length_cons]
          omega
      | last good ends some_ => exact Or.inl rfl
  | case3 dev f after taken =>
      rw [taken] at reads
      cases reads with
      | atEnd good ends => exact Or.inl rfl
      | error good breaks =>
          rw [ends] at breaks
          cases breaks
      | failed bad =>
          rw [good] at bad
          cases bad

theorem devices_loop_ends (fuel : Nat) (dev : Device) (text : Text) (enough : text.length < fuel) :
    (devicesLoop fuel dev (holding text)).isSome = true := by
  induction fuel generalizing dev text with
  | zero => cases enough
  | succ fuel ih =>
      rcases read_loop_shorter dev (holding text) rfl rfl with ended | ⟨rest, left, shorter⟩
      · have stop : read dev (holding text) =
            (false, (readLoop dev (holding text)).1, (readLoop dev (holding text)).2) := by
          rw [read_eq, ended]
          rfl
        rw [devicesLoop, stop]
        rfl
      · have more : read dev (holding text) = (true, (readLoop dev (holding text)).1, holding rest) := by
          rw [read_eq, left]
          rfl
        have below : rest.length < text.length := shorter
        rw [devicesLoop, more]
        simp only [Option.isSome_map]
        exact ih _ _ (by omega)

/-- The loop ends exactly for the files that can be opened and whose contents end. -/
theorem ends_iff (file : InputFile) : Ends file ↔ file.opens = true ∧ file.readError = false := by
  cases opens : file.opens with
  | false =>
      have endless : Endless (openFile file) := ⟨rfl, Or.inr (Or.inl (by simp [openFile, opens]))⟩
      simp [Ends, getDevices, devices_loop_endless _ _ _ endless]
  | true =>
      cases breaks : file.readError with
      | true =>
          have endless : Endless (openFile file) := ⟨rfl, Or.inl (by simp [openFile, opens, breaks])⟩
          simp [Ends, getDevices, devices_loop_endless _ _ _ endless]
      | false =>
          have text : openFile file = holding file.contents := by
            simp [openFile, holding, opens, breaks]
          have ends := devices_loop_ends (file.contents.length + 1)
            { Device.new with b := ∅, h := [] } file.contents (Nat.lt_succ_self _)
          rw [← text] at ends
          exact ⟨fun _ => ⟨rfl, rfl⟩, fun _ => ⟨_, ends⟩⟩

def unopened : InputFile where
  opens := false
  contents := []
  readError := false

/-- A file that cannot be opened is read forever. -/
theorem unopened_endless : ¬ Ends unopened := by
  rintro ⟨fuel, ended⟩
  have endless : Endless (openFile unopened) := ⟨rfl, Or.inr (Or.inl rfl)⟩
  rw [getDevices, devices_loop_endless _ _ _ endless] at ended
  cases ended

end DevHub.DeviceList
