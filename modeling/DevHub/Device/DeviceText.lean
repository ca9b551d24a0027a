import DevHub.Device.DeviceList
import Mathlib.Data.List.TakeWhile

/-!
A file of device texts is read back as the devices. The labels put the first `=` of a line
in front of its value, the fields of the first line are free of what cuts them, and every
device is ended by a blank line.
-/

namespace DevHub.DeviceText

open TextStream DeviceList

set_option autoImplicit false

structure WellFormed (dev : Device) : Prop where
  bus : ' ' ∉ dev.i.bus ∧ '=' ∉ dev.i.bus ∧ '\n' ∉ dev.i.bus
  vendor : ' ' ∉ dev.i.vendor ∧ '=' ∉ dev.i.vendor ∧ '\n' ∉ dev.i.vendor
  product : ' ' ∉ dev.i.product ∧ '=' ∉ dev.i.product ∧ '\n' ∉ dev.i.product
  version : ' ' ∉ dev.i.version ∧ '\n' ∉ dev.i.version
  n : '\n' ∉ dev.n
  p : '\n' ∉ dev.p
  s : '\n' ∉ dev.s
  u : '\n' ∉ dev.u
  handlers : ∀ h ∈ dev.h, ' ' ∉ h ∧ '\n' ∉ h
  keys : ∀ entry ∈ dev.b.entries, '=' ∉ entry.1 ∧ '\n' ∉ entry.1
  values : ∀ entry ∈ dev.b.entries, '\n' ∉ entry.2

/-- The same device, with `B` compared as a map. -/
structure SameDevice (dev other : Device) : Prop where
  i : dev.i = other.i
  n : dev.n = other.n
  p : dev.p = other.p
  s : dev.s = other.s
  u : dev.u = other.u
  h : dev.h = other.h
  b : ∀ key, dev.b.lookup key = other.b.lookup key

/-! ### Cutting a line -/

theorem after_first_cut {c : Char} {before : Text} (free : c ∉ before) (behind : Text) :
    afterFirst c (before ++ c :: behind) = behind := by
  rw [afterFirst, if_pos (List.mem_append_right before List.mem_cons_self),
    (cut_line free behind).2, List.tail_cons]

theorem until_first_cut {c : Char} {before : Text} (free : c ∉ before) (behind : Text) :
    untilFirst c (before ++ c :: behind) = before :=
  (cut_line free behind).1

theorem until_first_whole {c : Char} {line : Text} (free : c ∉ line) : untilFirst c line = line := by
  apply List.takeWhile_eq_self_iff.mpr
  intro other member
  exact decide_eq_true fun same => free (same ▸ member)

theorem labelled_cut {label : Text} (free : '=' ∉ label) (value : Text) :
    afterFirst '=' (label ++ '=' :: value) = value := after_first_cut free value

/-- The next label stands behind a value without `=`. -/
theorem next_label {value label : Text} (free : '=' ∉ value) (unlabelled : '=' ∉ label)
    (behind : Text) : afterFirst '=' (value ++ ' ' :: (label ++ '=' :: behind)) = behind := by
  have before : '=' ∉ value ++ ' ' :: label := by
    simp [free, unlabelled]
  have cut := after_first_cut before behind
  simpa only [List.append_assoc, List.cons_append] using cut

def iLine (i : IData) : Text :=
  "I: Bus".toList ++ '=' :: (i.bus ++ ' ' :: ("Vendor".toList ++ '=' :: (i.vendor ++ ' ' ::
    ("Product".toList ++ '=' :: (i.product ++ ' ' :: ("Version".toList ++ '=' :: i.version))))))

theorem read_i_line (i : IData) (bus : ' ' ∉ i.bus ∧ '=' ∉ i.bus)
    (vendor : ' ' ∉ i.vendor ∧ '=' ∉ i.vendor) (product : ' ' ∉ i.product ∧ '=' ∉ i.product)
    (version : ' ' ∉ i.version) : readI (iLine i) = i := by
  have busLabel : '=' ∉ "I: Bus".toList := by decide
  have vendorLabel : '=' ∉ "Vendor".toList := by decide
  have productLabel : '=' ∉ "Product".toList := by decide
  have versionLabel : '=' ∉ "Version".toList := by decide
  unfold iLine
  simp only [readI, labelled_cut busLabel, next_label bus.2 vendorLabel,
    next_label vendor.2 productLabel, next_label product.2 versionLabel,
    until_first_cut bus.1, until_first_cut vendor.1, until_first_cut product.1,
    until_first_whole version]

/-! ### The lines of a device -/

theorem read_labelled {dev next : Device} {line : Text} (free : '\n' ∉ line)
    (read_ : readLine dev line = some next) (more : Text) :
    readLoop dev (holding (line ++ '\n' :: more)) = readLoop next (holding more) :=
  read_loop_line (getline_line free more) read_

theorem read_handlers (handlers : List Text) (free : ∀ h ∈ handlers, ' ' ∉ h) :
    readHandlers (holding (handlers.flatMap fun h => h ++ [' '])) = handlers := by
  induction handlers with
  | nil =>
      rw [readHandlers]
      split
      · rename_i h after taken
        cases taken
      · rfl
  | cons first rest ih =>
      have line : (first :: rest).flatMap (fun h => h ++ [' ']) =
          first ++ ' ' :: rest.flatMap fun h => h ++ [' '] := by simp
      have taken := getline_line (free first List.mem_cons_self)
        (rest.flatMap fun h => h ++ [' '])
      rw [line, readHandlers]
      split
      · rename_i h after read_
        rw [taken] at read_
        obtain ⟨rfl, rfl⟩ := Prod.mk.inj read_ |>.imp_left Option.some.inj
        rw [ih fun h member => free h (List.mem_cons_of_mem _ member)]
      · rename_i after read_
        rw [taken] at read_
        cases read_

def insertAll (b : AList fun _ : Text => Text) (entries : List (Sigma fun _ : Text => Text)) :
    AList fun _ : Text => Text :=
  entries.foldl (fun b entry => b.insert entry.1 entry.2) b

theorem insert_all_lookup (entries : List (Sigma fun _ : Text => Text))
    (distinct : entries.NodupKeys) (b : AList fun _ : Text => Text) (key : Text) :
    (insertAll b entries).lookup key = (entries.dlookup key).or (b.lookup key) := by
  induction entries generalizing b with
  | nil => rfl
  | cons entry rest ih =>
      have inserted := ih distinct.tail (b.insert entry.1 entry.2)
      have absent := List.notMem_keys_of_nodupKeys_cons distinct
      change (insertAll (b.insert entry.1 entry.2) rest).lookup key = _
      rw [inserted]
      by_cases same : key = entry.1
      · subst same
        rw [List.dlookup_eq_none.mpr absent, AList.lookup_insert, List.dlookup_cons_eq]
        rfl
      · rw [AList.lookup_insert_ne same, List.dlookup_cons_ne _ _ same]

def bLine (entry : Sigma fun _ : Text => Text) : Text :=
  "B:".toList ++ ' ' :: (entry.1 ++ '=' :: entry.2)

theorem read_b_line (b : AList fun _ : Text => Text) (entry : Sigma fun _ : Text => Text)
    (free : '=' ∉ entry.1) : readB b (bLine entry) = b.insert entry.1 entry.2 := by
  have label : ' ' ∉ "B:".toList := by decide
  rw [readB, bLine, after_first_cut label]
  simp only [until_first_cut free, after_first_cut free]

theorem read_b_lines (entries : List (Sigma fun _ : Text => Text))
    (free : ∀ entry ∈ entries, ('=' ∉ entry.1 ∧ '\n' ∉ entry.1) ∧ '\n' ∉ entry.2)
    (dev : Device) (more : Text) :
    readLoop dev (holding ((entries.flatMap fun entry => bLine entry ++ ['\n']) ++ '\n' :: more)) =
      ({ dev with b := insertAll dev.b entries }, holding more) := by
  induction entries generalizing dev with
  | nil =>
      have blank : '\n' ∉ ([] : Text) := List.not_mem_nil
      exact read_loop_break (getline_line blank more) rfl
  | cons entry rest ih =>
      obtain ⟨⟨equal, key⟩, value⟩ := free entry List.mem_cons_self
      have line : '\n' ∉ bLine entry := by
        unfold bLine
        simp [key, value]
      have read_ : readLine dev (bLine entry) =
          some { dev with b := dev.b.insert entry.1 entry.2 } := by
        rw [← read_b_line dev.b entry equal]
        rfl
      rw [List.flatMap_cons, List.append_assoc, List.append_assoc, List.singleton_append,
        read_labelled line read_, ih fun other member => free other (List.mem_cons_of_mem _ member)]
      rfl

def valueLine (label : String) (value : Text) : Text := label.toList ++ '=' :: value

theorem value_line_free {label : String} {value : Text} (unbroken : '\n' ∉ label.toList)
    (free : '\n' ∉ value) : '\n' ∉ valueLine label value := by
  simp [valueLine, unbroken, free]

def handlersText (h : List Text) : Text := h.flatMap fun h => h ++ [' ']

theorem to_string_lines (dev : Device) (more : Text) :
    dev.toString ++ more =
      iLine dev.i ++ '\n' :: (valueLine "N: Name" dev.n ++ '\n' ::
        (valueLine "P: Phys" dev.p ++ '\n' :: (valueLine "S: Sysfs" dev.s ++ '\n' ::
          (valueLine "U: Uniq" dev.u ++ '\n' ::
            (valueLine "H: Handlers" (handlersText dev.h) ++ '\n' ::
              ((dev.b.entries.flatMap fun entry => bLine entry ++ ['\n']) ++ '\n' :: more)))))) := by
  unfold Device.toString iLine bLine
  simp [labelled, valueLine, handlersText]

theorem value_cut {label : String} (free : '=' ∉ label.toList) (value : Text) :
    afterFirst '=' (valueLine label value) = value := after_first_cut free value

section Lines

variable (dev : Device) (value : Text)

theorem read_line_i (i : IData) :
    readLine dev (iLine i) = some { dev with i := readI (iLine i) } := rfl

theorem read_line_n : readLine dev (valueLine "N: Name" value) = some { dev with n := value } := by
  have read_ : readLine dev (valueLine "N: Name" value) =
      some { dev with n := afterFirst '=' (valueLine "N: Name" value) } := rfl
  rw [read_, value_cut (by decide)]

theorem read_line_p : readLine dev (valueLine "P: Phys" value) = some { dev with p := value } := by
  have read_ : readLine dev (valueLine "P: Phys" value) =
      some { dev with p := afterFirst '=' (valueLine "P: Phys" value) } := rfl
  rw [read_, value_cut (by decide)]

theorem read_line_s : readLine dev (valueLine "S: Sysfs" value) = some { dev with s := value } := by
  have read_ : readLine dev (valueLine "S: Sysfs" value) =
      some { dev with s := afterFirst '=' (valueLine "S: Sysfs" value) } := rfl
  rw [read_, value_cut (by decide)]

theorem read_line_u : readLine dev (valueLine "U: Uniq" value) = some { dev with u := value } := by
  have read_ : readLine dev (valueLine "U: Uniq" value) =
      some { dev with u := afterFirst '=' (valueLine "U: Uniq" value) } := rfl
  rw [read_, value_cut (by decide)]

theorem read_line_h (handlers : List Text) (free : ∀ h ∈ handlers, ' ' ∉ h) :
    readLine dev (valueLine "H: Handlers" (handlersText handlers)) =
      some { dev with h := dev.h ++ handlers } := by
  have read_ : readLine dev (valueLine "H: Handlers" (handlersText handlers)) =
      some { dev with h := dev.h ++ readHandlers (holding (afterFirst '='
        (valueLine "H: Handlers" (handlersText handlers)))) } := rfl
  rw [read_, value_cut (by decide), handlersText, read_handlers handlers free]

end Lines

/-- What is read of the text of a device: the device, its entries inserted one by one. -/
theorem read_device (start dev : Device) (wellFormed : WellFormed dev) (handlers : start.h = [])
    (more : Text) :
    readLoop start (holding (dev.toString ++ more)) =
      ({ dev with b := insertAll start.b dev.b.entries }, holding more) := by
  have unbroken : '\n' ∉ iLine dev.i := by
    unfold iLine
    simp [wellFormed.bus, wellFormed.vendor, wellFormed.product, wellFormed.version]
  have joined : '\n' ∉ handlersText dev.h := by
    intro member
    obtain ⟨h, listed, inside⟩ := List.mem_flatMap.mp member
    simp [wellFormed.handlers h listed] at inside
  have i := read_i_line dev.i ⟨wellFormed.bus.1, wellFormed.bus.2.1⟩
    ⟨wellFormed.vendor.1, wellFormed.vendor.2.1⟩ ⟨wellFormed.product.1, wellFormed.product.2.1⟩
    wellFormed.version.1
  have blankless : ∀ h ∈ dev.h, ' ' ∉ h := fun h member => (wellFormed.handlers h member).1
  rw [to_string_lines, read_labelled unbroken (read_line_i start dev.i), i,
    read_labelled (value_line_free (by decide) wellFormed.n) (read_line_n _ dev.n),
    read_labelled (value_line_free (by decide) wellFormed.p) (read_line_p _ dev.p),
    read_labelled (value_line_free (by decide) wellFormed.s) (read_line_s _ dev.s),
    read_labelled (value_line_free (by decide) wellFormed.u) (read_line_u _ dev.u),
    read_labelled (value_line_free (by decide) joined) (read_line_h _ dev.h blankless),
    read_b_lines dev.b.entries fun entry member =>
      ⟨wellFormed.keys entry member, wellFormed.values entry member⟩]
  simp only [handlers, List.nil_append]

/-! ### The file -/

def reread (dev : Device) : Device := { dev with b := insertAll ∅ dev.b.entries }

theorem reread_same (dev : Device) : SameDevice dev (reread dev) := by
  constructor
  all_goals try rfl
  intro key
  have inserted := insert_all_lookup dev.b.entries dev.b.nodupKeys ∅ key
  rw [AList.lookup_empty, Option.or_none] at inserted
  exact inserted.symm

theorem devices_loop_text (devices : List Device) (wellFormed : ∀ dev ∈ devices, WellFormed dev)
    (fuel : Nat) (enough : devices.length < fuel) (start : Device) (handlers : start.h = [])
    (entries : start.b = ∅) :
    devicesLoop fuel start (holding (devices.flatMap Device.toString)) =
      some (devices.map reread) := by
  induction devices generalizing fuel start with
  | nil =>
      obtain ⟨fuel, rfl⟩ := Nat.exists_eq_succ_of_ne_zero (Nat.ne_of_gt enough)
      have stop : read start (holding []) =
          (false, start, { holding [] with eofbit := true, failbit := true }) := by
        rw [read_eq, read_loop_end (getline_end '\n')]
        rfl
      rw [List.flatMap_nil, devicesLoop, stop]
      rfl
  | cons dev rest ih =>
      obtain ⟨fuel, rfl⟩ := Nat.exists_eq_succ_of_ne_zero (Nat.ne_zero_of_lt enough)
      have more : read start (holding (dev.toString ++ rest.flatMap Device.toString)) =
          (true, reread dev, holding (rest.flatMap Device.toString)) := by
        rw [read_eq, read_device start dev (wellFormed dev List.mem_cons_self) handlers, entries]
        rfl
      have later := ih (fun other member => wellFormed other (List.mem_cons_of_mem _ member)) fuel
        (Nat.lt_of_succ_lt_succ enough) { reread dev with b := ∅, h := [] } rfl rfl
      rw [List.flatMap_cons, devicesLoop, more]
      simp only [later, Option.map_some, List.map_cons]

/-- The devices come back from the file that holds their texts, in order. -/
theorem devices_returned (devices : List Device) (wellFormed : ∀ dev ∈ devices, WellFormed dev) :
    ∃ res,
      Returns { opens := true, contents := devices.flatMap Device.toString, readError := false }
        res ∧
      List.Forall₂ SameDevice devices res := by
  refine ⟨devices.map reread, ⟨devices.length + 1, ?_⟩, ?_⟩
  · intro fuel enough
    exact devices_loop_text devices wellFormed fuel enough _ rfl rfl
  · rw [List.forall₂_map_right_iff]
    exact List.forall₂_same.mpr fun dev _ => reread_same dev

def keyboard : Device where
  i := {
    bus := "0003".toList
    vendor := "046d".toList
    product := "c31c".toList
    version := "0110".toList }
  n := "\"Logitech USB Keyboard\"".toList
  p := []
  s := []
  u := []
  h := ["sysrq".toList, "event3".toList]
  b := (∅ : AList fun _ : Text => Text).insert "EV".toList "120013".toList

theorem keyboard_returned :
    ∃ res,
      Returns {
        opens := true
        contents := [keyboard, keyboard].flatMap Device.toString
        readError := false } res ∧
      List.Forall₂ SameDevice [keyboard, keyboard] res := by
  have wellFormed : WellFormed keyboard := by
    constructor
    all_goals decide
  apply devices_returned
  intro dev member
  simp only [List.mem_cons, List.not_mem_nil, or_false, or_self] at member
  exact member ▸ wellFormed

end DevHub.DeviceText
