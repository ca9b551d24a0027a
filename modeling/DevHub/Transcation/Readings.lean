import DevHub.Transcation.Loading
import DevHub.Transcation.WhiteList

/-!
What the two loaders read off the members of a configuration: which functions and
peripherals are whole, which of them follow a null equipment, and which transcations are
made. Nothing is said of an entry at which JsonCpp throws.
-/

namespace DevHub.Readings

open Checks Loading
open Config (Host kindOf entryId)

set_option autoImplicit false

def memberOf (value : Json) (name : String) : Json := (value.member name).getD .null

def namedUart (value element : Json) : Option Json :=
  element.text.bind fun peripheralName =>
    if isUart peripheralName then some (memberOf value peripheralName) else none

structure UartMembers (uart : Json) : Prop where
  devName : (memberOf uart "devName").text.isSome = true
  baudRate : (memberOf uart "BaudRate").number.isSome = true
  equipNum : (memberOf uart "equipNum").number.isSome = true

/-- The entry has one of the three names and both addresses. -/
structure MakesPlcFins (entry : Json) : Prop where
  name : (kindOf ((memberOf entry "name").text.getD "")).isSome = true
  cmdAddr : (memberOf (memberOf entry "mem_group") "cmd_addr").text.isSome = true
  dataAddr : (memberOf (memberOf entry "mem_group") "data_addr").text.isSome = true

/-- An entry of `functions` whose `PlcFins` gets a peripheral, if it has one. -/
def FunctionWhole (value entry : Json) : Prop :=
  MakesPlcFins entry →
    ∃ uart, namedUart value (memberOf entry "peripheral") = some uart ∧ UartMembers uart

/-- An element of `peripherals` that names a uart with all its members, the name of its
transcation among them. -/
def TranscationUart (value element : Json) (strTransName : String) : Prop :=
  ∃ uart, namedUart value element = some uart ∧ UartMembers uart ∧
    (memberOf uart "transcationName").text = some strTransName

/-- JsonCpp throws nothing and no null equipment is followed. -/
def Read {α : Type} (result : Except Stop α) : Prop := ∃ read, result = .ok read

def elementsOf (entry : Json) : List Json := ((memberOf entry "peripherals").items).getD []

def UartsNamed (host : Host) (value : Json) (entries : List Json) : Prop :=
  ∀ before entry after, entries = before ++ entry :: after →
    (∀ other ∈ before, Read (transcationEntry host value entries.length other)) →
      (entryId entry).isSome = true →
        ∀ first element rest, elementsOf entry = first ++ element :: rest →
          (∀ other ∈ first, Read (peripheralExit value other)) →
            ∀ strTransName, TranscationUart value element strTransName →
              (kindOf strTransName).isSome = true

/-! ### Members -/

theorem get_clean (value : Json) (name : String) :
    getMember value name ≠ .error .nullEquipment := by
  unfold getMember
  split <;> simp

theorem items_clean (peripherals : Json) : getItems peripherals ≠ .error .nullEquipment := by
  unfold getItems
  split <;> simp

theorem ip_whites_clean (host : Host) (size : Nat) (list : Json) :
    Loading.ipWhites host size list ≠ .error .nullEquipment := by
  unfold Loading.ipWhites
  split <;> simp

theorem members_read (value : Json) :
    (∀ name, getMember value name = .ok (memberOf value name)) ∨
      ∀ name, getMember value name = .error .typeError ∧ memberOf value name = .null := by
  cases value with
  | null => exact Or.inl fun name => rfl
  | object members =>
      left
      intro name
      simp only [getMember, memberOf, Json.member]
      cases members.find? fun entry => decide (entry.1 = name) <;> rfl
  | int value => exact Or.inr fun name => ⟨rfl, rfl⟩
  | uint value => exact Or.inr fun name => ⟨rfl, rfl⟩
  | real value => exact Or.inr fun name => ⟨rfl, rfl⟩
  | string value => exact Or.inr fun name => ⟨rfl, rfl⟩
  | bool value => exact Or.inr fun name => ⟨rfl, rfl⟩
  | array elements => exact Or.inr fun name => ⟨rfl, rfl⟩

theorem get_ok {value member : Json} {name : String} (read : getMember value name = .ok member) :
    member = memberOf value name := by
  rcases members_read value with all | none
  · rw [all] at read
    cases read
    rfl
  · rw [(none name).1] at read
    cases read

theorem get_member {value member : Json} {name : String}
    (read : getMember value name = .ok member) : value.member name = some member := by
  unfold getMember at read
  split at read
  · rename_i found
    cases read
    exact found
  · cases read

theorem uart_members_read {uart : Json} (members : UartMembers uart) (name : String) :
    getMember uart name = .ok (memberOf uart name) := by
  rcases members_read uart with all | none
  · exact all name
  · have missing := members.devName
    rw [(none "devName").2] at missing
    cases missing

/-! ### One function -/

theorem function_uart_ok {uart : Json} {exit : FunctionExit}
    (read : functionUart uart = .ok exit) :
    exit ≠ .skipped ∧ (exit = .whole ↔ UartMembers uart) := by
  unfold functionUart at read
  obtain ⟨devName, devRead, read⟩ := bind_ok read
  obtain ⟨baudRate, baudRead, read⟩ := bind_ok read
  obtain ⟨equipNum, equipRead, read⟩ := bind_ok read
  rw [get_ok devRead, get_ok baudRead, get_ok equipRead] at read
  have members : UartMembers uart ↔ (memberOf uart "devName").text.isSome = true ∧
      (memberOf uart "BaudRate").number.isSome = true ∧
        (memberOf uart "equipNum").number.isSome = true :=
    ⟨fun all => ⟨all.devName, all.baudRate, all.equipNum⟩, fun all => ⟨all.1, all.2.1, all.2.2⟩⟩
  rw [members]
  split at read
  · rename_i dev baud
    cases read
    cases (memberOf uart "equipNum").number <;> simp [dev, baud]
  · rename_i missing
    cases read
    refine ⟨by decide, ⟨fun same => (by cases same), ?_⟩⟩
    intro all
    obtain ⟨dev, devSome⟩ := Option.isSome_iff_exists.mp all.1
    obtain ⟨baud, baudSome⟩ := Option.isSome_iff_exists.mp all.2.1
    exact (missing dev baud devSome baudSome).elim

theorem function_exit_ok {value entry : Json} {exit : FunctionExit}
    (read : functionExit value entry = .ok exit) :
    (exit = .skipped ∨ exit = .whole) ↔ FunctionWhole value entry := by
  unfold functionExit at read
  obtain ⟨name, nameRead, read⟩ := bind_ok read
  rw [get_ok nameRead] at read
  split at read
  · rename_i unknown
    cases read
    refine ⟨fun _ made => ?_, fun _ => Or.inl rfl⟩
    simpa [unknown] using made.name
  · rename_i kind known
    obtain ⟨memGroup, groupRead, read⟩ := bind_ok read
    obtain ⟨cmdAddr, cmdRead, read⟩ := bind_ok read
    obtain ⟨dataAddr, dataRead, read⟩ := bind_ok read
    rw [get_ok cmdRead, get_ok dataRead, get_ok groupRead] at read
    split at read
    · rename_i cmd data
      have makes : MakesPlcFins entry := ⟨by simp [known], by simp [cmd], by simp [data]⟩
      obtain ⟨peripheral, peripheralRead, read⟩ := bind_ok read
      rw [get_ok peripheralRead] at read
      split at read
      · rename_i missing
        cases read
        refine ⟨fun same => (by simp at same), ?_⟩
        intro whole
        obtain ⟨uart, named, -⟩ := whole makes
        simp [namedUart, missing] at named
      · rename_i peripheralName text
        split at read
        · rename_i isName
          obtain ⟨uart, uartRead, read⟩ := bind_ok read
          have named : namedUart value (memberOf entry "peripheral") = some uart := by
            simp [namedUart, text, isName, get_ok uartRead]
          have exits := function_uart_ok read
          rw [or_iff_right exits.1, exits.2]
          constructor
          · exact fun members _ => ⟨uart, named, members⟩
          · intro whole
            obtain ⟨other, also, members⟩ := whole makes
            rw [named] at also
            cases also
            exact members
        · rename_i other
          cases read
          refine ⟨fun same => (by simp at same), ?_⟩
          intro whole
          obtain ⟨uart, named, -⟩ := whole makes
          simp [namedUart, text, other] at named
    · rename_i missing
      cases read
      refine ⟨fun _ made => ?_, fun _ => Or.inl rfl⟩
      obtain ⟨cmd, cmdSome⟩ := Option.isSome_iff_exists.mp made.cmdAddr
      obtain ⟨data, dataSome⟩ := Option.isSome_iff_exists.mp made.dataAddr
      exact (missing cmd data cmdSome dataSome).elim

theorem function_exit_clean (value entry : Json) :
    functionExit value entry ≠ .error .nullEquipment := by
  intro null
  unfold functionExit at null
  obtain ⟨name, -, null⟩ := bind_error (get_clean _ _) null
  split at null
  · cases null
  · obtain ⟨memGroup, -, null⟩ := bind_error (get_clean _ _) null
    obtain ⟨cmdAddr, -, null⟩ := bind_error (get_clean _ _) null
    obtain ⟨dataAddr, -, null⟩ := bind_error (get_clean _ _) null
    split at null
    · obtain ⟨peripheral, -, null⟩ := bind_error (get_clean _ _) null
      split at null
      · cases null
      · split at null
        · obtain ⟨uart, -, null⟩ := bind_error (get_clean _ _) null
          unfold functionUart at null
          obtain ⟨devName, -, null⟩ := bind_error (get_clean _ _) null
          obtain ⟨baudRate, -, null⟩ := bind_error (get_clean _ _) null
          obtain ⟨equipNum, -, null⟩ := bind_error (get_clean _ _) null
          split at null <;> cases null
        · cases null
    · cases null

theorem function_entries_clean (value : Json) : functionEntries value ≠ .error .nullEquipment := by
  intro null
  unfold functionEntries at null
  obtain ⟨functions, -, null⟩ := bind_error (get_clean _ _) null
  split at null
  · cases null
  · obtain ⟨plcValue, -, null⟩ := bind_error (get_clean _ _) null
    split at null
    · cases null
    · obtain ⟨ip, -, null⟩ := bind_error (get_clean _ _) null
      obtain ⟨port, -, null⟩ := bind_error (get_clean _ _) null
      split at null
      · exact items_clean _ null
      · cases null

/-! ### One transcation -/

theorem peripheral_uart_named {uart : Json} (members : UartMembers uart) :
    peripheralUart uart =
      match (memberOf uart "transcationName").text with
      | none => .ok .uartMade
      | some strTransName =>
          if (kindOf strTransName).isSome then .ok .whole else .error .nullEquipment := by
  obtain ⟨devName, dev⟩ := Option.isSome_iff_exists.mp members.devName
  obtain ⟨baudRate, baud⟩ := Option.isSome_iff_exists.mp members.baudRate
  obtain ⟨number, equip⟩ := Option.isSome_iff_exists.mp members.equipNum
  simp only [peripheralUart, uart_members_read members, Except.bind, dev, baud, equip]
  cases (memberOf uart "transcationName").text <;> rfl

theorem peripheral_uart_unnamed {uart : Json} (members : ¬ UartMembers uart) :
    peripheralUart uart ≠ .ok .whole ∧ peripheralUart uart ≠ .error .nullEquipment := by
  rcases members_read uart with all | none
  · simp only [peripheralUart, all, Except.bind]
    split
    · rename_i dev baud
      split
      · rename_i name equip
        exact absurd ⟨by simp [dev], by simp [baud], by simp [equip]⟩ members
      · simp
    · simp
  · simp [peripheralUart, (none _).1, Except.bind]

theorem null_no_uart : ¬ UartMembers .null := fun members => by cases members.devName

/-- A peripheral is whole, or its equipment is null, by the name of its transcation. -/
theorem peripheral_exit_iff (value element : Json) :
    (peripheralExit value element = .ok .whole ↔
      ∃ strTransName, TranscationUart value element strTransName ∧
        (kindOf strTransName).isSome = true) ∧
      (peripheralExit value element = .error .nullEquipment ↔
        ∃ strTransName, TranscationUart value element strTransName ∧
          ¬ (kindOf strTransName).isSome = true) := by
  cases named : namedUart value element with
  | none =>
      have skipped : peripheralExit value element = .ok .skipped := by
        unfold namedUart at named
        unfold peripheralExit
        cases text : element.text with
        | none => rfl
        | some peripheralName =>
            by_cases isName : isUart peripheralName = true
            · simp [text, isName] at named
            · simp only [if_neg isName]
      simp [skipped, TranscationUart, named]
  | some uart =>
      have exit : peripheralExit value element = peripheralUart uart ∨
          (peripheralExit value element = .error .typeError ∧ uart = .null) := by
        unfold namedUart at named
        unfold peripheralExit
        cases text : element.text with
        | none => simp [text] at named
        | some peripheralName =>
            by_cases isName : isUart peripheralName = true
            · simp only [text, Option.bind_some, if_pos isName, Option.some.injEq] at named
              subst named
              simp only [if_pos isName]
              rcases members_read value with all | none
              · rw [all]
                exact Or.inl rfl
              · rw [(none _).1]
                exact Or.inr ⟨rfl, (none _).2⟩
            · simp [text, isName] at named
      have uarts (strTransName : String) : TranscationUart value element strTransName ↔
          UartMembers uart ∧ (memberOf uart "transcationName").text = some strTransName := by
        simp [TranscationUart, named]
      simp only [uarts]
      rcases exit with inside | broken
      · rw [inside]
        by_cases members : UartMembers uart
        · rw [peripheral_uart_named members]
          cases name : (memberOf uart "transcationName").text with
          | none => simp
          | some strTransName => cases known : kindOf strTransName <;> simp [members, known]
        · have neither := peripheral_uart_unnamed members
          simp [members, neither]
      · simp [broken.1, broken.2, null_no_uart]

theorem items_read {peripherals : Json} {elements : List Json}
    (read : getItems peripherals = .ok elements) : peripherals.items.getD [] = elements := by
  unfold getItems at read
  split at read
  · rename_i items
    cases read
    rw [items]
    rfl
  · cases read

/-- What one entry comes to: it makes a transcation with its id, or none. -/
theorem transcation_entry_ok {host : Host} {value entry : Json} {size : Nat} {made : Option Made}
    (read : transcationEntry host value size entry = .ok made) :
    made.map Made.id = entryId entry ∧
      ∀ transcation, made = some transcation →
        checkAll (peripheralExit value) (elementsOf entry) = .ok transcation.exits := by
  unfold transcationEntry at read
  obtain ⟨transcationId, idRead, read⟩ := bind_ok read
  have idMember := get_member idRead
  split at read
  · rename_i number
    cases read
    exact ⟨by simp [entryId, idMember, number], fun _ same => by cases same⟩
  · rename_i id number
    obtain ⟨name, nameRead, read⟩ := bind_ok read
    have nameMember := get_member nameRead
    split at read
    · rename_i unknown
      cases read
      exact ⟨by simp [entryId, idMember, number, nameMember, unknown], fun _ same => by cases same⟩
    · rename_i kind known
      obtain ⟨commands, -, read⟩ := bind_ok read
      obtain ⟨peripherals, peripheralsRead, read⟩ := bind_ok read
      obtain ⟨elements, elementsRead, read⟩ := bind_ok read
      obtain ⟨exits, checked, read⟩ := bind_ok read
      obtain ⟨list, -, read⟩ := bind_ok read
      have listed : elementsOf entry = elements := by
        rw [elementsOf, ← get_ok peripheralsRead, items_read elementsRead]
      cases whites : Loading.ipWhites host size list with
      | error stop =>
          rw [whites] at read
          cases read
      | ok ips =>
          rw [whites] at read
          cases read
          refine ⟨by simp [entryId, idMember, number, nameMember, known], ?_⟩
          intro transcation same
          cases same
          rw [listed]
          exact checked

theorem transcation_entry_null {host : Host} {value entry : Json} {size : Nat}
    (members : ∀ name, getMember value name = .ok (memberOf value name)) :
    transcationEntry host value size entry = .error .nullEquipment ↔
      (entryId entry).isSome = true ∧
        checkAll (peripheralExit value) (elementsOf entry) = .error .nullEquipment := by
  constructor
  · intro null
    unfold transcationEntry at null
    obtain ⟨transcationId, idRead, null⟩ := bind_error (get_clean _ _) null
    have idMember := get_member idRead
    split at null
    · cases null
    · rename_i id number
      obtain ⟨name, nameRead, null⟩ := bind_error (get_clean _ _) null
      have nameMember := get_member nameRead
      split at null
      · cases null
      · rename_i kind known
        obtain ⟨commands, -, null⟩ := bind_error (get_clean _ _) null
        obtain ⟨peripherals, peripheralsRead, null⟩ := bind_error (get_clean _ _) null
        obtain ⟨elements, elementsRead, null⟩ := bind_error (items_clean _) null
        refine ⟨by simp [entryId, idMember, number, nameMember, known], ?_⟩
        rw [elementsOf, ← get_ok peripheralsRead, items_read elementsRead]
        cases checked : checkAll (peripheralExit value) elements with
        | error stop =>
            rw [checked] at null
            cases null
            rfl
        | ok exits =>
            rw [checked] at null
            obtain ⟨list, -, null⟩ := bind_error (get_clean _ _) null
            cases whites : Loading.ipWhites host size list with
            | error stop =>
                rw [whites] at null
                cases null
                exact absurd whites (ip_whites_clean host size list)
            | ok ips =>
                rw [whites] at null
                cases null
  · intro given
    obtain ⟨made, null⟩ := given
    rcases members_read entry with all | none
    · have idMember := get_member (all "transcationId")
      have nameMember := get_member (all "name")
      cases number : (memberOf entry "transcationId").number with
      | none => simp [entryId, idMember, number] at made
      | some id =>
          cases known : kindOf ((memberOf entry "name").text.getD "") with
          | none => simp [entryId, idMember, number, nameMember, known] at made
          | some kind =>
              cases items : (memberOf entry "peripherals").items with
              | none =>
                  rw [elementsOf, items] at null
                  cases null
              | some elements =>
                  rw [elementsOf, items, Option.getD_some] at null
                  simp only [transcationEntry, all, members, Except.bind, number, known, getItems,
                    items, null]
    · have missing : entry.member "transcationId" = Option.none := by
        cases found : entry.member "transcationId" with
        | none => rfl
        | some member =>
            have read : getMember entry "transcationId" = .ok member := by simp [getMember, found]
            rw [(none _).1] at read
            cases read
      simp [entryId, missing] at made

theorem uarts_named_iff {host : Host} {value : Json} {entries : List Json}
    (members : ∀ name, getMember value name = .ok (memberOf value name)) :
    checkAll (transcationEntry host value entries.length) entries ≠ .error .nullEquipment ↔
      UartsNamed host value entries := by
  rw [ne_eq, check_all_error]
  constructor
  · intro clean before entry after split reads made first element rest elements others
      strTransName named
    by_contra unknown
    apply clean
    refine ⟨before, entry, after, split, reads, (transcation_entry_null members).mpr ⟨made, ?_⟩⟩
    exact check_all_error.mpr ⟨first, element, rest, elements, others,
      (peripheral_exit_iff value element).2.mpr ⟨strTransName, named, unknown⟩⟩
  · intro named null
    obtain ⟨before, entry, after, split, reads, null⟩ := null
    obtain ⟨made, null⟩ := (transcation_entry_null members).mp null
    obtain ⟨first, element, rest, elements, others, null⟩ := check_all_error.mp null
    obtain ⟨strTransName, uart, unknown⟩ := (peripheral_exit_iff value element).2.mp null
    exact unknown (named before entry after split reads made first element rest elements others
      strTransName uart)

theorem transcation_entries_clean (host : Host) (value : Json) :
    transcationEntries host value ≠ .error .nullEquipment := by
  intro null
  unfold transcationEntries at null
  obtain ⟨serverPort, -, null⟩ := bind_error (get_clean _ _) null
  split at null
  · obtain ⟨transcations, -, null⟩ := bind_error (get_clean _ _) null
    exact items_clean _ null
  · cases null

/-! ### The registry -/

theorem get_of_member {value member : Json} {name : String}
    (found : value.member name = some member) : getMember value name = .ok member := by
  rw [getMember, found]

theorem uart_built_read {uartValue : Json} {fd : Int} {built : Option Transcations.Peripheral}
    (taken : Config.buildUart uartValue fd = some built) :
    ∃ exit, peripheralUart uartValue = .ok exit := by
  unfold Config.buildUart at taken
  obtain ⟨devName, devFound, taken⟩ := Option.bind_eq_some_iff.mp taken
  obtain ⟨baudRate, baudFound, taken⟩ := Option.bind_eq_some_iff.mp taken
  obtain ⟨name, nameFound, taken⟩ := Option.bind_eq_some_iff.mp taken
  obtain ⟨equipNum, equipFound, taken⟩ := Option.bind_eq_some_iff.mp taken
  simp only [peripheralUart, get_of_member devFound, get_of_member baudFound,
    get_of_member nameFound, get_of_member equipFound, Except.bind]
  split
  · rename_i dev baud
    split
    · rename_i strTransName number text equip
      simp only [dev, baud, text, equip, Option.map_eq_some_iff] at taken
      obtain ⟨kind, known, -⟩ := taken
      exact ⟨.whole, by simp [known]⟩
    · exact ⟨.uartMade, rfl⟩
  · exact ⟨.skipped, rfl⟩

theorem peripheral_built_read {value element : Json} {fd : Int}
    {built : Option Transcations.Peripheral}
    (taken : Config.buildPeripheral value fd element = some built) :
    ∃ exit, peripheralExit value element = .ok exit := by
  unfold Config.buildPeripheral at taken
  unfold peripheralExit
  cases text : element.text with
  | none => exact ⟨.skipped, rfl⟩
  | some peripheralName =>
      simp only [text] at taken ⊢
      by_cases isName : isUart peripheralName = true
      · rw [if_pos isName]
        rw [if_pos (show "uart".toList.isPrefixOf peripheralName.toList = true from isName)] at taken
        obtain ⟨uart, found, taken⟩ := Option.bind_eq_some_iff.mp taken
        rw [get_of_member found]
        exact uart_built_read taken
      · exact ⟨.skipped, if_neg isName⟩

theorem mapped_all {α β : Type} {f : α → Option β} {items : List α} {results : List β}
    (mapped : items.mapM f = some results) : ∀ item ∈ items, ∃ result, f item = some result := by
  induction items generalizing results with
  | nil => simp
  | cons head rest ih =>
      rw [List.mapM_cons] at mapped
      obtain ⟨first, taken, mapped⟩ := Option.bind_eq_some_iff.mp mapped
      obtain ⟨others, later, -⟩ := Option.bind_eq_some_iff.mp mapped
      intro item member
      rcases List.mem_cons.mp member with same | inside
      · exact ⟨first, same ▸ taken⟩
      · exact ih later item inside

theorem peripherals_built_read {host : Host} {value : Json} {i : Nat} {elements : List Json}
    {list : Json} {built : List Transcations.Peripheral} (items : list.items = some elements)
    (taken : Config.buildPeripherals host value i list = some built) :
    ∃ exits, checkAll (peripheralExit value) elements = .ok exits := by
  unfold Config.buildPeripherals at taken
  rw [items, Option.bind_some] at taken
  obtain ⟨results, mapped, -⟩ := Option.map_eq_some_iff.mp taken
  apply check_all_succeeds.mpr
  intro element member
  obtain ⟨j, here⟩ := List.mem_iff_getElem?.mp member
  obtain ⟨result, made⟩ :=
    mapped_all mapped (element, j) (List.mk_mem_zipIdx_iff_getElem?.mpr here)
  exact peripheral_built_read made

theorem transcation_built_read {host : Host} {value entry : Json} {size i : Nat}
    {built : Option (Nat × Transcations.Transcation)}
    (taken : Config.buildTranscation host value size i entry = some built) :
    ∃ made, transcationEntry host value size entry = .ok made ∧
      made.map Made.id = built.map Prod.fst := by
  have ids := WhiteList.built_id taken
  have readable : ∃ made, transcationEntry host value size entry = .ok made := by
    unfold Config.buildTranscation at taken
    obtain ⟨transcationId, idFound, taken⟩ := Option.bind_eq_some_iff.mp taken
    simp only [transcationEntry, get_of_member idFound, Except.bind]
    cases present : transcationId.number with
    | none => exact ⟨none, rfl⟩
    | some number =>
        rw [present] at taken
        obtain ⟨name, nameFound, taken⟩ := Option.bind_eq_some_iff.mp taken
        simp only [get_of_member nameFound]
        dsimp only at taken
        cases known : kindOf (name.text.getD "") with
        | none => exact ⟨none, rfl⟩
        | some kind =>
            rw [known] at taken
            obtain ⟨commands, commandsBuilt, taken⟩ := Option.bind_eq_some_iff.mp taken
            obtain ⟨peripherals, peripheralsBuilt, taken⟩ := Option.bind_eq_some_iff.mp taken
            obtain ⟨ips, ipsBuilt, -⟩ := Option.map_eq_some_iff.mp taken
            obtain ⟨names, namesFound, -⟩ := Option.map_eq_some_iff.mp commandsBuilt
            obtain ⟨list, listFound, listBuilt⟩ := Option.bind_eq_some_iff.mp peripheralsBuilt
            obtain ⟨whites, whitesFound, whitesBuilt⟩ := Option.bind_eq_some_iff.mp ipsBuilt
            obtain ⟨elements, items, -⟩ := Option.bind_eq_some_iff.mp listBuilt
            obtain ⟨exits, checked⟩ := peripherals_built_read items listBuilt
            refine ⟨some { id := (number % 2 ^ 32).toNat, exits := exits }, ?_⟩
            simp only [get_of_member namesFound, get_of_member listFound, getItems, items, checked,
              get_of_member whitesFound, Loading.ipWhites, whitesBuilt, Except.map]
  obtain ⟨made, read⟩ := readable
  exact ⟨made, read, (transcation_entry_ok read).1.trans ids⟩

theorem insert_keys {α β : Type} {left : StdMap Nat α} {right : StdMap Nat β}
    (same : left.keys = right.keys) (key : Nat) (value : α) (other : β) :
    (left.insert key value).keys = (right.insert key other).keys := by
  apply StdMap.increasing_ext (StdMap.keys_sorted _) (StdMap.keys_sorted _)
  intro found
  rw [StdMap.mem_keys_insert, StdMap.mem_keys_insert, same]

theorem entries_register {host : Host} {value : Json} {size : Nat} (opens : Nat → Nat → Bool)
    {heap : Heap} {before after : StdMap Nat Transcations.Transcation}
    (same : heap.registered.keys = before.keys) (entries : List Json) (position : Nat)
    (taken : (entries.zipIdx position).foldlM (Config.updateOne host value size) before =
      some after) :
    ∃ next, (entries.zipIdx position).foldlM
        (fun heap entry => (transcationEntry host value size entry.1).map fun made =>
          addTranscation opens heap (made, entry.2)) heap = .ok next ∧
      next.registered.keys = after.keys := by
  induction entries generalizing heap before position with
  | nil =>
      cases taken
      exact ⟨heap, rfl, same⟩
  | cons entry rest ih =>
      obtain ⟨middle, first, later⟩ := Option.bind_eq_some_iff.mp taken
      obtain ⟨built, taken, added⟩ := Option.map_eq_some_iff.mp first
      obtain ⟨made, read, ids⟩ := transcation_built_read taken
      have kept : (addTranscation opens heap (made, position)).registered.keys = middle.keys := by
        cases built with
        | none =>
            cases added
            cases made with
            | none => exact same
            | some made => cases ids
        | some pair =>
            obtain ⟨id, tc⟩ := pair
            cases added
            cases made with
            | none => cases ids
            | some made =>
                obtain ⟨madeId, exits⟩ := made
                cases ids
                simp only [addTranscation, Config.addTranscation, same]
                split
                · exact same
                · exact insert_keys same _ _ _
      obtain ⟨next, ran, final⟩ := ih kept (position + 1) later
      refine ⟨next, ?_, final⟩
      rw [List.zipIdx_cons, List.foldlM_cons, read]
      exact ran

/-- A configuration that loads registers the same ids here. -/
theorem update_registers {host : Host} {value : Json}
    {transcations : StdMap Nat Transcations.Transcation}
    (loaded : Config.update host value = some transcations) (opens : Nat → Nat → Bool) :
    ∃ heap, transcationUpdate host opens Heap.empty value = .ok heap ∧
      heap.registered.keys = transcations.keys := by
  unfold Config.update at loaded
  obtain ⟨serverPort, portFound, loaded⟩ := Option.bind_eq_some_iff.mp loaded
  unfold transcationUpdate transcationEntries
  rw [get_of_member portFound]
  by_cases runs : Config.serverRuns host value = true
  · rw [if_pos runs] at loaded
    obtain ⟨entries, listed, loaded⟩ := Option.bind_eq_some_iff.mp loaded
    obtain ⟨list, listFound, items⟩ := Option.bind_eq_some_iff.mp listed
    simp only [Except.bind, if_pos runs, get_of_member listFound, getItems, items]
    exact entries_register opens rfl entries 0 loaded
  · rw [if_neg runs] at loaded
    cases loaded
    exact ⟨Heap.empty, by simp only [Except.bind, if_neg runs]; rfl, rfl⟩

end DevHub.Readings
