import DevHub.Transcation.Readings

/-!
Whether a loaded configuration leaves an object half built: a `PlcFins` with armed timers
and no peripheral, or an open uart whose updater nothing registered. Neither can happen
where the process ends with an exception, so the condition on a configuration holds of one
at which JsonCpp throws.
-/

namespace DevHub.HalfBuilt

open Checks Loading Readings Transition
open Config (Host kindOf entryId)

set_option autoImplicit false

/-- A `PlcFins` is in use by its timers, a transcation when it is registered. -/
def InUse (heap : Heap) : Updater → Prop
  | .plcFins index => index < heap.plcFins.length
  | .transcation index => ∃ id, heap.registered.find? id = some index

structure Whole (heap : Heap) : Prop where
  plcFins : ∀ plcFins ∈ heap.plcFins, plcFins.peripheral ≠ none
  uarts : ∀ uart ∈ heap.uarts, uart.opened = true →
    ∃ updater, uart.equipment = some updater ∧ InUse heap updater

/-- The `Update` follows no null equipment, and what it leaves is whole. -/
def Complete (_ : Process) (_ : Load) (after : Process) : Prop :=
  after ≠ .stopped .nullEquipment ∧ ∀ heap, after = .running heap → Whole heap

/-! ### The configuration -/

def FunctionsWhole (value : Json) : Prop :=
  ∀ entries, functionEntries value = .ok entries →
    (∀ entry ∈ entries, Read (functionExit value entry)) →
      ∀ entry ∈ entries, FunctionWhole value entry

def OpensUart (opens : Nat → Bool) (value entry : Json) : Prop :=
  ∃ j element strTransName, (elementsOf entry)[j]? = some element ∧
    TranscationUart value element strTransName ∧ opens j = true

/-- Unless JsonCpp throws somewhere, an entry with a uart that opens has an id that is not
taken, neither before the loop nor by an earlier entry. -/
def IdsFresh (host : Host) (opens : Nat → Nat → Bool) (taken : Nat → Prop) (value : Json)
    (entries : List Json) : Prop :=
  (∀ entry ∈ entries, Read (transcationEntry host value entries.length entry)) →
    ∀ i entry id, entries[i]? = some entry → entryId entry = some id →
      OpensUart (opens i) value entry →
        ¬ taken id ∧ ∀ k earlier, k < i → entries[k]? = some earlier → entryId earlier ≠ some id

def TranscationsWhole (host : Host) (opens : Nat → Nat → Bool) (taken : Nat → Prop)
    (value : Json) : Prop :=
  ∀ entries, transcationEntries host value = .ok entries →
    UartsNamed host value entries ∧ IdsFresh host opens taken value entries

def ConfigurationWhole : Process → Load → Prop
  | .running _, .functions _ value => FunctionsWhole value
  | .running heap, .transcations host opens value =>
      TranscationsWhole host opens (fun id => id ∈ heap.registered.keys) value
  | .stopped _, _ => True

/-! ### The heap -/

/-- A half built object stays one: nothing completes it later. -/
def Incomplete (heap : Heap) : Prop :=
  (∃ plcFins ∈ heap.plcFins, plcFins.peripheral = none) ∨
    ∃ uart ∈ heap.uarts, uart.opened = true ∧
      ∃ index, uart.equipment = some (.transcation index) ∧ index < heap.transcations ∧
        ∀ id, heap.registered.find? id ≠ some index

def Sound (heap : Heap) : Prop :=
  ∀ id index, heap.registered.find? id = some index → index < heap.transcations

theorem incomplete_not_whole {heap : Heap} (half : Incomplete heap) : ¬ Whole heap := by
  intro whole
  rcases half with bare | orphan
  · obtain ⟨plcFins, member, unset⟩ := bare
    exact whole.plcFins plcFins member unset
  · obtain ⟨uart, member, opened, index, equipment, -, unregistered⟩ := orphan
    obtain ⟨updater, built, used⟩ := whole.uarts uart member opened
    rw [equipment] at built
    cases built
    obtain ⟨id, found⟩ := used
    exact unregistered id found

theorem add_function_incomplete {opens : Nat → Bool} {heap : Heap} (half : Incomplete heap)
    (entry : FunctionExit × Nat) : Incomplete (addFunction opens heap entry) := by
  have kept : (∀ plcFins ∈ heap.plcFins, plcFins ∈ (addFunction opens heap entry).plcFins) ∧
      (∀ uart ∈ heap.uarts, uart ∈ (addFunction opens heap entry).uarts) ∧
        (addFunction opens heap entry).transcations = heap.transcations ∧
          (addFunction opens heap entry).registered = heap.registered := by
    obtain ⟨exit, position⟩ := entry
    cases exit <;> simp +contextual [addFunction]
  obtain ⟨plcFinses, uarts, transcations, registered⟩ := kept
  rcases half with bare | orphan
  · obtain ⟨plcFins, member, unset⟩ := bare
    exact Or.inl ⟨plcFins, plcFinses plcFins member, unset⟩
  · obtain ⟨uart, member, opened, index, equipment, made, unregistered⟩ := orphan
    refine Or.inr ⟨uart, uarts uart member, opened, index, equipment, ?_, ?_⟩
    · rw [transcations]
      exact made
    · rw [registered]
      exact unregistered

theorem add_function_left {opens : Nat → Bool} {heap : Heap} {exit : FunctionExit}
    (left : ¬ (exit = .skipped ∨ exit = .whole)) (position : Nat) :
    Incomplete (addFunction opens heap (exit, position)) := by
  left
  refine ⟨{ peripheral := none }, ?_, rfl⟩
  cases exit with
  | skipped => exact absurd (Or.inl rfl) left
  | whole => exact absurd (Or.inr rfl) left
  | plcFinsMade => simp [addFunction]
  | uartMade => simp [addFunction]

theorem add_function_whole {opens : Nat → Bool} {heap : Heap} (whole : Whole heap)
    {exit : FunctionExit} (left : exit = .skipped ∨ exit = .whole) (position : Nat) :
    Whole (addFunction opens heap (exit, position)) := by
  rcases left with skipped | complete
  · subst skipped
    exact whole
  · subst complete
    constructor
    · intro plcFins member
      rcases List.mem_append.mp member with old | new
      · exact whole.plcFins plcFins old
      · cases List.mem_singleton.mp new
        simp
    · intro uart member opened
      rcases List.mem_append.mp member with old | new
      · obtain ⟨updater, built, used⟩ := whole.uarts uart old opened
        refine ⟨updater, built, ?_⟩
        cases updater with
        | transcation index => exact used
        | plcFins index =>
            have below : index < heap.plcFins.length := used
            show index < (heap.plcFins ++ [_]).length
            rw [List.length_append]
            exact Nat.lt_add_right _ below
      · cases List.mem_singleton.mp new
        refine ⟨_, rfl, ?_⟩
        show heap.plcFins.length < (heap.plcFins ++ [_]).length
        simp

theorem functions_incomplete {opens : Nat → Bool} {heap : Heap} (half : Incomplete heap)
    (exits : List FunctionExit) (position : Nat) :
    Incomplete ((exits.zipIdx position).foldl (addFunction opens) heap) := by
  induction exits generalizing heap position with
  | nil => exact half
  | cons exit rest ih => exact ih (add_function_incomplete half (exit, position)) (position + 1)

theorem functions_whole_iff {opens : Nat → Bool} {heap : Heap} (whole : Whole heap)
    (exits : List FunctionExit) (position : Nat) :
    Whole ((exits.zipIdx position).foldl (addFunction opens) heap) ↔
      ∀ exit ∈ exits, exit = .skipped ∨ exit = .whole := by
  induction exits generalizing heap position with
  | nil => simp [whole]
  | cons exit rest ih =>
      rw [List.zipIdx_cons, List.foldl_cons, List.forall_mem_cons]
      by_cases left : exit = .skipped ∨ exit = .whole
      · rw [ih (add_function_whole whole left position), and_iff_right left]
      · have incomplete : Incomplete
            ((rest.zipIdx (position + 1)).foldl (addFunction opens)
              (addFunction opens heap (exit, position))) :=
          functions_incomplete (add_function_left left position) rest (position + 1)
        constructor
        · exact fun complete => absurd complete (incomplete_not_whole incomplete)
        · exact fun all => absurd all.1 left

theorem functions_registered (opens : Nat → Bool) (heap : Heap) (exits : List FunctionExit)
    (position : Nat) :
    ((exits.zipIdx position).foldl (addFunction opens) heap).registered = heap.registered ∧
      ((exits.zipIdx position).foldl (addFunction opens) heap).transcations =
        heap.transcations := by
  induction exits generalizing heap position with
  | nil => exact ⟨rfl, rfl⟩
  | cons exit rest ih =>
      rw [List.zipIdx_cons, List.foldl_cons]
      have step := ih (addFunction opens heap (exit, position)) (position + 1)
      cases exit <;> exact step

def OpensMade (opens : Nat → Bool) (made : Made) : Prop :=
  ∃ j, made.exits[j]? = some .whole ∧ opens j = true

theorem opened_iff {opens : Nat → Bool} {made : Made} (index : Nat) :
    (∃ uart ∈ made.exits.zipIdx.filterMap (exitUart opens index), uart.opened = true) ↔
      OpensMade opens made := by
  constructor
  · intro found
    obtain ⟨uart, member, opened⟩ := found
    obtain ⟨entry, listed, exit⟩ := List.mem_filterMap.mp member
    obtain ⟨kind, j⟩ := entry
    cases kind with
    | skipped => cases exit
    | uartMade =>
        cases exit
        cases opened
    | whole =>
        cases exit
        exact ⟨j, List.mk_mem_zipIdx_iff_getElem?.mp listed, opened⟩
  · intro opensOne
    obtain ⟨j, whole, opened⟩ := opensOne
    refine ⟨{ opened := opens j, equipment := some (.transcation index) }, ?_, opened⟩
    exact List.mem_filterMap.mpr
      ⟨(.whole, j), List.mk_mem_zipIdx_iff_getElem?.mpr whole, rfl⟩

theorem opened_updater {opens : Nat → Bool} {made : Made} {index : Nat} {uart : Uart}
    (member : uart ∈ made.exits.zipIdx.filterMap (exitUart opens index))
    (opened : uart.opened = true) : uart.equipment = some (.transcation index) := by
  obtain ⟨entry, -, exit⟩ := List.mem_filterMap.mp member
  obtain ⟨kind, j⟩ := entry
  cases kind with
  | skipped => cases exit
  | uartMade =>
      cases exit
      cases opened
  | whole =>
      cases exit
      rfl

theorem add_transcation_find (opens : Nat → Nat → Bool) (heap : Heap) (made : Made)
    (position id : Nat) :
    (addTranscation opens heap (some made, position)).registered.find? id =
      if id = made.id ∧ made.id ∉ heap.registered.keys then some heap.transcations
      else heap.registered.find? id := by
  by_cases taken : made.id ∈ heap.registered.keys
  · simp [addTranscation, taken]
  · simp [addTranscation, taken, StdMap.find_insert]

theorem add_transcation_sound {heap : Heap} (sound : Sound heap)
    (opens : Nat → Nat → Bool) (entry : Option Made × Nat) :
    Sound (addTranscation opens heap entry) := by
  obtain ⟨made, position⟩ := entry
  cases made with
  | none => exact sound
  | some made =>
      intro id index found
      rw [add_transcation_find] at found
      show index < heap.transcations + 1
      split at found
      · cases found
        exact Nat.lt_succ_self _
      · exact Nat.lt_succ_of_lt (sound id index found)

theorem add_transcation_incomplete {heap : Heap} (incomplete : Incomplete heap)
    (opens : Nat → Nat → Bool) (entry : Option Made × Nat) :
    Incomplete (addTranscation opens heap entry) := by
  obtain ⟨made, position⟩ := entry
  cases made with
  | none => exact incomplete
  | some made =>
      rcases incomplete with bare | orphan
      · exact Or.inl bare
      · obtain ⟨uart, member, opened, index, equipment, below, unregistered⟩ := orphan
        refine Or.inr ⟨uart, List.mem_append_left _ member, opened, index, equipment,
          Nat.lt_succ_of_lt below, ?_⟩
        intro id found
        rw [add_transcation_find] at found
        split at found
        · cases found
          exact Nat.lt_irrefl _ below
        · exact unregistered id found

/-- An id that is taken leaves the uarts of the transcation without a registered updater. -/
theorem add_transcation_orphan {heap : Heap} (sound : Sound heap) {opens : Nat → Nat → Bool}
    {made : Made} {position : Nat} (opensOne : OpensMade (opens position) made)
    (taken : made.id ∈ heap.registered.keys) :
    Incomplete (addTranscation opens heap (some made, position)) := by
  obtain ⟨uart, member, opened⟩ := (opened_iff heap.transcations).mpr opensOne
  right
  refine ⟨uart, List.mem_append_right _ member, opened, heap.transcations,
    opened_updater member opened, Nat.lt_succ_self _, ?_⟩
  intro id found
  rw [add_transcation_find, if_neg fun both => both.2 taken] at found
  exact Nat.lt_irrefl _ (sound id _ found)

theorem add_transcation_whole {heap : Heap} (whole : Whole heap) {opens : Nat → Nat → Bool}
    {made : Made} {position : Nat}
    (fresh : OpensMade (opens position) made → made.id ∉ heap.registered.keys) :
    Whole (addTranscation opens heap (some made, position)) := by
  constructor
  · exact whole.plcFins
  · intro uart member opened
    rcases List.mem_append.mp member with old | new
    · obtain ⟨updater, built, used⟩ := whole.uarts uart old opened
      refine ⟨updater, built, ?_⟩
      cases updater with
      | plcFins index => exact used
      | transcation index =>
          obtain ⟨id, found⟩ := used
          refine ⟨id, ?_⟩
          rw [add_transcation_find, if_neg, found]
          intro both
          exact both.2 (both.1 ▸ StdMap.mem_keys.mpr ⟨index, found⟩)
    · have free := fresh ((opened_iff _).mp ⟨uart, new, opened⟩)
      refine ⟨_, opened_updater new opened, made.id, ?_⟩
      rw [add_transcation_find, if_pos ⟨rfl, free⟩]

theorem transcations_incomplete {opens : Nat → Nat → Bool} {heap : Heap}
    (incomplete : Incomplete heap) (mades : List (Option Made)) (position : Nat) :
    Incomplete ((mades.zipIdx position).foldl (addTranscation opens) heap) := by
  induction mades generalizing heap position with
  | nil => exact incomplete
  | cons made rest ih =>
      exact ih (add_transcation_incomplete incomplete opens (made, position)) (position + 1)

theorem transcations_sound {opens : Nat → Nat → Bool} {heap : Heap} (sound : Sound heap)
    (mades : List (Option Made)) (position : Nat) :
    Sound ((mades.zipIdx position).foldl (addTranscation opens) heap) := by
  induction mades generalizing heap position with
  | nil => exact sound
  | cons made rest ih =>
      exact ih (add_transcation_sound sound opens (made, position)) (position + 1)

def MadeFresh (opens : Nat → Nat → Bool) (taken : Nat → Prop) (position : Nat)
    (mades : List (Option Made)) : Prop :=
  ∀ i made, mades[i]? = some (some made) → OpensMade (opens (position + i)) made →
    ¬ taken made.id ∧ ∀ k earlier, k < i → mades[k]? = some (some earlier) → earlier.id ≠ made.id

theorem made_fresh_cons (opens : Nat → Nat → Bool) (taken : Nat → Prop) (position : Nat)
    (head : Option Made) (rest : List (Option Made)) :
    MadeFresh opens taken position (head :: rest) ↔
      (∀ made, head = some made → OpensMade (opens position) made → ¬ taken made.id) ∧
        MadeFresh opens (fun id => taken id ∨ ∃ made, head = some made ∧ id = made.id)
          (position + 1) rest := by
  constructor
  · intro fresh
    constructor
    · intro made same opensOne
      exact (fresh 0 made (by simp [same]) opensOne).1
    · intro i made here opensOne
      have later := fresh (i + 1) made here (by rwa [Nat.add_right_comm] at opensOne)
      constructor
      · intro known
        rcases known with before | first
        · exact later.1 before
        · obtain ⟨earlier, same, id⟩ := first
          exact later.2 0 earlier (Nat.succ_pos i) (by simp [same]) id.symm
      · intro k earlier less there
        exact later.2 (k + 1) earlier (Nat.succ_lt_succ less) there
  · intro both i made here opensOne
    cases i with
    | zero =>
        have same : head = some made := by simpa using here
        exact ⟨both.1 made same opensOne, fun k earlier less => absurd less (Nat.not_lt_zero k)⟩
    | succ i =>
        have later := both.2 i made here (by rwa [Nat.add_right_comm])
        refine ⟨fun known => later.1 (Or.inl known), ?_⟩
        intro k earlier less there
        cases k with
        | zero =>
            intro same
            exact later.1 (Or.inr ⟨earlier, by simpa using there, same.symm⟩)
        | succ k => exact later.2 k earlier (Nat.lt_of_succ_lt_succ less) there

theorem transcations_whole_iff {opens : Nat → Nat → Bool} {heap : Heap} (sound : Sound heap)
    (whole : Whole heap) (mades : List (Option Made)) (position : Nat) :
    Whole ((mades.zipIdx position).foldl (addTranscation opens) heap) ↔
      MadeFresh opens (fun id => id ∈ heap.registered.keys) position mades := by
  induction mades generalizing heap position with
  | nil => simp [whole, MadeFresh]
  | cons head rest ih =>
      rw [List.zipIdx_cons, List.foldl_cons, made_fresh_cons]
      cases head with
      | none =>
          rw [show addTranscation opens heap (none, position) = heap from rfl, ih sound whole]
          simp
      | some made =>
          by_cases fresh : OpensMade (opens position) made → made.id ∉ heap.registered.keys
          · rw [ih (add_transcation_sound sound opens _) (add_transcation_whole whole fresh)]
            have keys (id : Nat) :
                id ∈ (addTranscation opens heap (some made, position)).registered.keys ↔
                  id ∈ heap.registered.keys ∨ ∃ other, some made = some other ∧ id = other.id := by
              simp only [StdMap.mem_keys, add_transcation_find, Option.some.injEq, exists_eq_left']
              by_cases first : id = made.id ∧ made.id ∉ heap.registered.keys
              · simp [first]
              · rw [if_neg first]
                refine ⟨Or.inl, fun known => ?_⟩
                rcases known with before | same
                · exact before
                · rw [same]
                  exact StdMap.mem_keys.mp (by_contra fun free => first ⟨same, free⟩)
            simp only [keys]
            rw [and_iff_right]
            intro other same
            cases same
            exact fresh
          · obtain ⟨opensOne, taken⟩ := Classical.not_imp.mp fresh
            have incomplete : Incomplete ((rest.zipIdx (position + 1)).foldl (addTranscation opens)
                (addTranscation opens heap (some made, position))) :=
              transcations_incomplete
                (add_transcation_orphan sound opensOne (not_not.mp taken)) rest (position + 1)
            constructor
            · exact fun complete => absurd complete (incomplete_not_whole incomplete)
            · exact fun all => absurd (not_not.mp taken) (all.1 made rfl opensOne)

/-! ### One update -/

def Completes (result : Except Stop Heap) : Prop :=
  result ≠ .error .nullEquipment ∧ ∀ next, result = .ok next → Whole next

theorem completes_bind {α : Type} {result : Except Stop α} (clean : result ≠ .error .nullEquipment)
    (loop : α → Except Stop Heap) :
    Completes (result.bind loop) ↔ ∀ read, result = .ok read → Completes (loop read) := by
  cases result with
  | error stop => simpa [Completes, Except.bind] using clean
  | ok read => simp [Except.bind]

theorem completes_map {α : Type} (result : Except Stop α) (apply : α → Heap) :
    Completes (result.map apply) ↔
      result ≠ .error .nullEquipment ∧ ∀ read, result = .ok read → Whole (apply read) := by
  cases result <;> simp [Completes, Except.map]

theorem function_update_iff {heap : Heap} (whole : Whole heap) (opens : Nat → Bool)
    (value : Json) : Completes (functionUpdate opens heap value) ↔ FunctionsWhole value := by
  rw [functionUpdate, completes_bind (function_entries_clean value), FunctionsWhole]
  refine forall_congr' fun entries => imp_congr_right fun _ => ?_
  have clean : checkAll (functionExit value) entries ≠ .error .nullEquipment := by
    intro null
    obtain ⟨_, entry, _, _, _, stopped⟩ := check_all_error.mp null
    exact function_exit_clean value entry stopped
  rw [fold_checked, completes_map, and_iff_right clean]
  simp only [functions_whole_iff whole]
  constructor
  · intro complete reads entry member
    obtain ⟨exits, checked⟩ := check_all_succeeds.mpr reads
    obtain ⟨i, here⟩ := List.mem_iff_getElem?.mp member
    obtain ⟨exit, there, read⟩ := check_all_item checked here
    exact (function_exit_ok read).mp (complete exits checked exit (List.mem_of_getElem? there))
  · intro complete exits checked exit member
    obtain ⟨i, there⟩ := List.mem_iff_getElem?.mp member
    obtain ⟨entry, here, read⟩ := check_all_read checked there
    exact (function_exit_ok read).mpr
      (complete (check_all_succeeds.mp ⟨exits, checked⟩) entry (List.mem_of_getElem? here))

theorem opens_made_iff {opens : Nat → Bool} {value entry : Json} {made : Made}
    (checked : checkAll (peripheralExit value) (elementsOf entry) = .ok made.exits) :
    OpensMade opens made ↔ OpensUart opens value entry := by
  constructor
  · intro opensOne
    obtain ⟨j, there, opened⟩ := opensOne
    obtain ⟨element, here, read⟩ := check_all_read checked there
    obtain ⟨strTransName, uart, -⟩ := (peripheral_exit_iff value element).1.mp read
    exact ⟨j, element, strTransName, here, uart, opened⟩
  · intro opensOne
    obtain ⟨j, element, strTransName, here, uart, opened⟩ := opensOne
    obtain ⟨exit, there, read⟩ := check_all_item checked here
    refine ⟨j, ?_, opened⟩
    by_cases known : (kindOf strTransName).isSome = true
    · have whole := (peripheral_exit_iff value element).1.mpr ⟨strTransName, uart, known⟩
      rw [read] at whole
      cases whole
      exact there
    · have null := (peripheral_exit_iff value element).2.mpr ⟨strTransName, uart, known⟩
      rw [read] at null
      cases null

theorem ids_fresh_iff {host : Host} {opens : Nat → Nat → Bool} {taken : Nat → Prop} {value : Json}
    {size : Nat} {entries : List Json} {mades : List (Option Made)}
    (checked : checkAll (transcationEntry host value size) entries = .ok mades) :
    MadeFresh opens taken 0 mades ↔
      ∀ i entry id, entries[i]? = some entry → entryId entry = some id →
        OpensUart (opens i) value entry →
          ¬ taken id ∧
            ∀ k earlier, k < i → entries[k]? = some earlier → entryId earlier ≠ some id := by
  unfold MadeFresh
  simp only [Nat.zero_add]
  constructor
  · intro fresh i entry id here made opensOne
    obtain ⟨read, there, taken⟩ := check_all_item checked here
    obtain ⟨ids, exits⟩ := transcation_entry_ok taken
    rw [made] at ids
    obtain ⟨transcation, rfl, rfl⟩ := Option.map_eq_some_iff.mp ids
    have single := fresh i transcation there ((opens_made_iff (exits _ rfl)).mpr opensOne)
    refine ⟨single.1, ?_⟩
    intro k earlier less before same
    obtain ⟨other, at_k, read⟩ := check_all_item checked before
    have otherIds := (transcation_entry_ok read).1
    rw [same] at otherIds
    obtain ⟨first, rfl, equal⟩ := Option.map_eq_some_iff.mp otherIds
    exact single.2 k first less at_k equal
  · intro fresh i made there opensOne
    obtain ⟨entry, here, read⟩ := check_all_read checked there
    obtain ⟨ids, exits⟩ := transcation_entry_ok read
    have single := fresh i entry made.id here ids.symm
      ((opens_made_iff (exits _ rfl)).mp opensOne)
    refine ⟨single.1, ?_⟩
    intro k earlier less before same
    obtain ⟨other, at_k, read⟩ := check_all_read checked before
    apply single.2 k other less at_k
    rw [← (transcation_entry_ok read).1, Option.map_some, same]

theorem transcation_update_iff {heap : Heap} (sound : Sound heap) (whole : Whole heap)
    (host : Host) (opens : Nat → Nat → Bool) (value : Json) :
    Completes (transcationUpdate host opens heap value) ↔
      TranscationsWhole host opens (fun id => id ∈ heap.registered.keys) value := by
  rw [transcationUpdate, completes_bind (transcation_entries_clean host value), TranscationsWhole]
  refine forall_congr' fun entries => imp_congr_right fun found => ?_
  have members (name : String) : getMember value name = .ok (memberOf value name) := by
    rcases members_read value with all | none
    · exact all name
    · unfold transcationEntries at found
      obtain ⟨serverPort, read, -⟩ := bind_ok found
      rw [(none _).1] at read
      cases read
  rw [fold_checked, completes_map, uarts_named_iff members]
  refine and_congr_right fun _ => ?_
  simp only [transcations_whole_iff sound whole]
  constructor
  · intro fresh reads
    obtain ⟨mades, checked⟩ := check_all_succeeds.mpr reads
    exact (ids_fresh_iff checked).mp (fresh mades checked)
  · intro fresh mades checked
    exact (ids_fresh_iff checked).mpr (fresh (check_all_succeeds.mp ⟨mades, checked⟩))

/-! ### Runs -/

theorem update_sound {heap next : Heap} (sound : Sound heap) {load : Load}
    (taken : update heap load = .ok next) : Sound next := by
  cases load with
  | functions opens value =>
      rw [update, functionUpdate] at taken
      obtain ⟨entries, -, taken⟩ := bind_ok taken
      rw [fold_checked] at taken
      cases checked : checkAll (functionExit value) entries with
      | error stop => simp [checked, Except.map] at taken
      | ok exits =>
          simp only [checked, Except.map, Except.ok.injEq] at taken
          subst taken
          have kept := functions_registered opens heap exits 0
          intro id index known
          rw [kept.1] at known
          rw [kept.2]
          exact sound id index known
  | transcations host opens value =>
      rw [update, transcationUpdate] at taken
      obtain ⟨entries, -, taken⟩ := bind_ok taken
      rw [fold_checked] at taken
      cases checked : checkAll (transcationEntry host value entries.length) entries with
      | error stop => simp [checked, Except.map] at taken
      | ok mades =>
          simp only [checked, Except.map, Except.ok.injEq] at taken
          subst taken
          exact transcations_sound sound mades 0

theorem update_iff {heap : Heap} (sound : Sound heap) (whole : Whole heap) (load : Load) :
    Completes (update heap load) ↔ ConfigurationWhole (.running heap) load := by
  cases load with
  | functions opens value => exact function_update_iff whole opens value
  | transcations host opens value => exact transcation_update_iff sound whole host opens value

theorem step_cases {state next : Process} {load : Load} (taken : step state load = some next) :
    ∃ heap, state = .running heap ∧
      ((∃ after, update heap load = .ok after ∧ next = .running after) ∨
        ∃ stop, update heap load = .error stop ∧ next = .stopped stop) := by
  cases state with
  | stopped stop => cases taken
  | running heap =>
      refine ⟨heap, rfl, ?_⟩
      cases updated : update heap load with
      | ok after =>
          simp only [step, updated, Option.some.injEq] at taken
          exact Or.inl ⟨after, rfl, taken.symm⟩
      | error stop =>
          simp only [step, updated, Option.some.injEq] at taken
          exact Or.inr ⟨stop, rfl, taken.symm⟩

def Settled (process : Process) : Prop :=
  ∀ heap, process = .running heap → Sound heap ∧ Whole heap

theorem step_settled {state next : Process} {load : Load} (settled : Settled state)
    (taken : step state load = some next) (complete : Complete state load next) :
    Settled next := by
  intro last same
  obtain ⟨heap, rfl, updated | ended⟩ := step_cases taken
  · obtain ⟨after, updated, running⟩ := updated
    cases running.symm.trans same
    exact ⟨update_sound (settled heap rfl).1 updated, complete.2 last same⟩
  · obtain ⟨stop, -, stopped⟩ := ended
    cases stopped.symm.trans same

theorem step_whole_iff {state next : Process} {load : Load} (settled : Settled state)
    (taken : step state load = some next) :
    Complete state load next ↔ ConfigurationWhole state load := by
  obtain ⟨heap, rfl, outcome⟩ := step_cases taken
  rw [← update_iff (settled heap rfl).1 (settled heap rfl).2 load]
  rcases outcome with updated | ended
  · obtain ⟨after, updated, rfl⟩ := updated
    simp [Complete, Completes, updated]
  · obtain ⟨stop, updated, rfl⟩ := ended
    simp [Complete, Completes, updated]

theorem empty_settled : Settled (.running Heap.empty) := by
  intro heap same
  cases same
  constructor
  · intro id index known
    cases known
  · constructor
    · intro plcFins member
      cases member
    · intro uart member
      cases member

/-- Every update of a run is complete exactly when every configuration is whole, given the
ids that are registered by then. -/
theorem loads_complete_iff (loads : List Load) :
    EachStep step Complete (.running Heap.empty) loads ↔
      Guarded step ConfigurationWhole (.running Heap.empty) loads := by
  apply each_step_iff_guarded _ _ empty_settled
  · intro state load next settled whole taken
    have complete := (step_whole_iff settled taken).mpr whole
    exact ⟨step_settled settled taken complete, complete⟩
  · intro state load next settled partly taken complete
    exact partly ((step_whole_iff settled taken).mp complete)

def noPeripheral : Json :=
  .object [("functions", .array [.object [
      ("mem_group", .object [("cmd_addr", .string "DM15170"), ("data_addr", .string "DM15174")]),
      ("name", .string "balance")]]),
    ("plc0", .object [("ip", .string "192.168.101.11"), ("port", .int 9600)])]

/-- The `PlcFins` that is made has armed timers and no peripheral. -/
theorem no_peripheral_incomplete :
    ¬ EachStep step Complete (.running Heap.empty) [.functions (fun _ => true) noPeripheral] := by
  intro complete
  have made : step (.running Heap.empty) (.functions (fun _ => true) noPeripheral) =
      some (.running { Heap.empty with plcFins := [{ peripheral := none }] }) := rfl
  have whole := (complete _ made).1.2 _ rfl
  exact whole.plcFins _ List.mem_cons_self rfl

def unknownTranscation : Json :=
  .object [("serverPort", .int 9600),
    ("transcations", .array [.object [("name", .string "balance"),
      ("peripherals", .array [.string "uart1"]), ("transcationId", .int 1)]]),
    ("uart1", .object [("BaudRate", .int 9600), ("devName", .string "/dev/ttyO1"),
      ("equipNum", .int 0), ("transcationName", .string "Balance")])]

def plainHost : Host where
  serverStarts := true
  openPeripheral _ _ := 5
  valueToString _ := ""

example : step (.running Heap.empty)
    (.transcations plainHost (fun _ _ => true) unknownTranscation) =
      some (.stopped .nullEquipment) := rfl

end DevHub.HalfBuilt
