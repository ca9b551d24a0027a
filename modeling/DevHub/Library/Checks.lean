import Mathlib.Tactic.Common

/-!
Loops over a list that end at the first error. `checkAll` collects what such a loop reads;
a loop that only adds what it has read to a state is `checkAll` and then a plain fold, and
its error is that of the first element that has one.
-/

namespace Checks

set_option autoImplicit false

variable {ε α β σ : Type*}

def checkAll (check : α → Except ε β) : List α → Except ε (List β)
  | [] => .ok []
  | item :: rest =>
      match check item with
      | .error stop => .error stop
      | .ok read => (checkAll check rest).map (read :: ·)

/-- The loop that adds what it reads of each item, with the position of the item. -/
theorem fold_checked (check : α → Except ε β) (add : σ → β × Nat → σ) (items : List α)
    (position : Nat) (state : σ) :
    (items.zipIdx position).foldlM
        (fun state item => (check item.1).map fun read => add state (read, item.2)) state =
      (checkAll check items).map fun reads => (reads.zipIdx position).foldl add state := by
  induction items generalizing position state with
  | nil => rfl
  | cons item rest ih =>
      rw [List.zipIdx_cons, List.foldlM_cons, checkAll]
      cases checked : check item with
      | error stop => rfl
      | ok read =>
          have tail := ih (position + 1) (add state (read, position))
          cases later : checkAll check rest with
          | error stop =>
              rw [later] at tail
              exact tail
          | ok reads =>
              rw [later] at tail
              exact tail

/-- A fold comes to its end when no item stops it, where what stops it is the item alone. -/
theorem fold_succeeds {step : σ → α → Except ε σ} {passes : α → Prop}
    (one : ∀ state item, (∃ next, step state item = .ok next) ↔ passes item)
    (state : σ) (items : List α) :
    (∃ last, items.foldlM step state = .ok last) ↔ ∀ item ∈ items, passes item := by
  induction items generalizing state with
  | nil =>
      constructor
      · intro _ item member
        cases member
      · intro _
        exact ⟨state, rfl⟩
  | cons item rest ih =>
      rw [List.foldlM_cons, List.forall_mem_cons, ← one state item]
      cases taken : step state item with
      | error stop =>
          constructor
          · rintro ⟨last, ended⟩
            cases ended
          · rintro ⟨⟨next, same⟩, -⟩
            cases same
      | ok next =>
          rw [← ih next]
          constructor
          · intro ended
            exact ⟨⟨next, rfl⟩, ended⟩
          · intro both
            exact both.2

theorem bind_ok {result : Except ε α} {next : α → Except ε β} {last : β}
    (taken : result.bind next = .ok last) : ∃ read, result = .ok read ∧ next read = .ok last := by
  cases result with
  | error stop => cases taken
  | ok read => exact ⟨read, rfl, taken⟩

theorem map_ok {result : Except ε α} {f : α → β} {last : β} (taken : result.map f = .ok last) :
    ∃ read, result = .ok read ∧ f read = last := by
  cases result with
  | error stop => cases taken
  | ok read =>
      cases taken
      exact ⟨read, rfl, rfl⟩

theorem map_succeeds {result : Except ε α} {f : α → β} :
    (∃ last, result.map f = .ok last) ↔ ∃ read, result = .ok read := by
  cases result with
  | error stop => simp [Except.map]
  | ok read => simp [Except.map]

theorem bind_error {result : Except ε α} {next : α → Except ε β} {stop : ε}
    (clean : result ≠ .error stop) (taken : result.bind next = .error stop) :
    ∃ read, result = .ok read ∧ next read = .error stop := by
  cases result with
  | error other =>
      cases taken
      exact absurd rfl clean
  | ok read => exact ⟨read, rfl, taken⟩

theorem check_all_at {check : α → Except ε β} {items : List α} {reads : List β}
    (checked : checkAll check items = .ok reads) (i : Nat) :
    items[i]?.map check = reads[i]?.map .ok := by
  induction items generalizing reads i with
  | nil =>
      cases checked
      rfl
  | cons item rest ih =>
      rw [checkAll] at checked
      cases first : check item with
      | error stop => simp [first] at checked
      | ok read =>
          cases later : checkAll check rest with
          | error stop => simp [first, later, Except.map] at checked
          | ok others =>
              simp only [first, later, Except.map, Except.ok.injEq] at checked
              subst checked
              cases i with
              | zero => simp [first]
              | succ i => simpa using ih later i

theorem check_all_item {check : α → Except ε β} {items : List α} {reads : List β}
    (checked : checkAll check items = .ok reads) {i : Nat} {item : α}
    (here : items[i]? = some item) : ∃ read, reads[i]? = some read ∧ check item = .ok read := by
  have same := check_all_at checked i
  rw [here] at same
  obtain ⟨read, there, equal⟩ := Option.map_eq_some_iff.mp same.symm
  exact ⟨read, there, equal.symm⟩

theorem check_all_read {check : α → Except ε β} {items : List α} {reads : List β}
    (checked : checkAll check items = .ok reads) {i : Nat} {read : β}
    (there : reads[i]? = some read) : ∃ item, items[i]? = some item ∧ check item = .ok read := by
  have same := check_all_at checked i
  rw [there] at same
  exact Option.map_eq_some_iff.mp same

theorem check_all_succeeds {check : α → Except ε β} {items : List α} :
    (∃ reads, checkAll check items = .ok reads) ↔
      ∀ item ∈ items, ∃ read, check item = .ok read := by
  constructor
  · intro given item member
    obtain ⟨reads, checked⟩ := given
    obtain ⟨i, here⟩ := List.mem_iff_getElem?.mp member
    obtain ⟨read, -, equal⟩ := check_all_item checked here
    exact ⟨read, equal⟩
  · intro sound
    induction items with
    | nil => exact ⟨[], rfl⟩
    | cons item rest ih =>
        obtain ⟨read, first⟩ := sound item List.mem_cons_self
        obtain ⟨reads, later⟩ := ih fun other member => sound other (List.mem_cons_of_mem _ member)
        exact ⟨read :: reads, by simp [checkAll, first, later, Except.map]⟩

theorem check_all_error {check : α → Except ε β} {items : List α} {stop : ε} :
    checkAll check items = .error stop ↔
      ∃ before item after, items = before ++ item :: after ∧
        (∀ other ∈ before, ∃ read, check other = .ok read) ∧ check item = .error stop := by
  induction items with
  | nil => simp [checkAll]
  | cons head rest ih =>
      rw [checkAll]
      cases first : check head with
      | error other =>
          constructor
          · intro same
            cases same
            exact ⟨[], head, rest, rfl, by simp, first⟩
          · intro found
            obtain ⟨before, item, after, split, sound, stopped⟩ := found
            cases before with
            | nil =>
                cases split
                rw [stopped] at first
                cases first
                rfl
            | cons earlier before =>
                cases split
                obtain ⟨read, fine⟩ := sound head List.mem_cons_self
                rw [first] at fine
                cases fine
      | ok read =>
          have mapped : (checkAll check rest).map (read :: ·) = .error stop ↔
              checkAll check rest = .error stop := by
            cases checkAll check rest <;> simp [Except.map]
          simp only [mapped, ih]
          constructor
          · intro found
            obtain ⟨before, item, after, split, sound, stopped⟩ := found
            refine ⟨head :: before, item, after, by rw [split]; rfl, ?_, stopped⟩
            intro other member
            rcases List.mem_cons.mp member with same | later
            · exact ⟨read, same ▸ first⟩
            · exact sound other later
          · intro found
            obtain ⟨before, item, after, split, sound, stopped⟩ := found
            cases before with
            | nil =>
                cases split
                rw [stopped] at first
                cases first
            | cons earlier before =>
                cases split
                exact ⟨before, item, after, rfl,
                  fun other member => sound other (List.mem_cons_of_mem _ member), stopped⟩

end Checks
