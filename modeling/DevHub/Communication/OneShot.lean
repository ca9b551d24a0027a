import DevHub.Communication.TimerRegistry

/-!
What `OnTimeout` erases after the sink of a one-shot timer has returned. The registry is
watched with the ids of the timers that were scheduled while `m_timers` was empty and have
not been cancelled since: those are the timers whose element is in the list.
-/

namespace DevHub.OneShot

open Transition Looper TimerRegistry

set_option autoImplicit false

variable {Sink : Type} [DecidableEq Sink]

structure Watched (Sink : Type) where
  registry : State Sink
  placed : List Int

def Watched.start : Watched Sink where
  registry := State.start
  placed := []

def placedAfter (watched : Watched Sink) : Call Sink → List Int
  | .scheduleTimer (some _) _ (some _) =>
      if watched.registry.looper.timers.isEmpty then
        watched.placed ++ [watched.registry.looper.nextId]
      else watched.placed
  | .cancelTimer tid => watched.placed.filter fun id => id != tid
  | _ => watched.placed

def watchedStep : Step (Watched Sink) (Call Sink)
  | watched, call => (TimerRegistry.step watched.registry call).map fun registry =>
      { registry := registry, placed := placedAfter watched call }

/-- When the sink of a one-shot timer returns, the timer is in the list, and the list loses
its element and no other. -/
def ErasesOwn (watched : Watched Sink) (call : Call Sink) (next : Watched Sink) : Prop :=
  ∀ te rest, call = .sinkReturns → watched.registry.active = te :: rest → te.flag = .fireOnce →
    next.registry.corrupted = false ∧
      ∃ left right, watched.registry.looper.timers = left ++ te :: right ∧
        next.registry.looper.timers = left ++ right

/-- The sink of a one-shot timer returns for a timer that was scheduled while the list was
empty and has not been cancelled since. -/
def ReturnsPlaced (watched : Watched Sink) (call : Call Sink) : Prop :=
  ∀ te rest, call = .sinkReturns → watched.registry.active = te :: rest → te.flag = .fireOnce →
    te.id ∈ watched.placed

def Known (state : State Sink) (te : TimerElement Sink) : Prop :=
  te ∈ state.looper.timers ∨ te ∈ state.looper.pending ∨ te ∈ state.active

/-- A timer whose event is added, or whose sink runs, is in the list exactly when it is
placed. A one-shot timer fires once, so no other call of its sink is running. -/
structure Tracked (watched : Watched Sink) : Prop where
  sound : watched.registry.corrupted = false
  ordered : watched.registry.looper.timers.Pairwise fun left right => left.id < right.id
  fresh : ∀ te, Known watched.registry te → te.id < watched.registry.looper.nextId
  same : ∀ te other, Known watched.registry te → Known watched.registry other →
    te.id = other.id → te = other
  issued : ∀ id ∈ watched.placed, id < watched.registry.looper.nextId
  listed : ∀ te, te ∈ watched.registry.looper.pending ∨ te ∈ watched.registry.active →
    (te ∈ watched.registry.looper.timers ↔ te.id ∈ watched.placed)
  spent : ∀ te ∈ watched.registry.active, te.flag = .fireOnce →
    te ∉ watched.registry.looper.pending
  once : watched.registry.active.Pairwise fun te earlier => te.flag = .fireOnce → te ≠ earlier

omit [DecidableEq Sink] in
theorem start_tracked : Tracked (Watched.start : Watched Sink) := by
  have nothing : ∀ te : TimerElement Sink, ¬ Known State.start te := by
    intro te known
    simp [Known, State.start, EventLooperImp.empty] at known
  constructor
  · rfl
  · exact List.Pairwise.nil
  · exact fun te known => absurd known (nothing te)
  · exact fun te other known => absurd known (nothing te)
  · exact fun id member => absurd member (by simp [Watched.start])
  · exact fun te known => absurd (Or.inr known) (nothing te)
  · exact fun te member => absurd member (by simp [Watched.start, State.start])
  · exact List.Pairwise.nil

/-! ### Scheduling -/

omit [DecidableEq Sink] in
/-- An element with a new id is inserted in an empty list only. -/
theorem insert_timer_fresh (te : TimerElement Sink) (timers : List (TimerElement Sink))
    (larger : ∀ other ∈ timers, other.id < te.id) :
    insertTimer timers te = if timers.isEmpty then [te] else timers := by
  cases timers with
  | nil => rfl
  | cons head rest => exact insert_loop_larger te (head :: rest) larger

omit [DecidableEq Sink] in
theorem added_known {watched next : Watched Sink} {te other : TimerElement Sink}
    (timers : next.registry.looper.timers =
      if watched.registry.looper.timers.isEmpty then [te] else watched.registry.looper.timers)
    (pending : next.registry.looper.pending = watched.registry.looper.pending ++ [te])
    (active : next.registry.active = watched.registry.active)
    (met : Known next.registry other) : Known watched.registry other ∨ other = te := by
  rcases met with listed | added | running
  · rw [timers] at listed
    split at listed
    · exact Or.inr (List.mem_singleton.mp listed)
    · exact Or.inl (Or.inl listed)
  · rw [pending] at added
    rcases List.mem_append.mp added with before | now
    · exact Or.inl (Or.inr (Or.inl before))
    · exact Or.inr (List.mem_singleton.mp now)
  · rw [active] at running
    exact Or.inl (Or.inr (Or.inr running))

omit [DecidableEq Sink] in
/-- The new element is placed with its list position; the others keep theirs, or there was
none. -/
theorem added_listed {watched : Watched Sink} (holds : Tracked watched) {te : TimerElement Sink}
    (new : te.id = watched.registry.looper.nextId) {other : TimerElement Sink}
    (met : (other ∈ watched.registry.looper.pending ∨ other ∈ watched.registry.active) ∨
      other = te) :
    (other ∈ (if watched.registry.looper.timers.isEmpty then [te]
        else watched.registry.looper.timers) ↔
      other.id ∈ if watched.registry.looper.timers.isEmpty then watched.placed ++ [te.id]
        else watched.placed) := by
  have unplaced : te.id ∉ watched.placed := by
    intro member
    have below := holds.issued te.id member
    omega
  rcases met with before | rfl
  · have listed := holds.listed other before
    have below := holds.fresh other (Or.inr before)
    have different : other ≠ te := by
      rintro rfl
      omega
    cases empty : watched.registry.looper.timers.isEmpty with
    | true =>
        rw [List.isEmpty_iff] at empty
        rw [empty] at listed
        have gone : other.id ∉ watched.placed := fun member => by simpa using listed.mpr member
        have ids : other.id ≠ te.id := by omega
        simp [different, gone, ids]
    | false => exact listed
  · cases empty : watched.registry.looper.timers.isEmpty with
    | true => simp
    | false =>
        have unlisted : other ∉ watched.registry.looper.timers := by
          intro listed
          have below := holds.fresh other (Or.inl listed)
          omega
        simp [unlisted, unplaced]

omit [DecidableEq Sink] in
theorem added_tracked {watched next : Watched Sink} (holds : Tracked watched)
    (te : TimerElement Sink) (new : te.id = watched.registry.looper.nextId)
    (sound : next.registry.corrupted = false)
    (timers : next.registry.looper.timers = insertTimer watched.registry.looper.timers te)
    (pending : next.registry.looper.pending = watched.registry.looper.pending ++ [te])
    (counter : next.registry.looper.nextId = watched.registry.looper.nextId + 1)
    (active : next.registry.active = watched.registry.active)
    (placed : next.placed = if watched.registry.looper.timers.isEmpty then
      watched.placed ++ [te.id] else watched.placed) : Tracked next := by
  have older (other : TimerElement Sink) (known : Known watched.registry other) :
      other.id < te.id := new ▸ holds.fresh other known
  rw [insert_timer_fresh te watched.registry.looper.timers
    fun other member => older other (Or.inl member)] at timers
  have known (other : TimerElement Sink) (met : Known next.registry other) :
      Known watched.registry other ∨ other = te := added_known timers pending active met
  constructor
  · exact sound
  · rw [timers]
    split
    · exact List.pairwise_singleton _ _
    · exact holds.ordered
  · intro other met
    rw [counter, ← new]
    rcases known other met with before | rfl
    · have below := older other before
      omega
    · omega
  · intro one other first second ids
    rcases known one first with before | rfl
    · rcases known other second with earlier | rfl
      · exact holds.same one other before earlier ids
      · have below := older one before
        omega
    · rcases known other second with earlier | rfl
      · have below := older other earlier
        omega
      · rfl
  · intro id member
    rw [counter]
    rw [placed] at member
    have within : id ∈ watched.placed ∨ id = te.id := by
      split at member
      · exact (List.mem_append.mp member).imp_right List.mem_singleton.mp
      · exact Or.inl member
    rcases within with before | now
    · have below := holds.issued id before
      omega
    · omega
  · intro other met
    rw [timers, placed]
    apply added_listed holds new
    rw [pending, active] at met
    rcases met with added | running
    · rcases List.mem_append.mp added with before | now
      · exact Or.inl (Or.inl before)
      · exact Or.inr (List.mem_singleton.mp now)
    · exact Or.inl (Or.inr running)
  · intro other running once added
    rw [active] at running
    rw [pending] at added
    rcases List.mem_append.mp added with before | now
    · exact holds.spent other running once before
    · have below := older other (Or.inr (Or.inr running))
      rw [List.mem_singleton.mp now] at below
      omega
  · rw [active]
    exact holds.once

theorem schedule_tracked {watched next : Watched Sink} {tv : Option Timeval} {flag : TimerFlag}
    {sink : Option Sink} (holds : Tracked watched)
    (taken : watchedStep watched (.scheduleTimer tv flag sink) = some next) : Tracked next := by
  have start := holds.sound
  rw [watchedStep, TimerRegistry.step, if_neg (by simp [start])] at taken
  cases taken
  cases tv with
  | none => simpa [Looper.scheduleTimer, placedAfter, returned] using holds
  | some interval =>
      cases sink with
      | none => simpa [Looper.scheduleTimer, placedAfter, returned] using holds
      | some sink =>
          let te : TimerElement Sink :=
            { id := watched.registry.looper.nextId, sink := sink, flag := flag
              interval := interval }
          exact added_tracked holds te rfl start rfl rfl rfl rfl rfl

/-! ### Cancelling and erasing -/

omit [DecidableEq Sink] in
/-- One id is dropped from the list; `placed` may lose it too, and no sink but that of an
element that is out of the loop afterwards returned. -/
theorem dropped_tracked {watched next : Watched Sink} (tid : Int) (holds : Tracked watched)
    (sound : next.registry.corrupted = false)
    (timers : next.registry.looper.timers = withoutId watched.registry.looper.timers tid)
    (pending : ∀ te ∈ next.registry.looper.pending, te ∈ watched.registry.looper.pending)
    (counter : next.registry.looper.nextId = watched.registry.looper.nextId)
    (active : next.registry.active.Sublist watched.registry.active)
    (issued : ∀ id ∈ next.placed, id ∈ watched.placed)
    (placed : ∀ te, te ∈ next.registry.looper.pending ∨ te ∈ next.registry.active →
      (te.id ∈ next.placed ↔ te.id ∈ watched.placed ∧ te.id ≠ tid)) : Tracked next := by
  have known (te : TimerElement Sink) (met : Known next.registry te) :
      Known watched.registry te := by
    rcases met with listed | added | running
    · rw [timers, mem_without_id] at listed
      exact Or.inl listed.1
    · exact Or.inr (Or.inl (pending te added))
    · exact Or.inr (Or.inr (active.subset running))
  constructor
  · exact sound
  · rw [timers]
    exact holds.ordered.filter _
  · intro te met
    exact counter ▸ holds.fresh te (known te met)
  · intro te other first second
    exact holds.same te other (known te first) (known other second)
  · intro id member
    exact counter ▸ holds.issued id (issued id member)
  · intro te met
    rw [timers, mem_without_id, placed te met,
      holds.listed te (met.imp (pending te) fun running => active.subset running)]
  · intro te running once added
    exact holds.spent te (active.subset running) once (pending te added)
  · exact holds.once.sublist active

theorem cancel_tracked {watched next : Watched Sink} {tid : Int} (holds : Tracked watched)
    (taken : watchedStep watched (.cancelTimer tid) = some next) : Tracked next := by
  have start := holds.sound
  rw [watchedStep, TimerRegistry.step, if_neg (by simp [start])] at taken
  cases taken
  apply dropped_tracked tid holds
  · exact start
  · exact cancel_timers_ordered _ _ holds.ordered
  · exact fun te member => LawfulEventLooper.cancel_pending watched.registry.looper tid te member
  · show (Looper.cancelTimer watched.registry.looper tid).nextId = _
    unfold Looper.cancelTimer
    split <;> rfl
  · exact List.Sublist.refl _
  · exact fun id member => (List.mem_filter.mp member).1
  · intro te _
    show te.id ∈ watched.placed.filter (fun id => id != tid) ↔ _
    simp

/-! ### Firing -/

theorem timeout_tracked {watched next : Watched Sink} {te : TimerElement Sink}
    (holds : Tracked watched) (taken : watchedStep watched (.timeout te) = some next) :
    Tracked next := by
  have start := holds.sound
  rw [watchedStep, TimerRegistry.step, if_neg (by simp [start])] at taken
  split at taken
  · rename_i added
    cases taken
    have met (other : TimerElement Sink)
        (now : other ∈ (eventFires watched.registry.looper te).pending ∨
          other ∈ te :: watched.registry.active) :
        other ∈ watched.registry.looper.pending ∨ other ∈ watched.registry.active := by
      rcases now with event | running
      · exact Or.inl (event_fires_pending event)
      · rcases List.mem_cons.mp running with rfl | earlier
        · exact Or.inl added
        · exact Or.inr earlier
    have known (other : TimerElement Sink)
        (now : other ∈ (eventFires watched.registry.looper te).timers ∨
          other ∈ (eventFires watched.registry.looper te).pending ∨
          other ∈ te :: watched.registry.active) : Known watched.registry other := by
      rw [event_fires_timers] at now
      exact now.imp_right (met other)
    constructor
    · exact start
    · simpa using holds.ordered
    · intro other now
      simpa using holds.fresh other (known other now)
    · intro one other first second
      exact holds.same one other (known one first) (known other second)
    · simpa [placedAfter] using holds.issued
    · intro other now
      simpa [placedAfter] using holds.listed other (met other now)
    · intro other running once event
      rcases List.mem_cons.mp running with rfl | earlier
      · exact event_fires_once once event
      · exact holds.spent other earlier once (event_fires_pending event)
    · apply List.Pairwise.cons _ holds.once
      intro earlier running once same
      subst same
      exact holds.spent te running once added
  · cases taken

/-- What the return of a sink does, by the flag of its timer and the search for it. -/
theorem sink_returns_cases {watched next : Watched Sink}
    (taken : watchedStep watched .sinkReturns = some next) :
    ∃ te rest, watched.registry.active = te :: rest ∧ next.registry.active = rest ∧
      next.placed = watched.placed ∧
      ((te.flag = .firePeriodically ∧ next.registry.looper = watched.registry.looper ∧
          next.registry.corrupted = false) ∨
        (te.flag = .fireOnce ∧
          ((∃ timers, eraseFound watched.registry.looper.timers te.id = some timers ∧
              next.registry.looper = { watched.registry.looper with timers := timers } ∧
              next.registry.corrupted = false) ∨
            (eraseFound watched.registry.looper.timers te.id = none ∧
              next.registry.corrupted = true)))) := by
  obtain ⟨registry, returned, rfl⟩ := Option.map_eq_some_iff.mp taken
  obtain ⟨-, body⟩ := Option.ite_none_left_eq_some.mp returned
  dsimp only at body
  split at body
  · cases body
  · rename_i te rest active
    refine ⟨te, rest, active, ?_⟩
    cases once : te.flag with
    | firePeriodically =>
        simp only [afterOnTimer, once, Option.some.injEq] at body
        subst body
        exact ⟨rfl, rfl, Or.inl ⟨rfl, rfl, rfl⟩⟩
    | fireOnce =>
        cases found : eraseFound watched.registry.looper.timers te.id with
        | none =>
            simp only [afterOnTimer, once, found, Option.map_none, Option.some.injEq] at body
            subst body
            exact ⟨rfl, rfl, Or.inr ⟨rfl, Or.inr ⟨rfl, rfl⟩⟩⟩
        | some timers =>
            simp only [afterOnTimer, once, found, Option.map_some, Option.some.injEq] at body
            subst body
            exact ⟨rfl, rfl, Or.inr ⟨rfl, Or.inl ⟨timers, rfl, rfl, rfl⟩⟩⟩

omit [DecidableEq Sink] in
/-- The search by id finds the element that the search by pointer would find. -/
theorem listed_iff_found {watched : Watched Sink} (holds : Tracked watched)
    {te : TimerElement Sink} (running : te ∈ watched.registry.active) :
    te ∈ watched.registry.looper.timers ↔
      te.id ∈ watched.registry.looper.timers.map TimerElement.id := by
  constructor
  · exact List.mem_map_of_mem
  · intro found
    obtain ⟨other, listed, ids⟩ := List.mem_map.mp found
    have same := holds.same other te (Or.inl listed) (Or.inr (Or.inr running)) ids
    exact same ▸ listed

omit [DecidableEq Sink] in
theorem without_own {timers : List (TimerElement Sink)} {te : TimerElement Sink}
    (ordered : timers.Pairwise fun left right => left.id < right.id) (listed : te ∈ timers) :
    ∃ left right, timers = left ++ te :: right ∧ withoutId timers te.id = left ++ right := by
  obtain ⟨left, right, rfl⟩ := List.append_of_mem listed
  obtain ⟨-, later, before⟩ := List.pairwise_append.mp ordered
  have keepsLeft : withoutId left te.id = left := by
    apply List.filter_eq_self.mpr
    intro other member
    have below := before other member te (by simp)
    simp only [bne_iff_ne, ne_eq]
    omega
  have keepsRight : withoutId right te.id = right := by
    apply List.filter_eq_self.mpr
    intro other member
    have above := (List.pairwise_cons.mp later).1 other member
    simp only [bne_iff_ne, ne_eq]
    omega
  refine ⟨left, right, rfl, ?_⟩
  calc withoutId (left ++ te :: right) te.id
      = withoutId left te.id ++ withoutId right te.id := by simp [withoutId]
    _ = left ++ right := by rw [keepsLeft, keepsRight]

omit [DecidableEq Sink] in
theorem shortened_tracked {watched next : Watched Sink} (holds : Tracked watched)
    (sound : next.registry.corrupted = false)
    (looper : next.registry.looper = watched.registry.looper)
    (kept : next.placed = watched.placed)
    (earlier : next.registry.active.Sublist watched.registry.active) : Tracked next := by
  have known (te : TimerElement Sink) (met : Known next.registry te) :
      Known watched.registry te := by
    rw [Known, looper] at met
    exact met.imp_right (Or.imp_right (earlier.subset ·))
  constructor
  · exact sound
  · exact looper ▸ holds.ordered
  · intro te met
    exact looper ▸ holds.fresh te (known te met)
  · intro te other first second
    exact holds.same te other (known te first) (known other second)
  · rw [looper, kept]
    exact holds.issued
  · intro te met
    rw [looper] at met ⊢
    rw [kept]
    exact holds.listed te (met.imp_right (earlier.subset ·))
  · intro te running flag
    rw [looper]
    exact holds.spent te (earlier.subset running) flag
  · exact holds.once.sublist earlier

omit [DecidableEq Sink] in
/-- A one-shot timer is out of the loop when its sink returns: its event is spent, and no
other call of the sink is running. -/
theorem returned_apart {watched : Watched Sink} (holds : Tracked watched)
    {te other : TimerElement Sink} {rest : List (TimerElement Sink)}
    (active : watched.registry.active = te :: rest) (once : te.flag = .fireOnce)
    (met : other ∈ watched.registry.looper.pending ∨ other ∈ rest) : other.id ≠ te.id := by
  intro ids
  have running : te ∈ watched.registry.active := by simp [active]
  have known : Known watched.registry other := by
    rw [Known, active]
    exact Or.inr (met.imp_right (List.mem_cons_of_mem te))
  obtain rfl := holds.same other te known (Or.inr (Or.inr running)) ids
  rcases met with added | again
  · exact holds.spent other running once added
  · have single := holds.once
    rw [active] at single
    exact (List.pairwise_cons.mp single).1 other again once rfl

theorem returns_tracked {watched next : Watched Sink} (holds : Tracked watched)
    (placed : ReturnsPlaced watched .sinkReturns)
    (taken : watchedStep watched .sinkReturns = some next) :
    Tracked next ∧ ErasesOwn watched .sinkReturns next := by
  obtain ⟨te, rest, active, after, kept, cases⟩ := sink_returns_cases taken
  have running : te ∈ watched.registry.active := by simp [active]
  have earlier : next.registry.active.Sublist watched.registry.active := by
    rw [active, after]
    exact List.sublist_cons_self te rest
  rcases cases with ⟨periodic, looper, sound⟩ | ⟨once, found | missing⟩
  · constructor
    · exact shortened_tracked holds sound looper kept earlier
    · intro other others _ same flag
      rw [active] at same
      obtain ⟨rfl, -⟩ := List.cons.inj same
      rw [periodic] at flag
      cases flag
  · obtain ⟨timers, found, looper, sound⟩ := found
    have erased : timers = withoutId watched.registry.looper.timers te.id :=
      (erase_found_some found).trans (erase_ordered _ _ holds.ordered)
    have inPlace : te ∈ watched.registry.looper.timers :=
      (holds.listed te (Or.inr running)).mpr (placed te rest rfl active once)
    constructor
    · apply dropped_tracked te.id holds sound
      · rw [looper]
        exact erased
      · intro other member
        rw [looper] at member
        exact member
      · rw [looper]
      · exact earlier
      · intro id member
        exact kept ▸ member
      · intro other met
        rw [looper, after] at met
        rw [kept]
        simp [returned_apart holds active once met]
    · intro other others _ same _
      rw [active] at same
      obtain ⟨rfl, -⟩ := List.cons.inj same
      refine ⟨sound, ?_⟩
      rw [looper, erased]
      exact without_own holds.ordered inPlace
  · have inPlace : te ∈ watched.registry.looper.timers :=
      (holds.listed te (Or.inr running)).mpr (placed te rest rfl active once)
    exact absurd ((listed_iff_found holds running).mp inPlace) (erase_found_none.mp missing.1)

/-! ### Runs -/

theorem step_tracked (watched : Watched Sink) (call : Call Sink) (next : Watched Sink)
    (holds : Tracked watched) (placed : ReturnsPlaced watched call)
    (taken : watchedStep watched call = some next) :
    Tracked next ∧ ErasesOwn watched call next := by
  cases call with
  | scheduleTimer tv flag sink =>
      exact ⟨schedule_tracked holds taken, fun te rest call => by cases call⟩
  | cancelTimer tid => exact ⟨cancel_tracked holds taken, fun te rest call => by cases call⟩
  | timeout te => exact ⟨timeout_tracked holds taken, fun te rest call => by cases call⟩
  | sinkReturns => exact returns_tracked holds placed taken

/-- The sink of a timer that is not placed returns: the search ends at `end()`. -/
theorem step_erases_end (watched : Watched Sink) (call : Call Sink) (next : Watched Sink)
    (holds : Tracked watched) (unplaced : ¬ ReturnsPlaced watched call)
    (_ : watchedStep watched call = some next) : ¬ ErasesOwn watched call next := by
  intro erases
  apply unplaced
  intro te rest call active once
  obtain ⟨-, left, right, timers, -⟩ := erases te rest call active once
  have listed : te ∈ watched.registry.looper.timers := by simp [timers]
  exact (holds.listed te (Or.inr (by simp [active]))).mp listed

/-- Every one-shot timer is erased from its own position exactly in the runs in which each
was scheduled over an empty list and is not cancelled before its sink has returned. -/
theorem erases_own_iff (calls : List (Call Sink)) :
    EachStep watchedStep ErasesOwn Watched.start calls ↔
      Guarded watchedStep ReturnsPlaced Watched.start calls :=
  each_step_iff_guarded step_tracked step_erases_end start_tracked

def oneSecond : Timeval where
  sec := 1
  usec := 0

/-- Two one-shot timers: the second is not in the list when it fires, and `end()` is erased. -/
theorem second_one_shot_erases_end :
    ¬ EachStep watchedStep ErasesOwn (Watched.start : Watched Unit)
      [.scheduleTimer (some oneSecond) .fireOnce (some ()),
        .scheduleTimer (some oneSecond) .fireOnce (some ()),
        .timeout { id := 2, sink := (), flag := .fireOnce, interval := oneSecond },
        .sinkReturns] := by
  intro holds
  have erased := (((holds _ rfl).2 _ rfl).2 _ rfl).2 _ rfl
  have sound := (erased.1 _ _ rfl rfl rfl).1
  exact absurd sound (by decide)

end DevHub.OneShot
