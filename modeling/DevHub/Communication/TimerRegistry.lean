import DevHub.Library.Run
import DevHub.Communication.Looper

/-!
Runs of the timer registry. A call of `OnTimeout` is cut at its re-entrant point:
`timeout` enters the sink's `OnTimer`, `sinkReturns` is the rest of the innermost
call still active, and everything in between is what the sink does, nested calls
included. The state carries the specification next to the code: `live` is the
list of timers that `ScheduleTimer` returned an id for, less those cancelled
since and less the one-shot timers whose `OnTimeout` is over.
-/

namespace DevHub.TimerRegistry

open Transition Looper

set_option autoImplicit false

variable {Sink : Type} [DecidableEq Sink]

inductive Call (Sink : Type) where
  | scheduleTimer (tv : Option Timeval) (flag : TimerFlag) (sink : Option Sink)
  | cancelTimer (tid : Int)
  | timeout (te : TimerElement Sink)
  | sinkReturns

/-- `corrupted` records an `erase(end())`: the list means nothing afterwards. -/
structure State (Sink : Type) where
  looper : EventLooperImp Sink
  active : List (TimerElement Sink)
  live : List (TimerElement Sink)
  corrupted : Bool

def State.start : State Sink where
  looper := EventLooperImp.empty
  active := []
  live := []
  corrupted := false

/-- The timers a `ScheduleTimer` call that answered `tid` adds to the specification. -/
def returned (tid : Int) (tv : Option Timeval) (flag : TimerFlag) (sink : Option Sink) :
    List (TimerElement Sink) :=
  match tv, sink with
  | some interval, some sink =>
      if tid = -1 then [] else [{ id := tid, sink := sink, flag := flag, interval := interval }]
  | _, _ => []

def withoutId (timers : List (TimerElement Sink)) (tid : Int) : List (TimerElement Sink) :=
  timers.filter fun te => te.id != tid

def step (state : State Sink) (call : Call Sink) : Option (State Sink) :=
  if state.corrupted then none else
  match call with
  | .scheduleTimer tv flag sink =>
      let (tid, looper) := Looper.scheduleTimer state.looper tv flag sink true true
      some { state with looper := looper, live := state.live ++ returned tid tv flag sink }
  | .cancelTimer tid =>
      some { state with
        looper := Looper.cancelTimer state.looper tid
        live := withoutId state.live tid }
  | .timeout te =>
      if te ∈ state.looper.pending then
        some { state with looper := eventFires state.looper te, active := te :: state.active }
      else none
  | .sinkReturns =>
      match state.active with
      | [] => none
      | te :: rest =>
          let live := match te.flag with
            | .fireOnce => withoutId state.live te.id
            | .firePeriodically => state.live
          match afterOnTimer state.looper te with
          | some looper => some { looper := looper, active := rest, live := live, corrupted := false }
          | none => some { state with active := rest, live := live, corrupted := true }

/-- What the registry is for: `m_timers` is the live timers, each once, by increasing id. -/
structure RegistryExact (state : State Sink) : Prop where
  sound : state.corrupted = false
  exact : ∀ te, te ∈ state.looper.timers ↔ te ∈ state.live
  ordered : state.looper.timers.Pairwise fun left right => left.id < right.id

/-- No run delivers an `OnTimer` for an id that was issued and then cancelled. -/
def CancelledSilent (calls : List (Call Sink)) : Prop :=
  ∀ before tid between te after state,
    calls = before ++ .cancelTimer tid :: (between ++ .timeout te :: after) →
    run step State.start before = some state → tid < state.looper.nextId → te.id = tid →
    run step State.start (before ++ .cancelTimer tid :: (between ++ [.timeout te])) = none

/-- The list shapes that the code handles: a timer is scheduled while the list is
empty, and the sink of a one-shot timer leaves that timer in the list. -/
def Placed (state : State Sink) : Call Sink → Prop
  | .scheduleTimer (some _) _ (some _) => state.looper.timers = []
  | .sinkReturns => ∀ te rest, state.active = te :: rest → te.flag = .fireOnce →
      te.id ∈ state.looper.timers.map TimerElement.id
  | _ => True

/-- Invariant of the runs within `Placed`. A one-shot timer whose `OnTimer` is
still running has no event left, so erasing it later strands none. -/
structure Registered (state : State Sink) : Prop where
  registry : RegistryExact state
  issued : 1 ≤ state.looper.nextId
  fresh : ∀ te ∈ state.looper.timers, te.id < state.looper.nextId
  armed : ∀ te ∈ state.looper.pending, te ∈ state.looper.timers
  entered : ∀ te ∈ state.active, te.id < state.looper.nextId
  spent : ∀ te ∈ state.active, te.flag = .fireOnce →
    ∀ other ∈ state.looper.pending, other.id ≠ te.id

omit [DecidableEq Sink] in
theorem start_registered : Registered (State.start : State Sink) := by
  constructor
  · exact ⟨rfl, fun te => Iff.rfl, List.Pairwise.nil⟩
  · exact Int.le_refl 1
  all_goals
    intro te member
    cases member

omit [DecidableEq Sink] in
theorem mem_without_id {timers : List (TimerElement Sink)} {tid : Int} {te : TimerElement Sink} :
    te ∈ withoutId timers tid ↔ te ∈ timers ∧ te.id ≠ tid := by
  simp [withoutId]

omit [DecidableEq Sink] in
theorem registered_drop {state next : State Sink} {tid : Int} (holds : Registered state)
    (sound : next.corrupted = false)
    (timers : next.looper.timers = withoutId state.looper.timers tid)
    (live : next.live = withoutId state.live tid)
    (counter : next.looper.nextId = state.looper.nextId)
    (active : ∀ te ∈ next.active, te ∈ state.active)
    (pending : ∀ te ∈ next.looper.pending, te ∈ state.looper.pending ∧ te.id ≠ tid) :
    Registered next := by
  constructor
  · refine ⟨sound, ?_, ?_⟩
    · intro te
      rw [timers, live, mem_without_id, mem_without_id, holds.registry.exact]
    · rw [timers]
      exact holds.registry.ordered.filter _
  · exact counter ▸ holds.issued
  · intro te member
    rw [timers, mem_without_id] at member
    exact counter ▸ holds.fresh te member.1
  · intro te member
    have kept := pending te member
    rw [timers, mem_without_id]
    exact ⟨holds.armed te kept.1, kept.2⟩
  · intro te member
    exact counter ▸ holds.entered te (active te member)
  · intro te member once other armed
    exact holds.spent te (active te member) once other (pending other armed).1

omit [DecidableEq Sink] in
theorem registered_empty {state : State Sink} (holds : Registered state)
    (empty : state.looper.timers = []) : state.live = [] ∧ state.looper.pending = [] := by
  constructor
  · refine List.eq_nil_iff_forall_not_mem.mpr fun te member => ?_
    have listed := (holds.registry.exact te).mpr member
    simp [empty] at listed
  · refine List.eq_nil_iff_forall_not_mem.mpr fun te member => ?_
    have listed := holds.armed te member
    simp [empty] at listed

theorem schedule_registered {state next : State Sink} {tv : Option Timeval} {flag : TimerFlag}
    {sink : Option Sink} (holds : Registered state)
    (placed : Placed state (.scheduleTimer tv flag sink))
    (taken : step state (.scheduleTimer tv flag sink) = some next) : Registered next := by
  unfold step at taken
  rw [if_neg (by simp [holds.registry.sound])] at taken
  cases taken
  cases tv with
  | none => simpa [Looper.scheduleTimer, returned] using holds
  | some interval =>
      cases sink with
      | none => simpa [Looper.scheduleTimer, returned] using holds
      | some sink =>
          have empty : state.looper.timers = [] := placed
          obtain ⟨noLive, noPending⟩ := registered_empty holds empty
          have issued := holds.issued
          have positive : state.looper.nextId ≠ -1 := by omega
          constructor
          · refine ⟨holds.registry.sound, ?_, ?_⟩
            · intro te
              simp [insertTimer, empty, noLive, returned, positive]
            · simp [insertTimer, empty, Int.lt_succ]
          · simp only [Bool.true_eq_false, if_false]
            omega
          · simp [insertTimer, empty, Int.lt_succ]
          · simp [insertTimer, empty, noPending]
          · intro te member
            have earlier := holds.entered te member
            simp only [Bool.true_eq_false, if_false]
            omega
          · intro te member once other armed
            have earlier := holds.entered te member
            simp only [Bool.true_eq_false, if_false, noPending,
              List.nil_append, List.mem_singleton] at armed
            subst armed
            simp only
            omega

theorem cancel_registered {state next : State Sink} {tid : Int} (holds : Registered state)
    (taken : step state (.cancelTimer tid) = some next) : Registered next := by
  unfold step at taken
  rw [if_neg (by simp [holds.registry.sound])] at taken
  cases taken
  refine registered_drop holds holds.registry.sound
    (cancel_timers_ordered _ _ holds.registry.ordered) rfl ?_ (fun _ member => member) ?_
  · simp only [Looper.cancelTimer]
    split <;> rfl
  · intro te member
    have listed : te ∈ (Looper.cancelTimer state.looper tid).pending := member
    unfold Looper.cancelTimer at listed
    split at listed
    · simpa using listed
    · rename_i missing
      refine ⟨listed, ?_⟩
      intro same
      subst same
      exact erase_found_none.mp missing (List.mem_map_of_mem (holds.armed te listed))

theorem timeout_registered {state next : State Sink} {te : TimerElement Sink}
    (holds : Registered state) (taken : step state (.timeout te) = some next) :
    Registered next := by
  unfold step at taken
  rw [if_neg (by simp [holds.registry.sound])] at taken
  simp only at taken
  split at taken
  · rename_i pending
    cases taken
    have timers := event_fires_timers state.looper te
    have counter := event_fires_next_id state.looper te
    have fewer : ∀ other ∈ (eventFires state.looper te).pending, other ∈ state.looper.pending :=
      fun other => event_fires_pending
    constructor
    · refine ⟨holds.registry.sound, ?_, ?_⟩
      · simpa only [timers] using holds.registry.exact
      · simpa only [timers] using holds.registry.ordered
    · simpa only [counter] using holds.issued
    · simpa only [timers, counter] using holds.fresh
    · intro other member
      simp only [timers]
      exact holds.armed other (fewer other member)
    · intro other member
      simp only [counter]
      rcases List.mem_cons.mp member with same | earlier
      · subst same
        exact holds.fresh other (holds.armed other pending)
      · exact holds.entered other earlier
    · intro other member once armed listed
      rcases List.mem_cons.mp member with same | earlier
      · subst same
        simp only [eventFires, once, List.mem_filter] at listed
        simpa using listed.2
      · exact holds.spent other earlier once armed (fewer armed listed)
  · contradiction

theorem sink_returns_registered {state next : State Sink} (holds : Registered state)
    (placed : Placed state .sinkReturns) (taken : step state .sinkReturns = some next) :
    Registered next := by
  unfold step at taken
  rw [if_neg (by simp [holds.registry.sound])] at taken
  simp only at taken
  split at taken
  · contradiction
  · rename_i te rest active
    have older : ∀ other ∈ rest, other ∈ state.active := by
      intro other member
      rw [active]
      exact List.mem_cons_of_mem _ member
    cases once : te.flag with
    | firePeriodically =>
        simp only [afterOnTimer, once, Option.some.injEq] at taken
        subst taken
        exact ⟨⟨rfl, holds.registry.exact, holds.registry.ordered⟩, holds.issued, holds.fresh,
          holds.armed, fun other member => holds.entered other (older other member),
          fun other member => holds.spent other (older other member)⟩
    | fireOnce =>
        have listed := placed te rest active once
        cases found : eraseFound state.looper.timers te.id with
        | none => exact absurd listed (erase_found_none.mp found)
        | some timers =>
            simp only [afterOnTimer, once, found, Option.map_some, Option.some.injEq] at taken
            subst taken
            have erased : timers = withoutId state.looper.timers te.id :=
              (erase_found_some found).trans (erase_ordered _ _ holds.registry.ordered)
            have running : te ∈ state.active := by simp [active]
            exact registered_drop holds rfl erased rfl rfl older
              (fun other armed => ⟨armed, holds.spent te running once other armed⟩)

theorem step_registered (state : State Sink) (call : Call Sink) (next : State Sink)
    (holds : Registered state) (placed : Placed state call)
    (taken : step state call = some next) : Registered next := by
  cases call with
  | scheduleTimer tv flag sink => exact schedule_registered holds placed taken
  | cancelTimer tid => exact cancel_registered holds taken
  | timeout te => exact timeout_registered holds taken
  | sinkReturns => exact sink_returns_registered holds placed taken

/-- A timer scheduled over a non-empty list is lost: every listed id is smaller,
so the insertion loop runs to its end. -/
theorem step_breaks (state : State Sink) (call : Call Sink) (next : State Sink)
    (holds : Registered state) (misplaced : ¬ Placed state call)
    (taken : step state call = some next) : ¬ RegistryExact next := by
  intro exact
  unfold step at taken
  rw [if_neg (by simp [holds.registry.sound])] at taken
  cases call with
  | scheduleTimer tv flag sink =>
      cases tv with
      | none => exact misplaced trivial
      | some interval =>
          cases sink with
          | none => exact misplaced trivial
          | some sink =>
              cases taken
              have issued := holds.issued
              have positive : state.looper.nextId ≠ -1 := by omega
              let te : TimerElement Sink :=
                { id := state.looper.nextId, sink := sink, flag := flag, interval := interval }
              have unchanged : insertTimer state.looper.timers te = state.looper.timers := by
                unfold insertTimer
                split
                · rename_i empty
                  exact absurd empty misplaced
                · exact insert_loop_larger te _ holds.fresh
              have listed := (exact.exact te).mpr (by
                simp [returned, positive, te])
              have member : te ∈ state.looper.timers := unchanged ▸ listed
              have smaller : te.id < state.looper.nextId := holds.fresh te member
              exact absurd smaller (Int.lt_irrefl _)
  | cancelTimer tid => exact misplaced trivial
  | timeout te => exact misplaced trivial
  | sinkReturns =>
      simp only [Placed, not_forall] at misplaced
      obtain ⟨te, rest, active, once, absent⟩ := misplaced
      simp only [active, afterOnTimer, once, erase_found_none.mpr absent, Option.map_none,
        Option.some.injEq] at taken
      subst taken
      cases exact.sound

theorem exact_iff_placed (calls : List (Call Sink)) :
    Always step RegistryExact State.start calls ↔ Guarded step Placed State.start calls := by
  have rule : EachStep step (fun _ _ next => RegistryExact next) State.start calls ↔
      Guarded step Placed State.start calls := by
    apply each_step_iff_guarded (fun state call next holds placed taken => ?_) step_breaks
      start_registered
    have kept := step_registered state call next holds placed taken
    exact ⟨kept, kept.registry⟩
  exact ⟨fun always => rule.mp always.2, fun placed => ⟨start_registered.registry, rule.mpr placed⟩⟩

/-- The invariant behind silence: no listed timer has the cancelled id, and the
counter has passed it. -/
def Silent (tid : Int) (state : State Sink) : Prop :=
  Registered state ∧ tid < state.looper.nextId ∧ ∀ te ∈ state.looper.timers, te.id ≠ tid

theorem cancel_silent {state next : State Sink} {tid : Int} (holds : Registered state)
    (issued : tid < state.looper.nextId) (taken : step state (.cancelTimer tid) = some next) :
    Silent tid next := by
  refine ⟨cancel_registered holds taken, ?_⟩
  unfold step at taken
  rw [if_neg (by simp [holds.registry.sound])] at taken
  cases taken
  refine ⟨?_, ?_⟩
  · simp only [Looper.cancelTimer]
    split <;> exact issued
  · intro te member
    rw [cancel_timers_ordered _ _ holds.registry.ordered] at member
    simpa using (List.mem_filter.mp member).2

theorem step_timers {state next : State Sink} {call : Call Sink} (holds : Registered state)
    (placed : Placed state call) (taken : step state call = some next) :
    state.looper.nextId ≤ next.looper.nextId ∧
      ∀ te ∈ next.looper.timers, te ∈ state.looper.timers ∨ te.id = state.looper.nextId := by
  unfold step at taken
  rw [if_neg (by simp [holds.registry.sound])] at taken
  cases call with
  | scheduleTimer tv flag sink =>
      cases taken
      cases tv with
      | none => exact ⟨Int.le_refl _, fun te member => Or.inl member⟩
      | some interval =>
          cases sink with
          | none => exact ⟨Int.le_refl _, fun te member => Or.inl member⟩
          | some sink =>
              have empty : state.looper.timers = [] := placed
              constructor
              · simp only [Bool.true_eq_false, if_false]
                omega
              · simp [insertTimer, empty, Int.lt_succ]
  | cancelTimer tid =>
      cases taken
      constructor
      · simp only [Looper.cancelTimer]
        split <;> exact Int.le_refl _
      · intro te member
        rw [cancel_timers_ordered _ _ holds.registry.ordered] at member
        exact Or.inl (List.mem_filter.mp member).1
  | timeout te =>
      simp only at taken
      split at taken
      · cases taken
        simp only [eventFires]
        split <;> exact ⟨Int.le_refl _, fun other member => Or.inl member⟩
      · contradiction
  | sinkReturns =>
      simp only at taken
      split at taken
      · contradiction
      · rename_i te rest active
        cases finished : afterOnTimer state.looper te with
        | none =>
            simp only [finished, Option.some.injEq] at taken
            subst taken
            exact ⟨Int.le_refl _, fun other member => Or.inl member⟩
        | some looper =>
            simp only [finished, Option.some.injEq] at taken
            subst taken
            unfold afterOnTimer at finished
            split at finished
            · obtain ⟨timers, found, rfl⟩ := Option.map_eq_some_iff.mp finished
              refine ⟨Int.le_refl _, fun other member => Or.inl ?_⟩
              rw [erase_found_some found] at member
              exact List.mem_of_mem_eraseP member
            · cases finished
              exact ⟨Int.le_refl _, fun other member => Or.inl member⟩

theorem step_silent (tid : Int) (state : State Sink) (call : Call Sink) (next : State Sink)
    (quiet : Silent tid state) (placed : Placed state call)
    (taken : step state call = some next) : Silent tid next := by
  obtain ⟨holds, issued, absent⟩ := quiet
  obtain ⟨counter, timers⟩ := step_timers holds placed taken
  refine ⟨step_registered state call next holds placed taken, by omega, ?_⟩
  intro te member
  rcases timers te member with listed | added
  · exact absent te listed
  · omega

theorem silent_no_timeout {tid : Int} {state : State Sink} (quiet : Silent tid state)
    {te : TimerElement Sink} (same : te.id = tid) : step state (.timeout te) = none := by
  obtain ⟨holds, -, absent⟩ := quiet
  unfold step
  rw [if_neg (by simp [holds.registry.sound])]
  exact if_neg fun armed => absent te (holds.armed te armed) same

theorem placed_cancelled_silent (calls : List (Call Sink))
    (placed : Guarded step Placed State.start calls) : CancelledSilent calls := by
  intro before tid between te after state split reached issued same
  subst split
  have holds := run_keeps step_registered start_registered (each_step_before placed) reached
  have rest := each_step_append reached placed
  rw [run_append, reached, Option.bind_some, run]
  cases cancelled : step state (.cancelTimer tid) with
  | none => rfl
  | some quietState =>
      have quiet := cancel_silent holds issued cancelled
      have later := (rest quietState cancelled).2
      rw [Option.bind_some, run_append]
      cases middle : run step quietState between with
      | none => rfl
      | some last =>
          have still := run_keeps (step_silent tid) quiet (each_step_before later) middle
          simp only [Option.bind_some, run, silent_no_timeout still same, Option.bind_none]

/-- A run keeps `m_timers` exact, and with it cancelled timers silent, exactly
when every timer is scheduled into an empty list and no one-shot timer is
cancelled by its own sink. -/
theorem timer_registry_iff_placed (calls : List (Call Sink)) :
    (Always step RegistryExact State.start calls ∧ CancelledSilent calls) ↔
      Guarded step Placed State.start calls := by
  constructor
  · intro holds
    exact (exact_iff_placed calls).mp holds.1
  · intro placed
    exact ⟨(exact_iff_placed calls).mpr placed, placed_cancelled_silent calls placed⟩

/-- Two periodic timers; the second one is cancelled and fires all the same. -/
def secondTimer : TimerElement Nat :=
  { id := 2, sink := 8, flag := .firePeriodically, interval := ⟨1, 0⟩ }

def lostTimerCalls : List (Call Nat) :=
  [.scheduleTimer (some ⟨15, 0⟩) .firePeriodically (some 7),
    .scheduleTimer (some ⟨1, 0⟩) .firePeriodically (some 8),
    .cancelTimer 2, .timeout secondTimer]

theorem second_timer_lost :
    ¬ Always step RegistryExact State.start lostTimerCalls ∧ ¬ CancelledSilent lostTimerCalls := by
  constructor
  · intro holds
    have reached : run step State.start (lostTimerCalls.take 2) = some _ := rfl
    have exact := always_at
      (show Always step RegistryExact State.start
        (lostTimerCalls.take 2 ++ lostTimerCalls.drop 2) from holds) reached
    have listed := (exact.exact secondTimer).mpr (by decide)
    exact absurd listed (by decide)
  · intro silent
    have fires := silent (lostTimerCalls.take 2) 2 [] secondTimer [] _ rfl rfl (by decide) rfl
    cases fires

end DevHub.TimerRegistry
