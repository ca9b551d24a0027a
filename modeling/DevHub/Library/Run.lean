import Mathlib.Tactic.Common

/-!
Runs of a labelled partial step function. `step state event = none` says that
the event cannot occur in the state, so every statement about the steps of an
event list is about the steps that do occur. The two rules carry the later
developments: `each_step_of_guarded` turns a step lemma under a guard into a
fact about whole runs, and `each_step_iff_guarded` says when the guard is also
necessary.
-/

namespace Transition

set_option autoImplicit false

variable {State Event Other : Type*}

abbrev Step (State Event : Type*) := State → Event → Option State

def run (step : Step State Event) (start : State) : List Event → Option State
  | [] => some start
  | event :: rest => (step start event).bind fun next => run step next rest

/-- Every step that the event list takes from `start` satisfies the relation. -/
def EachStep (step : Step State Event) (relation : State → Event → State → Prop)
    (start : State) : List Event → Prop
  | [] => True
  | event :: rest => ∀ next, step start event = some next →
      relation start event next ∧ EachStep step relation next rest

def Always (step : Step State Event) (property : State → Prop)
    (start : State) (events : List Event) : Prop :=
  property start ∧ EachStep step (fun _ _ next => property next) start events

/-- Every event that occurs finds its guard satisfied by the state before it. -/
def Guarded (step : Step State Event) (guard : State → Event → Prop)
    (start : State) (events : List Event) : Prop :=
  EachStep step (fun state event _ => guard state event) start events

variable {step : Step State Event}

theorem run_append (start : State) (first second : List Event) :
    run step start (first ++ second) =
      (run step start first).bind fun middle => run step middle second := by
  induction first generalizing start with
  | nil => rfl
  | cons event rest ih =>
      simp only [List.cons_append, run]
      cases taken : step start event with
      | none => rfl
      | some next => exact ih next

theorem run_cons_some {start finish : State} {event : Event} {rest : List Event}
    (taken : run step start (event :: rest) = some finish) :
    ∃ next, step start event = some next ∧ run step next rest = some finish :=
  Option.bind_eq_some_iff.mp taken

theorem each_step_append {relation : State → Event → State → Prop}
    {start middle : State} {first second : List Event}
    (taken : run step start first = some middle)
    (holds : EachStep step relation start (first ++ second)) :
    EachStep step relation middle second := by
  induction first generalizing start with
  | nil =>
      cases taken
      exact holds
  | cons event rest ih =>
      obtain ⟨next, head, tail⟩ := run_cons_some taken
      exact ih tail (holds next head).2

theorem each_step_before {relation : State → Event → State → Prop}
    {start : State} {first second : List Event}
    (holds : EachStep step relation start (first ++ second)) :
    EachStep step relation start first := by
  induction first generalizing start with
  | nil => trivial
  | cons event rest ih =>
      intro next taken
      exact ⟨(holds next taken).1, ih (holds next taken).2⟩

/-- What `EachStep` says of one position: the event at any split of the list. -/
theorem each_step_at {relation : State → Event → State → Prop}
    {start before after : State} {first second : List Event} {event : Event}
    (holds : EachStep step relation start (first ++ event :: second))
    (reached : run step start first = some before)
    (taken : step before event = some after) : relation before event after :=
  (each_step_append reached holds after taken).1

theorem always_at {property : State → Prop} {start state : State}
    {first second : List Event} (holds : Always step property start (first ++ second))
    (reached : run step start first = some state) : property state := by
  obtain ⟨initial, steps⟩ := holds
  induction first generalizing start with
  | nil =>
      cases reached
      exact initial
  | cons event rest ih =>
      obtain ⟨next, head, tail⟩ := run_cons_some reached
      exact ih tail (steps next head).1 (steps next head).2

theorem always_of_keeps {property : State → Prop} {start : State} {events : List Event}
    (keeps : ∀ state event next, property state → step state event = some next → property next)
    (initial : property start) : Always step property start events := by
  refine ⟨initial, ?_⟩
  induction events generalizing start with
  | nil => trivial
  | cons event rest ih =>
      intro next taken
      have kept := keeps start event next initial taken
      exact ⟨kept, ih kept⟩

theorem each_step_of_keeps {invariant : State → Prop} {relation : State → Event → State → Prop}
    {start : State} {events : List Event}
    (keeps : ∀ state event next, invariant state → step state event = some next →
      invariant next ∧ relation state event next)
    (initial : invariant start) : EachStep step relation start events := by
  induction events generalizing start with
  | nil => trivial
  | cons event rest ih =>
      intro next taken
      have kept := keeps start event next initial taken
      exact ⟨kept.2, ih kept.1⟩

/-- Step rule: under the guard a step keeps the invariant and has the relation. -/
theorem each_step_of_guarded {invariant : State → Prop} {guard : State → Event → Prop}
    {relation : State → Event → State → Prop} {start : State} {events : List Event}
    (keeps : ∀ state event next, invariant state → guard state event →
      step state event = some next → invariant next ∧ relation state event next)
    (initial : invariant start) (guarded : Guarded step guard start events) :
    EachStep step relation start events := by
  induction events generalizing start with
  | nil => trivial
  | cons event rest ih =>
      intro next taken
      have kept := keeps start event next initial (guarded next taken).1 taken
      exact ⟨kept.2, ih kept.1 (guarded next taken).2⟩

/-- Exactness rule: when a step outside the guard always breaks the relation,
a run has the relation at every step exactly when it stays within the guard. -/
theorem each_step_iff_guarded {invariant : State → Prop} {guard : State → Event → Prop}
    {relation : State → Event → State → Prop} {start : State} {events : List Event}
    (keeps : ∀ state event next, invariant state → guard state event →
      step state event = some next → invariant next ∧ relation state event next)
    (breaks : ∀ state event next, invariant state → ¬ guard state event →
      step state event = some next → ¬ relation state event next)
    (initial : invariant start) :
    EachStep step relation start events ↔ Guarded step guard start events := by
  constructor
  · intro holds
    induction events generalizing start with
    | nil => trivial
    | cons event rest ih =>
        intro next taken
        have within : guard start event := by
          by_contra outside
          exact breaks start event next initial outside taken (holds next taken).1
        exact ⟨within, ih (keeps start event next initial within taken).1
          (holds next taken).2⟩
  · exact each_step_of_guarded keeps initial

/-- Where the relation of a step says the same as its guard, a run has the one at every step
exactly when it stays within the other. -/
theorem each_step_congr_mem {invariant : State → Prop} {guard : State → Event → Prop}
    {relation : State → Event → State → Prop} {start : State} {events : List Event}
    (keeps : ∀ state event next, invariant state → step state event = some next → invariant next)
    (same : ∀ event ∈ events, ∀ state next, invariant state → step state event = some next →
      (relation state event next ↔ guard state event))
    (initial : invariant start) :
    EachStep step relation start events ↔ Guarded step guard start events := by
  induction events generalizing start with
  | nil => exact Iff.rfl
  | cons event rest ih =>
      apply forall_congr'
      intro next
      apply imp_congr_right
      intro taken
      exact and_congr (same event (List.mem_cons_self ..) start next initial taken)
        (ih (fun other member => same other (List.mem_cons_of_mem _ member))
          (keeps start event next initial taken))

theorem each_step_congr {invariant : State → Prop} {guard : State → Event → Prop}
    {relation : State → Event → State → Prop} {start : State} {events : List Event}
    (keeps : ∀ state event next, invariant state → step state event = some next → invariant next)
    (same : ∀ state event next, invariant state → step state event = some next →
      (relation state event next ↔ guard state event))
    (initial : invariant start) :
    EachStep step relation start events ↔ Guarded step guard start events :=
  each_step_congr_mem keeps (fun event _ state next => same state event next) initial

theorem run_keeps {invariant : State → Prop} {guard : State → Event → Prop}
    {start finish : State} {events : List Event}
    (keeps : ∀ state event next, invariant state → guard state event →
      step state event = some next → invariant next)
    (initial : invariant start) (guarded : Guarded step guard start events)
    (reached : run step start events = some finish) : invariant finish := by
  induction events generalizing start with
  | nil =>
      cases reached
      exact initial
  | cons event rest ih =>
      obtain ⟨next, head, tail⟩ := run_cons_some reached
      exact ih (keeps start event next initial (guarded next head).1 head)
        (guarded next head).2 tail

theorem reached_of_keeps {invariant : State → Prop} {start finish : State} {events : List Event}
    (keeps : ∀ state event next, invariant state → step state event = some next → invariant next)
    (initial : invariant start) (reached : run step start events = some finish) :
    invariant finish := by
  induction events generalizing start with
  | nil =>
      cases reached
      exact initial
  | cons event rest ih =>
      obtain ⟨next, head, tail⟩ := run_cons_some reached
      exact ih (keeps start event next initial head) tail

def total {Item : Type*} (cost : Item → Nat) : List Item → Nat
  | [] => 0
  | item :: rest => cost item + total cost rest

theorem total_append {Item : Type*} (cost : Item → Nat) (first second : List Item) :
    total cost (first ++ second) = total cost first + total cost second := by
  induction first with
  | nil => exact (Nat.zero_add _).symm
  | cons item rest ih => rw [List.cons_append, total, total, ih, Nat.add_assoc]

theorem total_count {Item : Type*} (chosen : Item → Bool) (items : List Item) :
    total (fun item => (chosen item).toNat) items = items.countP chosen := by
  induction items with
  | nil => rfl
  | cons item rest ih =>
      rw [total, ih, List.countP_cons, Nat.add_comm]
      cases chosen item <;> rfl

/-- Progress rule: where each step pays its cost out of a measure and what its event brings in, a
run costs no more than the measure of its start and what its events bring in. -/
theorem run_spends {invariant : State → Prop} {measure : State → Nat} {cost gain : Event → Nat}
    {start finish : State} {events : List Event}
    (keeps : ∀ state event next, invariant state → step state event = some next → invariant next)
    (pays : ∀ state event next, invariant state → step state event = some next →
      measure next + cost event ≤ measure state + gain event)
    (initial : invariant start) (reached : run step start events = some finish) :
    measure finish + total cost events ≤ measure start + total gain events := by
  induction events generalizing start with
  | nil =>
      cases reached
      exact Nat.le_refl _
  | cons event rest ih =>
      obtain ⟨next, head, tail⟩ := run_cons_some reached
      have here := pays start event next initial head
      have later := ih (keeps start event next initial head) tail
      rw [total, total]
      omega

/-- A run projected to the events that `keep` selects: each kept step is matched
by the other machine, each dropped step leaves the relation in place. -/
theorem run_filter_simulates {other : Step Other Event} {guard : State → Event → Prop}
    (relation : State → Other → Prop) (keep : Event → Bool)
    (matched : ∀ state event next view, relation state view → guard state event →
      step state event = some next → keep event = true →
      ∃ after, other view event = some after ∧ relation next after)
    (dropped : ∀ state event next view, relation state view → guard state event →
      step state event = some next → keep event = false → relation next view)
    {start finish : State} {view : Other} {events : List Event}
    (initial : relation start view) (guarded : Guarded step guard start events)
    (reached : run step start events = some finish) :
    ∃ last, run other view (events.filter keep) = some last ∧ relation finish last := by
  induction events generalizing start view with
  | nil =>
      cases reached
      exact ⟨view, rfl, initial⟩
  | cons event rest ih =>
      obtain ⟨next, head, tail⟩ := run_cons_some reached
      obtain ⟨within, later⟩ := guarded next head
      cases kept : keep event with
      | true =>
          obtain ⟨after, moved, related⟩ := matched start event next view initial within head kept
          obtain ⟨last, ran, final⟩ := ih related later tail
          refine ⟨last, ?_, final⟩
          rw [List.filter_cons_of_pos kept, run, moved]
          exact ran
      | false =>
          have related := dropped start event next view initial within head kept
          obtain ⟨last, ran, final⟩ := ih related later tail
          refine ⟨last, ?_, final⟩
          rw [List.filter_cons_of_neg (by simp [kept])]
          exact ran

end Transition
