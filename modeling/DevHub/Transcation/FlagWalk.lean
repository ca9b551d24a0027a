import Mathlib.Tactic.Common

/-!
The protocol behind the report flags, without tasks and messages. One request
visits the transcations of a session in increasing order; each declines it,
answers it at once, or holds it until its device replies. A flag says that a
transcation declined since the flags were last cleared, and the client is told that
nobody takes the command when all flags are set. What the flags mean for the
rest of the visit is one of three phases.
-/

namespace DevHub.FlagWalk

set_option autoImplicit false

inductive Verdict where
  | declines
  | answers
  | holds
  deriving DecidableEq

inductive Emission where
  | noTaker (transId : Nat)
  | start (transId : Nat)
  | reply (transId : Nat)
  deriving DecidableEq

/-- `ahead last`: every transcation after `last` still has its flag set from an
earlier request, and `last` has not been visited. `behind last`: the flags were
cleared at `last` in this visit. `held by`: `by` has started a command. -/
inductive Phase where
  | ahead (last : Nat)
  | behind (last : Nat)
  | held (transId : Nat)
  deriving DecidableEq

/-- `none`: a transcation takes the request although an earlier one holds it. -/
def walkStep (transId : Nat) : Verdict → Phase → Option (Phase × List Emission)
  | .declines, .ahead last =>
      if transId = last then some (.behind last, [.noTaker last]) else some (.ahead last, [])
  | .declines, phase => some (phase, [])
  | .answers, .held _ => none
  | .answers, _ => some (.behind transId, [.start transId, .reply transId])
  | .holds, .held _ => none
  | .holds, _ => some (.held transId, [.start transId])

def walk (verdict : Nat → Verdict) (phase : Phase) : List Nat → Option (Phase × List Emission)
  | [] => some (phase, [])
  | transId :: rest =>
      (walkStep transId (verdict transId) phase).bind fun first =>
        (walk verdict first.1 rest).map fun later => (later.1, first.2 ++ later.2)

def HoldsLast (verdict : Nat → Verdict) (ids : List Nat) : Prop :=
  ids.Pairwise fun left right => verdict right ≠ .declines → verdict left ≠ .holds

instance (verdict : Nat → Verdict) (ids : List Nat) : Decidable (HoldsLast verdict ids) :=
  inferInstanceAs (Decidable (List.Pairwise _ _))

theorem walk_append (verdict : Nat → Verdict) (phase : Phase) (first second : List Nat) :
    walk verdict phase (first ++ second) =
      (walk verdict phase first).bind fun early =>
        (walk verdict early.1 second).map fun late => (late.1, early.2 ++ late.2) := by
  induction first generalizing phase with
  | nil => simp [walk]
  | cons transId rest ih =>
      rw [List.cons_append, walk, walk]
      cases walkStep transId (verdict transId) phase with
      | none => rfl
      | some moved =>
          rw [Option.bind_some, Option.bind_some, ih]
          cases walk verdict moved.1 rest with
          | none => rfl
          | some early => simp [Function.comp_def]

theorem walk_congr {first second : Nat → Verdict} {ids : List Nat}
    (same : ∀ transId ∈ ids, first transId = second transId) (phase : Phase) :
    walk first phase ids = walk second phase ids := by
  induction ids generalizing phase with
  | nil => rfl
  | cons transId rest ih =>
      obtain ⟨head, tail⟩ := List.forall_mem_cons.mp same
      simp only [walk, head, ih tail]

theorem walk_declines (verdict : Nat → Verdict) (phase : Phase) (ids : List Nat)
    (decline : ∀ transId ∈ ids, verdict transId = .declines)
    (passed : ∀ transId ∈ ids, phase ≠ .ahead transId) :
    walk verdict phase ids = some (phase, []) := by
  induction ids with
  | nil => rfl
  | cons transId rest ih =>
      have head : walkStep transId (verdict transId) phase = some (phase, []) := by
        rw [decline transId List.mem_cons_self]
        cases phase with
        | ahead last =>
            have other : transId ≠ last := by
              intro same
              subst same
              exact passed transId List.mem_cons_self rfl
            exact if_neg other
        | behind last => rfl
        | held holder => rfl
      rw [walk, head, Option.bind_some,
        ih (fun other member => decline other (List.mem_cons_of_mem _ member))
          (fun other member => passed other (List.mem_cons_of_mem _ member))]
      rfl

/-- A request that nobody takes: the client is told once, and the flags end as they were. -/
theorem walk_no_taker (verdict : Nat → Verdict) (last : Nat) (ids : List Nat)
    (distinct : ids.Nodup) (member : last ∈ ids)
    (decline : ∀ transId ∈ ids, verdict transId = .declines) :
    walk verdict (.ahead last) ids = some (.behind last, [.noTaker last]) := by
  obtain ⟨before, after, rfl⟩ := List.append_of_mem member
  have apart : last ∉ before := by
    intro early
    exact (List.nodup_append.mp distinct).2.2 last early last List.mem_cons_self rfl
  have early : walk verdict (.ahead last) before = some (.ahead last, []) := by
    apply walk_declines
    · exact fun transId visited => decline transId (List.mem_append_left _ visited)
    · intro transId visited same
      cases same
      exact apart visited
  have late : walk verdict (.behind last) after = some (.behind last, []) := by
    apply walk_declines
    · intro transId visited
      exact decline transId (List.mem_append_right _ (List.mem_cons_of_mem _ visited))
    · intro transId visited same
      cases same
  rw [walk_append, early, Option.bind_some, walk, decline last member, walkStep, if_pos rfl,
    Option.bind_some, late]
  rfl

def taken (taker : Nat) : Verdict → Phase × List Emission
  | .answers => (.behind taker, [.start taker, .reply taker])
  | _ => (.held taker, [.start taker])

/-- A request with one taker: it is served, and before it the client is told that
nobody takes the command when the taker stands behind the stale flags. -/
theorem walk_one_taker (verdict : Nat → Verdict) (last taker : Nat) (ids : List Nat)
    (increasing : ids.Pairwise fun left right => left < right) (member : last ∈ ids)
    (visited : taker ∈ ids) (takes : verdict taker ≠ .declines)
    (decline : ∀ transId ∈ ids, transId ≠ taker → verdict transId = .declines) :
    walk verdict (.ahead last) ids =
      some ((taken taker (verdict taker)).1,
        (if last < taker then [.noTaker last] else []) ++ (taken taker (verdict taker)).2) := by
  obtain ⟨before, after, rfl⟩ := List.append_of_mem visited
  obtain ⟨sortedBefore, sortedAfter, across⟩ := List.pairwise_append.mp increasing
  have declineBefore : ∀ transId ∈ before, verdict transId = .declines := by
    intro transId early
    apply decline transId (List.mem_append_left _ early)
    exact Nat.ne_of_lt (across transId early taker List.mem_cons_self)
  have declineAfter : ∀ transId ∈ after, verdict transId = .declines := by
    intro transId late
    apply decline transId (List.mem_append_right _ (List.mem_cons_of_mem _ late))
    exact Nat.ne_of_gt ((List.pairwise_cons.mp sortedAfter).1 transId late)
  have serve (phase : Phase) (free : ∀ holder, phase ≠ .held holder) :
      walkStep taker (verdict taker) phase = some (taken taker (verdict taker)) := by
    cases decided : verdict taker with
    | declines => exact absurd decided takes
    | answers =>
        cases phase with
        | held holder => exact absurd rfl (free holder)
        | ahead last => rfl
        | behind last => rfl
    | holds =>
        cases phase with
        | held holder => exact absurd rfl (free holder)
        | ahead last => rfl
        | behind last => rfl
  have rest : walk verdict (taken taker (verdict taker)).1 after =
      some ((taken taker (verdict taker)).1, []) := by
    apply walk_declines verdict _ after declineAfter
    intro transId late same
    cases decided : verdict taker with
    | declines => exact takes decided
    | answers => rw [decided] at same; cases same
    | holds => rw [decided] at same; cases same
  have visit (phase : Phase) (free : ∀ holder, phase ≠ .held holder) :
      walk verdict phase (taker :: after) = some (taken taker (verdict taker)) := by
    rw [walk, serve phase free, Option.bind_some, rest, Option.map_some, List.append_nil]
  rw [walk_append]
  by_cases stale : last < taker
  · have early : last ∈ before := by
      rcases List.mem_append.mp member with early | late
      · exact early
      · rcases List.mem_cons.mp late with same | later
        · omega
        · have above := (List.pairwise_cons.mp sortedAfter).1 last later
          omega
    rw [walk_no_taker verdict last before (sortedBefore.imp Nat.ne_of_lt) early declineBefore,
      Option.bind_some, visit _ (by simp), Option.map_some, if_pos stale]
  · have early : walk verdict (.ahead last) before = some (.ahead last, []) := by
      apply walk_declines verdict _ before declineBefore
      intro transId visitedEarly same
      cases same
      exact stale (across last visitedEarly taker List.mem_cons_self)
    rw [early, Option.bind_some, visit _ (by simp), Option.map_some, if_neg stale]

theorem walk_total (verdict : Nat → Verdict) (phase : Phase) (ids : List Nat)
    (order : HoldsLast verdict ids)
    (free : ∀ holder, phase = .held holder → ∀ transId ∈ ids, verdict transId = .declines) :
    ∃ result, walk verdict phase ids = some result := by
  induction ids generalizing phase with
  | nil => exact ⟨_, rfl⟩
  | cons transId rest ih =>
      obtain ⟨head, tail⟩ := List.pairwise_cons.mp order
      have next : ∃ moved, walkStep transId (verdict transId) phase = some moved ∧
          ∀ holder, moved.1 = .held holder → ∀ other ∈ rest, verdict other = .declines := by
        cases decided : verdict transId with
        | declines =>
            have kept : ∀ holder, phase = .held holder →
                ∀ other ∈ rest, verdict other = .declines :=
              fun holder same other member => free holder same other (List.mem_cons_of_mem _ member)
            cases phase with
            | ahead last =>
                by_cases reached : transId = last
                · exact ⟨_, if_pos reached, fun holder same => by cases same⟩
                · exact ⟨_, if_neg reached, fun holder same => by cases same⟩
            | behind last => exact ⟨_, rfl, kept⟩
            | held holder => exact ⟨_, rfl, kept⟩
        | answers =>
            cases phase with
            | held holder =>
                have impossible := free holder rfl transId List.mem_cons_self
                rw [decided] at impossible
                cases impossible
            | ahead last => exact ⟨_, rfl, fun holder same => by cases same⟩
            | behind last => exact ⟨_, rfl, fun holder same => by cases same⟩
        | holds =>
            have declined : ∀ other ∈ rest, verdict other = .declines := by
              intro other member
              by_contra takes
              exact head other member takes decided
            cases phase with
            | held holder =>
                have impossible := free holder rfl transId List.mem_cons_self
                rw [decided] at impossible
                cases impossible
            | ahead last => exact ⟨_, rfl, fun _ _ => declined⟩
            | behind last => exact ⟨_, rfl, fun _ _ => declined⟩
      obtain ⟨moved, step, later⟩ := next
      obtain ⟨result, walked⟩ := ih moved.1 tail later
      exact ⟨_, by rw [walk, step, Option.bind_some, walked, Option.map_some]⟩

end DevHub.FlagWalk
