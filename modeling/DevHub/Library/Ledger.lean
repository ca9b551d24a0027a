import Mathlib.Tactic.Common
import Mathlib.Logic.Function.Basic

/-!
A ledger of requests that are answered later. Each key has at most one open request,
which an owner issued; requests are numbered in the order of their issue, and the
numbers of those that got an answer are kept. In a sound ledger no number is
answered twice.
-/

namespace RequestLedger

set_option autoImplicit false

variable {Key Owner : Type*} [DecidableEq Key]

structure Ledger (Key Owner : Type*) where
  opened : Key → Option (Owner × Nat)
  count : Nat
  answered : List Nat

namespace Ledger

def empty : Ledger Key Owner where
  opened _ := none
  count := 0
  answered := []

def issue (ledger : Ledger Key Owner) (key : Key) (owner : Owner) : Ledger Key Owner where
  opened := Function.update ledger.opened key (some (owner, ledger.count))
  count := ledger.count + 1
  answered := ledger.answered

/-- The open request of `key`, if any, has got its answer. -/
def answer (ledger : Ledger Key Owner) (key : Key) : Ledger Key Owner where
  opened := Function.update ledger.opened key none
  count := ledger.count
  answered := match ledger.opened key with
    | some (_, number) => ledger.answered ++ [number]
    | none => ledger.answered

/-- The requests of the owners that `keep` leaves out are over. -/
def prune (ledger : Ledger Key Owner) (keep : Owner → Bool) : Ledger Key Owner :=
  { ledger with opened := fun key => (ledger.opened key).filter fun entry => keep entry.1 }

structure Sound (ledger : Ledger Key Owner) : Prop where
  counted : ∀ key owner number, ledger.opened key = some (owner, number) → number < ledger.count
  unanswered : ∀ key owner number, ledger.opened key = some (owner, number) →
    number ∉ ledger.answered
  distinct : ∀ key other owner owner' number, ledger.opened key = some (owner, number) →
    ledger.opened other = some (owner', number) → key = other
  past : ∀ number ∈ ledger.answered, number < ledger.count
  once : ledger.answered.Nodup

omit [DecidableEq Key] in
theorem empty_sound : Sound (empty : Ledger Key Owner) := by
  constructor
  · intro key owner number absurd
    cases absurd
  · intro key owner number absurd
    cases absurd
  · intro key other owner owner' number absurd
    cases absurd
  · intro number member
    cases member
  · exact List.nodup_nil

theorem opened_issue (ledger : Ledger Key Owner) (key other : Key) (owner : Owner) :
    (ledger.issue key owner).opened other =
      if other = key then some (owner, ledger.count) else ledger.opened other := by
  simp [issue, Function.update_apply]

theorem opened_answer (ledger : Ledger Key Owner) (key other : Key) :
    (ledger.answer key).opened other = if other = key then none else ledger.opened other := by
  simp [answer, Function.update_apply]

omit [DecidableEq Key] in
theorem opened_prune {ledger : Ledger Key Owner} {keep : Owner → Bool} {key : Key}
    {entry : Owner × Nat} (found : (ledger.prune keep).opened key = some entry) :
    ledger.opened key = some entry ∧ keep entry.1 = true :=
  Option.filter_eq_some_iff.mp found

theorem Sound.issue {ledger : Ledger Key Owner} (sound : Sound ledger) (key : Key)
    (owner : Owner) : Sound (ledger.issue key owner) := by
  have older (other : Key) (holder : Owner) (number : Nat)
      (found : (ledger.issue key owner).opened other = some (holder, number)) :
      (other = key ∧ number = ledger.count) ∨
        (other ≠ key ∧ ledger.opened other = some (holder, number)) := by
    rw [opened_issue] at found
    split at found
    · rename_i same
      cases found
      exact Or.inl ⟨same, rfl⟩
    · rename_i different
      exact Or.inr ⟨different, found⟩
  constructor
  · intro other holder number found
    rcases older other holder number found with ⟨-, rfl⟩ | ⟨-, before⟩
    · exact Nat.lt_succ_self _
    · exact Nat.lt_succ_of_lt (sound.counted other holder number before)
  · intro other holder number found
    rcases older other holder number found with ⟨-, rfl⟩ | ⟨-, before⟩
    · intro member
      exact absurd (sound.past _ member) (Nat.lt_irrefl _)
    · exact sound.unanswered other holder number before
  · intro first second holder holder' number foundFirst foundSecond
    rcases older first holder number foundFirst with ⟨sameFirst, new⟩ | ⟨-, beforeFirst⟩
    · rcases older second holder' number foundSecond with ⟨sameSecond, -⟩ | ⟨-, beforeSecond⟩
      · rw [sameFirst, sameSecond]
      · have earlier := sound.counted second holder' number beforeSecond
        omega
    · rcases older second holder' number foundSecond with ⟨-, new⟩ | ⟨-, beforeSecond⟩
      · have earlier := sound.counted first holder number beforeFirst
        omega
      · exact sound.distinct first second holder holder' number beforeFirst beforeSecond
  · intro number member
    exact Nat.lt_succ_of_lt (sound.past number member)
  · exact sound.once

omit [DecidableEq Key] in
theorem Sound.prune {ledger : Ledger Key Owner} (sound : Sound ledger) (keep : Owner → Bool) :
    Sound (ledger.prune keep) := by
  constructor
  · intro key owner number found
    exact sound.counted key owner number (opened_prune found).1
  · intro key owner number found
    exact sound.unanswered key owner number (opened_prune found).1
  · intro first second owner owner' number foundFirst foundSecond
    exact sound.distinct first second owner owner' number (opened_prune foundFirst).1
      (opened_prune foundSecond).1
  · exact sound.past
  · exact sound.once

theorem answered_answer {ledger : Ledger Key Owner} {key : Key} {owner : Owner} {number : Nat}
    (found : ledger.opened key = some (owner, number)) :
    (ledger.answer key).answered = ledger.answered ++ [number] := by
  simp [answer, found]

theorem mem_answered {ledger : Ledger Key Owner} {key : Key} {number : Nat}
    (member : number ∈ (ledger.answer key).answered) :
    number ∈ ledger.answered ∨ ∃ owner, ledger.opened key = some (owner, number) := by
  cases opened : ledger.opened key with
  | none =>
      left
      simpa [answer, opened] using member
  | some entry =>
      obtain ⟨owner, asked⟩ := entry
      rw [answered_answer opened] at member
      rcases List.mem_append.mp member with earlier | last
      · exact Or.inl earlier
      · right
        rw [List.mem_singleton.mp last]
        exact ⟨owner, rfl⟩

theorem Sound.answer {ledger : Ledger Key Owner} (sound : Sound ledger) (key : Key) :
    Sound (ledger.answer key) := by
  have older (other : Key) (holder : Owner) (number : Nat)
      (found : (ledger.answer key).opened other = some (holder, number)) :
      other ≠ key ∧ ledger.opened other = some (holder, number) := by
    rw [opened_answer] at found
    split at found
    · cases found
    · rename_i different
      exact ⟨different, found⟩
  constructor
  · intro other holder number found
    exact sound.counted other holder number (older other holder number found).2
  · intro other holder number found member
    obtain ⟨different, before⟩ := older other holder number found
    rcases mem_answered member with earlier | ⟨owner, opened⟩
    · exact sound.unanswered other holder number before earlier
    · exact different (sound.distinct other key holder owner number before opened)
  · intro first second holder holder' number foundFirst foundSecond
    exact sound.distinct first second holder holder' number
      (older first holder number foundFirst).2 (older second holder' number foundSecond).2
  · intro number member
    rcases mem_answered member with earlier | ⟨owner, opened⟩
    · exact sound.past number earlier
    · exact sound.counted key owner number opened
  · cases opened : ledger.opened key with
    | none => simpa [Ledger.answer, opened] using sound.once
    | some entry =>
        obtain ⟨owner, asked⟩ := entry
        rw [answered_answer opened]
        apply List.nodup_append.mpr
        refine ⟨sound.once, List.pairwise_singleton _ _, ?_⟩
        intro number earlier last member same
        rw [List.mem_singleton.mp member] at same
        exact sound.unanswered key owner asked opened (same ▸ earlier)

end Ledger

end RequestLedger
