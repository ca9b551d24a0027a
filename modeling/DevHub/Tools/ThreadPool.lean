import DevHub.Library.Run
import Mathlib.Data.List.Perm.Basic

/-!
`ThreadPool`: workers that take tasks from one queue. A critical section of `queue_mutex` is one
step, and so is blocking in `condition.wait`, which gives the mutex up. Everything else can come
between the steps of a call: `notify_one` comes after the critical section of `enqueue`, a
notified worker takes the mutex again before it looks, and a worker may wake without a notice.
-/

namespace DevHub.Tools

open Transition
open scoped List

set_option autoImplicit false

variable {Task : Type}

/-- A thread of `workers`: before it takes the mutex, blocked in `condition.wait`, in `task()`, or
behind its `return`. -/
inductive Worker (Task : Type)
  | entering
  | waiting
  | running (task : Task)
  | returned

/-- How far the destructor is: not called, behind its critical section, in its loop of `join`, or
behind it. -/
inductive Destructor
  | idle
  | notifying
  | joining (next : Nat)
  | returned
  deriving DecidableEq

/-- The pool. `unnotified` counts the calls of `enqueue` that have yet to call `notify_one`; the
last three fields are what has happened so far. -/
structure ThreadPool (Task : Type) where
  workers : List (Worker Task)
  tasks : List Task
  stop : Bool
  unnotified : Nat
  destructor : Destructor
  enqueued : List Task
  started : List Task
  finished : List Task

def ThreadPool.new (threads : Nat) : ThreadPool Task where
  workers := List.replicate threads .entering
  tasks := []
  stop := false
  unnotified := 0
  destructor := .idle
  enqueued := []
  started := []
  finished := []

/-- What can happen next. `notifyOne` names the worker that the notice wakes, if one waits, and
`wakeUp` is a wake-up without a notice. -/
inductive Event (Task : Type)
  | enqueue (task : Task)
  | notifyOne (woken : Option Nat)
  | wakeUp (i : Nat)
  | lock (i : Nat)
  | taskReturns (i : Nat)
  | destroy
  | notifyAll
  | join

def Worker.isWaiting : Worker Task → Bool
  | .waiting => true
  | _ => false

def Worker.isEntering : Worker Task → Bool
  | .entering => true
  | _ => false

def Worker.task? : Worker Task → Option Task
  | .running task => some task
  | _ => none

def Worker.wake : Worker Task → Worker Task
  | .waiting => .entering
  | worker => worker

def ThreadPool.setWorker (pool : ThreadPool Task) (i : Nat) (worker : Worker Task) :
    ThreadPool Task :=
  { pool with workers := pool.workers.set i worker }

/-- The critical section of a worker, from the lock to the unlock or to the block. -/
def ThreadPool.look (pool : ThreadPool Task) (i : Nat) : ThreadPool Task :=
  match pool.tasks with
  | [] => if pool.stop then pool.setWorker i .returned else pool.setWorker i .waiting
  | task :: rest =>
      { pool.setWorker i (.running task) with
        tasks := rest
        started := pool.started ++ [task] }

/-- The critical section of `enqueue`; on a stopped pool it throws. -/
def ThreadPool.enqueue (pool : ThreadPool Task) (task : Task) : ThreadPool Task :=
  if pool.stop then pool
  else
    { pool with
      tasks := pool.tasks ++ [task]
      unnotified := pool.unnotified + 1
      enqueued := pool.enqueued ++ [task] }

def step : Step (ThreadPool Task) (Event Task)
  | pool, .enqueue task =>
      if pool.destructor = .returned then none else some (pool.enqueue task)
  | pool, .notifyOne none =>
      if pool.unnotified = 0 ∨ pool.workers.any Worker.isWaiting then none
      else some { pool with unnotified := pool.unnotified - 1 }
  | pool, .notifyOne (some i) =>
      if pool.unnotified = 0 then none
      else
        match pool.workers[i]? with
        | some .waiting =>
            some { pool.setWorker i .entering with unnotified := pool.unnotified - 1 }
        | _ => none
  | pool, .wakeUp i =>
      match pool.workers[i]? with
      | some .waiting => some (pool.setWorker i .entering)
      | _ => none
  | pool, .lock i =>
      match pool.workers[i]? with
      | some .entering => some (pool.look i)
      | _ => none
  | pool, .taskReturns i =>
      match pool.workers[i]? with
      | some (.running task) =>
          some { pool.setWorker i .entering with finished := pool.finished ++ [task] }
      | _ => none
  | pool, .destroy =>
      if pool.destructor = .idle then some { pool with stop := true, destructor := .notifying }
      else none
  | pool, .notifyAll =>
      if pool.destructor = .notifying then
        some { pool with workers := pool.workers.map Worker.wake, destructor := .joining 0 }
      else none
  | pool, .join =>
      match pool.destructor with
      | .joining next =>
          match pool.workers[next]? with
          | some .returned => some { pool with destructor := .joining (next + 1) }
          | some _ => none
          | none => some { pool with destructor := .returned }
      | _ => none

/-! ### What a step can do -/

theorem worker_place {workers : List (Worker Task)} {i : Nat} {old : Worker Task}
    (here : workers[i]? = some old) :
    ∃ before after, workers = before ++ old :: after ∧
      ∀ worker, workers.set i worker = before ++ worker :: after := by
  obtain ⟨inside, same⟩ := List.getElem?_eq_some_iff.mp here
  refine ⟨workers.take i, workers.drop (i + 1), ?_, fun worker => ?_⟩
  · rw [← same, List.getElem_cons_drop, List.take_append_drop]
  · rw [List.set_eq_take_append_cons_drop, if_pos inside]

inductive Moves (pool : ThreadPool Task) : Event Task → ThreadPool Task → Prop
  | refused (task : Task) (stopped : pool.stop = true) : Moves pool (.enqueue task) pool
  | enqueued (task : Task) (running : pool.stop = false) :
      Moves pool (.enqueue task)
        { pool with
          tasks := pool.tasks ++ [task]
          unnotified := pool.unnotified + 1
          enqueued := pool.enqueued ++ [task] }
  | noticed (i owed : Nat) (before after : List (Worker Task)) (owes : pool.unnotified = owed + 1)
      (place : pool.workers = before ++ .waiting :: after) :
      Moves pool (.notifyOne (some i))
        { pool with workers := before ++ .entering :: after, unnotified := owed }
  | unnoticed (owed : Nat) (owes : pool.unnotified = owed + 1)
      (none : ∀ worker ∈ pool.workers, worker.isWaiting = false) :
      Moves pool (.notifyOne .none) { pool with unnotified := owed }
  | woke (i : Nat) (before after : List (Worker Task))
      (place : pool.workers = before ++ .waiting :: after) :
      Moves pool (.wakeUp i) { pool with workers := before ++ .entering :: after }
  | took (i : Nat) (before after : List (Worker Task)) (task : Task) (rest : List Task)
      (place : pool.workers = before ++ .entering :: after) (front : pool.tasks = task :: rest) :
      Moves pool (.lock i)
        { pool with
          workers := before ++ .running task :: after
          tasks := rest
          started := pool.started ++ [task] }
  | blocked (i : Nat) (before after : List (Worker Task))
      (place : pool.workers = before ++ .entering :: after) (empty : pool.tasks = [])
      (running : pool.stop = false) :
      Moves pool (.lock i) { pool with workers := before ++ .waiting :: after }
  | left (i : Nat) (before after : List (Worker Task))
      (place : pool.workers = before ++ .entering :: after) (empty : pool.tasks = [])
      (stopped : pool.stop = true) :
      Moves pool (.lock i) { pool with workers := before ++ .returned :: after }
  | ran (i : Nat) (before after : List (Worker Task)) (task : Task)
      (place : pool.workers = before ++ .running task :: after) :
      Moves pool (.taskReturns i)
        { pool with
          workers := before ++ .entering :: after
          finished := pool.finished ++ [task] }
  | destroyed (idle : pool.destructor = .idle) :
      Moves pool .destroy { pool with stop := true, destructor := .notifying }
  | notified (notifying : pool.destructor = .notifying) :
      Moves pool .notifyAll
        { pool with workers := pool.workers.map Worker.wake, destructor := .joining 0 }
  | joined (next : Nat) (joining : pool.destructor = .joining next)
      (place : pool.workers[next]? = some .returned) :
      Moves pool .join { pool with destructor := .joining (next + 1) }
  | ended (next : Nat) (joining : pool.destructor = .joining next)
      (all : pool.workers.length ≤ next) : Moves pool .join { pool with destructor := .returned }

theorem step_moves {pool next : ThreadPool Task} {event : Event Task}
    (taken : step pool event = some next) : Moves pool event next := by
  cases event with
  | enqueue task =>
      rw [step] at taken
      split at taken
      · cases taken
      · cases taken
        rw [ThreadPool.enqueue]
        by_cases stopped : pool.stop = true
        · rw [if_pos stopped]
          exact .refused task stopped
        · rw [if_neg stopped]
          exact .enqueued task (Bool.eq_false_iff.mpr stopped)
  | notifyOne woken =>
      cases woken with
      | none =>
          rw [step] at taken
          split at taken
          · cases taken
          · rename_i owing
            obtain ⟨owes, none⟩ := not_or.mp owing
            cases taken
            refine .unnoticed _ (Nat.succ_pred_eq_of_ne_zero owes).symm fun worker member => ?_
            rw [Bool.eq_false_iff]
            exact fun waits => none (List.any_eq_true.mpr ⟨worker, member, waits⟩)
      | some i =>
          rw [step] at taken
          split at taken
          · cases taken
          · rename_i owes
            split at taken
            · rename_i here
              cases taken
              obtain ⟨before, after, place, replaced⟩ := worker_place here
              rw [ThreadPool.setWorker, replaced]
              exact .noticed i _ before after (Nat.succ_pred_eq_of_ne_zero owes).symm place
            · cases taken
  | wakeUp i =>
      rw [step] at taken
      split at taken
      · rename_i here
        cases taken
        obtain ⟨before, after, place, replaced⟩ := worker_place here
        rw [ThreadPool.setWorker, replaced]
        exact .woke i before after place
      · cases taken
  | lock i =>
      rw [step] at taken
      split at taken
      · rename_i here
        cases taken
        obtain ⟨before, after, place, replaced⟩ := worker_place here
        rw [ThreadPool.look]
        split
        · rename_i empty
          by_cases stopped : pool.stop = true
          · rw [if_pos stopped, ThreadPool.setWorker, replaced]
            exact .left i before after place empty stopped
          · rw [if_neg stopped, ThreadPool.setWorker, replaced]
            exact .blocked i before after place empty (Bool.eq_false_iff.mpr stopped)
        · rename_i task rest front
          rw [ThreadPool.setWorker, replaced]
          exact .took i before after task rest place front
      · cases taken
  | taskReturns i =>
      rw [step] at taken
      split at taken
      · rename_i task here
        cases taken
        obtain ⟨before, after, place, replaced⟩ := worker_place here
        rw [ThreadPool.setWorker, replaced]
        exact .ran i before after task place
      · cases taken
  | destroy =>
      rw [step] at taken
      split at taken
      · rename_i idle
        cases taken
        exact .destroyed idle
      · cases taken
  | notifyAll =>
      rw [step] at taken
      split at taken
      · rename_i notifying
        cases taken
        exact .notified notifying
      · cases taken
  | join =>
      rw [step] at taken
      split at taken
      · rename_i next joining
        split at taken
        · rename_i here
          cases taken
          exact .joined next joining here
        · cases taken
        · rename_i here
          cases taken
          exact .ended next joining (List.getElem?_eq_none_iff.mp here)
      · cases taken

/-! ### What holds in every state -/

def tasksOf (workers : List (Worker Task)) : List Task := workers.filterMap Worker.task?

def enteringOf (workers : List (Worker Task)) : Nat := workers.countP Worker.isEntering

theorem tasks_of_place (before after : List (Worker Task)) (worker : Worker Task) :
    tasksOf (before ++ worker :: after) =
      tasksOf before ++ (worker.task?.toList ++ tasksOf after) := by
  rw [tasksOf, List.filterMap_append, List.filterMap_cons]
  cases worker <;> rfl

theorem entering_of_place (before after : List (Worker Task)) (worker : Worker Task) :
    enteringOf (before ++ worker :: after) =
      enteringOf before + worker.isEntering.toNat + enteringOf after := by
  rw [enteringOf, List.countP_append, List.countP_cons, Nat.add_right_comm, ← Nat.add_assoc]
  cases worker <;> rfl

/-- The workers that the destructor has joined have returned. -/
structure Joined (destructor : Destructor) (workers : List (Worker Task)) : Prop where
  behind : ∀ next, destructor = .joining next → ∀ i < next, ∀ worker,
    workers[i]? = some worker → worker = .returned
  all : destructor = .returned → ∀ worker ∈ workers, worker = .returned

/-- Where a worker waits, each task in the queue has a worker on its way to it, or a notice. -/
structure Sound (pool : ThreadPool Task) : Prop where
  order : pool.started ++ pool.tasks = pool.enqueued
  once : (pool.finished ++ tasksOf pool.workers).Perm pool.started
  stopped : pool.stop = true ↔ pool.destructor ≠ .idle
  spent : Worker.returned ∈ pool.workers → pool.stop = true ∧ pool.tasks = []
  alert : Worker.waiting ∈ pool.workers →
    pool.tasks.length ≤ enteringOf pool.workers + pool.unnotified
  told : Worker.waiting ∈ pool.workers → pool.stop = true → pool.destructor = .notifying
  joined : Joined pool.destructor pool.workers

theorem new_sound (threads : Nat) : Sound (.new threads : ThreadPool Task) := by
  constructor
  · rfl
  · simp [ThreadPool.new, tasksOf, List.filterMap_replicate, Worker.task?]
  · simp [ThreadPool.new]
  · simp [ThreadPool.new]
  · simp [ThreadPool.new]
  · simp [ThreadPool.new]
  · exact ⟨fun _ joining => Destructor.noConfusion joining, fun done => Destructor.noConfusion done⟩

theorem wake_waits_not (worker : Worker Task) : worker.wake ≠ .waiting := by
  cases worker <;> simp [Worker.wake]

theorem wake_task (worker : Worker Task) : worker.wake.task? = worker.task? := by
  cases worker <;> rfl

theorem wake_returned (worker : Worker Task) : worker.wake = .returned ↔ worker = .returned := by
  cases worker <;> simp [Worker.wake]

theorem mem_replaced {before after : List (Worker Task)} {old new worker : Worker Task}
    (member : worker ∈ before ++ new :: after) (other : worker ≠ new) :
    worker ∈ before ++ old :: after := by
  rcases List.mem_append.mp member with front | back
  · exact List.mem_append_left _ front
  · rcases List.mem_cons.mp back with same | behind
    · exact absurd same other
    · exact List.mem_append_right _ (List.mem_cons_of_mem _ behind)

theorem joined_replaced {destructor : Destructor} {before after : List (Worker Task)}
    (old : Worker Task) {new : Worker Task} (busy : old ≠ .returned)
    (joined : Joined destructor (before ++ old :: after)) :
    Joined destructor (before ++ new :: after) := by
  constructor
  · intro next joining i inside worker here
    have early : i < before.length := by
      by_contra late
      refine busy (joined.behind next joining before.length (by omega) old ?_)
      rw [List.getElem?_append_right (Nat.le_refl _), Nat.sub_self, List.getElem?_cons_zero]
    apply joined.behind next joining i inside
    rw [List.getElem?_append_left early] at here ⊢
    exact here
  · intro done
    exact absurd (joined.all done old (List.mem_append_right _ (List.mem_cons_self ..))) busy

theorem perm_started {finished before after started : List Task} {task : Task}
    (once : (finished ++ (before ++ after)).Perm started) :
    (finished ++ (before ++ task :: after)).Perm (started ++ [task]) := by
  calc finished ++ (before ++ task :: after)
      = finished ++ before ++ task :: after := (List.append_assoc ..).symm
    _ ~ task :: (finished ++ before ++ after) := List.perm_middle
    _ ~ task :: started := (List.append_assoc .. ▸ once).cons task
    _ ~ started ++ [task] := (List.perm_append_singleton task started).symm

theorem perm_finished {finished before after started : List Task} {task : Task}
    (once : (finished ++ (before ++ task :: after)).Perm started) :
    (finished ++ [task] ++ (before ++ after)).Perm started := by
  rw [List.append_assoc, List.singleton_append]
  exact (List.perm_middle.symm.append_left finished).trans once

theorem step_sound {pool next : ThreadPool Task} {event : Event Task} (sound : Sound pool)
    (moves : Moves pool event next) : Sound next := by
  obtain ⟨workers, tasks, stop, unnotified, destructor, queued, started, finished⟩ := pool
  obtain ⟨order, once, stopped, spent, alert, told, joined⟩ := sound
  dsimp only at order once stopped spent alert told joined
  cases moves with
  | refused task stop => exact ⟨order, once, stopped, spent, alert, told, joined⟩
  | enqueued task running =>
      refine ⟨?_, once, stopped, ?_, ?_, told, joined⟩
      · simp only
        rw [← order, List.append_assoc]
      · intro returned
        exact absurd (spent returned).1 (by simpa using running)
      · intro waiting
        have before := alert waiting
        simp only [List.length_append, List.length_singleton]
        omega
  | noticed i owed before after owes place =>
      dsimp only at owes place
      subst owes place
      refine ⟨order, ?_, stopped, ?_, ?_, ?_, joined_replaced .waiting (by simp) joined⟩
      · simpa [tasks_of_place, Worker.task?] using once
      · exact fun returned => spent (mem_replaced returned (by simp))
      · intro waiting
        have noticed := alert (by simp)
        simp only [entering_of_place, Worker.isEntering, Bool.toNat_true,
          Bool.toNat_false] at noticed ⊢
        omega
      · exact fun waiting => told (by simp)
  | unnoticed owed owes none =>
      refine ⟨order, once, stopped, spent, ?_, told, joined⟩
      intro waiting
      cases none _ waiting
  | woke i before after place =>
      dsimp only at place
      subst place
      refine ⟨order, ?_, stopped, ?_, ?_, ?_, joined_replaced .waiting (by simp) joined⟩
      · simpa [tasks_of_place, Worker.task?] using once
      · exact fun returned => spent (mem_replaced returned (by simp))
      · intro waiting
        have noticed := alert (by simp)
        simp only [entering_of_place, Worker.isEntering, Bool.toNat_true,
          Bool.toNat_false] at noticed ⊢
        omega
      · exact fun waiting => told (by simp)
  | took i before after task rest place front =>
      dsimp only at place front
      subst place front
      refine ⟨?_, ?_, stopped, ?_, ?_, ?_, joined_replaced .entering (by simp) joined⟩
      · simpa using order
      · rw [tasks_of_place] at once ⊢
        exact perm_started once
      · exact fun returned => absurd (spent (mem_replaced returned (by simp))).2 (by simp)
      · intro waiting
        have noticed := alert (mem_replaced waiting (by simp))
        simp only [entering_of_place, Worker.isEntering, Bool.toNat_true, Bool.toNat_false,
          List.length_cons] at noticed ⊢
        omega
      · exact fun waiting => told (mem_replaced waiting (by simp))
  | blocked i before after place empty running =>
      dsimp only at place empty running
      subst place empty running
      refine ⟨order, ?_, stopped, ?_, ?_, ?_, joined_replaced .entering (by simp) joined⟩
      · simpa [tasks_of_place, Worker.task?] using once
      · exact fun returned => spent (mem_replaced returned (by simp))
      · simp
      · simp
  | left i before after place empty stopping =>
      dsimp only at place empty stopping
      subst place empty stopping
      refine ⟨order, ?_, stopped, ?_, ?_, ?_, joined_replaced .entering (by simp) joined⟩
      · simpa [tasks_of_place, Worker.task?] using once
      · simp
      · simp
      · exact fun waiting => told (mem_replaced waiting (by simp))
  | ran i before after task place =>
      dsimp only at place
      subst place
      refine ⟨order, ?_, stopped, ?_, ?_, ?_, joined_replaced (.running task) (by simp) joined⟩
      · rw [tasks_of_place] at once ⊢
        exact perm_finished once
      · exact fun returned => spent (mem_replaced returned (by simp))
      · intro waiting
        have noticed := alert (mem_replaced waiting (by simp))
        simp only [entering_of_place, Worker.isEntering, Bool.toNat_true,
          Bool.toNat_false] at noticed ⊢
        omega
      · exact fun waiting => told (mem_replaced waiting (by simp))
  | destroyed idle =>
      dsimp only at idle
      subst idle
      refine ⟨order, once, by simp, ?_, alert, fun _ _ => rfl, ?_⟩
      · exact fun returned => ⟨rfl, (spent returned).2⟩
      · exact ⟨fun _ joining => (nomatch joining), fun done => nomatch done⟩
  | notified notifying =>
      dsimp only at notifying
      subst notifying
      have awake : Worker.waiting ∉ workers.map Worker.wake := by
        intro waiting
        obtain ⟨worker, -, same⟩ := List.mem_map.mp waiting
        exact wake_waits_not worker same
      refine ⟨order, ?_, ?_, ?_, fun waiting => absurd waiting awake,
        fun waiting => absurd waiting awake, ?_⟩
      · have same : tasksOf (workers.map Worker.wake) = tasksOf workers := by
          rw [tasksOf, List.filterMap_map]
          exact List.filterMap_congr fun worker _ => wake_task worker
        rw [same]
        exact once
      · simpa using stopped
      · intro returned
        obtain ⟨worker, member, same⟩ := List.mem_map.mp returned
        rw [wake_returned] at same
        exact spent (same ▸ member)
      · refine ⟨fun next joining i inside => ?_, fun done => nomatch done⟩
        cases joining
        cases inside
  | joined next joining place =>
      dsimp only at joining place
      subst joining
      refine ⟨order, once, by simpa using stopped, spent, alert, ?_, ?_⟩
      · intro waiting stop
        exact nomatch told waiting stop
      · refine ⟨fun other same i inside worker here => ?_, fun done => nomatch done⟩
        cases same
        rcases Nat.lt_succ_iff_lt_or_eq.mp inside with earlier | rfl
        · exact joined.behind next rfl i earlier worker here
        · rw [place] at here
          exact (Option.some.inj here).symm
  | ended next joining all =>
      dsimp only at joining all
      subst joining
      refine ⟨order, once, by simpa using stopped, spent, alert, ?_, ?_⟩
      · intro waiting stop
        exact nomatch told waiting stop
      · refine ⟨fun other same => (nomatch same), fun _ worker member => ?_⟩
        obtain ⟨i, inside, same⟩ := List.getElem_of_mem member
        have here : workers[i]? = some worker := same ▸ List.getElem?_eq_getElem inside
        exact joined.behind next rfl i (Nat.lt_of_lt_of_le inside all) worker here

theorem length_kept {pool next : ThreadPool Task} {event : Event Task}
    (moves : Moves pool event next) : next.workers.length = pool.workers.length := by
  cases moves with
  | refused | enqueued | unnoticed | destroyed | joined | ended => rfl
  | notified => exact List.length_map _
  | noticed i owed before after owes place => simp [place]
  | woke i before after place => simp [place]
  | took i before after task rest place front => simp [place]
  | blocked i before after place => simp [place]
  | left i before after place => simp [place]
  | ran i before after task place => simp [place]

/-! ### Runs of the pool -/

/-- The tasks that the pool accepts: after its destructor has begun it accepts none. -/
def accepted : List (Event Task) → List Task
  | [] => []
  | .destroy :: _ => []
  | .enqueue task :: rest => task :: accepted rest
  | _ :: rest => accepted rest

theorem moves_enqueued {pool next : ThreadPool Task} {event : Event Task} (sound : Sound pool)
    (moves : Moves pool event next) (rest : List (Event Task)) :
    next.enqueued ++ (if next.stop then [] else accepted rest) =
      pool.enqueued ++ (if pool.stop then [] else accepted (event :: rest)) := by
  cases moves with
  | refused task stopped => rw [if_pos stopped, if_pos stopped]
  | enqueued task running => simp [running, accepted]
  | destroyed idle =>
      have running : pool.stop = false := by
        rw [Bool.eq_false_iff]
        exact fun stopped => sound.stopped.mp stopped idle
      simp [running, accepted]
  | noticed | unnoticed | woke | took | blocked | left | ran | notified | joined | ended => rfl

theorem run_enqueued {pool finish : ThreadPool Task} {events : List (Event Task)}
    (sound : Sound pool) (reached : run step pool events = some finish) :
    finish.enqueued = pool.enqueued ++ (if pool.stop then [] else accepted events) := by
  induction events generalizing pool with
  | nil =>
      cases reached
      split <;> exact (List.append_nil _).symm
  | cons event rest ih =>
      obtain ⟨next, head, tail⟩ := run_cons_some reached
      have moves := step_moves head
      rw [ih (step_sound sound moves) tail, moves_enqueued sound moves]

theorem run_sound {threads : Nat} {pool : ThreadPool Task} {events : List (Event Task)}
    (reached : run step (.new threads) events = some pool) :
    Sound pool ∧ pool.workers.length = threads := by
  have keeps : ∀ (pool : ThreadPool Task) event next, (Sound pool ∧ pool.workers.length = threads) →
      step pool event = some next → Sound next ∧ next.workers.length = threads := by
    intro pool event next holds taken
    have moves := step_moves taken
    exact ⟨step_sound holds.1 moves, (length_kept moves).trans holds.2⟩
  have kept := reached_of_keeps keeps ⟨new_sound threads, List.length_replicate⟩ reached
  exact kept

/-- Two workers and two tasks: a wake-up without a notice, a notice that no one waits for, and a
destructor that is called while a task runs. -/
def shutDown : List (Event Nat) :=
  [.lock 0, .lock 1, .enqueue 7, .enqueue 8, .notifyOne (some 1), .wakeUp 0, .lock 1, .lock 0,
    .taskReturns 0, .notifyOne none, .destroy, .enqueue 9, .lock 0, .notifyAll, .join,
    .taskReturns 1, .lock 1, .join, .join]

/-- Whatever the workers and the callers do, and in whatever order, tasks are started in the order
in which `enqueue` put them in the queue, each of them once, and each that was started has
returned or is running. -/
theorem each_task_started_once {threads : Nat} {pool : ThreadPool Task} {events : List (Event Task)}
    (reached : run step (.new threads) events = some pool) :
    pool.started ++ pool.tasks = accepted events ∧
      (pool.finished ++ tasksOf pool.workers).Perm pool.started := by
  have sound := (run_sound reached).1
  constructor
  · rw [sound.order, run_enqueued (new_sound threads) reached]
    rfl
  · exact sound.once

theorem shut_down_started_once :
    ∃ pool, run step (.new 2) shutDown = some pool ∧
      (pool.started ++ pool.tasks = accepted shutDown ∧
        (pool.finished ++ tasksOf pool.workers).Perm pool.started) :=
  ⟨_, rfl, @each_task_started_once Nat 2 _ shutDown rfl⟩

/-- Behind the destructor every task that was accepted has returned. -/
theorem destructor_runs_tasks {threads : Nat} {pool : ThreadPool Task} {events : List (Event Task)}
    (some : 1 ≤ threads) (reached : run step (.new threads) events = .some pool)
    (destroyed : pool.destructor = .returned) : pool.finished.Perm (accepted events) := by
  obtain ⟨sound, length⟩ := run_sound reached
  have returned : ∀ worker ∈ pool.workers, worker = .returned := sound.joined.all destroyed
  obtain ⟨worker, member⟩ := List.exists_mem_of_length_pos (length ▸ some)
  have empty := (sound.spent (returned worker member ▸ member)).2
  have idle : tasksOf pool.workers = [] := by
    rw [tasksOf, List.filterMap_eq_nil_iff]
    intro worker member
    rw [returned worker member]
    rfl
  have order := sound.order
  have once := sound.once
  rw [empty, List.append_nil, run_enqueued (new_sound threads) reached] at order
  rw [idle, List.append_nil, order] at once
  exact once

theorem shut_down_runs_tasks :
    ∃ pool, run step (.new 2) shutDown = some pool ∧ pool.finished.Perm (accepted shutDown) :=
  ⟨_, rfl, @destructor_runs_tasks Nat 2 _ shutDown (by decide) rfl rfl⟩

/-! ### The pool comes to rest -/

def Event.own : Event Task → Bool
  | .enqueue _ | .destroy | .wakeUp _ => false
  | _ => true

/-- The steps that an event can bring about: its own, if it is one, and those of the pool that it
can cause. -/
def Event.causes (threads : Nat) : Event Task → Nat
  | .enqueue _ => 4
  | .destroy => 2 * threads + 2
  | .wakeUp _ => 1
  | _ => 0

def Worker.work : Worker Task → Nat
  | .entering => 1
  | .running _ => 2
  | _ => 0

def Destructor.work (threads : Nat) : Destructor → Nat
  | .notifying => 2 * threads + 2
  | .joining next => threads - next + 1
  | _ => 0

def ThreadPool.work (pool : ThreadPool Task) : Nat :=
  2 * pool.tasks.length + 2 * pool.unnotified + total Worker.work pool.workers +
    pool.destructor.work pool.workers.length

theorem work_of_place (before after : List (Worker Task)) (worker : Worker Task) :
    total Worker.work (before ++ worker :: after) =
      total Worker.work before + worker.work + total Worker.work after := by
  rw [total_append, total, Nat.add_assoc]

theorem work_of_wake (workers : List (Worker Task)) :
    total Worker.work (workers.map Worker.wake) ≤ total Worker.work workers + workers.length := by
  induction workers with
  | nil => exact Nat.le_refl _
  | cons worker rest ih =>
      have one : worker.wake.work ≤ worker.work + 1 := by
        cases worker <;> simp [Worker.wake, Worker.work]
      rw [List.map_cons, total, total, List.length_cons]
      omega

theorem step_works {pool next : ThreadPool Task} {event : Event Task}
    (moves : Moves pool event next) :
    next.work + event.own.toNat ≤ pool.work + event.causes pool.workers.length := by
  obtain ⟨workers, tasks, stop, unnotified, destructor, queued, started, finished⟩ := pool
  cases moves with
  | refused task stopped => simp [Event.own]
  | enqueued task running =>
      simp only [ThreadPool.work, Event.own, Event.causes, List.length_append,
        List.length_singleton, Bool.toNat_false]
      omega
  | noticed i owed before after owes place =>
      dsimp only at owes place
      subst owes place
      simp only [ThreadPool.work, work_of_place, Worker.work, Event.own, Event.causes,
        List.length_append, List.length_cons, Bool.toNat_true]
      omega
  | unnoticed owed owes none =>
      dsimp only at owes
      subst owes
      simp only [ThreadPool.work, Event.own, Event.causes, Bool.toNat_true]
      omega
  | woke i before after place =>
      dsimp only at place
      subst place
      simp only [ThreadPool.work, work_of_place, Worker.work, Event.own, Event.causes,
        List.length_append, List.length_cons, Bool.toNat_false]
      omega
  | took i before after task rest place front =>
      dsimp only at place front
      subst place front
      simp only [ThreadPool.work, work_of_place, Worker.work, Event.own, Event.causes,
        List.length_append, List.length_cons, Bool.toNat_true]
      omega
  | blocked i before after place empty running =>
      dsimp only at place
      subst place
      simp only [ThreadPool.work, work_of_place, Worker.work, Event.own, Event.causes,
        List.length_append, List.length_cons, Bool.toNat_true]
      omega
  | left i before after place empty stopped =>
      dsimp only at place
      subst place
      simp only [ThreadPool.work, work_of_place, Worker.work, Event.own, Event.causes,
        List.length_append, List.length_cons, Bool.toNat_true]
      omega
  | ran i before after task place =>
      dsimp only at place
      subst place
      simp only [ThreadPool.work, work_of_place, Worker.work, Event.own, Event.causes,
        List.length_append, List.length_cons, Bool.toNat_true]
      omega
  | destroyed idle =>
      dsimp only at idle
      subst idle
      simp [ThreadPool.work, Destructor.work, Event.own, Event.causes]
  | notified notifying =>
      dsimp only at notifying
      subst notifying
      have awake := work_of_wake workers
      simp only [ThreadPool.work, Destructor.work, Event.own, Event.causes, List.length_map,
        Bool.toNat_true]
      omega
  | joined next joining place =>
      dsimp only at joining place
      subst joining
      have inside := (List.getElem?_eq_some_iff.mp place).1
      simp only [ThreadPool.work, Destructor.work, Event.own, Event.causes, Bool.toNat_true]
      omega
  | ended next joining all =>
      dsimp only at joining all
      subst joining
      simp only [ThreadPool.work, Destructor.work, Event.own, Event.causes, Bool.toNat_true]
      omega

theorem new_work (threads : Nat) : (ThreadPool.new threads : ThreadPool Task).work = threads := by
  have each : total Worker.work (List.replicate threads (.entering : Worker Task)) = threads := by
    induction threads with
    | zero => rfl
    | succ threads ih => rw [List.replicate_succ, total, ih, Worker.work, Nat.add_comm]
  rw [ThreadPool.work, ThreadPool.new, each]
  exact Nat.zero_add threads

/-- Where no worker can go on and no notice is due, nobody waits for a task that is there. -/
theorem quiet_empty {pool : ThreadPool Task} (sound : Sound pool) (some : pool.workers ≠ [])
    (quiet : ∀ event : Event Task, event.own = true → step pool event = none) :
    pool.tasks = [] ∧ tasksOf pool.workers = [] ∧
      (pool.stop = true → pool.destructor = .returned) := by
  have place (worker : Worker Task) (member : worker ∈ pool.workers) :
      ∃ i, pool.workers[i]? = .some worker := List.mem_iff_getElem?.mp member
  have entered : ∀ worker ∈ pool.workers, worker.isEntering = false := by
    intro worker member
    cases worker with
    | entering =>
        obtain ⟨i, here⟩ := place _ member
        have blocked := quiet (.lock i) rfl
        simp [step, here] at blocked
    | waiting | running | returned => rfl
  have idle : ∀ worker ∈ pool.workers, worker.task? = none := by
    intro worker member
    cases worker with
    | running task =>
        obtain ⟨i, here⟩ := place _ member
        have blocked := quiet (.taskReturns i) rfl
        simp [step, here] at blocked
    | entering | waiting | returned => rfl
  have waits : Worker.waiting ∈ pool.workers ∨ ∀ worker ∈ pool.workers, worker = .returned := by
    by_contra neither
    rw [not_or] at neither
    refine neither.2 fun worker member => ?_
    cases worker with
    | entering => cases entered _ member
    | waiting => exact absurd member neither.1
    | running task => cases idle _ member
    | returned => rfl
  have noticed : pool.unnotified = 0 := by
    by_contra owes
    by_cases waiting : Worker.waiting ∈ pool.workers
    · obtain ⟨i, here⟩ := place _ waiting
      have blocked := quiet (.notifyOne (.some i)) rfl
      simp [step, here, owes] at blocked
    · have unheard : pool.workers.any Worker.isWaiting = false := by
        rw [List.any_eq_false]
        intro worker member waits
        cases worker with
        | waiting => exact waiting member
        | entering | running | returned => cases waits
      have blocked := quiet (.notifyOne .none) rfl
      simp [step, owes, unheard] at blocked
  have still : enteringOf pool.workers = 0 := by
    rw [enteringOf, List.countP_eq_zero]
    exact fun worker member => Bool.eq_false_iff.mp (entered worker member)
  refine ⟨?_, List.filterMap_eq_nil_iff.mpr idle, fun stopped => ?_⟩
  · rcases waits with waiting | returned
    · have few := sound.alert waiting
      rw [still, noticed] at few
      exact List.length_eq_zero_iff.mp (Nat.le_zero.mp few)
    · obtain ⟨worker, member⟩ := List.exists_mem_of_ne_nil _ some
      exact (sound.spent (returned worker member ▸ member)).2
  · cases stage : pool.destructor with
    | idle => exact absurd stage (sound.stopped.mp stopped)
    | notifying =>
        have blocked := quiet .notifyAll rfl
        simp [step, stage] at blocked
    | joining next =>
        have blocked := quiet .join rfl
        rcases waits with waiting | returned
        · have told := sound.told waiting stopped
          rw [stage] at told
          cases told
        · cases here : pool.workers[next]? with
          | none => simp [step, stage, here] at blocked
          | some worker =>
              obtain rfl := returned worker (List.mem_of_getElem? here)
              simp [step, stage, here] at blocked
    | returned => rfl

/-- The pool comes to rest: in any run it takes no more steps of its own than what was asked of it
can cause, wake-ups without a notice included. Where it rests, every accepted task has returned,
so no notice was lost, and a destructor that was called has returned. -/
theorem pool_comes_to_rest {threads : Nat} {pool : ThreadPool Task} {events : List (Event Task)}
    (some : 1 ≤ threads) (reached : run step (.new threads) events = .some pool) :
    events.countP Event.own ≤ threads + total (Event.causes threads) events ∧
      ((∀ event : Event Task, event.own = true → step pool event = none) →
        pool.finished.Perm (accepted events) ∧
          (pool.stop = true → pool.destructor = .returned)) := by
  obtain ⟨sound, length⟩ := run_sound reached
  constructor
  · have keeps : ∀ (pool : ThreadPool Task) event next, pool.workers.length = threads →
        step pool event = .some next → next.workers.length = threads :=
      fun pool event next length taken => (length_kept (step_moves taken)).trans length
    have pays : ∀ (pool : ThreadPool Task) event next, pool.workers.length = threads →
        step pool event = .some next →
        next.work + event.own.toNat ≤ pool.work + event.causes threads :=
      fun pool event next length taken => length ▸ step_works (step_moves taken)
    have spent := run_spends keeps pays List.length_replicate reached
    rw [new_work] at spent
    rw [total_count] at spent
    omega
  · intro quiet
    obtain ⟨empty, idle, done⟩ :=
      quiet_empty sound (List.ne_nil_of_length_pos (length ▸ some)) quiet
    have order := sound.order
    have once := sound.once
    rw [empty, List.append_nil, run_enqueued (new_sound threads) reached] at order
    rw [idle, List.append_nil, order] at once
    exact ⟨once, done⟩

theorem shut_down_comes_to_rest :
    ∃ pool, run step (.new 2) shutDown = some pool ∧
      (shutDown.countP Event.own ≤ 2 + total (Event.causes 2) shutDown ∧
        ((∀ event : Event Nat, event.own = true → step pool event = none) →
          pool.finished.Perm (accepted shutDown) ∧
            (pool.stop = true → pool.destructor = .returned))) :=
  ⟨_, rfl, @pool_comes_to_rest Nat 2 _ shutDown (by decide) rfl⟩

/-! ### A pool of one worker -/

def Alone (pool : ThreadPool Task) : Prop :=
  ∃ worker, pool.workers = [worker] ∧ pool.finished ++ worker.task?.toList = pool.started

theorem alone_place {before after : List (Worker Task)} {old worker : Worker Task}
    (place : [worker] = before ++ old :: after) : before = [] ∧ after = [] ∧ old = worker := by
  cases before with
  | nil =>
      rw [List.nil_append, List.cons.injEq] at place
      exact ⟨rfl, place.2.symm, place.1.symm⟩
  | cons first rest => simp at place

theorem step_alone {pool next : ThreadPool Task} {event : Event Task} (alone : Alone pool)
    (moves : Moves pool event next) : Alone next := by
  obtain ⟨worker, one, order⟩ := alone
  cases moves with
  | refused | enqueued | unnoticed | destroyed | joined | ended => exact ⟨worker, one, order⟩
  | notified notifying =>
      refine ⟨worker.wake, by simp [one], ?_⟩
      rw [wake_task]
      exact order
  | noticed i owed before after owes place =>
      obtain ⟨rfl, rfl, rfl⟩ := alone_place (one ▸ place)
      exact ⟨_, rfl, order⟩
  | woke i before after place =>
      obtain ⟨rfl, rfl, rfl⟩ := alone_place (one ▸ place)
      exact ⟨_, rfl, order⟩
  | took i before after task rest place front =>
      obtain ⟨rfl, rfl, rfl⟩ := alone_place (one ▸ place)
      refine ⟨_, rfl, ?_⟩
      dsimp only
      rw [← order]
      simp [Worker.task?]
  | blocked i before after place empty running =>
      obtain ⟨rfl, rfl, rfl⟩ := alone_place (one ▸ place)
      exact ⟨_, rfl, order⟩
  | left i before after place empty stopped =>
      obtain ⟨rfl, rfl, rfl⟩ := alone_place (one ▸ place)
      exact ⟨_, rfl, order⟩
  | ran i before after task place =>
      obtain ⟨rfl, rfl, rfl⟩ := alone_place (one ▸ place)
      refine ⟨_, rfl, ?_⟩
      dsimp only
      rw [← order]
      simp [Worker.task?]

/-- One worker runs the tasks in the order of the queue, each behind the one before. -/
theorem one_worker_in_order {pool : ThreadPool Task} {events : List (Event Task)}
    (reached : run step (.new 1) events = some pool) : pool.finished <+: accepted events := by
  have keeps : ∀ (pool : ThreadPool Task) event next, Alone pool → step pool event = some next →
      Alone next := fun pool event next alone taken => step_alone alone (step_moves taken)
  obtain ⟨worker, -, order⟩ := reached_of_keeps keeps ⟨.entering, rfl, rfl⟩ reached
  have queue := (run_sound reached).1.order
  rw [run_enqueued (new_sound 1) reached, ← order, List.append_assoc] at queue
  exact ⟨_, queue⟩

theorem two_tasks_in_order :
    ∃ pool, run step (.new 1) [.enqueue 7, .lock 0, .enqueue 8, .taskReturns 0] = some pool ∧
      pool.finished <+: accepted [.enqueue 7, .lock 0, .enqueue 8, .taskReturns 0] :=
  ⟨_, rfl, one_worker_in_order rfl⟩

end DevHub.Tools
