import DevHub.Communication.Wiring
import DevHub.Transcation.FlagWalk

/-!
The loop of `OnFrame` refines the flag walk: when every transcation of a session
points to the session's own task, a request that visits them drives the task
through the phases of `FlagWalk` and emits what the walk emits.
-/

namespace DevHub.FrameWalk

open Looper TaskUse Transcations CommServer Wiring FlagWalk

set_option autoImplicit false

variable {Looper : Type} [EventLooper Looper TimerSink]

def verdict (transcation : Transcation) (request : Request) : Verdict :=
  if checkCommandName transcation request.cmd = false then .declines
  else if answersAtOnce transcation request then .answers
  else .holds

def verdictAt (hub : Hub Looper) (request : Request) (transId : Nat) : Verdict :=
  match hub.transcations.find? transId with
  | some transcation => verdict transcation request
  | none => .declines

def emission : Output → Option Emission
  | .sendMessage _ _ (.nothingToDo transId) => some (.noTaker transId)
  | .sendMessage _ _ (.reply transId) => some (.reply transId)
  | .processCmd transId _ => some (.start transId)
  | _ => none

/-- The flag of a transcation in a phase, with `done` already visited. -/
def flagIn (phase : Phase) (done : List Nat) (transId : Nat) : Bool :=
  match phase with
  | .ahead last => decide (transId ∈ done ∨ last < transId)
  | .behind last => decide (transId ∈ done ∧ last < transId)
  | .held _ => false

/-- On which side of the visit the transcation of the phase stands. -/
def Positioned (phase : Phase) (done rest : List Nat) : Prop :=
  match phase with
  | .ahead last => last ∈ rest
  | .behind last => last ∈ done
  | .held holder => holder ∈ done

/-- The task stands in the phase: `done` has been visited and `rest` has not. -/
structure Represents (done rest : List Nat) (phase : Phase) (task : Task) : Prop where
  keys : task.transcationReptStatus.keys = done ++ rest
  idle : task.status = .idle ↔ ∀ holder, phase ≠ .held holder
  flags : ∀ transId ∈ done ++ rest, (∀ holder, phase = .held holder → transId = holder) →
    task.transcationReptStatus.find? transId = some (flagIn phase done transId)
  position : Positioned phase done rest

/-- What every output of a session's own frame looks like. With a JSON frame the
source of a message tells whether it is `ERROR_COMMAND`. -/
def isErrorCommand : Message → Bool
  | .styled (.object members) =>
      members.any fun entry => entry.1 = "resultCode" &&
        match entry.2 with
        | .int code => code = errorCommand
        | _ => false
  | _ => false

def OwnOutput (session : SessionId) (json : Prop) : Output → Prop
  | .sendMessage receiver message source =>
      receiver = session ∧
        match source with
        | .nothingToDo _ => json → isErrorCommand message = true
        | .reply _ => json → isErrorCommand message = false
        | _ => False
  | .processCmd _ session' => session' = session
  | .broadcast _ => False
  | .onTaskTimeout _ => False
  | .pollBalance _ => False
  | _ => True

/-- The task has come to the phase with what the walk emits. With a JSON frame its
format is known after that. -/
structure Walked (session : SessionId) (json : Prop) (done rest : List Nat) (phase : Phase)
    (emitted : List Emission) (task : Task) (out : List Output) : Prop where
  represents : Represents done rest phase task
  emits : out.filterMap emission = emitted
  owned : ∀ output ∈ out, OwnOutput session json output
  styled : json → task.format = some .json

theorem check_all_iff (task : Task) :
    checkTransStatusAll task = true ↔
      ∀ transId ∈ task.transcationReptStatus.keys,
        task.transcationReptStatus.find? transId = some true := by
  simp only [checkTransStatusAll, List.all_eq_true, Prod.forall, ← StdMap.find_eq_some]
  constructor
  · intro all transId member
    obtain ⟨flag, found⟩ := StdMap.mem_keys.mp member
    rw [found, all transId flag found]
  · intro all transId flag found
    have set := all transId (StdMap.mem_keys.mpr ⟨flag, found⟩)
    rw [found] at set
    exact Option.some.inj set

theorem set_trans_status {task : Task} {transId : Nat}
    (key : transId ∈ task.transcationReptStatus.keys) :
    setTransStatus task transId =
      { task with transcationReptStatus := task.transcationReptStatus.insert transId true } := by
  obtain ⟨flag, found⟩ := StdMap.mem_keys.mp key
  simp [setTransStatus, found]

theorem decline_all (session : SessionId) {transId : Nat} {ctx : TaskContext Looper}
    (key : transId ∈ ctx.task.transcationReptStatus.keys)
    (others : ∀ other ∈ ctx.task.transcationReptStatus.keys, other ≠ transId →
      ctx.task.transcationReptStatus.find? other = some true) :
    ∃ message after, update session (.text "NothingToDo") transId ctx =
        (after, [.sendMessage session message (.nothingToDo transId)]) ∧
      message = response (setTransStatus ctx.task transId) errorCommand ctx.task.cmdName
        ctx.task.reqId ∧
      Finished (setTransStatus ctx.task transId) after.task := by
  have all : checkTransStatusAll (setTransStatus ctx.task transId) = true := by
    rw [check_all_iff, set_trans_status key]
    intro other member
    rw [StdMap.keys_insert_of_mem key] at member
    rw [StdMap.find_insert]
    split
    · rfl
    · rename_i different
      exact others other member different
  let marked : TaskContext Looper := { ctx with task := setTransStatus ctx.task transId }
  refine ⟨_, finish marked, ?_, rfl, finish_finished marked⟩
  have named : (setTransStatus ctx.task transId).cmdName = ctx.task.cmdName := by
    rw [set_trans_status key]
  have numbered : (setTransStatus ctx.task transId).reqId = ctx.task.reqId := by
    rw [set_trans_status key]
  simp only [update, all, if_true, named, numbered, marked]

theorem decline_silent {session : SessionId} {transId other : Nat} {ctx : TaskContext Looper}
    (key : transId ∈ ctx.task.transcationReptStatus.keys) (different : other ≠ transId)
    (unset : ctx.task.transcationReptStatus.find? other = some false) :
    update session (.text "NothingToDo") transId ctx =
      ({ ctx with task := setTransStatus ctx.task transId }, []) := by
  have some_unset : ¬ checkTransStatusAll (setTransStatus ctx.task transId) = true := by
    rw [check_all_iff, set_trans_status key]
    intro all
    have set := all other (by
      rw [StdMap.keys_insert_of_mem key]
      exact StdMap.mem_keys.mpr ⟨false, unset⟩)
    rw [StdMap.find_insert, if_neg different, unset] at set
    cases set
  simp only [update, some_unset, if_false, Bool.false_eq_true]

theorem represents_sorted {done rest : List Nat} {phase : Phase} {task : Task}
    (holds : Represents done rest phase task) :
    (done ++ rest).Pairwise fun left right => left < right :=
  holds.keys ▸ StdMap.keys_sorted _

theorem represents_apart {done rest : List Nat} {transId : Nat} {phase : Phase} {task : Task}
    (holds : Represents done (transId :: rest) phase task) :
    (∀ early ∈ done, early < transId) ∧ ∀ late ∈ rest, transId < late := by
  obtain ⟨-, right, across⟩ := List.pairwise_append.mp (represents_sorted holds)
  exact ⟨fun early member => across early member transId List.mem_cons_self,
    (List.pairwise_cons.mp right).1⟩

theorem represents_head_key {done rest : List Nat} {transId : Nat} {phase : Phase} {task : Task}
    (holds : Represents done (transId :: rest) phase task) :
    transId ∈ task.transcationReptStatus.keys := by
  rw [holds.keys]
  exact List.mem_append_right _ List.mem_cons_self

theorem mem_shift {done rest : List Nat} {transId other : Nat} :
    other ∈ (done ++ [transId]) ++ rest ↔ other ∈ done ++ transId :: rest := by
  rw [List.append_assoc, List.singleton_append]

theorem represents_cleared {done rest : List Nat} {transId : Nat} {phase : Phase}
    {before after : Task} (holds : Represents done (transId :: rest) phase before)
    (keys : after.transcationReptStatus.keys = before.transcationReptStatus.keys)
    (idle : after.status = .idle)
    (cleared : ∀ other ∈ after.transcationReptStatus.keys,
      after.transcationReptStatus.find? other = some false) :
    Represents (done ++ [transId]) rest (.behind transId) after := by
  obtain ⟨early, -⟩ := represents_apart holds
  constructor
  · rw [keys, holds.keys, List.append_assoc, List.singleton_append]
  · exact iff_of_true idle (by simp)
  · intro other member _
    have key : other ∈ after.transcationReptStatus.keys := by
      rw [keys, holds.keys]
      exact mem_shift.mp member
    rw [cleared other key, flagIn]
    have unset : ¬ (other ∈ done ++ [transId] ∧ transId < other) := by
      intro given
      rcases given with ⟨visited, later⟩
      rcases List.mem_append.mp visited with old | new
      · have := early other old
        omega
      · have := List.mem_singleton.mp new
        omega
    simp only [unset, decide_false]
  · exact List.mem_append_right _ (List.mem_singleton_self _)

theorem cleared_flags {before after : Task} (finished : Finished before after) :
    after.transcationReptStatus.keys = before.transcationReptStatus.keys ∧
      ∀ other ∈ after.transcationReptStatus.keys,
        after.transcationReptStatus.find? other = some false := by
  rw [finished.reset, StdMap.keys_map_values]
  refine ⟨rfl, ?_⟩
  intro other member
  obtain ⟨flag, found⟩ := StdMap.mem_keys.mp member
  rw [StdMap.find_map_values, found, Option.map_some]

theorem represents_marked {done rest : List Nat} {transId : Nat} {phase : Phase} {task : Task}
    (holds : Represents done (transId :: rest) phase task)
    (goes : ∀ last, phase = .ahead last → last ≠ transId) :
    Represents (done ++ [transId]) rest phase (setTransStatus task transId) := by
  have key := represents_head_key holds
  obtain ⟨early, late⟩ := represents_apart holds
  rw [set_trans_status key]
  constructor
  · rw [StdMap.keys_insert_of_mem key, holds.keys, List.append_assoc, List.singleton_append]
  · exact holds.idle
  · intro other member holder
    simp only [StdMap.find_insert]
    by_cases same : other = transId
    · subst same
      rw [if_pos rfl]
      cases phase with
      | ahead last => simp [flagIn]
      | behind last =>
          have above : last < other := early last holds.position
          simp [flagIn, above]
      | held owner =>
          have visited := early owner holds.position
          have named := holder owner rfl
          omega
    · rw [if_neg same, holds.flags other (mem_shift.mp member) holder]
      cases phase <;> simp [flagIn, same]
  · cases phase with
    | ahead last =>
        rcases List.mem_cons.mp holds.position with first | later
        · exact absurd first (goes last rfl)
        · exact later
    | behind last => exact List.mem_append_left _ holds.position
    | held owner => exact List.mem_append_left _ holds.position

theorem response_error_command (task : Task) (errorNo : Int) (cmd : String) (reqId : Int)
    (json : task.format = some .json) :
    isErrorCommand (response task errorNo cmd reqId) = decide (errorNo = errorCommand) := by
  simp [response, json, buildResponse, isErrorCommand]

theorem set_trans_status_format {task : Task} {transId : Nat}
    (key : transId ∈ task.transcationReptStatus.keys) :
    (setTransStatus task transId).format = task.format := by
  rw [set_trans_status key]

theorem declines_silently (session : SessionId) (json : Prop) {done rest : List Nat}
    {transId other : Nat} {phase : Phase} {stored : TaskContext Looper}
    (holds : Represents done (transId :: rest) phase stored.task)
    (format : json → stored.task.format = some .json) (different : other ≠ transId)
    (unset : stored.task.transcationReptStatus.find? other = some false)
    (goes : ∀ last, phase = .ahead last → last ≠ transId) :
    ∃ after out, update session (.text "NothingToDo") transId stored = (after, out) ∧
      Walked session json (done ++ [transId]) rest phase [] after.task out := by
  have key := represents_head_key holds
  refine ⟨_, _, decline_silent key different unset, ?_⟩
  constructor
  · exact represents_marked holds goes
  · rfl
  · exact fun output member => nomatch member
  · intro styled
    rw [set_trans_status_format key]
    exact format styled

theorem declines_last (session : SessionId) (json : Prop) {done rest : List Nat} {transId : Nat}
    {stored : TaskContext Looper}
    (holds : Represents done (transId :: rest) (.ahead transId) stored.task)
    (format : json → stored.task.format = some .json) :
    ∃ after out, update session (.text "NothingToDo") transId stored = (after, out) ∧
      Walked session json (done ++ [transId]) rest (.behind transId) [.noTaker transId]
        after.task out := by
  have key := represents_head_key holds
  obtain ⟨-, late⟩ := represents_apart holds
  have others : ∀ other ∈ stored.task.transcationReptStatus.keys, other ≠ transId →
      stored.task.transcationReptStatus.find? other = some true := by
    intro other member different
    rw [holds.keys] at member
    rw [holds.flags other member (fun holder same => by cases same)]
    have set : other ∈ done ∨ transId < other := by
      rcases List.mem_append.mp member with old | unvisited
      · exact Or.inl old
      · rcases List.mem_cons.mp unvisited with first | later
        · exact absurd first different
        · exact Or.inr (late other later)
    simp [flagIn, set]
  obtain ⟨message, after, result, content, finished⟩ := decline_all session key others
  obtain ⟨keys, cleared⟩ := cleared_flags finished
  refine ⟨after, _, result, ?_⟩
  constructor
  · apply represents_cleared holds _ finished.idle cleared
    rw [keys, set_trans_status key, StdMap.keys_insert_of_mem key]
  · rfl
  · intro output member
    rw [List.mem_singleton.mp member]
    refine ⟨rfl, ?_⟩
    intro styled
    have formatted := (set_trans_status_format key).trans (format styled)
    rw [content, response_error_command _ _ _ _ formatted]
    rfl
  · intro styled
    rw [finished.format, set_trans_status_format key]
    exact format styled

theorem declines_refines (session : SessionId) (json : Prop) {done rest : List Nat}
    {transId : Nat} {phase next : Phase} {emitted : List Emission} {stored : TaskContext Looper}
    (holds : Represents done (transId :: rest) phase stored.task)
    (format : json → stored.task.format = some .json)
    (walked : walkStep transId .declines phase = some (next, emitted)) :
    ∃ after out, update session (.text "NothingToDo") transId stored = (after, out) ∧
      Walked session json (done ++ [transId]) rest next emitted after.task out := by
  obtain ⟨early, late⟩ := represents_apart holds
  cases phase with
  | ahead last =>
      have position : last ∈ transId :: rest := holds.position
      by_cases reached : transId = last
      · subst reached
        obtain ⟨rfl, rfl⟩ := Prod.mk.inj (Option.some.inj ((if_pos rfl).symm.trans walked))
        exact declines_last session json holds format
      · obtain ⟨rfl, rfl⟩ := Prod.mk.inj (Option.some.inj ((if_neg reached).symm.trans walked))
        have later : last ∈ rest := by
          rcases List.mem_cons.mp position with first | later
          · exact absurd first.symm reached
          · exact later
        have above := late last later
        apply declines_silently session json holds format (Ne.symm reached)
        · rw [holds.flags last (List.mem_append_right _ position) (fun holder same => by cases same)]
          have unvisited : last ∉ done := by
            intro old
            have below := early last old
            omega
          simp [flagIn, unvisited]
        · intro other same
          cases same
          exact Ne.symm reached
  | behind last =>
      obtain ⟨rfl, rfl⟩ := Prod.mk.inj (Option.some.inj walked)
      have below := early last holds.position
      apply declines_silently session json holds format (Nat.ne_of_lt below)
      · rw [holds.flags last (List.mem_append_left _ holds.position)
          (fun holder same => by cases same)]
        simp [flagIn]
      · intro other same
        cases same
  | held holder =>
      obtain ⟨rfl, rfl⟩ := Prod.mk.inj (Option.some.inj walked)
      have below := early holder holds.position
      apply declines_silently session json holds format (Nat.ne_of_lt below)
      · rw [holds.flags holder (List.mem_append_left _ holds.position) (fun other same => by
          cases same
          rfl)]
        rfl
      · intro other same
        cases same

theorem represents_congr {done rest : List Nat} {phase : Phase} {task other : Task}
    (holds : Represents done rest phase task) (status : other.status = task.status)
    (flags : other.transcationReptStatus = task.transcationReptStatus) :
    Represents done rest phase other := by
  constructor
  · rw [flags]
    exact holds.keys
  · rw [status]
    exact holds.idle
  · rw [flags]
    exact holds.flags
  · exact holds.position

theorem device_output (session : SessionId) (json : Prop) {output : Output}
    (device : ToDevice output) : OwnOutput session json output ∧ emission output = none := by
  cases output with
  | writeData transId equipmentNo data => exact ⟨trivial, rfl⟩
  | recvCommand transId equipmentNo cmd => exact ⟨trivial, rfl⟩
  | sendMessage receiver message source => cases device
  | downStream transId => cases device
  | processCmd transId receiver => cases device
  | onTaskTimeout transId => cases device
  | pollBalance equipment => cases device
  | broadcast receiver => cases device

theorem device_outputs_silent {writes : List Output}
    (device : ∀ output ∈ writes, ToDevice output) : writes.filterMap emission = [] := by
  apply List.filterMap_eq_nil_iff.mpr
  intro output member
  exact (device_output 0 True (device output member)).2

/-- The flag of the transcation about to be visited is not set, unless one holds the request. -/
theorem head_unset {done rest : List Nat} {transId : Nat} {phase : Phase} {task : Task}
    (holds : Represents done (transId :: rest) phase task)
    (free : ∀ holder, phase ≠ .held holder) :
    task.transcationReptStatus.find? transId = some false := by
  obtain ⟨early, late⟩ := represents_apart holds
  have unvisited : transId ∉ done := by
    intro old
    exact absurd (early transId old) (Nat.lt_irrefl _)
  have position := holds.position
  rw [holds.flags transId (List.mem_append_right _ List.mem_cons_self)
    (fun holder same => absurd same (free holder))]
  cases phase with
  | ahead last =>
      have notPast : ¬ last < transId := by
        rcases List.mem_cons.mp position with first | later
        · omega
        · have above := late last later
          omega
      simp [flagIn, unvisited, notPast]
  | behind last => simp [flagIn, unvisited]
  | held holder => exact absurd rfl (free holder)

theorem takes_step {transId : Nat} {atOnce : Bool} {phase next : Phase} {emitted : List Emission}
    (walked : walkStep transId (if atOnce then .answers else .holds) phase = some (next, emitted)) :
    (∀ holder, phase ≠ .held holder) ∧
      (next, emitted) =
        if atOnce then (.behind transId, [.start transId, .reply transId])
        else (.held transId, [.start transId]) := by
  cases atOnce <;> cases phase
  all_goals first
    | exact ⟨by simp, (Option.some.inj walked).symm⟩
    | cases walked

theorem processed_refines {done rest : List Nat} {transId : Nat} {phase next : Phase}
    {emitted : List Emission} {session : SessionId} {before stored after : Task}
    {out : List Output} {atOnce : Bool} (json : Prop)
    (holds : Represents done (transId :: rest) phase before)
    (flags : stored.transcationReptStatus = before.transcationReptStatus)
    (format : json → stored.format = some .json)
    (walked : walkStep transId (if atOnce then .answers else .holds) phase = some (next, emitted))
    (processed : Processed transId session atOnce stored after out) :
    Walked session json (done ++ [transId]) rest next emitted after
      (.processCmd transId session :: out) := by
  obtain ⟨free, result⟩ := takes_step walked
  cases processed with
  | answered writes message decided device content emittedOut finished =>
      rw [decided] at result
      obtain ⟨rfl, rfl⟩ := Prod.mk.inj result
      obtain ⟨keys, cleared⟩ := cleared_flags finished
      subst emittedOut
      constructor
      · exact represents_cleared holds (keys.trans (by rw [flags])) finished.idle cleared
      · simp [List.filterMap_append, device_outputs_silent device, emission]
      · refine List.forall_mem_cons.mpr ⟨rfl, fun output member => ?_⟩
        rcases List.mem_append.mp member with write | sent
        · exact (device_output session json (device output write)).1
        · rw [List.mem_singleton.mp sent]
          refine ⟨rfl, ?_⟩
          intro styled
          obtain ⟨answering, errorNo, cmd, reqId, same, code, rfl⟩ := content
          rw [response_error_command _ _ _ _ (same.trans (format styled))]
          exact decide_eq_false code
      · intro styled
        rw [finished.format]
        exact format styled
  | pending decided device busy kept sameFormat =>
      rw [decided] at result
      obtain ⟨rfl, rfl⟩ := Prod.mk.inj result
      constructor
      · constructor
        · rw [kept, flags, holds.keys, List.append_assoc, List.singleton_append]
        · apply iff_of_false busy
          intro none
          exact none transId rfl
        · intro other _ holder
          rw [holder transId rfl, kept, flags]
          exact head_unset holds free
        · exact List.mem_append_right _ (List.mem_singleton_self _)
      · simp [device_outputs_silent device, emission]
      · exact List.forall_mem_cons.mpr
          ⟨rfl, fun output member => (device_output session json (device output member)).1⟩
      · intro styled
        rw [sameFormat]
        exact format styled

/-- The phase of an idle task without a flag set: the next walk resets nothing
before its last transcation. -/
theorem unset_represents {ids : List Nat} {task : Task} (nonempty : ids ≠ [])
    (keys : task.transcationReptStatus.keys = ids) (idle : task.status = .idle)
    (unset : ∀ transId ∈ ids, task.transcationReptStatus.find? transId = some false) :
    Represents [] ids (.ahead (ids.getLast nonempty)) task := by
  have sorted : ids.Pairwise fun left right => left < right := keys ▸ StdMap.keys_sorted _
  constructor
  · exact keys
  · apply iff_of_true idle
    intro holder same
    cases same
  · intro transId member _
    have split := List.dropLast_concat_getLast nonempty
    have notBehind : ¬ ids.getLast nonempty < transId := by
      rw [← split] at sorted
      rw [List.nil_append, ← split] at member
      rcases List.mem_append.mp member with early | last
      · have before := (List.pairwise_append.mp sorted).2.2 transId early _
          (List.mem_singleton_self _)
        omega
      · rw [List.mem_singleton.mp last]
        exact Nat.lt_irrefl _
    rw [unset transId member]
    simp [flagIn, notBehind]
  · exact List.getLast_mem nonempty

/-- A walk that ended `behind` leaves the task `ahead` for the next one. -/
theorem behind_represents {ids : List Nat} {transId : Nat} {task : Task}
    (holds : Represents ids [] (.behind transId) task) :
    Represents [] ids (.ahead transId) task := by
  have keys := holds.keys
  rw [List.append_nil] at keys
  constructor
  · exact keys
  · apply iff_of_true
    · rw [holds.idle]
      intro holder same
      cases same
    · intro holder same
      cases same
  · intro other member _
    have visited : other ∈ ids := member
    have set := holds.flags other (by simpa using visited) (fun holder same => by cases same)
    simpa [flagIn, visited] using set
  · exact holds.position

def Serves (hub : Hub Looper) (session : SessionId) (transId : Nat) : Prop :=
  ∃ transcation, hub.transcations.find? transId = some transcation ∧
    transcation.task = some session

structure OthersKept (session : SessionId) (before after : Hub Looper) : Prop where
  wiring : SameWiring before after
  tasks : ∀ other, other ≠ session → after.tasks other = before.tasks other

def FromJson (frame : Frame) : Prop := ∃ value, frame = .json value

omit [EventLooper Looper TimerSink] in
/-- That a transcation is visited changes nothing by itself. -/
theorem walked_down_stream {session : SessionId} {json : Prop} {done rest : List Nat}
    {phase : Phase} {emitted : List Emission} {task : Task} {out : List Output} (transId : Nat)
    (moved : Walked session json done rest phase emitted task out) :
    Walked session json done rest phase emitted task (.downStream transId :: out) where
  represents := moved.represents
  emits := (List.filterMap_cons_none rfl).trans moved.emits
  owned := List.forall_mem_cons.mpr ⟨trivial, moved.owned⟩
  styled := moved.styled

theorem down_stream_refines {hub after : Hub Looper} {session : SessionId} {done rest : List Nat}
    {transId : Nat} {frame : Frame} {request : Request} {phase next : Phase}
    {emitted : List Emission} {out : List Output}
    (serves : Serves hub session transId) (read : frameRequest frame = some (some request))
    (holds : Represents done (transId :: rest) phase (hub.tasks session))
    (walked : walkStep transId (verdictAt hub request transId) phase = some (next, emitted))
    (taken : onDownStream hub transId frame = some (after, out)) :
    Walked session (FromJson frame) (done ++ [transId]) rest next emitted (after.tasks session)
      out ∧ OthersKept session hub after := by
  obtain ⟨transcation, found, tasked⟩ := serves
  have wiring := down_stream_same_wiring taken
  rcases down_stream_cases taken with
    ⟨missing, -, -⟩ | ⟨transcation', session', ctx, handledOut, found', tasked', handled, rfl, rfl⟩
  · rw [found] at missing
    cases missing
  · obtain rfl := Option.some.inj (found.symm.trans found')
    obtain rfl := Option.some.inj (tasked.symm.trans tasked')
    have kept : OthersKept session hub (hub.store session ctx) :=
      ⟨wiring, fun other different => store_other hub ctx different⟩
    rw [store_task]
    simp only [verdictAt, found] at walked
    cases handled with
    | ignored early silent status flags =>
        rw [read] at early
        cases early
    | declined stored request' read' unknown status flags format result =>
        obtain rfl := Option.some.inj (Option.some.inj (read.symm.trans read'))
        rw [verdict, if_pos unknown] at walked
        obtain ⟨ctx', out', updated, moved⟩ :=
          declines_refines session (FromJson frame)
            (represents_congr holds status flags)
            (fun json => json.elim format) walked
        rw [updated] at result
        obtain ⟨rfl, rfl⟩ := Prod.mk.inj result
        exact ⟨walked_down_stream transId moved, kept⟩
    | accepted stored request' result read' known flags format emittedOut processed =>
        obtain rfl := Option.some.inj (Option.some.inj (read.symm.trans read'))
        have decided : verdict transcation request =
            if answersAtOnce transcation request then .answers else .holds := by
          rw [verdict, if_neg (by simp [known])]
        rw [decided] at walked
        subst emittedOut
        have moved := processed_refines (FromJson frame) holds flags
          (fun json => json.elim format) walked processed
        exact ⟨walked_down_stream transId moved, kept⟩

omit [EventLooper Looper TimerSink] in
theorem others_kept_trans {session : SessionId} {first second third : Hub Looper}
    (early : OthersKept session first second) (late : OthersKept session second third) :
    OthersKept session first third :=
  ⟨early.wiring.trans late.wiring,
    fun other different => (late.tasks other different).trans (early.tasks other different)⟩

omit [EventLooper Looper TimerSink] in
theorem same_wiring_serves {before after : Hub Looper} (same : SameWiring before after)
    {session : SessionId} {transId : Nat} (serves : Serves before session transId) :
    Serves after session transId := by
  rw [Serves, same.transcations]
  exact serves

omit [EventLooper Looper TimerSink] in
theorem same_wiring_verdict {before after : Hub Looper} (same : SameWiring before after)
    (request : Request) : verdictAt after request = verdictAt before request := by
  funext transId
  rw [verdictAt, verdictAt, same.transcations]

/-- The whole loop takes the walk over the transcations that are left. -/
theorem down_stream_all_refines {session : SessionId} {frame : Frame} {request : Request}
    {rest : List Nat} {hub after : Hub Looper} {done : List Nat} {phase last : Phase}
    {emitted : List Emission} {out : List Output}
    (serves : ∀ transId ∈ rest, Serves hub session transId)
    (read : frameRequest frame = some (some request))
    (styled : FromJson frame → rest = [] → (hub.tasks session).format = some .json)
    (holds : Represents done rest phase (hub.tasks session))
    (walked : walk (verdictAt hub request) phase rest = some (last, emitted))
    (taken : downStreamAll frame hub rest = some (after, out)) :
    Walked session (FromJson frame) (done ++ rest) [] last emitted (after.tasks session) out ∧
      OthersKept session hub after := by
  induction rest generalizing hub done phase emitted out with
  | nil =>
      obtain ⟨rfl, rfl⟩ := Prod.mk.inj (Option.some.inj taken)
      obtain ⟨rfl, rfl⟩ := Prod.mk.inj (Option.some.inj walked)
      refine ⟨?_, same_wiring_refl _, fun _ _ => rfl⟩
      exact ⟨by simpa using holds, rfl, by simp, fun json => styled json rfl⟩
  | cons transId rest ih =>
      obtain ⟨_, stepped, walkedRest⟩ := Option.bind_eq_some_iff.mp walked
      obtain ⟨moves, walkedLater, same⟩ := Option.map_eq_some_iff.mp walkedRest
      obtain ⟨first, head, tail⟩ := Option.bind_eq_some_iff.mp taken
      obtain ⟨later, all, sameOut⟩ := Option.map_eq_some_iff.mp tail
      obtain ⟨rfl, rfl⟩ := Prod.mk.inj sameOut
      obtain ⟨rfl, rfl⟩ := Prod.mk.inj same
      obtain ⟨moved, kept⟩ :=
        down_stream_refines (serves transId List.mem_cons_self) read holds stepped head
      rw [← same_wiring_verdict kept.wiring] at walkedLater
      obtain ⟨final, keptLater⟩ :=
        ih (fun other member =>
            same_wiring_serves kept.wiring (serves other (List.mem_cons_of_mem _ member)))
          (fun json _ => moved.styled json) moved.represents walkedLater all
      refine ⟨?_, others_kept_trans kept keptLater⟩
      constructor
      · have represents := final.represents
        rw [List.append_assoc, List.singleton_append] at represents
        exact represents
      · rw [List.filterMap_append, moved.emits, final.emits]
      · intro output member
        rcases List.mem_append.mp member with early | late
        · exact moved.owned output early
        · exact final.owned output late
      · exact final.styled

theorem down_stream_all_ignored {frame : Frame} {ids : List Nat} {hub after : Hub Looper}
    {out : List Output} (read : ∀ request, frameRequest frame ≠ some (some request))
    (taken : downStreamAll frame hub ids = some (after, out)) :
    (∀ output ∈ out, ∃ transId, output = .downStream transId) ∧
      ∀ session, (after.tasks session).status = (hub.tasks session).status ∧
        (after.tasks session).transcationReptStatus =
          (hub.tasks session).transcationReptStatus := by
  induction ids generalizing hub out with
  | nil =>
      obtain ⟨rfl, rfl⟩ := Prod.mk.inj (Option.some.inj taken)
      exact ⟨by simp, fun _ => ⟨rfl, rfl⟩⟩
  | cons transId rest ih =>
      obtain ⟨first, head, tail⟩ := Option.bind_eq_some_iff.mp taken
      obtain ⟨later, all, sameOut⟩ := Option.map_eq_some_iff.mp tail
      obtain ⟨rfl, rfl⟩ := Prod.mk.inj sameOut
      obtain ⟨reached, kept⟩ := ih all
      have early : (∀ output ∈ first.2, output = .downStream transId) ∧
          ∀ session, (first.1.tasks session).status = (hub.tasks session).status ∧
            (first.1.tasks session).transcationReptStatus =
              (hub.tasks session).transcationReptStatus := by
        rcases down_stream_cases head with
          ⟨-, same, sent⟩ | ⟨_, session', ctx, handledOut, -, -, handled, same, sent⟩
        · rw [same, sent]
          exact ⟨by simp, fun _ => ⟨rfl, rfl⟩⟩
        · rw [same, sent]
          cases handled with
          | ignored _ silent status flags =>
              rw [silent]
              refine ⟨by simp, ?_⟩
              intro session
              simp only [Hub.store]
              split
              · rename_i here
                rw [here]
                exact ⟨status, flags⟩
              · exact ⟨rfl, rfl⟩
          | declined stored request found unknown status flags format result =>
              exact absurd found (read request)
          | accepted stored request result found known flags format emitted processed =>
              exact absurd found (read request)
      constructor
      · intro output member
        rcases List.mem_append.mp member with one | many
        · exact ⟨transId, early.1 output one⟩
        · exact reached output many
      · intro session
        obtain ⟨status, flags⟩ := kept session
        obtain ⟨statusFirst, flagsFirst⟩ := early.2 session
        exact ⟨status.trans statusFirst, flags.trans flagsFirst⟩

end DevHub.FrameWalk
