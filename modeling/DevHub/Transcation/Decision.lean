import DevHub.Transcation.CommaText

/-!
What a transcation decides about a frame: whether it takes the command and which
peripheral `ProcessCmd` works with. Two frames that a transcation decides alike leave tasks
alike and emit the same, up to the texts of the replies, whatever their formats are.
-/

namespace DevHub.Decisions

open Looper TaskUse Transcations CommaText

set_option autoImplicit false

/-- How `ProcessCmd` goes on: the class lacks the command, the parameter is no array, no
peripheral has the number, or the command is for one that has it. -/
inductive Choice where
  | unhandled
  | unreadable
  | missing
  | device (equipNo : Int) (peripheral : Peripheral)

inductive Decision where
  | throws
  | dropped
  | declined
  | accepted (cmd : String) (choice : Choice)

/-- The peripheral of a request; `none` is an exception. -/
def choose (trans : Transcation) (request : Request) : Option Choice :=
  if request.cmd ∈ implemented trans.kind then
    (equipNo request.param).map fun found =>
      match found with
      | none => .unreadable
      | some number =>
          match selectPeripherals trans number with
          | none => .missing
          | some peripheral => .device number peripheral
  else some .unhandled

def decision (trans : Transcation) : Option (Option Request) → Decision
  | none => .throws
  | some none => .dropped
  | some (some request) =>
      if checkCommandName trans request.cmd = false then .declined
      else
        match choose trans request with
        | none => .throws
        | some choice => .accepted request.cmd choice

/-- A reply is seen by its sender and its result code, everything else as it is. -/
def view : Output → Output × Option Int
  | .sendMessage session message source =>
      (.sendMessage session (.text "") source, resultCode message)
  | output => (output, none)

/-- Two tasks that may differ in the format, the names and the number of the request. -/
structure TaskAlike (first second : Task) : Prop where
  status : first.status = second.status
  flags : first.transcationReptStatus = second.transcationReptStatus
  timer : first.responseTimeout = second.responseTimeout

structure Alike {Looper : Type} (first second : TaskContext Looper) : Prop where
  task : TaskAlike first.task second.task
  looper : first.looper = second.looper

/-- Both functions are left by an exception, or both return and leave the same behind. -/
def SameResult {Looper : Type} (first second : Option (TaskContext Looper × List Output)) : Prop :=
  Option.Rel (fun left right => Alike left.1 right.1 ∧ left.2.map view = right.2.map view)
    first second

structure Ready {Looper : Type} (first second : TaskContext Looper) : Prop where
  alike : Alike first second
  firstFormat : first.task.format.isSome = true
  secondFormat : second.task.format.isSome = true

variable {Looper : Type} [EventLooper Looper TimerSink]
variable {first second : TaskContext Looper}

theorem finish_alike (alike : Alike first second) : Alike (finish first) (finish second) := by
  have looper : (finish first).looper = (finish second).looper := by
    simp only [finish, stopResponseTimer, alike.looper, alike.task.timer]
  have flags : (finish first).task.transcationReptStatus =
      (finish second).task.transcationReptStatus := by
    simp only [finish, stopResponseTimer, resetAllTransStatus, alike.task.flags]
  exact ⟨⟨rfl, flags, alike.task.timer⟩, looper⟩

omit [EventLooper Looper TimerSink] in
theorem set_req_id_ready (ready : Ready first second) (cmd : String) (left right : Int) :
    Ready (setReqId first cmd left) (setReqId second cmd right) :=
  ⟨⟨⟨ready.alike.task.status, ready.alike.task.flags, ready.alike.task.timer⟩, ready.alike.looper⟩,
    ready.firstFormat, ready.secondFormat⟩

omit [EventLooper Looper TimerSink] in
theorem set_status_ready (ready : Ready first second) (status : TaskStatus) :
    Ready (setStatus first status) (setStatus second status) :=
  ⟨⟨⟨rfl, ready.alike.task.flags, ready.alike.task.timer⟩, ready.alike.looper⟩,
    ready.firstFormat, ready.secondFormat⟩

theorem start_timer_ready (ready : Ready first second) (session : SessionId) (val : Int) :
    Ready (startResponseTimer session val first) (startResponseTimer session val second) := by
  have timer : (startResponseTimer session val first).task.responseTimeout =
      (startResponseTimer session val second).task.responseTimeout := by
    simp only [startResponseTimer, ready.alike.looper]
  have looper : (startResponseTimer session val first).looper =
      (startResponseTimer session val second).looper := by
    simp only [startResponseTimer, ready.alike.looper]
  exact ⟨⟨⟨ready.alike.task.status, ready.alike.task.flags, timer⟩, looper⟩,
    ready.firstFormat, ready.secondFormat⟩

theorem answer_alike (ready : Ready first second) (transId : Nat) (session : SessionId)
    (errorNo : Nat) (small : errorNo ≤ 4) (cmd : String) (left right : Int) :
    Alike (answer transId session errorNo cmd left first).1
        (answer transId session errorNo cmd right second).1 ∧
      (answer transId session errorNo cmd left first).2.map view =
        (answer transId session errorNo cmd right second).2.map view := by
  have bound : (errorNo : Int) ≤ Json.maxInt := by
    simp only [Json.maxInt]
    omega
  rw [answer, answer, update_reply (response_reply _ _ _ _), update_reply (response_reply _ _ _ _)]
  constructor
  · exact finish_alike ready.alike
  · simp only [List.map_cons, List.map_nil, view]
    rw [response_code errorNo bound ready.firstFormat, response_code errorNo bound ready.secondFormat]

theorem decline_alike (ready : Ready first second) (transId : Nat) (session : SessionId) :
    SameResult (some (update session (.text "NothingToDo") transId first))
      (some (update session (.text "NothingToDo") transId second)) := by
  apply Option.Rel.some
  have task : TaskAlike (setTransStatus first.task transId) (setTransStatus second.task transId) := by
    simp only [setTransStatus, ready.alike.task.flags]
    split
    · exact ⟨ready.alike.task.status, rfl, ready.alike.task.timer⟩
    · exact ready.alike.task
  have format (ctx : TaskContext Looper) (known : ctx.task.format.isSome = true) :
      (setTransStatus ctx.task transId).format.isSome = true := by
    unfold setTransStatus
    split
    · exact known
    · exact known
  have flagged : Alike { first with task := setTransStatus first.task transId }
      { second with task := setTransStatus second.task transId } := ⟨task, ready.alike.looper⟩
  have all : checkTransStatusAll (setTransStatus first.task transId) =
      checkTransStatusAll (setTransStatus second.task transId) := by
    rw [checkTransStatusAll, checkTransStatusAll, task.flags]
  simp only [update, all]
  split
  · refine ⟨finish_alike flagged, ?_⟩
    simp only [List.map_cons, List.map_nil, view]
    have bound : ((3 : Nat) : Int) ≤ Json.maxInt := by decide
    have left := response_code 3 bound (format first ready.firstFormat)
      (setTransStatus first.task transId).cmdName (setTransStatus first.task transId).reqId
    have right := response_code 3 bound (format second ready.secondFormat)
      (setTransStatus second.task transId).cmdName (setTransStatus second.task transId).reqId
    rw [show errorCommand = ((3 : Nat) : Int) from rfl, left, right]
  · exact ⟨flagged, rfl⟩

def chosen (trans : Transcation) (number : Int) : Choice :=
  match selectPeripherals trans number with
  | none => .missing
  | some peripheral => .device number peripheral

omit [EventLooper Looper TimerSink] in
theorem chosen_readable (trans : Transcation) (number : Int) :
    chosen trans number ≠ .unreadable := by
  unfold chosen
  split
  · exact Choice.noConfusion
  · exact Choice.noConfusion

omit [EventLooper Looper TimerSink] in
/-- Two numbers have one choice when they are the same or nobody has either of them. -/
theorem chosen_eq_iff (trans : Transcation) (one other : Int) :
    chosen trans one = chosen trans other ↔
      one = other ∨ (selectPeripherals trans one = none ∧ selectPeripherals trans other = none) := by
  by_cases same : one = other
  · subst same
    simp
  · unfold chosen
    cases first : selectPeripherals trans one with
    | none => cases second : selectPeripherals trans other <;> simp [same]
    | some peripheral => cases second : selectPeripherals trans other <;> simp [same]

omit [EventLooper Looper TimerSink] in
theorem choose_known {trans : Transcation} {request : Request}
    (known : request.cmd ∈ implemented trans.kind) :
    choose trans request =
      (equipNo request.param).map fun found => found.elim .unreadable (chosen trans) := by
  rw [choose, if_pos known]
  congr 1
  funext found
  cases found with
  | none => rfl
  | some number => rfl

/-- How the parameters of two requests with one choice compare. -/
inductive SameChoice (trans : Transcation) (left right : Json) : Prop where
  | throws (first : equipNo left = none) (second : equipNo right = none)
  | unreadable (first : equipNo left = some none) (second : equipNo right = some none)
  | missing (one other : Int) (first : equipNo left = some (some one))
      (second : equipNo right = some (some other)) (none_ : selectPeripherals trans one = none)
      (neither : selectPeripherals trans other = none)
  | device (number : Int) (peripheral : Peripheral) (first : equipNo left = some (some number))
      (second : equipNo right = some (some number))
      (found : selectPeripherals trans number = some peripheral)

omit [EventLooper Looper TimerSink] in
theorem choose_cases {trans : Transcation} {left right : Request}
    (knownLeft : left.cmd ∈ implemented trans.kind) (knownRight : right.cmd ∈ implemented trans.kind)
    (same : choose trans left = choose trans right) :
    SameChoice trans left.param right.param := by
  rw [choose_known knownLeft, choose_known knownRight] at same
  cases one : equipNo left.param with
  | none =>
      cases other : equipNo right.param with
      | none => exact SameChoice.throws one other
      | some found => simp [one, other] at same
  | some first =>
      cases other : equipNo right.param with
      | none => simp [one, other] at same
      | some second =>
          rw [one, other, Option.map_some, Option.map_some, Option.some.injEq] at same
          cases first with
          | none =>
              cases second with
              | none => exact SameChoice.unreadable one other
              | some number => exact absurd same.symm (chosen_readable trans number)
          | some number =>
              cases second with
              | none => exact absurd same (chosen_readable trans number)
              | some another =>
                  cases found : selectPeripherals trans number with
                  | some peripheral =>
                      rcases (chosen_eq_iff trans number another).mp same with rfl | ⟨none_, -⟩
                      · exact SameChoice.device number peripheral one other found
                      · cases found.symm.trans none_
                  | none =>
                      rcases (chosen_eq_iff trans number another).mp same with rfl | ⟨-, neither⟩
                      · exact SameChoice.missing number number one other found found
                      · exact SameChoice.missing number another one other found neither

section Commands

variable {transId : Nat} {trans : Transcation} {session : SessionId} {left right : Request}

theorem parameter_alike (ready : Ready first second) (choice : SameChoice trans left.param right.param)
    (name : String) {one other : Int → TaskContext Looper × List Output}
    (missing : ∀ mine yours, selectPeripherals trans mine = none →
      selectPeripherals trans yours = none →
        Alike (one mine).1 (other yours).1 ∧ (one mine).2.map view = (other yours).2.map view)
    (device : ∀ number peripheral, selectPeripherals trans number = some peripheral →
      Alike (one number).1 (other number).1 ∧
        (one number).2.map view = (other number).2.map view) :
    SameResult
      ((equipNo left.param).map fun found =>
        match found with
        | none => answer transId session errorFormat name left.reqId first
        | some number => one number)
      ((equipNo right.param).map fun found =>
        match found with
        | none => answer transId session errorFormat name right.reqId second
        | some number => other number) := by
  cases choice with
  | throws nothing neither =>
      rw [nothing, neither]
      exact Option.Rel.none
  | unreadable bad worse =>
      rw [bad, worse]
      exact Option.Rel.some (answer_alike ready transId session 1 (by decide) _ _ _)
  | missing mine yours mineRead yoursRead nobody neither =>
      rw [mineRead, yoursRead]
      exact Option.Rel.some (missing mine yours nobody neither)
  | device number peripheral mineRead yoursRead found =>
      rw [mineRead, yoursRead]
      exact Option.Rel.some (device number peripheral found)

theorem get_spit_param_alike (ready : Ready first second) (cmd : left.cmd = right.cmd)
    (choice : SameChoice trans left.param right.param) :
    SameResult (getSpitParam transId trans session left first)
      (getSpitParam transId trans session right second) := by
  have noted := set_req_id_ready ready "GetSpitParam" left.reqId right.reqId
  apply parameter_alike ready choice
  · intro mine yours nobody neither
    simp only [nobody, neither]
    exact answer_alike noted transId session 2 (by decide) _ _ _
  · intro number peripheral found
    rw [found, cmd]
    exact ⟨(set_status_ready noted .run).alike, rfl⟩

theorem balance_qp_alike (ready : Ready first second)
    (choice : SameChoice trans left.param right.param) :
    SameResult (balanceQp transId trans session left first)
      (balanceQp transId trans session right second) := by
  apply parameter_alike ready choice
  · intro mine yours nobody neither
    simp only [nobody, neither]
    exact answer_alike ready transId session 2 (by decide) _ _ _
  · intro number peripheral found
    simp only [found]
    split
    · obtain ⟨alike, seen⟩ :=
        answer_alike ready transId session 0 (by decide) "BalanceQp" left.reqId right.reqId
      exact ⟨alike, congrArg (List.cons _) seen⟩
    · exact answer_alike ready transId session 4 (by decide) _ _ _

theorem balance_cl_alike (ready : Ready first second)
    (choice : SameChoice trans left.param right.param) :
    SameResult (balanceCl transId trans session left first)
      (balanceCl transId trans session right second) := by
  have noted := set_req_id_ready ready "BalanceCl" left.reqId right.reqId
  apply parameter_alike ready choice
  · intro mine yours nobody neither
    simp only [nobody, neither]
    exact answer_alike noted transId session 2 (by decide) _ _ _
  · intro number peripheral found
    simp only [found]
    split
    · exact ⟨(set_status_ready noted .run).alike, rfl⟩
    · exact answer_alike noted transId session 4 (by decide) _ _ _

theorem process_cmd_alike (ready : Ready first second) (cmd : left.cmd = right.cmd)
    (same : choose trans left = choose trans right) :
    SameResult (processCmd transId trans session left first)
      (processCmd transId trans session right second) := by
  have untouched : SameResult (some (first, [])) (some (second, [])) :=
    Option.Rel.some ⟨ready.alike, rfl⟩
  have choice (known : right.cmd ∈ implemented trans.kind) :
      SameChoice trans left.param right.param := choose_cases (cmd ▸ known) known same
  unfold processCmd
  rw [cmd]
  cases kind : trans.kind with
  | balance =>
      rw [kind] at choice
      dsimp only
      split
      · rename_i qp
        exact balance_qp_alike ready (choice (by simp [implemented, qp]))
      · split
        · rename_i cl
          exact balance_cl_alike ready (choice (by simp [implemented, cl]))
        · exact untouched
  | solder =>
      rw [kind] at choice
      dsimp only
      split
      · rename_i spit
        exact get_spit_param_alike ready cmd (choice (by simp [implemented, spit]))
      · exact untouched
  | glueDispenser =>
      rw [kind] at choice
      dsimp only
      split
      · rename_i spit
        exact get_spit_param_alike ready cmd (choice (by simp [implemented, spit]))
      · exact untouched

omit [EventLooper Looper TimerSink] in
theorem SameResult.emits {results others : Option (TaskContext Looper × List Output)}
    (same : SameResult results others) (output : Output) :
    SameResult (results.map fun result => (result.1, output :: result.2))
      (others.map fun result => (result.1, output :: result.2)) := by
  cases same with
  | none => exact Option.Rel.none
  | some both =>
      apply Option.Rel.some
      refine ⟨both.1, ?_⟩
      rw [List.map_cons, List.map_cons, both.2]

omit [EventLooper Looper TimerSink] in
theorem decision_request (request : Request) :
    decision trans (some (some request)) =
      if checkCommandName trans request.cmd = false then .declined
      else (choose trans request).elim .throws (.accepted request.cmd) := by
  rw [decision]
  split
  · rfl
  · cases choose trans request <;> rfl

omit [EventLooper Looper TimerSink] in
theorem request_kept (trans : Transcation) (request : Request) :
    decision trans (some none) ≠ decision trans (some (some request)) := by
  intro dropped
  rw [decision_request] at dropped
  split at dropped
  · cases dropped
  · cases choice : choose trans request <;> rw [choice] at dropped <;> cases dropped

theorem choose_throws {request : Request} (throws : choose trans request = none)
    (ctx : TaskContext Looper) : processCmd transId trans session request ctx = none := by
  unfold choose at throws
  split at throws
  · rename_i known
    have converts : (processCmd transId trans session request ctx).isSome =
        (equipNo request.param).isSome := process_cmd_returns known
    rw [Option.map_eq_none_iff.mp throws] at converts
    exact Option.isNone_iff_eq_none.mp (by simpa using converts)
  · cases throws

theorem decision_throws {request : Request}
    (throws : decision trans (some (some request)) = .throws) (ctx : TaskContext Looper) :
    dispatch transId trans session request ctx = none := by
  rw [decision_request] at throws
  split at throws
  · cases throws
  · rename_i known
    cases choice : choose trans request with
    | some _ =>
        rw [choice] at throws
        cases throws
    | none => simp only [dispatch, if_neg known, choose_throws choice, Option.map_none]

theorem dispatch_alike (ready : Ready first second)
    (same : decision trans (some (some left)) = decision trans (some (some right))) :
    SameResult (dispatch transId trans session left first)
      (dispatch transId trans session right second) := by
  rw [decision_request, decision_request] at same
  unfold dispatch
  by_cases unknown : checkCommandName trans left.cmd = false
  · have other : checkCommandName trans right.cmd = false := by
      by_contra known
      rw [if_pos unknown, if_neg known] at same
      cases choice : choose trans right <;> rw [choice] at same <;> cases same
    rw [if_pos unknown, if_pos other]
    exact decline_alike ready transId session
  · have known : ¬ checkCommandName trans right.cmd = false := by
      intro other
      rw [if_neg unknown, if_pos other] at same
      cases choice : choose trans left <;> rw [choice] at same <;> cases same
    rw [if_neg unknown, if_neg known] at same ⊢
    apply SameResult.emits
    cases one : choose trans left with
    | none =>
        cases other : choose trans right with
        | none =>
            rw [choose_throws one, choose_throws other]
            exact Option.Rel.none
        | some choice =>
            rw [one, other] at same
            cases same
    | some mine =>
        cases other : choose trans right with
        | none =>
            rw [one, other] at same
            cases same
        | some theirs =>
            rw [one, other] at same
            simp only [Option.elim_some, Decision.accepted.injEq] at same
            obtain ⟨cmd, choice⟩ := same
            subst choice
            rw [cmd]
            exact process_cmd_alike (set_status_ready (start_timer_ready ready _ _) _) cmd
              (one.trans other.symm)

/-! ### The frame -/

omit [EventLooper Looper TimerSink] in
theorem store_alike (decoded : Decoded) (task : Task) : TaskAlike (decoded.store task) task :=
  ⟨store_status decoded task, store_flags decoded task, store_timeout decoded task⟩

omit [EventLooper Looper TimerSink] in
theorem TaskAlike.merge {one other left right : Task} (first : TaskAlike one left)
    (both : TaskAlike left right) (second : TaskAlike other right) : TaskAlike one other :=
  ⟨first.status.trans (both.status.trans second.status.symm),
    first.flags.trans (both.flags.trans second.flags.symm),
    first.timer.trans (both.timer.trans second.timer.symm)⟩

/-- Frames that a transcation decides alike have the same result there. -/
theorem down_info_alike {one other : Frame} (alike : Alike first second)
    (same : decision trans (frameRequest one) = decision trans (frameRequest other)) :
    SameResult (downInfo transId trans session one first)
      (downInfo transId trans session other second) := by
  have stored (left right : Decoded) :
      Alike { first with task := left.store first.task } { second with task := right.store second.task } :=
    ⟨(store_alike left _).merge alike.task (store_alike right _), alike.looper⟩
  cases down_info_reads transId trans session one first with
  | throws read left =>
      rw [left]
      rw [read] at same
      cases down_info_reads transId trans session other second with
      | throws _ right =>
          rw [right]
          exact Option.Rel.none
      | dropped _ _ read' =>
          rw [read'] at same
          cases same
      | request _ request _ read' _ done =>
          rw [read'] at same
          rw [done, decision_throws same.symm]
          exact Option.Rel.none
  | dropped decoded _ read done =>
      rw [read] at same
      cases down_info_reads transId trans session other second with
      | throws read' =>
          rw [read'] at same
          cases same
      | dropped decoded' _ read' done' =>
          rw [done, done']
          exact Option.Rel.some ⟨stored decoded decoded', rfl⟩
      | request _ request _ read' =>
          rw [read'] at same
          exact absurd same (request_kept trans request)
  | request decoded request _ read format done =>
      rw [read] at same
      cases down_info_reads transId trans session other second with
      | throws read' right =>
          rw [read'] at same
          rw [done, right, decision_throws same]
          exact Option.Rel.none
      | dropped _ _ read' =>
          rw [read'] at same
          exact absurd same.symm (request_kept trans request)
      | request decoded' request' _ read' format' done' =>
          rw [read'] at same
          rw [done, done']
          exact dispatch_alike ⟨stored decoded decoded', format, format'⟩ same

end Commands

end DevHub.Decisions
