import DevHub.Plc.Fins
import Mathlib.Data.List.Nodup

/-!
The commands that a PLC gives to a balance. A command is what the PLC writes to the
command word, named by its number; `pending` is the one that the word still holds and
`current` the last one that the detect timer passed on. A frame of a balance names the
command whose read request it answers, which neither the balance nor `UpdateInfo` knows.
-/

namespace DevHub.Handshake

open PlcFins Transition

set_option autoImplicit false

structure Traced (ι : Type) where
  state : State ι
  issued : ι → Nat
  pending : ι → Option Nat
  current : ι → Option Nat
  completed : List (ι × Nat)

/-- The word that a PLC holds at first counts as its command 0. -/
def Traced.start {ι : Type} (word : ι → UInt16) : Traced ι where
  state := State.start word
  issued := fun _ => 1
  pending := fun _ => some 0
  current := fun _ => none
  completed := []

/-- `readTimer` is the timer of a balance with unstable values, which asks it again. -/
inductive Event (ι : Type) where
  | detect (client : ι) (timeUse : Int) (read write : Bool)
  | valuePolling (client : ι)
  | reconnect (client : ι) (sys : Option Nat) (errorVal : Int)
  | readTimer (client : ι)
  | onData (client : ι) (answers : Nat) (data : ElecBalance.Data) (timeUse : Int)
      (dataWritten commandWritten : Bool)
  | plcWrites (client : ι) (word : UInt16)

variable {ι : Type} [DecidableEq ι]

def overwrite (traced : Traced ι) (client : ι) : Traced ι :=
  { traced with pending := Function.update traced.pending client none }

def complete (traced : Traced ι) (client : ι) : Traced ι :=
  { overwrite traced client with
    completed := traced.completed ++ (traced.current client).toList.map fun n => (client, n) }

def detectIdle (traced : Traced ι) (client : ι) (read write : Bool) : Traced ι :=
  let after := { traced with state := PlcFins.detectIdle traced.state client read write }
  if reaches traced.state read then
    if traced.state.word client = ebalanceQp then
      if write then overwrite after client else after
    else if traced.state.word client = ebalanceCz then
      { after with current := Function.update traced.current client (traced.pending client) }
    else after
  else after

def detectBusy (traced : Traced ι) (client : ι) (timeUse : Int) (write : Bool) : Traced ι :=
  let after := { traced with state := PlcFins.detectBusy traced.state client timeUse write }
  if timeUse > 15000 ∧ reaches traced.state write then complete after client else after

def commandWritten (state : State ι) (info : Info) (data command : Bool) : Bool :=
  match info with
  | .error => reaches state command
  | .unreadable => false
  | .value _ _ => reaches state data && command

def updateInfo (traced : Traced ι) (client : ι) (info : Info) (data command : Bool) : Traced ι :=
  let after := { traced with state := PlcFins.updateInfo traced.state client info data command }
  if commandWritten traced.state info data command then complete after client else after

def quiet (traced : Traced ι) : Traced ι :=
  { traced with state := { traced.state with emitted := [] } }

def step : Step (Traced ι) (Event ι)
  | traced, .detect client timeUse read write =>
      match traced.state.status client with
      | .idel => some (detectIdle (quiet traced) client read write)
      | .busy => some (detectBusy (quiet traced) client timeUse write)
  | traced, .valuePolling client =>
      some { traced with state := onValuePolling (quiet traced).state client }
  | traced, .reconnect client sys errorVal =>
      some { traced with state := onReconnect (quiet traced).state client sys errorVal }
  | traced, .readTimer client =>
      some { traced with state := emit (quiet traced).state (.writeData client "%ER") }
  | traced, .onData client _ data timeUse dataWritten commandWritten =>
      match (ElecBalance.onData data timeUse).update with
      | none => some (quiet traced)
      | some update =>
          some (updateInfo (quiet traced) client (balanceInfo update) dataWritten commandWritten)
  | traced, .plcWrites client word =>
      some { quiet traced with
        state := { (quiet traced).state with word := Function.update traced.state.word client word }
        issued := Function.update traced.issued client (traced.issued client + 1)
        pending := Function.update traced.pending client (some (traced.issued client)) }

/-! ### The handshake -/

def isWrite : Output ι → Prop
  | .fins _ _ (.writeWord _) => True
  | .fins _ _ (.writeInt32 _) => True
  | _ => False

/-- `busy`: `UpdateInfo` writes only while its `PlcFins` is busy. `once`: no command has
two completions. `late`: a reply to a completed command does not overwrite a command that
the PLC has written since. -/
structure Safe (before : Traced ι) (event : Event ι) (after : Traced ι) : Prop where
  busy : ∀ client answers data timeUse dataWritten commandWritten,
    event = .onData client answers data timeUse dataWritten commandWritten →
    (∃ output ∈ after.state.emitted, isWrite output) → before.state.status client = .busy
  once : after.completed.Nodup
  late : ∀ client answers data timeUse dataWritten commandWritten,
    event = .onData client answers data timeUse dataWritten commandWritten →
    (client, answers) ∈ before.completed → before.pending client ≠ none →
    after.pending client = before.pending client

/-- A frame that a balance passes on arrives while its `PlcFins` is busy with the command
that the frame answers. -/
def Prompt (traced : Traced ι) : Event ι → Prop
  | .onData client answers data timeUse _ _ =>
      (ElecBalance.onData data timeUse).update ≠ none →
        traced.state.status client = .busy ∧ traced.current client = some answers
  | _ => True

/-! ### The invariant -/

structure Invariant (traced : Traced ι) : Prop where
  pending : ∀ client n, traced.pending client = some n →
    n < traced.issued client ∧ (client, n) ∉ traced.completed
  past : ∀ client n, (client, n) ∈ traced.completed → n < traced.issued client
  word : ∀ client, traced.pending client = none → traced.state.word client ≠ ebalanceCz
  current : ∀ client, traced.state.status client = .busy → ∃ n, traced.current client = some n ∧
    n < traced.issued client ∧ (client, n) ∉ traced.completed
  once : traced.completed.Nodup

omit [DecidableEq ι] in
theorem invariant_start (word : ι → UInt16) : Invariant (Traced.start word) where
  pending := by
    intro client n held
    cases held
    exact ⟨Nat.zero_lt_one, List.not_mem_nil⟩
  past := by
    intro client n member
    cases member
  word := by
    intro client held
    cases held
  current := by
    intro client busy
    cases busy
  once := List.nodup_nil

omit [DecidableEq ι] in
theorem invariant_state {traced : Traced ι} {state : State ι} (invariant : Invariant traced)
    (word : state.word = traced.state.word)
    (status : ∀ client, state.status client = .busy → traced.state.status client = .busy) :
    Invariant { traced with state := state } where
  pending := invariant.pending
  past := invariant.past
  word := by
    intro client held
    rw [word]
    exact invariant.word client held
  current := fun client busy => invariant.current client (status client busy)
  once := invariant.once

theorem invariant_overwrite {traced : Traced ι} {state : State ι} {client : ι} {value : UInt16}
    (invariant : Invariant traced) (other : value ≠ ebalanceCz)
    (word : state.word = Function.update traced.state.word client value)
    (status : ∀ client, state.status client = .busy → traced.state.status client = .busy) :
    Invariant (overwrite { traced with state := state } client) where
  pending := by
    intro owner n held
    by_cases same : owner = client
    · simp [overwrite, same] at held
    · apply invariant.pending
      simpa [overwrite, same] using held
  past := invariant.past
  word := by
    intro owner held
    change state.word owner ≠ ebalanceCz
    rw [word]
    by_cases same : owner = client
    · rw [same, Function.update_self]
      exact other
    · rw [Function.update_of_ne same]
      apply invariant.word
      simpa [overwrite, same] using held
  current := fun owner busy => invariant.current owner (status owner busy)
  once := invariant.once

/-- The word is overwritten to end the command of a busy `PlcFins`, which is idle then. -/
theorem invariant_complete {traced : Traced ι} {state : State ι} {client : ι} {value : UInt16}
    (invariant : Invariant traced) (busy : traced.state.status client = .busy)
    (other : value ≠ ebalanceCz)
    (word : state.word = Function.update traced.state.word client value)
    (status : state.status = Function.update traced.state.status client .idel) :
    Invariant (complete { traced with state := state } client) := by
  have idle (owner : ι) (stays : state.status owner = .busy) :
      owner ≠ client ∧ traced.state.status owner = .busy := by
    rw [status] at stays
    by_cases same : owner = client
    · rw [same, Function.update_self] at stays
      cases stays
    · rw [Function.update_of_ne same] at stays
      exact ⟨same, stays⟩
  have overwritten :=
    invariant_overwrite invariant other word fun owner stays => (idle owner stays).2
  obtain ⟨n, current, issued, fresh⟩ := invariant.current client busy
  have completed : (complete { traced with state := state } client).completed =
      traced.completed ++ [(client, n)] := by
    simp [complete, current]
  have apart {owner : ι} {m : Nat} (old : (owner, m) ∉ traced.completed)
      (different : owner ≠ client) :
      (owner, m) ∉ (complete { traced with state := state } client).completed := by
    rw [completed, List.mem_append, List.mem_singleton]
    intro given
    rcases given with given | given
    · exact old given
    · exact different (Prod.mk.inj given).1
  constructor
  · intro owner m held
    obtain ⟨bound, old⟩ := overwritten.pending owner m held
    refine ⟨bound, apart old ?_⟩
    intro same
    change Function.update traced.pending client none owner = some m at held
    rw [same, Function.update_self] at held
    cases held
  · intro owner m member
    rw [completed, List.mem_append, List.mem_singleton] at member
    rcases member with member | member
    · exact invariant.past owner m member
    · obtain ⟨rfl, rfl⟩ := Prod.mk.inj member
      exact issued
  · exact overwritten.word
  · intro owner stays
    obtain ⟨different, before⟩ := idle owner stays
    obtain ⟨m, known, bound, old⟩ := invariant.current owner before
    exact ⟨m, known, bound, apart old different⟩
  · rw [completed]
    exact List.Nodup.append invariant.once (List.nodup_singleton _)
      (List.disjoint_singleton.mpr fresh)

/-- The detect timer hands a command to the balance: the one that the word holds. -/
theorem invariant_detect {traced : Traced ι} {state : State ι} {client : ι}
    (invariant : Invariant traced) (command : traced.state.word client = ebalanceCz)
    (word : state.word = traced.state.word)
    (status : state.status = Function.update traced.state.status client .busy) :
    Invariant { traced with
      state := state, current := Function.update traced.current client (traced.pending client) } where
  pending := invariant.pending
  past := invariant.past
  word := by
    intro owner held
    rw [word]
    exact invariant.word owner held
  current := by
    intro owner busy
    by_cases same : owner = client
    · subst same
      cases held : traced.pending owner with
      | none => exact absurd command (invariant.word owner held)
      | some n => exact ⟨n, Function.update_self .., invariant.pending owner n held⟩
    · rw [status, Function.update_of_ne same] at busy
      obtain ⟨n, known, old⟩ := invariant.current owner busy
      exact ⟨n, (Function.update_of_ne same ..).trans known, old⟩
  once := invariant.once

/-! ### Callbacks -/

/-- In the byte order of the PLC none of the results is the command to read. -/
theorem results_not_command :
    PlcEvent.bLEndianUshort 0 true ≠ ebalanceCz ∧
      PlcEvent.bLEndianUshort errorTimeout true ≠ ebalanceCz ∧
      PlcEvent.bLEndianUshort errorResult true ≠ ebalanceCz := by
  decide

omit [DecidableEq ι] in
theorem reaches_session {state : State ι} {outcome : Bool} (reached : reaches state outcome = true) :
    state.plc.sys ≠ none ∧ outcome = true := by
  unfold reaches at reached
  cases session : state.plc.sys with
  | none => simp [session] at reached
  | some sys => exact ⟨by simp, by simpa [session] using reached⟩

theorem invariant_detect_idle {traced : Traced ι} (client : ι) (read write : Bool)
    (invariant : Invariant traced) : Invariant (detectIdle traced client read write) := by
  unfold detectIdle
  dsimp only
  split
  · rename_i reached
    have session := (reaches_session reached).1
    split
    · rename_i command
      have state : PlcFins.detectIdle traced.state client read write =
          writeCommand (emit (call traced.state client .readWord) (.writeData client "%ET"))
            client 0 write := by
        simp [PlcFins.detectIdle, session, reached, command]
      have same (owner : ι) : (PlcFins.detectIdle traced.state client read write).status owner =
          traced.state.status owner := by
        rw [state, write_command_status]
        rfl
      cases write with
      | true =>
          refine invariant_overwrite invariant results_not_command.1 ?_ fun owner stays =>
            (same owner).symm.trans stays
          rw [state, write_command_word, if_pos]
          · rfl
          · simpa [reaches, emit, call] using Option.isSome_iff_ne_none.mpr session
      | false =>
          refine invariant_state invariant ?_ fun owner stays => (same owner).symm.trans stays
          rw [state, write_command_word, if_neg]
          · rfl
          · simp [reaches]
    · rename_i notQp
      split
      · rename_i command
        have different : ebalanceCz ≠ ebalanceQp := by decide
        refine invariant_detect invariant command ?_ ?_
        · simp [PlcFins.detectIdle, session, reached, different, command, setStatus, emit, call]
        · simp [PlcFins.detectIdle, session, reached, different, command, setStatus, emit, call]
      · rename_i notCz
        refine invariant_state invariant ?_ ?_
        · simp [PlcFins.detectIdle, session, reached, notQp, notCz, emit, call]
        · simp [PlcFins.detectIdle, session, reached, notQp, notCz, emit, call]
  · rename_i unreached
    have failed : reaches traced.state read = false := by simpa using unreached
    refine invariant_state invariant ?_ ?_
    · unfold PlcFins.detectIdle
      split
      · rfl
      · simp [onDisconnect, emit, call]
    · unfold PlcFins.detectIdle
      split
      · exact fun owner stays => stays
      · simp [onDisconnect, emit, call]

theorem invariant_detect_busy {traced : Traced ι} (client : ι) (timeUse : Int) (write : Bool)
    (busy : traced.state.status client = .busy) (invariant : Invariant traced) :
    Invariant (detectBusy traced client timeUse write) := by
  unfold detectBusy
  dsimp only
  split
  · rename_i ended
    obtain ⟨late, reached⟩ := ended
    refine invariant_complete invariant busy results_not_command.2.1 ?_ ?_
    · simp [PlcFins.detectBusy, late, reached, setStatus, write_command_word]
    · simp [PlcFins.detectBusy, late, reached, setStatus]
  · rename_i goesOn
    refine invariant_state invariant ?_ ?_
    · unfold PlcFins.detectBusy
      split
      · rename_i late
        have failed : reaches traced.state write = false := by simpa [late] using goesOn
        simp [failed, onDisconnect, emit, call, write_command_word]
      · rfl
    · unfold PlcFins.detectBusy
      split
      · rename_i late
        have failed : reaches traced.state write = false := by simpa [late] using goesOn
        simp [failed, onDisconnect, emit, call]
      · exact fun owner stays => stays

omit [DecidableEq ι] in
theorem invariant_quiet {traced : Traced ι} (invariant : Invariant traced) :
    Invariant (quiet traced) :=
  invariant_state invariant rfl fun _ stays => stays

theorem idle_stays {status : ι → PlcStatus} {client owner : ι}
    (stays : Function.update status client .idel owner = .busy) : status owner = .busy := by
  by_cases same : owner = client
  · rw [same, Function.update_self] at stays
    cases stays
  · rwa [Function.update_of_ne same] at stays

theorem invariant_update_info {traced : Traced ι} (client : ι) (info : Info) (data command : Bool)
    (busy : traced.state.status client = .busy) (invariant : Invariant traced) :
    Invariant (updateInfo traced client info data command) := by
  unfold updateInfo
  cases info with
  | unreadable => exact invariant_state invariant rfl fun _ stays => stays
  | error =>
      by_cases reached : reaches traced.state command = true
      · rw [if_pos (show commandWritten traced.state .error data command = true from reached)]
        refine invariant_complete invariant busy results_not_command.2.2 ?_ ?_
        · simp [PlcFins.updateInfo, setStatus, write_command_word, reached]
        · simp [PlcFins.updateInfo, setStatus]
      · rw [if_neg (show ¬ commandWritten traced.state .error data command = true from reached)]
        refine invariant_state invariant ?_ fun owner stays => ?_
        · simp [PlcFins.updateInfo, setStatus, write_command_word, reached]
        · apply idle_stays
          simpa [PlcFins.updateInfo, setStatus] using stays
  | value symbol value =>
      by_cases written : reaches traced.state data = true
      · have session := (reaches_session written).1
        have state : PlcFins.updateInfo traced.state client (.value symbol value) data command =
            setStatus (writeCommand
              (call traced.state client (.writeInt32 (valueText symbol value))) client 0 command)
              client .idel := by
          simp [PlcFins.updateInfo, written]
        cases command with
        | true =>
            have reached : reaches (call traced.state client
                (.writeInt32 (valueText symbol value))) true = true := by
              simpa [reaches, call, emit] using Option.isSome_iff_ne_none.mpr session
            rw [if_pos (by simpa [commandWritten] using written), state]
            refine invariant_complete invariant busy results_not_command.1 ?_ ?_
            · simp only [setStatus, write_command_word, if_pos reached]
              rfl
            · simp [setStatus, call, emit]
        | false =>
            rw [if_neg (by simp [commandWritten]), state]
            refine invariant_state invariant ?_ fun owner stays => ?_
            · simp [setStatus, write_command_word, reaches, call, emit]
            · apply idle_stays
              simpa [setStatus, call, emit] using stays
      · have state : PlcFins.updateInfo traced.state client (.value symbol value) data command =
            onDisconnect (call traced.state client (.writeInt32 (valueText symbol value))) client := by
          simp [PlcFins.updateInfo, written]
        rw [if_neg (by simp [commandWritten, written]), state]
        exact invariant_state invariant rfl fun _ stays => stays

/-! ### Runs -/

theorem invariant_reconnect {traced next : Traced ι} {client : ι} {sys : Option Nat}
    {errorVal : Int} (invariant : Invariant traced)
    (taken : step traced (.reconnect client sys errorVal) = some next) : Invariant next := by
  cases taken
  obtain ⟨plc, connected⟩ := plc_connect_state (quiet traced).state sys errorVal
  refine invariant_state invariant ?_ ?_
  · simp only [onReconnect, connected]
    split
    · split <;> rfl
    · rfl
  · intro owner stays
    simp only [onReconnect, connected] at stays
    split at stays
    · split at stays
      · exact idle_stays stays
      · exact stays
    · exact stays

theorem invariant_plc_writes {traced next : Traced ι} {client : ι} {word : UInt16}
    (invariant : Invariant traced) (taken : step traced (.plcWrites client word) = some next) :
    Invariant next := by
  cases taken
  constructor
  · intro owner n held
    by_cases same : owner = client
    · subst same
      have number : n = traced.issued owner := by
        simpa [quiet] using held.symm
      subst number
      refine ⟨by simp, fun member => ?_⟩
      exact absurd (invariant.past owner _ member) (Nat.lt_irrefl _)
    · have before := invariant.pending owner n (by simpa [quiet, same] using held)
      simpa [quiet, same] using before
  · intro owner n member
    have before := invariant.past owner n member
    by_cases same : owner = client
    · subst same
      simpa using Nat.lt_succ_of_lt before
    · simpa [same] using before
  · intro owner held
    by_cases same : owner = client
    · subst same
      simp at held
    · have before := invariant.word owner (by simpa [quiet, same] using held)
      simpa [quiet, same] using before
  · intro owner busy
    obtain ⟨n, known, issued, fresh⟩ := invariant.current owner busy
    refine ⟨n, known, ?_, fresh⟩
    by_cases same : owner = client
    · subst same
      simpa using Nat.lt_succ_of_lt issued
    · simpa [same] using issued
  · exact invariant.once

theorem invariant_step {traced next : Traced ι} {event : Event ι} (invariant : Invariant traced)
    (prompt : Prompt traced event) (taken : step traced event = some next) : Invariant next := by
  have silent := invariant_quiet invariant
  cases event with
  | detect client timeUse read write =>
      simp only [step] at taken
      cases status : traced.state.status client with
      | idel =>
          simp only [status] at taken
          cases taken
          exact invariant_detect_idle client read write silent
      | busy =>
          simp only [status] at taken
          cases taken
          exact invariant_detect_busy client timeUse write status silent
  | valuePolling client =>
      cases taken
      refine invariant_state invariant ?_ ?_
      · unfold onValuePolling
        split <;> rfl
      · unfold onValuePolling
        split <;> exact fun owner stays => stays
  | reconnect client sys errorVal =>
      exact invariant_reconnect invariant taken
  | readTimer client =>
      cases taken
      exact invariant_state invariant rfl fun owner stays => stays
  | onData client answers data timeUse dataWritten commandWritten =>
      simp only [step] at taken
      cases passed : (ElecBalance.onData data timeUse).update with
      | none =>
          simp only [passed] at taken
          cases taken
          exact silent
      | some update =>
          simp only [passed] at taken
          cases taken
          have busy := (prompt (by simp [passed])).1
          exact invariant_update_info client _ dataWritten commandWritten busy silent
  | plcWrites client word =>
      exact invariant_plc_writes invariant taken

theorem step_safe {traced next : Traced ι} {event : Event ι} (invariant : Invariant traced)
    (prompt : Prompt traced event) (taken : step traced event = some next) :
    Safe traced event next := by
  have kept := invariant_step invariant prompt taken
  constructor
  · intro client answers data timeUse dataWritten commandWritten same wrote
    subst same
    simp only [step] at taken
    cases passed : (ElecBalance.onData data timeUse).update with
    | none =>
        simp only [passed] at taken
        cases taken
        obtain ⟨output, member, -⟩ := wrote
        cases member
    | some update => exact (prompt (by simp [passed])).1
  · exact kept.once
  · intro client answers data timeUse dataWritten commandWritten same answered held
    subst same
    simp only [step] at taken
    cases passed : (ElecBalance.onData data timeUse).update with
    | none =>
        simp only [passed] at taken
        cases taken
        rfl
    | some update =>
        obtain ⟨busy, current⟩ := prompt (by simp [passed])
        obtain ⟨n, known, -, fresh⟩ := invariant.current client busy
        cases current.symm.trans known
        exact absurd answered fresh

/-- In a run in which every frame that a balance passes on answers the command that its
`PlcFins` is busy with, the handshake is safe at every step. -/
theorem safe_of_prompt (word : ι → UInt16) (events : List (Event ι))
    (prompt : Guarded step Prompt (Traced.start word) events) :
    EachStep step Safe (Traced.start word) events := by
  have keeps (traced : Traced ι) (event : Event ι) (next : Traced ι) (invariant : Invariant traced)
      (prompt : Prompt traced event) (taken : step traced event = some next) :
      Invariant next ∧ Safe traced event next :=
    ⟨invariant_step invariant prompt taken, step_safe invariant prompt taken⟩
  exact each_step_of_guarded keeps (invariant_start word) prompt

def steadyFrame : ElecBalance.Data := fun index =>
  if index = 0 then 0x4B else if index = 1 then 0x20 else if index = 2 then 0x2B else 0x31

def answered : List (Event Unit) :=
  [.reconnect () (some 1) 0, .plcWrites () ebalanceCz, .detect () 0 true true,
    .onData () 1 steadyFrame 0 true true]

theorem answered_safe : EachStep step Safe (Traced.start fun _ => 0) answered := by
  apply safe_of_prompt
  intro connected taken
  cases taken
  refine ⟨trivial, fun commanded taken => ?_⟩
  cases taken
  refine ⟨trivial, fun detected taken => ?_⟩
  cases taken
  refine ⟨trivial, fun replied taken => ?_⟩
  exact ⟨fun _ => ⟨rfl, rfl⟩, trivial⟩

/-- The second read request of the first command is answered too, when the PLC has
written its next command: the reply overwrites it. -/
theorem late_reply_overwrites :
    ¬ EachStep step Safe (Traced.start fun _ => 0)
        (answered ++ [.plcWrites () ebalanceCz, .onData () 1 steadyFrame 0 true true]) := by
  intro safe
  have commanded := ((safe _ rfl).2 _ rfl).2 _ rfl
  have next := (commanded.2 _ rfl).2 _ rfl
  have overwritten := (next.2 _ rfl).1
  have held := overwritten.late () 1 steadyFrame 0 true true rfl (by decide) (by decide)
  revert held
  decide

end DevHub.Handshake
