import DevHub.Library.Ledger
import DevHub.Communication.OneReply
import DevHub.Transcation.TaskTimer

/-!
Device data against the requests it may answer. The observer keeps a ledger of the
commands that the transcations have at their devices: `ProcessCmd` issues one when it
leaves the task running, a message of `UpdateInfo` answers it, and it is over when its
task is idle again. A use of `m_task` before it is set ends the run and is recorded.
-/

namespace DevHub.DeviceData

open Transition Looper TaskUse TaskTimer Transcations CommServer RequestLedger

set_option autoImplicit false

variable {Looper : Type}

structure Watched (Looper : Type) where
  hub : Hub Looper
  ledger : Ledger Nat SessionId
  sent : List Output
  misused : Bool

/-- A command of the transcation is at its device, on a task that still runs it. -/
def Outstanding (state : Watched Looper) (transId : Nat) : Prop :=
  ∃ session number, state.ledger.opened transId = some (session, number) ∧
    (state.hub.tasks session).status = .run

def standing (hub : Hub Looper) (ledger : Ledger Nat SessionId) : Ledger Nat SessionId :=
  ledger.prune fun session => (hub.tasks session).status ≠ .idle

def noteDown (before after : Hub Looper) (transId : Nat) (frame : Frame)
    (ledger : Ledger Nat SessionId) : Ledger Nat SessionId :=
  match (before.transcations.find? transId).bind fun transcation =>
      if accepts transcation frame then transcation.task else none with
  | some session =>
      if (after.tasks session).status = .run then (standing after ledger).issue transId session
      else standing after ledger
  | none => standing after ledger

variable [EventLooper Looper TimerSink]

def noteFrame (frame : Frame) :
    Hub Looper → List Nat → Ledger Nat SessionId → Ledger Nat SessionId
  | _, [], ledger => ledger
  | hub, transId :: rest, ledger =>
      match onDownStream hub transId frame with
      | some first => noteFrame frame first.1 rest (noteDown hub first.1 transId frame ledger)
      | none => ledger

def note (before after : Hub Looper) (sent : List Output) (ledger : Ledger Nat SessionId) :
    Event → Ledger Nat SessionId
  | .onFrame session frame =>
      if (before.tasks session).status = .idle then
        noteFrame frame before (subscribedIds before session) ledger
      else ledger
  | .updateInfo transId _ =>
      standing after (if sent.isEmpty then ledger else ledger.answer transId)
  | _ => standing after ledger

/-- `UpdateInfo` reads the members of the report, then the format of `m_task`. -/
def usesNoTask (hub : Hub Looper) : Event → Bool
  | .updateInfo transId (some root) =>
      match hub.transcations.find? transId with
      | some transcation => transcation.task.isNone && (getMemberFromJson root).isSome
      | none => false
  | _ => false

def watchedStep : Step (Watched Looper) Event := fun state event =>
  if state.misused then none
  else if usesNoTask state.hub event then some { state with sent := [], misused := true }
  else (CommServer.step state.hub event).map fun result =>
    { hub := result.1
      ledger := note state.hub result.1 result.2 state.ledger event
      sent := result.2
      misused := false }

def Watched.start (transcations : StdMap Nat Transcation) (looper : Looper) : Watched Looper where
  hub := Hub.start transcations looper
  ledger := Ledger.empty
  sent := []
  misused := false

/-- What `UpdateInfo` may do: nothing without an outstanding command, and at most one
message for each command. -/
structure OnlyAnswers (before : Watched Looper) (transId : Nat) (after : Watched Looper) : Prop where
  tasked : after.misused = false
  silent : ¬ Outstanding before transId → after.sent = [] ∧ after.hub = before.hub
  once : after.sent.length ≤ 1
  first : after.sent ≠ [] → ∃ session number,
    before.ledger.opened transId = some (session, number) ∧
      number ∉ before.ledger.answered ∧
      after.ledger.answered = before.ledger.answered ++ [number]

def Answering (before : Watched Looper) (event : Event) (after : Watched Looper) : Prop :=
  ∀ transId report, event = .updateInfo transId report → OnlyAnswers before transId after

/-- Data that a transcation can read reaches it while a command of it is outstanding. -/
def Awaited (state : Watched Looper) : Event → Prop
  | .updateInfo transId (some _) => Outstanding state transId
  | _ => True

def Tasked (hub : Hub Looper) (ledger : Ledger Nat SessionId) : Prop :=
  ∀ transId entry transcation, ledger.opened transId = some entry →
    hub.transcations.find? transId = some transcation → transcation.task ≠ none

structure Kept (state : Watched Looper) : Prop where
  usable : state.misused = false
  sound : state.ledger.Sound
  tasked : Tasked state.hub state.ledger

omit [EventLooper Looper TimerSink] in
theorem standing_sound {ledger : Ledger Nat SessionId} (sound : ledger.Sound)
    (hub : Hub Looper) : (standing hub ledger).Sound :=
  sound.prune _

omit [EventLooper Looper TimerSink] in
theorem standing_tasked {hub other : Hub Looper} {ledger : Ledger Nat SessionId}
    (tasked : Tasked hub ledger) : Tasked hub (standing other ledger) :=
  fun transId entry transcation opened =>
    tasked transId entry transcation (Ledger.opened_prune opened).1

theorem step_tasked {hub after : Hub Looper} {event : Event} {out : List Output}
    (taken : CommServer.step hub event = some (after, out)) {ledger : Ledger Nat SessionId}
    (tasked : Tasked hub ledger) : Tasked after ledger := by
  intro transId entry transcation opened found
  rcases Wiring.step_same_wiring taken with same | ⟨ip, memory, -, rfl⟩
  · rw [same.transcations] at found
    exact tasked transId entry transcation opened found
  · rw [Wiring.connection_transcations] at found
    obtain ⟨before, known, rfl⟩ := Option.map_eq_some_iff.mp found
    split
    · simp
    · exact tasked transId entry before opened known

omit [EventLooper Looper TimerSink] in
theorem note_down_sound {before after : Hub Looper} {transId : Nat} {frame : Frame}
    {ledger : Ledger Nat SessionId} (sound : ledger.Sound) :
    (noteDown before after transId frame ledger).Sound := by
  unfold noteDown
  split
  · split
    · exact (standing_sound sound after).issue _ _
    · exact standing_sound sound after
  · exact standing_sound sound after

omit [EventLooper Looper TimerSink] in
theorem note_down_tasked {before after : Hub Looper} {transId : Nat} {frame : Frame}
    {ledger : Ledger Nat SessionId} (tasked : Tasked before ledger) :
    Tasked before (noteDown before after transId frame ledger) := by
  unfold noteDown
  split
  · rename_i session issued
    split
    · intro other entry transcation opened found
      rw [Ledger.opened_issue] at opened
      split at opened
      · rename_i same
        subst same
        rw [found, Option.bind_some, Option.ite_none_right_eq_some] at issued
        rw [issued.2]
        simp
      · exact standing_tasked tasked other entry transcation opened found
    · exact standing_tasked tasked
  · exact standing_tasked tasked

theorem note_frame_kept {frame : Frame} {hub : Hub Looper} {ids : List Nat}
    {ledger : Ledger Nat SessionId} (sound : ledger.Sound) (tasked : Tasked hub ledger) :
    (noteFrame frame hub ids ledger).Sound ∧ Tasked hub (noteFrame frame hub ids ledger) := by
  induction ids generalizing hub ledger with
  | nil => exact ⟨sound, tasked⟩
  | cons transId rest ih =>
      rw [noteFrame]
      split
      · rename_i first downed
        have whole : onDownStream hub transId frame = some (first.1, first.2) := downed
        have same := (Wiring.down_stream_same_wiring whole).transcations
        have noted : Tasked first.1 (noteDown hub first.1 transId frame ledger) := by
          intro other entry transcation opened found
          rw [same] at found
          exact note_down_tasked tasked other entry transcation opened found
        obtain ⟨soundLater, taskedLater⟩ := ih (note_down_sound sound) noted
        refine ⟨soundLater, ?_⟩
        intro other entry transcation opened found
        rw [← same] at found
        exact taskedLater other entry transcation opened found
      · exact ⟨sound, tasked⟩

theorem note_kept {before after : Hub Looper} {sent : List Output}
    {ledger : Ledger Nat SessionId} (event : Event) (sound : ledger.Sound)
    (tasked : Tasked before ledger) :
    (note before after sent ledger event).Sound ∧
      Tasked before (note before after sent ledger event) := by
  cases event with
  | onFrame session frame =>
      simp only [note]
      split
      · exact note_frame_kept sound tasked
      · exact ⟨sound, tasked⟩
  | updateInfo transId report =>
      simp only [note]
      split
      · exact ⟨standing_sound sound after, standing_tasked tasked⟩
      · refine ⟨standing_sound (sound.answer transId) after, standing_tasked ?_⟩
        intro other entry transcation opened found
        rw [Ledger.opened_answer] at opened
        split at opened
        · cases opened
        · exact tasked other entry transcation opened found
  | onConnection ip memory => exact ⟨standing_sound sound after, standing_tasked tasked⟩
  | onTimer te => exact ⟨standing_sound sound after, standing_tasked tasked⟩
  | balanceData equipment steady => exact ⟨standing_sound sound after, standing_tasked tasked⟩
  | broadcast => exact ⟨standing_sound sound after, standing_tasked tasked⟩

/-- A step that occurs misuses `m_task`, or is a step of the hub that the observer notes. -/
theorem watched_step_cases {state next : Watched Looper} {event : Event} (kept : Kept state)
    (taken : watchedStep state event = some next) :
    (usesNoTask state.hub event = true ∧ next.misused = true) ∨
      (CommServer.step state.hub event = some (next.hub, next.sent) ∧
        next.ledger = note state.hub next.hub next.sent state.ledger event ∧
        Kept next) := by
  simp only [watchedStep, kept.usable, Bool.false_eq_true, if_false] at taken
  split at taken
  · rename_i misuse
    cases taken
    exact Or.inl ⟨misuse, rfl⟩
  · obtain ⟨result, stepped, same⟩ := Option.map_eq_some_iff.mp taken
    subst same
    have whole : CommServer.step state.hub event = some (result.1, result.2) := stepped
    obtain ⟨sound, tasked⟩ := note_kept event kept.sound kept.tasked
    exact Or.inr ⟨whole, rfl, rfl, sound, step_tasked whole tasked⟩

omit [EventLooper Looper TimerSink] in
theorem unread_answering {state next : Watched Looper} {transId : Nat}
    (kept : Kept next) (hub : next.hub = state.hub) (silent : next.sent = []) :
    OnlyAnswers state transId next where
  tasked := kept.usable
  silent _ := ⟨silent, hub⟩
  once := by
    rw [silent]
    exact Nat.zero_le 1
  first sent := absurd silent sent

theorem awaited_answering {state next : Watched Looper} {transId : Nat} {root : Json}
    (kept : Kept state) (awaited : Outstanding state transId)
    (taken : watchedStep state (.updateInfo transId (some root)) = some next) :
    Kept next ∧ OnlyAnswers state transId next := by
  obtain ⟨session, number, opened, running⟩ := awaited
  rcases watched_step_cases kept taken with ⟨misuse, -⟩ | ⟨stepped, ledger, keptNext⟩
  · simp only [usesNoTask] at misuse
    split at misuse
    · rename_i transcation found
      have tasked := kept.tasked transId _ transcation opened found
      have missing := (Bool.and_eq_true_iff.mp misuse).1
      exact absurd (Option.isNone_iff_eq_none.mp missing) tasked
    · cases misuse
  · refine ⟨keptNext, ?_⟩
    have reported : onUpdateInfo state.hub transId (some root) = some (next.hub, next.sent) := stepped
    rcases Wiring.update_info_hub_cases reported with ⟨unread, -, -⟩ |
      ⟨_, transcation, client, message, -, -, -, -, sent, -⟩
    · cases unread
    · have answered : next.ledger.answered = (state.ledger.answer transId).answered := by
        rw [ledger, sent]
        rfl
      constructor
      · exact keptNext.usable
      · intro idle
        exact absurd ⟨session, number, opened, running⟩ idle
      · rw [sent]
        exact Nat.le_refl 1
      · intro _
        refine ⟨session, number, opened, kept.sound.unanswered transId session number opened, ?_⟩
        rw [answered, Ledger.answered_answer opened]

theorem step_answers (state : Watched Looper) (event : Event) (next : Watched Looper)
    (kept : Kept state) (awaited : Awaited state event)
    (taken : watchedStep state event = some next) : Kept next ∧ Answering state event next := by
  have other (harmless : usesNoTask state.hub event = false) : Kept next := by
    rcases watched_step_cases kept taken with ⟨misuse, -⟩ | ⟨-, -, keptNext⟩
    · rw [harmless] at misuse
      cases misuse
    · exact keptNext
  have quiet (foreign : ∀ transId report, event ≠ .updateInfo transId report) :
      Answering state event next :=
    fun transId report same => absurd same (foreign transId report)
  cases event with
  | updateInfo transId report =>
      cases report with
      | some root =>
          obtain ⟨keptNext, answers⟩ := awaited_answering kept awaited taken
          refine ⟨keptNext, ?_⟩
          intro id report same
          cases same
          exact answers
      | none =>
          rcases watched_step_cases kept taken with ⟨misuse, -⟩ | ⟨stepped, -, keptNext⟩
          · cases misuse
          · refine ⟨keptNext, ?_⟩
            intro id report same
            cases same
            have reported : onUpdateInfo state.hub transId none = some (next.hub, next.sent) :=
              stepped
            rcases Wiring.update_info_hub_cases reported with ⟨-, hub, silent⟩ |
              ⟨root, _, _, _, read, -⟩
            · exact unread_answering keptNext hub silent
            · cases read
  | onConnection ip memory => exact ⟨other rfl, quiet (by simp)⟩
  | onFrame session frame => exact ⟨other rfl, quiet (by simp)⟩
  | onTimer te => exact ⟨other rfl, quiet (by simp)⟩
  | balanceData equipment steady => exact ⟨other rfl, quiet (by simp)⟩
  | broadcast => exact ⟨other rfl, quiet (by simp)⟩

theorem step_unawaited (state : Watched Looper) (event : Event) (next : Watched Looper)
    (kept : Kept state) (unawaited : ¬ Awaited state event)
    (taken : watchedStep state event = some next) : ¬ Answering state event next := by
  intro answering
  cases event with
  | updateInfo transId report =>
      cases report with
      | none => exact unawaited trivial
      | some root =>
          have answers := answering transId (some root) rfl
          rcases watched_step_cases kept taken with ⟨-, misused⟩ | ⟨stepped, -, -⟩
          · have usable := answers.tasked
            rw [misused] at usable
            cases usable
          · have silent := (answers.silent unawaited).1
            have reported : onUpdateInfo state.hub transId (some root) =
                some (next.hub, next.sent) := stepped
            rcases Wiring.update_info_hub_cases reported with ⟨unread, -, -⟩ |
              ⟨_, _, _, _, -, -, -, -, sent, -⟩
            · cases unread
            · rw [silent] at sent
              cases sent
  | onConnection ip memory => exact unawaited trivial
  | onFrame session frame => exact unawaited trivial
  | onTimer te => exact unawaited trivial
  | balanceData equipment steady => exact unawaited trivial
  | broadcast => exact unawaited trivial

/-- Over every run `UpdateInfo` only answers outstanding commands, each once, and never
uses a missing task, if and only if readable data arrives only while it is awaited. -/
theorem only_answers_iff_awaited (transcations : StdMap Nat Transcation) (looper : Looper)
    (events : List Event) :
    EachStep watchedStep Answering (Watched.start transcations looper) events ↔
      Guarded watchedStep Awaited (Watched.start transcations looper) events := by
  apply each_step_iff_guarded step_answers step_unawaited
  refine ⟨rfl, Ledger.empty_sound, ?_⟩
  intro transId entry transcation opened
  cases opened

/-- A client that has asked nothing gets a message when its device speaks up. -/
theorem spontaneous_data_sent :
    ¬ EachStep watchedStep Answering
      (Watched.start OneReply.balanceAndSolder (EventLooperImp.empty : EventLooperImp TimerSink))
      [.onConnection "10.0.0.1" ⟨none, 0⟩,
        .updateInfo 2 (some (OneReply.ask "GetSpitParam").report)] := by
  intro answering
  have reported := ((answering _ rfl).2 _ rfl).1
  have silent := (reported 2 _ rfl).silent (by
    intro outstanding
    obtain ⟨session, number, opened, -⟩ := outstanding
    cases opened)
  exact absurd silent.1 (List.cons_ne_nil _ _)

/-- Data before the first client dereferences the null `m_task`. -/
example :
    ¬ EachStep watchedStep Answering
      (Watched.start OneReply.balanceAndSolder (EventLooperImp.empty : EventLooperImp TimerSink))
      [.updateInfo 2 (some (OneReply.ask "GetSpitParam").report)] := by
  intro answering
  have reported := (answering _ rfl).1
  exact absurd (reported 2 _ rfl).tasked (by decide)

end DevHub.DeviceData
