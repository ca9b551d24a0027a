import DevHub.Plc.Fins

/-!
When the FINS session is there for every call. The detect timer looks at `m_sys` before
it reads a command; `UpdateInfo` and the timeout of a busy `PlcFins` do not, and another
`PlcFins` may have dropped the session that they share.
-/

namespace DevHub.FinsSession

open PlcFins Transition

set_option autoImplicit false

variable {ι : Type}

def inSession : Output ι → Prop
  | .fins _ sys _ => sys ≠ none
  | .writeData _ _ => True

/-- `m_connectionStatus` is `CONNECT_OK` exactly when `m_sys` is not null. -/
def Matches (plc : Plc) : Prop := plc.connectionStatus = .connectOk ↔ plc.sys ≠ none

/-- The callback made its FINS calls within a session, and left the status right. -/
def CallsInSession (_before : State ι) (_event : Event ι) (after : State ι) : Prop :=
  (∀ output ∈ after.emitted, inSession output) ∧ Matches after.plc

/-- A callback that will not look at `m_sys` finds a session. -/
def HasSession (state : State ι) : Event ι → Prop
  | .updateInfo _ .unreadable _ _ => True
  | .updateInfo _ _ _ _ => state.plc.sys ≠ none
  | .detect client timeUse _ _ =>
      state.status client = .busy → timeUse > 15000 → state.plc.sys ≠ none
  | _ => True

theorem disconnected_matches : Matches { connectionStatus := .connectNo, sys := none } := by
  constructor
  · intro connected
    cases connected
  · intro session
    exact absurd rfl session

theorem append_in_session {outputs : List (Output ι)} {output : Output ι}
    (calls : ∀ earlier ∈ outputs, inSession earlier) (last : inSession output) :
    ∀ other ∈ outputs ++ [output], inSession other :=
  List.forall_mem_append.mpr ⟨calls, List.forall_mem_singleton.mpr last⟩

def Sound (state : State ι) : Prop :=
  (∀ output ∈ state.emitted, inSession output) ∧ Matches state.plc

theorem on_disconnect_sound {state : State ι} (client : ι)
    (calls : ∀ output ∈ state.emitted, inSession output) (session : state.plc.sys ≠ none) :
    Sound (onDisconnect state client) :=
  ⟨append_in_session calls session, disconnected_matches⟩

variable [DecidableEq ι]

theorem write_command_in_session {state : State ι} (client : ι) (value : UInt16) (outcome : Bool)
    (calls : ∀ output ∈ state.emitted, inSession output) (session : state.plc.sys ≠ none) :
    ∀ output ∈ (writeCommand state client value outcome).emitted, inSession output := by
  rw [write_command_emitted]
  exact append_in_session calls session

theorem write_command_sound {state : State ι} (client : ι) (value : UInt16) (outcome : Bool)
    (sound : Sound state) (session : state.plc.sys ≠ none) :
    Sound (writeCommand state client value outcome) := by
  refine ⟨write_command_in_session client value outcome sound.1 session, ?_⟩
  rw [write_command_plc]
  exact sound.2

theorem detect_idle_sound {state : State ι} (client : ι) (read write : Bool) (sound : Sound state) :
    Sound (detectIdle state client read write) := by
  unfold detectIdle
  split
  · exact sound
  · rename_i session
    have called : Sound (call state client .readWord) :=
      ⟨append_in_session sound.1 session, sound.2⟩
    dsimp only
    split
    · exact on_disconnect_sound client called.1 session
    · split
      · have sent : Sound (emit (call state client .readWord) (.writeData client "%ET")) :=
          ⟨append_in_session called.1 trivial, called.2⟩
        exact write_command_sound client 0 write sent session
      · split
        · exact ⟨append_in_session called.1 trivial, called.2⟩
        · exact called

theorem detect_busy_sound {state : State ι} (client : ι) {timeUse : Int} (write : Bool)
    (sound : Sound state) (session : timeUse > 15000 → state.plc.sys ≠ none) :
    Sound (detectBusy state client timeUse write) := by
  unfold detectBusy
  split
  · rename_i late
    have called := write_command_sound client errorTimeout write sound (session late)
    dsimp only
    split
    · apply on_disconnect_sound client called.1
      rw [write_command_plc]
      exact session late
    · exact called
  · exact sound

theorem update_info_sound {state : State ι} (client : ι) {info : Info} (data command : Bool)
    (sound : Sound state) (session : HasSession state (.updateInfo client info data command)) :
    Sound (updateInfo state client info data command) := by
  cases info with
  | error => exact write_command_sound client errorResult command sound session
  | unreadable => exact sound
  | value symbol value =>
      have called : Sound (call state client (.writeInt32 (valueText symbol value))) :=
        ⟨append_in_session sound.1 session, sound.2⟩
      simp only [updateInfo]
      split
      · exact on_disconnect_sound client called.1 session
      · exact write_command_sound client 0 command called session

omit [DecidableEq ι] in
theorem plc_connect_sound {state : State ι} (sys : Option Nat) (errorVal : Int)
    (sound : Sound state) : Sound (plcConnect state sys errorVal).2 := by
  unfold plcConnect
  split
  · exact sound
  · rename_i connectNo
    split
    · refine ⟨sound.1, ?_⟩
      constructor
      · intro connected
        exact absurd connected connectNo
      · intro session
        exact absurd rfl session
    · rename_i connected
      refine ⟨sound.1, iff_of_true rfl ?_⟩
      intro null
      exact connected (Or.inl null)

theorem on_reconnect_sound {state : State ι} (client : ι) (sys : Option Nat) (errorVal : Int)
    (sound : Sound state) : Sound (onReconnect state client sys errorVal) := by
  have connected := plc_connect_sound sys errorVal sound
  unfold onReconnect
  split
  · dsimp only
    split
    · exact connected
    · exact connected
  · exact sound

theorem step_in_session {state next : State ι} {event : Event ι} (matched : Matches state.plc)
    (session : HasSession state event) (taken : step state event = some next) :
    CallsInSession state event next := by
  have quiet : Sound { state with emitted := [] } := ⟨fun _ member => (nomatch member), matched⟩
  cases event with
  | detect client timeUse read write =>
      simp only [step] at taken
      cases status : state.status client with
      | idel =>
          simp only [status] at taken
          cases taken
          exact detect_idle_sound client read write quiet
      | busy =>
          simp only [status] at taken
          cases taken
          exact detect_busy_sound client write quiet (session status)
  | valuePolling client =>
      cases taken
      unfold onValuePolling
      split
      · exact ⟨append_in_session quiet.1 trivial, quiet.2⟩
      · exact quiet
  | reconnect client sys errorVal =>
      cases taken
      exact on_reconnect_sound client sys errorVal quiet
  | updateInfo client info data command =>
      cases taken
      exact update_info_sound client data command quiet session
  | plcWrites client word =>
      cases taken
      exact quiet

/-- A callback that does not find a session makes its first call without one. -/
theorem step_without_session {state next : State ι} {event : Event ι}
    (missing : ¬ HasSession state event) (taken : step state event = some next) :
    ¬ CallsInSession state event next := by
  intro sound
  cases event with
  | detect client timeUse read write =>
      simp only [HasSession, Classical.not_imp, not_not] at missing
      obtain ⟨busy, late, null⟩ := missing
      simp only [step, busy] at taken
      cases taken
      apply sound.1 (.fins client none (.writeWord errorTimeout)) ?_ rfl
      simp [detectBusy, late, reaches, null, onDisconnect, call, emit]
  | updateInfo client info data command =>
      cases info with
      | unreadable => exact missing trivial
      | error =>
          have null : state.plc.sys = none := not_not.mp missing
          cases taken
          apply sound.1 (.fins client none (.writeWord errorResult)) ?_ rfl
          simp [updateInfo, setStatus, null]
      | value symbol value =>
          have null : state.plc.sys = none := not_not.mp missing
          cases taken
          apply sound.1 (.fins client none (.writeInt32 (valueText symbol value))) ?_ rfl
          simp [updateInfo, reaches, null, onDisconnect, call, emit]
  | valuePolling client => exact missing trivial
  | reconnect client sys errorVal => exact missing trivial
  | plcWrites client word => exact missing trivial

/-- In every run of any number of `PlcFins` objects, all FINS calls are made within a
session, and the status tells whether there is one, exactly when every callback that does
not look at `m_sys` finds a session. -/
theorem in_session_iff (word : ι → UInt16) (events : List (Event ι)) :
    EachStep step CallsInSession (State.start word) events ↔
      Guarded step HasSession (State.start word) events := by
  have keeps (state : State ι) (event : Event ι) (next : State ι) (matched : Matches state.plc)
      (session : HasSession state event) (taken : step state event = some next) :
      Matches next.plc ∧ CallsInSession state event next := by
    have sound := step_in_session matched session taken
    exact ⟨sound.2, sound⟩
  have breaks (state : State ι) (event : Event ι) (next : State ι) (_ : Matches state.plc)
      (missing : ¬ HasSession state event) (taken : step state event = some next) :
      ¬ CallsInSession state event next := step_without_session missing taken
  exact each_step_iff_guarded keeps breaks disconnected_matches

/-- A balance reports a bad frame before the PLC was ever connected. -/
theorem unconnected_write :
    ¬ EachStep step CallsInSession (State.start fun _ : Unit => 0)
        [.updateInfo () (balanceInfo .errorFrame) true true] := by
  intro sound
  have calls := (sound _ rfl).1.1
  exact calls (.fins () none (.writeWord errorResult)) (by simp [updateInfo, balanceInfo, setStatus,
    State.start]) rfl

end DevHub.FinsSession
