import DevHub.Equipment.Isolation

/-!
One controller that is alone in its process. `OnData` is here in two parts: `decode` is the
loop over the received bytes, which makes calls of the state machine out of them and keeps
the bytes of an open frame, and `serve` is what the state machine does with a call. The
process with the static objects follows the two.
-/

namespace DevHub.LoneCtrl

open Sequence SolderCtrls Transition Isolation

set_option autoImplicit false

/-- A call of `RecvUpstream`: with a whole read that begins with an ACK, or with the bytes
of a frame. -/
inductive Call where
  | read (data : List UInt8)
  | frame (data : List UInt8)
  deriving DecidableEq

/-- What the handler finds at its pointer. -/
def Call.data : Call → List UInt8
  | read data => data
  | frame data => frameBuffer data

/-- The copy of a frame that does not fit runs over `buf`. -/
def Call.copied : Call → List Effect
  | read _ => []
  | frame data => if data.length ≤ 100 then [] else [.outside]

def decodeBytes (equipData : List UInt8) : List UInt8 → List Call × List UInt8
  | [] => ([], equipData)
  | byte :: rest =>
      if byte ≠ etx then decodeBytes (equipData ++ [byte]) rest
      else
        let later := decodeBytes [] rest
        (.frame equipData :: later.1, later.2)

def decode (equipData data : List UInt8) : List Call × List UInt8 :=
  if data.head? = some Sequence.ack then ([.read data], equipData) else decodeBytes equipData data

def serve (convert : Int → String) (type : SequenceType) (state : SequenceState) (call : Call) :
    SequenceState × List Effect :=
  match recvUpstream convert type state call.data with
  | none => (state, call.copied)
  | some reaction => (reaction.next, call.copied ++ reaction.effects)

def serveAll (convert : Int → String) (type : SequenceType) (state : SequenceState) :
    List Call → SequenceState × List Effect
  | [] => (state, [])
  | call :: rest =>
      let first := serve convert type state call
      let later := serveAll convert type first.1 rest
      (later.1, first.2 ++ later.2)

def receive (convert : Int → String) (ctrl : SolderCtrl) (data : List UInt8) :
    SolderCtrl × List Effect :=
  let decoded := decode ctrl.equipData data
  let served := serveAll convert ctrl.type ctrl.state decoded.1
  ({ ctrl with state := served.1, equipData := decoded.2 }, served.2)

/-! ### What a call finds -/

theorem frame_buffer_length (data : List UInt8) : 100 ≤ (frameBuffer data).length := by
  rw [frameBuffer, List.rightpad, List.length_append, List.length_replicate]
  omega

def FitsBuf : Call → Prop
  | .read _ => True
  | .frame data => data.length ≤ 100

/-- The call fits, and the state finds what it reads. -/
def Within (convert : Int → String) (type : SequenceType) (state : SequenceState) (call : Call) :
    Prop :=
  FitsBuf call ∧ Readable convert type state call.data

theorem serve_inside_iff {convert : Int → String} {type : SequenceType} {state : SequenceState}
    {call : Call} :
    .outside ∉ (serve convert type state call).2 ↔ Within convert type state call := by
  have copied : .outside ∉ call.copied ↔ FitsBuf call := by
    cases call with
    | read data => exact iff_of_true List.not_mem_nil trivial
    | frame data =>
        simp only [Call.copied]
        by_cases short : data.length ≤ 100
        · rw [if_pos short]
          exact iff_of_true List.not_mem_nil short
        · rw [if_neg short]
          exact iff_of_false (not_not.mpr List.mem_cons_self) short
  rw [Within, ← copied, serve]
  cases reacts : recvUpstream convert type state call.data with
  | none =>
      have readable : Readable convert type state call.data := by
        cases state with
        | idle => trivial
        | upLoad => trivial
        | upLoadRep => cases reacts
        | upLoadRepA0 => cases reacts
      exact (and_iff_left readable).symm
  | some reaction =>
      have inside := not_iff_not.mpr (outside_iff_unreadable reacts)
      rw [not_not] at inside
      rw [List.mem_append, not_or, inside]

/-! ### The process follows the lone controller -/

variable {process : Process} {equip : Nat} {ctrl : SolderCtrl}

theorem copy_follows (found : process.ctrls equip = some ctrl) (frame : List UInt8) :
    Follows process equip ctrl.state (ctrl, (Call.frame frame).copied)
      (copyFrame process equip frame) := by
  simp only [copyFrame, Call.copied]
  by_cases short : frame.length ≤ 100
  · rw [if_pos short, if_pos short]
    exact follows_nothing found
  · rw [if_neg short, if_neg short]
    exact ⟨(follows_nothing found).ctrls, rfl, Iff.rfl⟩

theorem upstream_follows (convert : Int → String) (found : process.ctrls equip = some ctrl)
    (owned : process.sequenceEquipmen ctrl.state = some equip) (data : List UInt8) :
    ∃ after, recvUpstreamOf convert process equip data = some after ∧
      Follows process equip ctrl.state
        (soloReact ctrl (recvUpstream convert ctrl.type ctrl.state data)) after := by
  rw [recv_upstream_of found]
  obtain ⟨after, taken⟩ := Option.isSome_iff_exists.mp (call_returns found owned
    fun type => recvUpstream convert type ctrl.state data)
  refine ⟨after, taken, call_follows found ?_ (fun _ => owned) taken⟩
  intro type
  exact recv_upstream_acts convert type ctrl.type ctrl.state data

theorem react_serve (convert : Int → String) (ctrl : SolderCtrl) (call : Call) :
    let reacted := soloReact ctrl (recvUpstream convert ctrl.type ctrl.state call.data)
    (reacted.1, call.copied ++ reacted.2) =
      ({ ctrl with state := (serve convert ctrl.type ctrl.state call).1 },
        (serve convert ctrl.type ctrl.state call).2) := by
  unfold serve
  cases recvUpstream convert ctrl.type ctrl.state call.data with
  | none => simp only [soloReact, List.append_nil]
  | some reaction => rfl

theorem read_follows (convert : Int → String) (found : process.ctrls equip = some ctrl)
    (owned : process.sequenceEquipmen ctrl.state = some equip) (data : List UInt8) :
    ∃ after, recvUpstreamOf convert process equip data = some after ∧
      Follows process equip ctrl.state
        ({ ctrl with state := (serve convert ctrl.type ctrl.state (.read data)).1 },
          (serve convert ctrl.type ctrl.state (.read data)).2) after := by
  obtain ⟨after, taken, follows⟩ := upstream_follows convert found owned data
  refine ⟨after, taken, ?_⟩
  rw [← react_serve convert ctrl (.read data)]
  exact follows

theorem frame_follows (convert : Int → String) (found : process.ctrls equip = some ctrl)
    (owned : process.sequenceEquipmen ctrl.state = some equip) :
    ∃ after, receiveByte convert process equip etx = some after ∧
      Follows process equip ctrl.state
        ({ ctrl with
            state := (serve convert ctrl.type ctrl.state (.frame ctrl.equipData)).1
            equipData := [] },
          (serve convert ctrl.type ctrl.state (.frame ctrl.equipData)).2) after := by
  have copied := copy_follows found ctrl.equipData
  obtain ⟨served, call, reacted⟩ := upstream_follows convert (follows_here copied)
    (copied.owned.mpr owned) (frameBuffer ctrl.equipData)
  have follows := follows_trans copied reacted
  have same := react_serve convert ctrl (.frame ctrl.equipData)
  rw [Call.data] at same
  rw [same] at follows
  have cleared := follows_trans follows (follows_put
    { ctrl with
      state := (serve convert ctrl.type ctrl.state (.frame ctrl.equipData)).1
      equipData := [] } rfl)
  rw [List.append_nil] at cleared
  refine ⟨_, ?_, cleared⟩
  rw [receiveByte, if_neg (by simp), found, Option.bind_some, call, Option.bind_some, clearData,
    follows_here follows, Option.map_some]

theorem bytes_follow (convert : Int → String) (data : List UInt8)
    (found : process.ctrls equip = some ctrl)
    (owned : process.sequenceEquipmen ctrl.state = some equip) :
    ∃ after, receiveBytes convert equip data process = some after ∧
      Follows process equip ctrl.state
        ({ ctrl with
            state := (serveAll convert ctrl.type ctrl.state
              (decodeBytes ctrl.equipData data).1).1
            equipData := (decodeBytes ctrl.equipData data).2 },
          (serveAll convert ctrl.type ctrl.state (decodeBytes ctrl.equipData data).1).2) after := by
  induction data generalizing process ctrl with
  | nil => exact ⟨process, rfl, follows_nothing found⟩
  | cons byte rest ih =>
      by_cases ends : byte = etx
      · subst ends
        obtain ⟨middle, first, early⟩ := frame_follows convert found owned
        obtain ⟨after, later, late⟩ := ih (follows_here early) (early.owned.mpr owned)
        refine ⟨after, by rw [receiveBytes, first, Option.bind_some, later], ?_⟩
        have both := follows_trans early late
        simp only [decodeBytes, ne_eq, not_true_eq_false, if_false, serveAll]
        exact both
      · have early : Follows process equip ctrl.state
            ({ ctrl with equipData := ctrl.equipData ++ [byte] }, [])
            (process.put equip { ctrl with equipData := ctrl.equipData ++ [byte] }) :=
          follows_put _ rfl
        obtain ⟨after, later, late⟩ := ih (follows_here early) (early.owned.mpr owned)
        refine ⟨after, ?_, ?_⟩
        · rw [receiveBytes, receiveByte, if_pos ends, pushByte, found, Option.map_some,
            Option.bind_some, later]
        · have both := follows_trans early late
          rw [decodeBytes, if_pos ends]
          exact both

theorem data_follows (convert : Int → String) (first : UInt8) (rest : List UInt8)
    (found : process.ctrls equip = some ctrl)
    (owned : process.sequenceEquipmen ctrl.state = some equip) :
    ∃ after, onData convert process equip (first :: rest) = some after ∧
      Follows process equip ctrl.state (receive convert ctrl (first :: rest)) after := by
  rw [onData, if_neg (List.cons_ne_nil _ _)]
  simp only [receive, decode]
  by_cases starts : (first :: rest).head? = some Sequence.ack
  · rw [if_pos starts, if_pos starts]
    simp only [serveAll, List.append_nil]
    exact read_follows convert found owned (first :: rest)
  · rw [if_neg starts, if_neg starts]
    exact bytes_follow convert (first :: rest) found owned

end DevHub.LoneCtrl
