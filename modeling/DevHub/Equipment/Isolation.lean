import DevHub.Equipment.SolderCtrl

/-!
When the controllers of a process do not disturb each other. The `solo` functions
say what one controller does with its own input; a step of the process follows them
exactly when the static object of the controller's state still points to it and the
input has the bytes that the handlers read.
-/

namespace DevHub.Isolation

open Sequence SolderCtrls Transition

set_option autoImplicit false

/-! ### One controller alone -/

def soloReact (ctrl : SolderCtrl) : Option Reaction → SolderCtrl × List Effect
  | none => (ctrl, [])
  | some reaction => ({ ctrl with state := reaction.next }, reaction.effects)

def soloFrame (convert : Int → String) (ctrl : SolderCtrl) (data : List UInt8) :
    SolderCtrl × List Effect :=
  soloReact ctrl (recvUpstream convert ctrl.type ctrl.state data)

def soloByte (convert : Int → String) (ctrl : SolderCtrl) (byte : UInt8) :
    SolderCtrl × List Effect :=
  if byte ≠ etx then ({ ctrl with equipData := ctrl.equipData ++ [byte] }, [])
  else
    let served := soloFrame convert ctrl (frameBuffer ctrl.equipData)
    ({ served.1 with equipData := [] }, served.2)

def soloBytes (convert : Int → String) (ctrl : SolderCtrl) :
    List UInt8 → SolderCtrl × List Effect
  | [] => (ctrl, [])
  | byte :: rest =>
      let first := soloByte convert ctrl byte
      let later := soloBytes convert first.1 rest
      (later.1, first.2 ++ later.2)

def soloEvent (convert : Int → String) (event : Event) :
    Option SolderCtrl → Option (SolderCtrl × List Effect)
  | none =>
      match event with
      | .construct _ type => some ({ type := type, state := .idle, equipData := [] }, [])
      | _ => none
  | some ctrl =>
      match event with
      | .construct _ _ => none
      | .recvCommand _ cmd => some (soloReact ctrl (recvDownStream ctrl.state cmd))
      | .onData _ data =>
          if data = [] then none
          else if data.head? = some Sequence.ack then some (soloFrame convert ctrl data)
          else some (soloBytes convert ctrl data)
      | .onTaskTimeout _ => some ({ ctrl with state := .idle }, [])

/-! ### The guard -/

def Readable (convert : Int → String) (type : SequenceType) (state : SequenceState)
    (data : List UInt8) : Prop :=
  match state with
  | .upLoadRep => (reportedParams convert type data).isSome = true
  | .upLoadRepA0 =>
      3 < data.length ∧ (data[3]? = some 'A'.toUInt8 → 4 < data.length)
  | _ => True

/-- A state that acts on the data belongs to the controller and finds what it reads. -/
def FrameFits (convert : Int → String) (owned : Prop) (ctrl : SolderCtrl)
    (data : List UInt8) : Prop :=
  recvUpstream convert ctrl.type ctrl.state data ≠ none →
    owned ∧ Readable convert ctrl.type ctrl.state data

/-- Every frame that the bytes complete fits `buf` and the state that is then current. -/
def BytesFit (convert : Int → String) (owned : Prop) (ctrl : SolderCtrl) : List UInt8 → Prop
  | [] => True
  | byte :: rest =>
      (byte = etx → ctrl.equipData.length ≤ 100 ∧
        FrameFits convert owned ctrl (frameBuffer ctrl.equipData)) ∧
        BytesFit convert owned (soloByte convert ctrl byte).1 rest

def Fits (convert : Int → String) (owned : Prop) (ctrl : SolderCtrl) : Event → Prop
  | .recvCommand _ cmd => recvDownStream ctrl.state cmd ≠ none → owned
  | .onData _ data =>
      if data.head? = some Sequence.ack then FrameFits convert owned ctrl data
      else BytesFit convert owned ctrl data
  | _ => True

/-- The static object of the controller's state was last pointed at the controller,
unless the input leaves the state alone, and the input can be read. -/
def Owned (convert : Int → String) (process : Process) (event : Event) : Prop :=
  ∀ ctrl, process.ctrls event.equip = some ctrl →
    Fits convert (process.sequenceEquipmen ctrl.state = some event.equip) ctrl event

/-- The step writes and reports through the controller of the event only, reads no
memory but its input, and changes the state of no other controller. -/
def Isolated (before : Process) (event : Event) (after : Process) : Prop :=
  (∃ new, after.log = before.log ++ new ∧
    ∀ output ∈ new, output.equip = event.equip ∧ output.effect ≠ .outside) ∧
    ∀ other, other ≠ event.equip →
      (after.ctrls other).map SolderCtrl.state = (before.ctrls other).map SolderCtrl.state

def tagged (equip : Nat) (effects : List Effect) : List Output :=
  effects.map fun effect => { equip := equip, effect := effect }

theorem fits_mono {convert : Int → String} {owned other : Prop} (weaker : owned → other)
    {ctrl : SolderCtrl} {event : Event} (fits : Fits convert owned ctrl event) :
    Fits convert other ctrl event := by
  have frame {ctrl : SolderCtrl} {data : List UInt8}
      (fits : FrameFits convert owned ctrl data) : FrameFits convert other ctrl data :=
    fun acts => ⟨weaker (fits acts).1, (fits acts).2⟩
  have bytes (data : List UInt8) (ctrl : SolderCtrl) (fits : BytesFit convert owned ctrl data) :
      BytesFit convert other ctrl data := by
    induction data generalizing ctrl with
    | nil => trivial
    | cons byte rest ih =>
        obtain ⟨head, tail⟩ := fits
        exact ⟨fun ends => ⟨(head ends).1, frame (head ends).2⟩, ih _ tail⟩
  cases event with
  | construct equip type => trivial
  | recvCommand equip cmd => exact fun acts => weaker (fits acts)
  | onData equip data =>
      simp only [Fits] at fits ⊢
      split at fits
      · rename_i starts
        rw [if_pos starts]
        exact frame fits
      · rename_i starts
        rw [if_neg starts]
        exact bytes data ctrl fits
  | onTaskTimeout equip => trivial

theorem outside_iff_unreadable {convert : Int → String} {type : SequenceType}
    {state : SequenceState} {data : List UInt8} {reaction : Reaction}
    (reacts : recvUpstream convert type state data = some reaction) :
    .outside ∈ reaction.effects ↔ ¬ Readable convert type state data := by
  cases state with
  | idle => cases reacts
  | upLoad =>
      apply iff_of_false
      · rw [recvUpstream] at reacts
        unfold upLoadRecvUpstream at reacts
        split at reacts
        · split at reacts
          · obtain rfl := Option.some.inj reacts
            simp
          · obtain rfl := Option.some.inj reacts
            simp
        · cases reacts
      · simp [Readable]
  | upLoadRep =>
      obtain rfl := Option.some.inj reacts
      simp only [upLoadRepRecvUpstream, Readable]
      cases reportedParams convert type data with
      | none => simp
      | some resp => simp
  | upLoadRepA0 =>
      obtain rfl := Option.some.inj reacts
      simp only [upLoadRepA0RecvUpstream, Readable]
      split
      · rename_i missing
        have short : ¬ 3 < data.length := by simpa using missing
        simp [short]
      · rename_i first found
        have long : 3 < data.length := (List.getElem?_eq_some_iff.mp found).1
        by_cases letter : first = 'A'.toUInt8
        · rw [if_pos letter]
          split
          · rename_i missing
            have short : ¬ 4 < data.length := by simpa using missing
            simp [found, letter, short]
          · rename_i second foundSecond
            have longer : 4 < data.length := (List.getElem?_eq_some_iff.mp foundSecond).1
            split <;> simp [longer, long]
        · rw [if_neg letter]
          apply iff_of_false
          · simp
          · rw [not_not]
            refine ⟨long, ?_⟩
            intro same
            exact absurd (Option.some.inj (found.symm.trans same)) letter

/-! ### Steps that follow the lone controller -/

/-- The step did to its controller what `result` says, and nothing else but to the
static objects; the controller keeps the static object of its state if it had it. -/
structure Follows (process : Process) (equip : Nat) (before : SequenceState)
    (result : SolderCtrl × List Effect) (after : Process) : Prop where
  ctrls : after.ctrls = Function.update process.ctrls equip (some result.1)
  log : after.log = process.log ++ tagged equip result.2
  owned : after.sequenceEquipmen result.1.state = some equip ↔
    process.sequenceEquipmen before = some equip

theorem follows_here {process after : Process} {equip : Nat} {before : SequenceState}
    {result : SolderCtrl × List Effect} (follows : Follows process equip before result after) :
    after.ctrls equip = some result.1 := by
  rw [follows.ctrls, Function.update_self]

theorem follows_trans {process middle after : Process} {equip : Nat} {before : SequenceState}
    {first later : SolderCtrl × List Effect} (early : Follows process equip before first middle)
    (late : Follows middle equip first.1.state later after) :
    Follows process equip before (later.1, first.2 ++ later.2) after where
  ctrls := by rw [late.ctrls, early.ctrls, Function.update_idem]
  log := by
    rw [late.log, early.log, List.append_assoc, tagged, tagged, tagged, List.map_append]
  owned := late.owned.trans early.owned

theorem follows_nothing {process : Process} {equip : Nat} {ctrl : SolderCtrl}
    (found : process.ctrls equip = some ctrl) :
    Follows process equip ctrl.state (ctrl, []) process where
  ctrls := by rw [← found, Function.update_eq_self]
  log := (List.append_nil _).symm
  owned := Iff.rfl

theorem follows_put {process : Process} {equip : Nat} {ctrl : SolderCtrl} (changed : SolderCtrl)
    (same : changed.state = ctrl.state) :
    Follows process equip ctrl.state (changed, []) (process.put equip changed) where
  ctrls := rfl
  log := (List.append_nil _).symm
  owned := by rw [same]; exact Iff.rfl

theorem follows_advance {process : Process} {equip : Nat} {ctrl : SolderCtrl}
    {reaction : Reaction} (owned : process.sequenceEquipmen ctrl.state = some equip) :
    Follows process equip ctrl.state ({ ctrl with state := reaction.next }, reaction.effects)
      (process.advance equip ctrl reaction) where
  ctrls := rfl
  log := rfl
  owned := by
    simp only [Process.advance, Function.update_self]
    exact iff_of_true trivial owned

/-- A handler that acts for some type acts for every type, so the reaction of the
static object's own controller decides like that of the one that got the input. -/
theorem call_follows {process after : Process} {equip : Nat} {ctrl : SolderCtrl}
    {handler : SequenceType → Option Reaction} (found : process.ctrls equip = some ctrl)
    (uniform : ∀ type, (handler type).isSome = (handler ctrl.type).isSome)
    (owned : handler ctrl.type ≠ none → process.sequenceEquipmen ctrl.state = some equip)
    (taken : callState process ctrl.state handler = some after) :
    Follows process equip ctrl.state (soloReact ctrl (handler ctrl.type)) after := by
  obtain ⟨owner, points, rest⟩ := Option.bind_eq_some_iff.mp taken
  obtain ⟨other, foundOwner, moved⟩ := Option.map_eq_some_iff.mp rest
  cases reacts : handler ctrl.type with
  | none =>
      have silent : handler other.type = none := by
        have same := uniform other.type
        rw [reacts] at same
        exact Option.isNone_iff_eq_none.mp (by simpa using same)
      rw [silent] at moved
      subst moved
      exact follows_nothing found
  | some reaction =>
      have points' := owned (by rw [reacts]; simp)
      obtain rfl := Option.some.inj (points.symm.trans points')
      obtain rfl := Option.some.inj (found.symm.trans foundOwner)
      rw [reacts] at moved
      subst moved
      exact follows_advance points'

theorem call_returns {process : Process} {equip : Nat} {ctrl : SolderCtrl}
    (found : process.ctrls equip = some ctrl)
    (owned : process.sequenceEquipmen ctrl.state = some equip)
    (handler : SequenceType → Option Reaction) :
    (callState process ctrl.state handler).isSome = true := by
  rw [callState, owned, Option.bind_some, found, Option.map_some, Option.isSome_some]

/-- Where the static object points elsewhere, or the handler reads outside its data,
the call shows it in the log. -/
theorem call_breaks {process after : Process} {equip : Nat} {ctrl : SolderCtrl}
    {handler : SequenceType → Option Reaction} (found : process.ctrls equip = some ctrl)
    (uniform : ∀ type, (handler type).isSome = (handler ctrl.type).isSome)
    (effects : ∀ type reaction, handler type = some reaction → reaction.effects ≠ [])
    (breaks : ∃ reaction, handler ctrl.type = some reaction ∧
      (process.sequenceEquipmen ctrl.state = some equip → .outside ∈ reaction.effects))
    (taken : callState process ctrl.state handler = some after) :
    ∃ new, after.log = process.log ++ new ∧
      ∃ output ∈ new, output.equip ≠ equip ∨ output.effect = .outside := by
  obtain ⟨owner, points, rest⟩ := Option.bind_eq_some_iff.mp taken
  obtain ⟨other, foundOwner, moved⟩ := Option.map_eq_some_iff.mp rest
  obtain ⟨reaction, reacts, reads⟩ := breaks
  have acts : (handler other.type).isSome = true := by
    rw [uniform, reacts]
    rfl
  obtain ⟨emitted, answers⟩ := Option.isSome_iff_exists.mp acts
  rw [answers] at moved
  subst moved
  refine ⟨_, rfl, ?_⟩
  by_cases same : owner = equip
  · subst same
    obtain rfl := Option.some.inj (found.symm.trans foundOwner)
    obtain rfl := Option.some.inj (answers.symm.trans reacts)
    exact ⟨{ equip := owner, effect := .outside },
      List.mem_map.mpr ⟨.outside, reads points, rfl⟩, Or.inr rfl⟩
  · obtain ⟨effect, member⟩ := List.exists_mem_of_ne_nil _ (effects _ _ answers)
    exact ⟨{ equip := owner, effect := effect }, List.mem_map.mpr ⟨effect, member, rfl⟩,
      Or.inl same⟩

/-- The log shows an effect of another controller or an access outside the input. -/
def Disturbed (process : Process) (equip : Nat) (after : Process) : Prop :=
  ∃ new, after.log = process.log ++ new ∧
    ∃ output ∈ new, output.equip ≠ equip ∨ output.effect = .outside

theorem disturbed_later {process middle after : Process} {equip : Nat}
    (early : Disturbed process equip middle) (grows : ∃ more, after.log = middle.log ++ more) :
    Disturbed process equip after := by
  obtain ⟨new, appended, output, member, bad⟩ := early
  obtain ⟨more, later⟩ := grows
  exact ⟨new ++ more, by rw [later, appended, List.append_assoc], output,
    List.mem_append_left _ member, bad⟩

theorem disturbed_after {process middle after : Process} {equip : Nat}
    (grows : ∃ more, middle.log = process.log ++ more)
    (late : Disturbed middle equip after) : Disturbed process equip after := by
  obtain ⟨more, appended⟩ := grows
  obtain ⟨new, later, output, member, bad⟩ := late
  exact ⟨more ++ new, by rw [later, appended, List.append_assoc], output,
    List.mem_append_right _ member, bad⟩

theorem call_grows {process after : Process} {state : SequenceState}
    {handler : SequenceType → Option Reaction}
    (taken : callState process state handler = some after) :
    ∃ more, after.log = process.log ++ more := by
  obtain ⟨owner, -, rest⟩ := Option.bind_eq_some_iff.mp taken
  obtain ⟨other, -, moved⟩ := Option.map_eq_some_iff.mp rest
  subst moved
  split
  · exact ⟨[], (List.append_nil _).symm⟩
  · exact ⟨_, rfl⟩

section Data

variable {convert : Int → String} {process after : Process} {equip : Nat} {ctrl : SolderCtrl}
  {owned : Prop}

theorem recv_upstream_of (found : process.ctrls equip = some ctrl) (data : List UInt8) :
    recvUpstreamOf convert process equip data =
      callState process ctrl.state fun type => recvUpstream convert type ctrl.state data := by
  rw [recvUpstreamOf, found, Option.bind_some]

theorem frame_follows {data : List UInt8} (found : process.ctrls equip = some ctrl)
    (same : owned → process.sequenceEquipmen ctrl.state = some equip)
    (fits : FrameFits convert owned ctrl data)
    (taken : recvUpstreamOf convert process equip data = some after) :
    Follows process equip ctrl.state (soloFrame convert ctrl data) after := by
  rw [recv_upstream_of found] at taken
  apply call_follows found _ _ taken
  · intro type
    exact recv_upstream_acts convert type ctrl.type ctrl.state data
  · intro acts
    exact same (fits acts).1

theorem frame_breaks {data : List UInt8} (found : process.ctrls equip = some ctrl)
    (same : process.sequenceEquipmen ctrl.state = some equip → owned)
    (misfits : ¬ FrameFits convert owned ctrl data)
    (taken : recvUpstreamOf convert process equip data = some after) :
    Disturbed process equip after := by
  rw [recv_upstream_of found] at taken
  obtain ⟨acts, bad⟩ := Classical.not_imp.mp misfits
  obtain ⟨reaction, reacts⟩ := Option.ne_none_iff_exists'.mp acts
  apply call_breaks found _ _ _ taken
  · intro type
    exact recv_upstream_acts convert type ctrl.type ctrl.state data
  · intro type reaction answers
    exact recv_upstream_effects answers
  · refine ⟨reaction, reacts, ?_⟩
    intro points
    rw [outside_iff_unreadable reacts]
    intro readable
    exact bad ⟨same points, readable⟩

theorem receive_etx (found : process.ctrls equip = some ctrl)
    (taken : receiveByte convert process equip etx = some after) :
    ∃ served, recvUpstreamOf convert (copyFrame process equip ctrl.equipData) equip
        (frameBuffer ctrl.equipData) = some served ∧
      clearData served equip = some after := by
  rw [receiveByte, if_neg (by simp), found, Option.bind_some] at taken
  exact Option.bind_eq_some_iff.mp taken

theorem byte_follows {byte : UInt8} (found : process.ctrls equip = some ctrl)
    (same : owned → process.sequenceEquipmen ctrl.state = some equip)
    (fits : byte = etx → ctrl.equipData.length ≤ 100 ∧
      FrameFits convert owned ctrl (frameBuffer ctrl.equipData))
    (taken : receiveByte convert process equip byte = some after) :
    Follows process equip ctrl.state (soloByte convert ctrl byte) after := by
  by_cases ends : byte = etx
  · subst ends
    obtain ⟨short, frame⟩ := fits rfl
    obtain ⟨served, call, clear⟩ := receive_etx found taken
    rw [copyFrame, if_pos short] at call
    have follows := frame_follows found same frame call
    rw [clearData, follows_here follows, Option.map_some] at clear
    obtain rfl := Option.some.inj clear
    have cleared := follows_trans follows
      (follows_put { (soloFrame convert ctrl (frameBuffer ctrl.equipData)).1 with
        equipData := [] } rfl)
    rw [soloByte, if_neg (by simp)]
    rw [List.append_nil] at cleared
    exact cleared
  · rw [receiveByte, if_pos ends, pushByte, found, Option.map_some] at taken
    obtain rfl := Option.some.inj taken
    rw [soloByte, if_pos ends]
    exact follows_put _ rfl

theorem receive_byte_grows {byte : UInt8}
    (taken : receiveByte convert process equip byte = some after) :
    ∃ more, after.log = process.log ++ more := by
  obtain ⟨ctrl, found⟩ : ∃ ctrl, process.ctrls equip = some ctrl := by
    cases found : process.ctrls equip with
    | some ctrl => exact ⟨ctrl, rfl⟩
    | none =>
        rw [receiveByte, pushByte, found] at taken
        split at taken
        · cases taken
        · cases taken
  by_cases ends : byte = etx
  · subst ends
    obtain ⟨served, call, clear⟩ := receive_etx found taken
    obtain ⟨cleared, -, rfl⟩ := Option.map_eq_some_iff.mp clear
    obtain ⟨ctrl', -, called⟩ := Option.bind_eq_some_iff.mp call
    obtain ⟨more, appended⟩ := call_grows called
    rw [copyFrame] at appended
    split at appended
    · exact ⟨more, appended⟩
    · exact ⟨_, appended.trans (List.append_assoc _ _ _)⟩
  · rw [receiveByte, if_pos ends, pushByte, found, Option.map_some] at taken
    obtain rfl := Option.some.inj taken
    exact ⟨[], (List.append_nil _).symm⟩

theorem receive_bytes_grows {data : List UInt8}
    (taken : receiveBytes convert equip data process = some after) :
    ∃ more, after.log = process.log ++ more := by
  induction data generalizing process with
  | nil =>
      obtain rfl := Option.some.inj taken
      exact ⟨[], (List.append_nil _).symm⟩
  | cons byte rest ih =>
      obtain ⟨middle, head, tail⟩ := Option.bind_eq_some_iff.mp taken
      obtain ⟨more, appended⟩ := receive_byte_grows head
      obtain ⟨later, appendedLater⟩ := ih tail
      exact ⟨more ++ later, by rw [appendedLater, appended, List.append_assoc]⟩

theorem byte_breaks {byte : UInt8} (found : process.ctrls equip = some ctrl)
    (same : process.sequenceEquipmen ctrl.state = some equip → owned)
    (misfits : ¬ (byte = etx → ctrl.equipData.length ≤ 100 ∧
      FrameFits convert owned ctrl (frameBuffer ctrl.equipData)))
    (taken : receiveByte convert process equip byte = some after) :
    Disturbed process equip after := by
  obtain ⟨ends, bad⟩ := Classical.not_imp.mp misfits
  subst ends
  obtain ⟨served, call, clear⟩ := receive_etx found taken
  obtain ⟨cleared, -, rfl⟩ := Option.map_eq_some_iff.mp clear
  have kept : Disturbed process equip served → Disturbed process equip (served.put equip
      { cleared with equipData := [] }) :=
    fun disturbed => disturbed
  apply kept
  by_cases short : ctrl.equipData.length ≤ 100
  · rw [copyFrame, if_pos short] at call
    exact frame_breaks found same (fun frame => bad ⟨short, frame⟩) call
  · obtain ⟨ctrl', -, called⟩ := Option.bind_eq_some_iff.mp call
    apply disturbed_later _ (call_grows called)
    rw [copyFrame, if_neg short]
    exact ⟨_, rfl, _, List.mem_singleton_self _, Or.inr rfl⟩

theorem bytes_follow {data : List UInt8} (found : process.ctrls equip = some ctrl)
    (same : owned → process.sequenceEquipmen ctrl.state = some equip)
    (fits : BytesFit convert owned ctrl data)
    (taken : receiveBytes convert equip data process = some after) :
    Follows process equip ctrl.state (soloBytes convert ctrl data) after := by
  induction data generalizing process ctrl with
  | nil =>
      obtain rfl := Option.some.inj taken
      exact follows_nothing found
  | cons byte rest ih =>
      obtain ⟨middle, head, tail⟩ := Option.bind_eq_some_iff.mp taken
      have early := byte_follows found same fits.1 head
      exact follows_trans early
        (ih (follows_here early) (fun owns => early.owned.mpr (same owns)) fits.2 tail)

theorem bytes_break {data : List UInt8} (found : process.ctrls equip = some ctrl)
    (same : owned ↔ process.sequenceEquipmen ctrl.state = some equip)
    (misfits : ¬ BytesFit convert owned ctrl data)
    (taken : receiveBytes convert equip data process = some after) :
    Disturbed process equip after := by
  induction data generalizing process ctrl with
  | nil => exact absurd trivial misfits
  | cons byte rest ih =>
      obtain ⟨middle, head, tail⟩ := Option.bind_eq_some_iff.mp taken
      by_cases here : byte = etx → ctrl.equipData.length ≤ 100 ∧
          FrameFits convert owned ctrl (frameBuffer ctrl.equipData)
      · have early := byte_follows found same.mp here head
        apply disturbed_after (receive_byte_grows head)
        apply ih (follows_here early) (same.trans early.owned.symm) _ tail
        intro later
        exact misfits ⟨here, later⟩
      · exact disturbed_later (byte_breaks found same.mpr here head) (receive_bytes_grows tail)

theorem byte_returns {byte : UInt8} (found : process.ctrls equip = some ctrl)
    (points : process.sequenceEquipmen ctrl.state = some equip)
    (fits : byte = etx → ctrl.equipData.length ≤ 100 ∧
      FrameFits convert True ctrl (frameBuffer ctrl.equipData)) :
    ∃ after, receiveByte convert process equip byte = some after := by
  by_cases ends : byte = etx
  · subst ends
    obtain ⟨short, frame⟩ := fits rfl
    have called := call_returns found points fun type =>
      recvUpstream convert type ctrl.state (frameBuffer ctrl.equipData)
    rw [← recv_upstream_of found] at called
    obtain ⟨served, call⟩ := Option.isSome_iff_exists.mp called
    have follows := frame_follows found (fun _ => points) frame call
    apply Option.isSome_iff_exists.mp
    rw [receiveByte, if_neg (by simp), found, Option.bind_some, copyFrame, if_pos short, call,
      Option.bind_some, clearData, follows_here follows, Option.map_some, Option.isSome_some]
  · exact ⟨_, by rw [receiveByte, if_pos ends, pushByte, found, Option.map_some]⟩

theorem bytes_return {data : List UInt8} (found : process.ctrls equip = some ctrl)
    (points : process.sequenceEquipmen ctrl.state = some equip)
    (fits : BytesFit convert True ctrl data) :
    ∃ after, receiveBytes convert equip data process = some after := by
  induction data generalizing process ctrl with
  | nil => exact ⟨process, rfl⟩
  | cons byte rest ih =>
      obtain ⟨middle, head⟩ := byte_returns found points fits.1
      have early := byte_follows found (fun _ => points) fits.1 head
      obtain ⟨after, tail⟩ := ih (follows_here early) (early.owned.mpr points) fits.2
      exact ⟨after, by rw [receiveBytes, head, Option.bind_some, tail]⟩

end Data

/-! ### Events -/

/-- The step did to the controller of its event what `result` says. -/
structure Served (process : Process) (equip : Nat) (result : SolderCtrl × List Effect)
    (after : Process) : Prop where
  ctrls : after.ctrls = Function.update process.ctrls equip (some result.1)
  log : after.log = process.log ++ tagged equip result.2
  owned : (∀ ctrl, process.ctrls equip = some ctrl →
    process.sequenceEquipmen ctrl.state = some equip) →
      after.sequenceEquipmen result.1.state = some equip

theorem follows_served {process after : Process} {equip : Nat} {ctrl : SolderCtrl}
    {result : SolderCtrl × List Effect} (found : process.ctrls equip = some ctrl)
    (follows : Follows process equip ctrl.state result after) :
    Served process equip result after :=
  ⟨follows.ctrls, follows.log, fun owned => follows.owned.mpr (owned ctrl found)⟩

theorem enter_idle_served (process : Process) (equip : Nat) (ctrl : SolderCtrl) :
    Served process equip ({ ctrl with state := .idle }, []) (enterIdle process equip ctrl) where
  ctrls := rfl
  log := rfl
  owned _ := by simp [enterIdle, Process.advance]

theorem command_uniform (ctrl : SolderCtrl) (cmd : String) (type : SequenceType) :
    ((fun _ => recvDownStream ctrl.state cmd : SequenceType → Option Reaction) type).isSome =
      ((fun _ => recvDownStream ctrl.state cmd : SequenceType → Option Reaction) ctrl.type).isSome :=
  rfl

theorem recv_down_stream_effects {state : SequenceState} {cmd : String} {reaction : Reaction}
    (reacts : recvDownStream state cmd = some reaction) : reaction.effects ≠ [] := by
  cases state with
  | idle =>
      rw [recvDownStream, idleRecvDownStream] at reacts
      split at reacts
      · obtain rfl := Option.some.inj reacts
        exact List.cons_ne_nil _ _
      · cases reacts
  | upLoad => cases reacts
  | upLoadRep => cases reacts
  | upLoadRepA0 => cases reacts

theorem step_served {convert : Int → String} {process after : Process} {event : Event}
    (owned : Owned convert process event) (taken : step convert process event = some after) :
    ∃ result, soloEvent convert event (process.ctrls event.equip) = some result ∧
      Served process event.equip result after := by
  cases event with
  | construct equip type =>
      simp only [step, construct] at taken
      split at taken
      · cases taken
      · rename_i absent
        obtain rfl := Option.some.inj taken
        refine ⟨_, by rw [Event.equip, absent]; rfl, enter_idle_served process equip _⟩
  | recvCommand equip cmd =>
      obtain ⟨ctrl, found, called⟩ := Option.bind_eq_some_iff.mp taken
      refine ⟨_, by rw [Event.equip, found]; rfl, follows_served found ?_⟩
      exact call_follows found (command_uniform ctrl cmd) (owned ctrl found) called
  | onData equip data =>
      simp only [step, onData] at taken
      split at taken
      · cases taken
      · rename_i received
        obtain ⟨ctrl, found⟩ : ∃ ctrl, process.ctrls equip = some ctrl := by
          cases found : process.ctrls equip with
          | some ctrl => exact ⟨ctrl, rfl⟩
          | none =>
              exfalso
              split at taken
              · rw [recvUpstreamOf, found] at taken
                cases taken
              · obtain ⟨byte, rest, rfl⟩ := List.exists_cons_of_ne_nil received
                obtain ⟨middle, head, -⟩ := Option.bind_eq_some_iff.mp taken
                rw [receiveByte, pushByte, found] at head
                split at head
                · cases head
                · cases head
        have fits := owned ctrl found
        simp only [Fits, Event.equip] at fits
        split at taken
        · rename_i starts
          rw [if_pos starts] at fits
          refine ⟨soloFrame convert ctrl data, ?_, follows_served found ?_⟩
          · rw [Event.equip, found, soloEvent, if_neg received, if_pos starts]
          · exact frame_follows found id fits taken
        · rename_i starts
          rw [if_neg starts] at fits
          refine ⟨soloBytes convert ctrl data, ?_, follows_served found ?_⟩
          · rw [Event.equip, found, soloEvent, if_neg received, if_neg starts]
          · exact bytes_follow found id fits taken
  | onTaskTimeout equip =>
      obtain ⟨ctrl, found, same⟩ := Option.map_eq_some_iff.mp taken
      subst same
      exact ⟨_, by rw [Event.equip, found]; rfl, enter_idle_served process equip ctrl⟩

theorem frame_inside {convert : Int → String} {owned : Prop} {ctrl : SolderCtrl}
    {data : List UInt8} (fits : FrameFits convert owned ctrl data) :
    .outside ∉ (soloFrame convert ctrl data).2 := by
  rw [soloFrame]
  cases reacts : recvUpstream convert ctrl.type ctrl.state data with
  | none => exact List.not_mem_nil
  | some reaction =>
      obtain ⟨-, readable⟩ := fits (by rw [reacts]; simp)
      rw [soloReact, outside_iff_unreadable reacts, not_not]
      exact readable

theorem bytes_inside {convert : Int → String} {owned : Prop} {data : List UInt8}
    {ctrl : SolderCtrl} (fits : BytesFit convert owned ctrl data) :
    .outside ∉ (soloBytes convert ctrl data).2 := by
  induction data generalizing ctrl with
  | nil => exact List.not_mem_nil
  | cons byte rest ih =>
      obtain ⟨head, tail⟩ := fits
      rw [soloBytes, List.mem_append]
      intro either
      rcases either with early | late
      · rw [soloByte] at early
        split at early
        · cases early
        · rename_i ends
          exact frame_inside (head (not_not.mp ends)).2 early
      · exact ih tail late

theorem solo_inside {convert : Int → String} {event : Event}
    {current : Option SolderCtrl} {result : SolderCtrl × List Effect}
    (fits : ∀ ctrl, current = some ctrl → ∃ owned, Fits convert owned ctrl event)
    (solo : soloEvent convert event current = some result) : .outside ∉ result.2 := by
  cases current with
  | none =>
      cases event with
      | construct equip type =>
          obtain rfl := Option.some.inj solo
          exact List.not_mem_nil
      | recvCommand equip cmd => cases solo
      | onData equip data => cases solo
      | onTaskTimeout equip => cases solo
  | some ctrl =>
      obtain ⟨owned, fit⟩ := fits ctrl rfl
      cases event with
      | construct equip type => cases solo
      | recvCommand equip cmd =>
          obtain rfl := Option.some.inj solo
          cases reacts : recvDownStream ctrl.state cmd with
          | none => exact List.not_mem_nil
          | some reaction =>
              cases state : ctrl.state with
              | idle =>
                  rw [state, recvDownStream, idleRecvDownStream] at reacts
                  split at reacts
                  · obtain rfl := Option.some.inj reacts
                    simp [soloReact]
                  · cases reacts
              | upLoad => rw [state] at reacts; cases reacts
              | upLoadRep => rw [state] at reacts; cases reacts
              | upLoadRepA0 => rw [state] at reacts; cases reacts
      | onData equip data =>
          simp only [Fits] at fit
          simp only [soloEvent] at solo
          split at solo
          · cases solo
          · split at solo
            · rename_i starts
              obtain rfl := Option.some.inj solo
              rw [if_pos starts] at fit
              exact frame_inside fit
            · rename_i starts
              obtain rfl := Option.some.inj solo
              rw [if_neg starts] at fit
              exact bytes_inside fit
      | onTaskTimeout equip =>
          obtain rfl := Option.some.inj solo
          exact List.not_mem_nil

theorem step_isolated {convert : Int → String} {process after : Process} {event : Event}
    (owned : Owned convert process event) (taken : step convert process event = some after) :
    Isolated process event after := by
  obtain ⟨result, solo, served⟩ := step_served owned taken
  have inside : .outside ∉ result.2 := by
    cases found : process.ctrls event.equip with
    | none =>
        rw [found] at solo
        exact solo_inside (fun ctrl same => by cases same) solo
    | some ctrl =>
        rw [found] at solo
        exact solo_inside (fun other same => ⟨_, Option.some.inj same ▸ owned ctrl found⟩) solo
  constructor
  · refine ⟨tagged event.equip result.2, served.log, ?_⟩
    intro output member
    obtain ⟨effect, emitted, rfl⟩ := List.mem_map.mp member
    refine ⟨rfl, ?_⟩
    intro same
    subst same
    exact inside emitted
  · intro other different
    rw [served.ctrls, Function.update_of_ne different]

theorem step_disturbed {convert : Int → String} {process after : Process} {event : Event}
    (unowned : ¬ Owned convert process event) (taken : step convert process event = some after) :
    Disturbed process event.equip after := by
  rw [Owned, not_forall] at unowned
  obtain ⟨ctrl, misfit⟩ := unowned
  obtain ⟨found, misfits⟩ := Classical.not_imp.mp misfit
  cases event with
  | construct equip type => exact absurd trivial misfits
  | onTaskTimeout equip => exact absurd trivial misfits
  | recvCommand equip cmd =>
      obtain ⟨ctrl', found', called⟩ := Option.bind_eq_some_iff.mp taken
      obtain rfl := Option.some.inj (found.symm.trans found')
      obtain ⟨acts, elsewhere⟩ := Classical.not_imp.mp misfits
      obtain ⟨reaction, reacts⟩ := Option.ne_none_iff_exists'.mp acts
      apply call_breaks found (command_uniform ctrl cmd) _ _ called
      · intro type reaction answers
        exact recv_down_stream_effects answers
      · exact ⟨reaction, reacts, fun points => absurd points elsewhere⟩
  | onData equip data =>
      simp only [step, onData] at taken
      simp only [Fits] at misfits
      split at taken
      · cases taken
      · split at taken
        · rename_i starts
          rw [if_pos starts] at misfits
          exact frame_breaks found id misfits taken
        · rename_i starts
          rw [if_neg starts] at misfits
          exact bytes_break found Iff.rfl misfits taken

theorem disturbed_not_isolated {process after : Process} {event : Event}
    (disturbed : Disturbed process event.equip after) : ¬ Isolated process event after := by
  intro given
  rcases given with ⟨⟨new, appended, own⟩, -⟩
  obtain ⟨new', appended', output, member, bad⟩ := disturbed
  obtain rfl := List.append_cancel_left (appended.symm.trans appended')
  obtain ⟨here, inside⟩ := own output member
  exact bad.elim (fun elsewhere => elsewhere here) inside

/-! ### The controller alone in the process -/

/-- `alone` is a process with nothing but the inputs of one controller. -/
structure Alone (equip : Nat) (process alone : Process) : Prop where
  ctrl : alone.ctrls equip = process.ctrls equip
  owned : ∀ ctrl, alone.ctrls equip = some ctrl →
    alone.sequenceEquipmen ctrl.state = some equip
  log : alone.log = process.log.filter fun output => output.equip = equip

theorem alone_returns {convert : Int → String} {alone : Process} {event : Event}
    {result : SolderCtrl × List Effect}
    (owned : ∀ ctrl, alone.ctrls event.equip = some ctrl →
      alone.sequenceEquipmen ctrl.state = some event.equip)
    (fits : ∀ ctrl, alone.ctrls event.equip = some ctrl → Fits convert True ctrl event)
    (solo : soloEvent convert event (alone.ctrls event.equip) = some result) :
    ∃ after, step convert alone event = some after := by
  cases found : alone.ctrls event.equip with
  | none =>
      rw [found] at solo
      cases event with
      | construct equip type =>
          apply Option.isSome_iff_exists.mp
          rw [step, construct, show alone.ctrls equip = none from found]
          rfl
      | recvCommand equip cmd => cases solo
      | onData equip data => cases solo
      | onTaskTimeout equip => cases solo
  | some ctrl =>
      have points := owned ctrl found
      have fit := fits ctrl found
      rw [found] at solo
      apply Option.isSome_iff_exists.mp
      cases event with
      | construct equip type => cases solo
      | recvCommand equip cmd =>
          rw [step, recvCommand, show alone.ctrls equip = some ctrl from found, Option.bind_some]
          exact call_returns found points _
      | onData equip data =>
          simp only [Fits] at fit
          simp only [soloEvent] at solo
          rw [step, onData]
          split at solo
          · cases solo
          · rename_i received
            rw [if_neg received]
            split at solo
            · rename_i starts
              rw [if_pos starts, recv_upstream_of (show alone.ctrls equip = some ctrl from found)]
              exact call_returns found points _
            · rename_i starts
              rw [if_neg starts] at fit ⊢
              exact Option.isSome_iff_exists.mpr (bytes_return found points fit)
      | onTaskTimeout equip =>
          rw [step, onTaskTimeout, show alone.ctrls equip = some ctrl from found, Option.map_some,
            Option.isSome_some]

theorem alone_step {convert : Int → String} {process after alone : Process} {event : Event}
    (same : Alone event.equip process alone) (owned : Owned convert process event)
    (taken : step convert process event = some after) :
    ∃ next, step convert alone event = some next ∧ Alone event.equip after next := by
  obtain ⟨result, solo, served⟩ := step_served owned taken
  rw [← same.ctrl] at solo
  have fits : ∀ ctrl, alone.ctrls event.equip = some ctrl → Fits convert True ctrl event := by
    intro ctrl found
    rw [same.ctrl] at found
    exact fits_mono (fun _ => trivial) (owned ctrl found)
  obtain ⟨next, moved⟩ := alone_returns same.owned fits solo
  have own : Owned convert alone event := by
    intro ctrl found
    exact fits_mono (fun _ => same.owned ctrl found) (fits ctrl found)
  obtain ⟨result', solo', served'⟩ := step_served own moved
  obtain rfl := Option.some.inj (solo.symm.trans solo')
  refine ⟨next, moved, ?_, ?_, ?_⟩
  · rw [served.ctrls, served'.ctrls, Function.update_self, Function.update_self]
  · intro ctrl found
    rw [served'.ctrls, Function.update_self] at found
    obtain rfl := Option.some.inj found
    exact served'.owned same.owned
  · rw [served'.log, served.log, List.filter_append, same.log]
    congr 1
    symm
    apply List.filter_eq_self.mpr
    intro output member
    obtain ⟨effect, -, rfl⟩ := List.mem_map.mp member
    simp

theorem alone_skips {convert : Int → String} {process after alone : Process} {event : Event}
    {equip : Nat} (same : Alone equip process alone) (different : event.equip ≠ equip)
    (owned : Owned convert process event) (taken : step convert process event = some after) :
    Alone equip after alone := by
  obtain ⟨result, -, served⟩ := step_served owned taken
  refine ⟨?_, same.owned, ?_⟩
  · rw [served.ctrls, Function.update_of_ne (Ne.symm different)]
    exact same.ctrl
  · have nothing : (tagged event.equip result.2).filter (fun output => output.equip = equip) = [] := by
      apply List.filter_eq_nil_iff.mpr
      intro output member
      obtain ⟨effect, -, rfl⟩ := List.mem_map.mp member
      simpa using different
    rw [served.log, List.filter_append, nothing, List.append_nil]
    exact same.log

/-- Each controller writes and reports in the run what it writes and reports in a
process with nothing but its own construction and inputs. -/
def AsAlone (convert : Int → String) (events : List Event) : Prop :=
  ∀ equip finish, run (step convert) Process.start events = some finish →
    ∃ last, run (step convert) Process.start
        (events.filter fun event => event.equip = equip) = some last ∧
      last.log = finish.log.filter fun output => output.equip = equip

/-- The controllers are isolated in a run exactly when every controller finds the
static object of its state pointing at itself whenever that state acts, and every
handler finds the bytes that it reads. -/
theorem isolated_iff_owned (convert : Int → String) (events : List Event) :
    (EachStep (step convert) Isolated Process.start events ∧ AsAlone convert events) ↔
      Guarded (step convert) (Owned convert) Process.start events := by
  have steps : EachStep (step convert) Isolated Process.start events ↔
      Guarded (step convert) (Owned convert) Process.start events := by
    exact each_step_iff_guarded
      (fun process event after (_ : True) owned taken => ⟨trivial, step_isolated owned taken⟩)
      (fun process event after _ unowned taken =>
        disturbed_not_isolated (step_disturbed unowned taken)) trivial
  rw [steps]
  apply and_iff_left_of_imp
  intro guarded equip finish reached
  have initial : Alone equip Process.start Process.start := by
    refine ⟨rfl, ?_, rfl⟩
    intro ctrl found
    cases found
  obtain ⟨last, ran, same⟩ := run_filter_simulates (Alone equip)
    (fun event => decide (event.equip = equip))
    (by
      intro process event after alone related owned taken kept
      obtain rfl := of_decide_eq_true kept
      exact alone_step related owned taken)
    (by
      intro process event after alone related owned taken dropped
      exact alone_skips related (of_decide_eq_false dropped) owned taken)
    initial guarded reached
  exact ⟨last, ran, same.log⟩

/-- With a second soldering controller constructed, a command for the first one is
written to the peripheral of the second. -/
theorem command_reaches_second_controller :
    ¬ EachStep (step fun _ => "") Isolated Process.start
      ([.construct 0 .solderSequence, .construct 1 .solderSequence] ++
        [.recvCommand 0 "GetSpitParam"]) := by
  intro isolated
  obtain ⟨⟨new, appended, own⟩, -⟩ := each_step_at isolated rfl rfl
  obtain rfl : [({ equip := 1, effect := .writePeripheralData [enq] } : Output)] = new :=
    List.append_cancel_left appended
  exact absurd (own _ (List.mem_singleton_self _)).1 (by decide)

end DevHub.Isolation
