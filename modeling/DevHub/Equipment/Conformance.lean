import DevHub.Library.Segments
import DevHub.Equipment.LoneCtrl

/-!
The trace of the only controller of a process. Its writes and reports are read off
the log as symbols, and since every upload starts with an ENQ the trace falls into
segments behind the ENQs. Which segments there are, and how the last one stands in
each state, is the history that every step keeps.
-/

namespace DevHub.Conformance

open Sequence SolderCtrls Transition Segments

set_option autoImplicit false

inductive Symbol where
  | enq
  | upload
  | report
  | eot
  | other
  deriving DecidableEq

/-- The requests that `SequenceUpLoadState` writes for the two kinds of controllers. -/
def uploadRequests : List (List UInt8) :=
  [[stx] ++ bytes "08UL000,01DA" ++ [etx], [stx] ++ bytes "08UL001D01C1" ++ [etx]]

def written (data : List UInt8) : Symbol :=
  if data = [enq] then .enq
  else if data = [eot] then .eot
  else if data ∈ uploadRequests then .upload
  else .other

/-- The symbols of a log. A report made of bytes that were not received, or of variables
that were not set, stands in the log as the access outside in front of its EOT. -/
def symbols : List Effect → List Symbol
  | [] => []
  | .writePeripheralData data :: rest => written data :: symbols rest
  | .upStream _ :: rest => .report :: symbols rest
  | .outside :: rest =>
      if rest.head? = some (.writePeripheralData [eot]) then .report :: symbols rest
      else symbols rest

def traceOf (process : Process) : List Symbol :=
  symbols (process.log.map Output.effect)

/-- What the protocol allows, for a trace and the number of commands received. -/
structure Conforms (trace : List Symbol) (commands : Nat) : Prop where
  uploadAfterEnq : ∀ before after, trace = before ++ .upload :: after →
    ∃ early late, before = early ++ .enq :: late ∧ .report ∉ late
  reportAfterUpload : ∀ before after, trace = before ++ .report :: after →
    ∃ early middle late, before = early ++ .enq :: (middle ++ .upload :: late) ∧
      .report ∉ middle ∧ .report ∉ late
  oneReport : ∀ before between rest, trace = before ++ .enq :: (between ++ rest) →
    .enq ∉ between → between.count .report ≤ 1
  oneEot : ∀ before between rest, trace = before ++ .enq :: (between ++ rest) →
    .enq ∉ between → Closed .enq rest → between.count .eot = between.count .report
  noneFirst : trace.head? = none ∨ trace.head? = some .enq
  reports : trace.count .report ≤ commands

/-! ### One controller -/

/-- A chunk has at least one byte. An ACK chunk may be taken with what stands behind it in
the read buffer, since its handlers do not look at the length. -/
inductive Input where
  | recvCommand (cmd : String)
  | onData (first : UInt8) (rest : List UInt8)
  | onTaskTimeout

def Input.event (equip : Nat) : Input → Event
  | recvCommand cmd => .recvCommand equip cmd
  | onData first rest => .onData equip (first :: rest)
  | onTaskTimeout => .onTaskTimeout equip

/-- The process and the `GetSpitParam` commands that its controller has received. -/
structure Lone where
  process : Process
  commands : Nat

def Lone.start (equip : Nat) (type : SequenceType) : Lone where
  process := enterIdle Process.start equip { type := type, state := .idle, equipData := [] }
  commands := 0

theorem start_constructed (equip : Nat) (type : SequenceType) :
    construct Process.start equip type = some (Lone.start equip type).process := rfl

def step (convert : Int → String) (equip : Nat) : Step Lone Input := fun lone input =>
  (SolderCtrls.step convert lone.process (input.event equip)).map fun process =>
    { process := process
      commands := match input with
        | .recvCommand cmd => if cmd = "GetSpitParam" then lone.commands + 1 else lone.commands
        | _ => lone.commands }

/-! ### The history of a trace -/

/-- What may follow an ENQ: an upload broken off in one of its states, an upload with its
report, or one that the controller refused. -/
def uploads : List (List Symbol) :=
  [[], [.upload], [.upload, .other], [.upload, .report, .eot], [.upload, .other, .report, .eot],
    [.upload, .other, .eot, .report]]

/-- How the segment behind the last ENQ stands in a state. -/
def Stands : SequenceState → List Symbol → Prop
  | .idle, _ => True
  | .upLoad, last => last = []
  | .upLoadRepA0, last => last = [.upload]
  | .upLoadRep, last => last = [.upload] ∨ last = [.upload, .other]

instance (state : SequenceState) (last : List Symbol) : Decidable (Stands state last) :=
  match state with
  | .idle => isTrue trivial
  | .upLoad => inferInstanceAs (Decidable (last = []))
  | .upLoadRepA0 => inferInstanceAs (Decidable (last = [.upload]))
  | .upLoadRep => inferInstanceAs (Decidable (last = [.upload] ∨ last = [.upload, .other]))

structure History (trace : List Symbol) (state : SequenceState) (segments : List (List Symbol)) :
    Prop where
  whole : trace = joined .enq segments
  allowed : ∀ segment ∈ segments, segment ∈ uploads
  stands : state = .idle ∨ ∃ done last, segments = done ++ [last] ∧ Stands state last

theorem history_grows {trace more : List Symbol} {state next : SequenceState}
    {done : List (List Symbol)} {last : List Symbol}
    (history : History trace state (done ++ [last])) (allowed : last ++ more ∈ uploads)
    (stands : Stands next (last ++ more)) :
    History (trace ++ more) next (done ++ [last ++ more]) := by
  constructor
  · rw [history.whole, joined_append, joined_append, joined_singleton, joined_singleton,
      List.append_assoc, List.cons_append]
  · intro segment member
    rcases List.mem_append.mp member with earlier | current
    · exact history.allowed segment (List.mem_append_left _ earlier)
    · rw [List.mem_singleton.mp current]
      exact allowed
  · exact Or.inr ⟨done, last ++ more, rfl, stands⟩

theorem history_idle {trace : List Symbol} {state : SequenceState} {segments : List (List Symbol)}
    (history : History trace state segments) : History trace .idle segments :=
  ⟨history.whole, history.allowed, Or.inl rfl⟩

theorem history_enq {trace : List Symbol} {state : SequenceState} {segments : List (List Symbol)}
    (history : History trace state segments) :
    History (trace ++ [.enq]) .upLoad (segments ++ [[]]) := by
  constructor
  · rw [history.whole, joined_append, joined_singleton]
  · intro segment member
    rcases List.mem_append.mp member with earlier | current
    · exact history.allowed segment earlier
    · rw [List.mem_singleton.mp current]
      decide
  · exact Or.inr ⟨segments, [], rfl, rfl⟩

/-! ### What the handlers add -/

/-- Effects that do not start with an EOT, so they do not change what stands in front. -/
def Apart (effects : List Effect) : Prop :=
  effects.head? ≠ some (.writePeripheralData [eot])

theorem symbols_append {log new : List Effect} (apart : Apart new) :
    symbols (log ++ new) = symbols log ++ symbols new := by
  induction log with
  | nil => rfl
  | cons effect rest ih =>
      cases effect with
      | writePeripheralData data => simp only [List.cons_append, symbols, ih]
      | upStream data => simp only [List.cons_append, symbols, ih]
      | outside =>
          have front : (rest ++ new).head? = some (.writePeripheralData [eot]) ↔
              rest.head? = some (.writePeripheralData [eot]) := by
            cases rest with
            | nil => exact iff_of_false apart (by simp)
            | cons head tail => exact Iff.rfl
          simp only [List.cons_append, symbols, front, ih]
          split <;> rfl

instance (effects : List Effect) : Decidable (Apart effects) :=
  inferInstanceAs (Decidable (_ ≠ _))

/-- The reaction continues the segment that ends in `last`. -/
def Continues (last : List Symbol) (reaction : Reaction) : Prop :=
  Apart reaction.effects ∧ last ++ symbols reaction.effects ∈ uploads ∧
    Stands reaction.next (last ++ symbols reaction.effects)

instance (last : List Symbol) (reaction : Reaction) : Decidable (Continues last reaction) :=
  inferInstanceAs (Decidable (_ ∧ _ ∧ _))

theorem report_continues (convert : Int → String) (type : SequenceType) (data : List UInt8)
    {last : List Symbol} (acknowledged : last = [.upload] ∨ last = [.upload, .other]) :
    Continues last (upLoadRepRecvUpstream convert type data) := by
  have added : Apart (upLoadRepRecvUpstream convert type data).effects ∧
      symbols (upLoadRepRecvUpstream convert type data).effects = [.report, .eot] := by
    simp only [upLoadRepRecvUpstream, Apart]
    cases reportedParams convert type data with
    | none => exact ⟨by decide, by decide⟩
    | some resp => exact ⟨by simp, rfl⟩
  refine ⟨added.1, ?_, trivial⟩
  rw [added.2]
  rcases acknowledged with same | same
  · rw [same]
    decide
  · rw [same]
    decide

theorem a0_continues (data : List UInt8) :
    Continues [.upload] (upLoadRepA0RecvUpstream data) := by
  unfold upLoadRepA0RecvUpstream
  dsimp only
  split
  · decide
  · split
    · split
      · decide
      · split <;> decide
    · decide

theorem upstream_continues {convert : Int → String} {type : SequenceType} {state : SequenceState}
    {data : List UInt8} {reaction : Reaction}
    (reacts : recvUpstream convert type state data = some reaction) {last : List Symbol}
    (stands : Stands state last) : state ≠ .idle ∧ Continues last reaction := by
  cases state with
  | idle => cases reacts
  | upLoad =>
      rw [Stands] at stands
      subst stands
      rw [recvUpstream] at reacts
      unfold upLoadRecvUpstream at reacts
      split at reacts
      · cases type with
        | glueSequence =>
            obtain rfl := Option.some.inj reacts
            exact ⟨by decide, by decide⟩
        | solderSequence =>
            obtain rfl := Option.some.inj reacts
            exact ⟨by decide, by decide⟩
      · cases reacts
  | upLoadRep =>
      obtain rfl := Option.some.inj reacts
      exact ⟨by decide, report_continues convert type data stands⟩
  | upLoadRepA0 =>
      rw [Stands] at stands
      subst stands
      obtain rfl := Option.some.inj reacts
      exact ⟨by decide, a0_continues data⟩

theorem downstream_enq {state : SequenceState} {msg : String} {reaction : Reaction}
    (reacts : recvDownStream state msg = some reaction) :
    msg = "GetSpitParam" ∧
      reaction = { effects := [.writePeripheralData [enq]], next := .upLoad } := by
  cases state with
  | idle =>
      rw [recvDownStream, idleRecvDownStream, Option.ite_none_right_eq_some] at reacts
      exact ⟨reacts.1, (Option.some.inj reacts.2).symm⟩
  | upLoad => cases reacts
  | upLoadRep => cases reacts
  | upLoadRepA0 => cases reacts

/-! ### The process -/

/-- The static object of the current state points to the controller, and the log is
that of a history with no more uploads than commands. -/
def Served (equip : Nat) (process : Process) (commands : Nat) : Prop :=
  ∃ ctrl segments, process.ctrls equip = some ctrl ∧
    process.sequenceEquipmen ctrl.state = some equip ∧
    History (traceOf process) ctrl.state segments ∧ segments.length ≤ commands

theorem trace_advance (process : Process) (equip : Nat) (ctrl : SolderCtrl) {reaction : Reaction}
    (apart : Apart reaction.effects) :
    traceOf (process.advance equip ctrl reaction) = traceOf process ++ symbols reaction.effects := by
  have effects : (reaction.effects.map fun effect => ({ equip := equip, effect := effect } : Output)).map
      Output.effect = reaction.effects := by
    rw [List.map_map]
    exact List.map_id _
  rw [traceOf, Process.advance, List.map_append, effects, symbols_append apart]
  rfl

/-- `m_state->RecvUpstream` and `m_state->RecvDownStream` reach the controller itself. -/
theorem call_cases {process after : Process} {equip : Nat} {ctrl : SolderCtrl}
    {handler : SequenceType → Option Reaction} (found : process.ctrls equip = some ctrl)
    (owned : process.sequenceEquipmen ctrl.state = some equip)
    (taken : callState process ctrl.state handler = some after) :
    (handler ctrl.type = none ∧ after = process) ∨
      ∃ reaction, handler ctrl.type = some reaction ∧
        after = process.advance equip ctrl reaction := by
  rw [callState, owned, Option.bind_some, found, Option.map_some, Option.some.injEq] at taken
  cases reacts : handler ctrl.type with
  | none =>
      rw [reacts] at taken
      exact Or.inl ⟨rfl, taken.symm⟩
  | some reaction =>
      rw [reacts] at taken
      exact Or.inr ⟨reaction, rfl, taken.symm⟩

theorem advance_owned (process : Process) (equip : Nat) (ctrl : SolderCtrl)
    (reaction : Reaction) :
    (process.advance equip ctrl reaction).ctrls equip =
        some { ctrl with state := reaction.next } ∧
      (process.advance equip ctrl reaction).sequenceEquipmen reaction.next = some equip :=
  ⟨Function.update_self _ _ _, Function.update_self _ _ _⟩

theorem upstream_served {convert : Int → String} {process after : Process} {equip commands : Nat}
    {data : List UInt8} (served : Served equip process commands)
    (taken : recvUpstreamOf convert process equip data = some after) :
    Served equip after commands := by
  obtain ⟨ctrl, segments, found, owned, history, bound⟩ := served
  rw [recvUpstreamOf, found, Option.bind_some] at taken
  rcases call_cases found owned taken with ⟨-, rfl⟩ | ⟨reaction, reacts, rfl⟩
  · exact ⟨ctrl, segments, found, owned, history, bound⟩
  · obtain ⟨here, points⟩ := advance_owned process equip ctrl reaction
    rcases history.stands with idle | ⟨done, last, split, stands⟩
    · rw [idle] at reacts
      cases reacts
    · subst split
      obtain ⟨-, apart, allowed, standsNext⟩ := upstream_continues reacts stands
      refine ⟨_, done ++ [last ++ symbols reaction.effects], here, points, ?_, ?_⟩
      · rw [trace_advance process equip ctrl apart]
        exact history_grows history allowed standsNext
      · rw [List.length_append] at bound ⊢
        exact bound

theorem command_served {process after : Process} {equip commands : Nat} {cmd : String}
    (served : Served equip process commands)
    (taken : recvCommand process equip cmd = some after) :
    Served equip after (if cmd = "GetSpitParam" then commands + 1 else commands) := by
  obtain ⟨ctrl, segments, found, owned, history, bound⟩ := served
  rw [recvCommand, found, Option.bind_some] at taken
  rcases call_cases found owned taken with ⟨-, rfl⟩ | ⟨reaction, reacts, rfl⟩
  · refine ⟨ctrl, segments, found, owned, history, ?_⟩
    split
    · omega
    · exact bound
  · obtain ⟨here, points⟩ := advance_owned process equip ctrl reaction
    obtain ⟨known, enquires⟩ := downstream_enq reacts
    subst enquires
    refine ⟨_, segments ++ [[]], here, points, ?_, ?_⟩
    · rw [trace_advance process equip ctrl (by decide)]
      exact history_enq history
    · rw [if_pos known, List.length_append]
      exact Nat.succ_le_succ bound

theorem timeout_served {process after : Process} {equip commands : Nat}
    (served : Served equip process commands)
    (taken : onTaskTimeout process equip = some after) : Served equip after commands := by
  obtain ⟨ctrl, segments, found, owned, history, bound⟩ := served
  rw [onTaskTimeout, found, Option.map_some, Option.some.injEq] at taken
  subst taken
  obtain ⟨here, points⟩ := advance_owned process equip ctrl { effects := [], next := .idle }
  refine ⟨_, segments, here, points, ?_, bound⟩
  rw [enterIdle, trace_advance process equip ctrl (by decide)]
  have same : traceOf process ++ symbols [] = traceOf process := List.append_nil _
  rw [same]
  exact history_idle history

theorem put_served {process : Process} {equip commands : Nat} {ctrl : SolderCtrl}
    (served : Served equip process commands) (found : process.ctrls equip = some ctrl)
    (changed : SolderCtrl) (same : changed.state = ctrl.state) :
    Served equip (process.put equip changed) commands := by
  obtain ⟨before, segments, here, owned, history, bound⟩ := served
  obtain rfl := Option.some.inj (here.symm.trans found)
  refine ⟨changed, segments, Function.update_self _ _ _, ?_, ?_, bound⟩
  · rw [same]
    exact owned
  · rw [same]
    exact history

theorem copy_served {process : Process} {equip commands : Nat} (frame : List UInt8)
    (served : Served equip process commands) :
    Served equip (copyFrame process equip frame) commands := by
  unfold copyFrame
  split
  · exact served
  · obtain ⟨ctrl, segments, found, owned, history, bound⟩ := served
    refine ⟨ctrl, segments, found, owned, ?_, bound⟩
    have apart : Apart [.outside] := by decide
    have same : traceOf { process with
        log := process.log ++ [{ equip := equip, effect := .outside }] } = traceOf process := by
      rw [traceOf, List.map_append, List.map_singleton, symbols_append apart]
      exact List.append_nil _
    rw [same]
    exact history

theorem byte_served {convert : Int → String} {process after : Process} {equip commands : Nat}
    {byte : UInt8} (served : Served equip process commands)
    (taken : receiveByte convert process equip byte = some after) :
    Served equip after commands := by
  unfold receiveByte at taken
  split at taken
  · obtain ⟨ctrl, found, rfl⟩ := Option.map_eq_some_iff.mp taken
    exact put_served served found _ rfl
  · obtain ⟨ctrl, found, rest⟩ := Option.bind_eq_some_iff.mp taken
    obtain ⟨middle, called, cleared⟩ := Option.bind_eq_some_iff.mp rest
    have servedMiddle := upstream_served (copy_served ctrl.equipData served) called
    obtain ⟨now, foundNow, rfl⟩ := Option.map_eq_some_iff.mp cleared
    exact put_served servedMiddle foundNow _ rfl

theorem bytes_served {convert : Int → String} {process after : Process} {equip commands : Nat}
    {data : List UInt8} (served : Served equip process commands)
    (taken : receiveBytes convert equip data process = some after) :
    Served equip after commands := by
  induction data generalizing process with
  | nil =>
      cases taken
      exact served
  | cons byte rest ih =>
      obtain ⟨middle, first, later⟩ := Option.bind_eq_some_iff.mp taken
      exact ih (byte_served served first) later

theorem step_served {convert : Int → String} {equip : Nat} {lone next : Lone} {input : Input}
    (served : Served equip lone.process lone.commands)
    (taken : step convert equip lone input = some next) :
    Served equip next.process next.commands := by
  obtain ⟨process, moved, rfl⟩ := Option.map_eq_some_iff.mp taken
  cases input with
  | recvCommand cmd => exact command_served served moved
  | onTaskTimeout => exact timeout_served served moved
  | onData first rest =>
      simp only [Input.event, SolderCtrls.step, onData, List.cons_ne_nil, if_false] at moved
      split at moved
      · exact upstream_served served moved
      · exact bytes_served served moved

/-! ### Every input is taken -/

theorem step_returns (convert : Int → String) {equip : Nat} {lone : Lone} (input : Input)
    (served : Served equip lone.process lone.commands) :
    ∃ next, step convert equip lone input = some next := by
  obtain ⟨ctrl, segments, found, owned, -, -⟩ := served
  have moves : ∃ process, SolderCtrls.step convert lone.process (input.event equip) =
      some process := by
    cases input with
    | recvCommand cmd =>
        simp only [Input.event, SolderCtrls.step, recvCommand, found, Option.bind_some]
        exact Option.isSome_iff_exists.mp (Isolation.call_returns found owned _)
    | onTaskTimeout =>
        simp only [Input.event, SolderCtrls.step, onTaskTimeout, found, Option.map_some]
        exact ⟨_, rfl⟩
    | onData first rest =>
        obtain ⟨after, taken, -⟩ := LoneCtrl.data_follows convert first rest found owned
        exact ⟨after, taken⟩
  obtain ⟨process, moved⟩ := moves
  exact ⟨_, Option.map_eq_some_iff.mpr ⟨process, moved, rfl⟩⟩

theorem run_returns (convert : Int → String) {equip : Nat} {lone : Lone} (inputs : List Input)
    (served : Served equip lone.process lone.commands) :
    ∃ last, run (step convert equip) lone inputs = some last := by
  induction inputs generalizing lone with
  | nil => exact ⟨lone, rfl⟩
  | cons input rest ih =>
      obtain ⟨next, taken⟩ := step_returns convert input served
      obtain ⟨last, ran⟩ := ih (step_served served taken)
      exact ⟨last, by rw [run, taken, Option.bind_some, ran]⟩

/-! ### What the history says of the trace -/

/-- Where a symbol stands in an upload, as a position that `decide` can go through. -/
theorem upload_cut (left right : List Symbol) (symbol : Symbol) :
    (left ++ symbol :: right)[left.length]? = some symbol ∧
      (left ++ symbol :: right).take left.length = left ∧
      left.length < (left ++ symbol :: right).length := by
  refine ⟨?_, ?_, ?_⟩
  · simp
  · simp
  · simp

theorem upload_in_front {left right : List Symbol} (allowed : left ++ .upload :: right ∈ uploads) :
    .report ∉ left := by
  have checked : ∀ segment ∈ uploads, ∀ i < segment.length, segment[i]? = some .upload →
      .report ∉ segment.take i := by decide
  obtain ⟨here, front, inside⟩ := upload_cut left right .upload
  have absent := checked _ allowed left.length inside here
  rw [front] at absent
  exact absent

theorem report_behind {left right : List Symbol} (allowed : left ++ .report :: right ∈ uploads) :
    ∃ late, left = .upload :: late ∧ .report ∉ late := by
  have checked : ∀ segment ∈ uploads, ∀ i < segment.length, segment[i]? = some .report →
      (segment.take i).head? = some .upload ∧ .report ∉ segment.take i := by decide
  obtain ⟨here, front, inside⟩ := upload_cut left right .report
  obtain ⟨starts, absent⟩ := checked _ allowed left.length inside here
  rw [front] at starts absent
  obtain ⟨late, rfl⟩ := List.head?_eq_some_iff.mp starts
  exact ⟨late, rfl, fun member => absent (List.mem_cons_of_mem _ member)⟩

theorem history_conforms {trace : List Symbol} {state : SequenceState}
    {segments : List (List Symbol)} {commands : Nat} (history : History trace state segments)
    (bound : segments.length ≤ commands) : Conforms trace commands := by
  have free : ∀ segment ∈ segments, .enq ∉ segment := by
    have checked : ∀ segment ∈ uploads, .enq ∉ segment := by decide
    exact fun segment member => checked segment (history.allowed segment member)
  have once : ∀ segment ∈ uploads, segment.count .report ≤ 1 := by decide
  have even : ∀ segment ∈ uploads, segment.count .eot = segment.count .report := by decide
  constructor
  · intro before after split
    rw [history.whole] at split
    obtain ⟨early, left, right, cut, member⟩ := symbol_in_segment split (by decide)
    exact ⟨early, left, cut, upload_in_front (history.allowed _ member)⟩
  · intro before after split
    rw [history.whole] at split
    obtain ⟨early, left, right, cut, member⟩ := symbol_in_segment split (by decide)
    obtain ⟨late, same, absent⟩ := report_behind (history.allowed _ member)
    exact ⟨early, [], late, by rw [cut, same, List.nil_append], List.not_mem_nil, absent⟩
  · intro before between rest split open_
    rw [history.whole] at split
    obtain ⟨more, closed, parts, absent, ends⟩ := split_closed Symbol.enq rest
    rw [parts, ← List.append_assoc] at split
    have member := between_is_segment free split (by
      intro inside
      rcases List.mem_append.mp inside with front | back
      · exact open_ front
      · exact absent back) ends
    have whole := once _ (history.allowed _ member)
    rw [List.count_append] at whole
    omega
  · intro before between rest split open_ ends
    rw [history.whole] at split
    exact even between (history.allowed _ (between_is_segment free split open_ ends))
  · rw [history.whole]
    rcases joined_closed Symbol.enq segments with empty | marked
    · exact Or.inl (congrArg List.head? empty)
    · exact Or.inr marked
  · rw [history.whole]
    apply Nat.le_trans _ bound
    apply count_joined_le (by decide)
    exact fun segment member => once segment (history.allowed segment member)

theorem start_served (equip : Nat) (type : SequenceType) :
    Served equip (Lone.start equip type).process (Lone.start equip type).commands := by
  obtain ⟨here, points⟩ := advance_owned Process.start equip
    { type := type, state := .idle, equipData := [] } { effects := [], next := .idle }
  refine ⟨_, [], here, points, ?_, Nat.le_refl 0⟩
  constructor
  · rfl
  · intro segment member
    cases member
  · exact Or.inl rfl

/-- The only controller of a process takes every run of inputs, and in every state it
reaches its trace of writes and reports conforms to the protocol. -/
theorem always_conforms (convert : Int → String) (equip : Nat) (type : SequenceType)
    (inputs : List Input) :
    (∃ last, run (step convert equip) (Lone.start equip type) inputs = some last) ∧
      Always (step convert equip) (fun lone => Conforms (traceOf lone.process) lone.commands)
        (Lone.start equip type) inputs := by
  have initial := start_served equip type
  have conforms (lone : Lone) (served : Served equip lone.process lone.commands) :
      Conforms (traceOf lone.process) lone.commands := by
    obtain ⟨ctrl, segments, -, -, history, bound⟩ := served
    exact history_conforms history bound
  refine ⟨run_returns convert inputs initial, conforms _ initial, ?_⟩
  have keeps (lone : Lone) (input : Input) (next : Lone)
      (served : Served equip lone.process lone.commands)
      (taken : step convert equip lone input = some next) :
      Served equip next.process next.commands ∧
        Conforms (traceOf next.process) next.commands := by
    have kept := step_served served taken
    exact ⟨kept, conforms next kept⟩
  exact each_step_of_keeps keeps initial

end DevHub.Conformance
