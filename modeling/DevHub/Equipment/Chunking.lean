import DevHub.Equipment.LoneRun
import Mathlib.Data.List.Basic

/-!
The stream of ACK bytes and frames that a device sends, under the ways to cut it. A read that
begins with an ACK is passed on as a whole, and an ACK further behind becomes a part of the
next frame; so only where every ACK is a read of its own the state machine gets what the
device has sent.
-/

namespace DevHub.Chunking

open Sequence SolderCtrls Transition Isolation LoneCtrl
open Conformance (Input)

set_option autoImplicit false

/-- What the device sends: an ACK, or a frame, which has neither an ACK nor an ETX inside. -/
inductive Token where
  | acknowledge
  | frame (data : List UInt8) (plain : Sequence.ack ∉ data ∧ etx ∉ data)

def Token.bytes : Token → List UInt8
  | acknowledge => [Sequence.ack]
  | frame data _ => data ++ [etx]

def stream (tokens : List Token) : List UInt8 := tokens.flatMap Token.bytes

def inputs (equipData : List UInt8) : List Token → List Call
  | [] => []
  | .acknowledge :: rest => .read [Sequence.ack] :: inputs equipData rest
  | .frame data _ :: rest => .frame (equipData ++ data) :: inputs [] rest

/-- The bytes of one `OnData` call. -/
structure Chunk where
  first : UInt8
  rest : List UInt8

def Chunk.bytes (chunk : Chunk) : List UInt8 := chunk.first :: chunk.rest

structure Cut (tokens : List Token) where
  chunks : List Chunk
  whole : chunks.flatMap Chunk.bytes = stream tokens

def Cut.inputs {tokens : List Token} (cut : Cut tokens) : List Input :=
  cut.chunks.map fun chunk => .onData chunk.first chunk.rest

def decodeAll (equipData : List UInt8) : List Chunk → List Call × List UInt8
  | [] => ([], equipData)
  | chunk :: rest =>
      let first := decode equipData chunk.bytes
      let later := decodeAll first.2 rest
      (first.1 ++ later.1, later.2)

/-- In both cuts the state machine gets the tokens one by one, writes and reports the same
without an access outside the input, and ends the same with the same `m_equipData`. -/
structure Uniform (convert : Int → String) {equip : Nat} (sole : Sole equip)
    {tokens : List Token} (first second : Cut tokens) : Prop where
  calls : ∀ cut ∈ [first, second],
    (decodeAll sole.ctrl.equipData cut.chunks).1 = inputs sole.ctrl.equipData tokens
  outcome : ∃ ctrl effects, .outside ∉ effects ∧ ∀ cut ∈ [first, second],
    ∃ last, run (SolderCtrls.step convert) sole.process
        (cut.inputs.map (Input.event equip)) = some last ∧
      last.ctrls equip = some ctrl ∧ last.log = sole.process.log ++ tagged equip effects

def Cut.Apart {tokens : List Token} (cut : Cut tokens) : Prop :=
  ∀ chunk ∈ cut.chunks, Sequence.ack ∈ chunk.bytes → chunk.bytes = [Sequence.ack]

/-- The calls find what they read in the states in which they come. -/
def AllWithin (convert : Int → String) (type : SequenceType) (state : SequenceState) :
    List Call → Prop
  | [] => True
  | call :: rest =>
      Within convert type state call ∧
        AllWithin convert type (serve convert type state call).1 rest

/-! ### What is served -/

variable {convert : Int → String} {type : SequenceType}

theorem serve_all_inside_iff {state : SequenceState} {calls : List Call} :
    .outside ∉ (serveAll convert type state calls).2 ↔ AllWithin convert type state calls := by
  induction calls generalizing state with
  | nil => exact iff_of_true List.not_mem_nil trivial
  | cons call rest ih =>
      rw [serveAll, AllWithin, List.mem_append, not_or, serve_inside_iff, ih]

theorem serve_all_append (state : SequenceState) (first second : List Call) :
    serveAll convert type state (first ++ second) =
      ((serveAll convert type (serveAll convert type state first).1 second).1,
        (serveAll convert type state first).2 ++
          (serveAll convert type (serveAll convert type state first).1 second).2) := by
  induction first generalizing state with
  | nil => rfl
  | cons call rest ih =>
      simp only [List.cons_append, serveAll, ih, List.append_assoc]

theorem lone_all_chunks (ctrl : SolderCtrl) (chunks : List Chunk) :
    loneAll convert ctrl (chunks.map fun chunk => .onData chunk.first chunk.rest) =
      ({ ctrl with
          state := (serveAll convert ctrl.type ctrl.state
            (decodeAll ctrl.equipData chunks).1).1
          equipData := (decodeAll ctrl.equipData chunks).2 },
        (serveAll convert ctrl.type ctrl.state (decodeAll ctrl.equipData chunks).1).2) := by
  induction chunks generalizing ctrl with
  | nil => rfl
  | cons chunk rest ih =>
      simp only [List.map_cons, loneAll, decodeAll, ih, lone, receive, serve_all_append]
      rfl

/-! ### How many calls there are -/

theorem bytes_calls (equipData data : List UInt8) :
    (decodeBytes equipData data).1.length = data.count etx := by
  induction data generalizing equipData with
  | nil => rfl
  | cons byte rest ih =>
      rw [decodeBytes]
      by_cases ends : byte = etx
      · rw [if_neg (not_not.mpr ends), ends, List.count_cons_self, List.length_cons, ih]
      · rw [if_pos ends, List.count_cons_of_ne ends, ih]

def marks (data : List UInt8) : Nat := data.count Sequence.ack + data.count etx

theorem marks_append (first second : List UInt8) :
    marks (first ++ second) = marks first + marks second := by
  simp only [marks, List.count_append]
  omega

theorem chunk_calls (equipData : List UInt8) (chunk : Chunk) :
    (decode equipData chunk.bytes).1.length ≤ marks chunk.bytes := by
  rw [decode]
  by_cases starts : chunk.bytes.head? = some Sequence.ack
  · have present : Sequence.ack ∈ chunk.bytes := List.mem_of_head? starts
    have counted := List.count_pos_iff.mpr present
    rw [if_pos starts, marks, List.length_singleton]
    omega
  · rw [if_neg starts, bytes_calls, marks]
    omega

theorem chunks_calls (equipData : List UInt8) (chunks : List Chunk) :
    (decodeAll equipData chunks).1.length ≤ marks (chunks.flatMap Chunk.bytes) := by
  induction chunks generalizing equipData with
  | nil => exact Nat.le_refl 0
  | cons chunk rest ih =>
      have head := chunk_calls equipData chunk
      have tail := ih (decode equipData chunk.bytes).2
      rw [decodeAll, List.flatMap_cons, marks_append, List.length_append]
      omega

/-- Where every mark gives a call, and every ACK is called with alone, it was read alone. -/
theorem apart_of_calls {equipData : List UInt8} {chunks : List Chunk}
    (all : (decodeAll equipData chunks).1.length = marks (chunks.flatMap Chunk.bytes))
    (alone : ∀ data, .read data ∈ (decodeAll equipData chunks).1 → data = [Sequence.ack]) :
    ∀ chunk ∈ chunks, Sequence.ack ∈ chunk.bytes → chunk.bytes = [Sequence.ack] := by
  induction chunks generalizing equipData with
  | nil => exact List.forall_mem_nil _
  | cons chunk rest ih =>
      have head := chunk_calls equipData chunk
      have tail := chunks_calls (decode equipData chunk.bytes).2 rest
      rw [decodeAll, List.flatMap_cons, marks_append, List.length_append] at all
      rw [decodeAll] at alone
      refine List.forall_mem_cons.mpr ⟨?_, ih (by omega) fun data member =>
        alone data (List.mem_append_right _ member)⟩
      intro present
      by_cases starts : chunk.bytes.head? = some Sequence.ack
      · apply alone
        apply List.mem_append_left
        rw [decode, if_pos starts]
        exact List.mem_singleton_self _
      · have counted := List.count_pos_iff.mpr present
        have same : (decode equipData chunk.bytes).1.length = marks chunk.bytes := by omega
        rw [decode, if_neg starts, bytes_calls, marks] at same
        omega

theorem inputs_length (equipData : List UInt8) (tokens : List Token) :
    (inputs equipData tokens).length = marks (stream tokens) := by
  induction tokens generalizing equipData with
  | nil => rfl
  | cons token rest ih =>
      have split : marks (stream (token :: rest)) = marks token.bytes + marks (stream rest) :=
        marks_append _ _
      cases token with
      | acknowledge =>
          have one : marks (Token.bytes .acknowledge) = 1 := by decide
          rw [inputs, List.length_cons, ih, split, one]
          omega
      | frame data plain =>
          have other : etx ≠ Sequence.ack := by decide
          have one : marks (Token.frame data plain).bytes = 1 := by
            rw [marks, Token.bytes, List.count_append, List.count_append,
              List.count_eq_zero_of_not_mem plain.1, List.count_eq_zero_of_not_mem plain.2]
            decide
          rw [inputs, List.length_cons, ih, split, one]
          omega

theorem inputs_alone (equipData : List UInt8) (tokens : List Token) (data : List UInt8)
    (member : .read data ∈ inputs equipData tokens) : data = [Sequence.ack] := by
  induction tokens generalizing equipData with
  | nil => cases member
  | cons token rest ih =>
      cases token with
      | acknowledge =>
          rcases List.mem_cons.mp member with same | later
          · exact Call.read.inj same
          · exact ih _ later
      | frame other plain =>
          rcases List.mem_cons.mp member with same | later
          · cases same
          · exact ih _ later

/-! ### The stream without its cuts -/

/-- The stream byte by byte, with an ACK where it stands. -/
def plainly (equipData : List UInt8) : List UInt8 → List Call × List UInt8
  | [] => ([], equipData)
  | byte :: rest =>
      if byte = Sequence.ack then
        let later := plainly equipData rest
        (.read [Sequence.ack] :: later.1, later.2)
      else if byte = etx then
        let later := plainly [] rest
        (.frame equipData :: later.1, later.2)
      else plainly (equipData ++ [byte]) rest

theorem plainly_append (equipData first second : List UInt8) :
    plainly equipData (first ++ second) =
      ((plainly equipData first).1 ++ (plainly (plainly equipData first).2 second).1,
        (plainly (plainly equipData first).2 second).2) := by
  induction first generalizing equipData with
  | nil => rfl
  | cons byte rest ih =>
      rw [List.cons_append, plainly, plainly]
      by_cases marked : byte = Sequence.ack
      · simp only [if_pos marked, ih, List.cons_append]
      · rw [if_neg marked, if_neg marked]
        by_cases ends : byte = etx
        · simp only [if_pos ends, ih, List.cons_append]
        · rw [if_neg ends, if_neg ends, ih]

theorem decode_plainly {data : List UInt8} (free : Sequence.ack ∉ data)
    (equipData : List UInt8) : decodeBytes equipData data = plainly equipData data := by
  induction data generalizing equipData with
  | nil => rfl
  | cons byte rest ih =>
      have other : byte ≠ Sequence.ack := fun same => free (same ▸ List.mem_cons_self)
      have later := ih fun member => free (List.mem_cons_of_mem _ member)
      rw [decodeBytes, plainly, if_neg other]
      by_cases ends : byte = etx
      · rw [if_neg (not_not.mpr ends), if_pos ends, later]
      · rw [if_pos ends, if_neg ends, later]

theorem apart_plainly {chunk : Chunk}
    (apart : Sequence.ack ∈ chunk.bytes → chunk.bytes = [Sequence.ack])
    (equipData : List UInt8) :
    decode equipData chunk.bytes = plainly equipData chunk.bytes := by
  by_cases present : Sequence.ack ∈ chunk.bytes
  · rw [apart present]
    rfl
  · have starts : chunk.bytes.head? ≠ some Sequence.ack :=
      fun starts => present (List.mem_of_head? starts)
    rw [decode, if_neg starts, decode_plainly present]

theorem all_plainly {chunks : List Chunk}
    (apart : ∀ chunk ∈ chunks, Sequence.ack ∈ chunk.bytes → chunk.bytes = [Sequence.ack])
    (equipData : List UInt8) :
    decodeAll equipData chunks = plainly equipData (chunks.flatMap Chunk.bytes) := by
  induction chunks generalizing equipData with
  | nil => rfl
  | cons chunk rest ih =>
      obtain ⟨head, tail⟩ := List.forall_mem_cons.mp apart
      rw [decodeAll, apart_plainly head, ih tail, List.flatMap_cons, plainly_append]

theorem frame_plainly {data : List UInt8} (plain : Sequence.ack ∉ data ∧ etx ∉ data)
    (equipData : List UInt8) : plainly equipData data = ([], equipData ++ data) := by
  induction data generalizing equipData with
  | nil => simp [plainly]
  | cons byte rest ih =>
      have noAck : byte ≠ Sequence.ack := fun same => plain.1 (same ▸ List.mem_cons_self)
      have noEtx : byte ≠ etx := fun same => plain.2 (same ▸ List.mem_cons_self)
      have later := ih ⟨fun member => plain.1 (List.mem_cons_of_mem _ member),
        fun member => plain.2 (List.mem_cons_of_mem _ member)⟩
      rw [plainly, if_neg noAck, if_neg noEtx, later, List.append_assoc, List.singleton_append]

theorem stream_plainly (equipData : List UInt8) (tokens : List Token) :
    (plainly equipData (stream tokens)).1 = inputs equipData tokens := by
  induction tokens generalizing equipData with
  | nil => rfl
  | cons token rest ih =>
      have split : stream (token :: rest) = token.bytes ++ stream rest := rfl
      cases token with
      | acknowledge =>
          rw [split, Token.bytes, List.singleton_append, plainly, if_pos rfl, inputs, ← ih]
      | frame data plain =>
          have other : etx ≠ Sequence.ack := by decide
          rw [split, Token.bytes, List.append_assoc, plainly_append, frame_plainly plain,
            List.nil_append, List.singleton_append, plainly, if_neg other, if_pos rfl, inputs, ← ih]

/-- The state machine gets the tokens exactly when every ACK is read alone. -/
theorem calls_iff_apart {tokens : List Token} (cut : Cut tokens) (equipData : List UInt8) :
    (decodeAll equipData cut.chunks).1 = inputs equipData tokens ↔ cut.Apart := by
  constructor
  · intro same
    have all : (decodeAll equipData cut.chunks).1.length =
        marks (cut.chunks.flatMap Chunk.bytes) := by
      rw [same, inputs_length, cut.whole]
    refine apart_of_calls all fun data member => ?_
    rw [same] at member
    exact inputs_alone equipData tokens data member
  · intro apart
    rw [all_plainly apart, cut.whole, stream_plainly]

theorem cut_follows (convert : Int → String) {equip : Nat} (sole : Sole equip)
    {tokens : List Token} (cut : Cut tokens) :
    ∃ last, run (SolderCtrls.step convert) sole.process
        (cut.inputs.map (Input.event equip)) = some last ∧
      last.ctrls equip = some {
        sole.ctrl with
        state := (serveAll convert sole.ctrl.type sole.ctrl.state
          (decodeAll sole.ctrl.equipData cut.chunks).1).1
        equipData := (decodeAll sole.ctrl.equipData cut.chunks).2 } ∧
      last.log = sole.process.log ++ tagged equip (serveAll convert sole.ctrl.type
        sole.ctrl.state (decodeAll sole.ctrl.equipData cut.chunks).1).2 := by
  obtain ⟨last, ran, follows⟩ := run_follows convert cut.inputs sole.found sole.owned
  rw [Cut.inputs, lone_all_chunks] at follows
  exact ⟨last, ran, follows_here follows, follows.log⟩

theorem tagged_injective (equip : Nat) : Function.Injective (tagged equip) := by
  have tag : Function.Injective fun effect => ({ equip := equip, effect := effect } : Output) :=
    fun _ _ same => (Output.mk.inj same).2
  exact List.map_injective_iff.mpr tag

theorem within_of_uniform {convert : Int → String} {equip : Nat} {sole : Sole equip}
    {tokens : List Token} {first second : Cut tokens}
    (uniform : Uniform convert sole first second) :
    AllWithin convert sole.ctrl.type sole.ctrl.state (inputs sole.ctrl.equipData tokens) := by
  obtain ⟨calls, ctrl, effects, inside, outcome⟩ := uniform
  obtain ⟨last, ran, -, log⟩ := outcome first List.mem_cons_self
  obtain ⟨other, reached, -, logged⟩ := cut_follows convert sole first
  obtain rfl := Option.some.inj (ran.symm.trans reached)
  have same := tagged_injective equip (List.append_cancel_left (log.symm.trans logged))
  rw [← serve_all_inside_iff, ← calls first List.mem_cons_self, ← same]
  exact inside

theorem uniform_of_apart {convert : Int → String} {equip : Nat} {sole : Sole equip}
    {tokens : List Token} {first second : Cut tokens}
    (apart : ∀ cut ∈ [first, second], cut.Apart)
    (within : AllWithin convert sole.ctrl.type sole.ctrl.state
      (inputs sole.ctrl.equipData tokens)) : Uniform convert sole first second := by
  have decoded : ∀ cut ∈ [first, second], decodeAll sole.ctrl.equipData cut.chunks =
      (inputs sole.ctrl.equipData tokens,
        (plainly sole.ctrl.equipData (stream tokens)).2) := by
    intro cut member
    rw [all_plainly (apart cut member), cut.whole, ← stream_plainly]
  let served := serveAll convert sole.ctrl.type sole.ctrl.state
    (inputs sole.ctrl.equipData tokens)
  let ends : SolderCtrl := {
    sole.ctrl with
    state := served.1
    equipData := (plainly sole.ctrl.equipData (stream tokens)).2 }
  have outcome : ∀ cut ∈ [first, second],
      ∃ last, run (SolderCtrls.step convert) sole.process
          (cut.inputs.map (Input.event equip)) = some last ∧
        last.ctrls equip = some ends ∧
        last.log = sole.process.log ++ tagged equip served.2 := by
    intro cut member
    have follows := cut_follows convert sole cut
    rw [decoded cut member] at follows
    exact follows
  exact ⟨fun cut member => by rw [decoded cut member], ends, served.2,
    serve_all_inside_iff.mpr within, outcome⟩

/-- The outcome does not depend on the cut exactly when in both of them every ACK is a chunk
of its own and every token has what the state reads in which it comes. -/
theorem uniform_iff (convert : Int → String) {equip : Nat} (sole : Sole equip)
    {tokens : List Token} (first second : Cut tokens) :
    Uniform convert sole first second ↔
      first.Apart ∧ second.Apart ∧
        AllWithin convert sole.ctrl.type sole.ctrl.state
          (inputs sole.ctrl.equipData tokens) := by
  constructor
  · intro uniform
    have firstCalls := uniform.calls first List.mem_cons_self
    have secondCalls := uniform.calls second (List.mem_cons_of_mem _ List.mem_cons_self)
    exact ⟨(calls_iff_apart first _).mp firstCalls, (calls_iff_apart second _).mp secondCalls,
      within_of_uniform uniform⟩
  · rintro ⟨firstApart, secondApart, within⟩
    refine uniform_of_apart ?_ within
    intro cut member
    rcases List.mem_cons.mp member with rfl | second
    · exact firstApart
    · rw [List.mem_singleton.mp second]
      exact secondApart

def waiting : Sole 0 where
  process := {
    ctrls := fun equip =>
      if equip = 0 then some { type := .glueSequence, state := .upLoad, equipData := [] } else none
    sequenceEquipmen := fun state => if state = .upLoad then some 0 else none
    log := [] }
  ctrl := { type := .glueSequence, state := .upLoad, equipData := [] }
  found := rfl
  owned := rfl

def ackAndFrame : List Token := [.acknowledge, .frame (bytes "0") (by decide)]

def apartCut : Cut ackAndFrame where
  chunks := [⟨Sequence.ack, []⟩, ⟨0x30, [etx]⟩]
  whole := by decide

def mergedCut : Cut ackAndFrame where
  chunks := [⟨Sequence.ack, [0x30, etx]⟩]
  whole := by decide

/-- Read with its ACK, the frame is lost. -/
theorem merged_not_uniform : ¬ Uniform (fun _ => "") waiting apartCut mergedCut := by
  intro uniform
  have calls := uniform.calls mergedCut (List.mem_cons_of_mem _ List.mem_cons_self)
  exact absurd calls (by decide)

end DevHub.Chunking
