import DevHub.Library.Run
import DevHub.Communication.ConnBase

/-!
Runs of `Send` and `OnWrite` on one connection. The bytes the kernel took and
the bytes `Send` added are kept beside the connection. Order and completeness
hold in every run; that the write event is armed whenever bytes wait holds
exactly in the runs where a first write is taken whole and the write event
never meets `EAGAIN`.
-/

namespace DevHub.WriteQueue

open Transition ConnBase

set_option autoImplicit false

variable {Sink : Type}

structure State (Sink : Type) where
  conn : Connection Sink
  wire : List Byte
  added : List Byte

inductive Call where
  | send (data : List Byte) (evbufferAdd : Bool) (kernel : KernelWrite)
  | onWrite (kernel : KernelWrite)

def State.start (sink : Sink) : State Sink where
  conn := .opened sink
  wire := []
  added := []

def addedBy (conn : Connection Sink) (data : List Byte) (evbufferAdd : Bool) : List Byte :=
  if conn.closing || !evbufferAdd then [] else data

/-- The write event is not persistent: libevent removes it before the callback. -/
def step (state : State Sink) : Call → Option (State Sink)
  | .send data evbufferAdd kernel =>
      let sent := (ConnBase.send state.conn data evbufferAdd kernel).2
      some
        { conn := sent.1
          wire := state.wire ++ sent.2
          added := state.added ++ addedBy state.conn data evbufferAdd }
  | .onWrite kernel =>
      if state.conn.writeEvent then
        let called := ConnBase.onWrite { state.conn with writeEvent := false } kernel
        some { state with conn := called.1, wire := state.wire ++ called.2.1 }
      else none

def BytesInOrder (state : State Sink) : Prop :=
  state.conn.closing = false → state.wire ++ state.conn.writeBuffer = state.added

/-- What the write queue is for, in a state between two calls. -/
structure QueueSound (state : State Sink) : Prop where
  inOrder : BytesInOrder state
  armed : state.conn.closing = false → state.conn.writeBuffer ≠ [] → state.conn.writeEvent = true

/-- A write into an empty queue is taken whole, and the write event never meets `EAGAIN`. -/
def Drains (state : State Sink) : Call → Prop
  | .send data evbufferAdd kernel =>
      state.conn.closing = false → evbufferAdd = true → state.conn.writeBuffer = [] →
        kernel.takesAll data.length
  | .onWrite kernel => kernel = .again → state.conn.writeBuffer = []

/-- The write event never outlives the bytes it was armed for. -/
structure Queued (state : State Sink) : Prop where
  sound : QueueSound state
  waiting : state.conn.writeEvent = true → state.conn.writeBuffer ≠ [] ∧ state.conn.closing = false

theorem start_queued (sink : Sink) : Queued (State.start sink) := by
  constructor
  · exact ⟨fun _ => rfl, fun _ nonempty => absurd rfl nonempty⟩
  · intro armed
    cases armed

theorem send_step {state next : State Sink} {data : List Byte} {evbufferAdd : Bool}
    {kernel : KernelWrite} (taken : step state (.send data evbufferAdd kernel) = some next) :
    next.conn = (ConnBase.send state.conn data evbufferAdd kernel).2.1 ∧
      next.wire = state.wire ++ (ConnBase.send state.conn data evbufferAdd kernel).2.2 ∧
      next.added = state.added ++ addedBy state.conn data evbufferAdd := by
  simp only [step, Option.some.injEq] at taken
  subst taken
  exact ⟨rfl, rfl, rfl⟩

theorem write_step {state next : State Sink} {kernel : KernelWrite}
    (taken : step state (.onWrite kernel) = some next) :
    let called := ConnBase.onWrite { state.conn with writeEvent := false } kernel
    state.conn.writeEvent = true ∧ next.conn = called.1 ∧
      next.wire = state.wire ++ called.2.1 ∧ next.added = state.added := by
  simp only [step] at taken
  split at taken
  · rename_i armed
    simp only [Option.some.injEq] at taken
    subst taken
    exact ⟨armed, rfl, rfl, rfl⟩
  · contradiction

/-- Neither call reorders, drops or repeats a byte, whatever the kernel answers. -/
theorem step_bytes_in_order {state next : State Sink} {call : Call}
    (ordered : BytesInOrder state) (taken : step state call = some next) :
    BytesInOrder next := by
  intro opened
  cases call with
  | send data evbufferAdd kernel =>
      obtain ⟨conn, wire, added⟩ := send_step taken
      rcases send_cases state.conn data evbufferAdd kernel with
        ⟨refused, result⟩ | ⟨before, accepted, -, result⟩ | ⟨before, accepted, empty, result⟩
      · have same : next.conn = state.conn := by rw [conn, result]
        have nothing : addedBy state.conn data evbufferAdd = [] := by
          rcases refused with closed | failed <;> simp [addedBy, *]
        rw [same, wire, added, nothing, result, List.append_nil, List.append_nil]
        exact ordered (same ▸ opened)
      · have everything : addedBy state.conn data evbufferAdd = data := by
          simp [addedBy, before, accepted]
        rw [conn, wire, added, everything, result, List.append_nil, ← List.append_assoc,
          ordered before]
      · have everything : addedBy state.conn data evbufferAdd = data := by
          simp [addedBy, before, accepted]
        have earlier := ordered before
        rw [empty, List.append_nil] at earlier
        rw [conn, wire, added, everything, result, List.append_assoc,
          evbuffer_write_splits, earlier]
  | onWrite kernel =>
      obtain ⟨-, conn, wire, added⟩ := write_step taken
      rcases on_write_cases { state.conn with writeEvent := false } kernel with
        ⟨empty, result⟩ | ⟨-, count, -, result⟩ | ⟨-, -, result⟩ | ⟨-, errno, -, result⟩
      · rw [conn, result] at opened
        rw [conn, wire, added, result, List.append_nil]
        exact ordered opened
      · rw [conn, result] at opened
        rw [conn, wire, added, result, List.append_assoc, List.take_append_drop]
        exact ordered opened
      · rw [conn, result] at opened
        rw [conn, wire, added, result, List.append_nil]
        exact ordered opened
      · rw [conn, result, close_closing] at opened
        contradiction

theorem step_queued (state : State Sink) (call : Call) (next : State Sink)
    (holds : Queued state) (drains : Drains state call) (taken : step state call = some next) :
    Queued next := by
  have ordered := step_bytes_in_order holds.sound.inOrder taken
  cases call with
  | send data evbufferAdd kernel =>
      obtain ⟨conn, -, -⟩ := send_step taken
      rcases send_cases state.conn data evbufferAdd kernel with
        ⟨-, result⟩ | ⟨before, -, nonempty, result⟩ | ⟨before, accepted, empty, result⟩
      · have same : next.conn = state.conn := by rw [conn, result]
        exact ⟨⟨ordered, same ▸ holds.sound.armed⟩, same ▸ holds.waiting⟩
      · refine ⟨⟨ordered, ?_⟩, ?_⟩
        · rw [conn, result]
          exact fun _ _ => rfl
        · rw [conn, result]
          exact fun _ => ⟨by simp [nonempty], before⟩
      · have whole := (evbuffer_write_left data kernel).mpr (drains before accepted empty)
        refine ⟨⟨ordered, ?_⟩, ?_⟩
        · rw [conn, result]
          exact fun _ waiting => absurd whole waiting
        · rw [conn, result]
          intro armed
          exact absurd empty (holds.waiting armed).1
  | onWrite kernel =>
      obtain ⟨armed, conn, -, -⟩ := write_step taken
      obtain ⟨nonempty, before⟩ := holds.waiting armed
      rcases on_write_cases { state.conn with writeEvent := false } kernel with
        ⟨empty, -⟩ | ⟨-, count, -, result⟩ | ⟨-, again, -⟩ | ⟨-, errno, -, result⟩
      · exact absurd empty nonempty
      · by_cases partly : count < state.conn.writeBuffer.length
        · refine ⟨⟨ordered, ?_⟩, ?_⟩
          · rw [conn, result]
            simp [partly]
          · rw [conn, result]
            intro _
            refine ⟨?_, before⟩
            simpa using partly
        · refine ⟨⟨ordered, ?_⟩, ?_⟩
          · rw [conn, result]
            intro _ waiting
            refine absurd ?_ waiting
            simpa using partly
          · rw [conn, result]
            simp [partly]
      · exact absurd (drains again) nonempty
      · have closed : next.conn.closing = true := by rw [conn, result, close_closing]
        refine ⟨⟨ordered, ?_⟩, ?_⟩
        · rw [closed]
          intro opened
          contradiction
        · rw [conn, result]
          simp [close, before]

theorem step_strands (state : State Sink) (call : Call) (next : State Sink)
    (holds : Queued state) (stuck : ¬ Drains state call) (taken : step state call = some next) :
    ¬ QueueSound next := by
  intro sound
  cases call with
  | send data evbufferAdd kernel =>
      simp only [Drains, Classical.not_imp] at stuck
      obtain ⟨before, accepted, empty, tooMuch⟩ := stuck
      obtain ⟨conn, -, -⟩ := send_step taken
      have result : (ConnBase.send state.conn data evbufferAdd kernel).2.1 =
          { state.conn with writeBuffer := (evbufferWrite data kernel).2.2 } := by
        rcases send_cases state.conn data evbufferAdd kernel with
          ⟨refused, -⟩ | ⟨-, -, nonempty, -⟩ | ⟨-, -, -, result⟩
        · simp [before, accepted] at refused
        · exact absurd empty nonempty
        · rw [result]
      rw [result] at conn
      have waiting : next.conn.writeBuffer ≠ [] := by
        rw [conn]
        exact fun left => tooMuch ((evbuffer_write_left data kernel).mp left)
      have armed := sound.armed (by rw [conn]; exact before) waiting
      rw [conn] at armed
      exact (holds.waiting armed).1 empty
  | onWrite kernel =>
      simp only [Drains, Classical.not_imp] at stuck
      obtain ⟨rfl, nonempty⟩ := stuck
      obtain ⟨armed, conn, -, -⟩ := write_step taken
      have result : ConnBase.onWrite { state.conn with writeEvent := false } .again =
          ({ state.conn with writeEvent := false }, [], none) := by
        simp [ConnBase.onWrite, evbufferWrite, nonempty]
      rw [result] at conn
      have unarmed := sound.armed (by rw [conn]; exact (holds.waiting armed).2)
        (by rw [conn]; exact nonempty)
      rw [conn] at unarmed
      cases unarmed

/-- A run keeps the write queue sound exactly when every write into an empty
queue is taken whole and the write event never meets `EAGAIN`. -/
theorem write_queue_sound_iff_drains (sink : Sink) (calls : List Call) :
    Always step QueueSound (State.start sink) calls ↔
      Guarded step Drains (State.start sink) calls := by
  have rule : EachStep step (fun _ _ next => QueueSound next) (State.start sink) calls ↔
      Guarded step Drains (State.start sink) calls := by
    apply each_step_iff_guarded (fun state call next holds drains taken => ?_) step_strands
      (start_queued sink)
    have kept := step_queued state call next holds drains taken
    exact ⟨kept, kept.sound⟩
  exact ⟨fun always => rule.mp always.2,
    fun drains => ⟨(start_queued sink).sound, rule.mpr drains⟩⟩

/-- Order alone needs no condition: no run reorders, drops or repeats a byte. -/
theorem bytes_always_in_order (sink : Sink) (calls : List Call) :
    Always step BytesInOrder (State.start sink) calls := by
  apply always_of_keeps
  · intro state call next ordered taken
    exact step_bytes_in_order ordered taken
  · exact fun _ => rfl

/-- Two bytes sent, one accepted: the second waits with no event to write it. -/
theorem partial_send_strands :
    ¬ Always step QueueSound (State.start 0) [.send [65, 66] true (.accepts 1)] := by
  intro holds
  have sound := (holds.2 _ rfl).1
  exact absurd (sound.armed rfl (by decide)) (by decide)

end DevHub.WriteQueue
