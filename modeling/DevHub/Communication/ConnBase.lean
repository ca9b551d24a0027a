import Mathlib.Tactic.Common

/-!
The sending half of `Connection`: `Send`, `Close` and `OnWrite` over the write
buffer and the one-shot write event. What the kernel does with a write is an
input of each call. Each call has one lemma that lists its outcomes.
-/

namespace DevHub.ConnBase

set_option autoImplicit false

abbrev Byte := UInt8

/-- `m_writeBuffer` is empty once `Close` has freed it, and `writeEvent` says
that `m_writeEvent` exists and is added. -/
structure Connection (Sink : Type) where
  sink : Option Sink
  readEvent : Bool
  writeEvent : Bool
  writeBuffer : List Byte
  closing : Bool

variable {Sink : Type}

/-- The constructor of `TcpConnection` and `UnixConnection`, and the sink set after it. -/
def Connection.opened (sink : Sink) : Connection Sink where
  sink := some sink
  readEvent := true
  writeEvent := false
  writeBuffer := []
  closing := false

/-- `EAGAIN` and `EWOULDBLOCK` are `again`; `fails` carries any other errno. -/
inductive KernelWrite where
  | accepts (count : Nat)
  | again
  | fails (errno : Int)

def evbufferWrite (buffer : List Byte) : KernelWrite → Int × List Byte × List Byte
  | .accepts count => ((buffer.take count).length, buffer.take count, buffer.drop count)
  | .again => (-1, [], buffer)
  | .fails _ => (-1, [], buffer)

def close (conn : Connection Sink) : Connection Sink :=
  if conn.closing then conn
  else
    { sink := none, readEvent := false, writeEvent := false, writeBuffer := [], closing := true }

/-- `evbufferAdd` says whether `evbuffer_add` succeeds. The result is the return
value, the connection and the bytes written by this call. -/
def send (conn : Connection Sink) (data : List Byte) (evbufferAdd : Bool)
    (kernel : KernelWrite) : Int × Connection Sink × List Byte :=
  if conn.closing then (-1, conn, [])
  else if evbufferAdd = false then (-1, conn, [])
  else
    let buffer := conn.writeBuffer ++ data
    if conn.writeBuffer.length ≠ 0 then
      (0, { conn with writeBuffer := buffer, writeEvent := true }, [])
    else
      let (rt, written, left) := evbufferWrite buffer kernel
      (rt, { conn with writeBuffer := left }, written)

/-- The callback of the write event; the last component is the `OnDisconnect`
call made on the sink, if any. -/
def onWrite (conn : Connection Sink) (kernel : KernelWrite) :
    Connection Sink × List Byte × Option (Sink × Int) :=
  if conn.writeBuffer.length ≠ 0 then
    let (sz, written, left) := evbufferWrite conn.writeBuffer kernel
    let rest := { conn with writeBuffer := left }
    if sz < 0 then
      match kernel with
      | .fails errno => (close rest, written, conn.sink.map fun sink => (sink, errno))
      | _ => (rest, written, none)
    else if sz < conn.writeBuffer.length then
      ({ rest with writeEvent := true }, written, none)
    else (rest, written, none)
  else (conn, [], none)

def KernelWrite.takesAll (length : Nat) : KernelWrite → Prop
  | .accepts count => length ≤ count
  | _ => length = 0

theorem evbuffer_write_splits (buffer : List Byte) (kernel : KernelWrite) :
    (evbufferWrite buffer kernel).2.1 ++ (evbufferWrite buffer kernel).2.2 = buffer := by
  cases kernel with
  | accepts count => exact List.take_append_drop count buffer
  | again => rfl
  | fails errno => rfl

theorem evbuffer_write_left (buffer : List Byte) (kernel : KernelWrite) :
    (evbufferWrite buffer kernel).2.2 = [] ↔ kernel.takesAll buffer.length := by
  cases kernel <;> simp [evbufferWrite, KernelWrite.takesAll]

theorem send_cases (conn : Connection Sink) (data : List Byte) (evbufferAdd : Bool)
    (kernel : KernelWrite) :
    ((conn.closing = true ∨ evbufferAdd = false) ∧
        (send conn data evbufferAdd kernel).2 = (conn, [])) ∨
      (conn.closing = false ∧ evbufferAdd = true ∧ conn.writeBuffer ≠ [] ∧
        (send conn data evbufferAdd kernel).2 =
          ({ conn with writeBuffer := conn.writeBuffer ++ data, writeEvent := true }, [])) ∨
      (conn.closing = false ∧ evbufferAdd = true ∧ conn.writeBuffer = [] ∧
        (send conn data evbufferAdd kernel).2 =
          ({ conn with writeBuffer := (evbufferWrite data kernel).2.2 },
            (evbufferWrite data kernel).2.1)) := by
  by_cases closed : conn.closing = true
  · exact Or.inl ⟨Or.inl closed, by simp [send, closed]⟩
  · have opened : conn.closing = false := by simpa using closed
    by_cases refused : evbufferAdd = false
    · exact Or.inl ⟨Or.inr refused, by simp [send, refused]⟩
    · have accepted : evbufferAdd = true := by simpa using refused
      by_cases empty : conn.writeBuffer = []
      · exact Or.inr (Or.inr ⟨opened, accepted, empty, by simp [send, opened, accepted, empty]⟩)
      · exact Or.inr (Or.inl ⟨opened, accepted, empty, by simp [send, opened, accepted, empty]⟩)

/-- The outcomes of `OnWrite`: nothing queued, a partial or whole write, a retry
later, a broken connection. -/
theorem on_write_cases (conn : Connection Sink) (kernel : KernelWrite) :
    (conn.writeBuffer = [] ∧ onWrite conn kernel = (conn, [], none)) ∨
      (conn.writeBuffer ≠ [] ∧ ∃ count, kernel = .accepts count ∧
        onWrite conn kernel =
          ({ conn with
              writeBuffer := conn.writeBuffer.drop count
              writeEvent := if count < conn.writeBuffer.length then true else conn.writeEvent },
            conn.writeBuffer.take count, none)) ∨
      (conn.writeBuffer ≠ [] ∧ kernel = .again ∧ onWrite conn kernel = (conn, [], none)) ∨
      (conn.writeBuffer ≠ [] ∧ ∃ errno, kernel = .fails errno ∧
        onWrite conn kernel =
          (close conn, [], conn.sink.map fun sink => (sink, errno))) := by
  by_cases empty : conn.writeBuffer = []
  · exact Or.inl ⟨empty, by simp [onWrite, empty]⟩
  · cases kernel with
    | accepts count =>
        refine Or.inr (Or.inl ⟨empty, count, rfl, ?_⟩)
        by_cases partly : count < conn.writeBuffer.length
        · have short : min count conn.writeBuffer.length = count := by omega
          have positive : ¬ (count : Int) < 0 := by omega
          simp [onWrite, evbufferWrite, empty, partly, short, positive]
        · have whole : min count conn.writeBuffer.length = conn.writeBuffer.length := by omega
          simp [onWrite, evbufferWrite, empty, partly, whole]
    | again =>
        refine Or.inr (Or.inr (Or.inl ⟨empty, rfl, ?_⟩))
        simp [onWrite, evbufferWrite, empty]
    | fails errno =>
        refine Or.inr (Or.inr (Or.inr ⟨empty, errno, rfl, ?_⟩))
        simp [onWrite, evbufferWrite, empty]

theorem close_closing (conn : Connection Sink) : (close conn).closing = true := by
  unfold close
  split
  · assumption
  · rfl

end DevHub.ConnBase
