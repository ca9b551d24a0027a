import DevHub.Library.Run
import DevHub.Equipment.ElecBalance
import Mathlib.Data.List.GetD

/-!
`Peripheral::OnRead`. The read buffer is one for all reads and nothing clears it: a read
overwrites the front of it, and the equipment gets all of it with the number of bytes read.
Neither the constructor of `Uart` nor that of `Peripheral` fills the buffer.
-/

namespace DevHub.Peripheral

open Transition

set_option autoImplicit false

structure ReadBuffer where
  bytes : List UInt8
  size : bytes.length = 1024

/-- What a `read` of at most 1000 bytes returns when it returns any. -/
structure Chunk where
  bytes : List UInt8
  nonempty : bytes ≠ []
  short : bytes.length ≤ 1000

def ReadBuffer.read (buffer : ReadBuffer) (chunk : Chunk) : ReadBuffer where
  bytes := chunk.bytes ++ buffer.bytes.drop chunk.bytes.length
  size := by
    have short := chunk.short
    rw [List.length_append, List.length_drop, buffer.size]
    omega

def ReadBuffer.data (buffer : ReadBuffer) : ElecBalance.Data := fun i => buffer.bytes.getD i 0

structure Read where
  chunk : Chunk
  time : Int

/-- `reports` has what the equipment made of each read. -/
structure State (Report : Type) where
  buffer : ReadBuffer
  reports : List Report

def State.start {Report : Type} (buffer : ReadBuffer) : State Report where
  buffer := buffer
  reports := []

def step {Report : Type} (onData : ReadBuffer → Int → Report) : Step (State Report) Read :=
  fun state read =>
    let buffer := state.buffer.read read.chunk
    some { buffer := buffer, reports := state.reports ++ [onData buffer read.time] }

def Agree (len : Nat) (buffer other : ReadBuffer) : Prop :=
  buffer.bytes.take len = other.bytes.take len

/-- The report for the read is the same whatever stands in the buffer behind it. -/
def OfBytes {Report : Type} (onData : ReadBuffer → Int → Report) (_ : State Report) (read : Read)
    (after : State Report) : Prop :=
  ∀ other, Agree read.chunk.bytes.length after.buffer other →
    after.reports.getLast? = some (onData other read.time)

theorem read_agree (buffer other : ReadBuffer) (chunk : Chunk) :
    Agree chunk.bytes.length (buffer.read chunk) (other.read chunk) := by
  simp [Agree, ReadBuffer.read]

theorem agree_read {buffer other : ReadBuffer} {chunk : Chunk}
    (agree : Agree chunk.bytes.length (buffer.read chunk) other) : other = other.read chunk := by
  have front : other.bytes.take chunk.bytes.length = chunk.bytes := by
    rw [← agree, ReadBuffer.read, List.take_left]
  have whole : other.bytes = chunk.bytes ++ other.bytes.drop chunk.bytes.length := by
    conv_lhs => rw [← List.take_append_drop chunk.bytes.length other.bytes, front]
  cases other with
  | mk bytes size =>
      rw [ReadBuffer.read, ReadBuffer.mk.injEq]
      exact whole

theorem of_bytes_iff {Report : Type} {onData : ReadBuffer → Int → Report} {before after : State Report}
    {read : Read} (taken : step onData before read = some after) :
    OfBytes onData before read after ↔
      ∀ buffer other : ReadBuffer,
        onData (buffer.read read.chunk) read.time = onData (other.read read.chunk) read.time := by
  obtain rfl := Option.some.inj taken
  simp only [OfBytes, List.getLast?_concat, Option.some.injEq]
  constructor
  · intro same buffer other
    rw [← same _ (read_agree before.buffer buffer read.chunk),
      ← same _ (read_agree before.buffer other read.chunk)]
  · intro same other agree
    rw [agree_read agree]
    exact same before.buffer other

def ReadBuffer.filled (byte : UInt8) : ReadBuffer where
  bytes := List.replicate 1024 byte
  size := List.length_replicate

theorem filled_read (byte : UInt8) (chunk : Chunk) :
    ((ReadBuffer.filled byte).read chunk).bytes =
      chunk.bytes ++ List.replicate (1024 - chunk.bytes.length) byte := by
  simp only [ReadBuffer.read, ReadBuffer.filled, List.drop_replicate]

theorem read_data (buffer : ReadBuffer) (chunk : Chunk) (i : Nat) :
    (buffer.read chunk).data i =
      if i < chunk.bytes.length then chunk.bytes.getD i 0 else buffer.data i := by
  unfold ReadBuffer.data ReadBuffer.read
  by_cases inside : i < chunk.bytes.length
  · rw [if_pos inside, List.getD_append _ _ _ _ inside]
  · rw [if_neg inside, List.getD_append_right _ _ _ _ (Nat.le_of_not_lt inside)]
    have index : chunk.bytes.length + (i - chunk.bytes.length) = i := by omega
    rw [List.getD_eq_getElem?_getD, List.getD_eq_getElem?_getD, List.getElem?_drop, index]

end DevHub.Peripheral
