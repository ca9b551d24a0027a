import DevHub.Modbus.Backends

/-!
`_modbus_receive_msg`: what each `recv` brings is added to the message, whose length comes out
of its own function code and its own count. What is received depends on the bytes alone and
not on how they arrive, and never outgrows the buffer.
-/

namespace DevHub.Modbus

set_option autoImplicit false

inductive Stage where
  | stepFunction
  | stepMeta
  | stepData
  deriving DecidableEq

def computeMetaLengthAfterFunction (function : UInt8) : MsgType → Nat
  | .indication =>
      if function ≤ FunctionCode.writeSingleRegister.byte then 4
      else if function = FunctionCode.writeMultipleCoils.byte ∨
          function = FunctionCode.writeMultipleRegisters.byte then 5
      else if function = FunctionCode.maskWriteRegister.byte then 6
      else if function = FunctionCode.writeAndReadRegisters.byte then 9
      else 0
  | .confirmation =>
      match FunctionCode.ofByte function with
      | some .writeSingleCoil | some .writeSingleRegister | some .writeMultipleCoils
      | some .writeMultipleRegisters => 4
      | some .maskWriteRegister => 6
      | _ => 1

/-- A `recv` that brought bytes, or a `select` or `recv` that failed. -/
inductive Recv where
  | data (bytes : List UInt8)
  | error (errno : Errno)

structure Progress where
  step : Stage
  lengthToRead : Nat
  msg : List UInt8

section Receiver

variable (backend : Backend) (type : MsgType)

def computeDataLengthAfterMeta (msg : List UInt8) : Nat :=
  let function := byteAt msg backend.headerLength
  let length :=
    match type with
    | .indication =>
        if function = FunctionCode.writeMultipleCoils.byte ∨
            function = FunctionCode.writeMultipleRegisters.byte then
          (byteAt msg (backend.headerLength + 5)).toNat
        else if function = FunctionCode.writeAndReadRegisters.byte then
          (byteAt msg (backend.headerLength + 9)).toNat
        else 0
    | .confirmation =>
        if function ≤ FunctionCode.readInputRegisters.byte ∨
            function = FunctionCode.reportSlaveId.byte ∨
            function = FunctionCode.writeAndReadRegisters.byte then
          (byteAt msg (backend.headerLength + 1)).toNat
        else 0
  length + backend.checksumLength

def Progress.start : Progress where
  step := .stepFunction
  lengthToRead := backend.headerLength + 1
  msg := []

def startData (msg : List UInt8) : Except Errno Progress :=
  let length := computeDataLengthAfterMeta backend type msg
  if msg.length + length > backend.maxAduLength then .error .embbaddata
  else .ok { step := .stepData, lengthToRead := length, msg := msg }

/-- The body of the loop behind `recv`. -/
def onRecv (progress : Progress) (bytes : List UInt8) : Except Errno Progress :=
  let msg := progress.msg ++ bytes
  let lengthToRead := progress.lengthToRead - bytes.length
  if lengthToRead ≠ 0 then .ok { progress with lengthToRead := lengthToRead, msg := msg }
  else
    match progress.step with
    | .stepFunction =>
        let length :=
          computeMetaLengthAfterFunction (byteAt msg backend.headerLength) type
        if length ≠ 0 then .ok { step := .stepMeta, lengthToRead := length, msg := msg }
        else startData backend type msg
    | .stepMeta => startData backend type msg
    | .stepData => .ok { progress with lengthToRead := 0, msg := msg }

def finish (ctx : Context) (msg : List UInt8) : Except Errno (Nat × List UInt8) :=
  (backend.checkIntegrity ctx msg).map fun rc => (rc, msg)

/-- `none` while the loop waits. -/
def receiveLoop (ctx : Context) :
    Progress → List Recv → Option (Except Errno (Nat × List UInt8))
  | progress, [] =>
      if progress.lengthToRead = 0 then some (finish backend ctx progress.msg) else none
  | progress, recv :: rest =>
      if progress.lengthToRead = 0 then some (finish backend ctx progress.msg)
      else
        match recv with
        | .error errno => some (.error errno)
        | .data bytes =>
            match onRecv backend type progress bytes with
            | .error errno => some (.error errno)
            | .ok next => receiveLoop ctx next rest

def modbusReceiveMsg (ctx : Context) (recvs : List Recv) :
    Option (Except Errno (Nat × List UInt8)) :=
  receiveLoop backend type ctx (.start backend) recvs

/-! ### The message at the front of a stream -/

/-- Where the count of a message has been read. -/
def metaEnd (stream : List UInt8) : Nat :=
  backend.headerLength + 1 +
    computeMetaLengthAfterFunction (byteAt stream backend.headerLength) type

def announced (stream : List UInt8) : Nat :=
  metaEnd backend type stream +
    computeDataLengthAfterMeta backend type (stream.take (metaEnd backend type stream))

/-- `none` while the stream does not hold the whole of it. -/
def frameLength (stream : List UInt8) : Option (Except Errno Nat) :=
  if stream.length < backend.headerLength + 1 then none
  else if stream.length < metaEnd backend type stream then none
  else if announced backend type stream > backend.maxAduLength then some (.error .embbaddata)
  else if stream.length < announced backend type stream then none
  else some (.ok (announced backend type stream))

def received (ctx : Context) (stream : List UInt8) : Option (Except Errno (Nat × List UInt8)) :=
  (frameLength backend type stream).map fun decided =>
    decided.bind fun length => finish backend ctx (stream.take length)

def consumed (stream : List UInt8) : Nat :=
  match frameLength backend type stream with
  | some (.ok length) => length
  | some (.error _) => metaEnd backend type stream
  | none => 0

/-- The results of `recv` as far as the loop asks for them: never nothing, and never more than
it asks for. -/
def Fits : Progress → List (List UInt8) → Prop
  | _, [] => True
  | progress, bytes :: rest =>
      bytes ≠ [] ∧ bytes.length ≤ progress.lengthToRead ∧
        ∀ next, onRecv backend type progress bytes = .ok next → Fits next rest

def Stands (progress : Progress) : Prop :=
  match progress.step with
  | .stepFunction =>
      0 < progress.lengthToRead ∧
        progress.msg.length + progress.lengthToRead = backend.headerLength + 1
  | .stepMeta =>
      0 < progress.lengthToRead ∧ backend.headerLength + 1 ≤ progress.msg.length ∧
        progress.msg.length + progress.lengthToRead = metaEnd backend type progress.msg
  | .stepData =>
      backend.headerLength + 1 ≤ progress.msg.length ∧
        metaEnd backend type progress.msg ≤ progress.msg.length ∧
        progress.msg.length + progress.lengthToRead = announced backend type progress.msg ∧
        announced backend type progress.msg ≤ backend.maxAduLength

/-- A `recv` leaves the progress in step with the bytes read, or finds the message too long. -/
def Keeps (msg : List UInt8) : Except Errno Progress → Prop
  | .ok next => Stands backend type next ∧ next.msg = msg
  | .error errno =>
      errno = .embbaddata ∧ backend.headerLength + 1 ≤ msg.length ∧
        metaEnd backend type msg ≤ msg.length ∧
        backend.maxAduLength < announced backend type msg

end Receiver

theorem byte_at_append {msg : List UInt8} {i : Nat} (inside : i < msg.length)
    (rest : List UInt8) : byteAt (msg ++ rest) i = byteAt msg i := by
  rw [byteAt, byteAt, List.getD_append _ _ _ _ inside]

section Facts

variable {backend : Backend} {type : MsgType}

theorem meta_end_append {msg : List UInt8} (long : backend.headerLength + 1 ≤ msg.length)
    (rest : List UInt8) : metaEnd backend type (msg ++ rest) = metaEnd backend type msg := by
  rw [metaEnd, metaEnd, byte_at_append long]

theorem announced_append {msg : List UInt8} (long : backend.headerLength + 1 ≤ msg.length)
    (known : metaEnd backend type msg ≤ msg.length) (rest : List UInt8) :
    announced backend type (msg ++ rest) = announced backend type msg := by
  rw [announced, announced, meta_end_append long, List.take_append_of_le_length known]

theorem start_stands : Stands backend type (.start backend) :=
  ⟨Nat.succ_pos _, Nat.zero_add _⟩

theorem start_data_keeps {msg : List UInt8} (long : backend.headerLength + 1 ≤ msg.length)
    (known : msg.length = metaEnd backend type msg) :
    Keeps backend type msg (startData backend type msg) := by
  have total : announced backend type msg =
      msg.length + computeDataLengthAfterMeta backend type msg := by
    rw [announced, ← known, List.take_length]
  rw [startData]
  by_cases beyond : msg.length + computeDataLengthAfterMeta backend type msg > backend.maxAduLength
  · simp only [if_pos beyond]
    exact ⟨rfl, long, Nat.le_of_eq known.symm, by omega⟩
  · simp only [if_neg beyond]
    rw [Nat.not_lt, ← total] at beyond
    exact ⟨⟨long, Nat.le_of_eq known.symm, total.symm, beyond⟩, rfl⟩

theorem on_recv_keeps {progress : Progress} (stands : Stands backend type progress)
    {bytes : List UInt8} (brought : bytes ≠ []) (fits : bytes.length ≤ progress.lengthToRead) :
    Keeps backend type (progress.msg ++ bytes) (onRecv backend type progress bytes) := by
  obtain ⟨step, lengthToRead, msg⟩ := progress
  have length : (msg ++ bytes).length = msg.length + bytes.length := List.length_append
  have count := List.length_pos_iff.mpr brought
  rw [onRecv]
  dsimp only at fits ⊢
  cases step with
  | stepFunction =>
      obtain ⟨-, sum⟩ := stands
      dsimp only at sum
      by_cases more : lengthToRead - bytes.length ≠ 0
      · rw [if_pos more]
        exact ⟨⟨Nat.pos_of_ne_zero more, by dsimp only; omega⟩, rfl⟩
      · rw [if_neg more]
        have long : backend.headerLength + 1 ≤ (msg ++ bytes).length := by omega
        dsimp only
        by_cases meta' : computeMetaLengthAfterFunction
            (byteAt (msg ++ bytes) backend.headerLength) type ≠ 0
        · rw [if_pos meta']
          refine ⟨⟨Nat.pos_of_ne_zero meta', long, ?_⟩, rfl⟩
          dsimp only
          rw [metaEnd]
          omega
        · rw [if_neg meta']
          apply start_data_keeps long
          rw [metaEnd]
          omega
  | stepMeta =>
      obtain ⟨-, long, sum⟩ := stands
      dsimp only at long sum
      by_cases more : lengthToRead - bytes.length ≠ 0
      · rw [if_pos more]
        refine ⟨⟨Nat.pos_of_ne_zero more, ?_, ?_⟩, rfl⟩
        · dsimp only
          omega
        · dsimp only
          rw [meta_end_append long]
          omega
      · rw [if_neg more]
        apply start_data_keeps
        · omega
        · rw [meta_end_append long]
          omega
  | stepData =>
      obtain ⟨long, known, sum, room⟩ := stands
      dsimp only at long known sum room
      have total := announced_append long known bytes
      have next {left : Nat} (rest : left = lengthToRead - bytes.length) :
          Stands backend type { step := .stepData, lengthToRead := left, msg := msg ++ bytes } := by
        refine ⟨?_, ?_, ?_, ?_⟩
        · dsimp only
          omega
        · dsimp only
          rw [meta_end_append long]
          omega
        · dsimp only
          rw [total]
          omega
        · dsimp only
          rw [total]
          exact room
      by_cases more : lengthToRead - bytes.length ≠ 0
      · rw [if_pos more]
        exact ⟨next rfl, rfl⟩
      · rw [if_neg more]
        exact ⟨next (by omega), rfl⟩

theorem frame_length_of_announced {stream : List UInt8}
    (long : backend.headerLength + 1 ≤ stream.length)
    (known : metaEnd backend type stream ≤ stream.length) :
    frameLength backend type stream =
      if announced backend type stream > backend.maxAduLength then some (.error .embbaddata)
      else if stream.length < announced backend type stream then none
      else some (.ok (announced backend type stream)) := by
  rw [frameLength, if_neg (Nat.not_lt.mpr long), if_neg (Nat.not_lt.mpr known)]

/-- The progress decides what can be said of the stream: nothing while there is more to read. -/
theorem stands_frame {progress : Progress} (stands : Stands backend type progress) :
    frameLength backend type progress.msg =
      if progress.lengthToRead = 0 then some (.ok progress.msg.length) else none := by
  obtain ⟨step, lengthToRead, msg⟩ := progress
  cases step with
  | stepFunction =>
      obtain ⟨more, sum⟩ := stands
      dsimp only at more sum ⊢
      rw [frameLength, if_pos (by omega), if_neg (by omega)]
  | stepMeta =>
      obtain ⟨more, long, sum⟩ := stands
      dsimp only at more long sum ⊢
      rw [frameLength, if_neg (by omega), if_pos (by omega), if_neg (by omega)]
  | stepData =>
      obtain ⟨long, known, sum, room⟩ := stands
      dsimp only at long known sum room ⊢
      rw [frame_length_of_announced long known, if_neg (by omega)]
      by_cases more : lengthToRead = 0
      · rw [if_neg (by omega), if_pos more, ← sum, more, Nat.add_zero]
      · rw [if_pos (by omega), if_neg more]

/-- What has been decided of a stream stands whatever follows. -/
theorem frame_length_append {stream : List UInt8} {decided : Except Errno Nat}
    (known : frameLength backend type stream = some decided) (rest : List UInt8) :
    frameLength backend type (stream ++ rest) = some decided := by
  have longer : stream.length ≤ (stream ++ rest).length := by simp
  rw [frameLength] at known
  split at known
  · cases known
  rename_i long
  split at known
  · cases known
  rename_i counted
  rw [Nat.not_lt] at long counted
  have sameEnd : metaEnd backend type (stream ++ rest) = metaEnd backend type stream :=
    meta_end_append long rest
  have same := announced_append long counted rest
  rw [frame_length_of_announced (by omega) (by omega), same]
  split at known
  · rename_i beyond
    rw [if_pos beyond, known]
  · rename_i room
    split at known
    · cases known
    · rename_i whole
      rw [if_neg room, if_neg (by omega), known]

theorem frame_length_le {stream : List UInt8} {length : Nat}
    (known : frameLength backend type stream = some (.ok length)) : length ≤ stream.length := by
  rw [frameLength] at known
  split at known
  · cases known
  · split at known
    · cases known
    · split at known
      · cases known
      · split at known
        · cases known
        · cases known
          omega

theorem received_part {part rest : List UInt8} (more : rest ≠ [])
    (whole : frameLength backend type (part ++ rest) = some (.ok (part ++ rest).length))
    (ctx : Context) : received backend type ctx part = none := by
  have count := List.length_pos_iff.mpr more
  rw [received, Option.map_eq_none_iff, Option.eq_none_iff_forall_ne_some]
  intro decided known
  have later := frame_length_append known rest
  rw [whole, Option.some.injEq] at later
  subst later
  have inside := frame_length_le known
  rw [List.length_append] at inside
  omega

/-- However the bytes arrive, the loop receives what the stream holds. -/
theorem receive_loop_received (ctx : Context) {progress : Progress}
    (stands : Stands backend type progress) {chunks : List (List UInt8)}
    (fits : Fits backend type progress chunks) :
    receiveLoop backend type ctx progress (chunks.map .data) =
      received backend type ctx (progress.msg ++ chunks.flatten) := by
  induction chunks generalizing progress with
  | nil =>
      rw [List.map_nil, receiveLoop, List.flatten_nil, List.append_nil, received,
        stands_frame stands]
      by_cases done : progress.lengthToRead = 0
      · rw [if_pos done, if_pos done, Option.map_some, Except.bind, List.take_length]
      · rw [if_neg done, if_neg done, Option.map_none]
  | cons bytes rest ih =>
      obtain ⟨brought, short, later⟩ := fits
      have count := List.length_pos_iff.mpr brought
      rw [List.map_cons, receiveLoop, if_neg (by omega), List.flatten_cons, ← List.append_assoc]
      have kept := on_recv_keeps stands brought short
      cases taken : onRecv backend type progress bytes with
      | error errno =>
          rw [taken] at kept
          obtain ⟨rfl, long, known, beyond⟩ := kept
          have refused := frame_length_of_announced long known
          rw [if_pos beyond] at refused
          rw [received, frame_length_append refused, Option.map_some, Except.bind]
      | ok next =>
          rw [taken] at kept
          obtain ⟨stood, read⟩ := kept
          rw [← read]
          exact ih stood (later next taken)

/-- A message is received from its bytes alone, in whatever pieces they arrive. -/
theorem received_in_any_pieces (ctx : Context) {chunks : List (List UInt8)}
    (fits : Fits backend type (.start backend) chunks) :
    modbusReceiveMsg backend type ctx (chunks.map .data) =
      received backend type ctx chunks.flatten :=
  receive_loop_received ctx start_stands fits

/-! ### The buffer of the receiver -/

/-- The loop behind some results of `recv`, none of them empty or longer than was asked for. -/
inductive Reached (backend : Backend) (type : MsgType) : Progress → Prop
  | start : Reached backend type (.start backend)
  | recv {progress next : Progress} {bytes : List UInt8} (reached : Reached backend type progress)
      (brought : bytes ≠ []) (fits : bytes.length ≤ progress.lengthToRead)
      (taken : onRecv backend type progress bytes = .ok next) : Reached backend type next

theorem reached_stands {progress : Progress} (reached : Reached backend type progress) :
    Stands backend type progress := by
  induction reached with
  | start => exact start_stands
  | recv _ brought fits taken ih =>
      have kept := on_recv_keeps ih brought fits
      rw [taken] at kept
      exact kept.1

theorem meta_length_le (function : UInt8) (type : MsgType) :
    computeMetaLengthAfterFunction function type ≤ 9 := by
  cases type with
  | indication =>
      simp only [computeMetaLengthAfterFunction]
      repeat' split
      all_goals omega
  | confirmation =>
      simp only [computeMetaLengthAfterFunction]
      split <;> omega

/-- What is asked for next has a place behind what has been read, however the bytes arrived. -/
theorem asks_within_buffer {progress : Progress}
    (roomy : backend.headerLength + 10 ≤ backend.maxAduLength)
    (reached : Reached backend type progress) :
    progress.msg.length + progress.lengthToRead ≤ backend.maxAduLength := by
  have stands := reached_stands reached
  obtain ⟨step, lengthToRead, msg⟩ := progress
  cases step with
  | stepFunction =>
      obtain ⟨-, sum⟩ := stands
      dsimp only at sum ⊢
      omega
  | stepMeta =>
      obtain ⟨-, -, sum⟩ := stands
      have nine := meta_length_le (byteAt msg backend.headerLength) type
      dsimp only at sum ⊢
      rw [metaEnd] at sum
      omega
  | stepData =>
      obtain ⟨-, -, sum, room⟩ := stands
      dsimp only at sum room ⊢
      omega

end Facts

/-! ### Messages of the sender -/

def dataCount (type : MsgType) (pdu : List UInt8) : Nat :=
  match type with
  | .indication =>
      if byteAt pdu 0 = FunctionCode.writeMultipleCoils.byte ∨
          byteAt pdu 0 = FunctionCode.writeMultipleRegisters.byte then
        (byteAt pdu 5).toNat
      else if byteAt pdu 0 = FunctionCode.writeAndReadRegisters.byte then (byteAt pdu 9).toNat
      else 0
  | .confirmation =>
      if byteAt pdu 0 ≤ FunctionCode.readInputRegisters.byte ∨
          byteAt pdu 0 = FunctionCode.reportSlaveId.byte ∨
          byteAt pdu 0 = FunctionCode.writeAndReadRegisters.byte then
        (byteAt pdu 1).toNat
      else 0

def metaCount (type : MsgType) (pdu : List UInt8) : Nat :=
  computeMetaLengthAfterFunction (byteAt pdu 0) type

/-- A message that is as long as it says, and no longer than the protocol allows. -/
structure Whole (type : MsgType) (pdu : List UInt8) : Prop where
  length : pdu.length = 1 + metaCount type pdu + dataCount type pdu
  short : pdu.length ≤ 253

theorem byte_at_drop (msg : List UInt8) (start i : Nat) :
    byteAt (msg.drop start) i = byteAt msg (start + i) := by
  rw [byteAt, byteAt, List.getD_eq_getElem?_getD, List.getD_eq_getElem?_getD, List.getElem?_drop]

theorem byte_at_take (msg : List UInt8) {i count : Nat} (inside : i < count) :
    byteAt (msg.take count) i = byteAt msg i := by
  rw [byteAt, byteAt, List.getD_eq_getElem?_getD, List.getD_eq_getElem?_getD,
    List.getElem?_take_of_lt inside]

theorem data_length_drop (backend : Backend) (type : MsgType) (msg : List UInt8) :
    computeDataLengthAfterMeta backend type msg =
      dataCount type (msg.drop backend.headerLength) + backend.checksumLength := by
  cases type with
  | indication => simp only [computeDataLengthAfterMeta, dataCount, byte_at_drop, Nat.add_zero]
  | confirmation => simp only [computeDataLengthAfterMeta, dataCount, byte_at_drop, Nat.add_zero]

theorem data_count_take (type : MsgType) (pdu : List UInt8) :
    dataCount type (pdu.take (1 + metaCount type pdu)) = dataCount type pdu := by
  have code : byteAt (pdu.take (1 + metaCount type pdu)) 0 = byteAt pdu 0 :=
    byte_at_take pdu (by omega)
  cases type with
  | indication =>
      simp only [dataCount, code]
      by_cases many : byteAt pdu 0 = FunctionCode.writeMultipleCoils.byte ∨
          byteAt pdu 0 = FunctionCode.writeMultipleRegisters.byte
      · have five : metaCount .indication pdu = 5 := by
          rw [metaCount]
          rcases many with same | same
          · rw [same]
            rfl
          · rw [same]
            rfl
        rw [if_pos many, if_pos many, byte_at_take pdu (by omega)]
      · rw [if_neg many, if_neg many]
        by_cases both : byteAt pdu 0 = FunctionCode.writeAndReadRegisters.byte
        · have nine : metaCount .indication pdu = 9 := by
            rw [metaCount, both]
            rfl
          rw [if_pos both, if_pos both, byte_at_take pdu (by omega)]
        · rw [if_neg both, if_neg both]
  | confirmation =>
      simp only [dataCount, code]
      by_cases counted : byteAt pdu 0 ≤ FunctionCode.readInputRegisters.byte ∨
          byteAt pdu 0 = FunctionCode.reportSlaveId.byte ∨
          byteAt pdu 0 = FunctionCode.writeAndReadRegisters.byte
      · have some : 0 < metaCount .confirmation pdu := by
          rw [metaCount, computeMetaLengthAfterFunction]
          split <;> omega
        rw [if_pos counted, if_pos counted, byte_at_take pdu (by omega)]
      · rw [if_neg counted, if_neg counted]

section Sent

variable {backend : Backend} (lawful : backend.Lawful)
include lawful

theorem message_pdu (tid : UInt16) (slave : UInt8) (pdu : List UInt8) :
    (backend.message tid slave pdu).length =
        backend.headerLength + pdu.length + backend.checksumLength ∧
      ∃ checksum, (backend.message tid slave pdu).drop backend.headerLength = pdu ++ checksum := by
  obtain ⟨front, checksum, frontLength, checksumLength, -, same⟩ := lawful.sent tid slave pdu
  rw [same]
  constructor
  · rw [List.length_append, List.length_append, frontLength, checksumLength]
  · refine ⟨checksum, ?_⟩
    rw [List.append_assoc, ← frontLength, List.drop_left]

/-- A message says its own length, whatever follows it. -/
theorem message_frame {type : MsgType} {pdu : List UInt8} (whole : Whole type pdu) (tid : UInt16)
    (slave : UInt8) (rest : List UInt8) :
    frameLength backend type (backend.message tid slave pdu ++ rest) =
      some (.ok (backend.message tid slave pdu).length) := by
  obtain ⟨length, checksum, behind⟩ := message_pdu lawful tid slave pdu
  have room := lawful.roomy
  have pduLength := whole.length
  have short := whole.short
  have code : byteAt (backend.message tid slave pdu) backend.headerLength = byteAt pdu 0 := by
    rw [← Nat.add_zero backend.headerLength, ← byte_at_drop, behind, byte_at_append (by omega)]
  have ends : metaEnd backend type (backend.message tid slave pdu) =
      backend.headerLength + (1 + metaCount type pdu) := by
    rw [metaEnd, code, metaCount, Nat.add_assoc]
  have counted : announced backend type (backend.message tid slave pdu) =
      (backend.message tid slave pdu).length := by
    have start : ((backend.message tid slave pdu).take
        (metaEnd backend type (backend.message tid slave pdu))).drop backend.headerLength =
        pdu.take (1 + metaCount type pdu) := by
      rw [ends, List.drop_take, behind, Nat.add_sub_cancel_left,
        List.take_append_of_le_length (by omega)]
    rw [announced, data_length_drop, start, data_count_take, ends]
    omega
  apply frame_length_append
  rw [frame_length_of_announced (by omega) (by omega), if_neg (by omega), if_neg (by omega), counted]

/-- What the sender put on the line is received whole, whatever follows it there. -/
theorem message_received {type : MsgType} {pdu : List UInt8} (whole : Whole type pdu)
    {ctx : Context} {slave : UInt8} (hears : backend.Hears ctx slave) (tid : UInt16)
    (rest : List UInt8) :
    received backend type ctx (backend.message tid slave pdu ++ rest) =
      some (.ok ((backend.message tid slave pdu).length, backend.message tid slave pdu)) := by
  rw [received, message_frame lawful whole, Option.map_some, Except.bind, List.take_left, finish,
    hears tid pdu]
  rfl

theorem message_consumed {type : MsgType} {pdu : List UInt8} (whole : Whole type pdu) (tid : UInt16)
    (slave : UInt8) (rest : List UInt8) :
    consumed backend type (backend.message tid slave pdu ++ rest) =
      (backend.message tid slave pdu).length := by
  rw [consumed, message_frame lawful whole tid slave rest]

end Sent

/-! ### Pieces of a message -/

/-- The pieces that a line makes of a message. -/
structure Cut (backend : Backend) (type : MsgType) where
  pieces : List UInt8 → List (List UInt8)
  whole : ∀ msg, (pieces msg).flatten = msg
  fits : ∀ msg, frameLength backend type msg = some (.ok msg.length) →
    Fits backend type (.start backend) (pieces msg)

def singles (msg : List UInt8) : List (List UInt8) := msg.map fun byte => [byte]

theorem singles_flatten (msg : List UInt8) : (singles msg).flatten = msg := by
  induction msg with
  | nil => rfl
  | cons byte rest ih =>
      have cut : singles (byte :: rest) = [byte] :: singles rest := rfl
      rw [cut, List.flatten_cons, ih, List.singleton_append]

theorem singles_fit {backend : Backend} {type : MsgType} {progress : Progress}
    (stands : Stands backend type progress) {rest : List UInt8}
    (frame : frameLength backend type (progress.msg ++ rest) =
      some (.ok (progress.msg ++ rest).length)) :
    Fits backend type progress (singles rest) := by
  induction rest generalizing progress with
  | nil => trivial
  | cons byte rest ih =>
      have asks : 1 ≤ progress.lengthToRead := by
        by_contra none
        have done := stands_frame stands
        rw [if_pos (by omega)] at done
        rw [frame_length_append done, Option.some.injEq, Except.ok.injEq, List.length_append,
          List.length_cons] at frame
        omega
      refine ⟨List.cons_ne_nil _ _, asks, fun next taken => ?_⟩
      have kept := on_recv_keeps stands (List.cons_ne_nil byte []) asks
      rw [taken] at kept
      obtain ⟨stood, read⟩ := kept
      apply ih stood
      rw [read, List.append_assoc]
      exact frame

def Cut.bytewise (backend : Backend) (type : MsgType) : Cut backend type where
  pieces := singles
  whole := singles_flatten
  fits msg frame := singles_fit start_stands (by rw [Progress.start, List.nil_append]; exact frame)

theorem read_request_in_pieces :
    modbusReceiveMsg tcpBackend .indication { slave := some 5, tid := 0 }
        ((singles [0, 1, 0, 0, 0, 6, 5, 3, 0, 0, 0, 1]).map .data) =
      received tcpBackend .indication { slave := some 5, tid := 0 }
        (singles [0, 1, 0, 0, 0, 6, 5, 3, 0, 0, 0, 1]).flatten :=
  received_in_any_pieces _ (singles_fit start_stands (by decide))

theorem two_bytes_within_buffer :
    ([5, 16] : List UInt8).length + 5 ≤ rtuBackend.maxAduLength :=
  have reached : Reached rtuBackend .indication
      { step := .stepMeta, lengthToRead := 5, msg := [5, 16] } :=
    .recv .start (List.cons_ne_nil 5 [16]) (by decide) rfl
  asks_within_buffer (by decide) reached

end DevHub.Modbus
