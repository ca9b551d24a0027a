import DevHub.Communication.Framing

/-!
The two senders of NUL-delimited messages against the decoders of `Framing`.
`Session::SendMessage` ends a message with a NUL and `ev_reciver::UpdateEvent`
does not, so its messages never end for either decoder.
-/

namespace DevHub.Senders

open Delimited Framing

set_option autoImplicit false

/-- The data of the `Connection::Send` call; `connection` is `m_connection != NULL`. -/
def Session.sendMessage (connection : Bool) (str : List Byte) : Option (List Byte) :=
  let str := str ++ [0]
  if connection then some str else none

def TcpClient.sendMsg (connection : Bool) (buf : List Byte) (len : Nat) : Option (List Byte) :=
  if connection then some (buf.take len) else none

/-- `client` is `m_client`, as far as a `TcpClient` is concerned. -/
def EvReciver.updateEvent (client : Option Bool) (msg : List Byte) (len : Nat) :
    Option (List Byte) :=
  match client with
  | some connection => TcpClient.sendMsg connection msg len
  | none => none

def emitted (send : List Byte → Option (List Byte)) (messages : List (List Byte)) : List Byte :=
  messages.flatMap fun message => (send message).getD []

def sessionStream (messages : List (List Byte)) : List Byte :=
  emitted (Session.sendMessage true) messages

/-- Every caller passes `out.c_str()` and `out.length()`. -/
def eventStream (messages : List (List Byte)) : List Byte :=
  emitted (fun message => EvReciver.updateEvent (some true) message message.length) messages

/-- Both decoders, with an empty buffer and the stream in one chunk, deliver the messages. -/
def Delivers (stream : List Byte) (messages : List (List Byte)) : Prop :=
  (Session.onData [] stream).2 = messages ∧ (TcpClient.onData true [] stream).2 = messages

def SendersAgree (messages : List (List Byte)) : Prop :=
  Delivers (sessionStream messages) messages ∧ Delivers (eventStream messages) messages

theorem event_stream_flatten (messages : List (List Byte)) :
    eventStream messages = messages.flatten := by
  simp [eventStream, emitted, EvReciver.updateEvent, TcpClient.sendMsg, List.flatMap_id']

theorem on_data_loop_open (onFrame : List Byte → List (List Byte)) (stream rdBuffer : List Byte)
    (i pos : Nat) (free : 0 ∉ stream) :
    onDataLoop onFrame i pos rdBuffer stream = (rdBuffer ++ stream, []) := by
  induction stream generalizing i rdBuffer with
  | nil => rw [onDataLoop, List.append_nil]
  | cons byte rest ih =>
      rw [List.mem_cons, not_or] at free
      rw [onDataLoop, if_neg (Ne.symm free.1), ih _ _ free.2, List.append_assoc,
        List.singleton_append]

/-- A message with its NUL, read from the first byte after the NUL before it. -/
theorem on_data_loop_message (message rest rdBuffer : List Byte) (i pos : Nat)
    (free : 0 ∉ message) (before : pos ≤ i) :
    onDataLoop (fun frame => [frame]) i pos rdBuffer (message ++ 0 :: rest) =
      onDataLoop (fun frame => [frame]) (i + message.length) pos (rdBuffer ++ message)
        (0 :: rest) := by
  induction message generalizing i rdBuffer with
  | nil => simp
  | cons byte more ih =>
      rw [List.mem_cons, not_or] at free
      have later : i + 1 + more.length = i + (byte :: more).length := by
        rw [List.length_cons]
        omega
      rw [List.cons_append, onDataLoop, if_neg (Ne.symm free.1), ih _ _ free.2 (by omega), later,
        List.append_assoc, List.singleton_append]

/-- The half of the protocol that has its terminator: below 2^30 bytes a message
sent by `Session::SendMessage` is decoded as it was sent. -/
theorem session_stream_decoded (messages : List (List Byte)) (i pos : Nat)
    (free : ∀ message ∈ messages, 0 ∉ message)
    (long : ∀ message ∈ messages, 2 ≤ message.length)
    (short : ∀ message ∈ messages, message.length < 2 ^ 30) (near : pos = i ∨ pos + 1 = i) :
    onDataLoop (fun frame => [frame]) i pos [] (sessionStream messages) = ([], messages) := by
  induction messages generalizing i pos with
  | nil => rfl
  | cons message rest ih =>
      simp only [List.forall_mem_cons] at free long short
      have split : sessionStream (message :: rest) = message ++ 0 :: sessionStream rest := by
        simp [sessionStream, emitted, Session.sendMessage]
      have sum : toInt32 (((i + message.length : Nat) : Int) - pos + message.length) =
          ((i + message.length : Nat) : Int) - pos + message.length :=
        to_int32_small (by omega) (by omega)
      have passes : ((i + message.length : Nat) : Int) - pos + message.length > 1 := by omega
      rw [split, on_data_loop_message _ _ _ _ _ free.1 (by omega), onDataLoop, if_pos rfl,
        List.nil_append]
      simp only [sum, if_pos passes, ih (i + message.length + 1) (i + message.length) free.2
        long.2 short.2 (Or.inr rfl), List.singleton_append]

theorem session_stream_delivered (messages : List (List Byte))
    (free : ∀ message ∈ messages, 0 ∉ message)
    (long : ∀ message ∈ messages, 2 ≤ message.length)
    (short : ∀ message ∈ messages, message.length < 2 ^ 30) :
    Delivers (sessionStream messages) messages := by
  have decoded := session_stream_decoded messages 0 0 free long short (Or.inl rfl)
  exact ⟨by rw [Session.onData, decoded], by simp [TcpClient.onData, decoded]⟩

/-- Of a stream that `UpdateEvent` emitted no frame is ever delivered. -/
theorem event_stream_silent (messages : List (List Byte))
    (free : ∀ message ∈ messages, 0 ∉ message) :
    (Session.onData [] (eventStream messages)).2 = [] := by
  have open_stream : 0 ∉ eventStream messages := by
    rw [event_stream_flatten]
    simpa using free
  rw [Session.onData, on_data_loop_open _ _ _ _ _ open_stream]

/-- The senders agree with the decoders on the empty list of messages only. -/
theorem senders_agree_iff_nil (messages : List (List Byte))
    (free : ∀ message ∈ messages, 0 ∉ message) :
    SendersAgree messages ↔ messages = [] := by
  constructor
  · intro agree
    have delivered := agree.2.1
    rw [event_stream_silent messages free] at delivered
    exact delivered.symm
  · intro same
    subst same
    exact ⟨⟨rfl, rfl⟩, ⟨rfl, rfl⟩⟩

/-- One message, `AB`: `UpdateEvent` emits it and no decoder delivers it. -/
theorem senders_disagree_on_message :
    SendersAgree [[65, 66]] ↔ [[65, 66]] = ([] : List (List Byte)) :=
  senders_agree_iff_nil [[65, 66]] (by decide)

/-- Two messages back to back are neither separated nor delivered. -/
theorem back_to_back_events_lost : ¬ SendersAgree [[65, 66], [67, 68]] := by
  intro agree
  have delivered := agree.2.1
  exact absurd delivered (by decide)

end DevHub.Senders
