import DevHub.Library.Run
import DevHub.Modbus.Link

/-!
Modbus over TCP when a caller does not wait: a call that has timed out leaves its answer on the
line, and later calls find it there. The transaction of a response is compared with the one of
the request that waits, so that a call returns what the device answered to it or an error. The
bytes arrive in order and at any time; a call that times out loses those that it has read.
-/

namespace DevHub.Modbus

open Transition

set_option autoImplicit false

/-! ### Transactions -/

theorem tcp_next_tid (tid : UInt16) : tcpBackend.nextTid tid = tid + 1 := by
  have last : (0xFFFF : UInt16).toNat = 65535 := rfl
  have one : (1 : UInt16).toNat = 1 := rfl
  have next : tcpBackend.nextTid tid = if tid < 0xFFFF then tid + 1 else 0 := rfl
  rw [next]
  split
  · rfl
  · rename_i full
    have small := tid.toNat_lt
    rw [UInt16.lt_iff_toNat_lt, last] at full
    apply UInt16.toNat_inj.mp
    rw [UInt16.toNat_add, one]
    have same : tid.toNat = 65535 := by omega
    rw [same]
    rfl

/-- The transaction of request `number`, the first of them being 0. -/
def tidOf (first : UInt16) (number : Nat) : UInt16 := first + UInt16.ofNat (number + 1)

theorem tid_of_next (first : UInt16) (number : Nat) :
    first + UInt16.ofNat number + 1 = tidOf first number := by
  have one : (1 : UInt16) = UInt16.ofNat 1 := rfl
  rw [tidOf, UInt16.add_assoc, one, ← UInt16.ofNat_add]

/-- Transactions come again after 65536 requests. -/
theorem tid_of_inj {first : UInt16} {number latest : Nat} (before : number ≤ latest)
    (young : latest < number + 65536) (same : tidOf first latest = tidOf first number) :
    number = latest := by
  have sums := congrArg UInt16.toNat same
  rw [tidOf, tidOf, UInt16.toNat_add, UInt16.toNat_add, UInt16.toNat_ofNat', UInt16.toNat_ofNat'] at sums
  omega

theorem tcp_byte (tid : UInt16) (slave : UInt8) (pdu : List UInt8) :
    byteAt (tcpBackend.message tid slave pdu) 0 = (tid >>> 8).toUInt8 ∧
      byteAt (tcpBackend.message tid slave pdu) 1 = (tid &&& 0x00FF).toUInt8 := by
  rw [tcp_sent]
  exact ⟨rfl, rfl⟩

theorem other_tid_refused {tid other : UInt16} (differ : tid ≠ other) (slave : UInt8)
    (pdu answer : List UInt8) :
    tcpBackend.preCheckConfirmation (tcpBackend.message tid slave pdu)
      (tcpBackend.message other slave answer) = .error .embbaddata := by
  obtain ⟨high, low⟩ := tcp_byte tid slave pdu
  obtain ⟨otherHigh, otherLow⟩ := tcp_byte other slave answer
  apply if_pos
  by_contra same
  rw [not_or, not_not, not_not, high, low, otherHigh, otherLow] at same
  apply differ
  rw [← tid_bytes tid, same.1, same.2, tid_bytes]

/-! ### The conversation -/

/-- A result with the number of its call, and of the request whose response was taken for it. -/
structure Returned where
  number : Nat
  took : Option Nat
  result : Except Errno Outcome

/-- A call that waits, and the messages under way, each as far as it has not been read, with the
number of the request that it belongs to. `arrived` bytes of the responses can be read. The
commands, the answers of the device, the requests that the server has flushed and the results of
the calls are what has happened. -/
structure Conversation where
  client : Context
  mapping : Mapping
  pending : Option (Call × List UInt8)
  requests : List (Nat × List UInt8)
  responses : List (Nat × List UInt8)
  arrived : Nat
  commands : List Command
  answers : List (Nat × Except Errno Outcome)
  discarded : List Nat
  results : List Returned

inductive Move where
  | call (command : Command)
  | serve (stale : List UInt8) (behind : Nat)
  | arrive (count : Nat)
  | take
  | timeout
  | flush

def streamOf (messages : List (Nat × List UInt8)) : List UInt8 := (messages.map Prod.snd).flatten

/-- The messages behind the first bytes of their stream. -/
def dropBytes : Nat → List (Nat × List UInt8) → List (Nat × List UInt8)
  | _, [] => []
  | count, (number, bytes) :: rest =>
      if count < bytes.length then (number, bytes.drop count) :: rest
      else dropBytes (count - bytes.length) rest

/-- The bytes that `recv` of the client can bring. -/
def Conversation.socket (state : Conversation) : List UInt8 :=
  (streamOf state.responses).take state.arrived

section Moves

variable (server : Context)

def onCall (state : Conversation) (command : Command) : Option Conversation :=
  if state.pending.isSome then none
  else
    match command.call tcpBackend with
    | .error _ => none
    | .ok call =>
        match call.start tcpBackend state.client with
        | .error _ => none
        | .ok (client, req) =>
            some
              { state with
                client := client
                pending := some (call, req)
                requests := state.requests ++ [(state.commands.length, req)]
                commands := state.commands ++ [command] }

/-- The answer that is recorded is the device's to the command of that number. `behind` bytes have
arrived behind the request when `response_exception` flushes. -/
def onServe (state : Conversation) (stale : List UInt8) (behind : Nat) : Option Conversation :=
  match state.requests, received tcpBackend .indication server (streamOf state.requests) with
  | (number, _) :: rest, some (.ok (reqLength, msg)) =>
      (modbusReply tcpBackend (msg ++ stale) reqLength state.mapping).bind fun reply =>
        match reply.rsp, state.commands[number]? with
        | .ok sent, some command =>
            let count := consumed tcpBackend .indication (streamOf state.requests)
            let left := dropBytes (count + if reply.flush then behind else 0) state.requests
            some
              { state with
                mapping := reply.mapping
                requests := left
                responses := state.responses ++ [(number, sent)]
                answers := state.answers ++ [(number, (command.run state.mapping.device).2)]
                discarded := state.discarded ++
                  (rest.take (rest.length - left.length)).map Prod.fst }
        | _, _ => none
  | _, _ => none

def onTake (state : Conversation) : Option Conversation :=
  match state.pending, received tcpBackend .confirmation state.client state.socket with
  | some (call, req), some got =>
      let count := consumed tcpBackend .confirmation state.socket
      some
        { state with
          pending := none
          responses := dropBytes count state.responses
          arrived := state.arrived - count
          results := state.results ++ [{
            number := state.commands.length - 1
            took := state.responses.head?.map Prod.fst
            result := call.returned tcpBackend req got }] }
  | _, _ => none

/-- The call has read what has arrived, and has no whole message. -/
def onTimeout (state : Conversation) : Option Conversation :=
  match state.pending, received tcpBackend .confirmation state.client state.socket with
  | some _, none =>
      some
        { state with
          pending := none
          responses := dropBytes state.arrived state.responses
          arrived := 0
          results := state.results ++ [{
            number := state.commands.length - 1
            took := none
            result := .error .etimedout }] }
  | _, _ => none

def move (state : Conversation) : Move → Option Conversation
  | .call command => onCall state command
  | .serve stale behind => onServe server state stale behind
  | .arrive count =>
      some { state with
        arrived := min (state.arrived + count) (streamOf state.responses).length }
  | .take => onTake state
  | .timeout => onTimeout state
  | .flush =>
      some { state with
        responses := dropBytes state.arrived state.responses
        arrived := 0 }

end Moves

/-- No more than 65535 requests are made while a message is under way, no write and read begins
before the registers, and no time-out or flush, of the client or of the server, falls inside a
message. -/
def Timely (state : Conversation) : Move → Prop
  | .call command => command.Above state.mapping ∧
      ∀ message ∈ state.requests ++ state.responses,
        state.commands.length < message.1 + 65536
  | .serve _ behind =>
      ∃ count, behind = (streamOf (state.requests.tail.take count)).length
  | .timeout => state.arrived = 0
  | .flush => ∃ count, state.arrived = (streamOf (state.responses.take count)).length
  | _ => True

/-! ### What is under way -/

section Orderly

variable (first : UInt16) (slave : UInt8)

def Asks (commands : List Command) (mapping : Mapping) (message : Nat × List UInt8) : Prop :=
  ∃ command, commands[message.1]? = some command ∧ command.unsent = none ∧
    command.Above mapping ∧
    message.2 = tcpBackend.message (tidOf first message.1) slave (command.sends tcpBackend).pdu

/-- A response under way says an answer of the device to its command. -/
def Tells (commands : List Command) (answers : List (Nat × Except Errno Outcome))
    (message : Nat × List UInt8) : Prop :=
  ∃ command response, commands[message.1]? = some command ∧ command.unsent = none ∧
    Answers command response ∧
    message.2 = tcpBackend.message (tidOf first message.1) slave
      (response.pdu (command.sends tcpBackend).pdu) ∧
    (message.1, response.outcome command.maxDest) ∈ answers

def Waits (commands : List Command) (pending : Call × List UInt8) : Prop :=
  ∃ command, commands[commands.length - 1]? = some command ∧ command.unsent = none ∧
    pending.1 = command.sends tcpBackend ∧
    pending.2 = tcpBackend.message (tidOf first (commands.length - 1)) slave
      (command.sends tcpBackend).pdu

/-- A call that took the response to its own request returns the answer of the device, one that
took another response refuses it, and one that took none has timed out. -/
def Honest (answers : List (Nat × Except Errno Outcome)) (returned : Returned) : Prop :=
  match returned.took with
  | none => returned.result = .error .etimedout
  | some number =>
      if number = returned.number then (number, returned.result) ∈ answers
      else returned.result = .error .embbaddata

/-- The requests that have been answered or are under way are in order, and with the discarded
ones they are all the requests, each once. -/
structure Numbered (state : Conversation) : Prop where
  inOrder : (state.answers.map Prod.fst ++ state.requests.map Prod.fst).Sublist
    (List.range state.commands.length)
  each : (state.answers.map Prod.fst ++ (state.discarded ++ state.requests.map Prod.fst)).Perm
    (List.range state.commands.length)

structure Orderly (state : Conversation) : Prop where
  addressed : state.client.slave = some slave
  transaction : state.client.tid = first + UInt16.ofNat state.commands.length
  waits : ∀ pending, state.pending = some pending → Waits first slave state.commands pending
  asks : ∀ message ∈ state.requests, Asks first slave state.commands state.mapping message
  tells : ∀ message ∈ state.responses, Tells first slave state.commands state.answers message
  young : ∀ message ∈ state.requests ++ state.responses,
    state.commands.length ≤ message.1 + 65536
  numbered : Numbered state
  honest : ∀ result ∈ state.results, Honest state.answers result
  cleanBits : Clean state.mapping.bits
  cleanInputs : Clean state.mapping.inputBits

end Orderly

theorem stream_cons (number : Nat) (bytes : List UInt8) (rest : List (Nat × List UInt8)) :
    streamOf ((number, bytes) :: rest) = bytes ++ streamOf rest := rfl

theorem drop_none {messages : List (Nat × List UInt8)}
    (whole : ∀ message ∈ messages, message.2 ≠ []) : dropBytes 0 messages = messages := by
  cases messages with
  | nil => rfl
  | cons message rest =>
      obtain ⟨number, bytes⟩ := message
      exact if_pos (List.length_pos_iff.mpr (whole _ (List.mem_cons_self ..)))

theorem drop_whole {messages : List (Nat × List UInt8)}
    (whole : ∀ message ∈ messages, message.2 ≠ []) (count : Nat) :
    dropBytes (streamOf (messages.take count)).length messages = messages.drop count := by
  induction messages generalizing count with
  | nil => simp [dropBytes]
  | cons message rest ih =>
      obtain ⟨number, bytes⟩ := message
      cases count with
      | zero => exact drop_none whole
      | succ count =>
          have later := ih (fun other member => whole other (List.mem_cons_of_mem _ member)) count
          rw [List.take_succ_cons, stream_cons, dropBytes, List.length_append,
            if_neg (by omega), Nat.add_sub_cancel_left, later, List.drop_succ_cons]

theorem drop_first {number : Nat} {bytes : List UInt8} {rest : List (Nat × List UInt8)}
    (whole : ∀ message ∈ rest, message.2 ≠ []) :
    dropBytes bytes.length ((number, bytes) :: rest) = rest := by
  rw [dropBytes, if_neg (Nat.lt_irrefl _), Nat.sub_self, drop_none whole]

theorem tcp_message_some (tid : UInt16) (slave : UInt8) (pdu : List UInt8) :
    tcpBackend.message tid slave pdu ≠ [] := by
  rw [tcp_sent]
  exact List.cons_ne_nil _ _

theorem tcp_hears (ctx : Context) (slave : UInt8) : tcpBackend.Hears ctx slave := fun _ _ => rfl

theorem asks_later {first : UInt16} {slave : UInt8} {commands : List Command} {mapping : Mapping}
    {message : Nat × List UInt8} (asks : Asks first slave commands mapping message)
    (command : Command) : Asks first slave (commands ++ [command]) mapping message := by
  obtain ⟨own, here, rest⟩ := asks
  exact ⟨own, List.getElem?_append_left (List.getElem?_eq_some_iff.mp here).1 ▸ here, rest⟩

theorem tells_later {first : UInt16} {slave : UInt8} {commands : List Command}
    {answers : List (Nat × Except Errno Outcome)} {message : Nat × List UInt8}
    (tells : Tells first slave commands answers message) (command : Command) :
    Tells first slave (commands ++ [command]) answers message := by
  obtain ⟨own, response, here, rest⟩ := tells
  exact ⟨own, response, List.getElem?_append_left (List.getElem?_eq_some_iff.mp here).1 ▸ here, rest⟩

section Keeps

variable {first : UInt16} {slave : UInt8} {state next : Conversation}

theorem call_keeps (orderly : Orderly first slave state) {command : Command}
    (timely : Timely state (.call command)) (taken : onCall state command = some next) :
    Orderly first slave next := by
  obtain ⟨above, young⟩ := timely
  rw [onCall] at taken
  split at taken
  · cases taken
  rw [call_cases] at taken
  cases within : command.unsent with
  | some errno =>
      rw [within] at taken
      cases taken
  | none =>
      have started : (command.sends tcpBackend).start tcpBackend state.client =
          .ok ({ state.client with tid := tidOf first state.commands.length },
            tcpBackend.message (tidOf first state.commands.length) slave
              (command.sends tcpBackend).pdu) := by
        rw [call_started tcpBackend orderly.addressed, tcp_next_tid, orderly.transaction, tid_of_next]
      simp only [within, Option.elim_none, started, Option.some.injEq] at taken
      subst taken
      have here : (state.commands ++ [command])[state.commands.length]? = some command := by
        rw [List.getElem?_append_right (Nat.le_refl _), Nat.sub_self]
        rfl
      have length : (state.commands ++ [command]).length = state.commands.length + 1 :=
        List.length_append
      constructor
      · exact orderly.addressed
      · dsimp only
        rw [length, tidOf]
      · rintro pending same
        cases same
        refine ⟨command, ?_, within, rfl, ?_⟩
        · rw [length]
          exact here
        · rw [length]
          rfl
      · intro message member
        rcases List.mem_append.mp member with old | new
        · exact asks_later (orderly.asks message old) command
        · rw [List.mem_singleton] at new
          subst new
          exact ⟨command, here, within, above, rfl⟩
      · exact fun message member => tells_later (orderly.tells message member) command
      · intro message member
        dsimp only at member ⊢
        rw [length]
        rcases List.mem_append.mp member with asked | told
        · rcases List.mem_append.mp asked with old | new
          · exact young message (List.mem_append_left _ old)
          · rw [List.mem_singleton] at new
            subst new
            dsimp only
            omega
        · exact young message (List.mem_append_right _ told)
      · constructor
        · dsimp only
          rw [length, List.map_append, ← List.append_assoc, List.range_succ]
          exact orderly.numbered.inOrder.append_right _
        · dsimp only
          rw [length, List.map_append, ← List.append_assoc, ← List.append_assoc, List.range_succ,
            List.append_assoc (state.answers.map Prod.fst)]
          exact orderly.numbered.each.append_right _
      · exact orderly.honest
      · exact orderly.cleanBits
      · exact orderly.cleanInputs

theorem told_before {commands : List Command} {answers : List (Nat × Except Errno Outcome)}
    {message : Nat × List UInt8} (tells : Tells first slave commands answers message) :
    message.1 < commands.length := by
  obtain ⟨command, response, here, -⟩ := tells
  exact (List.getElem?_eq_some_iff.mp here).1

theorem tells_some {commands : List Command} {answers : List (Nat × Except Errno Outcome)}
    {message : Nat × List UInt8} (tells : Tells first slave commands answers message) :
    message.2 ≠ [] := by
  obtain ⟨_, _, _, _, _, bytes, _⟩ := tells
  rw [bytes]
  exact tcp_message_some _ _ _

theorem asks_some {commands : List Command} {mapping : Mapping} {message : Nat × List UInt8}
    (asks : Asks first slave commands mapping message) : message.2 ≠ [] := by
  obtain ⟨_, _, _, _, bytes⟩ := asks
  rw [bytes]
  exact tcp_message_some _ _ _

theorem honest_later {answers : List (Nat × Except Errno Outcome)} {returned : Returned}
    (honest : Honest answers returned) (answer : Nat × Except Errno Outcome) :
    Honest (answers ++ [answer]) returned := by
  unfold Honest at honest ⊢
  split at honest
  · exact honest
  · split at honest
    · rename_i own
      rw [if_pos own]
      exact List.mem_append_left _ honest
    · rename_i other
      rw [if_neg other]
      exact honest

theorem served_numbers {number : Nat} {bytes : List UInt8} {rest : List (Nat × List UInt8)}
    (whole : ∀ message ∈ (number, bytes) :: rest, message.2 ≠ []) {behind : Nat}
    (boundary : ∃ count, behind = (streamOf (rest.take count)).length) (flush : Bool) :
    ∃ count, dropBytes (bytes.length + if flush then behind else 0) ((number, bytes) :: rest) =
      rest.drop count := by
  obtain ⟨count, rfl⟩ := boundary
  cases flush with
  | false =>
      have none := drop_whole whole 1
      rw [List.take_succ_cons, stream_cons, List.take_zero, List.drop_one] at none
      refine ⟨0, ?_⟩
      rw [if_neg Bool.false_ne_true]
      rw [List.length_append] at none
      exact none
  | true =>
      have some := drop_whole whole (count + 1)
      rw [List.take_succ_cons, stream_cons, List.length_append, List.drop_succ_cons] at some
      exact ⟨count, some⟩

theorem taken_numbers (rest : List (Nat × List UInt8)) (count : Nat) :
    rest.take (rest.length - (rest.drop count).length) = rest.take count := by
  rw [List.length_drop]
  by_cases inside : count ≤ rest.length
  · rw [Nat.sub_sub_self inside]
  · rw [List.take_of_length_le (by omega), List.take_of_length_le (by omega)]

theorem numbered_serve {before after : Conversation} (numbered : Numbered before) {number count : Nat}
    {req : List UInt8} {rest : List (Nat × List UInt8)} {answer : Except Errno Outcome}
    (waiting : before.requests = (number, req) :: rest) (commands : after.commands = before.commands)
    (answers : after.answers = before.answers ++ [(number, answer)])
    (left : after.requests = rest.drop count)
    (discarded : after.discarded = before.discarded ++ (rest.take count).map Prod.fst) :
    Numbered after := by
  obtain ⟨inOrder, each⟩ := numbered
  rw [waiting, List.map_cons] at inOrder each
  constructor
  · rw [commands, answers, left, List.map_append, List.append_assoc]
    refine .trans (.append_left ?_ _) inOrder
    exact .cons_cons _ ((List.drop_sublist count rest).map Prod.fst)
  · have parts : rest.map Prod.fst =
        (rest.take count).map Prod.fst ++ (rest.drop count).map Prod.fst := by
      rw [← List.map_append, List.take_append_drop]
    have middle : (number :: (before.discarded ++ rest.map Prod.fst)).Perm
        (before.discarded ++ number :: rest.map Prod.fst) := List.perm_middle.symm
    rw [commands, answers, left, discarded, List.map_append, List.append_assoc, List.append_assoc,
      ← parts]
    exact .trans (.append_left _ middle) each

theorem serve_keeps {server : Context} (orderly : Orderly first slave state) {stale : List UInt8}
    {behind : Nat} (timely : Timely state (.serve stale behind))
    (taken : onServe server state stale behind = some next) : Orderly first slave next := by
  rw [onServe] at taken
  cases waiting : state.requests with
  | nil =>
      rw [waiting] at taken
      cases taken
  | cons message rest =>
      obtain ⟨number, req⟩ := message
      obtain ⟨command, here, within, above, same⟩ :=
        orderly.asks (number, req) (waiting ▸ List.mem_cons_self ..)
      dsimp only at here same
      have whole := (sends_asks tcpBackend within).whole
      have arrived := message_received tcp_lawful whole (tcp_hears server slave)
        (tidOf first number) (streamOf rest)
      have length := message_consumed tcp_lawful whole (tidOf first number) slave (streamOf rest)
      have quiet : ¬ (tcpBackend.rtu = true ∧ slave = broadcastAddress) :=
        fun both => Bool.false_ne_true both.1
      obtain ⟨reply, replied, device, rsp, kept⟩ := request_replied tcp_lawful quiet
        orderly.cleanBits orderly.cleanInputs within above (tidOf first number) stale
      have boundary : ∃ count, behind = (streamOf (rest.take count)).length := by
        rw [Timely, waiting] at timely
        exact timely
      obtain ⟨count, left⟩ := served_numbers
        (fun other member => asks_some (orderly.asks other (waiting ▸ member))) boundary reply.flush
      have before : ∀ other ∈ rest.drop count, other ∈ state.requests := fun other member =>
        waiting ▸ List.mem_cons_of_mem _ (List.mem_of_mem_drop member)
      have answers := served_answers state.mapping.device command
      have answer : (command.run state.mapping.device).2 =
          (state.mapping.device.serve command.request).2.outcome command.maxDest := by
        rw [Command.run, within]
      rw [tcp_response_tid] at rsp
      rw [same] at left
      rw [waiting, same, stream_cons, arrived] at taken
      simp only [replied, Option.bind_some, rsp, here, length, left, taken_numbers,
        Option.some.injEq] at taken
      subst taken
      constructor
      · exact orderly.addressed
      · exact orderly.transaction
      · exact orderly.waits
      · intro other member
        obtain ⟨own, place, fine, inside, bytes⟩ := orderly.asks other (before other member)
        exact ⟨own, place, fine, above_of_kept kept inside, bytes⟩
      · intro other member
        rcases List.mem_append.mp member with old | new
        · obtain ⟨own, response, place, fine, fits, bytes, known⟩ := orderly.tells other old
          exact ⟨own, response, place, fine, fits, bytes, List.mem_append_left _ known⟩
        · rw [List.mem_singleton] at new
          subst new
          refine ⟨command, _, here, within, answers, rfl, List.mem_append_right _ ?_⟩
          rw [answer, List.mem_singleton]
      · intro other member
        rcases List.mem_append.mp member with asked | told
        · exact orderly.young other (List.mem_append_left _ (before other asked))
        · rcases List.mem_append.mp told with old | new
          · exact orderly.young other (List.mem_append_right _ old)
          · rw [List.mem_singleton] at new
            subst new
            exact orderly.young (number, req)
              (List.mem_append_left _ (waiting ▸ List.mem_cons_self ..))
      · exact numbered_serve orderly.numbered waiting rfl rfl rfl rfl
      · exact fun result member => honest_later (orderly.honest result member) _
      · exact kept.clean orderly.cleanBits
      · exact kept.inputBits ▸ orderly.cleanInputs

/-- What is received begins with the first of the responses, which has arrived whole. -/
theorem socket_first (orderly : Orderly first slave state) {got : Except Errno (Nat × List UInt8)}
    (received' : received tcpBackend .confirmation state.client state.socket = some got) :
    ∃ message rest tail, state.responses = message :: rest ∧ state.socket = message.2 ++ tail := by
  cases line : state.responses with
  | nil =>
      have empty : state.socket = [] := by
        rw [Conversation.socket, line]
        exact List.take_nil
      rw [empty] at received'
      cases received'
  | cons message rest =>
      obtain ⟨command, response, -, within, answers, bytes, -⟩ :=
        orderly.tells message (line ▸ List.mem_cons_self ..)
      have stream : state.socket = (message.2 ++ streamOf rest).take state.arrived := by
        rw [Conversation.socket, line]
        rfl
      by_cases all : message.2.length ≤ state.arrived
      · refine ⟨message, rest, (streamOf rest).take (state.arrived - message.2.length), rfl, ?_⟩
        rw [stream, List.take_append, List.take_of_length_le all]
      · have part : state.socket = message.2.take state.arrived := by
          rw [stream, List.take_append_of_le_length (by omega)]
        have frame := message_frame tcp_lawful (response_whole tcpBackend within answers)
          (tidOf first message.1) slave []
        rw [List.append_nil, ← bytes, ← List.take_append_drop state.arrived message.2] at frame
        have more : message.2.drop state.arrived ≠ [] := by
          rw [← List.length_pos_iff, List.length_drop]
          omega
        rw [part, received_part more frame] at received'
        cases received'

/-- The result of the call that waits, whichever response comes first. -/
theorem take_honest (orderly : Orderly first slave state) {call : Call} {req : List UInt8}
    (waits : state.pending = some (call, req)) {message : Nat × List UInt8}
    (told : message ∈ state.responses) {tail : List UInt8}
    {got : Except Errno (Nat × List UInt8)}
    (received' : received tcpBackend .confirmation state.client (message.2 ++ tail) = some got) :
    Honest state.answers
      { number := state.commands.length - 1
        took := some message.1
        result := call.returned tcpBackend req got } := by
  obtain ⟨latest, last, lastWithin, rfl, rfl⟩ := orderly.waits (call, req) waits
  obtain ⟨command, response, here, within, answers, bytes, known⟩ := orderly.tells message told
  have before := told_before (orderly.tells message told)
  have young := orderly.young message (List.mem_append_right _ told)
  by_cases own : message.1 = state.commands.length - 1
  · rw [own, last, Option.some.injEq] at here
    subst here
    have read := response_read tcp_lawful orderly.addressed within answers
      (tidOf first (state.commands.length - 1)) tail
    rw [tcp_response_tid, ← own, ← bytes, received', Option.map_some, Option.some.injEq] at read
    unfold Honest
    dsimp only
    rw [if_pos own, ← own, read]
    exact known
  · have differ : tidOf first (state.commands.length - 1) ≠ tidOf first message.1 := fun same =>
      own (tid_of_inj (by omega) (by omega) same)
    have arrived := message_received tcp_lawful
      (response_whole tcpBackend within answers) (tcp_hears state.client slave)
      (tidOf first message.1) tail
    rw [← bytes, received', Option.some.injEq] at arrived
    unfold Honest
    dsimp only
    rw [if_neg own, arrived, Call.returned, Except.bind]
    dsimp only
    rw [bytes, checkConfirmation, other_tid_refused differ]
    rfl

theorem fewer_orderly {kept : List (Nat × List UInt8)} {arrived : Nat}
    {pending : Option (Call × List UInt8)} {results : List Returned}
    (orderly : Orderly first slave state) (inside : ∀ message ∈ kept, message ∈ state.responses)
    (waits : ∀ call, pending = some call → state.pending = some call)
    (honest : ∀ result ∈ results, Honest state.answers result) :
    Orderly first slave { state with
      pending := pending, responses := kept, arrived := arrived, results := results } where
  addressed := orderly.addressed
  transaction := orderly.transaction
  waits call same := orderly.waits call (waits call same)
  asks := orderly.asks
  tells message member := orderly.tells message (inside message member)
  young message member := orderly.young message (List.mem_append.mpr
    ((List.mem_append.mp member).imp_right (inside message)))
  numbered := ⟨orderly.numbered.inOrder, orderly.numbered.each⟩
  honest := honest
  cleanBits := orderly.cleanBits
  cleanInputs := orderly.cleanInputs

theorem results_honest {answers : List (Nat × Except Errno Outcome)} {results : List Returned}
    (honest : ∀ result ∈ results, Honest answers result) {returned : Returned}
    (fair : Honest answers returned) : ∀ result ∈ results ++ [returned], Honest answers result := by
  intro result member
  rcases List.mem_append.mp member with old | new
  · exact honest result old
  · rw [List.mem_singleton] at new
    exact new ▸ fair

theorem take_keeps (orderly : Orderly first slave state) (taken : onTake state = some next) :
    Orderly first slave next := by
  rw [onTake] at taken
  split at taken
  · rename_i pending arrived call req got waits received'
    cases taken
    obtain ⟨message, rest, tail, line, socket⟩ := socket_first orderly received'
    have member : message ∈ state.responses := line ▸ List.mem_cons_self ..
    obtain ⟨command, response, -, within, answers, bytes, -⟩ := orderly.tells message member
    have length := message_consumed tcp_lawful (response_whole tcpBackend within answers)
      (tidOf first message.1) slave tail
    rw [← bytes] at length
    have inside : ∀ other ∈ rest, other ∈ state.responses := fun other member =>
      line ▸ List.mem_cons_of_mem _ member
    have dropped : dropBytes (consumed tcpBackend .confirmation state.socket) state.responses =
        rest := by
      rw [socket, length, line]
      exact drop_first fun other member => tells_some (orderly.tells other (inside other member))
    rw [dropped, line, List.head?_cons, Option.map_some]
    rw [socket] at received'
    exact fewer_orderly orderly inside nofun
      (results_honest orderly.honest (take_honest orderly waits member received'))
  · cases taken

theorem move_keeps {server : Context} (orderly : Orderly first slave state) {event : Move}
    (timely : Timely state event) (taken : move server state event = some next) :
    Orderly first slave next := by
  have some : ∀ message ∈ state.responses, message.2 ≠ [] := fun message member =>
    tells_some (orderly.tells message member)
  cases event with
  | call command => exact call_keeps orderly timely taken
  | serve stale behind => exact serve_keeps orderly timely taken
  | arrive count =>
      cases taken
      exact fewer_orderly orderly (fun _ member => member) (fun _ same => same) orderly.honest
  | take => exact take_keeps orderly taken
  | timeout =>
      rw [move, onTimeout] at taken
      split at taken
      · cases taken
        have none : state.arrived = 0 := timely
        rw [none, drop_none some]
        exact fewer_orderly orderly (fun _ member => member) nofun
          (results_honest orderly.honest rfl)
      · cases taken
  | flush =>
      obtain ⟨count, boundary⟩ := timely
      cases taken
      rw [boundary, drop_whole some]
      exact fewer_orderly orderly (fun _ member => List.mem_of_mem_drop member)
        (fun _ same => same) orderly.honest

end Keeps

/-! ### Runs -/

def Conversation.opened (client : Context) (mapping : Mapping) : Conversation where
  client := client
  mapping := mapping
  pending := none
  requests := []
  responses := []
  arrived := 0
  commands := []
  answers := []
  discarded := []
  results := []

/-- In every state of a conversation, each request has been answered once and in order, is under
way or has been discarded, and each result is the answer to its own request, the refusal of another
response, or a time-out. -/
theorem late_answers_refused (server : Context) {client : Context} {slave : UInt8}
    (addressed : client.slave = some slave) {mapping : Mapping} (cleanBits : Clean mapping.bits)
    (cleanInputs : Clean mapping.inputBits) {moves : List Move}
    (timely : Guarded (move server) Timely (.opened client mapping) moves) :
    EachStep (move server)
      (fun _ _ next => Numbered next ∧
        ∀ returned ∈ next.results, Honest next.answers returned)
      (.opened client mapping) moves := by
  have start : Orderly client.tid slave (.opened client mapping) :=
    ⟨addressed, (UInt16.add_zero client.tid).symm, nofun, nofun, nofun, nofun,
      ⟨.refl _, .refl _⟩, nofun, cleanBits, cleanInputs⟩
  refine each_step_of_guarded (fun state event next orderly within taken => ?_) start timely
  have kept := move_keeps orderly within taken
  exact ⟨kept, kept.numbered, kept.honest⟩

/-- The server discards the second of three requests, and its first answer comes when the client
waits for the third. -/
theorem late_answer_after_timeout :
    EachStep (move { slave := none, tid := 0 })
      (fun _ _ next => Numbered next ∧
        ∀ returned ∈ next.results, Honest next.answers returned)
      (.opened { slave := some 0xFF, tid := 0 } (modbusMappingNewStartAddress 0 4 0 4 0 4 0 4))
      [.call (.readRegisters false 0 0), .timeout, .call (.readRegisters false 1 1), .timeout,
        .call (.writeRegister 1 7), .serve [] 12, .serve [] 0, .arrive 5, .arrive 20, .take, .flush,
        .call (.readRegisters false 0 2), .serve [] 0, .arrive 13, .take] := by
  refine late_answers_refused _ rfl (new_mapping_clean ..).1 (new_mapping_clean ..).2 ?_
  intro _ called
  cases called
  refine ⟨⟨trivial, nofun⟩, ?_⟩
  intro _ expired
  cases expired
  refine ⟨rfl, ?_⟩
  intro _ again
  cases again
  refine ⟨⟨trivial, by decide⟩, ?_⟩
  intro _ expired
  cases expired
  refine ⟨rfl, ?_⟩
  intro _ third
  cases third
  refine ⟨⟨trivial, by decide⟩, ?_⟩
  intro _ first
  cases first
  refine ⟨⟨1, rfl⟩, ?_⟩
  intro _ second
  cases second
  refine ⟨⟨0, rfl⟩, ?_⟩
  intro _ part
  cases part
  refine ⟨trivial, ?_⟩
  intro _ rest
  cases rest
  refine ⟨trivial, ?_⟩
  intro _ late
  cases late
  refine ⟨trivial, ?_⟩
  intro _ flushed
  cases flushed
  refine ⟨⟨1, rfl⟩, ?_⟩
  intro _ fourth
  cases fourth
  refine ⟨⟨trivial, nofun⟩, ?_⟩
  intro _ last
  cases last
  refine ⟨⟨0, rfl⟩, ?_⟩
  intro _ whole
  cases whole
  refine ⟨trivial, ?_⟩
  exact fun _ _ => ⟨trivial, trivial⟩

end DevHub.Modbus
