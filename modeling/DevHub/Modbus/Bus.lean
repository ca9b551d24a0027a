import DevHub.Modbus.Link

/-!
Several slaves on one serial line. Each of them hears every message: a request to another slave
is taken off the line and the confirmation that is to follow it is ignored, unless it has not come
before the response time-out. As long as it comes in time the slaves stay at the boundaries of the
messages, and a call reaches the slave that it names and no other.
-/

namespace DevHub.Modbus

open AddressSpace

set_option autoImplicit false

/-! ### A slave -/

/-- A server with its `confirmation_to_ignore` and the bytes that it has not taken off the line. -/
structure Slave where
  ctx : Context
  ignoring : Bool
  mapping : Mapping
  input : List UInt8

/-- `rc == 0`. -/
def receivedNothing : Except Errno (Nat × List UInt8) → Bool
  | .ok (rc, _) => rc = 0
  | .error _ => false

/-- `_modbus_rtu_receive`, `none` while it waits. -/
def rtuReceive (slave : Slave) : Option (Slave × Except Errno (Nat × List UInt8)) :=
  if slave.ignoring then
    (received rtuBackend .confirmation slave.ctx slave.input).map fun _ =>
      ({ slave with
          ignoring := false
          input := slave.input.drop (consumed rtuBackend .confirmation slave.input) },
        .ok (0, []))
  else
    (received rtuBackend .indication slave.ctx slave.input).map fun result =>
      ({ slave with
          ignoring := receivedNothing result
          input := slave.input.drop (consumed rtuBackend .indication slave.input) }, result)

/-- `_modbus_rtu_receive` has waited for too long: the confirmation is not ignored any more, and
what has come of a message is lost. -/
def rtuTimeout (slave : Slave) : Slave := { slave with ignoring := false, input := [] }

section Listen

variable (stale : Slave → List UInt8)

/-- A slave replies to a message that is for it. Its buffer holds other bytes behind the message. -/
def replyTo (slave : Slave) :
    Except Errno (Nat × List UInt8) → Option (Slave × List UInt8)
  | .error _ => some (slave, [])
  | .ok (reqLength, msg) =>
      if reqLength = 0 then some (slave, [])
      else
        (modbusReply rtuBackend (msg ++ stale slave) reqLength slave.mapping).map fun reply =>
          ({ slave with
              mapping := reply.mapping
              input := if reply.flush then [] else slave.input },
            match reply.rsp with
            | .ok sent => sent
            | .error _ => [])

def listen : Nat → Slave → Option (Slave × List UInt8)
  | 0, slave => some (slave, [])
  | fuel + 1, slave =>
      match rtuReceive slave with
      | none => some (slave, [])
      | some (heard, result) =>
          (replyTo stale heard result).bind fun (next, sent) =>
            (listen fuel next).map fun (last, more) => (last, sent ++ more)

/-- Every message that is received takes bytes off the line. -/
def hear (msg : List UInt8) (slave : Slave) : Option (Slave × List UInt8) :=
  listen stale (slave.input.length + msg.length + 1) { slave with input := slave.input ++ msg }

end Listen

/-! ### The bus -/

/-- The client, with the bytes that it has not taken off the line. -/
structure Master where
  ctx : Context
  input : List UInt8

/-- A call to a slave, what the buffers of the slaves hold behind the messages, and the slaves
whose response time-out passes before the answer comes. -/
structure BusCall where
  target : Int
  command : Command
  stale : Slave → List UInt8
  late : List UInt8

def BusCall.waited (call : BusCall) (slave : Slave) : Slave :=
  if slave.ctx.slave.any call.late.contains then rtuTimeout slave else slave

def overhear (call : BusCall) (answer : List UInt8) (heard : List (Slave × List UInt8)) :
    Option (List Slave) :=
  heard.mapM fun (slave, sent) =>
    if sent = [] then
      (hear call.stale answer (call.waited slave)).bind fun (left, more) =>
        if more = [] then some left else none
    else some slave

/-- The client reads what comes, until it has a message or its response time-out passes. -/
def Master.confirm (master : Master) (call : Call) (req answer : List UInt8) :
    Master × Except Errno Outcome :=
  let input := master.input ++ answer
  match received rtuBackend .confirmation master.ctx input with
  | none => ({ master with input := [] }, .error .etimedout)
  | some got =>
      ({ master with input := input.drop (consumed rtuBackend .confirmation input) },
        call.returned rtuBackend req got)

/-- A call on the bus: every slave hears the request, and the others the answer. Answers of two
slaves at once are not said. -/
def busCall (slaves : List Slave) (master : Master) (call : BusCall) :
    Option (Master × List Slave × Except Errno Outcome) :=
  match rtuSetSlave master.ctx call.target, call.command.call rtuBackend with
  | .error errno, _ => some (master, slaves, .error errno)
  | .ok ctx, .error errno => some ({ master with ctx := ctx }, slaves, .error errno)
  | .ok ctx, .ok sends =>
      match sends.start rtuBackend ctx with
      | .error errno => some ({ master with ctx := ctx }, slaves, .error errno)
      | .ok (sender, req) =>
          let waits : Master := { master with ctx := sender }
          (slaves.mapM (hear call.stale req)).bind fun heard =>
            match (heard.map Prod.snd).filter (· ≠ []) with
            | [] =>
                let (left, result) := waits.confirm sends req []
                some (left, heard.map Prod.fst, result)
            | [answer] =>
                let (left, result) := waits.confirm sends req answer
                (overhear call answer heard).map fun others => (left, others, result)
            | _ => none

def busRun : List Slave → Master → List BusCall →
    Option (List Slave × List (Except Errno Outcome))
  | slaves, _, [] => some (slaves, [])
  | slaves, master, call :: rest =>
      (busCall slaves master call).bind fun (next, left, result) =>
        (busRun left next rest).map fun (last, results) => (last, result :: results)

/-- A call to one of the devices, or to all of them, as its caller sees it. -/
def callOn (devices : UInt8 → Device) (target : Int) (command : Command) :
    (UInt8 → Device) × Except Errno Outcome :=
  if 0 ≤ target ∧ target ≤ 247 then
    match command.unsent with
    | some errno => (devices, .error errno)
    | none =>
        if byteOf target = broadcastAddress then
          (fun address => (command.run (devices address)).1, .error .etimedout)
        else
          (fun address =>
              if address = byteOf target then (command.run (devices address)).1 else devices address,
            (command.run (devices (byteOf target))).2)
  else (devices, .error .einval)

def callsOn : (UInt8 → Device) → List BusCall → (UInt8 → Device) × List (Except Errno Outcome)
  | devices, [] => (devices, [])
  | devices, call :: rest =>
      let done := callOn devices call.target call.command
      let later := callsOn done.1 rest
      (later.1, done.2 :: later.2)

/-! ### Messages on the line -/

/-- Every message has a byte in front of its function code, the function code and a checksum. -/
theorem frame_some {type : MsgType} {stream : List UInt8} {length : Nat}
    (frame : frameLength rtuBackend type stream = some (.ok length)) :
    metaEnd rtuBackend type stream + 2 ≤ length := by
  rw [frameLength] at frame
  split at frame
  · cases frame
  · split at frame
    · cases frame
    · split at frame
      · cases frame
      · split at frame
        · cases frame
        · cases frame
          exact Nat.add_le_add_left (Nat.le_add_left 2 _) _

theorem meta_end_some (type : MsgType) (stream : List UInt8) :
    2 ≤ metaEnd rtuBackend type stream :=
  Nat.le_add_right 2 _

theorem frame_consumed {type : MsgType} {stream : List UInt8} {decided : Except Errno Nat}
    (frame : frameLength rtuBackend type stream = some decided) :
    2 ≤ stream.length ∧ 2 ≤ consumed rtuBackend type stream := by
  have start := meta_end_some type stream
  constructor
  · by_contra short
    rw [frameLength, if_pos (by exact Nat.lt_of_not_le short)] at frame
    cases frame
  · rw [consumed, frame]
    cases decided with
    | ok length =>
        have long := frame_some frame
        dsimp only
        omega
    | error errno => exact start

theorem receive_shortens {slave heard : Slave} {result : Except Errno (Nat × List UInt8)}
    (got : rtuReceive slave = some (heard, result)) : heard.input.length < slave.input.length := by
  have shorter {type : MsgType} {value : Except Errno (Nat × List UInt8)}
      (some : received rtuBackend type slave.ctx slave.input = some value) :
      (slave.input.drop (consumed rtuBackend type slave.input)).length < slave.input.length := by
    obtain ⟨decided, frame, -⟩ := Option.map_eq_some_iff.mp some
    obtain ⟨long, taken⟩ := frame_consumed frame
    rw [List.length_drop]
    omega
  rw [rtuReceive] at got
  split at got
  · obtain ⟨value, some, same⟩ := Option.map_eq_some_iff.mp got
    cases same
    exact shorter some
  · obtain ⟨value, some, same⟩ := Option.map_eq_some_iff.mp got
    cases same
    exact shorter some

theorem reply_shortens {stale : Slave → List UInt8} {slave next : Slave} {sent : List UInt8}
    {result : Except Errno (Nat × List UInt8)}
    (replied : replyTo stale slave result = some (next, sent)) :
    next.input.length ≤ slave.input.length := by
  rw [replyTo.eq_def] at replied
  split at replied
  · cases replied
    exact Nat.le_refl _
  · split at replied
    · cases replied
      exact Nat.le_refl _
    · obtain ⟨reply, -, same⟩ := Option.map_eq_some_iff.mp replied
      cases same
      dsimp only
      split
      · exact Nat.zero_le _
      · exact Nat.le_refl _

section Waits

variable {slave : Slave}

theorem received_waits {type : MsgType}
    (frame : frameLength rtuBackend type slave.input = none) :
    received rtuBackend type slave.ctx slave.input = none := by
  rw [received, frame]
  rfl

theorem short_waits (short : slave.input.length < 2) : rtuReceive slave = none := by
  have frame (type : MsgType) : frameLength rtuBackend type slave.input = none := if_pos short
  rw [rtuReceive]
  split
  · rw [received_waits (frame .confirmation)]
    rfl
  · rw [received_waits (frame .indication)]
    rfl

theorem listen_waits {stale : Slave → List UInt8} (waits : rtuReceive slave = none) (fuel : Nat) :
    listen stale fuel slave = some (slave, []) := by
  cases fuel with
  | zero => rfl
  | succ fuel => rw [listen, waits]

theorem listen_message {stale : Slave → List UInt8} {heard next : Slave} {sent : List UInt8}
    {result : Except Errno (Nat × List UInt8)} (got : rtuReceive slave = some (heard, result))
    (replied : replyTo stale heard result = some (next, sent)) (waits : rtuReceive next = none)
    (fuel : Nat) : listen stale (fuel + 1) slave = some (next, sent) := by
  rw [listen, got]
  dsimp only
  rw [replied, Option.bind_some, listen_waits waits, Option.map_some, List.append_nil]

end Waits

theorem listen_done {stale : Slave → List UInt8} {fuel : Nat} {slave last : Slave}
    {sent : List UInt8} (room : slave.input.length < fuel)
    (heard : listen stale fuel slave = some (last, sent)) : rtuReceive last = none := by
  induction fuel generalizing slave sent with
  | zero => exact absurd room (Nat.not_lt_zero _)
  | succ fuel ih =>
      rw [listen] at heard
      split at heard
      · rename_i waits
        cases heard
        exact waits
      · rename_i got result received'
        obtain ⟨⟨next, first⟩, replied, rest⟩ := Option.bind_eq_some_iff.mp heard
        obtain ⟨⟨left, more⟩, later, same⟩ := Option.map_eq_some_iff.mp rest
        cases same
        have less := receive_shortens received'
        have short := reply_shortens replied
        exact ih (by omega) later

theorem hear_done {stale : Slave → List UInt8} {msg sent : List UInt8} {slave last : Slave}
    (heard : hear stale msg slave = some (last, sent)) : rtuReceive last = none := by
  refine listen_done ?_ heard
  rw [List.length_append]
  exact Nat.lt_succ_self _

/-! ### Slaves in step -/

/-- A slave at the boundary of two messages. -/
structure InStep (slave : Slave) : Prop where
  address : ∃ address, slave.ctx.slave = some address ∧ address ≠ broadcastAddress
  listens : slave.ignoring = false
  empty : slave.input = []
  cleanBits : Clean slave.mapping.bits
  cleanInputs : Clean slave.mapping.inputBits

/-- A slave behind a request to another one. -/
structure Ignores (before after : Slave) : Prop where
  ctx : after.ctx = before.ctx
  mapping : after.mapping = before.mapping
  ignores : after.ignoring = true
  empty : after.input = []

structure Served (command : Command) (before after : Slave) : Prop where
  ctx : after.ctx = before.ctx
  device : after.mapping.device = (command.run before.mapping.device).1
  kept : Kept before.mapping after.mapping
  listens : after.ignoring = false
  empty : after.input = []

theorem rtu_message_slave (tid : UInt16) (slave : UInt8) (pdu : List UInt8) :
    byteAt (rtuBackend.message tid slave pdu) 0 = slave := by
  rw [rtu_sent]
  rfl

/-- A message to another slave is taken off the line, and counts as nothing. -/
theorem other_received {type : MsgType} {pdu : List UInt8} (whole : Whole type pdu) {ctx : Context}
    {slave : UInt8} (other : ctx.slave ≠ some slave) (direct : slave ≠ broadcastAddress)
    (tid : UInt16) :
    received rtuBackend type ctx (rtuBackend.message tid slave pdu) =
      some (.ok (0, rtuBackend.message tid slave pdu)) := by
  have frame := message_frame rtu_lawful whole tid slave []
  rw [List.append_nil] at frame
  have first := rtu_message_slave tid slave pdu
  have ignored : Crc16.rtuCheckIntegrity ctx (rtuBackend.message tid slave pdu) = .ok 0 := by
    apply if_pos
    rw [first]
    exact ⟨fun own => other own.symm, direct⟩
  have checked : rtuBackend.checkIntegrity ctx (rtuBackend.message tid slave pdu) = .ok 0 := ignored
  rw [received, frame, Option.map_some, Except.bind, List.take_length, finish, checked]
  rfl

theorem message_some (tid : UInt16) (slave : UInt8) (pdu : List UInt8) :
    rtuBackend.message tid slave pdu ≠ [] := by
  rw [rtu_sent]
  exact List.cons_ne_nil _ _

theorem reply_nothing (stale : Slave → List UInt8) (slave : Slave) (msg : List UInt8) :
    replyTo stale slave (.ok (0, msg)) = some (slave, []) := by
  rw [replyTo, if_pos rfl]

theorem hear_whole {stale : Slave → List UInt8} {slave heard next : Slave} {msg sent : List UInt8}
    {result : Except Errno (Nat × List UInt8)} (empty : slave.input = [])
    (got : rtuReceive { slave with input := msg } = some (heard, result))
    (taken : heard.input = []) (replied : replyTo stale heard result = some (next, sent)) :
    hear stale msg slave = some (next, sent) := by
  have none : next.input.length < 2 := by
    have short := reply_shortens replied
    rw [taken] at short
    exact Nat.lt_of_le_of_lt short (Nat.zero_lt_succ 1)
  rw [hear, empty, List.nil_append]
  exact listen_message got replied (short_waits none) _

section Hear

variable {slave : Slave} {command : Command} (tid : UInt16) {target : UInt8}

theorem hear_other (inStep : InStep slave) (within : command.unsent = none)
    (other : slave.ctx.slave ≠ some target) (direct : target ≠ broadcastAddress)
    (stale : Slave → List UInt8) :
    ∃ after, hear stale (rtuBackend.message tid target (command.sends rtuBackend).pdu) slave =
        some (after, []) ∧ Ignores slave after := by
  have whole := (sends_asks rtuBackend within).whole
  have got := other_received whole other direct tid
  have length := message_consumed rtu_lawful whole tid target []
  rw [List.append_nil] at length
  have heard : rtuReceive { slave with
        input := rtuBackend.message tid target (command.sends rtuBackend).pdu } =
      some ({ slave with ignoring := true, input := [] },
        .ok (0, rtuBackend.message tid target (command.sends rtuBackend).pdu)) := by
    rw [rtuReceive]
    simp only [inStep.listens, Bool.false_eq_true, if_false, got, Option.map_some, length,
      List.drop_length]
    rfl
  exact ⟨_, hear_whole inStep.empty heard rfl (reply_nothing stale _ _), rfl, rfl, rfl, rfl⟩

/-- The answer to the request of another slave brings the slave back into step. -/
theorem hear_answer {before after : Slave} {response : Response} (inStep : InStep before)
    (ignores : Ignores before after) (within : command.unsent = none)
    (answers : Answers command response) (stale : Slave → List UInt8) :
    hear stale (rtuBackend.message tid target (response.pdu (command.sends rtuBackend).pdu))
      after = some (before, []) := by
  have whole := response_whole rtuBackend within answers
  have frame := message_frame rtu_lawful whole tid target []
  have length := message_consumed rtu_lawful whole tid target []
  rw [List.append_nil] at frame length
  have listens := inStep.listens
  have empty := inStep.empty
  obtain ⟨ctx, ignoring, mapping, input⟩ := before
  obtain ⟨sameCtx, sameMapping, flag, waits⟩ := ignores
  obtain ⟨otherCtx, otherIgnoring, otherMapping, otherInput⟩ := after
  dsimp only at listens empty sameCtx sameMapping flag waits
  subst listens empty sameCtx sameMapping flag waits
  have heard : rtuReceive
      { ctx := otherCtx
        ignoring := true
        mapping := otherMapping
        input := rtuBackend.message tid target (response.pdu (command.sends rtuBackend).pdu) } =
      some ({ ctx := otherCtx, ignoring := false, mapping := otherMapping, input := [] },
        .ok (0, [])) := by
    rw [rtuReceive]
    simp only [received, frame, Option.map_some, if_true, length, List.drop_length]
  exact hear_whole rfl heard rfl (reply_nothing stale _ _)

theorem own_received {slave : Slave} (inStep : InStep slave) (within : command.unsent = none)
    (own : slave.ctx.slave = some target ∨ target = broadcastAddress) :
    rtuReceive { slave with
        input := rtuBackend.message tid target (command.sends rtuBackend).pdu } =
      some ({ slave with ignoring := false, input := [] },
        .ok ((rtuBackend.message tid target (command.sends rtuBackend).pdu).length,
          rtuBackend.message tid target (command.sends rtuBackend).pdu)) := by
  have whole := (sends_asks rtuBackend within).whole
  have got := message_received rtu_lawful whole (rtu_lawful.accepted slave.ctx target own) tid []
  have length := message_consumed rtu_lawful whole tid target []
  rw [List.append_nil] at got length
  have some : (rtuBackend.message tid target (command.sends rtuBackend).pdu).length ≠ 0 :=
    fun none => message_some tid target _ (List.length_eq_zero_iff.mp none)
  have counted : receivedNothing (.ok ((rtuBackend.message tid target
      (command.sends rtuBackend).pdu).length,
      rtuBackend.message tid target (command.sends rtuBackend).pdu)) = false :=
    decide_eq_false some
  rw [rtuReceive]
  simp only [inStep.listens, Bool.false_eq_true, if_false, got, Option.map_some, length,
    List.drop_length, counted]

theorem hear_own (inStep : InStep slave) (within : command.unsent = none)
    (above : command.Above slave.mapping) (own : slave.ctx.slave = some target)
    (direct : target ≠ broadcastAddress) (stale : Slave → List UInt8) :
    ∃ after, hear stale (rtuBackend.message tid target (command.sends rtuBackend).pdu) slave =
        some (after, rtuBackend.message
          (rtuBackend.responseTid (rtuBackend.message tid target (command.sends rtuBackend).pdu))
          target ((slave.mapping.device.serve command.request).2.pdu
            (command.sends rtuBackend).pdu)) ∧ Served command slave after := by
  obtain ⟨reply, replied, device, rsp, kept⟩ := request_replied rtu_lawful
    (fun both => direct both.2) inStep.cleanBits inStep.cleanInputs within above tid
    (stale { slave with ignoring := false, input := [] })
  have some : (rtuBackend.message tid target (command.sends rtuBackend).pdu).length ≠ 0 :=
    fun none => message_some tid target _ (List.length_eq_zero_iff.mp none)
  refine ⟨{ slave with ignoring := false, input := [], mapping := reply.mapping },
    hear_whole inStep.empty (own_received tid inStep within (.inl own)) rfl ?_, rfl, ?_, kept, rfl,
    rfl⟩
  · rw [replyTo]
    simp only [if_neg some, replied, Option.map_some, rsp, ite_self]
  · rw [Command.run, within]
    exact device

theorem hear_broadcast (inStep : InStep slave) (within : command.unsent = none)
    (above : command.Above slave.mapping) (stale : Slave → List UInt8) :
    ∃ after, hear stale (rtuBackend.message tid broadcastAddress (command.sends rtuBackend).pdu)
        slave = some (after, []) ∧ Served command slave after := by
  obtain ⟨behind, same⟩ : ∃ behind, behind = stale { slave with ignoring := false, input := [] } :=
    ⟨_, rfl⟩
  obtain ⟨reply, replied, device, rsp, kept⟩ := request_served rtu_lawful broadcastAddress
    inStep.cleanBits inStep.cleanInputs within above tid behind
  have first : byteAt (rtuBackend.message tid broadcastAddress (command.sends rtuBackend).pdu ++
      behind) (rtuBackend.headerLength - 1) = broadcastAddress :=
    (byte_at_append (List.length_pos_iff.mpr (message_some _ _ _)) behind).trans
      (rtu_message_slave tid broadcastAddress _)
  have quiet (bytes : List UInt8) : sentReply rtuBackend (rtuBackend.message tid broadcastAddress
      (command.sends rtuBackend).pdu ++ behind) bytes = [] := if_pos ⟨rfl, first⟩
  have some : (rtuBackend.message tid broadcastAddress (command.sends rtuBackend).pdu).length ≠ 0 :=
    fun none => message_some tid broadcastAddress _ (List.length_eq_zero_iff.mp none)
  refine ⟨{ slave with ignoring := false, input := [], mapping := reply.mapping },
    hear_whole inStep.empty (own_received tid inStep within (.inr rfl)) rfl ?_, rfl, ?_, kept, rfl,
    rfl⟩
  · rw [replyTo, ← same]
    simp only [if_neg some, replied, Option.map_some, rsp, Response.sent, ite_self]
    cases (slave.mapping.device.serve command.request).2.rsp rtuBackend _ _ _ with
    | error errno => rfl
    | ok bytes => simp only [Except.map, quiet]
  · rw [Command.run, within]
    exact device

end Hear

/-! ### Calls on the bus -/

theorem map_m_forall {α β : Type} {f : α → Option β} {related : α → β → Prop} {values : List α}
    (each : ∀ value ∈ values, ∃ result, f value = some result ∧ related value result) :
    ∃ results, values.mapM f = some results ∧ List.Forall₂ related values results := by
  induction values with
  | nil => exact ⟨[], rfl, .nil⟩
  | cons value rest ih =>
      obtain ⟨result, first, here⟩ := each value (List.mem_cons_self ..)
      obtain ⟨results, later, all⟩ := ih fun other member => each other (List.mem_cons_of_mem _ member)
      refine ⟨result :: results, ?_, .cons here all⟩
      rw [List.mapM_cons, first, later]
      rfl

theorem map_m_related {α β γ : Type} {f : β → Option γ} {before : α → β → Prop}
    {after : α → γ → Prop} {values : List α} {middles : List β}
    (all : List.Forall₂ before values middles)
    (each : ∀ value ∈ values, ∀ middle, before value middle →
      ∃ result, f middle = some result ∧ after value result) :
    ∃ results, middles.mapM f = some results ∧ List.Forall₂ after values results := by
  induction all with
  | nil => exact ⟨[], rfl, .nil⟩
  | @cons value middle values middles here _ ih =>
      obtain ⟨result, first, now⟩ := each value (List.mem_cons_self ..) middle here
      obtain ⟨results, later, all⟩ := ih fun other member => each other (List.mem_cons_of_mem _ member)
      refine ⟨result :: results, ?_, .cons now all⟩
      rw [List.mapM_cons, first, later]
      rfl

theorem related_of_mem {α β : Type} {related : α → β → Prop} {values : List α} {results : List β}
    (all : List.Forall₂ related values results) {result : β} (member : result ∈ results) :
    ∃ value ∈ values, related value result := by
  induction all with
  | nil => cases member
  | cons here _ ih =>
      rcases List.mem_cons.mp member with rfl | behind
      · exact ⟨_, List.mem_cons_self .., here⟩
      · obtain ⟨value, inside, same⟩ := ih behind
        exact ⟨value, List.mem_cons_of_mem _ inside, same⟩

/-- Slaves in step, each with an address of its own, and what they are as devices. -/
structure OnBus (slaves : List Slave) (devices : UInt8 → Device) : Prop where
  inStep : ∀ slave ∈ slaves, InStep slave
  devices : ∀ slave ∈ slaves, ∀ address, slave.ctx.slave = some address →
    slave.mapping.device = devices address
  apart : (slaves.map fun slave => slave.ctx.slave).Nodup

structure Left (devices : UInt8 → Device) (before after : Slave) : Prop where
  ctx : after.ctx = before.ctx
  inStep : InStep after
  kept : Kept before.mapping after.mapping
  device : ∀ address, before.ctx.slave = some address → after.mapping.device = devices address

theorem left_addresses {devices : UInt8 → Device} {slaves left : List Slave}
    (all : List.Forall₂ (Left devices) slaves left) :
    (left.map fun slave => slave.ctx.slave) = slaves.map fun slave => slave.ctx.slave := by
  induction all with
  | nil => rfl
  | cons here _ ih => rw [List.map_cons, List.map_cons, ih, here.ctx]

theorem left_on_bus {devices next : UInt8 → Device} {slaves left : List Slave}
    (bus : OnBus slaves devices) (all : List.Forall₂ (Left next) slaves left) : OnBus left next := by
  constructor
  · intro after member
    obtain ⟨before, -, left'⟩ := related_of_mem all member
    exact left'.inStep
  · intro after member address own
    obtain ⟨before, -, left'⟩ := related_of_mem all member
    exact left'.device address (left'.ctx ▸ own)
  · rw [left_addresses all]
    exact bus.apart

theorem served_in_step {command : Command} {before after : Slave} (inStep : InStep before)
    (served : Served command before after) : InStep after where
  address := served.ctx ▸ inStep.address
  listens := served.listens
  empty := served.empty
  cleanBits := served.kept.clean inStep.cleanBits
  cleanInputs := served.kept.inputBits ▸ inStep.cleanInputs

theorem answers_of_one {slaves : List Slave} {heard : List (Slave × List UInt8)} {target : UInt8}
    {answer : List UInt8} (said : answer ≠ [])
    (all : List.Forall₂ (fun slave result =>
      result.2 = if slave.ctx.slave = some target then answer else []) slaves heard) :
    (heard.map Prod.snd).filter (· ≠ []) =
      List.replicate ((slaves.map fun slave => slave.ctx.slave).count (some target)) answer := by
  induction all with
  | nil => rfl
  | @cons slave result slaves heard here _ ih =>
      rw [List.map_cons, List.map_cons, here]
      by_cases own : slave.ctx.slave = some target
      · rw [if_pos own, List.filter_cons_of_pos (by exact decide_eq_true said), ih, own,
          List.count_cons_self]
        rfl
      · rw [if_neg own, List.filter_cons_of_neg (by simp), ih, List.count_cons_of_ne own]

theorem left_refl {devices : UInt8 → Device} {slaves : List Slave} (bus : OnBus slaves devices) :
    List.Forall₂ (Left devices) slaves slaves :=
  List.forall₂_same.mpr fun slave member =>
    ⟨rfl, bus.inStep slave member, kept_refl slave.mapping, bus.devices slave member⟩

def BusCall.Prompt (call : BusCall) : Prop := call.late = []

theorem waited_prompt {call : BusCall} (prompt : call.Prompt) (slave : Slave) :
    call.waited slave = slave := by
  rw [BusCall.waited, prompt]
  cases slave.ctx.slave <;> rfl

theorem confirm_nothing (ctx : Context) (call : Call) (req : List UInt8) :
    ({ ctx := ctx, input := [] } : Master).confirm call req [] =
      ({ ctx := ctx, input := [] }, .error .etimedout) := rfl

theorem confirm_answer {ctx : Context} {slave : UInt8} (addressed : ctx.slave = some slave)
    {command : Command} {response : Response} (within : command.unsent = none)
    (answers : Answers command response) (tid : UInt16) :
    ({ ctx := ctx, input := [] } : Master).confirm (command.sends rtuBackend)
        (rtuBackend.message tid slave (command.sends rtuBackend).pdu)
        (rtuBackend.message
          (rtuBackend.responseTid (rtuBackend.message tid slave (command.sends rtuBackend).pdu))
          slave (response.pdu (command.sends rtuBackend).pdu)) =
      ({ ctx := ctx, input := [] }, response.outcome command.maxDest) := by
  have read := response_read rtu_lawful addressed within answers tid []
  have length := message_consumed rtu_lawful (response_whole rtuBackend within answers)
    (rtuBackend.responseTid (rtuBackend.message tid slave (command.sends rtuBackend).pdu)) slave []
  rw [List.append_nil] at read length
  obtain ⟨got, known, result⟩ := Option.map_eq_some_iff.mp read
  rw [Master.confirm]
  simp only [List.nil_append, known, result, length, List.drop_length]

section Calls

variable {slaves : List Slave} {devices : UInt8 → Device} (bus : OnBus slaves devices)
include bus

theorem broadcast_heard {command : Command} (within : command.unsent = none)
    (above : ∀ slave ∈ slaves, command.Above slave.mapping) (tid : UInt16)
    (stale : Slave → List UInt8) :
    ∃ heard, slaves.mapM (hear stale (rtuBackend.message tid broadcastAddress
        (command.sends rtuBackend).pdu)) = some heard ∧
      (heard.map Prod.snd).filter (· ≠ []) = [] ∧
      List.Forall₂ (Left fun address => (command.run (devices address)).1) slaves
        (heard.map Prod.fst) := by
  have each : ∀ slave ∈ slaves, ∃ result, hear stale (rtuBackend.message tid broadcastAddress
      (command.sends rtuBackend).pdu) slave = some result ∧
      Left (fun address => (command.run (devices address)).1) slave result.1 ∧ result.2 = [] := by
    intro slave member
    obtain ⟨after, done, served⟩ := hear_broadcast tid (bus.inStep slave member) within
      (above slave member) stale
    refine ⟨(after, []), done, ⟨served.ctx, served_in_step (bus.inStep slave member) served,
      served.kept, fun address own => ?_⟩, rfl⟩
    rw [served.device, bus.devices slave member address own]
  obtain ⟨heard, all, related⟩ := map_m_forall each
  refine ⟨heard, all, ?_, List.forall₂_map_right_iff.mpr (related.imp fun _ _ both => both.1)⟩
  rw [List.filter_eq_nil_iff]
  intro sent member
  obtain ⟨result, inside, rfl⟩ := List.mem_map.mp member
  obtain ⟨slave, -, -, silent⟩ := related_of_mem related inside
  simp [silent]

/-- A request to one slave: it answers, and the others take the answer off the line. -/
theorem request_heard {call : BusCall} (prompt : call.Prompt) {target : UInt8}
    (within : call.command.unsent = none)
    (above : ∀ slave ∈ slaves, call.command.Above slave.mapping)
    (direct : target ≠ broadcastAddress)
    (present : some target ∈ slaves.map fun slave => slave.ctx.slave) (tid : UInt16) :
    ∃ heard left, slaves.mapM (hear call.stale (rtuBackend.message tid target
        (call.command.sends rtuBackend).pdu)) = some heard ∧
      (heard.map Prod.snd).filter (· ≠ []) = [rtuBackend.message
        (rtuBackend.responseTid
          (rtuBackend.message tid target (call.command.sends rtuBackend).pdu))
        target (((devices target).serve call.command.request).2.pdu
          (call.command.sends rtuBackend).pdu)] ∧
      overhear call (rtuBackend.message
        (rtuBackend.responseTid
          (rtuBackend.message tid target (call.command.sends rtuBackend).pdu))
        target (((devices target).serve call.command.request).2.pdu
          (call.command.sends rtuBackend).pdu)) heard = some left ∧
      List.Forall₂ (Left fun address =>
        if address = target then (call.command.run (devices address)).1 else devices address)
        slaves left := by
  have answers := served_answers (devices target) call.command
  obtain ⟨answer, same⟩ : ∃ answer, answer = rtuBackend.message
      (rtuBackend.responseTid (rtuBackend.message tid target (call.command.sends rtuBackend).pdu))
      target (((devices target).serve call.command.request).2.pdu
        (call.command.sends rtuBackend).pdu) := ⟨_, rfl⟩
  have said : answer ≠ [] := by
    rw [same]
    exact message_some _ _ _
  have each : ∀ slave ∈ slaves, ∃ result, hear call.stale (rtuBackend.message tid target
      (call.command.sends rtuBackend).pdu) slave = some result ∧
      (result.2 = if slave.ctx.slave = some target then answer else []) ∧
        if slave.ctx.slave = some target then Served call.command slave result.1
        else Ignores slave result.1 := by
    intro slave member
    by_cases own : slave.ctx.slave = some target
    · obtain ⟨after, done, served⟩ := hear_own tid (bus.inStep slave member) within
        (above slave member) own direct call.stale
      rw [bus.devices slave member target own, ← same] at done
      refine ⟨(after, answer), done, ?_⟩
      rw [if_pos own, if_pos own]
      exact ⟨rfl, served⟩
    · obtain ⟨after, done, ignores⟩ := hear_other tid (bus.inStep slave member) within own
        direct call.stale
      refine ⟨(after, []), done, ?_⟩
      rw [if_neg own, if_neg own]
      exact ⟨rfl, ignores⟩
  obtain ⟨heard, all, related⟩ := map_m_forall each
  have taken : ∀ slave ∈ slaves, ∀ result : Slave × List UInt8,
      ((result.2 = if slave.ctx.slave = some target then answer else []) ∧
        if slave.ctx.slave = some target then Served call.command slave result.1
        else Ignores slave result.1) →
      ∃ left, (if result.2 = [] then (hear call.stale answer (call.waited result.1)).bind
          fun (left, more) => if more = [] then some left else none else some result.1) =
          some left ∧
        Left (fun address =>
          if address = target then (call.command.run (devices address)).1 else devices address)
          slave left := by
    intro slave member result both
    obtain ⟨sent, state⟩ := both
    have inStep := bus.inStep slave member
    by_cases own : slave.ctx.slave = some target
    · rw [if_pos own] at sent state
      refine ⟨result.1, if_neg (sent ▸ said), state.ctx, served_in_step inStep state, state.kept,
        fun address here => ?_⟩
      have address' : address = target := Option.some.inj (here.symm.trans own)
      rw [state.device, if_pos address', bus.devices slave member address here]
    · rw [if_neg own] at sent state
      have taken : hear call.stale answer result.1 = some (slave, []) := by
        rw [same]
        exact hear_answer _ inStep state within answers call.stale
      refine ⟨slave, ?_, rfl, inStep, kept_refl slave.mapping, fun address here => ?_⟩
      · rw [if_pos sent, waited_prompt prompt, taken, Option.bind_some]
        exact if_pos rfl
      · have other : address ≠ target := fun same => own (same ▸ here)
        rw [if_neg other, bus.devices slave member address here]
  obtain ⟨left, overheard, lefts⟩ := map_m_related related taken
  refine ⟨heard, left, all, ?_, ?_, lefts⟩
  · rw [answers_of_one said (related.imp fun _ _ both => both.1),
      List.count_eq_one_of_mem bus.apart present, ← same]
    rfl
  · rw [← same]
    exact overheard

/-- A call on the bus reaches the slave that it names and no other. -/
theorem bus_call_refines (client : Context) {call : BusCall} (prompt : call.Prompt)
    (above : ∀ slave ∈ slaves, call.command.Above slave.mapping)
    (present : 0 ≤ call.target ∧ call.target ≤ 247 → byteOf call.target ≠ broadcastAddress →
      some (byteOf call.target) ∈ slaves.map fun slave => slave.ctx.slave) :
    ∃ sender left, busCall slaves { ctx := client, input := [] } call =
        some ({ ctx := sender, input := [] }, left,
          (callOn devices call.target call.command).2) ∧
      List.Forall₂ (Left (callOn devices call.target call.command).1) slaves left := by
  rw [busCall, callOn, call_cases]
  by_cases known : 0 ≤ call.target ∧ call.target ≤ 247
  · have set : rtuSetSlave client call.target =
        .ok { client with slave := some (byteOf call.target) } := if_pos known
    rw [set, if_pos known]
    cases within : call.command.unsent with
    | some errno => exact ⟨_, slaves, rfl, left_refl bus⟩
    | none =>
        have addressed : ({ client with slave := some (byteOf call.target) } : Context).slave =
          some (byteOf call.target) := rfl
        have started := call_started rtuBackend addressed (call.command.sends rtuBackend)
        dsimp only [Option.elim_none]
        rw [started]
        dsimp only
        by_cases all : byteOf call.target = broadcastAddress
        · obtain ⟨heard, every, silent, lefts⟩ :=
            broadcast_heard bus within above (rtuBackend.nextTid client.tid) call.stale
          rw [all, if_pos rfl, every, Option.bind_some]
          dsimp only
          rw [silent, confirm_nothing]
          exact ⟨_, _, rfl, lefts⟩
        · obtain ⟨heard, left, every, one, taken, lefts⟩ :=
            request_heard bus prompt within above all (present known all)
              (rtuBackend.nextTid client.tid)
          have own : ({ client with
              slave := some (byteOf call.target), tid := rtuBackend.nextTid client.tid } :
              Context).slave = some (byteOf call.target) := rfl
          have result := confirm_answer own within
            (served_answers (devices (byteOf call.target)) call.command)
            (rtuBackend.nextTid client.tid)
          rw [if_neg all, every, Option.bind_some]
          dsimp only
          rw [one]
          dsimp only
          rw [result, taken, Option.map_some, Command.run, within]
          exact ⟨_, left, rfl, lefts⟩
  · have refused : rtuSetSlave client call.target = .error .einval := if_neg known
    rw [refused, if_neg known]
    exact ⟨client, slaves, rfl, left_refl bus⟩

end Calls

theorem left_trans {middle devices : UInt8 → Device} {first second third : List Slave}
    (one : List.Forall₂ (Left middle) first second) (two : List.Forall₂ (Left devices) second third) :
    List.Forall₂ (Left devices) first third := by
  induction one generalizing third with
  | nil =>
      cases two
      exact .nil
  | cons here _ ih =>
      cases two with
      | cons next later =>
          exact .cons ⟨next.ctx.trans here.ctx, next.inStep, kept_trans here.kept next.kept,
            fun address own => next.device address (here.ctx ▸ own)⟩ (ih later)

/-- A run of calls on the bus, each answered before the response time-out of the slaves that ignore
the answer: the result of each is the answer of the slave it names, every slave is left as the
calls to it leave it, and all stay at the boundaries of the messages. -/
theorem bus_run_refines {slaves : List Slave} {devices : UInt8 → Device}
    (bus : OnBus slaves devices) (client : Context) {calls : List BusCall}
    (prompt : ∀ call ∈ calls, call.Prompt)
    (above : ∀ call ∈ calls, ∀ slave ∈ slaves, call.command.Above slave.mapping)
    (present : ∀ call ∈ calls, 0 ≤ call.target ∧ call.target ≤ 247 →
      byteOf call.target ≠ broadcastAddress →
        some (byteOf call.target) ∈ slaves.map fun slave => slave.ctx.slave) :
    ∃ left, busRun slaves { ctx := client, input := [] } calls =
        some (left, (callsOn devices calls).2) ∧
      List.Forall₂ (Left (callsOn devices calls).1) slaves left := by
  induction calls generalizing slaves devices client with
  | nil => exact ⟨slaves, rfl, left_refl bus⟩
  | cons first rest ih =>
      have own : first ∈ first :: rest := List.mem_cons_self ..
      obtain ⟨sender, middle, done, lefts⟩ := bus_call_refines bus client (prompt first own)
        (above first own) (present first own)
      obtain ⟨left, ran, later⟩ := ih (left_on_bus bus lefts) sender
        (fun call member => prompt call (List.mem_cons_of_mem _ member))
        (fun call member after inside => by
          obtain ⟨before, known, same⟩ := related_of_mem lefts inside
          exact above_of_kept same.kept (above call (List.mem_cons_of_mem _ member) before known))
        (fun call member => by
          rw [left_addresses lefts]
          exact present call (List.mem_cons_of_mem _ member))
      refine ⟨left, ?_, left_trans lefts later⟩
      rw [busRun, done, Option.bind_some]
      dsimp only
      rw [ran]
      rfl

def twoSlaves (mapping : Mapping) : List Slave :=
  [{ ctx := { slave := some 5, tid := 0 }, ignoring := false, mapping := mapping, input := [] },
    { ctx := { slave := some 6, tid := 0 }, ignoring := false, mapping := mapping, input := [] }]

theorem two_slaves_on_bus {mapping : Mapping} (cleanBits : Clean mapping.bits)
    (cleanInputs : Clean mapping.inputBits) : OnBus (twoSlaves mapping) fun _ => mapping.device := by
  constructor
  · intro slave member
    rcases List.mem_cons.mp member with rfl | member
    · exact ⟨⟨5, rfl, by decide⟩, rfl, rfl, cleanBits, cleanInputs⟩
    · rw [List.mem_singleton] at member
      subst member
      exact ⟨⟨6, rfl, by decide⟩, rfl, rfl, cleanBits, cleanInputs⟩
  · intro slave member address own
    rcases List.mem_cons.mp member with rfl | member
    · rfl
    · rw [List.mem_singleton] at member
      subst member
      rfl
  · show [some (5 : UInt8), some 6].Nodup
    decide

def promptly (target : Int) (command : Command) : BusCall where
  target := target
  command := command
  stale _ := []
  late := []

theorem calls_to_two_slaves :
    ∃ left, busRun (twoSlaves (modbusMappingNewStartAddress 0 4 0 4 0 4 0 4))
        { ctx := { slave := none, tid := 0 }, input := [] }
        [promptly 5 (.writeRegister 1 7), promptly 0 (.writeRegister 2 9),
          promptly 6 (.readRegisters false 0 4)] =
      some (left, (callsOn
        (fun _ => (modbusMappingNewStartAddress 0 4 0 4 0 4 0 4).device)
        [promptly 5 (.writeRegister 1 7), promptly 0 (.writeRegister 2 9),
          promptly 6 (.readRegisters false 0 4)]).2) ∧
      List.Forall₂ (Left (callsOn
        (fun _ => (modbusMappingNewStartAddress 0 4 0 4 0 4 0 4).device)
        [promptly 5 (.writeRegister 1 7), promptly 0 (.writeRegister 2 9),
          promptly 6 (.readRegisters false 0 4)]).1)
        (twoSlaves (modbusMappingNewStartAddress 0 4 0 4 0 4 0 4)) left := by
  refine bus_run_refines (two_slaves_on_bus (new_mapping_clean ..).1 (new_mapping_clean ..).2) _
    ?_ ?_ ?_
  · intro call member
    simp only [List.mem_cons, List.not_mem_nil, or_false] at member
    rcases member with rfl | rfl | rfl
    · rfl
    · rfl
    · rfl
  · intro call member slave _
    simp only [List.mem_cons, List.not_mem_nil, or_false] at member
    rcases member with rfl | rfl | rfl
    · trivial
    · trivial
    · trivial
  · intro call member _ direct
    simp only [List.mem_cons, List.not_mem_nil, or_false] at member
    rcases member with rfl | rfl | rfl
    · exact List.mem_cons_self ..
    · exact absurd rfl direct
    · exact List.mem_cons_of_mem _ (List.mem_cons_self ..)

/-! ### A slave that is not there -/

/-- A command whose request holds no list of values. -/
def Command.Bare : Command → Prop
  | .writeBits _ _ _ | .writeRegisters _ _ _ | .writeAndReadRegisters _ _ _ _ _ => False
  | _ => True

/-- What the slave has on its line makes it send nothing, and changes none of its tables. -/
def Silent (stale : Slave → List UInt8) (slave : Slave) : Prop :=
  ∀ fuel, ∃ after, listen stale fuel slave = some (after, []) ∧
    rtuTimeout after = rtuTimeout slave

section Silence

variable {stale : Slave → List UInt8} {slave : Slave}

theorem silent_of_waits (waits : rtuReceive slave = none) : Silent stale slave :=
  fun fuel => ⟨slave, listen_waits waits fuel, rfl⟩

theorem silent_of_step {heard next : Slave} {result : Except Errno (Nat × List UInt8)}
    (got : rtuReceive slave = some (heard, result))
    (replied : replyTo stale heard result = some (next, []))
    (same : rtuTimeout next = rtuTimeout slave) (later : Silent stale next) :
    Silent stale slave := by
  intro fuel
  cases fuel with
  | zero => exact ⟨slave, rfl, rfl⟩
  | succ fuel =>
      obtain ⟨after, listened, still⟩ := later fuel
      refine ⟨after, ?_, still.trans same⟩
      rw [listen, got]
      dsimp only
      rw [replied, Option.bind_some, listened]
      rfl

theorem uncounted_data {msg : List UInt8}
    (none : computeMetaLengthAfterFunction (byteAt msg 1) .indication ≤ 1) :
    computeDataLengthAfterMeta rtuBackend .indication msg = 2 := by
  have function : byteAt (msg.drop rtuBackend.headerLength) 0 = byteAt msg 1 := byte_at_drop msg 1 0
  rw [data_length_drop, dataCount, function]
  simp only [computeMetaLengthAfterFunction] at none
  split at none
  · omega
  · split at none
    · omega
    · rename_i many
      split at none
      · omega
      · split at none
        · omega
        · rename_i both
          rw [if_neg many, if_neg both]
          rfl

theorem three_bytes_wait {stream : List UInt8} (short : stream.length ≤ 3) :
    frameLength rtuBackend .indication stream = none := by
  cases frame : frameLength rtuBackend .indication stream with
  | none => rfl
  | some decided =>
      cases decided with
      | ok length =>
          have start := meta_end_some .indication stream
          have long := frame_some frame
          have inside := frame_length_le frame
          omega
      | error errno =>
          rw [frameLength] at frame
          split at frame
          · cases frame
          split at frame
          · cases frame
          rename_i counted
          have ends : metaEnd rtuBackend .indication stream =
            2 + computeMetaLengthAfterFunction (byteAt stream 1) .indication := rfl
          have function : byteAt (stream.take (metaEnd rtuBackend .indication stream)) 1 =
            byteAt stream 1 := byte_at_take stream (meta_end_some .indication stream)
          have total : announced rtuBackend .indication stream ≤ rtuBackend.maxAduLength := by
            show _ ≤ 256
            rw [announced, uncounted_data (by rw [function]; omega)]
            omega
          rw [if_neg (Nat.not_lt.mpr total)] at frame
          split at frame
          · cases frame
          · cases frame

theorem rtu_listens (listens : slave.ignoring = false) :
    rtuReceive slave = (received rtuBackend .indication slave.ctx slave.input).map fun result =>
      ({ slave with
          ignoring := receivedNothing result
          input := slave.input.drop (consumed rtuBackend .indication slave.input) }, result) :=
  if_neg (by rw [listens]; exact Bool.false_ne_true)

theorem rtu_ignores (ignores : slave.ignoring = true) :
    rtuReceive slave = (received rtuBackend .confirmation slave.ctx slave.input).map fun _ =>
      ({ slave with
          ignoring := false
          input := slave.input.drop (consumed rtuBackend .confirmation slave.input) },
        .ok (0, [])) :=
  if_pos ignores

theorem silent_three (listens : slave.ignoring = false) (short : slave.input.length ≤ 3) :
    Silent stale slave := by
  apply silent_of_waits
  rw [rtu_listens listens, received_waits (three_bytes_wait short)]
  rfl

/-- Nothing is sent for `_FC_READ_EXCEPTION_STATUS`. -/
theorem reply_seven {a b c : UInt8} (got : Except Errno Nat) :
    replyTo stale slave (got.map fun rc => (rc, [a, 7, b, c])) = some (slave, []) := by
  cases got with
  | error errno => rfl
  | ok rc =>
      rw [Except.map, replyTo]
      split
      · rfl
      · rfl

/-- What is left of a request to read behind its first three bytes. -/
theorem silent_five {a high b c d : UInt8} (listens : slave.ignoring = false)
    (few : high.toNat ≤ 7) (input : slave.input = [a, high, b, c, d]) : Silent stale slave := by
  by_cases seven : high = 7
  · subst seven
    have frame : frameLength rtuBackend .indication [a, 7, b, c, d] = some (.ok 4) := rfl
    have got : rtuReceive slave =
        some ({ slave with
            ignoring := receivedNothing (finish rtuBackend slave.ctx [a, 7, b, c])
            input := [d] }, finish rtuBackend slave.ctx [a, 7, b, c]) := by
      rw [rtu_listens listens, received, consumed, input, frame]
      rfl
    exact silent_of_step got (reply_seven _) rfl (silent_of_waits (short_waits (Nat.lt_succ_self 1)))
  · have six : high ≤ FunctionCode.writeSingleRegister.byte := by
      have other : high.toNat ≠ 7 := fun same => seven (UInt8.toNat_inj.mp same)
      have bound : FunctionCode.writeSingleRegister.byte.toNat = 6 := rfl
      rw [UInt8.le_iff_toNat_le, bound]
      omega
    have ends : metaEnd rtuBackend .indication [a, high, b, c, d] = 6 :=
      congrArg (2 + ·) (if_pos six)
    have frame : frameLength rtuBackend .indication [a, high, b, c, d] = none := by
      rw [frameLength, ends]
      rfl
    apply silent_of_waits
    rw [rtu_listens listens, received_waits (by rw [input, frame])]
    rfl

theorem silent_ignoring (ignores : slave.ignoring = true)
    (whole : ∀ length, frameLength rtuBackend .confirmation slave.input = some (.ok length) →
      slave.input.length ≤ length + 3)
    (long : ∀ errno, frameLength rtuBackend .confirmation slave.input = some (.error errno) →
      Silent stale { slave with
        ignoring := false
        input := slave.input.drop (metaEnd rtuBackend .confirmation slave.input) }) :
    Silent stale slave := by
  cases frame : frameLength rtuBackend .confirmation slave.input with
  | none =>
      apply silent_of_waits
      rw [rtu_ignores ignores, received_waits frame]
      rfl
  | some decided =>
      have got : rtuReceive slave =
          some ({ slave with
              ignoring := false
              input := slave.input.drop (consumed rtuBackend .confirmation slave.input) },
            .ok (0, [])) := by
        rw [rtu_ignores ignores, received, frame]
        rfl
      refine silent_of_step got (reply_nothing stale _ _) rfl ?_
      rw [consumed, frame]
      cases decided with
      | ok length =>
          have short := whole length frame
          refine silent_three rfl ?_
          rw [List.length_drop]
          exact Nat.sub_le_of_le_add (Nat.add_comm length 3 ▸ short)
      | error errno => exact long errno frame

theorem confirmation_end (stream : List UInt8) : 3 ≤ metaEnd rtuBackend .confirmation stream := by
  have some : 1 ≤ computeMetaLengthAfterFunction (byteAt stream 1) .confirmation := by
    rw [computeMetaLengthAfterFunction]
    split <;> omega
  exact Nat.add_le_add_left some 2

theorem confirmation_long {stream : List UInt8} {length : Nat}
    (frame : frameLength rtuBackend .confirmation stream = some (.ok length)) : 5 ≤ length :=
  Nat.le_trans (Nat.add_le_add_right (confirmation_end stream) 2) (frame_some frame)

theorem few_high {nb : Nat} (few : nb ≤ 2000) : (highByte nb).toNat ≤ 7 := by
  have small : ((nb : Int) / 256 % 256).toNat ≤ 7 := by omega
  rw [highByte, byteOf, UInt8.toNat_ofNat']
  exact Nat.le_trans (Nat.mod_le _ _) small

theorem silent_read (ignores : slave.ignoring = true) {target low high : UInt8}
    {function : FunctionCode} {addr : Int} {nb : Nat} (few : nb ≤ 2000)
    (input : slave.input = target :: (requestBasis function addr nb ++ [low, high]))
    (ends : metaEnd rtuBackend .confirmation slave.input = 3) : Silent stale slave := by
  apply silent_ignoring ignores
  · intro length frame
    have long := confirmation_long frame
    rw [input]
    exact Nat.add_le_add_right long 3
  · intro errno _
    rw [ends, input]
    exact silent_five rfl (few_high few) rfl

theorem silent_echo (ignores : slave.ignoring = true) {length : Nat}
    (frame : frameLength rtuBackend .confirmation slave.input = some (.ok length))
    (all : slave.input.length = length) : Silent stale slave := by
  apply silent_ignoring ignores
  · intro other known
    rw [frame] at known
    cases known
    omega
  · intro errno known
    rw [frame] at known
    cases known

/-- A slave that waits for a confirmation sends nothing for a request without a list of values. -/
theorem silent_bare (ignores : slave.ignoring = true) {command : Command} (bare : command.Bare)
    (within : command.unsent = none) (tid : UInt16) (target : UInt8)
    (input : slave.input = rtuBackend.message tid target (command.sends rtuBackend).pdu) :
    Silent stale slave := by
  rw [rtu_sent] at input
  cases command with
  | readBits isInput addr nb =>
      cases isInput with
      | false => exact silent_read ignores (few_bits within) input (by rw [input]; rfl)
      | true => exact silent_read ignores (few_bits within) input (by rw [input]; rfl)
  | readRegisters isInput addr nb =>
      have few : nb ≤ 2000 := Nat.le_trans (few_registers within) (by decide)
      cases isInput with
      | false => exact silent_read ignores few input (by rw [input]; rfl)
      | true => exact silent_read ignores few input (by rw [input]; rfl)
  | writeBit addr status' =>
      have frame : frameLength rtuBackend .confirmation slave.input = some (.ok 8) := by
        rw [input]
        rfl
      exact silent_echo ignores frame (by rw [input]; rfl)
  | writeRegister addr value =>
      have frame : frameLength rtuBackend .confirmation slave.input = some (.ok 8) := by
        rw [input]
        rfl
      exact silent_echo ignores frame (by rw [input]; rfl)
  | writeBits addr nb src => exact bare.elim
  | writeRegisters addr nb src => exact bare.elim
  | maskWriteRegister addr andMask orMask =>
      have frame : frameLength rtuBackend .confirmation slave.input = some (.ok 10) := by
        rw [input]
        rfl
      exact silent_echo ignores frame (by rw [input]; rfl)
  | writeAndReadRegisters writeAddr writeNb src readAddr readNb => exact bare.elim
  | reportSlaveId maxDest =>
      apply silent_ignoring ignores
      · intro length frame
        have long := confirmation_long frame
        rw [input]
        exact Nat.le_trans (by decide : 4 ≤ 5 + 3) (Nat.add_le_add_right long 3)
      · intro errno _
        have ends : metaEnd rtuBackend .confirmation slave.input = 3 := by
          rw [input]
          rfl
        rw [ends, input]
        exact silent_three rfl (by decide : 1 ≤ 3)

end Silence

/-! ### Calls to it -/

/-- The slave ignores a confirmation, and is what it was when that does not come. -/
structure Deaf (before after : Slave) : Prop where
  ignores : after.ignoring = true
  empty : after.input = []
  waited : rtuTimeout after = before

theorem deaf_of_ignores {before after : Slave} (inStep : InStep before)
    (ignores : Ignores before after) : Deaf before after := by
  refine ⟨ignores.ignores, ignores.empty, ?_⟩
  rw [rtuTimeout, ignores.ctx, ignores.mapping, ← inStep.listens, ← inStep.empty]

theorem deaf_hears {before after : Slave} (deaf : Deaf before after) {command : Command}
    (bare : command.Bare) (within : command.unsent = none) (stale : Slave → List UInt8)
    (tid : UInt16) (target : UInt8) :
    ∃ result, hear stale (rtuBackend.message tid target (command.sends rtuBackend).pdu) after =
        some result ∧ rtuTimeout result.1 = before ∧ result.2 = [] := by
  rw [hear, deaf.empty, List.nil_append]
  have silent : Silent stale { after with
      input := rtuBackend.message tid target (command.sends rtuBackend).pdu } :=
    silent_bare deaf.ignores bare within tid target rfl
  obtain ⟨last, listened, still⟩ := silent _
  exact ⟨(last, []), listened, still.trans deaf.waited, rfl⟩

theorem timed_out {slaves waiting : List Slave}
    (all : List.Forall₂ (fun slave waits => rtuTimeout waits = slave) slaves waiting) :
    waiting.map rtuTimeout = slaves := by
  induction all with
  | nil => rfl
  | cons here _ ih => rw [List.map_cons, here, ih]

section Unanswered

variable (client : Context) {call : BusCall}

theorem unanswered {slaves waiting : List Slave} {before after : Slave → Slave → Prop}
    (all : List.Forall₂ before slaves waiting) (known : 0 ≤ call.target ∧ call.target ≤ 247)
    (within : call.command.unsent = none)
    (each : ∀ slave ∈ slaves, ∀ waits, before slave waits →
      ∃ result, hear call.stale (rtuBackend.message (rtuBackend.nextTid client.tid)
        (byteOf call.target) (call.command.sends rtuBackend).pdu) waits = some result ∧
        after slave result.1 ∧ result.2 = []) :
    ∃ sender left, busCall waiting { ctx := client, input := [] } call =
        some ({ ctx := sender, input := [] }, left, .error .etimedout) ∧
      List.Forall₂ after slaves left := by
  have set : rtuSetSlave client call.target =
      .ok { client with slave := some (byteOf call.target) } := if_pos known
  have addressed : ({ client with slave := some (byteOf call.target) } : Context).slave =
    some (byteOf call.target) := rfl
  have started := call_started rtuBackend addressed (call.command.sends rtuBackend)
  obtain ⟨heard, every, related⟩ := map_m_related all each
  have silent : (heard.map Prod.snd).filter (· ≠ []) = [] := by
    rw [List.filter_eq_nil_iff]
    intro sent member
    obtain ⟨result, inside, rfl⟩ := List.mem_map.mp member
    obtain ⟨slave, -, -, quiet⟩ := related_of_mem related inside
    simp [quiet]
  refine ⟨{ client with slave := some (byteOf call.target), tid := rtuBackend.nextTid client.tid },
    heard.map Prod.fst, ?_,
    List.forall₂_map_right_iff.mpr (related.imp fun _ _ both => both.1)⟩
  simp only [busCall, set, call_cases, within, Option.elim_none, started, every, Option.bind_some,
    silent, confirm_nothing]

theorem deaf_call {slaves waiting : List Slave} (deaf : List.Forall₂ Deaf slaves waiting)
    (bare : call.command.Bare) :
    ∃ sender left errno, busCall waiting { ctx := client, input := [] } call =
        some ({ ctx := sender, input := [] }, left, .error errno) ∧
      left.map rtuTimeout = slaves := by
  have same := timed_out (deaf.imp fun _ _ deaf => deaf.waited)
  by_cases known : 0 ≤ call.target ∧ call.target ≤ 247
  · cases within : call.command.unsent with
    | some errno =>
        have set : rtuSetSlave client call.target =
          .ok { client with slave := some (byteOf call.target) } := if_pos known
        refine ⟨{ client with slave := some (byteOf call.target) }, waiting, errno, ?_, same⟩
        rw [busCall, set, call_cases, within]
        rfl
    | none =>
        obtain ⟨sender, left, done, related⟩ :
            ∃ sender left, busCall waiting { ctx := client, input := [] } call =
                some ({ ctx := sender, input := [] }, left, .error .etimedout) ∧
              List.Forall₂ (fun slave waits => rtuTimeout waits = slave) slaves left :=
          unanswered client deaf known within fun slave _ waits deaf =>
            deaf_hears deaf bare within call.stale _ _
        exact ⟨sender, left, .etimedout, done, timed_out related⟩
  · have refused : rtuSetSlave client call.target = .error .einval := if_neg known
    refine ⟨client, waiting, .einval, ?_, same⟩
    rw [busCall, refused]

end Unanswered

/-- A request to a slave that is not there times out, and takes the others out of step until their
response time-out has passed: a call made before, of a command without a list of values, fails too,
also to a slave that is there. No table is changed. -/
theorem absent_slave_deafens {slaves : List Slave} {devices : UInt8 → Device}
    (bus : OnBus slaves devices) (client : Context) {call : BusCall}
    (known : 0 ≤ call.target ∧ call.target ≤ 247) (direct : byteOf call.target ≠ broadcastAddress)
    (within : call.command.unsent = none)
    (absent : some (byteOf call.target) ∉ slaves.map fun slave => slave.ctx.slave) :
    ∃ sender left, busCall slaves { ctx := client, input := [] } call =
        some ({ ctx := sender, input := [] }, left, .error .etimedout) ∧
      List.Forall₂ Deaf slaves left ∧
      ∀ next : BusCall, next.command.Bare →
        ∃ later others errno, busCall left { ctx := sender, input := [] } next =
            some ({ ctx := later, input := [] }, others, .error errno) ∧
          others.map rtuTimeout = slaves := by
  obtain ⟨sender, left, done, deaf⟩ : ∃ sender left,
      busCall slaves { ctx := client, input := [] } call =
        some ({ ctx := sender, input := [] }, left, .error .etimedout) ∧
      List.Forall₂ Deaf slaves left := by
    refine unanswered client (List.forall₂_same.mpr fun slave _ => Eq.refl slave) known within ?_
    rintro slave member _ rfl
    have inStep := bus.inStep slave member
    have other : slave.ctx.slave ≠ some (byteOf call.target) := fun own =>
      absent (own ▸ List.mem_map_of_mem member)
    obtain ⟨after, heard, ignores⟩ := hear_other (rtuBackend.nextTid client.tid) inStep within
      other direct call.stale
    exact ⟨(after, []), heard, deaf_of_ignores inStep ignores, rfl⟩
  exact ⟨sender, left, done, deaf, fun next bare => deaf_call sender deaf bare⟩

theorem slave_seven_absent :
    ∃ sender left, busCall (twoSlaves (modbusMappingNewStartAddress 0 4 0 4 0 4 0 4))
        { ctx := { slave := none, tid := 0 }, input := [] }
        (promptly 7 (.readRegisters false 0 1)) =
        some ({ ctx := sender, input := [] }, left, .error .etimedout) ∧
      List.Forall₂ Deaf (twoSlaves (modbusMappingNewStartAddress 0 4 0 4 0 4 0 4)) left ∧
      ∀ next : BusCall, next.command.Bare →
        ∃ later others errno, busCall left { ctx := sender, input := [] } next =
            some ({ ctx := later, input := [] }, others, .error errno) ∧
          others.map rtuTimeout = twoSlaves (modbusMappingNewStartAddress 0 4 0 4 0 4 0 4) :=
  absent_slave_deafens (two_slaves_on_bus (new_mapping_clean ..).1 (new_mapping_clean ..).2) _
    (by decide) (by decide) rfl
    (by show some (byteOf 7) ∉ [some (5 : UInt8), some 6]; decide)

end DevHub.Modbus
