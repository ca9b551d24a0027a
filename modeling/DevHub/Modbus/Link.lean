import DevHub.Modbus.Confirm

/-!
A client and a server on a line. The messages arrive in whatever pieces the line makes of them,
and a run of calls is a run of the device: its results, and what it leaves of a write.
-/

namespace DevHub.Modbus

open AddressSpace

set_option autoImplicit false

/-! ### A call over the line -/

section Exchange

variable (backend : Backend)

/-- The server receives the request before the bytes that its buffer still holds, and the client
receives the response. `none` is a client that waits, or a server that has touched a place
outside of its tables. -/
def exchange (requests : Cut backend .indication) (responses : Cut backend .confirmation)
    (server : Context) (stale : List UInt8) (client : Context) (mapping : Mapping)
    (command : Command) : Option (Context × Mapping × Except Errno Outcome) :=
  match command.call backend with
  | .error errno => some (client, mapping, .error errno)
  | .ok call =>
      match call.start backend client with
      | .error errno => some (client, mapping, .error errno)
      | .ok (sender, req) =>
          match modbusReceiveMsg backend .indication server ((requests.pieces req).map .data) with
          | some (.ok (reqLength, msg)) =>
              (modbusReply backend (msg ++ stale) reqLength mapping).bind fun reply =>
                match reply.rsp with
                | .error _ => none
                | .ok sent =>
                    (call.finish backend sender req ((responses.pieces sent).map .data)).map
                      fun result => (sender, reply.mapping, result)
          | _ => none

/-- A call with what the server's buffer holds behind its request, and the pieces in which the
line delivers the two messages. -/
structure LineCall where
  command : Command
  stale : List UInt8
  requests : Cut backend .indication
  responses : Cut backend .confirmation

def exchanges (server : Context) : Context → Mapping → List (LineCall backend) →
    Option (Mapping × List (Except Errno Outcome))
  | _, mapping, [] => some (mapping, [])
  | client, mapping, call :: rest =>
      (exchange backend call.requests call.responses server call.stale client mapping
        call.command).bind fun (sender, left, result) =>
          (exchanges server sender left rest).map fun (last, results) => (last, result :: results)

end Exchange

def commandsRun : Device → List Command → Device × List (Except Errno Outcome)
  | device, [] => (device, [])
  | device, command :: rest =>
      let done := command.run device
      let later := commandsRun done.1 rest
      (later.1, done.2 :: later.2)

/-- A write and read does not begin before the registers. -/
def Command.Above (mapping : Mapping) : Command → Prop
  | .writeAndReadRegisters writeAddr _ _ _ _ => mapping.registers.start ≤ wireWord writeAddr
  | _ => True

theorem above_of_kept {before after : Mapping} (kept : Kept before after) {command : Command}
    (above : command.Above before) : command.Above after := by
  have start : after.registers.start = before.registers.start := congrArg Prod.fst kept.registers
  cases command with
  | writeAndReadRegisters writeAddr writeNb src readAddr readNb =>
      rw [Command.Above] at above ⊢
      rwa [start]
  | _ => trivial

theorem above_inside {backend : Backend} {mapping : Mapping} {command : Command}
    {buffer : List UInt8} (above : command.Above mapping)
    (asks : requestAt backend buffer = command.request) : ¬ WritesBelow backend buffer mapping := by
  intro below
  rw [requestAt, below.function] at asks
  cases command with
  | writeAndReadRegisters writeAddr writeNb src readAddr readNb =>
      dsimp only [Command.request] at asks
      rw [Request.writeAndRead.injEq] at asks
      have before := below.writeBelow
      rw [asks.1] at before
      rw [Command.Above] at above
      omega
  | _ => cases asks

theorem written_long {backend : Backend} {command : Command} {response : Response}
    (answers : Answers command response) (count : Nat) (written : response = .written count) :
    5 ≤ (command.sends backend).pdu.length := by
  cases answers with
  | writtenBits addr nb src =>
      rw [Command.sends, writeCall, List.length_append]
      exact Nat.le_add_right 5 _
  | writtenRegisters addr nb src =>
      rw [Command.sends, writeCall, List.length_append]
      exact Nat.le_add_right 5 _
  | _ => cases written

theorem answers_something {command : Command} {response : Response}
    (answers : Answers command response) : response ≠ .nothing := by
  cases answers <;> exact Response.noConfusion

theorem call_started (backend : Backend) {client : Context} {slave : UInt8}
    (addressed : client.slave = some slave) (call : Call) :
    call.start backend client =
      .ok ({ client with tid := backend.nextTid client.tid },
        backend.message (backend.nextTid client.tid) slave call.pdu) := by
  simp only [Call.start, requestSlave, addressed, Except.map]

section Calls

variable {backend : Backend} (lawful : backend.Lawful)
include lawful

theorem cut_received {type : MsgType} (cut : Cut backend type) {pdu : List UInt8}
    (whole : Whole type pdu) {ctx : Context} {slave : UInt8} (hears : backend.Hears ctx slave)
    (tid : UInt16) :
    modbusReceiveMsg backend type ctx ((cut.pieces (backend.message tid slave pdu)).map .data) =
      some (.ok ((backend.message tid slave pdu).length, backend.message tid slave pdu)) := by
  have frame := message_frame lawful whole tid slave []
  have taken := message_received lawful whole hears tid []
  rw [List.append_nil] at frame taken
  have fits := cut.fits _ frame
  have arrived := receive_loop_received ctx start_stands fits
  rw [cut.whole] at arrived
  exact arrived.trans taken

theorem request_served (slave : UInt8) {mapping : Mapping} (cleanBits : Clean mapping.bits)
    (cleanInputs : Clean mapping.inputBits) {command : Command} (within : command.unsent = none)
    (above : command.Above mapping) (tid : UInt16) (stale : List UInt8) :
    ∃ reply, modbusReply backend (backend.message tid slave (command.sends backend).pdu ++ stale)
        (backend.message tid slave (command.sends backend).pdu).length mapping = some reply ∧
      reply.mapping.device = (mapping.device.serve command.request).1 ∧
      reply.rsp = (mapping.device.serve command.request).2.sent backend
        (backend.message tid slave (command.sends backend).pdu ++ stale)
        (backend.message tid slave (command.sends backend).pdu).length ∧
      Kept mapping reply.mapping := by
  have asks := sends_asks backend within
  obtain ⟨length, checksum, behind⟩ := message_pdu lawful tid slave (command.sends backend).pdu
  have request : requestAt backend
      (backend.message tid slave (command.sends backend).pdu ++ stale) = command.request := by
    apply asks.request _ (checksum ++ stale)
    rw [List.drop_append_of_le_length (by omega), behind, List.append_assoc]
  obtain ⟨reply, replied, device, rsp, -, kept⟩ :=
    reply_serves (above_inside above request) cleanBits cleanInputs
      (backend.message tid slave (command.sends backend).pdu).length
  rw [request] at device rsp
  exact ⟨reply, replied, device, rsp, kept⟩

/-- The server's reply to the request of a command, which is no broadcast. -/
theorem request_replied {slave : UInt8} (loud : ¬ (backend.rtu = true ∧ slave = broadcastAddress))
    {mapping : Mapping} (cleanBits : Clean mapping.bits) (cleanInputs : Clean mapping.inputBits)
    {command : Command} (within : command.unsent = none) (above : command.Above mapping)
    (tid : UInt16) (stale : List UInt8) :
    ∃ reply, modbusReply backend (backend.message tid slave (command.sends backend).pdu ++ stale)
        (backend.message tid slave (command.sends backend).pdu).length mapping = some reply ∧
      reply.mapping.device = (mapping.device.serve command.request).1 ∧
      reply.rsp = .ok (backend.message
        (backend.responseTid (backend.message tid slave (command.sends backend).pdu)) slave
        ((mapping.device.serve command.request).2.pdu (command.sends backend).pdu)) ∧
      Kept mapping reply.mapping := by
  have answers := served_answers mapping.device command
  obtain ⟨function, more, front⟩ := sends_front backend command
  obtain ⟨reply, replied, device, rsp, kept⟩ :=
    request_served lawful slave cleanBits cleanInputs within above tid stale
  have some : (command.sends backend).pdu ≠ [] := by
    rw [front]
    exact List.cons_ne_nil _ _
  rw [response_sent lawful some (written_long answers) (answers_something answers) loud] at rsp
  exact ⟨reply, replied, device, rsp, kept⟩

/-- What the client makes of the response to its request, whatever follows it. -/
theorem response_read {client : Context} {slave : UInt8} (addressed : client.slave = some slave)
    {command : Command} {response : Response} (within : command.unsent = none)
    (answers : Answers command response) (tid : UInt16) (rest : List UInt8) :
    (received backend .confirmation client (backend.message
        (backend.responseTid (backend.message tid slave (command.sends backend).pdu)) slave
        (response.pdu (command.sends backend).pdu) ++ rest)).map
      ((command.sends backend).returned backend
        (backend.message tid slave (command.sends backend).pdu)) =
      some (response.outcome command.maxDest) := by
  have back := message_received lawful (response_whole backend within answers)
    (lawful.accepted client slave (.inl addressed))
    (backend.responseTid (backend.message tid slave (command.sends backend).pdu)) rest
  obtain ⟨-, checksum, behind⟩ := message_pdu lawful tid slave (command.sends backend).pdu
  obtain ⟨answerLength, answerChecksum, answerBehind⟩ := message_pdu lawful
    (backend.responseTid (backend.message tid slave (command.sends backend).pdu)) slave
    (response.pdu (command.sends backend).pdu)
  have confirms : Confirms backend _ (command.sends backend).pdu _ _ :=
    ⟨⟨checksum, behind⟩, ⟨answerChecksum, answerBehind⟩, lawful.answered _ _ _ _, answerLength⟩
  have result := sends_returns within answers confirms
  rw [back, Option.map_some, Call.returned, Except.bind]
  dsimp only
  rw [result]

theorem response_returned (responses : Cut backend .confirmation) {client : Context}
    {slave : UInt8} (addressed : client.slave = some slave) {command : Command}
    {response : Response} (within : command.unsent = none) (answers : Answers command response)
    (tid : UInt16) :
    (command.sends backend).finish backend client
        (backend.message tid slave (command.sends backend).pdu)
        ((responses.pieces (backend.message
          (backend.responseTid (backend.message tid slave (command.sends backend).pdu)) slave
          (response.pdu (command.sends backend).pdu))).map .data) =
      some (response.outcome command.maxDest) := by
  have back := cut_received lawful responses (response_whole backend within answers)
    (lawful.accepted client slave (.inl addressed))
    (backend.responseTid (backend.message tid slave (command.sends backend).pdu))
  have read := response_read lawful addressed within answers tid []
  have taken := message_received lawful (response_whole backend within answers)
    (lawful.accepted client slave (.inl addressed))
    (backend.responseTid (backend.message tid slave (command.sends backend).pdu)) []
  rw [Call.finish, back, ← taken, read]

/-- A call over the line is a call of the device. -/
theorem exchange_refines (requests : Cut backend .indication)
    (responses : Cut backend .confirmation) {server client : Context} {slave : UInt8}
    (addressed : client.slave = some slave) (hears : backend.Hears server slave)
    (loud : ¬ (backend.rtu = true ∧ slave = broadcastAddress)) {mapping : Mapping}
    (cleanBits : Clean mapping.bits) (cleanInputs : Clean mapping.inputBits) {command : Command}
    (above : command.Above mapping) (stale : List UInt8) :
    ∃ sender left, exchange backend requests responses server stale client mapping command =
        some (sender, left, (command.run mapping.device).2) ∧
      left.device = (command.run mapping.device).1 ∧ sender.slave = some slave ∧
      Kept mapping left := by
  rw [exchange, call_cases, Command.run]
  cases within : command.unsent with
  | some errno => exact ⟨client, mapping, rfl, rfl, addressed, kept_refl mapping⟩
  | none =>
      have started := call_started backend addressed (command.sends backend)
      have arrived := cut_received lawful requests (sends_asks backend within).whole
        hears
        (backend.nextTid client.tid)
      obtain ⟨reply, replied, device, rsp, kept⟩ := request_replied lawful loud cleanBits
        cleanInputs within above (backend.nextTid client.tid) stale
      have own : ({ client with tid := backend.nextTid client.tid } : Context).slave = slave :=
        addressed
      have result := response_returned lawful responses own within
        (served_answers mapping.device command) (backend.nextTid client.tid)
      refine ⟨{ client with tid := backend.nextTid client.tid }, reply.mapping, ?_, device, addressed,
        kept⟩
      simp only [Option.elim_none, started, arrived, replied, Option.bind_some, rsp, result]
      rfl

theorem exchanges_served {server client : Context} {slave : UInt8}
    (addressed : client.slave = some slave) (hears : backend.Hears server slave)
    (loud : ¬ (backend.rtu = true ∧ slave = broadcastAddress)) {mapping : Mapping}
    (cleanBits : Clean mapping.bits) (cleanInputs : Clean mapping.inputBits)
    {calls : List (LineCall backend)} (above : ∀ call ∈ calls, call.command.Above mapping) :
    ∃ left results,
      exchanges backend server client mapping calls = some (left, results) ∧
      commandsRun mapping.device (calls.map LineCall.command) = (left.device, results) ∧
      Kept mapping left := by
  induction calls generalizing client mapping with
  | nil => exact ⟨mapping, [], rfl, rfl, kept_refl mapping⟩
  | cons first rest ih =>
      obtain ⟨sender, middle, done, device, still, kept⟩ :=
        exchange_refines lawful first.requests first.responses addressed hears loud cleanBits
          cleanInputs (above first (List.mem_cons_self ..)) first.stale
      have later : ∀ call ∈ rest, call.command.Above middle := fun call member =>
        above_of_kept kept (above call (List.mem_cons_of_mem _ member))
      obtain ⟨left, results, ran, same, whole⟩ :=
        ih still (kept.clean cleanBits) (kept.inputBits ▸ cleanInputs) later
      refine ⟨left, (first.command.run mapping.device).2 :: results, ?_, ?_, kept_trans kept whole⟩
      · rw [exchanges, done, Option.bind_some]
        dsimp only
        rw [ran]
        rfl
      · rw [List.map_cons, commandsRun, ← device, same]

/-- Over a run of calls, no write and read of which begins below the registers, the caller sees
the device, whatever pieces the line makes of the messages and whatever else the server's buffer
holds. -/
theorem exchanges_refine {server client : Context} {slave : UInt8}
    (addressed : client.slave = some slave) (hears : backend.Hears server slave)
    (loud : ¬ (backend.rtu = true ∧ slave = broadcastAddress)) {mapping : Mapping}
    (cleanBits : Clean mapping.bits) (cleanInputs : Clean mapping.inputBits)
    {calls : List (LineCall backend)} (above : ∀ call ∈ calls, call.command.Above mapping) :
    (exchanges backend server client mapping calls).map (fun run => (run.1.device, run.2)) =
      some (commandsRun mapping.device (calls.map LineCall.command)) := by
  obtain ⟨left, results, ran, same, -⟩ :=
    exchanges_served lawful addressed hears loud cleanBits cleanInputs above
  rw [ran, same, Option.map_some]

end Calls

/-! ### What a run leaves of a write -/

/-- The command writes none of the registers of a range. -/
def Command.Spares (address count : Nat) : Command → Prop
  | .writeRegister addr _ => Apart (wireWord addr) 1 address count
  | .writeRegisters addr nb _ => Apart (wireWord addr) nb address count
  | .maskWriteRegister addr _ _ => Apart (wireWord addr) 1 address count
  | .writeAndReadRegisters writeAddr writeNb _ _ _ =>
      Apart (wireWord writeAddr) writeNb address count
  | _ => True

theorem write_to_holding {device : Device} {maxNb : Int} {place : Nat} {values : List UInt16}
    {address count : Nat} (apart : Apart place values.length address count) :
    readRange (device.writeTo device.holding maxNb place values fun holding =>
        { device with holding := holding }).1.holding address count =
      readRange device.holding address count := by
  rw [Device.writeTo]
  split
  · rfl
  · exact read_write_apart apart

theorem write_one_holding {device : Device} {place : Nat} {value : UInt16 → Option UInt16}
    {address count : Nat} (apart : Apart place 1 address count) :
    readRange (device.writeOne device.holding place value fun holding =>
        { device with holding := holding }).1.holding address count =
      readRange device.holding address count := by
  rw [Device.writeOne]
  split
  · rfl
  · split
    · rfl
    · exact read_write_apart apart

theorem coils_holding {device : Device} {maxNb : Int} {place : Nat} {values : List Bool} :
    (device.writeTo device.coils maxNb place values fun coils =>
      { device with coils := coils }).1.holding = device.holding := by
  rw [Device.writeTo]
  split <;> rfl

theorem spared_registers {command : Command} {address count : Nat}
    (spares : command.Spares address count) (device : Device) :
    readRange (command.run device).1.holding address count =
      readRange device.holding address count := by
  rw [Command.run]
  split
  · rfl
  · cases command with
    | readBits input addr nb => rfl
    | readRegisters input addr nb => rfl
    | writeBit addr status' =>
        dsimp only [Command.request, Device.serve, Device.writeOne]
        split <;> rfl
    | writeRegister addr value => exact write_one_holding spares
    | writeBits addr nb src =>
        dsimp only [Command.request, Device.serve]
        rw [coils_holding]
    | writeRegisters addr nb src => exact write_to_holding (by rw [src_values_length]; exact spares)
    | maskWriteRegister addr andMask orMask => exact write_one_holding spares
    | writeAndReadRegisters writeAddr writeNb src readAddr readNb =>
        dsimp only [Command.request, Device.serve, Device.exchange]
        split
        · rfl
        · split
          · rfl
          · exact read_write_apart (by rw [src_values_length]; exact spares)
    | reportSlaveId maxDest => rfl

theorem commands_run_append (device : Device) (first second : List Command) :
    commandsRun device (first ++ second) =
      ((commandsRun (commandsRun device first).1 second).1,
        (commandsRun device first).2 ++ (commandsRun (commandsRun device first).1 second).2) := by
  induction first generalizing device with
  | nil => rfl
  | cons command rest ih => rw [List.cons_append, commandsRun, ih, commandsRun]; rfl

theorem spared_run {commands : List Command} {address count : Nat}
    (spares : ∀ command ∈ commands, command.Spares address count) (device : Device) :
    readRange (commandsRun device commands).1.holding address count =
      readRange device.holding address count := by
  induction commands generalizing device with
  | nil => rfl
  | cons command rest ih =>
      have later : ∀ other ∈ rest, other.Spares address count := fun other member =>
        spares other (List.mem_cons_of_mem _ member)
      rw [commandsRun]
      dsimp only
      rw [ih later, spared_registers (spares command (List.mem_cons_self ..))]

/-! ### Holding registers -/

section Holding

variable (device : Device) {addr : Int} {nb : Nat}

theorem read_present {values : List UInt16} (some : 1 ≤ nb) (few : nb ≤ 125)
    (present : readRange device.holding (wireWord addr) nb = .some values) :
    (Command.readRegisters false addr nb).run device =
      (device, .ok { rc := nb, bits := [], registers := values }) := by
  have reads : (Command.readRegisters false addr nb).unsent = none :=
    if_neg (by rw [maxReadRegisters]; omega)
  have allowed : ¬ ((nb : Int) < 1 ∨ maxReadRegisters < nb) := by
    rw [maxReadRegisters]
    omega
  have space : device.registerSpace false = device.holding := rfl
  rw [Command.run, reads]
  dsimp only [Command.request, Device.serve, Device.readFrom]
  rw [space, not_refused allowed present, present, Option.getD_none, Option.getD_some,
    Response.outcome, read_length present]

theorem read_absent (absent : ¬ (1 ≤ nb ∧ nb ≤ 125 ∧
      (readRange device.holding (wireWord addr) nb).isSome)) :
    ∃ errno, (Command.readRegisters false addr nb).run device = (device, .error errno) := by
  rw [Command.run]
  cases within : (Command.readRegisters false addr nb).unsent with
  | some errno => exact ⟨errno, rfl⟩
  | none =>
      have few := few_registers within
      have space : device.registerSpace false = device.holding := rfl
      dsimp only [Command.request, Device.serve, Device.readFrom]
      rw [space]
      by_cases some : 1 ≤ nb
      · have missing : readRange device.holding (wireWord addr) nb = none := by
          rw [← Option.not_isSome_iff_eq_none]
          exact fun present => absent ⟨some, few, present⟩
        rw [refused_address (by rw [maxReadRegisters]; omega) missing, Option.getD_some]
        exact ⟨_, rfl⟩
      · rw [refused_quantity _ (by omega), Option.getD_some]
        exact ⟨_, rfl⟩

theorem write_present (src : List UInt16) (some : 1 ≤ nb) (few : nb ≤ 123)
    (room : (readRange device.holding (wireWord addr) nb).isSome) :
    (Command.writeRegisters addr nb src).run device =
      ({ device with holding := writeRange device.holding (wireWord addr) (srcValues src nb) },
        .ok (returned nb)) := by
  obtain ⟨old, present⟩ := Option.isSome_iff_exists.mp room
  have length := src_values_length src nb
  have unsent : (Command.writeRegisters addr nb src).unsent = none :=
    if_neg (by rw [maxWriteRegisters]; omega)
  have right : ¬ ((nb : Int) < 1 ∨ maxWriteRegisters < nb) := by
    rw [maxWriteRegisters]
    omega
  rw [Command.run, unsent]
  dsimp only [Command.request, Device.serve, Device.writeTo]
  rw [length, not_refused right present]
  rfl

theorem write_absent (src : List UInt16) (absent : ¬ (1 ≤ nb ∧ nb ≤ 123 ∧
      (readRange device.holding (wireWord addr) nb).isSome)) :
    ∃ errno, (Command.writeRegisters addr nb src).run device = (device, .error errno) := by
  have length := src_values_length src nb
  rw [Command.run]
  cases within : (Command.writeRegisters addr nb src).unsent with
  | some errno => exact ⟨errno, rfl⟩
  | none =>
      have few := few_written_registers within
      dsimp only [Command.request, Device.serve, Device.writeTo]
      rw [length]
      by_cases some : 1 ≤ nb
      · have missing : readRange device.holding (wireWord addr) nb = none := by
          rw [← Option.not_isSome_iff_eq_none]
          exact fun present => absent ⟨some, few, present⟩
        rw [refused_address (by rw [maxWriteRegisters]; omega) missing]
        exact ⟨_, rfl⟩
      · rw [refused_quantity _ (by omega)]
        exact ⟨_, rfl⟩

end Holding

/-- Registers that were written are there, and a run that spares them leaves them there. -/
theorem write_then_read (device : Device) {addr : Int} {nb : Nat} (src : List UInt16)
    (some : 1 ≤ nb) (few : nb ≤ 123)
    (room : (readRange device.holding (wireWord addr) nb).isSome) {others : List Command}
    (spares : ∀ command ∈ others, command.Spares (wireWord addr) nb) :
    ∃ results, (commandsRun device
        (.writeRegisters addr nb src :: (others ++ [.readRegisters false addr nb]))).2 =
      results ++ [.ok { rc := nb, bits := [], registers := srcValues src nb }] := by
  have wrote := write_present device src some few room
  have stored : readRange ((Command.writeRegisters addr nb src).run device).1.holding
      (wireWord addr) nb = Option.some (srcValues src nb) := by
    have back := read_write device.holding (wireWord addr) (srcValues src nb)
    rw [src_values_length] at back
    rw [wrote]
    exact back
  have still : readRange (commandsRun ((Command.writeRegisters addr nb src).run device).1
      others).1.holding (wireWord addr) nb = Option.some (srcValues src nb) := by
    rw [spared_run spares, stored]
  refine ⟨((Command.writeRegisters addr nb src).run device).2 ::
    (commandsRun ((Command.writeRegisters addr nb src).run device).1 others).2, ?_⟩
  rw [commandsRun, commands_run_append]
  dsimp only
  rw [commandsRun, read_present _ some (by omega) still]
  rfl

section Written

variable {backend : Backend} (lawful : backend.Lawful)
include lawful

/-- Over the line, too, a read returns the registers that were written last. -/
theorem written_read_over_line {server client : Context} {slave : UInt8}
    (addressed : client.slave = some slave) (hears : backend.Hears server slave)
    (loud : ¬ (backend.rtu = true ∧ slave = broadcastAddress)) {mapping : Mapping}
    (cleanBits : Clean mapping.bits) (cleanInputs : Clean mapping.inputBits) {addr : Int} {nb : Nat}
    {src : List UInt16} (some : 1 ≤ nb) (few : nb ≤ 123)
    (room : (readRange mapping.registers.space (wireWord addr) nb).isSome)
    {write read : LineCall backend} (writes : write.command = .writeRegisters addr nb src)
    (reads : read.command = .readRegisters false addr nb) {others : List (LineCall backend)}
    (above : ∀ call ∈ others, call.command.Above mapping)
    (spares : ∀ call ∈ others, call.command.Spares (wireWord addr) nb) :
    ∃ left results, exchanges backend server client mapping (write :: (others ++ [read])) =
      Option.some (left,
        results ++ [.ok { rc := nb, bits := [], registers := srcValues src nb }]) := by
  have allAbove : ∀ call ∈ write :: (others ++ [read]), call.command.Above mapping := by
    intro call member
    rcases List.mem_cons.mp member with rfl | behind
    · rw [writes]
      trivial
    · rcases List.mem_append.mp behind with inside | final
      · exact above call inside
      · rw [List.mem_singleton] at final
        rw [final, reads]
        trivial
  obtain ⟨left, results, ran, same, -⟩ := exchanges_served lawful addressed hears loud cleanBits
    cleanInputs allAbove
  rw [List.map_cons, List.map_append, List.map_singleton, writes, reads] at same
  have sparing : ∀ command ∈ others.map LineCall.command, command.Spares (wireWord addr) nb := by
    intro command member
    obtain ⟨call, inside, rfl⟩ := List.mem_map.mp member
    exact spares call inside
  obtain ⟨before, whole⟩ := write_then_read mapping.device src some few room sparing
  refine ⟨left, before, ?_⟩
  rw [ran, ← whole]
  exact congrArg (fun run => Option.some (left, run.2)) same.symm

end Written

def piecemeal (command : Command) (stale : List UInt8) : LineCall rtuBackend where
  command := command
  stale := stale
  requests := .bytewise rtuBackend .indication
  responses := .bytewise rtuBackend .confirmation

theorem registers_written_and_read :
    (exchanges rtuBackend { slave := some 5, tid := 0 } { slave := some 5, tid := 0 }
        (modbusMappingNewStartAddress 0 4 0 4 0 4 0 4)
        [piecemeal (.writeRegisters 1 2 [7, 9]) [],
          piecemeal (.readRegisters false 0 4) [1, 2]]).map (fun run => (run.1.device, run.2)) =
      some (commandsRun (modbusMappingNewStartAddress 0 4 0 4 0 4 0 4).device
        ([piecemeal (.writeRegisters 1 2 [7, 9]) [],
          piecemeal (.readRegisters false 0 4) [1, 2]].map LineCall.command)) := by
  refine exchanges_refine rtu_lawful rfl (rtu_lawful.accepted _ 5 (.inl rfl)) (by decide)
    (new_mapping_clean ..).1 (new_mapping_clean ..).2 ?_
  intro call member
  rcases List.mem_cons.mp member with rfl | member
  · trivial
  · rw [List.mem_singleton] at member
    subst member
    trivial

theorem register_read_back :
    ∃ left results, exchanges rtuBackend { slave := some 5, tid := 0 }
        { slave := some 5, tid := 0 } (modbusMappingNewStartAddress 0 4 0 4 0 4 0 4)
        (piecemeal (.writeRegisters 1 1 [7]) [] ::
          ([piecemeal (.writeRegister 2 9) []] ++ [piecemeal (.readRegisters false 1 1) []])) =
      some (left, results ++ [.ok { rc := 1, bits := [], registers := srcValues [7] 1 }]) := by
  refine written_read_over_line rtu_lawful rfl (rtu_lawful.accepted _ 5 (.inl rfl)) (by decide)
    (new_mapping_clean ..).1 (new_mapping_clean ..).2 (by decide) (by decide) (by decide) rfl rfl
    ?_ ?_
  · intro call member
    rw [List.mem_singleton] at member
    subst member
    trivial
  · intro call member
    rw [List.mem_singleton] at member
    subst member
    exact .inr (by decide)

end DevHub.Modbus
