import DevHub.Library.Run
import DevHub.Plc.Event

/-!
`FinsPlcProxy` and `ModbusRtuPlcProxy`: the connection status beside the handle of the
library. A read or a write comes from an event of the machine, which looks at the status
first. `emitted` lists the calls into the library that the last callback made.
-/

namespace DevHub.PlcProxy

open PlcEvent (PlcProtocol ConnectionStatus)
open Transition

set_option autoImplicit false

structure SerialParameter where
  baud : Int
  parity : Char
  dataBit : Int
  stopBit : Int

/-- `serial` is `m_serial`, which a FINS machine leaves null. -/
structure MachineContex where
  serial : Option SerialParameter

/-- The allocations of `modbus_new_rtu` that succeed. -/
structure Mallocs where
  context : Bool
  backendData : Bool
  device : Bool

/-- The outcome of a call: what `finslib_tcp_connect` answers, what memory there is for
`modbus_new_rtu`, and whether a transfer succeeds. -/
structure Outcome where
  sys : Option Nat
  errorVal : Int
  mallocs : Mallocs
  context : Nat
  transferred : Bool

/-- `modbus_new_rtu`; `context` is the address of the new context. -/
def modbusNewRtu (device : String) (serial : SerialParameter) (mallocs : Mallocs)
    (context : Nat) : Option Nat :=
  if device = "" then none
  else if serial.baud = 0 then none
  else if mallocs.context = false then none
  else if mallocs.backendData = false then none
  else if mallocs.device = false then none
  else if serial.parity = 'N' ∨ serial.parity = 'E' ∨ serial.parity = 'O' then some context
  else none

inductive LibraryCall where
  | connect
  | transfer (handle : Option Nat)
  | disconnect (handle : Option Nat)
  deriving DecidableEq

structure Proxy where
  connectionStatus : ConnectionStatus
  plcConnectHandle : Option Nat
  contex : Option MachineContex
  emitted : List LibraryCall

def Proxy.new : Proxy where
  connectionStatus := .connectNo
  plcConnectHandle := none
  contex := none
  emitted := []

/-- `address` says whether `stoi` takes the address, which only the Modbus proxy asks. -/
inductive Event where
  | plcConnect (contex : Option MachineContex) (outcome : Outcome)
  | onTimer (outcome : Outcome)
  | plcReadWorlds (address : Bool) (outcome : Outcome)
  | plcWriteWorlds (address : Bool) (outcome : Outcome)

def emit (proxy : Proxy) (libraryCall : LibraryCall) : Proxy :=
  { proxy with emitted := proxy.emitted ++ [libraryCall] }

def finsConnect (proxy : Proxy) (contex : Option MachineContex) (outcome : Outcome) : Proxy :=
  match contex with
  | none => proxy
  | some contex =>
      let known := { proxy with contex := some contex }
      if known.connectionStatus = .connectOk then known
      else
        let connecting := emit known .connect
        if outcome.sys = none ∨ outcome.errorVal ≠ 0 then
          { connecting with plcConnectHandle := none }
        else { connecting with plcConnectHandle := outcome.sys, connectionStatus := .connectOk }

/-- `ModbusRtuPlcProxy::PlcConnect`, which follows `mc` before it looks whether it is null.
The three settings accept a null context. -/
def modbusConnect (device : String) (proxy : Proxy) (contex : Option MachineContex)
    (outcome : Outcome) : Option Proxy :=
  contex.map fun contex =>
    match contex.serial with
    | none => proxy
    | some serial =>
        let known := { proxy with contex := some contex }
        if known.connectionStatus = .connectOk then known
        else
          { emit known .connect with
            plcConnectHandle := modbusNewRtu device serial outcome.mallocs outcome.context
            connectionStatus := .connectOk }

def plcConnect (pro : PlcProtocol) (device : String) (proxy : Proxy)
    (contex : Option MachineContex) (outcome : Outcome) : Option Proxy :=
  match pro with
  | .fins => some (finsConnect proxy contex outcome)
  | .rtu => modbusConnect device proxy contex outcome

def onTimer (pro : PlcProtocol) (device : String) (proxy : Proxy) (outcome : Outcome) :
    Option Proxy :=
  if proxy.plcConnectHandle = none then
    match proxy.contex with
    | none => some proxy
    | some contex => plcConnect pro device proxy (some contex) outcome
  else some proxy

def onDisconnect (proxy : Proxy) : Proxy :=
  { emit proxy (.disconnect proxy.plcConnectHandle) with
    plcConnectHandle := none
    connectionStatus := .connectNo }

/-- `PlcReadWorlds` and `PlcWriteWorlds` behind the look at the status. Only the FINS proxy
drops the connection when a transfer fails. -/
def transfer (pro : PlcProtocol) (proxy : Proxy) (address : Bool) (outcome : Outcome) : Proxy :=
  if proxy.connectionStatus = .connectNo then proxy
  else
    match pro with
    | .fins =>
        let called := emit proxy (.transfer proxy.plcConnectHandle)
        if outcome.transferred then called else onDisconnect called
    | .rtu => if address then emit proxy (.transfer proxy.plcConnectHandle) else proxy

def step (pro : PlcProtocol) (device : String) : Step Proxy Event
  | proxy, event =>
      let quiet := { proxy with emitted := [] }
      match event with
      | .plcConnect contex outcome => plcConnect pro device quiet contex outcome
      | .onTimer outcome => onTimer pro device quiet outcome
      | .plcReadWorlds address outcome => some (transfer pro quiet address outcome)
      | .plcWriteWorlds address outcome => some (transfer pro quiet address outcome)

/-! ### The connection state -/

def Matches (proxy : Proxy) : Prop :=
  proxy.connectionStatus = .connectOk ↔ proxy.plcConnectHandle ≠ none

/-- The call does not use a null handle. -/
def LibraryCall.sound : LibraryCall → Prop
  | .connect => True
  | .transfer handle => handle ≠ none
  | .disconnect handle => handle ≠ none

/-- Status and handle agree; no transfer used a null handle; and a reconnect tick of a
proxy without a handle tried to connect it, once a machine had been given. -/
structure Consistent (before : Proxy) (event : Event) (after : Proxy) : Prop where
  agree : Matches after
  calls : ∀ libraryCall ∈ after.emitted, libraryCall.sound
  retried : ∀ outcome, event = .onTimer outcome → before.plcConnectHandle = none →
    before.contex ≠ none → .connect ∈ after.emitted

/-- The conditions under which `modbus_new_rtu` makes a context. -/
structure Usable (device : String) (serial : SerialParameter) (mallocs : Mallocs) : Prop where
  device : device ≠ ""
  baud : serial.baud ≠ 0
  memory : mallocs.context = true ∧ mallocs.backendData = true ∧ mallocs.device = true
  parity : serial.parity = 'N' ∨ serial.parity = 'E' ∨ serial.parity = 'O'

/-- A Modbus proxy that opens its line finds it usable. -/
def Opens (pro : PlcProtocol) (device : String) (proxy : Proxy) : Event → Prop
  | .plcConnect contex outcome => pro = .rtu → proxy.connectionStatus = .connectNo →
      ∀ given serial, contex = some given → given.serial = some serial →
        Usable device serial outcome.mallocs
  | .onTimer outcome => pro = .rtu → proxy.connectionStatus = .connectNo →
      ∀ given serial, proxy.contex = some given → given.serial = some serial →
        Usable device serial outcome.mallocs
  | _ => True

theorem modbus_new_rtu_usable {device : String} {serial : SerialParameter} {mallocs : Mallocs}
    (context : Nat) :
    modbusNewRtu device serial mallocs context ≠ none ↔ Usable device serial mallocs := by
  unfold modbusNewRtu
  constructor
  · intro made
    split at made
    · exact absurd rfl made
    · rename_i device
      split at made
      · exact absurd rfl made
      · rename_i baud
        split at made
        · exact absurd rfl made
        · rename_i first
          split at made
          · exact absurd rfl made
          · rename_i second
            split at made
            · exact absurd rfl made
            · rename_i third
              split at made
              · rename_i parity
                have memory : mallocs.context = true ∧ mallocs.backendData = true ∧
                    mallocs.device = true :=
                  ⟨by simpa using first, by simpa using second, by simpa using third⟩
                exact ⟨device, baud, memory, parity⟩
              · exact absurd rfl made
  · intro usable
    obtain ⟨device, baud, ⟨first, second, third⟩, parity⟩ := usable
    simp [device, baud, first, second, third, parity]

/-! ### Steps -/

/-- Status and handle agree, no call used a null handle, and a Modbus proxy knows the line
of its machine. -/
structure Sound (pro : PlcProtocol) (proxy : Proxy) : Prop where
  agree : Matches proxy
  calls : ∀ libraryCall ∈ proxy.emitted, libraryCall.sound
  serial : pro = .rtu → ∀ contex, proxy.contex = some contex → contex.serial ≠ none

theorem append_sound {calls : List LibraryCall} (last : LibraryCall)
    (earlier : ∀ libraryCall ∈ calls, libraryCall.sound) (sound : last.sound) :
    ∀ libraryCall ∈ calls ++ [last], libraryCall.sound :=
  List.forall_mem_append.mpr ⟨earlier, List.forall_mem_singleton.mpr sound⟩

theorem sound_quiet {pro : PlcProtocol} {proxy : Proxy} (sound : Sound pro proxy) :
    Sound pro { proxy with emitted := [] } where
  agree := sound.agree
  calls := by
    intro libraryCall member
    cases member
  serial := sound.serial

theorem fins_connect_sound {proxy : Proxy} (contex : Option MachineContex) (outcome : Outcome)
    (sound : Sound .fins proxy) : Sound .fins (finsConnect proxy contex outcome) := by
  have serial (after : Proxy) (same : PlcProtocol.fins = .rtu) (contex : MachineContex)
      (_ : after.contex = some contex) : contex.serial ≠ none := nomatch same
  unfold finsConnect
  cases contex with
  | none => exact sound
  | some contex =>
      dsimp only
      split
      · exact ⟨sound.agree, sound.calls, serial _⟩
      · rename_i offline
        have calls := append_sound .connect sound.calls trivial
        split
        · refine ⟨?_, calls, serial _⟩
          exact iff_of_false offline (fun handle => handle rfl)
        · rename_i connected
          refine ⟨?_, calls, serial _⟩
          exact iff_of_true rfl fun null => connected (Or.inl null)

theorem modbus_connect_sound {device : String} {proxy after : Proxy}
    {contex : Option MachineContex} {outcome : Outcome} (sound : Sound .rtu proxy)
    (opens : proxy.connectionStatus = .connectNo → ∀ given serial, contex = some given →
      given.serial = some serial → Usable device serial outcome.mallocs)
    (returned : modbusConnect device proxy contex outcome = some after) : Sound .rtu after := by
  obtain ⟨given, same, result⟩ := Option.map_eq_some_iff.mp returned
  cases line : given.serial with
  | none =>
      simp only [line] at result
      exact result ▸ sound
  | some serial =>
      have known (_ : PlcProtocol.rtu = .rtu) (contex : MachineContex)
          (stored : some given = some contex) : contex.serial ≠ none := by
        cases stored
        simp [line]
      simp only [line] at result
      split at result
      · cases result
        exact ⟨sound.agree, sound.calls, known⟩
      · rename_i offline
        cases result
        have closed : proxy.connectionStatus = .connectNo := by
          cases status : proxy.connectionStatus with
          | connectOk => exact absurd status offline
          | connectNo => rfl
        have usable := opens closed given serial same line
        refine ⟨?_, append_sound .connect sound.calls trivial, known⟩
        exact iff_of_true rfl ((modbus_new_rtu_usable outcome.context).mpr usable)

theorem plc_connect_sound {pro : PlcProtocol} {device : String} {proxy after : Proxy}
    {contex : Option MachineContex} {outcome : Outcome} (sound : Sound pro proxy)
    (opens : Opens pro device proxy (.plcConnect contex outcome))
    (returned : plcConnect pro device proxy contex outcome = some after) : Sound pro after := by
  cases pro with
  | fins =>
      cases returned
      exact fins_connect_sound contex outcome sound
  | rtu => exact modbus_connect_sound sound (opens rfl) returned

theorem on_timer_sound {pro : PlcProtocol} {device : String} {proxy after : Proxy}
    {outcome : Outcome} (sound : Sound pro proxy)
    (opens : Opens pro device proxy (.onTimer outcome))
    (returned : onTimer pro device proxy outcome = some after) : Sound pro after := by
  unfold onTimer at returned
  split at returned
  · cases known : proxy.contex with
    | none =>
        simp only [known] at returned
        cases returned
        exact sound
    | some contex =>
        simp only [known] at returned
        apply plc_connect_sound sound _ returned
        intro rtu offline given serial same line
        exact opens rtu offline given serial (known.trans same) line
  · cases returned
    exact sound

theorem transfer_sound {pro : PlcProtocol} {proxy : Proxy} (address : Bool) (outcome : Outcome)
    (sound : Sound pro proxy) : Sound pro (transfer pro proxy address outcome) := by
  unfold transfer
  split
  · exact sound
  · rename_i online
    have connected : proxy.connectionStatus = .connectOk := by
      cases status : proxy.connectionStatus with
      | connectOk => rfl
      | connectNo => exact absurd status online
    have handle := sound.agree.mp connected
    have calls := append_sound (.transfer proxy.plcConnectHandle) sound.calls handle
    cases pro with
    | fins =>
        dsimp only
        split
        · exact ⟨sound.agree, calls, sound.serial⟩
        · refine ⟨?_, append_sound (.disconnect proxy.plcConnectHandle) calls handle, sound.serial⟩
          exact iff_of_false (fun online => nomatch online) (fun handle => handle rfl)
    | rtu =>
        dsimp only
        split
        · exact ⟨sound.agree, calls, sound.serial⟩
        · exact sound

theorem step_sound {pro : PlcProtocol} {device : String} {proxy next : Proxy} {event : Event}
    (sound : Sound pro proxy) (opens : Opens pro device proxy event)
    (taken : step pro device proxy event = some next) : Sound pro next := by
  have quiet := sound_quiet sound
  cases event with
  | plcConnect contex outcome => exact plc_connect_sound quiet opens taken
  | onTimer outcome => exact on_timer_sound quiet opens taken
  | plcReadWorlds address outcome =>
      cases taken
      exact transfer_sound address outcome quiet
  | plcWriteWorlds address outcome =>
      cases taken
      exact transfer_sound address outcome quiet

/-- A proxy without a handle is offline, so the tick gets to the library. -/
theorem tick_retries {pro : PlcProtocol} {device : String} {proxy next : Proxy}
    {outcome : Outcome} (sound : Sound pro proxy) (null : proxy.plcConnectHandle = none)
    (given : proxy.contex ≠ none)
    (taken : step pro device proxy (.onTimer outcome) = some next) : .connect ∈ next.emitted := by
  obtain ⟨contex, known⟩ := Option.ne_none_iff_exists'.mp given
  have offline : proxy.connectionStatus ≠ .connectOk := fun online => sound.agree.mp online null
  simp only [step, onTimer, null, if_true, known] at taken
  cases pro with
  | fins =>
      simp only [plcConnect, finsConnect, if_neg offline] at taken
      split at taken
      · cases taken
        exact List.mem_singleton_self _
      · cases taken
        exact List.mem_singleton_self _
  | rtu =>
      obtain ⟨serial, line⟩ := Option.ne_none_iff_exists'.mp (sound.serial rfl contex known)
      simp only [plcConnect, modbusConnect, Option.map_some, line, if_neg offline] at taken
      cases taken
      exact List.mem_singleton_self _

theorem step_consistent {pro : PlcProtocol} {device : String} {proxy next : Proxy} {event : Event}
    (sound : Sound pro proxy) (opens : Opens pro device proxy event)
    (taken : step pro device proxy event = some next) : Consistent proxy event next := by
  have after := step_sound sound opens taken
  refine ⟨after.agree, after.calls, ?_⟩
  intro outcome same null given
  subst same
  exact tick_retries sound null given taken

theorem modbus_connect_unusable {device : String} {proxy after : Proxy} {given : MachineContex}
    {serial : SerialParameter} {outcome : Outcome}
    (returned : modbusConnect device proxy (some given) outcome = some after)
    (offline : proxy.connectionStatus = .connectNo) (line : given.serial = some serial)
    (unusable : ¬ Usable device serial outcome.mallocs) : ¬ Matches after := by
  have null : modbusNewRtu device serial outcome.mallocs outcome.context = none :=
    not_not.mp fun made => unusable ((modbus_new_rtu_usable outcome.context).mp made)
  simp only [modbusConnect, Option.map_some, line, offline, null, reduceCtorEq, if_false,
    Option.some.injEq] at returned
  subst returned
  intro agree
  exact agree.mp rfl rfl

theorem step_inconsistent {pro : PlcProtocol} {device : String} {proxy next : Proxy} {event : Event}
    (sound : Sound pro proxy) (closed : ¬ Opens pro device proxy event)
    (taken : step pro device proxy event = some next) : ¬ Consistent proxy event next := by
  intro consistent
  cases event with
  | plcConnect contex outcome =>
      simp only [Opens, Classical.not_imp, not_forall] at closed
      obtain ⟨rtu, offline, given, serial, same, line, unusable⟩ := closed
      subst rtu same
      exact modbus_connect_unusable taken offline line unusable consistent.agree
  | onTimer outcome =>
      simp only [Opens, Classical.not_imp, not_forall] at closed
      obtain ⟨rtu, offline, given, serial, known, line, unusable⟩ := closed
      subst rtu
      have null : proxy.plcConnectHandle = none := by
        by_contra handle
        have online := sound.agree.mpr handle
        rw [offline] at online
        cases online
      simp only [step, onTimer, null, if_true, known] at taken
      exact modbus_connect_unusable taken offline line unusable consistent.agree
  | plcReadWorlds address outcome => exact closed trivial
  | plcWriteWorlds address outcome => exact closed trivial

/-- In every run of a proxy, status and handle agree, no transfer uses a null handle and a
proxy without a handle is tried again, exactly when a Modbus proxy opens usable lines only. -/
theorem consistent_iff_opens (pro : PlcProtocol) (device : String) (events : List Event) :
    EachStep (step pro device) Consistent Proxy.new events ↔
      Guarded (step pro device) (Opens pro device) Proxy.new events := by
  have keeps (proxy : Proxy) (event : Event) (next : Proxy) (sound : Sound pro proxy)
      (opens : Opens pro device proxy event) (taken : step pro device proxy event = some next) :
      Sound pro next ∧ Consistent proxy event next :=
    ⟨step_sound sound opens taken, step_consistent sound opens taken⟩
  have breaks (proxy : Proxy) (event : Event) (next : Proxy) (sound : Sound pro proxy)
      (closed : ¬ Opens pro device proxy event)
      (taken : step pro device proxy event = some next) : ¬ Consistent proxy event next :=
    step_inconsistent sound closed taken
  have start : Sound pro Proxy.new := by
    refine ⟨iff_of_false (fun online => nomatch online) (fun handle => handle rfl), ?_, ?_⟩
    · intro libraryCall member
      cases member
    · intro _ contex known
      cases known
  exact each_step_iff_guarded keeps breaks start

def markLine : SerialParameter where
  baud := 9600
  parity := 'M'
  dataBit := 8
  stopBit := 1

/-- The parity `Mark` of the configuration. -/
theorem mark_parity_online :
    ¬ EachStep (step .rtu "/dev/ttyS1") Consistent Proxy.new
        [.plcConnect (some { serial := some markLine })
          { sys := none, errorVal := 0, mallocs := ⟨true, true, true⟩, context := 1,
            transferred := true }] := by
  intro consistent
  have agree := (consistent _ rfl).1.agree
  apply modbus_connect_unusable rfl rfl rfl _ agree
  intro usable
  exact absurd usable.parity (by decide)

end DevHub.PlcProxy
