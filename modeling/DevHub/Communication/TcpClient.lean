import DevHub.Library.Run

/-!
`TcpClient`: its connector, its connection and its reconnect timer, beside the objects
that exist. A connector whose `m_connectEvent` is added is in `connecting`; libevent calls
it back once, with a connection or with an error or timeout. A tick is any call of
`OnTimer`, also one for a timer that was cancelled.
-/

namespace DevHub.UpstreamClient

open Transition

set_option autoImplicit false

structure TimerId where
  value : Int
  valid : value ≠ -1

/-- `connectors`, `connecting` and `connections` are the objects that were made and not
deleted; the next one gets the number `created`. -/
structure TcpClient where
  connector : Option Nat
  connection : Option Nat
  timerReconn : Int
  connectors : List Nat
  connecting : List Nat
  connections : List Nat
  created : Nat

inductive Event where
  | onConnectResult (connector : Nat) (error : Bool) (scheduled : TimerId)
  | onDisconnect (connection : Nat) (scheduled : TimerId)
  | onTimer (tid : TimerId)

/-- `new Connector` and `ConnectorImp::Connect`. `StrToAddress` fails for a null pointer
only, so the connect event is always added. -/
def connect (client : TcpClient) : TcpClient :=
  match client.connector with
  | some _ => client
  | none =>
      { client with
        connector := some client.created
        connectors := client.connectors ++ [client.created]
        connecting := client.connecting ++ [client.created]
        created := client.created + 1 }

def TcpClient.new : TcpClient :=
  connect {
    connector := none
    connection := none
    timerReconn := -1
    connectors := []
    connecting := []
    connections := []
    created := 0 }

def deleteConnector (client : TcpClient) : TcpClient :=
  { client with
    connector := none
    connectors := client.connectors.filter fun other => some other ≠ client.connector
    connecting := client.connecting.filter fun other => some other ≠ client.connector }

def deleteConnection (client : TcpClient) : TcpClient :=
  { client with
    connection := none
    connections := client.connections.filter fun other => some other ≠ client.connection }

def scheduleReconnect (client : TcpClient) (scheduled : TimerId) : TcpClient :=
  if client.timerReconn = -1 then { client with timerReconn := scheduled.value } else client

/-- `OnConnection`; `conn` is the connection that the connector made, if any. -/
def onConnection (client : TcpClient) (conn : Option Nat) (scheduled : TimerId) : TcpClient :=
  match conn with
  | some conn => deleteConnector { client with connection := some conn }
  | none => scheduleReconnect (deleteConnector client) scheduled

/-- The callback of a connect event, which is no longer added then. -/
def onConnectResult (client : TcpClient) (connector : Nat) (error : Bool) (scheduled : TimerId) :
    TcpClient :=
  let fired := { client with connecting := client.connecting.filter fun other => other ≠ connector }
  if error then onConnection fired none scheduled
  else
    onConnection
      { fired with
        connections := fired.connections ++ [fired.created]
        created := fired.created + 1 }
      (some fired.created) scheduled

def onDisconnect (client : TcpClient) (scheduled : TimerId) : TcpClient :=
  scheduleReconnect (deleteConnector (deleteConnection client)) scheduled

def onTimer (client : TcpClient) (tid : TimerId) : TcpClient :=
  if tid.value = client.timerReconn then connect { client with timerReconn := -1 } else client

def step : Step TcpClient Event
  | client, .onConnectResult connector error scheduled =>
      if connector ∈ client.connecting then
        some (onConnectResult client connector error scheduled)
      else none
  | client, .onDisconnect connection scheduled =>
      if connection ∈ client.connections then some (onDisconnect client scheduled) else none
  | client, .onTimer tid => some (onTimer client tid)

/-! ### Connectivity -/

def Held (client : TcpClient) : Prop :=
  client.connection ≠ none ∧ client.connector = none ∧ client.timerReconn = -1

def Attempting (client : TcpClient) : Prop :=
  client.connector ≠ none ∧ client.connection = none ∧ client.timerReconn = -1

def Armed (client : TcpClient) : Prop :=
  client.timerReconn ≠ -1 ∧ client.connection = none ∧ client.connector = none

/-- Exactly one of the three holds; the objects that exist are those that the client points
to, and its connector is waiting for a result. -/
structure Connected (client : TcpClient) : Prop where
  one : (Held client ∧ ¬ Attempting client ∧ ¬ Armed client) ∨
    (¬ Held client ∧ Attempting client ∧ ¬ Armed client) ∨
    (¬ Held client ∧ ¬ Attempting client ∧ Armed client)
  connections : client.connections = client.connection.toList
  connectors : client.connectors = client.connector.toList
  connecting : client.connecting = client.connector.toList

def heldClient (connection created : Nat) : TcpClient where
  connector := none
  connection := some connection
  timerReconn := -1
  connectors := []
  connecting := []
  connections := [connection]
  created := created

def attemptingClient (connector created : Nat) : TcpClient where
  connector := some connector
  connection := none
  timerReconn := -1
  connectors := [connector]
  connecting := [connector]
  connections := []
  created := created

def armedClient (tid : TimerId) (created : Nat) : TcpClient where
  connector := none
  connection := none
  timerReconn := tid.value
  connectors := []
  connecting := []
  connections := []
  created := created

/-- The three states, with the objects that exist. -/
inductive Mode : TcpClient → Prop where
  | held (connection created : Nat) : Mode (heldClient connection created)
  | attempting (connector created : Nat) : Mode (attemptingClient connector created)
  | armed (tid : TimerId) (created : Nat) : Mode (armedClient tid created)

theorem mode_connected {client : TcpClient} (mode : Mode client) : Connected client := by
  cases mode with
  | held connection created =>
      refine ⟨Or.inl ⟨⟨Option.some_ne_none _, rfl, rfl⟩, ?_, ?_⟩, rfl, rfl, rfl⟩
      · exact fun attempting => attempting.1 rfl
      · exact fun armed => armed.1 rfl
  | attempting connector created =>
      refine ⟨Or.inr (Or.inl ⟨?_, ⟨Option.some_ne_none _, rfl, rfl⟩, ?_⟩), rfl, rfl, rfl⟩
      · exact fun held => held.1 rfl
      · exact fun armed => armed.1 rfl
  | armed tid created =>
      refine ⟨Or.inr (Or.inr ⟨?_, ?_, ⟨tid.valid, rfl, rfl⟩⟩), rfl, rfl, rfl⟩
      · exact fun held => held.1 rfl
      · exact fun attempting => attempting.1 rfl

theorem mode_new : Mode TcpClient.new := Mode.attempting 0 1

theorem connect_result_mode {client : TcpClient} {connector : Nat} (mode : Mode client)
    (waiting : connector ∈ client.connecting) (error : Bool) (scheduled : TimerId) :
    Mode (onConnectResult client connector error scheduled) := by
  cases mode with
  | held connection created => cases waiting
  | armed tid created => cases waiting
  | attempting own created =>
      obtain rfl := List.mem_singleton.mp waiting
      cases error with
      | true =>
          have armed := Mode.armed scheduled created
          simpa [onConnectResult, onConnection, scheduleReconnect, deleteConnector,
            attemptingClient, armedClient] using armed
      | false =>
          have held := Mode.held created (created + 1)
          simpa [onConnectResult, onConnection, deleteConnector, attemptingClient,
            heldClient] using held

theorem disconnect_mode {client : TcpClient} {connection : Nat} (mode : Mode client)
    (exists_ : connection ∈ client.connections) (scheduled : TimerId) :
    Mode (onDisconnect client scheduled) := by
  cases mode with
  | attempting connector created => cases exists_
  | armed tid created => cases exists_
  | held own created =>
      have armed := Mode.armed scheduled created
      simpa [onDisconnect, scheduleReconnect, deleteConnector, deleteConnection, heldClient,
        armedClient] using armed

theorem timer_mode {client : TcpClient} (mode : Mode client) (tid : TimerId) :
    Mode (onTimer client tid) := by
  unfold onTimer
  split
  · rename_i fires
    cases mode with
    | held connection created => exact absurd fires tid.valid
    | attempting connector created => exact absurd fires tid.valid
    | armed own created => exact Mode.attempting created (created + 1)
  · exact mode

theorem step_mode {client next : TcpClient} {event : Event} (mode : Mode client)
    (taken : step client event = some next) : Mode next := by
  cases event with
  | onConnectResult connector error scheduled =>
      simp only [step] at taken
      split at taken
      · rename_i waiting
        cases taken
        exact connect_result_mode mode waiting error scheduled
      · cases taken
  | onDisconnect connection scheduled =>
      simp only [step] at taken
      split at taken
      · rename_i exists_
        cases taken
        exact disconnect_mode mode exists_ scheduled
      · cases taken
  | onTimer tid =>
      cases taken
      exact timer_mode mode tid

/-- In every state of every run the client holds one connection, makes one attempt or waits
for its reconnect timer. -/
theorem always_connected (events : List Event) :
    Always step Connected TcpClient.new events := by
  have keeps (client : TcpClient) (event : Event) (next : TcpClient) (mode : Mode client)
      (taken : step client event = some next) : Mode next ∧ Connected next := by
    have after := step_mode mode taken
    exact ⟨after, mode_connected after⟩
  exact ⟨mode_connected mode_new, each_step_of_keeps keeps mode_new⟩

end DevHub.UpstreamClient
