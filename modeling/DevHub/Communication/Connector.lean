import DevHub.Library.Run

/-!
A `Connector` from its construction to its destruction, with the calls that give back what
it holds. `m_connecting` is not set by the constructor, so its first value is a parameter.
-/

namespace DevHub.Connectors

open Transition

set_option autoImplicit false

/-- The calls of `evutil_closesocket`, `event_del` and `event_free`; `none` is the
descriptor -1 and the null event. -/
inductive Release where
  | closesocket (fd : Option Nat)
  | eventDel (event : Option Nat)
  | eventFree (event : Option Nat)
  deriving DecidableEq

structure ConnectorImp where
  sink : Bool
  fd : Option Nat
  connectEvent : Option Nat
  connecting : Bool

/-- `added` says that the connect event waits at its base; `socket` and `event` are what
`Connect` made, and `handed` that a `TcpConnection` has the socket. -/
structure Lifecycle where
  imp : ConnectorImp
  added : Bool
  attempted : Bool
  socket : Option Nat
  event : Option Nat
  handed : Bool
  destroyed : Bool
  released : List Release

inductive Operation where
  | connect (socket : Option Nat) (event : Nat)
  | cancel
  | connectResult (error : Bool)
  | destroy
  deriving DecidableEq

def Lifecycle.new (connecting sink : Bool) : Lifecycle where
  imp := { sink := sink, fd := none, connectEvent := none, connecting := connecting }
  added := false
  attempted := false
  socket := none
  event := none
  handed := false
  destroyed := false
  released := []

def connect (life : Lifecycle) (socket : Option Nat) (event : Nat) : Lifecycle :=
  { life with
    imp := { life.imp with connecting := true, fd := socket, connectEvent := some event }
    added := true
    attempted := true
    socket := socket
    event := some event }

def cancel (life : Lifecycle) : Lifecycle :=
  if life.imp.connecting then
    { life with
      imp := { life.imp with sink := false, fd := none, connectEvent := none }
      added := life.added && life.imp.connectEvent.isNone
      released := life.released ++ [.closesocket life.imp.fd, .eventDel life.imp.connectEvent,
        .eventFree life.imp.connectEvent] }
  else life

/-- `OnConnectResult`; the event does not persist. -/
def onConnectResult (life : Lifecycle) (error : Bool) : Lifecycle :=
  let fired := { life with added := false, imp := { life.imp with connecting := false } }
  if life.imp.sink && !error then
    { fired with imp := { fired.imp with fd := none }, handed := true }
  else fired

/-- The destructor of `ConnectorImp` after its `Cancel`. -/
def releaseRest (life : Lifecycle) : Lifecycle :=
  let closes := if life.imp.fd.isSome then [Release.closesocket life.imp.fd] else []
  { life with
    imp := { life.imp with fd := none, connectEvent := none }
    added := life.added && life.imp.connectEvent.isNone
    released := life.released ++ closes ++ [.eventDel life.imp.connectEvent,
      .eventFree life.imp.connectEvent] }

/-- The destructor of `Connector` cancels, and the one of `ConnectorImp` cancels again. -/
def destroy (life : Lifecycle) : Lifecycle :=
  { releaseRest (cancel (cancel life)) with destroyed := true }

/-- `Connect` is called at most once; a result comes while the event is added, and without
an error only for a socket that was opened. -/
def step : Step Lifecycle Operation
  | life, .connect socket event =>
      if life.destroyed || life.attempted then none else some (connect life socket event)
  | life, .cancel => if life.destroyed then none else some (cancel life)
  | life, .connectResult error =>
      if !life.destroyed && life.added && (error || life.socket.isSome) then
        some (onConnectResult life error)
      else none
  | life, .destroy => if life.destroyed then none else some (destroy life)

/-- What was made is given back once, and null is never given to libevent. -/
structure ReleasedOnce (life : Lifecycle) : Prop where
  event : ∀ event, life.event = some event →
    life.released.count (.eventDel (some event)) = 1 ∧
      life.released.count (.eventFree (some event)) = 1
  null : .eventDel none ∉ life.released ∧ .eventFree none ∉ life.released
  socket : ∀ fd, life.socket = some fd →
    life.released.count (.closesocket (some fd)) = if life.handed then 0 else 1

/-- `Connect` is followed at once by its result, and a `Cancel` before it finds the
`m_connecting` of the constructor false. -/
def Answered (connecting : Bool) : List Operation → Prop
  | .connect _ _ :: .connectResult _ :: _ => True
  | .cancel :: rest => connecting = false ∧ Answered connecting rest
  | _ => False

/-! ### Null is released -/

def NullDeleted (life : Lifecycle) : Prop :=
  .eventDel none ∈ life.released

theorem cancel_deletes {life : Lifecycle} {release : Release} (member : release ∈ life.released) :
    release ∈ (cancel life).released := by
  unfold cancel
  split
  · exact List.mem_append_left _ member
  · exact member

theorem destroy_deletes {life : Lifecycle} {release : Release}
    (member : release ∈ (cancel (cancel life)).released) :
    release ∈ (destroy life).released :=
  List.mem_append_left _ (List.mem_append_left _ member)

theorem step_deletes {life next : Lifecycle} {operation : Operation}
    (deleted : NullDeleted life) (taken : step life operation = some next) :
    NullDeleted next := by
  cases operation with
  | connect socket event =>
      obtain ⟨-, same⟩ := Option.ite_none_left_eq_some.mp taken
      cases same
      exact deleted
  | cancel =>
      obtain ⟨-, same⟩ := Option.ite_none_left_eq_some.mp taken
      cases same
      exact cancel_deletes deleted
  | connectResult error =>
      obtain ⟨-, same⟩ := Option.ite_none_right_eq_some.mp taken
      cases same
      unfold onConnectResult
      dsimp only
      split
      · exact deleted
      · exact deleted
  | destroy =>
      obtain ⟨-, same⟩ := Option.ite_none_left_eq_some.mp taken
      cases same
      exact destroy_deletes (cancel_deletes (cancel_deletes deleted))

theorem run_deletes {life final : Lifecycle} {operations : List Operation}
    (deleted : NullDeleted life) (ran : run step life operations = some final) :
    ¬ ReleasedOnce final := by
  induction operations generalizing life with
  | nil =>
      cases ran
      exact fun released => released.null.1 deleted
  | cons operation rest ih =>
      obtain ⟨next, head, tail⟩ := run_cons_some ran
      exact ih (step_deletes deleted head) tail

/-- `Cancel` while `m_connecting` is set deletes the event it finds, null or not. -/
theorem cancel_null {life : Lifecycle} (connecting : life.imp.connecting = true)
    (null : life.imp.connectEvent = none) : NullDeleted (cancel life) := by
  rw [NullDeleted, cancel, if_pos connecting, null]
  simp

/-- `m_connecting` is set and there is no event: `Cancel` was called during the attempt. -/
structure Cancelled (life : Lifecycle) : Prop where
  connecting : life.imp.connecting = true
  null : life.imp.connectEvent = none
  attempted : life.attempted = true
  silent : life.added = false
  alive : life.destroyed = false

theorem cancelled_breaks {life final : Lifecycle} {operations : List Operation}
    (cancelled : Cancelled life) (ran : run step life operations = some final)
    (destroyed : final.destroyed = true) : ¬ ReleasedOnce final := by
  have deleted := cancel_null cancelled.connecting cancelled.null
  cases operations with
  | nil =>
      cases ran
      rw [cancelled.alive] at destroyed
      cases destroyed
  | cons operation rest =>
      obtain ⟨next, head, tail⟩ := run_cons_some ran
      cases operation with
      | connect socket event => simp [step, cancelled.attempted] at head
      | connectResult error => simp [step, cancelled.silent] at head
      | cancel =>
          obtain ⟨-, same⟩ := Option.ite_none_left_eq_some.mp head
          cases same
          exact run_deletes deleted tail
      | destroy =>
          obtain ⟨-, same⟩ := Option.ite_none_left_eq_some.mp head
          cases same
          have destroyed : NullDeleted (destroy life) := destroy_deletes (cancel_deletes deleted)
          exact run_deletes destroyed tail

/-! ### The result has arrived -/

/-- After the result nothing was given back yet, and what is to be given back is held. -/
structure Settled (life : Lifecycle) : Prop where
  idle : life.imp.connecting = false
  event : ∃ event, life.event = some event ∧ life.imp.connectEvent = some event
  fd : life.imp.fd = if life.handed then none else life.socket
  attempted : life.attempted = true
  silent : life.added = false
  alive : life.destroyed = false
  released : life.released = []

theorem settled_cancel {life : Lifecycle} (settled : Settled life) : cancel life = life := by
  rw [cancel, settled.idle]
  rfl

theorem settled_destroy {life : Lifecycle} (settled : Settled life) :
    ReleasedOnce (destroy life) := by
  obtain ⟨event, made, held⟩ := settled.event
  have cancels : cancel (cancel life) = life := by
    rw [settled_cancel settled, settled_cancel settled]
  have released : (destroy life).released =
      (if life.imp.fd.isSome then [Release.closesocket life.imp.fd] else []) ++
        [.eventDel (some event), .eventFree (some event)] := by
    simp [destroy, cancels, releaseRest, settled.released, held]
  have events : (destroy life).event = some event := by
    rw [← made, destroy, cancels]
    rfl
  have sockets : (destroy life).socket = life.socket := by
    rw [destroy, cancels]
    rfl
  have handed : (destroy life).handed = life.handed := by
    rw [destroy, cancels]
    rfl
  constructor
  · intro other same
    obtain rfl := Option.some.inj (events.symm.trans same)
    rw [released]
    split <;> simp
  · rw [released]
    split <;> simp
  · intro fd opened
    rw [released, handed, settled.fd]
    rw [sockets] at opened
    cases life.handed with
    | true => simp
    | false => simp [opened]

theorem settled_run {life final : Lifecycle} {operations : List Operation}
    (settled : Settled life) (ran : run step life operations = some final)
    (destroyed : final.destroyed = true) : ReleasedOnce final := by
  induction operations with
  | nil =>
      cases ran
      rw [settled.alive] at destroyed
      cases destroyed
  | cons operation rest ih =>
      obtain ⟨next, head, tail⟩ := run_cons_some ran
      cases operation with
      | connect socket event => simp [step, settled.attempted] at head
      | connectResult error => simp [step, settled.silent] at head
      | cancel =>
          obtain ⟨-, same⟩ := Option.ite_none_left_eq_some.mp head
          cases same
          rw [settled_cancel settled] at tail
          exact ih tail
      | destroy =>
          obtain ⟨-, same⟩ := Option.ite_none_left_eq_some.mp head
          cases same
          -- A destroyed connector takes no further operation.
          cases rest with
          | nil =>
              cases tail
              exact settled_destroy settled
          | cons operation rest =>
              obtain ⟨next, head, -⟩ := run_cons_some tail
              cases operation <;> simp [step, destroy] at head

/-! ### The attempt -/

theorem result_settled {life : Lifecycle} {socket : Option Nat} {event : Nat} {error : Bool}
    (alive : life.destroyed = false) (released : life.released = [])
    (handed : life.handed = false) :
    Settled (onConnectResult (connect life socket event) error) := by
  unfold onConnectResult
  dsimp only
  split
  · exact ⟨rfl, ⟨event, rfl, rfl⟩, rfl, rfl, rfl, alive, released⟩
  · refine ⟨rfl, ⟨event, rfl, rfl⟩, ?_, rfl, rfl, alive, released⟩
    simp [connect, handed]

/-- After `Connect` everything is released once exactly when the result is what comes next. -/
theorem connected_released_iff (life : Lifecycle) {final : Lifecycle} {socket : Option Nat} {event : Nat}
    {operations : List Operation} (alive : life.destroyed = false) (released : life.released = [])
    (handed : life.handed = false)
    (ran : run step (connect life socket event) operations = some final)
    (destroyed : final.destroyed = true) :
    ReleasedOnce final ↔ ∃ error rest, operations = .connectResult error :: rest := by
  cases operations with
  | nil =>
      cases ran
      rw [show (connect life socket event).destroyed = life.destroyed from rfl, alive] at destroyed
      cases destroyed
  | cons operation rest =>
      obtain ⟨next, head, tail⟩ := run_cons_some ran
      cases operation with
      | connect socket event => simp [step, connect] at head
      | connectResult error =>
          obtain ⟨-, same⟩ := Option.ite_none_right_eq_some.mp head
          cases same
          constructor
          · intro _
            exact ⟨error, rest, rfl⟩
          · intro _
            exact settled_run (result_settled alive released handed) tail destroyed
      | cancel =>
          obtain ⟨-, same⟩ := Option.ite_none_left_eq_some.mp head
          cases same
          have cancelled : Cancelled (cancel (connect life socket event)) :=
            ⟨rfl, rfl, rfl, rfl, alive⟩
          simp [cancelled_breaks cancelled tail destroyed]
      | destroy =>
          obtain ⟨-, same⟩ := Option.ite_none_left_eq_some.mp head
          cases same
          -- The second `Cancel` of the destructors still finds `m_connecting` set.
          have deleted : NullDeleted (cancel (cancel (connect life socket event))) :=
            cancel_null rfl rfl
          have gone : NullDeleted (destroy (connect life socket event)) := destroy_deletes deleted
          simp [run_deletes gone tail]

/-- A lifecycle releases once what it made exactly when its `Connect` is answered. -/
theorem released_once_iff (connecting sink : Bool) {operations : List Operation}
    {final : Lifecycle}
    (ran : run step (Lifecycle.new connecting sink) operations = some final)
    (destroyed : final.destroyed = true) :
    ReleasedOnce final ↔ Answered connecting operations := by
  induction operations with
  | nil =>
      cases ran
      cases destroyed
  | cons operation rest ih =>
      obtain ⟨next, head, tail⟩ := run_cons_some ran
      cases operation with
      | connectResult error => simp [step, Lifecycle.new] at head
      | connect socket event =>
          cases head
          rw [connected_released_iff (Lifecycle.new connecting sink) rfl rfl rfl tail destroyed]
          cases rest with
          | nil => simp [Answered]
          | cons second rest => cases second <;> simp [Answered]
      | cancel =>
          cases head
          cases connecting with
          | false =>
              have settled := ih tail
              simpa [Answered] using settled
          | true =>
              have deleted : NullDeleted (cancel (Lifecycle.new true sink)) := cancel_null rfl rfl
              simp [Answered, run_deletes deleted tail]
      | destroy =>
          cases head
          have deleted : NullDeleted (destroy (Lifecycle.new connecting sink)) := by
            cases connecting <;> simp [NullDeleted, destroy, releaseRest, cancel, Lifecycle.new]
          simp [Answered, run_deletes deleted tail]

theorem released_once_answered :
    ∃ final, run step (Lifecycle.new true true)
        [.connect (some 5) 0, .connectResult false, .cancel, .destroy] = some final ∧
      (ReleasedOnce final ↔ Answered true
        [.connect (some 5) 0, .connectResult false, .cancel, .destroy]) :=
  ⟨_, rfl, released_once_iff true true rfl rfl⟩

/-- Destroyed while the attempt is in progress: the second `Cancel` deletes null. -/
theorem destroyed_connecting_deletes_null :
    ∃ final, run step (Lifecycle.new false true) [.connect (some 5) 0, .destroy] = some final ∧
      final.destroyed = true ∧ ¬ ReleasedOnce final := by
  refine ⟨_, rfl, rfl, ?_⟩
  intro released
  exact released.null.1 (by decide)

end DevHub.Connectors
