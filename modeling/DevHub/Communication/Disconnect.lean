import DevHub.Library.Run
import DevHub.Communication.ConnBase

/-!
The receiving half of `Connection`, and what its sink is told over a run. `errno` is the
global of that name: a failed call sets it, `recv` leaves it alone when it returns data or
an orderly shutdown, and any other call of the process may change it between two callbacks.
-/

namespace DevHub.Disconnect

open Transition ConnBase

set_option autoImplicit false

variable {Sink : Type}

def eagain : Int := 11
def ewouldblock : Int := 11

/-- What `recv` does; an orderly shutdown is the receipt of nothing. -/
inductive KernelRead where
  | received (data : List Byte)
  | fails (errno : Int)

inductive SinkCall where
  | onData (data : List Byte)
  | onDisconnect (reason : Int)
  deriving DecidableEq

/-- The result `sz` of `recv`, and `errno` after it. -/
def recv (errno : Int) : KernelRead → Int × Int
  | .received data => (data.length, errno)
  | .fails errno => (-1, errno)

def onRead (conn : Connection Sink) (errno : Int) (kernel : KernelRead) :
    Connection Sink × Option (Sink × SinkCall) :=
  let (sz, err) := recv errno kernel
  if sz ≤ 0 then
    if err = ewouldblock ∨ err = eagain then (conn, none)
    else (close conn, conn.sink.map fun sink => (sink, .onDisconnect err))
  else
    match kernel with
    | .received data => (conn, conn.sink.map fun sink => (sink, .onData data))
    | .fails _ => (conn, none)

def errnoAfter (errno : Int) : KernelWrite → Int
  | .accepts _ => errno
  | .again => eagain
  | .fails errno => errno

inductive Entry (Sink : Type) where
  | called (sink : Sink) (call : SinkCall)
  | close
  deriving DecidableEq

structure State (Sink : Type) where
  conn : Connection Sink
  errno : Int
  log : List (Entry Sink)

def State.start (sink : Sink) (errno : Int) : State Sink where
  conn := .opened sink
  errno := errno
  log := []

/-- `systemCall` is any other call that leaves `errno` behind. What a sink does with the
connection in its callback stands behind the callback. -/
inductive Event (Sink : Type) where
  | onRead (kernel : KernelRead)
  | onWrite (kernel : KernelWrite)
  | send (data : List Byte) (evbufferAdd : Bool) (kernel : KernelWrite)
  | close
  | setConnectionSink (sink : Option Sink)
  | systemCall (errno : Int)

def entries (call : Option (Sink × SinkCall)) : List (Entry Sink) :=
  call.toList.map fun call => .called call.1 call.2

/-- The read event is persistent and the write event is not. -/
def step : Step (State Sink) (Event Sink)
  | state, .onRead kernel =>
      if state.conn.readEvent then
        let called := onRead state.conn state.errno kernel
        some {
          conn := called.1
          errno := (recv state.errno kernel).2
          log := state.log ++ entries called.2 }
      else none
  | state, .onWrite kernel =>
      if state.conn.writeEvent then
        let called := ConnBase.onWrite { state.conn with writeEvent := false } kernel
        some {
          conn := called.1
          errno := errnoAfter state.errno kernel
          log := state.log ++
            entries (called.2.2.map fun call => (call.1, .onDisconnect call.2)) }
      else none
  | state, .send data evbufferAdd kernel =>
      some { state with
        conn := (ConnBase.send state.conn data evbufferAdd kernel).2.1
        errno := errnoAfter state.errno kernel }
  | state, .close => some { state with conn := close state.conn, log := state.log ++ [.close] }
  | state, .setConnectionSink sink => some { state with conn := { state.conn with sink := sink } }
  | state, .systemCall errno => some { state with errno := errno }

/-! ### What the sink is told -/

/-- When `recv` returns 0 the connection is closed and its sink told so, once. -/
def Noticed (before : State Sink) (event : Event Sink) (after : State Sink) : Prop :=
  event = .onRead (.received []) →
    after.conn.closing = true ∧ ∃ reason, after.log = before.log ++
      before.conn.sink.toList.map fun sink => .called sink (.onDisconnect reason)

def Entry.isDisconnect : Entry Sink → Bool
  | .called _ (.onDisconnect _) => true
  | _ => false

/-- At most one `OnDisconnect`, and after an explicit `Close` no call on the sink. -/
structure Orderly (log : List (Entry Sink)) : Prop where
  once : log.countP Entry.isDisconnect ≤ 1
  silent : log.Pairwise fun earlier later => earlier = .close → later = .close

/-- An orderly shutdown does not find `EAGAIN` or `EWOULDBLOCK` in `errno`. -/
def ErrnoFresh (state : State Sink) (event : Event Sink) : Prop :=
  event = .onRead (.received []) → state.errno ≠ ewouldblock ∧ state.errno ≠ eagain

/-- A closed connection has no events, and an open one has only passed data on. -/
structure Told (state : State Sink) : Prop where
  orderly : Orderly state.log
  closed : state.conn.closing = true → state.conn.readEvent = false ∧ state.conn.writeEvent = false
  opened : state.conn.closing = false → ∀ entry ∈ state.log, ∃ sink data,
    entry = .called sink (.onData data)

theorem start_told (sink : Sink) (errno : Int) : Told (State.start sink errno) where
  orderly := ⟨Nat.zero_le 1, List.Pairwise.nil⟩
  closed := by
    intro closing
    cases closing
  opened := by
    intro opened entry member
    cases member

theorem orderly_append {log : List (Entry Sink)} (entry : Entry Sink)
    (data : ∀ entry ∈ log, ∃ sink data, entry = .called sink (.onData data)) :
    Orderly (log ++ [entry]) := by
  have none_ : log.countP Entry.isDisconnect = 0 := by
    rw [List.countP_eq_zero]
    intro other member
    obtain ⟨sink, data, rfl⟩ := data other member
    simp [Entry.isDisconnect]
  have open_ (other : Entry Sink) (member : other ∈ log) : other ≠ .close := by
    obtain ⟨sink, data, rfl⟩ := data other member
    simp
  constructor
  · rw [List.countP_append, none_, Nat.zero_add]
    exact List.countP_le_length
  · rw [List.pairwise_append]
    refine ⟨List.Pairwise.imp_of_mem ?_ (List.pairwise_of_forall fun _ _ => trivial),
      List.pairwise_singleton _ _, fun earlier member _ _ same => absurd same (open_ earlier member)⟩
    intro earlier later member _ _ same
    exact absurd same (open_ earlier member)

theorem orderly_close {log : List (Entry Sink)} (orderly : Orderly log) :
    Orderly (log ++ [Entry.close]) := by
  constructor
  · rw [List.countP_append]
    exact orderly.once
  · rw [List.pairwise_append]
    refine ⟨orderly.silent, List.pairwise_singleton _ _, ?_⟩
    intro earlier _ later last _
    exact List.mem_singleton.mp last

theorem close_opened {conn : Connection Sink} (opened : conn.closing = false) :
    (close conn).closing = true ∧ (close conn).readEvent = false ∧
      (close conn).writeEvent = false := by
  simp [close, opened]

theorem close_twice {conn : Connection Sink} (closing : conn.closing = true) :
    close conn = conn := by
  simp [close, closing]

theorem on_read_cases (conn : Connection Sink) (errno : Int) (kernel : KernelRead) :
    (((recv errno kernel).2 = ewouldblock ∨ (recv errno kernel).2 = eagain) ∧
        onRead conn errno kernel = (conn, none)) ∨
      (∃ first rest, kernel = .received (first :: rest) ∧
        onRead conn errno kernel =
          (conn, conn.sink.map fun sink => (sink, .onData (first :: rest)))) ∨
      onRead conn errno kernel =
        (close conn, conn.sink.map fun sink => (sink, .onDisconnect (recv errno kernel).2)) := by
  have broken (failed : (recv errno kernel).1 ≤ 0) :
      (((recv errno kernel).2 = ewouldblock ∨ (recv errno kernel).2 = eagain) ∧
          onRead conn errno kernel = (conn, none)) ∨
        onRead conn errno kernel =
          (close conn, conn.sink.map fun sink => (sink, .onDisconnect (recv errno kernel).2)) := by
    simp only [onRead, if_pos failed]
    by_cases again : (recv errno kernel).2 = ewouldblock ∨ (recv errno kernel).2 = eagain
    · exact Or.inl ⟨again, by rw [if_pos again]⟩
    · exact Or.inr (by rw [if_neg again])
  cases kernel with
  | received data =>
      cases data with
      | nil => exact (broken (Int.le_refl 0)).imp_right Or.inr
      | cons first rest =>
          have positive : ¬ ((rest.length : Int) + 1 ≤ 0) := by omega
          exact Or.inr (Or.inl ⟨first, rest, rfl, by simp [onRead, recv, positive]⟩)
  | fails errno =>
      have failed : ((-1 : Int) ≤ 0) := by decide
      exact (broken failed).imp_right Or.inr

theorem told_conn {state : State Sink} {conn : Connection Sink} (errno : Int) (told : Told state)
    (closing : conn.closing = state.conn.closing)
    (events : state.conn.closing = true →
      conn.readEvent = state.conn.readEvent ∧ conn.writeEvent = state.conn.writeEvent) :
    Told { conn := conn, errno := errno, log := state.log } where
  orderly := told.orderly
  closed := by
    intro closed
    rw [closing] at closed
    obtain ⟨read, write⟩ := told.closed closed
    obtain ⟨sameRead, sameWrite⟩ := events closed
    exact ⟨sameRead.trans read, sameWrite.trans write⟩
  opened := fun opened => told.opened (closing.symm.trans opened)

theorem told_data {state : State Sink} {errno : Int} (told : Told state) (data : List Byte)
    (opened : state.conn.closing = false) :
    Told { conn := state.conn, errno := errno, log := state.log ++
      entries (state.conn.sink.map fun sink => (sink, .onData data)) } := by
  have before := told.opened opened
  cases state.conn.sink with
  | none =>
      rw [Option.map_none, entries, Option.toList_none, List.map_nil, List.append_nil]
      exact told_conn errno told rfl fun _ => ⟨rfl, rfl⟩
  | some sink =>
      refine ⟨orderly_append (.called sink (.onData data)) before, told.closed, ?_⟩
      intro _ entry member
      rcases List.mem_append.mp member with older | new
      · exact before entry older
      · exact ⟨sink, data, List.mem_singleton.mp new⟩

theorem told_broken {state : State Sink} {conn : Connection Sink} {errno reason : Int}
    (told : Told state) (opened : state.conn.closing = false) (same : conn.closing = false) :
    Told { conn := close conn, errno := errno, log := state.log ++
      entries (state.conn.sink.map fun sink => (sink, .onDisconnect reason)) } := by
  obtain ⟨closing, read, write⟩ := close_opened same
  have closed : Orderly (state.log ++
      entries (state.conn.sink.map fun sink => (sink, .onDisconnect reason))) := by
    cases state.conn.sink with
    | none =>
        rw [Option.map_none, entries, Option.toList_none, List.map_nil, List.append_nil]
        exact told.orderly
    | some sink =>
        exact orderly_append (.called sink (.onDisconnect reason)) (told.opened opened)
  refine ⟨closed, fun _ => ⟨read, write⟩, ?_⟩
  intro still
  rw [closing] at still
  cases still

theorem told_close {state : State Sink} (told : Told state) :
    Told { state with conn := close state.conn, log := state.log ++ [.close] } := by
  have opened (still : (close state.conn).closing = false) :
      ∀ entry ∈ state.log ++ [.close], ∃ sink data, entry = Entry.called sink (.onData data) := by
    rw [close_closing] at still
    cases still
  refine ⟨orderly_close told.orderly, ?_, opened⟩
  intro _
  cases closing : state.conn.closing with
  | false => exact (close_opened closing).2
  | true =>
      rw [close_twice closing]
      exact told.closed closing

theorem send_told {state : State Sink} (told : Told state) (data : List Byte) (evbufferAdd : Bool)
    (kernel : KernelWrite) (errno : Int) :
    let sent := (ConnBase.send state.conn data evbufferAdd kernel).2
    Told { conn := sent.1, errno := errno, log := state.log } := by
  dsimp only
  rcases send_cases state.conn data evbufferAdd kernel with
    ⟨-, result⟩ | ⟨opened, -, -, result⟩ | ⟨opened, -, -, result⟩
  · rw [result]
    exact told_conn errno told rfl fun _ => ⟨rfl, rfl⟩
  · rw [result]
    refine told_conn errno told rfl ?_
    intro closing
    rw [opened] at closing
    cases closing
  · rw [result]
    exact told_conn errno told rfl fun _ => ⟨rfl, rfl⟩

theorem write_told {state : State Sink} (told : Told state) (armed : state.conn.writeEvent = true)
    (kernel : KernelWrite) (errno : Int) :
    let called := ConnBase.onWrite { state.conn with writeEvent := false } kernel
    Told (State.mk called.1 errno
      (state.log ++ entries (called.2.2.map fun call => (call.1, .onDisconnect call.2)))) := by
  have opened : state.conn.closing = false := by
    by_contra closing
    have unarmed := (told.closed (by simpa using closing)).2
    rw [armed] at unarmed
    cases unarmed
  have kept (conn : Connection Sink) (same : conn.closing = state.conn.closing) :
      Told { conn := conn, errno := errno, log := state.log ++ [] } := by
    rw [List.append_nil]
    apply told_conn errno told same
    intro closing
    rw [opened] at closing
    cases closing
  rcases on_write_cases { state.conn with writeEvent := false } kernel with
    ⟨-, result⟩ | ⟨-, count, -, result⟩ | ⟨-, -, result⟩ | ⟨-, reason, -, result⟩
  · rw [result]
    exact kept _ rfl
  · rw [result]
    exact kept _ rfl
  · rw [result]
    exact kept _ rfl
  · rw [result]
    simp only [Option.map_map, Function.comp_def]
    exact told_broken told opened opened

theorem read_told {state : State Sink} (told : Told state) (armed : state.conn.readEvent = true)
    (kernel : KernelRead) (errno : Int) :
    Told { conn := (onRead state.conn state.errno kernel).1, errno := errno, log := state.log ++
      entries (onRead state.conn state.errno kernel).2 } := by
  have opened : state.conn.closing = false := by
    by_contra closing
    have unarmed := (told.closed (by simpa using closing)).1
    rw [armed] at unarmed
    cases unarmed
  rcases on_read_cases state.conn state.errno kernel with
    ⟨-, result⟩ | ⟨first, rest, -, result⟩ | result
  · rw [result, entries, Option.toList_none, List.map_nil, List.append_nil]
    exact told_conn errno told rfl fun _ => ⟨rfl, rfl⟩
  · rw [result]
    exact told_data told _ opened
  · rw [result]
    exact told_broken told opened opened

theorem step_told {state next : State Sink} {event : Event Sink} (told : Told state)
    (taken : step state event = some next) : Told next := by
  cases event with
  | onRead kernel =>
      rw [step, Option.ite_none_right_eq_some] at taken
      obtain ⟨armed, result⟩ := taken
      exact Option.some.inj result ▸ read_told told armed kernel _
  | onWrite kernel =>
      rw [step, Option.ite_none_right_eq_some] at taken
      obtain ⟨armed, result⟩ := taken
      exact Option.some.inj result ▸ write_told told armed kernel _
  | send data evbufferAdd kernel =>
      exact Option.some.inj taken ▸ send_told told data evbufferAdd kernel _
  | close => exact Option.some.inj taken ▸ told_close told
  | setConnectionSink sink =>
      exact Option.some.inj taken ▸ told_conn state.errno told rfl fun _ => ⟨rfl, rfl⟩
  | systemCall errno => exact Option.some.inj taken ▸ told_conn errno told rfl fun _ => ⟨rfl, rfl⟩

/-- With a fresh `errno` an orderly shutdown is noticed. -/
theorem fresh_noticed {state next : State Sink} {event : Event Sink}
    (fresh : ErrnoFresh state event) (taken : step state event = some next) :
    Noticed state event next := by
  rintro rfl
  rw [step, Option.ite_none_right_eq_some] at taken
  obtain ⟨-, result⟩ := taken
  obtain ⟨notBlocking, notAgain⟩ := fresh rfl
  rcases on_read_cases state.conn state.errno (.received []) with
    ⟨stale, -⟩ | ⟨first, rest, same, -⟩ | broken
  · exact absurd stale (not_or.mpr ⟨notBlocking, notAgain⟩)
  · cases same
  · rw [broken] at result
    obtain rfl := Option.some.inj result
    refine ⟨close_closing _, state.errno, ?_⟩
    cases state.conn.sink with
    | none => rfl
    | some sink => rfl

/-- With a stale one it is taken for data that has not come yet. -/
theorem stale_unnoticed {state next : State Sink} {event : Event Sink} (told : Told state)
    (stale : ¬ ErrnoFresh state event) (taken : step state event = some next) :
    ¬ Noticed state event next := by
  intro noticed
  rw [ErrnoFresh, Classical.not_imp] at stale
  obtain ⟨rfl, blocking⟩ := stale
  have closing := (noticed rfl).1
  rw [step, Option.ite_none_right_eq_some] at taken
  obtain ⟨armed, result⟩ := taken
  have again : (recv state.errno (.received [])).2 = ewouldblock ∨
      (recv state.errno (.received [])).2 = eagain := by
    by_contra fresh
    exact blocking (not_or.mp fresh)
  have returned : onRead state.conn state.errno (.received []) = (state.conn, none) := by
    have nothing : (recv state.errno (.received [])).1 ≤ 0 := Int.le_refl 0
    simp only [onRead, if_pos nothing, if_pos again]
  rw [returned] at result
  obtain rfl := Option.some.inj result
  have unarmed := (told.closed closing).1
  rw [armed] at unarmed
  cases unarmed

/-- Over every run the sink is told in order, and every orderly shutdown is noticed exactly
when none finds `EAGAIN` or `EWOULDBLOCK` left in `errno`. -/
theorem shutdown_noticed_iff (sink : Sink) (errno : Int) (events : List (Event Sink)) :
    (EachStep step Noticed (State.start sink errno) events ∧
        Always step (fun state => Orderly state.log) (State.start sink errno) events) ↔
      Guarded step ErrnoFresh (State.start sink errno) events := by
  have orderly : Always step (fun state => Orderly state.log) (State.start sink errno) events := by
    refine ⟨(start_told sink errno).orderly, ?_⟩
    apply each_step_of_keeps (fun state event next told taken => ?_) (start_told sink errno)
    have kept := step_told told taken
    exact ⟨kept, kept.orderly⟩
  have noticed : EachStep step Noticed (State.start sink errno) events ↔
      Guarded step ErrnoFresh (State.start sink errno) events := by
    apply each_step_iff_guarded _ _ (start_told sink errno)
    · intro state event next told fresh taken
      exact ⟨step_told told taken, fresh_noticed fresh taken⟩
    · intro state event next told stale taken
      exact stale_unnoticed told stale taken
  exact ⟨fun both => noticed.mp both.1, fun fresh => ⟨noticed.mpr fresh, orderly⟩⟩

/-- A read of another connection has left `EAGAIN` behind when the peer shuts down. -/
theorem stale_errno_unnoticed :
    ¬ (EachStep step Noticed (State.start 0 0) [.systemCall eagain, .onRead (.received [])] ∧
      Always step (fun state => Orderly state.log) (State.start 0 0)
        [.systemCall eagain, .onRead (.received [])]) := by
  intro both
  have told := (both.1 _ rfl).2 _ rfl
  exact absurd (told.1 rfl).1 (by decide)

end DevHub.Disconnect
