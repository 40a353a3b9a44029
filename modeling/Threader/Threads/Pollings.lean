import Threader.Base.EventMachine
import Threader.Base.ItemByItem
import Threader.Threads.HandlerTcpSocket

/-! `Polling` on Linux: the registered pollers, and the array that is handed to `poll`. -/

namespace Threader

/-- `pollfd`, as the array keeps it from one call of `poll` to the next. -/
structure PollStruct where
  fd : Descriptor
  events : UInt16
  revents : UInt16
deriving DecidableEq, Repr

/-- What a pointer to a `PollerBase` refers to. -/
inductive Poller
  -- `PollerBase` itself, and `PollerThread`, which does not override `assign`.
  | base (descriptor : Descriptor) (events : UInt16)
  | tcpSocket (handler : HandlerTcpSocket) (needsToWrite : Bool)
deriving DecidableEq, Repr

/-- What changes the descriptor of a poller, or the events it waits for. -/
inductive PollerCall
  | setDescriptor (descriptor : Descriptor)
  | setEvents (events : UInt16)
  | setNeedsToWrite (needsToWrite : Bool)
  | handler (call : HandlerCall)

namespace Poller

/-- `descriptor()`. -/
def descriptor : Poller → Descriptor
  | .base descriptor _ => descriptor
  | .tcpSocket handler _ => handler.descriptor

/-- `assign(event)`. -/
def assign : Poller → PollStruct → PollStruct
  | .base descriptor events, _ => ⟨descriptor, events, 0⟩
  | .tcpSocket handler needsToWrite, event =>
    if handler.connectionState = .disconnected then event
    else
      let events := POLLIN ||| POLLERR ||| POLLHUP ||| POLLNVAL ||| POLLRDHUP
      let writes := needsToWrite ∨ handler.connectionState = .connecting
      ⟨handler.descriptor, if writes then events ||| POLLOUT else events, 0⟩

/-- The poller after a call; what its class does not have, or does not use, changes nothing. -/
def perform : Poller → PollerCall → Poller
  | .base _ events, .setDescriptor descriptor => .base descriptor events
  | .base descriptor _, .setEvents events => .base descriptor events
  | .tcpSocket handler needsToWrite, .setDescriptor descriptor =>
    .tcpSocket (handler.setDescriptor descriptor) needsToWrite
  | .tcpSocket handler _, .setNeedsToWrite needsToWrite => .tcpSocket handler needsToWrite
  | .tcpSocket handler needsToWrite, .handler call => .tcpSocket (handler.step call) needsToWrite
  | poller, _ => poller

/-- The constructor of a handler makes it connected when it is given a descriptor. -/
def Constructed : Poller → Prop
  | .base _ _ => True
  | .tcpSocket handler _ =>
    handler.connectionState =
      if handler.descriptor = INVALID_DESCRIPTOR then .disconnected else .connected

/-- A `HandlerTcpSocket` that is disconnected. -/
def Disconnected : Poller → Prop
  | .base _ _ => False
  | .tcpSocket handler _ => handler.connectionState = .disconnected

/-- A poller that is disconnected has no descriptor. -/
def Settled (poller : Poller) : Prop :=
  poller.Disconnected → poller.descriptor = INVALID_DESCRIPTOR

/-- The constructors leave settled pollers. -/
theorem Constructed.settled {poller : Poller} (constructed : poller.Constructed) :
    poller.Settled := by
  -- Only a handler can be disconnected.
  cases poller with
  | base descriptor events => exact fun none => none.elim
  | tcpSocket handler needsToWrite =>
    intro disconnected
    by_contra valid
    -- With a descriptor it would have been made connected.
    have connected : handler.connectionState = .connected := constructed.trans (if_neg valid)
    rw [show handler.connectionState = .disconnected from disconnected] at connected
    cases connected

/-- A settled poller stays settled. -/
theorem Settled.perform {poller : Poller} (settled : poller.Settled) (call : PollerCall) :
    (poller.perform call).Settled := by
  -- The calls of a handler have been dealt with where it is modelled.
  cases poller with
  | base descriptor events => cases call <;> exact fun none => none.elim
  | tcpSocket handler needsToWrite =>
    cases call with
    | setDescriptor descriptor => exact HandlerTcpSocket.Settled.setDescriptor handler descriptor
    | setEvents events => exact settled
    | setNeedsToWrite needsToWrite => exact settled
    | handler call =>
      have before : handler.Settled := settled
      exact before.step call

/-- An entry is filled in with the descriptor, unless the poller is disconnected. -/
theorem Settled.fd_assign_iff {poller : Poller} (settled : poller.Settled) (event : PollStruct) :
    (poller.assign event).fd = poller.descriptor ↔
      (poller.Disconnected → event.fd = INVALID_DESCRIPTOR) := by
  cases poller with
  | base descriptor events => exact iff_of_true rfl fun none => none.elim
  | tcpSocket handler needsToWrite =>
    unfold assign
    dsimp only
    split
    · -- The entry stays as it was, and the poller has no descriptor.
      rename_i disconnected
      rw [settled disconnected]
      exact ⟨fun same _ => same, fun stays => stays disconnected⟩
    · rename_i alive
      exact iff_of_true rfl fun disconnected => absurd disconnected alive

end Poller

/-- `PollerBase *`. -/
abbrev PollerPtr := Nat

/-- `Polling`, with the objects that pointers refer to. -/
structure Polling where
  objects : PollerPtr → Poller
  pollers : List PollerPtr
  pollStructArray : List PollStruct

/-- What is done with a `Polling` and the pollers, in any order. -/
inductive PollingEvent
  | registerPoller (poller : PollerPtr)
  | unregisterPoller (poller : PollerPtr)
  | change (poller : PollerPtr) (call : PollerCall)
  | poll (revents : Nat → UInt16)

namespace Polling

/-- Nothing is registered yet. -/
def created (objects : PollerPtr → Poller) : Polling := ⟨objects, [], []⟩

/-- `QVector::resize(size)`, whose new entries are zero. -/
def resize (array : List PollStruct) (size : Nat) : List PollStruct :=
  array.take size ++ List.replicate (size - array.length) ⟨0, 0, 0⟩

/-- `indexOfDescriptor(descriptor)`. -/
def indexOfDescriptor (polling : Polling) (descriptor : Descriptor) : Option Nat :=
  polling.pollers.findIdx? fun poller => (polling.objects poller).descriptor = descriptor

/-- `registerPoller(poller)`, which takes the place of a poller with the same descriptor. -/
def registerPoller (polling : Polling) (poller : PollerPtr) : Nat × Polling :=
  let pollers :=
    match polling.indexOfDescriptor (polling.objects poller).descriptor with
    | some index => polling.pollers.set index poller
    | none => polling.pollers ++ [poller]
  let pollStructArray := resize polling.pollStructArray pollers.length
  (pollers.length, { polling with pollers, pollStructArray })

/-- `unregisterPoller(poller)`; the entries do not move with the pollers. -/
def unregisterPoller (polling : Polling) (poller : PollerPtr) : Nat × Polling :=
  let pollers := polling.pollers.filter (· ≠ poller)
  let pollStructArray := resize polling.pollStructArray pollers.length
  (pollers.length, { polling with pollers, pollStructArray })

/-- The loop of `poll(timeout)` that fills in the array for the system call. -/
def assigned (polling : Polling) : List PollStruct :=
  List.zipWith (fun poller event => (polling.objects poller).assign event)
    polling.pollers polling.pollStructArray

/-- `poll(timeout)`, up to the return of the system call with the events that have occurred. -/
def poll (polling : Polling) (revents : Nat → UInt16) : Polling :=
  { polling with
    pollStructArray := polling.assigned.mapIdx fun index event =>
      { event with revents := revents index } }

/-- The state after an event. -/
def step (polling : Polling) : PollingEvent → Polling
  | .registerPoller poller => (polling.registerPoller poller).2
  | .unregisterPoller poller => (polling.unregisterPoller poller).2
  | .change poller call =>
    { polling with
      objects := Function.update polling.objects poller ((polling.objects poller).perform call) }
  | .poll revents => polling.poll revents

/-- A system call gets the current descriptor of each poller, in the order of registration. -/
def WatchesCurrent (polling : Polling) : PollingEvent → Prop
  | .poll _ =>
    polling.assigned.map PollStruct.fd =
      polling.pollers.map fun poller => (polling.objects poller).descriptor
  | _ => True

/-- When `poll` is called, the entries of disconnected pollers hold an invalid descriptor already. -/
def LeftInvalid (polling : Polling) : PollingEvent → Prop
  | .poll _ => ∀ entry ∈ polling.pollers.zip polling.pollStructArray,
      (polling.objects entry.1).Disconnected → entry.2.fd = INVALID_DESCRIPTOR
  | _ => True

/-- There is an entry for each poller, and the pollers that are disconnected have no descriptors. -/
structure Kept (polling : Polling) : Prop where
  sized : polling.pollers.length = polling.pollStructArray.length
  settled : ∀ poller, (polling.objects poller).Settled

/-- The array has the size that it is given. -/
@[simp] theorem length_resize (array : List PollStruct) (size : Nat) :
    (resize array size).length = size := by
  rw [resize, List.length_append, List.length_take, List.length_replicate]
  omega

/-- The list and the array have the same size after an event if they had before. -/
theorem sized_step {polling : Polling}
    (sized : polling.pollers.length = polling.pollStructArray.length) (event : PollingEvent) :
    (polling.step event).pollers.length = (polling.step event).pollStructArray.length := by
  -- The array is resized with the list, and no other event changes their sizes.
  cases event with
  | registerPoller poller => exact (length_resize ..).symm
  | unregisterPoller poller => exact (length_resize ..).symm
  | change poller call => exact sized
  | poll revents =>
    simp only [Polling.step, poll, assigned, List.length_mapIdx, List.length_zipWith]
    omega

/-- Every event keeps the sizes equal and the pollers settled. -/
theorem Kept.step {polling : Polling} (kept : polling.Kept) (event : PollingEvent) :
    (polling.step event).Kept := by
  refine ⟨sized_step kept.sized event, ?_⟩
  -- Only a call on a poller changes what the pointers refer to.
  cases event with
  | registerPoller poller => exact kept.settled
  | unregisterPoller poller => exact kept.settled
  | change poller call =>
    intro other
    show (Function.update polling.objects poller _ other).Settled
    by_cases same : other = poller
    · subst same
      rw [Function.update_self]
      exact (kept.settled other).perform call
    · rw [Function.update_of_ne same]
      exact kept.settled other
  | poll revents => exact kept.settled

/-- A call of `poll` watches the current descriptors unless an entry was left from before. -/
theorem Kept.watches_iff {polling : Polling} (kept : polling.Kept) (event : PollingEvent) :
    polling.WatchesCurrent event ↔ polling.LeftInvalid event := by
  -- The two lists are compared entry by entry.
  cases event with
  | registerPoller poller => rfl
  | unregisterPoller poller => rfl
  | change poller call => rfl
  | poll revents =>
    refine (ItemByItem.map_zipWith_eq_iff kept.sized).trans (forall₂_congr fun entry _ => ?_)
    exact (kept.settled entry.1).fd_assign_iff entry.2

/--
Every call of `poll` in a run watches the current descriptors exactly when the entry of each
disconnected handler holds an invalid descriptor before the call.

Such an entry is not filled in, and keeps the zero or the descriptor that it was left with.
-/
theorem watchesCurrent_iff {objects : PollerPtr → Poller}
    (constructed : ∀ poller, (objects poller).Constructed) (events : List PollingEvent) :
    EventMachine.Along step WatchesCurrent (created objects) events ↔
      EventMachine.Along step LeftInvalid (created objects) events := by
  have initially : (created objects).Kept := ⟨rfl, fun poller => (constructed poller).settled⟩
  have preserved : ∀ polling : Polling, ∀ event, polling.Kept → (polling.step event).Kept :=
    fun _ event kept => kept.step event
  exact EventMachine.along_iff step preserved (fun _ event kept => kept.watches_iff event)
    initially events

/-- A client that is polled while it connects, and polled again after it has been closed. -/
def closedInBetween : List PollingEvent :=
  [.registerPoller 0, .change 0 (.handler (.open HandlerTcpSocket.pending 0)), .poll fun _ => 0,
    .change 0 (.handler .close), .poll fun _ => 0]

/-- The descriptor 7 is polled after it was closed. -/
theorem watchesCurrent_fails :
    ¬ ∀ objects : PollerPtr → Poller, (∀ poller, (objects poller).Constructed) → ∀ events,
      EventMachine.Along step WatchesCurrent (created objects) events := by
  intro always
  obtain ⟨_, _, _, _, watches, _⟩ :=
    always (fun _ => .tcpSocket .client false) (fun _ => rfl) closedInBetween
  have polled : [(7 : Descriptor)] = [INVALID_DESCRIPTOR] := watches
  exact absurd polled (by decide)

/-- A thread that polls nothing but its pipe watches the current descriptor. -/
theorem watchesCurrent_iff_pipe :
    EventMachine.Along step WatchesCurrent (created fun _ => .base 5 POLLIN)
        [.registerPoller 0, .poll fun _ => 0] ↔
      EventMachine.Along step LeftInvalid (created fun _ => .base 5 POLLIN)
        [.registerPoller 0, .poll fun _ => 0] :=
  watchesCurrent_iff (fun _ => show Poller.Constructed (.base 5 POLLIN) from trivial) _

end Polling

end Threader
