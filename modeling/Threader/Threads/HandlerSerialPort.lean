import Threader.Base.EventMachine
import Threader.Threads.HandlerBase

/-! `HandlerSerialPort` on Linux: the state of a port, and the descriptors that it obtains. -/

namespace Threader

/-- What happens to the descriptors of a device. -/
inductive DescriptorEvent
  | obtained (descriptor : Nat)
  | closed (descriptor : Descriptor)
deriving DecidableEq, Repr

/-- `HandlerSerialPort`, with what it has emitted, and obtained and closed. -/
structure HandlerSerialPort where
  deviceName : String
  connectionState : ConnectionState
  descriptor : Descriptor
  signals : List HandlerSignal
  descriptors : List DescriptorEvent
deriving DecidableEq, Repr

namespace HandlerSerialPort

/-- The constructor, in which `setConnectionState` finds nothing to change. -/
def created (deviceName : String) : HandlerSerialPort :=
  ⟨deviceName, .disconnected, INVALID_DESCRIPTOR, [], []⟩

/-- `emit signal`. -/
def signal (handler : HandlerSerialPort) (signal : HandlerSignal) : HandlerSerialPort :=
  { handler with signals := handler.signals ++ [signal] }

/-- The part of `setConnectionState(value)` behind its call of `close`. -/
def changeState (handler : HandlerSerialPort) (value : ConnectionState) : HandlerSerialPort :=
  if value ≠ handler.connectionState then
    { handler with connectionState := value }
      |>.signal (.onConnectionStateChanged handler.connectionState value)
  else handler

-- `none` is a call that needs more nested calls than the given depth.
mutual

/-- `close()`. -/
def close : Nat → HandlerSerialPort → Option HandlerSerialPort
  | 0, _ => none
  | depth + 1, handler => do
    let handler ←
      if INVALID_DESCRIPTOR ≠ handler.descriptor then
        let closed := handler.descriptors ++ [.closed handler.descriptor]
        setDescriptor depth { handler with descriptors := closed } INVALID_DESCRIPTOR
      else some handler
    if handler.connectionState = .disconnected then some handler
    else setConnectionState depth handler .disconnected

/-- `setDescriptor(value)`. -/
def setDescriptor : Nat → HandlerSerialPort → Descriptor → Option HandlerSerialPort
  | 0, _, _ => none
  | depth + 1, handler, value =>
    let handler := { handler with descriptor := value }
    if INVALID_DESCRIPTOR = handler.descriptor then setConnectionState depth handler .disconnected
    else if .connecting ≠ handler.connectionState then setConnectionState depth handler .connected
    else some handler

/-- `setConnectionState(value)`. -/
def setConnectionState : Nat → HandlerSerialPort → ConnectionState → Option HandlerSerialPort
  | 0, _, _ => none
  | depth + 1, handler, value => do
    let handler ←
      if .disconnected = value ∧ handler.descriptor ≠ INVALID_DESCRIPTOR then close depth handler
      else some handler
    some (handler.changeState value)

end

/-- `open()`, where `openSerial` returns a descriptor, or fails and leaves a number in `errno`. -/
def «open» (depth : Nat) (handler : HandlerSerialPort) (openSerial : Except Int Nat) :
    Option (Bool × HandlerSerialPort) := do
  let handler ← close depth handler
  let handler ← setConnectionState depth handler .connecting
  match openSerial with
  | .ok descriptor =>
    let obtained := handler.descriptors ++ [.obtained descriptor]
    let handler ← setDescriptor depth { handler with descriptors := obtained } descriptor
    let handler ← setConnectionState depth handler .connected
    some (true, handler)
  | .error errno =>
    let handler ← setDescriptor depth handler INVALID_DESCRIPTOR
    some (false, handler.signal (.onError errno))

/-- `setDeviceName(deviceName)`. -/
def setDeviceName (depth : Nat) (handler : HandlerSerialPort) (deviceName : String) :
    Option HandlerSerialPort := do
  let handler ←
    if .disconnected ≠ handler.connectionState then close depth handler else some handler
  some { handler with deviceName }

/-- `process(event)`, with the `errno` at that time. -/
def process (depth : Nat) (handler : HandlerSerialPort) (event : PollFd) (errno : Int) :
    Option (Bool × HandlerSerialPort) :=
  if event.fd = handler.descriptor then do
    let handler ←
      (if event.has POLLERR ∨ event.has POLLNVAL then close depth (handler.signal (.onError errno))
      else some handler)
    let handler ← (if event.has POLLHUP then close depth handler else some handler)
    if handler.connectionState ≠ .disconnected then
      let handler := if event.has POLLIN then handler.signal .onReadyRead else handler
      if event.has POLLOUT then
        let handler ←
          (if handler.connectionState = .connecting then setConnectionState depth handler .connected
          else some handler)
        some (true, handler.signal .onReadyWrite)
      else some (true, handler)
    else some (true, handler)
  else some (false, handler)

/-- The calls that are made from outside, with the answers of the system to each of them. -/
inductive Call
  | open (openSerial : Except Int Nat)
  | close
  | setDeviceName (deviceName : String)
  | process (event : PollFd) (errno : Int)

/-- The handler after a call. -/
def step (depth : Nat) (handler : HandlerSerialPort) : Call → Option HandlerSerialPort
  | .open openSerial => (handler.open depth openSerial).map Prod.snd
  | .close => close depth handler
  | .setDeviceName deviceName => handler.setDeviceName depth deviceName
  | .process event errno => (handler.process depth event errno).map Prod.snd

/-- Descriptors are obtained and closed in turns, and one is held exactly in between. -/
inductive InTurns : List DescriptorEvent → Descriptor → Prop
  | nothing : InTurns [] INVALID_DESCRIPTOR
  | obtained {events : List DescriptorEvent} (earlier : InTurns events INVALID_DESCRIPTOR)
      (descriptor : Nat) : InTurns (events ++ [.obtained descriptor]) descriptor
  | closed {events : List DescriptorEvent} {descriptor : Descriptor}
      (earlier : InTurns events descriptor) (valid : descriptor ≠ INVALID_DESCRIPTOR) :
      InTurns (events ++ [.closed descriptor]) INVALID_DESCRIPTOR

/-- The changes of the state, from `Disconnected` on, each one away from where the last one led. -/
inductive Chain : List HandlerSignal → ConnectionState → Prop
  | start : Chain [] .disconnected
  | changed {signals : List HandlerSignal} {oldState : ConnectionState}
      (earlier : Chain signals oldState) {newState : ConnectionState}
      (differs : oldState ≠ newState) :
      Chain (signals ++ [.onConnectionStateChanged oldState newState]) newState
  | other {signals : List HandlerSignal} {state : ConnectionState} (earlier : Chain signals state)
      {signal : HandlerSignal}
      (unrelated : ∀ oldState newState, signal ≠ .onConnectionStateChanged oldState newState) :
      Chain (signals ++ [signal]) state

/-- The state says whether there is a descriptor, and so do the traces that the handler left. -/
structure Consistent (handler : HandlerSerialPort) : Prop where
  connected : handler.connectionState = .connected ↔ handler.descriptor ≠ INVALID_DESCRIPTOR
  disconnected : handler.connectionState = .disconnected ↔ handler.descriptor = INVALID_DESCRIPTOR
  inTurns : InTurns handler.descriptors handler.descriptor
  chain : Chain handler.signals handler.connectionState

section

variable (handler : HandlerSerialPort) (value : ConnectionState)

@[simp] theorem changeState_connectionState :
    (handler.changeState value).connectionState = value := by
  unfold changeState
  split
  · rfl
  · -- Where nothing is to be changed, the state is the new one already.
    rename_i same
    exact (not_not.mp same).symm

@[simp] theorem changeState_descriptor :
    (handler.changeState value).descriptor = handler.descriptor := by
  unfold changeState
  split <;> rfl

@[simp] theorem changeState_descriptors :
    (handler.changeState value).descriptors = handler.descriptors := by
  unfold changeState
  split <;> rfl

/-- A change of the state continues the chain, and no change leaves it as it is. -/
theorem chain_changeState {handler : HandlerSerialPort}
    (chain : Chain handler.signals handler.connectionState) (value : ConnectionState) :
    Chain (handler.changeState value).signals value := by
  unfold changeState
  split
  · rename_i differs
    -- The old state is the one that the last change led to.
    exact chain.changed (Ne.symm differs)
  · rename_i same
    rw [not_not.mp same]
    exact chain

/-- What `close()` leaves behind: the descriptor is closed if there is one. -/
def closed : HandlerSerialPort :=
  if INVALID_DESCRIPTOR ≠ handler.descriptor then
    { handler with
      descriptor := INVALID_DESCRIPTOR
      descriptors := handler.descriptors ++ [DescriptorEvent.closed handler.descriptor] }
      |>.changeState .disconnected
  else handler.changeState .disconnected

/-- A state that needs no descriptor to be closed is set at once. -/
theorem setConnectionState_eq (depth : Nat)
    (nothing : ¬ (.disconnected = value ∧ handler.descriptor ≠ INVALID_DESCRIPTOR)) :
    setConnectionState (depth + 1) handler value = some (handler.changeState value) := by
  rw [setConnectionState, if_neg nothing]
  rfl

/-- A descriptor that is given up disconnects the handler. -/
theorem setDescriptor_invalid (depth : Nat) :
    setDescriptor (depth + 2) handler INVALID_DESCRIPTOR =
      some ({ handler with descriptor := INVALID_DESCRIPTOR }.changeState .disconnected) := by
  -- The descriptor is gone already when the state is set, so it is not closed again.
  have closed : ¬ (.disconnected = ConnectionState.disconnected ∧
      ({ handler with descriptor := INVALID_DESCRIPTOR } : HandlerSerialPort).descriptor ≠
        INVALID_DESCRIPTOR) := fun both => both.2 rfl
  rw [setDescriptor, if_pos rfl]
  exact setConnectionState_eq _ _ depth closed

/-- Closing takes three nested calls at most, whatever the state is. -/
theorem close_eq (depth : Nat) : close (depth + 3) handler = some handler.closed := by
  rw [close, closed]
  by_cases valid : INVALID_DESCRIPTOR ≠ handler.descriptor
  · -- The state is set on the way, and is found to be set on the way back.
    rw [if_pos valid, if_pos valid]
    dsimp only
    rw [setDescriptor_invalid]
    simp
  · -- Without a descriptor only the state is set, if it has to be.
    rw [if_neg valid, if_neg valid]
    have nothing : ¬ (.disconnected = ConnectionState.disconnected ∧
        handler.descriptor ≠ INVALID_DESCRIPTOR) := fun both => valid both.2.symm
    show (if handler.connectionState = .disconnected then some handler
      else setConnectionState (depth + 2) handler .disconnected) = _
    split
    · rename_i disconnected
      rw [changeState, if_neg (not_not.mpr disconnected.symm)]
    · exact setConnectionState_eq _ _ (depth + 1) nothing

/-- The three functions end from every state, however deep they have been called. -/
theorem nested_calls_end (descriptor : Descriptor) (depth : Nat) :
    (close (depth + 4) handler).isSome ∧ (setDescriptor (depth + 4) handler descriptor).isSome ∧
      (setConnectionState (depth + 4) handler value).isSome := by
  refine ⟨by rw [close_eq]; rfl, ?_, ?_⟩
  -- The other two set the state once, or close the port once.
  · rw [setDescriptor]
    dsimp only
    split
    · rename_i invalid
      rw [setConnectionState_eq _ _ _ fun both => both.2 invalid.symm]
      rfl
    · split
      · rw [setConnectionState_eq _ _ _ fun both => by cases both.1]
        rfl
      · rfl
  · rw [setConnectionState]
    split
    · rw [close_eq]
      rfl
    · rfl

end

section

variable {handler : HandlerSerialPort}

/-- Between calls a handler is never connecting. -/
theorem Consistent.not_connecting (consistent : handler.Consistent) :
    handler.connectionState ≠ .connecting := by
  intro connecting
  -- It would have to be connected or disconnected by its descriptor.
  by_cases invalid : handler.descriptor = INVALID_DESCRIPTOR
  · have disconnected := consistent.disconnected.mpr invalid
    rw [connecting] at disconnected
    cases disconnected
  · have connected := consistent.connected.mpr invalid
    rw [connecting] at connected
    cases connected

/-- A signal that concerns no change of the state keeps everything in order. -/
theorem Consistent.signal (consistent : handler.Consistent) {signal : HandlerSignal}
    (unrelated : ∀ oldState newState, signal ≠ .onConnectionStateChanged oldState newState) :
    (handler.signal signal).Consistent :=
  ⟨consistent.connected, consistent.disconnected, consistent.inTurns,
    consistent.chain.other unrelated⟩

/-- Closing gives the descriptor up that was held, and disconnects. -/
theorem Consistent.closed (consistent : handler.Consistent) :
    handler.closed.Consistent ∧ handler.closed.descriptor = INVALID_DESCRIPTOR := by
  -- There is a descriptor to be closed, or only a state to be set.
  unfold HandlerSerialPort.closed
  split
  · rename_i valid
    refine ⟨⟨by simp, by simp, ?_, ?_⟩, by simp⟩
    · simpa using consistent.inTurns.closed valid.symm
    · rw [changeState_connectionState]
      apply chain_changeState
      exact consistent.chain
  · rename_i invalid
    have invalid : handler.descriptor = INVALID_DESCRIPTOR := (not_not.mp invalid).symm
    refine ⟨⟨by simp [invalid], by simp [invalid], ?_, ?_⟩, by simpa using invalid⟩
    · simpa using consistent.inTurns
    · rw [changeState_connectionState]
      exact chain_changeState consistent.chain _

/-- Any state but `Disconnected` is set at once. -/
theorem setConnectionState_of_ne (depth : Nat) {value : ConnectionState}
    (differs : .disconnected ≠ value) :
    setConnectionState (depth + 3) handler value = some (handler.changeState value) :=
  setConnectionState_eq _ _ (depth + 2) fun both => differs both.1

/-- A port that is opened is closed first, and then says that it is connecting. -/
theorem Consistent.connecting (consistent : handler.Consistent) :
    InTurns handler.closed.descriptors INVALID_DESCRIPTOR ∧
      Chain (handler.closed.changeState .connecting).signals .connecting := by
  obtain ⟨given, invalid⟩ := consistent.closed
  -- Nothing is held after the port was closed.
  have inTurns := given.inTurns
  rw [invalid] at inTurns
  exact ⟨inTurns, chain_changeState given.chain _⟩

/-- An attempt to open that succeeds ends connected with the new descriptor. -/
theorem Consistent.succeeded (consistent : handler.Consistent) (descriptor : Nat) :
    ∃ after, (∀ depth, (handler.open (depth + 3) (.ok descriptor)).map Prod.snd = some after) ∧
      after.Consistent := by
  obtain ⟨earlier, connecting⟩ := consistent.connecting
  have valid := socket_ne_invalid descriptor
  -- The new descriptor is held by a handler that is still connecting.
  let obtained : HandlerSerialPort :=
    { handler.closed.changeState .connecting with
      descriptor := descriptor
      descriptors := handler.closed.descriptors ++ [.obtained descriptor] }
  refine ⟨obtained.changeState .connected, fun depth => ?_, ?_, ?_, ?_, ?_⟩
  · -- The descriptor is set while the handler is connecting, which changes no state.
    have set : setDescriptor (depth + 3)
        { handler.closed.changeState .connecting with
          descriptors := (handler.closed.changeState .connecting).descriptors ++
            [.obtained descriptor] } descriptor = some obtained := by
      rw [setDescriptor]
      simp [valid.symm, obtained]
    have connects := @setConnectionState_of_ne obtained depth .connected nofun
    have starts := @setConnectionState_of_ne handler.closed depth .connecting nofun
    simp only [HandlerSerialPort.open, close_eq, starts, set, connects, Option.bind_eq_bind,
      Option.bind_some, Option.map_some]
  · simp [obtained, valid]
  · simp [obtained, valid]
  · rw [changeState_descriptors, changeState_descriptor]
    exact earlier.obtained descriptor
  · rw [changeState_connectionState]
    apply chain_changeState
    simpa [obtained] using connecting

/-- An attempt to open that fails ends disconnected, and signals an error. -/
theorem Consistent.failed (consistent : handler.Consistent) (errno : Int) :
    ∃ after, (∀ depth, (handler.open (depth + 3) (.error errno)).map Prod.snd = some after) ∧
      after.Consistent := by
  obtain ⟨earlier, connecting⟩ := consistent.connecting
  -- No descriptor was obtained, and the state goes back from connecting to disconnected.
  let failed : HandlerSerialPort :=
    { handler.closed.changeState .connecting with descriptor := INVALID_DESCRIPTOR }
      |>.changeState .disconnected
  have ordered : failed.Consistent := by
    refine ⟨by simp [failed], by simp [failed], ?_, ?_⟩
    · simpa [failed] using earlier
    · rw [changeState_connectionState]
      apply chain_changeState
      simpa using connecting
  refine ⟨failed.signal (.onError errno), fun depth => ?_, ordered.signal (by simp)⟩
  have starts := @setConnectionState_of_ne handler.closed depth .connecting nofun
  simp only [HandlerSerialPort.open, close_eq, starts, setDescriptor_invalid,
    Option.bind_eq_bind, Option.bind_some, Option.map_some, failed]

/-- An attempt to open ends connected with a new descriptor, or disconnected without one. -/
theorem Consistent.opened (consistent : handler.Consistent) (openSerial : Except Int Nat) :
    ∃ after, (∀ depth, (handler.open (depth + 3) openSerial).map Prod.snd = some after) ∧
      after.Consistent := by
  cases openSerial with
  | ok descriptor => exact consistent.succeeded descriptor
  | error errno => exact consistent.failed errno

/-- Whatever an event says, it leaves a handler that is in order. -/
theorem Consistent.processed (consistent : handler.Consistent) (event : PollFd) (errno : Int) :
    ∃ after, (∀ depth, (handler.process (depth + 3) event errno).map Prod.snd = some after) ∧
      after.Consistent := by
  by_cases own : event.fd = handler.descriptor
  · -- The port is closed on an error, and closed again when the other side has hung up.
    obtain ⟨checked, checks, ordered⟩ : ∃ checked, (∀ depth,
        (if event.has POLLERR ∨ event.has POLLNVAL then
          close (depth + 3) (handler.signal (.onError errno)) else some handler) = some checked) ∧
        checked.Consistent := by
      by_cases error : event.has POLLERR ∨ event.has POLLNVAL
      · exact ⟨_, fun depth => (if_pos error).trans (close_eq _ depth),
          (consistent.signal (by simp)).closed.1⟩
      · exact ⟨handler, fun _ => if_neg error, consistent⟩
    obtain ⟨alive, closes, ordered⟩ : ∃ alive, (∀ depth,
        (if event.has POLLHUP then close (depth + 3) checked else some checked) = some alive) ∧
        alive.Consistent := by
      by_cases hangup : event.has POLLHUP
      · exact ⟨_, fun depth => (if_pos hangup).trans (close_eq _ depth), ordered.closed.1⟩
      · exact ⟨checked, fun _ => if_neg hangup, ordered⟩
    simp only [process, if_pos own, checks, closes, Option.bind_eq_bind, Option.bind_some]
    by_cases disconnected : alive.connectionState = .disconnected
    · exact ⟨alive, fun depth => by rw [if_neg (not_not.mpr disconnected)]; rfl, ordered⟩
    · -- A handler that is in order is not connecting, and it only signals.
      obtain ⟨read, reads, ordered⟩ : ∃ read,
          (if event.has POLLIN then alive.signal .onReadyRead else alive) = read ∧
            read.Consistent := by
        by_cases readable : event.has POLLIN
        · exact ⟨_, if_pos readable, ordered.signal (by simp)⟩
        · exact ⟨alive, if_neg readable, ordered⟩
      have established := ordered.not_connecting
      simp only [if_pos (show alive.connectionState ≠ .disconnected from disconnected), reads,
        if_neg established, Option.bind_some]
      by_cases writable : event.has POLLOUT
      · exact ⟨_, fun depth => by rw [if_pos writable]; rfl, ordered.signal (by simp)⟩
      · exact ⟨read, fun depth => by rw [if_neg writable]; rfl, ordered⟩
  · exact ⟨handler, fun depth => by rw [process, if_neg own]; rfl, consistent⟩

/-- A port that gets another name is closed unless it is disconnected. -/
theorem Consistent.renamed (consistent : handler.Consistent) (deviceName : String) :
    ∃ after, (∀ depth, handler.setDeviceName (depth + 3) deviceName = some after) ∧
      after.Consistent := by
  by_cases connected : .disconnected ≠ handler.connectionState
  · -- The name has no part in what is kept in order.
    obtain ⟨given, _⟩ := consistent.closed
    refine ⟨{ handler.closed with deviceName }, fun depth => ?_, ?_⟩
    · simp [setDeviceName, if_pos connected, close_eq]
    · exact ⟨given.connected, given.disconnected, given.inTurns, given.chain⟩
  · refine ⟨{ handler with deviceName }, fun depth => ?_, ?_⟩
    · simp [setDeviceName, if_neg connected]
    · exact ⟨consistent.connected, consistent.disconnected, consistent.inTurns, consistent.chain⟩

/-- Every call ends, and leaves a handler that is in order. -/
theorem Consistent.step (consistent : handler.Consistent) (call : Call) :
    ∃ after, (∀ depth, handler.step (depth + 3) call = some after) ∧ after.Consistent := by
  cases call with
  | «open» openSerial => exact consistent.opened openSerial
  | close => exact ⟨_, close_eq handler, consistent.closed.1⟩
  | setDeviceName deviceName => exact consistent.renamed deviceName
  | process event errno => exact consistent.processed event errno

end

/--
Every run of a port ends each of its calls, connected with a descriptor or disconnected without.

The descriptors it obtained were closed in turns, and the changes of its state form a chain.
-/
theorem run_consistent (deviceName : String) (calls : List Call) :
    ∃ handler,
      (∀ depth, calls.foldlM (step (depth + 3)) (created deviceName) = some handler) ∧
      (handler.connectionState = .connected ↔ handler.descriptor ≠ INVALID_DESCRIPTOR) ∧
      (handler.connectionState = .disconnected ↔ handler.descriptor = INVALID_DESCRIPTOR) ∧
      handler.connectionState ≠ .connecting ∧
      InTurns handler.descriptors handler.descriptor ∧
      Chain handler.signals handler.connectionState := by
  -- Every call is made of a handler that is in order, and leaves one behind.
  suffices ∀ start : HandlerSerialPort, start.Consistent →
      ∃ handler, (∀ depth, calls.foldlM (step (depth + 3)) start = some handler) ∧
        handler.Consistent by
    obtain ⟨handler, ends, consistent⟩ :=
      this (created deviceName) ⟨by simp [created], by simp [created], .nothing, .start⟩
    exact ⟨handler, ends, consistent.connected, consistent.disconnected,
      consistent.not_connecting, consistent.inTurns, consistent.chain⟩
  induction calls with
  | nil => exact fun start consistent => ⟨start, fun _ => rfl, consistent⟩
  | cons call calls ih =>
    intro start consistent
    -- The first call leads to a handler in order, from which the others start.
    obtain ⟨next, steps, ordered⟩ := consistent.step call
    obtain ⟨handler, ends, last⟩ := ih next ordered
    refine ⟨handler, fun depth => ?_, last⟩
    rw [List.foldlM_cons, steps depth]
    exact ends depth

end HandlerSerialPort

end Threader
