import Threader.Base.EventMachine
import Threader.Threads.HandlerBase

/-! `HandlerTcpSocket` on Linux: the state of a connection, and the socket it runs over. -/

namespace Threader

/-- `HandlerTcpSocket::SocketType`. -/
inductive SocketType
  | server
  | client
deriving DecidableEq, Repr

/-- `HandlerTcpSocket`: a handler, with the sockets it has opened and not closed yet. -/
structure HandlerTcpSocket where
  socketType : SocketType
  connectionState : ConnectionState
  descriptor : Descriptor
  sockets : List Nat
  signals : List HandlerSignal
deriving DecidableEq, Repr

/-- What the system answers while an event is processed. -/
structure ProcessCalls where
  -- The `errno` at the time of an error.
  lastError : Int
  -- The pending error of the socket, unless `getsockopt` fails.
  getsockopt : Option Int

namespace HandlerTcpSocket

/-- The constructor without a descriptor, which makes a client. -/
def client : HandlerTcpSocket := ⟨.client, .disconnected, INVALID_DESCRIPTOR, [], []⟩

/-- `emit signal`. -/
def signal (handler : HandlerTcpSocket) (signal : HandlerSignal) : HandlerTcpSocket :=
  { handler with signals := handler.signals ++ [signal] }

/-- `doReadyRead()`. -/
def doReadyRead (handler : HandlerTcpSocket) : HandlerTcpSocket := handler.signal .onReadyRead

/-- `doReadyWrite()`. -/
def doReadyWrite (handler : HandlerTcpSocket) : HandlerTcpSocket := handler.signal .onReadyWrite

/-- `doError(errorCode)`. -/
def doError (handler : HandlerTcpSocket) (errorCode : Int) : HandlerTcpSocket :=
  handler.signal (.onError errorCode)

/-- The part of `setConnectionState(value)` behind its call of `close`. -/
def changeState (handler : HandlerTcpSocket) (value : ConnectionState) : HandlerTcpSocket :=
  if value ≠ handler.connectionState then
    { handler with connectionState := value }
      |>.signal (.onConnectionStateChanged handler.connectionState value)
  else handler

/-- `setDescriptor(value)`; no call of `setConnectionState` in it gets as far as `close`. -/
def setDescriptor (handler : HandlerTcpSocket) (value : Descriptor) : HandlerTcpSocket :=
  let handler := { handler with descriptor := value }
  if value = INVALID_DESCRIPTOR then handler.changeState .disconnected
  else if handler.connectionState ≠ .connecting then handler.changeState .connected
  else handler

/-- `close()`. -/
def close (handler : HandlerTcpSocket) : HandlerTcpSocket :=
  if handler.descriptor = INVALID_DESCRIPTOR then handler
  else
    { handler with sockets := SocketUtils.closeSocket handler.descriptor handler.sockets }
      |>.setDescriptor INVALID_DESCRIPTOR

/-- `setConnectionState(value)`. -/
def setConnectionState (handler : HandlerTcpSocket) (value : ConnectionState) : HandlerTcpSocket :=
  let handler :=
    if value = .disconnected ∧ handler.descriptor ≠ INVALID_DESCRIPTOR then handler.close else handler
  handler.changeState value

/-- The three functions call each other as `HandlerBase::setDescriptor` says. -/
theorem setDescriptor_eq (handler : HandlerTcpSocket) (value : Descriptor) :
    handler.setDescriptor value =
      if value = INVALID_DESCRIPTOR then
        { handler with descriptor := value }.setConnectionState .disconnected
      else if handler.connectionState ≠ .connecting then
        { handler with descriptor := value }.setConnectionState .connected
      else { handler with descriptor := value } := by
  -- With an invalid descriptor, and for any other state, nothing is left to be closed.
  by_cases invalid : value = INVALID_DESCRIPTOR
  · simp [setDescriptor, setConnectionState, invalid]
  · simp [setDescriptor, setConnectionState, invalid]

/-- `open()`: whether there is a descriptor, and the handler afterwards. -/
def «open» (handler : HandlerTcpSocket) (calls : SocketCalls) (errorCode : Int) :
    Bool × HandlerTcpSocket :=
  if handler.socketType ≠ .client then (false, handler)
  else
    let handler := handler.setConnectionState .connecting
    -- The variable the error code is returned in starts with an arbitrary value.
    let opened := SocketUtils.openTcpClientSocket calls errorCode handler.sockets
    let handler := { handler with sockets := opened.2.2 }
    let handler :=
      if opened.2.1 ≠ 0 ∧ opened.2.1 ≠ EINPROGRESS then handler.doError opened.2.1
      else handler.setDescriptor opened.1
    (decide (opened.1 ≠ INVALID_DESCRIPTOR), handler)

/-- The branch of `process(event)` for a socket that can be written to. -/
def processWritable (handler : HandlerTcpSocket) (calls : ProcessCalls) : Bool × HandlerTcpSocket :=
  if handler.connectionState = .connecting then
    -- The pending error of the socket tells whether the connection was made.
    if calls.getsockopt = some 0 then (true, (handler.setConnectionState .connected).doReadyWrite)
    else (false, (handler.doError calls.lastError).close)
  else (true, handler.doReadyWrite)

/-- `process(event)`. -/
def process (handler : HandlerTcpSocket) (event : PollFd) (calls : ProcessCalls) :
    Bool × HandlerTcpSocket :=
  if handler.connectionState = .disconnected ∨ handler.descriptor = INVALID_DESCRIPTOR then
    (false, handler)
  else if event.fd ≠ handler.descriptor then (false, handler)
  else
    let handler :=
      if event.has (POLLERR ||| POLLNVAL) then (handler.doError calls.lastError).close else handler
    if event.has (POLLHUP ||| POLLRDHUP) then (true, handler.doReadyRead.close)
    else
      let written := if event.has POLLOUT then handler.processWritable calls else (true, handler)
      if !written.1 then (false, written.2)
      else (true, if event.has POLLIN then written.2.doReadyRead else written.2)

end HandlerTcpSocket

/-- The calls that are made from outside, with the answers of the system to each of them. -/
inductive HandlerCall
  | open (calls : SocketCalls) (errorCode : Int)
  | close
  | process (event : PollFd) (calls : ProcessCalls)

namespace HandlerTcpSocket

/-- The handler after a call. -/
def step (handler : HandlerTcpSocket) : HandlerCall → HandlerTcpSocket
  | .open calls errorCode => (handler.open calls errorCode).2
  | .close => handler.close
  | .process event calls => (handler.process event calls).2

/-- A client whose state agrees with its descriptor, and which holds no other socket. -/
structure Agrees (handler : HandlerTcpSocket) : Prop where
  socketType : handler.socketType = .client
  disconnected : handler.connectionState = .disconnected ↔ handler.descriptor = INVALID_DESCRIPTOR
  sockets : ∀ socket ∈ handler.sockets, (socket : Descriptor) = handler.descriptor

/-- `open` is called only while the handler is disconnected. -/
def OpensDisconnected (handler : HandlerTcpSocket) : HandlerCall → Prop
  | .open _ _ => handler.connectionState = .disconnected
  | _ => True

/-- No call that `open` makes reports an error, other than one that leaves the attempt pending. -/
def ReportsNoError (_ : HandlerTcpSocket) : HandlerCall → Prop
  | .open calls errorCode => calls.firstError errorCode = 0 ∨ calls.firstError errorCode = EINPROGRESS
  | _ => True

section

variable {handler : HandlerTcpSocket}

@[simp] theorem changeState_connectionState (handler : HandlerTcpSocket) (value : ConnectionState) :
    (handler.changeState value).connectionState = value := by
  unfold changeState
  split
  · rfl
  · rename_i same
    exact (not_not.mp same).symm

@[simp] theorem changeState_descriptor (handler : HandlerTcpSocket) (value : ConnectionState) :
    (handler.changeState value).descriptor = handler.descriptor := by
  unfold changeState
  split <;> rfl

@[simp] theorem changeState_sockets (handler : HandlerTcpSocket) (value : ConnectionState) :
    (handler.changeState value).sockets = handler.sockets := by
  unfold changeState
  split <;> rfl

@[simp] theorem changeState_socketType (handler : HandlerTcpSocket) (value : ConnectionState) :
    (handler.changeState value).socketType = handler.socketType := by
  unfold changeState
  split <;> rfl

/-- What signals, closing and writable sockets preserve, every event preserves. -/
theorem process_preserves {holds : HandlerTcpSocket → Prop}
    (signals : ∀ handler, holds handler → ∀ signal, holds (handler.signal signal))
    (closes : ∀ handler, holds handler → holds handler.close)
    (writes : ∀ handler, holds handler → ∀ calls, holds (handler.processWritable calls).2)
    (initially : holds handler) (event : PollFd) (calls : ProcessCalls) :
    holds (handler.process event calls).2 := by
  unfold HandlerTcpSocket.process
  split
  · exact initially
  · split
    · exact initially
    · -- An error closes the socket first, and the other branches go on from there.
      have checked : holds (if event.has (POLLERR ||| POLLNVAL) then
          (handler.doError calls.lastError).close else handler) := by
        split
        · exact closes _ (signals _ initially _)
        · exact initially
      dsimp only
      generalize (if event.has (POLLERR ||| POLLNVAL) then
        (handler.doError calls.lastError).close else handler) = alive at *
      split
      · exact closes _ (signals _ checked _)
      · -- Writing comes before reading, which only signals.
        have written : holds (if event.has POLLOUT then alive.processWritable calls
            else (true, alive)).2 := by
          split
          · exact writes _ checked calls
          · exact checked
        generalize (if event.has POLLOUT then alive.processWritable calls
          else (true, alive)) = result at *
        split
        · exact written
        · dsimp only
          split
          · exact signals _ written _
          · exact written

/-- A handler that is disconnected has no descriptor. -/
def Settled (handler : HandlerTcpSocket) : Prop :=
  handler.connectionState = .disconnected → handler.descriptor = INVALID_DESCRIPTOR

namespace Settled

/-- Signals are only noted. -/
theorem signal (settled : handler.Settled) (signal : HandlerSignal) :
    (handler.signal signal).Settled := settled

/-- A descriptor that is set connects the handler unless it is invalid. -/
theorem setDescriptor (handler : HandlerTcpSocket) (value : Descriptor) :
    (handler.setDescriptor value).Settled := by
  unfold HandlerTcpSocket.setDescriptor
  dsimp only
  split
  · rename_i invalid
    intro _
    rw [changeState_descriptor]
    exact invalid
  · split
    · intro disconnected
      rw [changeState_connectionState] at disconnected
      cases disconnected
    · -- The handler goes on connecting.
      rename_i connecting
      intro disconnected
      rw [not_not.mp connecting] at disconnected
      cases disconnected

/-- A state other than `Disconnected` asks for nothing. -/
theorem setConnectionState (handler : HandlerTcpSocket) {value : ConnectionState}
    (alive : value ≠ .disconnected) : (handler.setConnectionState value).Settled := by
  intro disconnected
  rw [HandlerTcpSocket.setConnectionState, changeState_connectionState] at disconnected
  exact absurd disconnected alive

/-- Closing sets an invalid descriptor. -/
theorem close (settled : handler.Settled) : handler.close.Settled := by
  unfold HandlerTcpSocket.close
  split
  · exact settled
  · exact setDescriptor _ _

/-- An attempt to connect leaves a handler that is connecting, or that was given a descriptor. -/
theorem opened (settled : handler.Settled) (calls : SocketCalls) (errorCode : Int) :
    (handler.open calls errorCode).2.Settled := by
  -- The handler stays as it was, waits for the socket, or gets the descriptor at once.
  unfold HandlerTcpSocket.open
  split
  · exact settled
  · dsimp only
    split
    · have connecting : (handler.setConnectionState .connecting).Settled :=
        setConnectionState handler (by decide)
      exact connecting
    · exact setDescriptor _ _

/-- A socket that can be written to is connected, or closed. -/
theorem processWritable (settled : handler.Settled) (calls : ProcessCalls) :
    (handler.processWritable calls).2.Settled := by
  unfold HandlerTcpSocket.processWritable
  split
  · split
    · exact (setConnectionState handler (by decide)).signal _
    · exact (settled.signal _).close
  · exact settled.signal _

/-- An event closes the handler, connects it, or only makes it signal. -/
theorem process (settled : handler.Settled) (event : PollFd) (calls : ProcessCalls) :
    (handler.process event calls).2.Settled :=
  @process_preserves handler Settled (fun _ settled note => signal settled note)
    (fun _ settled => close settled) (fun _ settled => processWritable settled) settled event calls

/-- No call leaves a handler disconnected with a descriptor. -/
theorem step (settled : handler.Settled) (call : HandlerCall) : (handler.step call).Settled := by
  cases call with
  | «open» calls errorCode => exact settled.opened calls errorCode
  | close => exact settled.close
  | process event calls => exact settled.process event calls

end Settled

namespace Agrees

/-- Signals have no part in the agreement. -/
theorem signal (agrees : handler.Agrees) (signal : HandlerSignal) : (handler.signal signal).Agrees :=
  ⟨agrees.socketType, agrees.disconnected, agrees.sockets⟩

/-- A handler without a descriptor holds no sockets. -/
theorem sockets_eq_nil (agrees : handler.Agrees)
    (invalid : handler.descriptor = INVALID_DESCRIPTOR) : handler.sockets = [] := by
  apply List.eq_nil_iff_forall_not_mem.mpr
  intro socket member
  -- A socket would be the descriptor, but no socket is negative.
  exact socket_ne_invalid socket ((agrees.sockets socket member).trans invalid)

/-- Closing gives up the only socket there is. -/
theorem close (agrees : handler.Agrees) : handler.close.Agrees := by
  unfold HandlerTcpSocket.close
  split
  · exact agrees
  · -- The socket that is closed is the descriptor, so none is left.
    refine ⟨?_, ?_, ?_⟩
    · simpa [setDescriptor] using agrees.socketType
    · simp [setDescriptor]
    · simp only [setDescriptor, if_true, changeState_sockets, SocketUtils.closeSocket]
      intro socket kept
      obtain ⟨member, other⟩ := List.mem_filter.mp kept
      exact absurd (agrees.sockets socket member) (by simpa using other)

/-- A connection that is established keeps its socket. -/
theorem connected (agrees : handler.Agrees) (connecting : handler.connectionState = .connecting) :
    (handler.setConnectionState .connected).Agrees := by
  -- A handler that is connecting has a descriptor.
  have valid : handler.descriptor ≠ INVALID_DESCRIPTOR := by
    intro invalid
    have disconnected := agrees.disconnected.mpr invalid
    rw [connecting] at disconnected
    cases disconnected
  refine ⟨?_, ?_, ?_⟩
  · simpa [setConnectionState] using agrees.socketType
  · simp [setConnectionState, valid]
  · simpa [setConnectionState] using agrees.sockets

/-- Whatever the socket that can be written to turns out to be, the agreement stays. -/
theorem processWritable (agrees : handler.Agrees) (calls : ProcessCalls) :
    (handler.processWritable calls).2.Agrees := by
  -- The socket was connecting, and is connected or closed; or it was connected before.
  unfold HandlerTcpSocket.processWritable
  split
  · rename_i connecting
    split
    · exact (agrees.connected connecting).signal _
    · exact (agrees.signal _).close
  · exact agrees.signal _

/-- No event breaks the agreement. -/
theorem process (agrees : handler.Agrees) (event : PollFd) (calls : ProcessCalls) :
    (handler.process event calls).2.Agrees :=
  @process_preserves handler Agrees (fun _ agrees note => signal agrees note)
    (fun _ agrees => close agrees) (fun _ agrees => processWritable agrees) agrees event calls

/-- An attempt to connect keeps the agreement exactly when no error is reported. -/
theorem open_iff (agrees : handler.Agrees)
    (disconnected : handler.connectionState = .disconnected) (calls : SocketCalls)
    (errorCode : Int) :
    (handler.open calls errorCode).2.Agrees ↔ handler.ReportsNoError (.open calls errorCode) := by
  have invalid := agrees.disconnected.mp disconnected
  have sockets := agrees.sockets_eq_nil invalid
  -- The calls start from a handler that is connecting and has neither descriptor nor socket.
  have connecting : (handler.setConnectionState .connecting).connectionState = .connecting := by
    simp [setConnectionState]
  have unopened : (handler.setConnectionState .connecting).sockets = [] := by
    simpa [setConnectionState] using sockets
  have missing : (handler.setConnectionState .connecting).descriptor = INVALID_DESCRIPTOR := by
    simpa [setConnectionState] using invalid
  have client : (handler.setConnectionState .connecting).socketType = .client := by
    simpa [setConnectionState] using agrees.socketType
  simp only [HandlerTcpSocket.open, agrees.socketType, ne_eq, not_true_eq_false, if_false, unopened,
    SocketUtils.openTcpClientSocket_errorCode, ReportsNoError]
  split
  · -- The error is reported, and the handler is left connecting without a descriptor.
    rename_i error
    refine ⟨fun after => ?_, fun none => absurd none (not_or.mpr error)⟩
    have impossible := after.disconnected.mpr missing
    simp [doError, HandlerTcpSocket.signal, connecting] at impossible
  · rename_i none
    refine ⟨fun _ => ?_, fun _ => ?_⟩
    · by_contra error
      exact none (not_or.mp error)
    · -- The handler takes over what the calls have left open, which is at most one socket.
      rcases SocketUtils.openTcpClientSocket_sockets calls errorCode with
        ⟨result, left⟩ | ⟨socket, result, left⟩
      · refine ⟨?_, ?_, ?_⟩
        · simpa [setDescriptor, result] using client
        · simp [setDescriptor, result]
        · simp [setDescriptor, result, left]
      · have valid := socket_ne_invalid socket
        refine ⟨?_, ?_, ?_⟩
        · simpa [setDescriptor, result, valid, connecting] using client
        · simp [setDescriptor, result, valid, connecting]
        · simp [setDescriptor, result, valid, connecting, left]

end Agrees

end

/--
The state of a client agrees with its descriptor after each call of a run exactly when no call of
`open` in it reports an error.
-/
theorem run_agrees_iff {calls : List HandlerCall}
    (opensDisconnected : EventMachine.Along step OpensDisconnected client calls) :
    EventMachine.Along step (fun handler call => (handler.step call).Agrees) client calls ↔
      EventMachine.Along step ReportsNoError client calls := by
  -- Of all calls only an attempt to connect can end the agreement.
  have initially : client.Agrees := ⟨rfl, by simp [client], by simp [client]⟩
  refine EventMachine.along_iff_of_along step ?_ (fun _ _ _ _ agrees => agrees) initially
    opensDisconnected
  intro handler call allowed agrees
  cases call with
  | «open» calls errorCode => exact agrees.open_iff allowed calls errorCode
  | close => exact iff_of_true agrees.close trivial
  | process event calls => exact iff_of_true (agrees.process event calls) trivial

/-- The answers of the system when the first packet of a connection is on its way. -/
def pending : SocketCalls := ⟨none, .ok 7, none, none, none, none, some EINPROGRESS⟩

/-- A client connects, is closed by its peer, and tries again. -/
theorem run_agrees_iff_reconnect :
    EventMachine.Along step (fun handler call => (handler.step call).Agrees) client
        [.open pending 0, .process ⟨7, POLLOUT⟩ ⟨0, some 0⟩, .process ⟨7, POLLHUP⟩ ⟨0, some 0⟩,
          .open pending 0] ↔
      EventMachine.Along step ReportsNoError client
        [.open pending 0, .process ⟨7, POLLOUT⟩ ⟨0, some 0⟩, .process ⟨7, POLLHUP⟩ ⟨0, some 0⟩,
          .open pending 0] :=
  run_agrees_iff ⟨rfl, trivial, trivial, rfl, trivial⟩

/-- A host that is not reachable leaves a client connecting without a socket. -/
theorem run_agrees_fails :
    ¬ ∀ calls, EventMachine.Along step OpensDisconnected client calls →
      EventMachine.Along step (fun handler call => (handler.step call).Agrees) client calls := by
  intro always
  -- The call of `connect` fails with `ENETUNREACH`.
  obtain ⟨agrees, _⟩ := always [.open ⟨none, .ok 7, none, none, none, none, some 101⟩ 0]
    ⟨rfl, trivial⟩
  have disconnected := agrees.disconnected.mpr (by decide)
  exact absurd disconnected (by decide)

end HandlerTcpSocket

end Threader
