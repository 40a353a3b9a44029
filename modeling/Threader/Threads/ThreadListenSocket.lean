import Threader.Threads.Pollings

/-! `ThreadListenSocket` and its `PollerListenSocket` on Linux: who owns which descriptor. -/

namespace Threader

/-- `EBADF`. -/
def EBADF : Errno := ⟨9, by decide⟩

/-- `EWOULDBLOCK`. -/
def EWOULDBLOCK : Int := 11

/-- What a listening thread tells its subclass. -/
inductive ListenSignal
  | beforeListenSocketInitialization
  | listenSocketInitialized
  | listenSocketError (errorCode : Int)
  | acceptConnectionRequest (socket : Nat)
deriving DecidableEq, Repr

/-- An attempt to listen, and when the next one was put off if it failed. -/
structure ListenAttempt where
  started : Int
  failed : Option Int
deriving DecidableEq, Repr

/--
`ThreadListenSocket`, with its poller and the descriptors that are open in the process.

The descriptors that belong to others, and the attempts to listen, are recorded besides.
-/
structure ThreadListenSocket where
  polling : Polling
  -- `_listener->isInitialized()`.
  isInitialized : Bool
  nextStartListening : Int
  sockets : List Nat
  signals : List ListenSignal
  others : List Nat
  attempts : List ListenAttempt

namespace ThreadListenSocket

open SocketUtils (lowest closeSocket createTcpServerSocket)

/-- `TIMEOUT_REOPEN_LISTEN_SOCKET_MILLISECONDS`. -/
def TIMEOUT_REOPEN_LISTEN_SOCKET_MILLISECONDS : Int := 30000

/-- `&_pollerThread`, which is registered first. -/
def pollerThread : PollerPtr := 0

/-- `_listener`. -/
def listener : PollerPtr := 1

variable (thread : ThreadListenSocket)

/-- `_listener->descriptor()`. -/
def descriptor : Descriptor := (thread.polling.objects listener).descriptor

/-- `_listener->setDescriptor(descriptor)`. -/
def setDescriptor (descriptor : Descriptor) : ThreadListenSocket :=
  { thread with polling := thread.polling.step (.change listener (.setDescriptor descriptor)) }

/-- `_listener->setEvents(events)`. -/
def setEvents (events : UInt16) : ThreadListenSocket :=
  { thread with polling := thread.polling.step (.change listener (.setEvents events)) }

/-- Emits a signal. -/
def signal (signal : ListenSignal) : ThreadListenSocket :=
  { thread with signals := thread.signals ++ [signal] }

/-- `PollerListenSocket::initialize()`. -/
def initializeListener (calls : ServerSocketCalls) : Bool × ThreadListenSocket :=
  if thread.isInitialized then (true, thread)
  else
    let created := createTcpServerSocket calls thread.sockets
    let thread := { thread with sockets := created.2.2 }.setDescriptor created.1
    if created.2.1 ≠ 0 then
      (false, { thread.signal (.listenSocketError created.2.1) with isInitialized := false })
    else (true, { thread.setEvents (POLLIN ||| POLLERR) with isInitialized := true })

/-- `PollerListenSocket::finalizeLinux()`. -/
def finalizeLinux : ThreadListenSocket :=
  if thread.descriptor = INVALID_DESCRIPTOR then thread
  else
    { thread with sockets := closeSocket thread.descriptor thread.sockets }
      |>.setDescriptor INVALID_DESCRIPTOR |>.setEvents 0

/-- `PollerListenSocket::finalize()`. -/
def finalize : ThreadListenSocket := { thread.finalizeLinux with isInitialized := false }

/--
One turn of the loop over the waiting clients, for the answer of the subclass to one of them.

A socket that is accepted belongs to the thread it was given to.
-/
def acceptTurn (accept : Bool) : ThreadListenSocket :=
  let newSocket := lowest thread.sockets
  let thread := { thread with sockets := newSocket :: thread.sockets }
    |>.signal (.acceptConnectionRequest newSocket)
  if accept then { thread with others := newSocket :: thread.others }
  else { thread with sockets := closeSocket newSocket thread.sockets }

/-- The last turn of that loop, in which `accept` fails. -/
def acceptError (error : Errno) : ThreadListenSocket :=
  if error.val ≠ EWOULDBLOCK then thread.signal (.listenSocketError error) else thread

/-- `processConnectionRequests()`; an invalid descriptor is no listening socket. -/
def processConnectionRequests (clients : List Bool) (error : Errno) : ThreadListenSocket :=
  if thread.descriptor = INVALID_DESCRIPTOR then thread.acceptError EBADF
  else (clients.foldl acceptTurn thread).acceptError error

/-- `PollerListenSocket::process(event)`. -/
def process (event : PollFd) (clients : List Bool) (error : Errno) : ThreadListenSocket :=
  if thread.descriptor ≠ event.fd then thread
  else
    let thread := if event.has POLLERR then thread.finalize else thread
    if event.has POLLIN then thread.processConnectionRequests clients error else thread

/-- `onBeforeWaitEvents()`, for the readings of the clock before and after an attempt. -/
def onBeforeWaitEvents (now : Int) (calls : ServerSocketCalls) (afterwards : Int) :
    ThreadListenSocket :=
  if thread.isInitialized ∨ thread.nextStartListening > now then thread
  else
    let result := (thread.signal .beforeListenSocketInitialization).initializeListener calls
    if result.1 then
      { result.2 with
        polling := result.2.polling.step (.registerPoller listener)
        attempts := thread.attempts ++ [ListenAttempt.mk now none] }
        |>.signal .listenSocketInitialized
    else
      -- A clock that cannot be read puts nothing off.
      let next := if afterwards ≥ 0 then afterwards + TIMEOUT_REOPEN_LISTEN_SOCKET_MILLISECONDS
        else afterwards
      { result.2 with
        nextStartListening := next
        attempts := thread.attempts ++ [⟨now, some afterwards⟩] }

/-- `terminateChildThreads()`, as far as it concerns the listening socket. -/
def terminateChildThreads : ThreadListenSocket := thread.finalize

/-- What happens to a listening thread, or in the rest of its process. -/
inductive Event
  | beforeWaitEvents (now : Int) (calls : ServerSocketCalls) (afterwards : Int)
  | poll (revents : Nat → UInt16)
  | process (event : PollFd) (clients : List Bool) (error : Errno)
  | terminateChildThreads
  -- Something else opens a descriptor, or closes one of its own.
  | opened
  | closed (socket : Nat)

/-- The state after an event; the pipe of the thread is not closed while the thread is there. -/
def step (thread : ThreadListenSocket) : Event → ThreadListenSocket
  | .beforeWaitEvents now calls afterwards => thread.onBeforeWaitEvents now calls afterwards
  | .poll revents => { thread with polling := thread.polling.step (.poll revents) }
  | .process event clients error => thread.process event clients error
  | .terminateChildThreads => thread.terminateChildThreads
  | .opened =>
    { thread with
      sockets := lowest thread.sockets :: thread.sockets
      others := lowest thread.sockets :: thread.others }
  | .closed socket =>
    if socket ∈ thread.others ∧
        (socket : Int) ≠ (thread.polling.objects pollerThread).descriptor then
      { thread with
        sockets := closeSocket socket thread.sockets
        others := thread.others.filter (· ≠ socket) }
    else thread

/-- The constructor, among what is open already; the pipe of the thread may have failed. -/
def start (opened : List Nat) (pipe : Bool) (now : Int) : ThreadListenSocket :=
  let input := lowest opened
  let sockets := if pipe then lowest (input :: opened) :: input :: opened else opened
  let objects : PollerPtr → Poller := fun poller =>
    if poller = pollerThread ∧ pipe then .base input POLLIN else .base INVALID_DESCRIPTOR 0
  ⟨(Polling.created objects).step (.registerPoller pollerThread), false, now, sockets, [], sockets, []⟩

end ThreadListenSocket

end Threader
