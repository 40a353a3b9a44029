import Threader.Threads.OutputStream
import Threader.Threads.Pollings

/-! `ThreadHandler` over a client `HandlerTcpSocket`: the turns of its loop, across reconnections. -/

namespace Threader

/-- What becomes of the connection of a client, with the readings of the clock that count. -/
inductive ConnectionRecord
  | connecting (started : Int)
  | connected
  -- The reading that the next try is put off from.
  | disconnected (ended : Int)
deriving DecidableEq, Repr

/-- `ThreadHandler` with a client `HandlerTcpSocket`, and a record of its connections. -/
structure ClientThread where
  thread : ThreadHandler
  socket : HandlerTcpSocket
  needsToWrite : Bool
  -- `_reconnectTimeout`, in milliseconds.
  reconnectTimeout : Nat
  nextTryToConnect : Int
  -- The packets that the subclass sends in `onConnected()`.
  hello : List PacketBase
  -- The entry of the handler in the array for `poll`.
  entry : PollStruct
  history : List ConnectionRecord

namespace ClientThread

variable (client : ClientThread)

/-- The reading of the clock that was taken last. -/
def lastReading : Int := client.thread.clock.ticks (client.thread.clock.readings - 1)

/-- `sendPacket(packet)`. -/
def sendPacket (packet : PacketBase) : ClientThread :=
  { client with thread := (client.thread.sendPacketBase (some packet)).2 }

/-- `slotOnConnectionStateChanged(sender, oldState, newState)`, which is also recorded. -/
def slotOnConnectionStateChanged (newState : ConnectionState) : ClientThread :=
  let client := { client with thread := client.thread.setConnectionState newState }
  match newState with
  | .connecting => { client with history := client.history ++ [.connecting client.lastReading] }
  | .connected =>
    client.hello.foldl sendPacket { client with history := client.history ++ [.connected] }
  | .disconnected =>
    let tickCount := client.thread.getTickCount
    -- A clock that cannot be read puts nothing off.
    let ended : Int := tickCount.1
    let next := if ended ≥ 0 then ended + client.reconnectTimeout else ended
    { client with
      thread := tickCount.2
      nextTryToConnect := next
      history := client.history ++ [.disconnected ended] }

/--
What is connected to the signals of the handler.

The subclass may answer to what has been read by sending packets; the reading itself is not
modelled here.
-/
def react (replies : List PacketBase) (client : ClientThread) : HandlerSignal → ClientThread
  | .onConnectionStateChanged _ newState => client.slotOnConnectionStateChanged newState
  | .onReadyRead => replies.foldl sendPacket client
  | .onReadyWrite => { client with thread := client.thread.slotOnReadyToWrite }
  | .onError _ => client

/-- A call of the handler, and the reactions to what it signals. -/
def perform (call : HandlerCall) (replies : List PacketBase) : ClientThread :=
  let socket := client.socket.step call
  (socket.signals.drop client.socket.signals.length).foldl (react replies)
    { client with socket := socket }

/-- The part of `onBeforeWaitEvents()` that opens the device when it is time to. -/
def tryToConnect (calls : SocketCalls) (errorCode : Int) : ClientThread :=
  if client.reconnectTimeout > 0 ∧ client.socket.connectionState = .disconnected then
    let tickCount := client.thread.getTickCount
    let client := { client with thread := tickCount.2 }
    if client.nextTryToConnect ≤ tickCount.1 then client.perform (.open calls errorCode) []
    else client
  else client

/-- `onBeforeWaitEvents()`. -/
def onBeforeWaitEvents (calls : SocketCalls) (errorCode : Int) : ClientThread :=
  let client := client.tryToConnect calls errorCode
  if client.socket.connectionState ≠ .disconnected then
    { client with needsToWrite := client.thread.outputBuffer.length > 0 }
  else client

/-- `poll(timeout)`, as far as it concerns the handler; the system ignores an invalid entry. -/
def poll (revents : UInt16) (calls : ProcessCalls) (replies : List PacketBase) : ClientThread :=
  let entry := (Poller.tcpSocket client.socket client.needsToWrite).assign client.entry
  let client := { client with entry := entry }
  if entry.fd < 0 ∨ revents = 0 then client
  else client.perform (.process ⟨entry.fd, revents⟩ calls) replies

/-- What happens to a client, apart from its messages and timers. -/
inductive Event
  | beforeWaitEvents (calls : SocketCalls) (errorCode : Int)
  | poll (revents : UInt16) (calls : ProcessCalls) (replies : List PacketBase)
  | sendPacket (packet : PacketBase)
  -- `handler()->close()`, by the subclass or in the end.
  | close

/-- The client after an event. -/
def step (client : ClientThread) : Event → ClientThread
  | .beforeWaitEvents calls errorCode => client.onBeforeWaitEvents calls errorCode
  | .poll revents calls replies => client.poll revents calls replies
  | .sendPacket packet => client.sendPacket packet
  | .close => client.perform .close []

/-- The constructor of a client, for any answers of its device to come. -/
def construct (answers : Nat → Int) (clock : Clock) (reconnectTimeout : Nat)
    (hello : List PacketBase) : ClientThread where
  thread := .construct ⟨.disconnected, answers, 0, []⟩ clock
  socket := .client
  needsToWrite := false
  reconnectTimeout := reconnectTimeout
  nextTryToConnect := clock.ticks clock.readings
  hello := hello
  entry := ⟨0, 0, 0⟩
  history := []

end ClientThread

end Threader
