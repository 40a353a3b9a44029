import Threader.Demo.SimplePacketRoundTrip
import Threader.Threads.Link
import Threader.Threads.OutputStream

/-! `ThreadSimpleClientSocket` and `ThreadSimpleServerSocket`: the ends of a connection. -/

namespace Threader

/-- A simple packet as a packet. -/
def PacketSimple.toPacketBase (packet : PacketSimple) : PacketBase where
  write := packet.write
  image := packet.image
  write_gap data gap := by
    simp only [write, DataStream.writeRaw_gap, DataStream.andThen_true, DataStream.writeRaw_atEnd,
      image, List.append_assoc]

/-- What both threads have besides their handler: a factory, and the packets of their hooks. -/
structure ThreadSimpleSocket extends ThreadHandler where
  factory : PacketFactorySimple
  -- The readings of the calendar, of which nothing is known.
  dates : Clock
  terminated : Bool
  -- The packets that `onPacketReceived` and `onPacketSent` were called with.
  received : List PacketSimple
  sent : List PacketSimple

namespace ThreadSimpleSocket

/-- The constructors: a thread with a new factory, whose handler may be connected already. -/
def construct (handler : HandlerBase) (clock dates : Clock) : ThreadSimpleSocket :=
  ⟨.construct handler clock, .init, dates, false, [], []⟩

/-- `sendPacket(packet)`, with `onPacketSent` for a packet that is written. -/
def sendPacket (thread : ThreadSimpleSocket) (packet : PacketSimple) : ThreadSimpleSocket :=
  if !thread.handler.isConnected then thread
  else { thread with
    toThreadHandler := (thread.sendPacketBase (some packet.toPacketBase)).2
    sent := thread.sent ++ [packet] }

/-- `sendPacketHello(name)`. -/
def sendPacketHello (thread : ThreadSimpleSocket) (local8Bit : QByteArray) (length : Nat) :
    ThreadSimpleSocket :=
  let built := thread.factory.buildPacketHello local8Bit length
  { thread with factory := built.2 }.sendPacket built.1

/-- `sendPacketWelcome(name)`. -/
def sendPacketWelcome (thread : ThreadSimpleSocket) (local8Bit : QByteArray) (length : Nat) :
    ThreadSimpleSocket :=
  let built := thread.factory.buildPacketWelcome local8Bit length
  { thread with factory := built.2 }.sendPacket built.1

/-- `sendPacketAlive()`: the packet holds the time, and the number of ticks. -/
def sendPacketAlive (thread : ThreadSimpleSocket) : ThreadSimpleSocket :=
  -- The date is read before the ticks, and both before the packet is built.
  let currentTime := UInt64.ofInt (thread.dates.ticks thread.dates.readings)
  let dates := { thread.dates with readings := thread.dates.readings + 1 }
  let tickCount := thread.getTickCount
  let built := thread.factory.buildPacketAlive currentTime (UInt64.ofInt tickCount.1)
  { thread with toThreadHandler := tickCount.2, dates := dates, factory := built.2 }
    |>.sendPacket built.1

/-- `terminateThread()`, of which only the request matters here. -/
def terminateThread (thread : ThreadSimpleSocket) : ThreadSimpleSocket :=
  { thread with terminated := true }

end ThreadSimpleSocket

namespace ThreadSimpleClientSocket

/-- `onConnected()`. -/
def onConnected (thread : ThreadSimpleSocket) : ThreadSimpleSocket :=
  thread.sendPacketHello [0x43, 0x6C, 0x69, 0x65, 0x6E, 0x74] 6

/-- `onPacketReceived(packet)`, with `doPacketWelcome`. -/
def onPacketReceived (thread : ThreadSimpleSocket) (packet : PacketSimple) : ThreadSimpleSocket :=
  match SimplePacketType.ofPacketType packet.header.packetType with
  -- Of the other packets the client only takes note.
  | some .welcome => thread.sendPacketAlive
  | _ => thread

end ThreadSimpleClientSocket

namespace ThreadSimpleServerSocket

/-- `onDisconnected()`. -/
def onDisconnected (thread : ThreadSimpleSocket) : ThreadSimpleSocket := thread.terminateThread

/-- `onPacketReceived(packet)`, with `doPacketHello` and `doPacketAlive`. -/
def onPacketReceived (thread : ThreadSimpleSocket) (packet : PacketSimple) : ThreadSimpleSocket :=
  match SimplePacketType.ofPacketType packet.header.packetType with
  -- The server never sends anything but answers.
  | some .hello => thread.sendPacketWelcome [0x53, 0x65, 0x72, 0x76, 0x65, 0x72] 6
  | some .alive => thread.sendPacketAlive
  | _ => thread

/-- `onIdle()`: a client that was silent for too long is given up. -/
def onIdle (thread : ThreadSimpleSocket) : ThreadSimpleSocket :=
  if thread.handler.connectionState ≠ .connected then thread
  else
    let tickCount := thread.getTickCount
    let thread := { thread with toThreadHandler := tickCount.2 }
    if thread.lastPacketReceived + 30000 ≤ tickCount.1 then thread.terminateThread else thread

end ThreadSimpleServerSocket

namespace ThreadSimpleSocket

/-- `onConnected()` of the class at an end. -/
def onConnected (thread : ThreadSimpleSocket) : Side → ThreadSimpleSocket
  | .client => ThreadSimpleClientSocket.onConnected thread
  | .server => thread

/-- `onDisconnected()` of the class at an end. -/
def onDisconnected (thread : ThreadSimpleSocket) : Side → ThreadSimpleSocket
  | .client => thread
  | .server => ThreadSimpleServerSocket.onDisconnected thread

/-- `onPacketReceived(packet)` of the class at an end. -/
def onPacketReceived (thread : ThreadSimpleSocket) (packet : PacketSimple) : Side → ThreadSimpleSocket
  | .client => ThreadSimpleClientSocket.onPacketReceived thread packet
  | .server => ThreadSimpleServerSocket.onPacketReceived thread packet

/-- `HandlerBase::setConnectionState(value)` with the slot, and the hooks of the class at an end. -/
def setConnectionState (thread : ThreadSimpleSocket) (side : Side) (value : ConnectionState) :
    ThreadSimpleSocket :=
  if value = thread.handler.connectionState then thread
  else
    let thread := { thread with
      toThreadHandler := thread.toThreadHandler.setConnectionState value }
    match value with
    | .connecting => thread
    | .connected => thread.onConnected side
    | .disconnected => thread.onDisconnected side

end ThreadSimpleSocket

/-- `onIdle()`: a client keeps the connection alive, and gives up a server that is silent. -/
def ThreadSimpleClientSocket.onIdle (thread : ThreadSimpleSocket) : ThreadSimpleSocket :=
  if thread.handler.connectionState ≠ .connected then thread
  else
    -- The clock is read once for what is to be sent, and once more for the silence.
    let nextSendAlive := thread.lastPacketSent + 10000
    let tickCount := thread.getTickCount
    let thread := { thread with toThreadHandler := tickCount.2 }
    let thread := if nextSendAlive ≤ tickCount.1 then thread.sendPacketAlive else thread
    let lastPacketReceived := thread.lastPacketReceived
    let tickCount := thread.getTickCount
    let thread := { thread with toThreadHandler := tickCount.2 }
    if lastPacketReceived + 30000 < tickCount.1 then thread.setConnectionState .client .disconnected
    else thread

namespace ThreadSimpleSocket

/-- `onIdle()` of the class at an end. -/
def onIdle (thread : ThreadSimpleSocket) : Side → ThreadSimpleSocket
  | .client => ThreadSimpleClientSocket.onIdle thread
  | .server => ThreadSimpleServerSocket.onIdle thread

/-- Notes the time a packet was extracted at, and what that left of the input buffer. -/
def packetExtracted (thread : ThreadSimpleSocket) (buffer : QByteArray) : ThreadSimpleSocket :=
  let tickCount := { thread.toThreadHandler with inputBuffer := buffer }.getTickCount
  { thread with toThreadHandler := { tickCount.2 with lastPacketReceived := tickCount.1 } }

/-- One turn of the loop over the packets in the input buffer, and whether there is another turn. -/
def receiveTurn (thread : ThreadSimpleSocket) (side : Side) : Bool × ThreadSimpleSocket :=
  match PacketFactorySimple.tryExtractPacket thread.inputBuffer with
  -- Without a packet the loop ends, though junk may be gone from the buffer.
  | (.error _, buffer) => (false, { thread with inputBuffer := buffer })
  | (.ok packet, buffer) =>
    let thread := thread.packetExtracted buffer
    (true, { thread with received := thread.received ++ [packet] }.onPacketReceived packet side)

/-- At most `fuel` turns of the loop over the packets in the input buffer. -/
def receiveLoop (side : Side) : Nat → ThreadSimpleSocket → ThreadSimpleSocket
  | 0, thread => thread
  | fuel + 1, thread =>
    let turn := thread.receiveTurn side
    if turn.1 then receiveLoop side fuel turn.2 else turn.2

/-- `slotOnReadyToRead(sender)`: reads what the device has, and handles the packets it completes. -/
def slotOnReadyToRead (thread : ThreadSimpleSocket) (side : Side) (answers : List QByteArray) :
    ThreadSimpleSocket :=
  if thread.handler.connectionState = .disconnected then thread
  else
    let thread := { thread with inputBuffer := thread.inputBuffer ++ ThreadHandler.readLoop answers }
    -- Every packet takes bytes out of the buffer, so one turn more than there are bytes is enough.
    receiveLoop side (thread.inputBuffer.length + 1) thread

/-- `slotOnReadyToWrite(sender)`. -/
def slotOnReadyToWrite (thread : ThreadSimpleSocket) : ThreadSimpleSocket :=
  { thread with toThreadHandler := thread.toThreadHandler.slotOnReadyToWrite }

end ThreadSimpleSocket

/-- The threads at both ends, and how many bytes of its peer's output each of them has read. -/
structure SimpleConversation where
  thread : Side → ThreadSimpleSocket
  arrived : Side → Nat

/-- What may happen to the ends of one connection, in any order. -/
inductive ConversationEvent
  | connected
  | idle (side : Side)
  | readyToRead (side : Side) (counts : List Nat)
  | readyToWrite (side : Side)
  | disconnected (side : Side)
deriving DecidableEq, Repr

namespace SimpleConversation

/-- A client that is connecting, and the thread of the server for the socket that was accepted. -/
def start (answers : Side → Nat → Int) (clock dates : Side → Clock) : SimpleConversation where
  thread side := .construct
    -- An accepted socket is connected from the start, without a change of state.
    ⟨if side = .client then .connecting else .connected, answers side, 0, []⟩
    (clock side) (dates side)
  arrived _ := 0

/-- The bytes on their way to an end. -/
def channel (conversation : SimpleConversation) (side : Side) : List UInt8 :=
  (conversation.thread side.peer).handler.output.drop (conversation.arrived side)

/-- Puts a thread in the place of the one at an end. -/
def update (conversation : SimpleConversation) (side : Side) (thread : ThreadSimpleSocket) :
    SimpleConversation :=
  { conversation with thread := Function.update conversation.thread side thread }

/-- Reads some of the bytes on their way to an end, in reads of the given sizes. -/
def read (conversation : SimpleConversation) (side : Side) (counts : List Nat) :
    SimpleConversation :=
  if (conversation.thread side).handler.connectionState = .disconnected then conversation
  else
    let answers := slices counts (conversation.channel side)
    { conversation.update side ((conversation.thread side).slotOnReadyToRead side answers) with
      arrived := Function.update conversation.arrived side
        (conversation.arrived side + (ThreadHandler.readLoop answers).length) }

/-- What becomes of the two ends. -/
def step (conversation : SimpleConversation) : ConversationEvent → SimpleConversation
  | .connected =>
    let thread := conversation.thread .client
    -- Only a connection that is being made can come about.
    if thread.handler.connectionState = .connecting then
      conversation.update .client (thread.setConnectionState .client .connected)
    else conversation
  | .idle side => conversation.update side ((conversation.thread side).onIdle side)
  | .readyToRead side counts => conversation.read side counts
  | .readyToWrite side => conversation.update side (conversation.thread side).slotOnReadyToWrite
  | .disconnected side =>
    conversation.update side ((conversation.thread side).setConnectionState side .disconnected)

end SimpleConversation

end Threader
