import Threader.Base.EventMachine
import Threader.Frames.DataFramesFactory
import Threader.Threads.ThreadHandler

/-! `ThreadDataFrames`: frames sent and received as packets, and the queue of packets with tickets. -/

namespace Threader

/--
The calls a thread makes of its hooks and of `sendPacket`, and the resets of its queue.

A call of `sendPacket` is kept with the packet as it was then.
A call of `onFrameReceived` is kept with the packet that the frames were restored from.
-/
inductive ThreadCall
  | sendPacket (packet : PacketPtr) (sent : DataFramesPacket)
  | resetQueue
  | onPacketIdDiscontinuity (waitFor received : UInt32)
  | onPacketQueued (packet : PacketPtr)
  | onPacketApplied (packetId : UInt32)
  | onFrameReceived (frames : List DataFrame) (packetId : UInt32) (received : DataFramesPacket)

/-- `ThreadDataFrames`: a handler thread with its packets, and the calls it has made so far. -/
structure ThreadDataFrames extends ThreadHandler where
  nextPacketId : Int
  currentPacket : Option PacketPtr
  dataFramesPacketFactory : DataFramesPacketFactory
  queuePackets : Option QueueDataFramesPackets
  -- What the subclass returns from `framesFactory()`.
  framesFactory : Option DataFramesFactory
  heap : PacketHeap
  calls : List ThreadCall
  -- Whether the thread is caught in a loop that never ends.
  hung : Bool

namespace ThreadDataFrames

/--
The constructors: nothing has been queued, sent or received.

`_nextPacketId` is not initialised.
Where the handler is connected already, `onConnected` is called while the base class is constructed,
which does not reach the function of this class.
-/
def construct (handler : HandlerBase) (clock : Clock) (useQueue : Bool)
    (framesFactory : Option DataFramesFactory) (uninitialised : Int) : ThreadDataFrames where
  toThreadHandler := .construct handler clock
  nextPacketId := uninitialised
  currentPacket := none
  dataFramesPacketFactory := .init
  queuePackets := if useQueue then some ⟨[]⟩ else none
  framesFactory := framesFactory
  heap := .empty
  calls := []
  hung := false

/-- Keeps a call behind the earlier ones. -/
def record (thread : ThreadDataFrames) (call : ThreadCall) : ThreadDataFrames :=
  { thread with calls := thread.calls ++ [call] }

/-- `std::make_shared<DataFramesPacket>`: the pointer, and the thread with the packet stored. -/
def makeShared (thread : ThreadDataFrames) (packet : DataFramesPacket) :
    PacketPtr × ThreadDataFrames :=
  (thread.heap.fresh, { thread with heap := thread.heap.allocate packet })

/-- `sendPacket(packet)` of a pointer, with `onPacketSent` doing nothing. -/
def sendPacket (thread : ThreadDataFrames) (packet : PacketPtr) : ThreadDataFrames :=
  match thread.heap.read packet with
  | none => thread
  | some sent =>
    let thread := thread.record (.sendPacket packet sent)
    { thread with
      toThreadHandler := (thread.toThreadHandler.sendPacket (some sent)).2 }

/-- `packet->setPacketId(_dataFramesPacketFactory->generateNextPacketId())`. -/
def giveNextPacketId (thread : ThreadDataFrames) (packet : PacketPtr) : ThreadDataFrames :=
  let generated := thread.dataFramesPacketFactory.generateNextPacketId
  { thread with
    dataFramesPacketFactory := generated.2
    heap := thread.heap.setPacketId packet generated.1 }

/-- `processQueue()`: sends the first packet that waits, or sends the current one again. -/
def processQueue (thread : ThreadDataFrames) : ThreadDataFrames :=
  match thread.queuePackets with
  | none => thread
  | some queue =>
    let nowTickCount := thread.getTickCount.1
    let thread := { thread with toThreadHandler := thread.getTickCount.2 }
    match thread.currentPacket with
    | some packet =>
      if thread.lastPacketSent + 2000 < nowTickCount then thread.sendPacket packet else thread
    | none =>
      let thread := { thread with currentPacket := queue.first }
      match queue.first with
      | none => thread
      | some packet => (thread.giveNextPacketId packet).sendPacket packet

/-- `applyTicket(packetId)`: the number of packets removed, or `-1` without a queue. -/
def applyTicket (thread : ThreadDataFrames) (packetId : UInt32) : Int × ThreadDataFrames :=
  match thread.queuePackets with
  | none => (-1, thread)
  | some queue =>
    let result := queue.applyTicket thread.heap packetId
    let thread := { thread with queuePackets := some result.2 }
    if result.1 > 0 then
      let thread := thread.record (.onPacketApplied packetId)
      (result.1, { thread with currentPacket := none }.processQueue)
    else (result.1, thread)

/-- `resetQueue()`: the waiting packets lose their ids, and none of them is the current one. -/
def resetQueue (thread : ThreadDataFrames) : ThreadDataFrames :=
  let thread := { thread with currentPacket := none }.record .resetQueue
  match thread.queuePackets with
  | none => thread
  | some queue => { thread with heap := queue.reset thread.heap }

/-- The part of `sendFrame` behind the construction of the packet. -/
def sendBuilt (thread : ThreadDataFrames) (needsTicket : Bool) (packet : DataFramesPacket) :
    ThreadDataFrames :=
  let shared := thread.makeShared packet
  let thread := shared.2
  match thread.queuePackets, needsTicket with
  | some queue, true =>
    let thread := { thread with queuePackets := some (queue.enqueue (some shared.1)).2 }
    (thread.record (.onPacketQueued shared.1)).processQueue
  | _, _ => (thread.giveNextPacketId shared.1).sendPacket shared.1

/-- `sendTicket`: `buildPacketTicket(packetId)` and `sendPacket` of what it returns. -/
def sendTicket (thread : ThreadDataFrames) (packetId : UInt32) : ThreadDataFrames :=
  let built := thread.dataFramesPacketFactory.buildPacketTicket packetId
  let thread := { thread with dataFramesPacketFactory := built.2 }
  match built.1 with
  | none => thread
  | some ticket => (thread.makeShared ticket).2.sendPacket (thread.makeShared ticket).1

/-- The check of the id of a received packet against the one that was waited for. -/
def checkPacketId (thread : ThreadDataFrames) (packetId : UInt32) : ThreadDataFrames :=
  let thread := if thread.nextPacketId ≥ 0 ∧ thread.nextPacketId ≠ packetId.toNat then
      thread.record (.onPacketIdDiscontinuity (UInt32.ofInt thread.nextPacketId) packetId)
    else thread
  -- The sum is formed in 32 bits.
  { thread with nextPacketId := (packetId + 1).toNat }

/-- The id in the data of a ticket, unless the data are too short for one. -/
def ticketId (packet : DataFramesPacket) : Option UInt32 :=
  if packet.data.length < 4 then none else some (FixedWidth.ofBytes (packet.data.take 4))

variable [QtText]

/-- `sendFrame(frame)`: queues the packet of a frame that needs a ticket, and sends any other. -/
def sendFrame (thread : ThreadDataFrames) (frame : Option DataFrame) : Bool × ThreadDataFrames :=
  match frame with
  | none => (false, thread)
  | some frame =>
    let built := thread.dataFramesPacketFactory.buildPacketFromFrame frame false
    let thread := { thread with dataFramesPacketFactory := built.2 }
    match built.1 with
    | none => (false, thread)
    | some packet => (true, thread.sendBuilt frame.needsTicket (packet.setPacketName frame.name))

/-- The frames of a packet without a ticket are restored and handed on. -/
def restoreFrames (thread : ThreadDataFrames) (packet : DataFramesPacket) :
    Bool × ThreadDataFrames :=
  match thread.framesFactory with
  | none => (false, thread)
  | some framesFactory =>
    match framesFactory.readFrames packet.data with
    | none => (false, { thread with hung := true })
    | some [] => (false, thread)
    | some frames => (true, thread.record (.onFrameReceived frames packet.packetId packet))

/-- `onPacketReceived(packet)`. -/
def onPacketReceived (thread : ThreadDataFrames) (packet : DataFramesPacket) :
    Bool × ThreadDataFrames :=
  let thread := thread.checkPacketId packet.packetId
  if packet.header.packetType = .packetNeedsTicket ∨
      packet.header.packetType = .packetWithoutTicket then
    let thread := thread.sendTicket packet.packetId
    if .packetWithoutTicket = packet.header.packetType then thread.restoreFrames packet
    else (true, thread)
  else if packet.header.packetType = .ticket then
    match ticketId packet with
    | none => (false, thread)
    | some packetId => (true, (thread.applyTicket packetId).2)
  else (false, thread)

/-- Notes the time a packet was extracted at, and what that left of the input buffer. -/
def packetExtracted (thread : ThreadDataFrames) (buffer : QByteArray) : ThreadDataFrames :=
  let tickCount := { thread.toThreadHandler with inputBuffer := buffer }.getTickCount
  { thread with toThreadHandler := { tickCount.2 with lastPacketReceived := tickCount.1 } }

/-- One turn of the loop over the packets in the input buffer, and whether there is another turn. -/
def receiveTurn (thread : ThreadDataFrames) : Bool × ThreadDataFrames :=
  match DataFramesPacketFactory.tryExtractPacket thread.inputBuffer with
  | (.error _, buffer) => (false, { thread with inputBuffer := buffer })
  | (.ok packet, buffer) =>
    let thread := ((thread.packetExtracted buffer).onPacketReceived packet).2
    (!thread.hung, thread)

/-- At most `fuel` turns of the loop over the packets in the input buffer. -/
def receiveLoop : Nat → ThreadDataFrames → ThreadDataFrames
  | 0, thread => thread
  | fuel + 1, thread =>
    let turn := thread.receiveTurn
    if turn.1 then receiveLoop fuel turn.2 else turn.2

/-- The part of `slotOnReadyToRead` in front of its last loop, for the answers of the device. -/
def readInput (thread : ThreadDataFrames) (answers : List QByteArray) : ThreadDataFrames :=
  { thread with inputBuffer := thread.inputBuffer ++ ThreadHandler.readLoop answers }

/-- `slotOnReadyToRead(sender)`: reads what the device has, and handles the packets it completes. -/
def slotOnReadyToRead (thread : ThreadDataFrames) (answers : List QByteArray) : ThreadDataFrames :=
  if thread.handler.connectionState = .disconnected then thread
  else
    -- Every packet takes bytes out of the buffer, so one turn more than there are bytes is enough.
    let thread := thread.readInput answers
    receiveLoop (thread.inputBuffer.length + 1) thread

/-- `slotOnReadyToWrite(sender)`. -/
def slotOnReadyToWrite (thread : ThreadDataFrames) : ThreadDataFrames :=
  { thread with toThreadHandler := thread.toThreadHandler.slotOnReadyToWrite }

/-- `HandlerBase::setConnectionState(value)` with its slot; `onConnected` forgets the next id. -/
def setConnectionState (thread : ThreadDataFrames) (value : ConnectionState) : ThreadDataFrames :=
  if value = thread.handler.connectionState then thread
  else
    let handler := { thread.handler with connectionState := value }
    let slotted := { thread.toThreadHandler with handler := handler }.slotOnConnectionStateChanged value
    { thread with
      toThreadHandler := slotted
      nextPacketId := if value = .connected then -1 else thread.nextPacketId }

end ThreadDataFrames

end Threader
