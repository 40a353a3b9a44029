import Threader.Frames.DataFramesPackets

/-! `ThreadHandler`: the device of a thread, its buffers, and how packets are written out. -/

namespace Threader

/-- `HandlerBase::ConnectionState`. -/
inductive ConnectionState
  | disconnected
  | connecting
  | connected
deriving DecidableEq, Repr

/--
`HandlerBase`: a device, with everything it has accepted so far.

Its answers to the calls of `write` are fixed in advance, and nothing is known about them.
-/
structure HandlerBase where
  connectionState : ConnectionState
  answers : Nat → Int
  writes : Nat
  output : List UInt8

namespace HandlerBase

/-- `isConnected()`. -/
def isConnected (handler : HandlerBase) : Bool := handler.connectionState = .connected

/-- `write(data, count)`: accepts any number of the bytes offered, or answers `-1`. -/
def write (handler : HandlerBase) (data : QByteArray) : Int × HandlerBase :=
  let written := max (-1) (min (handler.answers handler.writes) data.length)
  (written, { handler with
    writes := handler.writes + 1
    output := handler.output ++ data.take written.toNat })

end HandlerBase

/-- The readings of `DateUtils::getTickCount`, of which nothing is known either. -/
structure Clock where
  ticks : Nat → Int
  readings : Nat

/-- `ThreadHandler`: a device and the buffers between it and the packets. -/
structure ThreadHandler where
  handler : HandlerBase
  inputBuffer : QByteArray
  -- The stream writes to the output buffer, which is its array.
  outputStream : DataStream
  lastPacketSent : Int
  lastPacketReceived : Int
  clock : Clock

namespace ThreadHandler

/-- `_outputBuffer`, the array under the output stream. -/
def outputBuffer (thread : ThreadHandler) : QByteArray := thread.outputStream.data.getD []

/-- `DateUtils::getTickCount()`. -/
def getTickCount (thread : ThreadHandler) : Int × ThreadHandler :=
  (thread.clock.ticks thread.clock.readings,
    { thread with clock := { thread.clock with readings := thread.clock.readings + 1 } })

/-- `clearBuffers()`: the output stream keeps its position. -/
def clearBuffers (thread : ThreadHandler) : ThreadHandler :=
  { thread with inputBuffer := [], outputStream := { thread.outputStream with data := some [] } }

/-- `slotOnReadyToWrite(sender)`: offers the output buffer to the device. -/
def slotOnReadyToWrite (thread : ThreadHandler) : ThreadHandler :=
  if thread.outputBuffer.length = 0 then thread
  else
    let result := thread.handler.write thread.outputBuffer
    let thread := { thread with handler := result.2 }
    if result.1 > 0 then
      -- What was accepted leaves the buffer, and the stream moves back by as many bytes.
      let shortened : DataStream :=
        { thread.outputStream with data := some (thread.outputBuffer.drop result.1.toNat) }
      { thread with outputStream := shortened.setPosition (shortened.position - result.1) }
    else thread

/-- `sendPacket(packet)`: writes the packet and offers the buffer, only while connected. -/
def sendPacket (thread : ThreadHandler) (packet : Option DataFramesPacket) : Bool × ThreadHandler :=
  match packet with
  | none => (false, thread)
  | some packet =>
    if !thread.handler.isConnected then (false, thread)
    else
      let result := packet.write thread.outputStream
      let thread := { thread with outputStream := result.2 }.slotOnReadyToWrite
      let tickCount := thread.getTickCount
      (result.1, { tickCount.2 with lastPacketSent := tickCount.1 })

/-- `slotOnConnectionStateChanged(sender, oldState, newState)`, up to the hooks of the subclass. -/
def slotOnConnectionStateChanged (thread : ThreadHandler) (newState : ConnectionState) :
    ThreadHandler :=
  let thread := thread.clearBuffers
  match newState with
  | .connecting => thread
  | .connected =>
    let tickCount := thread.getTickCount
    { tickCount.2 with lastPacketSent := tickCount.1, lastPacketReceived := tickCount.1 }
  | .disconnected => thread

/--
The constructor, with `setHandler(handler)`.

A handler that is not disconnected has its slot called at once, for lack of a change to come.
-/
def construct (handler : HandlerBase) (clock : Clock) : ThreadHandler :=
  -- The first reading is the time of the next try to connect.
  let lastPacketSent := clock.ticks (clock.readings + 1)
  let thread : ThreadHandler :=
    ⟨handler, [], .ofData [], lastPacketSent, lastPacketSent,
      { clock with readings := clock.readings + 2 }⟩
  if handler.connectionState ≠ .disconnected then
    thread.slotOnConnectionStateChanged handler.connectionState
  else thread

/-- The answers of `read` in the loop of `slotOnReadyToRead`, which ends at the first empty one. -/
def readLoop : List QByteArray → QByteArray
  | [] => []
  | data :: answers => if data = [] then [] else data ++ readLoop answers

end ThreadHandler

end Threader
