import Threader.Base.Heap
import Threader.Frames.DataFrames
import Threader.Utils.CrcUtils

/-! `DataFramesPackets`: packets, the queue of packets that wait for a ticket, and the packet factory. -/

namespace Threader

/-- `PacketType`: one byte, which a received header may fill with any value. -/
structure PacketType where
  value : UInt8
deriving DecidableEq, Repr

namespace PacketType

def packetWithoutTicket : PacketType := ⟨0⟩

def packetNeedsTicket : PacketType := ⟨1⟩

def ticket : PacketType := ⟨2⟩

def maximumValue : PacketType := ⟨3⟩

/-- The comparison with `MaximumValue` that a received header has to pass. -/
def isValid (type : PacketType) : Bool := !(type.value ≥ maximumValue.value)

end PacketType

/-- `DATAFRAMES_PACKET_TAG`. -/
def DATAFRAMES_PACKET_TAG : UInt16 := 0x5A5A

/-- `PACKET_ID_EMPTY`: the id of a packet that has not been given one. -/
def PACKET_ID_EMPTY : UInt32 := 0

/-- `DataFramesPacketHeader`: the packed fields in front of the data of a packet. -/
structure DataFramesPacketHeader where
  tag : UInt16
  packetType : PacketType
  length : UInt32
  checkSumm : UInt16
  packetId : UInt32
deriving DecidableEq, Repr

namespace DataFramesPacketHeader

/-- The constructor: the tag is not a parameter. -/
def build (packetType : PacketType) (length : UInt32) (checkSumm : UInt16) (packetId : UInt32) :
    DataFramesPacketHeader :=
  ⟨DATAFRAMES_PACKET_TAG, packetType, length, checkSumm, packetId⟩

/-- `sizeof(DataFramesPacketHeader)`, which is packed. -/
def headerSize : Nat := 13

/-- The bytes of a header in memory, where every field is little-endian. -/
def toBytes (header : DataFramesPacketHeader) : List UInt8 :=
  FixedWidth.toBytes header.tag ++ FixedWidth.toBytes header.packetType.value ++
    FixedWidth.toBytes header.length ++ FixedWidth.toBytes header.checkSumm ++
    FixedWidth.toBytes header.packetId

/-- A run of bytes seen as a header. -/
def ofBytes (bytes : List UInt8) : DataFramesPacketHeader where
  tag := FixedWidth.ofBytes (bytes.take 2)
  packetType := ⟨FixedWidth.ofBytes ((bytes.drop 2).take 1)⟩
  length := FixedWidth.ofBytes ((bytes.drop 3).take 4)
  checkSumm := FixedWidth.ofBytes ((bytes.drop 7).take 2)
  packetId := FixedWidth.ofBytes ((bytes.drop 9).take 4)

end DataFramesPacketHeader

/-- `DataFramesPacket`: a header, the data behind it, and a name that stays on this side. -/
structure DataFramesPacket where
  header : DataFramesPacketHeader
  data : QByteArray
  packetName : QString
deriving DecidableEq, Repr

namespace DataFramesPacket

/-- The constructor that copies `size` bytes. -/
def ofData (header : DataFramesPacketHeader) (data : List UInt8) (size : UInt32) :
    DataFramesPacket :=
  ⟨header, data.take size.toNat, []⟩

/-- `write(stream)`: the header as it lies in memory, and the data. -/
def write (packet : DataFramesPacket) (stream : DataStream) : Bool × DataStream :=
  DataStream.andThen (stream.writeRaw packet.header.toBytes) fun stream =>
    stream.writeRaw packet.data

/-- `packetId()`. -/
def packetId (packet : DataFramesPacket) : UInt32 := packet.header.packetId

/-- `setPacketId(packetId)`. -/
def setPacketId (packetId : UInt32) (packet : DataFramesPacket) : DataFramesPacket :=
  { packet with header := { packet.header with packetId := packetId } }

/-- `setPacketType(packetType)`. -/
def setPacketType (packetType : PacketType) (packet : DataFramesPacket) : DataFramesPacket :=
  { packet with header := { packet.header with packetType := packetType } }

/-- `setPacketName(packetName)`. -/
def setPacketName (packetName : QString) (packet : DataFramesPacket) : DataFramesPacket :=
  { packet with packetName := packetName }

end DataFramesPacket

/-- The packets that shared pointers refer to. -/
abbrev PacketHeap := Heap DataFramesPacket

/-- `DataFramesPacket::Ptr`, where null is `none` of an `Option`. -/
abbrev PacketPtr := Heap.Address

/-- `packet->packetId()` through a pointer. -/
def PacketHeap.packetId (heap : PacketHeap) (packet : PacketPtr) : Option UInt32 :=
  (heap.read packet).map DataFramesPacket.packetId

/-- `packet->setPacketId(packetId)` through a pointer. -/
def PacketHeap.setPacketId (heap : PacketHeap) (packet : PacketPtr) (packetId : UInt32) :
    PacketHeap :=
  heap.update packet (DataFramesPacket.setPacketId packetId)

/-- `QueueDataFramesPackets`: pointers to the packets that wait, in the order they were queued. -/
structure QueueDataFramesPackets where
  packets : List PacketPtr
deriving DecidableEq, Repr

namespace QueueDataFramesPackets

/-- `enqueue(packet)`: appends, and refuses a null pointer. -/
def enqueue (queue : QueueDataFramesPackets) (packet : Option PacketPtr) :
    Int × QueueDataFramesPackets :=
  match packet with
  | none => (-1, queue)
  | some packet => (queue.packets.length + 1, ⟨queue.packets ++ [packet]⟩)

/-- `first()`: the packet that waits longest, or null. -/
def first (queue : QueueDataFramesPackets) : Option PacketPtr := queue.packets.head?

/-- The loop of `applyTicket`, with the places below `index` still to be looked at. -/
def applyTicketBelow (heap : PacketHeap) (packetId : UInt32) :
    Nat → List PacketPtr → Nat → Nat × List PacketPtr
  | 0, packets, count => (count, packets)
  | index + 1, packets, count =>
    if (packets[index]?.bind heap.packetId) = some packetId then
      applyTicketBelow heap packetId index (packets.eraseIdx index) (count + 1)
    else applyTicketBelow heap packetId index packets count

/-- `applyTicket(packetId)`: removes every packet of that id, and counts them. -/
def applyTicket (queue : QueueDataFramesPackets) (heap : PacketHeap) (packetId : UInt32) :
    Nat × QueueDataFramesPackets :=
  let result := applyTicketBelow heap packetId queue.packets.length queue.packets 0
  (result.1, ⟨result.2⟩)

/-- `reset()`: the waiting packets lose their ids. -/
def reset (queue : QueueDataFramesPackets) (heap : PacketHeap) : PacketHeap :=
  queue.packets.foldl (fun heap packet => heap.setPacketId packet 0) heap

end QueueDataFramesPackets

/-- `DataFramesFactoryResults`: why no packet was extracted. -/
inductive DataFramesFactoryResults
  | headerNotFound
  | notEnoughForHeader
  | notEnoughForBody
  | badCheckSumm
deriving DecidableEq, Repr

/-- `DataFramesPacketFactory`: the source of packet ids, and the functions around packets. -/
structure DataFramesPacketFactory where
  packetId : UInt32
deriving DecidableEq, Repr

namespace DataFramesPacketFactory

open DataFramesPacketHeader (headerSize)

/-- A factory as its constructor leaves it. -/
def init : DataFramesPacketFactory := ⟨0⟩

/-- The characters of the literal `"\0x5A\0x5A"`: an octal escape ends before the letter `x`. -/
def tagLiteral : List UInt8 := [0x00, 0x78, 0x35, 0x41, 0x00, 0x78, 0x35, 0x41]

/--
The loop that looks for a header, for at most `fuel` turns.

Every turn but the last removes a byte, so one turn more than there are bytes is enough.
-/
def findHeader : Nat → QByteArray →
    Except DataFramesFactoryResults DataFramesPacketHeader × QByteArray
  | 0, data => (.error .headerNotFound, data)
  | fuel + 1, data =>
    let headerPosition := data.indexOf tagLiteral
    if headerPosition < 0 then (.error .headerNotFound, data)
    else
      let data := if headerPosition > 0 then data.drop headerPosition.toNat else data
      if data.length < headerSize then (.error .notEnoughForHeader, data)
      else
        let header := DataFramesPacketHeader.ofBytes (data.take headerSize)
        if header.packetType.isValid then (.ok header, data)
        else findHeader fuel (data.drop 1)

/-- The part of `tryExtractPacket` behind the loop, for the header found at the front of the buffer. -/
def extractBody (header : DataFramesPacketHeader) (data : QByteArray) :
    Except DataFramesFactoryResults DataFramesPacket × QByteArray :=
  -- The header size is a `size_t`, so the sum is formed in 64 bits and does not wrap.
  if data.length < headerSize + header.length.toNat then (.error .notEnoughForBody, data)
  else
    let body := data.drop headerSize
    -- The length of the checksum is a 16-bit parameter.
    let receivedCrc := CrcUtils.crc16 body header.length.toUInt16
    if receivedCrc ≠ header.checkSumm then (.error .badCheckSumm, data)
    else (.ok (.ofData header body header.length), data.drop (headerSize + header.length.toNat))

/-- `tryExtractPacket(data)`: the packet, or the result that is set instead, and the buffer. -/
def tryExtractPacket (data : QByteArray) :
    Except DataFramesFactoryResults DataFramesPacket × QByteArray :=
  match findHeader (data.length + 1) data with
  | (.error result, data) => (.error result, data)
  | (.ok header, data) => extractBody header data

/-- `generateNextPacketId()`: counts up and starts again at one. -/
def generateNextPacketId (factory : DataFramesPacketFactory) : UInt32 × DataFramesPacketFactory :=
  let next := factory.packetId + 1
  let next := if next ≥ 0x1FFFFFFF then 1 else next
  (next, ⟨next⟩)

/-- `buildPacket(data, generatePacketId)`: a packet that needs a ticket. -/
def buildPacket (factory : DataFramesPacketFactory) (data : QByteArray) (generatePacketId : Bool) :
    DataFramesPacket × DataFramesPacketFactory :=
  let generated := if generatePacketId then factory.generateNextPacketId
    else (PACKET_ID_EMPTY, factory)
  let header := DataFramesPacketHeader.build .packetNeedsTicket (UInt32.ofNat data.length)
    -- The length of the checksum is a 16-bit parameter.
    (CrcUtils.crc16 data (UInt16.ofNat data.length)) generated.1
  (.ofData header data (UInt32.ofNat data.length), generated.2)

/-- `buildPacketFromFrame(frame, generatePacketId)`: null for a frame without a definition. -/
def buildPacketFromFrame [QtText] (factory : DataFramesPacketFactory) (frame : DataFrame)
    (generatePacketId : Bool) : Option DataFramesPacket × DataFramesPacketFactory :=
  match frame.definition with
  | none => (none, factory)
  | some definition =>
    let packetType : PacketType :=
      if definition.needsTicket then .packetNeedsTicket else .packetWithoutTicket
    let data := (frame.write (.ofData [])).2.data.getD []
    let built := factory.buildPacket data generatePacketId
    (some (built.1.setPacketType packetType), built.2)

/-- `buildPacketTicket(packetId)`: there is no ticket for a packet without an id. -/
def buildPacketTicket (factory : DataFramesPacketFactory) (packetId : UInt32) :
    Option DataFramesPacket × DataFramesPacketFactory :=
  if PACKET_ID_EMPTY = packetId then (none, factory)
  else
    let data := FixedWidth.toBytes packetId
    let generated := factory.generateNextPacketId
    let header := DataFramesPacketHeader.build .ticket 4 (CrcUtils.crc16 data 4) generated.1
    (some (.ofData header data 4), generated.2)

end DataFramesPacketFactory

end Threader
