import Threader.Base.FixedWidth
import Threader.Utils.CrcUtils
import Threader.Utils.DataStream

/-! `PacketFactorySimple`: the packets that the client and the server of the demonstration exchange. -/

namespace Threader

/-- `SimplePacketType`, as the values it has in a header. -/
inductive SimplePacketType
  | ticket
  | hello
  | welcome
  | close
  | alive
deriving DecidableEq, Repr

namespace SimplePacketType

/-- `PacketTypeType(type)`. -/
def toPacketType : SimplePacketType → UInt16
  | ticket => 0
  | hello => 1
  | welcome => 2
  | close => 3
  | alive => 4

/-- The type that a field of a header stands for, unless it is none of them. -/
def ofPacketType (packetType : UInt16) : Option SimplePacketType :=
  [ticket, hello, welcome, close, alive].find? fun type => type.toPacketType = packetType

@[simp] theorem ofPacketType_toPacketType (type : SimplePacketType) :
    ofPacketType type.toPacketType = some type := by
  cases type <;> rfl

end SimplePacketType

/-- `PacketSimpleHeader`: the packed fields in front of the data of a packet. -/
structure PacketSimpleHeader where
  tag : UInt16
  length : UInt32
  checkSumm : UInt16
  packetId : UInt32
  packetType : UInt16
deriving DecidableEq, Repr

namespace PacketSimpleHeader

/-- The constructor: the tag is not a parameter. -/
def build (length : UInt32) (checkSumm : UInt16) (packetId : UInt32) (packetType : UInt16) :
    PacketSimpleHeader :=
  ⟨0xAA55, length, checkSumm, packetId, packetType⟩

/-- `sizeof(PacketSimpleHeader)`, which is packed. -/
def headerSize : Nat := 14

/-- The bytes of a header in memory, where every field is little-endian. -/
def toBytes (header : PacketSimpleHeader) : List UInt8 :=
  FixedWidth.toBytes header.tag ++ FixedWidth.toBytes header.length ++
    FixedWidth.toBytes header.checkSumm ++ FixedWidth.toBytes header.packetId ++
    FixedWidth.toBytes header.packetType

/-- A run of bytes seen as a header. -/
def ofBytes (bytes : List UInt8) : PacketSimpleHeader where
  tag := FixedWidth.ofBytes (bytes.take 2)
  length := FixedWidth.ofBytes ((bytes.drop 2).take 4)
  checkSumm := FixedWidth.ofBytes ((bytes.drop 6).take 2)
  packetId := FixedWidth.ofBytes ((bytes.drop 8).take 4)
  packetType := FixedWidth.ofBytes ((bytes.drop 12).take 2)

end PacketSimpleHeader

/-- `PacketSimple`: a header and the data behind it. -/
structure PacketSimple where
  header : PacketSimpleHeader
  data : QByteArray
deriving DecidableEq, Repr

namespace PacketSimple

/-- The constructor, which copies `size` bytes. -/
def ofData (header : PacketSimpleHeader) (data : List UInt8) (size : Int) : PacketSimple :=
  ⟨header, data.take size.toNat⟩

/-- `write(stream)`: the header as it lies in memory, and the data. -/
def write (packet : PacketSimple) (stream : DataStream) : Bool × DataStream :=
  DataStream.andThen (stream.writeRaw packet.header.toBytes) fun stream =>
    stream.writeRaw packet.data

end PacketSimple

/-- `PacketFactorySimpleResults`: why no packet was extracted. -/
inductive PacketFactorySimpleResults
  | headerNotFound
  | notEnoughForHeader
  | notEnoughForBody
  | badCheckSumm
deriving DecidableEq, Repr

/-- `PacketFactorySimple`: the id that was generated last. -/
structure PacketFactorySimple where
  packetId : UInt32
deriving DecidableEq, Repr

namespace PacketFactorySimple

open MachineInt (toInt32)
open PacketSimpleHeader (headerSize)

/-- A factory as its constructor leaves it. -/
def init : PacketFactorySimple := ⟨0⟩

/-- The part of `tryExtractPacket` behind the search, for a buffer that begins with the byte. -/
def extractFront (data : QByteArray) : Except PacketFactorySimpleResults PacketSimple × QByteArray :=
  if data.length < headerSize then (.error .notEnoughForHeader, data)
  else
    let header := PacketSimpleHeader.ofBytes (data.take headerSize)
    -- The header size is a `size_t`, so the sum is formed in 64 bits and does not wrap.
    if data.length < headerSize + header.length.toNat then (.error .notEnoughForBody, data)
    else
      let dataPointer := data.drop headerSize
      let receivedCrc := CrcUtils.crc16From 0 dataPointer (toInt32 header.length.toNat)
      if receivedCrc ≠ header.checkSumm then (.error .badCheckSumm, data)
      else (.ok (.ofData header dataPointer (toInt32 header.length.toNat)),
        data.drop (headerSize + header.length.toNat))

/-- `tryExtractPacket(data)`: the packet, or the result that is set instead, and the buffer. -/
def tryExtractPacket (data : QByteArray) :
    Except PacketFactorySimpleResults PacketSimple × QByteArray :=
  let headerPosition := data.indexOfByte 0x55 0
  if headerPosition < 0 then (.error .headerNotFound, data)
  else extractFront (data.drop headerPosition.toNat)

/-- `generateNextPacketId()`: counts up and starts again at one. -/
def generateNextPacketId (factory : PacketFactorySimple) : UInt32 × PacketFactorySimple :=
  let next := factory.packetId + 1
  let next := if next ≥ 0x1FFFFFFF then 1 else next
  (next, ⟨next⟩)

/-- `buildPacket(packetType, data)`, which `buildPacket(data, generatePacketId)` calls with zero. -/
def buildPacket (factory : PacketFactorySimple) (packetType : UInt16) (data : QByteArray) :
    PacketSimple × PacketFactorySimple :=
  let generated := factory.generateNextPacketId
  let header := PacketSimpleHeader.build (UInt32.ofNat data.length)
    (CrcUtils.crc16From 0 data (toInt32 data.length)) generated.1 packetType
  (.ofData header data (toInt32 data.length), generated.2)

/-- What the builders of packets write into their stream. -/
def written (writes : List (List UInt8)) : QByteArray :=
  (writes.foldl (fun stream bytes => (stream.writeRaw bytes).2) (DataStream.ofData [])).data.getD []

/-- `buildPacketHello(name)`: as many bytes of the name in the local encoding as it has characters. -/
def buildPacketHello (factory : PacketFactorySimple) (local8Bit : QByteArray) (length : Nat) :
    PacketSimple × PacketFactorySimple :=
  factory.buildPacket SimplePacketType.hello.toPacketType (written [local8Bit.take length, [0]])

/-- `buildPacketWelcome(name)`. -/
def buildPacketWelcome (factory : PacketFactorySimple) (local8Bit : QByteArray) (length : Nat) :
    PacketSimple × PacketFactorySimple :=
  factory.buildPacket SimplePacketType.welcome.toPacketType (written [local8Bit.take length])

/-- `buildPacketAlive(currentTime, tickCount)`. -/
def buildPacketAlive (factory : PacketFactorySimple) (currentTime tickCount : UInt64) :
    PacketSimple × PacketFactorySimple :=
  factory.buildPacket SimplePacketType.alive.toPacketType
    (written [FixedWidth.toBytes currentTime ++ FixedWidth.toBytes tickCount])

end PacketFactorySimple

end Threader
