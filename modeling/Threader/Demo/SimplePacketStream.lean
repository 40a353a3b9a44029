import Threader.Base.StreamExtraction
import Threader.Demo.PacketFactorySimple

/-! How `PacketFactorySimple` cuts a stream into packets, and what stops it for good. -/

namespace Threader

open MachineInt (toInt32)
open PacketSimpleHeader (headerSize)

namespace PacketSimpleHeader

@[simp] theorem toBytes_length (header : PacketSimpleHeader) : header.toBytes.length = headerSize := by
  simp [toBytes, FixedWidth.toBytes_length, FixedWidth.width, headerSize]

/-- A header is read back from its bytes. -/
theorem ofBytes_toBytes (header : PacketSimpleHeader) : ofBytes header.toBytes = header := by
  have tag : (FixedWidth.toBytes header.tag).length = 2 := FixedWidth.toBytes_length _
  have length : (FixedWidth.toBytes header.length).length = 4 := FixedWidth.toBytes_length _
  have sum : (FixedWidth.toBytes header.checkSumm).length = 2 := FixedWidth.toBytes_length _
  have id : (FixedWidth.toBytes header.packetId).length = 4 := FixedWidth.toBytes_length _
  have type : (FixedWidth.toBytes header.packetType).length = 2 := FixedWidth.toBytes_length _
  -- Every field is cut out again at the place it was put.
  simp [ofBytes, toBytes, List.drop_append, tag, length, sum, id, type,
    FixedWidth.ofBytes_toBytes, List.take_of_length_le, List.drop_of_length_le]

/-- A header with the tag begins with the byte that is searched for. -/
theorem toBytes_eq_cons {header : PacketSimpleHeader} (tagged : header.tag = 0xAA55) :
    ∃ rest, header.toBytes = 0x55 :: rest := by
  have tag : FixedWidth.toBytes header.tag = [0x55, 0xAA] := by rw [tagged]; rfl
  exact ⟨_, by rw [toBytes, tag]; rfl⟩

end PacketSimpleHeader

namespace PacketSimple

/-- The bytes a packet is written as. -/
def image (packet : PacketSimple) : List UInt8 := packet.header.toBytes ++ packet.data

/-- Writing a packet appends its bytes. -/
@[simp] theorem write_atEnd (packet : PacketSimple) (data : List UInt8) :
    packet.write (.atEnd data) = (true, .atEnd (data ++ packet.image)) := by
  simp [write, image]

/-- The array that packets written one after another leave. -/
def writeAll (packets : List PacketSimple) : QByteArray :=
  let stream := packets.foldl (fun stream packet => (write packet stream).2) (.ofData [])
  stream.data.getD []

/-- Packets are written as their bytes one after another. -/
theorem writeAll_eq (packets : List PacketSimple) : writeAll packets = packets.flatMap image := by
  -- The stream stands at the end of what was written, so every write appends.
  suffices ∀ data, packets.foldl (fun stream packet => (write packet stream).2) (.atEnd data) =
      .atEnd (data ++ packets.flatMap image) by
    rw [writeAll, DataStream.ofData_nil, this]
    rfl
  induction packets with
  | nil => simp
  | cons packet packets ih =>
    intro data
    simp [ih]

/-- A packet whose header describes its data. -/
structure WellFormed (packet : PacketSimple) : Prop where
  tag : packet.header.tag = 0xAA55
  length : packet.data.length = packet.header.length.toNat
  fits : packet.data.length < 2147483648
  checkSumm : CrcUtils.crc16From 0 packet.data packet.data.length = packet.header.checkSumm

end PacketSimple

namespace PacketFactorySimple

/-- As many bytes are checked as there are in front of the end of the packet. -/
theorem toNat_toInt32_le (length : UInt32) : (toInt32 length.toNat).toNat ≤ length.toNat := by
  have bound := length.toNat_lt
  -- A length from 2^31 on becomes a negative count, of which nothing is checked.
  simp only [toInt32, Int.bmod_def]
  split <;> omega

/-- Bytes that follow the checked ones have no influence on the checksum. -/
theorem crc16From_append (start : UInt16) {data : List UInt8} (more : List UInt8) {count : Int}
    (covered : count.toNat ≤ data.length) :
    CrcUtils.crc16From start (data ++ more) count = CrcUtils.crc16From start data count := by
  unfold CrcUtils.crc16From
  rw [List.take_append_of_le_length covered]

section Front

variable {data rest : QByteArray} {packet : PacketSimple}

/-- The header that the first bytes of a buffer are read as. -/
def headerAt (data : QByteArray) : PacketSimpleHeader := .ofBytes (data.take headerSize)

/-- A packet is cut out exactly if it is there as a whole and has the right checksum. -/
theorem extractFront_ok_iff : extractFront data = (.ok packet, rest) ↔
    (headerSize + (headerAt data).length.toNat ≤ data.length ∧
      CrcUtils.crc16From 0 (data.drop headerSize) (toInt32 (headerAt data).length.toNat) =
        (headerAt data).checkSumm) ∧
    .ofData (headerAt data) (data.drop headerSize) (toInt32 (headerAt data).length.toNat) = packet ∧
    data.drop (headerSize + (headerAt data).length.toNat) = rest := by
  unfold extractFront
  -- The tests are made in the order of the source, and each failure keeps the buffer.
  by_cases short : data.length < headerSize
  · have shorter : ¬ headerSize + (headerAt data).length.toNat ≤ data.length := by omega
    simp [short, shorter]
  · by_cases incomplete : data.length < headerSize + (headerAt data).length.toNat
    · have incomplete' := incomplete
      rw [headerAt] at incomplete
      simp [short, incomplete, headerAt, Nat.not_le.mpr incomplete]
    · by_cases right : CrcUtils.crc16From 0 (data.drop headerSize)
          (toInt32 (headerAt data).length.toNat) = (headerAt data).checkSumm
      · rw [headerAt] at incomplete right
        simp [short, incomplete, headerAt, right, Nat.not_lt.mp incomplete]
      · rw [headerAt] at incomplete right
        simp [short, incomplete, headerAt, right]

/-- A call that cuts no packet out leaves the buffer as it is. -/
theorem extractFront_error {result : PacketFactorySimpleResults}
    (called : extractFront data = (.error result, rest)) : data = rest := by
  unfold extractFront at called
  -- None of the early returns touches the buffer.
  split at called
  · exact congrArg Prod.snd called
  · dsimp only at called
    split at called
    · exact congrArg Prod.snd called
    · split at called
      · exact congrArg Prod.snd called
      · cases called

/-- A packet that is complete is cut out the same way whatever follows it. -/
theorem extractFront_append (more : QByteArray) (called : extractFront data = (.ok packet, rest)) :
    extractFront (data ++ more) = (.ok packet, rest ++ more) ∧ rest.length < data.length := by
  obtain ⟨⟨enough, right⟩, rfl, rfl⟩ := extractFront_ok_iff.mp called
  -- What follows changes neither the header nor the bytes that the checksum is about.
  have header : headerAt (data ++ more) = headerAt data := by
    rw [headerAt, headerAt, List.take_append_of_le_length (by omega)]
  have body : (data ++ more).drop headerSize = data.drop headerSize ++ more :=
    List.drop_append_of_le_length (by omega)
  have narrowed := toNat_toInt32_le (headerAt data).length
  have covered : (toInt32 (headerAt data).length.toNat).toNat ≤ (data.drop headerSize).length := by
    rw [List.length_drop]
    omega
  refine ⟨extractFront_ok_iff.mpr ?_, ?_⟩
  · rw [header, body, crc16From_append 0 more covered, List.length_append]
    refine ⟨⟨by omega, right⟩, ?_, List.drop_append_of_le_length enough⟩
    rw [PacketSimple.ofData, List.take_append_of_le_length covered]
    rfl
  · rw [List.length_drop, headerSize]
    rw [headerSize] at enough
    omega

end Front

section Search

/-- A buffer without the byte, or the first place of it. -/
theorem search_cases (data : QByteArray) :
    (0x55 : UInt8) ∉ data ∨ ∃ junk rest, data = junk ++ 0x55 :: rest ∧ (0x55 : UInt8) ∉ junk := by
  by_cases there : (0x55 : UInt8) ∈ data
  · exact .inr (List.eq_append_cons_of_mem there)
  · exact .inl there

/-- Where the byte is nowhere, everything stays. -/
theorem tryExtractPacket_absent {data : QByteArray} (absent : (0x55 : UInt8) ∉ data) :
    tryExtractPacket data = (.error .headerNotFound, data) := by
  -- The search gives minus one, and the function returns before it removes anything.
  have nowhere : data.findIdx? (· == (0x55 : UInt8)) = none := by
    rw [List.findIdx?_eq_none_iff]
    intro byte member
    simpa using fun same : byte = 0x55 => absent (same ▸ member)
  simp [tryExtractPacket, QByteArray.indexOfByte, nowhere]

/-- What is in front of the byte is removed. -/
theorem tryExtractPacket_junk {junk : QByteArray} (absent : (0x55 : UInt8) ∉ junk) (rest : QByteArray) :
    tryExtractPacket (junk ++ 0x55 :: rest) = extractFront (0x55 :: rest) := by
  have position : QByteArray.indexOfByte (junk ++ 0x55 :: rest) 0x55 0 = junk.length := by
    simpa using QByteArray.indexOfByte_append [] absent rest
  have found : ¬ ((junk.length : Int) < 0) := by omega
  simp [tryExtractPacket, position, found]

theorem tryExtractPacket_front (rest : QByteArray) :
    tryExtractPacket (0x55 :: rest) = extractFront (0x55 :: rest) :=
  tryExtractPacket_junk List.not_mem_nil rest

end Search

/-- The packet of a call, and what it leaves in the buffer. -/
def extractPacket (data : QByteArray) : Option PacketSimple × QByteArray :=
  ((tryExtractPacket data).1.toOption, (tryExtractPacket data).2)

theorem extractPacket_some {data rest : QByteArray} {packet : PacketSimple} :
    extractPacket data = (some packet, rest) ↔ tryExtractPacket data = (.ok packet, rest) := by
  unfold extractPacket
  rcases tryExtractPacket data with ⟨result | found, buffer⟩ <;> simp [Except.toOption]

theorem extractPacket_none {data rest : QByteArray} :
    extractPacket data = (none, rest) ↔ ∃ result, tryExtractPacket data = (.error result, rest) := by
  unfold extractPacket
  rcases tryExtractPacket data with ⟨result | found, buffer⟩ <;> simp [Except.toOption]

section MoreInput

variable {data rest : QByteArray} (more : QByteArray)

/-- An extracted packet is extracted whatever follows it, and takes bytes with it. -/
theorem tryExtractPacket_ok_append {packet : PacketSimple}
    (called : tryExtractPacket data = (.ok packet, rest)) :
    tryExtractPacket (data ++ more) = (.ok packet, rest ++ more) ∧ rest.length < data.length := by
  obtain absent | ⟨junk, front, rfl, absent⟩ := search_cases data
  · rw [tryExtractPacket_absent absent] at called
    -- Without the byte no packet would have been found.
    cases called
  · rw [tryExtractPacket_junk absent] at called
    obtain ⟨again, shorter⟩ := extractFront_append more called
    rw [List.append_assoc, List.cons_append, tryExtractPacket_junk absent]
    refine ⟨again, ?_⟩
    rw [List.length_append]
    omega

/-- What a call without a packet removed is removed whatever follows. -/
theorem tryExtractPacket_error_append {result : PacketFactorySimpleResults}
    (called : tryExtractPacket data = (.error result, rest)) :
    tryExtractPacket (data ++ more) = tryExtractPacket (rest ++ more) ∧
      rest.length ≤ data.length := by
  obtain absent | ⟨junk, front, rfl, absent⟩ := search_cases data
  · rw [tryExtractPacket_absent absent] at called
    cases called
    exact ⟨rfl, Nat.le_refl _⟩
  · rw [tryExtractPacket_junk absent] at called
    -- The junk is gone, and the next call begins at the byte that was found.
    obtain rfl := extractFront_error called
    rw [List.append_assoc, List.cons_append, tryExtractPacket_junk absent, tryExtractPacket_front]
    refine ⟨rfl, ?_⟩
    rw [List.length_append]
    omega

end MoreInput

/-- `tryExtractPacket` decides once and for all about the bytes it has seen. -/
def packetExtractor : StreamExtractor UInt8 PacketSimple where
  extract := extractPacket
  item_shrinks called := (tryExtractPacket_ok_append [] (extractPacket_some.mp called)).2
  wait_le called := by
    obtain ⟨result, called⟩ := extractPacket_none.mp called
    exact (tryExtractPacket_error_append [] called).2
  item_stable more called :=
    extractPacket_some.mpr (tryExtractPacket_ok_append more (extractPacket_some.mp called)).1
  wait_stable more called := by
    obtain ⟨result, called⟩ := extractPacket_none.mp called
    simp only [extractPacket, (tryExtractPacket_error_append more called).1]

section Images

variable {packet : PacketSimple}

/-- A length below the bounds of an `int` is kept. -/
theorem toInt32_length (valid : packet.WellFormed) :
    toInt32 packet.header.length.toNat = packet.data.length := by
  have fits := valid.fits
  rw [← valid.length]
  exact MachineInt.toInt32_of_fits (by omega) (by omega)

/-- A packet begins with the byte that is searched for. -/
theorem image_eq_cons (valid : packet.WellFormed) : ∃ rest, packet.image = 0x55 :: rest := by
  obtain ⟨rest, header⟩ := PacketSimpleHeader.toBytes_eq_cons valid.tag
  exact ⟨rest ++ packet.data, by rw [PacketSimple.image, header]; rfl⟩

/-- Behind an intact header, data of the same length decide by their checksum alone. -/
theorem extractPacket_altered (valid : packet.WellFormed) {altered : QByteArray}
    (sameLength : altered.length = packet.data.length) (more : QByteArray) :
    extractPacket (packet.header.toBytes ++ (altered ++ more)) =
      if CrcUtils.crc16From 0 altered altered.length = packet.header.checkSumm then
        (some ⟨packet.header, altered⟩, more)
      else (none, packet.header.toBytes ++ (altered ++ more)) := by
  -- The search stops at the first byte of the header, which is read as it was written.
  obtain ⟨start, cons⟩ := PacketSimpleHeader.toBytes_eq_cons valid.tag
  have front : tryExtractPacket (packet.header.toBytes ++ (altered ++ more)) =
      extractFront (packet.header.toBytes ++ (altered ++ more)) := by
    rw [cons]
    exact tryExtractPacket_front _
  have header : headerAt (packet.header.toBytes ++ (altered ++ more)) = packet.header := by
    rw [headerAt, List.take_left' (PacketSimpleHeader.toBytes_length _),
      PacketSimpleHeader.ofBytes_toBytes]
  have body : (packet.header.toBytes ++ (altered ++ more)).drop headerSize = altered ++ more :=
    List.drop_left' (PacketSimpleHeader.toBytes_length _)
  have width : (packet.header.toBytes ++ (altered ++ more)).length =
      headerSize + packet.header.length.toNat + more.length := by
    simp only [List.length_append, PacketSimpleHeader.toBytes_length, sameLength, valid.length]
    omega
  have sum : CrcUtils.crc16From 0 (altered ++ more) (toInt32 packet.header.length.toNat) =
      CrcUtils.crc16From 0 altered altered.length := by
    rw [toInt32_length valid, ← sameLength]
    exact crc16From_append 0 more (by omega)
  -- What the packet leaves is what came behind it.
  have behind : (packet.header.toBytes ++ (altered ++ more)).drop
      (headerSize + packet.header.length.toNat) = more := by
    rw [← List.drop_drop, body, ← valid.length, ← sameLength, List.drop_left]
  have copied : PacketSimple.ofData packet.header (altered ++ more)
      (toInt32 packet.header.length.toNat) = ⟨packet.header, altered⟩ := by
    rw [toInt32_length valid, PacketSimple.ofData, ← sameLength, Int.toNat_natCast, List.take_left]
  split
  · rename_i right
    refine extractPacket_some.mpr (front.trans (extractFront_ok_iff.mpr ?_))
    rw [header, body, sum, behind]
    exact ⟨⟨by omega, right⟩, copied, rfl⟩
  · rename_i wrong
    refine extractPacket_none.mpr ⟨.badCheckSumm, front.trans ?_⟩
    have long : ¬ (packet.header.toBytes ++ (altered ++ more)).length < headerSize := by omega
    have complete : ¬ (packet.header.toBytes ++ (altered ++ more)).length <
        headerSize + packet.header.length.toNat := by omega
    rw [headerAt] at header
    simp only [extractFront, long, complete, header, body, sum, wrong, ↓reduceIte, ne_eq,
      not_false_eq_true]

/-- A well-formed packet is extracted from the bytes it was written as, whatever follows them. -/
theorem extractPacket_image (valid : packet.WellFormed) (more : QByteArray) :
    extractPacket (packet.image ++ more) = (some packet, more) := by
  rw [PacketSimple.image, List.append_assoc, extractPacket_altered valid rfl, if_pos valid.checkSumm]

/-- The bytes of a packet cut short are left in the buffer. -/
theorem extractPacket_cut {cut : List UInt8} (valid : packet.WellFormed)
    (isPrefix : cut <+: packet.image) (strict : cut ≠ packet.image) :
    extractPacket cut = (none, cut) := by
  -- Either the header is not complete yet, or the data are not.
  have shorter : cut.length < packet.image.length :=
    Nat.lt_of_le_of_ne isPrefix.length_le fun same => strict (isPrefix.eq_of_length same)
  obtain ⟨rest, whole⟩ := image_eq_cons valid
  cases cut with
  | nil => exact extractPacket_none.mpr ⟨_, tryExtractPacket_absent List.not_mem_nil⟩
  | cons byte cut =>
    obtain ⟨rfl, _⟩ := List.cons_prefix_cons.mp (whole ▸ isPrefix)
    refine extractPacket_none.mpr ?_
    rw [tryExtractPacket_front]
    unfold extractFront
    by_cases short : (0x55 :: cut).length < headerSize
    · exact ⟨.notEnoughForHeader, if_pos short⟩
    · -- The header has arrived, and it announces more data than there are.
      have header : PacketSimpleHeader.ofBytes ((0x55 :: cut).take headerSize) = packet.header := by
        have first := List.prefix_iff_eq_take.mp isPrefix
        rw [first, List.take_take, Nat.min_eq_left (Nat.not_lt.mp short), PacketSimple.image,
          List.take_left' (PacketSimpleHeader.toBytes_length _), PacketSimpleHeader.ofBytes_toBytes]
      have incomplete : (0x55 :: cut).length < headerSize + packet.header.length.toNat := by
        rwa [PacketSimple.image, List.length_append, PacketSimpleHeader.toBytes_length,
          valid.length] at shorter
      refine ⟨.notEnoughForBody, ?_⟩
      rw [if_neg short, header, if_pos incomplete]

/-- Well-formed packets are framed by their headers. -/
def packetFraming : packetExtractor.Framing where
  encode := PacketSimple.image
  Valid := PacketSimple.WellFormed
  extract_encode more valid := extractPacket_image valid more
  extract_cut := extractPacket_cut

end Images

end PacketFactorySimple

end Threader
