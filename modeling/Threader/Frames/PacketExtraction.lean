import Threader.Base.StreamExtraction
import Threader.Frames.DataFramesPackets

/-! How `tryExtractPacket` takes a buffer apart, and that no cut of a stream changes the result. -/

namespace Threader

namespace DataFramesPacketHeader

@[simp] theorem toBytes_length (header : DataFramesPacketHeader) :
    header.toBytes.length = headerSize := by
  simp [toBytes, FixedWidth.toBytes_length, FixedWidth.width, headerSize]

/-- A header is read back from its bytes. -/
theorem ofBytes_toBytes (header : DataFramesPacketHeader) : ofBytes header.toBytes = header := by
  have tag : (FixedWidth.toBytes header.tag).length = 2 := FixedWidth.toBytes_length _
  have type : (FixedWidth.toBytes header.packetType.value).length = 1 := FixedWidth.toBytes_length _
  have length : (FixedWidth.toBytes header.length).length = 4 := FixedWidth.toBytes_length _
  have sum : (FixedWidth.toBytes header.checkSumm).length = 2 := FixedWidth.toBytes_length _
  have id : (FixedWidth.toBytes header.packetId).length = 4 := FixedWidth.toBytes_length _
  -- Every field is cut out again at the place it was put.
  simp [ofBytes, toBytes, List.drop_append, tag, type, length, sum, id,
    FixedWidth.ofBytes_toBytes, List.take_of_length_le, List.drop_of_length_le]

/-- Thirteen bytes are the bytes of the header they are read as. -/
theorem toBytes_ofBytes {bytes : List UInt8} (length : bytes.length = headerSize) :
    (ofBytes bytes).toBytes = bytes := by
  have word8 {field : List UInt8} (width : field.length = 1) :
      FixedWidth.toBytes (FixedWidth.ofBytes field : UInt8) = field :=
    FixedWidth.toBytes_ofBytes_ofNat (by decide) UInt8.toNat_lt (fun _ => UInt8.ofNat_toNat)
      (fun _ fits => UInt8.toNat_ofNat_of_lt' fits) width
  have word16 {field : List UInt8} (width : field.length = 2) :
      FixedWidth.toBytes (FixedWidth.ofBytes field : UInt16) = field :=
    FixedWidth.toBytes_ofBytes_ofNat (by decide) UInt16.toNat_lt (fun _ => UInt16.ofNat_toNat)
      (fun _ fits => UInt16.toNat_ofNat_of_lt' fits) width
  have word32 {field : List UInt8} (width : field.length = 4) :
      FixedWidth.toBytes (FixedWidth.ofBytes field : UInt32) = field :=
    FixedWidth.toBytes_ofBytes_ofNat (by decide) UInt32.toNat_lt (fun _ => UInt32.ofNat_toNat)
      (fun _ fits => UInt32.toNat_ofNat_of_lt' fits) width
  -- The fields are adjacent pieces of the run.
  match bytes, length with
  | [b0, b1, b2, b3, b4, b5, b6, b7, b8, b9, b10, b11, b12], _ =>
    simp only [toBytes, ofBytes, List.take_succ_cons, List.take_zero, List.drop_succ_cons,
      List.drop_zero]
    rw [word16 rfl, word8 rfl, word32 rfl, word16 rfl, word32 rfl]
    rfl

/-- The type of a header is its third byte. -/
theorem ofBytes_packetType {bytes : List UInt8} {third : UInt8} (found : bytes[2]? = some third) :
    (ofBytes bytes).packetType = ⟨third⟩ := by
  -- The first field is two bytes wide, so the type is what comes behind them.
  have field : (bytes.drop 2).take 1 = [third] := by
    rw [List.take_one, List.head?_drop, found]
    rfl
  have value : FixedWidth.ofBytes [third] = third := by
    simp [FixedWidth.ofBytes, ByteWords.decode]
  simp only [ofBytes, field, value]

end DataFramesPacketHeader

namespace DataFramesPacketFactory

open DataFramesPacketHeader

/-- A whole header stands at the front of a buffer, but its third byte is no packet type. -/
def HeaderRejected (data : QByteArray) : Prop :=
  headerSize ≤ data.length ∧ ∃ third, data[2]? = some third ∧ PacketType.maximumValue.value ≤ third

/-- A whole header of a valid type stands at the front of a buffer. -/
def HeaderAccepted (data : QByteArray) : Prop :=
  headerSize ≤ data.length ∧ ∃ third, data[2]? = some third ∧ third < PacketType.maximumValue.value

/-- The header that the first thirteen bytes of a buffer are read as. -/
def headerAt (data : QByteArray) : DataFramesPacketHeader := ofBytes (data.take headerSize)

/-- A buffer is too short for a header, or its header is rejected or accepted. -/
theorem header_cases (data : QByteArray) :
    data.length < headerSize ∨ HeaderRejected data ∨ HeaderAccepted data := by
  by_cases short : data.length < headerSize
  · exact .inl short
  · have inside : 2 < data.length := by
      simp only [headerSize] at short
      omega
    -- A buffer that holds a header has a third byte, which is below three or not.
    have found : data[2]? = some data[2] := List.getElem?_eq_getElem inside
    by_cases low : data[2] < PacketType.maximumValue.value
    · exact .inr (.inr ⟨Nat.not_lt.mp short, _, found, low⟩)
    · exact .inr (.inl ⟨Nat.not_lt.mp short, _, found, UInt8.not_lt.mp low⟩)

theorem headerAt_packetType {data : QByteArray} {third : UInt8} (found : data[2]? = some third) :
    (headerAt data).packetType = ⟨third⟩ :=
  -- The third byte lies inside the header, so cutting the buffer does not remove it.
  ofBytes_packetType (by rw [List.getElem?_take_of_lt (by decide), found])

theorem HeaderRejected.isValid {data : QByteArray} (rejected : HeaderRejected data) :
    (headerAt data).packetType.isValid = false := by
  -- The comparison with the maximum fails for the third byte.
  obtain ⟨_, third, found, high⟩ := rejected
  simpa [headerAt_packetType found, PacketType.isValid] using high

theorem HeaderAccepted.isValid {data : QByteArray} (accepted : HeaderAccepted data) :
    (headerAt data).packetType.isValid = true := by
  -- The comparison with the maximum succeeds for the third byte.
  obtain ⟨_, third, found, low⟩ := accepted
  simpa [headerAt_packetType found, PacketType.isValid] using low

/-- A rejected header leaves a shorter buffer behind when its first byte is dropped. -/
theorem HeaderRejected.nonempty {data : QByteArray} (rejected : HeaderRejected data) :
    0 < data.length :=
  Nat.lt_of_lt_of_le (by decide) rejected.1

/-- The literal ends at its first character, so it is found at the front of every buffer. -/
theorem indexOf_tagLiteral (data : QByteArray) : data.indexOf tagLiteral = 0 :=
  QByteArray.findFrom_nil data 0

/-- A buffer too short for a header is left as it is. -/
theorem findHeader_short {data : QByteArray} (fuel : Nat) (short : data.length < headerSize) :
    findHeader (fuel + 1) data = (.error .notEnoughForHeader, data) := by
  simp [findHeader, indexOf_tagLiteral, short]

/-- A rejected header costs one byte. -/
theorem findHeader_rejected {data : QByteArray} (fuel : Nat) (rejected : HeaderRejected data) :
    findHeader (fuel + 1) data = findHeader fuel (data.drop 1) := by
  have invalid := rejected.isValid
  simp only [headerAt] at invalid
  simp [findHeader, indexOf_tagLiteral, Nat.not_lt.mpr rejected.1, invalid]

/-- An accepted header is found where the buffer begins. -/
theorem findHeader_accepted {data : QByteArray} (fuel : Nat) (accepted : HeaderAccepted data) :
    findHeader (fuel + 1) data = (.ok (headerAt data), data) := by
  have valid := accepted.isValid
  simp only [headerAt] at valid
  simp [findHeader, indexOf_tagLiteral, Nat.not_lt.mpr accepted.1, valid, headerAt]

/-- Any two sufficient numbers of turns find the same header. -/
theorem findHeader_fuel {fuel other : Nat} {data : QByteArray} (enough : data.length < fuel)
    (alsoEnough : data.length < other) : findHeader fuel data = findHeader other data := by
  -- Induction on the turns: a turn that does not decide makes the buffer shorter.
  induction fuel generalizing other data with
  | zero => omega
  | succ fuel ih =>
    obtain ⟨other, rfl⟩ : ∃ smaller, other = smaller + 1 := ⟨other - 1, by omega⟩
    rcases header_cases data with short | rejected | accepted
    · rw [findHeader_short fuel short, findHeader_short other short]
    · -- The turn removes a byte, so the turns that are left suffice for what is left.
      have nonempty := rejected.nonempty
      rw [findHeader_rejected fuel rejected, findHeader_rejected other rejected]
      exact ih (by simp only [List.length_drop]; omega) (by simp only [List.length_drop]; omega)
    · rw [findHeader_accepted fuel accepted, findHeader_accepted other accepted]

/-- A buffer too short for a header holds no packet yet. -/
theorem tryExtractPacket_short {data : QByteArray} (short : data.length < headerSize) :
    tryExtractPacket data = (.error .notEnoughForHeader, data) := by
  simp only [tryExtractPacket, findHeader_short _ short]

/-- Behind a rejected header, extraction starts over one byte further on. -/
theorem tryExtractPacket_rejected {data : QByteArray} (rejected : HeaderRejected data) :
    tryExtractPacket data = tryExtractPacket (data.drop 1) := by
  -- The turns left after the dropped byte are one more than there are bytes left.
  have nonempty := rejected.nonempty
  have refuelled : findHeader data.length (data.drop 1) =
      findHeader ((data.drop 1).length + 1) (data.drop 1) :=
    findHeader_fuel (by simp only [List.length_drop]; omega) (by omega)
  simp only [tryExtractPacket, findHeader_rejected _ rejected, refuelled]

/-- An accepted header decides the call. -/
theorem tryExtractPacket_accepted {data : QByteArray} (accepted : HeaderAccepted data) :
    tryExtractPacket data = extractBody (headerAt data) data := by
  -- The loop over the headers ends in its first turn.
  simp only [tryExtractPacket, findHeader_accepted _ accepted]

/-- Extraction either waits for a header, starts over one byte further on, or decides. -/
theorem extraction_induction {motive : QByteArray → Prop}
    (short : ∀ data, data.length < headerSize → motive data)
    (rejected : ∀ data, HeaderRejected data → motive (data.drop 1) → motive data)
    (accepted : ∀ data, HeaderAccepted data → motive data) (data : QByteArray) : motive data := by
  -- The recursion is on the length, which a dropped byte decreases.
  induction length : data.length using Nat.strongRecOn generalizing data with
  | ind length ih =>
    rcases header_cases data with tooShort | isRejected | isAccepted
    · exact short data tooShort
    · have nonempty := isRejected.nonempty
      exact rejected data isRejected
        (ih _ (by simp only [List.length_drop]; omega) _ rfl)
    · exact accepted data isAccepted

/-- A packet is cut out exactly if all of its data are there and have the right checksum. -/
theorem extractBody_ok_iff {header : DataFramesPacketHeader} {data rest : QByteArray}
    {packet : DataFramesPacket} :
    extractBody header data = (.ok packet, rest) ↔
      (headerSize + header.length.toNat ≤ data.length ∧
        CrcUtils.crc16 (data.drop headerSize) header.length.toUInt16 = header.checkSumm) ∧
      .ofData header (data.drop headerSize) header.length = packet ∧
      data.drop (headerSize + header.length.toNat) = rest := by
  unfold extractBody
  by_cases short : data.length < headerSize + header.length.toNat
  · -- The call waits for more data, and the condition fails at its first part.
    simp [short, Nat.not_le.mpr short]
  · by_cases right : CrcUtils.crc16 (data.drop headerSize) header.length.toUInt16 =
        header.checkSumm
    · simp [short, right, Nat.not_lt.mp short]
    · simp [short, right]

/-- A call that cuts no packet out behind an accepted header leaves the buffer as it is. -/
theorem extractBody_error {header : DataFramesPacketHeader} {data rest : QByteArray}
    {result : DataFramesFactoryResults} (called : extractBody header data = (.error result, rest)) :
    data = rest := by
  unfold extractBody at called
  -- Neither of the two early returns touches the buffer.
  split at called
  · exact congrArg Prod.snd called
  · dsimp only at called
    split at called
    · exact congrArg Prod.snd called
    · cases called

/-- The narrowed length of a checksum never exceeds the length it comes from. -/
theorem toUInt16_toNat_le (length : UInt32) : length.toUInt16.toNat ≤ length.toNat := by
  -- The narrowed length is a residue of the length.
  rw [UInt32.toNat_toUInt16]
  exact Nat.mod_le _ _

section MoreInput

variable {data : QByteArray} (more : QByteArray)

theorem getElem?_two_append (long : headerSize ≤ data.length) :
    (data ++ more)[2]? = data[2]? :=
  List.getElem?_append_left (by simp only [headerSize] at long; omega)

theorem HeaderRejected.append (rejected : HeaderRejected data) : HeaderRejected (data ++ more) := by
  -- The third byte stays where it is.
  obtain ⟨long, third, found, high⟩ := rejected
  exact ⟨by simp only [List.length_append]; omega, third,
    (getElem?_two_append more long).trans found, high⟩

theorem HeaderAccepted.append (accepted : HeaderAccepted data) : HeaderAccepted (data ++ more) := by
  -- The third byte stays where it is.
  obtain ⟨long, third, found, low⟩ := accepted
  exact ⟨by simp only [List.length_append]; omega, third,
    (getElem?_two_append more long).trans found, low⟩

/-- The header at the front does not depend on what follows it. -/
theorem headerAt_append (long : headerSize ≤ data.length) :
    headerAt (data ++ more) = headerAt data := by
  simp only [headerAt, List.take_append_of_le_length long]

/-- A packet that is complete is cut out the same way whatever follows it. -/
theorem extractBody_append {header : DataFramesPacketHeader} {packet : DataFramesPacket}
    {rest : QByteArray} (called : extractBody header data = (.ok packet, rest)) :
    extractBody header (data ++ more) = (.ok packet, rest ++ more) := by
  obtain ⟨⟨enough, right⟩, rfl, rfl⟩ := extractBody_ok_iff.mp called
  have narrowed := toUInt16_toNat_le header.length
  -- Header, body and checksum all lie inside the old bytes.
  have body : (data ++ more).drop headerSize = data.drop headerSize ++ more :=
    List.drop_append_of_le_length (by omega)
  have covered : header.length.toNat ≤ (data.drop headerSize).length := by
    simp only [List.length_drop]
    omega
  refine extractBody_ok_iff.mpr ⟨⟨?_, ?_⟩, ?_, List.drop_append_of_le_length enough⟩
  · simp only [List.length_append]
    omega
  · rw [body, CrcUtils.crc16_append more (by omega), right]
  · simp only [DataFramesPacket.ofData, body, List.take_append_of_le_length covered]

/-- An extracted packet is extracted whatever follows it, and takes bytes with it. -/
theorem tryExtractPacket_ok_append {packet : DataFramesPacket} {rest : QByteArray}
    (called : tryExtractPacket data = (.ok packet, rest)) :
    tryExtractPacket (data ++ more) = (.ok packet, rest ++ more) ∧ rest.length < data.length := by
  -- Induction along the extraction, which takes the same turns with more input at hand.
  induction data using extraction_induction with
  | short data short =>
    rw [tryExtractPacket_short short] at called
    cases called
  | rejected data rejected ih =>
    -- The byte in front is dropped with and without the further input.
    have nonempty := rejected.nonempty
    rw [tryExtractPacket_rejected rejected] at called
    obtain ⟨extracted, shorter⟩ := ih called
    rw [tryExtractPacket_rejected (rejected.append more),
      List.drop_append_of_le_length (by omega)]
    simp only [List.length_drop] at shorter
    exact ⟨extracted, by omega⟩
  | accepted data accepted =>
    rw [tryExtractPacket_accepted accepted] at called
    rw [tryExtractPacket_accepted (accepted.append more), headerAt_append more accepted.1]
    refine ⟨extractBody_append more called, ?_⟩
    -- The header alone already makes the rest shorter than the buffer.
    obtain ⟨_, _, rfl⟩ := extractBody_ok_iff.mp called
    have long := accepted.1
    simp only [List.length_drop, headerSize] at long ⊢
    omega

/-- What a call without a packet removed is removed whatever follows. -/
theorem tryExtractPacket_error_append {result : DataFramesFactoryResults} {rest : QByteArray}
    (called : tryExtractPacket data = (.error result, rest)) :
    tryExtractPacket (data ++ more) = tryExtractPacket (rest ++ more) ∧
      rest.length ≤ data.length := by
  -- Induction along the extraction, which keeps what it has dropped.
  induction data using extraction_induction with
  | short data short =>
    rw [tryExtractPacket_short short] at called
    cases called
    exact ⟨rfl, Nat.le_refl _⟩
  | rejected data rejected ih =>
    have nonempty := rejected.nonempty
    rw [tryExtractPacket_rejected rejected] at called
    obtain ⟨extracted, shorter⟩ := ih called
    rw [tryExtractPacket_rejected (rejected.append more),
      List.drop_append_of_le_length (by omega)]
    simp only [List.length_drop] at shorter
    exact ⟨extracted, by omega⟩
  | accepted data accepted =>
    -- Behind an accepted header, a call without a packet leaves the buffer as it is.
    rw [tryExtractPacket_accepted accepted] at called
    obtain rfl := extractBody_error called
    exact ⟨rfl, Nat.le_refl _⟩

end MoreInput

/-- The packets of a call, and what it leaves in the buffer. -/
def extractPacket (data : QByteArray) : Option DataFramesPacket × QByteArray :=
  ((tryExtractPacket data).1.toOption, (tryExtractPacket data).2)

theorem extractPacket_some {data rest : QByteArray} {packet : DataFramesPacket} :
    extractPacket data = (some packet, rest) ↔ tryExtractPacket data = (.ok packet, rest) := by
  unfold extractPacket
  -- A call returns an error or a packet, and each side of the statement says which.
  rcases tryExtractPacket data with ⟨result | found, buffer⟩ <;> simp [Except.toOption]

theorem extractPacket_none {data rest : QByteArray} :
    extractPacket data = (none, rest) ↔ ∃ result, tryExtractPacket data = (.error result, rest) := by
  unfold extractPacket
  -- A call returns an error or a packet, and each side of the statement says which.
  rcases tryExtractPacket data with ⟨result | found, buffer⟩ <;> simp [Except.toOption]

/-- `tryExtractPacket` decides once and for all about the bytes it has seen. -/
def packetExtractor : StreamExtractor UInt8 DataFramesPacket where
  extract := extractPacket
  item_shrinks called := (tryExtractPacket_ok_append [] (extractPacket_some.mp called)).2
  wait_le called := by
    obtain ⟨result, called⟩ := extractPacket_none.mp called
    exact (tryExtractPacket_error_append [] called).2
  item_stable more called :=
    extractPacket_some.mpr (tryExtractPacket_ok_append more (extractPacket_some.mp called)).1
  wait_stable more called := by
    obtain ⟨result, called⟩ := extractPacket_none.mp called
    simp only [extractPacket, (tryExtractPacket_error_append more called).1]

/-- Calls of `tryExtractPacket` until one returns null: the packets, and the remaining buffer. -/
def drainPackets (data : QByteArray) : List DataFramesPacket × QByteArray :=
  packetExtractor.drain data

/-- A rejected header yields no packet, and the drain goes on behind its first byte. -/
theorem drainPackets_rejected {data : QByteArray} (rejected : HeaderRejected data) :
    drainPackets data = drainPackets (data.drop 1) :=
  -- The first call already starts over there, and a drain depends on its first call alone.
  packetExtractor.drain_congr (by
    simp only [packetExtractor, extractPacket, tryExtractPacket_rejected rejected])

/-- Chunks appended one by one to the input buffer, which is drained after each of them. -/
def drainChunks (chunks : List QByteArray) : List DataFramesPacket × QByteArray :=
  packetExtractor.drainChunks [] chunks

/-- No way of cutting a byte sequence changes the packets or the remaining buffer. -/
theorem drainChunks_eq_drainPackets (chunks : List QByteArray) :
    drainChunks chunks = drainPackets chunks.flatten :=
  -- The buffer starts empty, and nothing can be extracted from an empty buffer.
  packetExtractor.drainChunks_eq_drain
    (extractPacket_none.mpr ⟨_, tryExtractPacket_short (by decide)⟩) chunks

end DataFramesPacketFactory

end Threader
