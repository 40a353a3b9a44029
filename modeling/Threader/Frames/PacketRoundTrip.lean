import Threader.Frames.PacketExtraction

/-! Packets and the bytes they are written as: what was built comes back, and nothing is lost. -/

namespace Threader

namespace DataFramesPacket

/-- The bytes a packet is written as. -/
def image (packet : DataFramesPacket) : List UInt8 := packet.header.toBytes ++ packet.data

/-- Writing a packet appends its bytes. -/
@[simp] theorem write_atEnd (packet : DataFramesPacket) (data : List UInt8) :
    packet.write (.atEnd data) = (true, .atEnd (data ++ packet.image)) := by
  simp [write, image]

/-- The array that packets written one after another leave. -/
def writeAll (packets : List DataFramesPacket) : QByteArray :=
  let stream := packets.foldl (fun stream packet => (write packet stream).2) (.ofData [])
  stream.data.getD []

/-- Packets are written as their bytes one after another. -/
theorem writeAll_eq (packets : List DataFramesPacket) :
    writeAll packets = packets.flatMap image := by
  -- The stream stands at the end of what was written, so every write appends.
  suffices ∀ data, packets.foldl (fun stream packet => (write packet stream).2) (.atEnd data) =
      .atEnd (data ++ packets.flatMap image) by
    rw [writeAll, DataStream.ofData_nil, this]
    rfl
  induction packets with
  | nil => simp
  | cons packet packets ih =>
    intro data
    simp [ih]

/-- A packet whose header describes its data, without a name that would be lost on the way. -/
structure WellFormed (packet : DataFramesPacket) : Prop where
  type : packet.header.packetType.isValid = true
  length : packet.data.length = packet.header.length.toNat
  checkSumm : CrcUtils.crc16 packet.data packet.header.length.toUInt16 = packet.header.checkSumm
  unnamed : packet.packetName = []

/-- The narrowed length of a checksum lies inside the data it was computed from. -/
theorem WellFormed.covered {packet : DataFramesPacket} (valid : packet.WellFormed) :
    packet.header.length.toUInt16.toNat ≤ packet.data.length :=
  -- The length is that of the data, and narrowing it makes it no longer.
  valid.length ▸ DataFramesPacketFactory.toUInt16_toNat_le _

/-- A packet copied from a run of bytes at least as long as it says. -/
theorem ofData_length {header : DataFramesPacketHeader} {data : List UInt8} {size : UInt32}
    (enough : size.toNat ≤ data.length) : (ofData header data size).data.length = size.toNat := by
  -- As many bytes are copied as were asked for.
  simp [ofData, enough]

end DataFramesPacket

namespace DataFramesPacketFactory

open DataFramesPacketHeader

/-- A whole header that is valid is accepted. -/
theorem headerAccepted_of_isValid {data : QByteArray} (long : headerSize ≤ data.length)
    (valid : (headerAt data).packetType.isValid = true) : HeaderAccepted data := by
  -- A header that is there is rejected or accepted, and a valid one is not rejected.
  rcases header_cases data with short | rejected | accepted
  · omega
  · rw [rejected.isValid] at valid
    cases valid
  · exact accepted

/-- A header at the front of a buffer is read as it was written. -/
theorem headerAt_toBytes (header : DataFramesPacketHeader) (more : List UInt8) :
    headerAt (header.toBytes ++ more) = header := by
  -- The first thirteen bytes are those of the header.
  rw [headerAt, List.take_left' (toBytes_length header), ofBytes_toBytes]

/-- A well-formed packet is extracted from the bytes it was written as, whatever follows them. -/
theorem extractPacket_image {packet : DataFramesPacket} (more : List UInt8)
    (valid : packet.WellFormed) :
    extractPacket (packet.image ++ more) = (some packet, more) := by
  -- The image opens with the header, so that is what the search finds.
  have header : headerAt (packet.image ++ more) = packet.header := by
    rw [DataFramesPacket.image, List.append_assoc, headerAt_toBytes]
  have width : (packet.image ++ more).length =
      headerSize + packet.header.length.toNat + more.length := by
    simp only [DataFramesPacket.image, List.length_append, toBytes_length, valid.length]
  have accepted := headerAccepted_of_isValid (by omega) (header.symm ▸ valid.type)
  -- Behind the header stand the data, and behind the data what follows the packet.
  have body : (packet.image ++ more).drop headerSize = packet.data ++ more := by
    rw [DataFramesPacket.image, List.append_assoc, List.drop_left' (toBytes_length _)]
  have rest : (packet.image ++ more).drop (headerSize + packet.header.length.toNat) = more := by
    rw [← List.drop_drop, body, List.drop_left' valid.length]
  have sum : CrcUtils.crc16 (packet.data ++ more) packet.header.length.toUInt16 =
      packet.header.checkSumm := by
    rw [CrcUtils.crc16_append more valid.covered, valid.checkSumm]
  have copied : DataFramesPacket.ofData packet.header (packet.data ++ more) packet.header.length =
      packet := by
    rw [DataFramesPacket.ofData, List.take_left' valid.length, ← valid.unnamed]
  rw [extractPacket_some, tryExtractPacket_accepted accepted, header, extractBody,
    if_neg (by omega)]
  simp only [body, sum, copied, rest, ne_eq, not_true_eq_false, if_false]

/-- The bytes of a packet cut short are left in the buffer. -/
theorem extractPacket_cut {packet : DataFramesPacket} {cut : List UInt8}
    (valid : packet.WellFormed) (isPrefix : cut <+: packet.image) (strict : cut ≠ packet.image) :
    extractPacket cut = (none, cut) := by
  -- A cut that is not the whole image is shorter than it.
  have shorter : cut.length < packet.image.length :=
    Nat.lt_of_le_of_ne isPrefix.length_le fun same => strict (isPrefix.eq_of_length same)
  by_cases short : cut.length < headerSize
  · exact extractPacket_none.mpr ⟨_, tryExtractPacket_short short⟩
  · -- The header has arrived, and it announces more data than there are.
    have header : headerAt cut = packet.header := by
      have first := List.prefix_iff_eq_take.mp isPrefix
      rw [headerAt, first, List.take_take, Nat.min_eq_left (Nat.not_lt.mp short),
        DataFramesPacket.image, List.take_left' (toBytes_length _), ofBytes_toBytes]
    have accepted := headerAccepted_of_isValid (Nat.not_lt.mp short) (header.symm ▸ valid.type)
    simp only [DataFramesPacket.image, List.length_append, toBytes_length, valid.length] at shorter
    refine extractPacket_none.mpr ⟨.notEnoughForBody, ?_⟩
    rw [tryExtractPacket_accepted accepted, header, extractBody, if_pos shorter]

/-- Well-formed packets are framed by their headers. -/
def packetFraming : packetExtractor.Framing where
  encode := DataFramesPacket.image
  Valid := DataFramesPacket.WellFormed
  extract_encode := extractPacket_image
  extract_cut := extractPacket_cut

/-- Narrowing a number to 16 bits does not depend on a detour through 32 bits. -/
theorem toUInt16_ofNat (number : Nat) : (UInt32.ofNat number).toUInt16 = UInt16.ofNat number := by
  -- Reducing modulo the larger power first does not change the residue.
  apply UInt16.toNat_inj.mp
  rw [UInt32.toNat_toUInt16, UInt32.toNat_ofNat', UInt16.toNat_ofNat']
  omega

/-- Whatever its data and its id, a packet that is built is well formed. -/
theorem buildPacket_wellFormed (factory : DataFramesPacketFactory) (data : QByteArray)
    (generatePacketId : Bool) : (factory.buildPacket data generatePacketId).1.WellFormed := by
  -- The length field is the length reduced to 32 bits, so at least as many bytes are there.
  have fits : (UInt32.ofNat data.length).toNat ≤ data.length := by
    rw [UInt32.toNat_ofNat']
    exact Nat.mod_le _ _
  have narrowed := toUInt16_toNat_le (UInt32.ofNat data.length)
  rw [toUInt16_ofNat] at narrowed
  refine ⟨rfl, DataFramesPacket.ofData_length fits, ?_, rfl⟩
  -- Sender and receiver narrow the length alike, so both look at the same bytes.
  simp only [buildPacket, DataFramesPacketHeader.build, DataFramesPacket.ofData, CrcUtils.crc16,
    List.take_take, toUInt16_ofNat, Nat.min_eq_left narrowed]

/-- The packet of a frame is well formed. -/
theorem buildPacketFromFrame_wellFormed [QtText] {factory : DataFramesPacketFactory}
    {frame : DataFrame} {generatePacketId : Bool} {packet : DataFramesPacket}
    (built : (factory.buildPacketFromFrame frame generatePacketId).1 = some packet) :
    packet.WellFormed := by
  unfold buildPacketFromFrame at built
  split at built
  · cases built
  · rename_i definition _
    cases built
    have valid := factory.buildPacket_wellFormed ((frame.write (.ofData [])).2.data.getD [])
      generatePacketId
    -- Only the type is changed afterwards, to another valid one.
    refine ⟨?_, valid.length, valid.checkSumm, valid.unnamed⟩
    cases definition.needsTicket <;> rfl

/-- A ticket is well formed. -/
theorem buildPacketTicket_wellFormed {factory : DataFramesPacketFactory} {packetId : UInt32}
    {packet : DataFramesPacket} (built : (factory.buildPacketTicket packetId).1 = some packet) :
    packet.WellFormed := by
  unfold buildPacketTicket at built
  split at built
  · cases built
  · cases built
    -- The data of a ticket are the four bytes of the id, all of them checked.
    have width : (FixedWidth.toBytes packetId).length = 4 := FixedWidth.toBytes_length _
    have whole : (FixedWidth.toBytes packetId).take 4 = FixedWidth.toBytes packetId :=
      List.take_of_length_le (by omega)
    refine ⟨rfl, ?_, ?_, rfl⟩
    · simp [DataFramesPacket.ofData, DataFramesPacketHeader.build, width]
    · simp [DataFramesPacket.ofData, DataFramesPacketHeader.build, whole]

/-- The packets that a factory builds, in any state of its counter. -/
inductive Built [QtText] : DataFramesPacket → Prop
  | packet (factory : DataFramesPacketFactory) (data : QByteArray) (generatePacketId : Bool) :
    Built (factory.buildPacket data generatePacketId).1
  | frame {factory : DataFramesPacketFactory} {frame : DataFrame} {generatePacketId : Bool}
    {packet : DataFramesPacket} :
    (factory.buildPacketFromFrame frame generatePacketId).1 = some packet → Built packet
  | ticket {factory : DataFramesPacketFactory} {packetId : UInt32} {packet : DataFramesPacket} :
    (factory.buildPacketTicket packetId).1 = some packet → Built packet

/-- Every packet a factory builds is well formed. -/
theorem Built.wellFormed [QtText] {packet : DataFramesPacket} (built : Built packet) :
    packet.WellFormed := by
  -- The three ways of building a packet are the three lemmas above.
  cases built with
  | packet factory data generatePacketId =>
    exact factory.buildPacket_wellFormed data generatePacketId
  | frame built => exact buildPacketFromFrame_wellFormed built
  | ticket built => exact buildPacketTicket_wellFormed built

/-- Packets that were built and written come back in order, and one cut short stays behind. -/
theorem drainPackets_writeAll [QtText] {packets : List DataFramesPacket}
    (built : ∀ packet ∈ packets, Built packet) {cut : QByteArray}
    (cutShort : cut = [] ∨ ∃ last, Built last ∧ cut <+: DataFramesPacket.writeAll [last] ∧
      cut ≠ DataFramesPacket.writeAll [last]) :
    drainPackets (DataFramesPacket.writeAll packets ++ cut) = (packets, cut) := by
  have valid : ∀ packet ∈ packets, packet.WellFormed := fun packet member =>
    (built packet member).wellFormed
  rw [DataFramesPacket.writeAll_eq]
  -- Either nothing follows the packets, or the cut one that no call can complete.
  rcases cutShort with rfl | ⟨last, lastBuilt, isPrefix, strict⟩
  · rw [List.append_nil]
    exact packetFraming.drain_encodeAll valid
  · simp only [DataFramesPacket.writeAll_eq, List.flatMap_singleton] at isPrefix strict
    exact packetFraming.drain_encodeAll_cut valid lastBuilt.wellFormed isPrefix strict

/-- A packet that is complete comes back in front of five bytes of the next one. -/
theorem drainPackets_writeAll_cut :
    let packet := (init.buildPacket [1, 2] true).1
    let next := (init.buildPacket [] false).1
    drainPackets (DataFramesPacket.writeAll [packet] ++ (DataFramesPacket.writeAll [next]).take 5) =
      ([packet], (DataFramesPacket.writeAll [next]).take 5) := by
  intro packet next
  apply @drainPackets_writeAll .ascii
  · intro other member
    rw [List.mem_singleton.mp member]
    exact @Built.packet .ascii init [1, 2] true
  · exact .inr ⟨next, @Built.packet .ascii init [] false, List.take_prefix .., by decide⟩

/-- What becomes of a run of bytes: one byte is given up, or a packet is taken out. -/
inductive StreamPiece
  | dropped (byte : UInt8)
  | packet (packet : DataFramesPacket)

namespace StreamPiece

/-- The bytes of a piece, which for a packet are those it is written as. -/
def bytes : StreamPiece → List UInt8
  | .dropped byte => [byte]
  | .packet found => DataFramesPacket.writeAll [found]

/-- The packet of a piece, if it is one. -/
def packet? : StreamPiece → Option DataFramesPacket
  | .dropped _ => none
  | .packet found => some found

end StreamPiece

/-- Pieces that make up a buffer in front of what remains, with a reason for every byte given up. -/
structure Decomposition (buffer : QByteArray) (pieces : List StreamPiece) (remaining : QByteArray) :
    Prop where
  whole : buffer = pieces.flatMap StreamPiece.bytes ++ remaining
  reason : ∀ front byte back, pieces = front ++ .dropped byte :: back →
    HeaderRejected (byte :: (back.flatMap StreamPiece.bytes ++ remaining))

namespace Decomposition

variable {buffer remaining : QByteArray} {pieces : List StreamPiece}

/-- What remains needs no pieces. -/
theorem nil (remaining : QByteArray) : Decomposition remaining [] remaining :=
  ⟨rfl, by simp⟩

/-- A byte given up becomes the first piece. -/
theorem dropped {byte : UInt8} (rejected : HeaderRejected (byte :: buffer))
    (decomposition : Decomposition buffer pieces remaining) :
    Decomposition (byte :: buffer) (.dropped byte :: pieces) remaining := by
  -- The reason for the new piece is given here, and those for the others are known.
  have whole := decomposition.whole
  refine ⟨congrArg (byte :: ·) whole, ?_⟩
  intro front other back split
  cases front with
  | nil =>
    obtain ⟨rfl, rfl⟩ : byte = other ∧ pieces = back := by simpa using split
    rwa [← whole]
  | cons first front => exact decomposition.reason front other back (List.cons.inj split).2

/-- A packet taken out becomes the first piece. -/
theorem packet (found : DataFramesPacket) (decomposition : Decomposition buffer pieces remaining) :
    Decomposition (found.image ++ buffer) (.packet found :: pieces) remaining := by
  refine ⟨?_, ?_⟩
  · rw [List.flatMap_cons, List.append_assoc, ← decomposition.whole, StreamPiece.bytes,
      DataFramesPacket.writeAll_eq, List.flatMap_singleton]
  · -- A packet needs no reason, so every dropped byte is among the later pieces.
    intro front other back split
    cases front with
    | nil => simp at split
    | cons first front => exact decomposition.reason front other back (List.cons.inj split).2

end Decomposition

/-- The bytes of an extracted packet stood in front of the rest. -/
theorem extractBody_image {data rest : QByteArray} {packet : DataFramesPacket}
    (accepted : HeaderAccepted data)
    (called : extractBody (headerAt data) data = (.ok packet, rest)) :
    data = packet.image ++ rest := by
  have width : (data.take headerSize).length = headerSize := by
    rw [List.length_take, Nat.min_eq_left accepted.1]
  obtain ⟨_, rfl, rfl⟩ := extractBody_ok_iff.mp called
  -- The header, the data and the rest are cut at the places where they are joined again.
  rw [DataFramesPacket.image, DataFramesPacket.ofData, headerAt, toBytes_ofBytes width,
    List.append_assoc, ← List.drop_drop, List.take_append_drop, List.take_append_drop]

/-- Draining a buffer decomposes it into the bytes it gives up and the packets it returns. -/
theorem drainPackets_decomposition (buffer : QByteArray) :
    ∃ pieces, Decomposition buffer pieces (drainPackets buffer).2 ∧
      pieces.filterMap StreamPiece.packet? = (drainPackets buffer).1 := by
  -- Induction on the length: every piece makes what is still to be decomposed shorter.
  induction length : buffer.length using Nat.strongRecOn generalizing buffer with
  | ind length ih =>
    -- A call that leaves the buffer alone ends the drain without a piece.
    have waits {result : DataFramesFactoryResults}
        (called : tryExtractPacket buffer = (.error result, buffer)) :
        ∃ pieces, Decomposition buffer pieces (drainPackets buffer).2 ∧
          pieces.filterMap StreamPiece.packet? = (drainPackets buffer).1 := by
      rw [drainPackets, packetExtractor.drain_wait (extractPacket_none.mpr ⟨_, called⟩)]
      exact ⟨[], .nil buffer, rfl⟩
    rcases header_cases buffer with short | rejected | accepted
    · exact waits (tryExtractPacket_short short)
    · -- The byte in front is given up, and the pieces of the remaining bytes follow it.
      obtain ⟨byte, others, rfl⟩ : ∃ byte others, buffer = byte :: others :=
        List.exists_cons_of_length_pos (Nat.lt_of_lt_of_le (by decide) rejected.1)
      have same : drainPackets (byte :: others) = drainPackets others :=
        drainPackets_rejected rejected
      obtain ⟨pieces, decomposition, packets⟩ := ih others.length (by simp [← length]) others rfl
      rw [same]
      exact ⟨_, decomposition.dropped rejected, packets⟩
    · have decided := tryExtractPacket_accepted accepted
      match called : extractBody (headerAt buffer) buffer with
      | (.error result, rest) =>
        obtain rfl := extractBody_error called
        exact waits (decided.trans called)
      | (.ok packet, rest) =>
        -- The packet is the first piece, and the pieces of the rest follow it.
        have extracted := decided.trans called
        have image : buffer = packet.image ++ rest := extractBody_image accepted called
        have shorter := (tryExtractPacket_ok_append [] extracted).2
        obtain ⟨pieces, decomposition, packets⟩ := ih rest.length (length ▸ shorter) rest rfl
        have piece := decomposition.packet packet
        rw [← image] at piece
        rw [drainPackets, packetExtractor.drain_item (extractPacket_some.mpr extracted)]
        exact ⟨_, piece, congrArg (packet :: ·) packets⟩

/-- Draining loses, repeats and reorders nothing, and gives up a byte only for a rejected header. -/
theorem drainPackets_conserves (buffer : QByteArray) :
    ∃ pieces : List StreamPiece,
      buffer = pieces.flatMap StreamPiece.bytes ++ (drainPackets buffer).2 ∧
      pieces.filterMap StreamPiece.packet? = (drainPackets buffer).1 ∧
      ∀ front byte back, pieces = front ++ .dropped byte :: back →
        HeaderRejected (byte :: (back.flatMap StreamPiece.bytes ++ (drainPackets buffer).2)) := by
  -- These are the parts of a decomposition.
  obtain ⟨pieces, decomposition, packets⟩ := drainPackets_decomposition buffer
  exact ⟨pieces, decomposition.whole, packets, decomposition.reason⟩

end DataFramesPacketFactory

end Threader
