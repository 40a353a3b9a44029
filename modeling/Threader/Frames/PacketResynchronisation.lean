import Threader.Frames.PacketRoundTrip

/-! Where the search for a packet header stops, and which junk in front of a packet it survives. -/

namespace Threader

namespace DataFramesPacketFactory

open DataFramesPacketHeader

/-- The bytes of the packet tag. -/
def tagBytes : List UInt8 := [0x5A, 0x5A]

/-- The tag does not occur in a run of bytes, and cannot begin in it. -/
def TagFree (junk : List UInt8) : Prop := ¬ tagBytes <:+: junk ∧ junk.getLast? ≠ some 0x5A

/-- A header cannot be both rejected and accepted. -/
theorem HeaderRejected.not_accepted {data : QByteArray} (rejected : HeaderRejected data) :
    ¬ HeaderAccepted data := by
  -- The type of the header is valid or not, but not both.
  intro accepted
  have valid := accepted.isValid
  rw [rejected.isValid] at valid
  cases valid

/-- Bytes at which every header is rejected are skipped. -/
theorem drainPackets_skip {junk rest : List UInt8}
    (rejected : ∀ position, position < junk.length → HeaderRejected ((junk ++ rest).drop position)) :
    drainPackets (junk ++ rest) = drainPackets rest := by
  -- Induction on the junk, whose first byte is dropped by the first call.
  induction junk with
  | nil => rfl
  | cons byte junk ih =>
    have first : HeaderRejected (byte :: (junk ++ rest)) := rejected 0 (by simp)
    have same : drainPackets (byte :: (junk ++ rest)) = drainPackets (junk ++ rest) :=
      drainPackets_rejected first
    rw [List.cons_append, same]
    exact ih fun position inside => rejected (position + 1) (by simpa using inside)

/-- A call without a packet never empties a buffer that held something. -/
theorem tryExtractPacket_error_nil {data : QByteArray} {result : DataFramesFactoryResults}
    (called : tryExtractPacket data = (.error result, [])) : data = [] := by
  -- Induction along the extraction, with the last thirteen bytes always left behind.
  induction data using extraction_induction with
  | short data short =>
    rw [tryExtractPacket_short short] at called
    exact congrArg Prod.snd called
  | rejected data rejected ih =>
    -- A rejected header leaves at least twelve bytes behind.
    rw [tryExtractPacket_rejected rejected] at called
    have length := congrArg List.length (ih called)
    have long := rejected.1
    simp only [List.length_drop, List.length_nil, headerSize] at length long
    omega
  | accepted data accepted =>
    rw [tryExtractPacket_accepted accepted] at called
    exact extractBody_error called

/-- Only an empty buffer drains to nothing at all. -/
theorem drainPackets_nothing {data : QByteArray} (drained : drainPackets data = ([], [])) :
    data = [] := by
  -- A first call that waits leaves something, and one that does not returns a packet.
  cases called : extractPacket data with
  | mk packet rest =>
    cases packet with
    | none =>
      rw [drainPackets, packetExtractor.drain_wait called] at drained
      obtain rfl : rest = [] := congrArg Prod.snd drained
      obtain ⟨result, extracted⟩ := extractPacket_none.mp called
      exact tryExtractPacket_error_nil extracted
    | some packet =>
      rw [drainPackets, packetExtractor.drain_item called] at drained
      exact absurd (congrArg Prod.fst drained) (by simp)

section Junk

variable {packet : DataFramesPacket} {junk : List UInt8}

/-- The first two bytes of a tagged packet are the tag. -/
theorem image_tagged (tagged : packet.header.tag = DATAFRAMES_PACKET_TAG) :
    ∃ more, packet.image = 0x5A :: 0x5A :: more := by
  -- The tag is the first field of the header.
  rw [DataFramesPacket.image, DataFramesPacketHeader.toBytes, tagged]
  exact ⟨_, rfl⟩

/-- Inside the junk, a header is rejected exactly if its third byte is no small byte of the junk. -/
theorem headerRejected_junk_iff (tagged : packet.header.tag = DATAFRAMES_PACKET_TAG)
    {position : Nat} (inside : position < junk.length) :
    HeaderRejected ((junk ++ packet.image).drop position) ↔
      ∀ third, junk[position + 2]? = some third → PacketType.maximumValue.value ≤ third := by
  have long : headerSize ≤ ((junk ++ packet.image).drop position).length := by
    simp only [DataFramesPacket.image, List.length_drop, List.length_append, toBytes_length]
    omega
  -- A whole header always follows, because the packet brings one of its own.
  rw [HeaderRejected, List.getElem?_drop]
  by_cases within : position + 2 < junk.length
  · rw [List.getElem?_append_left within, List.getElem?_eq_getElem within]
    simp only [long, true_and, Option.some.injEq, exists_eq_left', forall_eq']
  · -- Behind the last bytes of the junk, the third byte belongs to the tag.
    obtain ⟨more, image⟩ := image_tagged tagged
    have third : (junk ++ packet.image)[position + 2]? = some 0x5A := by
      rw [List.getElem?_append_right (by omega), image]
      obtain behind | behind : position + 2 - junk.length = 0 ∨ position + 2 - junk.length = 1 := by
        omega
      · rw [behind]
        rfl
      · rw [behind]
        rfl
    rw [third, List.getElem?_eq_none (by omega)]
    simp only [long, true_and, Option.some.injEq, exists_eq_left', reduceCtorEq, false_implies,
      implies_true, iff_true]
    decide

/-- If the junk is discarded and the packet returned, every header inside the junk is rejected. -/
theorem headerRejected_of_drainPackets
    (drained : drainPackets (junk ++ packet.image) = ([packet], [])) {position : Nat}
    (inside : position < junk.length) : HeaderRejected ((junk ++ packet.image).drop position) := by
  -- Induction on the junk: its first header must be rejected, and the others follow.
  induction junk generalizing position with
  | nil => simp at inside
  | cons byte junk ih =>
    rcases header_cases (byte :: junk ++ packet.image) with short | rejected | accepted
    · simp only [DataFramesPacket.image, List.length_append, toBytes_length, headerSize] at short
      omega
    · have same : drainPackets (byte :: junk ++ packet.image) =
          drainPackets (junk ++ packet.image) := drainPackets_rejected rejected
      cases position with
      | zero => exact rejected
      | succ position => exact ih (same ▸ drained) (by simpa using inside)
    · -- A packet found inside the junk is longer than the one that was written.
      exfalso
      cases called : extractPacket (byte :: junk ++ packet.image) with
      | mk found rest =>
        cases found with
        | none =>
          rw [drainPackets, packetExtractor.drain_wait called] at drained
          exact absurd (congrArg Prod.fst drained) (by simp)
        | some found =>
          rw [drainPackets, packetExtractor.drain_item called] at drained
          obtain ⟨⟨rfl, none⟩, empty⟩ : (found = packet ∧ (packetExtractor.drain rest).1 = []) ∧
              (packetExtractor.drain rest).2 = [] := by simpa using drained
          have nothing : rest = [] := drainPackets_nothing (Prod.ext none empty)
          have extracted := extractPacket_some.mp called
          rw [tryExtractPacket_accepted accepted] at extracted
          have length := congrArg List.length (extractBody_image accepted extracted)
          simp [nothing] at length
          omega

/-- Junk is discarded and the packet behind it returned exactly if the junk has no small byte. -/
theorem drainPackets_junk_iff (valid : packet.WellFormed)
    (tagged : packet.header.tag = DATAFRAMES_PACKET_TAG) :
    drainPackets (junk ++ packet.image) = ([packet], []) ↔
      ∀ (index : Nat) (inside : index < junk.length), 2 ≤ index →
        PacketType.maximumValue.value ≤ junk[index] := by
  constructor
  -- Every byte from the third on is the third byte of a header inside the junk.
  · intro drained index inside third
    have before : index - 2 < junk.length := by omega
    have rejected := headerRejected_of_drainPackets drained before
    refine (headerRejected_junk_iff tagged before).mp rejected _ ?_
    rw [Nat.sub_add_cancel third, List.getElem?_eq_getElem inside]
  · intro large
    -- Every header inside the junk is rejected, so the packet comes to the front.
    rw [drainPackets_skip]
    · have alone : ∀ other ∈ [packet], packetFraming.Valid other := fun other member =>
        List.mem_singleton.mp member ▸ valid
      have whole := packetFraming.drain_encodeAll alone
      simpa [drainPackets, packetFraming] using whole
    · intro position inside
      refine (headerRejected_junk_iff tagged inside).mpr fun third found => ?_
      obtain ⟨within, rfl⟩ := List.getElem?_eq_some_iff.mp found
      exact large _ within (by omega)

end Junk

/-- The first place in a buffer where a header is accepted. -/
def FirstAccepted (buffer : QByteArray) (position : Nat) : Prop :=
  HeaderAccepted (buffer.drop position) ∧
    ∀ earlier, earlier < position → HeaderRejected (buffer.drop earlier)

/-- The header in front of a buffer is followed by all of its data, with the right checksum. -/
def BodyAccepted (data : QByteArray) : Prop :=
  headerSize + (headerAt data).length.toNat ≤ data.length ∧
    CrcUtils.crc16 (data.drop headerSize) (headerAt data).length.toUInt16 =
      (headerAt data).checkSumm

/-- A buffer begins with the tag exactly if its header says so. -/
theorem tagBytes_prefix_iff {data : QByteArray} (long : headerSize ≤ data.length) :
    tagBytes <+: data ↔ (headerAt data).tag = DATAFRAMES_PACKET_TAG := by
  have tag : FixedWidth.toBytes DATAFRAMES_PACKET_TAG = tagBytes := by decide
  have width : (FixedWidth.toBytes (headerAt data).tag).length = tagBytes.length :=
    FixedWidth.toBytes_length _
  -- The first two bytes of the buffer are the image of the tag field.
  have header : (headerAt data).toBytes = data.take headerSize :=
    toBytes_ofBytes (by rw [List.length_take, Nat.min_eq_left long])
  have field : data.take tagBytes.length = FixedWidth.toBytes (headerAt data).tag := by
    have shorter : tagBytes.length = min tagBytes.length headerSize := by decide
    rw [shorter, ← List.take_take, ← header, DataFramesPacketHeader.toBytes]
    simp only [List.append_assoc]
    exact List.take_left' width
  rw [List.prefix_iff_eq_take, field, ← tag]
  constructor
  · intro same
    rw [← FixedWidth.ofBytes_toBytes (headerAt data).tag, ← same, FixedWidth.ofBytes_toBytes]
  · intro same
    rw [same]

/-- The packet that a call returns is read at the first place where a header is accepted. -/
theorem tryExtractPacket_ok_iff {data rest : QByteArray} {packet : DataFramesPacket} :
    tryExtractPacket data = (.ok packet, rest) ↔
      ∃ position, FirstAccepted data position ∧
        extractBody (headerAt (data.drop position)) (data.drop position) = (.ok packet, rest) := by
  -- Induction along the extraction, which stops at the first accepted header.
  induction data using extraction_induction with
  | short data short =>
    rw [tryExtractPacket_short short]
    -- No header fits into the buffer, wherever it is looked for.
    constructor
    · intro called
      cases called
    · rintro ⟨position, ⟨⟨long, _⟩, _⟩, _⟩
      simp only [List.length_drop] at long
      omega
  | rejected data rejected ih =>
    -- The places of the remaining bytes are those of the buffer, moved by one.
    rw [tryExtractPacket_rejected rejected, ih]
    constructor
    · rintro ⟨position, ⟨accepted, earlier⟩, called⟩
      rw [List.drop_drop, Nat.add_comm] at accepted called
      refine ⟨position + 1, ⟨accepted, fun other before => ?_⟩, called⟩
      cases other with
      | zero => exact rejected
      | succ other =>
        have later := earlier other (by omega)
        rwa [List.drop_drop, Nat.add_comm] at later
    · rintro ⟨position, ⟨accepted, earlier⟩, called⟩
      cases position with
      | zero => exact absurd accepted rejected.not_accepted
      | succ position =>
        refine ⟨position, ⟨?_, fun other before => ?_⟩, ?_⟩
        · rwa [List.drop_drop, Nat.add_comm]
        · rw [List.drop_drop, Nat.add_comm]
          exact earlier (other + 1) (by omega)
        · rwa [List.drop_drop, Nat.add_comm]
  | accepted data accepted =>
    rw [tryExtractPacket_accepted accepted]
    constructor
    · intro called
      exact ⟨0, ⟨accepted, fun other before => by omega⟩, called⟩
    · rintro ⟨position, ⟨_, earlier⟩, called⟩
      cases position with
      | zero => exact called
      | succ position => exact absurd accepted (earlier 0 (by omega)).not_accepted

/-- Packets are returned from tagged places only, exactly if a tagged header is accepted first. -/
theorem tryExtractPacket_tagged_iff (buffer : QByteArray) :
    (∀ packet rest, tryExtractPacket buffer = (.ok packet, rest) →
      ∃ position, buffer.drop position = packet.image ++ rest ∧
        tagBytes <+: buffer.drop position) ↔
    ∀ position, FirstAccepted buffer position → BodyAccepted (buffer.drop position) →
      (headerAt (buffer.drop position)).tag = DATAFRAMES_PACKET_TAG := by
  constructor
  · intro tagged position first body
    -- Its body is accepted, so the header found first makes a packet.
    have called := extractBody_ok_iff.mpr ⟨body, rfl, rfl⟩
    obtain ⟨other, same, isTag⟩ := tagged _ _ (tryExtractPacket_ok_iff.mpr ⟨position, first, called⟩)
    rw [same, ← extractBody_image first.1 called] at isTag
    exact (tagBytes_prefix_iff first.1.1).mp isTag
  · intro tagged packet rest extracted
    obtain ⟨position, first, called⟩ := tryExtractPacket_ok_iff.mp extracted
    have body : BodyAccepted (buffer.drop position) := (extractBody_ok_iff.mp called).1
    exact ⟨position, extractBody_image first.1 called,
      (tagBytes_prefix_iff first.1.1).mpr (tagged position first body)⟩

/--
When the search for a header is a search for the tag.

Junk in front of a packet is discarded exactly if it has no byte below three from its third on.
What a call returns was read at a tag exactly if the first header it accepts, if its body is
complete and has the right checksum, carries the tag.
-/
theorem resynchronisation_iff (factory : DataFramesPacketFactory) (data : QByteArray)
    (generatePacketId : Bool) (junk : List UInt8) (buffer : QByteArray) :
    (drainPackets (junk ++
          DataFramesPacket.writeAll [(factory.buildPacket data generatePacketId).1]) =
        ([(factory.buildPacket data generatePacketId).1], []) ↔
      ∀ (index : Nat) (inside : index < junk.length), 2 ≤ index →
        PacketType.maximumValue.value ≤ junk[index]) ∧
    ((∀ packet rest, tryExtractPacket buffer = (.ok packet, rest) →
        ∃ position, buffer.drop position = DataFramesPacket.writeAll [packet] ++ rest ∧
          tagBytes <+: buffer.drop position) ↔
      ∀ position, FirstAccepted buffer position → BodyAccepted (buffer.drop position) →
        (headerAt (buffer.drop position)).tag = DATAFRAMES_PACKET_TAG) := by
  -- The two halves are independent, and each has been settled above.
  simp only [DataFramesPacket.writeAll_eq, List.flatMap_singleton]
  have wellFormed := factory.buildPacket_wellFormed data generatePacketId
  exact ⟨drainPackets_junk_iff wellFormed rfl, tryExtractPacket_tagged_iff buffer⟩

/-- Three zero bytes stall the receiver, and thirteen bytes without a tag make a packet. -/
theorem resynchronisation_fails :
    (¬ ∀ junk, TagFree junk → ∀ (factory : DataFramesPacketFactory) (data : QByteArray)
        (generatePacketId : Bool),
      drainPackets (junk ++
          DataFramesPacket.writeAll [(factory.buildPacket data generatePacketId).1]) =
        ([(factory.buildPacket data generatePacketId).1], [])) ∧
    ¬ ∀ buffer packet rest, tryExtractPacket buffer = (.ok packet, rest) →
      ∃ position, buffer.drop position = DataFramesPacket.writeAll [packet] ++ rest ∧
        tagBytes <+: buffer.drop position := by
  constructor
  · intro discards
    -- The third zero announces more data than will ever come.
    have stalled : drainPackets
          ([0, 0, 0] ++ DataFramesPacket.writeAll [(init.buildPacket [] false).1]) =
        ([], [0, 0, 0] ++ DataFramesPacket.writeAll [(init.buildPacket [] false).1]) := by
      decide
    have tagFree : TagFree [0, 0, 0] := ⟨by decide, by decide⟩
    rw [discards [0, 0, 0] tagFree init [] false] at stalled
    exact absurd (congrArg Prod.fst stalled) (by simp)
  · intro tagged
    -- The header has no tag and no data, and the checksum of nothing is all ones.
    have untagged : tryExtractPacket [0, 0, 0, 0, 0, 0, 0, 0xFF, 0xFF, 0, 0, 0, 0] =
        (.ok ⟨⟨0, .packetWithoutTicket, 0, 0xFFFF, 0⟩, [], []⟩, []) := by
      decide
    obtain ⟨position, _, isTag⟩ := tagged _ _ _ untagged
    have member : (0x5A : UInt8) ∈ [0, 0, 0, 0, 0, 0, 0, 0xFF, 0xFF, 0, 0, 0, 0] :=
      List.mem_of_mem_drop (isTag.subset (by decide))
    exact absurd member (by decide)

end DataFramesPacketFactory

end Threader
