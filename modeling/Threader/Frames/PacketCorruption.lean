import Threader.Frames.PacketRoundTrip

/-! Packets whose data were altered on the way: which alterations are noticed, and what follows. -/

namespace Threader

namespace DataFramesPacketFactory

open DataFramesPacketHeader

section Altered

variable {packet : DataFramesPacket} {altered : QByteArray}

/-- Behind an intact header, the altered data decide by their checksum alone. -/
theorem extractPacket_altered (valid : packet.WellFormed)
    (sameLength : altered.length = packet.data.length) (more : QByteArray) :
    extractPacket (packet.header.toBytes ++ altered ++ more) =
      if CrcUtils.crc16 altered packet.header.length.toUInt16 = packet.header.checkSumm then
        (some ⟨packet.header, altered, []⟩, more)
      else (none, packet.header.toBytes ++ altered ++ more) := by
  split
  -- With a fitting checksum the altered data make a well-formed packet of their own.
  · rename_i unnoticed
    have wellFormed : DataFramesPacket.WellFormed ⟨packet.header, altered, []⟩ :=
      ⟨valid.type, sameLength.trans valid.length, unnoticed, rfl⟩
    simpa only [DataFramesPacket.image] using extractPacket_image more wellFormed
  -- Otherwise the header is accepted and complete, and only the checksum is wrong.
  · rename_i noticed
    have header : headerAt (packet.header.toBytes ++ altered ++ more) = packet.header := by
      rw [List.append_assoc, headerAt_toBytes]
    have width : (packet.header.toBytes ++ altered ++ more).length =
        headerSize + packet.header.length.toNat + more.length := by
      simp only [List.length_append, toBytes_length, sameLength, valid.length]
    have accepted := headerAccepted_of_isValid (by omega) (header.symm ▸ valid.type)
    have body : (packet.header.toBytes ++ altered ++ more).drop headerSize = altered ++ more := by
      rw [List.append_assoc, List.drop_left' (toBytes_length _)]
    have sum : CrcUtils.crc16 (altered ++ more) packet.header.length.toUInt16 ≠
        packet.header.checkSumm := by
      rwa [CrcUtils.crc16_append more (sameLength ▸ valid.covered)]
    refine extractPacket_none.mpr ⟨.badCheckSumm, ?_⟩
    rw [tryExtractPacket_accepted accepted, header, extractBody, if_neg (by omega)]
    simp only [body, sum, ne_eq, not_false_eq_true, if_true]

/-- A rejected checksum is rejected again by every call, whatever arrives and however it is cut. -/
theorem drainChunks_rejected (valid : packet.WellFormed)
    (sameLength : altered.length = packet.data.length)
    (noticed : CrcUtils.crc16 altered packet.header.length.toUInt16 ≠ packet.header.checkSumm)
    {followers : QByteArray} {chunks : List QByteArray}
    (cut : chunks.flatten = packet.header.toBytes ++ altered ++ followers) :
    drainChunks chunks = ([], packet.header.toBytes ++ altered ++ followers) := by
  -- Cutting does not matter, and the first call already returns nothing.
  have empty : extractPacket [] = (none, []) :=
    extractPacket_none.mpr ⟨_, tryExtractPacket_short (by decide)⟩
  have stuck := extractPacket_altered valid sameLength followers
  rw [if_neg noticed] at stuck
  rw [drainChunks, packetExtractor.drainChunks_eq_drain empty, cut]
  exact packetExtractor.drain_wait stuck

end Altered

/-- The packets behind a rejected one are returned exactly if there are none. -/
theorem drainChunks_followers_iff (factory : DataFramesPacketFactory) (data : QByteArray)
    (generatePacketId : Bool) {packet : DataFramesPacket}
    (built : packet = (factory.buildPacket data generatePacketId).1) (altered : QByteArray)
    (sameLength : altered.length = packet.data.length)
    (noticed : CrcUtils.crc16 altered packet.header.length.toUInt16 ≠ packet.header.checkSumm)
    {followers : List DataFramesPacket} {chunks : List QByteArray}
    (cut : chunks.flatten =
      packet.header.toBytes ++ altered ++ DataFramesPacket.writeAll followers) :
    followers.Sublist (drainChunks chunks).1 ↔ followers = [] := by
  -- Nothing is returned, so only an empty list of followers is contained in it.
  have valid : packet.WellFormed := built ▸ factory.buildPacket_wellFormed data generatePacketId
  rw [drainChunks_rejected valid sameLength noticed cut, List.sublist_nil]

/-- One byte of data changed from one to two, with an empty packet behind it. -/
theorem drainChunks_followers_iff_single :
    [(init.buildPacket [] false).1].Sublist
      (drainChunks [(init.buildPacket [1] false).1.header.toBytes ++ [2] ++
        DataFramesPacket.writeAll [(init.buildPacket [] false).1]]).1 ↔
      [(init.buildPacket [] false).1] = [] :=
  drainChunks_followers_iff init [1] false rfl [2] (by decide) (by decide) (by simp)

/-- A rejected checksum blocks a well-formed packet that follows it for good. -/
theorem drainChunks_blocked :
    ¬ ∀ (factory : DataFramesPacketFactory) (data altered : QByteArray) (generatePacketId : Bool)
        (packet : DataFramesPacket) (followers : List DataFramesPacket) (chunks : List QByteArray),
      data ≠ [] → packet = (factory.buildPacket data generatePacketId).1 →
      altered.length = packet.data.length →
      CrcUtils.crc16 altered packet.header.length.toUInt16 ≠ packet.header.checkSumm →
      (∀ follower ∈ followers, follower.WellFormed) →
      chunks.flatten = packet.header.toBytes ++ altered ++ DataFramesPacket.writeAll followers →
      followers.Sublist (drainChunks chunks).1 := by
  intro returned
  have valid : (init.buildPacket [1] false).1.WellFormed := init.buildPacket_wellFormed [1] false
  have noticed : CrcUtils.crc16 [2] (init.buildPacket [1] false).1.header.length.toUInt16 ≠
      (init.buildPacket [1] false).1.header.checkSumm := by
    decide
  have sameLength : ([2] : QByteArray).length = (init.buildPacket [1] false).1.data.length := rfl
  -- The claim is applied to one byte of data that was changed from one to two.
  have sublist := returned init [1] [2] false _ [(init.buildPacket [] false).1]
    [(init.buildPacket [1] false).1.header.toBytes ++ [2] ++
      DataFramesPacket.writeAll [(init.buildPacket [] false).1]]
    (by simp) rfl rfl noticed
    (fun follower member => List.mem_singleton.mp member ▸ init.buildPacket_wellFormed [] false)
    (by simp)
  rw [drainChunks_rejected valid sameLength noticed List.flatten_singleton] at sublist
  exact absurd (List.sublist_nil.mp sublist) (by simp)

/-- A packet for the given data, of any type and any id. -/
def packetOf (factory : DataFramesPacketFactory) (data : QByteArray) (generatePacketId : Bool)
    (packetType : PacketType) (packetId : UInt32) : DataFramesPacket :=
  ((factory.buildPacket data generatePacketId).1.setPacketType packetType).setPacketId packetId

section OneByte

variable (factory : DataFramesPacketFactory) (data : QByteArray) (generatePacketId : Bool)
  (packetType : PacketType) (packetId : UInt32)

/-- The data fit the length field, so all of them are copied. -/
theorem packetOf_data (fits : data.length < 2147483648) :
    (packetOf factory data generatePacketId packetType packetId).data = data := by
  have whole : (UInt32.ofNat data.length).toNat = data.length := by
    rw [UInt32.toNat_ofNat']
    omega
  exact List.take_of_length_le (Nat.le_of_eq whole.symm)

theorem packetOf_wellFormed (valid : packetType.isValid = true) :
    (packetOf factory data generatePacketId packetType packetId).WellFormed :=
  have built := factory.buildPacket_wellFormed data generatePacketId
  ⟨valid, built.length, built.checkSumm, built.unnamed⟩

/-- The checksum of a packet covers as many of its data as the length modulo `2^16` says. -/
theorem packetOf_checked :
    (packetOf factory data generatePacketId packetType packetId).header.length.toUInt16.toNat =
      data.length % 65536 := by
  -- The length reaches the checksum through two narrowings.
  show (UInt32.ofNat data.length).toUInt16.toNat = _
  rw [toUInt16_ofNat, UInt16.toNat_ofNat']

/-- A changed byte is noticed exactly if the checksum covers it. -/
theorem extractPacket_changed_iff (fits : data.length < 2147483648)
    (valid : packetType.isValid = true) {position : Nat} (inside : position < data.length)
    {byte : UInt8} (changed : byte ≠ data[position]) :
    (extractPacket ((packetOf factory data generatePacketId packetType packetId).header.toBytes ++
      (packetOf factory data generatePacketId packetType packetId).data.set position byte)).1 =
        none ↔ position < data.length % 65536 := by
  have whole := packetOf_data factory data generatePacketId packetType packetId fits
  have checked := packetOf_checked factory data generatePacketId packetType packetId
  have wellFormed := packetOf_wellFormed factory data generatePacketId packetType packetId valid
  have sameLength : ((packetOf factory data generatePacketId packetType packetId).data.set position
      byte).length = (packetOf factory data generatePacketId packetType packetId).data.length :=
    List.length_set ..
  have decided := extractPacket_altered wellFormed sameLength []
  rw [List.append_nil] at decided
  rw [decided, ← wellFormed.checkSumm, whole]
  -- The checksum tells covered bytes apart, and does not see the others.
  by_cases covered : position < data.length % 65536
  · rw [if_neg (CrcUtils.crc16_set_ne inside (checked ▸ covered) changed)]
    exact ⟨fun _ => covered, fun _ => rfl⟩
  · rw [if_pos (CrcUtils.crc16_set_beyond (checked ▸ Nat.not_lt.mp covered))]
    exact ⟨fun none => absurd none (by simp), fun inside => absurd inside covered⟩

end OneByte

/-- One changed byte of data is detected exactly if its place is below the length modulo `2^16`. -/
theorem changed_byte_detected_iff (factory : DataFramesPacketFactory) (data : QByteArray)
    (generatePacketId : Bool) (packetType : PacketType) (packetId : UInt32)
    (fits : data.length < 2147483648) (valid : packetType.isValid = true) (position : Nat)
    (inside : position < data.length) (byte : UInt8) (changed : byte ≠ data[position]) :
    (∃ result, (tryExtractPacket
      ((packetOf factory data generatePacketId packetType packetId).header.toBytes ++
        (packetOf factory data generatePacketId packetType packetId).data.set position byte)).1 =
          .error result) ↔
      position < data.length % 65536 := by
  rw [← extractPacket_changed_iff factory data generatePacketId packetType packetId fits valid inside
    changed, extractPacket]
  -- A call returns an error exactly if it returns no packet.
  generalize tryExtractPacket _ = called
  obtain ⟨result | packet, rest⟩ := called <;> simp [Except.toOption]

/-- The only byte of a packet is changed, and its place is below one. -/
theorem changed_byte_detected_iff_single :
    (∃ result, (tryExtractPacket
      ((packetOf init [7] true .ticket 5).header.toBytes ++
        (packetOf init [7] true .ticket 5).data.set 0 8)).1 = .error result) ↔
      0 < ([7] : QByteArray).length % 65536 :=
  changed_byte_detected_iff init [7] true .ticket 5 (by decide) (by decide) 0 (by decide) 8
    (by decide)

/-- When the length is a multiple of `2^16`, not even the first byte is covered. -/
theorem extractPacket_zeros (size : Nat) (positive : 0 < size) (fits : size < 2147483648)
    (multiple : size % 65536 = 0) :
    (extractPacket
      ((packetOf init (List.replicate size 0) false .packetNeedsTicket 0).header.toBytes ++
        (packetOf init (List.replicate size 0) false .packetNeedsTicket 0).data.set 0 1)).1 ≠
          none := by
  -- The checksum covers the remainder of the length, which is nothing here.
  have width : (List.replicate size (0 : UInt8)).length = size := List.length_replicate
  have inside : 0 < (List.replicate size (0 : UInt8)).length := by omega
  have changed : (1 : UInt8) ≠ (List.replicate size (0 : UInt8))[0] := by
    rw [List.getElem_replicate]
    decide
  rw [ne_eq, extractPacket_changed_iff init _ false _ 0 (by omega) rfl inside changed, width,
    multiple]
  exact Nat.not_lt_zero 0

/-- Of `2^16` zeros not one is covered by the checksum, so a changed first byte goes unnoticed. -/
theorem changed_byte_unnoticed :
    ¬ ∀ (factory : DataFramesPacketFactory) (data : QByteArray) (generatePacketId : Bool)
        (packetType : PacketType) (packetId : UInt32), data.length < 2147483648 →
      packetType.isValid = true → ∀ (position : Nat) (inside : position < data.length)
        (byte : UInt8), byte ≠ data[position] →
      ∃ result, (tryExtractPacket
        ((packetOf factory data generatePacketId packetType packetId).header.toBytes ++
          (packetOf factory data generatePacketId packetType packetId).data.set position byte)).1 =
            .error result := by
  intro detected
  -- At this length the checksum covers nothing at all.
  have unnoticed := extractPacket_zeros 65536 (by decide) (by decide) (by decide)
  have width (size : Nat) : (List.replicate size (0 : UInt8)).length = size := List.length_replicate
  obtain ⟨result, rejected⟩ := detected init (List.replicate 65536 0) false .packetNeedsTicket 0
    (by rw [width]; decide) rfl 0 (by rw [width]; decide) 1
    (by rw [List.getElem_replicate]; decide)
  rw [extractPacket, rejected] at unnoticed
  exact unnoticed rfl

end DataFramesPacketFactory

end Threader
