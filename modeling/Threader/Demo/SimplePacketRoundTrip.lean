import Threader.Demo.SimplePacketStream

/-! What reaches the other end of a stream of built packets, and what one altered byte costs. -/

namespace Threader

namespace PacketFactorySimple

open PacketSimpleHeader (headerSize)

/-- A packet that the factory builds, in any state of its counter, for data that an array can hold. -/
inductive Built : PacketSimple → Prop
  | packet (factory : PacketFactorySimple) (packetType : UInt16) {data : QByteArray} :
    data.length < 2147483648 → Built (factory.buildPacket packetType data).1

/-- The data of a built packet are the ones it was built for. -/
theorem buildPacket_data (factory : PacketFactorySimple) (packetType : UInt16) {data : QByteArray}
    (fits : data.length < 2147483648) : (factory.buildPacket packetType data).1.data = data := by
  have whole : MachineInt.toInt32 data.length = data.length :=
    MachineInt.toInt32_of_fits (by omega) (by omega)
  simp only [buildPacket, PacketSimple.ofData, whole, Int.toNat_natCast]
  exact List.take_length

/-- Every packet that is built is well formed. -/
theorem Built.wellFormed {packet : PacketSimple} (built : Built packet) : packet.WellFormed := by
  cases built with
  | packet factory packetType fits =>
    rename_i data
    have same := buildPacket_data factory packetType fits
    have whole : MachineInt.toInt32 data.length = data.length :=
      MachineInt.toInt32_of_fits (by omega) (by omega)
    have length : (factory.buildPacket packetType data).1.header.length =
        UInt32.ofNat data.length := rfl
    -- The checksum is taken of the whole array, since its length is an `int`.
    have sum : (factory.buildPacket packetType data).1.header.checkSumm =
        CrcUtils.crc16From 0 data (MachineInt.toInt32 data.length) := by
      simp only [buildPacket, PacketSimple.ofData, PacketSimpleHeader.build]
    refine ⟨rfl, ?_, by rwa [same], by rw [same, sum, whole]⟩
    -- The length field is wide enough for any array.
    rw [same, length, UInt32.toNat_ofNat']
    exact (Nat.mod_eq_of_lt (Nat.lt_trans fits (by decide))).symm

/-- What the builders write into an empty stream are their runs of bytes one after another. -/
theorem written_eq (writes : List (List UInt8)) : written writes = writes.flatten := by
  -- The stream stays at the end of what it has written.
  suffices ∀ data, writes.foldl (fun stream bytes => (stream.writeRaw bytes).2) (.atEnd data) =
      DataStream.atEnd (data ++ writes.flatten) by
    rw [written, DataStream.ofData_nil, this]
    rfl
  induction writes with
  | nil => simp
  | cons bytes writes ih =>
    intro data
    simp [ih]

/-- A time and a number of ticks are sixteen bytes. -/
theorem buildPacketAlive_built (factory : PacketFactorySimple) (currentTime tickCount : UInt64) :
    Built (factory.buildPacketAlive currentTime tickCount).1 := by
  refine .packet factory _ ?_
  rw [written_eq]
  simp [FixedWidth.toBytes_length, FixedWidth.width]

/-- A greeting is built for any name that is short of the bounds of an array. -/
theorem buildPacketHello_built (factory : PacketFactorySimple) {local8Bit : QByteArray}
    {length : Nat} (fits : length < 2147483647) :
    Built (factory.buildPacketHello local8Bit length).1 := by
  refine .packet factory _ ?_
  rw [written_eq]
  simp only [List.flatten_cons, List.flatten_nil, List.length_append, List.length_take,
    List.length_cons, List.length_nil]
  omega

theorem buildPacketWelcome_built (factory : PacketFactorySimple) {local8Bit : QByteArray}
    {length : Nat} (fits : length < 2147483647) :
    Built (factory.buildPacketWelcome local8Bit length).1 := by
  refine .packet factory _ ?_
  rw [written_eq]
  simp only [List.flatten_cons, List.flatten_nil, List.append_nil, List.length_take]
  omega

/-- Chunks appended one by one to the input buffer, which is drained after each of them. -/
def drainChunks (chunks : List QByteArray) : List PacketSimple × QByteArray :=
  packetExtractor.drainChunks [] chunks

/-- No way of cutting a byte sequence changes the packets or the remaining buffer. -/
theorem drainChunks_eq_drain (chunks : List QByteArray) :
    drainChunks chunks = packetExtractor.drain chunks.flatten :=
  packetExtractor.drainChunks_eq_drain packetExtractor.extract_nil chunks

/-- A byte that begins no packet is given up, as long as something to search for follows it. -/
theorem drain_junk {junk : QByteArray} (absent : (0x55 : UInt8) ∉ junk) (rest : QByteArray) :
    packetExtractor.drain (junk ++ 0x55 :: rest) = packetExtractor.drain (0x55 :: rest) :=
  packetExtractor.drain_congr (by
    simp only [packetExtractor, extractPacket, tryExtractPacket_junk absent,
      tryExtractPacket_front])

/--
Behind bytes that are no beginning of a packet, all packets arrive, and a cut one stays behind.

How the bytes were cut on the way makes no difference.
-/
theorem drainChunks_writeAll {junk : QByteArray} (absent : (0x55 : UInt8) ∉ junk)
    {packets : List PacketSimple} (present : packets ≠ []) (built : ∀ packet ∈ packets, Built packet)
    {last : PacketSimple} (lastBuilt : Built last) {count : Nat}
    (strict : count < (PacketSimple.writeAll [last]).length) {chunks : List QByteArray}
    (cut : chunks.flatten =
      junk ++ PacketSimple.writeAll packets ++ (PacketSimple.writeAll [last]).take count) :
    drainChunks chunks = (packets, (PacketSimple.writeAll [last]).take count) := by
  have valid : ∀ packet ∈ packets, packet.WellFormed := fun packet member =>
    (built packet member).wellFormed
  rw [drainChunks_eq_drain, cut, List.append_assoc]
  simp only [PacketSimple.writeAll_eq, List.flatMap_singleton] at strict ⊢
  -- The first packet begins with the byte that is searched for, so the junk is dropped.
  have front : ∃ rest, packets.flatMap PacketSimple.image ++ last.image.take count = 0x55 :: rest := by
    obtain ⟨first, others, rfl⟩ := List.exists_cons_of_ne_nil present
    obtain ⟨rest, image⟩ := image_eq_cons (valid first List.mem_cons_self)
    exact ⟨_, by rw [List.flatMap_cons, image]; rfl⟩
  obtain ⟨rest, front⟩ := front
  rw [front, drain_junk absent, ← front]
  have shorter : last.image.take count ≠ last.image := fun same => by
    have length := congrArg List.length same
    rw [List.length_take] at length
    omega
  -- The whole packets are taken out by the general rule, and the cut one waits.
  exact packetFraming.drain_encodeAll_cut valid lastBuilt.wellFormed (List.take_prefix ..) shorter

/-- Two bytes of junk, an empty packet, and three bytes of the next one, in two chunks. -/
theorem drainChunks_writeAll_three :
    drainChunks [[1, 2] ++ PacketSimple.writeAll [(init.buildPacket 4 []).1],
      (PacketSimple.writeAll [(init.buildPacket 1 [7]).1]).take 3] =
      ([(init.buildPacket 4 []).1], (PacketSimple.writeAll [(init.buildPacket 1 [7]).1]).take 3) :=
  drainChunks_writeAll (show (0x55 : UInt8) ∉ [1, 2] by decide) (by simp)
    (fun packet member => List.mem_singleton.mp member ▸ .packet init 4 (by decide))
    (.packet init 1 (by decide)) (by decide) (by simp)

/-- Changing one byte of the data of a packet makes its checksum wrong. -/
theorem checkSumm_set {packet : PacketSimple} (valid : packet.WellFormed) {position : Nat}
    (inside : position < packet.data.length) {byte : UInt8}
    (changed : byte ≠ packet.data[position]) :
    CrcUtils.crc16From 0 (packet.data.set position byte) (packet.data.set position byte).length ≠
      packet.header.checkSumm := by
  have covered : ((packet.data.length : Nat) : Int) > 0 := by omega
  rw [← valid.checkSumm, List.length_set]
  -- Each step of the register can be undone, so that one changed byte changes the sum.
  unfold CrcUtils.crc16From
  rw [if_pos covered, if_pos covered, Int.toNat_natCast, List.take_of_length_le (by simp),
    List.take_length]
  exact CrcUtils.crc16Step_reversible.foldl_set_ne _ inside changed

/--
One changed byte in the data of a packet ends the stream: what was in front of it arrives,
and nothing behind it ever does, whatever follows and however it is cut.
-/
theorem drainChunks_altered {packets : List PacketSimple} (built : ∀ packet ∈ packets, Built packet)
    {packet : PacketSimple} (packetBuilt : Built packet) {position : Nat}
    (inside : position < packet.data.length) {byte : UInt8}
    (changed : byte ≠ packet.data[position]) (followers : QByteArray) {chunks : List QByteArray}
    (cut : chunks.flatten = PacketSimple.writeAll packets ++
      ((PacketSimple.writeAll [packet]).set (headerSize + position) byte ++ followers)) :
    drainChunks chunks = (packets,
      (PacketSimple.writeAll [packet]).set (headerSize + position) byte ++ followers) := by
  have valid := packetBuilt.wellFormed
  have altered : (PacketSimple.writeAll [packet]).set (headerSize + position) byte =
      packet.header.toBytes ++ packet.data.set position byte := by
    have header := PacketSimpleHeader.toBytes_length packet.header
    rw [PacketSimple.writeAll_eq, List.flatMap_singleton, PacketSimple.image,
      List.set_append_right _ _ (by omega), header, Nat.add_sub_cancel_left]
  -- The altered packet is complete, and every call rejects its checksum without removing it.
  have stuck := extractPacket_altered valid
    (List.length_set : (packet.data.set position byte).length = packet.data.length) followers
  rw [if_neg (checkSumm_set valid inside changed), ← List.append_assoc, ← altered] at stuck
  rw [drainChunks_eq_drain, cut, PacketSimple.writeAll_eq packets]
  have drained := packetFraming.drain_encodeAll_append
    (fun packet member => (built packet member).wellFormed)
    ((PacketSimple.writeAll [packet]).set (headerSize + position) byte ++ followers)
  -- What comes before the altered packet is drained as if nothing followed.
  rw [packetExtractor.drain_wait stuck, List.append_nil] at drained
  exact drained

/-- The only byte of the second packet is changed, and the third packet is never returned. -/
theorem drainChunks_altered_second :
    drainChunks [PacketSimple.writeAll [(init.buildPacket 4 []).1] ++
      ((PacketSimple.writeAll [(init.buildPacket 1 [7]).1]).set (headerSize + 0) 8 ++
        PacketSimple.writeAll [(init.buildPacket 4 []).1])] =
      ([(init.buildPacket 4 []).1],
        (PacketSimple.writeAll [(init.buildPacket 1 [7]).1]).set (headerSize + 0) 8 ++
          PacketSimple.writeAll [(init.buildPacket 4 []).1]) :=
  drainChunks_altered
    (fun packet member => List.mem_singleton.mp member ▸ .packet init 4 (by decide))
    (.packet init 1 (by decide)) (by decide) (by decide) _ (by simp)

end PacketFactorySimple

end Threader
