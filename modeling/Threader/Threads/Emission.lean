import Threader.Frames.FrameRoundTrip
import Threader.Frames.PacketRoundTrip
import Threader.Threads.TicketRefinement

/-! What a connected thread hands to its device: the packets of its calls of `sendPacket`. -/

namespace Threader

namespace ThreadHandler

/-- Bytes are written: behind all earlier ones, partly to the device and partly to the buffer. -/
structure Writes (bytes : List UInt8) (before after : ThreadHandler) : Prop where
  connectionState : after.handler.connectionState = before.handler.connectionState
  inputBuffer : after.inputBuffer = before.inputBuffer
  output : before.handler.output <+: after.handler.output
  atEnd : after.outputStream = .atEnd after.outputBuffer
  stream : after.handler.output ++ after.outputBuffer =
    before.handler.output ++ before.outputBuffer ++ bytes

/-- However much the device accepts, the stream of bytes stays the same. -/
theorem slotOnReadyToWrite_writes (thread : ThreadHandler)
    (atEnd : thread.outputStream = .atEnd thread.outputBuffer) :
    Writes [] thread thread.slotOnReadyToWrite := by
  -- Offering nothing leaves the thread as it is.
  have unchanged : Writes [] thread thread :=
    ⟨rfl, rfl, List.prefix_rfl, atEnd, (List.append_nil _).symm⟩
  unfold slotOnReadyToWrite
  split
  · exact unchanged
  · dsimp only [HandlerBase.write]
    -- The device accepts a part of the buffer, or nothing, or fails.
    generalize accepted : max (-1) (min (thread.handler.answers thread.handler.writes)
      thread.outputBuffer.length) = written
    split
    · have within : written.toNat ≤ thread.outputBuffer.length := by omega
      have position : thread.outputStream.position = thread.outputBuffer.length :=
        congrArg DataStream.position atEnd
      have moved : ({ thread.outputStream with
            data := some (thread.outputBuffer.drop written.toNat) } : DataStream).setPosition
          (thread.outputStream.position - written) =
          .atEnd (thread.outputBuffer.drop written.toNat) := by
        -- The cursor stays behind the last of the bytes that are left.
        have target : thread.outputStream.position - written =
            (thread.outputBuffer.drop written.toNat).length := by
          rw [position, List.length_drop]
          omega
        rw [target]
        exact DataStream.setPosition_within (by omega) (by omega)
      refine ⟨rfl, rfl, List.prefix_append .., ?_, ?_⟩
      · simp only [outputBuffer] at moved ⊢
        rw [moved]
        rfl
      · simp only [outputBuffer] at moved ⊢
        rw [moved]
        simp [DataStream.atEnd]
    -- Nothing was accepted, so the buffer keeps its bytes.
    · rename_i none
      have nothing : written.toNat = 0 := by omega
      refine ⟨rfl, rfl, ?_, atEnd, ?_⟩
      · simp [nothing]
      · simp [nothing, outputBuffer]

/-- While connected, sending a packet writes its bytes. -/
theorem sendPacket_writes (thread : ThreadHandler)
    (connected : thread.handler.connectionState = .connected)
    (atEnd : thread.outputStream = .atEnd thread.outputBuffer) (packet : DataFramesPacket) :
    Writes packet.image thread (thread.sendPacket (some packet)).2 := by
  have allowed : (!thread.handler.isConnected) = false := by
    simp [HandlerBase.isConnected, connected]
  have appended : (packet.write thread.outputStream).2 =
      .atEnd (thread.outputBuffer ++ packet.image) := by
    rw [atEnd, DataFramesPacket.write_atEnd]
  -- The packet is appended to the buffer, and then the buffer is offered to the device.
  have offered := slotOnReadyToWrite_writes
    { thread with outputStream := .atEnd (thread.outputBuffer ++ packet.image) } rfl
  simp only [sendPacket, allowed, Bool.false_eq_true, if_false, appended]
  refine ⟨offered.connectionState, offered.inputBuffer, offered.output, offered.atEnd, ?_⟩
  apply offered.stream.trans
  rw [List.append_nil, List.append_assoc]
  rfl

end ThreadHandler

/-- Packets that are alike up to their ids are well formed alike. -/
theorem DataFramesPacket.WellFormed.of_sameButId {left right : DataFramesPacket}
    (same : left.setPacketId 0 = right.setPacketId 0) (valid : (left.setPacketName []).WellFormed) :
    (right.setPacketName []).WellFormed := by
  -- No part of being well formed looks at the id.
  obtain ⟨⟨tag, type, length, checkSumm, packetId⟩, data, name⟩ := left
  obtain ⟨⟨tag', type', length', checkSumm', packetId'⟩, data', name'⟩ := right
  simp only [setPacketId, mk.injEq, DataFramesPacketHeader.mk.injEq] at same
  obtain ⟨⟨rfl, rfl, rfl, rfl, _⟩, rfl, rfl⟩ := same
  exact ⟨valid.type, valid.length, valid.checkSumm, rfl⟩

/-- A packet that was given a name is as well formed as it was without one. -/
theorem DataFramesPacket.WellFormed.of_named {packet : DataFramesPacket} (valid : packet.WellFormed)
    (name : QString) : ((packet.setPacketName name).setPacketName []).WellFormed :=
  ⟨valid.type, valid.length, valid.checkSumm, rfl⟩

/-- Every packet of one store is in the other one, up to its id. -/
def PacketHeap.SameButIds (before after : PacketHeap) : Prop :=
  ∀ packet, (after.read packet).map (DataFramesPacket.setPacketId 0) =
    (before.read packet).map (DataFramesPacket.setPacketId 0)

namespace PacketHeap

/-- Giving an id changes nothing but the id. -/
theorem sameButIds_setPacketId (heap : PacketHeap) (packet : PacketPtr) (packetId : UInt32) :
    SameButIds heap (heap.setPacketId packet packetId) := by
  intro other
  -- Clearing the ids afterwards hides the one that was set.
  by_cases same : packet = other
  · subst same
    rw [setPacketId, Heap.read_update_self, Option.map_map]
    rfl
  · rw [setPacketId, Heap.read_update_ne _ _ same]

/-- A reset changes nothing but ids. -/
theorem sameButIds_reset (packets : List PacketPtr) (heap : PacketHeap) :
    SameButIds heap (QueueDataFramesPackets.reset ⟨packets⟩ heap) := by
  -- Each turn of the loop changes one id.
  unfold QueueDataFramesPackets.reset
  induction packets generalizing heap with
  | nil => exact fun _ => rfl
  | cons first packets ih =>
    intro packet
    exact (ih (heap.setPacketId first 0) packet).trans (sameButIds_setPacketId heap first 0 packet)

/-- A packet behind a change of ids was there before, up to its id. -/
theorem SameButIds.before {before after : PacketHeap} (same : SameButIds before after)
    {packet : PacketPtr} {stored : DataFramesPacket} (found : after.read packet = some stored) :
    ∃ earlier, before.read packet = some earlier ∧
      earlier.setPacketId 0 = stored.setPacketId 0 := by
  -- The two packets are the same once their ids are cleared.
  have related := same packet
  rw [found, Option.map_some] at related
  exact Option.map_eq_some_iff.mp related.symm

/-- A packet in front of a change of ids is there afterwards, up to its id. -/
theorem SameButIds.after {before after : PacketHeap} (same : SameButIds before after)
    {packet : PacketPtr} {stored : DataFramesPacket} (found : before.read packet = some stored) :
    ∃ later, after.read packet = some later ∧
      later.setPacketId 0 = stored.setPacketId 0 := by
  -- The two packets are the same once their ids are cleared.
  have related := same packet
  rw [found, Option.map_some] at related
  exact Option.map_eq_some_iff.mp related

end PacketHeap

namespace ThreadDataFrames

open DataFramesPacketFactory (packetFraming)

/-- The packets passed to `sendPacket` so far, without the names that the peer does not see. -/
def transmitted (thread : ThreadDataFrames) : List DataFramesPacket :=
  thread.calls.filterMap fun call =>
    match call with
    | .sendPacket _ sent => some (sent.setPacketName [])
    | _ => none

/-- What was handed to `onFrameReceived` so far, call by call. -/
def delivered (thread : ThreadDataFrames) : List (List DataFrame.Content) :=
  thread.calls.filterMap fun call =>
    match call with
    | .onFrameReceived frames _ _ => some (frames.map DataFrame.content)
    | _ => none

/-- A connected thread whose device and buffer hold exactly the packets it has sent. -/
structure Wired (thread : ThreadDataFrames) : Prop where
  connected : thread.handler.connectionState = .connected
  atEnd : thread.outputStream = .atEnd thread.outputBuffer
  written : thread.handler.output ++ thread.outputBuffer =
    packetFraming.encodeAll thread.transmitted
  valid : ∀ packet ∈ thread.transmitted, packet.WellFormed
  storable : ∀ packet stored, thread.heap.read packet = some stored →
    (stored.setPacketName []).WellFormed
  ticketed : ∀ packet, packet ∈ thread.queued ∨ thread.currentPacket = some packet →
    ∃ stored, thread.heap.read packet = some stored ∧
      stored.header.packetType = .packetNeedsTicket

/-- A thread sends packets one after another, and neither receives nor delivers anything. -/
structure Emits (sent : List DataFramesPacket) (before after : ThreadDataFrames) : Prop where
  wired : after.Wired
  transmitted : after.transmitted = before.transmitted ++ sent
  output : before.handler.output <+: after.handler.output
  inputBuffer : after.inputBuffer = before.inputBuffer
  framesFactory : after.framesFactory = before.framesFactory
  delivered : after.delivered = before.delivered
  hung : after.hung = before.hung

namespace Emits

theorem refl {thread : ThreadDataFrames} (wired : thread.Wired) : Emits [] thread thread :=
  ⟨wired, (List.append_nil _).symm, List.prefix_rfl, rfl, rfl, rfl, rfl⟩

theorem trans {early late : List DataFramesPacket} {first second third : ThreadDataFrames}
    (front : Emits early first second) (back : Emits late second third) :
    Emits (early ++ late) first third where
  wired := back.wired
  transmitted := by rw [back.transmitted, front.transmitted, List.append_assoc]
  output := front.output.trans back.output
  inputBuffer := back.inputBuffer.trans front.inputBuffer
  framesFactory := back.framesFactory.trans front.framesFactory
  delivered := back.delivered.trans front.delivered
  hung := back.hung.trans front.hung

end Emits

/-- A thread sends packets, but none that carries a frame without a ticket. -/
def EmitsTicketed (before after : ThreadDataFrames) : Prop :=
  ∃ sent, Emits sent before after ∧
    ∀ packet ∈ sent, packet.header.packetType ≠ .packetWithoutTicket

namespace EmitsTicketed

theorem refl {thread : ThreadDataFrames} (wired : thread.Wired) : EmitsTicketed thread thread :=
  ⟨[], .refl wired, by simp⟩

theorem of_emits {before after : ThreadDataFrames} (emits : Emits [] before after) :
    EmitsTicketed before after := ⟨[], emits, by simp⟩

theorem trans {first second third : ThreadDataFrames} (front : EmitsTicketed first second)
    (back : EmitsTicketed second third) : EmitsTicketed first third := by
  obtain ⟨early, earlyEmits, earlyTicketed⟩ := front
  obtain ⟨late, lateEmits, lateTicketed⟩ := back
  exact ⟨early ++ late, earlyEmits.trans lateEmits, List.forall_mem_append.mpr
    ⟨earlyTicketed, lateTicketed⟩⟩

theorem wired {before after : ThreadDataFrames} (emits : EmitsTicketed before after) :
    after.Wired := by
  obtain ⟨_, emits, _⟩ := emits
  exact emits.wired

end EmitsTicketed

/-- A change that leaves the device, the buffers and the calls alone sends nothing. -/
theorem Wired.emits_of_same {before after : ThreadDataFrames} (wired : before.Wired)
    (handler : after.handler = before.handler)
    (outputStream : after.outputStream = before.outputStream)
    (inputBuffer : after.inputBuffer = before.inputBuffer)
    (framesFactory : after.framesFactory = before.framesFactory)
    (transmitted : after.transmitted = before.transmitted)
    (delivered : after.delivered = before.delivered) (hung : after.hung = before.hung)
    (storable : ∀ packet stored, after.heap.read packet = some stored →
      (stored.setPacketName []).WellFormed)
    (ticketed : ∀ packet, packet ∈ after.queued ∨ after.currentPacket = some packet →
      ∃ stored, after.heap.read packet = some stored ∧
        stored.header.packetType = .packetNeedsTicket) : Emits [] before after := by
  -- Everything that being wired looks at is the same as before.
  have outputBuffer : after.outputBuffer = before.outputBuffer := by
    rw [ThreadHandler.outputBuffer, outputStream, ThreadHandler.outputBuffer]
  refine ⟨⟨?_, ?_, ?_, ?_, storable, ticketed⟩, ?_, ?_, inputBuffer, framesFactory, delivered, hung⟩
  · rw [handler]
    exact wired.connected
  · rw [outputStream, outputBuffer]
    exact wired.atEnd
  · rw [handler, outputBuffer, transmitted]
    exact wired.written
  · rw [transmitted]
    exact wired.valid
  · rw [transmitted, List.append_nil]
  · exact handler ▸ List.prefix_rfl

namespace Wired

variable {thread : ThreadDataFrames}

/-- A call that sends nothing and delivers nothing. -/
theorem record (wired : thread.Wired) (call : ThreadCall)
    (noSend : ∀ packet sent, call ≠ .sendPacket packet sent)
    (noFrames : ∀ frames packetId received, call ≠ .onFrameReceived frames packetId received) :
    Emits [] thread (thread.record call) := by
  -- The two kinds of calls that count are excluded, and the others are passed over.
  refine wired.emits_of_same rfl rfl rfl rfl ?_ ?_ rfl wired.storable wired.ticketed
  · cases call with
    | sendPacket packet sent => exact absurd rfl (noSend packet sent)
    | _ => simp [ThreadDataFrames.transmitted, ThreadDataFrames.record]
  · cases call with
    | onFrameReceived frames packetId received =>
      exact absurd rfl (noFrames frames packetId received)
    | _ => simp [ThreadDataFrames.delivered, ThreadDataFrames.record]

/-- A new packet that can be sent later is stored. -/
theorem makeShared (wired : thread.Wired) {packet : DataFramesPacket}
    (valid : (packet.setPacketName []).WellFormed) :
    Emits [] thread (thread.makeShared packet).2 := by
  refine wired.emits_of_same rfl rfl rfl rfl rfl rfl rfl ?_ ?_
  · intro other stored found
    -- A packet in the grown store is the new one or one that was there before.
    have inside : other < thread.heap.fresh + 1 := by
      have allocated := Heap.allocated_of_read found
      simpa [Heap.Allocated, ThreadDataFrames.makeShared] using allocated
    by_cases old : other < thread.heap.fresh
    · have before := (Heap.read_allocate_of_allocated packet old).symm.trans found
      exact wired.storable other stored before
    · obtain rfl : other = thread.heap.fresh :=
        Nat.le_antisymm (Nat.lt_succ_iff.mp inside) (Nat.not_lt.mp old)
      have same := (Heap.read_allocate_fresh thread.heap packet).symm.trans found
      exact Option.some_inj.mp same ▸ valid
  · intro other waits
    obtain ⟨stored, found, type⟩ := wired.ticketed other waits
    exact ⟨stored, (Heap.read_allocate_of_allocated packet
      (Heap.allocated_of_read found)).trans found, type⟩

/-- Changing ids in the store sends nothing. -/
theorem changeIds (wired : thread.Wired) {after : ThreadDataFrames}
    (same : PacketHeap.SameButIds thread.heap after.heap)
    (toThreadHandler : after.toThreadHandler = thread.toThreadHandler)
    (framesFactory : after.framesFactory = thread.framesFactory)
    (calls : after.calls = thread.calls) (hung : after.hung = thread.hung)
    (waits : ∀ packet, packet ∈ after.queued ∨ after.currentPacket = some packet →
      packet ∈ thread.queued ∨ thread.currentPacket = some packet) : Emits [] thread after := by
  -- What waits was in the store before, under the same pointer and with the same type.
  refine wired.emits_of_same (congrArg _ toThreadHandler) (congrArg _ toThreadHandler)
    (congrArg _ toThreadHandler) framesFactory (by rw [transmitted, calls, transmitted])
    (by rw [delivered, calls, delivered]) hung ?_ ?_
  · intro packet stored found
    obtain ⟨earlier, before, alike⟩ := same.before found
    exact (wired.storable packet earlier before).of_sameButId alike
  · intro packet later
    obtain ⟨stored, found, type⟩ := wired.ticketed packet (waits packet later)
    obtain ⟨changed, after, alike⟩ := same.after found
    refine ⟨changed, after, ?_⟩
    have types := congrArg (fun packet : DataFramesPacket => packet.header.packetType) alike
    exact types.trans type

/-- The bytes of a packet that is sent go to the device or stay in the buffer. -/
theorem sendPacket (wired : thread.Wired) {packet : PacketPtr} {sent : DataFramesPacket}
    (found : thread.heap.read packet = some sent) :
    Emits [sent.setPacketName []] thread (thread.sendPacket packet) := by
  have writes := thread.toThreadHandler.sendPacket_writes wired.connected wired.atEnd sent
  have sending : thread.sendPacket packet =
      { thread.record (.sendPacket packet sent) with
        toThreadHandler := (thread.toThreadHandler.sendPacket (some sent)).2 } := by
    simp only [ThreadDataFrames.sendPacket, found]
    rfl
  have transmitted : (thread.sendPacket packet).transmitted =
      thread.transmitted ++ [sent.setPacketName []] := by
    rw [sending]
    simp [ThreadDataFrames.transmitted, ThreadDataFrames.record]
  have valid := wired.storable packet sent found
  refine ⟨⟨?_, ?_, ?_, ?_, ?_, ?_⟩, transmitted, ?_, ?_, ?_, ?_, ?_⟩
  · rw [sending]
    exact writes.connectionState.trans wired.connected
  · rw [sending]
    exact writes.atEnd
  · rw [transmitted, packetFraming.encodeAll_append, ← wired.written, sending]
    -- The name is not written, so leaving it out makes no difference.
    apply writes.stream.trans
    simp [packetFraming, DataFramesPacket.image, DataFramesPacket.setPacketName]
  · rw [transmitted]
    exact List.forall_mem_append.mpr ⟨wired.valid, by simpa using valid⟩
  · rw [sending]
    exact wired.storable
  · rw [sending]
    exact wired.ticketed
  · rw [sending]
    exact writes.output
  · rw [sending]
    exact writes.inputBuffer
  · rw [sending]
    rfl
  · rw [sending]
    simp [ThreadDataFrames.delivered, ThreadDataFrames.record]
  · rw [sending]
    rfl

/-- The next id is given to a packet. -/
theorem giveNextPacketId (wired : thread.Wired) (packet : PacketPtr) :
    Emits [] thread (thread.giveNextPacketId packet) := by
  have same : PacketHeap.SameButIds thread.heap (thread.giveNextPacketId packet).heap :=
    PacketHeap.sameButIds_setPacketId _ _ _
  exact wired.changeIds same rfl rfl rfl rfl fun _ waits => waits

/-- The output buffer is offered to the device again. -/
theorem slotOnReadyToWrite (wired : thread.Wired) : Emits [] thread thread.slotOnReadyToWrite := by
  -- Bytes move from the buffer to the device, and the stream of both stays the same.
  have writes := thread.toThreadHandler.slotOnReadyToWrite_writes wired.atEnd
  have stream : thread.slotOnReadyToWrite.handler.output ++ thread.slotOnReadyToWrite.outputBuffer =
      packetFraming.encodeAll thread.transmitted := by
    rw [← wired.written, ← List.append_nil (thread.handler.output ++ thread.outputBuffer)]
    exact writes.stream
  exact ⟨⟨writes.connectionState.trans wired.connected, writes.atEnd, stream, wired.valid,
    wired.storable, wired.ticketed⟩, (List.append_nil _).symm, writes.output, writes.inputBuffer,
    rfl, rfl, rfl⟩

end Wired

/-- A packet that waits or is current is sent with a ticket. -/
theorem Wired.sendTicketed {thread : ThreadDataFrames} (wired : thread.Wired) {packet : PacketPtr}
    (waits : packet ∈ thread.queued ∨ thread.currentPacket = some packet) :
    EmitsTicketed thread (thread.sendPacket packet) := by
  obtain ⟨stored, found, type⟩ := wired.ticketed packet waits
  refine ⟨_, wired.sendPacket found, ?_⟩
  intro sent member
  rw [List.mem_singleton.mp member]
  simp [DataFramesPacket.setPacketName, type, PacketType.packetNeedsTicket,
    PacketType.packetWithoutTicket]

/-- Processing the queue sends a packet with a ticket, or nothing. -/
theorem processQueue_emits {thread : ThreadDataFrames} (wired : thread.Wired) :
    EmitsTicketed thread thread.processQueue := by
  cases queue : thread.queuePackets with
  | none =>
    rw [processQueue_unqueued queue]
    exact .refl wired
  | some packets =>
    -- Reading the clock sends nothing.
    have clocked : Emits [] thread { thread with toThreadHandler := thread.getTickCount.2 } :=
      wired.emits_of_same rfl rfl rfl rfl rfl rfl rfl wired.storable wired.ticketed
    cases current : thread.currentPacket with
    | some packet =>
      rw [processQueue_busy queue current]
      split
      · exact (EmitsTicketed.of_emits clocked).trans (clocked.wired.sendTicketed (.inr current))
      · exact .of_emits clocked
    | none =>
      rw [processQueue_idle queue current]
      split
      · exact .of_emits clocked
      · rename_i packet first
        -- The packet that becomes the current one has been waiting in the queue.
        have waits : packet ∈ thread.queued := by
          have member := List.mem_of_mem_head? first
          simpa [queued, queue] using member
        have chosen : Emits [] thread { thread with
            toThreadHandler := thread.getTickCount.2, currentPacket := some packet } := by
          refine wired.emits_of_same rfl rfl rfl rfl rfl rfl rfl wired.storable ?_
          rintro other (waiting | same)
          · exact wired.ticketed other (.inl waiting)
          · cases same
            exact wired.ticketed packet (.inl waits)
        have given := chosen.trans (chosen.wired.giveNextPacketId packet)
        exact (EmitsTicketed.of_emits given).trans (given.wired.sendTicketed (.inr rfl))

/-- Applying a ticket sends at most the next packet that waits. -/
theorem applyTicket_emits {thread : ThreadDataFrames} (wired : thread.Wired) (packetId : UInt32) :
    EmitsTicketed thread (thread.applyTicket packetId).2 := by
  cases queue : thread.queuePackets with
  | none =>
    simp only [applyTicket, queue]
    exact .refl wired
  | some packets =>
    rw [applyTicket_queued queue]
    -- What is left of the queue was in it before.
    have kept {packet : PacketPtr} (member : packet ∈ packets.packets.filter
        (thread.heap.packetId · ≠ some packetId)) : packet ∈ thread.queued := by
      simpa [queued, queue] using List.mem_of_mem_filter member
    have shortened : Emits [] thread { thread with
        queuePackets := some ⟨packets.packets.filter (thread.heap.packetId · ≠ some packetId)⟩ } := by
      refine wired.emits_of_same rfl rfl rfl rfl rfl rfl rfl wired.storable ?_
      rintro packet (waiting | current)
      · exact wired.ticketed packet (.inl (kept waiting))
      · exact wired.ticketed packet (.inr current)
    split
    · have recorded := shortened.trans
        (shortened.wired.record (.onPacketApplied packetId) (by simp) (by simp))
      have cleared : Emits [] thread { { thread with
          queuePackets := some ⟨packets.packets.filter (thread.heap.packetId · ≠ some packetId)⟩
          }.record (.onPacketApplied packetId) with currentPacket := none } := by
        refine recorded.trans (recorded.wired.emits_of_same rfl rfl rfl rfl rfl rfl rfl
          recorded.wired.storable ?_)
        rintro packet (waiting | current)
        · exact recorded.wired.ticketed packet (.inl waiting)
        · cases current
      exact (EmitsTicketed.of_emits cleared).trans (processQueue_emits cleared.wired)
    · exact .of_emits shortened

/-- Resetting the queue sends nothing. -/
theorem resetQueue_emits {thread : ThreadDataFrames} (wired : thread.Wired) :
    EmitsTicketed thread thread.resetQueue := by
  -- Forgetting the current packet sends nothing.
  have cleared : Emits [] thread { thread with currentPacket := none } := by
    refine wired.emits_of_same rfl rfl rfl rfl rfl rfl rfl wired.storable ?_
    rintro packet (waiting | current)
    · exact wired.ticketed packet (.inl waiting)
    · cases current
  have recorded := cleared.trans (cleared.wired.record .resetQueue (by simp) (by simp))
  apply EmitsTicketed.of_emits
  unfold resetQueue
  dsimp only
  split
  · exact recorded
  · -- The packets that wait keep everything but their ids.
    rename_i packets _
    have same := PacketHeap.sameButIds_reset packets.packets thread.heap
    exact recorded.trans (recorded.wired.changeIds same rfl rfl rfl rfl fun _ waits => waits)

/-- A ticket is not a packet that carries frames. -/
theorem sendTicket_emits {thread : ThreadDataFrames} (wired : thread.Wired) (packetId : UInt32) :
    EmitsTicketed thread (thread.sendTicket packetId) := by
  have counted : Emits [] thread { thread with
      dataFramesPacketFactory := (thread.dataFramesPacketFactory.buildPacketTicket packetId).2 } :=
    wired.emits_of_same rfl rfl rfl rfl rfl rfl rfl wired.storable wired.ticketed
  unfold sendTicket
  dsimp only
  split
  · exact .of_emits counted
  · rename_i ticket built
    have valid := DataFramesPacketFactory.buildPacketTicket_wellFormed built
    -- Only an id that is not empty is answered, by a packet of the type of tickets.
    have type : ticket.header.packetType = .ticket := by
      by_cases empty : packetId = PACKET_ID_EMPTY
      · rw [DataFramesPacketFactory.buildPacketTicket, if_pos empty.symm] at built
        cases built
      · obtain ⟨other, same, _, type⟩ :=
          thread.dataFramesPacketFactory.buildPacketTicket_some empty
        rw [same] at built
        exact Option.some_inj.mp built ▸ type
    have stored := counted.trans
      (counted.wired.makeShared ⟨valid.type, valid.length, valid.checkSumm, rfl⟩)
    refine ⟨_, stored.trans (stored.wired.sendPacket (Heap.read_allocate_fresh ..)), ?_⟩
    intro sent member
    simp only [List.nil_append, List.mem_singleton] at member
    rw [member]
    simp [DataFramesPacket.setPacketName, type, PacketType.ticket, PacketType.packetWithoutTicket]

/-- Checking the id of a received packet sends nothing. -/
theorem checkPacketId_emits {thread : ThreadDataFrames} (wired : thread.Wired) (packetId : UInt32) :
    Emits [] thread (thread.checkPacketId packetId) := by
  -- At most a discontinuity is reported.
  unfold checkPacketId
  dsimp only
  split
  · have recorded := wired.record
      (.onPacketIdDiscontinuity (UInt32.ofInt thread.nextPacketId) packetId) (by simp) (by simp)
    exact recorded.trans (recorded.wired.emits_of_same rfl rfl rfl rfl rfl rfl rfl
      recorded.wired.storable recorded.wired.ticketed)
  · exact wired.emits_of_same rfl rfl rfl rfl rfl rfl rfl wired.storable wired.ticketed

/-- A built packet that is queued makes the thread send packets with tickets at most. -/
theorem sendBuilt_emits {thread : ThreadDataFrames} (wired : thread.Wired)
    {packets : QueueDataFramesPackets} (queue : thread.queuePackets = some packets)
    {packet : DataFramesPacket} (valid : (packet.setPacketName []).WellFormed)
    (type : packet.header.packetType = .packetNeedsTicket) :
    EmitsTicketed thread (thread.sendBuilt true packet) := by
  have stored := wired.makeShared valid
  have enqueued : Emits [] thread { (thread.makeShared packet).2 with
      queuePackets := some ⟨packets.packets ++ [thread.heap.fresh]⟩ } := by
    refine stored.trans (stored.wired.emits_of_same rfl rfl rfl rfl rfl rfl rfl
      stored.wired.storable ?_)
    -- What waits afterwards was waiting before, or is the new packet.
    have placed : ∃ own, (thread.makeShared packet).2.heap.read thread.heap.fresh = some own ∧
        own.header.packetType = .packetNeedsTicket :=
      ⟨packet, Heap.read_allocate_fresh .., type⟩
    have queued : (thread.makeShared packet).2.queued = packets.packets := by
      simp [ThreadDataFrames.queued, makeShared, queue]
    rintro other (waiting | current)
    · rcases List.mem_append.mp waiting with earlier | last
      · exact stored.wired.ticketed other (.inl (queued ▸ earlier))
      · rw [List.mem_singleton.mp last]
        exact placed
    · exact stored.wired.ticketed other (.inr current)
  have recorded := enqueued.trans
    (enqueued.wired.record (.onPacketQueued thread.heap.fresh) (by simp) (by simp))
  rw [sendBuilt_queued packet queue]
  exact (EmitsTicketed.of_emits recorded).trans (processQueue_emits recorded.wired)

/-- A built packet that is not queued is sent under the next id. -/
theorem sendBuilt_emits_now {thread : ThreadDataFrames} (wired : thread.Wired) {needsTicket : Bool}
    {packet : DataFramesPacket} (now : thread.queuePackets = none ∨ needsTicket = false)
    (valid : (packet.setPacketName []).WellFormed) :
    Emits [(packet.setPacketId thread.dataFramesPacketFactory.generateNextPacketId.1).setPacketName []]
      thread (thread.sendBuilt needsTicket packet) := by
  -- The packet is stored, given the next id, and sent as it then is.
  have stored := wired.makeShared valid
  have given := stored.trans (stored.wired.giveNextPacketId thread.heap.fresh)
  have found : ((thread.makeShared packet).2.giveNextPacketId thread.heap.fresh).heap.read
      thread.heap.fresh =
      some (packet.setPacketId thread.dataFramesPacketFactory.generateNextPacketId.1) := by
    refine (Heap.read_update_self ..).trans ?_
    exact congrArg _ (Heap.read_allocate_fresh thread.heap packet)
  rw [sendBuilt_now packet now]
  exact given.trans (given.wired.sendPacket found)

variable [QtText]

/-- A frame that needs a ticket is sent as packets that need tickets. -/
theorem sendFrame_emits {thread : ThreadDataFrames} (wired : thread.Wired) {frame : DataFrame}
    (ticketed : frame.needsTicket = true) :
    EmitsTicketed thread (thread.sendFrame (some frame)).2 := by
  cases described : frame.definition with
  | none => simp [DataFrame.needsTicket, described] at ticketed
  | some definition =>
    have needed : definition.needsTicket = true := by
      simpa [DataFrame.needsTicket, described] using ticketed
    obtain ⟨packet, built, sent, _, type⟩ := thread.sendFrame_built described
    have valid := DataFramesPacketFactory.buildPacketFromFrame_wellFormed (congrArg Prod.fst built)
    have renamed := valid.of_named frame.name
    rw [if_pos needed] at type
    rw [sent, needed]
    -- Without a queue it is sent at once, and otherwise the queue decides what is sent.
    by_cases now : thread.queuePackets = none
    · refine ⟨_, sendBuilt_emits_now wired (.inl now) renamed, ?_⟩
      simp [DataFramesPacket.setPacketName, DataFramesPacket.setPacketId, type,
        PacketType.packetNeedsTicket, PacketType.packetWithoutTicket]
    · obtain ⟨packets, queue⟩ := Option.ne_none_iff_exists'.mp now
      exact sendBuilt_emits wired queue renamed type

omit [QtText] in
/-- The data of a packet shorter than four gigabytes are all the bytes it was built from. -/
theorem buildPacket_data (factory : DataFramesPacketFactory) {data : QByteArray}
    (fits : data.length < 4294967296) (generatePacketId : Bool) :
    (factory.buildPacket data generatePacketId).1.data = data := by
  -- The length survives the 32 bits of the length field.
  apply List.take_of_length_le
  rw [UInt32.toNat_ofNat']
  omega

/-- A transferable frame that needs no ticket is sent as one packet that holds its image. -/
theorem sendFrame_emits_image {thread : ThreadDataFrames} (wired : thread.Wired)
    {factory : DataFramesFactory} {frame : DataFrame} (transferable : frame.Transferable factory)
    (unticketed : frame.needsTicket = false) :
    ∃ packet, Emits [packet] thread (thread.sendFrame (some frame)).2 ∧
      packet.header.packetType = .packetWithoutTicket ∧ packet.data = frame.image := by
  obtain ⟨definition, atoms, transferable⟩ := transferable
  have described := transferable.built.described
  have needless : definition.needsTicket = false := by
    simpa [DataFrame.needsTicket, described] using unticketed
  obtain ⟨packet, built, sent, _, type⟩ := thread.sendFrame_built described
  have valid := DataFramesPacketFactory.buildPacketFromFrame_wellFormed (congrArg Prod.fst built)
  have renamed := valid.of_named frame.name
  simp only [needless, Bool.false_eq_true, if_false] at type
  rw [sent, needless]
  refine ⟨_, sendBuilt_emits_now wired (.inr rfl) renamed, type, ?_⟩
  -- The image is far from the length at which the length field of the header would wrap around.
  have fits := transferable.fits
  have written : ((frame.write (.ofData [])).2.data.getD []) = frame.image := by
    rw [DataStream.ofData_nil, transferable.restorableAs.write]
    rfl
  simp only [DataFramesPacketFactory.buildPacketFromFrame, described, written, Prod.mk.injEq,
    Option.some.injEq] at built
  rw [← built.1]
  exact buildPacket_data thread.dataFramesPacketFactory (by omega) false

end ThreadDataFrames

end Threader
