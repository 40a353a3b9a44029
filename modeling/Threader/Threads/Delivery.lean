import Threader.Threads.Emission
import Threader.Threads.Link
import Threader.Threads.TicketRuns

/-! Frames without tickets arrive at the other end of a link, each exactly once and in order. -/

namespace Threader

namespace ThreadDataFrames

open DataFramesPacketFactory (packetFraming tryExtractPacket)

/-- A thread takes a packet out of its input, hands on what was in it, and sends tickets at most. -/
structure Receives (contents : List (List DataFrame.Content)) (rest : QByteArray)
    (before after : ThreadDataFrames) : Prop where
  wired : after.Wired
  transmitted : ∃ sent, after.transmitted = before.transmitted ++ sent ∧
    ∀ packet ∈ sent, packet.header.packetType ≠ .packetWithoutTicket
  output : before.handler.output <+: after.handler.output
  framesFactory : after.framesFactory = before.framesFactory
  hung : after.hung = before.hung
  inputBuffer : after.inputBuffer = rest
  delivered : after.delivered = before.delivered ++ contents

/-- Taking bytes out of the input buffer, or putting some into it, keeps a thread wired. -/
theorem Wired.setInput {thread after : ThreadDataFrames} (wired : thread.Wired)
    (handler : after.handler = thread.handler)
    (outputStream : after.outputStream = thread.outputStream)
    (calls : after.calls = thread.calls) (heap : after.heap = thread.heap)
    (queuePackets : after.queuePackets = thread.queuePackets)
    (currentPacket : after.currentPacket = thread.currentPacket) : after.Wired := by
  -- Being wired does not look at the input.
  obtain ⟨connected, atEnd, written, valid, storable, ticketed⟩ := wired
  constructor
  · rw [handler]
    exact connected
  · rw [ThreadHandler.outputBuffer, outputStream]
    exact atEnd
  · rw [handler, ThreadHandler.outputBuffer, outputStream, transmitted, calls]
    exact written
  · rw [transmitted, calls]
    exact valid
  · rw [heap]
    exact storable
  · rw [heap, queued, queuePackets, currentPacket]
    exact ticketed

variable [QtText]

/-- A received packet that carries no frames without tickets makes the thread send tickets at most. -/
theorem onPacketReceived_emits {thread : ThreadDataFrames} (wired : thread.Wired)
    {packet : DataFramesPacket} (other : packet.header.packetType ≠ .packetWithoutTicket) :
    EmitsTicketed thread (thread.onPacketReceived packet).2 := by
  have checked := EmitsTicketed.of_emits (checkPacketId_emits wired packet.packetId)
  unfold onPacketReceived
  dsimp only
  -- The packet is answered, or it is a ticket that is applied, or it is ignored.
  split
  · rw [if_neg (Ne.symm other)]
    exact checked.trans (sendTicket_emits checked.wired packet.packetId)
  · split
    · split
      · exact checked
      · exact checked.trans (applyTicket_emits checked.wired _)
    · exact checked

/-- The frame whose image a packet holds is restored and handed on. -/
theorem restoreFrames_image {thread : ThreadDataFrames} {factory : DataFramesFactory}
    (known : thread.framesFactory = some factory) {frame : DataFrame}
    (transferable : frame.Transferable factory) {packet : DataFramesPacket}
    (data : packet.data = frame.image) :
    ∃ news, thread.restoreFrames packet =
        (true, thread.record (.onFrameReceived news packet.packetId packet)) ∧
      news.map DataFrame.content = [frame.content] := by
  -- The packet holds the image of one frame, which is shorter than the packet itself.
  have fits : ([frame].flatMap DataFrame.image).length < 2147483648 := by
    obtain ⟨definition, atoms, transferable⟩ := transferable
    have fits := transferable.fits
    simp only [List.flatMap_singleton]
    omega
  have all : ∀ other ∈ [frame], other.Restorable factory := by simpa using transferable.restorable
  obtain ⟨news, read, _, contents⟩ := DataFramesFactory.readFrames_images all fits
  rw [List.flatMap_singleton, ← data] at read
  refine ⟨news, ?_, contents⟩
  -- There is one frame, so the list is not empty.
  cases news with
  | nil => simp at contents
  | cons new news => simp only [restoreFrames, known, read]

/-- The frame in a received packet is handed on, behind the ticket that is sent for the packet. -/
theorem onPacketReceived_delivers {thread : ThreadDataFrames} (wired : thread.Wired)
    {factory : DataFramesFactory} (known : thread.framesFactory = some factory)
    {frame : DataFrame} (transferable : frame.Transferable factory) {packet : DataFramesPacket}
    (type : packet.header.packetType = .packetWithoutTicket) (data : packet.data = frame.image) :
    ∃ answered news, EmitsTicketed thread answered ∧
      (thread.onPacketReceived packet).2 =
        answered.record (.onFrameReceived news packet.packetId packet) ∧
      news.map DataFrame.content = [frame.content] := by
  have checked := EmitsTicketed.of_emits (checkPacketId_emits wired packet.packetId)
  have answered := checked.trans (sendTicket_emits checked.wired packet.packetId)
  obtain ⟨sent, emits, ticketed⟩ := answered
  obtain ⟨news, restored, contents⟩ :=
    restoreFrames_image (emits.framesFactory.trans known) transferable data
  -- The ticket goes out first, and the frame is restored by the thread that has sent it.
  refine ⟨_, news, ⟨sent, emits, ticketed⟩, ?_, contents⟩
  simp only [onPacketReceived, type, or_true, if_true, restored]

/-- A turn with a packet that carries no frames without tickets. -/
theorem receiveTurn_receives {thread : ThreadDataFrames} (wired : thread.Wired)
    {packet : DataFramesPacket} {rest : QByteArray}
    (called : tryExtractPacket thread.inputBuffer = (.ok packet, rest))
    (other : packet.header.packetType ≠ .packetWithoutTicket) :
    Receives [] rest thread thread.receiveTurn.2 := by
  -- Taking the packet out of the input leaves the thread wired.
  have extracted : (thread.packetExtracted rest).Wired := wired.setInput rfl rfl rfl rfl rfl rfl
  obtain ⟨sent, emits, ticketed⟩ := onPacketReceived_emits extracted other
  rw [receiveTurn_packet called]
  exact ⟨emits.wired, ⟨sent, emits.transmitted, ticketed⟩, emits.output, emits.framesFactory,
    emits.hung, emits.inputBuffer, emits.delivered.trans (List.append_nil _).symm⟩

/-- A turn with a packet that carries a frame without a ticket. -/
theorem receiveTurn_delivers {thread : ThreadDataFrames} (wired : thread.Wired)
    {packet : DataFramesPacket} {rest : QByteArray}
    (called : tryExtractPacket thread.inputBuffer = (.ok packet, rest))
    (type : packet.header.packetType = .packetWithoutTicket) {factory : DataFramesFactory}
    (known : thread.framesFactory = some factory) {frame : DataFrame}
    (transferable : frame.Transferable factory) (data : packet.data = frame.image) :
    Receives [[frame.content]] rest thread thread.receiveTurn.2 := by
  have extracted : (thread.packetExtracted rest).Wired := wired.setInput rfl rfl rfl rfl rfl rfl
  obtain ⟨answered, news, ⟨sent, emits, ticketed⟩, delivers, contents⟩ :=
    onPacketReceived_delivers extracted known transferable type data
  have transmitted : (answered.record (.onFrameReceived news packet.packetId packet)).transmitted =
      answered.transmitted := by
    simp [ThreadDataFrames.transmitted, record]
  have delivered : (answered.record (.onFrameReceived news packet.packetId packet)).delivered =
      answered.delivered ++ [news.map DataFrame.content] := by
    simp [ThreadDataFrames.delivered, record]
  -- The call of the hook is all that is different from the thread behind the ticket.
  have wired := emits.wired
  rw [receiveTurn_packet called, delivers]
  refine ⟨⟨wired.connected, wired.atEnd, ?_, ?_, wired.storable, wired.ticketed⟩,
    ⟨sent, ?_, ticketed⟩, emits.output, emits.framesFactory, emits.hung, emits.inputBuffer, ?_⟩
  · rw [transmitted]
    exact wired.written
  · rw [transmitted]
    exact wired.valid
  · rw [transmitted]
    exact emits.transmitted
  · rw [delivered, contents, emits.delivered]
    rfl

end ThreadDataFrames

namespace DataFramesPacket

/-- The packets of a list that carry frames without tickets. -/
def unticketed (packets : List DataFramesPacket) : List DataFramesPacket :=
  packets.filter (·.header.packetType = .packetWithoutTicket)

@[simp] theorem unticketed_append (front back : List DataFramesPacket) :
    unticketed (front ++ back) = unticketed front ++ unticketed back :=
  List.filter_append ..

theorem unticketed_eq_nil {packets : List DataFramesPacket}
    (ticketed : ∀ packet ∈ packets, packet.header.packetType ≠ .packetWithoutTicket) :
    unticketed packets = [] := by
  -- The filter keeps none of them.
  simpa [unticketed] using ticketed

end DataFramesPacket

open DataFramesPacket (unticketed)
open DataFramesPacketFactory (packetFraming packetExtractor)

variable [QtText]

/--
One direction of a link: the frames that one thread was given, and what the other has made of them.

The receiver has processed a front part of the packets that were sent.
What follows them in its input is the front of the packets that are still pending.
-/
structure Direction (frames : List DataFrame) (sender receiver : ThreadDataFrames)
    (arrived : Nat) (processed pending : List DataFramesPacket) : Prop where
  within : arrived ≤ sender.handler.output.length
  images : (unticketed sender.transmitted).map DataFramesPacket.data = frames.map DataFrame.image
  transmitted : sender.transmitted = processed ++ pending
  input : sender.handler.output.take arrived =
    packetFraming.encodeAll processed ++ receiver.inputBuffer
  delivered : receiver.delivered =
    (frames.take (unticketed processed).length).map fun frame => [frame.content]

namespace Direction

variable {frames : List DataFrame} {sender receiver : ThreadDataFrames} {arrived : Nat}
  {processed pending : List DataFramesPacket}

/-- No more frames have been processed than were sent. -/
theorem processed_le (direction : Direction frames sender receiver arrived processed pending) :
    (unticketed processed).length ≤ frames.length := by
  -- As many packets as frames were sent, and those processed are among them.
  have images := congrArg List.length direction.images
  rw [direction.transmitted] at images
  simp only [DataFramesPacket.unticketed_append, List.length_map, List.length_append] at images
  omega

/-- Further packets are pending until they are received. -/
theorem send (direction : Direction frames sender receiver arrived processed pending)
    {after : ThreadDataFrames} {sent : List DataFramesPacket} {more : List DataFrame}
    (transmitted : after.transmitted = sender.transmitted ++ sent)
    (output : sender.handler.output <+: after.handler.output)
    (images : (unticketed sent).map DataFramesPacket.data = more.map DataFrame.image) :
    Direction (frames ++ more) after receiver arrived processed (pending ++ sent) where
  within := Nat.le_trans direction.within output.length_le
  images := by
    rw [transmitted, DataFramesPacket.unticketed_append, List.map_append, List.map_append,
      direction.images, images]
  transmitted := by rw [transmitted, direction.transmitted, List.append_assoc]
  input := by
    obtain ⟨rest, same⟩ := output
    rw [← same, List.take_append_of_le_length direction.within, direction.input]
  delivered := by rw [List.take_append_of_le_length direction.processed_le, direction.delivered]

/-- What the receiver does besides receiving makes no difference. -/
theorem congr_receiver (direction : Direction frames sender receiver arrived processed pending)
    {after : ThreadDataFrames} (inputBuffer : after.inputBuffer = receiver.inputBuffer)
    (delivered : after.delivered = receiver.delivered) :
    Direction frames sender after arrived processed pending where
  within := direction.within
  images := direction.images
  transmitted := direction.transmitted
  input := inputBuffer ▸ direction.input
  delivered := delivered.trans direction.delivered

/-- Bytes that arrive are appended to the input. -/
theorem arrive (direction : Direction frames sender receiver arrived processed pending)
    {bytes : List UInt8} (isPrefix : bytes <+: sender.handler.output.drop arrived)
    {after : ThreadDataFrames} (inputBuffer : after.inputBuffer = receiver.inputBuffer ++ bytes)
    (delivered : after.delivered = receiver.delivered) :
    Direction frames sender after (arrived + bytes.length) processed pending where
  within := by
    have length := isPrefix.length_le
    have within := direction.within
    rw [List.length_drop] at length
    omega
  images := direction.images
  transmitted := direction.transmitted
  input := by
    -- The bytes that have arrived now are those from before, and the next ones behind them.
    have next : (sender.handler.output.drop arrived).take bytes.length = bytes :=
      (List.prefix_iff_eq_take.mp isPrefix).symm
    rw [List.take_add, next, direction.input, inputBuffer, List.append_assoc]
  delivered := delivered.trans direction.delivered

/-- The input is a front part of the pending packets. -/
theorem input_prefix (direction : Direction frames sender receiver arrived processed pending)
    (wired : sender.Wired) : receiver.inputBuffer <+: packetFraming.encodeAll pending := by
  -- What arrived and what was sent both begin with the packets already processed.
  have written := wired.written
  rw [direction.transmitted, packetFraming.encodeAll_append] at written
  have isPrefix : packetFraming.encodeAll processed ++ receiver.inputBuffer <+:
      packetFraming.encodeAll processed ++ packetFraming.encodeAll pending := by
    rw [← direction.input, ← written]
    exact (List.take_prefix ..).trans (List.prefix_append ..)
  exact (List.prefix_append_right_inj _).mp isPrefix

omit [QtText] in
/-- The input behind a packet that has been taken out of it. -/
theorem input_rest {processed : List DataFramesPacket} {packet : DataFramesPacket}
    {output input rest : List UInt8} (arrived : output = packetFraming.encodeAll processed ++ input)
    (complete : input = packetFraming.encode packet ++ rest) :
    output = packetFraming.encodeAll (processed ++ [packet]) ++ rest := by
  rw [arrived, complete, packetFraming.encodeAll_append, packetFraming.encodeAll_cons,
    packetFraming.encodeAll_nil, List.append_nil, List.append_assoc]

/-- A packet without frames, or with a ticket, is processed without a delivery. -/
theorem receive {packet : DataFramesPacket}
    (direction : Direction frames sender receiver arrived processed (packet :: pending))
    {rest : QByteArray} (complete : receiver.inputBuffer = packetFraming.encode packet ++ rest)
    (other : packet.header.packetType ≠ .packetWithoutTicket) {after : ThreadDataFrames}
    (inputBuffer : after.inputBuffer = rest) (delivered : after.delivered = receiver.delivered) :
    Direction frames sender after arrived (processed ++ [packet]) pending where
  within := direction.within
  images := direction.images
  transmitted := by simpa using direction.transmitted
  input := inputBuffer ▸ input_rest direction.input complete
  delivered := by
    -- The packet does not count among those with frames, so the number of frames stays.
    have none : unticketed [packet] = [] := DataFramesPacket.unticketed_eq_nil (by simpa using other)
    rw [delivered, direction.delivered, DataFramesPacket.unticketed_append, none, List.append_nil]

/-- The next packet with a frame without a ticket holds the image of the next frame. -/
theorem deliver {packet : DataFramesPacket}
    (direction : Direction frames sender receiver arrived processed (packet :: pending))
    {rest : QByteArray} (complete : receiver.inputBuffer = packetFraming.encode packet ++ rest)
    (type : packet.header.packetType = .packetWithoutTicket) :
    ∃ frame ∈ frames, packet.data = frame.image ∧ ∀ {after : ThreadDataFrames},
      after.inputBuffer = rest → after.delivered = receiver.delivered ++ [[frame.content]] →
      Direction frames sender after arrived (processed ++ [packet]) pending := by
  have one : unticketed [packet] = [packet] := by simp [unticketed, type]
  have images := direction.images
  rw [direction.transmitted, ← List.singleton_append, DataFramesPacket.unticketed_append,
    DataFramesPacket.unticketed_append, one, List.map_append, List.map_append] at images
  -- The frames split where the packets do, since their images are the data of the packets.
  obtain ⟨front, back, split, earlier, later⟩ := List.map_eq_append_iff.mp images.symm
  obtain ⟨frame, others, rfl, same, _⟩ := List.map_eq_cons_iff.mp later
  have length : (unticketed processed).length = front.length := by
    simpa using (congrArg List.length earlier).symm
  refine ⟨frame, by simp [split], same.symm, fun inputBuffer delivered => ?_⟩
  refine ⟨direction.within, direction.images, by simpa using direction.transmitted,
    inputBuffer ▸ input_rest direction.input complete, ?_⟩
  rw [delivered, direction.delivered, DataFramesPacket.unticketed_append, one, List.length_append,
    List.length_singleton, length, split, List.take_left, List.take_append]
  simp [List.take_of_length_le]

/-- The packets that are pending are well formed. -/
theorem pending_valid (direction : Direction frames sender receiver arrived processed pending)
    (wired : sender.Wired) : ∀ packet ∈ pending, packet.WellFormed := by
  -- Pending packets were sent, and only well-formed packets are sent.
  intro packet member
  apply wired.valid
  rw [direction.transmitted]
  exact List.mem_append_right _ member

/-- When everything has arrived and nothing can be extracted, nothing is pending. -/
theorem all_processed (direction : Direction frames sender receiver arrived processed pending)
    (wired : sender.Wired) (written : sender.outputBuffer = [])
    (everything : sender.handler.output.drop arrived = [])
    (drained : DataFramesPacketFactory.extractPacket receiver.inputBuffer =
      (none, receiver.inputBuffer)) : pending = [] := by
  -- The input is the whole run of bytes of the pending packets.
  have output := wired.written
  rw [written, List.append_nil, direction.transmitted, packetFraming.encodeAll_append] at output
  have arrivedAll : sender.handler.output.take arrived = sender.handler.output :=
    List.take_of_length_le (List.drop_eq_nil_iff.mp everything)
  have whole : receiver.inputBuffer = packetFraming.encodeAll pending := by
    have input := direction.input
    rw [arrivedAll, output] at input
    exact (List.append_cancel_left input).symm
  have valid := direction.pending_valid wired
  rcases packetFraming.extract_prefix valid (direction.input_prefix wired) with
    ⟨packet, later, rest, rfl, complete, _⟩ | ⟨_, none⟩
  · have extracted := packetFraming.extract_encode rest (valid packet (by simp))
    rw [← complete] at extracted
    cases extracted.symm.trans drained
  · exact none whole

/-- Once everything has been processed, every frame has been delivered. -/
theorem delivered_all (direction : Direction frames sender receiver arrived processed []) :
    receiver.delivered = frames.map fun frame => [frame.content] := by
  -- With nothing pending, there are as many packets processed as frames sent.
  have images := congrArg List.length direction.images
  rw [direction.transmitted, List.append_nil, List.length_map, List.length_map] at images
  rw [direction.delivered, images, List.take_length]

end Direction

namespace ThreadDataFrames

/-- A working thread goes on, and the packets it sends hold the images of further frames. -/
structure Extends (factory : DataFramesFactory) (more : List DataFrame)
    (before after : ThreadDataFrames) : Prop where
  wired : after.Wired
  running : after.hung = false
  known : after.framesFactory = some factory
  transferable : ∀ frame ∈ more, frame.Transferable factory
  transmitted : ∃ sent, after.transmitted = before.transmitted ++ sent ∧
    (unticketed sent).map DataFramesPacket.data = more.map DataFrame.image
  output : before.handler.output <+: after.handler.output

namespace Extends

variable {factory : DataFramesFactory} {before after : ThreadDataFrames}

/-- Packets with tickets hold no images of frames without tickets. -/
theorem of_emitsTicketed (running : before.hung = false)
    (known : before.framesFactory = some factory) (emits : EmitsTicketed before after) :
    Extends factory [] before after := by
  obtain ⟨sent, emits, ticketed⟩ := emits
  refine ⟨emits.wired, emits.hung.trans running, emits.framesFactory.trans known, by simp,
    ⟨sent, emits.transmitted, ?_⟩, emits.output⟩
  simp [DataFramesPacket.unticketed_eq_nil ticketed]

/-- A thread that receives a packet answers with tickets at most. -/
theorem of_receives {contents : List (List DataFrame.Content)} {rest : QByteArray}
    (running : before.hung = false) (known : before.framesFactory = some factory)
    (receives : Receives contents rest before after) : Extends factory [] before after := by
  obtain ⟨sent, transmitted, ticketed⟩ := receives.transmitted
  refine ⟨receives.wired, receives.hung.trans running, receives.framesFactory.trans known, by simp,
    ⟨sent, transmitted, ?_⟩, receives.output⟩
  simp [DataFramesPacket.unticketed_eq_nil ticketed]

end Extends

end ThreadDataFrames

namespace Link

/-- Both threads of a link work, and both directions deliver the frames that were sent. -/
structure Delivering (factory : DataFramesFactory) (frames : Side → List DataFrame)
    (link : Link) : Prop where
  wired : ∀ side, (link.thread side).Wired
  running : ∀ side, (link.thread side).hung = false
  known : ∀ side, (link.thread side).framesFactory = some factory
  transferable : ∀ side, ∀ frame ∈ frames side, frame.Transferable factory
  direction : ∀ side, ∃ processed pending, Direction (frames side) (link.thread side)
    (link.thread side.peer) (link.arrived side.peer) processed pending

namespace Delivering

variable {factory : DataFramesFactory} {frames : Side → List DataFrame} {link : Link}

/-- One thread goes on, and some of the bytes on their way to it may arrive; its peer stays. -/
theorem advance (holds : Delivering factory frames link) {side : Side} {thread : ThreadDataFrames}
    {more : List DataFrame} (further : (link.thread side).Extends factory more thread) (count : Nat)
    (incoming : ∃ processed pending, Direction (frames side.peer) (link.thread side.peer) thread
      (link.arrived side + count) processed pending) :
    Delivering factory (Function.update frames side (frames side ++ more))
      ((link.update side thread).take side count) := by
  -- Every end is the one that changes or its peer.
  have ends {property : Side → Prop} (here : property side) (there : property side.peer) :
      ∀ other, property other := fun other =>
    if same : other = side then same ▸ here else Side.eq_peer_of_ne same ▸ there
  refine ⟨ends ?_ ?_, ends ?_ ?_, ends ?_ ?_, ends ?_ ?_, ends ?_ ?_⟩
  · simpa using further.wired
  · simpa using holds.wired side.peer
  · simpa using further.running
  · simpa using holds.running side.peer
  · simpa using further.known
  · simpa using holds.known side.peer
  · rw [Function.update_self]
    exact List.forall_mem_append.mpr ⟨holds.transferable side, further.transferable⟩
  · simpa using holds.transferable side.peer
  · obtain ⟨sent, transmitted, images⟩ := further.transmitted
    obtain ⟨processed, pending, direction⟩ := holds.direction side
    refine ⟨processed, pending ++ sent, ?_⟩
    simpa using direction.send transmitted further.output images
  · simpa using incoming

/-- What arrives at a thread stays the same while it only sends. -/
theorem incoming (holds : Delivering factory frames link) (side : Side) :
    ∃ processed pending, Direction (frames side.peer) (link.thread side.peer) (link.thread side)
      (link.arrived side) processed pending := by
  -- This is the direction from the peer.
  simpa using holds.direction side.peer

/-- A thread sends packets with tickets at most. -/
theorem emitsTicketed (holds : Delivering factory frames link) {side : Side}
    {thread : ThreadDataFrames} (emits : (link.thread side).EmitsTicketed thread) :
    Delivering factory frames (link.update side thread) := by
  -- In the other direction nothing changes, because neither input nor deliveries do.
  obtain ⟨processed, pending, direction⟩ := holds.incoming side
  obtain ⟨sent, own, ticketed⟩ := emits
  have further := ThreadDataFrames.Extends.of_emitsTicketed (holds.running side) (holds.known side)
    ⟨sent, own, ticketed⟩
  have after := holds.advance further 0
    ⟨processed, pending, direction.congr_receiver own.inputBuffer own.delivered⟩
  simpa using after

/-- A thread sends the packet of a frame without a ticket. -/
theorem emitsImage (holds : Delivering factory frames link) {side : Side}
    {thread : ThreadDataFrames} {packet : DataFramesPacket} {frame : DataFrame}
    (emits : (link.thread side).Emits [packet] thread) (transferable : frame.Transferable factory)
    (type : packet.header.packetType = .packetWithoutTicket) (data : packet.data = frame.image) :
    Delivering factory (Function.update frames side (frames side ++ [frame]))
      (link.update side thread) := by
  obtain ⟨processed, pending, direction⟩ := holds.incoming side
  -- The one packet that is sent holds the image of the one frame.
  have further : (link.thread side).Extends factory [frame] thread :=
    ⟨emits.wired, emits.hung.trans (holds.running side),
      emits.framesFactory.trans (holds.known side), by simpa using transferable,
      ⟨[packet], emits.transmitted, by simp [unticketed, type, data]⟩, emits.output⟩
  have after := holds.advance further 0
    ⟨processed, pending, direction.congr_receiver emits.inputBuffer emits.delivered⟩
  simpa using after

/-- Bytes that are on their way to a thread arrive in its input. -/
theorem readInput (holds : Delivering factory frames link) (side : Side) {bytes : List UInt8}
    (isPrefix : bytes <+: link.channel side) {answers : List QByteArray}
    (read : ThreadHandler.readLoop answers = bytes) :
    Delivering factory frames
      ((link.update side ((link.thread side).readInput answers)).take side bytes.length) := by
  -- Reading sends nothing, and moves bytes from the way into the input.
  obtain ⟨processed, pending, direction⟩ := holds.incoming side
  have wired : ((link.thread side).readInput answers).Wired :=
    (holds.wired side).setInput rfl rfl rfl rfl rfl rfl
  have further : (link.thread side).Extends factory [] ((link.thread side).readInput answers) :=
    ⟨wired, holds.running side, holds.known side, by simp,
      ⟨[], (List.append_nil _).symm, rfl⟩, List.prefix_rfl⟩
  have inputBuffer : ((link.thread side).readInput answers).inputBuffer =
      (link.thread side).inputBuffer ++ bytes := by
    rw [ThreadDataFrames.readInput, read]
  have after := holds.advance further bytes.length
    ⟨processed, pending, direction.arrive isPrefix inputBuffer rfl⟩
  simpa using after

/--
A turn of the loop over the input of a thread takes a packet out of it and handles it,
or finds that nothing can be extracted.
-/
theorem receiveTurn (holds : Delivering factory frames link) (side : Side) :
    ((link.thread side).receiveTurn.1 = true ∧
      (link.thread side).receiveTurn.2.inputBuffer.length < (link.thread side).inputBuffer.length ∧
      Delivering factory frames (link.update side (link.thread side).receiveTurn.2)) ∨
    ((link.thread side).receiveTurn = (false, link.thread side) ∧
      DataFramesPacketFactory.extractPacket (link.thread side).inputBuffer =
        (none, (link.thread side).inputBuffer)) := by
  obtain ⟨processed, pending, direction⟩ := holds.incoming side
  have sender := holds.wired side.peer
  have valid := direction.pending_valid sender
  rcases packetFraming.extract_prefix valid (direction.input_prefix sender) with
    ⟨packet, later, rest, rfl, complete, _⟩ | ⟨nothing, _⟩
  · -- The next packet is complete, and the turn handles it.
    left
    have extracted := packetFraming.extract_encode rest (valid packet (by simp))
    rw [← complete] at extracted
    have called := DataFramesPacketFactory.extractPacket_some.mp extracted
    have again (running : (link.thread side).receiveTurn.2.hung = false) :
        (link.thread side).receiveTurn.1 = true := by
      rw [ThreadDataFrames.receiveTurn_packet called] at running ⊢
      exact congrArg (!·) running
    have shorter : rest.length < (link.thread side).inputBuffer.length :=
      packetExtractor.item_shrinks extracted
    by_cases type : packet.header.packetType = .packetWithoutTicket
    · obtain ⟨frame, member, data, deliver⟩ := direction.deliver complete type
      have receives := ThreadDataFrames.receiveTurn_delivers (holds.wired side) called type
        (holds.known side) (holds.transferable side.peer frame member) data
      have further := ThreadDataFrames.Extends.of_receives (holds.running side) (holds.known side)
        receives
      have after := holds.advance further 0
        ⟨_, _, deliver receives.inputBuffer receives.delivered⟩
      refine ⟨again further.running, receives.inputBuffer ▸ shorter, ?_⟩
      simpa using after
    · have receives := ThreadDataFrames.receiveTurn_receives (holds.wired side) called type
      have further := ThreadDataFrames.Extends.of_receives (holds.running side) (holds.known side)
        receives
      have after := holds.advance further 0 ⟨_, _, direction.receive complete type
        receives.inputBuffer (receives.delivered.trans (List.append_nil _))⟩
      refine ⟨again further.running, receives.inputBuffer ▸ shorter, ?_⟩
      simpa using after
  · right
    refine ⟨?_, nothing⟩
    obtain ⟨result, called⟩ := DataFramesPacketFactory.extractPacket_none.mp nothing
    simp only [ThreadDataFrames.receiveTurn, called]

/-- The loop over the input of a thread handles packets until nothing can be extracted. -/
theorem receiveLoop (side : Side) (fuel : Nat) {link : Link} (holds : Delivering factory frames link)
    (enough : (link.thread side).inputBuffer.length < fuel) :
    Delivering factory frames
        (link.update side (ThreadDataFrames.receiveLoop fuel (link.thread side))) ∧
      DataFramesPacketFactory.extractPacket
          (ThreadDataFrames.receiveLoop fuel (link.thread side)).inputBuffer =
        (none, (ThreadDataFrames.receiveLoop fuel (link.thread side)).inputBuffer) := by
  -- Induction on the fuel: every turn that handles a packet leaves a shorter input.
  induction fuel generalizing link with
  | zero => omega
  | succ fuel ih =>
    rw [ThreadDataFrames.receiveLoop]
    rcases holds.receiveTurn side with ⟨again, shorter, after⟩ | ⟨same, nothing⟩
    · have later := ih after (by rw [update_thread_self]; omega)
      rw [update_thread_self, update_update] at later
      simpa only [again, if_true] using later
    · simp only [same, Bool.false_eq_true, if_false]
      exact ⟨by simpa using holds, nothing⟩

end Delivering

/-- A link that delivers, with nothing more to be extracted from the input at either end. -/
structure Settled (factory : DataFramesFactory) (frames : Side → List DataFrame)
    (link : Link) : Prop extends Delivering factory frames link where
  drained : ∀ side, DataFramesPacketFactory.extractPacket (link.thread side).inputBuffer =
    (none, (link.thread side).inputBuffer)

end Link

namespace LinkEvent

omit [QtText] in
/-- The frame without a ticket that an event passes to `sendFrame` at an end. -/
def sentFrame (side : Side) : LinkEvent → Option DataFrame
  | .act other (.sendFrame (some frame)) =>
    if other = side ∧ frame.needsTicket = false then some frame else none
  | _ => none

/-- The frames without tickets that are passed to `sendFrame` at an end, in order. -/
def sentFrames (side : Side) (events : List LinkEvent) : List DataFrame :=
  events.filterMap (sentFrame side)

omit [QtText] in
theorem sentFrames_append (side : Side) (past : List LinkEvent) (event : LinkEvent) :
    sentFrames side (past ++ [event]) = sentFrames side past ++ (event.sentFrame side).toList := by
  rw [sentFrames, List.filterMap_append]
  cases sent : event.sentFrame side <;> simp [sentFrames, sent]

/-- An event passes no frame without a ticket to `sendFrame` that its peer could not restore. -/
def Transferable (factory : DataFramesFactory) : LinkEvent → Prop
  | .act _ (.sendFrame (some frame)) => frame.needsTicket = false → frame.Transferable factory
  | _ => True

end LinkEvent

namespace Link

variable {factory : DataFramesFactory} {frames : Side → List DataFrame} {link : Link}

/-- A thread may change in any way that leaves its input alone. -/
theorem Settled.update (holds : Settled factory frames link) {others : Side → List DataFrame}
    {side : Side} {thread : ThreadDataFrames}
    (after : Delivering factory others (link.update side thread))
    (inputBuffer : thread.inputBuffer = (link.thread side).inputBuffer) :
    Settled factory others (link.update side thread) := by
  -- The other thread is not touched, and this one has the same input as before.
  refine ⟨after, fun other => ?_⟩
  by_cases same : other = side
  · subst same
    rw [update_thread_self, inputBuffer]
    exact holds.drained other
  · rw [Side.eq_peer_of_ne same, update_thread_peer]
    exact holds.drained side.peer

/-- Packets with tickets, and nothing else, are sent by every action but one. -/
theorem Settled.emitsTicketed (holds : Settled factory frames link) {side : Side}
    {thread : ThreadDataFrames} (emits : (link.thread side).EmitsTicketed thread) :
    Settled factory frames (link.update side thread) := by
  have inputBuffer : thread.inputBuffer = (link.thread side).inputBuffer := by
    obtain ⟨_, emits, _⟩ := emits
    exact emits.inputBuffer
  exact holds.update (holds.toDelivering.emitsTicketed emits) inputBuffer

/-- Every action but sending a frame without a ticket makes a thread send tickets at most. -/
theorem react_emitsTicketed {thread : ThreadDataFrames} (wired : thread.Wired)
    (running : thread.hung = false) {action : ThreadAction}
    (ticketed : ∀ frame, action = .sendFrame (some frame) → frame.needsTicket = true) :
    thread.EmitsTicketed (thread.react action.event) := by
  -- Each action has been dealt with where packets are emitted.
  simp only [ThreadDataFrames.react, running, Bool.false_eq_true, if_false]
  cases action with
  | sendFrame frame =>
    cases frame with
    | none => exact .refl wired
    | some frame => exact ThreadDataFrames.sendFrame_emits wired (ticketed frame rfl)
  | processQueue => exact ThreadDataFrames.processQueue_emits wired
  | resetQueue => exact ThreadDataFrames.resetQueue_emits wired
  | readyToWrite => exact .of_emits wired.slotOnReadyToWrite

/-- A frame without a ticket joins the frames that are delivered. -/
theorem Settled.sendFrame (holds : Settled factory frames link) (side : Side) {frame : DataFrame}
    (transferable : frame.Transferable factory) (unticketed : frame.needsTicket = false) :
    Settled factory (Function.update frames side (frames side ++ [frame]))
      (link.update side ((link.thread side).react (.sendFrame (some frame)))) := by
  obtain ⟨packet, emits, type, data⟩ :=
    ThreadDataFrames.sendFrame_emits_image (holds.wired side) transferable unticketed
  -- The thread runs, so the event is the call of `sendFrame`.
  have reaction : (link.thread side).react (.sendFrame (some frame)) =
      ((link.thread side).sendFrame (some frame)).2 := by
    simp [ThreadDataFrames.react, holds.running side]
  rw [reaction]
  exact holds.update (holds.toDelivering.emitsImage emits transferable type data) emits.inputBuffer

/-- The slot for reading handles every packet that is complete. -/
theorem Settled.readyToRead (holds : Settled factory frames link) (side : Side)
    (counts : List Nat) : Settled factory frames (link.react (.readyToRead side counts)) := by
  have reading : link.reads side = true := by
    simp [reads, holds.running side, (holds.wired side).connected]
  have connected : ¬ (link.thread side).handler.connectionState = .disconnected := by
    simp [(holds.wired side).connected]
  -- First the bytes arrive, and then the loop runs on the longer input.
  have arrived := holds.toDelivering.readInput side (readLoop_slices counts (link.channel side)) rfl
  have handled := arrived.receiveLoop side
    (((link.thread side).readInput (slices counts (link.channel side))).inputBuffer.length + 1)
    (by simp)
  simp only [take_thread, update_thread_self, take_update, update_update] at handled
  simp only [react, if_pos reading, ThreadDataFrames.slotOnReadyToRead, if_neg connected]
  refine ⟨handled.1, fun other => ?_⟩
  by_cases same : other = side
  · subst same
    simpa using handled.2
  · rw [Side.eq_peer_of_ne same]
    simpa using holds.drained side.peer

/-- An event lets a link deliver the frames that it sends besides the earlier ones. -/
theorem react_settled (holds : Settled factory frames link) {event : LinkEvent}
    (transferable : event.Transferable factory) :
    Settled factory (fun side => frames side ++ (event.sentFrame side).toList)
      (link.react event) := by
  -- An event that sends no frame without a ticket leaves the frames as they are.
  have same (silent : ∀ side, event.sentFrame side = none) :
      (fun side => frames side ++ (event.sentFrame side).toList) = frames := by
    funext side
    rw [silent, Option.toList_none, List.append_nil]
  -- Only one kind of event sends a frame without a ticket.
  cases event with
  | readyToRead side counts =>
    rw [same fun _ => rfl]
    exact holds.readyToRead side counts
  | act side action =>
    by_cases unticketed : ∃ frame, action = .sendFrame (some frame) ∧ frame.needsTicket = false
    · obtain ⟨frame, rfl, unticketed⟩ := unticketed
      have joined : (fun other => frames other ++
          ((LinkEvent.act side (.sendFrame (some frame))).sentFrame other).toList) =
          Function.update frames side (frames side ++ [frame]) := by
        funext other
        by_cases same : other = side
        · subst same
          simp [LinkEvent.sentFrame, unticketed]
        · simp [LinkEvent.sentFrame, same, Ne.symm same]
      rw [joined]
      exact holds.sendFrame side (transferable unticketed) unticketed
    · have ticketed : ∀ frame, action = .sendFrame (some frame) → frame.needsTicket = true := by
        intro frame sends
        simpa using fun unneeded => unticketed ⟨frame, sends, unneeded⟩
      have silent : ∀ other, (LinkEvent.act side action).sentFrame other = none := by
        intro other
        cases action with
        | sendFrame frame =>
          cases frame with
          | none => rfl
          | some frame => simp [LinkEvent.sentFrame, ticketed frame rfl]
        | _ => rfl
      rw [same silent]
      have emits := react_emitsTicketed (holds.wired side) (holds.running side) ticketed
      exact holds.emitsTicketed emits

end Link

namespace ThreadDataFrames

omit [QtText] in
/-- A thread that is connected for the first time, and has not sent or received anything. -/
structure FirstConnected (factory : DataFramesFactory) (thread : ThreadDataFrames) : Prop
    extends thread.Initial where
  connected : thread.handler.connectionState = .connected
  output : thread.handler.output = []
  inputBuffer : thread.inputBuffer = []
  outputStream : thread.outputStream = .ofData []
  framesFactory : thread.framesFactory = some factory
  heap : thread.heap = .empty
  running : thread.hung = false

omit [QtText] in
/-- A thread whose stream has not been moved yet is ready once its device connects. -/
theorem FirstConnected.of_setConnectionState {factory : DataFramesFactory}
    {thread : ThreadDataFrames} (initial : thread.Initial)
    (unconnected : thread.handler.connectionState ≠ .connected)
    (output : thread.handler.output = []) (position : thread.outputStream.position = 0)
    (known : thread.framesFactory = some factory) (heap : thread.heap = .empty)
    (running : thread.hung = false) :
    (thread.setConnectionState .connected).FirstConnected factory := by
  rw [setConnectionState, if_neg (Ne.symm unconnected)]
  -- The slot clears both buffers, and the stream keeps the position it had.
  have stream : ({ thread.outputStream with data := some [] } : DataStream) = .ofData [] := by
    simp only [position, DataStream.ofData]
  refine ⟨⟨?_, ?_, ?_, ?_⟩, rfl, ?_, rfl, stream, known, heap, running⟩
  · exact initial.currentPacket
  · exact initial.queued
  · exact initial.dataFramesPacketFactory
  · exact initial.calls
  · exact output

omit [QtText] in
/-- A thread that has sent nothing is wired. -/
theorem FirstConnected.wired {factory : DataFramesFactory} {thread : ThreadDataFrames}
    (connected : thread.FirstConnected factory) : thread.Wired := by
  -- No call was made, and both the output and its buffer are empty.
  have transmitted : thread.transmitted = [] := by
    simp [ThreadDataFrames.transmitted, connected.calls]
  have outputBuffer : thread.outputBuffer = [] := by
    rw [ThreadHandler.outputBuffer, connected.outputStream]
    rfl
  refine ⟨connected.connected, ?_, ?_, ?_, ?_, ?_⟩
  · rw [outputBuffer]
    exact connected.outputStream
  · rw [connected.output, outputBuffer, transmitted]
    rfl
  · simp [transmitted]
  · simp [connected.heap, Heap.read, Heap.empty]
  · simp [connected.queued, connected.currentPacket]

end ThreadDataFrames

namespace Link

/-- Both threads have just connected, and nothing has arrived. -/
structure Ready (factory : DataFramesFactory) (link : Link) : Prop where
  thread : ∀ side, (link.thread side).FirstConnected factory
  arrived : ∀ side, link.arrived side = 0

/-- A link on which nothing has happened has delivered no frames. -/
theorem Ready.settled {factory : DataFramesFactory} {link : Link} (ready : link.Ready factory) :
    Settled factory (fun _ => []) link := by
  -- Nothing was called at either end.
  have silent (side : Side) : (link.thread side).transmitted = [] ∧
      (link.thread side).delivered = [] := by
    simp [ThreadDataFrames.transmitted, ThreadDataFrames.delivered, (ready.thread side).calls]
  refine ⟨⟨fun side => (ready.thread side).wired, fun side => (ready.thread side).running,
    fun side => (ready.thread side).framesFactory, by simp, fun side => ⟨[], [], ?_⟩⟩,
    fun side => ?_⟩
  · refine ⟨?_, ?_, ?_, ?_, ?_⟩
    · simp [ready.arrived]
    · simp [(silent side).1, unticketed]
    · simp [(silent side).1]
    · simp [ready.arrived, (ready.thread side.peer).inputBuffer]
    · simp [(silent side.peer).2]
  · rw [(ready.thread side).inputBuffer]
    exact packetExtractor.extract_nil

/-- A link that delivers exactly the frames of the events so far. -/
def SettledAfter (factory : DataFramesFactory) (events : List LinkEvent) (link : Link) : Prop :=
  Settled factory (fun side => LinkEvent.sentFrames side events) link

/-- Every event adds its own frame to those that are delivered. -/
theorem SettledAfter.react {factory : DataFramesFactory} (past : List LinkEvent) (link : Link)
    (event : LinkEvent) (transferable : event.Transferable factory)
    (holds : SettledAfter factory past link) :
    SettledAfter factory (past ++ [event]) (link.react event) := by
  -- The frames of one more event are the earlier ones with its own behind them.
  have after := react_settled holds transferable
  simpa only [SettledAfter, LinkEvent.sentFrames_append] using after

end Link

omit [QtText]

/-- A frame of one byte that needs no ticket. -/
def levelDefinition : DataFrameDefinition :=
  ⟨.ofAscii "Level", false, 1, false, 0, [⟨.ofAscii "Value", .ofAscii "uint8", true⟩]⟩

/-- A factory that knows the frame. -/
def levelFactory : DataFramesFactory := .init ⟨[(.ofAscii "LEVEL", levelDefinition)]⟩

def levelFrame : DataFrame where
  definition := some levelDefinition
  atoms := [some ⟨.uint8, ⟨⟨.ofAscii "Value", .ofAscii "uint8", true⟩, [(7 : UInt8)], 0⟩⟩]
  capacity := 1
  currentIndex := 0
  packetId := 0

theorem levelFrame_transferable : @DataFrame.Transferable .ascii levelFactory levelFrame := by
  let _ : QtText := .ascii
  refine ⟨levelDefinition, _, ⟨⟨rfl, rfl, .cons ?_ .nil, by decide⟩, ?_, ?_, ?_, ?_, ?_, ?_, ?_⟩⟩
  · exact ⟨by decide, rfl, rfl⟩
  · rfl
  · decide
  · decide
  · simp [AbstractDataAtom.Portable, AtomType.Portable]
  · exact fun _ => rfl
  · simp [levelDefinition]
  · decide

/-- Two threads that know the frame, whose devices accept twenty bytes at a time. -/
def levelLink : Link where
  thread _ := { ThreadDataFrames.connected (some levelFactory) with
    handler := ⟨.connected, fun _ => 20, 0, []⟩ }
  arrived _ := 0

end Threader
