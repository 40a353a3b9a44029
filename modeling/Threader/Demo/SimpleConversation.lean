import Threader.Base.CyclicCounter
import Threader.Base.FramedChannel
import Threader.Demo.SimpleSockets

/-! What the ends of one connection say to each other, whatever the order in which things happen. -/

namespace Threader

open PacketFactorySimple (packetExtractor packetFraming extractPacket)
open StreamExtractor.Framing (Carries)

namespace PacketFactorySimple

/-- The greatest id that is generated. -/
def maximumPacketId : Nat := 0x1FFFFFFE

/-- On ids within the limit, the factory is a counter that starts again behind it. -/
theorem generateNextPacketId_toNat {factory : PacketFactorySimple}
    (counted : factory.packetId.toNat ≤ maximumPacketId) :
    factory.generateNextPacketId.1.toNat =
      CyclicCounter.next maximumPacketId factory.packetId.toNat := by
  have limit : maximumPacketId = 536870910 := rfl
  have successor : (factory.packetId + 1).toNat = factory.packetId.toNat + 1 := by
    rw [UInt32.toNat_add]
    exact Nat.mod_eq_of_lt (by simp only [UInt32.toNat_one]; omega)
  have bound : (0x1FFFFFFF : UInt32).toNat = 536870911 := rfl
  unfold generateNextPacketId CyclicCounter.next
  simp only [ge_iff_le, UInt32.le_iff_toNat_le, successor, bound]
  by_cases last : factory.packetId.toNat = maximumPacketId
  · rw [if_pos (by omega), if_pos last]
    rfl
  · rw [if_neg (by omega), if_neg last, successor]

/-- The factory keeps the id it has generated, and counts on from it. -/
theorem generateNextPacketId_again {factory : PacketFactorySimple} {index : Nat}
    (next : factory.generateNextPacketId.1.toNat = index % maximumPacketId + 1) :
    factory.generateNextPacketId.2.generateNextPacketId.1.toNat =
      (index + 1) % maximumPacketId + 1 := by
  have positive : 0 < maximumPacketId := by decide
  have kept : factory.generateNextPacketId.2.packetId = factory.generateNextPacketId.1 := rfl
  have small := Nat.mod_lt index positive
  rw [generateNextPacketId_toNat (by rw [kept, next]; omega), kept, next,
    CyclicCounter.next_mod positive]

end PacketFactorySimple

open PacketFactorySimple (maximumPacketId Built)

/-- The types of so many packets that begin with a greeting. -/
def exchange (greeting : SimplePacketType) (count : Nat) : List UInt16 :=
  ((greeting :: List.replicate count .alive).take count).map SimplePacketType.toPacketType

/-- The type of the packet that an exchange of some length is continued with. -/
def nextType (greeting : SimplePacketType) (count : Nat) : SimplePacketType :=
  if count = 0 then greeting else .alive

theorem exchange_succ (greeting : SimplePacketType) (count : Nat) :
    exchange greeting (count + 1) =
      exchange greeting count ++ [(nextType greeting count).toPacketType] := by
  cases count with
  | zero => rfl
  | succ count =>
    have longer : List.replicate (count + 1 + 1) SimplePacketType.alive =
        List.replicate count .alive ++ [.alive, .alive] := by
      rw [List.replicate_succ', List.replicate_succ', List.append_assoc]
      rfl
    simp [exchange, nextType, longer, List.replicate_succ', List.take_append]

/-- The packet at some place of an exchange. -/
theorem getElem?_exchange {greeting : SimplePacketType} {count index : Nat}
    (inside : index < count) :
    (exchange greeting count)[index]? = some (nextType greeting index).toPacketType := by
  -- The greeting comes first, and any other place holds a sign of life.
  cases index with
  | zero => simp [exchange, nextType, inside]
  | succ index => simp [exchange, nextType, inside]

namespace ThreadSimpleSocket

/-- The packets of a thread are well formed and numbered, and its device gets their bytes. -/
structure Sound (thread : ThreadSimpleSocket) : Prop where
  valid : ∀ packet ∈ thread.sent, packet.WellFormed
  front : thread.handler.output <+: packetFraming.encodeAll thread.sent
  atEnd : thread.handler.connectionState ≠ .disconnected →
    thread.outputStream = .atEnd thread.outputBuffer
  stream : thread.handler.connectionState ≠ .disconnected →
    thread.handler.output ++ thread.outputBuffer = packetFraming.encodeAll thread.sent
  closed : thread.handler.connectionState = .disconnected → thread.outputBuffer = []
  numbered : thread.sent.map (fun packet => packet.header.packetId.toNat) =
    (List.range thread.sent.length).map fun index => index % maximumPacketId + 1
  next : thread.factory.generateNextPacketId.1.toNat = thread.sent.length % maximumPacketId + 1

/-- A thread goes on, and sends some packets. -/
structure Emits (more : List PacketSimple) (before after : ThreadSimpleSocket) : Prop where
  sound : after.Sound
  sent : after.sent = before.sent ++ more
  output : before.handler.output <+: after.handler.output

/-- A thread sends some packets without receiving any. -/
structure Sends (more : List PacketSimple) (before after : ThreadSimpleSocket) : Prop
    extends Emits more before after where
  connectionState : after.handler.connectionState = before.handler.connectionState
  inputBuffer : after.inputBuffer = before.inputBuffer
  received : after.received = before.received

/-- What does not concern the output keeps a thread sound. -/
theorem Sound.of_same {before after : ThreadSimpleSocket} (sound : before.Sound)
    (handler : after.handler = before.handler) (outputStream : after.outputStream = before.outputStream)
    (sent : after.sent = before.sent) (factory : after.factory = before.factory) : after.Sound := by
  obtain ⟨valid, front, atEnd, stream, closed, numbered, next⟩ := sound
  refine ⟨sent ▸ valid, ?_, ?_, ?_, ?_, sent ▸ numbered, ?_⟩
  · rwa [handler, sent]
  · rwa [handler, ThreadHandler.outputBuffer, outputStream]
  · rwa [handler, ThreadHandler.outputBuffer, outputStream, sent]
  · rwa [handler, ThreadHandler.outputBuffer, outputStream]
  · rwa [factory, sent]

theorem Sends.refl {thread : ThreadSimpleSocket} (sound : thread.Sound) : Sends [] thread thread :=
  ⟨⟨sound, (List.append_nil _).symm, List.prefix_rfl⟩, rfl, rfl, rfl⟩

/-- A packet with the next id is sent while connected. -/
theorem sendPacket_sends {thread : ThreadSimpleSocket} (sound : thread.Sound)
    (connected : thread.handler.connectionState = .connected) {packet : PacketSimple}
    (built : Built packet) (numbered : packet.header.packetId = thread.factory.generateNextPacketId.1) :
    Sends [packet] thread
      ({ thread with factory := thread.factory.generateNextPacketId.2 }.sendPacket packet) := by
  -- While connected the stream is at its end, so that the packet is written behind the others.
  have open' : thread.handler.connectionState ≠ .disconnected := by rw [connected]; decide
  have atEnd : thread.outputStream =
      ⟨some thread.outputBuffer, thread.outputBuffer.length + (0 : Nat)⟩ := by
    simpa [DataStream.atEnd] using sound.atEnd open'
  obtain ⟨_, writes⟩ := ThreadHandler.sendPacketBase_connected connected atEnd packet.toPacketBase
  have allowed : (!thread.handler.isConnected) = false := by
    simp [HandlerBase.isConnected, connected]
  -- The bytes of the packet follow those of the packets before.
  have stream : (thread.sendPacketBase (some packet.toPacketBase)).2.handler.output ++
      (thread.sendPacketBase (some packet.toPacketBase)).2.outputBuffer =
      packetFraming.encodeAll (thread.sent ++ [packet]) := by
    rw [writes.stream, sound.stream open', packetFraming.encodeAll_append]
    simp [packetFraming, PacketSimple.toPacketBase]
  simp only [sendPacket, allowed, Bool.false_eq_true, if_false]
  refine ⟨⟨⟨?_, ?_, fun _ => writes.atEnd, fun _ => stream, ?_, ?_, ?_⟩, rfl, writes.output⟩,
    writes.connectionState, writes.inputBuffer, rfl⟩
  · simpa using fun other member => member.elim (sound.valid other) fun same =>
      same ▸ built.wellFormed
  · exact stream ▸ List.prefix_append ..
  · exact fun ended => absurd (writes.connectionState ▸ ended) open'
  · rw [List.map_append, sound.numbered, List.length_append, List.length_singleton,
      List.range_succ, List.map_append, List.map_singleton, List.map_singleton, numbered, sound.next]
  · rw [List.length_append, List.length_singleton]
    -- The generator has counted the packet that was sent.
    exact PacketFactorySimple.generateNextPacketId_again sound.next

/-- A packet of one of the types is sent. -/
def SendsOne (type : SimplePacketType) (before after : ThreadSimpleSocket) : Prop :=
  ∃ packet, packet.header.packetType = type.toPacketType ∧ Sends [packet] before after

section Packets

variable {thread : ThreadSimpleSocket} (sound : thread.Sound)
  (connected : thread.handler.connectionState = .connected)

include sound connected

theorem sendPacketHello_sends {local8Bit : QByteArray} {length : Nat} (fits : length < 2147483647) :
    SendsOne .hello thread (thread.sendPacketHello local8Bit length) :=
  ⟨_, rfl, sendPacket_sends sound connected
    (PacketFactorySimple.buildPacketHello_built thread.factory fits) rfl⟩

theorem sendPacketWelcome_sends {local8Bit : QByteArray} {length : Nat}
    (fits : length < 2147483647) :
    SendsOne .welcome thread (thread.sendPacketWelcome local8Bit length) :=
  ⟨_, rfl, sendPacket_sends sound connected
    (PacketFactorySimple.buildPacketWelcome_built thread.factory fits) rfl⟩

theorem sendPacketAlive_sends : SendsOne .alive thread thread.sendPacketAlive := by
  -- Reading the clocks changes nothing that is sent.
  have read : ({ thread with
      toThreadHandler := thread.getTickCount.2
      dates := { thread.dates with readings := thread.dates.readings + 1 } } :
        ThreadSimpleSocket).Sound := sound.of_same rfl rfl rfl rfl
  obtain ⟨⟨sound, sent, output⟩, connectionState, inputBuffer, received⟩ :=
    sendPacket_sends read connected (PacketFactorySimple.buildPacketAlive_built thread.factory
      (UInt64.ofInt (thread.dates.ticks thread.dates.readings))
      (UInt64.ofInt thread.getTickCount.1)) rfl
  exact ⟨_, rfl, ⟨sound, sent, output⟩, connectionState, inputBuffer, received⟩

/-- A client answers the greeting of the server, and nothing else. -/
theorem client_onPacketReceived {packet : PacketSimple} {count : Nat}
    (type : packet.header.packetType = (nextType .welcome count).toPacketType) :
    if count = 0 then SendsOne .alive thread (thread.onPacketReceived packet .client)
    else Sends [] thread (thread.onPacketReceived packet .client) := by
  -- Which packet it is follows from how many have come before it.
  simp only [onPacketReceived, ThreadSimpleClientSocket.onPacketReceived, type,
    SimplePacketType.ofPacketType_toPacketType, nextType]
  split
  · exact sendPacketAlive_sends sound connected
  · exact .refl sound

/-- A server answers every packet of a client. -/
theorem server_onPacketReceived {packet : PacketSimple} {count : Nat}
    (type : packet.header.packetType = (nextType .hello count).toPacketType) :
    SendsOne (nextType .welcome count) thread (thread.onPacketReceived packet .server) := by
  simp only [onPacketReceived, ThreadSimpleServerSocket.onPacketReceived, type,
    SimplePacketType.ofPacketType_toPacketType, nextType]
  split
  · exact sendPacketWelcome_sends sound connected (by decide)
  · exact sendPacketAlive_sends sound connected

end Packets

/-- Offering the output buffer to the device sends nothing new. -/
theorem slotOnReadyToWrite_sends {thread : ThreadSimpleSocket} (sound : thread.Sound) :
    Sends [] thread thread.slotOnReadyToWrite := by
  by_cases ended : thread.handler.connectionState = .disconnected
  · -- A device that is gone left nothing in the buffer.
    have unchanged : thread.slotOnReadyToWrite = thread := by
      simp [slotOnReadyToWrite, ThreadHandler.slotOnReadyToWrite, sound.closed ended]
    exact unchanged.symm ▸ .refl sound
  · have writes := ThreadHandler.slotOnReadyToWrite_writes thread.toThreadHandler (sound.atEnd ended)
    have stream := writes.stream.trans ((List.append_nil _).trans (sound.stream ended))
    exact ⟨⟨⟨sound.valid, stream ▸ List.prefix_append .., fun _ => writes.atEnd, fun _ => stream,
      fun closed => absurd (writes.connectionState ▸ closed) ended, sound.numbered, sound.next⟩,
      (List.append_nil _).symm, writes.output⟩, writes.connectionState, writes.inputBuffer, rfl⟩

/-- Reading the clock, and what has nothing to do with the output, sends nothing. -/
theorem Sends.of_same {before after : ThreadSimpleSocket} (sound : before.Sound)
    (handler : after.handler = before.handler) (outputStream : after.outputStream = before.outputStream)
    (sent : after.sent = before.sent) (factory : after.factory = before.factory)
    (inputBuffer : after.inputBuffer = before.inputBuffer)
    (received : after.received = before.received) : Sends [] before after :=
  ⟨⟨sound.of_same handler outputStream sent factory, sent.trans (List.append_nil _).symm,
    handler ▸ List.prefix_rfl⟩, congrArg _ handler, inputBuffer, received⟩

theorem Sends.trans {early late : List PacketSimple} {first second third : ThreadSimpleSocket}
    (front : Sends early first second) (back : Sends late second third) :
    Sends (early ++ late) first third :=
  ⟨⟨back.sound, by rw [back.sent, front.sent, List.append_assoc], front.output.trans back.output⟩,
    back.connectionState.trans front.connectionState, back.inputBuffer.trans front.inputBuffer,
    back.received.trans front.received⟩

/-- A thread after a reading of its clock. -/
def ticked (thread : ThreadSimpleSocket) : ThreadSimpleSocket :=
  { thread with toThreadHandler := thread.getTickCount.2 }

theorem ticked_sends {thread : ThreadSimpleSocket} (sound : thread.Sound) :
    Sends [] thread thread.ticked := .of_same sound rfl rfl rfl rfl rfl rfl

/-- A server gives a client up at most, and sends nothing by itself. -/
theorem server_onIdle {thread : ThreadSimpleSocket} (sound : thread.Sound) :
    Sends [] thread (thread.onIdle .server) := by
  simp only [onIdle, ThreadSimpleServerSocket.onIdle]
  split
  · exact .refl sound
  · split <;> exact .of_same sound rfl rfl rfl rfl rfl rfl

/-- A client keeps the connection alive if it is time to, and then perhaps gives it up. -/
theorem client_onIdle {thread : ThreadSimpleSocket} (sound : thread.Sound) :
    ∃ middle, (Sends [] thread middle ∨
        thread.handler.connectionState = .connected ∧ SendsOne .alive thread middle) ∧
      (thread.onIdle .client = middle ∨
        thread.onIdle .client = middle.setConnectionState .client .disconnected) := by
  simp only [onIdle, ThreadSimpleClientSocket.onIdle]
  split
  · exact ⟨thread, .inl (.refl sound), .inl rfl⟩
  · rename_i connected
    have connected : thread.handler.connectionState = .connected := not_not.mp connected
    have read := ticked_sends sound
    rw [← ticked]
    split
    · -- The packet goes out before the other side is judged.
      obtain ⟨packet, type, sends⟩ :=
        sendPacketAlive_sends read.sound (read.connectionState.trans connected)
      have sends := (read.trans sends).trans (ticked_sends sends.sound)
      refine ⟨_, .inr ⟨connected, packet, type, sends⟩, ?_⟩
      split
      · exact .inr rfl
      · exact .inl rfl
    · refine ⟨_, .inl (read.trans (ticked_sends read.sound)), ?_⟩
      split
      · exact .inr rfl
      · exact .inl rfl

/-- A client that becomes connected begins with its greeting. -/
theorem client_connected {thread : ThreadSimpleSocket} (sound : thread.Sound)
    (connecting : thread.handler.connectionState = .connecting) (none : thread.sent = []) :
    ∃ packet, packet.header.packetType = SimplePacketType.hello.toPacketType ∧
      Emits [packet] thread (thread.setConnectionState .client .connected) ∧
      (thread.setConnectionState .client .connected).handler.connectionState = .connected ∧
      (thread.setConnectionState .client .connected).inputBuffer = [] ∧
      (thread.setConnectionState .client .connected).received = thread.received := by
  have different : ¬ ConnectionState.connected = thread.handler.connectionState := fun same => by
    cases same.trans connecting
  have opened : thread.handler.connectionState ≠ .disconnected := by rw [connecting]; decide
  -- Nothing was sent, so the output buffer that the slot clears is empty already.
  have nothing := sound.stream opened
  rw [none] at nothing
  obtain ⟨output, buffer⟩ := List.append_eq_nil_iff.mp nothing
  have stream := sound.atEnd opened
  rw [buffer] at stream
  -- What the slot leaves is sound again, and the greeting is sent from there.
  obtain ⟨opening, slotted⟩ : ∃ opening : ThreadSimpleSocket, opening = { thread with
      toThreadHandler := thread.toThreadHandler.setConnectionState .connected } := ⟨_, rfl⟩
  have greeted : thread.setConnectionState .client .connected =
      ThreadSimpleClientSocket.onConnected opening := by
    rw [slotted, setConnectionState, if_neg different]
    rfl
  rw [ThreadHandler.setConnectionState, if_neg different] at slotted
  have cleared : opening.outputStream = .atEnd [] := by
    rw [slotted]
    show ({ thread.outputStream with data := some [] } : DataStream) = _
    rw [stream]
    rfl
  have empty : opening.outputBuffer = [] := by rw [ThreadHandler.outputBuffer, cleared]; rfl
  have openingSound : opening.Sound := by
    refine ⟨?_, ?_, fun _ => cleared.trans (empty ▸ rfl), fun _ => ?_, fun _ => empty, ?_, ?_⟩
    · exact slotted ▸ sound.valid
    · exact slotted ▸ sound.front
    · rw [empty, List.append_nil]
      have bytes := sound.stream opened
      rw [buffer, List.append_nil] at bytes
      exact slotted ▸ bytes
    · exact slotted ▸ sound.numbered
    · exact slotted ▸ sound.next
  have state : opening.handler.connectionState = .connected := slotted ▸ rfl
  obtain ⟨packet, type, sends⟩ :=
    sendPacketHello_sends openingSound state (show 6 < 2147483647 by decide)
  rw [greeted]
  refine ⟨packet, type, ⟨sends.sound, ?_, ?_⟩, sends.connectionState.trans state,
    sends.inputBuffer.trans (slotted ▸ rfl), sends.received.trans (slotted ▸ rfl)⟩
  · exact sends.sent.trans (slotted ▸ rfl)
  · rw [output]
    exact List.nil_prefix

end ThreadSimpleSocket

namespace SimpleConversation

open ThreadSimpleSocket (Sound Emits Sends SendsOne)

/-- The type of the packet that an end begins with. -/
def greeting : Side → SimplePacketType
  | .client => .hello
  | .server => .welcome

/-- How many packets an end has sent, compared with what it has received. -/
def Turns (thread : ThreadSimpleSocket) : Side → Prop
  | .client =>
    (thread.handler.connectionState = .connecting → thread.sent = []) ∧
    (thread.handler.connectionState = .connected → thread.sent ≠ []) ∧
    (thread.received ≠ [] → 2 ≤ thread.sent.length)
  | .server =>
    thread.handler.connectionState ≠ .connecting ∧ thread.sent.length = thread.received.length

/-- One end of a conversation, and what it has got of the packets of its peer. -/
structure End (side : Side) (thread peer : ThreadSimpleSocket) (arrived : Nat) : Prop where
  sound : thread.Sound
  carries : thread.handler.connectionState ≠ .disconnected →
    Carries packetFraming peer.sent peer.handler.output arrived thread.received thread.inputBuffer
  received : thread.received <+: peer.sent
  types : thread.sent.map (·.header.packetType) = exchange (greeting side) thread.sent.length
  turns : Turns thread side

namespace End

variable {side : Side} {thread peer : ThreadSimpleSocket} {arrived : Nat}

/-- The peer sends further packets, which will be received in their turn. -/
theorem peerSends (holds : End side thread peer arrived) {more : List PacketSimple}
    {after : ThreadSimpleSocket} (sends : Emits more peer after) : End side thread after arrived where
  sound := holds.sound
  carries opened := by
    -- What is carried now has the further packets at its end.
    have valid := sends.sound.valid
    have front := sends.sound.front
    rw [sends.sent] at valid front ⊢
    exact (holds.carries opened).send (fun packet member => valid packet (List.mem_append_right _ member))
      sends.output front
  received := by
    rw [sends.sent]
    exact holds.received.trans (List.prefix_append ..)
  types := holds.types
  turns := holds.turns

/-- An end sends one packet, which is the next one of its exchange. -/
theorem types_succ (holds : End side thread peer arrived) {packet : PacketSimple}
    (type : packet.header.packetType = (nextType (greeting side) thread.sent.length).toPacketType) :
    (thread.sent ++ [packet]).map (·.header.packetType) =
      exchange (greeting side) (thread.sent ++ [packet]).length := by
  rw [List.map_append, holds.types, List.length_append, List.length_singleton, exchange_succ,
    List.map_singleton, type]

/-- What concerns neither packets nor the state of the device leaves an end as it is. -/
theorem sendsNothing (holds : End side thread peer arrived) {after : ThreadSimpleSocket}
    (sends : Sends [] thread after) : End side after peer arrived := by
  have sent : after.sent = thread.sent := sends.sent.trans (List.append_nil _)
  refine ⟨sends.sound, ?_, ?_, ?_, ?_⟩
  · rw [sends.connectionState, sends.received, sends.inputBuffer]
    exact holds.carries
  · exact sends.received ▸ holds.received
  · exact sent ▸ holds.types
  · have turns := holds.turns
    cases side <;> simpa only [Turns, sent, sends.received, sends.connectionState] using turns

/-- A client that has sent its greeting keeps the connection alive at any time. -/
theorem clientSends (holds : End .client thread peer arrived)
    (connected : thread.handler.connectionState = .connected) {after : ThreadSimpleSocket}
    (sends : SendsOne .alive thread after) : End .client after peer arrived := by
  obtain ⟨packet, type, sends⟩ := sends
  obtain ⟨_, greeted, welcomed⟩ := holds.turns
  -- The greeting has been sent, so the next packet is a sign of life.
  have begun := List.length_pos_of_ne_nil (greeted connected)
  have next : nextType (greeting .client) thread.sent.length = .alive := if_neg (by omega)
  refine ⟨sends.sound, ?_, ?_, sends.sent ▸ holds.types_succ (next ▸ type), ?_, ?_, ?_⟩
  · rw [sends.connectionState, sends.received, sends.inputBuffer]
    exact holds.carries
  · exact sends.received ▸ holds.received
  · rw [sends.connectionState, connected]
    intro connecting
    cases connecting
  · simp [sends.sent]
  · rw [sends.sent, List.length_append, List.length_singleton]
    omega

/-- The next part of what is on its way arrives in the input buffer. -/
theorem arrive (holds : End side thread peer arrived) {read : List UInt8}
    (next : read <+: peer.handler.output.drop arrived) :
    End side { thread with inputBuffer := thread.inputBuffer ++ read } peer
      (arrived + read.length) where
  sound := holds.sound.of_same rfl rfl rfl rfl
  carries opened := (holds.carries opened).arrive next
  received := holds.received
  types := holds.types
  turns := by
    have turns := holds.turns
    cases side <;> exact turns

/-- The packet behind those an end has received is the next one of its peer's exchange. -/
theorem next_type {packet : PacketSimple}
    (types : peer.sent.map (·.header.packetType) = exchange (greeting side.peer) peer.sent.length)
    (next : thread.received ++ [packet] <+: peer.sent) :
    packet.header.packetType =
      (nextType (greeting side.peer) thread.received.length).toPacketType := by
  obtain ⟨others, sent⟩ := next
  have inside : thread.received.length < peer.sent.length := by simp [← sent]
  -- It stands where those before it end.
  have here : (peer.sent.map (·.header.packetType))[thread.received.length]? =
      some packet.header.packetType := by
    simp [← sent]
  rw [types, getElem?_exchange inside] at here
  exact (Option.some.inj here).symm

/-- The packet that is extracted is handled, and what it is answered with continues the exchange. -/
theorem receive (holds : End side thread peer arrived)
    (connected : thread.handler.connectionState = .connected)
    (types : peer.sent.map (·.header.packetType) = exchange (greeting side.peer) peer.sent.length)
    {packet : PacketSimple} {rest : QByteArray}
    (called : extractPacket thread.inputBuffer = (some packet, rest)) :
    (∃ more, Emits more thread (thread.receiveTurn side).2) ∧
      (thread.receiveTurn side).1 = true ∧ (thread.receiveTurn side).2.inputBuffer = rest ∧
      (thread.receiveTurn side).2.handler.connectionState = .connected ∧
      End side (thread.receiveTurn side).2 peer arrived := by
  have opened : thread.handler.connectionState ≠ .disconnected := by rw [connected]; decide
  have carried := (holds.carries opened).extract called
  have type := next_type types carried.returned
  have turn : thread.receiveTurn side = (true, { thread.packetExtracted rest with
      received := thread.received ++ [packet] }.onPacketReceived packet side) := by
    rw [ThreadSimpleSocket.receiveTurn, PacketFactorySimple.extractPacket_some.mp called]
    rfl
  -- Taking the packet out of the buffer and noting the time sends nothing.
  generalize taken : { thread.packetExtracted rest with
    received := thread.received ++ [packet] } = middle at turn
  have sound : middle.Sound := taken ▸ holds.sound.of_same rfl rfl rfl rfl
  have state : middle.handler.connectionState = .connected := taken ▸ connected
  obtain ⟨sent, output, inputBuffer, received⟩ : middle.sent = thread.sent ∧
      middle.handler.output = thread.handler.output ∧ middle.inputBuffer = rest ∧
      middle.received = thread.received ++ [packet] := by
    subst taken
    exact ⟨rfl, rfl, rfl, rfl⟩
  rw [turn]
  -- What the packet is answered with is the next packet of the exchange.
  suffices ∃ more, Sends more middle (middle.onPacketReceived packet side) ∧
      (thread.sent ++ more).map (·.header.packetType) =
        exchange (greeting side) (thread.sent ++ more).length ∧
      Turns (middle.onPacketReceived packet side) side by
    obtain ⟨more, sends, types, turns⟩ := this
    refine ⟨⟨more, sends.sound, sent ▸ sends.sent, output ▸ sends.output⟩, rfl,
      sends.inputBuffer.trans inputBuffer, sends.connectionState.trans state,
      sends.sound, fun _ => ?_, ?_, ?_, turns⟩
    · rw [sends.received, sends.inputBuffer, received, inputBuffer]
      exact carried
    · rw [sends.received, received]
      exact carried.returned
    · rw [sends.sent, sent]
      exact types
  cases side with
  | client =>
    obtain ⟨_, greeted, welcomed⟩ := holds.turns
    have begun := List.length_pos_of_ne_nil (greeted connected)
    have answer := ThreadSimpleSocket.client_onPacketReceived sound state type
    have turns {after : ThreadSimpleSocket}
        (still : after.handler.connectionState = middle.handler.connectionState)
        (enough : 2 ≤ after.sent.length) : Turns after .client := by
      refine ⟨fun connecting => ?_, fun _ none => ?_, fun _ => enough⟩
      · cases (still.trans state).symm.trans connecting
      · simp [none] at enough
    split at answer
    · -- The first packet of the server is its greeting.
      obtain ⟨reply, alive, sends⟩ := answer
      have next : nextType (greeting .client) thread.sent.length = .alive := if_neg (by omega)
      refine ⟨[reply], sends, holds.types_succ (next ▸ alive), turns sends.connectionState ?_⟩
      rw [sends.sent, sent, List.length_append, List.length_singleton]
      omega
    · rename_i later
      refine ⟨[], answer, by simpa using holds.types, turns answer.connectionState ?_⟩
      rw [answer.sent, List.append_nil, sent]
      exact welcomed (List.ne_nil_of_length_pos (Nat.pos_of_ne_zero later))
  | server =>
    obtain ⟨_, answered⟩ := holds.turns
    obtain ⟨reply, next, sends⟩ := ThreadSimpleSocket.server_onPacketReceived sound state type
    refine ⟨[reply], sends, holds.types_succ (answered ▸ next), fun connecting => ?_, ?_⟩
    · cases (sends.connectionState.trans state).symm.trans connecting
    · rw [sends.sent, sends.received, sent, received, List.length_append, List.length_append, answered]
      rfl

end End

/-- Both ends of a conversation, with what each has got of the packets of the other. -/
def Talking (conversation : SimpleConversation) : Prop :=
  ∀ side, End side (conversation.thread side) (conversation.thread side.peer)
    (conversation.arrived side)

/-- Whatever has arrived at an end that is there has been taken out of its input buffer. -/
def Drained (conversation : SimpleConversation) : Prop :=
  ∀ side, (conversation.thread side).handler.connectionState ≠ .disconnected →
    extractPacket (conversation.thread side).inputBuffer =
      (none, (conversation.thread side).inputBuffer)

namespace Talking

variable {conversation : SimpleConversation} {side : Side}

/-- Every end is the one that changes, or its peer. -/
theorem ends (side : Side) {property : Side → Prop} (here : property side) (there : property side.peer) :
    ∀ other, property other := fun other =>
  if same : other = side then same ▸ here else Side.eq_peer_of_ne same ▸ there

/-- One end goes on, and some of the bytes on their way to it may have arrived. -/
theorem advance (holds : Talking conversation) {thread : ThreadSimpleSocket}
    {more : List PacketSimple} (emits : Emits more (conversation.thread side) thread)
    {arrived : Nat} (here : End side thread (conversation.thread side.peer) arrived) :
    Talking { conversation.update side thread with
      arrived := Function.update conversation.arrived side arrived } := by
  have there := (holds side.peer)
  rw [Side.peer_peer] at there
  refine ends side ?_ ?_
  · simpa [update] using here
  · simpa [update] using there.peerSends emits

theorem update (holds : Talking conversation) {thread : ThreadSimpleSocket}
    {more : List PacketSimple} (emits : Emits more (conversation.thread side) thread)
    (here : End side thread (conversation.thread side.peer) (conversation.arrived side)) :
    Talking (conversation.update side thread) := by
  have after := holds.advance emits here
  rw [Function.update_eq_self] at after
  exact after

/-- The server answers what it has received, so it has sent no more packets than the client. -/
theorem server_le_client (holds : Talking conversation) :
    (conversation.thread .server).sent.length ≤ (conversation.thread .client).sent.length := by
  have answered : (conversation.thread .server).sent.length =
      (conversation.thread .server).received.length := (holds .server).turns.2
  exact answered ▸ (holds .server).received.length_le

/-- Before the client is connected, neither end has sent anything. -/
theorem unsent (holds : Talking conversation)
    (connecting : (conversation.thread side).handler.connectionState = .connecting) :
    side = .client ∧ (conversation.thread .client).sent = [] ∧
      (conversation.thread .server).sent = [] := by
  cases side with
  | client =>
    have none : (conversation.thread .client).sent = [] := (holds .client).turns.1 connecting
    have fewer := holds.server_le_client
    rw [none] at fewer
    exact ⟨rfl, none, List.eq_nil_of_length_eq_zero (Nat.le_zero.mp fewer)⟩
  | server => exact absurd connecting (holds .server).turns.1

/-- A turn of the loop over the input handles a packet, or finds that there is none. -/
theorem receiveTurn (holds : Talking conversation)
    (opened : (conversation.thread side).handler.connectionState ≠ .disconnected) :
    (((conversation.thread side).receiveTurn side).1 = true ∧
      ((conversation.thread side).receiveTurn side).2.inputBuffer.length <
        (conversation.thread side).inputBuffer.length ∧
      ((conversation.thread side).receiveTurn side).2.handler.connectionState ≠ .disconnected ∧
      Talking (conversation.update side ((conversation.thread side).receiveTurn side).2)) ∨
    ((conversation.thread side).receiveTurn side = (false, conversation.thread side) ∧
      extractPacket (conversation.thread side).inputBuffer =
        (none, (conversation.thread side).inputBuffer)) := by
  have carries := (holds side).carries opened
  cases called : extractPacket (conversation.thread side).inputBuffer with
  | mk item rest =>
    cases item with
    | none =>
      obtain rfl := carries.wait called
      obtain ⟨result, error⟩ := PacketFactorySimple.extractPacket_none.mp called
      exact .inr ⟨by rw [ThreadSimpleSocket.receiveTurn, error], rfl⟩
    | some packet =>
      -- The packet was sent by the peer, so the connection is there.
      have connected : (conversation.thread side).handler.connectionState = .connected := by
        cases state : (conversation.thread side).handler.connectionState with
        | disconnected => exact absurd state opened
        | connected => rfl
        | connecting =>
          obtain ⟨rfl, _, none⟩ := holds.unsent state
          have front := (carries.extract called).returned
          rw [show Side.client.peer = .server from rfl, none] at front
          simpa using front.length_le
      obtain ⟨⟨more, emits⟩, again, inputBuffer, state, here⟩ :=
        (holds side).receive connected (holds side.peer).types called
      refine .inl ⟨again, ?_, by rw [state]; decide, holds.update emits here⟩
      rw [inputBuffer]
      exact packetExtractor.item_shrinks called

/-- The loop over the input handles packets until there is none. -/
theorem receiveLoop (holds : Talking conversation) (side : Side) (fuel : Nat)
    (opened : (conversation.thread side).handler.connectionState ≠ .disconnected)
    (enough : (conversation.thread side).inputBuffer.length < fuel) :
    Talking (conversation.update side
      (ThreadSimpleSocket.receiveLoop side fuel (conversation.thread side))) ∧
    extractPacket (ThreadSimpleSocket.receiveLoop side fuel (conversation.thread side)).inputBuffer =
      (none, (ThreadSimpleSocket.receiveLoop side fuel (conversation.thread side)).inputBuffer) := by
  -- Every turn but the last one takes bytes out of the buffer.
  induction fuel generalizing conversation with
  | zero => exact absurd enough (Nat.not_lt_zero _)
  | succ fuel ih =>
    rw [ThreadSimpleSocket.receiveLoop]
    rcases holds.receiveTurn opened with ⟨again, shorter, still, next⟩ | ⟨last, drained⟩
    · simp only [again, if_true]
      have here : (conversation.update side ((conversation.thread side).receiveTurn side).2).thread
          side = ((conversation.thread side).receiveTurn side).2 := by simp [SimpleConversation.update]
      have later := ih next (by rw [here]; exact still) (by rw [here]; omega)
      rw [here] at later
      simpa [SimpleConversation.update] using later
    · simp only [last, Bool.false_eq_true, if_false]
      exact ⟨by simpa [SimpleConversation.update] using holds, drained⟩

end Talking

/-- What holds between any two events. -/
structure Conversing (conversation : SimpleConversation) : Prop where
  talking : Talking conversation
  drained : Drained conversation

namespace Conversing

variable {conversation : SimpleConversation} {side : Side}

/-- One end goes on, with an input buffer that is drained. -/
theorem update (holds : Conversing conversation) {thread : ThreadSimpleSocket}
    (talking : Talking (conversation.update side thread))
    (drained : thread.handler.connectionState ≠ .disconnected →
      extractPacket thread.inputBuffer = (none, thread.inputBuffer)) :
    Conversing (conversation.update side thread) := by
  refine ⟨talking, Talking.ends side ?_ ?_⟩
  · simpa [SimpleConversation.update] using drained
  · simpa [SimpleConversation.update] using holds.drained side.peer

/-- One end sends at most, which leaves its input buffer as it is. -/
theorem sends (holds : Conversing conversation) {thread : ThreadSimpleSocket}
    {more : List PacketSimple} (sends : Sends more (conversation.thread side) thread)
    (here : End side thread (conversation.thread side.peer) (conversation.arrived side)) :
    Conversing (conversation.update side thread) := by
  refine holds.update (holds.talking.update sends.toEmits here) ?_
  rw [sends.connectionState, sends.inputBuffer]
  exact holds.drained side

/-- The device of an end is gone, and with it whatever was in the buffers. -/
theorem disconnected (holds : Conversing conversation) (side : Side) :
    Conversing (conversation.update side
      ((conversation.thread side).setConnectionState side .disconnected)) := by
  have here := holds.talking side
  have sound := here.sound
  by_cases already : (conversation.thread side).handler.connectionState = .disconnected
  · have unchanged : (conversation.thread side).setConnectionState side .disconnected =
        conversation.thread side := by
      simp [ThreadSimpleSocket.setConnectionState, already]
    rw [unchanged]
    exact holds.sends (.refl sound) here
  · have different : ¬ ConnectionState.disconnected =
        (conversation.thread side).handler.connectionState := fun same => already same.symm
    generalize closed : (conversation.thread side).setConnectionState side .disconnected = thread
    have state : thread.handler.connectionState = .disconnected ∧
        thread.sent = (conversation.thread side).sent ∧
        thread.received = (conversation.thread side).received ∧
        thread.handler.output = (conversation.thread side).handler.output ∧
        thread.outputBuffer = [] ∧ thread.factory = (conversation.thread side).factory := by
      subst closed
      rw [ThreadSimpleSocket.setConnectionState, if_neg different]
      simp only [ThreadHandler.setConnectionState, if_neg different]
      cases side <;> exact ⟨rfl, rfl, rfl, rfl, rfl, rfl⟩
    obtain ⟨state, sent, received, output, buffer, factory⟩ := state
    have soundAfter : thread.Sound := by
      refine ⟨sent ▸ sound.valid, ?_, fun opened => absurd state opened,
        fun opened => absurd state opened, fun _ => buffer, sent ▸ sound.numbered, ?_⟩
      · rw [output, sent]
        exact sound.front
      · rw [factory, sent]
        exact sound.next
    have emits : Emits [] (conversation.thread side) thread :=
      ⟨soundAfter, sent.trans (List.append_nil _).symm, output ▸ List.prefix_rfl⟩
    refine holds.update (holds.talking.update emits ⟨soundAfter,
      fun opened => absurd state opened, received ▸ here.received, sent ▸ here.types, ?_⟩)
      fun opened => absurd state opened
    have turns := here.turns
    cases side with
    | client =>
      refine ⟨fun connecting => ?_, fun connected => ?_, sent ▸ received ▸ turns.2.2⟩
      · cases state.symm.trans connecting
      · cases state.symm.trans connected
    | server =>
      refine ⟨fun connecting => ?_, sent ▸ received ▸ turns.2⟩
      cases state.symm.trans connecting

/-- The client is connected, and sends its greeting. -/
theorem connected (holds : Conversing conversation)
    (connecting : (conversation.thread .client).handler.connectionState = .connecting) :
    Conversing (conversation.update .client
      ((conversation.thread .client).setConnectionState .client .connected)) := by
  have here := holds.talking .client
  have opened : (conversation.thread .client).handler.connectionState ≠ .disconnected := by
    rw [connecting]; decide
  obtain ⟨_, none, silent⟩ := holds.talking.unsent connecting
  -- The server has sent nothing, so nothing is in the input buffer that is cleared.
  have carries := here.carries opened
  rw [show Side.client.peer = .server from rfl] at carries here
  have received : (conversation.thread .client).received = [] :=
    List.prefix_nil.mp (silent ▸ here.received)
  have input : (conversation.thread .client).inputBuffer = [] := by
    have kept := carries.kept
    have front := carries.front
    rw [silent] at front
    rw [List.prefix_nil.mp front, List.take_nil, received] at kept
    exact kept.symm
  obtain ⟨packet, type, emits, state, inputAfter, receivedAfter⟩ :=
    ThreadSimpleSocket.client_connected here.sound connecting none
  have sent := emits.sent
  rw [none, List.nil_append] at sent
  rw [received] at receivedAfter
  refine holds.update (holds.talking.update emits ⟨emits.sound, fun _ => ?_, ?_, ?_, ?_⟩) ?_
  · rw [receivedAfter, inputAfter, ← received, ← input]
    exact carries
  · rw [receivedAfter]
    exact List.nil_prefix
  · rw [sent, List.map_singleton, type]
    rfl
  · refine ⟨fun again => ?_, fun _ => by simp [sent], fun some => absurd receivedAfter some⟩
    cases state.symm.trans again
  · rw [inputAfter]
    exact fun _ => packetExtractor.extract_nil

/-- The timer of an end has it send at most what is due. -/
theorem idle (holds : Conversing conversation) (side : Side) :
    Conversing (conversation.update side ((conversation.thread side).onIdle side)) := by
  have here := holds.talking side
  cases side with
  | server =>
    have sends := ThreadSimpleSocket.server_onIdle here.sound
    exact holds.sends sends (here.sendsNothing sends)
  | client =>
    obtain ⟨middle, sent, outcome⟩ := ThreadSimpleSocket.client_onIdle here.sound
    have kept : Conversing (conversation.update .client middle) := by
      rcases sent with nothing | ⟨connected, alive⟩
      · exact holds.sends nothing (here.sendsNothing nothing)
      · obtain ⟨packet, type, sends⟩ := alive
        exact holds.sends sends (here.clientSends connected ⟨packet, type, sends⟩)
    rcases outcome with same | given
    · exact same ▸ kept
    · -- Giving up is a loss of the connection like any other.
      have lost := kept.disconnected .client
      rw [given]
      simpa [SimpleConversation.update] using lost

/-- An end reads some of what is on its way to it, and handles the packets that are complete. -/
theorem read (holds : Conversing conversation) (side : Side) (counts : List Nat) :
    Conversing (conversation.read side counts) := by
  unfold SimpleConversation.read
  split
  · exact holds
  · rename_i opened
    dsimp only
    generalize read : ThreadHandler.readLoop (slices counts (conversation.channel side)) = bytes
    have next : bytes <+: conversation.channel side := read ▸ readLoop_slices _ _
    have here := (holds.talking side).arrive next
    have emits : Emits [] (conversation.thread side) { conversation.thread side with
        inputBuffer := (conversation.thread side).inputBuffer ++ bytes } :=
      ⟨here.sound, (List.append_nil _).symm, List.prefix_rfl⟩
    -- The bytes arrive first, and then the loop goes through the buffer.
    have arrived := holds.talking.advance emits here
    generalize middle : ({ conversation.update side { conversation.thread side with
        inputBuffer := (conversation.thread side).inputBuffer ++ bytes } with
      arrived := Function.update conversation.arrived side
        (conversation.arrived side + bytes.length) } : SimpleConversation) = filled at arrived
    have thread : filled.thread side = { conversation.thread side with
        inputBuffer := (conversation.thread side).inputBuffer ++ bytes } := by
      simp [← middle, SimpleConversation.update]
    have still : (filled.thread side).handler.connectionState ≠ .disconnected := thread ▸ opened
    obtain ⟨looped, drained⟩ := arrived.receiveLoop side ((filled.thread side).inputBuffer.length + 1)
      still (Nat.lt_succ_self _)
    have slot : (conversation.thread side).slotOnReadyToRead side
        (slices counts (conversation.channel side)) =
        ThreadSimpleSocket.receiveLoop side ((filled.thread side).inputBuffer.length + 1)
          (filled.thread side) := by
      rw [ThreadSimpleSocket.slotOnReadyToRead, if_neg opened, read, thread]
    rw [slot]
    generalize ThreadSimpleSocket.receiveLoop side ((filled.thread side).inputBuffer.length + 1)
      (filled.thread side) = handled at looped drained
    have whole : ({ conversation.update side handled with
        arrived := Function.update conversation.arrived side
          (conversation.arrived side + bytes.length) } : SimpleConversation) =
        filled.update side handled := by
      simp [← middle, SimpleConversation.update]
    rw [whole]
    refine ⟨looped, Talking.ends side ?_ ?_⟩
    · simpa [SimpleConversation.update] using fun _ => drained
    · have peer := holds.drained side.peer
      simpa [← middle, SimpleConversation.update] using peer

theorem step (holds : Conversing conversation) (event : ConversationEvent) :
    Conversing (conversation.step event) := by
  cases event with
  | connected =>
    simp only [SimpleConversation.step]
    split
    · rename_i connecting
      exact holds.connected connecting
    · exact holds
  | idle side => exact holds.idle side
  | readyToRead side counts => exact holds.read side counts
  | readyToWrite side =>
    have here := holds.talking side
    have sends := ThreadSimpleSocket.slotOnReadyToWrite_sends here.sound
    exact holds.sends sends (here.sendsNothing sends)
  | disconnected side => exact holds.disconnected side

/-- Nothing was sent before the first event. -/
theorem start (answers : Side → Nat → Int) (clock dates : Side → Clock) :
    Conversing (.start answers clock dates) := by
  have carries := Carries.start packetFraming
  have empty := packetExtractor.extract_nil
  have sound (side : Side) : ((SimpleConversation.start answers clock dates).thread side).Sound := by
    cases side <;>
      exact ⟨by simp [SimpleConversation.start, ThreadSimpleSocket.construct], List.prefix_rfl,
        fun _ => rfl, fun _ => rfl, fun _ => rfl, rfl, rfl⟩
  refine ⟨fun side => ⟨sound side, fun _ => ?_, ?_, ?_, ?_⟩, fun side _ => ?_⟩
  · cases side <;> exact carries
  · cases side <;> exact List.prefix_rfl
  · cases side <;> rfl
  · cases side with
    | client =>
      have apart : ConnectionState.connecting ≠ .connected := by decide
      exact ⟨fun _ => rfl, fun connected => absurd connected apart, fun some => absurd rfl some⟩
    | server =>
      have apart : ConnectionState.connected ≠ .connecting := by decide
      exact ⟨apart, rfl⟩
  · cases side <;> exact empty

end Conversing

/-- Both ends are there, and no byte is in a buffer or on its way. -/
structure Quiet (conversation : SimpleConversation) : Prop where
  connected : ∀ side, (conversation.thread side).handler.connectionState = .connected
  written : ∀ side, (conversation.thread side).outputBuffer = []
  read : ∀ side, conversation.channel side = []

/-- When everything has arrived, every end has received every packet of the other. -/
theorem Conversing.received_all {conversation : SimpleConversation} (holds : Conversing conversation)
    (quiet : Quiet conversation) (side : Side) :
    (conversation.thread side).received = (conversation.thread side.peer).sent := by
  have opened (side : Side) : (conversation.thread side).handler.connectionState ≠ .disconnected := by
    rw [quiet.connected side]; decide
  have carries := (holds.talking side).carries (opened side)
  have everything := (holds.talking side.peer).sound.stream (opened side.peer)
  rw [quiet.written, List.append_nil] at everything
  have all := List.drop_eq_nil_iff.mp (quiet.read side)
  exact carries.complete everything (Nat.le_antisymm carries.within all)
    (holds.drained side (opened side))

/--
However the events of one connection are ordered, cut and interrupted, every packet that is
received was sent, in its place; the packets of an end are a greeting and signs of life, numbered
from one; and the server has answered exactly the packets it has received.
Once nothing is on its way, every packet of the client has been answered.
-/
theorem run_answered (answers : Side → Nat → Int) (clock dates : Side → Clock)
    (events : List ConversationEvent) :
    let conversation := EventMachine.run step (start answers clock dates) events
    (∀ side, (conversation.thread side).received <+: (conversation.thread side.peer).sent ∧
      (conversation.thread side).sent.map (·.header.packetType) =
        exchange (greeting side) (conversation.thread side).sent.length ∧
      (conversation.thread side).sent.map (·.header.packetId.toNat) =
        (List.range (conversation.thread side).sent.length).map
          fun index => index % maximumPacketId + 1) ∧
    (conversation.thread .server).sent.length = (conversation.thread .server).received.length ∧
    (conversation.Quiet → 2 ≤ (conversation.thread .client).received.length ∧
      ∀ side, (conversation.thread side).received = (conversation.thread side.peer).sent) := by
  intro conversation
  have preserved (before : SimpleConversation) (event : ConversationEvent)
      (holds : Conversing before) : Conversing (before.step event) := holds.step event
  have holds : Conversing conversation :=
    EventMachine.run_invariant step preserved (Conversing.start answers clock dates) events
  refine ⟨fun side => ?_, (holds.talking .server).turns.2, fun quiet => ⟨?_, holds.received_all quiet⟩⟩
  · have here := holds.talking side
    exact ⟨here.received, here.types, here.sound.numbered⟩
  · -- The client has sent its greeting, so it has received an answer, which it has answered again.
    obtain ⟨_, greeted, welcomed⟩ := (holds.talking .client).turns
    have answered : (conversation.thread .server).sent.length =
        (conversation.thread .server).received.length := (holds.talking .server).turns.2
    have forth : (conversation.thread .server).received = (conversation.thread .client).sent :=
      holds.received_all quiet .server
    have back : (conversation.thread .client).received = (conversation.thread .server).sent :=
      holds.received_all quiet .client
    have begun := List.length_pos_of_ne_nil (greeted (quiet.connected .client))
    rw [forth, ← back] at answered
    rw [answered]
    exact welcomed (List.ne_nil_of_length_pos (answered ▸ begun))

end SimpleConversation

end Threader
