import Threader.Demo.SimpleConversation

/-! When the signs of life are frequent enough for neither end to give the other one up. -/

namespace Threader

open PacketFactorySimple (packetExtractor packetFraming extractPacket)
open StreamExtractor.Framing (Carries)

/-- Offering the output buffer changes neither the times nor the state of the device. -/
theorem ThreadHandler.slotOnReadyToWrite_keeps (thread : ThreadHandler) :
    thread.slotOnReadyToWrite.clock = thread.clock ∧
    thread.slotOnReadyToWrite.handler.connectionState = thread.handler.connectionState ∧
    thread.handler.output <+: thread.slotOnReadyToWrite.handler.output ∧
    thread.slotOnReadyToWrite.lastPacketSent = thread.lastPacketSent ∧
    thread.slotOnReadyToWrite.lastPacketReceived = thread.lastPacketReceived := by
  unfold slotOnReadyToWrite
  split
  · exact ⟨rfl, rfl, List.prefix_rfl, rfl, rfl⟩
  · dsimp only
    split <;> exact ⟨rfl, rfl, List.prefix_append .., rfl, rfl⟩

namespace ThreadSimpleSocket

/-- A thread goes on at some time, which it notes for what it sends and what it receives. -/
structure Goes (now : Int) (before after : ThreadSimpleSocket) : Prop where
  ticks : ∀ reading, after.clock.ticks reading = now
  connectionState : after.handler.connectionState = before.handler.connectionState
  terminated : after.terminated = before.terminated
  output : before.handler.output <+: after.handler.output
  sent : before.sent <+: after.sent
  lastPacketSent : before.sent.length < after.sent.length ∧ after.lastPacketSent = now ∨
    after.sent.length = before.sent.length ∧ after.lastPacketSent = before.lastPacketSent
  lastPacketReceived :
    before.received.length < after.received.length ∧ after.lastPacketReceived = now ∨
    after.received.length = before.received.length ∧
      after.lastPacketReceived = before.lastPacketReceived

namespace Goes

variable {now : Int} {thread : ThreadSimpleSocket}

/-- Where it started from matters only as far as it is compared with. -/
theorem of_start {middle after : ThreadSimpleSocket} (went : Goes now middle after)
    (handler : middle.handler = thread.handler) (terminated : middle.terminated = thread.terminated)
    (sent : middle.sent = thread.sent) (received : middle.received = thread.received)
    (lastPacketSent : middle.lastPacketSent = thread.lastPacketSent)
    (lastPacketReceived : middle.lastPacketReceived = thread.lastPacketReceived) :
    Goes now thread after := by
  refine ⟨went.ticks, handler ▸ went.connectionState, terminated ▸ went.terminated,
    handler ▸ went.output, sent ▸ went.sent, ?_, ?_⟩
  · exact sent ▸ lastPacketSent ▸ went.lastPacketSent
  · exact received ▸ lastPacketReceived ▸ went.lastPacketReceived

theorem refl (ticks : ∀ reading, thread.clock.ticks reading = now) : Goes now thread thread :=
  ⟨ticks, rfl, rfl, List.prefix_rfl, List.prefix_rfl, .inr ⟨rfl, rfl⟩, .inr ⟨rfl, rfl⟩⟩

theorem trans {first second third : ThreadSimpleSocket} (front : Goes now first second)
    (back : Goes now second third) : Goes now first third := by
  refine ⟨back.ticks, back.connectionState.trans front.connectionState,
    back.terminated.trans front.terminated, front.output.trans back.output,
    front.sent.trans back.sent, ?_, ?_⟩
  -- A packet sent in either part is a packet sent now.
  · have front := front.lastPacketSent
    have back := back.lastPacketSent
    omega
  · have front := front.lastPacketReceived
    have back := back.lastPacketReceived
    omega

/-- A reading of the clock changes nothing else. -/
theorem ticked (ticks : ∀ reading, thread.clock.ticks reading = now) :
    Goes now thread thread.ticked :=
  ⟨ticks, rfl, rfl, List.prefix_rfl, List.prefix_rfl, .inr ⟨rfl, rfl⟩, .inr ⟨rfl, rfl⟩⟩

/-- Offering the output buffer notes no time. -/
theorem slotOnReadyToWrite (ticks : ∀ reading, thread.clock.ticks reading = now) :
    Goes now thread thread.slotOnReadyToWrite := by
  -- Writing moves bytes from the buffer to the device, and nothing that is compared.
  obtain ⟨clock, state, output, sent, received⟩ :=
    ThreadHandler.slotOnReadyToWrite_keeps thread.toThreadHandler
  exact ⟨fun reading => (congrArg (·.ticks reading) clock).trans (ticks reading), state, rfl,
    output, List.prefix_rfl, .inr ⟨rfl, sent⟩, .inr ⟨rfl, received⟩⟩

/-- A packet that is sent is noted. -/
theorem sendPacket (thread : ThreadSimpleSocket)
    (ticks : ∀ reading, thread.clock.ticks reading = now) (packet : PacketSimple) :
    Goes now thread (thread.sendPacket packet) := by
  unfold ThreadSimpleSocket.sendPacket
  split
  · exact refl ticks
  -- A thread that is not connected sends nothing.
  · rename_i connected
    simp only [ThreadHandler.sendPacketBase, connected]
    obtain ⟨clock, state, output, _, received⟩ := ThreadHandler.slotOnReadyToWrite_keeps
      { thread.toThreadHandler with
        outputStream := (packet.toPacketBase.write thread.outputStream).2 }
    have noted (reading : Nat) := (congrArg (·.ticks reading) clock).trans (ticks reading)
    exact ⟨noted, state, rfl, output, List.prefix_append .., .inl ⟨by simp, noted _⟩,
      .inr ⟨rfl, received⟩⟩

/-- So is the packet that keeps the connection alive. -/
theorem sendPacketAlive (ticks : ∀ reading, thread.clock.ticks reading = now) :
    Goes now thread thread.sendPacketAlive :=
  -- Reading the clocks and building the packet concern nothing that is compared.
  (sendPacket { thread with
    toThreadHandler := thread.getTickCount.2
    dates := { thread.dates with readings := thread.dates.readings + 1 }
    factory := (thread.factory.buildPacketAlive
      (UInt64.ofInt (thread.dates.ticks thread.dates.readings))
      (UInt64.ofInt thread.getTickCount.1)).2 } ticks _).of_start rfl rfl rfl rfl rfl rfl

/-- So are the greetings. -/
theorem sendPacketHello (ticks : ∀ reading, thread.clock.ticks reading = now)
    (local8Bit : QByteArray) (length : Nat) :
    Goes now thread (thread.sendPacketHello local8Bit length) :=
  (sendPacket { thread with
    factory := (thread.factory.buildPacketHello local8Bit length).2 } ticks _).of_start
      rfl rfl rfl rfl rfl rfl

theorem sendPacketWelcome (ticks : ∀ reading, thread.clock.ticks reading = now)
    (local8Bit : QByteArray) (length : Nat) :
    Goes now thread (thread.sendPacketWelcome local8Bit length) :=
  (sendPacket { thread with
    factory := (thread.factory.buildPacketWelcome local8Bit length).2 } ticks _).of_start
      rfl rfl rfl rfl rfl rfl

/-- The greeting of a client that becomes connected is noted, like the time of the connection. -/
theorem client_connected (ticks : ∀ reading, thread.clock.ticks reading = now)
    (connecting : thread.handler.connectionState = .connecting) :
    (thread.setConnectionState .client .connected).lastPacketSent = now ∧
      (thread.setConnectionState .client .connected).lastPacketReceived = now := by
  have different : ¬ ConnectionState.connected = thread.handler.connectionState := fun same => by
    cases same.trans connecting
  -- The slot notes both times before the hook sends the greeting.
  obtain ⟨opening, slotted⟩ : ∃ opening : ThreadSimpleSocket, opening = { thread with
      toThreadHandler := thread.toThreadHandler.setConnectionState .connected } := ⟨_, rfl⟩
  have greeted : thread.setConnectionState .client .connected =
      ThreadSimpleClientSocket.onConnected opening := by
    rw [slotted, ThreadSimpleSocket.setConnectionState, if_neg different]
    rfl
  rw [ThreadHandler.setConnectionState, if_neg different] at slotted
  have opened : opening.lastPacketSent = now ∧ opening.lastPacketReceived = now := by
    rw [slotted]
    exact ⟨ticks _, ticks _⟩
  have went : Goes now opening (ThreadSimpleClientSocket.onConnected opening) :=
    sendPacketHello (by rw [slotted]; exact ticks) _ _
  have sent := went.lastPacketSent
  have received := went.lastPacketReceived
  rw [greeted]
  omega

/-- Whatever an end does about a packet, it notes the packets it sends. -/
theorem onPacketReceived (ticks : ∀ reading, thread.clock.ticks reading = now)
    (packet : PacketSimple) (side : Side) : Goes now thread (thread.onPacketReceived packet side) := by
  cases side with
  | client =>
    simp only [ThreadSimpleSocket.onPacketReceived, ThreadSimpleClientSocket.onPacketReceived]
    split
    · exact sendPacketAlive ticks
    · exact refl ticks
  | server =>
    simp only [ThreadSimpleSocket.onPacketReceived, ThreadSimpleServerSocket.onPacketReceived]
    split
    · exact sendPacketWelcome ticks _ _
    · exact sendPacketAlive ticks
    · exact refl ticks

/-- A packet that is received is noted, with what it is answered with. -/
theorem receiveTurn (ticks : ∀ reading, thread.clock.ticks reading = now) (side : Side) :
    Goes now thread (thread.receiveTurn side).2 := by
  unfold ThreadSimpleSocket.receiveTurn
  split
  · exact ⟨ticks, rfl, rfl, List.prefix_rfl, List.prefix_rfl, .inr ⟨rfl, rfl⟩, .inr ⟨rfl, rfl⟩⟩
  -- The packet is noted before the hook is called, which may answer it.
  · rename_i packet buffer _
    have taken : Goes now thread { thread.packetExtracted buffer with
        received := thread.received ++ [packet] } :=
      ⟨ticks, rfl, rfl, List.prefix_rfl, List.prefix_rfl, .inr ⟨rfl, rfl⟩,
        .inl ⟨by simp, ticks _⟩⟩
    exact taken.trans (onPacketReceived taken.ticks packet side)

theorem receiveLoop (thread : ThreadSimpleSocket) (side : Side) (fuel : Nat)
    (ticks : ∀ reading, thread.clock.ticks reading = now) :
    Goes now thread (ThreadSimpleSocket.receiveLoop side fuel thread) := by
  induction fuel generalizing thread with
  | zero => exact refl ticks
  | succ fuel ih =>
    -- The turns are put together, however many there are.
    have turn := receiveTurn ticks side
    rw [ThreadSimpleSocket.receiveLoop]
    split
    · exact turn.trans (ih _ turn.ticks)
    · exact turn

theorem slotOnReadyToRead (ticks : ∀ reading, thread.clock.ticks reading = now) (side : Side)
    (answers : List QByteArray) : Goes now thread (thread.slotOnReadyToRead side answers) := by
  unfold ThreadSimpleSocket.slotOnReadyToRead
  split
  · exact refl ticks
  · exact (receiveLoop { thread with
      inputBuffer := thread.inputBuffer ++ ThreadHandler.readLoop answers } side _ ticks).of_start
        rfl rfl rfl rfl rfl rfl

/-- A server that has heard of its client recently keeps waiting for it. -/
theorem server_onIdle (ticks : ∀ reading, thread.clock.ticks reading = now)
    (recent : now < thread.lastPacketReceived + 30000) : Goes now thread (thread.onIdle .server) := by
  simp only [ThreadSimpleSocket.onIdle, ThreadSimpleServerSocket.onIdle]
  split
  · exact refl ticks
  -- The server gives up from the last moment on, and the client behind it.
  · have late : ¬ thread.lastPacketReceived + 30000 ≤ thread.getTickCount.1 := by
      show ¬ _ ≤ thread.clock.ticks _
      rw [ticks]
      omega
    rw [if_neg (by exact late)]
    exact ticked ticks

/-- A client that has heard of its server recently sends a sign of life if the last one is old. -/
theorem client_onIdle (sound : thread.Sound) (ticks : ∀ reading, thread.clock.ticks reading = now)
    (connected : thread.handler.connectionState = .connected)
    (recent : now ≤ thread.lastPacketReceived + 30000) :
    Goes now thread (thread.onIdle .client) ∧
      now < (thread.onIdle .client).lastPacketSent + 10000 := by
  have different : ¬ thread.handler.connectionState ≠ .connected := not_not.mpr connected
  have tick : thread.getTickCount.1 = now := ticks _
  -- In the middle the packet has been sent, if it was due.
  obtain ⟨middle, found⟩ : ∃ middle, middle = if thread.lastPacketSent + 10000 ≤
      thread.getTickCount.1 then thread.ticked.sendPacketAlive else thread.ticked := ⟨_, rfl⟩
  have went : Goes now thread middle ∧ now < middle.lastPacketSent + 10000 := by
    rw [tick] at found
    split at found
    · -- The packet is sent now, since the client is connected.
      obtain ⟨packet, _, sends⟩ :=
        sendPacketAlive_sends (ticked_sends sound).sound connected
      have alive : Goes now thread.ticked thread.ticked.sendPacketAlive := sendPacketAlive ticks
      have grown := congrArg List.length sends.sent
      rw [List.length_append, List.length_singleton] at grown
      have noted := alive.lastPacketSent
      exact found ▸ ⟨(ticked ticks).trans alive, by omega⟩
    · rename_i recently
      refine found ▸ ⟨ticked ticks, ?_⟩
      show now < thread.lastPacketSent + 10000
      omega
  -- Sending may have taken no time, so that the server is still recent.
  have later : ¬ middle.lastPacketReceived + 30000 < middle.getTickCount.1 := by
    have noted := went.1.lastPacketReceived
    have tick : middle.getTickCount.1 = now := went.1.ticks _
    omega
  have waits : thread.onIdle .client = middle.ticked := by
    simp only [ThreadSimpleSocket.onIdle, ThreadSimpleClientSocket.onIdle, if_neg different]
    rw [← ThreadSimpleSocket.ticked, ← found, if_neg later]
    rfl
  rw [waits]
  exact ⟨went.1.trans (ticked went.1.ticks), went.2⟩

end Goes

end ThreadSimpleSocket

/--
One direction of a conversation, in which something was always sent less than some age ago.

A number of packets had been written when last nothing was left to write, the latest of them at a
time that was recent then; once they are received, a later time has been noted.
-/
structure Relays (age period : Int) (sender receiver : ThreadSimpleSocket)
    (written read now : Int) : Prop where
  sentAt : sender.lastPacketSent ≤ now
  receivedAt : receiver.lastPacketReceived ≤ now
  upToDate : receiver.received.length = sender.sent.length →
    sender.lastPacketSent ≤ receiver.lastPacketReceived
  wrote : ∃ count time, count ≤ sender.sent.length ∧ time ≤ now ∧ written < time + age ∧
    packetFraming.encodeAll (sender.sent.take count) <+: sender.handler.output ∧
    (count ≤ receiver.received.length → time ≤ receiver.lastPacketReceived)
  heard : read < receiver.lastPacketReceived + age + period

namespace Relays

variable {age period written read now later : Int} {sender receiver after : ThreadSimpleSocket}

/-- The sender goes on, and the packets it sends are not received yet. -/
theorem send (relays : Relays age period sender receiver written read now) (order : now ≤ later)
    (went : ThreadSimpleSocket.Goes later sender after)
    (received : receiver.received.length ≤ sender.sent.length) :
    Relays age period after receiver written read later := by
  -- What has been written stays the same front of what is sent.
  obtain ⟨sentAt, receivedAt, upToDate, ⟨count, time, bounded, past, recent, whole, noted⟩, heard⟩ :=
    relays
  have sent := went.lastPacketSent
  refine ⟨by omega, by omega, fun _ => by omega, ⟨count, time, ?_, by omega, recent, ?_, noted⟩, heard⟩
  · exact Nat.le_trans bounded went.sent.length_le
  · obtain ⟨more, grown⟩ := went.sent
    rw [← grown, List.take_append_of_le_length bounded]
    exact whole.trans went.output

/-- The receiver goes on, and what it receives it notes now, later than anything was sent. -/
theorem receive (relays : Relays age period sender receiver written read now) (order : now ≤ later)
    (went : ThreadSimpleSocket.Goes later receiver after) :
    Relays age period sender after written read later := by
  obtain ⟨sentAt, receivedAt, upToDate, ⟨count, time, bounded, past, recent, whole, noted⟩, heard⟩ :=
    relays
  have received := went.lastPacketReceived
  refine ⟨by omega, by omega, fun all => ?_, ⟨count, time, bounded, by omega, recent, whole, ?_⟩, ?_⟩
  -- Either something was received now, or nothing has changed.
  · rcases received with ⟨_, now⟩ | ⟨same, kept⟩
    · omega
    · exact kept ▸ upToDate (same ▸ all)
  · intro enough
    rcases received with ⟨_, now⟩ | ⟨same, kept⟩
    · omega
    · exact kept ▸ noted (same ▸ enough)
  · omega

/-- Nothing is left to write, and the last packet was sent recently. -/
theorem written_all (relays : Relays age period sender receiver written read now)
    (sound : sender.Sound) (connected : sender.handler.connectionState = .connected)
    (empty : sender.outputBuffer = [])
    (received : receiver.received.length ≤ sender.sent.length)
    (recent : now < sender.lastPacketSent + age) :
    Relays age period sender receiver now read now where
  sentAt := relays.sentAt
  receivedAt := relays.receivedAt
  upToDate := relays.upToDate
  wrote := by
    -- Everything that was sent has been written, the last packet with it.
    have stream := sound.stream (by rw [connected]; decide)
    rw [empty, List.append_nil] at stream
    refine ⟨sender.sent.length, sender.lastPacketSent, Nat.le_refl _, relays.sentAt, recent, ?_,
      fun all => relays.upToDate (Nat.le_antisymm received all)⟩
    exact ⟨[], by rw [List.append_nil, List.take_length, stream]⟩
  heard := relays.heard

/-- Nothing is left to read, so whatever was written in time has been noted. -/
theorem read_all (relays : Relays age period sender receiver written read now) {arrived : Nat}
    (carries : Carries packetFraming sender.sent sender.handler.output arrived receiver.received
      receiver.inputBuffer)
    (drained : extractPacket receiver.inputBuffer = (none, receiver.inputBuffer))
    (empty : sender.handler.output.drop arrived = []) (punctual : now ≤ written + period) :
    Relays age period sender receiver written now now where
  sentAt := relays.sentAt
  receivedAt := relays.receivedAt
  upToDate := relays.upToDate
  wrote := relays.wrote
  heard := by
    -- All that was written has arrived, and with it the packet that was recent then.
    obtain ⟨count, time, bounded, past, recent, whole, noted⟩ := relays.wrote
    have all := Nat.le_antisymm carries.within (List.drop_eq_nil_iff.mp empty)
    have later := noted (carries.caught_up all drained bounded whole)
    omega

/-- Whether or not there is something left to write or to read, the last times are kept. -/
theorem track (relays : Relays age period sender receiver written read now) {arrived : Nat}
    (sound : sender.Sound) (connected : sender.handler.connectionState = .connected)
    (carries : Carries packetFraming sender.sent sender.handler.output arrived receiver.received
      receiver.inputBuffer)
    (drained : extractPacket receiver.inputBuffer = (none, receiver.inputBuffer))
    (recent : now < sender.lastPacketSent + age) (positive : 0 ≤ period)
    (punctual : now ≤ written + period) :
    Relays age period sender receiver (if sender.outputBuffer = [] then now else written)
      (if sender.handler.output.drop arrived = [] then now else read) now := by
  -- First the time of the last write is brought up to date, and then that of the last read.
  have tracked : Relays age period sender receiver
      (if sender.outputBuffer = [] then now else written) read now := by
    split
    · rename_i empty
      exact relays.written_all sound connected empty carries.returned.length_le recent
    · exact relays
  have later : now ≤ (if sender.outputBuffer = [] then now else written) + period := by
    split <;> omega
  generalize (if sender.outputBuffer = [] then now else written) = last at tracked later ⊢
  split
  · rename_i empty
    exact tracked.read_all carries drained empty later
  · exact tracked

end Relays

/-- A conversation in time, with the last times at which things were as they should be. -/
structure TimedConversation where
  conversation : SimpleConversation
  now : Int
  -- When the timer of the client was called.
  idled : Int
  -- When the output buffer of an end was empty, and when nothing was on its way to it.
  written : Side → Int
  read : Side → Int

/-- A thread whose clock shows a given time. -/
def ThreadSimpleSocket.atTime (thread : ThreadSimpleSocket) (now : Int) : ThreadSimpleSocket :=
  { thread with clock := ⟨fun _ => now, 0⟩ }

namespace TimedConversation

/-- The client becomes connected at some time, and the thread of the server begins then too. -/
def start (answers : Side → Nat → Int) (dates : Side → Clock) (now : Int) : TimedConversation where
  conversation := (SimpleConversation.start answers (fun _ => ⟨fun _ => now, 0⟩) dates).step .connected
  now := now
  idled := now
  written _ := now
  read _ := now

/-- Something happens at some time. -/
def step (timed : TimedConversation) (event : Int × ConversationEvent) : TimedConversation :=
  let conversation := SimpleConversation.step
    { timed.conversation with thread := fun side => (timed.conversation.thread side).atTime event.1 }
    event.2
  { conversation := conversation
    now := event.1
    idled := if event.2 = .idle .client then event.1 else timed.idled
    written := fun side =>
      if (conversation.thread side).outputBuffer = [] then event.1 else timed.written side
    read := fun side => if conversation.channel side = [] then event.1 else timed.read side }

/--
An event that is no loss of the connection comes in time.

Less than a period ago the timer of the client was called, nothing was left to write, and nothing
was left to read.
-/
def Punctual (period : Int) (timed : TimedConversation) (event : Int × ConversationEvent) : Prop :=
  timed.now ≤ event.1 ∧ event.1 ≤ timed.idled + period ∧
  (∀ side, event.1 ≤ timed.written side + period ∧ event.1 ≤ timed.read side + period) ∧
  ∀ side, event.2 ≠ .disconnected side

/-- What holds of a conversation in which every event comes in time. -/
structure Alive (period : Int) (timed : TimedConversation) : Prop where
  conversing : SimpleConversation.Conversing timed.conversation
  connected : ∀ side, (timed.conversation.thread side).handler.connectionState = .connected
  terminated : (timed.conversation.thread .server).terminated = false
  idled : timed.idled < (timed.conversation.thread .client).lastPacketSent + 10000
  answered : (timed.conversation.thread .server).lastPacketSent =
    (timed.conversation.thread .server).lastPacketReceived
  forth : Relays (10000 + period) period (timed.conversation.thread .client)
    (timed.conversation.thread .server) (timed.written .client) (timed.read .server) timed.now
  back : Relays (10000 + 3 * period) period (timed.conversation.thread .server)
    (timed.conversation.thread .client) (timed.written .server) (timed.read .client) timed.now

/-- The threads before an event, with the clocks at its time. -/
def atTime (timed : TimedConversation) (now : Int) : SimpleConversation :=
  { timed.conversation with thread := fun side => (timed.conversation.thread side).atTime now }

/-- What the clock shows has nothing to do with what was said. -/
theorem conversing_atTime {timed : TimedConversation}
    (holds : SimpleConversation.Conversing timed.conversation) (now : Int) :
    SimpleConversation.Conversing (timed.atTime now) where
  talking side := by
    have here := holds.talking side
    refine ⟨here.sound.of_same rfl rfl rfl rfl, here.carries, here.received, here.types, ?_⟩
    have turns := here.turns
    cases side <;> exact turns
  drained := holds.drained

/-- While one end goes on, the other one does nothing. -/
theorem update_goes {conversation : SimpleConversation} {now : Int}
    (ticks : ∀ side reading, (conversation.thread side).clock.ticks reading = now) {acting : Side}
    {after : ThreadSimpleSocket}
    (went : ThreadSimpleSocket.Goes now (conversation.thread acting) after) (side : Side) :
    ThreadSimpleSocket.Goes now (conversation.thread side)
      ((conversation.update acting after).thread side) := by
  by_cases same : side = acting
  · subst same
    simpa [SimpleConversation.update] using went
  · simpa [SimpleConversation.update, same] using .refl (ticks side)

namespace Alive

variable {period : Int} {timed : TimedConversation} {event : Int × ConversationEvent}

/-- The timer of a client that has heard of its server recently has it send what is due. -/
theorem client_onIdle (alive : Alive period timed) (short : period ≤ 4000) {now : Int}
    {happened : ConversationEvent} (punctual : Punctual period timed (now, happened)) :
    ThreadSimpleSocket.Goes now ((timed.atTime now).thread .client)
      (((timed.atTime now).thread .client).onIdle .client) ∧
    now < (((timed.atTime now).thread .client).onIdle .client).lastPacketSent + 10000 := by
  obtain ⟨_, _, inTime, _⟩ := punctual
  have heard := alive.back.heard
  have read := (inTime .client).2
  exact ThreadSimpleSocket.Goes.client_onIdle ((conversing_atTime alive.conversing now).talking .client).sound
    (fun _ => rfl) (alive.connected .client) (by
      show now ≤ (timed.conversation.thread .client).lastPacketReceived + 30000
      dsimp only at read
      omega)

/-- While both ends have heard of each other recently, an event lets both of them go on. -/
theorem goes (alive : Alive period timed) (short : period ≤ 4000)
    (punctual : Punctual period timed event) (side : Side) :
    ThreadSimpleSocket.Goes event.1 (timed.conversation.thread side)
      ((timed.step event).conversation.thread side) := by
  obtain ⟨now, event⟩ := event
  obtain ⟨order, _, inTime, kept⟩ := punctual
  have ticks (side : Side) (reading : Nat) :
      ((timed.atTime now).thread side).clock.ticks reading = now := rfl
  have before := conversing_atTime alive.conversing now
  -- Setting the clock is no part of what is compared.
  suffices ThreadSimpleSocket.Goes now ((timed.atTime now).thread side)
      (((timed.atTime now).step event).thread side) from this.of_start rfl rfl rfl rfl rfl rfl
  cases event with
  | connected =>
    have late : ¬ ((timed.atTime now).thread .client).handler.connectionState = .connecting := by
      show ¬ (timed.conversation.thread .client).handler.connectionState = .connecting
      rw [alive.connected .client]
      decide
    rw [SimpleConversation.step, if_neg late]
    exact .refl (ticks side)
  | idle acting =>
    refine update_goes ticks ?_ side
    cases acting with
    | server =>
      have heard := alive.forth.heard
      have read := (inTime .server).2
      exact .server_onIdle (ticks .server) (by
        show now < (timed.conversation.thread .server).lastPacketReceived + 30000
        omega)
    | client => exact (alive.client_onIdle short ⟨order, ‹_›, inTime, kept⟩).1
  | readyToRead acting counts =>
    show ThreadSimpleSocket.Goes now _ (((timed.atTime now).read acting counts).thread side)
    unfold SimpleConversation.read
    split
    · exact .refl (ticks side)
    · exact update_goes ticks (.slotOnReadyToRead (ticks acting) acting _) side
  | readyToWrite acting => exact update_goes ticks (.slotOnReadyToWrite (ticks acting)) side
  | disconnected acting => exact absurd rfl (kept acting)

/-- An event that comes in time leaves everything as it should be. -/
theorem step (alive : Alive period timed) (long : 0 ≤ period) (short : period ≤ 4000)
    (punctual : Punctual period timed event) : Alive period (timed.step event) := by
  have goes := alive.goes short punctual
  have conversing : SimpleConversation.Conversing (timed.step event).conversation :=
    (conversing_atTime alive.conversing event.1).step event.2
  have connected (side : Side) :
      ((timed.step event).conversation.thread side).handler.connectionState = .connected :=
    (goes side).connectionState.trans (alive.connected side)
  have opened (side : Side) :
      ((timed.step event).conversation.thread side).handler.connectionState ≠ .disconnected := by
    rw [connected]
    decide
  have idled : (timed.step event).idled <
      ((timed.step event).conversation.thread .client).lastPacketSent + 10000 := by
    obtain ⟨now, event⟩ := event
    -- Only the timer of the client looks at how old its last packet is.
    by_cases timer : event = .idle .client
    · subst timer
      have alive := (alive.client_onIdle short punctual).2
      simpa [TimedConversation.step, SimpleConversation.step, SimpleConversation.update, atTime]
        using alive
    · have kept : (timed.step (now, event)).idled = timed.idled := if_neg timer
      have noted := (goes .client).lastPacketSent
      have before := alive.idled
      have past := alive.forth.sentAt
      have order := punctual.1
      dsimp only at noted order
      omega
  obtain ⟨order, timer, inTime, _⟩ := punctual
  -- The server sends a packet for each one that it receives, and at the same time.
  have answered : ((timed.step event).conversation.thread .server).lastPacketSent =
      ((timed.step event).conversation.thread .server).lastPacketReceived := by
    have before : (timed.conversation.thread .server).sent.length =
        (timed.conversation.thread .server).received.length :=
      (alive.conversing.talking .server).turns.2
    have after : ((timed.step event).conversation.thread .server).sent.length =
        ((timed.step event).conversation.thread .server).received.length :=
      (conversing.talking .server).turns.2
    have sent := (goes .server).lastPacketSent
    have received := (goes .server).lastPacketReceived
    have same := alive.answered
    omega
  have received (side : Side) : (timed.conversation.thread side).received.length ≤
      (timed.conversation.thread side.peer).sent.length :=
    (alive.conversing.talking side).received.length_le
  refine ⟨conversing, connected, (goes .server).terminated.trans alive.terminated, idled, answered,
    ?_, ?_⟩
  -- From the client to the server a packet is never older than ten seconds.
  · have relays := (alive.forth.send order (goes .client) (received .server)).receive
      (Int.le_refl _) (goes .server)
    refine relays.track (conversing.talking .client).sound (connected .client)
      ((conversing.talking .server).carries (opened .server)) (conversing.drained .server (opened .server))
      ?_ long (inTime .client).1
    have noted := (goes .client).lastPacketSent
    have before := alive.idled
    omega
  -- In the other direction it is older by what the way there has taken.
  · have relays := (alive.back.send order (goes .server) (received .client)).receive
      (Int.le_refl _) (goes .client)
    refine relays.track (conversing.talking .server).sound (connected .server)
      ((conversing.talking .client).carries (opened .client)) (conversing.drained .client (opened .client))
      ?_ long (inTime .server).1
    have noted := (goes .server).lastPacketSent
    have heard := alive.forth.heard
    have read := (inTime .server).2
    have same := alive.answered
    omega

/-- It starts as it should be. -/
theorem start (answers : Side → Nat → Int) (dates : Side → Clock) (now : Int)
    (long : 0 ≤ period) : Alive period (.start answers dates now) := by
  obtain ⟨idle, begun⟩ : ∃ idle : SimpleConversation, idle =
      .start answers (fun _ => ⟨fun _ => now, 0⟩) dates := ⟨_, rfl⟩
  have connecting : (idle.thread .client).handler.connectionState = .connecting := by
    rw [begun]
    rfl
  have conversing : SimpleConversation.Conversing idle := begun ▸ .start ..
  have times (side : Side) : (idle.thread side).lastPacketSent = now ∧
      (idle.thread side).lastPacketReceived = now := by
    rw [begun]
    cases side <;> exact ⟨rfl, rfl⟩
  have ticks (reading : Nat) : (idle.thread .client).clock.ticks reading = now := by
    rw [begun]
    rfl
  obtain ⟨sent, received⟩ := ThreadSimpleSocket.Goes.client_connected ticks connecting
  have greeted := ThreadSimpleSocket.client_connected (conversing.talking .client).sound connecting
    (conversing.talking.unsent connecting).2.1
  have after : (TimedConversation.start answers dates now).conversation = idle.update .client
      ((idle.thread .client).setConnectionState .client .connected) := by
    show SimpleConversation.step (.start answers (fun _ => ⟨fun _ => now, 0⟩) dates) .connected = _
    rw [← begun, SimpleConversation.step, if_pos connecting]
  have server : (TimedConversation.start answers dates now).conversation.thread .server =
      idle.thread .server := by
    rw [after]
    rfl
  have client : (TimedConversation.start answers dates now).conversation.thread .client =
      (idle.thread .client).setConnectionState .client .connected := by
    rw [after]
    rfl
  obtain ⟨_, _, _, state, _, _⟩ := greeted
  -- Nothing has to be written or read yet, so any packet so far counts as sent just now.
  have relays {age : Int} {sender receiver : ThreadSimpleSocket} (positive : 0 < age)
      (sent : sender.lastPacketSent = now) (received : receiver.lastPacketReceived = now) :
      Relays age period sender receiver now now now :=
    ⟨by omega, by omega, fun _ => by omega,
      ⟨0, now, Nat.zero_le _, Int.le_refl _, by omega, List.nil_prefix, fun _ => by omega⟩, by omega⟩
  refine ⟨?_, ?_, ?_, ?_, ?_, ?_, ?_⟩
  · rw [after]
    exact conversing.connected connecting
  · refine SimpleConversation.Talking.ends .client ?_ ?_
    · rw [client]
      exact state
    · rw [show Side.client.peer = .server from rfl, server, begun]
      rfl
  · rw [server, begun]
    rfl
  · show now < _
    rw [client, sent]
    omega
  · rw [server, (times .server).1, (times .server).2]
  · rw [client, server]
    exact relays (by omega) sent (times .server).2
  · rw [client, server]
    exact relays (by omega) (times .server).1 received

end Alive

/--
If no byte waits for longer than four seconds in an output buffer or on its way, and the timer of
the client is called as often, then neither end ever gives the other one up.
-/
theorem run_keeps_alive (answers : Side → Nat → Int) (dates : Side → Clock) (now : Int)
    {period : Int} (long : 0 ≤ period) (short : period ≤ 4000)
    {events : List (Int × ConversationEvent)}
    (punctual : EventMachine.Along step (Punctual period) (.start answers dates now) events) :
    let timed := EventMachine.run step (start answers dates now) events
    (∀ side, (timed.conversation.thread side).handler.connectionState = .connected) ∧
      (timed.conversation.thread .server).terminated = false := by
  -- The invariant of a step is the invariant of the run.
  have alive := EventMachine.run_invariant_of_along step
    (fun _ _ punctual alive => Alive.step alive long short punctual)
    (Alive.start answers dates now long) punctual
  exact ⟨alive.connected, alive.terminated⟩

/-- The server reads the greeting after half a second, and the timer is called in time. -/
theorem run_keeps_alive_second :
    let timed := EventMachine.run step (start (fun _ _ => 100) (fun _ => ⟨fun _ => 0, 0⟩) 0)
      [(500, .readyToRead .server [100]), (1000, .idle .client)]
    (∀ side, (timed.conversation.thread side).handler.connectionState = .connected) ∧
      (timed.conversation.thread .server).terminated = false := by
  refine run_keeps_alive _ _ 0 (show 0 ≤ 1000 by decide) (by decide) ⟨?_, ?_, trivial⟩
  · have early : (500 : Int) ≤ 0 + 1000 := by decide
    exact ⟨by decide, by decide, fun side => ⟨early, early⟩, fun side => by simp⟩
  · refine ⟨by decide, by decide, fun side => ⟨?_, ?_⟩, fun side => by simp⟩
    -- At the end of the period it does not matter what the server has left.
    · show (1000 : Int) ≤ (if _ then 500 else 0) + 1000
      split <;> decide
    · show (1000 : Int) ≤ (if _ then 500 else 0) + 1000
      split <;> decide

end TimedConversation

end Threader
