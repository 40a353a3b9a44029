import Threader.Base.EventMachine
import Threader.Threads.Emission

/-! What a device gets of the packets of one connection, across any number of reconnections. -/

namespace Threader

namespace DataStream

/-- Writing with the cursor behind the end fills the gap in front of the value. -/
theorem writeRaw_gap (data value : List UInt8) (gap : Nat) :
    writeRaw ⟨some data, data.length + gap⟩ value =
      (true, atEnd (data ++ List.replicate gap 0 ++ value)) := by
  have finish : ((data.length : Int) + gap + value.length).toNat =
      data.length + gap + value.length := by omega
  have start : ((data.length : Int) + gap).toNat = data.length + gap := by omega
  have width : data.length + gap + value.length - data.length = gap + value.length := by omega
  -- The array as it is before the value is copied ends where the value will end.
  have grown : (if (data.length : Int) + gap + value.length > data.length then
        QByteArray.resize data (data.length + gap + value.length) else data) =
      data ++ (List.replicate gap 0 ++ List.replicate value.length 0) := by
    split
    · rw [QByteArray.resize, List.take_of_length_le (by omega), width, List.replicate_add]
    · obtain ⟨rfl, empty⟩ : gap = 0 ∧ value.length = 0 := by omega
      simp [empty]
  have placed : QByteArray.overwrite
      (data ++ (List.replicate gap 0 ++ List.replicate value.length 0)) (data.length + gap) value =
      data ++ List.replicate gap 0 ++ value := by
    simp only [QByteArray.overwrite, List.take_append, List.drop_append, List.length_replicate]
    rw [List.take_of_length_le (by omega), List.drop_eq_nil_of_le (by omega)]
    simp [Nat.add_assoc]
  simp only [writeRaw, finish, start, grown, placed]
  rw [setPosition_within (by omega) (by simp only [List.length_append, List.length_replicate]; omega)]
  simp [atEnd, Int.add_assoc]

end DataStream

/--
`PacketBase`: a packet of any class, with its `write` and the bytes that stand for it.

Every class writes these bytes at the cursor of the stream, wherever that is.
-/
structure PacketBase where
  write : DataStream → Bool × DataStream
  image : List UInt8
  write_gap : ∀ (data : QByteArray) (gap : Nat), write ⟨some data, data.length + gap⟩ =
    (true, .atEnd (data ++ List.replicate gap 0 ++ image))

/-- A packet of frames as a packet. -/
def DataFramesPacket.toPacketBase (packet : DataFramesPacket) : PacketBase where
  write := packet.write
  image := packet.image
  write_gap data gap := by
    -- The header closes the gap, so the data follow it at the end of the array.
    simp only [write, DataStream.writeRaw_gap, DataStream.andThen_true, DataStream.writeRaw_atEnd,
      image, List.append_assoc]

/-- `PacketAsciiLines`: lines of text. -/
structure PacketAsciiLines where
  lines : List QString
deriving DecidableEq, Repr

namespace PacketAsciiLines

/-- `PacketFactoryAsciiLines::CRLF`. -/
def CRLF : QString := [0x0D, 0x0A]

/-- The text that is written, with the separator behind every line. -/
def text (packet : PacketAsciiLines) : QString := packet.lines.flatMap (· ++ CRLF)

/-- `write(stream)`: `DataStream::writeString` writes the encoded text without a NUL. -/
def write (packet : PacketAsciiLines) (stream : DataStream) : Bool × DataStream :=
  stream.writeRaw (Windows1251.fromUnicode packet.text)

/-- Lines of text as a packet. -/
def toPacketBase (packet : PacketAsciiLines) : PacketBase where
  write := packet.write
  image := Windows1251.fromUnicode packet.text
  write_gap data gap := DataStream.writeRaw_gap data _ gap

end PacketAsciiLines

namespace ThreadHandler

/-- `sendPacket(packet)` for a packet of any class. -/
def sendPacketBase (thread : ThreadHandler) (packet : Option PacketBase) : Bool × ThreadHandler :=
  match packet with
  | none => (false, thread)
  | some packet =>
    if !thread.handler.isConnected then (false, thread)
    else
      let result := packet.write thread.outputStream
      let thread := { thread with outputStream := result.2 }.slotOnReadyToWrite
      let tickCount := thread.getTickCount
      (result.1, { tickCount.2 with lastPacketSent := tickCount.1 })

/-- A packet of frames is sent as before. -/
theorem sendPacketBase_toPacketBase (thread : ThreadHandler) (packet : DataFramesPacket) :
    thread.sendPacketBase (some packet.toPacketBase) = thread.sendPacket (some packet) := rfl

/-- `HandlerBase::setConnectionState(value)` with its slot, which only a change of state reaches. -/
def setConnectionState (thread : ThreadHandler) (value : ConnectionState) : ThreadHandler :=
  if value = thread.handler.connectionState then thread
  else
    { thread with handler := { thread.handler with connectionState := value } }
      |>.slotOnConnectionStateChanged value

/-- A packet is only taken while the device is connected. -/
theorem sendPacketBase_unconnected {thread : ThreadHandler}
    (apart : thread.handler.connectionState ≠ .connected) (packet : Option PacketBase) :
    thread.sendPacketBase packet = (false, thread) := by
  cases packet with
  | none => rfl
  | some packet => simp [sendPacketBase, HandlerBase.isConnected, apart]

/-- While connected, a packet is taken and its bytes are written behind the gap in front of it. -/
theorem sendPacketBase_connected {thread : ThreadHandler}
    (connected : thread.handler.connectionState = .connected) {gap : Nat}
    (stream : thread.outputStream = ⟨some thread.outputBuffer, thread.outputBuffer.length + gap⟩)
    (packet : PacketBase) :
    (thread.sendPacketBase (some packet)).1 = true ∧
      Writes (List.replicate gap 0 ++ packet.image) thread
        (thread.sendPacketBase (some packet)).2 := by
  have allowed : (!thread.handler.isConnected) = false := by
    simp [HandlerBase.isConnected, connected]
  have appended : packet.write thread.outputStream =
      (true, .atEnd (thread.outputBuffer ++ List.replicate gap 0 ++ packet.image)) := by
    rw [stream, packet.write_gap]
  -- The buffer with the packet is then offered to the device.
  have offered := slotOnReadyToWrite_writes { thread with
    outputStream := .atEnd (thread.outputBuffer ++ List.replicate gap 0 ++ packet.image) } rfl
  simp only [sendPacketBase, allowed, Bool.false_eq_true, if_false, appended]
  refine ⟨trivial, offered.connectionState, offered.inputBuffer, offered.output, offered.atEnd, ?_⟩
  apply offered.stream.trans
  simp [outputBuffer, DataStream.atEnd]

end ThreadHandler

/-- A thread, with what was sent since its device last became connected. -/
structure OutputSession where
  thread : ThreadHandler
  -- The number of bytes the device had accepted by then.
  start : Nat
  -- The packets for which `sendPacket` has returned true since.
  sent : List PacketBase

/-- What happens to the output of a thread. -/
inductive OutputEvent
  | connectionState (value : ConnectionState)
  | sendPacket (packet : Option PacketBase)
  | readyToWrite

namespace OutputSession

/-- The reaction of a thread, and what its record becomes. -/
def step (session : OutputSession) : OutputEvent → OutputSession
  | .connectionState value =>
    let thread := session.thread.setConnectionState value
    if value = .connected ∧ session.thread.handler.connectionState ≠ .connected then
      ⟨thread, thread.handler.output.length, []⟩
    else { session with thread := thread }
  | .sendPacket packet =>
    let result := session.thread.sendPacketBase packet
    { session with
      thread := result.2
      sent := if result.1 then session.sent ++ packet.toList else session.sent }
  | .readyToWrite => { session with thread := session.thread.slotOnReadyToWrite }

/-- A thread as it is constructed, before it has sent anything. -/
def ofThread (thread : ThreadHandler) : OutputSession := ⟨thread, thread.handler.output.length, []⟩

/-- The bytes the device has accepted since it became connected. -/
def accepted (session : OutputSession) : List UInt8 :=
  session.thread.handler.output.drop session.start

/-- The device has got nothing but the beginning of the packets of this connection. -/
def Intact (session : OutputSession) : Prop :=
  session.accepted <+: session.sent.flatMap PacketBase.image

/-- A packet is written only with the cursor of the stream at the end of the output buffer. -/
def WritesAtEnd (session : OutputSession) : OutputEvent → Prop
  | .sendPacket (some _) => session.thread.handler.connectionState = .connected →
      session.thread.outputStream.position = session.thread.outputBuffer.length
  | _ => True

/-- What the device and the output buffer hold, and where the cursor of the stream is. -/
structure Tracked (session : OutputSession) : Prop where
  data : session.thread.outputStream.data = some session.thread.outputBuffer
  start : session.start ≤ session.thread.handler.output.length
  pending : session.accepted ++ session.thread.outputBuffer <+:
    session.sent.flatMap PacketBase.image
  connected : session.thread.handler.connectionState = .connected →
    session.accepted ++ session.thread.outputBuffer = session.sent.flatMap PacketBase.image
  -- A buffer that was cleared may leave the cursor behind its end.
  cursor : session.thread.outputBuffer = [] ∨
    session.thread.outputStream.position = session.thread.outputBuffer.length

namespace Tracked

variable {session : OutputSession}

/-- A thread that has just been constructed is tracked. -/
theorem ofThread {thread : ThreadHandler} (fresh : thread.outputStream = .ofData []) :
    (OutputSession.ofThread thread).Tracked := by
  -- Nothing has been accepted since, and nothing waits in the buffer.
  have empty : thread.outputBuffer = [] := by
    rw [ThreadHandler.outputBuffer, fresh]
    rfl
  refine ⟨?_, Nat.le_refl _, ?_, ?_, .inl empty⟩
  · simp [OutputSession.ofThread, ThreadHandler.outputBuffer, fresh, DataStream.ofData]
  · simp [OutputSession.ofThread, accepted, empty]
  · simp [OutputSession.ofThread, accepted, empty]

/-- What the device has got is the beginning of what it and the buffer hold together. -/
theorem intact (tracked : session.Tracked) : session.Intact :=
  (List.prefix_append ..).trans tracked.pending

/-- The array of the stream is the buffer, so the position is all that is left to know. -/
theorem outputStream (tracked : session.Tracked) {position : Int}
    (same : session.thread.outputStream.position = position) :
    session.thread.outputStream = ⟨some session.thread.outputBuffer, position⟩ := by
  rw [← tracked.data, ← same]

/-- A thread whose state, device and buffer were changed by one write is tracked again. -/
theorem of_writes (tracked : session.Tracked) {bytes : List UInt8} {thread : ThreadHandler}
    (sent : List PacketBase) (writes : ThreadHandler.Writes bytes session.thread thread)
    (image : bytes = sent.flatMap PacketBase.image)
    (connected : bytes ≠ [] → session.thread.handler.connectionState = .connected) :
    Tracked { session with thread := thread, sent := session.sent ++ sent } := by
  have start := Nat.le_trans tracked.start writes.output.length_le
  -- Dropping what the device had before leaves the stream from the start of the connection on.
  have stream : thread.handler.output.drop session.start ++ thread.outputBuffer =
      session.accepted ++ session.thread.outputBuffer ++ bytes := by
    have whole := congrArg (List.drop session.start) writes.stream
    rw [List.append_assoc, List.drop_append_of_le_length start,
      List.drop_append_of_le_length tracked.start] at whole
    rw [whole, accepted, List.append_assoc]
  have equal (same : session.thread.handler.connectionState = .connected) :
      session.accepted ++ session.thread.outputBuffer ++ bytes =
        (session.sent ++ sent).flatMap PacketBase.image := by
    rw [tracked.connected same, List.flatMap_append, image]
  refine ⟨?_, start, ?_, ?_, .inr ?_⟩
  · exact congrArg DataStream.data writes.atEnd
  · show thread.handler.output.drop session.start ++ thread.outputBuffer <+: _
    rw [stream]
    by_cases nothing : bytes = []
    · rw [nothing, List.append_nil, List.flatMap_append]
      exact tracked.pending.trans (List.prefix_append ..)
    · exact (equal (connected nothing)).symm ▸ List.prefix_rfl
  · intro same
    exact stream.trans (equal (writes.connectionState ▸ same))
  · exact congrArg DataStream.position writes.atEnd

/-- A change of state clears the buffer, and a new connection starts a new record. -/
theorem connectionState (tracked : session.Tracked) (value : ConnectionState) :
    (session.step (.connectionState value)).Tracked := by
  by_cases same : value = session.thread.handler.connectionState
  · -- Without a change nothing is signalled.
    have unchanged : session.step (.connectionState value) = session := by
      simp [step, ThreadHandler.setConnectionState, same]
    rwa [unchanged]
  · -- The clock and the state of the device are all that changes besides the buffers.
    obtain ⟨output, data, state⟩ : (session.thread.setConnectionState value).handler.output =
          session.thread.handler.output ∧
        (session.thread.setConnectionState value).outputStream.data = some [] ∧
        (session.thread.setConnectionState value).handler.connectionState = value := by
      rw [ThreadHandler.setConnectionState, if_neg same]
      cases value <;> exact ⟨rfl, rfl, rfl⟩
    have buffer : (session.thread.setConnectionState value).outputBuffer = [] := by
      rw [ThreadHandler.outputBuffer, data]
      rfl
    by_cases connects : value = .connected
    · have other : session.thread.handler.connectionState ≠ .connected :=
        fun before => same (connects.trans before.symm)
      simp only [step, if_pos (And.intro connects other)]
      refine ⟨data.trans (congrArg some buffer.symm), Nat.le_refl _, ?_, ?_, .inl buffer⟩
      · simp [accepted, buffer]
      · simp [accepted, buffer]
    · simp only [step, connects, false_and, if_false]
      refine ⟨data.trans (congrArg some buffer.symm), output ▸ tracked.start, ?_, ?_, .inl buffer⟩
      · -- What the buffer held is lost, and the device has got what it had.
        simp only [accepted, buffer, output, List.append_nil]
        exact tracked.intact
      · intro now
        exact absurd (state.symm.trans now) connects

/-- Offering the buffer to the device sends nothing new. -/
theorem readyToWrite (tracked : session.Tracked) : (session.step .readyToWrite).Tracked := by
  -- With an empty buffer nothing happens, whatever the position of the cursor is.
  rcases tracked.cursor with empty | position
  · have unchanged : session.thread.slotOnReadyToWrite = session.thread := by
      simp [ThreadHandler.slotOnReadyToWrite, empty]
    rw [step, unchanged]
    exact tracked
  · have atEnd : session.thread.outputStream = .atEnd session.thread.outputBuffer :=
      tracked.outputStream position
    have offered := tracked.of_writes []
      (ThreadHandler.slotOnReadyToWrite_writes session.thread atEnd) rfl (fun some => absurd rfl some)
    simpa [step] using offered

/-- A packet written at the end of the buffer is the next one of the connection. -/
theorem sendPacket (tracked : session.Tracked) (packet : Option PacketBase)
    (writesAtEnd : session.WritesAtEnd (.sendPacket packet)) :
    (session.step (.sendPacket packet)).Tracked := by
  -- Without a connection nothing is written at all.
  by_cases connected : session.thread.handler.connectionState = .connected
  · cases packet with
    | none => exact tracked
    | some packet =>
      have stream : session.thread.outputStream =
          ⟨some session.thread.outputBuffer, session.thread.outputBuffer.length + (0 : Nat)⟩ :=
        tracked.outputStream (by simpa using writesAtEnd connected)
      obtain ⟨taken, writes⟩ :=
        ThreadHandler.sendPacketBase_connected connected stream packet
      have sent := tracked.of_writes [packet] writes (by simp) fun _ => connected
      simpa [step, taken] using sent
  · rw [step, ThreadHandler.sendPacketBase_unconnected connected]
    exact tracked

end Tracked

/--
In a run in which packets are written at the end of the output buffer, nothing but the packets of
the present connection ever reaches the device.
-/
theorem run_intact {thread : ThreadHandler} (fresh : thread.outputStream = .ofData [])
    {events : List OutputEvent}
    (writesAtEnd : EventMachine.Along step WritesAtEnd (.ofThread thread) events) :
    ∀ past, past <+: events → (EventMachine.run step (.ofThread thread) past).Intact := by
  intro past beginning
  -- The record of the bytes is kept by every kind of event.
  have preserved (session : OutputSession) (event : OutputEvent)
      (writesAtEnd : session.WritesAtEnd event) (tracked : session.Tracked) :
      (session.step event).Tracked := by
    cases event with
    | connectionState value => exact tracked.connectionState value
    | sendPacket packet => exact tracked.sendPacket packet writesAtEnd
    | readyToWrite => exact tracked.readyToWrite
  exact (EventMachine.run_invariant_of_along step preserved (.ofThread fresh)
    (writesAtEnd.of_prefix step beginning)).intact

/-- A thread whose device takes one byte at first and everything later. -/
def slowStart : ThreadHandler where
  handler := ⟨.disconnected, fun writes => if writes = 0 then 1 else 100, 0, []⟩
  inputBuffer := []
  outputStream := .ofData []
  lastPacketSent := 0
  lastPacketReceived := 0
  clock := ⟨fun _ => 0, 0⟩

/-- A packet of one line. -/
def line : Option PacketBase := some (PacketAsciiLines.toPacketBase ⟨[.ofAscii "A"]⟩)

/-- A line is sent in two parts, and another one over the next connection. -/
theorem run_intact_slowStart :
    let events : List OutputEvent := [.connectionState .connected, .sendPacket line, .readyToWrite,
      .connectionState .disconnected, .connectionState .connected, .sendPacket line]
    (EventMachine.run step (.ofThread slowStart) events).Intact := by
  intro events
  -- The first line is sent completely before the connection ends.
  have writesAtEnd : EventMachine.Along step WritesAtEnd (.ofThread slowStart) events := by
    refine ⟨trivial, fun _ => ?_, trivial, trivial, trivial, fun _ => ?_, trivial⟩
    · rfl
    · rfl
  exact run_intact rfl writesAtEnd events List.prefix_rfl

/-- A connection that ends with two bytes unsent leaves a gap in front of the next line. -/
theorem run_intact_fails :
    ¬ ∀ (thread : ThreadHandler) (events : List OutputEvent), thread.outputStream = .ofData [] →
      (EventMachine.run step (.ofThread thread) events).Intact := by
  intro always
  have intact := always slowStart [.connectionState .connected, .sendPacket line,
    .connectionState .disconnected, .connectionState .connected, .sendPacket line] rfl
  -- The device has got two zeros and the line, where the line alone was sent.
  have accepted : ¬ [0, 0, 0x41, 0x0D, 0x0A] <+: ([0x41, 0x0D, 0x0A] : List UInt8) := by decide
  exact accepted intact

end OutputSession

end Threader
