import Threader.Frames.StreamBounds
import Threader.Threads.HandlerBase

/-! `HandlerUdpSocket`: a device that takes datagrams, and a thread that writes to it. -/

namespace Threader

/-- `MAXIMUM_DATA_SIZE`. -/
def MAXIMUM_DATA_SIZE : Nat := 65507

/-- `HandlerUdpSocket`: a handler, with everything that was given to `sendto` so far. -/
structure HandlerUdpSocket where
  connectionState : ConnectionState
  descriptor : Descriptor
  -- What `sendto` answers behind a number of earlier calls is left to the system.
  sendto : Nat → QByteArray → Int
  datagrams : List QByteArray
  opened : connectionState = .connected → descriptor ≠ INVALID_DESCRIPTOR

namespace HandlerUdpSocket

/-- The constructor, without a descriptor. -/
def construct (sendto : Nat → QByteArray → Int) : HandlerUdpSocket where
  connectionState := .disconnected
  descriptor := INVALID_DESCRIPTOR
  sendto := sendto
  datagrams := []
  opened connected := by cases connected

/-- `isConnected()`. -/
def isConnected (handler : HandlerUdpSocket) : Bool := handler.connectionState = .connected

/-- `setDescriptor(value)`, with the state that goes with it. -/
def setDescriptor (handler : HandlerUdpSocket) (value : Descriptor) : HandlerUdpSocket :=
  if invalid : value = INVALID_DESCRIPTOR then
    { handler with
      descriptor := value
      connectionState := .disconnected
      opened := by
        intro connected
        cases connected }
  else if handler.connectionState ≠ .connecting then
    { handler with descriptor := value, connectionState := .connected, opened := fun _ => invalid }
  else { handler with descriptor := value, opened := fun _ => invalid }

/-- `open()`: whether `createUdpSocket` returned a descriptor, and the handler afterwards. -/
def «open» (handler : HandlerUdpSocket) (descriptor : Descriptor) (errorCode : Int) :
    Bool × HandlerUdpSocket :=
  (decide (descriptor ≠ INVALID_DESCRIPTOR),
    if errorCode ≠ 0 ∧ errorCode ≠ EINPROGRESS then handler else handler.setDescriptor descriptor)

/-- `close()`. -/
def close (handler : HandlerUdpSocket) : HandlerUdpSocket :=
  if INVALID_DESCRIPTOR = handler.descriptor then handler
  else handler.setDescriptor INVALID_DESCRIPTOR

/-- `write(data, count)`: too many bytes for a datagram are refused at once. -/
def write (handler : HandlerUdpSocket) (data : QByteArray) : Int × HandlerUdpSocket :=
  if handler.descriptor = INVALID_DESCRIPTOR ∨ data.length > MAXIMUM_DATA_SIZE then (-1, handler)
  else
    (handler.sendto handler.datagrams.length data,
      { handler with datagrams := handler.datagrams ++ [data] })

/-- The system takes every datagram that is small enough. -/
def Accepts (handler : HandlerUdpSocket) : Prop :=
  ∀ calls (data : QByteArray), data.length ≤ MAXIMUM_DATA_SIZE → handler.sendto calls data = data.length

/-- Writing changes neither the socket nor the system. -/
theorem write_snd (handler : HandlerUdpSocket) (data : QByteArray) :
    (handler.write data).2.connectionState = handler.connectionState ∧
      (handler.write data).2.sendto = handler.sendto := by
  unfold write
  split
  · exact ⟨rfl, rfl⟩
  · exact ⟨rfl, rfl⟩

/-- A connected socket takes an array exactly if it fits a datagram. -/
theorem write_fst {handler : HandlerUdpSocket} (connected : handler.isConnected = true)
    (accepts : handler.Accepts) (data : QByteArray) :
    (handler.write data).1 = if data.length ≤ MAXIMUM_DATA_SIZE then (data.length : Int) else -1 := by
  have descriptor := handler.opened (of_decide_eq_true connected)
  unfold write
  by_cases fits : data.length ≤ MAXIMUM_DATA_SIZE
  · rw [if_neg (not_or.mpr ⟨descriptor, Nat.not_lt.mpr fits⟩), if_pos fits]
    exact accepts _ data fits
  · rw [if_pos (.inr (Nat.lt_of_not_le fits)), if_neg fits]

end HandlerUdpSocket

/-- `ThreadHandler` over a `HandlerUdpSocket`, as far as its output is concerned. -/
structure UdpThreadHandler where
  handler : HandlerUdpSocket
  -- The stream writes to the output buffer, which is its array.
  outputStream : DataStream

namespace UdpThreadHandler

/-- `_outputBuffer`. -/
def outputBuffer (thread : UdpThreadHandler) : QByteArray := thread.outputStream.data.getD []

/-- `slotOnReadyToWrite(sender)`: offers the output buffer to the socket, all of it at once. -/
def slotOnReadyToWrite (thread : UdpThreadHandler) : UdpThreadHandler :=
  if thread.outputBuffer.length = 0 then thread
  else
    let result := thread.handler.write thread.outputBuffer
    let thread := { thread with handler := result.2 }
    if result.1 > 0 then
      let shortened : DataStream :=
        { thread.outputStream with data := some (thread.outputBuffer.drop result.1.toNat) }
      { thread with outputStream := shortened.setPosition (shortened.position - result.1) }
    else thread

/-- The output goes as it does over any handler that answers as the socket does. -/
theorem slotOnReadyToWrite_outputStream {thread : UdpThreadHandler} {general : ThreadHandler}
    (stream : general.outputStream = thread.outputStream)
    (answer : general.handler.answers general.handler.writes =
      (thread.handler.write thread.outputBuffer).1)
    (range : -1 ≤ (thread.handler.write thread.outputBuffer).1 ∧
      (thread.handler.write thread.outputBuffer).1 ≤ thread.outputBuffer.length) :
    general.slotOnReadyToWrite.outputStream = thread.slotOnReadyToWrite.outputStream := by
  have buffer : general.outputBuffer = thread.outputBuffer := congrArg (·.data.getD []) stream
  have written : (general.handler.write thread.outputBuffer).1 =
      (thread.handler.write thread.outputBuffer).1 := by
    simp only [HandlerBase.write, answer]
    omega
  -- Both look at the same bytes, and at the same answer.
  unfold ThreadHandler.slotOnReadyToWrite slotOnReadyToWrite
  simp only [buffer, written]
  by_cases empty : thread.outputBuffer.length = 0
  · rw [if_pos empty, if_pos empty]
    exact stream
  · rw [if_neg empty, if_neg empty]
    by_cases some : (thread.handler.write thread.outputBuffer).1 > 0
    · rw [if_pos some, if_pos some]
      simp only [stream, ThreadHandler.outputBuffer, outputBuffer]
    · rw [if_neg some, if_neg some]
      exact stream

/-- What happens to the output: something is written to its stream, or the socket is ready. -/
inductive Event
  | write (value : List UInt8)
  | readyToWrite

/-- The thread after an event. -/
def step (thread : UdpThreadHandler) : Event → UdpThreadHandler
  | .write value => { thread with outputStream := (thread.outputStream.writeRaw value).2 }
  | .readyToWrite => thread.slotOnReadyToWrite

/-- A connected thread over a system that takes every datagram that is small enough. -/
structure Sending (thread : UdpThreadHandler) : Prop where
  connected : thread.handler.isConnected = true
  accepts : thread.handler.Accepts

/-- Neither writing nor sending closes the socket. -/
theorem Sending.step {thread : UdpThreadHandler} (sending : thread.Sending) (event : Event) :
    (thread.step event).Sending := by
  cases event with
  | write value => exact ⟨sending.connected, sending.accepts⟩
  | readyToWrite =>
    obtain ⟨state, system⟩ := thread.handler.write_snd thread.outputBuffer
    -- The handler is the same, but for what was sent.
    have kept : (thread.slotOnReadyToWrite.handler.connectionState = thread.handler.connectionState) ∧
        thread.slotOnReadyToWrite.handler.sendto = thread.handler.sendto := by
      unfold slotOnReadyToWrite
      split
      · exact ⟨rfl, rfl⟩
      · dsimp only
        split
        · exact ⟨state, system⟩
        · exact ⟨state, system⟩
    refine ⟨?_, ?_⟩
    · show decide (thread.slotOnReadyToWrite.handler.connectionState = .connected) = true
      rw [kept.1]
      exact sending.connected
    · intro calls data fits
      show thread.slotOnReadyToWrite.handler.sendto calls data = data.length
      rw [kept.2]
      exact sending.accepts calls data fits

/-- A buffer that fits a datagram is sent as a whole. -/
theorem Sending.outputBuffer_of_fits {thread : UdpThreadHandler} (sending : thread.Sending)
    (fits : thread.outputBuffer.length ≤ MAXIMUM_DATA_SIZE) :
    thread.slotOnReadyToWrite.outputBuffer = [] := by
  have written := HandlerUdpSocket.write_fst sending.connected sending.accepts thread.outputBuffer
  rw [if_pos fits] at written
  -- All bytes are written, if there are any.
  unfold slotOnReadyToWrite
  split
  · rename_i empty
    exact List.length_eq_zero_iff.mp empty
  · rename_i some
    dsimp only
    rw [if_pos (by omega), outputBuffer, DataStream.setPosition_data, written]
    exact List.drop_eq_nil_of_le (Nat.le_refl thread.outputBuffer.length)

/-- A buffer that does not fit a datagram stays as it is. -/
theorem Sending.slotOnReadyToWrite_of_not_fits {thread : UdpThreadHandler}
    (sending : thread.Sending) (large : MAXIMUM_DATA_SIZE < thread.outputBuffer.length) :
    thread.slotOnReadyToWrite = thread := by
  have written := HandlerUdpSocket.write_fst sending.connected sending.accepts thread.outputBuffer
  have refused : (thread.handler.write thread.outputBuffer).2 = thread.handler := by
    rw [HandlerUdpSocket.write, if_pos (.inr large)]
  rw [if_neg (Nat.not_le.mpr large)] at written
  rw [slotOnReadyToWrite, if_neg (by omega)]
  dsimp only
  rw [if_neg (by omega), refused]

/-- Wherever a run of writes and flushes leads, the thread goes on sending. -/
theorem Sending.run {thread : UdpThreadHandler} (sending : thread.Sending) (events : List Event) :
    (EventMachine.run UdpThreadHandler.step thread events).Sending := by
  refine EventMachine.run_invariant UdpThreadHandler.step ?_ sending events
  intro current event holds
  exact holds.step event

/--
After any run of writes and flushes, the socket takes something from a buffer with some content
exactly if that content fits a single datagram.
-/
theorem readyToWrite_shortens_iff {thread : UdpThreadHandler} (sending : thread.Sending)
    (events : List Event)
    (some : (EventMachine.run step thread events).outputBuffer ≠ []) :
    let filled := EventMachine.run step thread events
    filled.slotOnReadyToWrite.outputBuffer.length < filled.outputBuffer.length ↔
      filled.outputBuffer.length ≤ MAXIMUM_DATA_SIZE := by
  intro filled
  have sends : filled.Sending := sending.run events
  have positive : 0 < filled.outputBuffer.length := List.length_pos_iff.mpr some
  constructor
  · intro shorter
    -- A buffer that is too large is not touched.
    by_contra large
    rw [sends.slotOnReadyToWrite_of_not_fits (Nat.lt_of_not_le large)] at shorter
    omega
  · intro fits
    rw [sends.outputBuffer_of_fits fits]
    exact positive

/-- A socket that takes every datagram, and a thread over it that has nothing to send. -/
def idle : UdpThreadHandler :=
  ⟨(HandlerUdpSocket.construct fun _ data => data.length).setDescriptor 3, .ofData []⟩

theorem idle_sending : idle.Sending where
  connected := rfl
  accepts _ _ _ := rfl

/-- Three bytes leave with the next flush. -/
theorem readyToWrite_shortens_three :
    let filled := EventMachine.run step idle [.write [1], .readyToWrite, .write [1, 2, 3]]
    filled.slotOnReadyToWrite.outputBuffer.length < filled.outputBuffer.length ↔
      filled.outputBuffer.length ≤ MAXIMUM_DATA_SIZE :=
  readyToWrite_shortens_iff idle_sending [.write [1], .readyToWrite, .write [1, 2, 3]] (by decide)

/-- Without a flush between them, writes behind the last byte are appended to each other. -/
theorem run_writes (handler : HandlerUdpSocket) (data : List UInt8) (values : List (List UInt8)) :
    EventMachine.run step ⟨handler, .atEnd data⟩ (values.map .write) =
      ⟨handler, .atEnd (data ++ values.flatten)⟩ := by
  induction values generalizing data with
  | nil => rw [List.flatten_nil, List.append_nil, List.map_nil, EventMachine.run_nil]
  | cons value values ih =>
    rw [List.map_cons, EventMachine.run_cons, step, DataStream.writeRaw_atEnd, ih, List.flatten_cons,
      List.append_assoc]

/-- Two writes that fit a datagram each are never sent when there is no flush between them. -/
theorem readyToWrite_keeps_two_writes :
    let half : List UInt8 := List.replicate 40000 0
    let filled := EventMachine.run step idle ([half, half].map .write)
    half.length ≤ MAXIMUM_DATA_SIZE ∧ filled.Sending ∧ filled.outputBuffer ≠ [] ∧
      ¬ filled.slotOnReadyToWrite.outputBuffer.length < filled.outputBuffer.length := by
  intro half filled
  have sends : filled.Sending := idle_sending.run ([half, half].map .write)
  have single : half.length = 40000 := List.length_replicate
  -- Each write appends to what is in the buffer.
  have buffer : filled = ⟨idle.handler, .atEnd ([] ++ [half, half].flatten)⟩ :=
    run_writes idle.handler [] [half, half]
  have large : MAXIMUM_DATA_SIZE < filled.outputBuffer.length := by
    rw [buffer, outputBuffer, DataStream.atEnd, Option.getD_some, List.nil_append]
    simp only [List.flatten_cons, List.flatten_nil, List.length_append, single]
    decide
  refine ⟨by rw [single]; decide, sends, ?_, ?_⟩
  · rw [← List.length_pos_iff]
    exact Nat.lt_of_le_of_lt (Nat.zero_le _) large
  · rw [sends.slotOnReadyToWrite_of_not_fits large]
    exact Nat.lt_irrefl _

/-- More bytes are waiting than fit a datagram, and no further datagram was given to the system. -/
structure Wedged (datagrams : List QByteArray) (thread : UdpThreadHandler) : Prop where
  sending : thread.Sending
  inBounds : thread.outputStream.InBounds
  large : MAXIMUM_DATA_SIZE < thread.outputBuffer.length
  datagrams : thread.handler.datagrams = datagrams

/-- The bytes of the buffer are those of the stream. -/
theorem outputBuffer_length {thread : UdpThreadHandler} (inBounds : thread.outputStream.InBounds) :
    (thread.outputBuffer.length : Int) = thread.outputStream.size := by
  obtain ⟨data, same, _⟩ := inBounds
  rw [DataStream.size_of_data same, outputBuffer, same]
  rfl

theorem Wedged.step {datagrams : List QByteArray} {thread : UdpThreadHandler}
    (wedged : thread.Wedged datagrams) (event : Event) : (thread.step event).Wedged datagrams := by
  cases event with
  | write value =>
    -- A write never shortens the buffer.
    obtain ⟨inBounds, longer⟩ := wedged.inBounds.writeRaw value
    refine ⟨wedged.sending.step (.write value), inBounds, ?_, wedged.datagrams⟩
    have before := outputBuffer_length wedged.inBounds
    have after := @outputBuffer_length (thread.step (.write value)) inBounds
    have large := wedged.large
    show MAXIMUM_DATA_SIZE < (thread.step (.write value)).outputBuffer.length
    have longer : thread.outputStream.size ≤ (thread.step (.write value)).outputStream.size := longer
    omega
  | readyToWrite =>
    show thread.slotOnReadyToWrite.Wedged datagrams
    rw [wedged.sending.slotOnReadyToWrite_of_not_fits wedged.large]
    exact wedged

/-- Once more bytes are waiting than fit a datagram, nothing is ever sent again. -/
theorem wedged_forever {thread : UdpThreadHandler} (sending : thread.Sending)
    (inBounds : thread.outputStream.InBounds)
    (large : MAXIMUM_DATA_SIZE < thread.outputBuffer.length) (events : List Event) :
    (EventMachine.run UdpThreadHandler.step thread events).Wedged thread.handler.datagrams := by
  refine EventMachine.run_invariant UdpThreadHandler.step ?_ ⟨sending, inBounds, large, rfl⟩ events
  intro current event holds
  exact holds.step event

end UdpThreadHandler

end Threader
