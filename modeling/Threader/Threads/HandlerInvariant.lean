import Threader.Threads.OutputStream

/-! What holds of the device and the buffers of a thread, whatever the thread does with them. -/

namespace Threader

/-- What may happen to a thread: its events, reading from the device, and calls of a subclass. -/
inductive ThreadActivity
  | event (event : ThreadEvent)
  | readyToRead (answers : List QByteArray)
  | sendPacket (packet : Option PacketBase)
  | clearBuffers

/-- A property of the device and the buffers that every operation on them preserves. -/
structure HandlerInvariant (holds : ThreadHandler → Prop) : Prop where
  getTickCount : ∀ {thread}, holds thread → holds thread.getTickCount.2
  clearBuffers : ∀ {thread}, holds thread → holds thread.clearBuffers
  slotOnReadyToWrite : ∀ {thread}, holds thread → holds thread.slotOnReadyToWrite
  sendPacketBase : ∀ {thread} packet, holds thread → holds (thread.sendPacketBase packet).2
  connectionState : ∀ {thread : ThreadHandler} connectionState, holds thread →
    holds { thread with handler := { thread.handler with connectionState } }
  inputBuffer : ∀ {thread : ThreadHandler} inputBuffer, holds thread →
    holds { thread with inputBuffer }
  times : ∀ {thread : ThreadHandler} lastPacketSent lastPacketReceived, holds thread →
    holds { thread with lastPacketSent, lastPacketReceived }

namespace ThreadDataFrames

/-- What a thread becomes, unless it is caught in a loop that never ends. -/
def act [QtText] (thread : ThreadDataFrames) (activity : ThreadActivity) : ThreadDataFrames :=
  if thread.hung then thread
  else
    match activity with
    | .event event => thread.react event
    | .readyToRead answers => thread.slotOnReadyToRead answers
    | .sendPacket packet =>
      { thread with toThreadHandler := (thread.toThreadHandler.sendPacketBase packet).2 }
    | .clearBuffers => { thread with toThreadHandler := thread.toThreadHandler.clearBuffers }

end ThreadDataFrames

namespace HandlerInvariant

variable {holds : ThreadHandler → Prop} {thread : ThreadDataFrames}

/-- A change of state clears the buffers, and a new connection looks at the clock. -/
theorem slotOnConnectionStateChanged (invariant : HandlerInvariant holds) {handler : ThreadHandler}
    (before : holds handler) (value : ConnectionState) :
    holds (handler.slotOnConnectionStateChanged value) := by
  -- The buffers are cleared whatever the new state is.
  have cleared := invariant.clearBuffers before
  cases value with
  | disconnected => exact cleared
  | connecting => exact cleared
  | connected => exact invariant.times _ _ (invariant.getTickCount cleared)

/-- A packet behind a pointer is sent as any packet, and a null pointer is not. -/
theorem sendPacket (invariant : HandlerInvariant holds) (before : holds thread.toThreadHandler)
    (packet : PacketPtr) : holds (thread.sendPacket packet).toThreadHandler := by
  unfold ThreadDataFrames.sendPacket
  split
  · exact before
  · rename_i sent _
    exact invariant.sendPacketBase (some sent.toPacketBase) before

theorem processQueue (invariant : HandlerInvariant holds) (before : holds thread.toThreadHandler) :
    holds thread.processQueue.toThreadHandler := by
  -- The queue is idle or busy, and sends one packet at most.
  cases queue : thread.queuePackets with
  | none => rwa [ThreadDataFrames.processQueue_unqueued queue]
  | some packets =>
    have clocked := invariant.getTickCount before
    cases current : thread.currentPacket with
    | some packet =>
      rw [ThreadDataFrames.processQueue_busy queue current]
      split
      · exact invariant.sendPacket clocked packet
      · exact clocked
    | none =>
      rw [ThreadDataFrames.processQueue_idle queue current]
      split
      · exact clocked
      · exact invariant.sendPacket clocked _

theorem applyTicket (invariant : HandlerInvariant holds) (before : holds thread.toThreadHandler)
    (packetId : UInt32) : holds (thread.applyTicket packetId).2.toThreadHandler := by
  -- A packet that has been confirmed makes room for the next one.
  cases queue : thread.queuePackets with
  | none =>
    simp only [ThreadDataFrames.applyTicket, queue]
    exact before
  | some packets =>
    rw [ThreadDataFrames.applyTicket_queued queue]
    split
    · exact invariant.processQueue before
    · exact before

theorem resetQueue (before : holds thread.toThreadHandler) :
    holds thread.resetQueue.toThreadHandler := by
  -- The device has no part in a reset.
  unfold ThreadDataFrames.resetQueue
  dsimp only
  split <;> exact before

theorem sendTicket (invariant : HandlerInvariant holds) (before : holds thread.toThreadHandler)
    (packetId : UInt32) : holds (thread.sendTicket packetId).toThreadHandler := by
  -- The packet of a ticket is built without the device, and sent with it.
  unfold ThreadDataFrames.sendTicket
  dsimp only
  split
  · exact before
  · apply invariant.sendPacket
    exact before

theorem sendBuilt (invariant : HandlerInvariant holds) (before : holds thread.toThreadHandler)
    (needsTicket : Bool) (packet : DataFramesPacket) :
    holds (thread.sendBuilt needsTicket packet).toThreadHandler := by
  -- A packet joins the queue, or is sent at once.
  unfold ThreadDataFrames.sendBuilt
  dsimp only
  split
  · apply invariant.processQueue
    exact before
  · apply invariant.sendPacket
    exact before

theorem setConnectionState (invariant : HandlerInvariant holds)
    (before : holds thread.toThreadHandler) (value : ConnectionState) :
    holds (thread.setConnectionState value).toThreadHandler := by
  -- The same state again is no change.
  unfold ThreadDataFrames.setConnectionState
  split
  · exact before
  · exact invariant.slotOnConnectionStateChanged (invariant.connectionState value before) value

variable [QtText]

theorem sendFrame (invariant : HandlerInvariant holds) (before : holds thread.toThreadHandler)
    (frame : Option DataFrame) : holds (thread.sendFrame frame).2.toThreadHandler := by
  -- A packet is built without the device.
  unfold ThreadDataFrames.sendFrame
  split
  · exact before
  · dsimp only
    split
    · exact before
    · apply invariant.sendBuilt
      exact before

theorem onPacketReceived (invariant : HandlerInvariant holds)
    (before : holds thread.toThreadHandler) (packet : DataFramesPacket) :
    holds (thread.onPacketReceived packet).2.toThreadHandler := by
  -- Checking the id concerns the numbers of the thread, not its device.
  have checked : holds (thread.checkPacketId packet.packetId).toThreadHandler := by
    unfold ThreadDataFrames.checkPacketId
    dsimp only
    split <;> exact before
  have answered := invariant.sendTicket checked packet.packetId
  unfold ThreadDataFrames.onPacketReceived
  dsimp only
  split
  · split
    · -- The frames are handed on without the device.
      unfold ThreadDataFrames.restoreFrames
      split
      · exact answered
      · split <;> exact answered
    · exact answered
  · split
    · split
      · exact checked
      · exact invariant.applyTicket checked _
    · exact checked

theorem react (invariant : HandlerInvariant holds) (before : holds thread.toThreadHandler)
    (event : ThreadEvent) : holds (thread.react event).toThreadHandler := by
  -- Each event has been dealt with above.
  unfold ThreadDataFrames.react
  split
  · exact before
  · cases event with
    | sendFrame frame => exact invariant.sendFrame before frame
    | processQueue => exact invariant.processQueue before
    | resetQueue => exact resetQueue before
    | applyTicket packetId => exact invariant.applyTicket before packetId
    | sendTicket packetId => exact invariant.sendTicket before packetId
    | packetReceived packet => exact invariant.onPacketReceived before packet
    | readyToWrite => exact invariant.slotOnReadyToWrite before
    | connectionStateChanged value => exact invariant.setConnectionState before value

/-- A turn of the loop over the input buffer handles one packet at most. -/
theorem receiveTurn (invariant : HandlerInvariant holds) (before : holds thread.toThreadHandler) :
    holds thread.receiveTurn.2.toThreadHandler := by
  -- The packet is taken out of the buffer, and the time of its arrival noted.
  unfold ThreadDataFrames.receiveTurn
  split
  · exact invariant.inputBuffer _ before
  · rename_i packet buffer _
    have clocked := invariant.getTickCount (invariant.inputBuffer buffer before)
    have extracted : holds (thread.packetExtracted buffer).toThreadHandler :=
      invariant.times _ _ clocked
    exact invariant.onPacketReceived extracted packet

theorem receiveLoop (invariant : HandlerInvariant holds) (before : holds thread.toThreadHandler)
    (fuel : Nat) : holds (ThreadDataFrames.receiveLoop fuel thread).toThreadHandler := by
  -- Each turn begins where the last one left the thread.
  induction fuel generalizing thread with
  | zero => exact before
  | succ fuel ih =>
    unfold ThreadDataFrames.receiveLoop
    dsimp only
    split
    · exact ih (invariant.receiveTurn before)
    · exact invariant.receiveTurn before

/-- Whatever happens to a thread, the property stays. -/
theorem act (invariant : HandlerInvariant holds) (before : holds thread.toThreadHandler)
    (activity : ThreadActivity) : holds (thread.act activity).toThreadHandler := by
  -- A thread that is caught in a loop does nothing any more.
  unfold ThreadDataFrames.act
  split
  · exact before
  · cases activity with
    | event event => exact invariant.react before event
    | sendPacket packet => exact invariant.sendPacketBase packet before
    | clearBuffers => exact invariant.clearBuffers before
    | readyToRead answers =>
      show holds (thread.slotOnReadyToRead answers).toThreadHandler
      unfold ThreadDataFrames.slotOnReadyToRead
      split
      · exact before
      · apply invariant.receiveLoop
        exact invariant.inputBuffer _ before

/-- The property holds wherever activities lead from a thread that has just been constructed. -/
theorem run_construct (invariant : HandlerInvariant holds) {handler : HandlerBase} {clock : Clock}
    (initially : holds (.construct handler clock)) (useQueue : Bool)
    (framesFactory : Option DataFramesFactory) (uninitialised : Int)
    (activities : List ThreadActivity) :
    holds (EventMachine.run ThreadDataFrames.act
      (.construct handler clock useQueue framesFactory uninitialised) activities).toThreadHandler := by
  -- The property is carried from one activity to the next.
  have preserved (thread : ThreadDataFrames) (activity : ThreadActivity) :
      holds thread.toThreadHandler → holds (thread.act activity).toThreadHandler :=
    fun before => invariant.act before activity
  exact EventMachine.run_invariant ThreadDataFrames.act preserved initially activities

end HandlerInvariant

end Threader
