import Threader.Threads.TicketRefinement

/-! What a thread does within one connection: the packets it passes on, and what it leaves alone. -/

namespace Threader

/-- An event that leaves the device connected as it is. -/
def ThreadEvent.Within : ThreadEvent → Prop
  | .connectionStateChanged _ => False
  | _ => True

/-- A reset changes only the ids of packets that are stored already. -/
theorem QueueDataFramesPackets.reset_fresh (queue : QueueDataFramesPackets) (heap : PacketHeap) :
    (queue.reset heap).fresh = heap.fresh := by
  unfold reset
  -- Each packet is rewritten in its place.
  induction queue.packets generalizing heap with
  | nil => rfl
  | cons packet packets ih => exact (ih _).trans (Heap.fresh_update ..)

namespace ThreadHandler

/-- Offering the output buffer keeps the connection, and notes no packet. -/
theorem slotOnReadyToWrite_within (thread : ThreadHandler) :
    thread.slotOnReadyToWrite.handler.connectionState = thread.handler.connectionState ∧
      thread.slotOnReadyToWrite.lastPacketSent = thread.lastPacketSent := by
  unfold slotOnReadyToWrite
  -- Only the buffer and what the device has accepted change.
  split
  · exact ⟨rfl, rfl⟩
  · dsimp only
    split <;> exact ⟨rfl, rfl⟩

/-- Sending a packet keeps the connection. -/
theorem sendPacket_connectionState (thread : ThreadHandler) (packet : Option DataFramesPacket) :
    (thread.sendPacket packet).2.handler.connectionState = thread.handler.connectionState := by
  -- A packet that is written has the buffer offered, and any other changes nothing.
  unfold sendPacket
  split
  · rfl
  · split
    · rfl
    · exact (slotOnReadyToWrite_within _).1

end ThreadHandler

namespace ThreadDataFrames

/-- The packets that calls of `sendPacket` were about. -/
def passedPackets (calls : List ThreadCall) : List PacketPtr :=
  calls.filterMap fun call =>
    match call with
    | .sendPacket packet _ => some packet
    | _ => none

/-- How often a thread has called `onPacketIdDiscontinuity`. -/
def discontinuities (thread : ThreadDataFrames) : Nat :=
  thread.calls.countP fun call =>
    match call with
    | .onPacketIdDiscontinuity .. => true
    | _ => false

/-- A call that neither passes a packet on nor reports a discontinuity. -/
def Silent : ThreadCall → Prop
  | .sendPacket .. | .onPacketIdDiscontinuity .. => False
  | _ => True

/-- A thread passes some packets on, and notes the time only if it does. -/
structure Passes (passed : List PacketPtr) (before after : ThreadDataFrames) : Prop where
  connectionState : after.handler.connectionState = before.handler.connectionState
  queued : after.queuePackets.isSome = before.queuePackets.isSome
  stored : before.heap.fresh ≤ after.heap.fresh
  calls : passedPackets after.calls = passedPackets before.calls ++ passed
  allocated : ∀ packet ∈ passed, after.heap.Allocated packet
  noted : passed = [] → after.lastPacketSent = before.lastPacketSent

theorem Passes.trans {early late : List PacketPtr} {first second third : ThreadDataFrames}
    (front : Passes early first second) (back : Passes late second third) :
    Passes (early ++ late) first third := by
  refine ⟨back.connectionState.trans front.connectionState, back.queued.trans front.queued,
    Nat.le_trans front.stored back.stored, ?_, ?_, ?_⟩
  · rw [back.calls, front.calls, List.append_assoc]
  · -- What was stored first is still stored afterwards.
    intro packet member
    rcases List.mem_append.mp member with early | late
    · exact Nat.lt_of_lt_of_le (front.allocated packet early) back.stored
    · exact back.allocated packet late
  · intro none
    obtain ⟨early, late⟩ := List.append_eq_nil_iff.mp none
    exact (back.noted late).trans (front.noted early)

/-- A thread passes packets on without looking at the ids of received ones. -/
structure Works (passed : List PacketPtr) (before after : ThreadDataFrames) : Prop
    extends Passes passed before after where
  nextPacketId : after.nextPacketId = before.nextPacketId
  discontinuities : after.discontinuities = before.discontinuities

namespace Works

variable {thread : ThreadDataFrames}

theorem trans {early late : List PacketPtr} {first second third : ThreadDataFrames}
    (front : Works early first second) (back : Works late second third) :
    Works (early ++ late) first third :=
  ⟨front.toPasses.trans back.toPasses, back.nextPacketId.trans front.nextPacketId,
    back.discontinuities.trans front.discontinuities⟩

/-- A thread does some work without passing anything on. -/
theorem of_same {after : ThreadDataFrames} (nextPacketId : after.nextPacketId = thread.nextPacketId)
    (connectionState : after.handler.connectionState = thread.handler.connectionState)
    (queued : after.queuePackets.isSome = thread.queuePackets.isSome)
    (stored : thread.heap.fresh ≤ after.heap.fresh) (calls : after.calls = thread.calls)
    (noted : after.lastPacketSent = thread.lastPacketSent) : Works [] thread after where
  connectionState := connectionState
  queued := queued
  stored := stored
  calls := by rw [calls, List.append_nil]
  allocated := by simp
  noted _ := noted
  nextPacketId := nextPacketId
  discontinuities := by
    rw [ThreadDataFrames.discontinuities, calls, ThreadDataFrames.discontinuities]

theorem refl (thread : ThreadDataFrames) : Works [] thread thread :=
  .of_same rfl rfl rfl (Nat.le_refl _) rfl rfl

/-- Other calls are recorded without passing anything on. -/
theorem record (thread : ThreadDataFrames) (call : ThreadCall) (silent : Silent call) :
    Works [] thread (thread.record call) where
  connectionState := rfl
  queued := rfl
  stored := Nat.le_refl _
  calls := by
    cases call with
    | sendPacket => exact silent.elim
    | _ => simp [ThreadDataFrames.record, passedPackets]
  allocated := by simp
  noted _ := rfl
  nextPacketId := rfl
  discontinuities := by
    cases call with
    | onPacketIdDiscontinuity => exact silent.elim
    | _ => simp [ThreadDataFrames.record, ThreadDataFrames.discontinuities]

/-- A packet that is stored is passed on. -/
theorem sendPacket {packet : PacketPtr} (allocated : thread.heap.Allocated packet) :
    Works [packet] thread (thread.sendPacket packet) := by
  -- The call is recorded, and the handler thread notes the time.
  obtain ⟨sent, found⟩ := Heap.read_isSome allocated
  simp only [ThreadDataFrames.sendPacket, found]
  refine ⟨⟨ThreadHandler.sendPacket_connectionState _ _, rfl, Nat.le_refl _, ?_, ?_, by simp⟩,
    rfl, ?_⟩
  · simp [ThreadDataFrames.record, passedPackets]
  · intro other member
    rw [List.mem_singleton.mp member]
    exact allocated
  · simp [ThreadDataFrames.record, ThreadDataFrames.discontinuities]

end Works

/-- At most one packet is passed on. -/
def PassesOne (before after : ThreadDataFrames) : Prop :=
  ∃ passed : List PacketPtr, passed.length ≤ 1 ∧ Works passed before after

namespace Works

/-- A thread that works first may pass a packet on afterwards. -/
theorem thenOne {first second third : ThreadDataFrames} (front : Works [] first second)
    (back : PassesOne second third) : PassesOne first third := by
  obtain ⟨passed, one, works⟩ := back
  exact ⟨passed, one, front.trans works⟩

/-- A thread that passed a packet on may work without passing another one on. -/
theorem afterOne {first second third : ThreadDataFrames} (back : Works [] second third)
    (front : PassesOne first second) : PassesOne first third := by
  obtain ⟨passed, one, works⟩ := front
  exact ⟨passed, one, List.append_nil passed ▸ works.trans back⟩

theorem one {before after : ThreadDataFrames} (works : Works [] before after) :
    PassesOne before after := ⟨[], Nat.zero_le 1, works⟩

end Works

/-- A pointer is passed on if it points to a packet. -/
theorem sendPacket_one (thread : ThreadDataFrames) (packet : PacketPtr) :
    PassesOne thread (thread.sendPacket packet) := by
  cases found : thread.heap.read packet with
  | none =>
    -- A pointer to nothing is not passed on.
    simp only [sendPacket, found]
    exact (Works.refl thread).one
  | some sent => exact ⟨[packet], Nat.le_refl 1, .sendPacket (Heap.allocated_of_read found)⟩

/-- Giving an id passes nothing on. -/
theorem giveNextPacketId_works (thread : ThreadDataFrames) (packet : PacketPtr) :
    Works [] thread (thread.giveNextPacketId packet) :=
  .of_same rfl rfl rfl (Nat.le_of_eq (Heap.fresh_update ..).symm) rfl rfl

/-- Storing a packet passes nothing on. -/
theorem makeShared_works (thread : ThreadDataFrames) (packet : DataFramesPacket) :
    Works [] thread (thread.makeShared packet).2 := by
  refine .of_same rfl rfl rfl ?_ rfl rfl
  exact Nat.le_trans (Nat.le_succ _) (Nat.le_of_eq (Heap.fresh_allocate ..).symm)

/-- Processing the queue passes one packet on at most. -/
theorem processQueue_one (thread : ThreadDataFrames) : PassesOne thread thread.processQueue := by
  cases queue : thread.queuePackets with
  | none =>
    rw [processQueue_unqueued queue]
    exact (Works.refl thread).one
  | some packets =>
    -- The clock is read in any case.
    have clocked : Works [] thread { thread with toThreadHandler := thread.getTickCount.2 } :=
      .of_same rfl rfl rfl (Nat.le_refl _) rfl rfl
    cases current : thread.currentPacket with
    | some packet =>
      -- The current packet is passed on again, or not yet.
      rw [processQueue_busy queue current]
      split
      · exact clocked.thenOne (sendPacket_one _ packet)
      · exact clocked.one
    | none =>
      rw [processQueue_idle queue current]
      split
      · exact clocked.one
      · rename_i packet _
        -- The packet that becomes the current one is given an id first.
        have chosen : Works [] thread { thread with
            toThreadHandler := thread.getTickCount.2, currentPacket := some packet } :=
          .of_same rfl rfl rfl (Nat.le_refl _) rfl rfl
        have given := chosen.trans (giveNextPacketId_works _ packet)
        exact given.thenOne (sendPacket_one _ packet)

/-- Applying a ticket passes the next packet on at most. -/
theorem applyTicket_one (thread : ThreadDataFrames) (packetId : UInt32) :
    PassesOne thread (thread.applyTicket packetId).2 := by
  cases queue : thread.queuePackets with
  | none =>
    simp only [applyTicket, queue]
    exact (Works.refl thread).one
  | some packets =>
    rw [applyTicket_queued queue]
    have shortened : Works [] thread { thread with
        queuePackets := some ⟨packets.packets.filter (thread.heap.packetId · ≠ some packetId)⟩ } :=
      .of_same rfl rfl (by rw [queue]; rfl) (Nat.le_refl _) rfl rfl
    split
    · -- Something was removed, so the hook is called, and the next packet becomes the current one.
      have applied := shortened.trans (.record _ (.onPacketApplied packetId) trivial)
      have cleared : Works [] thread { { thread with
          queuePackets := some ⟨packets.packets.filter (thread.heap.packetId · ≠ some packetId)⟩
          }.record (.onPacketApplied packetId) with currentPacket := none } :=
        applied.trans (.of_same rfl rfl rfl (Nat.le_refl _) rfl rfl)
      exact cleared.thenOne (processQueue_one _)
    · exact shortened.one

/-- A reset passes nothing on. -/
theorem resetQueue_works (thread : ThreadDataFrames) : Works [] thread thread.resetQueue := by
  -- The current packet is forgotten, and the others lose their ids.
  have idle : Works [] thread { thread with currentPacket := none } :=
    .of_same rfl rfl rfl (Nat.le_refl _) rfl rfl
  have recorded := idle.trans (.record _ .resetQueue trivial)
  unfold resetQueue
  dsimp only
  split
  · exact recorded
  · rename_i queue _
    exact recorded.trans (.of_same rfl rfl rfl (Nat.le_of_eq (queue.reset_fresh _).symm) rfl rfl)

/-- A received packet is answered with one ticket at most. -/
theorem sendTicket_one (thread : ThreadDataFrames) (packetId : UInt32) :
    PassesOne thread (thread.sendTicket packetId) := by
  have counted : Works [] thread { thread with dataFramesPacketFactory :=
      (thread.dataFramesPacketFactory.buildPacketTicket packetId).2 } :=
    .of_same rfl rfl rfl (Nat.le_refl _) rfl rfl
  unfold sendTicket
  dsimp only
  -- No ticket is built for an empty id.
  split
  · exact counted.one
  · exact (counted.trans (makeShared_works _ _)).thenOne (sendPacket_one _ _)

/-- A built packet is passed on at once, or the queue that it joins passes one packet on at most. -/
theorem sendBuilt_one (thread : ThreadDataFrames) (needsTicket : Bool) (packet : DataFramesPacket) :
    PassesOne thread (thread.sendBuilt needsTicket packet) := by
  have stored := makeShared_works thread packet
  -- A thread without a queue passes on everything at once.
  by_cases now : thread.queuePackets = none ∨ needsTicket = false
  · rw [sendBuilt_now packet now]
    exact (stored.trans (giveNextPacketId_works _ _)).thenOne (sendPacket_one _ _)
  · simp only [not_or, Bool.not_eq_false] at now
    obtain ⟨packets, queue⟩ := Option.ne_none_iff_exists'.mp now.1
    rw [now.2, sendBuilt_queued packet queue]
    have joined : Works [] thread { (thread.makeShared packet).2 with
        queuePackets := some ⟨packets.packets ++ [thread.heap.fresh]⟩ } :=
      stored.trans (.of_same rfl rfl
        (show true = thread.queuePackets.isSome by rw [queue]; rfl) (Nat.le_refl _) rfl rfl)
    exact (joined.trans (.record _ (.onPacketQueued thread.heap.fresh) trivial)).thenOne
      (processQueue_one _)

/-- Offering the output buffer passes nothing on. -/
theorem slotOnReadyToWrite_works (thread : ThreadDataFrames) :
    Works [] thread thread.slotOnReadyToWrite :=
  have within := thread.toThreadHandler.slotOnReadyToWrite_within
  .of_same rfl within.1 rfl (Nat.le_refl _) rfl within.2

variable [QtText]

/-- A frame passes one packet on at most. -/
theorem sendFrame_one (thread : ThreadDataFrames) (frame : Option DataFrame) :
    PassesOne thread (thread.sendFrame frame).2 := by
  -- Building a packet changes the factory only.
  cases frame with
  | none => exact (Works.refl thread).one
  | some frame =>
    have counted : Works [] thread { thread with dataFramesPacketFactory :=
        (thread.dataFramesPacketFactory.buildPacketFromFrame frame false).2 } :=
      .of_same rfl rfl rfl (Nat.le_refl _) rfl rfl
    simp only [sendFrame]
    split
    · exact counted.one
    · exact counted.thenOne (sendBuilt_one _ _ _)

/-- Restoring frames passes nothing on. -/
theorem restoreFrames_works (thread : ThreadDataFrames) (packet : DataFramesPacket) :
    Works [] thread (thread.restoreFrames packet).2 := by
  unfold restoreFrames
  -- The thread hangs, or hands on the frames if there are any.
  split
  · exact .refl thread
  · split
    · exact .of_same rfl rfl rfl (Nat.le_refl _) rfl rfl
    · exact .refl thread
    · exact .record thread _ trivial

/-- Behind the check of its id, a received packet makes one packet be passed on at most. -/
theorem onPacketReceived_one (thread : ThreadDataFrames) (packet : DataFramesPacket) :
    PassesOne (thread.checkPacketId packet.packetId) (thread.onPacketReceived packet).2 := by
  have answered := (thread.checkPacketId packet.packetId).sendTicket_one packet.packetId
  unfold onPacketReceived
  dsimp only
  -- A packet with frames is answered, a ticket is applied, and anything else is ignored.
  split
  · split
    · exact (restoreFrames_works _ packet).afterOne answered
    · exact answered
  · split
    · split
      · exact (Works.refl _).one
      · exact applyTicket_one _ _
    · exact (Works.refl _).one

omit [QtText] in
/-- The check of an id passes nothing on. -/
theorem checkPacketId_passes (thread : ThreadDataFrames) (packetId : UInt32) :
    Passes [] thread (thread.checkPacketId packetId) := by
  unfold checkPacketId
  dsimp only
  -- A call of the hook is recorded at most.
  split
  · exact ⟨rfl, rfl, Nat.le_refl _, by simp [record, passedPackets], by simp, fun _ => rfl⟩
  · exact ⟨rfl, rfl, Nat.le_refl _, (List.append_nil _).symm, by simp, fun _ => rfl⟩

/-- The thread once the id of a packet that it receives in an event has been checked. -/
def checked (thread : ThreadDataFrames) : ThreadEvent → ThreadDataFrames
  | .packetReceived packet => if thread.hung then thread else thread.checkPacketId packet.packetId
  | _ => thread

/-- Within a connection, an event makes one packet be passed on at most. -/
theorem react_one (thread : ThreadDataFrames) {event : ThreadEvent} (within : event.Within) :
    PassesOne (thread.checked event) (thread.react event) := by
  unfold react
  by_cases hung : thread.hung = true
  · have same : thread.checked event = thread := by cases event <;> simp [checked, hung]
    rw [if_pos hung, same]
    exact (Works.refl thread).one
  · rw [if_neg hung]
    -- Only a received packet has its id checked first.
    cases event with
    | packetReceived packet =>
      rw [checked, if_neg hung]
      exact thread.onPacketReceived_one packet
    | sendFrame frame => exact thread.sendFrame_one frame
    | processQueue => exact thread.processQueue_one
    | resetQueue => exact thread.resetQueue_works.one
    | applyTicket packetId => exact thread.applyTicket_one packetId
    | sendTicket packetId => exact thread.sendTicket_one packetId
    | readyToWrite => exact thread.slotOnReadyToWrite_works.one
    | connectionStateChanged value => exact within.elim

/-- Within a connection, an event makes one packet be passed on at most, whatever it reports. -/
theorem react_passes (thread : ThreadDataFrames) {event : ThreadEvent} (within : event.Within) :
    ∃ passed : List PacketPtr, passed.length ≤ 1 ∧ Passes passed thread (thread.react event) := by
  -- Checking the id of a received packet comes before the reaction to it.
  obtain ⟨passed, one, works⟩ := thread.react_one within
  refine ⟨passed, one, @Passes.trans [] passed thread (thread.checked event) _ ?_ works.toPasses⟩
  unfold checked
  split
  · split
    · exact (Works.refl thread).toPasses
    · exact thread.checkPacketId_passes _
  · exact (Works.refl thread).toPasses

end ThreadDataFrames

end Threader
