import Threader.Base.EventMachine
import Threader.Base.Selection
import Threader.Frames.QueueDataFrames

/-! The priorities a queue keeps up to date, and the frames that are prepared because of them. -/

namespace Threader

/-- The highest priority among some frames, which is one at least. -/
def FrameHeap.highestPriority (heap : FrameHeap) (frames : List FramePtr) : Nat :=
  Selection.highest (frames.map fun frame => (heap.frame frame).priority.toNat)

/-- A frame that can be sent: it exists, its size with its length fits, and it is not idle. -/
structure FrameHeap.Sendable (heap : FrameHeap) (frame : FramePtr) : Prop where
  allocated : heap.Allocated frame
  short : (heap.frame frame).length.toNat < 2147483644
  urgent : 1 ≤ (heap.frame frame).priority

/-- The bytes that a frame takes up in a packet. -/
def FrameHeap.packetSize (heap : FrameHeap) (frame : FramePtr) : Nat :=
  (heap.frame frame).length.toNat + 4

namespace FrameHeap

@[simp] theorem highestPriority_append (heap : FrameHeap) (left right : List FramePtr) :
    heap.highestPriority (left ++ right) =
      max (heap.highestPriority left) (heap.highestPriority right) := by
  simp [highestPriority]

/-- No frame exceeds the highest priority. -/
theorem priority_le_highestPriority (heap : FrameHeap) {frame : FramePtr} {frames : List FramePtr}
    (member : frame ∈ frames) : (heap.frame frame).priority.toNat ≤ heap.highestPriority frames :=
  Selection.le_highest (List.mem_map_of_mem member)

/-- Priorities do not depend on the ids. -/
theorem SameButIds.highestPriority {before after : FrameHeap} (same : SameButIds before after)
    (frames : List FramePtr) : after.highestPriority frames = before.highestPriority frames := by
  simp only [FrameHeap.highestPriority, same.priority]

theorem SameButIds.packetSize {before after : FrameHeap} (same : SameButIds before after) :
    after.packetSize = before.packetSize := by
  funext frame
  simp only [FrameHeap.packetSize, same.length]

/-- Frames can be sent whatever ids they have. -/
theorem SameButIds.sendable {before after : FrameHeap} (same : SameButIds before after)
    {frame : FramePtr} (sendable : before.Sendable frame) : after.Sendable frame where
  allocated := (same.allocated frame).mpr sendable.allocated
  short := by simpa only [same.length] using sendable.short
  urgent := by simpa only [same.priority] using sendable.urgent

end FrameHeap

namespace QueueDataFrames

/-- The frames that wait for a packet while no frame of the queue has a higher priority. -/
def urgentFrames (queue : QueueDataFrames) : List FramePtr :=
  queue.queuedFramesList.filter fun frame =>
    (queue.heap.frame frame).packetId < 1 ∧
      (queue.priority frame).toNat = queue.heap.highestPriority queue.queuedFramesList

/--
The frames that wait for a packet with an id.

A frame that stands in the queue twice waits once, unless the id leaves it waiting.
-/
def candidates (queue : QueueDataFrames) (packetId : PacketIdType) : List FramePtr :=
  if 1 ≤ MachineInt.toInt32 packetId.toNat then queue.urgentFrames.eraseDups else queue.urgentFrames

/-- Both maximal priorities are those of the frames they are kept for. -/
structure Prioritised (heap : FrameHeap) (queue : QueueDataFrames) : Prop where
  same : FrameHeap.SameButIds heap queue.heap
  sendable : ∀ frame ∈ queue.queuedFramesList ++ queue.appendedFramesList, heap.Sendable frame
  queued : queue.queuedMaximumPriority.toNat = heap.highestPriority queue.queuedFramesList
  appending : queue.appendingMaximumPriority.toNat = heap.highestPriority queue.appendedFramesList

/-- The comparison yields the maximum. -/
theorem toNat_raise (maximum priority : UInt8) :
    (raise maximum priority).toNat = max maximum.toNat priority.toNat := by
  unfold raise
  -- The greater of the two is kept.
  split
  · rename_i higher
    have higher := UInt8.lt_iff_toNat_lt.mp higher
    omega
  · rename_i lower
    have lower : ¬ maximum.toNat < priority.toNat :=
      fun higher => lower (UInt8.lt_iff_toNat_lt.mpr higher)
    omega

/-- Comparing with one frame after another yields the maximum of all. -/
theorem toNat_foldl_raise (queue : QueueDataFrames) (frames : List FramePtr) (maximum : UInt8)
    (least : 1 ≤ maximum.toNat) :
    (frames.foldl (fun maximum frame => raise maximum (queue.priority frame)) maximum).toNat =
      max maximum.toNat (queue.heap.highestPriority frames) := by
  -- The maximum that the first frame leaves behind is the start for the others.
  induction frames generalizing maximum with
  | nil => simp [FrameHeap.highestPriority, least]
  | cons first frames ih =>
    have raised := toNat_raise maximum (queue.priority first)
    rw [List.foldl_cons, ih _ (by omega), raised]
    simp only [FrameHeap.highestPriority, List.map_cons, Selection.highest_cons, priority]
    omega

/-- The loop of `applyTicket` finds the highest priority among the frames that stay. -/
theorem ticketLoop_maximum (heap : FrameHeap) (packetId : PacketIdType) (frames : List FramePtr) :
    let loop := frames.foldr (ticketTurn heap packetId) ⟨0, 1, []⟩
    loop.maximum.toNat = heap.highestPriority loop.kept := by
  induction frames with
  | nil => rfl
  | cons first frames ih =>
    by_cases same : UInt32.ofInt (heap.frame first).packetId = packetId
    · -- A frame that is acknowledged has no part in the maximum.
      simpa [ticketTurn, same] using ih
    · simp only [List.foldr_cons, ticketTurn, if_neg same, toNat_raise, ih, FrameHeap.highestPriority,
        List.map_cons, Selection.highest_cons]
      omega

/-- Both maximal priorities are those of the frames they are kept for, whatever frames these are. -/
structure Ranked (heap : FrameHeap) (queue : QueueDataFrames) : Prop where
  same : FrameHeap.SameButIds heap queue.heap
  queued : queue.queuedMaximumPriority.toNat = heap.highestPriority queue.queuedFramesList
  appending : queue.appendingMaximumPriority.toNat = heap.highestPriority queue.appendedFramesList

/-- A queue without frames has the least maximal priorities. -/
theorem Ranked.empty (heap : FrameHeap) : (empty heap).Ranked heap := ⟨.refl heap, rfl, rfl⟩

/-- The maximum is the highest priority in the heap of the queue itself, too. -/
theorem Ranked.maximum {heap : FrameHeap} {queue : QueueDataFrames} (ranked : queue.Ranked heap) :
    queue.queuedMaximumPriority.toNat = queue.heap.highestPriority queue.queuedFramesList :=
  ranked.queued.trans (ranked.same.highestPriority _).symm

/-- A call that leaves the frames alone leaves their maximal priorities alone. -/
theorem Ranked.of_sameFrames {heap : FrameHeap} {before after : QueueDataFrames}
    (ranked : before.Ranked heap) (same : before.SameFrames after) : after.Ranked heap := by
  obtain ⟨thread, posted, rfl⟩ := same
  exact ⟨ranked.same, ranked.queued, ranked.appending⟩

/-- Collecting a frame takes its priority into account. -/
theorem Ranked.collectAppendingFrame {heap : FrameHeap} {queue : QueueDataFrames}
    (ranked : queue.Ranked heap) (frame : Option FramePtr) :
    (queue.collectAppendingFrame frame).2.Ranked heap := by
  cases frame with
  | none => exact ranked
  | some frame =>
    refine ⟨ranked.same, ranked.queued, ?_⟩
    simp only [QueueDataFrames.collectAppendingFrame, toNat_raise, priority, ranked.appending,
      ranked.same.priority, FrameHeap.highestPriority_append]
    have least := Selection.one_le_highest
      (queue.appendedFramesList.map fun frame => (heap.frame frame).priority.toNat)
    simp only [FrameHeap.highestPriority, List.map_cons, List.map_nil, Selection.highest_cons,
      Selection.highest_nil]
    -- A frame that is not even of priority one does not lower the maximum.
    omega

/-- Collecting frames takes their priorities into account, and the earlier ones once more. -/
theorem Ranked.collectAppendingFramesList {heap : FrameHeap} {queue : QueueDataFrames}
    (ranked : queue.Ranked heap) (list : List FramePtr) :
    (queue.collectAppendingFramesList list).2.Ranked heap := by
  -- The loop raises the maximum over the whole list, and the list was longer before.
  refine ⟨ranked.same, ranked.queued, ?_⟩
  have least : 1 ≤ queue.appendingMaximumPriority.toNat := by
    rw [ranked.appending]
    exact Selection.one_le_highest _
  have folded := toNat_foldl_raise queue (queue.appendedFramesList ++ list) _ least
  rw [ranked.same.highestPriority, ranked.appending] at folded
  simp only [QueueDataFrames.collectAppendingFramesList, folded, FrameHeap.highestPriority_append]
  omega

/-- The queue takes the maximum of the collected frames over with them. -/
theorem Ranked.applyCollectedFrames {heap : FrameHeap} {queue : QueueDataFrames}
    (ranked : queue.Ranked heap) (snapshot : Option QByteArray) :
    (queue.applyCollectedFrames snapshot).2.2.Ranked heap := by
  -- Either nothing was collected, or the two maxima become one.
  rcases queue.applyCollectedFrames_cases snapshot with ⟨_, unchanged⟩ | ⟨_, applied⟩
  · rwa [unchanged]
  · have taken : Ranked heap { queue with
        queuedFramesList := queue.queuedFramesList ++ queue.appendedFramesList
        appendedFramesList := []
        queuedMaximumPriority := raise queue.queuedMaximumPriority queue.appendingMaximumPriority
        appendingMaximumPriority := 1 } := by
      refine ⟨ranked.same, ?_, rfl⟩
      simp only [toNat_raise, ranked.queued, ranked.appending, FrameHeap.highestPriority_append]
    exact taken.of_sameFrames applied

/-- Preparing frames changes nothing but ids. -/
theorem Ranked.prepareSendingList {heap : FrameHeap} {queue : QueueDataFrames}
    (ranked : queue.Ranked heap) (threadFor : Option ThreadPtr) (packetId : PacketIdType)
    (list : List FramePtr) : (queue.prepareSendingList threadFor packetId list).2.Ranked heap := by
  rw [QueueDataFrames.prepareSendingList]
  split
  · exact ranked
  · refine ⟨?_, ranked.queued, ranked.appending⟩
    simp only [prepareFrom_heap]
    exact ranked.same.trans (FrameHeap.sameButIds_setPacketIds ..)

/-- A ticket has the maximum computed anew from the frames that stay. -/
theorem Ranked.applyTicket {heap : FrameHeap} {queue : QueueDataFrames}
    (ranked : queue.Ranked heap) (threadFor : Option ThreadPtr) (packetId : PacketIdType)
    (snapshot : Option QByteArray) :
    (queue.applyTicket threadFor packetId snapshot).2.2.Ranked heap := by
  rw [QueueDataFrames.applyTicket]
  split
  · exact ranked
  · have maximum := ticketLoop_maximum queue.heap packetId queue.queuedFramesList
    exact ⟨ranked.same, maximum.trans (ranked.same.highestPriority _), ranked.appending⟩

/-- Taking the ids away changes nothing but ids. -/
theorem Ranked.reset {heap : FrameHeap} {queue : QueueDataFrames} (ranked : queue.Ranked heap) :
    queue.reset.Ranked heap :=
  -- The lists and the maxima are what they were.
  ⟨ranked.same.trans (FrameHeap.sameButIds_setPacketIds ..), ranked.queued, ranked.appending⟩

/-- Every call keeps the maximal priorities up to date. -/
theorem Ranked.step {heap : FrameHeap} {queue : QueueDataFrames} (ranked : queue.Ranked heap)
    (call : QueueCall) : (queue.step call).Ranked heap := by
  -- Each call has been dealt with above.
  cases call with
  | collectAppendingFrame frame => exact ranked.collectAppendingFrame frame
  | collectAppendingFramesList list => exact ranked.collectAppendingFramesList list
  | applyCollectedFrames snapshot => exact ranked.applyCollectedFrames snapshot
  | prepareSendingList threadFor packetId list =>
    exact ranked.prepareSendingList threadFor packetId list
  | applyTicket threadFor packetId snapshot =>
    exact ranked.applyTicket threadFor packetId snapshot
  | reset => exact ranked.reset
  | bindThread thread => exact ranked.of_sameFrames (queue.sameFrames_bindThread thread)
  | unbindThread thread => exact ranked.of_sameFrames (queue.sameFrames_unbindThread thread)

/-- The frames that a queue holds, collected ones included. -/
def listedFrames (queue : QueueDataFrames) : List FramePtr :=
  queue.queuedFramesList ++ queue.appendedFramesList

theorem SameFrames.heap_eq {before after : QueueDataFrames} (same : before.SameFrames after) :
    after.heap = before.heap := by
  obtain ⟨thread, posted, rfl⟩ := same
  rfl

theorem SameFrames.listedFrames_eq {before after : QueueDataFrames} (same : before.SameFrames after) :
    after.listedFrames = before.listedFrames := by
  obtain ⟨thread, posted, rfl⟩ := same
  rfl

/-- A call lists no frames but those that it collects. -/
theorem mem_listedFrames_step {queue : QueueDataFrames} {call : QueueCall} {frame : FramePtr}
    (listed : frame ∈ (queue.step call).listedFrames) :
    frame ∈ queue.listedFrames ∨ frame ∈ call.frames := by
  cases call with
  | collectAppendingFrame collected =>
    cases collected with
    | none => exact .inl listed
    | some collected =>
      simp only [step, collectAppendingFrame, listedFrames, ← List.append_assoc] at listed
      exact List.mem_append.mp listed
  | collectAppendingFramesList list =>
    simp only [step, collectAppendingFramesList, listedFrames, ← List.append_assoc] at listed
    exact List.mem_append.mp listed
  | applyCollectedFrames snapshot =>
    -- The collected frames move to the other list.
    obtain ⟨appended, queued, _⟩ := queue.applyCollectedFrames_lists snapshot
    simp only [step, listedFrames, appended, queued, List.append_nil] at listed
    exact .inl listed
  | prepareSendingList threadFor packetId list =>
    -- Frames that are sent stay in the queue until they are acknowledged.
    simp only [step, prepareSendingList] at listed
    split at listed <;> exact .inl listed
  | applyTicket threadFor packetId snapshot =>
    simp only [step, applyTicket] at listed
    split at listed
    · exact .inl listed
    · simp only [listedFrames, ticketLoop_kept, List.mem_append, List.mem_filter] at listed
      exact .inl (List.mem_append.mpr (listed.imp And.left id))
  | reset => exact .inl listed
  | bindThread thread =>
    exact .inl ((queue.sameFrames_bindThread thread).listedFrames_eq ▸ listed)
  | unbindThread thread =>
    exact .inl ((queue.sameFrames_unbindThread thread).listedFrames_eq ▸ listed)

/-- What holds of all frames that are collected holds of all frames that are listed. -/
theorem forall_listedFrames_step {holds : FramePtr → Prop} {queue : QueueDataFrames}
    {call : QueueCall} (before : ∀ frame ∈ queue.listedFrames, holds frame)
    (collected : ∀ frame ∈ call.frames, holds frame) :
    ∀ frame ∈ (queue.step call).listedFrames, holds frame := fun frame listed =>
  (mem_listedFrames_step listed).elim (before frame) (collected frame)

theorem Prioritised.ranked {heap : FrameHeap} {queue : QueueDataFrames}
    (prioritised : queue.Prioritised heap) : queue.Ranked heap :=
  -- Whether the frames can be sent is all that is forgotten.
  ⟨prioritised.same, prioritised.queued, prioritised.appending⟩

/-- Every call keeps the maximal priorities of frames that can be sent up to date. -/
theorem Prioritised.step {heap : FrameHeap} {queue : QueueDataFrames}
    (prioritised : queue.Prioritised heap) {call : QueueCall}
    (sendable : ∀ frame ∈ call.frames, heap.Sendable frame) :
    (queue.step call).Prioritised heap := by
  have ranked := prioritised.ranked.step call
  have listed := forall_listedFrames_step prioritised.sendable sendable
  exact ⟨ranked.same, listed, ranked.queued, ranked.appending⟩

/-- The condition under which the loop of `prepareSendingList` takes a frame that fits. -/
def isWaiting (maximum : UInt8) (heap : FrameHeap) (pointer : FramePtr) : Bool :=
  (heap.frame pointer).packetId < 1 && (heap.frame pointer).priority ≥ maximum

/-- The frames that the loop of `prepareSendingList` would take if all of them fitted. -/
def waitingFrom (maximum : UInt8) (packetId : PacketIdType) (queued : List FramePtr)
    (heap : FrameHeap) : List FramePtr :=
  let waiting := queued.filter (isWaiting maximum heap)
  if 1 ≤ MachineInt.toInt32 packetId.toNat then waiting.eraseDups else waiting

/-- A frame that has got an id waits exactly if the id is not positive. -/
theorem isWaiting_setPacketId {maximum : UInt8} {heap : FrameHeap} {pointer : FramePtr}
    (allocated : heap.Allocated pointer) (waits : isWaiting maximum heap pointer = true)
    (packetId : Int) (other : FramePtr) :
    isWaiting maximum (heap.setPacketId pointer packetId) other =
      if other = pointer then decide (packetId < 1) else isWaiting maximum heap other := by
  split
  · rename_i same
    subst same
    simp only [isWaiting, Bool.and_eq_true, decide_eq_true_eq] at waits
    simp only [isWaiting, FrameHeap.frame_setPacketId_self allocated]
    -- The id has no part in the priority.
    exact (Bool.and_eq_left_iff_imp.mpr fun _ => decide_eq_true waits.2)
  · rename_i different
    simp only [isWaiting, FrameHeap.frame_setPacketId_ne heap fun same => different same.symm]

/-- A frame that has got a positive id does not wait any longer. -/
theorem waitingFrom_cons {maximum : UInt8} {packetId : PacketIdType} {pointer : FramePtr}
    {queued : List FramePtr} {heap : FrameHeap} (allocated : heap.Allocated pointer)
    (waits : isWaiting maximum heap pointer = true) :
    waitingFrom maximum packetId (pointer :: queued) heap =
      pointer :: waitingFrom maximum packetId queued
        (heap.setPacketId pointer (MachineInt.toInt32 packetId.toNat)) := by
  simp only [waitingFrom, List.filter_cons_of_pos waits]
  split
  · rename_i positive
    -- The id takes every further occurrence of the frame out of those that wait.
    rw [List.eraseDups_cons, List.filter_filter]
    congr 2
    refine List.filter_congr fun other _ => ?_
    rw [isWaiting_setPacketId allocated waits]
    by_cases same : other = pointer
    · have named : ¬ MachineInt.toInt32 packetId.toNat < 1 := by omega
      simp [same, named]
    · simp [same]
  · rename_i unnamed
    congr 1
    refine List.filter_congr fun other _ => ?_
    rw [isWaiting_setPacketId allocated waits]
    by_cases same : other = pointer
    · -- An id that is not positive leaves the frame waiting.
      have left : MachineInt.toInt32 packetId.toNat < 1 := by omega
      simp [same, left, waits]
    · simp [same]

/-- A frame that does not wait is passed over. -/
theorem waitingFrom_cons_of_not {maximum : UInt8} {packetId : PacketIdType} {pointer : FramePtr}
    {queued : List FramePtr} {heap : FrameHeap} (waits : ¬ isWaiting maximum heap pointer = true) :
    waitingFrom maximum packetId (pointer :: queued) heap =
      waitingFrom maximum packetId queued heap := by
  simp only [waitingFrom, List.filter_cons_of_neg waits]

/-- The loop adds the size of a frame without an overflow. -/
theorem toNat_newDataSize {heap : FrameHeap} {pointer : FramePtr} (sendable : heap.Sendable pointer)
    {dataSize : UInt64} (below : dataSize.toNat < 1048576) :
    (dataSize + UInt64.ofInt (MachineInt.toInt32 ((heap.frame pointer).length.toNat + 4))).toNat =
      dataSize.toNat + heap.packetSize pointer := by
  have short := sendable.short
  -- The size of the frame fits into an int, and the sum fits into 64 bits.
  have exactly : MachineInt.toInt32 ((heap.frame pointer).length.toNat + 4) =
      ((heap.packetSize pointer : Nat) : Int) :=
    MachineInt.toInt32_of_fits (by omega) (by omega)
  have small : heap.packetSize pointer < 2147483648 := Nat.add_lt_add_right short 4
  rw [exactly, UInt64.toNat_add, UInt64.ofInt, UInt64.toNat_ofNat']
  omega

/-- The loop takes the frames that wait one after another until one of them does not fit. -/
theorem prepareFrom_eq_takeWithin {maximum : UInt8} {packetId : PacketIdType}
    {queued : List FramePtr} {heap : FrameHeap} (sendable : ∀ frame ∈ queued, heap.Sendable frame)
    {dataSize : UInt64} (below : dataSize.toNat < 1048576) :
    (prepareFrom maximum packetId queued dataSize heap).1 =
      Selection.takeWithin heap.packetSize 1048576 dataSize.toNat
        (waitingFrom maximum packetId queued heap) := by
  induction queued generalizing dataSize heap with
  | nil => simp [prepareFrom, waitingFrom, Selection.takeWithin]
  | cons pointer queued ih =>
    obtain ⟨first, others⟩ := List.forall_mem_cons.mp sendable
    simp only [prepareFrom]
    split
    · rename_i waits
      -- The frame waits, and is taken if the packet stays below its limit.
      rw [waitingFrom_cons first.allocated waits, Selection.takeWithin]
      have sum := toNat_newDataSize first below
      have limit : maximumPacketSize.toUInt64.toNat = 1048576 := rfl
      simp only [UInt64.lt_iff_toNat_lt, sum, limit]
      by_cases within : dataSize.toNat + heap.packetSize pointer < 1048576
      · rw [if_pos within, if_pos within]
        -- The others are what they were, whatever id the first frame has got.
        have same := heap.sameButIds_setPacketId pointer (MachineInt.toInt32 packetId.toNat)
        have later := @ih (heap.setPacketId pointer (MachineInt.toInt32 packetId.toNat))
          (fun frame member => same.sendable (others frame member)) _ (by rw [sum]; exact within)
        rw [later, same.packetSize, sum]
      · rw [if_neg within, if_neg within]
    · rename_i waits
      rw [waitingFrom_cons_of_not waits]
      exact ih others below

/-- With the right maximum, the frames that the loop may take are those of the highest priority. -/
theorem Ranked.filter_isWaiting {heap : FrameHeap} {queue : QueueDataFrames}
    (ranked : queue.Ranked heap) :
    queue.queuedFramesList.filter (isWaiting queue.queuedMaximumPriority queue.heap) =
      queue.urgentFrames := by
  apply List.filter_congr
  intro frame member
  -- No frame of the queue exceeds the maximum, so those that reach it equal it.
  have bounded := queue.heap.priority_le_highestPriority member
  have maximum := ranked.maximum
  rw [Bool.eq_iff_iff, isWaiting, Bool.and_eq_true, decide_eq_true_iff, decide_eq_true_iff,
    decide_eq_true_iff]
  refine and_congr_right fun _ => ?_
  rw [ge_iff_le, UInt8.le_iff_toNat_le]
  show _ ↔ (queue.heap.frame frame).priority.toNat = _
  omega

/-- The loop takes from the frames that wait with the highest priority. -/
theorem Prioritised.waitingFrom_eq {heap : FrameHeap} {queue : QueueDataFrames}
    (prioritised : queue.Prioritised heap) (packetId : PacketIdType) :
    waitingFrom queue.queuedMaximumPriority packetId queue.queuedFramesList queue.heap =
      queue.candidates packetId := by
  simp only [waitingFrom, candidates, prioritised.ranked.filter_isWaiting]

/-- What is prepared is the longest beginning of the frames that wait, and only it gets the id. -/
theorem Prioritised.prepareSendingList_longestWithin {heap : FrameHeap} {queue : QueueDataFrames}
    (prioritised : queue.Prioritised heap) {threadFor : Option ThreadPtr}
    (given : threadFor ≠ none) (packetId : PacketIdType) (list : List FramePtr) :
    let sent := queue.prepareSendingList threadFor packetId list
    Selection.LongestWithin queue.heap.packetSize 1048576 (queue.candidates packetId) sent.1 ∧
      ∀ frame, sent.2.heap.frame frame =
        if frame ∈ sent.1 then
          (queue.heap.frame frame).setPacketId (MachineInt.toInt32 packetId.toNat)
        else queue.heap.frame frame := by
  have sendable : ∀ frame ∈ queue.queuedFramesList, queue.heap.Sendable frame :=
    fun frame member => prioritised.same.sendable
      (prioritised.sendable frame (List.mem_append_left _ member))
  rw [prepareSendingList_of_ne_none queue given]
  intro sent
  constructor
  · -- The packet is empty when the loop starts.
    have taken : sent.1 = _ :=
      @prepareFrom_eq_takeWithin queue.queuedMaximumPriority packetId _ _ sendable 0 (by decide)
    rw [taken, prioritised.waitingFrom_eq]
    exact Selection.takeWithin_longestWithin _ _ (by decide) _
  · intro frame
    have named : sent.2.heap = queue.heap.setPacketIds sent.1 _ := prepareFrom_heap ..
    rw [named]
    by_cases allocated : queue.heap.Allocated frame
    · exact FrameHeap.frame_setPacketIds allocated sent.1 _
    · -- A pointer that refers to no frame is not in the queue.
      have outside : frame ∉ sent.1 := fun member =>
        allocated (sendable frame ((prepareFrom_sublist ..).subset member)).allocated
      rw [if_neg outside]
      exact FrameHeap.frame_setPacketIds_of_notMem outside _

/--
In every state that calls lead to, both maximal priorities are those of the frames they are kept
for, and the frames that are prepared are the longest beginning that fits of those that wait with
the highest priority in the queue.
-/
theorem run_prioritised {heap : FrameHeap} {calls : List QueueCall}
    (given : ∀ call ∈ calls, call.HasThread)
    (sendable : ∀ call ∈ calls, ∀ frame ∈ call.frames, heap.Sendable frame) :
    let queue := EventMachine.run step (empty heap) calls
    queue.queuedMaximumPriority.toNat = queue.heap.highestPriority queue.queuedFramesList ∧
    queue.appendingMaximumPriority.toNat = queue.heap.highestPriority queue.appendedFramesList ∧
    ∀ threadFor packetId list, threadFor ≠ none →
      let sent := queue.prepareSendingList threadFor packetId list
      Selection.LongestWithin queue.heap.packetSize 1048576 (queue.candidates packetId) sent.1 ∧
        ∀ frame, sent.2.heap.frame frame =
          if frame ∈ sent.1 then
            (queue.heap.frame frame).setPacketId (MachineInt.toInt32 packetId.toNat)
          else queue.heap.frame frame := by
  intro queue
  have initially : (empty heap).Prioritised heap :=
    ⟨.refl heap, fun _ member => absurd member List.not_mem_nil, rfl, rfl⟩
  -- Every call keeps the maxima, so they are right wherever the calls lead.
  have prioritised : queue.Prioritised heap :=
    EventMachine.run_invariant_of_admitted step
      (fun _ _ admitted before => before.step admitted.2) initially
      (fun call member => And.intro (given call member) (sendable call member))
  refine ⟨?_, ?_, fun threadFor packetId list given =>
    prioritised.prepareSendingList_longestWithin given packetId list⟩
  · exact prioritised.ranked.maximum
  · rw [prioritised.appending, prioritised.same.highestPriority]

/-- A frame of one byte, with a definition of some priority. -/
def smallFrame (priority : UInt8) : DataFrameRawData :=
  ⟨true, [65], 1, [], [], -1, some ⟨[65], false, 1, true, priority, []⟩⟩

/-- Two frames of which the second one is more urgent, in a queue that is asked for a packet. -/
theorem run_prioritised_urgent :
    let queue := EventMachine.run step (empty ⟨[smallFrame 1, smallFrame 5]⟩)
      [.collectAppendingFramesList [0, 1], .applyCollectedFrames none]
    queue.queuedMaximumPriority.toNat = 5 ∧ queue.candidates 7 = [1] ∧
      Selection.LongestWithin queue.heap.packetSize 1048576 (queue.candidates 7)
        (queue.prepareSendingList (some 0) 7 []).1 := by
  -- Both frames fit into a packet, so that nothing is asked of them but their priorities.
  have sendable : ∀ frame ∈ [0, 1], FrameHeap.Sendable ⟨[smallFrame 1, smallFrame 5]⟩ frame := by
    intro frame member
    rcases List.mem_cons.mp member with rfl | member
    · exact ⟨by decide, by decide, by decide⟩
    · obtain rfl := List.mem_singleton.mp member
      exact ⟨by decide, by decide, by decide⟩
  obtain ⟨queued, _, prepared⟩ := @run_prioritised ⟨[smallFrame 1, smallFrame 5]⟩
    [.collectAppendingFramesList [0, 1], .applyCollectedFrames none]
    (by
      intro call member
      rcases List.mem_cons.mp member with rfl | member
      · exact trivial
      · obtain rfl := List.mem_singleton.mp member
        exact trivial)
    (by
      intro call member
      rcases List.mem_cons.mp member with rfl | member
      · exact sendable
      · obtain rfl := List.mem_singleton.mp member
        intro frame member
        cases member)
  exact ⟨queued.trans (by decide), by decide, (prepared (some 0) 7 [] (by decide)).1⟩

end QueueDataFrames

end Threader
