import Threader.Base.Heap
import Threader.Base.MachineInt
import Threader.Frames.DataFrameRawData

/-! `QueueDataFrames`: frames that are collected, wait in order, and are sent in numbered packets. -/

namespace Threader

/-- The frames that shared pointers refer to. -/
abbrev FrameHeap := Heap DataFrameRawData

/-- `DataFrameRawData::Ptr`, where null is `none` of an `Option`. -/
abbrev FramePtr := Heap.Address

/-- `ThreadBase *`, where null is `none` of an `Option`. -/
abbrev ThreadPtr := Nat

/-- `PacketIdType`. -/
abbrev PacketIdType := UInt32

namespace FrameHeap

/-- What a pointer to a frame refers to. -/
def frame (heap : FrameHeap) (pointer : FramePtr) : DataFrameRawData :=
  (heap.read pointer).getD .ignored

/-- `frame->setPacketId(packetId)` through a pointer. -/
def setPacketId (heap : FrameHeap) (pointer : FramePtr) (packetId : Int) : FrameHeap :=
  heap.update pointer (DataFrameRawData.setPacketId packetId)

/-- The same id for some frames, one after another. -/
def setPacketIds (heap : FrameHeap) (frames : List FramePtr) (packetId : Int) : FrameHeap :=
  frames.foldl (fun heap frame => heap.setPacketId frame packetId) heap

/-- Giving an id leaves the frames that exist in place. -/
@[simp] theorem allocated_setPacketId (heap : FrameHeap) (pointer other : FramePtr)
    (packetId : Int) : (heap.setPacketId pointer packetId).Allocated other ↔ heap.Allocated other := by
  simp [Heap.Allocated, setPacketId]

/-- A frame has the id it was given. -/
theorem frame_setPacketId_self {heap : FrameHeap} {pointer : FramePtr}
    (allocated : heap.Allocated pointer) (packetId : Int) :
    (heap.setPacketId pointer packetId).frame pointer = (heap.frame pointer).setPacketId packetId := by
  obtain ⟨stored, found⟩ := Heap.read_isSome allocated
  simp [frame, setPacketId, found]

/-- The other frames keep their ids. -/
theorem frame_setPacketId_ne (heap : FrameHeap) {pointer other : FramePtr}
    (different : pointer ≠ other) (packetId : Int) :
    (heap.setPacketId pointer packetId).frame other = heap.frame other := by
  simp only [frame, setPacketId, Heap.read_update_ne _ _ different]

@[simp] theorem allocated_setPacketIds (heap : FrameHeap) (frames : List FramePtr)
    (packetId : Int) (other : FramePtr) :
    (heap.setPacketIds frames packetId).Allocated other ↔ heap.Allocated other := by
  unfold setPacketIds
  induction frames generalizing heap with
  | nil => rfl
  | cons first frames ih => exact (ih _).trans (allocated_setPacketId ..)

/-- Exactly the frames that are named have the id afterwards. -/
theorem frame_setPacketIds {heap : FrameHeap} {pointer : FramePtr}
    (allocated : heap.Allocated pointer) (frames : List FramePtr) (packetId : Int) :
    (heap.setPacketIds frames packetId).frame pointer =
      if pointer ∈ frames then (heap.frame pointer).setPacketId packetId else heap.frame pointer := by
  unfold setPacketIds
  induction frames generalizing heap with
  | nil => simp
  | cons first frames ih =>
    rw [List.foldl_cons, ih ((allocated_setPacketId ..).mpr allocated)]
    by_cases same : first = pointer
    · -- A second id for the same frame is the same id.
      subst same
      simp only [frame_setPacketId_self allocated, List.mem_cons, true_or, if_true]
      split <;> rfl
    · rw [frame_setPacketId_ne heap same]
      have other : pointer ≠ first := fun equal => same equal.symm
      simp only [List.mem_cons, other, false_or]

/-- A frame that is not named keeps its id. -/
theorem frame_setPacketIds_of_notMem {heap : FrameHeap} {pointer : FramePtr}
    {frames : List FramePtr} (outside : pointer ∉ frames) (packetId : Int) :
    (heap.setPacketIds frames packetId).frame pointer = heap.frame pointer := by
  unfold setPacketIds
  induction frames generalizing heap with
  | nil => rfl
  | cons first frames ih =>
    obtain ⟨different, later⟩ := not_or.mp fun member => outside (List.mem_cons.mpr member)
    rw [List.foldl_cons, ih later, frame_setPacketId_ne heap (Ne.symm different)]

/-- Frames are the same up to their ids. -/
structure SameButIds (before after : FrameHeap) : Prop where
  allocated : ∀ pointer, after.Allocated pointer ↔ before.Allocated pointer
  frame : ∀ pointer, (after.frame pointer).setPacketId 0 = (before.frame pointer).setPacketId 0

namespace SameButIds

variable {before after : FrameHeap}

theorem refl (heap : FrameHeap) : SameButIds heap heap := ⟨fun _ => Iff.rfl, fun _ => rfl⟩

theorem trans {first second third : FrameHeap} (early : SameButIds first second)
    (late : SameButIds second third) : SameButIds first third where
  allocated pointer := (late.allocated pointer).trans (early.allocated pointer)
  frame pointer := (late.frame pointer).trans (early.frame pointer)

/-- No part of a frame but its id has changed. -/
theorem eq (same : SameButIds before after) (pointer : FramePtr) :
    after.frame pointer =
      (before.frame pointer).setPacketId (after.frame pointer).packetId := by
  have cleared := congrArg (DataFrameRawData.setPacketId (after.frame pointer).packetId)
    (same.frame pointer)
  exact cleared

theorem priority (same : SameButIds before after) (pointer : FramePtr) :
    (after.frame pointer).priority = (before.frame pointer).priority := by
  rw [same.eq pointer]
  rfl

theorem length (same : SameButIds before after) (pointer : FramePtr) :
    (after.frame pointer).length = (before.frame pointer).length := by
  rw [same.eq pointer]
  rfl

end SameButIds

/-- Giving one id changes nothing but ids. -/
theorem sameButIds_setPacketId (heap : FrameHeap) (pointer : FramePtr) (packetId : Int) :
    SameButIds heap (heap.setPacketId pointer packetId) where
  allocated other := allocated_setPacketId heap pointer other packetId
  frame other := by
    by_cases same : pointer = other
    · subst same
      -- A pointer to no frame refers to the same thing as before.
      simp only [frame, setPacketId, Heap.read_update_self]
      cases heap.read pointer <;> rfl
    · rw [frame_setPacketId_ne heap same]

/-- Giving ids changes nothing but ids. -/
theorem sameButIds_setPacketIds (heap : FrameHeap) (frames : List FramePtr) (packetId : Int) :
    SameButIds heap (heap.setPacketIds frames packetId) := by
  unfold setPacketIds
  induction frames generalizing heap with
  | nil => exact .refl heap
  | cons first frames ih => exact (sameButIds_setPacketId heap first packetId).trans (ih _)

end FrameHeap

/-- What a queue posts to its thread: a `MessageQueue`, or the event that terminates it. -/
inductive QueueNotice
  | queueChanged
  | terminate
deriving DecidableEq, Repr

/-- `QueueDataFrames`: the two lists, their maximal priorities, and the thread that is notified. -/
structure QueueDataFrames where
  heap : FrameHeap
  appendedFramesList : List FramePtr
  queuedFramesList : List FramePtr
  appendingMaximumPriority : UInt8
  queuedMaximumPriority : UInt8
  thread : Option ThreadPtr
  -- What was posted to which thread so far.
  posted : List (ThreadPtr × QueueNotice)
deriving DecidableEq, Repr

namespace QueueDataFrames

/-- `_maximumPacketSize`. -/
def maximumPacketSize : UInt32 := 1 * 1024 * 1024

/-- The constructor, with the frames there are and without a thread. -/
def empty (heap : FrameHeap) : QueueDataFrames := ⟨heap, [], [], 1, 1, none, []⟩

/-- The comparison that keeps a maximal priority up to date. -/
def raise (maximum priority : UInt8) : UInt8 := if priority > maximum then priority else maximum

/-- The priority of a frame behind a pointer. -/
def priority (queue : QueueDataFrames) (frame : FramePtr) : UInt8 := (queue.heap.frame frame).priority

/-- `collectAppendingFrame(frame)`: a null pointer is passed over. -/
def collectAppendingFrame (queue : QueueDataFrames) (frame : Option FramePtr) :
    Int × QueueDataFrames :=
  let queue := match frame with
    | none => queue
    | some frame => { queue with
      appendedFramesList := queue.appendedFramesList ++ [frame]
      appendingMaximumPriority := raise queue.appendingMaximumPriority (queue.priority frame) }
  (queue.appendedFramesList.length, queue)

/-- `collectAppendingFramesList(list)`: the loop goes over all frames collected so far. -/
def collectAppendingFramesList (queue : QueueDataFrames) (list : List FramePtr) :
    Int × QueueDataFrames :=
  let appended := queue.appendedFramesList ++ list
  let queue := { queue with
    appendedFramesList := appended
    appendingMaximumPriority := appended.foldl
      (fun maximum frame => raise maximum (queue.priority frame)) queue.appendingMaximumPriority }
  (appended.length, queue)

/-- `makeSnapshot(data)`: the frames in the queue one after another. -/
def makeSnapshot (queue : QueueDataFrames) : QByteArray :=
  queue.queuedFramesList.foldl
    (fun data frame => (queue.heap.frame frame).appendByteArray data false) []

/-- The queue after it has posted something to a thread. -/
def post (queue : QueueDataFrames) (thread : ThreadPtr) (notice : QueueNotice) : QueueDataFrames :=
  { queue with posted := queue.posted ++ [(thread, notice)] }

/-- `notifyThreadQueueChanged()`. -/
def notifyThreadQueueChanged (queue : QueueDataFrames) : QueueDataFrames :=
  match queue.thread with
  | some thread => queue.post thread .queueChanged
  | none => queue

/-- `applyCollectedFrames(snapshot)`, with the snapshot afterwards if one is asked for. -/
def applyCollectedFrames (queue : QueueDataFrames) (snapshot : Option QByteArray) :
    Int × Option QByteArray × QueueDataFrames :=
  if queue.appendedFramesList.length = 0 then (0, snapshot, queue)
  else
    let queue := { queue with
      queuedFramesList := queue.queuedFramesList ++ queue.appendedFramesList
      appendedFramesList := []
      queuedMaximumPriority :=
        if queue.queuedMaximumPriority < queue.appendingMaximumPriority then
          queue.appendingMaximumPriority
        else queue.queuedMaximumPriority
      appendingMaximumPriority := 1 }
    let snapshot := snapshot.map fun _ => queue.makeSnapshot
    let queue := queue.notifyThreadQueueChanged
    (queue.queuedFramesList.length, snapshot, queue)

/-- The loop of `prepareSendingList`, from a place of the queue on. -/
def prepareFrom (maximum : UInt8) (packetId : PacketIdType) :
    List FramePtr → UInt64 → FrameHeap → List FramePtr × FrameHeap
  | [], _, heap => ([], heap)
  | pointer :: queued, dataSize, heap =>
    let frame := heap.frame pointer
    if frame.packetId < 1 && frame.priority ≥ maximum then
      let requedDataSize := MachineInt.toInt32 (frame.length.toNat + 4)
      let newDataSize := dataSize + UInt64.ofInt requedDataSize
      if newDataSize < maximumPacketSize.toUInt64 then
        let heap := heap.setPacketId pointer (MachineInt.toInt32 packetId.toNat)
        let later := prepareFrom maximum packetId queued newDataSize heap
        (pointer :: later.1, later.2)
      -- The loop ends at the first frame that does not fit.
      else ([], heap)
    else prepareFrom maximum packetId queued dataSize heap

/-- `prepareSendingList(threadFor, packetId, list)`, with the list afterwards. -/
def prepareSendingList (queue : QueueDataFrames) (threadFor : Option ThreadPtr)
    (packetId : PacketIdType) (list : List FramePtr) : List FramePtr × QueueDataFrames :=
  if threadFor = none ∧ queue.thread ≠ threadFor then (list, queue)
  else
    let prepared :=
      prepareFrom queue.queuedMaximumPriority packetId queue.queuedFramesList 0 queue.heap
    (prepared.1, { queue with heap := prepared.2 })

/-- The state of the loop of `applyTicket`: the count, the maximum, and the frames that stay. -/
structure TicketLoop where
  count : Int
  maximum : UInt8
  kept : List FramePtr

/-- A turn of the loop of `applyTicket`. -/
def ticketTurn (heap : FrameHeap) (packetId : PacketIdType) (pointer : FramePtr)
    (loop : TicketLoop) : TicketLoop :=
  let frame := heap.frame pointer
  if UInt32.ofInt frame.packetId = packetId then { loop with count := loop.count + 1 }
  else { loop with maximum := raise loop.maximum frame.priority, kept := pointer :: loop.kept }

/-- `applyTicket(threadFor, packetId, snapshot)`: the loop runs from the end of the queue. -/
def applyTicket (queue : QueueDataFrames) (threadFor : Option ThreadPtr) (packetId : PacketIdType)
    (snapshot : Option QByteArray) : Int × Option QByteArray × QueueDataFrames :=
  if threadFor = none ∧ queue.thread ≠ threadFor then (0, snapshot, queue)
  else
    let loop := queue.queuedFramesList.foldr (ticketTurn queue.heap packetId) ⟨0, 1, []⟩
    let queue := { queue with
      queuedFramesList := loop.kept
      queuedMaximumPriority := loop.maximum }
    (loop.count, snapshot.map fun _ => queue.makeSnapshot, queue)

/-- `reset()`: the loop takes the id from every frame of the queue. -/
def reset (queue : QueueDataFrames) : QueueDataFrames :=
  { queue with heap := queue.heap.setPacketIds queue.queuedFramesList (-1) }

/-- `bindThread(thread)`: a thread that was bound before is terminated. -/
def bindThread (queue : QueueDataFrames) (thread : Option ThreadPtr) : QueueDataFrames :=
  match thread with
  | none => queue
  | some thread =>
    let queue := match queue.thread with
      | some bound => if bound ≠ thread then queue.post bound .terminate else queue
      | none => queue
    { queue with thread := some thread }.notifyThreadQueueChanged

/-- `unbindThread(thread)`: only the thread that is bound is terminated and forgotten. -/
def unbindThread (queue : QueueDataFrames) (thread : Option ThreadPtr) : QueueDataFrames :=
  match thread with
  | none => queue
  | some thread =>
    if queue.thread ≠ some thread then queue
    else { queue.post thread .terminate with thread := none }

end QueueDataFrames

/-- The calls that change a queue, with their arguments. -/
inductive QueueCall
  | collectAppendingFrame (frame : Option FramePtr)
  | collectAppendingFramesList (list : List FramePtr)
  | applyCollectedFrames (snapshot : Option QByteArray)
  | prepareSendingList (threadFor : Option ThreadPtr) (packetId : PacketIdType) (list : List FramePtr)
  | applyTicket (threadFor : Option ThreadPtr) (packetId : PacketIdType) (snapshot : Option QByteArray)
  | reset
  | bindThread (thread : Option ThreadPtr)
  | unbindThread (thread : Option ThreadPtr)
deriving DecidableEq, Repr

namespace QueueCall

/-- The frames that a call collects. -/
def frames : QueueCall → List FramePtr
  | .collectAppendingFrame frame => frame.toList
  | .collectAppendingFramesList list => list
  | _ => []

/-- The thread a call is made for is not null, where a call names one. -/
def HasThread : QueueCall → Prop
  | .prepareSendingList threadFor _ _ => threadFor ≠ none
  | .applyTicket threadFor _ _ => threadFor ≠ none
  | _ => True

instance : (call : QueueCall) → Decidable call.HasThread
  | .prepareSendingList .. => inferInstanceAs (Decidable (_ ≠ _))
  | .applyTicket .. => inferInstanceAs (Decidable (_ ≠ _))
  | .collectAppendingFrame _ => .isTrue trivial
  | .collectAppendingFramesList _ => .isTrue trivial
  | .applyCollectedFrames _ => .isTrue trivial
  | .reset => .isTrue trivial
  | .bindThread _ => .isTrue trivial
  | .unbindThread _ => .isTrue trivial

end QueueCall

/-- The queue after a call. -/
def QueueDataFrames.step (queue : QueueDataFrames) : QueueCall → QueueDataFrames
  | .collectAppendingFrame frame => (queue.collectAppendingFrame frame).2
  | .collectAppendingFramesList list => (queue.collectAppendingFramesList list).2
  | .applyCollectedFrames snapshot => (queue.applyCollectedFrames snapshot).2.2
  | .prepareSendingList threadFor packetId list =>
    (queue.prepareSendingList threadFor packetId list).2
  | .applyTicket threadFor packetId snapshot => (queue.applyTicket threadFor packetId snapshot).2.2
  | .reset => queue.reset
  | .bindThread thread => queue.bindThread thread
  | .unbindThread thread => queue.unbindThread thread

namespace QueueDataFrames

/-- The frames of a queue and what is known about their priorities have not changed. -/
def SameFrames (before after : QueueDataFrames) : Prop :=
  ∃ thread posted, after = { before with thread := thread, posted := posted }

theorem sameFrames_notifyThreadQueueChanged (queue : QueueDataFrames) :
    queue.SameFrames queue.notifyThreadQueueChanged := by
  unfold notifyThreadQueueChanged
  -- A thread that is bound gets a notice, which is all that happens.
  split
  · exact ⟨_, _, rfl⟩
  · exact ⟨_, _, rfl⟩

/-- Binding a thread leaves the frames alone. -/
theorem sameFrames_bindThread (queue : QueueDataFrames) (thread : Option ThreadPtr) :
    queue.SameFrames (queue.bindThread thread) := by
  cases thread with
  | none => exact ⟨_, _, rfl⟩
  | some thread =>
    -- The notice to the thread that was bound before is posted first.
    have terminated (posted : List (ThreadPtr × QueueNotice)) : queue.SameFrames
        { queue with thread := some thread, posted := posted }.notifyThreadQueueChanged := by
      obtain ⟨_, _, same⟩ := sameFrames_notifyThreadQueueChanged
        { queue with thread := some thread, posted := posted }
      exact ⟨_, _, same⟩
    simp only [bindThread]
    split
    · split
      · exact terminated _
      · exact terminated _
    · exact terminated _

/-- Unbinding a thread leaves the frames alone. -/
theorem sameFrames_unbindThread (queue : QueueDataFrames) (thread : Option ThreadPtr) :
    queue.SameFrames (queue.unbindThread thread) := by
  cases thread with
  | none => exact ⟨_, _, rfl⟩
  | some thread =>
    simp only [unbindThread]
    -- Only the thread that is bound is unbound.
    split
    · exact ⟨_, _, rfl⟩
    · exact ⟨_, _, rfl⟩

/-- What was collected goes behind the queue, and its priority is taken over with it. -/
theorem applyCollectedFrames_cases (queue : QueueDataFrames) (snapshot : Option QByteArray) :
    (queue.appendedFramesList = [] ∧ (queue.applyCollectedFrames snapshot).2.2 = queue) ∨
    (queue.appendedFramesList ≠ [] ∧ SameFrames { queue with
      queuedFramesList := queue.queuedFramesList ++ queue.appendedFramesList
      appendedFramesList := []
      queuedMaximumPriority := raise queue.queuedMaximumPriority queue.appendingMaximumPriority
      appendingMaximumPriority := 1 } (queue.applyCollectedFrames snapshot).2.2) := by
  simp only [applyCollectedFrames, List.length_eq_zero_iff]
  -- The function returns at once when nothing was collected.
  split
  · rename_i empty
    exact .inl ⟨empty, rfl⟩
  · rename_i collected
    exact .inr ⟨collected, sameFrames_notifyThreadQueueChanged _⟩

/-- What was collected is in the queue afterwards, behind what was there. -/
theorem applyCollectedFrames_lists (queue : QueueDataFrames) (snapshot : Option QByteArray) :
    let after := (queue.applyCollectedFrames snapshot).2.2
    after.appendedFramesList = [] ∧
      after.queuedFramesList = queue.queuedFramesList ++ queue.appendedFramesList ∧
      after.heap = queue.heap := by
  rcases queue.applyCollectedFrames_cases snapshot with ⟨empty, unchanged⟩ | ⟨_, _, _, applied⟩
  · simp [unchanged, empty]
  · simp [applied]

/-- A call for a thread prepares what the loop takes from the whole queue. -/
theorem prepareSendingList_of_ne_none (queue : QueueDataFrames) {threadFor : Option ThreadPtr}
    (given : threadFor ≠ none) (packetId : PacketIdType) (list : List FramePtr) :
    queue.prepareSendingList threadFor packetId list =
      let prepared :=
        prepareFrom queue.queuedMaximumPriority packetId queue.queuedFramesList 0 queue.heap
      (prepared.1, { queue with heap := prepared.2 }) := by
  rw [prepareSendingList, if_neg (fun refused => given refused.1)]

/-- The frames that are prepared are those that get the id. -/
theorem prepareFrom_heap (maximum : UInt8) (packetId : PacketIdType) (queued : List FramePtr)
    (dataSize : UInt64) (heap : FrameHeap) :
    (prepareFrom maximum packetId queued dataSize heap).2 =
      heap.setPacketIds (prepareFrom maximum packetId queued dataSize heap).1
        (MachineInt.toInt32 packetId.toNat) := by
  -- The rest of the queue is looked at in the heap that this frame leaves behind.
  induction queued generalizing dataSize heap with
  | nil => rfl
  | cons pointer queued ih =>
    simp only [prepareFrom]
    split
    · split
      · exact ih _ _
      · rfl
    · exact ih dataSize heap

/-- Frames are prepared in the order of the queue. -/
theorem prepareFrom_sublist (maximum : UInt8) (packetId : PacketIdType) (queued : List FramePtr)
    (dataSize : UInt64) (heap : FrameHeap) :
    (prepareFrom maximum packetId queued dataSize heap).1.Sublist queued := by
  -- A frame is taken, ends the loop, or is passed over.
  induction queued generalizing dataSize heap with
  | nil => exact .slnil
  | cons pointer queued ih =>
    simp only [prepareFrom]
    split
    · split
      · exact (ih _ _).cons_cons pointer
      · exact List.nil_sublist _
    · exact (ih dataSize heap).cons pointer

/-- Only frames without a packet are prepared. -/
theorem packetId_of_mem_prepareFrom {maximum : UInt8} {packetId : PacketIdType}
    {queued : List FramePtr} {dataSize : UInt64} {heap : FrameHeap} {frame : FramePtr}
    (member : frame ∈ (prepareFrom maximum packetId queued dataSize heap).1) :
    (heap.frame frame).packetId < 1 := by
  induction queued generalizing dataSize heap with
  | nil => cases member
  | cons pointer queued ih =>
    simp only [prepareFrom] at member
    split at member
    · rename_i taken
      simp only [Bool.and_eq_true, decide_eq_true_eq] at taken
      -- The frame that is taken had no packet when the loop came to it.
      by_cases same : frame = pointer
      · exact same ▸ taken.1
      · split at member
        · -- Another frame has the id it had before this one was taken.
          have later := ih ((List.mem_cons.mp member).resolve_left same)
          rwa [FrameHeap.frame_setPacketId_ne heap (fun equal => same equal.symm)] at later
        · cases member
    · exact ih member

/-- The loop of `applyTicket` keeps the frames with another id, in their order. -/
theorem ticketLoop_kept (heap : FrameHeap) (packetId : PacketIdType) (frames : List FramePtr) :
    (frames.foldr (ticketTurn heap packetId) ⟨0, 1, []⟩).kept =
      frames.filter fun frame => UInt32.ofInt (heap.frame frame).packetId ≠ packetId := by
  -- The loop runs from the last frame to the first, as the fold does.
  induction frames with
  | nil => rfl
  | cons first frames ih =>
    by_cases same : UInt32.ofInt (heap.frame first).packetId = packetId
    · simp [ticketTurn, same, ih]
    · simp [ticketTurn, same, ih]

/-- The loop of `applyTicket` counts the frames with the id. -/
theorem ticketLoop_count (heap : FrameHeap) (packetId : PacketIdType) (frames : List FramePtr) :
    (frames.foldr (ticketTurn heap packetId) ⟨0, 1, []⟩).count =
      (frames.filter fun frame => UInt32.ofInt (heap.frame frame).packetId = packetId).length := by
  induction frames with
  | nil => rfl
  | cons first frames ih =>
    by_cases same : UInt32.ofInt (heap.frame first).packetId = packetId
    · simp [ticketTurn, same, ih]
    · simp [ticketTurn, same, ih]

end QueueDataFrames

end Threader
