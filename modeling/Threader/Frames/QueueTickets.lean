import Threader.Frames.QueueLedger
import Threader.Frames.QueuePriorities

/-! Which tickets leave the frames alone that wait, whatever was handed out before. -/

namespace Threader

namespace QueueDataFrames

/-- The frames that a call hands out: a refused call does not touch the list of its caller. -/
def handedOut (queue : QueueDataFrames) : QueueCall → List FramePtr
  | .prepareSendingList threadFor packetId _ => (queue.prepareSendingList threadFor packetId []).1
  | _ => []

/-- Exactly what is handed out gets the id. -/
theorem handedOut_prepareSendingList (queue : QueueDataFrames) (threadFor : Option ThreadPtr)
    (packetId : PacketIdType) (list : List FramePtr) :
    (queue.prepareSendingList threadFor packetId list).2.heap =
      queue.heap.setPacketIds (queue.handedOut (.prepareSendingList threadFor packetId list))
        (MachineInt.toInt32 packetId.toNat) := by
  rw [handedOut, prepareSendingList, prepareSendingList]
  -- The guard decides the same for both lists.
  split
  · rfl
  · exact prepareFrom_heap ..

/-- A ticket that is accepted drops the frames that have its id. -/
theorem applyTicket_queuedFramesList {queue : QueueDataFrames} {threadFor : Option ThreadPtr}
    (accepted : ¬ (threadFor = none ∧ queue.thread ≠ threadFor)) (packetId : PacketIdType)
    (snapshot : Option QByteArray) :
    (queue.applyTicket threadFor packetId snapshot).2.2.queuedFramesList =
      queue.queuedFramesList.filter
        fun frame => UInt32.ofInt (queue.heap.frame frame).packetId ≠ packetId := by
  rw [applyTicket, if_neg accepted]
  -- The loop keeps every frame that has another id.
  exact ticketLoop_kept ..

/-- A queue, and the frames that were handed out and not returned by a reset since. -/
structure HandingOut where
  queue : QueueDataFrames
  handed : List FramePtr

namespace HandingOut

/-- A queue of which nothing was handed out. -/
def empty (heap : FrameHeap) : HandingOut := ⟨.empty heap, []⟩

/-- A queue after a call, with what is handed out then. -/
def step (state : HandingOut) (call : QueueCall) : HandingOut where
  queue := state.queue.step call
  handed := match call with
    | .reset => state.handed.filter fun frame => frame ∉ state.queue.queuedFramesList
    | call => state.handed ++ state.queue.handedOut call

/-- The frames of the queue that wait. -/
def waitingFrames (state : HandingOut) : List FramePtr :=
  state.queue.queuedFramesList.filter fun frame => frame ∉ state.handed

/-- A frame without a packet has the mark that it was constructed with. -/
structure Marked (heap : FrameHeap) (state : HandingOut) : Prop where
  fresh : ∀ frame ∈ state.queue.listedFrames, heap.Fresh frame
  allocated : ∀ frame, heap.Fresh frame → state.queue.heap.Allocated frame
  waiting : ∀ frame, heap.Fresh frame → frame ∉ state.handed →
    (state.queue.heap.frame frame).packetId = -1

/-- Nothing was handed out of a new queue. -/
theorem Marked.empty (heap : FrameHeap) : (empty heap).Marked heap where
  fresh _ member := absurd member List.not_mem_nil
  allocated _ fresh := fresh.allocated
  waiting _ fresh _ := fresh.unassigned

/-- A frame that is handed out does not wait, and every other call leaves the marks in place. -/
theorem Marked.step {heap : FrameHeap} {state : HandingOut} (marked : state.Marked heap)
    {call : QueueCall} (collected : ∀ frame ∈ call.frames, heap.Fresh frame) :
    (state.step call).Marked heap := by
  have listed := forall_listedFrames_step marked.fresh collected
  -- Most calls keep the heap, and hand nothing out.
  have kept {queue : QueueDataFrames} (same : queue.heap = state.queue.heap)
      (listed : ∀ frame ∈ queue.listedFrames, heap.Fresh frame) :
      Marked heap ⟨queue, state.handed ++ []⟩ := by
    refine ⟨listed, fun frame fresh => ?_, fun frame fresh waits => ?_⟩
    · exact same ▸ marked.allocated frame fresh
    · rw [List.append_nil] at waits
      exact same ▸ marked.waiting frame fresh waits
  cases call with
  | collectAppendingFrame frame =>
    cases frame <;> exact kept rfl listed
  | collectAppendingFramesList list => exact kept rfl listed
  | applyCollectedFrames snapshot =>
    exact kept (state.queue.applyCollectedFrames_lists snapshot).2.2 listed
  | prepareSendingList threadFor packetId list =>
    -- Only the marks of the frames that are handed out are replaced.
    have heap' := state.queue.handedOut_prepareSendingList threadFor packetId list
    refine ⟨listed, fun frame fresh => ?_, fun frame fresh waits => ?_⟩
    · show (state.queue.prepareSendingList threadFor packetId list).2.heap.Allocated frame
      rw [heap', FrameHeap.allocated_setPacketIds]
      exact marked.allocated frame fresh
    · obtain ⟨before, outside⟩ := not_or.mp (mt List.mem_append.mpr waits)
      show
        ((state.queue.prepareSendingList threadFor packetId list).2.heap.frame frame).packetId = -1
      rw [heap', FrameHeap.frame_setPacketIds_of_notMem outside]
      exact marked.waiting frame fresh before
  | applyTicket threadFor packetId snapshot =>
    -- A ticket drops frames from the queue, and leaves them as they are.
    have same : (state.queue.applyTicket threadFor packetId snapshot).2.2.heap =
        state.queue.heap := by
      rw [applyTicket]
      split <;> rfl
    exact kept same listed
  | reset =>
    refine ⟨listed, fun frame fresh => ?_, fun frame fresh waits => ?_⟩
    · exact (FrameHeap.allocated_setPacketIds ..).mpr (marked.allocated frame fresh)
    · show ((state.queue.heap.setPacketIds _ (-1)).frame frame).packetId = -1
      rw [FrameHeap.frame_setPacketIds (marked.allocated frame fresh)]
      split
      · rfl
      · -- A frame outside the queue is not returned.
        rename_i outside
        refine marked.waiting frame fresh fun handed => waits ?_
        exact List.mem_filter.mpr ⟨handed, decide_eq_true outside⟩
  | bindThread thread => exact kept (state.queue.sameFrames_bindThread thread).heap_eq listed
  | unbindThread thread => exact kept (state.queue.sameFrames_unbindThread thread).heap_eq listed

/-- The frames that still wait after a ticket are those that did not have its id. -/
theorem waiting_applyTicket (state : HandingOut) {threadFor : Option ThreadPtr}
    (accepted : ¬ (threadFor = none ∧ state.queue.thread ≠ threadFor)) (packetId : PacketIdType)
    (snapshot : Option QByteArray) :
    (state.queue.applyTicket threadFor packetId snapshot).2.2.queuedFramesList.filter
        (fun frame => frame ∉ state.handed) =
      state.waitingFrames.filter
        fun frame => UInt32.ofInt (state.queue.heap.frame frame).packetId ≠ packetId := by
  rw [applyTicket_queuedFramesList accepted, waitingFrames, List.filter_filter, List.filter_filter]
  -- Both sides ask the same two questions.
  simp only [Bool.and_comm]

end HandingOut

/--
In every state that calls lead to, a ticket leaves all frames alone that wait, unless it names the
id that their mark is taken for.
-/
theorem run_ticket_spares_iff {heap : FrameHeap} {calls : List QueueCall}
    (fresh : ∀ call ∈ calls, ∀ frame ∈ call.frames, heap.Fresh frame) :
    let state := EventMachine.run HandingOut.step (.empty heap) calls
    ∀ threadFor packetId snapshot,
      (state.queue.applyTicket threadFor packetId snapshot).2.2.queuedFramesList.filter
          (fun frame => frame ∉ state.handed) = state.waitingFrames ↔
        (threadFor = none ∧ state.queue.thread ≠ none) ∨ packetId ≠ 0xFFFFFFFF ∨
          state.waitingFrames = [] := by
  intro state threadFor packetId snapshot
  -- The marks are in place in every state that the calls lead to.
  have marked : state.Marked heap :=
    EventMachine.run_invariant_of_admitted HandingOut.step
      (fun _ _ collected before => before.step collected) (.empty heap) fresh
  by_cases refused : threadFor = none ∧ state.queue.thread ≠ threadFor
  · -- The guard leaves everything as it is.
    rw [applyTicket, if_pos refused]
    exact iff_of_true rfl (.inl ⟨refused.1, refused.1 ▸ refused.2⟩)
  · -- Compared as an unsigned number, the mark of a frame that waits is the greatest one.
    have mark : ∀ frame ∈ state.waitingFrames,
        UInt32.ofInt (state.queue.heap.frame frame).packetId = 0xFFFFFFFF := by
      intro frame member
      obtain ⟨queued, waits⟩ := List.mem_filter.mp member
      have known := marked.fresh frame (List.mem_append_left _ queued)
      rw [marked.waiting frame known (of_decide_eq_true waits)]
      rfl
    rw [HandingOut.waiting_applyTicket state refused, List.filter_eq_self]
    constructor
    · intro spared
      by_cases named : packetId = 0xFFFFFFFF
      · -- Any frame that waits would have been dropped.
        refine .inr (.inr (List.eq_nil_iff_forall_not_mem.mpr fun frame member => ?_))
        exact of_decide_eq_true (spared frame member) ((mark frame member).trans named.symm)
      · exact .inr (.inl named)
    · rintro (given | named | empty) frame member
      · exact absurd ⟨given.1, given.1 ▸ given.2⟩ refused
      · rw [mark frame member]
        exact decide_eq_true (Ne.symm named)
      · exact absurd (empty ▸ member) List.not_mem_nil

/-- A ticket for another packet leaves the frame alone that waits behind the one it names. -/
theorem run_ticket_spares_iff_named :
    let state := EventMachine.run HandingOut.step (.empty ⟨[smallFrame 5, smallFrame 1]⟩)
      [.collectAppendingFramesList [0, 1], .applyCollectedFrames none,
        .prepareSendingList (some 0) 7 []]
    state.waitingFrames = [1] ∧
      (state.queue.applyTicket (some 0) 7 none).2.2.queuedFramesList.filter
        (fun frame => frame ∉ state.handed) = state.waitingFrames :=
  ⟨by decide, (@run_ticket_spares_iff ⟨[smallFrame 5, smallFrame 1]⟩
    [.collectAppendingFramesList [0, 1], .applyCollectedFrames none,
      .prepareSendingList (some 0) 7 []] (by decide) (some 0) 7 none).mpr
    (.inr (.inl (by decide)))⟩

/-- A ticket with the greatest number drops a frame that was never handed out. -/
theorem applyTicket_drops_waiting :
    let state := EventMachine.run HandingOut.step (.empty ⟨[smallFrame 5, smallFrame 1]⟩)
      [.collectAppendingFramesList [0, 1], .applyCollectedFrames none,
        .prepareSendingList (some 0) 7 []]
    state.waitingFrames = [1] ∧
      (state.queue.applyTicket (some 0) 0xFFFFFFFF none).2.2.queuedFramesList = [0] := by
  decide

end QueueDataFrames

end Threader
