import Threader.Frames.QueueLedger
import Threader.Frames.QueueProgress
import Threader.Frames.QueueTickets

/-! What a thread that is not bound to a queue can do to it. -/

namespace Threader

namespace QueueDataFrames

/-- A call takes or acknowledges frames for a thread other than the one that is bound. -/
def Foreign (queue : QueueDataFrames) : QueueCall → Prop
  | .prepareSendingList threadFor _ _ => threadFor ≠ queue.thread
  | .applyTicket threadFor _ _ => threadFor ≠ queue.thread
  | _ => False

/-- A call changes nothing of the queue, nor the list of its caller. -/
def Unchanged (queue : QueueDataFrames) : QueueCall → Prop
  | .prepareSendingList threadFor packetId list =>
    queue.prepareSendingList threadFor packetId list = (list, queue)
  | call => queue.step call = queue

/-- A call of a thread that is not bound changes nothing. -/
def Guarded (queue : QueueDataFrames) (call : QueueCall) : Prop :=
  queue.Foreign call → queue.Unchanged call

/-- A call has nothing to take or to acknowledge, or is made for the bound thread or none. -/
def Spares (queue : QueueDataFrames) : QueueCall → Prop
  | .prepareSendingList threadFor _ list => threadFor = queue.thread ∨ threadFor = none ∨
    (list = [] ∧ ∀ frame, queue.urgentFrames.head? = some frame → ¬ queue.heap.FitsAlone frame)
  | .applyTicket threadFor packetId _ => threadFor = queue.thread ∨ threadFor = none ∨
    ∀ frame ∈ queue.queuedFramesList, UInt32.ofInt (queue.heap.frame frame).packetId ≠ packetId
  | _ => True

/-- The loop takes nothing exactly if the first frame that waits is missing or does not fit. -/
theorem Ranked.prepareFrom_eq_nil_iff {heap : FrameHeap} {queue : QueueDataFrames}
    (ranked : queue.Ranked heap) (packetId : PacketIdType) :
    (prepareFrom queue.queuedMaximumPriority packetId queue.queuedFramesList 0 queue.heap).1 = [] ↔
      ∀ frame, queue.urgentFrames.head? = some frame → ¬ queue.heap.FitsAlone frame := by
  -- The frames that wait with the highest priority are those that the loop stops at.
  rw [← ranked.filter_isWaiting, List.head?_filter]
  exact QueueDataFrames.prepareFrom_eq_nil_iff

/-- A call that takes nothing only empties the list of its caller. -/
theorem Ranked.prepareSendingList_of_spared {heap : FrameHeap} {queue : QueueDataFrames}
    (ranked : queue.Ranked heap) {threadFor : Option ThreadPtr} (given : threadFor ≠ none)
    (packetId : PacketIdType) (list : List FramePtr)
    (spared : ∀ frame, queue.urgentFrames.head? = some frame → ¬ queue.heap.FitsAlone frame) :
    queue.prepareSendingList threadFor packetId list = ([], queue) := by
  have nothing := (ranked.prepareFrom_eq_nil_iff packetId).mpr spared
  rw [prepareSendingList_of_ne_none queue given]
  -- No frame gets the id when none is taken.
  simp only [prepareFrom_heap, nothing]
  rfl

/-- A frame that is taken has the id afterwards, and did not have it before. -/
theorem prepareFrom_heap_ne {maximum : UInt8} {packetId : PacketIdType} {queued : List FramePtr}
    {heap : FrameHeap} (allocated : ∀ frame ∈ queued, heap.Allocated frame)
    (valid : IsPacketId packetId)
    (taken : (prepareFrom maximum packetId queued 0 heap).1 ≠ []) :
    (prepareFrom maximum packetId queued 0 heap).2 ≠ heap := by
  obtain ⟨frame, member⟩ := List.exists_mem_of_ne_nil _ taken
  have waits := packetId_of_mem_prepareFrom member
  have inside := (prepareFrom_sublist ..).subset member
  intro same
  -- If nothing had changed, the frame that waits would have the id already.
  have named := FrameHeap.frame_setPacketIds (allocated frame inside)
    (prepareFrom maximum packetId queued 0 heap).1 (MachineInt.toInt32 packetId.toNat)
  rw [← prepareFrom_heap, same, if_pos member, valid.toInt32_eq] at named
  -- Ids that are handed out are positive.
  have positive : (heap.frame frame).packetId = packetId.toNat :=
    congrArg DataFrameRawData.packetId named
  obtain ⟨least, _⟩ := valid
  omega

/-- A ticket for no frame of the queue changes nothing. -/
theorem Ranked.applyTicket_of_spared {heap : FrameHeap} {queue : QueueDataFrames}
    (ranked : queue.Ranked heap) {threadFor : Option ThreadPtr} (given : threadFor ≠ none)
    {packetId : PacketIdType} (snapshot : Option QByteArray)
    (spared : ∀ frame ∈ queue.queuedFramesList,
      UInt32.ofInt (queue.heap.frame frame).packetId ≠ packetId) :
    (queue.applyTicket threadFor packetId snapshot).2.2 = queue := by
  -- The loop keeps every frame.
  have kept : (queue.queuedFramesList.foldr (ticketTurn queue.heap packetId) ⟨0, 1, []⟩).kept =
      queue.queuedFramesList := by
    rw [ticketLoop_kept, List.filter_eq_self]
    exact fun frame member => decide_eq_true (spared frame member)
  have maximum := ticketLoop_maximum queue.heap packetId queue.queuedFramesList
  simp only [kept] at maximum
  rw [QueueDataFrames.applyTicket, if_neg fun refused => given refused.1]
  -- The maximum that is computed anew is the one that was known.
  simp only [kept, UInt8.toNat_inj.mp (maximum.trans ranked.maximum.symm)]

/-- Where nothing can be taken or acknowledged, a thread that is not bound changes nothing. -/
theorem Ranked.guarded_of_spares {heap : FrameHeap} {queue : QueueDataFrames}
    (ranked : queue.Ranked heap) {call : QueueCall} (spares : queue.Spares call) :
    queue.Guarded call := by
  intro foreign
  cases call with
  | prepareSendingList threadFor packetId list =>
    obtain bound | null | ⟨rfl, spared⟩ := spares
    · exact absurd bound foreign
    · -- Without a thread, the guard does what it is there for.
      subst null
      exact if_pos ⟨rfl, Ne.symm foreign⟩
    · by_cases null : threadFor = none
      · subst null
        exact if_pos ⟨rfl, Ne.symm foreign⟩
      · exact ranked.prepareSendingList_of_spared null packetId [] spared
  | applyTicket threadFor packetId snapshot =>
    -- The guard is the same for tickets.
    have refused (null : threadFor = none) :
        (queue.applyTicket threadFor packetId snapshot).2.2 = queue := by
      subst null
      rw [QueueDataFrames.applyTicket, if_pos ⟨rfl, Ne.symm foreign⟩]
    obtain bound | null | spared := spares
    · exact absurd bound foreign
    · exact refused null
    · by_cases null : threadFor = none
      · exact refused null
      · exact ranked.applyTicket_of_spared null snapshot spared
  | collectAppendingFrame frame => exact absurd foreign id
  | collectAppendingFramesList list => exact absurd foreign id
  | applyCollectedFrames snapshot => exact absurd foreign id
  | reset => exact absurd foreign id
  | bindThread thread => exact absurd foreign id
  | unbindThread thread => exact absurd foreign id

/-- A thread that is not bound and changes nothing had nothing to take or to acknowledge. -/
theorem Ranked.spares_of_guarded {heap : FrameHeap} {queue : QueueDataFrames}
    (ranked : queue.Ranked heap)
    (allocated : ∀ frame ∈ queue.queuedFramesList, queue.heap.Allocated frame) {call : QueueCall}
    (valid : call.HasPacketId) (guarded : queue.Guarded call) : queue.Spares call := by
  cases call with
  | prepareSendingList threadFor packetId list =>
    by_cases bound : threadFor = queue.thread
    · exact .inl bound
    by_cases null : threadFor = none
    · exact .inr (.inl null)
    -- A frame that is taken gets an id, which would change the heap.
    have same : queue.prepareSendingList threadFor packetId list = (list, queue) := guarded bound
    rw [prepareSendingList_of_ne_none queue null] at same
    obtain ⟨list', queue'⟩ := Prod.mk.inj same
    have nothing := Classical.byContradiction fun taken =>
      prepareFrom_heap_ne allocated valid taken (congrArg QueueDataFrames.heap queue')
    have none := (ranked.prepareFrom_eq_nil_iff packetId).mp nothing
    exact .inr (.inr ⟨list'.symm.trans nothing, none⟩)
  | applyTicket threadFor packetId snapshot =>
    by_cases bound : threadFor = queue.thread
    · exact .inl bound
    by_cases null : threadFor = none
    · exact .inr (.inl null)
    -- A frame that is acknowledged would be missing from the queue.
    have same : (queue.applyTicket threadFor packetId snapshot).2.2 = queue := guarded bound
    have kept := congrArg queuedFramesList same
    rw [applyTicket_queuedFramesList fun refused => null refused.1, List.filter_eq_self] at kept
    exact .inr (.inr fun frame member => of_decide_eq_true (kept frame member))
  | collectAppendingFrame frame => trivial
  | collectAppendingFramesList list => trivial
  | applyCollectedFrames snapshot => trivial
  | reset => trivial
  | bindThread thread => trivial
  | unbindThread thread => trivial

/--
In every run, threads that are not bound change nothing as long as they find nothing to take or to
acknowledge, and under the ids that are handed out only then.
-/
theorem run_guarded (heap : FrameHeap) (calls : List QueueCall) :
    (EventMachine.Along step Spares (empty heap) calls →
      EventMachine.Along step Guarded (empty heap) calls) ∧
    ((∀ call ∈ calls, call.HasPacketId ∧ ∀ frame ∈ call.frames, heap.Allocated frame) →
      (EventMachine.Along step Guarded (empty heap) calls ↔
        EventMachine.Along step Spares (empty heap) calls)) := by
  constructor
  · -- The maxima are right in every state, which is all that is needed.
    intro spares
    let invariant (queue : QueueDataFrames) : Prop := queue.Ranked heap
    have preserved (queue : QueueDataFrames) (call : QueueCall) (ranked : invariant queue)
        (_ : queue.Spares call) : invariant (queue.step call) := Ranked.step ranked call
    exact spares.imp step preserved (fun _ _ ranked => Ranked.guarded_of_spares ranked)
      (Ranked.empty heap)
  · -- For the converse, the ids that are handed out have to be told from the mark.
    intro admitted
    let invariant (queue : QueueDataFrames) : Prop :=
      queue.Ranked heap ∧ ∀ frame ∈ queue.listedFrames, heap.Allocated frame
    have initially : invariant (empty heap) := ⟨.empty heap, fun _ => nofun⟩
    refine EventMachine.along_iff_of_along step ?_ ?_ initially
      ((EventMachine.along_iff_forall step).mpr admitted)
    · intro queue call valid holds
      have allocated : ∀ frame ∈ queue.queuedFramesList, queue.heap.Allocated frame :=
        fun frame member => (holds.1.same.allocated frame).mpr
          (holds.2 frame (List.mem_append_left _ member))
      exact ⟨holds.1.spares_of_guarded allocated valid.1, holds.1.guarded_of_spares⟩
    · intro queue call valid holds _
      exact ⟨holds.1.step call, forall_listedFrames_step holds.2 valid.2⟩

/-- A thread that is not bound finds nothing to acknowledge, and no thread at all takes nothing. -/
theorem run_guarded_idle :
    EventMachine.Along step Guarded (empty ⟨[smallFrame 1]⟩)
      [.collectAppendingFrame (some 0), .applyCollectedFrames none, .bindThread (some 1),
        .prepareSendingList none 7 [], .applyTicket (some 0) 7 none] :=
  (run_guarded ⟨[smallFrame 1]⟩ _).1
    ⟨trivial, trivial, trivial, .inr (.inl rfl), .inr (.inr (by decide)), trivial⟩

/-- A thread that was replaced takes and acknowledges a frame of the queue. -/
theorem prepareSendingList_unbound :
    let queue := EventMachine.run step (empty ⟨[smallFrame 1]⟩)
      [.collectAppendingFrame (some 0), .applyCollectedFrames none, .bindThread (some 0),
        .bindThread (some 1)]
    queue.thread = some 1 ∧ (queue.prepareSendingList (some 0) 7 []).1 = [0] ∧
      (queue.step (.prepareSendingList (some 1) 7 [])).queuedFramesList = [0] ∧
      ((queue.step (.prepareSendingList (some 1) 7 [])).step
        (.applyTicket (some 0) 7 none)).queuedFramesList = [] := by
  decide

end QueueDataFrames

end Threader
