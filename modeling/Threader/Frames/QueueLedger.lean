import Mathlib.Data.List.Induction
import Threader.Base.EventMachine
import Threader.Base.Ledger
import Threader.Frames.QueueDataFrames

/-! A queue keeps a ledger of its frames, in which every frame is acknowledged once. -/

namespace Threader

/-- The ids that `generateNextPacketId` hands out. -/
def IsPacketId (packetId : PacketIdType) : Prop :=
  1 ≤ packetId.toNat ∧ packetId.toNat ≤ 0x1FFFFFFE

instance (packetId : PacketIdType) : Decidable (IsPacketId packetId) :=
  inferInstanceAs (Decidable (_ ∧ _))

namespace IsPacketId

variable {packetId : PacketIdType}

/-- An id is itself when it is kept as an `int`. -/
theorem toInt32_eq (valid : IsPacketId packetId) :
    MachineInt.toInt32 packetId.toNat = packetId.toNat := by
  obtain ⟨_, last⟩ := valid
  exact MachineInt.toInt32_of_fits (by omega) (by omega)

/-- The mark of a frame without a packet is no id. -/
theorem ne_unassigned (valid : IsPacketId packetId) : UInt32.ofInt (-1) ≠ packetId := by
  intro same
  -- As an unsigned number, the mark is far above the last id.
  obtain ⟨_, last⟩ := valid
  have value := congrArg UInt32.toNat same
  have unassigned : (UInt32.ofInt (-1)).toNat = 0xFFFFFFFF := rfl
  omega

end IsPacketId

/-- An id that is kept as an `int` is compared as it was. -/
theorem ofInt_toNat (packetId : PacketIdType) : UInt32.ofInt packetId.toNat = packetId := by
  apply UInt32.toNat_inj.mp
  have small := packetId.toNat_lt
  rw [UInt32.ofInt, UInt32.toNat_ofNat']
  omega

namespace QueueCall

/-- The packet id of a call is one that is handed out, where a call names one. -/
def HasPacketId : QueueCall → Prop
  | .prepareSendingList _ packetId _ => IsPacketId packetId
  | .applyTicket _ packetId _ => IsPacketId packetId
  | _ => True

instance : (call : QueueCall) → Decidable call.HasPacketId
  | .prepareSendingList .. => inferInstanceAs (Decidable (IsPacketId _))
  | .applyTicket .. => inferInstanceAs (Decidable (IsPacketId _))
  | .collectAppendingFrame _ => .isTrue trivial
  | .collectAppendingFramesList _ => .isTrue trivial
  | .applyCollectedFrames _ => .isTrue trivial
  | .reset => .isTrue trivial
  | .bindThread _ => .isTrue trivial
  | .unbindThread _ => .isTrue trivial

end QueueCall

/-- A frame that exists and has no packet, as the constructor leaves it. -/
structure FrameHeap.Fresh (heap : FrameHeap) (frame : FramePtr) : Prop where
  allocated : heap.Allocated frame
  unassigned : (heap.frame frame).packetId = -1

instance (heap : FrameHeap) (frame : FramePtr) : Decidable (heap.Fresh frame) :=
  decidable_of_iff (heap.Allocated frame ∧ (heap.frame frame).packetId = -1)
    ⟨fun both => ⟨both.1, both.2⟩, fun fresh => ⟨fresh.allocated, fresh.unassigned⟩⟩

/-- The ledger of a queue has pointers for items, and packet ids for ids. -/
abbrev FramesLedger := Ledger FramePtr PacketIdType

namespace QueueDataFrames

/-- The packet id by which a queue knows the progress of a frame. -/
def Marks (packetId : Int) : Ledger.Progress PacketIdType → Prop
  | .waiting => packetId = -1
  | .inFlight id => IsPacketId id ∧ packetId = id.toNat
  | .acknowledged => True

/-- As long as a frame is not acknowledged, its id is the one it is in flight under. -/
theorem Marks.ofInt_eq_iff {assigned : Int} {progress : Ledger.Progress PacketIdType}
    (mark : Marks assigned progress) (pending : progress ≠ .acknowledged) {packetId : PacketIdType}
    (valid : IsPacketId packetId) :
    UInt32.ofInt assigned = packetId ↔ progress = .inFlight packetId := by
  cases progress with
  | waiting =>
    -- A frame that waits has the mark, which is no id.
    have unassigned : assigned = -1 := mark
    rw [unassigned]
    exact iff_of_false valid.ne_unassigned (by simp)
  | inFlight id =>
    rw [mark.2, ofInt_toNat, Ledger.Progress.inFlight.injEq]
  | acknowledged => exact absurd rfl pending

/-- A queue holds what a ledger says about frames that exist and are listed once. -/
structure Represents (queue : QueueDataFrames) (ledger : FramesLedger) : Prop where
  appended : queue.appendedFramesList = ledger.collected
  queued : queue.queuedFramesList = ledger.pending
  distinct : ledger.items.Nodup
  allocated : ∀ frame ∈ ledger.items, queue.heap.Allocated frame
  unassigned : ∀ frame ∈ ledger.collected, (queue.heap.frame frame).packetId = -1
  marked : ∀ frame progress, (frame, progress) ∈ ledger.applied →
    Marks (queue.heap.frame frame).packetId progress

/-- What a call does to the ledger, as far as the answer of the queue shows it. -/
def ledgerEvent (queue : QueueDataFrames) :
    QueueCall → Option (Ledger.Event FramePtr PacketIdType)
  | .collectAppendingFrame frame => some (.collect frame.toList)
  | .collectAppendingFramesList list => some (.collect list)
  | .applyCollectedFrames _ => some .apply
  | .prepareSendingList threadFor packetId list =>
    some (.send packetId (queue.prepareSendingList threadFor packetId list).1)
  | .applyTicket _ packetId _ => some (.acknowledge packetId)
  | .reset => some .reset
  | .bindThread _ => none
  | .unbindThread _ => none

/-- A queue and its ledger after a call. -/
def ledgerStep (state : QueueDataFrames × FramesLedger) (call : QueueCall) :
    QueueDataFrames × FramesLedger :=
  (state.1.step call, (state.1.ledgerEvent call).elim state.2 state.2.step)

namespace Represents

variable {queue : QueueDataFrames} {ledger : FramesLedger}

theorem of_sameFrames {after : QueueDataFrames} (represents : queue.Represents ledger)
    (same : queue.SameFrames after) : after.Represents ledger := by
  obtain ⟨thread, posted, rfl⟩ := same
  exact ⟨represents.appended, represents.queued, represents.distinct, represents.allocated,
    represents.unassigned, represents.marked⟩

/-- What the queue selects by the ids of its frames is what the ledger selects by their progress. -/
theorem filter_queued (represents : queue.Represents ledger) {keep : Int → Bool}
    {kind : Ledger.Progress PacketIdType → Bool}
    (agree : ∀ assigned progress, Marks assigned progress → progress ≠ .acknowledged →
      keep assigned = kind progress)
    (unfinished : kind .acknowledged = false) :
    queue.queuedFramesList.filter (fun frame => keep (queue.heap.frame frame).packetId) =
      ledger.having kind := by
  rw [represents.queued]
  apply Ledger.filter_having
  intro frame progress listed
  -- What was acknowledged is in the queue no longer, and any other frame has its mark.
  have mark := represents.marked frame progress listed
  by_cases finished : progress = .acknowledged
  · rw [finished, unfinished]
    rfl
  · rw [agree _ progress mark finished, decide_eq_true finished, Bool.true_and]

/-- The queue finds the frames that wait by their ids. -/
theorem waiting_eq (represents : queue.Represents ledger) :
    queue.queuedFramesList.filter (fun frame => (queue.heap.frame frame).packetId < 1) =
      ledger.waiting := by
  refine @filter_queued _ _ represents (fun assigned => assigned < 1) _ ?_ rfl
  intro assigned progress mark pending
  cases progress with
  | waiting =>
    have unassigned : assigned = -1 := mark
    rw [unassigned]
    rfl
  | inFlight id =>
    -- Every id that is handed out is positive.
    obtain ⟨⟨positive, _⟩, named⟩ := mark
    have sent : ¬ assigned < 1 := by omega
    rw [decide_eq_false sent]
    rfl
  | acknowledged => exact absurd rfl pending

/-- The queue finds the frames that were sent under an id by their ids. -/
theorem inFlight_eq (represents : queue.Represents ledger) {packetId : PacketIdType}
    (valid : IsPacketId packetId) :
    queue.queuedFramesList.filter
        (fun frame => UInt32.ofInt (queue.heap.frame frame).packetId = packetId) =
      ledger.inFlight packetId := by
  refine @filter_queued _ _ represents (fun assigned => UInt32.ofInt assigned = packetId) _ ?_ rfl
  intro assigned progress mark pending
  exact decide_eq_decide.mpr (mark.ofInt_eq_iff pending valid)

/-- Collecting frames adds them to the ledger. -/
theorem collect (represents : queue.Represents ledger) {frames : List FramePtr}
    (admitted : ledger.Admits (.collect frames)) (fresh : ∀ frame ∈ frames, queue.heap.Fresh frame)
    (maximum : UInt8) :
    Represents { queue with
      appendedFramesList := queue.appendedFramesList ++ frames
      appendingMaximumPriority := maximum } (ledger.step (.collect frames)) where
  appended := congrArg (· ++ frames) represents.appended
  queued := represents.queued
  distinct := Ledger.nodup_step represents.distinct admitted
  allocated frame member := by
    rw [Ledger.items_collect] at member
    rcases List.mem_append.mp member with old | new
    · exact represents.allocated frame old
    · exact (fresh frame new).allocated
  unassigned frame member := by
    rcases List.mem_append.mp member with old | new
    · exact represents.unassigned frame old
    · exact (fresh frame new).unassigned
  marked := represents.marked

/-- Applying what was collected makes it wait behind the rest of the queue. -/
theorem apply (represents : queue.Represents ledger) (snapshot : Option QByteArray) :
    (queue.applyCollectedFrames snapshot).2.2.Represents (ledger.step .apply) := by
  obtain ⟨appended, queued, heap⟩ := queue.applyCollectedFrames_lists snapshot
  -- The lists are joined, and the frames themselves stay as they are.
  refine ⟨appended, ?_, Ledger.nodup_step represents.distinct trivial, ?_, ?_, ?_⟩
  · rw [queued, Ledger.pending_apply, represents.queued, represents.appended]
  · rw [Ledger.items_apply, heap]
    exact represents.allocated
  · intro frame member
    cases member
  · intro frame progress listed
    rw [heap]
    rcases List.mem_append.mp listed with old | new
    · exact represents.marked frame progress old
    · -- What was collected has no packet yet.
      obtain ⟨_, member, same⟩ := List.mem_map.mp new
      cases same
      exact represents.unassigned frame member

/-- Only frames that wait are prepared. -/
theorem prepared_sublist (represents : queue.Represents ledger) {threadFor : Option ThreadPtr}
    (given : threadFor ≠ none) (packetId : PacketIdType) (list : List FramePtr) :
    (queue.prepareSendingList threadFor packetId list).1.Sublist ledger.waiting := by
  rw [prepareSendingList_of_ne_none queue given, ← represents.waiting_eq]
  have order := prepareFrom_sublist queue.queuedMaximumPriority packetId queue.queuedFramesList 0
    queue.heap
  -- All that is prepared passes the filter by which the queue finds what waits.
  have unassigned := List.filter_eq_self.mpr fun frame member =>
    decide_eq_true (@packetId_of_mem_prepareFrom queue.queuedMaximumPriority packetId
      queue.queuedFramesList 0 queue.heap frame member)
  exact unassigned ▸ order.filter _

theorem allocated_of_listed (represents : queue.Represents ledger) {frame : FramePtr}
    {progress : Ledger.Progress PacketIdType} (listed : (frame, progress) ∈ ledger.applied) :
    queue.heap.Allocated frame :=
  represents.allocated frame (List.mem_append_left _ (List.mem_map_of_mem listed))

/-- Preparing a packet sends frames that wait under its id. -/
theorem send (represents : queue.Represents ledger) {threadFor : Option ThreadPtr}
    (given : threadFor ≠ none) {packetId : PacketIdType} (valid : IsPacketId packetId)
    (list : List FramePtr) :
    let sent := queue.prepareSendingList threadFor packetId list
    sent.2.Represents (ledger.step (.send packetId sent.1)) := by
  have waits := represents.prepared_sublist given packetId list
  rw [prepareSendingList_of_ne_none queue given] at waits ⊢
  intro sent
  -- The id is written into exactly what is sent.
  have named : sent.2.heap = queue.heap.setPacketIds sent.1 packetId.toNat := by
    rw [← valid.toInt32_eq]
    exact prepareFrom_heap ..
  refine ⟨represents.appended,
    represents.queued.trans (Ledger.pending_send represents.distinct waits).symm,
    Ledger.nodup_step represents.distinct waits, ?_, ?_, ?_⟩
  · intro frame member
    rw [named, FrameHeap.allocated_setPacketIds]
    simp only [Ledger.step, Ledger.items_advance] at member
    exact represents.allocated frame member
  · intro frame collected
    -- What was only collected does not wait in the queue, so it is not sent.
    have outside : frame ∉ sent.1 := fun chosen =>
      Ledger.notMem_waiting_of_collected represents.distinct collected (waits.subset chosen)
    rw [named, FrameHeap.frame_setPacketIds_of_notMem outside]
    exact represents.unassigned frame collected
  · intro frame after listed
    obtain ⟨progress, before, rfl⟩ := Ledger.mem_advance listed
    rw [named, FrameHeap.frame_setPacketIds (represents.allocated_of_listed before)]
    split
    · exact ⟨valid, rfl⟩
    · exact represents.marked frame progress before

/-- A ticket acknowledges what was sent under its id. -/
theorem acknowledge (represents : queue.Represents ledger) {threadFor : Option ThreadPtr}
    (given : threadFor ≠ none) {packetId : PacketIdType} (valid : IsPacketId packetId)
    (snapshot : Option QByteArray) :
    (queue.applyTicket threadFor packetId snapshot).2.2.Represents
      (ledger.step (.acknowledge packetId)) := by
  rw [applyTicket, if_neg (fun refused => given refused.1)]
  refine ⟨represents.appended, ?_, Ledger.nodup_step represents.distinct trivial, ?_,
    represents.unassigned, ?_⟩
  · -- The queue drops exactly what the ledger takes for acknowledged.
    refine (ticketLoop_kept ..).trans (Eq.trans ?_ (Ledger.pending_acknowledge packetId).symm)
    refine @filter_queued _ _ represents (fun assigned => UInt32.ofInt assigned ≠ packetId) _ ?_ rfl
    intro assigned progress mark pending
    refine decide_eq_decide.mpr ((not_congr (mark.ofInt_eq_iff pending valid)).trans ?_)
    exact (and_iff_right pending).symm
  · intro frame member
    simp only [Ledger.step, Ledger.items_advance] at member
    exact represents.allocated frame member
  · intro frame after listed
    obtain ⟨progress, before, rfl⟩ := Ledger.mem_advance listed
    unfold Ledger.acknowledged
    -- Nothing is asked of a frame once it is acknowledged.
    split
    · exact trivial
    · exact represents.marked frame progress before

/-- A ticket counts what was sent under its id. -/
theorem count_eq (represents : queue.Represents ledger) {threadFor : Option ThreadPtr}
    (given : threadFor ≠ none) {packetId : PacketIdType} (valid : IsPacketId packetId)
    (snapshot : Option QByteArray) :
    (queue.applyTicket threadFor packetId snapshot).1 = (ledger.inFlight packetId).length := by
  rw [applyTicket, if_neg (fun refused => given refused.1), ← represents.inFlight_eq valid]
  exact ticketLoop_count ..

/-- A reset has everything that was sent wait again. -/
theorem reset (represents : queue.Represents ledger) :
    queue.reset.Represents (ledger.step .reset) := by
  refine ⟨represents.appended, represents.queued.trans Ledger.pending_reset.symm,
    Ledger.nodup_step represents.distinct trivial, ?_, ?_, ?_⟩
  · intro frame member
    simp only [Ledger.step, Ledger.items_advance] at member
    exact (FrameHeap.allocated_setPacketIds ..).mpr (represents.allocated frame member)
  · intro frame collected
    -- Whether the loop reaches it or not, a collected frame keeps its mark.
    have allocated := represents.allocated frame (List.mem_append_right _ collected)
    have unassigned := represents.unassigned frame collected
    simp only [QueueDataFrames.reset, FrameHeap.frame_setPacketIds allocated]
    split
    · rfl
    · exact unassigned
  · intro frame after listed
    obtain ⟨progress, before, rfl⟩ := Ledger.mem_advance listed
    simp only [QueueDataFrames.reset,
      FrameHeap.frame_setPacketIds (represents.allocated_of_listed before)]
    have mark := represents.marked frame progress before
    cases progress with
    | waiting =>
      split
      · rfl
      · exact mark
    | inFlight id =>
      -- What was sent is in the queue, so the loop takes its id away.
      have queued : frame ∈ queue.queuedFramesList := by
        rw [represents.queued]
        exact Ledger.mem_having.mpr ⟨_, before, rfl⟩
      rw [if_pos queued]
      rfl
    | acknowledged => trivial

/-- The ledger admits what a call does, if only new frames are collected. -/
theorem admits (represents : queue.Represents ledger) {call : QueueCall} (given : call.HasThread)
    (new : (ledger.items ++ call.frames).Nodup) {event : Ledger.Event FramePtr PacketIdType}
    (does : queue.ledgerEvent call = some event) : ledger.Admits event := by
  -- Only collecting and sending ask something of the ledger.
  cases call with
  | collectAppendingFrame frame =>
    cases does
    exact new
  | collectAppendingFramesList list =>
    cases does
    exact new
  | applyCollectedFrames snapshot =>
    cases does
    exact trivial
  | prepareSendingList threadFor packetId list =>
    cases does
    exact represents.prepared_sublist given packetId list
  | applyTicket threadFor packetId snapshot =>
    cases does
    exact trivial
  | reset =>
    cases does
    exact trivial
  | bindThread thread => cases does
  | unbindThread thread => cases does

/-- The queue after a call holds what the ledger says after it. -/
theorem step (represents : queue.Represents ledger) {call : QueueCall} (given : call.HasThread)
    (valid : call.HasPacketId) (new : (ledger.items ++ call.frames).Nodup)
    (fresh : ∀ frame ∈ call.frames, queue.heap.Fresh frame) :
    (ledgerStep (queue, ledger) call).1.Represents (ledgerStep (queue, ledger) call).2 := by
  cases call with
  | collectAppendingFrame frame =>
    -- No frame at all is collected as an empty list.
    have collected := represents.collect new fresh
      (queue.collectAppendingFrame frame).2.appendingMaximumPriority
    cases frame with
    | none =>
      simp only [QueueCall.frames, Option.toList_none, List.append_nil] at collected
      exact collected
    | some frame => exact collected
  | collectAppendingFramesList list =>
    exact represents.collect new fresh
      (queue.collectAppendingFramesList list).2.appendingMaximumPriority
  | applyCollectedFrames snapshot => exact represents.apply snapshot
  | prepareSendingList threadFor packetId list => exact represents.send given valid list
  | applyTicket threadFor packetId snapshot => exact represents.acknowledge given valid snapshot
  | reset => exact represents.reset
  | bindThread thread => exact represents.of_sameFrames (queue.sameFrames_bindThread thread)
  | unbindThread thread => exact represents.of_sameFrames (queue.sameFrames_unbindThread thread)

end Represents

/-- The items of the ledger are the frames that were collected. -/
theorem items_ledgerStep (queue : QueueDataFrames) (ledger : FramesLedger) (call : QueueCall) :
    (ledgerStep (queue, ledger) call).2.items = ledger.items ++ call.frames := by
  cases call with
  | collectAppendingFrame frame => exact Ledger.items_step ledger (.collect frame.toList)
  | collectAppendingFramesList list => exact Ledger.items_step ledger (.collect list)
  | applyCollectedFrames snapshot => exact Ledger.items_step ledger .apply
  | prepareSendingList threadFor packetId list => exact Ledger.items_step ledger (.send packetId _)
  | applyTicket threadFor packetId snapshot => exact Ledger.items_step ledger (.acknowledge packetId)
  | reset => exact Ledger.items_step ledger .reset
  | bindThread thread => exact (List.append_nil _).symm
  | unbindThread thread => exact (List.append_nil _).symm

/-- A call changes no frame but those in the queue. -/
theorem frame_step_of_notMem (queue : QueueDataFrames) {call : QueueCall} (given : call.HasThread)
    {frame : FramePtr} (outside : frame ∉ queue.queuedFramesList) :
    (queue.step call).heap.frame frame = queue.heap.frame frame ∧
      ((queue.step call).heap.Allocated frame ↔ queue.heap.Allocated frame) := by
  cases call with
  | collectAppendingFrame frame => cases frame <;> exact ⟨rfl, Iff.rfl⟩
  | collectAppendingFramesList list => exact ⟨rfl, Iff.rfl⟩
  | applyCollectedFrames snapshot =>
    have heap := (queue.applyCollectedFrames_lists snapshot).2.2
    simp only [QueueDataFrames.step, heap, and_self]
  | prepareSendingList threadFor packetId list =>
    -- Only frames of the queue are sent, and no other frame gets the id.
    simp only [QueueDataFrames.step, prepareSendingList_of_ne_none queue given, prepareFrom_heap]
    have unsent := fun sent => outside
      ((prepareFrom_sublist queue.queuedMaximumPriority packetId queue.queuedFramesList 0
        queue.heap).subset sent)
    exact ⟨FrameHeap.frame_setPacketIds_of_notMem unsent _, FrameHeap.allocated_setPacketIds ..⟩
  | applyTicket threadFor packetId snapshot =>
    have heap : (queue.applyTicket threadFor packetId snapshot).2.2.heap = queue.heap := by
      rw [applyTicket, if_neg (fun refused => given refused.1)]
    simp only [QueueDataFrames.step, heap, and_self]
  | reset =>
    exact ⟨FrameHeap.frame_setPacketIds_of_notMem outside _, FrameHeap.allocated_setPacketIds ..⟩
  | bindThread thread =>
    obtain ⟨_, _, same⟩ := queue.sameFrames_bindThread thread
    simp only [QueueDataFrames.step, same, and_self]
  | unbindThread thread =>
    obtain ⟨_, _, same⟩ := queue.sameFrames_unbindThread thread
    simp only [QueueDataFrames.step, same, and_self]

/-- Calls for a thread, with packet ids that are handed out, that collect distinct fresh frames. -/
structure Proper (heap : FrameHeap) (calls : List QueueCall) : Prop where
  given : ∀ call ∈ calls, call.HasThread
  valid : ∀ call ∈ calls, call.HasPacketId
  distinct : (calls.flatMap QueueCall.frames).Nodup
  fresh : ∀ frame ∈ calls.flatMap QueueCall.frames, heap.Fresh frame

/-- The calls before the last one are proper, too. -/
theorem Proper.of_concat {heap : FrameHeap} {calls : List QueueCall} {call : QueueCall}
    (proper : Proper heap (calls ++ [call])) : Proper heap calls where
  given earlier member := proper.given earlier (List.mem_append_left _ member)
  valid earlier member := proper.valid earlier (List.mem_append_left _ member)
  distinct := by
    have distinct := proper.distinct
    rw [List.flatMap_append] at distinct
    exact List.Nodup.of_append_left distinct
  fresh frame member := proper.fresh frame (by
    rw [List.flatMap_append]
    exact List.mem_append_left _ member)

/-- A queue and its ledger after proper calls. -/
structure Keeps (heap : FrameHeap) (calls : List QueueCall)
    (state : QueueDataFrames × FramesLedger) : Prop where
  queue : state.1 = EventMachine.run step (empty heap) calls
  represents : state.1.Represents state.2
  items : state.2.items = calls.flatMap QueueCall.frames
  untouched : ∀ frame, frame ∉ state.2.items → state.1.heap.frame frame = heap.frame frame ∧
    (state.1.heap.Allocated frame ↔ heap.Allocated frame)

/-- What a proper call collects is new to the ledger, and fresh. -/
theorem Keeps.collects {heap : FrameHeap} {calls : List QueueCall}
    {state : QueueDataFrames × FramesLedger} (keeps : Keeps heap calls state) {call : QueueCall}
    (proper : Proper heap (calls ++ [call])) :
    (state.2.items ++ call.frames).Nodup ∧ ∀ frame ∈ call.frames, state.1.heap.Fresh frame := by
  have distinct := proper.distinct
  simp only [List.flatMap_append, List.flatMap_cons, List.flatMap_nil, List.append_nil,
    ← keeps.items] at distinct
  refine ⟨distinct, fun frame member => ?_⟩
  -- The frame is what it was at the beginning, because no call has collected it yet.
  have outside : frame ∉ state.2.items := fun listed =>
    List.disjoint_of_nodup_append distinct listed member
  obtain ⟨same, allocated⟩ := keeps.untouched frame outside
  have fresh := proper.fresh frame (by simp [member])
  exact ⟨allocated.mpr fresh.allocated, (congrArg DataFrameRawData.packetId same).trans
    fresh.unassigned⟩

/-- A proper call keeps the ledger. -/
theorem Keeps.step {heap : FrameHeap} {calls : List QueueCall}
    {state : QueueDataFrames × FramesLedger} (keeps : Keeps heap calls state) {call : QueueCall}
    (proper : Proper heap (calls ++ [call])) : Keeps heap (calls ++ [call]) (ledgerStep state call) := by
  have given := proper.given call (by simp)
  have valid := proper.valid call (by simp)
  -- What the call collects is new, so the step of the ledger is admitted.
  obtain ⟨new, fresh⟩ := keeps.collects proper
  have items := items_ledgerStep state.1 state.2 call
  refine ⟨?_, keeps.represents.step given valid new fresh, ?_, fun frame outside => ?_⟩
  · rw [EventMachine.run_concat, ← keeps.queue]
    rfl
  · rw [items, keeps.items]
    simp
  · rw [items] at outside
    have earlier : frame ∉ state.2.items := fun listed => outside (List.mem_append_left _ listed)
    -- The queue holds only frames that the ledger lists.
    have unqueued : frame ∉ state.1.queuedFramesList := by
      rw [keeps.represents.queued]
      intro pending
      obtain ⟨progress, listed, _⟩ := Ledger.mem_having.mp pending
      exact earlier (List.mem_append_left _ (List.mem_map_of_mem listed))
    obtain ⟨same, allocated⟩ := frame_step_of_notMem state.1 given unqueued
    obtain ⟨before, existed⟩ := keeps.untouched frame earlier
    exact ⟨same.trans before, allocated.trans existed⟩

/-- Proper calls keep the ledger. -/
theorem run_keeps {heap : FrameHeap} {calls : List QueueCall} (proper : Proper heap calls) :
    Keeps heap calls (EventMachine.run ledgerStep (empty heap, .empty) calls) := by
  -- Induction on the last call.
  induction calls using List.reverseRecOn with
  | nil =>
    -- An empty ledger says nothing about any frame.
    refine ⟨rfl, ⟨rfl, rfl, List.nodup_nil, ?_, ?_, ?_⟩, rfl, fun _ _ => ⟨rfl, Iff.rfl⟩⟩
    · intro frame member
      cases member
    · intro frame member
      cases member
    · intro frame progress member
      cases member
  | append_singleton calls call ih =>
    rw [EventMachine.run_concat]
    exact (ih proper.of_concat).step proper

/--
After any proper calls, the queue holds what a ledger of the collected frames says, in which every
frame is in exactly one stage.

The ledger admits what the next call does, and a ticket counts what is in flight under its id.
-/
theorem run_refines_ledger {heap : FrameHeap} {calls : List QueueCall} (proper : Proper heap calls) :
    let queue := EventMachine.run step (empty heap) calls
    let ledger := (EventMachine.run ledgerStep (empty heap, .empty) calls).2
    queue.Represents ledger ∧
    ledger.items = calls.flatMap QueueCall.frames ∧
    (∀ frame ∈ calls.flatMap QueueCall.frames, ∃! stage, (frame, stage) ∈ ledger.stages) ∧
    ∀ call, Proper heap (calls ++ [call]) →
      (∀ event, queue.ledgerEvent call = some event → ledger.Admits event) ∧
      (EventMachine.run ledgerStep (empty heap, .empty) (calls ++ [call])).2 =
        (queue.ledgerEvent call).elim ledger ledger.step ∧
      ∀ threadFor packetId snapshot, call = .applyTicket threadFor packetId snapshot →
        (queue.applyTicket threadFor packetId snapshot).1 = (ledger.inFlight packetId).length := by
  intro queue ledger
  have keeps := run_keeps proper
  have represents : queue.Represents ledger := by
    have represents := keeps.represents
    rwa [keeps.queue] at represents
  have items : ledger.items = calls.flatMap QueueCall.frames := keeps.items
  refine ⟨represents, items, fun frame member => ?_, fun call next => ⟨fun event does => ?_, ?_, ?_⟩⟩
  · exact Ledger.existsUnique_stage represents.distinct (items ▸ member)
  · exact represents.admits (next.given call (by simp)) (keeps.collects next).1 does
  · rw [EventMachine.run_concat, ledgerStep, keeps.queue]
  · rintro threadFor packetId snapshot rfl
    have given : threadFor ≠ none := next.given (.applyTicket threadFor packetId snapshot) (by simp)
    have valid : IsPacketId packetId :=
      next.valid (.applyTicket threadFor packetId snapshot) (by simp)
    exact represents.count_eq given valid snapshot

/-- Two frames are collected and sent under the id 7, and a ticket for it arrives. -/
theorem run_refines_ledger_pair :
    let heap : FrameHeap :=
      ⟨[⟨true, [65], 1, [], [], -1, none⟩, ⟨true, [66], 1, [], [], -1, none⟩]⟩
    let calls : List QueueCall := [.collectAppendingFramesList [0, 1], .applyCollectedFrames none,
      .prepareSendingList (some 0) 7 []]
    let ledger := (EventMachine.run ledgerStep (empty heap, .empty) calls).2
    (EventMachine.run step (empty heap) calls).Represents ledger ∧ ledger.inFlight 7 = [0, 1] ∧
      ((EventMachine.run step (empty heap) calls).applyTicket (some 0) 7 none).1 = 2 := by
  intro heap calls ledger
  have proper : Proper heap (calls ++ [.applyTicket (some 0) 7 none]) :=
    ⟨by decide, by decide, by decide, by decide⟩
  obtain ⟨represents, _, _, next⟩ := run_refines_ledger proper.of_concat
  have sent : ledger.inFlight 7 = [0, 1] := by decide
  refine ⟨represents, sent, ?_⟩
  have counted := (next _ proper).2.2 (some 0) 7 none rfl
  rw [counted]
  exact congrArg (fun frames : List FramePtr => (frames.length : Int)) sent

end QueueDataFrames

end Threader
