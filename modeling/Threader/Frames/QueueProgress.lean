import Threader.Frames.QueuePriorities

/-! When a queue in which everything waits hands something out, and when it is blocked. -/

namespace Threader

/-- A frame with its size is below the limit of a packet, as far as 32 bits show it. -/
def FrameHeap.FitsAlone (heap : FrameHeap) (frame : FramePtr) : Prop :=
  heap.packetSize frame % 4294967296 < 1048576

instance (heap : FrameHeap) (frame : FramePtr) : Decidable (heap.FitsAlone frame) :=
  inferInstanceAs (Decidable (_ < _))

namespace FrameHeap

/-- The test of the loop of `prepareSendingList` for a packet that is still empty. -/
theorem fitsAlone_iff (heap : FrameHeap) (frame : FramePtr) :
    0 + UInt64.ofInt (MachineInt.toInt32 ((heap.frame frame).length.toNat + 4)) <
        QueueDataFrames.maximumPacketSize.toUInt64 ↔ heap.FitsAlone frame := by
  have limit : QueueDataFrames.maximumPacketSize.toUInt64.toNat = 1048576 := rfl
  have bound := (heap.frame frame).length.toNat_lt
  rw [UInt64.zero_add, UInt64.lt_iff_toNat_lt, limit, UInt64.ofInt, UInt64.toNat_ofNat', FitsAlone,
    packetSize, MachineInt.toInt32, Int.bmod_def]
  -- A negative number of 32 bits becomes one of 64 bits that is far above the limit.
  omega

/-- Whether a frame fits does not depend on the ids. -/
theorem SameButIds.fitsAlone_iff {before after : FrameHeap} (same : SameButIds before after)
    (frame : FramePtr) : after.FitsAlone frame ↔ before.FitsAlone frame := by
  rw [FitsAlone, FitsAlone, same.packetSize]

end FrameHeap

namespace QueueDataFrames

/-- The loop takes nothing if the first frame that it could take does not fit, or is missing. -/
theorem prepareFrom_eq_nil_iff {maximum : UInt8} {packetId : PacketIdType} {queued : List FramePtr}
    {heap : FrameHeap} :
    (prepareFrom maximum packetId queued 0 heap).1 = [] ↔
      ∀ frame, queued.find? (isWaiting maximum heap) = some frame → ¬ heap.FitsAlone frame := by
  induction queued with
  | nil => exact iff_of_true rfl (by simp)
  | cons pointer queued ih =>
    rw [prepareFrom]
    by_cases waits : isWaiting maximum heap pointer = true
    · rw [List.find?_cons_of_pos waits]
      rw [isWaiting] at waits
      simp only [waits, if_true, heap.fitsAlone_iff, Option.some.injEq, forall_eq']
      -- The packet is still empty when the loop comes to this frame.
      by_cases fits : heap.FitsAlone pointer
      · rw [if_pos fits]
        exact iff_of_false (List.cons_ne_nil _ _) fun absent => absent fits
      · rw [if_neg fits]
        exact iff_of_true rfl fits
    · rw [List.find?_cons_of_neg waits]
      rw [isWaiting] at waits
      simp only [waits]
      exact ih

/-- The first frame of the highest priority in the queue is below the limit of a packet. -/
def FirstFits (queue : QueueDataFrames) : Prop :=
  ∀ before frame after, queue.queuedFramesList = before ++ frame :: after →
    (∀ other ∈ before, queue.priority other < queue.priority frame) →
    (∀ other ∈ after, queue.priority other ≤ queue.priority frame) → queue.heap.FitsAlone frame

/-- The highest priority is the one of some frame, unless all frames are idle or there is none. -/
theorem exists_priority_eq_highestPriority {heap : FrameHeap} {frames : List FramePtr}
    (nonempty : frames ≠ []) (urgent : ∀ frame ∈ frames, 1 ≤ (heap.frame frame).priority) :
    ∃ frame ∈ frames, (heap.frame frame).priority.toNat = heap.highestPriority frames := by
  induction frames with
  | nil => exact absurd rfl nonempty
  | cons first frames ih =>
    obtain ⟨least, others⟩ := List.forall_mem_cons.mp urgent
    have least : 1 ≤ (heap.frame first).priority.toNat := UInt8.le_iff_toNat_le.mp least
    rw [FrameHeap.highestPriority, List.map_cons, Selection.highest_cons]
    by_cases alone : frames = []
    · subst alone
      -- The only frame reaches the floor of the maximum.
      exact ⟨first, List.mem_cons_self, (Nat.max_eq_left least).symm⟩
    · obtain ⟨frame, member, same⟩ := ih alone others
      rw [FrameHeap.highestPriority] at same
      rcases Nat.le_total (heap.frame first).priority.toNat (heap.frame frame).priority.toNat with
        later | earlier
      · exact ⟨frame, .tail first member, by omega⟩
      · exact ⟨first, List.mem_cons_self, by omega⟩

/-- With the right maximum and nothing in flight, the frames of the highest priority wait. -/
theorem Ranked.isWaiting_iff {heap : FrameHeap} {queue : QueueDataFrames}
    (ranked : queue.Ranked heap) {frame : FramePtr}
    (idle : (queue.heap.frame frame).packetId < 1) :
    isWaiting queue.queuedMaximumPriority queue.heap frame = true ↔
      queue.heap.highestPriority queue.queuedFramesList ≤ (queue.priority frame).toNat := by
  rw [isWaiting, decide_eq_true idle, Bool.true_and, decide_eq_true_iff, ge_iff_le,
    UInt8.le_iff_toNat_le, ranked.maximum]
  rfl

/-- The loop begins with the first frame of the highest priority. -/
theorem Ranked.find?_isWaiting {heap : FrameHeap} {queue : QueueDataFrames}
    (ranked : queue.Ranked heap) (nonempty : queue.queuedFramesList ≠ [])
    (urgent : ∀ frame ∈ queue.queuedFramesList, 1 ≤ queue.priority frame)
    (idle : ∀ frame ∈ queue.queuedFramesList, (queue.heap.frame frame).packetId < 1)
    {frame : FramePtr} :
    queue.queuedFramesList.find? (isWaiting queue.queuedMaximumPriority queue.heap) = some frame ↔
      ∃ before after, queue.queuedFramesList = before ++ frame :: after ∧
        (∀ other ∈ before, queue.priority other < queue.priority frame) ∧
        (∀ other ∈ after, queue.priority other ≤ queue.priority frame) := by
  obtain ⟨highest, listed, same⟩ := exists_priority_eq_highestPriority nonempty urgent
  have waits {other : FramePtr} (member : other ∈ queue.queuedFramesList) :=
    ranked.isWaiting_iff (idle other member)
  have bounded {other : FramePtr} (member : other ∈ queue.queuedFramesList) :
      (queue.priority other).toNat ≤ _ := queue.heap.priority_le_highestPriority member
  rw [List.find?_eq_some_iff_append]
  constructor
  · rintro ⟨waiting, before, after, split, earlier⟩
    have here : frame ∈ queue.queuedFramesList := split ▸ List.mem_append_cons_self
    have least := (waits here).mp waiting
    refine ⟨before, after, split, ?_, ?_⟩
    · intro other member
      have inside : other ∈ queue.queuedFramesList := split ▸ List.mem_append_left _ member
      have passed : ¬ _ := fun more => Bool.false_ne_true
        ((Bool.not_eq_true' _ ▸ earlier other member).symm.trans ((waits inside).mpr more))
      exact UInt8.lt_iff_toNat_lt.mpr (by omega)
    · intro other member
      have inside : other ∈ queue.queuedFramesList :=
        split ▸ List.mem_append_right _ (.tail frame member)
      exact UInt8.le_iff_toNat_le.mpr (Nat.le_trans (bounded inside) least)
  · rintro ⟨before, after, split, earlier, later⟩
    have here : frame ∈ queue.queuedFramesList := split ▸ List.mem_append_cons_self
    -- The frame of the highest priority is this one, or has no more than it.
    have reached : (queue.priority highest).toNat ≤ (queue.priority frame).toNat := by
      rw [split] at listed
      rcases List.mem_append.mp listed with member | member
      · exact Nat.le_of_lt (UInt8.lt_iff_toNat_lt.mp (earlier highest member))
      · rcases List.mem_cons.mp member with rfl | member
        · exact Nat.le_refl _
        · exact UInt8.le_iff_toNat_le.mp (later highest member)
    have least : _ ≤ (queue.priority frame).toNat := same ▸ reached
    refine ⟨(waits here).mpr least, before, after, split, fun other member => ?_⟩
    have inside : other ∈ queue.queuedFramesList := split ▸ List.mem_append_left _ member
    have lower := UInt8.lt_iff_toNat_lt.mp (earlier other member)
    have upper := bounded here
    rw [Bool.not_eq_true', ← Bool.not_eq_true, waits inside]
    omega

/-- A queue with nothing in flight hands something out exactly if its first frame fits. -/
theorem Ranked.prepareSendingList_ne_nil_iff {heap : FrameHeap} {queue : QueueDataFrames}
    (ranked : queue.Ranked heap) (nonempty : queue.queuedFramesList ≠ [])
    (urgent : ∀ frame ∈ queue.queuedFramesList, 1 ≤ queue.priority frame)
    (idle : ∀ frame ∈ queue.queuedFramesList, (queue.heap.frame frame).packetId < 1)
    {threadFor : Option ThreadPtr} (given : threadFor ≠ none) (packetId : PacketIdType)
    (list : List FramePtr) :
    (queue.prepareSendingList threadFor packetId list).1 ≠ [] ↔ queue.FirstFits := by
  rw [prepareSendingList_of_ne_none queue given]
  have first {frame : FramePtr} :=
    @Ranked.find?_isWaiting heap queue ranked nonempty urgent idle frame
  show ¬ (prepareFrom ..).1 = [] ↔ _
  rw [prepareFrom_eq_nil_iff, not_forall]
  constructor
  · rintro ⟨frame, fits⟩
    obtain ⟨found, fits⟩ := Classical.not_imp.mp fits
    intro before other after split earlier later
    -- Any other first frame of the highest priority is found in its place.
    have same := first.mpr ⟨before, after, split, earlier, later⟩
    obtain rfl := Option.some.inj (found.symm.trans same)
    exact Classical.not_not.mp fits
  · intro fits
    obtain ⟨highest, listed, same⟩ := exists_priority_eq_highestPriority nonempty urgent
    have waiting := (ranked.isWaiting_iff (idle highest listed)).mpr (Nat.le_of_eq same.symm)
    obtain ⟨frame, found⟩ := Option.isSome_iff_exists.mp
      (List.find?_isSome.mpr ⟨highest, listed, waiting⟩)
    obtain ⟨before, after, split, earlier, later⟩ := first.mp found
    exact ⟨frame, fun blocked => blocked found (fits before frame after split earlier later)⟩

/--
In every state that calls lead to while nothing is in flight, a thread that asks for frames gets
some exactly if the first frame of the highest priority is below the limit of a packet.
-/
theorem run_hands_out_iff {heap : FrameHeap} {calls : List QueueCall}
    (urgent : ∀ call ∈ calls, ∀ frame ∈ call.frames, 1 ≤ (heap.frame frame).priority) :
    let queue := EventMachine.run step (empty heap) calls
    queue.queuedFramesList ≠ [] →
    (∀ frame ∈ queue.queuedFramesList, (queue.heap.frame frame).packetId < 1) →
    ∀ threadFor packetId list, threadFor ≠ none →
      ((queue.prepareSendingList threadFor packetId list).1 ≠ [] ↔ queue.FirstFits) := by
  intro queue nonempty idle threadFor packetId list given
  have ranked : queue.Ranked heap :=
    EventMachine.run_invariant step (fun _ call before => before.step call) (.empty heap) calls
  have listed : ∀ frame ∈ queue.listedFrames, 1 ≤ (heap.frame frame).priority := by
    let invariant (queue : QueueDataFrames) : Prop :=
      ∀ frame ∈ queue.listedFrames, 1 ≤ (heap.frame frame).priority
    have initially : invariant (empty heap) := fun _ member => absurd member List.not_mem_nil
    exact @EventMachine.run_invariant_of_admitted _ _ step invariant _
      (fun _ _ collected before => forall_listedFrames_step before collected) _ initially _ urgent
  refine ranked.prepareSendingList_ne_nil_iff nonempty (fun frame member => ?_) idle given _ list
  -- No call changes the priority of a frame.
  rw [priority, ranked.same.priority]
  exact listed frame (List.mem_append_left _ member)

/-- A frame whose size is the limit of a packet. -/
def largeFrame : DataFrameRawData :=
  @DataFrameRawData.ofBlock .ascii (65 :: 0 :: List.replicate 1048570 7) 1048572

/-- A small frame in front of a large one is handed out. -/
theorem run_hands_out_iff_small :
    let queue := EventMachine.run step (empty ⟨[smallFrame 1, largeFrame]⟩)
      [.collectAppendingFramesList [0, 1], .applyCollectedFrames none]
    (queue.prepareSendingList (some 0) 7 []).1 ≠ [] ↔ queue.FirstFits := by
  have urgent : ∀ call ∈ [QueueCall.collectAppendingFramesList [0, 1], .applyCollectedFrames none],
      ∀ frame ∈ call.frames,
        1 ≤ (FrameHeap.frame ⟨[smallFrame 1, largeFrame]⟩ frame).priority := by decide
  exact run_hands_out_iff urgent (by decide) (by decide) (some 0) 7 [] (by decide)

/-- A large frame in front of a small one blocks the queue. -/
theorem prepareSendingList_blocked :
    let queue := EventMachine.run step (empty ⟨[largeFrame, smallFrame 1]⟩)
      [.collectAppendingFramesList [0, 1], .applyCollectedFrames none]
    queue.queuedFramesList = [0, 1] ∧
      (∀ frame ∈ queue.queuedFramesList,
        1 ≤ queue.priority frame ∧ (queue.heap.frame frame).packetId < 1) ∧
      (queue.prepareSendingList (some 0) 7 []).1 = [] := by
  decide

end QueueDataFrames

end Threader
