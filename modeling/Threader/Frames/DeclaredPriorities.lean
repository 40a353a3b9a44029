import Threader.Frames.DefinitionsLoading
import Threader.Frames.QueuePriorities

/-! Which priorities keep their order when a byte of the number in a document is stored. -/

namespace Threader

/-- The number that an element declares as its priority. -/
def XmlElement.DeclaresPriority [QtAttributes] (element : XmlElement) (number : UInt32) : Prop :=
  ∃ text, element.value "Priority" = some text ∧ QtAttributes.toUInt text = number

/--
Neither of two numbers is confused by the loss of their upper bytes.

The lesser one, which is one at least, is no multiple of 256, and the way from it to the greater
one passes no such multiple either, whole rounds of 256 aside.
-/
def KeepsPriorityOrder (less more : UInt32) : Prop :=
  ¬ 256 ∣ max 1 less.toNat ∧
    max 1 less.toNat % 256 + (max 1 more.toNat - max 1 less.toNat) % 256 < 256

instance (less more : UInt32) : Decidable (KeepsPriorityOrder less more) :=
  inferInstanceAs (Decidable (_ ∧ _))

/-- Of two numbers the lesser has the lesser remainder if no multiple lies on the way. -/
theorem mod_le_mod_add_iff {modulus : Nat} (positive : 0 < modulus) (number distance : Nat) :
    number % modulus ≤ (number + distance) % modulus ↔
      number % modulus + distance % modulus < modulus := by
  -- Both remainders are taken first, so that their sum passes the modulus once at most.
  have first := Nat.mod_lt number positive
  have second := Nat.mod_lt distance positive
  rw [Nat.add_mod]
  generalize number % modulus = former at first ⊢
  generalize distance % modulus = latter at second ⊢
  constructor
  · intro order
    -- A sum of remainders that reaches the modulus would fall below the first of them.
    rcases Nat.lt_or_ge (former + latter) modulus with below | above
    · exact below
    · rw [Nat.mod_eq_sub_mod above, Nat.mod_eq_of_lt (by omega)] at order
      omega
  · intro below
    rw [Nat.mod_eq_of_lt below]
    exact Nat.le_add_right ..

/-- The stored priority is the lowest byte of the declared one, which is one at least. -/
theorem XmlElement.toNat_priority [QtAttributes] {element : XmlElement} {number : UInt32}
    (declares : element.DeclaresPriority number) :
    element.parseDataFrameAttributes.priority.toNat = max 1 number.toNat % 256 := by
  -- The number is raised to one before its lowest byte is stored.
  obtain ⟨text, found, rfl⟩ := declares
  simp only [parseDataFrameAttributes, atLeastOne, found]
  rw [UInt32.toNat_toUInt8]
  congr 1
  split
  · rename_i zero
    have zero : (QtAttributes.toUInt text).toNat < 1 := UInt32.lt_iff_toNat_lt.mp zero
    rw [UInt32.toNat_one]
    omega
  · rename_i positive
    have positive : ¬ (QtAttributes.toUInt text).toNat < 1 :=
      fun below => positive (UInt32.lt_iff_toNat_lt.mpr below)
    omega

/-- A lesser priority is stored as one at least, and as no greater one, exactly if both are kept. -/
theorem XmlElement.priority_le_priority_iff [QtAttributes] {less more : XmlElement}
    {lesser greater : UInt32} (declaresLess : less.DeclaresPriority lesser)
    (declaresMore : more.DeclaresPriority greater) (order : lesser ≤ greater) :
    (1 ≤ less.parseDataFrameAttributes.priority ∧
        less.parseDataFrameAttributes.priority ≤ more.parseDataFrameAttributes.priority) ↔
      KeepsPriorityOrder lesser greater := by
  -- The stored bytes are remainders, and the greater number is the lesser plus a distance.
  have order : lesser.toNat ≤ greater.toNat := UInt32.le_iff_toNat_le.mp order
  rw [UInt8.le_iff_toNat_le, UInt8.le_iff_toNat_le, toNat_priority declaresLess,
    toNat_priority declaresMore, UInt8.toNat_one, KeepsPriorityOrder]
  refine and_congr ?_ ?_
  · rw [Nat.dvd_iff_mod_eq_zero]
    omega
  · rw [← mod_le_mod_add_iff (by decide)]
    have sum : max 1 lesser.toNat + (max 1 greater.toNat - max 1 lesser.toNat) =
        max 1 greater.toNat := by omega
    rw [sum]

/-- Two small numbers keep their order. -/
theorem XmlElement.priority_le_priority_iff_small :
    let _ := QtAttributes.ascii
    let element (digit : String) : XmlElement := ⟨[], [(.ofAscii "Priority", .ofAscii digit)]⟩
    (1 ≤ (element "2").parseDataFrameAttributes.priority ∧
        (element "2").parseDataFrameAttributes.priority ≤
          (element "7").parseDataFrameAttributes.priority) ↔ KeepsPriorityOrder 2 7 := by
  let _ := QtAttributes.ascii
  intro _ element
  exact @priority_le_priority_iff _ (element "2") (element "7") 2 7
    ⟨.ofAscii "2", by decide, by decide⟩
    ⟨.ofAscii "7", by decide, by decide⟩ (by decide)

/-- The operations as they are for ASCII texts and for digits only. -/
@[reducible]
def QtAttributes.decimal : QtAttributes where
  toLower := QtAttributes.ascii.toLower
  equalsAnyCase := QtAttributes.ascii.equalsAnyCase
  toUInt text := (text.map fun unit => unit.toUInt32 - 0x30).foldl (10 * · + ·) 0

/-- A priority of 256 is stored as zero, below the priority one. -/
theorem XmlElement.priority_falls :
    let _ := QtAttributes.decimal
    let element (digits : String) : XmlElement := ⟨[], [(.ofAscii "Priority", .ofAscii digits)]⟩
    (element "1").DeclaresPriority 1 ∧ (element "256").DeclaresPriority 256 ∧
      ¬ (1 ≤ (element "256").parseDataFrameAttributes.priority) ∧
      ¬ ((element "1").parseDataFrameAttributes.priority ≤
        (element "256").parseDataFrameAttributes.priority) := by
  let _ := QtAttributes.decimal
  intro _ element
  exact ⟨⟨.ofAscii "1", by decide, by decide⟩,
    ⟨.ofAscii "256", by decide, by decide⟩, by decide, by decide⟩

namespace QueueDataFrames

/-- No frame below the maximum is prepared. -/
theorem priority_of_mem_prepareFrom {maximum : UInt8} {packetId : PacketIdType}
    {queued : List FramePtr} {dataSize : UInt64} {heap : FrameHeap} {frame : FramePtr}
    (member : frame ∈ (prepareFrom maximum packetId queued dataSize heap).1) :
    maximum ≤ (heap.frame frame).priority := by
  -- The heap is kept general, because each prepared frame gets an id.
  induction queued generalizing dataSize heap with
  | nil => cases member
  | cons pointer queued ih =>
    simp only [prepareFrom] at member
    split at member
    · rename_i taken
      simp only [Bool.and_eq_true, decide_eq_true_eq] at taken
      split at member
      · rcases List.mem_cons.mp member with rfl | later
        · exact taken.2
        · -- The id that the frame before it got is no part of its priority.
          rw [← (FrameHeap.sameButIds_setPacketId heap pointer _).priority frame]
          exact ih later
      · cases member
    · exact ih member

/-- Wherever calls lead, no frame is prepared whose priority is stored as zero. -/
theorem priority_of_mem_prepareSendingList {heap : FrameHeap} {calls : List QueueCall}
    {threadFor : Option ThreadPtr} {packetId : PacketIdType} {list : List FramePtr}
    {frame : FramePtr} (given : threadFor ≠ none) :
    let queue := EventMachine.run step (empty heap) calls
    frame ∈ (queue.prepareSendingList threadFor packetId list).1 → 1 ≤ queue.priority frame := by
  -- The maximum of a queue is one at least, whatever frames it holds.
  intro queue member
  have ranked : queue.Ranked heap :=
    EventMachine.run_invariant step (fun _ call ranked => ranked.step call) (.empty heap) calls
  rw [prepareSendingList_of_ne_none queue given] at member
  have urgent := UInt8.le_iff_toNat_le.mp (priority_of_mem_prepareFrom member)
  have least : 1 ≤ queue.queuedMaximumPriority.toNat := by
    rw [ranked.queued]
    exact Selection.one_le_highest _
  exact UInt8.le_iff_toNat_le.mpr (Nat.le_trans least urgent)

end QueueDataFrames

end Threader
