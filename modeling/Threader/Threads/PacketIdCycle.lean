import Threader.Base.CyclicCounter
import Threader.Threads.PacketContinuity

/-! The ids of a packet factory over an unbounded number of calls. -/

namespace Threader

namespace DataFramesPacketFactory

/-- The constructor of the factory. -/
def construct : DataFramesPacketFactory := ⟨PACKET_ID_EMPTY⟩

/-- The factory after as many calls of `generateNextPacketId`. -/
def calledTimes (factory : DataFramesPacketFactory) : Nat → DataFramesPacketFactory
  | 0 => factory
  | calls + 1 => (factory.calledTimes calls).generateNextPacketId.2

/-- What the call returns that comes behind as many others. -/
def packetIdBehind (factory : DataFramesPacketFactory) (calls : Nat) : UInt32 :=
  (factory.calledTimes calls).generateNextPacketId.1

/-- A factory that was called before goes on with its calls. -/
theorem calledTimes_add (factory : DataFramesPacketFactory) (before calls : Nat) :
    (factory.calledTimes before).calledTimes calls = factory.calledTimes (before + calls) := by
  induction calls with
  | zero => rfl
  | succ calls ih => rw [calledTimes, ih, ← Nat.add_assoc, calledTimes]

/-- The ids that are generated one after another are those behind each number of calls. -/
theorem generatedIds_eq_map (count : Nat) (factory : DataFramesPacketFactory) :
    factory.generatedIds count = (List.range count).map factory.packetIdBehind := by
  -- Induction along the calls: the later ones are made by the factory after the first one.
  induction count generalizing factory with
  | zero => rfl
  | succ count ih =>
    have first : factory.calledTimes 1 = factory.generateNextPacketId.2 := rfl
    rw [generatedIds, ih, List.range_succ_eq_map, List.map_cons, List.map_map]
    congr 1
    refine List.map_congr_left ?_
    intro calls _
    rw [packetIdBehind, ← first, calledTimes_add, Nat.add_comm]
    rfl

/-- The call behind another one counts on from its id. -/
theorem packetIdBehind_succ (factory : DataFramesPacketFactory) (calls : Nat) :
    factory.packetIdBehind (calls + 1) = nextId (factory.packetIdBehind calls) := rfl

/-- On ids within the limit, the factory is a counter that starts again behind it. -/
theorem nextId_eq_next {packetId : UInt32} (counted : packetId.toNat ≤ maximumPacketId) :
    (nextId packetId).toNat = CyclicCounter.next maximumPacketId packetId.toNat :=
  nextId_toNat counted

theorem maximumPacketId_pos : 0 < maximumPacketId := by decide

/-- The ids are the counts of that counter. -/
theorem packetIdBehind_eq_count {factory : DataFramesPacketFactory}
    (counted : factory.packetId.toNat ≤ maximumPacketId) (calls : Nat) :
    (factory.packetIdBehind calls).toNat =
      CyclicCounter.countBehind maximumPacketId factory.packetId.toNat calls := by
  induction calls with
  | zero => exact nextId_eq_next counted
  | succ calls ih =>
    -- The counts are within the limit, so the id before is one that is counted on from.
    have small := Nat.mod_lt (factory.packetId.toNat + calls) maximumPacketId_pos
    have within : (factory.packetIdBehind calls).toNat ≤ maximumPacketId := by
      rw [ih, CyclicCounter.countBehind_eq maximumPacketId_pos counted]
      omega
    rw [packetIdBehind_succ, nextId_eq_next within, ih, CyclicCounter.countBehind]

/-- The ids of a new factory count up to the limit, and then again from one. -/
theorem packetIdBehind_construct (calls : Nat) :
    (construct.packetIdBehind calls).toNat = calls % maximumPacketId + 1 := by
  have empty : construct.packetId.toNat = 0 := rfl
  have counted : construct.packetId.toNat ≤ maximumPacketId := Nat.zero_le maximumPacketId
  rw [packetIdBehind_eq_count counted, CyclicCounter.countBehind_eq maximumPacketId_pos counted,
    empty, Nat.zero_add]

/-- After any number of calls, the id of a new factory is within the limit. -/
theorem construct_counted (calls : Nat) :
    (construct.calledTimes calls).packetId.toNat ≤ maximumPacketId := by
  cases calls with
  | zero => exact Nat.zero_le maximumPacketId
  | succ calls =>
    have small := Nat.mod_lt calls maximumPacketId_pos
    have count := packetIdBehind_construct calls
    -- The factory keeps the id that it returned last.
    show (construct.packetIdBehind calls).toNat ≤ maximumPacketId
    omega

/-- No id is empty, and each is positive as a signed number too. -/
theorem packetIdBehind_positive (calls : Nat) :
    construct.packetIdBehind calls ≠ PACKET_ID_EMPTY ∧
      1 ≤ MachineInt.toInt32 (construct.packetIdBehind calls).toNat := by
  have count := packetIdBehind_construct calls
  have small := Nat.mod_lt calls maximumPacketId_pos
  have limit : maximumPacketId = 536870910 := rfl
  -- The number is one more than a remainder, and far below the sign bit.
  constructor
  · intro empty
    rw [empty] at count
    exact absurd count (by simp [PACKET_ID_EMPTY])
  · rw [MachineInt.toInt32_of_fits (by omega) (by omega)]
    omega

/-- Ids do not repeat within a cycle, wherever it begins. -/
theorem nodup_generatedIds (before : Nat) {count : Nat} (fits : count ≤ maximumPacketId) :
    ((construct.calledTimes before).generatedIds count).Nodup := by
  have counted := construct_counted before
  have counts := CyclicCounter.nodup_counts maximumPacketId_pos counted fits
  rw [generatedIds_eq_map]
  -- The numbers of the ids are different, and so are the ids.
  refine List.Nodup.of_map UInt32.toNat ?_
  rw [List.map_map]
  refine (congrArg List.Nodup (List.map_congr_left ?_)).mpr counts
  intro calls _
  exact packetIdBehind_eq_count counted calls

/--
The n-th call on a new factory returns n, counted again from one behind the greatest id.

Hence no id is empty or below one as a signed number, and none repeats within a cycle of ids.
-/
theorem packetIds_cycle :
    (∀ calls, (construct.packetIdBehind calls).toNat = calls % 0x1FFFFFFE + 1) ∧
      (∀ calls, construct.packetIdBehind calls ≠ PACKET_ID_EMPTY ∧
        1 ≤ MachineInt.toInt32 (construct.packetIdBehind calls).toNat) ∧
      ∀ before, ((construct.calledTimes before).generatedIds 0x1FFFFFFE).Nodup := by
  refine ⟨?_, ?_, ?_⟩
  · intro calls
    exact packetIdBehind_construct calls
  · intro calls
    exact packetIdBehind_positive calls
  · intro before
    exact nodup_generatedIds before (Nat.le_refl maximumPacketId)

end DataFramesPacketFactory

end Threader
