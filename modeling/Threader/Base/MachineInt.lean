import Mathlib.Data.Int.Basic

/-! Unbounded integers and machine words of 32 bits. -/

namespace MachineInt

/-- The signed 32-bit value congruent to an integer modulo `2^32`. -/
def toInt32 (value : Int) : Int :=
  value.bmod 4294967296

/-- A value inside the signed range is not changed by the reduction. -/
theorem toInt32_of_fits {value : Int} (low : -2147483648 ≤ value) (high : value < 2147483648) :
    toInt32 value = value := by
  -- The residue of the value is the value itself, or the value moved up by one period.
  simp only [toInt32, Int.bmod_def]
  omega

/-- In front of the greatest word, the successor does not wrap around. -/
theorem toNat_add_one {value : UInt32} (below : value.toNat + 1 < 4294967296) :
    (value + 1).toNat = value.toNat + 1 := by
  -- The remainder of the sum is the sum.
  rw [UInt32.toNat_add, UInt32.toNat_one]
  omega

end MachineInt
