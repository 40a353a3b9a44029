import Mathlib.Data.Nat.Basic

/-! How many parts of one size fit a budget besides something of another size. -/

/-- The greatest number of parts that fit, or zero if not even the other thing does. -/
structure FitsBudget (fixed each budget count : Nat) : Prop where
  fits : count = 0 ∨ fixed + count * each ≤ budget
  greatest : ∀ other, fixed + other * each ≤ budget → other ≤ count

namespace FitsBudget

/-- The number is a quotient, where a budget that is too small counts as zero. -/
theorem iff_div {fixed each budget count : Nat} (positive : 0 < each) :
    FitsBudget fixed each budget count ↔ count = (budget - fixed) / each := by
  constructor
  · rintro ⟨fits, greatest⟩
    apply Nat.le_antisymm
    · rw [Nat.le_div_iff_mul_le positive]
      rcases fits with rfl | fits
      · rw [Nat.zero_mul]
        exact Nat.zero_le _
      · omega
    · -- The quotient fits, unless it is zero.
      have product := Nat.div_mul_le_self (budget - fixed) each
      rcases Nat.le_total fixed budget with room | full
      · exact greatest _ (by omega)
      · rw [Nat.sub_eq_zero_of_le full, Nat.zero_div]
        exact Nat.zero_le _
  · rintro rfl
    have product := Nat.div_mul_le_self (budget - fixed) each
    refine ⟨?_, ?_⟩
    · rcases Nat.le_total fixed budget with room | full
      · exact .inr (by omega)
      · exact .inl (by rw [Nat.sub_eq_zero_of_le full, Nat.zero_div])
    · intro other fits
      rw [Nat.le_div_iff_mul_le positive]
      omega

/-- A budget that the other thing exceeds has room for no part at all. -/
theorem div_eq_zero_of_not_fits {modulus fixed each budget : Nat} (bounded : budget < modulus)
    (exceeded : ¬ (fixed ≤ budget ∧ each < modulus)) : (budget - fixed) / each = 0 := by
  rcases not_and_or.mp exceeded with full | large
  · rw [Nat.sub_eq_zero_of_le (by omega), Nat.zero_div]
  · exact Nat.div_eq_of_lt (by omega)

/--
Words of a modulus give the number exactly if nothing wraps around, or the quotient vanishes.

The quotient by zero is zero here.
-/
theorem div_words_iff {modulus fixed each budget : Nat} (bounded : budget < modulus) :
    (modulus + budget - fixed % modulus) % modulus / (each % modulus) = (budget - fixed) / each ↔
      (fixed ≤ budget ∧ each < modulus) ∨
        each % modulus = 0 ∨ (modulus + budget - fixed % modulus) % modulus < each % modulus := by
  by_cases exact : fixed ≤ budget ∧ each < modulus
  · -- The difference is not negative, so both are the same quotient.
    rw [Nat.mod_eq_of_lt exact.2, Nat.mod_eq_of_lt (Nat.lt_of_le_of_lt exact.1 bounded),
      show modulus + budget - fixed = modulus + (budget - fixed) by omega, Nat.add_mod_left,
      Nat.mod_eq_of_lt (by omega)]
    exact iff_of_true rfl (.inl exact)
  · rw [div_eq_zero_of_not_fits bounded exact, Nat.div_eq_zero_iff]
    constructor
    · exact .inr
    · rintro (holds | vanishes)
      · exact absurd holds exact
      · exact vanishes

end FitsBudget
