import Mathlib.Data.List.Nodup
import Mathlib.Data.Nat.ModEq

/-! Counters that go up by one to a limit, and start again at one behind it. -/

namespace CyclicCounter

/-- What follows a count. -/
def next (limit count : Nat) : Nat := if count = limit then 1 else count + 1

/-- The count behind as many others, when a counter stands at a start that no count exceeds. -/
def countBehind (limit start : Nat) : Nat → Nat
  | 0 => next limit start
  | others + 1 => next limit (countBehind limit start others)

/-- The counts of a counter are those of a remainder, moved by one. -/
theorem next_mod {limit : Nat} (positive : 0 < limit) (index : Nat) :
    next limit (index % limit + 1) = (index + 1) % limit + 1 := by
  have small := Nat.mod_lt index positive
  unfold next
  split
  · -- The remainder was the greatest one, so that of the successor is zero.
    rename_i last
    rw [Nat.add_mod, show index % limit = limit - 1 by omega]
    by_cases one : limit = 1
    · rw [one]
    · rw [Nat.mod_eq_of_lt (show 1 < limit by omega), show limit - 1 + 1 = limit by omega,
        Nat.mod_self]
  · rename_i before
    rw [← Nat.mod_add_mod, Nat.mod_eq_of_lt (show index % limit + 1 < limit by omega)]

/-- A counter that starts within its limit runs through the remainders. -/
theorem countBehind_eq {limit start : Nat} (positive : 0 < limit) (within : start ≤ limit)
    (others : Nat) : countBehind limit start others = (start + others) % limit + 1 := by
  induction others with
  | zero =>
    -- Behind the limit comes what comes behind zero.
    rcases Nat.lt_or_eq_of_le within with below | rfl
    · rw [countBehind, next, if_neg (by omega), show start + 0 = start from rfl,
        Nat.mod_eq_of_lt below]
    · rw [countBehind, next, if_pos rfl, show start + 0 = start from rfl, Nat.mod_self]
  | succ others ih => rw [countBehind, ih, next_mod positive, Nat.add_assoc]

/-- Two remainders in a window that is not wider than the modulus are different. -/
theorem offset_injective {limit start left right : Nat} (leftInside : left < limit)
    (rightInside : right < limit) (same : (start + left) % limit = (start + right) % limit) :
    left = right := by
  -- The start can be taken away from both.
  have congruent : left ≡ right [MOD limit] := Nat.ModEq.add_left_cancel' start same
  rwa [Nat.ModEq, Nat.mod_eq_of_lt leftInside, Nat.mod_eq_of_lt rightInside] at congruent

/-- As many counts one after another as there are up to the limit are all different. -/
theorem nodup_counts {limit start : Nat} (positive : 0 < limit) (within : start ≤ limit)
    {window : Nat} (fits : window ≤ limit) :
    ((List.range window).map (countBehind limit start)).Nodup := by
  refine List.nodup_range.map_on ?_
  intro left leftInside right rightInside same
  rw [countBehind_eq positive within, countBehind_eq positive within] at same
  have leftInside := List.mem_range.mp leftInside
  have rightInside := List.mem_range.mp rightInside
  exact offset_injective (by omega) (by omega) (Nat.succ.inj same)

end CyclicCounter
