import Mathlib.Algebra.GroupWithZero.Nat
import Mathlib.Data.List.Basic

/-! The longest initial segment of a list whose weights stay below a limit, and how to take it. -/

universe u

namespace Selection

variable {α : Type u} (weight : α → Nat) (limit : Nat)

/-- The sum of the weights of some items. -/
def total (items : List α) : Nat := (items.map weight).sum

@[simp] theorem total_nil : total weight [] = 0 := rfl

@[simp] theorem total_cons (item : α) (items : List α) :
    total weight (item :: items) = weight item + total weight items := by
  simp [total]

/-- An initial segment below the limit that contains every other one. -/
structure LongestWithin (items segment : List α) : Prop where
  isPrefix : segment <+: items
  within : total weight segment < limit
  longest : ∀ other, other <+: items → total weight other < limit → other <+: segment

/-- The items that are taken one after another until one of them reaches the limit. -/
def takeWithin : Nat → List α → List α
  | _, [] => []
  | used, item :: items =>
    if used + weight item < limit then item :: takeWithin (used + weight item) items else []

theorem takeWithin_isPrefix (used : Nat) (items : List α) :
    takeWithin weight limit used items <+: items := by
  -- The first item that does not fit ends the selection.
  induction items generalizing used with
  | nil => exact List.prefix_rfl
  | cons item items ih =>
    rw [takeWithin]
    split
    · exact (List.prefix_cons_inj item).mpr (ih _)
    · exact List.nil_prefix

theorem takeWithin_total {used : Nat} (below : used < limit) (items : List α) :
    used + total weight (takeWithin weight limit used items) < limit := by
  -- The sum so far is kept general, because each item that fits adds to it.
  induction items generalizing used with
  | nil => simpa [takeWithin] using below
  | cons item items ih =>
    rw [takeWithin]
    split
    · rename_i fits
      have later := ih fits
      simp only [total_cons]
      omega
    · simpa using below

theorem takeWithin_longest {used : Nat} {items other : List α} (isPrefix : other <+: items)
    (within : used + total weight other < limit) :
    other <+: takeWithin weight limit used items := by
  -- Induction on the items: an item that does not fit is in no segment below the limit.
  induction items generalizing used other with
  | nil => simpa [takeWithin] using isPrefix
  | cons item items ih =>
    cases other with
    | nil => exact List.nil_prefix
    | cons first others =>
      obtain ⟨rfl, later⟩ := List.cons_prefix_cons.mp isPrefix
      simp only [total_cons] at within
      rw [takeWithin, if_pos (by omega)]
      exact (List.prefix_cons_inj first).mpr (ih later (by omega))

/-- What is taken depends on how far the limit is away. -/
theorem takeWithin_add (used shift : Nat) (items : List α) :
    takeWithin weight (limit + shift) (used + shift) items = takeWithin weight limit used items := by
  induction items generalizing used with
  | nil => rfl
  | cons item items ih =>
    have later := ih (used + weight item)
    have order : used + shift + weight item = used + weight item + shift := Nat.add_right_comm ..
    simp only [takeWithin, order, Nat.add_lt_add_iff_right, later]

/-- All items are taken if they are below the limit together. -/
theorem takeWithin_of_total_lt {used : Nat} {items : List α}
    (below : used + total weight items < limit) : takeWithin weight limit used items = items :=
  -- The segment of all items is the longest one.
  (takeWithin_isPrefix weight limit used items).eq_of_length_le
    (takeWithin_longest weight limit List.prefix_rfl below).length_le

/-- Taking items one after another takes the longest segment below the limit. -/
theorem takeWithin_longestWithin (positive : 0 < limit) (items : List α) :
    LongestWithin weight limit items (takeWithin weight limit 0 items) where
  isPrefix := takeWithin_isPrefix weight limit 0 items
  within := by simpa using takeWithin_total weight limit positive items
  longest other isPrefix within := takeWithin_longest weight limit isPrefix (by simpa using within)

/-- The maximum of one and some numbers. -/
def highest (numbers : List Nat) : Nat := numbers.foldr max 1

@[simp] theorem highest_nil : highest [] = 1 := rfl

@[simp] theorem highest_cons (number : Nat) (numbers : List Nat) :
    highest (number :: numbers) = max number (highest numbers) := rfl

theorem one_le_highest (numbers : List Nat) : 1 ≤ highest numbers := by
  induction numbers with
  | nil => exact Nat.le_refl 1
  | cons number numbers ih => exact Nat.le_trans ih (Nat.le_max_right ..)

@[simp] theorem highest_append (left right : List Nat) :
    highest (left ++ right) = max (highest left) (highest right) := by
  induction left with
  | nil => simp [one_le_highest right]
  | cons number numbers ih => simp [ih, Nat.max_assoc]

/-- No number exceeds the highest one. -/
theorem le_highest {number : Nat} {numbers : List Nat} (member : number ∈ numbers) :
    number ≤ highest numbers := by
  induction numbers with
  | nil => cases member
  | cons first numbers ih =>
    rcases List.mem_cons.mp member with rfl | later
    · exact Nat.le_max_left ..
    · exact Nat.le_trans (ih later) (Nat.le_max_right ..)

end Selection
