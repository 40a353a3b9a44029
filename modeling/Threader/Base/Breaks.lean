import Mathlib.Data.List.Chain

/-! How often a list breaks off from the order in which a function goes on from item to item. -/

universe u

variable {α : Type u} [DecidableEq α]

/-- How many items of a list are not followed by the next item. -/
def breaks (next : α → α) : List α → Nat
  | [] => 0
  | item :: items =>
    (items.head?.elim 0 fun second => if second = next item then 0 else 1) + breaks next items

namespace Breaks

variable {next : α → α}

/-- Between two parts of a list there is at most one break. -/
theorem append_cons (front : List α) (last first : α) (back : List α) :
    breaks next (front ++ last :: first :: back) =
      breaks next (front ++ [last]) + (if first = next last then 0 else 1) +
        breaks next (first :: back) := by
  induction front with
  | nil => simp [breaks]
  | cons item front ih =>
    -- What follows the first item is the same in both lists.
    have same : (front ++ last :: first :: back).head? = (front ++ [last]).head? := by
      cases front <;> rfl
    rw [List.cons_append, List.cons_append, breaks, breaks, same, ih]
    omega

/-- A list made by one function breaks off from another one where the two differ. -/
theorem of_isChain {successor : α → α} {items : List α}
    (chain : items.IsChain fun left right => right = successor left) :
    breaks next items = items.dropLast.countP fun item => successor item ≠ next item := by
  -- Two neighbours are compared at a time, and the last item has no successor.
  induction items with
  | nil => rfl
  | cons item items ih =>
    cases items with
    | nil => rfl
    | cons second items =>
      obtain ⟨follows, later⟩ := List.isChain_cons_cons.mp chain
      rw [breaks, ih later, List.dropLast_cons_of_ne_nil (List.cons_ne_nil second items),
        List.countP_cons, List.head?_cons, Option.elim_some, follows, Nat.add_comm]
      congr 1
      by_cases same : successor item = next item <;> simp [same]

end Breaks
