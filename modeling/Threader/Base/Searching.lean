import Mathlib.Data.List.Infix

/-! The first place where a run occurs in a list. -/

universe u

namespace Searching

variable {α : Type u} [DecidableEq α]

/-- The first place where a run occurs. -/
def findRun (run : List α) : List α → Option Nat
  | [] => if run.isEmpty then some 0 else none
  | first :: list =>
    if run.isPrefixOf (first :: list) then some 0 else (findRun run list).map (· + 1)

/-- The first place at or behind a position where a run occurs. -/
def findRunFrom (run list : List α) (position : Nat) : Option Nat :=
  if position ≤ list.length then (findRun run (list.drop position)).map (position + ·) else none

variable {run list : List α} {position place : Nat}

/-- A run stands where it is found. -/
theorem prefix_of_findRun (found : findRun run list = some place) : run <+: list.drop place := by
  induction list generalizing place with
  | nil =>
    rw [findRun] at found
    split at found
    · rename_i empty
      rw [List.isEmpty_iff.mp empty]
      exact List.nil_prefix
    · cases found
  | cons first list ih =>
    rw [findRun] at found
    split at found
    · rename_i here
      cases found
      exact List.isPrefixOf_iff_prefix.mp here
    · obtain ⟨later, foundLater, rfl⟩ := Option.map_eq_some_iff.mp found
      exact ih foundLater

/-- A run is found at or behind the position that the search begins at, and stands there. -/
theorem findRunFrom_spec (found : findRunFrom run list position = some place) :
    position ≤ place ∧ run <+: list.drop place := by
  unfold findRunFrom at found
  split at found
  · obtain ⟨offset, foundOffset, rfl⟩ := Option.map_eq_some_iff.mp found
    refine ⟨Nat.le_add_right .., ?_⟩
    simpa [List.drop_drop] using prefix_of_findRun foundOffset
  · cases found

/-- What follows a run does not change where it is found first. -/
theorem findRun_append (found : findRun run (list ++ run) = some list.length) (rest : List α) :
    findRun run (list ++ (run ++ rest)) = some list.length := by
  induction list with
  | nil =>
    cases run with
    | nil => cases rest <;> rfl
    | cons first run =>
      have here : (first :: run).isPrefixOf (first :: (run ++ rest)) = true :=
        List.isPrefixOf_iff_prefix.mpr ⟨rest, rfl⟩
      rw [List.nil_append, List.cons_append, findRun, if_pos here]
      rfl
  | cons first list ih =>
    rw [List.cons_append, findRun] at found
    split at found
    · cases found
    · rename_i absent
      -- An occurrence at the first element would end in front of what follows.
      have short : run.length ≤ (first :: (list ++ run)).length := by
        simp only [List.length_cons, List.length_append]
        omega
      have absentToo : ¬ run.isPrefixOf (first :: (list ++ (run ++ rest))) = true := by
        intro here
        have cut : run <+: first :: (list ++ run) ++ rest := by
          simpa using List.isPrefixOf_iff_prefix.mp here
        exact absent (List.isPrefixOf_iff_prefix.mpr
          (List.prefix_of_prefix_length_le cut (List.prefix_append ..) short))
      obtain ⟨place, foundPlace, same⟩ := Option.map_eq_some_iff.mp found
      have same : place = list.length := by simpa using same
      rw [List.cons_append, findRun, if_neg absentToo, ih (same ▸ foundPlace)]
      rfl

end Searching
