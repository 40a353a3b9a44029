import Mathlib.Data.List.Basic
import Mathlib.Order.Lattice

/-! Entries in the order of their times, of which those before a limit are given up. -/

universe u v

namespace SlidingWindow

variable {α : Type u} {τ : Type v} [LinearOrder τ] (time : α → τ)

/-- No entry has an earlier time than those in front of it. -/
def InOrder (entries : List α) : Prop := entries.Pairwise fun left right => time left ≤ time right

/-- The entries from a limit on. -/
def window (limit : τ) (entries : List α) : List α := entries.filter (limit ≤ time ·)

variable {time}

/-- The window of joined lists is joined from their windows. -/
theorem window_append (limit : τ) (left right : List α) :
    window time limit (left ++ right) = window time limit left ++ window time limit right :=
  List.filter_append ..

variable (time) in
/-- A window of a window is the later one. -/
theorem window_window {earlier later : τ} (le : earlier ≤ later) (entries : List α) :
    window time later (window time earlier entries) = window time later entries := by
  -- An entry that the earlier limit excludes is excluded by the later one too.
  rw [window, window, window, List.filter_filter]
  refine List.filter_congr fun entry _ => ?_
  -- What is in the later window is in the earlier one as well.
  rw [Bool.and_eq_left_iff_imp, decide_eq_true_iff, decide_eq_true_iff]
  exact le_trans le

/-- A window is in order if the whole list is. -/
theorem InOrder.window {entries : List α} (inOrder : InOrder time entries) (limit : τ) :
    InOrder time (window time limit entries) :=
  List.Pairwise.filter _ inOrder

/-- In a list in order, as many entries as are too early are those at its beginning. -/
theorem InOrder.drop_countP {entries : List α} (inOrder : InOrder time entries) (limit : τ) :
    entries.drop (entries.countP (time · < limit)) = SlidingWindow.window time limit entries := by
  -- Up to the first entry that is late enough, each one is counted and dropped.
  induction entries with
  | nil => rfl
  | cons entry entries ih =>
    obtain ⟨first, others⟩ := List.pairwise_cons.mp inOrder
    by_cases early : time entry < limit
    · have more : (entry :: entries).countP (time · < limit) =
          entries.countP (time · < limit) + 1 := List.countP_cons_of_pos (decide_eq_true early)
      rw [more, List.drop_succ_cons, ih others]
      simp only [SlidingWindow.window, List.filter_cons, not_le.mpr early, decide_false,
        Bool.false_eq_true, if_false]
    · -- Behind an entry that is late enough there are only such entries.
      have late : ∀ other ∈ entry :: entries, limit ≤ time other := by
        intro other member
        rcases List.mem_cons.mp member with rfl | behind
        · exact not_lt.mp early
        · exact le_trans (not_lt.mp early) (first other behind)
      have none : (entry :: entries).countP (time · < limit) = 0 := by
        rw [List.countP_eq_zero]
        intro other member
        simpa using late other member
      have all : SlidingWindow.window time limit (entry :: entries) = entry :: entries :=
        List.filter_eq_self.mpr fun other member => decide_eq_true (late other member)
      rw [none, all, List.drop_zero]

end SlidingWindow
