import Mathlib.Data.List.Basic

/-! Lists cut at their separators, and what a separator that arrives later changes about that. -/

universe u

namespace Splitting

variable {α : Type u} (separates : α → Bool)

/-- No element of a run separates anything. -/
def Unbroken (run : List α) : Prop := ∀ element ∈ run, separates element = false

/-- The runs that a separator ends, empty ones included. -/
def ended (elements : List α) : List (List α) := (elements.splitOnP separates).dropLast

/-- The run behind the last separator. -/
def pending (elements : List α) : List α :=
  (elements.splitOnP separates).getLast (List.splitOnP_ne_nil separates elements)

variable {separates}

/-- Without a separator no run is ended. -/
theorem ended_unbroken {run : List α} (unbroken : Unbroken separates run) :
    ended separates run = [] := by
  -- The only part is the last one, which nothing ends.
  rw [ended, List.splitOnP_eq_singleton unbroken, List.dropLast_singleton]

/-- Without a separator everything is pending. -/
theorem pending_unbroken {run : List α} (unbroken : Unbroken separates run) :
    pending separates run = run := by
  simp only [pending, List.splitOnP_eq_singleton unbroken, List.getLast_singleton]

/-- The first separator ends the run in front of it. -/
theorem ended_append_cons {run : List α} (unbroken : Unbroken separates run) {separator : α}
    (separated : separates separator = true) (rest : List α) :
    ended separates (run ++ separator :: rest) = run :: ended separates rest := by
  rw [ended, List.splitOnP_append_cons_of_forall_mem unbroken separator separated,
    List.dropLast_cons_of_ne_nil (List.splitOnP_ne_nil separates rest), ended]

/-- What is pending lies behind the first separator. -/
theorem pending_append_cons {run : List α} (unbroken : Unbroken separates run) {separator : α}
    (separated : separates separator = true) (rest : List α) :
    pending separates (run ++ separator :: rest) = pending separates rest := by
  simp only [pending, List.splitOnP_append_cons_of_forall_mem unbroken separator separated]
  exact List.getLast_cons (List.splitOnP_ne_nil separates rest)

variable (separates) in
/-- A list has no separator, or begins with a run that its first separator ends. -/
theorem unbroken_or_append_cons (elements : List α) :
    Unbroken separates elements ∨ ∃ run separator rest, elements = run ++ separator :: rest ∧
      Unbroken separates run ∧ separates separator = true := by
  -- The list is searched for its first separator.
  induction elements with
  | nil => exact .inl (List.forall_mem_nil _)
  | cons first elements ih =>
    cases separated : separates first with
    | true => exact .inr ⟨[], first, elements, rfl, List.forall_mem_nil _, separated⟩
    | false =>
      -- An element that does not separate belongs to the first run.
      rcases ih with unbroken | ⟨run, separator, rest, rfl, unbroken, ends⟩
      · exact .inl (List.forall_mem_cons.mpr ⟨separated, unbroken⟩)
      · exact .inr ⟨first :: run, separator, rest, rfl,
          List.forall_mem_cons.mpr ⟨separated, unbroken⟩, ends⟩

variable (separates) in
/-- What holds of unbroken runs, and of lists that go on behind a separator, holds of all lists. -/
theorem runs_induction {motive : List α → Prop}
    (last : ∀ run, Unbroken separates run → motive run)
    (next : ∀ run separator rest, Unbroken separates run → separates separator = true →
      motive rest → motive (run ++ separator :: rest))
    (elements : List α) : motive elements := by
  -- The list behind the first separator is shorter.
  induction length : elements.length using Nat.strongRecOn generalizing elements with
  | ind length ih =>
    rcases unbroken_or_append_cons separates elements with
      unbroken | ⟨run, separator, rest, rfl, unbroken, separated⟩
    · exact last elements unbroken
    · refine next run separator rest unbroken separated (ih rest.length ?_ rest rfl)
      simp only [← length, List.length_append, List.length_cons]
      omega

variable (separates) in
/-- What is pending has no separator. -/
theorem unbroken_pending (elements : List α) : Unbroken separates (pending separates elements) := by
  -- What lies behind the last separator is the last run itself.
  induction elements using runs_induction separates with
  | last run unbroken => rwa [pending_unbroken unbroken]
  | next run separator rest unbroken separated ih =>
    rwa [pending_append_cons unbroken separated]

variable (separates) in
/-- What is pending is the end of the list. -/
theorem pending_suffix (elements : List α) : pending separates elements <:+ elements := by
  -- Each separator only cuts off what is in front of it.
  induction elements using runs_induction separates with
  | last run unbroken => exact (pending_unbroken unbroken).symm ▸ List.suffix_rfl
  | next run separator rest unbroken separated ih =>
    rw [pending_append_cons unbroken separated]
    exact ih.trans ((List.suffix_cons separator rest).trans (List.suffix_append run _))

/-- Elements that follow end what is pending, and then runs of their own. -/
theorem ended_append (front back : List α) :
    ended separates (front ++ back) =
      ended separates front ++ ended separates (pending separates front ++ back) := by
  -- The runs that the front ends are taken off one by one.
  induction front using runs_induction separates with
  | last run unbroken => rw [ended_unbroken unbroken, pending_unbroken unbroken, List.nil_append]
  | next run separator rest unbroken separated ih =>
    -- The first run is ended in front of all that follows.
    rw [List.append_assoc, List.cons_append, ended_append_cons unbroken separated, ih,
      ended_append_cons unbroken separated, pending_append_cons unbroken separated,
      List.cons_append]

/-- What is pending at the end only depends on what was pending before. -/
theorem pending_append (front back : List α) :
    pending separates (front ++ back) = pending separates (pending separates front ++ back) := by
  -- The runs that the front ends are forgotten one by one.
  induction front using runs_induction separates with
  | last run unbroken => rw [pending_unbroken unbroken]
  | next run separator rest unbroken separated ih =>
    rw [List.append_assoc, List.cons_append, pending_append_cons unbroken separated, ih,
      pending_append_cons unbroken separated]

end Splitting
