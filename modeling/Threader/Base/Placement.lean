import Mathlib.Data.List.Nodup

/-! Lists in which an element takes the place of the first one that is like it. -/

universe u

namespace Placement

variable {α : Type u} {alike : α → Bool} {element : α} {list : List α}

/-- The element takes the place of the first one that is like it, or else the last place. -/
def place (alike : α → Bool) (element : α) (list : List α) : List α :=
  match list.findIdx? alike with
  | some index => list.set index element
  | none => list ++ [element]

/-- When nothing is like the element, it is appended. -/
theorem place_of_none (nothing : list.find? alike = none) :
    place alike element list = list ++ [element] := by
  -- Neither search finds anything.
  have absent : list.findIdx? alike = none := by
    simpa [List.findIdx?_eq_none_iff] using nothing
  rw [place, absent]

/-- The first element that is like the new one is cut out, and the new one put in. -/
theorem place_of_some {first : α} (found : list.find? alike = some first) (element : α) :
    ∃ before after, list = before ++ first :: after ∧
      place alike element list = before ++ element :: after := by
  -- Nothing before the first one is like it, so its index is the length of what is before it.
  obtain ⟨like, before, after, rfl, unlike⟩ := List.find?_eq_some_iff_append.mp found
  have skipped : before.findIdx? alike = none := by
    simpa [List.findIdx?_eq_none_iff] using unlike
  have index : (before ++ first :: after).findIdx? alike = some before.length := by
    simp [List.findIdx?_append, skipped, List.findIdx?_cons, like]
  refine ⟨before, after, rfl, ?_⟩
  rw [place, index]
  simp

/-- The others stay, except for the one whose place is taken. -/
theorem mem_place_iff (nodup : list.Nodup) {other : α} :
    other ∈ place alike element list ↔
      other = element ∨ (other ∈ list ∧ list.find? alike ≠ some other) := by
  -- Either nothing is lost, or exactly the element that is found first.
  cases found : list.find? alike with
  | none =>
    rw [place_of_none found]
    simp [or_comm]
  | some first =>
    obtain ⟨before, after, rfl, placed⟩ := place_of_some found element
    rw [placed, List.perm_middle.mem_iff, List.perm_middle.mem_iff, List.mem_cons, List.mem_cons]
    refine or_congr_right ⟨fun stays => ⟨.inr stays, ?_⟩, fun kept => kept.1.resolve_left ?_⟩
    · -- The first one occurs once, so what is left of the list does not contain it.
      intro same
      cases same
      exact (List.nodup_cons.mp (List.perm_middle.nodup_iff.mp nodup)).1 stays
    · intro same
      exact kept.2 (congrArg some same.symm)

/-- Nothing occurs twice exactly when an element that is listed already takes its own place. -/
theorem nodup_place_iff (nodup : list.Nodup) :
    (place alike element list).Nodup ↔ (element ∈ list → list.find? alike = some element) := by
  -- The new element is the only one that can occur a second time.
  cases found : list.find? alike with
  | none =>
    -- At the end it occurs a second time when it is listed.
    rw [place_of_none found, (List.perm_append_singleton element list).nodup_iff, List.nodup_cons]
    simp [nodup]
  | some first =>
    obtain ⟨before, after, rfl, placed⟩ := place_of_some found element
    obtain ⟨once, others⟩ := List.nodup_cons.mp (List.perm_middle.nodup_iff.mp nodup)
    rw [placed, List.perm_middle.nodup_iff, List.nodup_cons, List.perm_middle.mem_iff,
      List.mem_cons]
    constructor
    · intro new listed
      rw [listed.resolve_right new.1]
    · intro own
      refine ⟨fun stays => ?_, others⟩
      -- Listed among the others, it would be the first one, which is not among them.
      have same : first = element := Option.some.inj (own (.inr stays))
      exact once (same ▸ stays)

end Placement
