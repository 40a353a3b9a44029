import Mathlib.Data.List.Nodup

/-! Items that are collected one after another, each only if none with its key is there already. -/

universe u v

namespace Collecting

variable {α : Type u} {κ : Type v} [DecidableEq κ] (key : α → κ)

/-- Adds an item behind the others unless one of them has its key. -/
def add (items : List α) (item : α) : List α :=
  if items.any fun other => key other = key item then items else items ++ [item]

omit [DecidableEq κ] in
/-- Items of a source that have different keys, and all the keys that there are in the source. -/
structure Collects (source items : List α) : Prop where
  distinct : (items.map key).Nodup
  sound : items ⊆ source
  complete : ∀ item ∈ source, key item ∈ items.map key

variable {key} {source items : List α}

omit [DecidableEq κ] in
theorem collects_nil : Collects key [] [] := by
  refine ⟨List.nodup_nil, List.Subset.refl [], ?_⟩
  intro item member
  cases member

/-- An item that is added leaves the keys different, and brings its own. -/
theorem Collects.add (collects : Collects key source items) (item : α) :
    Collects key (source ++ [item]) (add key items item) := by
  have known : (items.any fun other => key other = key item) = true ↔ key item ∈ items.map key := by
    simp
  have sound : items ⊆ source ++ [item] := fun other member =>
    List.mem_append_left _ (collects.sound member)
  unfold Collecting.add
  split
  · rename_i there
    refine ⟨collects.distinct, sound, fun other member => ?_⟩
    rcases List.mem_append.mp member with earlier | last
    · exact collects.complete other earlier
    · -- The key was there before the item.
      obtain rfl := List.mem_singleton.mp last
      exact known.mp there
  · rename_i missing
    refine ⟨?_, ?_, fun other member => ?_⟩
    · rw [List.map_append, List.map_singleton]
      refine List.nodup_append.mpr ⟨collects.distinct, List.nodup_singleton _, ?_⟩
      intro earlier among last own same
      obtain rfl := List.mem_singleton.mp own
      exact missing (known.mpr (same ▸ among))
    · exact List.append_subset.mpr ⟨sound, List.subset_append_right ..⟩
    · rw [List.map_append]
      rcases List.mem_append.mp member with earlier | last
      · exact List.mem_append_left _ (collects.complete other earlier)
      · obtain rfl := List.mem_singleton.mp last
        exact List.mem_append_right _ List.mem_cons_self

/-- So do several items. -/
theorem Collects.foldl_add (collects : Collects key source items) (others : List α) :
    Collects key (source ++ others) (others.foldl (Collecting.add key) items) := by
  induction others generalizing source items with
  | nil => rwa [List.append_nil]
  | cons item others ih =>
    have rest := ih (collects.add item)
    rwa [List.append_assoc] at rest

omit [DecidableEq κ] in
/-- The order of the items makes no difference. -/
theorem Collects.perm (collects : Collects key source items) {others : List α}
    (same : others.Perm items) : Collects key source others := by
  refine ⟨(same.map key).nodup_iff.mpr collects.distinct, List.Subset.trans same.subset collects.sound, ?_⟩
  intro item member
  exact (same.map key).mem_iff.mpr (collects.complete item member)

end Collecting
