import Mathlib.Logic.Function.Basic

/-! Objects that are deleted through pointers: which of them exist, and how often one was deleted. -/

universe u

/-- The objects that exist, and how often `delete` was applied to each. -/
structure LiveObjects (α : Type u) where
  live : α → Bool
  deletions : α → Nat

namespace LiveObjects

variable {α : Type u}

/-- Nothing was deleted yet. -/
def undeleted : LiveObjects α := ⟨fun _ => true, fun _ => 0⟩

/-- No object was deleted twice, and those that exist were not deleted at all. -/
structure Sound (objects : LiveObjects α) : Prop where
  once : ∀ object, objects.deletions object ≤ 1
  spared : ∀ object, objects.live object = true → objects.deletions object = 0

/-- Where nothing was deleted, nothing was deleted twice. -/
theorem Sound.undeleted : (undeleted : LiveObjects α).Sound :=
  ⟨fun _ => Nat.zero_le 1, fun _ _ => rfl⟩

variable [DecidableEq α]

/-- `delete object`. -/
def delete (objects : LiveObjects α) (object : α) : LiveObjects α :=
  ⟨Function.update objects.live object false,
    Function.update objects.deletions object (objects.deletions object + 1)⟩

/-- `delete` for some objects, one after another. -/
def deleteAll (objects : LiveObjects α) (list : List α) : LiveObjects α := list.foldl delete objects

/-- An object that was deleted does not exist. -/
@[simp] theorem live_delete_self (objects : LiveObjects α) (object : α) :
    (objects.delete object).live object = false := Function.update_self ..

/-- The other objects go on existing. -/
theorem live_delete_ne (objects : LiveObjects α) {object other : α} (different : other ≠ object) :
    (objects.delete object).live other = objects.live other := Function.update_of_ne different ..

/-- What does not exist is not created by deleting. -/
theorem live_deleteAll_of_dead {objects : LiveObjects α} {object : α}
    (dead : objects.live object = false) (list : List α) :
    (objects.deleteAll list).live object = false := by
  unfold deleteAll
  -- Induction on the list: a flag that is cleared stays so.
  induction list generalizing objects with
  | nil => exact dead
  | cons first list ih =>
    apply ih
    by_cases same : object = first
    · rw [same]
      exact live_delete_self ..
    · rw [live_delete_ne _ same]
      exact dead

/-- None of the objects of the list exists afterwards. -/
theorem live_deleteAll {objects : LiveObjects α} {list : List α} {object : α}
    (member : object ∈ list) : (objects.deleteAll list).live object = false := by
  unfold deleteAll
  -- The flag is cleared when the turn comes to the object.
  induction list generalizing objects with
  | nil => cases member
  | cons first list ih =>
    rcases List.mem_cons.mp member with rfl | later
    · exact live_deleteAll_of_dead (live_delete_self objects object) list
    · exact ih later

/-- An object that exists can be deleted. -/
theorem Sound.delete {objects : LiveObjects α} (sound : objects.Sound) {object : α}
    (live : objects.live object = true) : (objects.delete object).Sound := by
  -- The count of the object was zero, and the other counts stay as they were.
  refine ⟨fun other => ?_, fun other lives => ?_⟩
  · by_cases same : other = object
    · subst same
      have never := sound.spared other live
      simp [LiveObjects.delete, never]
    · simpa [LiveObjects.delete, same] using sound.once other
  · by_cases same : other = object
    · subst same
      simp at lives
    · rw [live_delete_ne _ same] at lives
      simpa [LiveObjects.delete, same] using sound.spared other lives

end LiveObjects
