import Mathlib.Data.List.Basic

/-! A pipe that never blocks its writers: what has no room in it is dropped. -/

universe u

/-- The items that were written and not read yet, of which there are at most as many as fit. -/
structure BoundedPipe (α : Type u) where
  capacity : Nat
  unread : List α
deriving DecidableEq, Repr

namespace BoundedPipe

variable {α : Type u}

/-- A pipe that nothing was written to. -/
def empty (capacity : Nat) : BoundedPipe α := ⟨capacity, []⟩

/-- Writes an item if it fits. -/
def write (pipe : BoundedPipe α) (item : α) : BoundedPipe α :=
  if pipe.unread.length < pipe.capacity then { pipe with unread := pipe.unread ++ [item] } else pipe

/-- Reads the item that was written first, if there is one. -/
def read (pipe : BoundedPipe α) : Option (α × BoundedPipe α) :=
  match pipe.unread with
  | [] => none
  | item :: unread => some (item, { pipe with unread := unread })

/-- The other items leave room for one of some kind. -/
def RoomFor (pipe : BoundedPipe α) (kind : α → Prop) [DecidablePred kind] : Prop :=
  pipe.unread.countP (fun item => ¬ kind item) < pipe.capacity

/-- Writing does not change how much fits. -/
@[simp] theorem capacity_write (pipe : BoundedPipe α) (item : α) :
    (pipe.write item).capacity = pipe.capacity := by
  unfold write
  split <;> rfl

/-- Reading does not change how much fits. -/
theorem capacity_of_read {pipe rest : BoundedPipe α} {item : α}
    (reads : pipe.read = some (item, rest)) : rest.capacity = pipe.capacity := by
  unfold read at reads
  split at reads
  · cases reads
  · cases reads
    rfl

/-- What was written before is not lost. -/
theorem mem_write_of_mem {pipe : BoundedPipe α} {item other : α} (member : item ∈ pipe.unread) :
    item ∈ (pipe.write other).unread := by
  unfold write
  split
  · exact List.mem_append_left _ member
  · exact member

/-- A pipe that is full holds an item of a kind that the others leave room for. -/
theorem exists_of_full {pipe : BoundedPipe α} {kind : α → Prop} [DecidablePred kind]
    (room : pipe.RoomFor kind) (full : ¬ pipe.unread.length < pipe.capacity) :
    ∃ item ∈ pipe.unread, kind item := by
  -- Otherwise all the items would be others, and there would be too many of them.
  by_contra absent
  have others : pipe.unread.countP (fun item => ¬ kind item) = pipe.unread.length :=
    List.countP_eq_length.mpr fun item member =>
      decide_eq_true fun present => absent ⟨item, member, present⟩
  unfold RoomFor at room
  omega

/-- After an item of such a kind was written or dropped, the pipe holds one of them. -/
theorem exists_write {pipe : BoundedPipe α} {kind : α → Prop} [DecidablePred kind]
    (room : pipe.RoomFor kind) {item : α} (fits : kind item) :
    ∃ other ∈ (pipe.write item).unread, kind other := by
  by_cases free : pipe.unread.length < pipe.capacity
  · rw [write, if_pos free]
    exact ⟨item, List.mem_append_right _ List.mem_cons_self, fits⟩
  · rw [write, if_neg free]
    exact exists_of_full room free

/-- What was unread is the item that is read, or still unread. -/
theorem mem_of_read {pipe rest : BoundedPipe α} {item other : α}
    (reads : pipe.read = some (item, rest)) (member : other ∈ pipe.unread) :
    other = item ∨ other ∈ rest.unread := by
  unfold read at reads
  split at reads
  · cases reads
  · rename_i unread
    cases reads
    exact List.mem_cons.mp (unread ▸ member)

end BoundedPipe
