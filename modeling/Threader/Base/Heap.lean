import Mathlib.Data.List.Basic

/-! A store of cells that are allocated one after another, updated in place, and never freed. -/

universe u

/-- The cells allocated so far, each named by how many were allocated before it. -/
structure Heap (α : Type u) where
  cells : List α
deriving DecidableEq, Repr

namespace Heap

variable {α : Type u}

/-- The name of a cell, by which everyone who shares it refers to it. -/
abbrev Address := Nat

/-- A store without cells. -/
def empty : Heap α := ⟨[]⟩

/-- The address that the next allocation hands out. -/
def fresh (heap : Heap α) : Address := heap.cells.length

/-- A new cell behind all others. -/
def allocate (heap : Heap α) (value : α) : Heap α := ⟨heap.cells ++ [value]⟩

/-- What a cell holds, if it was allocated. -/
def read (heap : Heap α) (address : Address) : Option α := heap.cells[address]?

/-- Applies a change to a cell in place. -/
def update (heap : Heap α) (address : Address) (change : α → α) : Heap α :=
  ⟨heap.cells.modify address change⟩

/-- An address that has been handed out. -/
def Allocated (heap : Heap α) (address : Address) : Prop := address < heap.fresh

instance (heap : Heap α) (address : Address) : Decidable (heap.Allocated address) :=
  inferInstanceAs (Decidable (_ < _))

theorem read_isSome {heap : Heap α} {address : Address} (allocated : heap.Allocated address) :
    ∃ value, heap.read address = some value :=
  -- An allocated address is a place of the list.
  ⟨heap.cells[address], List.getElem?_eq_getElem allocated⟩

theorem allocated_of_read {heap : Heap α} {address : Address} {value : α}
    (found : heap.read address = some value) : heap.Allocated address :=
  -- Only the places of the list hold something.
  (List.getElem?_eq_some_iff.mp found).1

@[simp] theorem fresh_allocate (heap : Heap α) (value : α) :
    (heap.allocate value).fresh = heap.fresh + 1 := by
  simp [fresh, allocate]

@[simp] theorem fresh_update (heap : Heap α) (address : Address) (change : α → α) :
    (heap.update address change).fresh = heap.fresh := by
  simp [fresh, update]

/-- A fresh cell holds what it was allocated with. -/
@[simp] theorem read_allocate_fresh (heap : Heap α) (value : α) :
    (heap.allocate value).read heap.fresh = some value := by
  simp [read, allocate, fresh]

/-- Allocation leaves the cells that exist alone. -/
theorem read_allocate_of_allocated {heap : Heap α} {address : Address} (value : α)
    (allocated : heap.Allocated address) :
    (heap.allocate value).read address = heap.read address :=
  -- The new cell lies behind the place that is read.
  List.getElem?_append_left allocated

/-- A change is applied to the value of its own cell. -/
@[simp] theorem read_update_self (heap : Heap α) (address : Address) (change : α → α) :
    (heap.update address change).read address = (heap.read address).map change := by
  simp [read, update]

/-- A change of one cell leaves the others alone. -/
theorem read_update_ne (heap : Heap α) {address other : Address} (change : α → α)
    (different : address ≠ other) :
    (heap.update address change).read other = heap.read other := by
  simp [read, update, different]

end Heap
