import Mathlib.Data.List.Induction
import Mathlib.Logic.Function.Basic

/-! Tables that hold one value for a key, and the lists of keys and values that stand for them. -/

universe u v

/-- The value of each key that has one. -/
abbrev Table (κ : Type u) (ν : Type v) := κ → Option ν

namespace Table

variable {κ : Type u} {ν : Type v} [DecidableEq κ]

/-- Gives a key a value, in place of the one that it may have. -/
def set (table : Table κ ν) (key : κ) (value : ν) : Table κ ν :=
  Function.update table key (some value)

/-- Changes the value of a key, if it has one. -/
def change (table : Table κ ν) (key : κ) (change : ν → ν) : Table κ ν :=
  Function.update table key ((table key).map change)

/-- Gives several keys their values, one after another. -/
def setAll (table : Table κ ν) (bindings : List (κ × ν)) : Table κ ν :=
  bindings.foldl (fun table binding => table.set binding.1 binding.2) table

theorem set_apply (table : Table κ ν) (key other : κ) (value : ν) :
    table.set key value other = if other = key then some value else table other :=
  Function.update_apply ..

theorem set_set (table : Table κ ν) (key : κ) (former latter : ν) :
    (table.set key former).set key latter = table.set key latter :=
  Function.update_idem ..

/-- The order in which two keys get their values makes no difference. -/
theorem set_comm (table : Table κ ν) {key other : κ} (differs : key ≠ other) (one two : ν) :
    (table.set key one).set other two = (table.set other two).set key one :=
  Function.update_comm differs ..

/-- A value that is changed at once is set as it was changed. -/
@[simp] theorem change_set (table : Table κ ν) (key : κ) (value : ν) (change : ν → ν) :
    (table.set key value).change key change = table.set key (change value) := by
  -- The value that is changed is the one that has just been set.
  simp [Table.change, set]

theorem setAll_append (table : Table κ ν) (former latter : List (κ × ν)) :
    table.setAll (former ++ latter) = (table.setAll former).setAll latter :=
  List.foldl_append ..

/-- Of several values for one key the last one stays. -/
theorem setAll_apply (table : Table κ ν) (bindings : List (κ × ν)) (key : κ) :
    table.setAll bindings key =
      ((bindings.filter fun binding => binding.1 = key).getLast?.map Prod.snd).or (table key) := by
  -- The induction is from the right, because the last binding decides.
  induction bindings using List.reverseRecOn with
  | nil => rfl
  | append_singleton bindings binding ih =>
    rw [setAll_append, List.filter_append]
    change (table.setAll bindings).set binding.1 binding.2 key = _
    rw [set_apply]
    by_cases same : binding.1 = key
    · simp [same]
    · have differs : ¬ key = binding.1 := fun equal => same equal.symm
      rw [if_neg differs, ih]
      simp [same]

section

variable [BEq κ]

/-- The table that a list stands for, in which the first value of a key counts. -/
def ofEntries (entries : List (κ × ν)) : Table κ ν := fun key => entries.lookup key

variable [LawfulBEq κ]

theorem ofEntries_cons (entry : κ × ν) (entries : List (κ × ν)) :
    ofEntries (entry :: entries) = (ofEntries entries).set entry.1 entry.2 := by
  -- The first entry hides those of its key behind it, and no others.
  funext key
  rw [set_apply, ofEntries, List.lookup_cons]
  by_cases same : key = entry.1
  · simp [same]
  · rw [if_neg same, beq_false_of_ne same]
    rfl

/-- An entry that replaces all others of its key sets the value. -/
theorem ofEntries_insert (entries : List (κ × ν)) (key : κ) (value : ν) :
    ofEntries ((key, value) :: entries.filter fun entry => entry.1 ≠ key) =
      (ofEntries entries).set key value := by
  -- An entry that is left out would have been hidden by the new one.
  rw [ofEntries_cons]
  induction entries with
  | nil => rfl
  | cons entry entries ih =>
    rw [ofEntries_cons entry entries]
    by_cases same : entry.1 = key
    · rw [List.filter_cons_of_neg (by simpa using same), ih, same, set_set]
    · -- The two values are set for different keys, in any order.
      rw [List.filter_cons_of_pos (by simpa using same), ofEntries_cons, set_comm _ same,
        set_comm _ same, ih]

/-- A change of all values of one key changes the value of that key. -/
theorem ofEntries_change (entries : List (κ × ν)) (key : κ) (change : ν → ν) :
    ofEntries (entries.map fun entry =>
        (entry.1, if entry.1 = key then change entry.2 else entry.2)) =
      (ofEntries entries).change key change := by
  -- Hidden entries are changed as well, which makes no difference to the table.
  induction entries with
  | nil =>
    funext other
    simp [Table.change, ofEntries, Function.update_apply]
  | cons entry entries ih =>
    rw [List.map_cons, ofEntries_cons, ofEntries_cons, ih]
    by_cases same : entry.1 = key
    · subst same
      simp [Table.change, set]
    · simp [Table.change, set, same, Function.update_comm, Function.update_of_ne (Ne.symm same)]

end

end Table
