import Threader.Frames.RowWiseReading
import Threader.Frames.StreamBounds

/-! The indices of atoms, which stay inside their vectors whatever is done to a frame. -/

namespace Threader

namespace BaseDataAtom

variable {α : Type} [StreamValue α]

omit [StreamValue α] in
/-- `value()`, which has no result outside the vector. -/
def value (atom : BaseDataAtom α) : Option α := atom.valuesVector[atom.currentIndex.toNat]?

omit [StreamValue α] in
/-- The current index is that of a value, of which there are as many as an int can count. -/
structure Indexed (atom : BaseDataAtom α) : Prop where
  current : atom.currentIndex.toNat < atom.valuesVector.length
  counted : atom.valuesVector.length < 2147483648

namespace Indexed

variable {atom : BaseDataAtom α}

omit [StreamValue α] in
/-- The capacity is the number of the values. -/
theorem toNat_capacity (indexed : atom.Indexed) : atom.capacity.toNat = atom.valuesVector.length := by
  have counted := indexed.counted
  rw [capacity, UInt32.toNat_ofNat']
  omega

omit [StreamValue α] in
/-- The accessors find a value. -/
theorem has_value (indexed : atom.Indexed) :
    1 ≤ atom.capacity.toNat ∧ atom.currentIndex < atom.capacity ∧ atom.value.isSome := by
  have current := indexed.current
  have capacity := indexed.toNat_capacity
  refine ⟨?_, ?_, ?_⟩
  · omega
  · rw [UInt32.lt_iff_toNat_lt, capacity]
    exact current
  · rw [value, List.getElem?_eq_getElem current]
    rfl

omit [StreamValue α] in
/-- Where an atom keeps its index and the number of its values, the index stays valid. -/
theorem of_length {other : BaseDataAtom α} (indexed : atom.Indexed)
    (index : other.currentIndex = atom.currentIndex)
    (length : other.valuesVector.length = atom.valuesVector.length) : other.Indexed := by
  refine ⟨?_, ?_⟩
  · rw [index, length]
    exact indexed.current
  · rw [length]
    exact indexed.counted

theorem clone (definition : DataAtomDefinition) : (BaseDataAtom.clone definition : BaseDataAtom α).Indexed :=
  ⟨Nat.one_pos, show 1 < 2147483648 by omega⟩

theorem clear (indexed : atom.Indexed) : atom.clear.Indexed :=
  indexed.of_length rfl List.length_replicate

omit [StreamValue α] in
theorem setValue (indexed : atom.Indexed) (value : α) : (atom.setValue value).Indexed :=
  indexed.of_length rfl List.length_set

omit [StreamValue α] in
theorem setValues (indexed : atom.Indexed) (values : List α) : (atom.setValues values).Indexed := by
  refine indexed.of_length rfl ?_
  simp only [BaseDataAtom.setValues, List.length_append, List.length_take, List.length_drop]
  omega

omit [StreamValue α] in
theorem fillData (indexed : atom.Indexed) (value : α) : (atom.fillData value).Indexed :=
  indexed.of_length rfl List.length_replicate

omit [StreamValue α] in
/-- An index past the last value is moved to the last one. -/
theorem setCurrentIndex_of_length (index : UInt32) (some : 0 < atom.valuesVector.length)
    (counted : atom.valuesVector.length < 2147483648) : (atom.setCurrentIndex index).Indexed := by
  have capacity : atom.capacity.toNat = atom.valuesVector.length := by
    rw [BaseDataAtom.capacity, UInt32.toNat_ofNat']
    omega
  refine ⟨?_, counted⟩
  -- An index beyond the capacity becomes that of the last value.
  show (if atom.capacity ≤ index then atom.capacity - 1 else index).toNat < atom.valuesVector.length
  split
  · rw [UInt32.toNat_sub_of_le _ _ (UInt32.le_iff_toNat_le.mpr (by rw [capacity]; exact some)), capacity]
    exact Nat.sub_lt some Nat.one_pos
  · rename_i inside
    have inside : ¬ atom.capacity.toNat ≤ index.toNat :=
      fun beyond => inside (UInt32.le_iff_toNat_le.mpr beyond)
    omega

omit [StreamValue α] in
theorem setCurrentIndex (indexed : atom.Indexed) (index : UInt32) :
    (atom.setCurrentIndex index).Indexed :=
  setCurrentIndex_of_length index (Nat.lt_of_le_of_lt (Nat.zero_le _) indexed.current) indexed.counted

/-- With a capacity that an int can hold, the index is clamped where the vector shrinks. -/
theorem of_setCapacity (atom : BaseDataAtom α) {capacity : UInt32}
    (small : capacity.toNat < 2147483648) : (atom.setCapacity capacity).Indexed := by
  have newSize : (if capacity = 0 then 1 else capacity) ≠ 0 ∧
      (if capacity = 0 then 1 else capacity).toNat < 2147483648 := by
    split
    · exact ⟨by decide, by decide⟩
    · rename_i positive
      exact ⟨positive, small⟩
  unfold BaseDataAtom.setCapacity
  dsimp only
  generalize (if capacity = 0 then 1 else capacity) = size at newSize
  have positive : size.toNat ≠ 0 := fun zero => newSize.1 (UInt32.toNat_inj.mp zero)
  -- The vector has as many values as the capacity says, kept ones and new ones.
  have length : (atom.valuesVector.take size.toNat ++
      List.replicate (size.toNat - atom.valuesVector.length) StreamValue.empty).length =
        size.toNat := by
    simp only [List.length_append, List.length_take, List.length_replicate]
    omega
  split
  · apply setCurrentIndex_of_length
    · rw [length]
      exact Nat.pos_of_ne_zero positive
    · rw [length]
      exact newSize.2
  · rename_i inside
    have inside : ¬ size.toNat ≤ atom.currentIndex.toNat :=
      fun beyond => inside (UInt32.le_iff_toNat_le.mpr beyond)
    refine ⟨?_, ?_⟩
    · rw [length]
      exact Nat.lt_of_not_le inside
    · rw [length]
      exact newSize.2

/-- Reading replaces values one by one, up to the first one that cannot be read. -/
theorem length_readValues (values : List α) (stream : DataStream) :
    (readValues values stream).2.1.length = values.length := by
  induction values generalizing stream with
  | nil => rfl
  | cons value values ih =>
    rw [readValues]
    split
    · rw [List.length_cons, List.length_cons, ih]
    · rw [List.length_cons, List.length_cons]

theorem read (indexed : atom.Indexed) (stream : DataStream) : (atom.read stream).2.1.Indexed := by
  -- However far reading gets, there are as many values as before.
  refine indexed.of_length rfl ?_
  show (readValues atom.clear.valuesVector stream).2.1.length = _
  rw [length_readValues]
  exact List.length_replicate

/-- Reading one value fills the vector up to its index, whether the value can be read or not. -/
theorem readItem (indexed : atom.Indexed) (stream : DataStream) {index : UInt32}
    (small : index.toNat < 2147483647) :
    ∃ result, atom.readItem stream index = some result ∧ result.2.1.Indexed ∧
      result.2.1.definition = atom.definition := by
  have current := indexed.current
  have counted := indexed.counted
  -- A scalar atom is read as a whole, and an array atom grows up to the item at least.
  cases kind : atom.definition.isScalar with
  | true =>
    refine ⟨atom.read stream, ?_, indexed.read stream, rfl⟩
    rw [BaseDataAtom.readItem, if_pos kind]
  | false =>
    have nonempty : atom.valuesVector ≠ [] := by
      rw [← List.length_pos_iff]
      omega
    obtain ⟨old, reads⟩ := readItem_eq kind nonempty small
    refine ⟨_, reads stream, ⟨?_, ?_⟩, rfl⟩
    · simp only [List.length_set, List.length_append, List.length_replicate]
      omega
    · simp only [List.length_set, List.length_append, List.length_replicate]
      omega

end Indexed

end BaseDataAtom

namespace AbstractDataAtom

variable [QtText]

omit [QtText] in
/-- Whatever a program assigns to an atom, its index stays valid. -/
theorem Assigns.indexed {before after : AbstractDataAtom} (assigns : before.Assigns after)
    (indexed : before.base.Indexed) : after.base.Indexed := by
  cases assigns with
  | setCurrentIndex => exact indexed.setCurrentIndex _
  | setValue base value => exact indexed.setValue value
  | setValues base values => exact indexed.setValues values
  | fillData base value => exact indexed.fillData value

/-- A byte array keeps its value, and any other atom its index within the new capacity. -/
theorem indexed_setCapacity {atom : AbstractDataAtom} (indexed : atom.base.Indexed)
    {capacity : UInt32} (small : capacity.toNat < 2147483648) :
    (atom.setCapacity capacity).base.Indexed := by
  by_cases bytes : atom.type = .byteArray
  · rw [setCapacity, if_pos bytes]
    exact indexed
  · rw [setCapacity, if_neg bytes]
    exact .of_setCapacity atom.base small

theorem indexed_readItem {atom : AbstractDataAtom} (indexed : atom.base.Indexed)
    (stream : DataStream) {index : UInt32} (small : index.toNat < 2147483647) :
    ∃ result, atom.readItem stream index = some result ∧ result.2.1.base.Indexed ∧
      result.2.1.definition = atom.definition := by
  obtain ⟨result, reads, kept, described⟩ := indexed.readItem stream small
  refine ⟨(result.1, { atom with base := result.2.1 }, result.2.2), ?_, kept, described⟩
  rw [readItem, reads]
  rfl

end AbstractDataAtom

namespace DataFrame

variable [QtText]

omit [QtText] in
/-- There is an atom at every place, with a valid index. -/
def AllIndexed (atoms : List (Option AbstractDataAtom)) : Prop :=
  ∀ entry ∈ atoms, ∃ atom, entry = some atom ∧ atom.base.Indexed

namespace AllIndexed

variable {atoms : List (Option AbstractDataAtom)}

omit [QtText] in
theorem nil : AllIndexed [] := fun _ member => absurd member List.not_mem_nil

omit [QtText] in
theorem cons {atom : AbstractDataAtom} (first : atom.base.Indexed) (others : AllIndexed atoms) :
    AllIndexed (some atom :: atoms) :=
  List.forall_mem_cons.mpr ⟨⟨atom, rfl, first⟩, others⟩

omit [QtText] in
/-- The first atom, and the others. -/
theorem of_cons {entry : Option AbstractDataAtom} (all : AllIndexed (entry :: atoms)) :
    ∃ atom, entry = some atom ∧ atom.base.Indexed ∧ AllIndexed atoms := by
  obtain ⟨⟨atom, rfl, first⟩, others⟩ := List.forall_mem_cons.mp all
  exact ⟨atom, rfl, first, others⟩

omit [QtText] in
/-- What is done to each atom by itself leaves all indices valid. -/
theorem map {change : AbstractDataAtom → AbstractDataAtom} (all : AllIndexed atoms)
    (keeps : ∀ atom : AbstractDataAtom, atom.base.Indexed → (change atom).base.Indexed) :
    AllIndexed (atoms.map (Option.map change)) := by
  intro entry member
  obtain ⟨before, inside, rfl⟩ := List.mem_map.mp member
  obtain ⟨atom, rfl, indexed⟩ := all before inside
  exact ⟨change atom, rfl, keeps atom indexed⟩

omit [QtText] in
/-- One atom can be replaced by another one with a valid index. -/
theorem set {after : AbstractDataAtom} (all : AllIndexed atoms) (place : Nat)
    (indexed : after.base.Indexed) : AllIndexed (atoms.set place (some after)) := by
  intro entry member
  rcases List.mem_or_eq_of_mem_set member with inside | rfl
  · exact all entry inside
  · exact ⟨after, rfl, indexed⟩

/-- The loop of `read(stream)` leaves the atoms behind a failure as they are. -/
theorem readAtoms (all : AllIndexed atoms) (stream : DataStream) :
    AllIndexed (DataFrame.readAtoms atoms stream).2.1 := by
  induction atoms generalizing stream with
  | nil => exact all
  | cons entry atoms ih =>
    obtain ⟨atom, rfl, first, others⟩ := all.of_cons
    have read : (atom.read stream).2.1.base.Indexed := first.read stream
    -- The other atoms are read, or left as they are behind one that fails.
    rw [DataFrame.readAtoms]
    dsimp only
    split
    · exact cons read (ih others _)
    · exact cons read others

/-- A row of a run of array atoms is read with a result, and each index of its atoms is valid. -/
theorem readRow (all : AllIndexed atoms) {c : UInt32} (small : c.toNat < 2147483647)
    (stream : DataStream) :
    ∃ row, DataFrame.readRow c atoms stream = some row ∧ AllIndexed row.atoms ∧
      row.atoms.length = atoms.length := by
  -- Induction along the atoms: a scalar one and a failure end the row, and leave the rest alone.
  induction atoms generalizing stream with
  | nil => exact ⟨⟨true, 0, [], stream⟩, rfl, all, rfl⟩
  | cons entry atoms ih =>
    obtain ⟨atom, rfl, first, others⟩ := all.of_cons
    rw [DataFrame.readRow]
    by_cases scalar : atom.definition.isScalar = true
    · rw [if_pos scalar]
      exact ⟨_, rfl, all, rfl⟩
    · obtain ⟨item, reads, kept, _⟩ := AbstractDataAtom.indexed_readItem first stream small
      rw [if_neg scalar, reads, Option.bind_some]
      by_cases done : item.1 = true
      · obtain ⟨later, readsLater, indexed, length⟩ := ih others item.2.2
        rw [if_pos done, readsLater, Option.map_some]
        refine ⟨_, rfl, cons kept indexed, ?_⟩
        rw [List.length_cons, List.length_cons, length]
      · rw [if_neg done]
        refine ⟨_, rfl, cons kept others, ?_⟩
        rw [List.length_cons, List.length_cons]

/-- The rows of a run are read with a result, up to the first one that fails. -/
theorem readRows {run : RunRead} (all : AllIndexed run.atoms) (rows : Nat) {c : UInt32}
    (small : c.toNat + rows < 2147483648) :
    ∃ last, DataFrame.readRows rows c run = some last ∧ AllIndexed last.atoms ∧
      last.atoms.length = run.atoms.length := by
  induction rows generalizing c run with
  | zero => exact ⟨run, rfl, all, rfl⟩
  | succ rows ih =>
    have next : (c + 1).toNat = c.toNat + 1 := MachineInt.toNat_add_one (by omega)
    obtain ⟨row, reads, indexed, length⟩ := all.readRow (show c.toNat < 2147483647 by omega) run.stream
    rw [DataFrame.readRows, reads, Option.bind_some]
    -- The first row that fails is the last one.
    by_cases done : row.done = true
    · obtain ⟨last, readsLast, kept, same⟩ := ih indexed (show (c + 1).toNat + rows < 2147483648 by omega)
      rw [if_pos done, readsLast]
      exact ⟨last, rfl, kept, same.trans length⟩
    · rw [if_neg done]
      exact ⟨row, rfl, indexed, length⟩

/-- All runs and scalar atoms are read with a result, and each index stays valid. -/
theorem readRuns (all : AllIndexed atoms) {capacity : UInt32} (small : capacity.toNat < 2147483648)
    {left : Nat} (enough : atoms.length ≤ left) (result : Bool) (stream : DataStream) :
    ∃ read, DataFrame.readRuns capacity left result atoms stream = some read ∧
      AllIndexed read.2.1 := by
  -- Every turn of the loop leaves at least one atom behind.
  induction left generalizing atoms result stream with
  | zero =>
    obtain rfl := List.length_eq_zero_iff.mp (Nat.le_zero.mp enough)
    exact ⟨_, by rw [DataFrame.readRuns], nil⟩
  | succ left ih =>
    cases atoms with
    | nil => exact ⟨_, by rw [DataFrame.readRuns], nil⟩
    | cons entry atoms =>
      obtain ⟨atom, rfl, first, others⟩ := all.of_cons
      have shorter : atoms.length ≤ left := Nat.le_of_succ_le_succ enough
      rw [DataFrame.readRuns]
      by_cases scalar : atom.definition.isScalar = true
      · have kept : (atom.read stream).2.1.base.Indexed := first.read stream
        obtain ⟨later, reads, indexed⟩ := ih others shorter (atom.read stream).1 (atom.read stream).2.2
        rw [if_pos scalar]
        dsimp only
        rw [reads, Option.map_some]
        exact ⟨_, rfl, cons kept indexed⟩
      · have start : AllIndexed (RunRead.mk true 0 (some atom :: atoms) stream).atoms := all
        obtain ⟨run, readsRun, runIndexed, length⟩ :=
          start.readRows capacity.toNat (show (0 : UInt32).toNat + capacity.toNat < 2147483648 by simpa)
        rw [if_neg scalar, readsRun, Option.bind_some]
        by_cases done : run.done = true
        · have behind : AllIndexed (run.atoms.drop (run.passed + 1)) :=
            fun entry member => runIndexed entry (List.mem_of_mem_drop member)
          have fewer : (run.atoms.drop (run.passed + 1)).length ≤ left := by
            rw [List.length_drop, length, List.length_cons]
            omega
          obtain ⟨later, reads, indexed⟩ := ih behind fewer true run.stream
          rw [if_pos done, reads, Option.map_some]
          refine ⟨_, rfl, ?_⟩
          -- The atoms of the run come first, and then those that are read later.
          intro entry member
          rcases List.mem_append.mp member with inside | inside
          · exact runIndexed entry (List.mem_of_mem_take inside)
          · exact indexed entry inside
        · rw [if_neg done]
          exact ⟨_, rfl, runIndexed⟩

end AllIndexed

/-- `read(stream, capacity)` has a result, and each index stays valid. -/
theorem AllIndexed.readWithCapacity {frame : DataFrame} (all : AllIndexed frame.atoms)
    (stream : DataStream) {capacity : UInt32} (small : capacity.toNat < 2147483648) :
    ∃ read, frame.readWithCapacity stream capacity = some read ∧ AllIndexed read.2.1.atoms := by
  obtain ⟨read, reads, indexed⟩ := all.readRuns small (Nat.le_refl _) true stream
  rw [DataFrame.readWithCapacity, reads, Option.map_some]
  exact ⟨_, rfl, indexed⟩

theorem AllIndexed.setCapacity {frame : DataFrame} (all : AllIndexed frame.atoms)
    {capacity : UInt32} (small : capacity.toNat < 2147483648) :
    AllIndexed (frame.setCapacity capacity).atoms := by
  refine AllIndexed.map all ?_
  intro atom indexed
  -- A scalar atom gets one value, and any other one as many as the frame, at least one.
  refine AbstractDataAtom.indexed_setCapacity indexed ?_
  split
  · decide
  · split
    · decide
    · exact small

omit [QtText] in
/-- The capacity that `read(stream)` starts from is not greater than the bytes that are left. -/
theorem readCapacity_small {frame : DataFrame} {stream : DataStream} (inBounds : stream.InBounds)
    (fits : stream.size < 2147483648) (sized : (frame.readCapacity stream).1 = true) :
    (frame.readCapacity stream).2.1.toNat < 2147483648 := by
  unfold readCapacity at sized ⊢
  split at sized
  · rename_i array
    rw [if_pos array]
    -- Behind the number there are fewer bytes than an int can count, and at least as many as it says.
    obtain ⟨data, same, low, high⟩ := (inBounds.readFixed (1 : UInt32)).inBounds
    have whole := DataStream.size_congr (DataStream.readFixed_data (1 : UInt32) stream)
    have size := DataStream.size_of_data same
    simp only [Bool.and_eq_true, Bool.not_eq_true', decide_eq_false_iff_not] at sized
    have allowed : ¬ (UInt32.ofInt ((DataStream.readFixed (1 : UInt32) stream).2.2.size -
        (DataStream.readFixed (1 : UInt32) stream).2.2.position)).toNat <
          (DataStream.readFixed (1 : UInt32) stream).2.1.toNat :=
      fun more => sized.2 (UInt32.lt_iff_toNat_lt.mpr more)
    rw [UInt32.ofInt, UInt32.toNat_ofNat'] at allowed
    show (DataStream.readFixed (1 : UInt32) stream).2.1.toNat < 2147483648
    omega
  · rename_i scalar
    rw [if_neg scalar]
    exact show (1 : UInt32).toNat < 2147483648 by decide

/-- `read(stream)` leaves each index valid, whether it fails or not. -/
theorem AllIndexed.read {frame : DataFrame} (all : AllIndexed frame.atoms) {stream : DataStream}
    (inBounds : stream.InBounds) (fits : stream.size < 2147483648) :
    AllIndexed (frame.read stream).2.1.atoms := by
  unfold DataFrame.read
  dsimp only
  split
  · rename_i sized
    exact (all.setCapacity (readCapacity_small inBounds fits sized)).readAtoms _
  · exact all

/--
A frame as a program handles it: built, resized, filled in, cleared and read, in any order.

Capacities are numbers that an int can hold, and streams are in bounds of arbitrary bytes.
-/
inductive Handled (factory : DataFramesFactory) (definition : DataFrameDefinition) : DataFrame → Prop
  | buildFrame : Handled factory definition (factory.buildFrame definition)
  | setCapacity {frame : DataFrame} (capacity : UInt32) (small : capacity.toNat < 2147483648)
      (handled : Handled factory definition frame) :
      Handled factory definition (frame.setCapacity capacity)
  | setCurrentIndex {frame : DataFrame} (currentIndex : UInt32)
      (handled : Handled factory definition frame) :
      Handled factory definition (frame.setCurrentIndex currentIndex)
  | clear {frame : DataFrame} {place : Nat} {atom : AbstractDataAtom}
      (found : frame.atoms[place]? = some (some atom)) (handled : Handled factory definition frame) :
      Handled factory definition
        { frame with atoms := frame.atoms.set place (some { atom with base := atom.base.clear }) }
  | assign {frame : DataFrame} {place : Nat} {atom after : AbstractDataAtom}
      (found : frame.atoms[place]? = some (some atom)) (assigns : atom.Assigns after)
      (handled : Handled factory definition frame) :
      Handled factory definition { frame with atoms := frame.atoms.set place (some after) }
  | read {frame : DataFrame} {stream : DataStream} (inBounds : stream.InBounds)
      (fits : stream.size < 2147483648) (handled : Handled factory definition frame) :
      Handled factory definition (frame.read stream).2.1
  | readWithCapacity {frame : DataFrame} (stream : DataStream) {capacity : UInt32}
      (small : capacity.toNat < 2147483648) {result : Bool × DataFrame × DataStream}
      (reads : frame.readWithCapacity stream capacity = some result)
      (handled : Handled factory definition frame) :
      Handled factory definition result.2.1

/-- Fresh atoms of registered types have valid indices. -/
theorem allIndexed_buildFrame {factory : DataFramesFactory} {definition : DataFrameDefinition}
    (registered :
      ∀ atom ∈ definition.atoms, ∃ type, factory.registry.lookup atom.atomType = some type) :
    AllIndexed (factory.buildFrame definition).atoms := by
  intro entry member
  obtain ⟨described, inside, rfl⟩ := List.mem_map.mp member
  obtain ⟨type, found⟩ := registered described inside
  refine ⟨.clone type described, ?_, .clone described⟩
  rw [DataFramesFactory.atomByDefinition, found]
  rfl

/-- Whatever is done to a frame, there is an atom at every place, with a valid index. -/
theorem Handled.allIndexed {factory : DataFramesFactory} {definition : DataFrameDefinition}
    {frame : DataFrame} (handled : frame.Handled factory definition)
    (registered :
      ∀ atom ∈ definition.atoms, ∃ type, factory.registry.lookup atom.atomType = some type) :
    AllIndexed frame.atoms := by
  -- Each operation keeps what held before it.
  induction handled with
  | buildFrame => exact allIndexed_buildFrame registered
  | setCapacity capacity small _ ih => exact ih.setCapacity small
  | setCurrentIndex currentIndex _ ih =>
    refine ih.map ?_
    intro atom indexed
    exact indexed.setCurrentIndex currentIndex
  | @clear frame place atom found _ ih =>
    obtain ⟨same, present, indexed⟩ := ih (some atom) (List.mem_of_getElem? found)
    cases present
    exact ih.set place indexed.clear
  | @assign frame place atom after found assigns _ ih =>
    obtain ⟨same, present, indexed⟩ := ih (some atom) (List.mem_of_getElem? found)
    cases present
    exact ih.set place (assigns.indexed indexed)
  | read inBounds fits _ ih => exact ih.read inBounds fits
  | readWithCapacity stream small reads _ ih =>
    obtain ⟨read, same, indexed⟩ := ih.readWithCapacity stream small
    cases reads.symm.trans same
    exact indexed

/--
Whatever is done to a frame of registered atom types, its accessors stay inside their vectors.

Every atom has a value at least, and its index is below its capacity.
Reading with a capacity never asks for a value that is not there, so that it always has a result.
-/
theorem Handled.accessible {factory : DataFramesFactory} {definition : DataFrameDefinition}
    {frame : DataFrame} (handled : frame.Handled factory definition)
    (registered :
      ∀ atom ∈ definition.atoms, ∃ type, factory.registry.lookup atom.atomType = some type) :
    (∀ entry ∈ frame.atoms, ∃ atom, entry = some atom ∧ 1 ≤ atom.base.capacity.toNat ∧
      atom.base.currentIndex < atom.base.capacity ∧ atom.base.value.isSome) ∧
      ∀ (stream : DataStream) (capacity : UInt32), capacity.toNat < 2147483648 →
        (frame.readWithCapacity stream capacity).isSome := by
  have all := handled.allIndexed registered
  refine ⟨?_, ?_⟩
  · intro entry member
    obtain ⟨atom, present, indexed⟩ := all entry member
    exact ⟨atom, present, indexed.has_value⟩
  · intro stream capacity small
    obtain ⟨read, reads, _⟩ := all.readWithCapacity stream small
    rw [reads]
    rfl

omit [QtText] in
/-- A frame whose index is the last of three, before it is read from data that end too early. -/
theorem accessible_notes :
    let _ : QtText := .ascii
    let factory := DataFramesFactory.init DataFramesFactory.notesDefinitions
    let resized := (factory.buildFrame DataFramesFactory.notesDefinition).setCapacity 3
    let frame := ((resized.setCurrentIndex 2).read (.ofData [2, 0, 0, 0, 7])).2.1
    (∀ entry ∈ frame.atoms, ∃ atom, entry = some atom ∧ 1 ≤ atom.base.capacity.toNat ∧
      atom.base.currentIndex < atom.base.capacity ∧ atom.base.value.isSome) ∧
      ∀ (stream : DataStream) (capacity : UInt32), capacity.toNat < 2147483648 →
        (frame.readWithCapacity stream capacity).isSome := by
  let _ : QtText := .ascii
  intro _ factory resized frame
  have handled : frame.Handled factory DataFramesFactory.notesDefinition :=
    .read (DataStream.ofData_inBounds [2, 0, 0, 0, 7]) (by decide)
      (.setCurrentIndex 2 (.setCapacity 3 (by decide) .buildFrame))
  refine Handled.accessible handled ?_
  simp only [DataFramesFactory.notesDefinition, List.forall_mem_cons]
  exact ⟨⟨.int32, by decide⟩, ⟨.string, by decide⟩, by simp⟩

end DataFrame

end Threader
