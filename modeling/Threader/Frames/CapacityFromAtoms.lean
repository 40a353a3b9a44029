import Threader.Base.Budget
import Threader.Frames.FrameSize

/-! `DataFrame::calcCapacityFromAtoms`: the number of rows that a number of bytes has room for. -/

namespace Threader

variable [QtText]

/-- A type whose values all count for the same number of bytes. -/
def AtomType.FixedSize (type : AtomType) : Prop := type ≠ .string ∧ type ≠ .byteArray

omit [QtText] in
instance (type : AtomType) : Decidable type.FixedSize := inferInstanceAs (Decidable (_ ∧ _))

/-- All values of a fixed size count for the same number of bytes, and for sixteen at most. -/
theorem AtomType.FixedSize.size_eq {type : AtomType} (fixed : type.FixedSize) (left right : type.Value) :
    StreamValue.size left = StreamValue.size right ∧ StreamValue.size left ≤ 16 := by
  -- The size does not depend on the value, but for texts and byte arrays.
  cases type with
  | string => exact absurd rfl fixed.1
  | byteArray => exact absurd rfl fixed.2
  | _ => exact ⟨rfl, Nat.le_of_ble_eq_true rfl⟩

/-- As many values of a fixed size count for as many times the size of one of them. -/
theorem AtomType.FixedSize.sum_size {type : AtomType} (fixed : type.FixedSize) (value : type.Value)
    (values : List type.Value) :
    (values.map StreamValue.size).sum = values.length * StreamValue.size value := by
  induction values with
  | nil => rw [List.map_nil, List.sum_nil, List.length_nil, Nat.zero_mul]
  | cons first values ih =>
    rw [List.map_cons, List.sum_cons, ih, (fixed.size_eq first value).1, List.length_cons,
      Nat.succ_mul, Nat.add_comm]

/-- An atom of fixed size with one value, which is given more, counts for as many times its size. -/
theorem AbstractDataAtom.size_setCapacity {atom : AbstractDataAtom} (fixed : atom.type.FixedSize)
    (single : atom.base.valuesVector.length = 1) {capacity : UInt32} (positive : capacity ≠ 0) :
    (atom.setCapacity capacity).size = capacity.toNat * atom.size := by
  obtain ⟨type, definition, values, index⟩ := atom
  obtain ⟨value, rfl⟩ : ∃ value, values = [value] := List.length_eq_one_iff.mp single
  have own : (AbstractDataAtom.mk type ⟨definition, [value], index⟩).size = StreamValue.size value := by
    simp [size, BaseDataAtom.size]
  -- The values are as many as the capacity says.
  rw [setCapacity, if_neg fixed.2, own, size, BaseDataAtom.size, fixed.sum_size value,
    BaseDataAtom.setCapacity_length _ positive]

namespace DataFrame

/-- What one atom adds to the sizes of the scalar atoms and of the array atoms. -/
def addAtomSize (totals : UInt32 × UInt32) : Option AbstractDataAtom → UInt32 × UInt32
  | none => totals
  | some atom =>
    if atom.definition.isScalar then (totals.1 + UInt32.ofNat atom.size, totals.2)
    else (totals.1, totals.2 + UInt32.ofNat atom.size)

/-- `calcCapacityFromAtoms(totalSize)`. -/
def calcCapacityFromAtoms (frame : DataFrame) (totalSize : UInt32) : UInt32 :=
  let totals := frame.atoms.foldl addAtomSize (0, 0)
  if totals.2 ≠ 0 then (totalSize - totals.1) / totals.2 else 0

/-- The sizes of the scalar atoms, or those of the array atoms, added up without a bound. -/
def sizeOf (isScalar : Bool) : List (Option AbstractDataAtom) → Nat
  | [] => 0
  | none :: atoms => sizeOf isScalar atoms
  | some atom :: atoms =>
    (if atom.definition.isScalar = isScalar then atom.size else 0) + sizeOf isScalar atoms

/-- Both kinds of atoms together are all atoms. -/
theorem sizeOf_add_sizeOf (atoms : List (Option AbstractDataAtom)) :
    sizeOf true atoms + sizeOf false atoms = atomsSize atoms := by
  induction atoms with
  | nil => rfl
  | cons atom atoms ih =>
    cases atom with
    | none => exact ih
    | some atom =>
      -- An atom is of one of the two kinds.
      simp only [sizeOf, atomsSize]
      cases atom.definition.isScalar with
      | true =>
        simp only [if_true, Bool.true_eq_false, if_false]
        omega
      | false =>
        simp only [Bool.false_eq_true, if_false, if_true]
        omega

/-- The loop adds the sizes up in words of 32 bits. -/
theorem foldl_addAtomSize (atoms : List (Option AbstractDataAtom)) (totals : UInt32 × UInt32) :
    atoms.foldl addAtomSize totals =
      (totals.1 + UInt32.ofNat (sizeOf true atoms), totals.2 + UInt32.ofNat (sizeOf false atoms)) := by
  -- Both totals are kept general, and each atom adds to one of them.
  induction atoms generalizing totals with
  | nil => simp [sizeOf]
  | cons atom atoms ih =>
    rw [List.foldl_cons, ih]
    cases atom with
    | none => rfl
    | some atom =>
      simp only [addAtomSize, sizeOf]
      cases atom.definition.isScalar with
      | true => simp [UInt32.ofNat_add, UInt32.add_assoc]
      | false => simp [UInt32.ofNat_add, UInt32.add_assoc]

/-- The result as a number: a difference and a quotient of remainders. -/
theorem toNat_calcCapacityFromAtoms (frame : DataFrame) (totalSize : UInt32) :
    (frame.calcCapacityFromAtoms totalSize).toNat =
      (4294967296 + totalSize.toNat - sizeOf true frame.atoms % 4294967296) % 4294967296 /
        (sizeOf false frame.atoms % 4294967296) := by
  unfold calcCapacityFromAtoms
  rw [foldl_addAtomSize]
  simp only [UInt32.zero_add]
  -- Without array atoms nothing is divided, which is division by zero for numbers.
  split
  · rw [UInt32.toNat_div, UInt32.toNat_sub, UInt32.toNat_ofNat', UInt32.toNat_ofNat']
    have bound := Nat.mod_lt (sizeOf true frame.atoms) (show 0 < 4294967296 by omega)
    congr 2
    omega
  · rename_i zero
    have zero : UInt32.ofNat (sizeOf false frame.atoms) = 0 := Classical.not_not.mp zero
    have value := congrArg UInt32.toNat zero
    rw [UInt32.toNat_ofNat', UInt32.toNat_zero] at value
    rw [value, Nat.div_zero]
    rfl

omit [QtText] in
/-- A frame of capacity one, with atoms of fixed size and some array atom. -/
structure OneRow (frame : DataFrame) : Prop where
  single : ∀ atom, some atom ∈ frame.atoms → atom.base.valuesVector.length = 1
  fixed : ∀ atom, some atom ∈ frame.atoms → atom.type.FixedSize
  array : ∃ atom, some atom ∈ frame.atoms ∧ atom.definition.isScalar = false

/-- A frame as it is built has one value in each atom. -/
theorem oneRow_buildFrame {factory : DataFramesFactory} {definition : DataFrameDefinition}
    (fixed : ∀ atom ∈ definition.atoms, ∀ type ∈ factory.registry.lookup atom.atomType, type.FixedSize)
    (array : ∃ atom ∈ definition.atoms, ∃ type ∈ factory.registry.lookup atom.atomType,
      atom.isScalar = false) : (factory.buildFrame definition).OneRow := by
  -- Each atom is a fresh one of the type that its definition names.
  have fresh {atom : AbstractDataAtom} (member : some atom ∈ (factory.buildFrame definition).atoms) :
      ∃ described ∈ definition.atoms, ∃ type ∈ factory.registry.lookup described.atomType,
        atom = .clone type described := by
    obtain ⟨described, inside, made⟩ := List.mem_map.mp member
    obtain ⟨type, found, rfl⟩ := Option.map_eq_some_iff.mp made
    exact ⟨described, inside, type, found, rfl⟩
  refine ⟨?_, ?_, ?_⟩
  · intro atom member
    obtain ⟨described, _, type, _, rfl⟩ := fresh member
    rfl
  · intro atom member
    obtain ⟨described, inside, type, found, rfl⟩ := fresh member
    exact fixed described inside type found
  · obtain ⟨described, inside, type, found, kind⟩ := array
    refine ⟨.clone type described, List.mem_map.mpr ⟨described, inside, ?_⟩, kind⟩
    exact Option.map_eq_some_iff.mpr ⟨type, found, rfl⟩

/-- Each atom of a kind counts for what it adds to the total of the kind. -/
theorem size_le_sizeOf {isScalar : Bool} {atoms : List (Option AbstractDataAtom)}
    {atom : AbstractDataAtom} (member : some atom ∈ atoms)
    (kind : atom.definition.isScalar = isScalar) : atom.size ≤ sizeOf isScalar atoms := by
  induction atoms with
  | nil => cases member
  | cons first atoms ih =>
    -- The atom is counted itself, or among those behind the first one.
    rcases List.mem_cons.mp member with rfl | later
    · rw [sizeOf, if_pos kind]
      exact Nat.le_add_right _ _
    · have rest := ih later
      cases first with
      | none => exact rest
      | some first =>
        rw [sizeOf]
        omega

/-- A row of array atoms is not empty. -/
theorem OneRow.sizeOf_pos {frame : DataFrame} (row : frame.OneRow) :
    0 < sizeOf false frame.atoms := by
  obtain ⟨atom, member, array⟩ := row.array
  have filled : atom.base.valuesVector ≠ [] := by
    rw [← List.length_pos_iff, row.single atom member]
    exact Nat.one_pos
  exact Nat.lt_of_lt_of_le (atom.size_pos_iff.mpr filled) (size_le_sizeOf member array)

/--
The capacity is the greatest one that the number of bytes has room for exactly in two cases.

The scalar atoms fit, and nothing wraps around.
Or the difference, as a word that wrapped around, is less than the word of a row of the array atoms.
-/
theorem calcCapacityFromAtoms_iff {frame : DataFrame} (row : frame.OneRow) (totalSize : UInt32) :
    FitsBudget (sizeOf true frame.atoms) (sizeOf false frame.atoms) totalSize.toNat
        (frame.calcCapacityFromAtoms totalSize).toNat ↔
      (sizeOf true frame.atoms ≤ totalSize.toNat ∧ sizeOf false frame.atoms < 4294967296) ∨
        sizeOf false frame.atoms % 4294967296 = 0 ∨
        (4294967296 + totalSize.toNat - sizeOf true frame.atoms % 4294967296) % 4294967296 <
          sizeOf false frame.atoms % 4294967296 := by
  rw [FitsBudget.iff_div row.sizeOf_pos, toNat_calcCapacityFromAtoms,
    FitsBudget.div_words_iff totalSize.toNat_lt]

omit [QtText] in
/-- A frame with a number in front of an array of bytes. -/
def gaugeDefinition : DataFrameDefinition :=
  ⟨.ofAscii "Samples", true, 1, false, 0, [⟨.ofAscii "Channel", .ofAscii "uint32", true⟩,
    ⟨.ofAscii "Sample", .ofAscii "uint8", false⟩]⟩

theorem gauge_oneRow : ((DataFramesFactory.init ⟨[]⟩).buildFrame gaugeDefinition).OneRow := by
  refine oneRow_buildFrame ?_ ?_
  · decide
  · exact ⟨⟨.ofAscii "Sample", .ofAscii "uint8", false⟩, by decide, .uint8, by decide, rfl⟩

omit [QtText] in
/-- Ten bytes have room for six samples behind the number of their channel. -/
theorem calcCapacityFromAtoms_ten :
    let _ : QtText := .ascii
    let frame := (DataFramesFactory.init ⟨[]⟩).buildFrame gaugeDefinition
    FitsBudget (sizeOf true frame.atoms) (sizeOf false frame.atoms) (10 : UInt32).toNat
        (frame.calcCapacityFromAtoms 10).toNat ↔
      (sizeOf true frame.atoms ≤ (10 : UInt32).toNat ∧ sizeOf false frame.atoms < 4294967296) ∨
        sizeOf false frame.atoms % 4294967296 = 0 ∨
        (4294967296 + (10 : UInt32).toNat - sizeOf true frame.atoms % 4294967296) % 4294967296 <
          sizeOf false frame.atoms % 4294967296 :=
  @calcCapacityFromAtoms_iff .ascii _ (@gauge_oneRow .ascii) 10

omit [QtText] in
/-- Three bytes have no room for the number of the channel, but the capacity is the greatest word. -/
theorem calcCapacityFromAtoms_three :
    let _ : QtText := .ascii
    let frame := (DataFramesFactory.init ⟨[]⟩).buildFrame gaugeDefinition
    frame.OneRow ∧ sizeOf true frame.atoms = 4 ∧ sizeOf false frame.atoms = 1 ∧
      frame.calcCapacityFromAtoms 3 = 0xFFFFFFFF ∧
      ¬ FitsBudget (sizeOf true frame.atoms) (sizeOf false frame.atoms) (3 : UInt32).toNat
        (frame.calcCapacityFromAtoms 3).toNat := by
  intro _ frame
  have capacity : frame.calcCapacityFromAtoms 3 = 0xFFFFFFFF := by decide
  refine ⟨@gauge_oneRow .ascii, by decide, by decide, capacity, ?_⟩
  -- Nothing fits, but the capacity is not zero.
  rintro ⟨none | fits, _⟩
  · rw [capacity] at none
    exact absurd none (by decide)
  · rw [capacity] at fits
    exact absurd fits (by decide)

/-- The atoms of a frame count for what its totals say of each capacity. -/
theorem OneRow.atomsSize_setCapacity {frame : DataFrame} (row : frame.OneRow) {capacity : UInt32}
    (positive : capacity ≠ 0) :
    atomsSize (frame.setCapacity capacity).atoms =
      sizeOf true frame.atoms + capacity.toNat * sizeOf false frame.atoms := by
  have newSize : (if capacity < 1 then 1 else capacity) = capacity := by
    refine if_neg ?_
    intro less
    have less : capacity.toNat < 1 := UInt32.lt_iff_toNat_lt.mp less
    exact positive (UInt32.toNat_inj.mp (show capacity.toNat = 0 by omega))
  obtain ⟨single, fixed, _⟩ := row
  simp only [setCapacity, newSize]
  generalize frame.atoms = atoms at single fixed
  induction atoms with
  | nil => simp [atomsSize, sizeOf]
  | cons atom atoms ih =>
    have rest := ih (fun other member => single other (List.mem_cons_of_mem _ member))
      fun other member => fixed other (List.mem_cons_of_mem _ member)
    cases atom with
    | none => exact rest
    | some atom =>
      -- A scalar atom keeps its value, and an array atom gets as many as the capacity says.
      have one := single atom List.mem_cons_self
      have own := fixed atom List.mem_cons_self
      rw [List.map_cons, Option.map_some, atomsSize, rest, sizeOf, sizeOf]
      cases kind : atom.definition.isScalar with
      | true =>
        rw [if_pos rfl, if_pos rfl, if_neg (by decide),
          AbstractDataAtom.size_setCapacity own one (by decide), show (1 : UInt32).toNat = 1 from rfl,
          Nat.zero_add]
        omega
      | false =>
        rw [if_neg (by decide), if_neg (by decide), if_pos rfl,
          AbstractDataAtom.size_setCapacity own one positive, Nat.mul_add]
        omega

/-- Atoms of fixed size with one value each count for at most sixteen bytes each. -/
theorem OneRow.atomsSize_le {frame : DataFrame} (row : frame.OneRow) :
    atomsSize frame.atoms ≤ 16 * frame.atoms.length := by
  obtain ⟨single, fixed, _⟩ := row
  generalize frame.atoms = atoms at single fixed
  induction atoms with
  | nil => exact Nat.le_refl 0
  | cons atom atoms ih =>
    have rest := ih (fun other member => single other (List.mem_cons_of_mem _ member))
      fun other member => fixed other (List.mem_cons_of_mem _ member)
    cases atom with
    | none =>
      rw [atomsSize, List.length_cons]
      omega
    | some atom =>
      -- An atom has one value, and no value of a fixed size takes more than sixteen bytes.
      obtain ⟨value, values⟩ := List.length_eq_one_iff.mp (single atom List.mem_cons_self)
      have small := ((fixed atom List.mem_cons_self).size_eq value value).2
      have own : atom.size = StreamValue.size value := by
        rw [AbstractDataAtom.size, BaseDataAtom.size, values]
        simp
      rw [atomsSize, List.length_cons, own]
      omega

/-- A frame with as many atoms as a vector of pointers can hold has no totals that wrap around. -/
theorem calcCapacityFromAtoms_iff_of_few {frame : DataFrame} (row : frame.OneRow)
    (few : frame.atoms.length < 268435456) (totalSize : UInt32) :
    FitsBudget (sizeOf true frame.atoms) (sizeOf false frame.atoms) totalSize.toNat
        (frame.calcCapacityFromAtoms totalSize).toNat ↔
      sizeOf true frame.atoms ≤ totalSize.toNat := by
  have total := sizeOf_add_sizeOf frame.atoms
  have bound := row.atomsSize_le
  have positive := row.sizeOf_pos
  have budget := totalSize.toNat_lt
  rw [FitsBudget.iff_div positive, toNat_calcCapacityFromAtoms, FitsBudget.div_words_iff budget]
  constructor
  · rintro (⟨fits, _⟩ | zero | less)
    · exact fits
    · omega
    · -- A difference below zero wraps around to more than the array atoms can count for.
      omega
  · intro fits
    exact .inl ⟨fits, by omega⟩

end DataFrame

end Threader
