import Threader.Base.ItemByItem
import Threader.Frames.FrameListRoundTrip

/-! When the size that a frame declares is the number of bytes it is written as. -/

namespace Threader

namespace AbstractDataAtom

variable [QtText]

/-- The length in front of an identifier is not counted. -/
theorem size_lt_image {atom : AbstractDataAtom} (identifier : atom.type = .guid)
    (filled : atom.base.valuesVector ≠ []) : atom.size < atom.image.length := by
  obtain ⟨type, definition, values, index⟩ := atom
  obtain rfl : type = .guid := identifier
  cases values with
  | nil => exact absurd rfl filled
  | cons value values =>
    -- The first identifier falls short by four bytes, and the others do not make up for it.
    have first : (AtomType.guid.image value).length = 20 := QUuid.image_length value
    have others := size_le_image ⟨.guid, definition, values, index⟩
    have count : StreamValue.size value = 16 := rfl
    simp only [size, BaseDataAtom.size, image, List.map_cons, List.sum_cons, List.flatMap_cons,
      List.length_append] at others ⊢
    omega

/-- An atom with values counts for its bytes exactly if they are no identifiers. -/
theorem size_eq_image_iff {atom : AbstractDataAtom} (filled : atom.base.valuesVector ≠ []) :
    atom.size = atom.image.length ↔ atom.type ≠ .guid :=
  ⟨fun exactly identifier => Nat.ne_of_lt (size_lt_image identifier filled) exactly,
    fun other => size_eq_image other⟩

omit [QtText] in
/-- An atom that is built for a frame has values. -/
theorem BuiltFor.filled {factory : DataFramesFactory} {capacity : UInt32}
    {definition : DataAtomDefinition} {atom : AbstractDataAtom}
    (built : BuiltFor factory capacity definition atom) (positive : capacity ≠ 0) :
    atom.base.valuesVector ≠ [] := by
  have some : capacity.toNat ≠ 0 := fun zero => positive (UInt32.toNat_inj.mp zero)
  rw [← List.length_pos_iff, built.length]
  split
  · exact Nat.one_pos
  · omega

end AbstractDataAtom

namespace DataFrame

variable [QtText]

/-- Atoms with values count for their bytes exactly if none of them holds identifiers. -/
theorem atomsSize_eq_image_iff {atoms : List AbstractDataAtom}
    (filled : ∀ atom ∈ atoms, atom.base.valuesVector ≠ []) :
    atomsSize (atoms.map some) = (atomsImage (atoms.map some)).length ↔
      ∀ atom ∈ atoms, atom.type ≠ .guid := by
  induction atoms with
  | nil => exact iff_of_true rfl fun _ => nofun
  | cons atom atoms ih =>
    obtain ⟨first, others⟩ := List.forall_mem_cons.mp filled
    -- No atom makes up for what another one falls short of.
    have least := atom.size_le_image
    have rest := atomsSize_le_image (atoms.map some)
    rw [List.forall_mem_cons, ← AbstractDataAtom.size_eq_image_iff first, ← ih others]
    simp only [List.map_cons, atomsSize, atomsImage, List.length_append]
    omega

/-- The number of bytes that `size()` counts, before it is cut off to 32 bits. -/
def declaredSize (frame : DataFrame) : Nat :=
  frame.name.length + 1 + (if frame.isArray then 4 else 0) + atomsSize frame.atoms

theorem size_eq (frame : DataFrame) : frame.size = UInt32.ofNat frame.declaredSize := rfl

/-- The bytes behind the size field of a frame, counted field by field. -/
theorem body_length (frame : DataFrame) :
    frame.body.length = frame.name.length + 1 + (if frame.isArray then 4 else 0) +
      (atomsImage frame.atoms).length := by
  have capacity : (FixedWidth.toBytes frame.capacity).length = 4 := FixedWidth.toBytes_length _
  simp only [body, capacityImage, List.length_append, Windows1251.fromUnicode_length,
    List.length_singleton, apply_ite List.length, capacity, List.length_nil]
  omega

/-- A frame counts for no more bytes than it is written as. -/
theorem declaredSize_le_body (frame : DataFrame) : frame.declaredSize ≤ frame.body.length := by
  have atoms := atomsSize_le_image frame.atoms
  rw [body_length, declaredSize]
  omega

/-- Without identifiers, the size of a frame counts all bytes behind it. -/
theorem declaredSize_eq_body {frame : DataFrame}
    (others : ∀ atom, some atom ∈ frame.atoms → atom.type ≠ .guid) :
    frame.declaredSize = frame.body.length := by
  rw [body_length, declaredSize, atomsSize_eq_image others]

/-- The size field counts the bytes behind it exactly if all of them are counted and fit into it. -/
theorem BuiltFor.body_length_eq_iff {factory : DataFramesFactory} {definition : DataFrameDefinition}
    {atoms : List AbstractDataAtom} {frame : DataFrame}
    (built : frame.BuiltFor factory definition atoms) :
    frame.body.length = frame.size.toNat ↔
      (∀ atom ∈ atoms, atom.type ≠ .guid) ∧ frame.declaredSize < 4294967296 := by
  have filled : ∀ atom ∈ atoms, atom.base.valuesVector ≠ [] := by
    intro atom member
    obtain ⟨_, _, first⟩ := ItemByItem.exists_of_mem_right built.built member
    exact first.filled built.capacity
  have counted := atomsSize_eq_image_iff filled
  have least := atomsSize_le_image frame.atoms
  have size : frame.size.toNat = frame.declaredSize % 4294967296 := UInt32.toNat_ofNat'
  rw [← built.wired] at counted
  rw [← counted, frame.body_length, size, declaredSize]
  -- The remainder is at most the sum, which is at most the number of bytes.
  omega

omit [QtText] in
/-- No atom holds identifiers exactly if no definition of an atom names their type. -/
theorem BuiltFor.identifiers_iff {factory : DataFramesFactory} {definition : DataFrameDefinition}
    {atoms : List AbstractDataAtom} {frame : DataFrame}
    (built : frame.BuiltFor factory definition atoms) :
    (∀ atom ∈ atoms, atom.type ≠ .guid) ↔
      ∀ atom ∈ definition.atoms, factory.registry.lookup atom.atomType ≠ some .guid := by
  -- Atoms and their definitions are paired, and agree on the type.
  constructor
  · intro others described member identifier
    obtain ⟨atom, inside, first⟩ := ItemByItem.exists_of_mem_left built.built member
    exact others atom inside (Option.some.inj (first.type.symm.trans identifier))
  · intro others atom member identifier
    obtain ⟨described, inside, first⟩ := ItemByItem.exists_of_mem_right built.built member
    exact others described inside (identifier ▸ first.type)

/--
A frame, however it is filled in, is written as a size field and the bytes that it counts, wherever
it is written, exactly if no atom holds identifiers and the size fits into its field.
-/
theorem write_counts_iff {factory : DataFramesFactory} {definition : DataFrameDefinition}
    {frame : DataFrame} (assembled : frame.Assembled factory definition)
    (registered :
      ∀ atom ∈ definition.atoms, ∃ type, factory.registry.lookup atom.atomType = some type)
    (front back : List UInt8) :
    (∃ written : List UInt8, written.length = 4 + frame.size.toNat ∧
      frame.write (.between front back) =
        (true, .between (front ++ written) (back.drop written.length))) ↔
      (∀ atom ∈ definition.atoms, factory.registry.lookup atom.atomType ≠ some .guid) ∧
        frame.declaredSize < 4294967296 := by
  obtain ⟨atoms, built⟩ := assembled.builtFor registered
  have writes := frame.writes built.wired front back
  have width : frame.image.length = 4 + frame.body.length := by
    have field : (FixedWidth.toBytes frame.size).length = 4 := FixedWidth.toBytes_length _
    rw [image, List.length_append, field]
  rw [← built.identifiers_iff, ← built.body_length_eq_iff]
  constructor
  · rintro ⟨written, counted, other⟩
    -- The cursor stands behind what was written, in both accounts of it.
    have place := congrArg (fun result => result.2.position) (writes.symm.trans other)
    simp only [DataStream.between_position, List.length_append] at place
    omega
  · intro counted
    exact ⟨frame.image, width.trans (congrArg (4 + ·) counted), writes⟩

omit [QtText]

/-- An array of texts with a number in front of them has the size that it declares. -/
theorem write_counts_iff_notes :
    let _ : QtText := .ascii
    let factory := DataFramesFactory.init DataFramesFactory.notesDefinitions
    let frame := (factory.buildFrame DataFramesFactory.notesDefinition).setCapacity 2
    ∃ written : List UInt8, written.length = 4 + frame.size.toNat ∧
      frame.write (.between [7] []) = (true, .between ([7] ++ written) []) := by
  let _ : QtText := .ascii
  obtain ⟨written, counted, writes⟩ := (@write_counts_iff .ascii
    (.init DataFramesFactory.notesDefinitions) DataFramesFactory.notesDefinition _
    (.setCapacity 2 .buildFrame) (by
      simp only [DataFramesFactory.notesDefinition, List.forall_mem_cons]
      exact ⟨⟨.int32, by decide⟩, ⟨.string, by decide⟩, by simp⟩) [7] []).mpr
    ⟨by decide, by decide⟩
  rw [List.drop_nil] at writes
  exact ⟨written, counted, writes⟩

/-- A frame that holds an identifier. -/
def identifierDefinition : DataFrameDefinition :=
  ⟨.ofAscii "Key", false, 1, false, 0, [⟨.ofAscii "Id", .ofAscii "guid", true⟩]⟩

/-- A frame with an identifier is written as four bytes more than it declares. -/
theorem write_identifier :
    let _ : QtText := .ascii
    let frame := (DataFramesFactory.init ⟨[]⟩).buildFrame identifierDefinition
    4 + frame.size.toNat = 24 ∧ (frame.write (.atEnd [])).1 = true ∧
      (frame.write (.atEnd [])).2.size = 28 := by
  decide

end DataFrame

end Threader
