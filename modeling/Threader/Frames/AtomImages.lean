import Threader.Frames.DataFrames

/-! The stream images of values and atoms, which writing produces and reading undoes. -/

namespace Threader

namespace AtomType

/-- The bytes a value of a type is written as. -/
def image [QtText] : (type : AtomType) → type.Value → List UInt8
  | .boolean, value => FixedWidth.toBytes (α := Bool) value
  | .uint8, value => FixedWidth.toBytes (α := UInt8) value
  | .int8, value => FixedWidth.toBytes (α := Int8) value
  | .uint16, value => FixedWidth.toBytes (α := UInt16) value
  | .int16, value => FixedWidth.toBytes (α := Int16) value
  | .uint32, value => FixedWidth.toBytes (α := UInt32) value
  | .int32, value => FixedWidth.toBytes (α := Int32) value
  | .uint64, value => FixedWidth.toBytes (α := UInt64) value
  | .int64, value => FixedWidth.toBytes (α := Int64) value
  | .single, value => FixedWidth.toBytes (α := UInt32) value
  | .double, value => FixedWidth.toBytes (α := UInt64) value
  | .string, (value : QString) => Windows1251.fromUnicode value ++ [0]
  | .dateTime, value => FixedWidth.toBytes (QtText.dateTimeToDouble value)
  | .guid, (value : QUuid) => FixedWidth.toBytes (16 : UInt32) ++ value.toList
  | .byteArray, (value : QByteArray) => FixedWidth.toBytes (UInt32.ofNat value.length) ++ value

/-- Every value is written as its image. -/
theorem writes [QtText] {type : AtomType} (value : type.Value) :
    DataStream.Writes (StreamValue.write value) (type.image value) := by
  -- All types but three are written as bytes of a fixed number.
  cases type with
  | boolean => exact .raw _
  | uint8 => exact .raw _
  | int8 => exact .raw _
  | uint16 => exact .raw _
  | int16 => exact .raw _
  | uint32 => exact .raw _
  | int32 => exact .raw _
  | uint64 => exact .raw _
  | int64 => exact .raw _
  | single => exact .raw _
  | double => exact .raw _
  | dateTime => exact .raw _
  | string => exact DataStream.writes_string value
  | guid => exact QUuid.writes value
  | byteArray => exact DataStream.writes_byteArray value

/-- A value counts for the bytes it is written as, unless it is an identifier. -/
theorem size_eq_image [QtText] {type : AtomType} (other : type ≠ .guid) (value : type.Value) :
    StreamValue.size value = (type.image value).length := by
  -- The size of each type is the width of its image, but for identifiers.
  cases type with
  | boolean => exact (FixedWidth.toBytes_length (α := Bool) value).symm
  | uint8 => exact (FixedWidth.toBytes_length (α := UInt8) value).symm
  | int8 => exact (FixedWidth.toBytes_length (α := Int8) value).symm
  | uint16 => exact (FixedWidth.toBytes_length (α := UInt16) value).symm
  | int16 => exact (FixedWidth.toBytes_length (α := Int16) value).symm
  | uint32 => exact (FixedWidth.toBytes_length (α := UInt32) value).symm
  | int32 => exact (FixedWidth.toBytes_length (α := Int32) value).symm
  | uint64 => exact (FixedWidth.toBytes_length (α := UInt64) value).symm
  | int64 => exact (FixedWidth.toBytes_length (α := Int64) value).symm
  | single => exact (FixedWidth.toBytes_length (α := UInt32) value).symm
  | double => exact (FixedWidth.toBytes_length (α := UInt64) value).symm
  | dateTime => exact (FixedWidth.toBytes_length (QtText.dateTimeToDouble value)).symm
  | string => exact (Windows1251.terminated_length value).symm
  | guid => exact absurd rfl other
  | byteArray => exact (StreamImage.byteArray value).width.symm

/-- A value counts for no more bytes than it is written as. -/
theorem size_le_image [QtText] {type : AtomType} (value : type.Value) :
    StreamValue.size value ≤ (type.image value).length := by
  by_cases identifier : type = .guid
  · -- The length of an identifier is written in front of it, and is not counted.
    subst identifier
    exact Nat.le_trans (Nat.le_add_right 16 4) (Nat.le_of_eq (QUuid.image_length value).symm)
  · exact Nat.le_of_eq (size_eq_image identifier value)

/-- Every value counts for some bytes. -/
theorem size_pos [QtText] {type : AtomType} (value : type.Value) : 0 < StreamValue.size value := by
  -- Even an empty text has a terminator, and an empty array its length.
  cases type with
  | boolean => exact FixedWidth.width_pos (α := Bool)
  | uint8 => exact FixedWidth.width_pos (α := UInt8)
  | int8 => exact FixedWidth.width_pos (α := Int8)
  | uint16 => exact FixedWidth.width_pos (α := UInt16)
  | int16 => exact FixedWidth.width_pos (α := Int16)
  | uint32 => exact FixedWidth.width_pos (α := UInt32)
  | int32 => exact FixedWidth.width_pos (α := Int32)
  | uint64 => exact FixedWidth.width_pos (α := UInt64)
  | int64 => exact FixedWidth.width_pos (α := Int64)
  | single => exact FixedWidth.width_pos (α := UInt32)
  | double => exact FixedWidth.width_pos (α := UInt64)
  | dateTime => exact Nat.succ_pos 7
  | string => exact Nat.succ_pos _
  | guid => exact Nat.succ_pos 15
  | byteArray => exact Nat.succ_pos _

/--
The values that a frame carries from one peer to the other unchanged.

These are the truth values, the integers, the byte arrays, and the texts the code page can express.
-/
def Portable : (type : AtomType) → type.Value → Prop
  | .string, (value : QString) => (0 : UInt16) ∉ value ∧ Windows1251.Encodable value
  | .single, _ | .double, _ | .dateTime, _ | .guid, _ => False
  | _, _ => True

/-- The image of a portable value is what its stream operations write and read. -/
theorem streamImage [QtText] {type : AtomType} {value : type.Value}
    (portable : type.Portable value) : StreamImage value (type.image value) := by
  -- Floating-point numbers, points in time and identifiers are not portable.
  cases type with
  | boolean => exact StreamImage.fixedWidth (α := Bool) value
  | uint8 => exact StreamImage.fixedWidth (α := UInt8) value
  | int8 => exact StreamImage.fixedWidth (α := Int8) value
  | uint16 => exact StreamImage.fixedWidth (α := UInt16) value
  | int16 => exact StreamImage.fixedWidth (α := Int16) value
  | uint32 => exact StreamImage.fixedWidth (α := UInt32) value
  | int32 => exact StreamImage.fixedWidth (α := Int32) value
  | uint64 => exact StreamImage.fixedWidth (α := UInt64) value
  | int64 => exact StreamImage.fixedWidth (α := Int64) value
  | string => exact StreamImage.string portable.1 portable.2
  | byteArray => exact StreamImage.byteArray value
  | single | double | dateTime | guid => exact portable.elim

/-- No value is written as an empty run of bytes. -/
theorem image_ne_nil [QtText] (type : AtomType) (value : type.Value) : type.image value ≠ [] := by
  -- A text ends with its NUL, a byte array begins with its length, and the rest have a width.
  cases type with
  | string => exact List.append_ne_nil_of_right_ne_nil _ (by simp)
  | guid | byteArray => exact List.append_ne_nil_of_left_ne_nil (FixedWidth.toBytes_ne_nil _) _
  | _ => exact FixedWidth.toBytes_ne_nil _

end AtomType

namespace BaseDataAtom

variable {α : Type} [StreamValue α] {image : α → List UInt8}

/-- Values are written as their images one after another. -/
theorem writes_values (write : ∀ value : α, DataStream.Writes (StreamValue.write value) (image value))
    (values : List α) : DataStream.Writes (writeValues values) (values.flatMap image) := by
  induction values with
  | nil => exact .nothing
  | cons value values ih => exact (write value).andThen ih

/-- Images one after another are read as the values, whatever the vector held before. -/
theorem readValues_image {values old : List α}
    (images : ∀ value ∈ values, StreamImage value (image value))
    (sameLength : old.length = values.length) (front rest : List UInt8)
    (fits : (front ++ (values.flatMap image ++ rest)).length < 2147483648) :
    readValues old (.between front (values.flatMap image ++ rest)) =
      (true, values, .between (front ++ values.flatMap image) rest) := by
  -- Induction on the values, with the bytes already read left free to grow.
  induction values generalizing old front with
  | nil =>
    have empty : old = [] := List.length_eq_zero_iff.mp sameLength
    simp [empty, readValues]
  | cons value values ih =>
    obtain ⟨oldValue, old, rfl⟩ := List.exists_cons_of_length_eq_add_one sameLength
    obtain ⟨first, others⟩ := List.forall_mem_cons.mp images
    -- The rest of the vector is read from behind the first image.
    have behind : (front ++ (image value ++ (values.flatMap image ++ rest))).length < 2147483648 := by
      simpa [List.append_assoc] using fits
    have later := ih others (by simpa using sameLength) (front ++ image value)
      (by simpa [List.append_assoc] using fits)
    simp only [List.flatMap_cons, List.append_assoc, readValues, first.read _ _ _ behind, later,
      if_true]

/-- The images are together as wide as the sizes say. -/
theorem flatMap_image_length {values : List α}
    (images : ∀ value ∈ values, StreamImage value (image value)) :
    (values.flatMap image).length = (values.map StreamValue.size).sum := by
  -- Both sides are sums over the values, and agree term by term.
  rw [List.length_flatMap]
  exact congrArg List.sum (List.map_congr_left fun value member => (images value member).width)

end BaseDataAtom

namespace AbstractDataAtom

variable [QtText]

/-- The bytes an atom is written as. -/
def image (atom : AbstractDataAtom) : List UInt8 :=
  atom.base.valuesVector.flatMap atom.type.image

/-- All values of an atom travel unchanged. -/
def Portable (atom : AbstractDataAtom) : Prop :=
  ∀ value ∈ atom.base.valuesVector, atom.type.Portable value

/-- Two atoms agree in everything but their values and their current index. -/
structure SameShape (left right : AbstractDataAtom) : Prop where
  type : left.type = right.type
  definition : left.definition = right.definition
  length : left.base.valuesVector.length = right.base.valuesVector.length

/-- Every value of an atom takes at least one byte of its image. -/
theorem valuesVector_length_le (atom : AbstractDataAtom) :
    atom.base.valuesVector.length ≤ atom.image.length := by
  -- Induction on the values, none of which has an empty image.
  unfold image
  induction atom.base.valuesVector with
  | nil => simp
  | cons value values ih =>
    have nonempty := List.length_pos_iff.mpr (atom.type.image_ne_nil value)
    simp only [List.flatMap_cons, List.length_append, List.length_cons]
    omega

/-- The values of a portable atom have stream images. -/
theorem Portable.streamImages {atom : AbstractDataAtom} (portable : atom.Portable) :
    ∀ value ∈ atom.base.valuesVector, StreamImage value (atom.type.image value) :=
  fun value member => AtomType.streamImage (portable value member)

/-- An atom is written as its image. -/
theorem writes (atom : AbstractDataAtom) : DataStream.Writes atom.write atom.image :=
  -- The values of the atom are written one after another.
  BaseDataAtom.writes_values AtomType.writes atom.base.valuesVector

/-- An atom counts for no more bytes than it is written as. -/
theorem size_le_image (atom : AbstractDataAtom) : atom.size ≤ atom.image.length := by
  -- The values are compared one by one.
  simp only [size, BaseDataAtom.size, image]
  induction atom.base.valuesVector with
  | nil => exact Nat.le_refl 0
  | cons value values ih =>
    have first := AtomType.size_le_image value
    simp only [List.map_cons, List.sum_cons, List.flatMap_cons, List.length_append]
    omega

/-- An atom counts for the bytes it is written as, unless it holds identifiers. -/
theorem size_eq_image {atom : AbstractDataAtom} (other : atom.type ≠ .guid) :
    atom.size = atom.image.length := by
  simp only [size, BaseDataAtom.size, image, List.length_flatMap]
  exact congrArg List.sum (List.map_congr_left fun value _ => AtomType.size_eq_image other value)

/-- An atom counts for some bytes exactly if it has a value. -/
theorem size_pos_iff (atom : AbstractDataAtom) : 0 < atom.size ↔ atom.base.valuesVector ≠ [] := by
  -- The first value counts for some bytes already.
  simp only [size, BaseDataAtom.size]
  cases atom.base.valuesVector with
  | nil => simp
  | cons value values =>
    have first := AtomType.size_pos value
    simp only [List.map_cons, List.sum_cons]
    exact ⟨fun _ => List.cons_ne_nil value values, fun _ => by omega⟩

/-- A portable atom is as wide as its size says. -/
theorem Portable.image_length {atom : AbstractDataAtom} (portable : atom.Portable) :
    atom.image.length = atom.size :=
  -- The size of the atom is the sum of the sizes of its values.
  BaseDataAtom.flatMap_image_length portable.streamImages

/-- An atom of the same shape takes over the values whose image it reads. -/
theorem Portable.read {atom old : AbstractDataAtom} (portable : atom.Portable)
    (same : SameShape old atom) (front rest : List UInt8)
    (fits : (front ++ (atom.image ++ rest)).length < 2147483648) :
    ∃ new : AbstractDataAtom, old.read (.between front (atom.image ++ rest)) =
        (true, new, .between (front ++ atom.image) rest) ∧ new.content = atom.content := by
  have images := portable.streamImages
  obtain ⟨type, base⟩ := atom
  obtain ⟨oldType, oldBase⟩ := old
  obtain ⟨sameType, sameDefinition, sameLength⟩ := same
  dsimp only at sameType
  subst sameType
  -- Clearing keeps the number of values, so the loop reads exactly the written ones.
  have cleared : oldBase.clear.valuesVector.length = base.valuesVector.length := by
    simpa [BaseDataAtom.clear] using sameLength
  have read := BaseDataAtom.readValues_image images cleared front rest fits
  refine ⟨⟨oldType, { oldBase with valuesVector := base.valuesVector }⟩, ?_, ?_⟩
  · simp only [AbstractDataAtom.read, BaseDataAtom.read, image, read]
  · -- The definition is the old one, which is the same by assumption.
    simp only [content]
    rw [show oldBase.definition = base.definition from sameDefinition]

end AbstractDataAtom

namespace DataFrame

variable [QtText]

/-- The bytes a list of atoms is written as. -/
def atomsImage : List (Option AbstractDataAtom) → List UInt8
  | [] => []
  | none :: atoms => atomsImage atoms
  | some atom :: atoms => atom.image ++ atomsImage atoms

/-- A list of atoms is written as their images one after another. -/
theorem writes_atoms (atoms : List AbstractDataAtom) :
    DataStream.Writes (writeAtoms (atoms.map some)) (atomsImage (atoms.map some)) := by
  -- Each atom is written behind the images of the earlier ones.
  induction atoms with
  | nil => exact .nothing
  | cons atom atoms ih => exact atom.writes.andThen ih

/-- Atoms count for no more bytes than they are written as. -/
theorem atomsSize_le_image (atoms : List (Option AbstractDataAtom)) :
    atomsSize atoms ≤ (atomsImage atoms).length := by
  -- A missing atom counts for nothing, and nothing is written behind it.
  induction atoms with
  | nil => exact Nat.le_refl 0
  | cons atom atoms ih =>
    cases atom with
    | none => exact ih
    | some atom =>
      have first := atom.size_le_image
      simp only [atomsSize, atomsImage, List.length_append]
      omega

/-- Atoms count for the bytes they are written as, unless they hold identifiers. -/
theorem atomsSize_eq_image {atoms : List (Option AbstractDataAtom)}
    (others : ∀ atom, some atom ∈ atoms → atom.type ≠ .guid) :
    atomsSize atoms = (atomsImage atoms).length := by
  -- A missing atom counts for nothing on both sides.
  induction atoms with
  | nil => rfl
  | cons atom atoms ih =>
    have later := ih fun other member => others other (List.mem_cons_of_mem _ member)
    cases atom with
    | none => exact later
    | some atom =>
      have first := AbstractDataAtom.size_eq_image (others atom List.mem_cons_self)
      simp only [atomsSize, atomsImage, List.length_append, first, later]

/-- The images of a list of atoms are together as wide as the sizes say. -/
theorem atomsImage_length {atoms : List AbstractDataAtom}
    (portable : ∀ atom ∈ atoms, atom.Portable) :
    (atomsImage (atoms.map some)).length = atomsSize (atoms.map some) := by
  -- Every atom contributes its size.
  induction atoms with
  | nil => rfl
  | cons atom atoms ih =>
    obtain ⟨first, others⟩ := List.forall_mem_cons.mp portable
    simp only [List.map_cons, atomsImage, List.length_append, first.image_length, ih others,
      atomsSize]

/-- Atoms of the same shapes take over the values whose images they read. -/
theorem readAtoms_image {atoms old : List AbstractDataAtom}
    (portable : ∀ atom ∈ atoms, atom.Portable)
    (same : List.Forall₂ AbstractDataAtom.SameShape old atoms) (front rest : List UInt8)
    (fits : (front ++ (atomsImage (atoms.map some) ++ rest)).length < 2147483648) :
    ∃ new : List AbstractDataAtom,
      readAtoms (old.map some) (.between front (atomsImage (atoms.map some) ++ rest)) =
        (true, new.map some, .between (front ++ atomsImage (atoms.map some)) rest) ∧
      new.map AbstractDataAtom.content = atoms.map AbstractDataAtom.content := by
  induction same generalizing front with
  | nil => exact ⟨[], by simp [readAtoms, atomsImage], rfl⟩
  | @cons old atom olds atoms shape shapes ih =>
    simp only [List.map_cons, atomsImage, List.append_assoc] at fits ⊢
    -- The first atom is read, and the others are read from behind its image.
    obtain ⟨own, others⟩ := List.forall_mem_cons.mp portable
    obtain ⟨first, firstRead, firstContent⟩ := own.read shape _ _ fits
    obtain ⟨later, laterRead, laterContent⟩ := ih others (front ++ atom.image)
      (by simpa [List.append_assoc] using fits)
    refine ⟨first :: later, ?_, by simp [firstContent, laterContent]⟩
    simp only [readAtoms, firstRead, laterRead, if_true, List.map_cons, List.append_assoc]

end DataFrame

end Threader
