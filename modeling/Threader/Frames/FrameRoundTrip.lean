import Mathlib.Data.List.Forall2
import Threader.Frames.AtomImages
import Threader.Frames.DataFramesFactory

/-! Frames as a factory builds them, the bytes they are written as, and how a factory reads them. -/

namespace Threader

namespace BaseDataAtom

variable {α : Type} [StreamValue α]

/-- A new capacity leaves the definition alone. -/
theorem setCapacity_definition (atom : BaseDataAtom α) (capacity : UInt32) :
    (atom.setCapacity capacity).definition = atom.definition := by
  -- Neither the resize nor a moved index touches the definition.
  simp only [setCapacity, setCurrentIndex, apply_ite BaseDataAtom.definition, ite_self]

/-- A nonzero capacity is the number of values afterwards. -/
theorem setCapacity_length (atom : BaseDataAtom α) {capacity : UInt32} (positive : capacity ≠ 0) :
    (atom.setCapacity capacity).valuesVector.length = capacity.toNat := by
  -- What fits is kept, and what is missing is filled up.
  have length : (atom.setCapacity capacity).valuesVector.length =
      min capacity.toNat atom.valuesVector.length + (capacity.toNat - atom.valuesVector.length) := by
    simp only [setCapacity, if_neg positive, setCurrentIndex, apply_ite BaseDataAtom.valuesVector,
      ite_self, List.length_append, List.length_take, List.length_replicate]
  omega

end BaseDataAtom

/-- An atom has the registered type of its definition, and as many values as its frame asks for. -/
structure AbstractDataAtom.BuiltFor (factory : DataFramesFactory) (capacity : UInt32)
    (definition : DataAtomDefinition) (atom : AbstractDataAtom) : Prop where
  type : factory.registry.lookup definition.atomType = some atom.type
  described : atom.definition = definition
  -- Scalars and byte arrays have one value, whatever the capacity of the frame.
  length : atom.base.valuesVector.length =
    if definition.isScalar = true ∨ atom.type = .byteArray then 1 else capacity.toNat

namespace AbstractDataAtom

section

variable [QtText]

/-- A fresh atom is built for a frame of capacity one. -/
theorem builtFor_clone {factory : DataFramesFactory} {definition : DataAtomDefinition}
    {type : AtomType} (registered : factory.registry.lookup definition.atomType = some type) :
    BuiltFor factory 1 definition (.clone type definition) where
  type := registered
  described := rfl
  length := (ite_self 1).symm

/-- Growing or shrinking the frame keeps its atoms built for it. -/
theorem BuiltFor.setCapacity {factory : DataFramesFactory} {old capacity : UInt32}
    {definition : DataAtomDefinition} {atom : AbstractDataAtom}
    (built : BuiltFor factory old definition atom) (positive : capacity ≠ 0) :
    BuiltFor factory capacity definition
      (atom.setCapacity (if atom.definition.isScalar then 1 else capacity)) := by
  rw [built.described]
  by_cases bytes : atom.type = .byteArray
  · -- A byte array ignores the new capacity.
    rw [AbstractDataAtom.setCapacity, if_pos bytes]
    exact ⟨built.type, built.described, by simpa [bytes] using built.length⟩
  · -- Any other atom ends up with one value as a scalar, and as many as the frame asks for if not.
    rw [AbstractDataAtom.setCapacity, if_neg bytes]
    refine ⟨built.type, (atom.base.setCapacity_definition _).trans built.described, ?_⟩
    by_cases scalar : definition.isScalar = true
    · rw [if_pos scalar, if_pos (.inl scalar), BaseDataAtom.setCapacity_length _ (by decide)]
      rfl
    · have wide : ¬ (definition.isScalar = true ∨ atom.type = .byteArray) := by
        simp [scalar, bytes]
      rw [if_neg scalar, if_neg wide, BaseDataAtom.setCapacity_length _ positive]

end

/-- Assigning a value keeps an atom built for its frame. -/
theorem BuiltFor.setValue {factory : DataFramesFactory} {capacity : UInt32}
    {definition : DataAtomDefinition} {type : AtomType} {base : BaseDataAtom type.Value}
    (built : BuiltFor factory capacity definition ⟨type, base⟩) (value : type.Value) :
    BuiltFor factory capacity definition ⟨type, base.setValue value⟩ where
  type := built.type
  described := built.described
  length := by simpa [BaseDataAtom.setValue] using built.length

/-- Atoms built for the same definitions and the same capacity have the same shapes. -/
theorem BuiltFor.sameShape {factory : DataFramesFactory} {capacity : UInt32}
    {definitions : List DataAtomDefinition} {left right : List AbstractDataAtom}
    (leftBuilt : List.Forall₂ (BuiltFor factory capacity) definitions left)
    (rightBuilt : List.Forall₂ (BuiltFor factory capacity) definitions right) :
    List.Forall₂ SameShape left right := by
  -- The two lists are walked through together, along the definitions they share.
  induction leftBuilt generalizing right with
  | nil =>
    cases rightBuilt
    exact .nil
  | cons first _ ih =>
    cases rightBuilt with
    | cons other others =>
      -- The registry names one type for the definition, and the type decides the length.
      have type := Option.some_inj.mp (first.type.symm.trans other.type)
      refine .cons ⟨type, first.described.trans other.described.symm, ?_⟩ (ih others)
      rw [first.length, other.length, type]

end AbstractDataAtom

variable [QtText]

namespace DataFrame

/-- A frame has its definition, and one atom built for each of the atom definitions. -/
structure BuiltFor (factory : DataFramesFactory) (definition : DataFrameDefinition)
    (atoms : List AbstractDataAtom) (frame : DataFrame) : Prop where
  described : frame.definition = some definition
  wired : frame.atoms = atoms.map some
  built : List.Forall₂ (AbstractDataAtom.BuiltFor factory frame.capacity) definition.atoms atoms
  capacity : frame.capacity ≠ 0

/-- A factory makes an atom for every definition whose type is registered. -/
theorem builtFor_atomByDefinition {factory : DataFramesFactory}
    {definitions : List DataAtomDefinition} {types : List AtomType}
    (registered : List.Forall₂ (fun atom type => factory.registry.lookup atom.atomType = some type)
      definitions types) :
    ∃ atoms, definitions.map factory.atomByDefinition = atoms.map some ∧
      List.Forall₂ (AbstractDataAtom.BuiltFor factory 1) definitions atoms := by
  -- Each definition names a registered type, of which a fresh atom is made.
  induction registered with
  | nil => exact ⟨[], rfl, .nil⟩
  | @cons atom type _ _ first _ ih =>
    obtain ⟨atoms, same, built⟩ := ih
    refine ⟨.clone type atom :: atoms, ?_, .cons (AbstractDataAtom.builtFor_clone first) built⟩
    simp [same, DataFramesFactory.atomByDefinition, first]

/-- A factory builds a frame of any definition whose atom types are all registered. -/
theorem builtFor_buildFrame {factory : DataFramesFactory} {definition : DataFrameDefinition}
    {types : List AtomType}
    (registered : List.Forall₂ (fun atom type => factory.registry.lookup atom.atomType = some type)
      definition.atoms types) :
    ∃ atoms, BuiltFor factory definition atoms (factory.buildFrame definition) := by
  -- The frame starts with capacity one, for which fresh atoms are built.
  obtain ⟨atoms, same, built⟩ := builtFor_atomByDefinition registered
  exact ⟨atoms, rfl, same, built, by simp [DataFramesFactory.buildFrame]⟩

/-- A nonzero capacity is taken over by the frame. -/
theorem setCapacity_capacity (frame : DataFrame) {capacity : UInt32} (positive : capacity ≠ 0) :
    (frame.setCapacity capacity).capacity = capacity := by
  -- Only a capacity below one is replaced.
  have least : ¬ capacity < 1 := fun small => positive (by simpa using small)
  simp only [setCapacity, if_neg least]

/-- Setting the capacity of a frame keeps it built for its definition. -/
theorem BuiltFor.setCapacity {factory : DataFramesFactory} {definition : DataFrameDefinition}
    {atoms : List AbstractDataAtom} {frame : DataFrame}
    (built : BuiltFor factory definition atoms frame) {capacity : UInt32}
    (positive : capacity ≠ 0) :
    BuiltFor factory definition
      (atoms.map fun atom => atom.setCapacity (if atom.definition.isScalar then 1 else capacity))
      (frame.setCapacity capacity) := by
  have least : ¬ capacity < 1 := fun small => positive (by simpa using small)
  -- The definition stays, and every atom is given the new capacity on its own.
  refine ⟨built.described, ?_, ?_, ?_⟩
  · simp only [DataFrame.setCapacity, if_neg least, built.wired, List.map_map]
    exact List.map_congr_left fun atom _ => rfl
  · simp only [DataFrame.setCapacity, if_neg least]
    exact List.forall₂_map_right_iff.mpr (built.built.imp fun _ _ atom => atom.setCapacity positive)
  · rwa [setCapacity_capacity frame positive]

/-- The capacity of a frame is only written for an array. -/
def capacityImage (frame : DataFrame) : List UInt8 :=
  if frame.isArray then FixedWidth.toBytes frame.capacity else []

/-- The bytes of a frame behind its size field. -/
def body (frame : DataFrame) : List UInt8 :=
  Windows1251.fromUnicode frame.name ++ [0] ++ (frame.capacityImage ++ atomsImage frame.atoms)

/-- The bytes a frame is written as. -/
def image (frame : DataFrame) : List UInt8 :=
  FixedWidth.toBytes frame.size ++ frame.body

/-- A frame without null atoms is written as its image. -/
theorem writes (frame : DataFrame) {atoms : List AbstractDataAtom}
    (wired : frame.atoms = atoms.map some) : DataStream.Writes frame.write frame.image := by
  -- The fields are written in the order in which the image lists them.
  have size : DataStream.Writes (StreamValue.write frame.size) _ := .raw _
  have named := size.andThen (DataStream.writes_string frame.name)
  have capacity : DataStream.Writes (StreamValue.write frame.capacity) _ := .raw _
  have body := writes_atoms atoms
  rw [← wired] at body
  -- Both shapes write the same fields, apart from the capacity of an array.
  cases array : frame.isArray with
  | false =>
    have all := named.andThen body
    rw [image, DataFrame.body, capacityImage, array, if_neg Bool.false_ne_true, List.nil_append,
      ← List.append_assoc]
    intro front back
    rw [write, array]
    exact all front back
  | true =>
    have all := (named.andThen capacity).andThen body
    rw [image, DataFrame.body, capacityImage, array, if_pos rfl, ← List.append_assoc,
      ← List.append_assoc]
    intro front back
    rw [write, array]
    exact all front back

/-- A frame is appended to the data at whose end it is written. -/
theorem write_image (frame : DataFrame) {atoms : List AbstractDataAtom}
    (wired : frame.atoms = atoms.map some) (data : List UInt8) :
    frame.write (.atEnd data) = (true, .atEnd (data ++ frame.image)) :=
  (frame.writes wired).atEnd data

/--
A frame that a factory restores from its bytes, with the factory as a parameter.

The factory knows its definition, and every value it carries has a stream image.
-/
structure RestorableAs (factory : DataFramesFactory) (definition : DataFrameDefinition)
    (atoms : List AbstractDataAtom) (frame : DataFrame) : Prop where
  built : frame.BuiltFor factory definition atoms
  known : factory.buildFrameByKey definition.name = some (factory.buildFrame definition)
  nameNulFree : (0 : UInt16) ∉ definition.name
  nameEncodable : Windows1251.Encodable definition.name
  portable : ∀ atom ∈ atoms, atom.Portable
  single : definition.isArray = false → frame.capacity = 1
  -- An array needs an atom whose values grow with it, or its capacity is refused by the reader.
  carried : definition.isArray = true →
    ∃ atom ∈ atoms, atom.definition.isScalar = false ∧ atom.type ≠ .byteArray

/-- A frame that a factory restores from its bytes. -/
def Restorable (factory : DataFramesFactory) (frame : DataFrame) : Prop :=
  ∃ definition atoms, frame.RestorableAs factory definition atoms

/--
A frame that reaches a peer unchanged, with the peer's factory as a parameter.

The peer restores it, and the packet that carries it is not too long.
-/
structure TransferableAs (factory : DataFramesFactory) (definition : DataFrameDefinition)
    (atoms : List AbstractDataAtom) (frame : DataFrame) : Prop where
  built : frame.BuiltFor factory definition atoms
  known : factory.buildFrameByKey definition.name = some (factory.buildFrame definition)
  nameNulFree : (0 : UInt16) ∉ definition.name
  nameEncodable : Windows1251.Encodable definition.name
  portable : ∀ atom ∈ atoms, atom.Portable
  single : definition.isArray = false → frame.capacity = 1
  -- An array needs an atom whose values grow with it, or its capacity is refused by the reader.
  carried : definition.isArray = true →
    ∃ atom ∈ atoms, atom.definition.isScalar = false ∧ atom.type ≠ .byteArray
  -- The packet that carries the frame adds a header of thirteen bytes.
  fits : frame.image.length + 13 < 2147483648

/-- A frame that reaches a peer unchanged. -/
def Transferable (factory : DataFramesFactory) (frame : DataFrame) : Prop :=
  ∃ definition atoms, frame.TransferableAs factory definition atoms

/-- What reaches a peer unchanged is restored there. -/
theorem TransferableAs.restorableAs {factory : DataFramesFactory}
    {definition : DataFrameDefinition} {atoms : List AbstractDataAtom} {frame : DataFrame}
    (transferable : frame.TransferableAs factory definition atoms) :
    frame.RestorableAs factory definition atoms :=
  ⟨transferable.built, transferable.known, transferable.nameNulFree, transferable.nameEncodable,
    transferable.portable, transferable.single, transferable.carried⟩

/-- What reaches a peer unchanged is restored there by some definition. -/
theorem Transferable.restorable {factory : DataFramesFactory} {frame : DataFrame}
    (transferable : frame.Transferable factory) : frame.Restorable factory := by
  obtain ⟨definition, atoms, transferable⟩ := transferable
  exact ⟨definition, atoms, transferable.restorableAs⟩

namespace RestorableAs

variable {factory : DataFramesFactory} {definition : DataFrameDefinition}
  {atoms : List AbstractDataAtom} {frame : DataFrame}

theorem name_eq (restorable : frame.RestorableAs factory definition atoms) :
    frame.name = definition.name := by
  -- A frame takes its name from its definition.
  simp only [name, restorable.built.described]

theorem isArray_eq (restorable : frame.RestorableAs factory definition atoms) :
    frame.isArray = definition.isArray := by
  -- A frame is an array if its definition says so.
  simp only [isArray, restorable.built.described]

/-- The size field of a frame counts the bytes behind it. -/
theorem size_toNat (restorable : frame.RestorableAs factory definition atoms)
    (fits : frame.body.length < 4294967296) : frame.size.toNat = frame.body.length := by
  have atomsLength := atomsImage_length restorable.portable
  -- The sum of the parts is the width of the body, which is far from wrapping around.
  have width : frame.body.length =
      frame.name.length + 1 + (if frame.isArray then 4 else 0) + atomsSize frame.atoms := by
    have capacity : (FixedWidth.toBytes frame.capacity).length = 4 := FixedWidth.toBytes_length _
    rw [← restorable.built.wired] at atomsLength
    simp only [body, capacityImage, List.length_append, Windows1251.fromUnicode_length,
      List.length_singleton, atomsLength, apply_ite List.length, capacity, List.length_nil]
    omega
  rw [size, ← width, UInt32.toNat_ofNat']
  exact Nat.mod_eq_of_lt fits

/-- A frame that can be restored is written as its image. -/
theorem write (restorable : frame.RestorableAs factory definition atoms) (data : List UInt8) :
    frame.write (.atEnd data) = (true, .atEnd (data ++ frame.image)) :=
  -- None of its atoms is null.
  frame.write_image restorable.built.wired data

/-- A capacity is never larger than the atoms it stands in front of. -/
theorem capacity_le (restorable : frame.RestorableAs factory definition atoms)
    (array : definition.isArray = true) :
    frame.capacity.toNat ≤ (atomsImage (atoms.map some)).length := by
  -- One atom has as many values as the capacity says, and each takes at least one byte.
  obtain ⟨atom, member, vector, notBytes⟩ := restorable.carried array
  have length : atom.base.valuesVector.length = frame.capacity.toNat := by
    obtain ⟨index, inside, rfl⟩ := List.getElem_of_mem member
    have built := restorable.built.built
    have shape := built.get (built.length_eq ▸ inside) inside
    simp only [List.get_eq_getElem] at shape
    rw [shape.length, ← shape.described, if_neg (by simp [vector, notBytes])]
  have own := atom.valuesVector_length_le
  -- The image of one atom is part of the image of all of them.
  have part : atom.image.length ≤ (atomsImage (atoms.map some)).length := by
    clear length own restorable
    induction atoms with
    | nil => simp at member
    | cons first others ih =>
      rcases List.mem_cons.mp member with rfl | later
      · simp [atomsImage]
      · have inner := ih later
        simp only [List.map_cons, atomsImage, List.length_append]
        omega
  omega

end RestorableAs

omit [QtText] in
/-- An array reads its capacity, and compares it with the number of bytes behind it. -/
theorem readCapacity_between {old : DataFrame} (array : old.isArray = true) {capacity : UInt32}
    {front back : List UInt8}
    (fits : (front ++ (FixedWidth.toBytes capacity ++ back)).length < 2147483648) :
    old.readCapacity (.between front (FixedWidth.toBytes capacity ++ back)) =
      (decide (capacity.toNat ≤ back.length), capacity,
        .between (front ++ FixedWidth.toBytes capacity) back) := by
  -- The capacity is read first, and then compared with the bytes behind it.
  have read := DataStream.readFixed_between capacity (1 : UInt32) fits
  simp only [List.length_append] at fits
  -- What is left of the stream is what stands behind the capacity.
  have left : (UInt32.ofInt ((DataStream.between (front ++ FixedWidth.toBytes capacity) back).size -
      (DataStream.between (front ++ FixedWidth.toBytes capacity) back).position)).toNat =
      back.length := by
    have behind (read ahead : Nat) : (read + ahead : Int) - read = ahead := by omega
    rw [DataStream.between_size, DataStream.between_position, behind, UInt32.ofInt,
      UInt32.toNat_ofNat']
    omega
  have allowed : (!decide (capacity > UInt32.ofInt
      ((DataStream.between (front ++ FixedWidth.toBytes capacity) back).size -
        (DataStream.between (front ++ FixedWidth.toBytes capacity) back).position))) =
      decide (capacity.toNat ≤ back.length) := by
    rw [← decide_not, decide_eq_decide, GT.gt, UInt32.lt_iff_toNat_lt, left, Nat.not_lt]
  simp only [readCapacity, array, if_true, read, Bool.true_and, allowed]

omit [QtText] in
/-- An array takes over a capacity that the bytes behind it are enough for. -/
theorem readCapacity_array {old : DataFrame} (array : old.isArray = true) {capacity : UInt32}
    {front back : List UInt8} (enough : capacity.toNat ≤ back.length)
    (fits : (front ++ (FixedWidth.toBytes capacity ++ back)).length < 2147483648) :
    old.readCapacity (.between front (FixedWidth.toBytes capacity ++ back)) =
      (true, capacity, .between (front ++ FixedWidth.toBytes capacity) back) := by
  rw [readCapacity_between array fits, decide_eq_true enough]

namespace RestorableAs

variable {factory : DataFramesFactory} {definition : DataFrameDefinition}
  {atoms : List AbstractDataAtom} {frame : DataFrame}

/-- A fresh frame of the same definition takes over the capacity. -/
theorem readCapacity (restorable : frame.RestorableAs factory definition atoms)
    (front rest : List UInt8)
    (fits : (front ++ (frame.capacityImage ++ (atomsImage frame.atoms ++ rest))).length <
      2147483648) :
    (factory.buildFrame definition).readCapacity
        (.between front (frame.capacityImage ++ (atomsImage frame.atoms ++ rest))) =
      (true, frame.capacity,
        .between (front ++ frame.capacityImage) (atomsImage frame.atoms ++ rest)) := by
  have fresh : (factory.buildFrame definition).isArray = definition.isArray := rfl
  simp only [capacityImage, restorable.isArray_eq] at fits ⊢
  -- Only the frames of an array have a capacity field.
  cases array : definition.isArray with
  | false =>
    -- Without a capacity field the frame has capacity one on both sides.
    simp [DataFrame.readCapacity, fresh, array, restorable.single array]
  | true =>
    simp only [array, if_true] at fits ⊢
    refine readCapacity_array (fresh.trans array) ?_ fits
    have enough := restorable.capacity_le array
    simp only [restorable.built.wired, List.length_append]
    omega

/-- A fresh frame of the same definition takes over what a frame that can be restored carries. -/
theorem read (restorable : frame.RestorableAs factory definition atoms)
    (front rest : List UInt8)
    (fits : (front ++ (frame.capacityImage ++ (atomsImage frame.atoms ++ rest))).length <
      2147483648) :
    ∃ new : DataFrame,
      (factory.buildFrame definition).read
          (.between front (frame.capacityImage ++ (atomsImage frame.atoms ++ rest))) =
        (true, new, .between (front ++ (frame.capacityImage ++ atomsImage frame.atoms)) rest) ∧
      new.content = frame.content := by
  have header := restorable.readCapacity front rest fits
  have built := restorable.built
  -- The reader builds atoms of the registered types, which are the types the frame has.
  have registered : List.Forall₂
      (fun atom type => factory.registry.lookup atom.atomType = some type)
      definition.atoms (atoms.map AbstractDataAtom.type) :=
    List.forall₂_map_right_iff.mpr (built.built.imp fun _ _ atom => atom.type)
  obtain ⟨fresh, sized⟩ : ∃ fresh, BuiltFor factory definition fresh
      ((factory.buildFrame definition).setCapacity frame.capacity) := by
    obtain ⟨fresh, freshBuilt⟩ := builtFor_buildFrame registered
    exact ⟨_, freshBuilt.setCapacity built.capacity⟩
  have capacity := setCapacity_capacity (factory.buildFrame definition) built.capacity
  -- Once it has the capacity of the sender, its atoms have the shapes of the sent ones.
  have shapes := AbstractDataAtom.BuiltFor.sameShape (capacity ▸ sized.built) built.built
  obtain ⟨new, read, content⟩ := readAtoms_image restorable.portable shapes
    (front ++ frame.capacityImage) rest (by simpa [← built.wired] using fits)
  rw [← built.wired, ← sized.wired] at read
  refine ⟨{ (factory.buildFrame definition).setCapacity frame.capacity with
    atoms := new.map some }, ?_, ?_⟩
  · simp only [DataFrame.read, header, if_true, read]
    rw [List.append_assoc]
  · simp only [DataFrame.content, sized.described, capacity, built.described, built.wired,
      List.map_map]
    have same := congrArg (List.map some) content
    simpa [Function.comp_def] using same

end RestorableAs

/-- A frame is never written as an empty run of bytes. -/
theorem image_ne_nil (frame : DataFrame) : frame.image ≠ [] :=
  -- The size field alone takes four bytes.
  List.append_ne_nil_of_left_ne_nil (FixedWidth.toBytes_ne_nil _) _

/-- No frame is longer than all frames together. -/
theorem image_length_le {frame : DataFrame} {frames : List DataFrame} (member : frame ∈ frames) :
    frame.image.length ≤ (frames.flatMap image).length := by
  rw [List.flatMap_def]
  exact (List.sublist_flatten_of_mem (List.mem_map_of_mem member)).length_le

/-- Every frame takes at least one byte. -/
theorem length_le_images (frames : List DataFrame) :
    frames.length ≤ (frames.flatMap image).length := by
  induction frames with
  | nil => exact Nat.le_refl 0
  | cons frame frames ih =>
    have nonempty := List.length_pos_iff.mpr frame.image_ne_nil
    simp only [List.flatMap_cons, List.length_append, List.length_cons]
    omega

end DataFrame

namespace DataFramesFactory

variable {factory : DataFramesFactory} {frame : DataFrame}

/-- Behind the size field, a factory finds the name of a frame it can build and read. -/
theorem readNamedFrame_body (restorable : frame.Restorable factory) (front rest : List UInt8)
    (fits : (front ++ (frame.body ++ rest)).length < 2147483648) :
    ∃ new : DataFrame, factory.readNamedFrame (.between front (frame.body ++ rest)) =
        (some new, .between (front ++ frame.body) rest) ∧ new.content = frame.content := by
  -- The name is the key under which the definition is found.
  obtain ⟨definition, atoms, restorable⟩ := restorable
  have known : factory.buildFrameByKey frame.name = some (factory.buildFrame definition) :=
    restorable.name_eq ▸ restorable.known
  simp only [DataFrame.body, List.append_assoc] at fits
  have named := (StreamImage.string (restorable.name_eq ▸ restorable.nameNulFree)
    (restorable.name_eq ▸ restorable.nameEncodable)).read [] front
      (frame.capacityImage ++ (DataFrame.atomsImage frame.atoms ++ rest)) (by simpa using fits)
  obtain ⟨new, read, content⟩ := restorable.read
    (front ++ (Windows1251.fromUnicode frame.name ++ [0])) rest (by simpa using fits)
  refine ⟨new, ?_, content⟩
  simp only [DataFrame.body, List.append_assoc] at named read ⊢
  simp only [readNamedFrame, named, if_true, known, read]

/-- A factory reads back a frame that it can restore, and moves on to what follows it. -/
theorem readFrame_image (restorable : frame.Restorable factory) (front rest : List UInt8)
    (fits : (front ++ (frame.image ++ rest)).length < 2147483648) :
    ∃ new : DataFrame, factory.readFrame (.between front (frame.image ++ rest)) =
        (some new, .between (front ++ frame.image) rest) ∧ new.content = frame.content := by
  have size : frame.size.toNat = frame.body.length := by
    obtain ⟨definition, atoms, restorable⟩ := restorable
    refine restorable.size_toNat ?_
    simp only [DataFrame.image, List.length_append] at fits
    omega
  have width : (FixedWidth.toBytes frame.size).length = 4 := FixedWidth.toBytes_length _
  simp only [DataFrame.image, List.append_assoc] at fits ⊢
  obtain ⟨new, named, content⟩ := readNamedFrame_body restorable
    (front ++ FixedWidth.toBytes frame.size) rest (by simpa using fits)
  refine ⟨new, ?_, content⟩
  have sized := DataStream.readFixed_between frame.size (0 : UInt32) fits
  simp only [List.length_append, width] at fits
  -- The declared size leads to the place the reads have already arrived at.
  have finish : MachineInt.toInt32 (front.length + MachineInt.toInt32 (frame.body.length + 4)) =
      (front ++ (FixedWidth.toBytes frame.size ++ frame.body)).length := by
    have inner : MachineInt.toInt32 (frame.body.length + 4) = frame.body.length + 4 :=
      MachineInt.toInt32_of_fits (by omega) (by omega)
    rw [inner, MachineInt.toInt32_of_fits (by omega) (by omega)]
    simp only [List.length_append, width]
    omega
  simp only [readFrame, sized, if_true, named, size, DataStream.between_position, finish,
    List.append_assoc]
  rw [DataStream.between_setPosition_self]

/-- The loop reads back a stream of frames that can be restored, and ends behind the last one. -/
theorem ends_images {frames : List DataFrame}
    (restorable : ∀ frame ∈ frames, frame.Restorable factory) (front : List UInt8)
    (fits : (front ++ frames.flatMap DataFrame.image).length < 2147483648) :
    ∃ news : List DataFrame,
      Loop.Ends factory.turn (.between front (frames.flatMap DataFrame.image)) news
        (.between (front ++ frames.flatMap DataFrame.image) []) ∧
      news.map DataFrame.content = frames.map DataFrame.content := by
  -- Induction on the frames: each turn reads one of them.
  induction frames generalizing front with
  | nil =>
    -- No frame is left, and the cursor stands at the end of the data.
    have stops : factory.turn (.between front []) = none := by simp [turn]
    exact ⟨[], by simpa using Loop.Ends.stop stops, rfl⟩
  | cons frame frames ih =>
    simp only [List.flatMap_cons] at fits ⊢
    -- One turn reads the first frame, and the cursor then stands before the others.
    have ahead : (DataStream.between front
        (frame.image ++ frames.flatMap DataFrame.image)).endOfData = false := by
      simp [frame.image_ne_nil]
    obtain ⟨first, others⟩ := List.forall_mem_cons.mp restorable
    obtain ⟨new, read, content⟩ := readFrame_image first _ _ fits
    obtain ⟨news, later, contents⟩ := ih others (front ++ frame.image) (by simpa using fits)
    refine ⟨new :: news, .turn (turn_eq_some_iff.mpr ⟨ahead, read⟩) ?_, by simp [content, contents]⟩
    simpa using later

/-- A factory reads back exactly the frames a byte array was written from. -/
theorem readFrames_images {frames : List DataFrame}
    (restorable : ∀ frame ∈ frames, frame.Restorable factory)
    (fits : (frames.flatMap DataFrame.image).length < 2147483648) :
    ∃ news : List DataFrame, factory.readFrames (frames.flatMap DataFrame.image) = some news ∧
      Loop.Ends factory.turn (.ofData (frames.flatMap DataFrame.image)) news
        (.atEnd (frames.flatMap DataFrame.image)) ∧
      news.map DataFrame.content = frames.map DataFrame.content := by
  -- There are turns enough for all frames.
  have enough := DataFrame.length_le_images frames
  obtain ⟨news, ends, contents⟩ := ends_images restorable [] fits
  have count : news.length = frames.length := by simpa using congrArg List.length contents
  have finish : DataStream.between (frames.flatMap DataFrame.image) [] =
      .atEnd (frames.flatMap DataFrame.image) := by simp [DataStream.between, DataStream.atEnd]
  rw [List.nil_append, finish] at ends
  exact ⟨news, readFrames_of_ends ends (count ▸ enough), ends, contents⟩

end DataFramesFactory

end Threader
