import Threader.Base.ItemByItem
import Threader.Frames.FrameListRoundTrip
import Threader.Utils.DataStreamCuts

/-! Which frames are read from data that end too early. -/

namespace Threader

open ValueLayout (after afterAll Passes)

/-- How the values of a type lie in a stream. -/
def AtomType.layout : AtomType → ValueLayout
  | .boolean | .uint8 | .int8 => .fixed 1
  | .uint16 | .int16 => .fixed 2
  | .uint32 | .int32 | .single => .fixed 4
  | .uint64 | .int64 | .double | .dateTime => .fixed 8
  | .string => .text
  | .guid | .byteArray => .counted

variable [QtText]

namespace AtomType

/-- Every type is read as its values lie in a stream. -/
theorem reads {type : AtomType} (old : type.Value) :
    DataStream.Reads type.layout.after (StreamValue.read old) := by
  -- All but texts and counted values are numbers of some width.
  cases type with
  | boolean => exact DataStream.reads_fixed (α := Bool) (by decide) old
  | uint8 => exact DataStream.reads_fixed (α := UInt8) (by decide) old
  | int8 => exact DataStream.reads_fixed (α := Int8) (by decide) old
  | uint16 => exact DataStream.reads_fixed (α := UInt16) (by decide) old
  | int16 => exact DataStream.reads_fixed (α := Int16) (by decide) old
  | uint32 => exact DataStream.reads_fixed (α := UInt32) (by decide) old
  | int32 => exact DataStream.reads_fixed (α := Int32) (by decide) old
  | uint64 => exact DataStream.reads_fixed (α := UInt64) (by decide) old
  | int64 => exact DataStream.reads_fixed (α := Int64) (by decide) old
  | single => exact DataStream.reads_fixed (α := UInt32) (by decide) old
  | double => exact DataStream.reads_fixed (α := UInt64) (by decide) old
  | string => exact DataStream.reads_text
  | dateTime => exact DataStream.reads_fixed (α := UInt64) (by decide) 0
  | guid => exact DataStream.reads_counted (List.replicate 16 0)
  | byteArray => exact DataStream.reads_counted old

omit [QtText] in
/-- No type has values without bytes. -/
theorem layout_width_pos {type : AtomType} {width : Nat} (fixed : type.layout = .fixed width) :
    0 < width := by
  cases type <;> cases fixed <;> decide

omit [QtText] in
/-- A length in front of as many bytes announces them. -/
theorem whole_counted (content : List UInt8) (fits : content.length < 4294967296) :
    ValueLayout.Whole .counted (FixedWidth.toBytes (UInt32.ofNat content.length) ++ content) := by
  have four : (FixedWidth.toBytes (UInt32.ofNat content.length)).length = 4 :=
    FixedWidth.toBytes_length _
  -- The four bytes in front are the length again, which they have room for.
  have count : ValueLayout.announced (FixedWidth.toBytes (UInt32.ofNat content.length) ++ content) =
      content.length := by
    rw [ValueLayout.announced, ← four, List.take_left]
    have number : ByteWords.decode (ByteWords.encode 4 (UInt32.ofNat content.length).toNat) = _ :=
      ByteWords.decode_encode_of_lt (UInt32.ofNat content.length).toNat_lt
    exact number.trans (UInt32.toNat_ofNat_of_lt' fits)
  show (_ ++ content).length = 4 + _
  rw [count, List.length_append, four]

/-- A value lies in a stream as its type says, unless it is a text with a NUL. -/
theorem whole_image {type : AtomType} (value : type.Value)
    (clean : type.layout = .text → (0 : UInt8) ∉ (type.image value).dropLast)
    (fits : (type.image value).length < 4294967296) : type.layout.Whole (type.image value) := by
  cases type with
  | boolean => exact FixedWidth.toBytes_length (α := Bool) value
  | uint8 => exact FixedWidth.toBytes_length (α := UInt8) value
  | int8 => exact FixedWidth.toBytes_length (α := Int8) value
  | uint16 => exact FixedWidth.toBytes_length (α := UInt16) value
  | int16 => exact FixedWidth.toBytes_length (α := Int16) value
  | uint32 => exact FixedWidth.toBytes_length (α := UInt32) value
  | int32 => exact FixedWidth.toBytes_length (α := Int32) value
  | uint64 => exact FixedWidth.toBytes_length (α := UInt64) value
  | int64 => exact FixedWidth.toBytes_length (α := Int64) value
  | single => exact FixedWidth.toBytes_length (α := UInt32) value
  | double => exact FixedWidth.toBytes_length (α := UInt64) value
  | dateTime => exact FixedWidth.toBytes_length (QtText.dateTimeToDouble value)
  | string =>
    -- The only NUL is the one behind the text.
    have clean : (0 : UInt8) ∉ (Windows1251.fromUnicode value ++ [0]).dropLast := clean rfl
    rw [List.dropLast_concat] at clean
    exact ⟨Windows1251.fromUnicode value, rfl, clean⟩
  | guid =>
    -- An identifier is written as a byte array of its 16 bytes.
    have sixteen : (Vector.toList value).length = 16 := Vector.length_toList
    have whole := whole_counted (Vector.toList value) (by omega)
    rw [sixteen] at whole
    exact whole
  | byteArray =>
    have shorter (content : QByteArray) : content.length ≤
        (FixedWidth.toBytes (UInt32.ofNat content.length) ++ content).length := by
      rw [List.length_append]
      exact Nat.le_add_left ..
    exact whole_counted value (Nat.lt_of_le_of_lt (shorter value) fits)

end AtomType

omit [QtText] in
/-- Values of one type are read one after another. -/
theorem BaseDataAtom.reads_values {α : Type} [StreamValue α] {layout : ValueLayout}
    (reads : ∀ old : α, DataStream.Reads layout.after (StreamValue.read old)) (values : List α) :
    DataStream.Reads (afterAll (List.replicate values.length layout)) (readValues values) := by
  -- Each value is read from what the ones in front of it have left.
  induction values with
  | nil => exact fun _ _ ahead => ⟨rfl, ahead⟩
  | cons value values ih =>
    intro bytes stream ahead
    rw [List.length_cons, List.replicate_succ, ValueLayout.afterAll_cons, readValues]
    obtain ⟨refused, failed⟩ | ⟨rest, taken, done, behind⟩ := (reads value).cases ahead
    · -- The first value that cannot be read ends the loop.
      rw [refused, Option.bind_none]
      simp only [failed, Bool.false_eq_true, if_false]
    · rw [taken, Option.bind_some]
      simp only [done, if_true]
      exact ih behind

namespace AbstractDataAtom

/-- How the values of an atom lie in a stream. -/
def layouts (atom : AbstractDataAtom) : List ValueLayout :=
  List.replicate atom.base.valuesVector.length atom.type.layout

/-- An atom reads as many values as it has. -/
theorem reads (atom : AbstractDataAtom) : DataStream.Reads (afterAll atom.layouts) atom.read := by
  intro bytes stream ahead
  -- Clearing an atom leaves it as many places as it has.
  have cleared : atom.base.clear.valuesVector.length = atom.base.valuesVector.length := by
    rw [BaseDataAtom.clear, List.length_replicate]
  have values := BaseDataAtom.reads_values AtomType.reads atom.base.clear.valuesVector ahead
  rw [cleared] at values
  exact values

/-- The values of an atom as they lie in a stream, and their bytes. -/
def items (atom : AbstractDataAtom) : List ValueLayout.Item :=
  atom.base.valuesVector.map fun value => (atom.type.layout, atom.type.image value)

/-- An atom has the values that its layouts say. -/
theorem map_items (atom : AbstractDataAtom) : atom.items.map Prod.fst = atom.layouts := by
  rw [items, List.map_map, layouts]
  exact List.map_const' ..

/-- An atom is written as the bytes of its values. -/
theorem flatMap_items (atom : AbstractDataAtom) : atom.items.flatMap Prod.snd = atom.image := by
  rw [items, List.flatMap_map, image]

end AbstractDataAtom

namespace DataFrame

/-- Atoms are read one after another. -/
theorem reads_atoms (atoms : List AbstractDataAtom) :
    DataStream.Reads (afterAll (atoms.flatMap AbstractDataAtom.layouts))
      (readAtoms (atoms.map some)) := by
  -- Each atom is read from what the ones in front of it have left.
  induction atoms with
  | nil => exact fun _ _ ahead => ⟨rfl, ahead⟩
  | cons atom atoms ih =>
    intro bytes stream ahead
    rw [List.flatMap_cons, ValueLayout.afterAll_append, List.map_cons, readAtoms]
    obtain ⟨refused, failed⟩ | ⟨rest, taken, done, behind⟩ := atom.reads.cases ahead
    · -- The first atom that cannot be read ends the loop.
      rw [refused, Option.bind_none]
      simp only [failed, Bool.false_eq_true, if_false]
    · rw [taken, Option.bind_some]
      simp only [done, if_true]
      exact ih behind

/-- The values of a frame as they lie in a stream, and their bytes. -/
def items (frame : DataFrame) : List ValueLayout.Item :=
  frame.atoms.flatMap fun atom => atom.elim [] AbstractDataAtom.items

/-- The atoms of a frame are written as the bytes of its values. -/
theorem flatMap_items (frame : DataFrame) :
    frame.items.flatMap Prod.snd = atomsImage frame.atoms := by
  -- An atom that is missing has no values and no bytes.
  rw [items]
  induction frame.atoms with
  | nil => rfl
  | cons atom atoms ih =>
    cases atom with
    | none => exact ih
    | some atom =>
      rw [List.flatMap_cons, List.flatMap_append, ih]
      exact congrArg (· ++ atomsImage atoms) atom.flatMap_items

/-- The values of a frame are laid out as its atoms say. -/
theorem map_items {frame : DataFrame} {atoms : List AbstractDataAtom}
    (wired : frame.atoms = atoms.map some) :
    frame.items.map Prod.fst = atoms.flatMap AbstractDataAtom.layouts := by
  rw [items, wired, List.flatMap_map, List.map_flatMap]
  exact List.flatMap_congr fun atom _ => atom.map_items

/-- Every value of a frame lies in a stream as its type says, unless it is a text with a NUL. -/
theorem whole_of_mem_items {frame : DataFrame} {item : ValueLayout.Item}
    (member : item ∈ frame.items) (clean : item.1 = .text → (0 : UInt8) ∉ item.2.dropLast)
    (fits : (atomsImage frame.atoms).length < 4294967296) : item.1.Whole item.2 := by
  -- The bytes of the value are among those of all values.
  have shorter : item.2.length ≤ (frame.items.flatMap Prod.snd).length := by
    obtain ⟨before, behind, split⟩ := List.append_of_mem member
    rw [split, List.flatMap_append, List.flatMap_cons, List.length_append, List.length_append]
    omega
  rw [frame.flatMap_items] at shorter
  obtain ⟨atom, _, inside⟩ := List.mem_flatMap.mp member
  cases atom with
  | none => cases inside
  | some atom =>
    obtain ⟨value, _, rfl⟩ := List.mem_map.mp inside
    exact AtomType.whole_image value clean (Nat.lt_of_le_of_lt shorter fits)

end DataFrame

namespace DataFramesFactory

/-- How the values that a factory reads for a definition lie in a stream. -/
def layouts (factory : DataFramesFactory) (definition : DataFrameDefinition) (capacity : Nat) :
    List ValueLayout :=
  definition.atoms.flatMap fun atom =>
    match factory.registry.lookup atom.atomType with
    | none => []
    | some type =>
      List.replicate (if atom.isScalar = true ∨ type = .byteArray then 1 else capacity) type.layout

omit [QtText] in
/-- Atoms that are built for a definition have values as it says. -/
theorem layouts_eq {factory : DataFramesFactory} {capacity : UInt32}
    {definition : DataFrameDefinition} {atoms : List AbstractDataAtom}
    (built : List.Forall₂ (AbstractDataAtom.BuiltFor factory capacity) definition.atoms atoms) :
    atoms.flatMap AbstractDataAtom.layouts = factory.layouts definition capacity.toNat := by
  rw [layouts]
  -- Each atom has the type and the number of values that its own definition asks for.
  generalize definition.atoms = definitions at built
  induction built with
  | nil => rfl
  | cons first _ ih =>
    rw [List.flatMap_cons, List.flatMap_cons, ih, first.type, AbstractDataAtom.layouts,
      first.length]

omit [QtText] in
/-- No value takes up no bytes. -/
theorem layouts_positive {factory : DataFramesFactory} {definition : DataFrameDefinition}
    {capacity width : Nat} (member : .fixed width ∈ factory.layouts definition capacity) :
    0 < width := by
  obtain ⟨atom, _, inside⟩ := List.mem_flatMap.mp member
  split at inside
  · cases inside
  · exact AtomType.layout_width_pos (List.eq_of_mem_replicate inside).symm

/-- A frame reads its atoms exactly if the bytes ahead pass for as many values as it has. -/
theorem readAtoms_setCapacity {factory : DataFramesFactory} {definition : DataFrameDefinition}
    {atoms : List AbstractDataAtom} {frame : DataFrame}
    (built : frame.BuiltFor factory definition atoms) {capacity : UInt32}
    (positive : capacity ≠ 0) {bytes : List UInt8} {stream : DataStream}
    (ahead : DataStream.Ahead bytes stream) :
    (DataFrame.readAtoms (frame.setCapacity capacity).atoms stream).1 = true ↔
      Passes (factory.layouts definition capacity.toNat) bytes := by
  -- The capacity of the frame is set before its atoms are read.
  have sized := built.setCapacity positive
  have atoms' := layouts_eq sized.built
  rw [frame.setCapacity_capacity positive] at atoms'
  rw [ValueLayout.passes_iff fun width => layouts_positive, ← atoms', sized.wired,
    (DataFrame.reads_atoms _).fst_eq ahead]

/-- What is left of the values of a frame passes for them if the cut value is lenient. -/
theorem passes_cut_iff {factory : DataFramesFactory} {definition : DataFrameDefinition}
    {atoms : List AbstractDataAtom} {frame : DataFrame}
    (built : frame.BuiltFor factory definition atoms) {done later : List ValueLayout.Item}
    {item : ValueLayout.Item} {kept : Nat} (values : frame.items = done ++ item :: later)
    (cut : kept < item.2.length)
    (clean : ∀ other ∈ done ++ [item], other.1 = .text → (0 : UInt8) ∉ other.2.dropLast)
    (fits : (DataFrame.atomsImage frame.atoms).length < 4294967296) :
    Passes (factory.layouts definition frame.capacity.toNat)
        (done.flatMap Prod.snd ++ item.2.take kept) ↔
      (item.1 = .text ∨ (item.1 = .counted ∧ 4 < kept)) ∧ ∀ other ∈ later, other.1 = .text := by
  -- The values of the frame are laid out as they are read.
  have laid : (done ++ item :: later).map Prod.fst =
      factory.layouts definition frame.capacity.toNat := by
    rw [← values, DataFrame.map_items built.wired, layouts_eq built.built]
  -- Up to the cut one, each of them can be told from the bytes behind it.
  have whole : ∀ other ∈ done ++ [item], other.1.Whole other.2 := by
    intro other member
    refine DataFrame.whole_of_mem_items ?_ (clean other member) fits
    rw [values, List.append_cons]
    exact List.mem_append_left later member
  rw [ValueLayout.passes_iff fun width => layouts_positive, ← laid]
  refine ValueLayout.afterAll_cut_iff whole (fun width member => ?_) cut
  refine @layouts_positive factory definition frame.capacity.toNat width ?_
  rw [← laid, List.map_append, List.map_cons]
  exact List.mem_append_right _ (.tail _ member)

/-- What is read behind the name of a frame whose bytes do not pass for its values. -/
def Refused (factory : DataFramesFactory) (definition : DataFrameDefinition) (capacity : UInt32)
    (bytes : List UInt8) : Prop :=
  if definition.isArray then
    -- The capacity itself may be missing, or more values than there are bytes left.
    bytes.length < 4 + capacity.toNat ∨
      ¬ Passes (factory.layouts definition capacity.toNat) (bytes.drop 4)
  else ¬ Passes (factory.layouts definition 1) bytes

/-- A frame that is no array is read with one value for each atom. -/
theorem read_scalar {factory : DataFramesFactory} {definition : DataFrameDefinition}
    {atoms : List AbstractDataAtom} {frame : DataFrame}
    (built : frame.BuiltFor factory definition atoms) (single : definition.isArray = false)
    (capacity : UInt32) {bytes : List UInt8} {stream : DataStream}
    (ahead : DataStream.Ahead bytes stream) :
    (frame.read stream).1 = false ↔ factory.Refused definition capacity bytes := by
  have isArray : frame.isArray = false := by
    rw [DataFrame.isArray, built.described]
    exact single
  -- No capacity is read, and one is taken for it.
  have atoms := @readAtoms_setCapacity _ _ _ _ _ built 1 (by decide) _ _ ahead
  rw [Refused, single, if_neg Bool.false_ne_true, ← Bool.not_eq_true]
  refine not_congr (Iff.trans ?_ atoms)
  simp only [DataFrame.read, DataFrame.readCapacity, isArray, Bool.false_eq_true, if_false, if_true]

/-- An array is read with the capacity in front of its values. -/
theorem read_array {factory : DataFramesFactory} {definition : DataFrameDefinition}
    {atoms : List AbstractDataAtom} {frame : DataFrame}
    (built : frame.BuiltFor factory definition atoms) (array : definition.isArray = true)
    {capacity : UInt32} (positive : capacity ≠ 0) {image bytes front : List UInt8}
    (beginning : bytes <+: FixedWidth.toBytes capacity ++ image)
    (fits : (front ++ bytes).length < 2147483640) :
    (frame.read (.between front bytes)).1 = false ↔ factory.Refused definition capacity bytes := by
  have isArray : frame.isArray = true := by
    rw [DataFrame.isArray, built.described]
    exact array
  have four : (FixedWidth.toBytes capacity).length = 4 := FixedWidth.toBytes_length capacity
  rw [Refused, array, if_pos rfl]
  by_cases short : bytes.length < 4
  · -- Without its capacity, the frame is refused.
    refine iff_of_true ?_ (.inl (by omega))
    have failed : (DataStream.readFixed (1 : UInt32) (.between front bytes)).1 = false :=
      DataStream.readFixed_of_lt (by decide) short fits 1
    have header : (frame.readCapacity (.between front bytes)).1 = false := by
      rw [DataFrame.readCapacity, if_pos isArray]
      generalize DataStream.readFixed (1 : UInt32) (.between front bytes) = read at failed
      simp only [failed, Bool.false_and]
    rw [DataFrame.read]
    simp only [header, Bool.false_eq_true, if_false]
  · -- The capacity is there as it was written.
    obtain ⟨rest, rfl⟩ : FixedWidth.toBytes capacity <+: bytes :=
      List.prefix_of_prefix_length_le (List.prefix_append _ image) beginning (by omega)
    have split : (front ++ (FixedWidth.toBytes capacity ++ rest)).length < 2147483648 := by omega
    have header := DataFrame.readCapacity_between isArray split
    rw [List.length_append, four, ← four, List.drop_left, four]
    -- A capacity that exceeds the number of bytes behind it is refused at once.
    by_cases enough : capacity.toNat ≤ rest.length
    · rw [decide_eq_true enough] at header
      have ahead : DataStream.Ahead rest (.between (front ++ FixedWidth.toBytes capacity) rest) :=
        ⟨_, rfl, by rwa [List.append_assoc]⟩
      have atoms := readAtoms_setCapacity built positive ahead
      rw [or_iff_right (by omega), ← Bool.not_eq_true]
      refine not_congr (Iff.trans ?_ atoms)
      simp only [DataFrame.read, header, if_true]
    · rw [decide_eq_false enough] at header
      refine iff_of_true ?_ (.inl (by omega))
      simp only [DataFrame.read, header, Bool.false_eq_true, if_false]

/-- The bytes of a frame in front of its capacity and its values. -/
def header (frame : DataFrame) : List UInt8 :=
  FixedWidth.toBytes frame.size ++ (Windows1251.fromUnicode frame.name ++ [0])

/-- Behind the header of a frame are its capacity and its values. -/
theorem image_eq_header_append (frame : DataFrame) :
    frame.image = header frame ++ (frame.capacityImage ++ DataFrame.atomsImage frame.atoms) := by
  rw [DataFrame.image, DataFrame.body, header, List.append_assoc (FixedWidth.toBytes _)]

/-- A frame is read behind its header, as far as the name in it is known. -/
theorem readFrame_header {factory : DataFramesFactory} {frame fresh : DataFrame}
    (nulFree : (0 : UInt16) ∉ frame.name) (encodable : Windows1251.Encodable frame.name)
    (known : factory.buildFrameByKey frame.name = some fresh) {rest : List UInt8}
    (fits : (header frame ++ rest).length < 2147483640) :
    (factory.readFrame (.ofData (header frame ++ rest))).1 = none ↔
      (fresh.read (.between (header frame) rest)).1 = false := by
  have narrow : (header frame ++ rest).length < 2147483648 := by omega
  -- The name ends at its own NUL, so it is read as it was written.
  have named := (StreamImage.string nulFree encodable).read [] (FixedWidth.toBytes frame.size) rest
  rw [header] at narrow ⊢
  generalize Windows1251.fromUnicode frame.name ++ [0] = name at narrow named ⊢
  rw [List.append_assoc] at narrow ⊢
  -- The size is read in front of it, and plays no part in what follows.
  have sized := @DataStream.readFixed_between _ _ frame.size (0 : UInt32) [] _ narrow
  rw [List.nil_append] at sized
  have start : DataStream.ofData (FixedWidth.toBytes frame.size ++ (name ++ rest)) =
    .between [] (FixedWidth.toBytes frame.size ++ (name ++ rest)) := rfl
  rw [start, readFrame]
  simp only [sized, if_true, readNamedFrame, named narrow, known]
  -- The result is null exactly if the frame cannot be read.
  cases (fresh.read (.between (FixedWidth.toBytes frame.size ++ name) rest)).1 <;> simp

variable {definitions : DataFramesDefinitions} {definition : DataFrameDefinition}
  {frame : DataFrame}

/-- The beginning of a frame behind its header is refused as its bytes say. -/
theorem readFrame_beginning
    (defined : definitions.definitionByKey definition.name = some definition)
    (registered : ∀ atom ∈ definition.atoms,
      ∃ type, initializeAtomsStorage.lookup atom.atomType = some type)
    (assembled : frame.Assembled (.init definitions) definition)
    (nulFree : (0 : UInt16) ∉ definition.name) (encodable : Windows1251.Encodable definition.name)
    {bytes : List UInt8}
    (beginning : bytes <+: frame.capacityImage ++ DataFrame.atomsImage frame.atoms)
    (fits : (header frame ++ bytes).length < 2147483640) :
    ((init definitions).readFrame (.ofData (header frame ++ bytes))).1 = none ↔
      (init definitions).Refused definition frame.capacity bytes := by
  obtain ⟨_, own⟩ := assembled.builtFor registered
  -- The bytes are read into a new frame for the same definition.
  have fresh : ((init definitions).buildFrame definition).Assembled (.init definitions) definition :=
    .buildFrame
  obtain ⟨_, built⟩ := fresh.builtFor registered
  have name : frame.name = definition.name := by rw [DataFrame.name, own.described]
  have known : (init definitions).buildFrameByKey frame.name =
      some ((init definitions).buildFrame definition) := by
    rw [name, buildFrameByKey, init]
    simp only [defined, Option.map_some]
  rw [← name] at nulFree encodable
  rw [readFrame_header nulFree encodable known fits]
  cases array : definition.isArray with
  | false => exact read_scalar built array frame.capacity ⟨_, rfl, fits⟩
  | true =>
    have isArray : frame.isArray = true := by
      rw [DataFrame.isArray, own.described]
      exact array
    rw [DataFrame.capacityImage, if_pos isArray] at beginning
    exact read_array built array own.capacity beginning fits

/-- A frame that is cut behind its header is refused as the bytes that are left say. -/
theorem readFrame_take
    (defined : definitions.definitionByKey definition.name = some definition)
    (registered : ∀ atom ∈ definition.atoms,
      ∃ type, initializeAtomsStorage.lookup atom.atomType = some type)
    (assembled : frame.Assembled (.init definitions) definition)
    (nulFree : (0 : UInt16) ∉ definition.name) (encodable : Windows1251.Encodable definition.name)
    (fits : frame.image.length < 2147483640) {count : Nat}
    (named : (header frame).length ≤ count) :
    ((init definitions).readFrame (.ofData (frame.image.take count))).1 = none ↔
      (init definitions).Refused definition frame.capacity
        ((frame.image.take count).drop (header frame).length) := by
  -- A beginning with a complete header is the header and a beginning of what follows it.
  have split : frame.image.take count = header frame ++
      (frame.capacityImage ++ DataFrame.atomsImage frame.atoms).take
        (count - (header frame).length) := by
    rw [image_eq_header_append, List.take_append, List.take_of_length_le named]
  have shorter : (frame.image.take count).length ≤ frame.image.length := List.length_take_le' ..
  rw [split] at shorter ⊢
  rw [List.drop_left]
  exact readFrame_beginning defined registered assembled nulFree encodable (List.take_prefix ..)
    (by omega)

/--
A frame that is cut behind its name is read as null exactly if the bytes that are left are refused.

Where texts hold no NUL, this says that the capacity exceeds what is left, that the value in which
the cut lies is a number, or has at most its length left, or that a value behind it is no text.
-/
theorem readFrame_take_iff
    (defined : definitions.definitionByKey definition.name = some definition)
    (registered : ∀ atom ∈ definition.atoms,
      ∃ type, initializeAtomsStorage.lookup atom.atomType = some type)
    (assembled : frame.Assembled (.init definitions) definition)
    (nulFree : (0 : UInt16) ∉ definition.name) (encodable : Windows1251.Encodable definition.name)
    (fits : frame.image.length < 2147483640) :
    (∀ count, (header frame).length ≤ count →
      (((init definitions).readFrame (.ofData (frame.image.take count))).1 = none ↔
        (init definitions).Refused definition frame.capacity
          ((frame.image.take count).drop (header frame).length))) ∧
    ∀ done item later kept, frame.items = done ++ item :: later → kept < item.2.length →
      (∀ other ∈ done ++ [item], other.1 = .text → (0 : UInt8) ∉ other.2.dropLast) →
      (definition.isArray = false → frame.capacity = 1) →
      (((init definitions).readFrame (.ofData (frame.image.take ((header frame).length +
          (frame.capacityImage.length + ((done.flatMap Prod.snd).length + kept)))))).1 = none ↔
        (definition.isArray = true ∧
          (done.flatMap Prod.snd).length + kept < frame.capacity.toNat) ∨
        ¬ ((item.1 = .text ∨ (item.1 = .counted ∧ 4 < kept)) ∧
          ∀ other ∈ later, other.1 = .text)) := by
  refine ⟨fun count named =>
    readFrame_take defined registered assembled nulFree encodable fits named, ?_⟩
  intro done item later kept values cut clean single
  rw [readFrame_take defined registered assembled nulFree encodable fits (Nat.le_add_right ..)]
  obtain ⟨atoms, own⟩ := assembled.builtFor registered
  -- What is left behind the header is the capacity and the values up to the cut.
  have left : (frame.image.take ((header frame).length + (frame.capacityImage.length +
      ((done.flatMap Prod.snd).length + kept)))).drop (header frame).length =
        frame.capacityImage ++ (done.flatMap Prod.snd ++ item.2.take kept) := by
    rw [image_eq_header_append, List.take_length_add_append, List.drop_left,
      List.take_length_add_append, ← DataFrame.flatMap_items, values,
      ValueLayout.take_cut done later cut]
  have amount : (done.flatMap Prod.snd ++ item.2.take kept).length =
      (done.flatMap Prod.snd).length + kept := by
    rw [List.length_append, List.length_take_of_le (Nat.le_of_lt cut)]
  -- No value is too long for its length field.
  have narrow : (DataFrame.atomsImage frame.atoms).length < 4294967296 := by
    rw [image_eq_header_append, List.length_append, List.length_append] at fits
    omega
  have passes := passes_cut_iff own values cut clean narrow
  have isArray : frame.isArray = definition.isArray := by rw [DataFrame.isArray, own.described]
  rw [left, Refused, ← passes]
  cases array : definition.isArray with
  | false =>
    have nothing : frame.capacityImage = [] := if_neg (by simp [isArray, array])
    rw [nothing, List.nil_append, single array]
    simp
  | true =>
    rw [array] at isArray
    have four : (FixedWidth.toBytes frame.capacity).length = 4 := FixedWidth.toBytes_length _
    rw [DataFrame.capacityImage, if_pos isArray, List.length_append, four, amount, ← four,
      List.drop_left]
    simp

omit [QtText]

/-- Notes that are cut within the number are refused, and those cut within a text are read. -/
theorem readFrame_take_iff_notes :
    let _ : QtText := .ascii
    let factory := init notesDefinitions
    (factory.readFrame (.ofData (notesFrame.image.take 16))).1 = none ∧
      ¬ (factory.readFrame (.ofData (notesFrame.image.take 20))).1 = none := by
  let _ : QtText := .ascii
  let number : ValueLayout.Item := (.fixed 4, [0, 0, 0, 0])
  let nothing : ValueLayout.Item := (.text, [0])
  let text : ValueLayout.Item := (.text, [111, 107, 0])
  have filled := notesFrame_filledFrom
  obtain ⟨_, cuts⟩ := readFrame_take_iff filled.defined filled.registered filled.assembled
    filled.nameNulFree filled.nameEncodable (by decide)
  have name : (header notesFrame).length = 10 := by decide
  have capacity : notesFrame.capacityImage.length = 4 := by decide
  rw [name, capacity] at cuts
  constructor
  · have cut := cuts [] number [nothing, text] 2 rfl (by decide) (by decide) nofun
    exact cut.mpr (.inr (by decide))
  · have cut := cuts [number, nothing] text [] 1 rfl (by decide) (by decide) nofun
    exact fun refused => absurd (cut.mp refused) (by decide)

/-- Notes without their last two bytes are read with a shorter text. -/
theorem readFrame_shortened :
    let _ : QtText := .ascii
    let cut := notesFrame.image.take 20
    (header notesFrame).length ≤ 20 ∧ 20 < notesFrame.image.length ∧
      ((init notesDefinitions).readFrame (.ofData cut)).1.map DataFrame.image =
        some (FixedWidth.toBytes (17 : UInt32) ++ cut.drop 4 ++ [0]) := by
  decide

end DataFramesFactory

end Threader
