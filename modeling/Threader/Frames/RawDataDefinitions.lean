import Threader.Base.ItemByItem
import Threader.Frames.FrameSize
import Threader.Frames.RawDataSnapshots

/-! Frames that are kept as raw data, stored, and loaded again with their definitions. -/

namespace Threader

/-- Every definition is kept under the upper case of its name. -/
def DataFramesDefinitions.Keyed [QtText] (definitions : DataFramesDefinitions) : Prop :=
  ∀ entry ∈ definitions.framesHash, entry.1 = QtText.toUpper entry.2.name

/-- A definition is found under its own name only, up to the case. -/
theorem DataFramesDefinitions.Keyed.toUpper_eq [QtText] {definitions : DataFramesDefinitions}
    (keyed : definitions.Keyed) {key : QString} {definition : DataFrameDefinition}
    (found : definitions.definitionByKey key = some definition) :
    QtText.toUpper key = QtText.toUpper definition.name := by
  obtain ⟨before, after, listed, _⟩ := List.lookup_eq_some_iff.mp found
  exact keyed (QtText.toUpper key, definition) (listed ▸ List.mem_append_right _ List.mem_cons_self)

/-- A queue that holds some frames in order. -/
def QueueDataFrames.holding (raws : List DataFrameRawData) : QueueDataFrames :=
  { empty ⟨raws⟩ with queuedFramesList := List.range raws.length }

theorem QueueDataFrames.frames_holding (raws : List DataFrameRawData) :
    (holding raws).frames = raws := by
  -- The pointers are the places of the list.
  refine List.ext_getElem (by simp [frames, holding]) fun index inside there => ?_
  simp [frames, holding, empty, FrameHeap.frame, Heap.read, there]

namespace DataFrameRawData

variable [QtUtf8]

/-- The name that was taken over begins with a visible ASCII character. -/
theorem Intact.nameString_cases {frame : DataFrameRawData} (intact : frame.Intact) :
    frame.nameString = [] ∨
      ∃ unit rest, frame.nameString = unit :: rest ∧ 0x20 < unit ∧ unit < 0x80 := by
  have same := congrArg nameString intact.restored
  have name : frame.nameString = (ofBlock frame.buffer frame.length).nameString := same
  rw [name]
  simp only [ofBlock]
  split
  · rename_i hasData
    right
    simp only [Bool.and_eq_true, decide_eq_true_eq] at hasData
    obtain ⟨first, others, buffer⟩ := List.exists_cons_of_length_pos intact.positive
    obtain ⟨count, counted⟩ := Nat.exists_eq_add_one.mpr hasData.1
    have starts := intact.starts
    rw [buffer, startsBadly_eq_false_iff] at starts
    obtain ⟨low, high⟩ : 32 < first.toNat ∧ first.toNat < 128 := starts
    -- The first byte is decoded by itself.
    have head := QtUtf8.fromUtf8_head (others.take count) (UInt8.lt_iff_toNat_lt.mpr high)
    obtain ⟨rest, decoded⟩ := List.head?_eq_some_iff.mp head
    refine ⟨first.toUInt16, rest, ?_, UInt16.lt_iff_toNat_lt.mpr ?_, UInt16.lt_iff_toNat_lt.mpr ?_⟩
    · rw [counted, buffer, List.take_succ_cons, decoded]
    · rw [UInt8.toNat_toUInt16]
      exact low
    · rw [UInt8.toNat_toUInt16]
      exact high
  · exact .inl rfl

/-- The constructor makes frames without a packet and without a definition. -/
theorem restored_of_build {data : Option QByteArray} {length : FrameSizeType}
    {frame : DataFrameRawData} (built : build data length = some frame) : frame.restored = frame := by
  -- There are three ways through the constructor, and none of them sets either.
  cases data with
  | none =>
    cases built
    rfl
  | some data =>
    simp only [build] at built
    split at built
    · cases built
      rfl
    · split at built
      · cases built
        rfl
      · cases built

/-- What `parse` yields was made by the constructor, and is valid. -/
theorem constructed_of_parse {source : QByteArray} {list : List DataFrameRawData}
    (parsed : parse source = some list) {frame : DataFrameRawData} (member : frame ∈ list) :
    frame.Constructed ∧ frame.isValid = true := by
  obtain ⟨blocks, last, frames, _, made, rfl⟩ := parse_eq_some parsed
  obtain ⟨inside, valid⟩ := List.mem_filter.mp member
  obtain ⟨block, _, built⟩ := ItemByItem.mem_of_mapM_eq_some made inside
  exact ⟨⟨_, _, built.trans (congrArg some (restored_of_build built).symm)⟩, valid⟩

/-- Valid frames that are loaded get the definitions of their names. -/
theorem loadFromFile_images [QtText] {frames : List DataFrameRawData}
    (intact : ∀ frame ∈ frames, frame.Intact) (valid : ∀ frame ∈ frames, frame.isValid = true)
    (fits : (images frames).length < 2147483648) (definitions : DataFramesDefinitions) :
    loadFromFile (images frames) (some definitions) = some (frames.map fun frame =>
      frame.restored.setDefinition (definitions.definitionByKey frame.toString)) := by
  simp only [loadFromFile, parse_images intact valid fits, List.map_map]
  rfl

end DataFrameRawData

namespace DataFrame

variable [QtText]

/-- Something follows the name of a frame: a capacity, or a value. -/
def Followed (frame : DataFrame) : Prop :=
  frame.isArray = true ∨ ∃ atom, some atom ∈ frame.atoms ∧ atom.base.valuesVector ≠ []

/-- Atoms count for some bytes exactly if one of them has a value. -/
theorem atomsSize_pos_iff (atoms : List (Option AbstractDataAtom)) :
    0 < atomsSize atoms ↔ ∃ atom, some atom ∈ atoms ∧ atom.base.valuesVector ≠ [] := by
  -- A missing atom neither counts nor has a value.
  induction atoms with
  | nil => simp [atomsSize]
  | cons first atoms ih =>
    cases first with
    | none => simpa [atomsSize] using ih
    | some first =>
      have own := first.size_pos_iff
      simp only [atomsSize, List.mem_cons, Option.some.injEq, or_and_right, exists_or,
        exists_eq_left, ← own, ← ih]
      omega

theorem declaredSize_gt_iff (frame : DataFrame) :
    frame.name.length + 1 < frame.declaredSize ↔ frame.Followed := by
  -- What follows the name is the number of an array, or the value of an atom.
  have atoms := atomsSize_pos_iff frame.atoms
  unfold Followed declaredSize
  rw [← atoms]
  cases frame.isArray with
  | true =>
    simp only [if_true, true_or, iff_true]
    omega
  | false =>
    simp only [Bool.false_eq_true, if_false, false_or]
    omega

variable [QtUtf8]

/--
`dataFrameRawData()`: the first frame in what the frame is written as, or null.

There is no result when `parse` has none.
-/
def dataFrameRawData (frame : DataFrame) : Option (Option DataFrameRawData) :=
  let array := (frame.write (.ofData [])).2.data.getD []
  match DataFrameRawData.parse array with
  | none => none
  | some list => some (list.head?.map (DataFrameRawData.setDefinition frame.definition))

/-- The block of a frame as its size field announces it. -/
def rawBlock (frame : DataFrame) : DataFrameRawData :=
  DataFrameRawData.ofBlock (frame.body.take frame.declaredSize) frame.size

/-- A frame with a printable name that its definitions know, and without null atoms. -/
structure Registered (definitions : DataFramesDefinitions) (frame : DataFrame) : Prop where
  defined : ∃ definition, frame.definition = some definition ∧
    definitions.definitionByKey definition.name = some definition
  printable : frame.name.Printable
  wired : ∃ atoms : List AbstractDataAtom, frame.atoms = atoms.map some
  fits : frame.image.length < 2147483648

/-- A frame whose raw data finds its definition again. -/
structure KeepsDefinition (frame : DataFrame) : Prop where
  visible : frame.name.head? ≠ some 0x20
  followed : frame.Followed
  -- The size of a frame does not count all bytes of an identifier, and `parse` goes on with them.
  parsed : (∃ atom, some atom ∈ frame.atoms ∧ atom.type = .guid) →
    (DataFrameRawData.parse frame.image).isSome

omit [QtUtf8] in
/-- The block of a frame begins with its name and a NUL. -/
theorem take_body (frame : DataFrame) : ∃ rest,
    frame.body.take frame.declaredSize = Windows1251.fromUnicode frame.name ++ 0 :: rest := by
  have named : Windows1251.fromUnicode frame.name ++ [0] <+: frame.body := List.prefix_append ..
  have width := Windows1251.terminated_length frame.name
  obtain ⟨rest, taken⟩ := List.prefix_take_iff.mpr
    (And.intro named (show _ ≤ frame.declaredSize by rw [width, declaredSize]; omega))
  exact ⟨rest, by rw [← taken, List.append_assoc]; rfl⟩

omit [QtUtf8] in
theorem take_body_length (frame : DataFrame) :
    (frame.body.take frame.declaredSize).length = frame.declaredSize := by
  rw [List.length_take, Nat.min_eq_left frame.declaredSize_le_body]

omit [QtUtf8] in
theorem size_toNat_of_fits {frame : DataFrame} (fits : frame.image.length < 2147483648) :
    frame.size.toNat = frame.declaredSize := by
  have inside := frame.declaredSize_le_body
  rw [image, List.length_append] at fits
  rw [size_eq, UInt32.toNat_ofNat']
  omega

/-- The block of a frame is as long as its size field says. -/
theorem rawBlock_sized {frame : DataFrame} (fits : frame.image.length < 2147483648) :
    frame.rawBlock.Sized := by
  have long := frame.take_body_length
  have positive : 0 < frame.declaredSize := by
    rw [declaredSize]
    omega
  exact ⟨(size_toNat_of_fits fits).trans long.symm, Nat.lt_of_lt_of_eq positive long.symm⟩

/-- The block of a frame whose name begins visibly is taken for one. -/
theorem rawBlock_intact {frame : DataFrame} (printable : frame.name.Printable)
    (fits : frame.image.length < 2147483648) (visible : frame.name.head? ≠ some 0x20) :
    frame.rawBlock.Intact := by
  obtain ⟨nonempty, all⟩ := printable
  obtain ⟨first, others, name⟩ := List.exists_cons_of_ne_nil nonempty
  obtain ⟨rest, taken⟩ := frame.take_body
  have sized := rawBlock_sized fits
  refine ⟨sized.length, ?_, sized.positive, rfl⟩
  show DataFrameRawData.startsBadly ((frame.body.take frame.declaredSize).headD 0) = false
  rw [taken, name, DataFrameRawData.startsBadly_eq_false_iff]
  show 32 < (Windows1251.encodeUnit first).toNat ∧ (Windows1251.encodeUnit first).toNat < 128
  -- The first character is printable, and it is no space.
  obtain ⟨low, high⟩ := all first (name ▸ List.mem_cons_self)
  obtain ⟨same, small⟩ := Windows1251.encodeUnit_toUInt16 high
  have value : (Windows1251.encodeUnit first).toNat = first.toNat := by
    rw [← UInt8.toNat_toUInt16, same]
  have other : first.toNat ≠ 32 := by
    intro space
    have blank : first = 0x20 := UInt16.toNat_inj.mp space
    exact visible (by rw [name, blank, List.head?_cons])
  have low : 32 ≤ first.toNat := UInt16.le_iff_toNat_le.mp low
  have small : (Windows1251.encodeUnit first).toNat < 128 := UInt8.lt_iff_toNat_lt.mp small
  omega

/-- The constructor takes the name over exactly if something follows it. -/
theorem rawBlock_nameString {frame : DataFrame} (printable : frame.name.Printable)
    (fits : frame.image.length < 2147483648) :
    (frame.Followed → frame.rawBlock.nameString = frame.name) ∧
      (¬ frame.Followed → frame.rawBlock.nameString = []) := by
  -- The name ends at the first zero, which stands right behind its bytes.
  obtain ⟨rest, taken⟩ := frame.take_body
  obtain ⟨low, same, nulFree⟩ := Windows1251.printable_bytes printable
  have found : ((Windows1251.fromUnicode frame.name ++ 0 :: rest).findIdx? (· == 0)).getD 0 =
      frame.name.length := by
    rw [← Windows1251.fromUnicode_length frame.name]
    exact DataFrameRawData.zeroPosition_append nulFree rest
  have positive := List.length_pos_iff.mpr printable.1
  rw [← declaredSize_gt_iff, ← size_toNat_of_fits fits]
  simp only [rawBlock, DataFrameRawData.ofBlock, taken, found, positive, decide_true, Bool.true_and,
    decide_eq_true_eq]
  constructor
  · intro followed
    have name : (Windows1251.fromUnicode frame.name ++ 0 :: rest).take frame.name.length =
        Windows1251.fromUnicode frame.name := by
      rw [← Windows1251.fromUnicode_length frame.name, List.take_left]
    rw [if_pos followed, name, QtUtf8.fromUtf8_ascii low, same]
  · intro bare
    rw [if_neg bare]

/-- What a frame is written as is its block, and what its size does not count. -/
theorem image_eq_block (frame : DataFrame) :
    frame.image = frame.rawBlock.image ++ frame.body.drop frame.declaredSize := by
  show _ = FixedWidth.toBytes frame.size ++ frame.body.take frame.declaredSize ++ _
  rw [List.append_assoc, List.take_append_drop, image]

/-- A frame without null atoms is converted from its image. -/
theorem dataFrameRawData_eq {frame : DataFrame} {atoms : List AbstractDataAtom}
    (wired : frame.atoms = atoms.map some) :
    frame.dataFrameRawData = (DataFrameRawData.parse frame.image).map fun list =>
      list.head?.map (DataFrameRawData.setDefinition frame.definition) := by
  -- The frame is written to an empty array first.
  have array : (frame.write (.ofData [])).2.data.getD [] = frame.image := by
    rw [DataStream.ofData_nil, frame.write_image wired]
    rfl
  simp only [dataFrameRawData, array]
  cases DataFrameRawData.parse frame.image with
  | none => rfl
  | some list => rfl

/-- If there is a result at all, it is the block of the frame. -/
theorem head?_of_parse {frame : DataFrame} (intact : frame.rawBlock.Intact)
    (fits : frame.image.length < 2147483648) {list : List DataFrameRawData}
    (parsed : DataFrameRawData.parse frame.image = some list) :
    list.head? = some frame.rawBlock := by
  obtain ⟨blocks, last, frames, ends, made, rfl⟩ := DataFrameRawData.parse_eq_some parsed
  rw [image_eq_block] at fits ends made
  have turned := DataFrameRawData.parseTurn_image [] (frame.body.drop frame.declaredSize)
    intact.sized fits (show (0 : FrameSizeType).toNat = _ from rfl)
  have first := DataFrameRawData.ofSource_image [] (frame.body.drop frame.declaredSize)
    intact.sized (show (0 + 4 : FrameSizeType).toNat = _ from rfl)
  rw [List.nil_append] at turned first
  rw [intact.rebuilt_eq] at first
  -- The first block is that of the frame, and it is taken for a valid one.
  obtain ⟨later, rfl, _⟩ := ends.eq_cons turned
  simp only [List.mapM_cons, first, Option.bind_eq_bind, Option.bind_some, Option.bind_eq_some_iff,
    Option.pure_def, Option.some.injEq] at made
  obtain ⟨others, _, rfl⟩ := made
  rfl

/-- What a frame is converted to comes first in what `parse` yields. -/
theorem parse_of_converted {frame : DataFrame} {atoms : List AbstractDataAtom}
    (wired : frame.atoms = atoms.map some) {raw : DataFrameRawData}
    (converted : frame.dataFrameRawData = some (some raw)) :
    ∃ first list, DataFrameRawData.parse frame.image = some (first :: list) ∧
      raw = first.setDefinition frame.definition := by
  rw [dataFrameRawData_eq wired] at converted
  obtain ⟨list, parsed, head⟩ := Option.map_eq_some_iff.mp converted
  obtain ⟨first, found, same⟩ := Option.map_eq_some_iff.mp head
  obtain ⟨others, rfl⟩ := List.head?_eq_some_iff.mp found
  exact ⟨first, others, parsed, same.symm⟩

/-- What a frame is converted to was made by the constructor, is valid, and has its definition. -/
theorem constructed_of_converted {frame : DataFrame} {atoms : List AbstractDataAtom}
    (wired : frame.atoms = atoms.map some) {raw : DataFrameRawData}
    (converted : frame.dataFrameRawData = some (some raw)) :
    raw.Intact ∧ raw.isValid = true ∧ raw.definition = frame.definition := by
  obtain ⟨first, list, parsed, rfl⟩ := parse_of_converted wired converted
  obtain ⟨constructed, valid⟩ := DataFrameRawData.constructed_of_parse parsed List.mem_cons_self
  -- The definition has no part in how a frame is made.
  have same : (first.setDefinition frame.definition).Constructed := constructed
  exact ⟨same.intact valid, valid, rfl⟩

/-- Without identifiers, a frame is written as its block alone. -/
theorem image_eq_rawBlock {frame : DataFrame}
    (others : ∀ atom, some atom ∈ frame.atoms → atom.type ≠ .guid) :
    frame.image = frame.rawBlock.image := by
  rw [image_eq_block, declaredSize_eq_body others, List.drop_length, List.append_nil]

/-- Without identifiers, `parse` always copes with what a frame is written as. -/
theorem parsed_of_no_guid {frame : DataFrame} (printable : frame.name.Printable)
    (fits : frame.image.length < 2147483648) (visible : frame.name.head? ≠ some 0x20)
    (others : ∀ atom, some atom ∈ frame.atoms → atom.type ≠ .guid) :
    (DataFrameRawData.parse frame.image).isSome := by
  -- Without identifiers the declared size is the size of the image.
  have intact := rawBlock_intact printable fits visible
  have whole : frame.image = DataFrameRawData.images [frame.rawBlock] := by
    rw [image_eq_rawBlock others, DataFrameRawData.images, List.flatMap_singleton]
  rw [whole] at fits ⊢
  have parsed := @DataFrameRawData.parse_images _ [frame.rawBlock]
    (fun raw member => List.mem_singleton.mp member ▸ intact)
    (fun raw member => List.mem_singleton.mp member ▸ rfl) fits
  rw [parsed]
  rfl

/-- With or without identifiers, a frame that keeps its definition can be parsed. -/
theorem KeepsDefinition.parse_isSome {definitions : DataFramesDefinitions} {frame : DataFrame}
    (kept : frame.KeepsDefinition) (registered : frame.Registered definitions) :
    (DataFrameRawData.parse frame.image).isSome := by
  by_cases guid : ∃ atom, some atom ∈ frame.atoms ∧ atom.type = .guid
  · exact kept.parsed guid
  · apply parsed_of_no_guid registered.printable registered.fits kept.visible
    intro atom member type
    exact guid ⟨atom, member, type⟩

/-- A name with the upper case of one that was taken over does not begin with a space. -/
theorem visible_of_toUpper_eq (upper : QtText.UppersAscii) {raw : DataFrameRawData}
    (intact : raw.Intact) {name : QString} (printable : name.Printable)
    (same : QtText.toUpper raw.nameString = QtText.toUpper name) :
    raw.nameString ≠ [] ∧ name.head? ≠ some 0x20 := by
  obtain ⟨unit, rest, rfl⟩ := List.exists_cons_of_ne_nil printable.1
  have low : unit < 0x80 := by
    have high := (printable.2 unit List.mem_cons_self).2
    exact UInt16.lt_iff_toNat_lt.mpr (Nat.lt_of_le_of_lt (UInt16.le_iff_toNat_le.mp high) (by decide))
  have head : (QtText.toUpper raw.nameString).head? = some (upperAscii unit) := by
    rw [same, upper.head rest low]
  have nonempty : raw.nameString ≠ [] := by
    intro empty
    rw [empty, upper.empty] at head
    cases head
  refine ⟨nonempty, ?_⟩
  intro space
  rw [List.head?_cons] at space
  rcases intact.nameString_cases with empty | ⟨other, others, taken, above, ascii⟩
  · exact nonempty empty
  · rw [taken, upper.head others ascii, Option.some.inj space] at head
    -- A space is the upper case of itself, and of no visible character.
    exact upperAscii_ne_space above (Option.some.inj head)

/-- A frame keeps its definition exactly if its raw data has the name of the definition. -/
theorem keepsDefinition_iff (upper : QtText.UppersAscii) {definitions : DataFramesDefinitions}
    (keyed : definitions.Keyed) {frame : DataFrame} (registered : frame.Registered definitions) :
    frame.KeepsDefinition ↔ ∃ raw, frame.dataFrameRawData = some (some raw) ∧
      definitions.definitionByKey raw.toString = frame.definition := by
  obtain ⟨definition, described, defined⟩ := registered.defined
  obtain ⟨atoms, wired⟩ := registered.wired
  have name : frame.name = definition.name := by simp only [DataFrame.name, described]
  have names := rawBlock_nameString registered.printable registered.fits
  constructor
  · intro kept
    obtain ⟨list, parsed⟩ := Option.isSome_iff_exists.mp (kept.parse_isSome registered)
    have intact := rawBlock_intact registered.printable registered.fits kept.visible
    have head := head?_of_parse intact registered.fits parsed
    refine ⟨frame.rawBlock.setDefinition frame.definition, ?_, ?_⟩
    · simp only [dataFrameRawData_eq wired, parsed, Option.map_some, head]
    · show definitions.definitionByKey frame.rawBlock.nameString = _
      rw [names.1 kept.followed, name, defined, described]
  · rintro ⟨raw, converted, found⟩
    obtain ⟨first, list, parsed, rfl⟩ := parse_of_converted wired converted
    obtain ⟨constructed, valid⟩ := DataFrameRawData.constructed_of_parse parsed List.mem_cons_self
    -- The name that was taken over has the upper case of the name of the definition.
    have same : QtText.toUpper first.nameString = QtText.toUpper frame.name := by
      rw [name]
      exact keyed.toUpper_eq (found.trans described)
    obtain ⟨nonempty, visible⟩ :=
      visible_of_toUpper_eq upper (constructed.intact valid) registered.printable same
    have intact := rawBlock_intact registered.printable registered.fits visible
    have block : first = frame.rawBlock :=
      Option.some.inj (head?_of_parse intact registered.fits parsed)
    refine ⟨visible, ?_, fun _ => Option.isSome_iff_exists.mpr ⟨_, parsed⟩⟩
    by_contra bare
    exact nonempty (block ▸ names.2 bare)

/--
Frames are converted, stored as a snapshot, and loaded again, and every raw frame has the
definition and the priority that it had before.
-/
def Reloads (definitions : DataFramesDefinitions) (frames : List DataFrame) : Prop :=
  ∃ raws, List.Forall₂ (fun frame raw => frame.dataFrameRawData = some (some raw)) frames raws ∧
    ∃ loaded, DataFrameRawData.loadFromFile (QueueDataFrames.holding raws).makeSnapshot
        (some definitions) = some loaded ∧
      List.Forall₂ (fun raw loaded => loaded.definition = raw.definition ∧
        loaded.priority = raw.priority) raws loaded

/-- Raw data is loaded with its definitions exactly if these are found under its names. -/
theorem loaded_iff {definitions : DataFramesDefinitions} {raws : List DataFrameRawData}
    (intact : ∀ raw ∈ raws, raw.Intact) (valid : ∀ raw ∈ raws, raw.isValid = true)
    (fits : (DataFrameRawData.images raws).length < 2147483648) :
    (∃ loaded, DataFrameRawData.loadFromFile (QueueDataFrames.holding raws).makeSnapshot
        (some definitions) = some loaded ∧
      List.Forall₂ (fun raw loaded => loaded.definition = raw.definition ∧
        loaded.priority = raw.priority) raws loaded) ↔
    ∀ raw ∈ raws, definitions.definitionByKey raw.toString = raw.definition := by
  rw [QueueDataFrames.makeSnapshot_eq, QueueDataFrames.frames_holding,
    DataFrameRawData.loadFromFile_images intact valid fits]
  constructor
  · rintro ⟨loaded, same, kept⟩ raw member
    obtain rfl := Option.some.inj same
    exact (List.forall₂_same.mp (List.forall₂_map_right_iff.mp kept) raw member).1
  · intro found
    refine ⟨_, rfl, List.forall₂_map_right_iff.mpr (List.forall₂_same.mpr fun raw member => ?_)⟩
    -- The priority is that of the definition.
    have same := found raw member
    refine ⟨same, ?_⟩
    simp only [DataFrameRawData.priority, DataFrameRawData.setDefinition, same]

/-- Frames are loaded with their definitions exactly if each of them keeps its own. -/
theorem reloads_iff (upper : QtText.UppersAscii) {definitions : DataFramesDefinitions}
    (keyed : definitions.Keyed) {frames : List DataFrame}
    (registered : ∀ frame ∈ frames, frame.Registered definitions)
    (fits : ∀ raws, List.Forall₂ (fun frame raw => frame.dataFrameRawData = some (some raw))
      frames raws → (DataFrameRawData.images raws).length < 2147483648) :
    Reloads definitions frames ↔ ∀ frame ∈ frames, frame.KeepsDefinition := by
  -- What the frames are converted to is intact, and can be loaded.
  have made {raws : List DataFrameRawData} (all : List.Forall₂
      (fun frame raw => frame.dataFrameRawData = some (some raw)) frames raws)
      (raw : DataFrameRawData) (member : raw ∈ raws) : raw.Intact ∧ raw.isValid = true := by
    obtain ⟨frame, inside, converted⟩ := ItemByItem.exists_of_mem_right all member
    obtain ⟨atoms, wired⟩ := (registered frame inside).wired
    exact (constructed_of_converted wired converted).imp id And.left
  have loads {raws : List DataFrameRawData} (all : List.Forall₂
      (fun frame raw => frame.dataFrameRawData = some (some raw)) frames raws) :=
    @loaded_iff _ _ definitions raws (fun raw member => (made all raw member).1)
      (fun raw member => (made all raw member).2) (fits raws all)
  constructor
  · rintro ⟨raws, all, loaded⟩ frame member
    obtain ⟨raw, inside, converted⟩ := ItemByItem.exists_of_mem_left all member
    obtain ⟨atoms, wired⟩ := (registered frame member).wired
    have found := (loads all).mp loaded raw inside
    rw [(constructed_of_converted wired converted).2.2] at found
    exact (keepsDefinition_iff upper keyed (registered frame member)).mpr ⟨raw, converted, found⟩
  · intro kept
    obtain ⟨raws, all⟩ := ItemByItem.exists_forall₂ fun frame member =>
      (keepsDefinition_iff upper keyed (registered frame member)).mp (kept frame member)
    have converted := all.imp fun frame raw both => both.1
    refine ⟨raws, converted, (loads converted).mpr fun raw member => ?_⟩
    obtain ⟨frame, inside, own, found⟩ := ItemByItem.exists_of_mem_right all member
    obtain ⟨atoms, wired⟩ := (registered frame inside).wired
    rw [found, (constructed_of_converted wired own).2.2]

omit [QtText] [QtUtf8]

/-- An urgent frame with a number, and its definition in the table. -/
def alarmDefinition : DataFrameDefinition :=
  ⟨.ofAscii "Alarm", false, 1, true, 5, [⟨.ofAscii "Code", .ofAscii "uint8", true⟩]⟩

/-- An urgent frame without atoms. -/
def pingDefinition : DataFrameDefinition := ⟨.ofAscii "Ping", false, 1, true, 5, []⟩

/-- A table with both of them. -/
def alarmDefinitions : DataFramesDefinitions :=
  ⟨[(.ofAscii "ALARM", alarmDefinition), (.ofAscii "PING", pingDefinition)]⟩

/-- The number of an alarm. -/
def alarmCode : AbstractDataAtom :=
  ⟨.uint8, ⟨⟨.ofAscii "Code", .ofAscii "uint8", true⟩, [(7 : UInt8)], 0⟩⟩

/-- An alarm with its number. -/
def alarmFrame : DataFrame := ⟨some alarmDefinition, [some alarmCode], 1, 0, 0⟩

/-- A ping, which consists of its name. -/
def pingFrame : DataFrame := ⟨some pingDefinition, [], 1, 0, 0⟩

theorem alarmDefinitions_keyed : @DataFramesDefinitions.Keyed .ascii alarmDefinitions := by
  show ∀ entry ∈ alarmDefinitions.framesHash, entry.1 = _
  decide

/-- An alarm is loaded with its definition. -/
theorem reloads_iff_alarm : @Reloads .ascii .ascii alarmDefinitions [alarmFrame] := by
  -- The definition is computed once, and compared with what the conversion gives.
  let _ := QtText.ascii
  let _ := QtUtf8.ascii
  have registered : alarmFrame.Registered alarmDefinitions :=
    ⟨⟨alarmDefinition, rfl, by decide⟩, by decide, ⟨[alarmCode], rfl⟩, by decide⟩
  have kept : alarmFrame.KeepsDefinition :=
    ⟨by decide, .inr ⟨alarmCode, List.mem_cons_self, List.cons_ne_nil _ _⟩, fun _ => by decide⟩
  refine (reloads_iff QtText.uppersAscii_ascii alarmDefinitions_keyed ?_ ?_).mpr ?_
  · exact fun frame member => List.mem_singleton.mp member ▸ registered
  · intro raws all
    cases all with
    | cons converted none =>
      cases none
      have computed : alarmFrame.dataFrameRawData =
          some (some (alarmFrame.rawBlock.setDefinition (some alarmDefinition))) := by decide
      obtain rfl := Option.some.inj (Option.some.inj (computed.symm.trans converted))
      decide
  · exact fun frame member => List.mem_singleton.mp member ▸ kept

/-- A ping is loaded without its definition, and with the lowest priority. -/
theorem reloads_fails :
    let _ := QtText.ascii
    let _ := QtUtf8.ascii
    ¬ ∀ (definitions : DataFramesDefinitions) (frames : List DataFrame), definitions.Keyed →
      (∀ frame ∈ frames, frame.Registered definitions) →
      (∀ raws, List.Forall₂ (fun frame raw => frame.dataFrameRawData = some (some raw))
        frames raws → (DataFrameRawData.images raws).length < 2147483648) →
      Reloads definitions frames := by
  intro _ _ reloads
  have registered : pingFrame.Registered alarmDefinitions :=
    ⟨⟨pingDefinition, rfl, by decide⟩, by decide, ⟨[], rfl⟩, by decide⟩
  have computed : pingFrame.dataFrameRawData =
      some (some (pingFrame.rawBlock.setDefinition (some pingDefinition))) := by decide
  obtain ⟨raws, all, loaded, loads, kept⟩ := reloads alarmDefinitions [pingFrame]
    alarmDefinitions_keyed (fun frame member => List.mem_singleton.mp member ▸ registered)
    (by
      intro raws all
      cases all with
      | cons converted none =>
        cases none
        obtain rfl := Option.some.inj (Option.some.inj (computed.symm.trans converted))
        decide)
  cases all with
  | cons converted none =>
    cases none
    obtain rfl := Option.some.inj (Option.some.inj (computed.symm.trans converted))
    -- What is loaded has no name under which the definition could be found.
    have bare : DataFrameRawData.loadFromFile (QueueDataFrames.holding
        [pingFrame.rawBlock.setDefinition (some pingDefinition)]).makeSnapshot
        (some alarmDefinitions) = some [pingFrame.rawBlock] := by decide
    obtain rfl := Option.some.inj (bare.symm.trans loads)
    cases kept with
    | cons same _ => cases same.1

end DataFrame

end Threader
