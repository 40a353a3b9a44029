import Threader.Frames.FrameListRoundTrip
import Threader.Frames.RawDataDefinitions

/-! The two ways to decode a run of frames, and when they agree on frames of unknown names. -/

namespace Threader

namespace DataFramesFactory

variable [QtText]

/-- `readFrame(frameRawData)`: the bytes of a raw frame are read without a size in front of them. -/
def readFrameRawData (factory : DataFramesFactory) (frameRawData : DataFrameRawData) :
    Option DataFrame :=
  let array := frameRawData.buffer.take frameRawData.length.toNat
  (factory.readNamedFrame (.ofData array)).1

/-- The data are split by `parse`, and the frames are read one by one; null results are left out. -/
def readParsed [QtUtf8] (factory : DataFramesFactory) (data : QByteArray) :
    Option (List DataFrame) :=
  match DataFrameRawData.parse data with
  | none => none
  | some list => some (list.filterMap factory.readFrameRawData)

/-- Both ways to decode some data come to an end, with the same frames. -/
def DecodersAgree [QtUtf8] (factory : DataFramesFactory) (data : QByteArray) : Prop :=
  ∃ frames, factory.readFrames data = some frames ∧ factory.readParsed data = some frames

end DataFramesFactory

/-- An atom whose accessors work on its first value. -/
def AbstractDataAtom.AtStart (atom : AbstractDataAtom) : Prop := atom.base.currentIndex = 0

namespace AbstractDataAtom

/-- An atom at its start is determined by what it carries. -/
theorem AtStart.eq_of_content {left right : AbstractDataAtom} (leftStart : left.AtStart)
    (rightStart : right.AtStart) (same : left.content = right.content) : left = right := by
  obtain ⟨leftType, leftDefinition, leftValues, leftIndex⟩ := left
  obtain ⟨rightType, rightDefinition, rightValues, rightIndex⟩ := right
  -- The index is the same, and the rest is what the atoms carry.
  cases leftStart
  cases rightStart
  cases same
  rfl

/-- A new capacity leaves an atom at its start there. -/
theorem AtStart.setCapacity [QtText] {atom : AbstractDataAtom} (start : atom.AtStart)
    (capacity : UInt32) : (atom.setCapacity capacity).AtStart := by
  have first : atom.base.currentIndex = 0 := start
  unfold AbstractDataAtom.setCapacity
  split
  · exact start
  · show (atom.base.setCapacity capacity).currentIndex = 0
    -- A capacity of zero counts as one, so the index is less than it.
    have least : ¬ (0 : UInt32) ≥ if capacity = 0 then 1 else capacity := by
      split
      · decide
      · rename_i positive
        exact fun small => positive (UInt32.le_zero_iff.mp small)
    simp only [BaseDataAtom.setCapacity, first, if_neg least]

end AbstractDataAtom

namespace DataFrame

/-- A frame as the factory returns it, before its accessors are used. -/
structure AtStart (frame : DataFrame) : Prop where
  currentIndex : frame.currentIndex = 0
  packetId : frame.packetId = 0
  atoms : ∀ atom, some atom ∈ frame.atoms → atom.AtStart

/-- Atoms at their starts are determined by what they carry. -/
theorem atoms_eq_of_content {left right : List (Option AbstractDataAtom)}
    (leftStart : ∀ atom, some atom ∈ left → atom.AtStart)
    (rightStart : ∀ atom, some atom ∈ right → atom.AtStart)
    (same : left.map (Option.map AbstractDataAtom.content) =
      right.map (Option.map AbstractDataAtom.content)) : left = right := by
  -- Induction on the two lists, whose first atoms are null both, or carry the same.
  induction left generalizing right with
  | nil => exact (List.map_eq_nil_iff.mp same.symm).symm
  | cons first left ih =>
    cases right with
    | nil => cases same
    | cons other right =>
      obtain ⟨head, tail⟩ := List.cons.inj same
      have later := ih (fun atom member => leftStart atom (List.mem_cons_of_mem _ member))
        (fun atom member => rightStart atom (List.mem_cons_of_mem _ member)) tail
      have equal : first = other := by
        cases first with
        | none => exact (Option.map_eq_none_iff.mp head.symm).symm
        | some first =>
          obtain ⟨atom, rfl, content⟩ := Option.map_eq_some_iff.mp head.symm
          exact congrArg some ((leftStart first List.mem_cons_self).eq_of_content
            (rightStart atom List.mem_cons_self) content.symm)
      rw [equal, later]

/-- A frame at its start is determined by what it carries. -/
theorem AtStart.eq_of_content {left right : DataFrame} (leftStart : left.AtStart)
    (rightStart : right.AtStart) (same : left.content = right.content) : left = right := by
  -- What is left out of the content has its initial value in both frames.
  obtain ⟨leftDefinition, leftAtoms, leftCapacity, leftIndex, leftPacket⟩ := left
  obtain ⟨rightDefinition, rightAtoms, rightCapacity, rightIndex, rightPacket⟩ := right
  obtain ⟨rfl, rfl, leftAtStart⟩ := leftStart
  obtain ⟨rfl, rfl, rightAtStart⟩ := rightStart
  simp only [content, Prod.mk.injEq] at same
  obtain ⟨rfl, rfl, atoms⟩ := same
  obtain rfl : leftAtoms = rightAtoms := atoms_eq_of_content leftAtStart rightAtStart atoms
  rfl

variable [QtText]

/-- Reading atoms leaves them at their starts. -/
theorem atStart_readAtoms {atoms : List (Option AbstractDataAtom)}
    (starts : ∀ atom, some atom ∈ atoms → atom.AtStart) (stream : DataStream) :
    ∀ atom, some atom ∈ (readAtoms atoms stream).2.1 → atom.AtStart := by
  -- Reading replaces the values of an atom, and leaves the atoms alone that it does not reach.
  induction atoms generalizing stream with
  | nil => exact starts
  | cons first atoms ih =>
    cases first with
    | none => exact starts
    | some first =>
      obtain ⟨own, others⟩ := List.forall_mem_cons.mp
        (fun item (member : item ∈ some first :: atoms) atom (same : item = some atom) =>
          starts atom (same ▸ member))
      have read : (first.read stream).2.1.AtStart := own first rfl
      simp only [readAtoms]
      intro atom member
      split at member
      all_goals rcases List.mem_cons.mp member with same | later
      · exact Option.some.inj same ▸ read
      · exact ih (fun atom member => others _ member atom rfl) _ atom later
      · exact Option.some.inj same ▸ read
      · exact others _ later atom rfl

/-- A frame at its start is left there when it is read. -/
theorem AtStart.read {frame : DataFrame} (start : frame.AtStart) (stream : DataStream) :
    (frame.read stream).2.1.AtStart := by
  -- Changing the capacity rewinds the atoms, and reading them does not move them on.
  have sized (capacity : UInt32) : (frame.setCapacity capacity).AtStart := by
    refine ⟨start.currentIndex, start.packetId, fun atom member => ?_⟩
    obtain ⟨old, inside, made⟩ := List.mem_map.mp member
    obtain ⟨before, rfl, rfl⟩ := Option.map_eq_some_iff.mp made
    exact (start.atoms before inside).setCapacity _
  unfold DataFrame.read
  dsimp only
  split
  · have ready := sized (frame.readCapacity stream).2.1
    exact ⟨ready.currentIndex, ready.packetId, atStart_readAtoms ready.atoms _⟩
  · exact start

end DataFrame

namespace DataFramesFactory

variable [QtText]

theorem atStart_buildFrame (factory : DataFramesFactory) (definition : DataFrameDefinition) :
    (factory.buildFrame definition).AtStart := by
  refine ⟨rfl, rfl, fun atom member => ?_⟩
  obtain ⟨described, _, made⟩ := List.mem_map.mp member
  obtain ⟨type, _, rfl⟩ := Option.map_eq_some_iff.mp made
  rfl

/-- What is read is a frame at its start. -/
theorem atStart_of_readNamedFrame {factory : DataFramesFactory} {stream : DataStream}
    {frame : DataFrame} (read : (factory.readNamedFrame stream).1 = some frame) :
    frame.AtStart := by
  -- The frame was built before it was read.
  unfold readNamedFrame at read
  dsimp only at read
  split at read
  · split at read
    · rename_i fresh built
      have start : fresh.AtStart := by
        unfold buildFrameByKey at built
        split at built
        · cases built
        · obtain ⟨definition, _, rfl⟩ := Option.map_eq_some_iff.mp built
          exact atStart_buildFrame factory definition
      dsimp only at read
      split at read
      · exact Option.some.inj read ▸ start.read _
      · cases read
    · cases read
  · cases read

/-- What is read behind a size is a frame at its start. -/
theorem atStart_of_readFrame {factory : DataFramesFactory} {stream : DataStream}
    {frame : DataFrame} (read : (factory.readFrame stream).1 = some frame) : frame.AtStart := by
  simp only [readFrame] at read
  split at read
  · exact atStart_of_readNamedFrame read
  · cases read

end DataFramesFactory

namespace DataFrame

variable [QtText]

/-- How a frame is assembled depends on the registered types only. -/
theorem Assembled.transfer {left right : DataFramesFactory} (same : left.registry = right.registry)
    {definition : DataFrameDefinition} {frame : DataFrame}
    (assembled : frame.Assembled left definition) : frame.Assembled right definition := by
  -- The factory is asked for nothing but the types it has registered.
  induction assembled with
  | buildFrame =>
    have built : left.buildFrame definition = right.buildFrame definition := by
      simp only [DataFramesFactory.buildFrame, funext fun atom =>
        show left.atomByDefinition atom = right.atomByDefinition atom by
          simp only [DataFramesFactory.atomByDefinition, same]]
    exact built ▸ .buildFrame
  | setCapacity capacity _ ih => exact .setCapacity capacity ih
  | setCurrentIndex currentIndex _ ih => exact .setCurrentIndex currentIndex ih
  | assign found assigns _ ih => exact .assign found assigns ih

/-- A frame that a peer filled in is one of every table that has its definition. -/
theorem FilledFrom.transfer {peer definitions : DataFramesDefinitions}
    {definition : DataFrameDefinition} {frame : DataFrame}
    (filled : frame.FilledFrom peer definition)
    (defined : definitions.definitionByKey definition.name = some definition) :
    frame.FilledFrom definitions definition := by
  have same : (DataFramesFactory.init peer).registry =
    (DataFramesFactory.init definitions).registry := rfl
  exact { filled with defined, assembled := filled.assembled.transfer same }

/-- A frame has the name of the definition that it was filled in from. -/
theorem FilledFrom.name_eq {definitions : DataFramesDefinitions}
    {definition : DataFrameDefinition} {frame : DataFrame}
    (filled : frame.FilledFrom definitions definition) : frame.name = definition.name := by
  obtain ⟨atoms, built⟩ := filled.assembled.builtFor filled.registered
  simp only [name, built.described]

/--
A frame that a peer has filled in and written, with the table of the reader as a parameter.

The reader may lack the definition of the peer, but has no other one of that name.
-/
def Serialised (definitions : DataFramesDefinitions) (frame : DataFrame) : Prop :=
  ∃ peer definition, frame.FilledFrom peer definition ∧
    ∀ other, definitions.definitionByKey definition.name = some other → other = definition

/-- The reader has a definition of the name of a frame. -/
def known (definitions : DataFramesDefinitions) (frame : DataFrame) : Bool :=
  (definitions.definitionByKey frame.name).isSome

omit [QtText] in
/-- The name of a frame begins with an ASCII character above a space. -/
def beginsVisibly (frame : DataFrame) : Bool :=
  frame.name.head?.any fun unit => decide (0x20 < unit ∧ unit < 0x80)

/-- The reader restores a frame whose name it knows. -/
theorem Serialised.restorable {definitions : DataFramesDefinitions} {frame : DataFrame}
    (serialised : frame.Serialised definitions) (known : frame.known definitions = true) :
    frame.Restorable (.init definitions) := by
  obtain ⟨peer, definition, filled, same⟩ := serialised
  obtain ⟨other, found⟩ := Option.isSome_iff_exists.mp known
  -- The definition that the reader has is the one that the frame was filled in from.
  rw [filled.name_eq] at found
  rw [same other found] at found
  exact (filled.transfer found).restorable

/-- A frame that can be restored holds no identifiers. -/
theorem RestorableAs.no_guid {factory : DataFramesFactory} {definition : DataFrameDefinition}
    {atoms : List AbstractDataAtom} {frame : DataFrame}
    (restorable : frame.RestorableAs factory definition atoms) {atom : AbstractDataAtom}
    (member : some atom ∈ frame.atoms) : atom.type ≠ .guid := by
  rw [restorable.built.wired] at member
  have inside : atom ∈ atoms := by simpa using member
  have portable := restorable.portable atom inside
  obtain ⟨described, _, built⟩ := ItemByItem.exists_of_mem_right restorable.built.built inside
  -- The atom has a value, which would be portable.
  have some : 0 < atom.base.valuesVector.length := by
    have positive : 0 < frame.capacity.toNat :=
      Nat.pos_of_ne_zero fun zero => restorable.built.capacity (UInt32.toNat_inj.mp zero)
    rw [built.length]
    split
    · exact Nat.one_pos
    · exact positive
  obtain ⟨type, base⟩ := atom
  obtain ⟨value, others, values⟩ := List.exists_cons_of_length_pos some
  have carried := portable value (values ▸ List.mem_cons_self)
  rintro rfl
  exact carried

/-- What is known about a frame that was written, whether or not the reader knows its name. -/
theorem Serialised.restorableAs {definitions : DataFramesDefinitions} {frame : DataFrame}
    (serialised : frame.Serialised definitions) :
    ∃ factory definition atoms, frame.RestorableAs factory definition atoms := by
  obtain ⟨peer, definition, filled, _⟩ := serialised
  exact ⟨_, filled.restorable⟩

/-- A frame that was written holds no identifiers. -/
theorem Serialised.no_guid {definitions : DataFramesDefinitions} {frame : DataFrame}
    (serialised : frame.Serialised definitions) (atom : AbstractDataAtom)
    (member : some atom ∈ frame.atoms) : atom.type ≠ .guid := by
  obtain ⟨factory, definition, atoms, written⟩ := serialised.restorableAs
  -- Whoever knows its definition can restore the frame.
  exact written.no_guid member

/-- The bytes behind the size of a frame are as few as all its bytes, on their own. -/
theorem body_fits {frame : DataFrame} (fits : frame.image.length < 2147483648) :
    ([] ++ (frame.body ++ [])).length < 2147483648 := by
  rw [image, List.length_append] at fits
  rw [List.nil_append, List.append_nil]
  omega

end DataFrame

namespace DataFramesFactory

variable [QtText]

/-- What a factory makes of the bytes of a frame behind its size. -/
def received (factory : DataFramesFactory) (frame : DataFrame) : Option DataFrame :=
  (factory.readNamedFrame (.ofData frame.body)).1

/-- A frame that can be restored is received as it was, wherever it stands among other bytes. -/
theorem received_of_restorable {factory : DataFramesFactory} {frame : DataFrame}
    (restorable : frame.Restorable factory) (fits : frame.image.length < 2147483648) :
    ∃ new : DataFrame, factory.received frame = some new ∧ new.content = frame.content := by
  obtain ⟨new, read, content⟩ :=
    readNamedFrame_body restorable [] [] (DataFrame.body_fits fits)
  rw [List.append_nil] at read
  exact ⟨new, congrArg Prod.fst read, content⟩

/-- The bytes around a frame that can be restored make no difference. -/
theorem readFrame_eq_received {factory : DataFramesFactory} {frame : DataFrame}
    (restorable : frame.Restorable factory) (front rest : List UInt8)
    (fits : (front ++ (frame.image ++ rest)).length < 2147483648) :
    factory.readFrame (.between front (frame.image ++ rest)) =
      (factory.received frame, .between (front ++ frame.image) rest) := by
  have alone : frame.image.length < 2147483648 := by
    simp only [List.length_append] at fits
    omega
  obtain ⟨new, read, content⟩ := readFrame_image restorable front rest fits
  obtain ⟨other, received, also⟩ := received_of_restorable restorable alone
  have start : new.AtStart := atStart_of_readFrame (congrArg Prod.fst read)
  -- Both frames are as the factory returns them, and carry the same.
  rw [read, received, start.eq_of_content (atStart_of_readNamedFrame received)
    (content.trans also.symm)]

/-- No frame is made of a name that is not known. -/
theorem readNamedFrame_unknown {factory : DataFramesFactory} {frame : DataFrame}
    (nulFree : (0 : UInt16) ∉ frame.name) (encodable : Windows1251.Encodable frame.name)
    (unknown : factory.buildFrameByKey frame.name = none) (front rest : List UInt8)
    (fits : (front ++ (frame.body ++ rest)).length < 2147483648) :
    (factory.readNamedFrame (.between front (frame.body ++ rest))).1 = none := by
  simp only [DataFrame.body, List.append_assoc] at fits ⊢
  have named := (StreamImage.string nulFree encodable).read [] front
    (frame.capacityImage ++ (DataFrame.atomsImage frame.atoms ++ rest)) (by simpa using fits)
  simp only [List.append_assoc] at named
  simp only [readNamedFrame, named, if_true, unknown]

/-- A frame whose name is not known is read as null. -/
theorem readFrame_unknown {factory : DataFramesFactory} {frame : DataFrame}
    (nulFree : (0 : UInt16) ∉ frame.name) (encodable : Windows1251.Encodable frame.name)
    (unknown : factory.buildFrameByKey frame.name = none) (front rest : List UInt8)
    (fits : (front ++ (frame.image ++ rest)).length < 2147483648) :
    (factory.readFrame (.between front (frame.image ++ rest))).1 = none := by
  simp only [DataFrame.image, List.append_assoc] at fits ⊢
  have sized := DataStream.readFixed_between frame.size (0 : UInt32) fits
  have named := readNamedFrame_unknown nulFree encodable unknown
    (front ++ FixedWidth.toBytes frame.size) rest (by simpa using fits)
  simp only [readFrame, sized, if_true, named]

variable {definitions : DataFramesDefinitions}

/-- Nothing is built for a name that the reader does not know. -/
theorem buildFrameByKey_unknown {frame : DataFrame} (unknown : frame.known definitions = false) :
    (init definitions).buildFrameByKey frame.name = none := by
  have absent : definitions.definitionByKey frame.name = none :=
    Option.not_isSome_iff_eq_none.mp (Bool.eq_false_iff.mp unknown)
  simp only [buildFrameByKey, init, absent, Option.map_none]

/-- The loop reads the frames before the first one of an unknown name, and ends there. -/
theorem ends_serialised {frames : List DataFrame}
    (serialised : ∀ frame ∈ frames, frame.Serialised definitions) (front : List UInt8)
    (fits : (front ++ frames.flatMap DataFrame.image).length < 2147483648) :
    ∃ last, Loop.Ends (init definitions).turn (.between front (frames.flatMap DataFrame.image))
      ((frames.takeWhile (DataFrame.known definitions)).filterMap (init definitions).received)
      last := by
  -- Induction on the frames: each turn reads one of them, unless its name is unknown.
  induction frames generalizing front with
  | nil => exact ⟨_, .stop (by simp [turn])⟩
  | cons frame frames ih =>
    obtain ⟨first, others⟩ := List.forall_mem_cons.mp serialised
    simp only [List.flatMap_cons] at fits ⊢
    have ahead : (DataStream.between front
        (frame.image ++ frames.flatMap DataFrame.image)).endOfData = false := by
      simp [frame.image_ne_nil]
    cases known : frame.known definitions with
    | true =>
      have restorable := first.restorable known
      have read := readFrame_eq_received restorable front _ fits
      obtain ⟨new, received, _⟩ := received_of_restorable restorable
        (by simp only [List.length_append] at fits; omega)
      rw [received] at read
      obtain ⟨last, later⟩ := ih others (front ++ frame.image) (by simpa using fits)
      rw [List.takeWhile_cons_of_pos known, List.filterMap_cons_some received]
      exact ⟨last, .turn (turn_eq_some_iff.mpr ⟨ahead, read⟩) later⟩
    | false =>
      obtain ⟨factory, definition, atoms, written⟩ := first.restorableAs
      have read := readFrame_unknown (written.name_eq ▸ written.nameNulFree)
        (written.name_eq ▸ written.nameEncodable) (buildFrameByKey_unknown known) front _ fits
      rw [List.takeWhile_cons_of_neg (Bool.eq_false_iff.mp known)]
      refine ⟨_, .stop ?_⟩
      rw [Option.eq_none_iff_forall_ne_some]
      rintro ⟨new, after⟩ turned
      rw [(turn_eq_some_iff.mp turned).2] at read
      cases read

/-- `readFrames` returns the frames before the first one of an unknown name. -/
theorem readFrames_serialised {frames : List DataFrame}
    (serialised : ∀ frame ∈ frames, frame.Serialised definitions)
    (fits : (frames.flatMap DataFrame.image).length < 2147483648) :
    (init definitions).readFrames (frames.flatMap DataFrame.image) =
      some ((frames.takeWhile (DataFrame.known definitions)).filterMap
        (init definitions).received) := by
  obtain ⟨last, ends⟩ := ends_serialised serialised [] fits
  refine readFrames_of_ends ends ?_
  -- There are turns enough for all frames.
  have few := List.length_filterMap_le (init definitions).received
    (frames.takeWhile (DataFrame.known definitions))
  have shorter := (List.takeWhile_prefix (l := frames) (DataFrame.known definitions)).length_le
  exact Nat.le_trans few (Nat.le_trans shorter (DataFrame.length_le_images frames))

/-- A frame is received exactly if the factory knows its name, and then with its definition. -/
theorem received_cases {frame : DataFrame} (serialised : frame.Serialised definitions)
    (fits : frame.image.length < 2147483648) :
    (frame.known definitions = false ∧ (init definitions).received frame = none) ∨
      ∃ new : DataFrame, frame.known definitions = true ∧
        (init definitions).received frame = some new ∧ new.content = frame.content := by
  -- A known name leads to its definition, and with an unknown one there is nothing to build.
  cases known : frame.known definitions with
  | true =>
    obtain ⟨new, received, content⟩ := received_of_restorable (serialised.restorable known) fits
    exact .inr ⟨new, rfl, received, content⟩
  | false =>
    obtain ⟨factory, definition, atoms, written⟩ := serialised.restorableAs
    have unknown := readNamedFrame_unknown (written.name_eq ▸ written.nameNulFree)
      (written.name_eq ▸ written.nameEncodable) (buildFrameByKey_unknown known) [] []
      (DataFrame.body_fits fits)
    rw [List.append_nil] at unknown
    exact .inl ⟨rfl, unknown⟩

/-- What is received has the name of the frame. -/
theorem name_of_received {frame new : DataFrame} (serialised : frame.Serialised definitions)
    (fits : frame.image.length < 2147483648)
    (made : (init definitions).received frame = some new) : new.name = frame.name := by
  -- The name is that of the definition, which is carried over.
  rcases received_cases serialised fits with ⟨_, none⟩ | ⟨found, _, some, content⟩
  · rw [none] at made
    cases made
  · rw [some] at made
    cases made
    have definition : new.definition = frame.definition := congrArg Prod.fst content
    simp only [DataFrame.name, definition]

variable [QtUtf8]

/-- The block of a frame is taken for one exactly if its name begins visibly. -/
theorem startsBadly_rawBlock {frame : DataFrame} (encodable : Windows1251.Encodable frame.name) :
    DataFrameRawData.startsBadly (frame.rawBlock.buffer.headD 0) = !frame.beginsVisibly := by
  -- An empty name leaves the zero behind it at the front, which is not visible.
  obtain ⟨rest, taken⟩ := frame.take_body
  have buffer : frame.rawBlock.buffer = Windows1251.fromUnicode frame.name ++ 0 :: rest := taken
  rw [buffer, DataFrame.beginsVisibly]
  cases name : frame.name with
  | nil => rfl
  | cons unit others =>
    rw [name] at encodable
    have first := Windows1251.encodeUnit_visible_iff (List.cons.inj encodable).1
    rw [← DataFrameRawData.startsBadly_eq_false_iff] at first
    show DataFrameRawData.startsBadly (Windows1251.encodeUnit unit) =
      !decide (0x20 < unit ∧ unit < 0x80)
    cases bad : DataFrameRawData.startsBadly (Windows1251.encodeUnit unit) with
    | false =>
      rw [decide_eq_true (first.mp bad)]
      rfl
    | true =>
      have hidden : ¬ (0x20 < unit ∧ unit < 0x80) := fun visible =>
        Bool.noConfusion ((first.mpr visible).symm.trans bad)
      rw [decide_eq_false hidden]
      rfl

/-- A frame that is taken for one is read from its block as it is read from its own bytes. -/
theorem readFrameRawData_rawBlock {factory : DataFramesFactory} {frame : DataFrame}
    (counted : frame.declaredSize = frame.body.length) (fits : frame.image.length < 2147483648) :
    factory.readFrameRawData (.ofBlock frame.rawBlock.buffer frame.rawBlock.length) =
      factory.received frame := by
  -- The block holds all bytes behind the size, and its length is that size.
  have whole : frame.rawBlock.buffer = frame.body := by
    show frame.body.take frame.declaredSize = frame.body
    rw [counted, List.take_length]
  have size : frame.rawBlock.length.toNat = frame.body.length :=
    (DataFrame.size_toNat_of_fits fits).trans counted
  let array := frame.rawBlock.buffer.take frame.rawBlock.length.toNat
  show (factory.readNamedFrame (.ofData array)).1 = factory.received frame
  rw [show array = frame.rawBlock.buffer.take _ from rfl, size, whole, List.take_length, received]

/-- The other way to decode returns what is received of the frames that begin visibly. -/
theorem readParsed_serialised {frames : List DataFrame}
    (serialised : ∀ frame ∈ frames, frame.Serialised definitions)
    (fits : (frames.flatMap DataFrame.image).length < 2147483648) :
    (init definitions).readParsed (frames.flatMap DataFrame.image) =
      some ((frames.filter DataFrame.beginsVisibly).filterMap (init definitions).received) := by
  have short (frame : DataFrame) (member : frame ∈ frames) : frame.image.length < 2147483648 :=
    Nat.lt_of_le_of_lt (DataFrame.image_length_le member) fits
  -- The data are the blocks of the frames, of which some are taken for frames again.
  have blocks : frames.flatMap DataFrame.image =
      DataFrameRawData.images (frames.map DataFrame.rawBlock) := by
    rw [DataFrameRawData.images, List.flatMap_map]
    exact List.flatMap_congr fun frame member =>
      DataFrame.image_eq_rawBlock (serialised frame member).no_guid
  have sized : ∀ raw ∈ frames.map DataFrame.rawBlock, raw.Sized := by
    intro raw member
    obtain ⟨frame, inside, rfl⟩ := List.mem_map.mp member
    exact DataFrame.rawBlock_sized (short frame inside)
  have parsed := DataFrameRawData.parse_blocks sized (blocks ▸ fits)
  rw [← blocks] at parsed
  simp only [readParsed, parsed, List.filterMap_filter, List.filterMap_map]
  congr 1
  -- It remains to compare what is made of each frame by itself.
  refine List.filterMap_congr fun frame member => ?_
  obtain ⟨factory, definition, atoms, written⟩ := (serialised frame member).restorableAs
  have starts := startsBadly_rawBlock (written.name_eq ▸ written.nameEncodable)
  have read : (init definitions).readFrameRawData _ = _ := readFrameRawData_rawBlock
    (DataFrame.declaredSize_eq_body (serialised frame member).no_guid) (short frame member)
  simp only [Function.comp_apply, DataFrameRawData.rebuilt, starts]
  cases visible : frame.beginsVisibly with
  | false => rfl
  | true => exact read

omit [QtText] [QtUtf8]

/-- A table with a frame whose name is a letter of the upper half of the code page. -/
def letterDefinitions : DataFramesDefinitions :=
  ⟨[([0x042F], ⟨[0x042F], false, 1, false, 0, []⟩)]⟩

/-- The frame that consists of this name. -/
def letterFrame : DataFrame := ⟨some ⟨[0x042F], false, 1, false, 0, []⟩, [], 1, 0, 0⟩

theorem notesFrame_serialised : @DataFrame.Serialised .ascii notesDefinitions notesFrame := by
  refine ⟨notesDefinitions, notesDefinition, notesFrame_filledFrom, ?_⟩
  intro other found
  cases found
  rfl

/-- A frame of a table that the reader does not have. -/
theorem pingFrame_serialised : @DataFrame.Serialised .ascii notesDefinitions DataFrame.pingFrame := by
  let _ := QtText.ascii
  have filled : DataFrame.pingFrame.FilledFrom DataFrame.alarmDefinitions DataFrame.pingDefinition :=
    ⟨by decide, nofun, .buildFrame, by decide, by decide, nofun, fun _ => rfl, nofun⟩
  refine ⟨_, _, filled, ?_⟩
  intro other found
  cases found

/-- A name that the code page has is not enough for `parse`. -/
theorem letterFrame_serialised : @DataFrame.Serialised .ascii letterDefinitions letterFrame := by
  let _ := QtText.ascii
  have filled : letterFrame.FilledFrom letterDefinitions ⟨[0x042F], false, 1, false, 0, []⟩ :=
    ⟨by decide, nofun, .buildFrame, by decide, by decide, nofun, fun _ => rfl, nofun⟩
  refine ⟨_, _, filled, ?_⟩
  intro other found
  cases found
  rfl

end DataFramesFactory

end Threader
