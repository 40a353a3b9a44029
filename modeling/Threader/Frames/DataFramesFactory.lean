import Threader.Base.Loop
import Threader.Frames.DataFrames

/-! `DataFramesFactory`: frames built from their definitions, and read one after another. -/

namespace Threader

/-- `DataFramesFactory`: the table of definitions, if any, and the registered atom types. -/
structure DataFramesFactory where
  definitions : Option DataFramesDefinitions
  registry : List (QString × AtomType)

namespace DataFramesFactory

/-- `initializeAtomsStorage()`: the registered types under their names in lower case. -/
def initializeAtomsStorage : List (QString × AtomType) :=
  [(.ofAscii "boolean", .boolean), (.ofAscii "uint8", .uint8), (.ofAscii "int8", .int8),
    (.ofAscii "uint16", .uint16), (.ofAscii "int16", .int16), (.ofAscii "uint32", .uint32),
    (.ofAscii "int32", .int32), (.ofAscii "uint64", .uint64), (.ofAscii "int64", .int64),
    (.ofAscii "single", .single), (.ofAscii "double", .double), (.ofAscii "string", .string),
    (.ofAscii "datetime", .dateTime), (.ofAscii "guid", .guid), (.ofAscii "bytearray", .byteArray)]

/-- `init(definitions)`: a factory over a table owned by someone else. -/
def init (definitions : DataFramesDefinitions) : DataFramesFactory :=
  ⟨some definitions, initializeAtomsStorage⟩

variable [QtText]

/-- `atomByDefinition(definition)`: null for a type that is not registered. -/
def atomByDefinition (factory : DataFramesFactory) (definition : DataAtomDefinition) :
    Option AbstractDataAtom :=
  (factory.registry.lookup definition.atomType).map fun type => .clone type definition

/-- `buildFrame(definition)`: a frame with one fresh atom for each atom definition. -/
def buildFrame (factory : DataFramesFactory) (definition : DataFrameDefinition) : DataFrame where
  definition := some definition
  atoms := definition.atoms.map factory.atomByDefinition
  capacity := 1
  currentIndex := 0
  packetId := 0

/-- `buildFrame(key)`: null without a table or without a definition of that name. -/
def buildFrameByKey (factory : DataFramesFactory) (key : QString) : Option DataFrame :=
  match factory.definitions with
  | none => none
  | some definitions => (definitions.definitionByKey key).map factory.buildFrame

/-- The part of `readFrame` behind the size field: the name, and a frame of that name. -/
def readNamedFrame (factory : DataFramesFactory) (stream : DataStream) :
    Option DataFrame × DataStream :=
  let named := StreamValue.read ([] : QString) stream
  if named.1 then
    match factory.buildFrameByKey named.2.1 with
    | some frame =>
      let result := frame.read named.2.2
      (if result.1 then some result.2.1 else none, result.2.2)
    | none => (none, named.2.2)
  else (none, named.2.2)

/-- `readFrame(stream)`: the frame or null, with the cursor where the next frame should start. -/
def readFrame (factory : DataFramesFactory) (stream : DataStream) : Option DataFrame × DataStream :=
  let frameStart := stream.position
  let sized := DataStream.readFixed (0 : UInt32) stream
  let result := if sized.1 then factory.readNamedFrame sized.2.2 else (none, sized.2.2)
  -- The declared size is added in 64 bits, cast to an int, and added to the start as an int.
  let frameEnd := frameStart + MachineInt.toInt32 (sized.2.1.toNat + 4)
  (result.1, result.2.setPosition (MachineInt.toInt32 frameEnd))

/-- At most `fuel` turns of the loop of `readFrames`, or nothing when it needs more. -/
def readFramesWithin (factory : DataFramesFactory) : Nat → DataStream → Option (List DataFrame)
  | 0, _ => none
  | fuel + 1, stream =>
    if stream.endOfData then some []
    else
      match factory.readFrame stream with
      | (none, _) => some []
      | (some frame, stream) => (factory.readFramesWithin fuel stream).map (frame :: ·)

/--
`readFrames(data)`: frames are read until the data end or one of them cannot be read.

The state of the loop is the cursor alone.
A run of more turns than there are cursor positions repeats one of them, and never ends.
-/
def readFrames (factory : DataFramesFactory) (data : QByteArray) : Option (List DataFrame) :=
  factory.readFramesWithin (data.length + 1) (.ofData data)

/-- A turn of the loop of `readFrames`, which yields a frame unless it ends the loop. -/
def turn (factory : DataFramesFactory) (stream : DataStream) : Option (DataFrame × DataStream) :=
  if stream.endOfData then none
  else
    match factory.readFrame stream with
    | (none, _) => none
    | (some frame, stream) => some (frame, stream)

/-- A turn yields the frame that is read unless the data have ended. -/
theorem turn_eq_some_iff {factory : DataFramesFactory} {stream after : DataStream}
    {frame : DataFrame} : factory.turn stream = some (frame, after) ↔
      stream.endOfData = false ∧ factory.readFrame stream = (some frame, after) := by
  -- At the end of the data no frame is read any more.
  unfold turn
  split
  · rename_i ended
    simp [ended]
  · rename_i more
    cases read : factory.readFrame stream with
    | mk result next =>
      cases result with
      | none => simp
      | some result => simp [more, Prod.ext_iff]

/-- The bounded loop takes the same turns. -/
theorem readFramesWithin_eq (factory : DataFramesFactory) (fuel : Nat) (stream : DataStream) :
    factory.readFramesWithin fuel stream = Loop.within factory.turn fuel stream := by
  induction fuel generalizing stream with
  | zero => rfl
  | succ fuel ih =>
    -- Both loops stop at the end of the data and at a frame that cannot be read.
    cases turned : factory.turn stream with
    | none =>
      simp only [Loop.within, turned, readFramesWithin]
      split
      · rfl
      · rename_i more
        split
        · rfl
        · rename_i frame after read
          have goes := turn_eq_some_iff.mpr ⟨by simpa using more, read⟩
          rw [turned] at goes
          cases goes
    | some result =>
      obtain ⟨more, read⟩ := turn_eq_some_iff.mp turned
      simp only [Loop.within, turned, readFramesWithin, more, Bool.false_eq_true, if_false, read, ih]

/-- A list of frames at whose end no frame is left is what `readFrames` returns. -/
theorem readFrames_of_ends {factory : DataFramesFactory} {data : QByteArray}
    {frames : List DataFrame} {last : DataStream}
    (ends : Loop.Ends factory.turn (.ofData data) frames last)
    (enough : frames.length ≤ data.length) : factory.readFrames data = some frames := by
  rw [readFrames, readFramesWithin_eq]
  exact ends.within (Nat.lt_succ_of_le enough)

end DataFramesFactory

end Threader
