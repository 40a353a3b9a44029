import Threader.Frames.DataFramesFactory

/-! When the loop of `readFrames` moves on, and so ends, for the sizes that frames declare. -/

namespace Threader

variable [QtText]

/-- Reading a value of any type leaves the array alone. -/
theorem AtomType.read_data (type : AtomType) (old : type.Value) (stream : DataStream) :
    (StreamValue.read old stream).2.2.data = stream.data := by
  -- The values are copied from memory, or are texts and byte arrays, or are read as one of these.
  cases type with
  | string => exact DataStream.readString_data stream
  | guid => exact DataStream.readByteArray_data _ stream
  | byteArray => exact DataStream.readByteArray_data old stream
  | dateTime => exact DataStream.readFixed_data (0 : UInt64) stream
  | boolean => exact DataStream.readFixed_data (α := Bool) old stream
  | uint8 => exact DataStream.readFixed_data (α := UInt8) old stream
  | int8 => exact DataStream.readFixed_data (α := Int8) old stream
  | uint16 => exact DataStream.readFixed_data (α := UInt16) old stream
  | int16 => exact DataStream.readFixed_data (α := Int16) old stream
  | uint32 => exact DataStream.readFixed_data (α := UInt32) old stream
  | int32 => exact DataStream.readFixed_data (α := Int32) old stream
  | uint64 => exact DataStream.readFixed_data (α := UInt64) old stream
  | int64 => exact DataStream.readFixed_data (α := Int64) old stream
  | single => exact DataStream.readFixed_data (α := UInt32) old stream
  | double => exact DataStream.readFixed_data (α := UInt64) old stream

/-- Reading an atom leaves the array alone. -/
theorem AbstractDataAtom.read_data (atom : AbstractDataAtom) (stream : DataStream) :
    (atom.read stream).2.2.data = stream.data := by
  obtain ⟨type, base⟩ := atom
  show (BaseDataAtom.readValues base.clear.valuesVector stream).2.2.data = stream.data
  -- Induction on the values, each of which is read behind the one before it.
  induction base.clear.valuesVector generalizing stream with
  | nil => rfl
  | cons value values ih =>
    have first := type.read_data value stream
    simp only [BaseDataAtom.readValues]
    split
    · exact (ih _).trans first
    · exact first

namespace DataFrame

theorem readAtoms_data (atoms : List (Option AbstractDataAtom)) (stream : DataStream) :
    (readAtoms atoms stream).2.2.data = stream.data := by
  -- Each atom only moves the cursor.
  induction atoms generalizing stream with
  | nil => rfl
  | cons atom atoms ih =>
    cases atom with
    | none => rfl
    | some atom =>
      have first := atom.read_data stream
      simp only [readAtoms]
      split
      · exact (ih _).trans first
      · exact first

/-- Reading a frame leaves the array alone. -/
theorem read_data (frame : DataFrame) (stream : DataStream) :
    (frame.read stream).2.2.data = stream.data := by
  -- The capacity is read first, and then the atoms.
  have header : (frame.readCapacity stream).2.2.data = stream.data := by
    unfold readCapacity
    split
    · exact DataStream.readFixed_data _ stream
    · rfl
  unfold read
  dsimp only
  split
  · exact (readAtoms_data _ _).trans header
  · exact header

end DataFrame

namespace DataFramesFactory

/-- The size that the frame at the cursor declares for what follows its size field. -/
def declaredSize (stream : DataStream) : UInt32 := (DataStream.readFixed (0 : UInt32) stream).2.1

/-- Wherever reading a frame gets to, the cursor is then moved by the declared size. -/
theorem readFrame_snd (factory : DataFramesFactory) {data : QByteArray} {position : Int} :
    (factory.readFrame ⟨some data, position⟩).2 = ⟨some data, max 0 (min
      (MachineInt.toInt32
        (position + MachineInt.toInt32 ((declaredSize ⟨some data, position⟩).toNat + 4)))
      data.length)⟩ := by
  have named (stream : DataStream) (same : stream.data = some data) :
      (factory.readNamedFrame stream).2.data = some data := by
    have name : (StreamValue.read ([] : QString) stream).2.2.data = some data :=
      (DataStream.readString_data stream).trans same
    unfold readNamedFrame
    dsimp only
    split
    · split
      · exact (DataFrame.read_data _ _).trans name
      · exact name
    · exact name
  have sized : (DataStream.readFixed (0 : UInt32) ⟨some data, position⟩).2.2.data = some data :=
    DataStream.readFixed_data _ _
  unfold readFrame
  dsimp only
  -- Both ways of reading on leave the array alone, and the cursor is all that differs.
  split
  · exact DataStream.setPosition_eq (named _ sized) _
  · exact DataStream.setPosition_eq sized _

/-- What the frame at the cursor takes up by its own account leads on to a valid position. -/
def Advances (stream : DataStream) : Prop :=
  let width := ((declaredSize stream).toNat + 4) % 4294967296
  0 < width ∧ stream.position + width < 2147483648

/-- A cursor over the data, somewhere from the first byte to the end. -/
structure CursorOver (array : QByteArray) (stream : DataStream) : Prop where
  data : stream.data = some array
  low : 0 ≤ stream.position
  high : stream.position ≤ array.length

/-- The number of bytes behind the cursor. -/
def bytesLeft (data : QByteArray) (stream : DataStream) : Nat := (data.length - stream.position).toNat

omit [QtText] in
theorem cursorOver_ofData (data : QByteArray) : CursorOver data (.ofData data) :=
  ⟨rfl, Int.le_refl 0, Int.natCast_nonneg data.length⟩

/-- Every turn leaves the cursor where the declared size leads, within the data. -/
theorem goes_position {factory : DataFramesFactory} {data : QByteArray} {before after : DataStream}
    (cursor : CursorOver data before) (goes : Loop.Goes factory.turn before after) :
    before.position < data.length ∧ after = ⟨some data, max 0 (min
      (MachineInt.toInt32
        (before.position + MachineInt.toInt32 ((declaredSize before).toNat + 4)))
      data.length)⟩ := by
  -- A turn ends with the position being set from the size that the frame declares.
  obtain ⟨frame, turned⟩ := goes
  obtain ⟨more, read⟩ := turn_eq_some_iff.mp turned
  obtain ⟨array, position⟩ := before
  cases cursor.data
  have moved := @readFrame_snd _ factory data position
  rw [read] at moved
  exact ⟨by simpa [DataStream.endOfData] using more, moved⟩

theorem CursorOver.goes {factory : DataFramesFactory} {data : QByteArray}
    {before after : DataStream} (goes : Loop.Goes factory.turn before after)
    (cursor : CursorOver data before) : CursorOver data after := by
  obtain ⟨_, rfl⟩ := goes_position cursor goes
  exact ⟨rfl, by dsimp only; omega, by dsimp only; omega⟩

/-- A turn moves the cursor on exactly when the declared size says so without wrapping around. -/
theorem goes_iff_advances {factory : DataFramesFactory} {data : QByteArray}
    (fits : data.length < 2147483648) {before after : DataStream} (cursor : CursorOver data before)
    (goes : Loop.Goes factory.turn before after) :
    before.position < after.position ↔ Advances before := by
  obtain ⟨inside, rfl⟩ := goes_position cursor goes
  have low := cursor.low
  -- The size is added in 64 bits, and both casts to an int keep its residue.
  simp only [Advances, MachineInt.toInt32, Int.bmod_def]
  generalize (declaredSize before).toNat = size
  repeat' split
  all_goals omega

/--
The loop of `readFrames` ends, and moves on with every frame it returns, exactly when every frame
that it returns declares a size that leads on to a valid position.
-/
theorem readFrames_progress_iff (factory : DataFramesFactory) {data : QByteArray}
    (fits : data.length < 2147483648) :
    ((∃ frames last, factory.readFrames data = some frames ∧
        Loop.Ends factory.turn (.ofData data) frames last) ∧
      ∀ before after, Loop.Reaches factory.turn (.ofData data) before →
        Loop.Goes factory.turn before after → before.position < after.position) ↔
    ∀ before after, Loop.Reaches factory.turn (.ofData data) before →
      Loop.Goes factory.turn before after → Advances before := by
  have cursor (stream : DataStream) (reached : Loop.Reaches factory.turn (.ofData data) stream) :
      CursorOver data stream :=
    reached.invariant (cursorOver_ofData data) fun _ _ goes cursor => cursor.goes goes
  have agree (before after : DataStream) (reached : Loop.Reaches factory.turn (.ofData data) before)
      (goes : Loop.Goes factory.turn before after) :=
    goes_iff_advances fits (cursor before reached) goes
  constructor
  · intro progress before after reached goes
    exact (agree before after reached goes).mp (progress.2 before after reached goes)
  · intro advances
    have moves (before after : DataStream) (reached : Loop.Reaches factory.turn (.ofData data) before)
        (goes : Loop.Goes factory.turn before after) : before.position < after.position :=
      (agree before after reached goes).mpr (advances before after reached goes)
    refine ⟨?_, moves⟩
    -- The bytes behind the cursor become fewer with every turn.
    have fewer (before after : DataStream) (reached : Loop.Reaches factory.turn (.ofData data) before)
        (goes : Loop.Goes factory.turn before after) : bytesLeft data after < bytesLeft data before := by
      have inside := (goes_position (cursor before reached) goes).1
      have forward := moves before after reached goes
      simp only [bytesLeft]
      omega
    obtain ⟨frames, last, ends, length⟩ := Loop.ends_of_decreases fewer
    exact ⟨frames, last, readFrames_of_ends ends (by simpa [bytesLeft, DataStream.ofData] using length),
      ends⟩

omit [QtText]

/-- A factory that knows a frame without atoms. -/
def bareFactory : DataFramesFactory :=
  .init ⟨[(.ofAscii "T", ⟨.ofAscii "T", false, 1, false, 0, []⟩)]⟩

/-- Two frames without atoms. -/
def bareData : QByteArray := [2, 0, 0, 0, 0x54, 0, 2, 0, 0, 0, 0x54, 0]

theorem readFrames_progress_iff_bare :
    let turn := @turn .ascii bareFactory
    ((∃ frames last, @readFrames .ascii bareFactory bareData = some frames ∧
        Loop.Ends turn (.ofData bareData) frames last) ∧
      ∀ before after, Loop.Reaches turn (.ofData bareData) before →
        Loop.Goes turn before after → before.position < after.position) ↔
    ∀ before after, Loop.Reaches turn (.ofData bareData) before →
      Loop.Goes turn before after → Advances before :=
  @readFrames_progress_iff .ascii bareFactory bareData (by decide)

/-- The size field of a frame can hold a number that leads back to the frame itself. -/
theorem readFrames_progress_fails :
    ¬ ∀ [QtText] (factory : DataFramesFactory) (data : QByteArray), data.length < 2147483648 →
      (∃ frames last, Loop.Ends factory.turn (.ofData data) frames last) ∧
        ∀ before after, Loop.Reaches factory.turn (.ofData data) before →
          Loop.Goes factory.turn before after → before.position < after.position := by
  intro always
  let _ : QtText := .ascii
  let data : QByteArray := [0xFC, 0xFF, 0xFF, 0xFF, 0x54, 0x00]
  obtain ⟨⟨frames, last, ends⟩, _⟩ := always bareFactory data (by decide)
  -- The four bytes of the size field and the declared size add up to zero.
  have fixed : Loop.Goes bareFactory.turn (.ofData data) (.ofData data) := by
    have returned : (bareFactory.readFrame (.ofData data)).1.isSome := by decide
    have moved : (bareFactory.readFrame (.ofData data)).2 = .ofData data := by decide
    obtain ⟨frame, read⟩ := Option.isSome_iff_exists.mp returned
    exact ⟨frame, turn_eq_some_iff.mpr ⟨by decide, Prod.ext read moved⟩⟩
  exact Loop.not_ends_of_fixed fixed frames last ends

end DataFramesFactory

end Threader
