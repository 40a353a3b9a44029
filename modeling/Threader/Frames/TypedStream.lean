import Threader.Frames.AtomImages

/-! Values of different types that are written one after another, and read in the same order. -/

namespace Threader

/-- Some bytes ahead of the cursor are read as a value, whatever the variable held before. -/
def DataStream.ReadsAs {α : Type} [StreamValue α] (value : α) (image : List UInt8) : Prop :=
  ∀ old front rest, (front ++ (image ++ rest)).length < 2147483648 →
    StreamValue.read old (between front (image ++ rest)) =
      (true, value, between (front ++ image) rest)

/-- An identifier is read from the byte array of its sixteen bytes. -/
theorem QUuid.readsAs (value : QUuid) :
    DataStream.ReadsAs value (FixedWidth.toBytes (16 : UInt32) ++ value.toList) := by
  -- The byte array in between has the sixteen bytes that an identifier is made of.
  intro old front rest fits
  have bytes := (StreamImage.byteArray value.toList).read (List.replicate 16 0) front rest
  rw [Vector.length_toList, show UInt32.ofNat 16 = 16 from rfl] at bytes
  have read := bytes fits
  simp only [StreamValue.read] at read ⊢
  rw [read]
  have restored : QUuid.fromRfc4122 value.toList = value := by
    rw [QUuid.fromRfc4122, dif_pos Vector.length_toList]
    rfl
  simp only [if_true, restored]

namespace AtomType

/--
The values that a stream gives back as it got them.

A text has to do without NUL characters, and without those that its code page lacks.
A point in time is converted to a floating-point number, and is left out.
-/
def ReadsBack : (type : AtomType) → type.Value → Prop
  | .string, (value : QString) => (0 : UInt16) ∉ value ∧ Windows1251.Encodable value
  | .dateTime, _ => False
  | _, _ => True

/-- What is read from the image of a value is that value. -/
theorem readsAs [QtText] {type : AtomType} {value : type.Value}
    (readsBack : type.ReadsBack value) : DataStream.ReadsAs value (type.image value) := by
  -- Each type has its own image; a text and an identifier need a lemma of their own.
  cases type with
  | boolean => exact (StreamImage.fixedWidth (α := Bool) value).read
  | uint8 => exact (StreamImage.fixedWidth (α := UInt8) value).read
  | int8 => exact (StreamImage.fixedWidth (α := Int8) value).read
  | uint16 => exact (StreamImage.fixedWidth (α := UInt16) value).read
  | int16 => exact (StreamImage.fixedWidth (α := Int16) value).read
  | uint32 => exact (StreamImage.fixedWidth (α := UInt32) value).read
  | int32 => exact (StreamImage.fixedWidth (α := Int32) value).read
  | uint64 => exact (StreamImage.fixedWidth (α := UInt64) value).read
  | int64 => exact (StreamImage.fixedWidth (α := Int64) value).read
  | single => exact (StreamImage.fixedWidth (α := UInt32) value).read
  | double => exact (StreamImage.fixedWidth (α := UInt64) value).read
  | string => exact (StreamImage.string readsBack.1 readsBack.2).read
  | byteArray => exact (StreamImage.byteArray value).read
  | guid => exact QUuid.readsAs value
  | dateTime => exact readsBack.elim

end AtomType

/-- A value together with its type. -/
abbrev TypedValue := (type : AtomType) × type.Value

namespace TypedValue

variable [QtText]

/-- The bytes that values are written as, one after another. -/
def images (values : List TypedValue) : List UInt8 := values.flatMap fun value => value.1.image value.2

/-- Writes values one after another, up to the first one that cannot be written. -/
def writeAll : List TypedValue → DataStream → Bool × DataStream
  | [], stream => (true, stream)
  | value :: values, stream =>
    DataStream.andThen (StreamValue.write value.2 stream) (writeAll values)

/-- Reads into variables one after another, up to the first one that cannot be read. -/
def readAll : List TypedValue → DataStream → Bool × List TypedValue × DataStream
  | [], stream => (true, [], stream)
  | old :: olds, stream =>
    let first := StreamValue.read old.2 stream
    if first.1 then
      let later := readAll olds first.2.2
      (later.1, ⟨old.1, first.2.1⟩ :: later.2.1, later.2.2)
    else (false, ⟨old.1, first.2.1⟩ :: olds, first.2.2)

/-- Values are written as their images one after another. -/
theorem writes_all (values : List TypedValue) : DataStream.Writes (writeAll values) (images values) := by
  -- The value in front is written first, and the others behind it.
  induction values with
  | nil => exact .nothing
  | cons value values ih => exact (AtomType.writes value.2).andThen ih

/-- Values of the same types are read back from the images, whatever the variables held. -/
theorem readAll_images {values olds : List TypedValue}
    (types : olds.map Sigma.fst = values.map Sigma.fst)
    (readBack : ∀ value ∈ values, value.1.ReadsBack value.2) (front rest : List UInt8)
    (fits : (front ++ (images values ++ rest)).length < 2147483648) :
    readAll olds (.between front (images values ++ rest)) =
      (true, values, .between (front ++ images values) rest) := by
  -- The bytes in front of the cursor grow by one image at a time.
  induction values generalizing olds front with
  | nil =>
    obtain rfl := List.map_eq_nil_iff.mp types
    simp [readAll, images]
  | cons value values ih =>
    obtain ⟨old, olds, rfl, same, sameTypes⟩ := List.map_eq_cons_iff.mp types
    obtain ⟨first, others⟩ := List.forall_mem_cons.mp readBack
    obtain ⟨kind, value⟩ := value
    obtain ⟨_, old⟩ := old
    cases same
    have assoc : images (⟨kind, value⟩ :: values) ++ rest =
        kind.image value ++ (images values ++ rest) := by
      rw [images, List.flatMap_cons, List.append_assoc]
      rfl
    rw [assoc] at fits ⊢
    have read := AtomType.readsAs first old front (images values ++ rest) fits
    have later := ih sameTypes others (front ++ kind.image value) (by simpa using fits)
    simp only [readAll, read, if_true, later]
    rw [List.append_assoc]
    rfl

/--
Values that are written over a buffer from some position on are read back from there.

Reading ends where writing ended, and the bytes in front of the position stay as they were.
-/
theorem readAll_writeAll {data : QByteArray} {position : Nat} (inside : position ≤ data.length)
    {values olds : List TypedValue} (types : olds.map Sigma.fst = values.map Sigma.fst)
    (readBack : ∀ value ∈ values, value.1.ReadsBack value.2) :
    let written := writeAll values ⟨some data, position⟩
    let read := readAll olds (written.2.setPosition position)
    written.2.size < 2147483648 →
      written.1 = true ∧ read = (true, values, written.2) ∧
        ∃ after, written.2.data = some (data.take position ++ after) := by
  intro written read fits
  -- The buffer is cut where writing begins, and the cursor stands between the two parts.
  have length : (data.take position).length = position := List.length_take_of_le inside
  have start : (⟨some data, position⟩ : DataStream) =
      .between (data.take position) (data.drop position) := by
    rw [DataStream.between, List.take_append_drop, length]
  have writes : written = (true, .between (data.take position ++ images values)
      ((data.drop position).drop (images values).length)) := by
    rw [← writes_all values, ← start]
  rw [writes] at fits
  have back : written.2.setPosition position = .between (data.take position)
      (images values ++ (data.drop position).drop (images values).length) := by
    rw [writes]
    simp only [DataStream.between]
    rw [DataStream.setPosition_within (by omega) (by simp only [List.length_append]; omega),
      List.append_assoc, length]
  have reads := readAll_images types readBack (data.take position)
    ((data.drop position).drop (images values).length) (by
      rw [DataStream.between_size] at fits
      simp only [List.length_append] at fits ⊢
      omega)
  refine ⟨congrArg Prod.fst writes, ?_, ?_⟩
  · show readAll olds (written.2.setPosition position) = _
    rw [back, reads, writes]
  · rw [writes]
    exact ⟨_, congrArg some (List.append_assoc ..)⟩

omit [QtText] in
/-- A number, an empty text and an empty byte array over the last byte of three. -/
theorem readAll_writeAll_empty :
    let _ := QtText.ascii
    let values : List TypedValue :=
      [⟨.uint16, (5 : UInt16)⟩, ⟨.string, ([] : QString)⟩, ⟨.byteArray, ([] : QByteArray)⟩]
    let olds : List TypedValue :=
      [⟨.uint16, (7 : UInt16)⟩, ⟨.string, ([65] : QString)⟩, ⟨.byteArray, ([8] : QByteArray)⟩]
    let written := writeAll values ⟨some [1, 2, 3], (2 : Nat)⟩
    let read := readAll olds (written.2.setPosition (2 : Nat))
    written.1 = true ∧ read = (true, values, written.2) ∧
      ∃ after, written.2.data = some ([1, 2, 3].take 2 ++ after) := by
  let _ := QtText.ascii
  intro _ values olds
  have readBack : ∀ value ∈ values, value.1.ReadsBack value.2 := by
    simp only [values, List.forall_mem_cons]
    exact ⟨trivial, ⟨List.not_mem_nil, rfl⟩, trivial, by simp⟩
  exact readAll_writeAll (by decide) (show olds.map Sigma.fst = values.map Sigma.fst from rfl)
    readBack (by decide)

end TypedValue

end Threader
