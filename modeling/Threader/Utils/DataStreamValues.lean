import Threader.Base.FixedWidth
import Threader.Qt.Text
import Threader.Utils.DataStream

/-! The typed reads and writes of `DataStream`, and the stream image of each kind of value. -/

namespace Threader

/-- What the specialisations of `DataStream::read` and `DataStream::write` do for one type. -/
class StreamValue (α : Type) where
  /-- A default-constructed value. -/
  empty : α
  /-- `read(T &value)`: whether it succeeded, the value afterwards, and the stream afterwards. -/
  read : α → DataStream → Bool × α × DataStream
  /-- `write(const T &value)`. -/
  write : α → DataStream → Bool × DataStream
  /-- The number of bytes one value counts for in the size of its atom. -/
  size : α → Nat

namespace DataStream

/-- `indexOf(char c)`: searches from the cursor on. -/
def indexOf (stream : DataStream) (byte : UInt8) : Int :=
  match stream.data with
  | none => -1
  | some data => data.indexOfByte byte stream.position

/-- `read<QString>`: reads up to a NUL, or up to the end of the data without one. -/
def readString (stream : DataStream) : QString × DataStream :=
  let found := stream.indexOf 0
  let stringTail := if found = -1 then stream.size - 1 else found
  let size := stringTail - stream.position + 1
  if size + 1 > 0 then
    -- The bytes are appended as a C string, so they count up to their first NUL.
    let raw := QByteArray.cString (stream.bytesAtCursor size.toNat)
    (Windows1251.toUnicode raw, stream.setPosition (stream.position + size))
  else
    let stream := stream.setPosition (stream.position + 1)
    ([], stream.setPosition (stream.position + size))

/-- `write<QString>`: the encoded text and a NUL behind it. -/
def writeString (stream : DataStream) (value : QString) : Bool × DataStream :=
  andThen (stream.writeRaw (Windows1251.fromUnicode value)) fun stream => stream.writeRaw [0]

/-- `read<T>` of a type copied to and from memory as it is. -/
def readFixed {α : Type} [FixedWidth α] (old : α) (stream : DataStream) : Bool × α × DataStream :=
  match stream.readRaw (FixedWidth.width α) with
  | (none, stream) => (false, old, stream)
  | (some bytes, stream) => (true, FixedWidth.ofBytes bytes, stream)

/-- `read<QByteArray>`: a length and as many bytes as it says or the data still has. -/
def readByteArray (old : QByteArray) (stream : DataStream) : Bool × QByteArray × DataStream :=
  let sized := readFixed (0 : UInt32) stream
  let stream := sized.2.2
  if !sized.1 then (false, old, stream)
  else if sized.2.1 = 0 then (true, [], stream)
  else
    let tailSize := stream.size - stream.position
    if tailSize ≤ 0 then (false, [], stream)
    else
      let valueSize := if tailSize < sized.2.1.toNat then tailSize.toNat else sized.2.1.toNat
      (true, stream.bytesAtCursor valueSize, stream.setPosition (stream.position + valueSize))

/-- `write<QByteArray>`: the length as 32 bits and the bytes behind it. -/
def writeByteArray (stream : DataStream) (value : QByteArray) : Bool × DataStream :=
  andThen (stream.writeRaw (FixedWidth.toBytes (UInt32.ofNat value.length)))
    fun stream => stream.writeRaw value

end DataStream

/-- The types copied to and from the stream as they lie in memory. -/
instance {α : Type} [FixedWidth α] [Inhabited α] : StreamValue α where
  empty := default
  read := DataStream.readFixed
  write value stream := stream.writeRaw (FixedWidth.toBytes value)
  size _ := FixedWidth.width α

instance : StreamValue QString where
  empty := []
  read _ stream := (true, stream.readString.1, stream.readString.2)
  write value stream := stream.writeString value
  size value := value.length + 1

instance : StreamValue QByteArray where
  empty := []
  read := DataStream.readByteArray
  write value stream := stream.writeByteArray value
  size value := value.length + 4

/-- The sixteen bytes of a `QUuid`, in the order of RFC 4122. -/
abbrev QUuid := Vector UInt8 16

/-- `QUuid::fromRfc4122`: the null identifier unless there are sixteen bytes. -/
def QUuid.fromRfc4122 (bytes : QByteArray) : QUuid :=
  if exact : bytes.length = 16 then ⟨bytes.toArray, by simpa using exact⟩ else Vector.replicate 16 0

instance : StreamValue QUuid where
  empty := Vector.replicate 16 0
  read old stream :=
    -- The identifier travels as a byte array with a length in front.
    let read := DataStream.readByteArray (List.replicate 16 0) stream
    (read.1, if read.1 then QUuid.fromRfc4122 read.2.1 else old, read.2.2)
  write value stream := stream.writeByteArray value.toList
  size _ := 16

instance [QtText] : StreamValue QDateTime where
  empty := none
  read _ stream :=
    -- A failed read converts the zero the number was initialised with.
    let read := DataStream.readFixed (0 : UInt64) stream
    (read.1, QtText.dateTimeOfDouble read.2.1, read.2.2)
  write value stream := stream.writeRaw (FixedWidth.toBytes (QtText.dateTimeToDouble value))
  size _ := 8

namespace DataStream

theorem readFixed_of_readRaw {α : Type} [FixedWidth α] {old : α} {stream after : DataStream}
    {bytes : List UInt8} (read : stream.readRaw (FixedWidth.width α) = (some bytes, after)) :
    readFixed old stream = (true, FixedWidth.ofBytes bytes, after) := by
  simp only [readFixed, read]

@[simp] theorem readFixed_data {α : Type} [FixedWidth α] (old : α) (stream : DataStream) :
    (readFixed old stream).2.2.data = stream.data := by
  have raw := readRaw_data stream (FixedWidth.width α)
  unfold readFixed
  split <;> simp_all

@[simp] theorem readString_data (stream : DataStream) : stream.readString.2.data = stream.data := by
  unfold readString
  dsimp only
  generalize (if stream.indexOf 0 = -1 then stream.size - 1 else stream.indexOf 0) = stringTail
  split <;> simp

@[simp] theorem readByteArray_data (old : QByteArray) (stream : DataStream) :
    (readByteArray old stream).2.2.data = stream.data := by
  unfold readByteArray
  dsimp only
  repeat' split
  all_goals simp

/-- A text is written with its NUL. -/
theorem writes_string (value : QString) :
    Writes (·.writeString value) (Windows1251.fromUnicode value ++ [0]) :=
  (Writes.raw _).andThen (Writes.raw _)

/-- A byte array is written with its length in front. -/
theorem writes_byteArray (value : QByteArray) :
    Writes (·.writeByteArray value) (FixedWidth.toBytes (UInt32.ofNat value.length) ++ value) :=
  (Writes.raw _).andThen (Writes.raw _)

/-- A value ahead of the cursor is read back, and the cursor moves over it. -/
theorem readFixed_between {α : Type} [FixedWidth α] (value old : α) {front rest : List UInt8}
    (fits : (front ++ (FixedWidth.toBytes value ++ rest)).length < 2147483648) :
    readFixed old (between front (FixedWidth.toBytes value ++ rest)) =
      (true, value, between (front ++ FixedWidth.toBytes value) rest) := by
  -- The raw read takes as many bytes as the image of the value has.
  have read := readRaw_between rest (FixedWidth.toBytes_ne_nil value) fits
  rw [FixedWidth.toBytes_length] at read
  rw [readFixed_of_readRaw read, FixedWidth.ofBytes_toBytes]

/-- A string ahead of the cursor is read up to its NUL, and the cursor moves behind that. -/
theorem readString_between {value : QString} (nulFree : (0 : UInt16) ∉ value)
    (encodable : Windows1251.Encodable value) (front rest : List UInt8) :
    (between front (Windows1251.fromUnicode value ++ [0] ++ rest)).readString =
      (value, between (front ++ (Windows1251.fromUnicode value ++ [0])) rest) := by
  -- The search stops at the NUL that was written, because the text has none of its own.
  have clean := Windows1251.zero_notMem_fromUnicode nulFree
  have index : (between front (Windows1251.fromUnicode value ++ [0] ++ rest)).indexOf 0 =
      front.length + value.length := by
    simpa [indexOf, between] using QByteArray.indexOfByte_append front clean rest
  -- What is taken from the cursor is the text with its NUL, which the C string drops again.
  have taken : QByteArray.cString ((between front
      (Windows1251.fromUnicode value ++ [0] ++ rest)).bytesAtCursor (value.length + 1)) =
      Windows1251.fromUnicode value := by
    have text : ∀ byte ∈ Windows1251.fromUnicode value, (byte != 0) = true := fun byte member => by
      simpa using fun zero : byte = 0 => clean (zero ▸ member)
    have width : value.length + 1 = (Windows1251.fromUnicode value ++ [0]).length := by simp
    simp only [bytesAtCursor, between, Option.getD_some, Int.toNat_natCast, List.drop_left, width,
      List.take_left, QByteArray.cString]
    rw [List.takeWhile_append_of_pos text]
    simp
  have position : (between front (Windows1251.fromUnicode value ++ [0] ++ rest)).position =
      front.length := rfl
  have size : (front.length + value.length : Int) - front.length + 1 = (value.length + 1 : Nat) := by
    omega
  have found : ¬ (front.length + value.length : Int) = -1 := by omega
  have some : ((value.length + 1 : Nat) : Int) + 1 > 0 := by omega
  simp only [readString, index, if_neg found, position, size, if_pos some, Int.toNat_natCast, taken]
  -- The cursor moves over the text and its NUL.
  have moved := between_setPosition front (Windows1251.fromUnicode value ++ [0]) rest
  simp only [List.length_append, Windows1251.fromUnicode_length, List.length_singleton] at moved
  rw [moved, show Windows1251.toUnicode (Windows1251.fromUnicode value) = value from encodable]

end DataStream

/-- An identifier is written as a byte array of sixteen bytes. -/
theorem QUuid.writes (value : QUuid) :
    DataStream.Writes (StreamValue.write value)
      (FixedWidth.toBytes (16 : UInt32) ++ value.toList) := by
  have written := DataStream.writes_byteArray value.toList
  rwa [Vector.length_toList] at written

theorem QUuid.image_length (value : QUuid) :
    (FixedWidth.toBytes (16 : UInt32) ++ value.toList).length = 20 := by
  rw [List.length_append, FixedWidth.toBytes_length, Vector.length_toList]
  rfl

/--
A run of bytes is the stream image of a value when writing produces it and reading undoes that.

The image is also as wide as the value says.
-/
structure StreamImage {α : Type} [StreamValue α] (value : α) (image : List UInt8) : Prop where
  write : ∀ data, StreamValue.write value (DataStream.atEnd data) =
    (true, DataStream.atEnd (data ++ image))
  read : ∀ old front rest, (front ++ (image ++ rest)).length < 2147483648 →
    StreamValue.read old (DataStream.between front (image ++ rest)) =
      (true, value, DataStream.between (front ++ image) rest)
  width : image.length = StreamValue.size value

/-- A value copied from memory is its own image. -/
theorem StreamImage.fixedWidth {α : Type} [FixedWidth α] [Inhabited α] (value : α) :
    StreamImage value (FixedWidth.toBytes value) where
  write data := DataStream.writeRaw_atEnd data _
  read old _ _ fits := DataStream.readFixed_between value old fits
  width := FixedWidth.toBytes_length value

/-- The image of a text that the code page can express is its encoding with a NUL behind it. -/
theorem StreamImage.string {value : QString} (nulFree : (0 : UInt16) ∉ value)
    (encodable : Windows1251.Encodable value) :
    StreamImage value (Windows1251.fromUnicode value ++ [0]) where
  write := (DataStream.writes_string value).atEnd
  read _ front rest _ := by
    simp only [StreamValue.read, DataStream.readString_between nulFree encodable]
  width := by simp [StreamValue.size]

/-- The image of a byte array is its length followed by its bytes. -/
theorem StreamImage.byteArray (value : QByteArray) :
    StreamImage value (FixedWidth.toBytes (UInt32.ofNat value.length) ++ value) where
  write := (DataStream.writes_byteArray value).atEnd
  read old front rest bound := by
    have bound : (front ++ (FixedWidth.toBytes (UInt32.ofNat value.length) ++ (value ++ rest))).length
        < 2147483648 := by simpa using bound
    -- What is read fits the stream, so the length field did not wrap around.
    have fits : value.length < 4294967296 := by
      simp only [List.length_append] at bound
      omega
    simp only [StreamValue.read, List.append_assoc, DataStream.readByteArray,
      DataStream.readFixed_between _ _ bound, Bool.not_true, Bool.false_eq_true, if_false]
    -- An empty array is recognised by its length, before the rest of the data is looked at.
    by_cases empty : value = []
    · subst empty
      simp
    · have length : (UInt32.ofNat value.length).toNat = value.length := by
        simpa using Nat.mod_eq_of_lt fits
      -- Otherwise the length is exact, and as many bytes are there as it announces.
      have positive := List.length_pos_iff.mpr empty
      have nonzero : ¬ UInt32.ofNat value.length = 0 := fun zero => by
        rw [zero, UInt32.toNat_zero] at length
        omega
      simp only [if_neg nonzero, DataStream.between_size, DataStream.between_position, length]
      rw [if_neg (by simp only [List.length_append]; omega),
        if_neg (by simp only [List.length_append]; omega), DataStream.bytesAtCursor_between,
        DataStream.between_setPosition, List.append_assoc]
  width := by
    have width : (FixedWidth.toBytes (UInt32.ofNat value.length)).length = 4 :=
      FixedWidth.toBytes_length _
    simp only [List.length_append, width, StreamValue.size]
    omega

end Threader
