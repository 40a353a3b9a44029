import Threader.Base.EventMachine
import Threader.Frames.TypedStream

/-! The memory that the reads of a `DataStream` copy from, over any run of operations. -/

namespace Threader

/-- A `memcpy` out of the buffer: where it starts, and how many bytes it copies. -/
structure MemoryCopy where
  start : Int
  count : Nat
deriving DecidableEq, Repr

/-- A copy of bytes that the buffer has. -/
def MemoryCopy.Inside (copy : MemoryCopy) (data : QByteArray) : Prop :=
  0 ≤ copy.start ∧ copy.start + copy.count ≤ data.length

/-- `size_t(value)` of an int. -/
def sizeT (value : Int) : Nat := (value % 18446744073709551616).toNat

/-- An int that is not negative keeps its value. -/
theorem sizeT_of_fits {value : Int} (low : 0 ≤ value) (high : value < 2147483648) :
    (sizeT value : Int) = value := by
  unfold sizeT
  omega

namespace DataStream

/-- The bytes that a copy sees. -/
def bytesOf (stream : DataStream) (copy : MemoryCopy) : List UInt8 :=
  ((stream.data.getD []).drop copy.start.toNat).take copy.count

/-- The copies of `read(void *value, int valueSize)`. -/
def rawCopies (stream : DataStream) (valueSize : Nat) : List MemoryCopy :=
  let wanted := MachineInt.toInt32 (stream.position + valueSize)
  let stream := if wanted > stream.size then stream.setPosition stream.size else stream
  if stream.endOfData then [] else [⟨stream.position, sizeT valueSize⟩]

/-- The copies of `read<QString>`. -/
def stringCopies (stream : DataStream) : List MemoryCopy :=
  let found := stream.indexOf 0
  let stringTail := if found = -1 then stream.size - 1 else found
  let size := stringTail - stream.position + 1
  if size + 1 > 0 ∧ size > 0 then [⟨stream.position, sizeT size⟩] else []

/-- The copies of `read<QByteArray>`: those of the length, and one of the bytes behind it. -/
def byteArrayCopies (stream : DataStream) : List MemoryCopy :=
  let sized := readFixed (0 : UInt32) stream
  let behind := sized.2.2
  stream.rawCopies 4 ++
    if !sized.1 then []
    else if sized.2.1 = 0 then []
    else
      let tailSize := behind.size - behind.position
      if tailSize ≤ 0 then []
      else
        let valueSize := if tailSize < sized.2.1.toNat then UInt32.ofInt tailSize else sized.2.1
        [⟨behind.position, valueSize.toNat⟩]

/-- What is read at all is what was copied. -/
theorem readRaw_fst (stream : DataStream) {valueSize : Nat} (small : valueSize < 2147483648) :
    (stream.readRaw valueSize).1 = (stream.rawCopies valueSize).head?.map stream.bytesOf := by
  have exact : sizeT valueSize = valueSize := by
    have value := sizeT_of_fits (show 0 ≤ (valueSize : Int) by omega) (by omega)
    omega
  -- Moving the cursor to the end does not change the bytes.
  unfold readRaw rawCopies
  dsimp only
  split
  · split
    · rfl
    · simp [bytesAtCursor, bytesOf, exact]
  · split
    · rfl
    · simp [bytesAtCursor, bytesOf, exact]

/-- A text is what was copied, up to its first NUL. -/
theorem readString_fst {stream : DataStream} (small : stream.size < 1073741824)
    (low : 0 ≤ stream.position) (found : stream.indexOf 0 < 1073741824) :
    stream.readString.1 =
      Windows1251.toUnicode (QByteArray.cString (stream.stringCopies.flatMap stream.bytesOf)) := by
  have last : (if stream.indexOf 0 = -1 then stream.size - 1 else stream.indexOf 0) < 1073741824 := by
    split
    · omega
    · exact found
  unfold readString stringCopies
  dsimp only
  generalize (if stream.indexOf 0 = -1 then stream.size - 1 else stream.indexOf 0) = stringTail
    at last
  rcases Int.lt_trichotomy (stringTail - stream.position + 1) 0 with below | zero | above
  · rw [if_neg (by omega), if_neg (by omega)]
    rfl
  · -- At the end of the data no byte is copied.
    rw [if_pos (by omega), if_neg (by omega), zero]
    rfl
  · have count : sizeT (stringTail - stream.position + 1) =
        (stringTail - stream.position + 1).toNat := by
      have value := sizeT_of_fits (Int.le_of_lt above) (by omega)
      omega
    rw [if_pos (by omega), if_pos (by omega), List.flatMap_singleton, bytesOf, count]
    rfl

/-- A number that is read was copied at once. -/
theorem tail_rawCopies {stream : DataStream} (valueSize : Nat) : (stream.rawCopies valueSize).tail = [] := by
  unfold rawCopies
  dsimp only
  generalize (if MachineInt.toInt32 (stream.position + valueSize) > stream.size then
    stream.setPosition stream.size else stream) = clamped
  split <;> rfl

/-- A byte array that is read is what was copied behind its length. -/
theorem readByteArray_fst {old : QByteArray} {stream : DataStream}
    (done : (readByteArray old stream).1 = true) :
    (readByteArray old stream).2.1 = stream.byteArrayCopies.tail.flatMap stream.bytesOf := by
  -- The length was read, so it was copied first.
  have length : (readFixed (0 : UInt32) stream).1 = true → stream.rawCopies 4 ≠ [] := by
    intro read empty
    have raw := stream.readRaw_fst (show 4 < 2147483648 by omega)
    rw [empty] at raw
    have failed : readFixed (0 : UInt32) stream = (false, 0, (stream.readRaw 4).2) := by
      have refused : stream.readRaw (FixedWidth.width UInt32) = (none, (stream.readRaw 4).2) :=
        Prod.ext raw rfl
      rw [readFixed, refused]
    rw [failed] at read
    cases read
  have kept := readFixed_data (0 : UInt32) stream
  unfold readByteArray byteArrayCopies at *
  dsimp only at *
  split at done
  · cases done
  · rename_i read
    have read : (readFixed (0 : UInt32) stream).1 = true := by simpa using read
    rw [List.tail_append_of_ne_nil (length read), tail_rawCopies, List.nil_append,
      if_neg (by simp [read])]
    split
    · rfl
    · rename_i some
      rw [if_neg some] at done
      split at done
      · cases done
      · rename_i left
        rw [if_neg left, if_neg left, List.flatMap_singleton, bytesOf, ← kept]
        simp only [bytesAtCursor]
        congr 1
        -- What is left of the data fits a word where it is less than the length.
        split
        · rename_i less
          have bound := UInt32.toNat_lt (readFixed (0 : UInt32) stream).2.1
          rw [UInt32.ofInt, UInt32.toNat_ofNat']
          omega
        · rfl

/-- A stream over a buffer, with its cursor inside or at the end. -/
def InBounds (stream : DataStream) : Prop :=
  ∃ data, stream.data = some data ∧ 0 ≤ stream.position ∧ stream.position ≤ data.length

/-- An operation leaves a cursor in bounds, and a buffer that is not shorter than before. -/
structure Extends (before after : DataStream) : Prop where
  inBounds : after.InBounds
  longer : before.size ≤ after.size

/-- The size of a stream in bounds is the length of its buffer. -/
theorem size_of_data {stream : DataStream} {data : QByteArray} (some : stream.data = some data) :
    stream.size = data.length := by
  rw [size, some]

/-- Streams over the same buffer have the same size. -/
theorem size_congr {left right : DataStream} (same : left.data = right.data) :
    left.size = right.size := by
  rw [size, size, same]

/-- Wherever the cursor is moved to, it is kept in bounds. -/
theorem InBounds.setPosition_of_data {stream : DataStream} {data : QByteArray}
    (same : stream.data = some data) (value : Int) : (stream.setPosition value).InBounds := by
  rw [setPosition_eq same]
  refine ⟨data, rfl, ?_, ?_⟩
  · show 0 ≤ max 0 (min value data.length)
    omega
  · show max 0 (min value data.length) ≤ data.length
    omega

/-- Doing nothing keeps a cursor in bounds. -/
theorem InBounds.extends_self {stream : DataStream} (inBounds : stream.InBounds) :
    Extends stream stream := ⟨inBounds, Int.le_refl _⟩

/-- What two operations do one after another. -/
theorem Extends.trans {before middle after : DataStream} (first : Extends before middle)
    (second : Extends middle after) : Extends before after :=
  ⟨second.inBounds, Int.le_trans first.longer second.longer⟩

namespace InBounds

variable {stream : DataStream} (inBounds : stream.InBounds)

include inBounds

theorem setPosition (value : Int) : Extends stream (stream.setPosition value) := by
  obtain ⟨data, same, _⟩ := inBounds
  exact ⟨.setPosition_of_data same value, Int.le_of_eq (size_congr (setPosition_data ..).symm)⟩

theorem readRaw (valueSize : Nat) : Extends stream (stream.readRaw valueSize).2 := by
  -- At the end of the data the cursor is moved there at most, and else behind what is read.
  have moved : Extends stream (if MachineInt.toInt32 (stream.position + valueSize) > stream.size then
      stream.setPosition stream.size else stream) := by
    split
    · exact inBounds.setPosition _
    · exact inBounds.extends_self
  unfold DataStream.readRaw
  dsimp only
  generalize (if MachineInt.toInt32 (stream.position + valueSize) > stream.size then
    stream.setPosition stream.size else stream) = clamped at moved ⊢
  split
  · exact moved
  · exact moved.trans (moved.inBounds.setPosition _)

theorem readFixed {α : Type} [FixedWidth α] (old : α) :
    Extends stream (DataStream.readFixed old stream).2.2 := by
  have raw := inBounds.readRaw (FixedWidth.width α)
  unfold DataStream.readFixed
  split <;> simp_all

theorem readString : Extends stream stream.readString.2 := by
  unfold DataStream.readString
  dsimp only
  generalize (if stream.indexOf 0 = -1 then stream.size - 1 else stream.indexOf 0) = stringTail
  split
  · exact inBounds.setPosition _
  · have next := inBounds.setPosition (stream.position + 1)
    exact next.trans (next.inBounds.setPosition _)

theorem readByteArray (old : QByteArray) : Extends stream (DataStream.readByteArray old stream).2.2 := by
  -- The cursor is behind the length, and is moved over the bytes if they are read.
  have sized := inBounds.readFixed (0 : UInt32)
  unfold DataStream.readByteArray
  dsimp only
  repeat' split
  all_goals first
    | exact sized
    | exact sized.trans (sized.inBounds.setPosition _)

theorem writeRaw (value : List UInt8) : Extends stream (stream.writeRaw value).2 := by
  obtain ⟨data, same, low, high⟩ := inBounds
  obtain ⟨array, position⟩ := stream
  cases same
  simp only at low high
  -- The array is made long enough for what is written, and its length then stays.
  unfold DataStream.writeRaw
  dsimp only
  refine ⟨.setPosition_of_data rfl _, ?_⟩
  rw [size_congr (setPosition_data ..), size_of_data rfl, size_of_data rfl, QByteArray.overwrite]
  split
  · rename_i beyond
    simp only [QByteArray.resize, List.length_append, List.length_take, List.length_drop,
      List.length_replicate]
    omega
  · simp only [List.length_append, List.length_take, List.length_drop]
    omega

end InBounds

/-- Two operations that keep a cursor in bounds keep it there one after another. -/
theorem Extends.andThen {stream : DataStream} {first : Bool × DataStream}
    (initially : Extends stream first.2) {next : DataStream → Bool × DataStream}
    (later : Extends first.2 (next first.2).2) : Extends stream (DataStream.andThen first next).2 := by
  unfold DataStream.andThen
  split
  · exact initially.trans later
  · exact initially

theorem InBounds.writeString {stream : DataStream} (inBounds : stream.InBounds) (value : QString) :
    Extends stream (stream.writeString value).2 := by
  have text := inBounds.writeRaw (Windows1251.fromUnicode value)
  exact text.andThen (text.inBounds.writeRaw [0])

theorem InBounds.writeByteArray {stream : DataStream} (inBounds : stream.InBounds)
    (value : QByteArray) : Extends stream (stream.writeByteArray value).2 := by
  have length := inBounds.writeRaw (FixedWidth.toBytes (UInt32.ofNat value.length))
  exact length.andThen (length.inBounds.writeRaw value)

/-- Reading a value of any type keeps the cursor in bounds. -/
theorem InBounds.readValue [QtText] {stream : DataStream} (inBounds : stream.InBounds)
    {type : AtomType} (old : type.Value) : Extends stream (StreamValue.read old stream).2.2 := by
  -- All types but three are read as bytes of a fixed number.
  cases type with
  | boolean => exact inBounds.readFixed (α := Bool) old
  | uint8 => exact inBounds.readFixed (α := UInt8) old
  | int8 => exact inBounds.readFixed (α := Int8) old
  | uint16 => exact inBounds.readFixed (α := UInt16) old
  | int16 => exact inBounds.readFixed (α := Int16) old
  | uint32 => exact inBounds.readFixed (α := UInt32) old
  | int32 => exact inBounds.readFixed (α := Int32) old
  | uint64 => exact inBounds.readFixed (α := UInt64) old
  | int64 => exact inBounds.readFixed (α := Int64) old
  | single => exact inBounds.readFixed (α := UInt32) old
  | double => exact inBounds.readFixed (α := UInt64) old
  | dateTime => exact inBounds.readFixed (0 : UInt64)
  | string => exact inBounds.readString
  | guid => exact inBounds.readByteArray (List.replicate 16 0)
  | byteArray => exact inBounds.readByteArray old

/-- Writing a value of any type keeps the cursor in bounds. -/
theorem InBounds.writeValue [QtText] {stream : DataStream} (inBounds : stream.InBounds)
    {type : AtomType} (value : type.Value) : Extends stream (StreamValue.write value stream).2 := by
  cases type with
  | string => exact inBounds.writeString value
  | guid => exact inBounds.writeByteArray value.toList
  | byteArray => exact inBounds.writeByteArray value
  | _ => exact inBounds.writeRaw _

/-- The bytes a read of a fixed number copies lie inside the buffer. -/
theorem InBounds.rawCopies {stream : DataStream} (inBounds : stream.InBounds)
    {valueSize : Nat} (small : stream.size < 1073741824) (object : valueSize ≤ 1073741824) :
    ∀ copy ∈ stream.rawCopies valueSize, copy.Inside (stream.data.getD []) := by
  obtain ⟨data, same, low, high⟩ := inBounds
  have size := size_of_data same
  -- The sum of the two ints is exact, so the cursor is at the end unless all bytes are there.
  have exact : MachineInt.toInt32 (stream.position + valueSize) = stream.position + valueSize :=
    MachineInt.toInt32_of_fits (by omega) (by omega)
  have count := sizeT_of_fits (show 0 ≤ (valueSize : Int) by omega) (by omega)
  intro copy member
  unfold DataStream.rawCopies at member
  rw [exact] at member
  dsimp only at member
  split at member
  · rename_i beyond
    have ended : (stream.setPosition stream.size).endOfData = true := by
      rw [setPosition_eq same, size]
      simp [endOfData]
    rw [if_pos ended] at member
    exact absurd member List.not_mem_nil
  · split at member
    · exact absurd member List.not_mem_nil
    · obtain rfl := List.mem_singleton.mp member
      rw [same]
      exact ⟨low, by simp only [Option.getD_some]; omega⟩

/-- A byte that is found is found inside the array, and not in front of where the search starts. -/
theorem indexOfByte_cases (data : QByteArray) (byte : UInt8) {start : Int} (low : 0 ≤ start) :
    data.indexOfByte byte start = -1 ∨
      start ≤ data.indexOfByte byte start ∧ data.indexOfByte byte start < data.length := by
  unfold QByteArray.indexOfByte
  split
  · rename_i offset found
    obtain ⟨inside, _⟩ := List.findIdx?_eq_some_iff_getElem.mp found
    rw [List.length_drop] at inside
    right
    constructor
    · omega
    · omega
  · left
    rfl

/-- The bytes a read of a text copies lie inside the buffer. -/
theorem InBounds.stringCopies {stream : DataStream} (inBounds : stream.InBounds)
    (small : stream.size < 1073741824) :
    ∀ copy ∈ stream.stringCopies, copy.Inside (stream.data.getD []) := by
  obtain ⟨data, same, low, high⟩ := inBounds
  have size := size_of_data same
  -- The last byte that is copied is the NUL that was found, or the last one of the buffer.
  have last : (if stream.indexOf 0 = -1 then stream.size - 1 else stream.indexOf 0) < data.length := by
    have found : stream.indexOf 0 = data.indexOfByte 0 stream.position := by rw [indexOf, same]
    rcases indexOfByte_cases data 0 low with absent | ⟨_, inside⟩
    · rw [if_pos (found.trans absent)]
      omega
    · rw [found]
      split
      · omega
      · exact inside
  intro copy member
  unfold DataStream.stringCopies at member
  dsimp only at member
  generalize (if stream.indexOf 0 = -1 then stream.size - 1 else stream.indexOf 0) = stringTail
    at last member
  split at member
  · rename_i some
    obtain rfl := List.mem_singleton.mp member
    have count := sizeT_of_fits (Int.le_of_lt some.2) (by omega)
    rw [same]
    exact ⟨low, by simp only [Option.getD_some]; omega⟩
  · exact absurd member List.not_mem_nil

/-- The bytes a read of a byte array copies lie inside the buffer, whatever length it declares. -/
theorem InBounds.byteArrayCopies {stream : DataStream} (inBounds : stream.InBounds)
    (small : stream.size < 1073741824) :
    ∀ copy ∈ stream.byteArrayCopies, copy.Inside (stream.data.getD []) := by
  -- The cursor is in bounds behind the length too.
  have kept := readFixed_data (0 : UInt32) stream
  obtain ⟨data, same, low, high⟩ := (inBounds.readFixed (0 : UInt32)).inBounds
  have size := size_of_data same
  have whole := size_congr kept
  intro copy member
  unfold DataStream.byteArrayCopies at member
  dsimp only at member
  rcases List.mem_append.mp member with length | bytes
  · exact inBounds.rawCopies small (by omega) copy length
  · rw [← kept, same]
    split at bytes
    · exact absurd bytes List.not_mem_nil
    · split at bytes
      · exact absurd bytes List.not_mem_nil
      · split at bytes
        · exact absurd bytes List.not_mem_nil
        · obtain rfl := List.mem_singleton.mp bytes
          refine ⟨low, ?_⟩
          simp only [Option.getD_some]
          -- A length that exceeds what is left is replaced by that.
          split
          · rw [UInt32.ofInt, UInt32.toNat_ofNat']
            omega
          · omega

/-- The copies that a read of a value of some type makes. -/
def valueCopies : AtomType → DataStream → List MemoryCopy
  | .boolean | .uint8 | .int8 => (·.rawCopies 1)
  | .uint16 | .int16 => (·.rawCopies 2)
  | .uint32 | .int32 | .single => (·.rawCopies 4)
  | .uint64 | .int64 | .double | .dateTime => (·.rawCopies 8)
  | .string => DataStream.stringCopies
  | .guid | .byteArray => DataStream.byteArrayCopies

theorem InBounds.valueCopies {stream : DataStream} (inBounds : stream.InBounds)
    (small : stream.size < 1073741824) (type : AtomType) :
    ∀ copy ∈ DataStream.valueCopies type stream, copy.Inside (stream.data.getD []) := by
  cases type with
  | string => exact inBounds.stringCopies small
  | guid | byteArray => exact inBounds.byteArrayCopies small
  | _ => exact inBounds.rawCopies small (by omega)

/-- What is done to a stream from outside. -/
inductive Operation
  | setPosition (value : Int)
  -- No object is larger than the greatest buffer.
  | readRaw (valueSize : Nat) (object : valueSize ≤ 1073741824)
  | read (old : TypedValue)
  | writeRaw (value : List UInt8)
  | write (value : TypedValue)

/-- The stream after an operation. -/
def step [QtText] (stream : DataStream) : Operation → DataStream
  | .setPosition value => stream.setPosition value
  | .readRaw valueSize _ => (stream.readRaw valueSize).2
  | .read old => (StreamValue.read old.2 stream).2.2
  | .writeRaw value => (stream.writeRaw value).2
  | .write value => (StreamValue.write value.2 stream).2

/-- The copies out of the buffer that an operation makes. -/
def copies (stream : DataStream) : Operation → List MemoryCopy
  | .readRaw valueSize _ => stream.rawCopies valueSize
  | .read old => valueCopies old.1 stream
  | .setPosition _ | .writeRaw _ | .write _ => []

variable [QtText]

/-- Every operation keeps the cursor in bounds, and no byte of the buffer is lost. -/
theorem InBounds.step {stream : DataStream} (inBounds : stream.InBounds) (operation : Operation) :
    Extends stream (stream.step operation) := by
  cases operation with
  | setPosition value => exact inBounds.setPosition value
  | readRaw valueSize _ => exact inBounds.readRaw valueSize
  | read old => exact inBounds.readValue old.2
  | writeRaw value => exact inBounds.writeRaw value
  | write value => exact inBounds.writeValue value.2

omit [QtText] in
/-- Every operation on a buffer that is not too large copies bytes of that buffer only. -/
theorem InBounds.copies {stream : DataStream} (inBounds : stream.InBounds)
    (small : stream.size < 1073741824) (operation : Operation) :
    ∀ copy ∈ stream.copies operation, copy.Inside (stream.data.getD []) := by
  cases operation with
  | readRaw valueSize object => exact inBounds.rawCopies small object
  | read old => exact inBounds.valueCopies small old.1
  | setPosition value | writeRaw value | write value =>
    exact fun copy member => absurd member List.not_mem_nil

/-- A run of operations keeps the cursor in bounds, and no byte of the buffer is lost. -/
theorem InBounds.run {stream : DataStream} (inBounds : stream.InBounds)
    (operations : List Operation) :
    Extends stream (EventMachine.run DataStream.step stream operations) := by
  -- The invariant is that the stream so far extends the first one.
  refine EventMachine.run_invariant DataStream.step ?_ inBounds.extends_self operations
  intro current operation extended
  exact extended.trans (extended.inBounds.step operation)

omit [QtText] in
theorem ofData_inBounds (data : QByteArray) : (ofData data).InBounds :=
  ⟨data, rfl, Int.le_refl 0, Int.natCast_nonneg _⟩

/--
Whatever a buffer contains, the reads of its stream copy only bytes that it has.

This holds at each operation of a run that leaves the buffer below `2^30` bytes.
The cursor is always between the first byte and the end, and the buffer never gets shorter.
-/
theorem reads_inside {data : QByteArray} {operations : List Operation}
    (small : (EventMachine.run step (ofData data) operations).size < 1073741824)
    {past later : List Operation} {operation : Operation}
    (split : operations = past ++ operation :: later) :
    let before := EventMachine.run step (ofData data) past
    let after := before.step operation
    (0 ≤ before.position ∧ before.position ≤ before.size) ∧
      (0 ≤ after.position ∧ after.position ≤ after.size) ∧ before.size ≤ after.size ∧
      ∀ copy ∈ before.copies operation, copy.Inside (before.data.getD []) := by
  intro before after
  have beginning : before.InBounds := ((ofData_inBounds data).run past).inBounds
  have extended : Extends before after := beginning.step operation
  -- The buffer is not larger here than at the end of the run.
  have rest := extended.inBounds.run later
  have whole : EventMachine.run step (ofData data) operations = EventMachine.run step after later := by
    rw [split, EventMachine.run, List.foldl_append]
    rfl
  rw [whole] at small
  have bound := Int.lt_of_le_of_lt (Int.le_trans extended.longer rest.longer) small
  refine ⟨?_, ?_, extended.longer, beginning.copies bound operation⟩
  · obtain ⟨buffer, same, low, high⟩ := beginning
    exact ⟨low, Int.le_trans high (Int.le_of_eq (size_of_data same).symm)⟩
  · obtain ⟨buffer, same, low, high⟩ := extended.inBounds
    exact ⟨low, Int.le_trans high (Int.le_of_eq (size_of_data same).symm)⟩

omit [QtText] in
/-- A byte array and a text that declare more bytes than there are, behind a move and a write. -/
theorem reads_inside_overlong :
    let _ := QtText.ascii
    let data : QByteArray := [0xFF, 0xFF, 0xFF, 0x7F, 1, 2]
    let past : List Operation := [.writeRaw [0xFE], .setPosition (-3)]
    let operation : Operation := .read ⟨.byteArray, ([] : QByteArray)⟩
    let before := EventMachine.run step (ofData data) past
    let after := before.step operation
    (0 ≤ before.position ∧ before.position ≤ before.size) ∧
      (0 ≤ after.position ∧ after.position ≤ after.size) ∧ before.size ≤ after.size ∧
      ∀ copy ∈ before.copies operation, copy.Inside (before.data.getD []) := by
  let _ := QtText.ascii
  intro _ data past operation
  exact @reads_inside _ data (past ++ [operation]) (by decide) past [] operation rfl

end DataStream

end Threader
