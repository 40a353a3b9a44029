import Threader.Base.MachineInt
import Threader.Qt.ByteArray

/-! `DataStream`: a cursor over a byte array, with bounded reads and growing writes. -/

namespace Threader

/-- A byte array, absent when the pointer is null, and the cursor over it. -/
structure DataStream where
  data : Option QByteArray
  position : Int
deriving DecidableEq, Repr

namespace DataStream

/-- `DataStream(QByteArray *data)`: the cursor starts at the first byte. -/
def ofData (data : QByteArray) : DataStream := ⟨some data, 0⟩

/-- `size()`: the number of bytes, or `-1` without an array. -/
def size (stream : DataStream) : Int :=
  match stream.data with
  | none => -1
  | some data => data.length

/-- `setPosition(int value)`: the cursor is kept between the first byte and the end. -/
def setPosition (stream : DataStream) (value : Int) : DataStream :=
  match stream.data with
  | none => { stream with position := -1 }
  | some data =>
    if value > data.length then { stream with position := data.length }
    else if value < 0 then { stream with position := 0 }
    else { stream with position := value }

/-- `endOfData()`: a stream without an array is always at its end. -/
def endOfData (stream : DataStream) : Bool :=
  match stream.data with
  | none => true
  | some data => decide (stream.position ≥ data.length)

/-- The bytes at the cursor, as a copy of the given width sees them. -/
def bytesAtCursor (stream : DataStream) (width : Nat) : List UInt8 :=
  ((stream.data.getD []).drop stream.position.toNat).take width

/-- `read(void *value, int valueSize)`: the bytes read, or nothing at the end of the data. -/
def readRaw (stream : DataStream) (valueSize : Nat) : Option (List UInt8) × DataStream :=
  -- The sum of two ints wraps around.
  let wanted := MachineInt.toInt32 (stream.position + valueSize)
  let stream := if wanted > stream.size then stream.setPosition stream.size else stream
  if stream.endOfData then (none, stream)
  else
    (some (stream.bytesAtCursor valueSize),
      stream.setPosition (MachineInt.toInt32 (stream.position + valueSize)))

/-- `write(const void *value, int valueSize)`: copies at the cursor, growing the array as needed. -/
def writeRaw (stream : DataStream) (value : List UInt8) : Bool × DataStream :=
  match stream.data with
  | none => (false, stream)
  | some data =>
    let finish := stream.position + value.length
    let data := if finish > data.length then data.resize finish.toNat else data
    let written := { stream with data := some (data.overwrite stream.position.toNat value) }
    (true, written.setPosition finish)

/-- The short-circuit conjunction of two stream operations. -/
def andThen (first : Bool × DataStream) (next : DataStream → Bool × DataStream) :
    Bool × DataStream :=
  if first.1 then next first.2 else first

@[simp] theorem andThen_true (stream : DataStream) (next : DataStream → Bool × DataStream) :
    andThen (true, stream) next = next stream := rfl

/-- A stream whose cursor stands behind its last byte. -/
def atEnd (data : QByteArray) : DataStream := ⟨some data, data.length⟩

/-- A stream with its cursor between the bytes already read and the bytes still ahead. -/
def between (front back : List UInt8) : DataStream := ⟨some (front ++ back), front.length⟩

theorem ofData_nil : ofData [] = atEnd [] := rfl

@[simp] theorem between_position (front back : List UInt8) :
    (between front back).position = front.length := rfl

@[simp] theorem between_size (front back : List UInt8) :
    (between front back).size = front.length + back.length := by
  simp [size, between]

/-- A copy from the cursor sees the bytes ahead of it. -/
@[simp] theorem bytesAtCursor_between (front value rest : List UInt8) :
    (between front (value ++ rest)).bytesAtCursor value.length = value := by
  simp [bytesAtCursor, between]

/-- The cursor is at the end exactly when nothing is ahead of it. -/
@[simp] theorem between_endOfData (front back : List UInt8) :
    (between front back).endOfData = decide (back = []) := by
  -- The cursor is past the last byte exactly if there is none behind it.
  simp only [endOfData, between, List.length_append, decide_eq_decide]
  rw [← List.length_eq_zero_iff]
  omega

/-- Moving the cursor leaves the array alone. -/
@[simp] theorem setPosition_data (stream : DataStream) (value : Int) :
    (stream.setPosition value).data = stream.data := by
  unfold setPosition
  split
  · simp_all
  · repeat' split
    all_goals simp_all

/-- Where the cursor is moved to depends on the array alone. -/
theorem setPosition_eq {stream : DataStream} {data : QByteArray} (same : stream.data = some data)
    (value : Int) : stream.setPosition value = ⟨some data, max 0 (min value data.length)⟩ := by
  obtain ⟨array, position⟩ := stream
  cases same
  -- The two clamps are the two bounds.
  simp only [setPosition]
  repeat' split
  all_goals
    congr 1
    omega

/-- Reading leaves the array alone. -/
@[simp] theorem readRaw_data (stream : DataStream) (valueSize : Nat) :
    (stream.readRaw valueSize).2.data = stream.data := by
  unfold readRaw
  dsimp only
  repeat' split
  all_goals simp

/-- A target inside the data is reached without clamping. -/
theorem setPosition_within {data : QByteArray} {position value : Int} (low : 0 ≤ value)
    (high : value ≤ data.length) :
    setPosition ⟨some data, position⟩ value = ⟨some data, value⟩ := by
  -- Neither clamp applies.
  simp only [setPosition, if_neg (Int.not_lt.mpr high), if_neg (Int.not_lt.mpr low)]

/-- The cursor can be moved over bytes that are ahead of it. -/
theorem between_setPosition (front skipped back : List UInt8) :
    (between front (skipped ++ back)).setPosition (front.length + skipped.length) =
      between (front ++ skipped) back := by
  -- The target lies inside the data, behind the bytes that are skipped.
  unfold between
  rw [setPosition_within (by omega) (by simp only [List.length_append]; omega)]
  simp

/-- Moving the cursor to where it stands changes nothing. -/
theorem between_setPosition_self (front back : List UInt8) :
    (between front back).setPosition front.length = between front back := by
  -- This is the move over no bytes at all.
  simpa using between_setPosition front [] back

/-- A write replaces as many bytes ahead of the cursor as it has, as far as there are any. -/
theorem writeRaw_between (front back value : List UInt8) :
    (between front back).writeRaw value =
      (true, between (front ++ value) (back.drop value.length)) := by
  have finish : ((front.length : Int) + value.length).toNat = front.length + value.length := by omega
  have inside : (front.length : Int) + value.length ≤
      (front ++ value ++ back.drop value.length).length := by
    simp only [List.length_append]
    omega
  unfold writeRaw between
  simp only [finish, Int.toNat_natCast]
  split
  · rename_i beyond
    -- The array grows by bytes that are all overwritten.
    have grows : (front ++ back).length ≤ front.length + value.length := by omega
    have short : back.length ≤ value.length := by
      simp only [List.length_append] at grows
      omega
    have all : (back ++ List.replicate (front.length + value.length - (front ++ back).length) 0).drop
        value.length = back.drop value.length := by
      rw [List.drop_eq_nil_of_le short, List.drop_eq_nil_of_le]
      simp only [List.length_append, List.length_replicate]
      omega
    rw [QByteArray.resize_append front back grows, QByteArray.overwrite_append, all,
      setPosition_within (by omega) inside, List.length_append, Int.natCast_add]
  · rw [QByteArray.overwrite_append, setPosition_within (by omega) inside, List.length_append,
      Int.natCast_add]

/-- A write operation that puts some bytes in the place of those ahead of the cursor. -/
def Writes (write : DataStream → Bool × DataStream) (image : List UInt8) : Prop :=
  ∀ front back, write (between front back) =
    (true, between (front ++ image) (back.drop image.length))

namespace Writes

/-- Copying bytes writes them. -/
theorem raw (value : List UInt8) : Writes (·.writeRaw value) value :=
  fun front back => writeRaw_between front back value

/-- Doing nothing writes nothing. -/
theorem nothing : Writes (fun stream => (true, stream)) [] := by
  intro front back
  rw [List.append_nil, List.length_nil, List.drop_zero]

/-- Two operations one after another write one after another. -/
theorem andThen {first second : DataStream → Bool × DataStream} {left right : List UInt8}
    (firstWrites : Writes first left) (secondWrites : Writes second right) :
    Writes (fun stream => DataStream.andThen (first stream) second) (left ++ right) := by
  intro front back
  show DataStream.andThen (first (between front back)) second = _
  rw [firstWrites, andThen_true, secondWrites, List.append_assoc, List.drop_drop,
    List.length_append]

/-- Behind the last byte, what is written is appended. -/
theorem atEnd {write : DataStream → Bool × DataStream} {image : List UInt8}
    (writes : Writes write image) (data : List UInt8) :
    write (.atEnd data) = (true, .atEnd (data ++ image)) := by
  have behind (data : List UInt8) : between data [] = .atEnd data := by
    rw [between, List.append_nil, DataStream.atEnd]
  rw [← behind, writes, List.drop_nil, behind]

end Writes
/-- Writing behind the last byte appends. -/
@[simp] theorem writeRaw_atEnd (data value : List UInt8) :
    (atEnd data).writeRaw value = (true, atEnd (data ++ value)) := (Writes.raw value).atEnd data

/-- A value ahead of the cursor is read, and the cursor moves over it. -/
theorem readRaw_between {front value : List UInt8} (rest : List UInt8) (nonempty : value ≠ [])
    (fits : (front ++ (value ++ rest)).length < 2147483648) :
    (between front (value ++ rest)).readRaw value.length =
      (some value, between (front ++ value) rest) := by
  -- The array is smaller than the range of an int, so the sum of the two ints is exact.
  have width := List.length_pos_iff.mpr nonempty
  simp only [List.length_append] at fits
  have exact : MachineInt.toInt32 ((front.length : Int) + value.length) =
      front.length + value.length := MachineInt.toInt32_of_fits (by omega) (by omega)
  have room : ¬ ((front.length : Int) + value.length > (between front (value ++ rest)).size) := by
    simp only [between_size, List.length_append]
    omega
  have ahead : (between front (value ++ rest)).endOfData = false := by simp [nonempty]
  simp only [readRaw, between_position, exact, if_neg room, ahead, Bool.false_eq_true, if_false,
    between_setPosition, bytesAtCursor_between]

end DataStream

end Threader
