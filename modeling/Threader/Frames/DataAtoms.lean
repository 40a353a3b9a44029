import Mathlib.Algebra.GroupWithZero.Nat
import Threader.Frames.DataFramesCommon
import Threader.Utils.DataStreamValues

/-! The atoms of a frame: vectors of values of one type, with a capacity and a current index. -/

namespace Threader

/-- `BaseDataAtom<ValueType>`: the values of an atom and the index its accessors work on. -/
structure BaseDataAtom (α : Type) where
  definition : DataAtomDefinition
  valuesVector : List α
  currentIndex : UInt32

namespace BaseDataAtom

variable {α : Type} [StreamValue α]

/-- `clone(definition)`: a fresh atom with one default value. -/
def clone (definition : DataAtomDefinition) : BaseDataAtom α :=
  ⟨definition, [StreamValue.empty], 0⟩

/-- `capacity()`: the number of values. -/
def capacity (atom : BaseDataAtom α) : UInt32 := UInt32.ofNat atom.valuesVector.length

/-- `clear()`: every value becomes the default one. -/
def clear (atom : BaseDataAtom α) : BaseDataAtom α :=
  { atom with valuesVector := List.replicate atom.valuesVector.length StreamValue.empty }

/-- `size()`: the sum of the sizes of the values. -/
def size (atom : BaseDataAtom α) : Nat := (atom.valuesVector.map StreamValue.size).sum

/-- `setCurrentIndex(currentIndex)`: an index past the last value is moved to the last one. -/
def setCurrentIndex (atom : BaseDataAtom α) (currentIndex : UInt32) : BaseDataAtom α :=
  { atom with currentIndex := if atom.capacity ≤ currentIndex then atom.capacity - 1 else currentIndex }

/-- `setCapacity(capacity)`: keeps what fits and fills up with default values. -/
def setCapacity (atom : BaseDataAtom α) (capacity : UInt32) : BaseDataAtom α :=
  let newSize := if capacity = 0 then 1 else capacity
  let resized := { atom with
    valuesVector := atom.valuesVector.take newSize.toNat ++
      List.replicate (newSize.toNat - atom.valuesVector.length) StreamValue.empty }
  if atom.currentIndex ≥ newSize then resized.setCurrentIndex (newSize - 1) else resized

/-- `setValue(value)`: replaces the value at the current index. -/
def setValue (atom : BaseDataAtom α) (value : α) : BaseDataAtom α :=
  { atom with valuesVector := atom.valuesVector.set atom.currentIndex.toNat value }

/-- `setValue(values)`: replaces as many values from the first on as there are on both sides. -/
def setValues (atom : BaseDataAtom α) (values : List α) : BaseDataAtom α :=
  { atom with valuesVector :=
      values.take atom.valuesVector.length ++ atom.valuesVector.drop values.length }

/-- `fillData(value)`: gives all values the same value. -/
def fillData (atom : BaseDataAtom α) (value : α) : BaseDataAtom α :=
  { atom with valuesVector := List.replicate atom.valuesVector.length value }

/-- The loop of `read(stream)`: stops at the first value that cannot be read. -/
def readValues : List α → DataStream → Bool × List α × DataStream
  | [], stream => (true, [], stream)
  | value :: values, stream =>
    let first := StreamValue.read value stream
    if first.1 then
      let later := readValues values first.2.2
      (later.1, first.2.1 :: later.2.1, later.2.2)
    else (false, first.2.1 :: values, first.2.2)

/-- `read(stream)`: clears the atom and reads as many values as it has room for. -/
def read (atom : BaseDataAtom α) (stream : DataStream) : Bool × BaseDataAtom α × DataStream :=
  let values := readValues atom.clear.valuesVector stream
  (values.1, { atom with valuesVector := values.2.1 }, values.2.2)

/--
`readItem(stream, index)`: one value of an array atom, which grows if it ends in front of it.

There is no result for an index that the vector does not have even then.
-/
def readItem (atom : BaseDataAtom α) (stream : DataStream) (index : UInt32) :
    Option (Bool × BaseDataAtom α × DataStream) :=
  if atom.definition.isScalar then some (atom.read stream)
  else
    -- The index is compared as an int, and the first value is expected to be there.
    let grows := (atom.valuesVector.length : Int) < MachineInt.toInt32 index.toNat + 1 ∧ index > 0
    let values := if grows then
        atom.valuesVector ++
          List.replicate (index.toNat + 1 - atom.valuesVector.length) StreamValue.empty
      else atom.valuesVector
    values[index.toNat]?.map fun old =>
      let item := StreamValue.read old stream
      (item.1, { atom with valuesVector := values.set index.toNat item.2.1 }, item.2.2)

/-- The loop of `write(stream)`. -/
def writeValues : List α → DataStream → Bool × DataStream
  | [], stream => (true, stream)
  | value :: values, stream => DataStream.andThen (StreamValue.write value stream) (writeValues values)

/-- `write(stream)`: writes the values one after another. -/
def write (atom : BaseDataAtom α) (stream : DataStream) : Bool × DataStream :=
  writeValues atom.valuesVector stream

end BaseDataAtom

/-- The types that `initializeAtomsStorage` registers. -/
inductive AtomType
  | boolean
  | uint8
  | int8
  | uint16
  | int16
  | uint32
  | int32
  | uint64
  | int64
  | single
  | double
  | string
  | dateTime
  | guid
  | byteArray
deriving DecidableEq, Repr

/-- The value type of an atom, with floating-point numbers as their bit patterns. -/
def AtomType.Value : AtomType → Type
  | .boolean => Bool
  | .uint8 => UInt8
  | .int8 => Int8
  | .uint16 => UInt16
  | .int16 => Int16
  | .uint32 => UInt32
  | .int32 => Int32
  | .uint64 => UInt64
  | .int64 => Int64
  | .single => UInt32
  | .double => UInt64
  | .string => QString
  | .dateTime => QDateTime
  | .guid => QUuid
  | .byteArray => QByteArray

instance [QtText] : (type : AtomType) → StreamValue type.Value
  | .boolean => inferInstanceAs (StreamValue Bool)
  | .uint8 => inferInstanceAs (StreamValue UInt8)
  | .int8 => inferInstanceAs (StreamValue Int8)
  | .uint16 => inferInstanceAs (StreamValue UInt16)
  | .int16 => inferInstanceAs (StreamValue Int16)
  | .uint32 => inferInstanceAs (StreamValue UInt32)
  | .int32 => inferInstanceAs (StreamValue Int32)
  | .uint64 => inferInstanceAs (StreamValue UInt64)
  | .int64 => inferInstanceAs (StreamValue Int64)
  | .single => inferInstanceAs (StreamValue UInt32)
  | .double => inferInstanceAs (StreamValue UInt64)
  | .string => inferInstanceAs (StreamValue QString)
  | .dateTime => inferInstanceAs (StreamValue QDateTime)
  | .guid => inferInstanceAs (StreamValue QUuid)
  | .byteArray => inferInstanceAs (StreamValue QByteArray)

/-- `AbstractDataAtom`: an atom of any registered type. -/
structure AbstractDataAtom where
  type : AtomType
  base : BaseDataAtom type.Value

namespace AbstractDataAtom

variable [QtText]

/-- A fresh atom of a type for a definition. -/
def clone (type : AtomType) (definition : DataAtomDefinition) : AbstractDataAtom :=
  ⟨type, BaseDataAtom.clone definition⟩

/-- `definition()` of an atom of any type. -/
def definition (atom : AbstractDataAtom) : DataAtomDefinition := atom.base.definition

/-- `size()` of an atom of any type. -/
def size (atom : AbstractDataAtom) : Nat := atom.base.size

/-- `setCapacity(capacity)`: a byte array atom always has exactly one value. -/
def setCapacity (atom : AbstractDataAtom) (capacity : UInt32) : AbstractDataAtom :=
  if atom.type = .byteArray then atom else { atom with base := atom.base.setCapacity capacity }

/-- `setCurrentIndex(currentIndex)` of an atom of any type. -/
def setCurrentIndex (atom : AbstractDataAtom) (currentIndex : UInt32) : AbstractDataAtom :=
  { atom with base := atom.base.setCurrentIndex currentIndex }

/-- `read(stream)` of an atom of any type. -/
def read (atom : AbstractDataAtom) (stream : DataStream) : Bool × AbstractDataAtom × DataStream :=
  let result := atom.base.read stream
  (result.1, { atom with base := result.2.1 }, result.2.2)

/-- `readItem(stream, index)` of an atom of any type. -/
def readItem (atom : AbstractDataAtom) (stream : DataStream) (index : UInt32) :
    Option (Bool × AbstractDataAtom × DataStream) :=
  (atom.base.readItem stream index).map fun result =>
    (result.1, { atom with base := result.2.1 }, result.2.2)

/-- `write(stream)` of an atom of any type. -/
def write (atom : AbstractDataAtom) (stream : DataStream) : Bool × DataStream :=
  atom.base.write stream

/-- What an atom carries: its definition, its type and its values. -/
def content (atom : AbstractDataAtom) :
    DataAtomDefinition × (type : AtomType) × List type.Value :=
  ⟨atom.base.definition, atom.type, atom.base.valuesVector⟩

end AbstractDataAtom

end Threader
