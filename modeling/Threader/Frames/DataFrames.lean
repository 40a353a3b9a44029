import Threader.Frames.DataAtoms

/-! `DataFrame`: the atoms of one frame, its size, and the stream format it is read and written in. -/

namespace Threader

/-- `DataFrame`: a definition and the atoms built for it, either of which may be null. -/
structure DataFrame where
  definition : Option DataFrameDefinition
  atoms : List (Option AbstractDataAtom)
  capacity : UInt32
  currentIndex : UInt32
  packetId : UInt32

namespace DataFrame

/-- `name()`: empty without a definition. -/
def name (frame : DataFrame) : QString :=
  match frame.definition with
  | none => []
  | some definition => definition.name

/-- `needsTicket()`: false without a definition. -/
def needsTicket (frame : DataFrame) : Bool :=
  match frame.definition with
  | none => false
  | some definition => definition.needsTicket

/-- `definition()->isArray()`, which is only asked of frames that have a definition. -/
def isArray (frame : DataFrame) : Bool :=
  match frame.definition with
  | none => false
  | some definition => definition.isArray

variable [QtText]

/-- `setCapacity(capacity)`: at least one, for the frame and for every atom that is not scalar. -/
def setCapacity (frame : DataFrame) (capacity : UInt32) : DataFrame :=
  let newSize := if capacity < 1 then 1 else capacity
  { frame with
    capacity := newSize
    atoms := frame.atoms.map (Option.map fun atom =>
      atom.setCapacity (if atom.definition.isScalar then 1 else newSize)) }

/-- `setCurrentIndex(currentIndex)`: the index of the frame and of all its atoms. -/
def setCurrentIndex (frame : DataFrame) (currentIndex : UInt32) : DataFrame :=
  { frame with
    currentIndex := currentIndex
    atoms := frame.atoms.map (Option.map fun atom => atom.setCurrentIndex currentIndex) }

/-- The number of bytes the atoms add to the size; a null atom is never asked for its size. -/
def atomsSize : List (Option AbstractDataAtom) → Nat
  | [] => 0
  | none :: atoms => atomsSize atoms
  | some atom :: atoms => atom.size + atomsSize atoms

/-- `size()`: the declared size of everything behind the size field, as 32 bits. -/
def size (frame : DataFrame) : UInt32 :=
  UInt32.ofNat (frame.name.length + 1 + (if frame.isArray then 4 else 0) + atomsSize frame.atoms)

/-- The loop of `read(stream)` over the atoms: a null atom or a failed read ends it. -/
def readAtoms : List (Option AbstractDataAtom) → DataStream →
    Bool × List (Option AbstractDataAtom) × DataStream
  | [], stream => (true, [], stream)
  | none :: atoms, stream => (false, none :: atoms, stream)
  | some atom :: atoms, stream =>
    let first := atom.read stream
    if first.1 then
      let later := readAtoms atoms first.2.2
      (later.1, some first.2.1 :: later.2.1, later.2.2)
    else (false, some first.2.1 :: atoms, first.2.2)

/-- The capacity `read(stream)` starts from, refused when it exceeds the bytes that are left. -/
def readCapacity (frame : DataFrame) (stream : DataStream) : Bool × UInt32 × DataStream :=
  if frame.isArray then
    let read := DataStream.readFixed (1 : UInt32) stream
    let left := UInt32.ofInt (read.2.2.size - read.2.2.position)
    (read.1 && !(read.2.1 > left), read.2)
  else (true, 1, stream)

/-- `read(stream)`: whether it succeeded, the frame afterwards, and the stream afterwards. -/
def read (frame : DataFrame) (stream : DataStream) : Bool × DataFrame × DataStream :=
  let header := frame.readCapacity stream
  if header.1 then
    let sized := frame.setCapacity header.2.1
    let atoms := readAtoms sized.atoms header.2.2
    (atoms.1, { sized with atoms := atoms.2.1 }, atoms.2.2)
  else (false, frame, header.2.2)

/-- What a loop over array atoms leaves: whether it succeeded, and how far the index has moved. -/
structure RunRead where
  done : Bool
  passed : Nat
  atoms : List (Option AbstractDataAtom)
  stream : DataStream

/--
The inner loop of `read(stream, capacity)`: a value of each atom up to the next scalar one.

A null atom is asked for its definition, which has no result.
-/
def readRow (c : UInt32) : List (Option AbstractDataAtom) → DataStream → Option RunRead
  | [], stream => some ⟨true, 0, [], stream⟩
  | none :: _, _ => none
  | some atom :: atoms, stream =>
    if atom.definition.isScalar then some ⟨true, 0, some atom :: atoms, stream⟩
    else
      (atom.readItem stream c).bind fun item =>
        if item.1 then
          (readRow c atoms item.2.2).map fun later =>
            { later with passed := later.passed + 1, atoms := some item.2.1 :: later.atoms }
        else some ⟨false, 0, some item.2.1 :: atoms, item.2.2⟩

/--
The loop of `read(stream, capacity)` over the rows of a run, from row `c` on.

Every row moves the index back to the first atom, so how far it has moved is what the last row says.
-/
def readRows : Nat → UInt32 → RunRead → Option RunRead
  | 0, _, run => some run
  | rows + 1, c, run =>
    (readRow c run.atoms run.stream).bind fun row =>
      if row.done then readRows rows (c + 1) row else some row

/--
The outer loop of `read(stream, capacity)`, with the result of the atom before.

A run of array atoms is read row by row.
The index is then behind the run, and moves on by one more before the next atom is read.
A scalar atom that cannot be read does not end the loop, but a null atom does.
-/
def readRuns (capacity : UInt32) : Nat → Bool → List (Option AbstractDataAtom) → DataStream →
    Option (Bool × List (Option AbstractDataAtom) × DataStream)
  | _, result, [], stream => some (result, [], stream)
  | 0, _, _ :: _, _ => none
  | _ + 1, _, none :: atoms, stream => some (false, none :: atoms, stream)
  | left + 1, _, some atom :: atoms, stream =>
    if atom.definition.isScalar then
      let first := atom.read stream
      (readRuns capacity left first.1 atoms first.2.2).map fun later =>
        (later.1, some first.2.1 :: later.2.1, later.2.2)
    else
      (readRows capacity.toNat 0 ⟨true, 0, some atom :: atoms, stream⟩).bind fun run =>
        if run.done then
          (readRuns capacity left true (run.atoms.drop (run.passed + 1)) run.stream).map fun later =>
            (later.1, run.atoms.take (run.passed + 1) ++ later.2.1, later.2.2)
        else some (false, run.atoms, run.stream)

/--
`read(stream, capacity)`: the values of neighbouring array atoms are read row by row.

The loop takes at most one turn for each atom.
-/
def readWithCapacity (frame : DataFrame) (stream : DataStream) (capacity : UInt32) :
    Option (Bool × DataFrame × DataStream) :=
  (readRuns capacity frame.atoms.length true frame.atoms stream).map fun result =>
    (result.1, { frame with atoms := result.2.1 }, result.2.2)

/-- The loop of `write(stream)` over the atoms. -/
def writeAtoms : List (Option AbstractDataAtom) → DataStream → Bool × DataStream
  | [], stream => (true, stream)
  | none :: _, stream => (false, stream)
  | some atom :: atoms, stream => DataStream.andThen (atom.write stream) (writeAtoms atoms)

/-- `write(stream)`: the size, the name, the capacity of an array, and the atoms. -/
def write (frame : DataFrame) (stream : DataStream) : Bool × DataStream :=
  let named := DataStream.andThen (StreamValue.write frame.size stream) fun stream =>
    StreamValue.write frame.name stream
  let sized := if frame.isArray then
      DataStream.andThen named fun stream => StreamValue.write frame.capacity stream
    else named
  DataStream.andThen sized (writeAtoms frame.atoms)

/-- The definition of a frame, its capacity, and the definitions, types and values of its atoms. -/
abbrev Content : Type :=
  Option DataFrameDefinition × UInt32 ×
    List (Option (DataAtomDefinition × (type : AtomType) × List type.Value))

/-- What a frame carries, as opposed to the indices its accessors work on. -/
def content (frame : DataFrame) : Content :=
  ⟨frame.definition, frame.capacity, frame.atoms.map (Option.map AbstractDataAtom.content)⟩

end DataFrame

end Threader
