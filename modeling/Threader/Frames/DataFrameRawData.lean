import Threader.Base.FixedWidth
import Threader.Base.Loop
import Threader.Frames.DataFramesCommon

/-! `DataFrameRawData`: frames kept as they were written, and the parser of a run of them. -/

namespace Threader

/-- `FrameSizeType`. -/
abbrev FrameSizeType := UInt32

/-- `PRIORITY_DEFAULT`. -/
def PRIORITY_DEFAULT : UInt8 := 1

/-- `DataFrameRawData`: the bytes of a frame without its size, and what is known about it. -/
structure DataFrameRawData where
  isValid : Bool
  buffer : QByteArray
  length : FrameSizeType
  -- The bytes that `data()` and `dataLength()` describe.
  data : QByteArray
  nameString : QString
  packetId : Int
  definition : Option DataFrameDefinition
deriving DecidableEq, Repr

namespace DataFrameRawData

/-- A block that is not taken for a frame. -/
def ignored : DataFrameRawData := ⟨false, [], 0, [], [], -1, none⟩

/-- `32 >= data[0]`, where a `char` is signed. -/
def startsBadly (first : UInt8) : Bool := (32 : Int8) ≥ first.toInt8

/-- The constructor, once it has copied a block of the given length. -/
def ofBlock [QtUtf8] (block : QByteArray) (length : FrameSizeType) : DataFrameRawData :=
  let zeroPosition := (block.findIdx? (· == 0)).getD 0
  -- The name is only taken over when something follows the NUL behind it.
  let hasData := zeroPosition > 0 && zeroPosition + 1 < length.toNat
  { isValid := true
    buffer := block
    length := length
    data := if hasData then block.drop (zeroPosition + 1) else []
    nameString := if hasData then QtUtf8.fromUtf8 (block.take zeroPosition) else []
    packetId := -1
    definition := none }

/--
The constructor `DataFrameRawData(data, length)`, on the bytes from a pointer up to the end of the
array it points into, or on a null pointer.

There is no result when bytes from behind the array would be copied.
The first byte behind an array is a NUL.
-/
def build [QtUtf8] (data : Option QByteArray) (length : FrameSizeType) : Option DataFrameRawData :=
  match data with
  | none => some ignored
  | some data =>
    if length = 0 || startsBadly (data.headD 0) then some ignored
    else if length.toNat ≤ data.length then some (ofBlock (data.take length.toNat) length)
    else none

/-- `streamSize()`, which is only used to reserve memory. -/
def streamSize (frame : DataFrameRawData) : Int := frame.length.toNat + 2

/-- `appendByteArray(array, clear)`: the length and the block. -/
def appendByteArray (frame : DataFrameRawData) (array : QByteArray) (clear : Bool) : QByteArray :=
  (if clear then [] else array) ++ FixedWidth.toBytes frame.length ++ frame.buffer

/-- `toString()`. -/
def toString (frame : DataFrameRawData) : QString := frame.nameString

/-- `priority()`: that of the definition. -/
def priority (frame : DataFrameRawData) : UInt8 :=
  match frame.definition with
  | some definition => definition.priority
  | none => PRIORITY_DEFAULT

/-- `setPacketId(packetId)`. -/
def setPacketId (packetId : Int) (frame : DataFrameRawData) : DataFrameRawData :=
  { frame with packetId := packetId }

/-- `setDefinition(definition)`. -/
def setDefinition (definition : Option DataFrameDefinition) (frame : DataFrameRawData) :
    DataFrameRawData :=
  { frame with definition := definition }

/-- The place of a block in the array that is parsed. -/
structure Block where
  position : FrameSizeType
  length : FrameSizeType
deriving DecidableEq, Repr

/-- The length of the block that is announced at a position. -/
def frameLength (source : QByteArray) (position : FrameSizeType) : FrameSizeType :=
  FixedWidth.ofBytes ((source.drop position.toNat).take 4)

/--
A turn of the loop of `parse`, which yields the block of a frame and the position behind it.

The sum with `sizeof` has 64 bits, and the sum with the length of the frame has 32.
-/
def parseTurn (source : QByteArray) (position : FrameSizeType) : Option (Block × FrameSizeType) :=
  let sourceSize := UInt32.ofNat source.length
  if position.toNat + 4 ≤ sourceSize.toNat then
    let length := frameLength source position
    let position := position + 4
    if position + length ≤ sourceSize then some (⟨position, length⟩, position + length) else none
  else none

/-- The frame that is constructed from a block. -/
def ofSource [QtUtf8] (source : QByteArray) (block : Block) : Option DataFrameRawData :=
  build (some (source.drop block.position.toNat)) block.length

/--
`parse(source, result)`, which has no result if it never ends or reads behind the source.

A position that comes back comes back for ever, and there is one for each byte at most.
-/
def parse [QtUtf8] (source : QByteArray) : Option (List DataFrameRawData) :=
  match Loop.within (parseTurn source) (source.length + 1) 0 with
  | none => none
  | some blocks =>
    match blocks.mapM (ofSource source) with
    | none => none
    | some frames => some (frames.filter isValid)

/-- `loadFromFile(fileName, definitions, list)` for a file that can be opened. -/
def loadFromFile [QtText] [QtUtf8] (fileContent : QByteArray)
    (definitions : Option DataFramesDefinitions) : Option (List DataFrameRawData) :=
  match parse fileContent with
  | none => none
  | some frames =>
    match definitions with
    | none => some frames
    | some definitions =>
      some (frames.map fun frame => frame.setDefinition (definitions.definitionByKey frame.toString))

/-- A block that lies inside the array that is parsed. -/
def Block.Inside (source : QByteArray) (block : Block) : Prop :=
  block.position.toNat + block.length.toNat ≤ source.length

/-- The block announced at a position ends without a 32-bit sum wrapping around. -/
def EndsInRange (source : QByteArray) (position : FrameSizeType) : Prop :=
  position.toNat + 4 + (frameLength source position).toNat < 4294967296

/-- A turn takes the block behind the length at its position, if it seems to be there. -/
theorem parseTurn_eq_some {source : QByteArray} {position next : FrameSizeType} {block : Block}
    (turned : parseTurn source position = some (block, next)) :
    position.toNat + 4 ≤ (UInt32.ofNat source.length).toNat ∧
      block = ⟨position + 4, frameLength source position⟩ ∧
      next = position + 4 + frameLength source position ∧ next ≤ UInt32.ofNat source.length := by
  -- The turn goes on behind two checks against the size of the source.
  simp only [parseTurn] at turned
  split at turned
  · rename_i length
    split at turned
    · rename_i seems
      cases turned
      exact ⟨length, rfl, rfl, seems⟩
    · cases turned
  · cases turned

/-- The number of bytes of an array is kept in 32 bits as it is. -/
theorem toNat_sourceSize {source : QByteArray} (fits : source.length < 2147483648) :
    (UInt32.ofNat source.length).toNat = source.length := by
  rw [UInt32.toNat_ofNat']
  omega

/-- A block that seems to be there is there exactly when no sum wraps around. -/
theorem inside_iff_endsInRange {source : QByteArray} (fits : source.length < 2147483648)
    {position next : FrameSizeType} {block : Block}
    (turned : parseTurn source position = some (block, next)) :
    block.Inside source ↔ EndsInRange source position := by
  obtain ⟨length, rfl, rfl, seems⟩ := parseTurn_eq_some turned
  have size := toNat_sourceSize fits
  rw [UInt32.le_iff_toNat_le, size, UInt32.toNat_add, UInt32.toNat_add] at seems
  have four : (4 : UInt32).toNat = 4 := rfl
  simp only [Block.Inside, EndsInRange, UInt32.toNat_add, four] at seems ⊢
  omega

/-- A turn that takes a block which is there moves the position behind it. -/
theorem advances_of_endsInRange {source : QByteArray} (fits : source.length < 2147483648)
    {position next : FrameSizeType} {block : Block}
    (turned : parseTurn source position = some (block, next))
    (inRange : EndsInRange source position) :
    position.toNat < next.toNat ∧ next.toNat ≤ source.length := by
  -- A block in range keeps the sum of the position and the length below 32 bits.
  obtain ⟨length, rfl, rfl, seems⟩ := parseTurn_eq_some turned
  have size := toNat_sourceSize fits
  rw [UInt32.le_iff_toNat_le, size] at seems
  have four : (4 : UInt32).toNat = 4 := rfl
  simp only [EndsInRange] at inRange
  simp only [UInt32.toNat_add, four] at seems ⊢
  omega

/--
The loop of `parse` ends, moves on with every turn, and takes only blocks that lie inside the
source, exactly when no sum of a position and a length that it uses wraps around.
-/
theorem parse_safe_iff {source : QByteArray} (fits : source.length < 2147483648) :
    ((∃ blocks last, Loop.Ends (parseTurn source) 0 blocks last) ∧
      ∀ position block next, Loop.Reaches (parseTurn source) 0 position →
        parseTurn source position = some (block, next) →
        position < next ∧ block.Inside source) ↔
    ∀ position, Loop.Reaches (parseTurn source) 0 position →
      (parseTurn source position).isSome → EndsInRange source position := by
  constructor
  · intro safe position reached turns
    obtain ⟨⟨block, next⟩, turned⟩ := Option.isSome_iff_exists.mp turns
    exact (inside_iff_endsInRange fits turned).mp (safe.2 position block next reached turned).2
  · intro inRange
    have turn (position : FrameSizeType) (block : Block) (next : FrameSizeType)
        (reached : Loop.Reaches (parseTurn source) 0 position)
        (turned : parseTurn source position = some (block, next)) :
        EndsInRange source position :=
      inRange position reached (Option.isSome_iff_exists.mpr ⟨_, turned⟩)
    -- The bytes behind the position become fewer with every turn.
    have fewer (position next : FrameSizeType) (reached : Loop.Reaches (parseTurn source) 0 position)
        (goes : Loop.Goes (parseTurn source) position next) :
        source.length - next.toNat < source.length - position.toNat := by
      obtain ⟨block, turned⟩ := goes
      have moved := advances_of_endsInRange fits turned (turn position block next reached turned)
      omega
    obtain ⟨blocks, last, ends, _⟩ := Loop.ends_of_decreases fewer
    refine ⟨⟨blocks, last, ends⟩, fun position block next reached turned => ?_⟩
    have here := turn position block next reached turned
    exact ⟨UInt32.lt_iff_toNat_lt.mpr (advances_of_endsInRange fits turned here).1,
      (inside_iff_endsInRange fits turned).mpr here⟩

/-- The parser is safe on the single frame `A`. -/
theorem parse_safe_iff_single :
    let source : QByteArray := [1, 0, 0, 0, 65]
    (∃ blocks last, Loop.Ends (parseTurn source) 0 blocks last) ∧
      ∀ position block next, Loop.Reaches (parseTurn source) 0 position →
        parseTurn source position = some (block, next) →
        position < next ∧ block.Inside source := by
  intro source
  refine (parse_safe_iff (by decide)).mpr fun position reached turns => ?_
  -- The loop is at the beginning of the frame or behind it.
  have places : position = 0 ∨ position = 5 :=
    @Loop.Reaches.invariant _ _ _ _ _ reached (fun position => position = 0 ∨ position = 5)
      (.inl rfl) (by
        rintro before after ⟨block, goes⟩ (rfl | rfl)
        · cases (show some (⟨4, 1⟩, 5) = some (block, after) from goes)
          exact .inr rfl
        · cases (show none = some (block, after) from goes))
  rcases places with rfl | rfl
  · show 0 + 4 + 1 < 4294967296
    omega
  · cases (show false = true from turns)

/-- A length near the end of its range takes the loop back to where it was. -/
theorem parse_safe_fails :
    ¬ ∀ source : QByteArray, source.length < 2147483648 →
      (∃ blocks last, Loop.Ends (parseTurn source) 0 blocks last) ∧
        ∀ position block next, Loop.Reaches (parseTurn source) 0 position →
          parseTurn source position = some (block, next) →
          position < next ∧ block.Inside source := by
  intro safe
  obtain ⟨⟨blocks, last, ends⟩, _⟩ := safe [0xFC, 0xFF, 0xFF, 0xFF] (by decide)
  exact Loop.not_ends_of_fixed ⟨⟨4, 0xFFFFFFFC⟩, by decide⟩ blocks last ends

end DataFrameRawData

end Threader
