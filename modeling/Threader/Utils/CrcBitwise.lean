import Threader.Base.ShiftRegister
import Threader.Utils.CrcUtils

/-! The table-driven checksums are the shift registers that their tables stand for. -/

namespace Threader

namespace CrcUtils

open ShiftRegister (Direction feed up down)

/-- The bits of a byte from the most significant one on. -/
def bitsUp (byte : UInt8) : List Bool := (List.range 8).map byte.toBitVec.getMsbD

/-- The bits of a byte from the least significant one on. -/
def bitsDown (byte : UInt8) : List Bool := (List.range 8).map byte.toBitVec.getLsbD

/-- The checksum of some bytes bit by bit, each byte from its most significant bit on. -/
def bitwiseUp {width : Nat} (polynomial start : BitVec width) (data : List UInt8) : BitVec width :=
  feed up polynomial start (data.flatMap bitsUp)

/-- The reflected checksum of some bytes, each byte from its least significant bit on. -/
def bitwiseDown {width : Nat} (polynomial start : BitVec width) (data : List UInt8) :
    BitVec width :=
  feed down polynomial start (data.flatMap bitsDown)

/-- The byte at the top of a register meets the byte that enters it. -/
theorem feed_up_byte {width : Nat} (polynomial register : BitVec width) {top : UInt8} (byte : UInt8)
    (head : ∀ place < 8, register.getMsbD place = top.toBitVec.getMsbD place) :
    feed up polynomial register (bitsUp byte) =
      register <<< 8 ^^^ feed up polynomial (BitVec.ofNat width 0) (bitsUp (top ^^^ byte)) := by
  rw [bitsUp, ShiftRegister.feed_map_range, ShiftRegister.iterate_up, bitsUp]
  congr 2
  refine List.map_congr_left fun place inside => ?_
  -- The bits that leave are those of the byte at the top.
  have inside := List.mem_range.mp inside
  rw [ShiftRegister.leaving_up, head place inside, UInt8.toBitVec_xor, BitVec.getMsbD_xor]

/-- The byte at the bottom of a register meets the byte that enters it. -/
theorem feed_down_byte {width : Nat} (polynomial register : BitVec width) {bottom : UInt8}
    (byte : UInt8)
    (tail : ∀ place < 8, register.getLsbD place = bottom.toBitVec.getLsbD place) :
    feed down polynomial register (bitsDown byte) =
      register >>> 8 ^^^
        feed down polynomial (BitVec.ofNat width 0) (bitsDown (bottom ^^^ byte)) := by
  rw [bitsDown, ShiftRegister.feed_map_range, ShiftRegister.iterate_down, bitsDown]
  congr 2
  refine List.map_congr_left fun place inside => ?_
  -- The bits that leave are those of the byte at the bottom.
  have inside := List.mem_range.mp inside
  rw [ShiftRegister.leaving_down, tail place inside, UInt8.toBitVec_xor, BitVec.getLsbD_xor]

set_option maxRecDepth 4000 in
/-- Every entry of the table for `Crc16` is the register that its index leads to. -/
theorem crc16Table_get (index : UInt8) :
    (crc16Table.get index.toFin).toBitVec = feed up 0x1021#16 0#16 (bitsUp index) := by
  have entries : crc16Table.toList.map UInt16.toBitVec = (List.range 256).map fun number =>
      feed up 0x1021#16 0#16 (bitsUp (UInt8.ofNat number)) := by decide
  have entry := get_of_toList entries index.toFin
  rwa [UInt8.toFin_val, UInt8.ofNat_toNat] at entry

set_option maxRecDepth 4000 in
/-- Every entry of the table for `Crc32` is the register that its index leads to. -/
theorem crc32Table_get (index : UInt8) :
    (crc32Table.get index.toFin).toBitVec = feed down 0xEDB88320#32 0#32 (bitsDown index) := by
  have entries : crc32Table.toList.map UInt32.toBitVec = (List.range 256).map fun number =>
      feed down 0xEDB88320#32 0#32 (bitsDown (UInt8.ofNat number)) := by decide
  have entry := get_of_toList entries index.toFin
  rwa [UInt8.toFin_val, UInt8.ofNat_toNat] at entry

set_option maxRecDepth 4000 in
/-- Every entry of the table for `Crc8` is the register that its index leads to. -/
theorem crc8Table_get (index : UInt8) :
    (crc8Table.get index.toFin).toBitVec = feed down 0x8C#8 0#8 (bitsDown index) := by
  have entries : crc8Table.toList.map UInt8.toBitVec = (List.range 256).map fun number =>
      feed down 0x8C#8 0#8 (bitsDown (UInt8.ofNat number)) := by decide
  have entry := get_of_toList entries index.toFin
  rwa [UInt8.toFin_val, UInt8.ofNat_toNat] at entry

/-- A turn of the loop of `Crc16` feeds the bits of a byte. -/
theorem crc16Step_toBitVec (crc : UInt16) (byte : UInt8) :
    (crc16Step crc byte).toBitVec = feed up 0x1021#16 crc.toBitVec (bitsUp byte) := by
  -- The index of the table is the upper byte, which meets the byte of the data.
  have head (place : Nat) (inside : place < 8) :
      crc.toBitVec.getMsbD place = (crc >>> 8).toUInt8.toBitVec.getMsbD place := by
    have low : 8 - 1 - place < 8 := by omega
    have same : 16 - 1 - place = 8 + (8 - 1 - place) := by omega
    simp [BitVec.getMsbD, inside, low, same, show place < 16 by omega]
  rw [feed_up_byte _ _ byte head, crc16Step, UInt16.toBitVec_xor, crc16Table_get]
  rfl

/-- A turn of the loop of `Crc32` feeds the bits of a byte. -/
theorem crc32Step_toBitVec (crc : UInt32) (byte : UInt8) :
    (crc32Step crc byte).toBitVec = feed down 0xEDB88320#32 crc.toBitVec (bitsDown byte) := by
  -- The index of the table is the lower byte, which meets the byte of the data.
  have tail (place : Nat) (inside : place < 8) :
      crc.toBitVec.getLsbD place = crc.toUInt8.toBitVec.getLsbD place := by
    simp [inside]
  have index : ((crc ^^^ byte.toUInt32) &&& 0xFF).toUInt8 = crc.toUInt8 ^^^ byte := by
    rw [UInt32.toUInt8_and, UInt32.toUInt8_xor, UInt8.toUInt8_toUInt32]
    exact UInt8.and_neg_one
  rw [feed_down_byte _ _ byte tail, crc32Step, UInt32.toBitVec_xor, index, crc32Table_get]
  rfl

/-- A turn of the loop of `Crc8` feeds the bits of a byte. -/
theorem crc8Step_toBitVec (crc : UInt8) (byte : UInt8) :
    (crc8Step crc byte).toBitVec = feed down 0x8C#8 crc.toBitVec (bitsDown byte) := by
  rw [feed_down_byte _ _ byte fun _ _ => rfl, crc8Step, crc8Table_get]
  -- Nothing but the entry is left of a register of eight bits.
  rw [BitVec.ushiftRight_eq_zero (Nat.le_refl 8), BitVec.zero_xor]

/-- The loop of `Crc16` feeds the bits of all bytes. -/
theorem foldl_crc16Step (start : UInt16) (data : List UInt8) :
    (data.foldl crc16Step start).toBitVec = bitwiseUp 0x1021#16 start.toBitVec data :=
  ShiftRegister.foldl_eq_feed up 0x1021#16 crc16Step_toBitVec start data

/--
The three checksums are those of their shift registers, for all bytes and all lengths.

A checksum that goes on from another one is the checksum of the joined bytes.
-/
theorem crc_bitwise :
    (∀ (start : UInt16) (data : List UInt8) (count : Int), (crc16From start data count).toBitVec =
      bitwiseUp 0x1021#16 start.toBitVec (data.take count.toNat)) ∧
    (∀ (data : List UInt8) (length : UInt16), (crc16 data length).toBitVec =
      bitwiseUp 0x1021#16 0xFFFF#16 (data.take length.toNat)) ∧
    (∀ (data : List UInt8) (length : UInt32), (crc32 data length).toBitVec =
      bitwiseDown 0xEDB88320#32 0xFFFFFFFF#32 (data.take length.toNat) ^^^ 0xFFFFFFFF#32) ∧
    (∀ (pcBlock : List UInt8) (len : UInt8), (crc8 pcBlock len).toBitVec =
      bitwiseDown 0x8C#8 0#8 (pcBlock.take len.toNat)) ∧
    ∀ (start : UInt16) (front back : List UInt8),
      crc16From (crc16From start front front.length) back back.length =
        crc16From start (front ++ back) (front ++ back).length := by
  have whole (start : UInt16) (data : List UInt8) (count : Int) :
      crc16From start data count = (data.take count.toNat).foldl crc16Step start := by
    unfold crc16From
    split
    · rfl
    · -- A count that is not positive leaves the start as it is.
      rename_i none
      rw [Int.toNat_eq_zero.mpr (by omega)]
      rfl
  refine ⟨?_, ?_, ?_, ?_, ?_⟩
  · intro start data count
    rw [whole, foldl_crc16Step]
  · intro data length
    exact foldl_crc16Step 0xFFFF (data.take length.toNat)
  · intro data length
    rw [crc32, UInt32.toBitVec_xor]
    exact congrArg (· ^^^ 0xFFFFFFFF#32)
      (ShiftRegister.foldl_eq_feed down 0xEDB88320#32 crc32Step_toBitVec 0xFFFFFFFF _)
  · intro pcBlock len
    exact ShiftRegister.foldl_eq_feed down 0x8C#8 crc8Step_toBitVec 0 _
  · intro start front back
    simp only [whole, Int.toNat_natCast, List.take_length, List.foldl_append]

end CrcUtils

end Threader
