import Threader.Base.LittleEndian

/-! Types whose values occupy a fixed number of bytes in memory, copied as they are. -/

/-- The memory image of a type: as many bytes for every value, from which the value is recovered. -/
class FixedWidth (α : Type) where
  /-- The number of bytes a value occupies. -/
  width : Nat
  /-- The bytes of a value, in memory order. -/
  toBytes : α → List UInt8
  /-- The value a run of bytes stands for. -/
  ofBytes : List UInt8 → α
  width_pos : 0 < width
  toBytes_length : ∀ value, (toBytes value).length = width
  ofBytes_toBytes : ∀ value, ofBytes (toBytes value) = value

namespace FixedWidth

/-- A value is never written as an empty run of bytes. -/
theorem toBytes_ne_nil {α : Type} [FixedWidth α] (value : α) : toBytes value ≠ [] := by
  -- The run is as long as its type is wide, and no type is zero bytes wide.
  intro empty
  have width := toBytes_length value
  have positive := width_pos (α := α)
  rw [empty, List.length_nil] at width
  omega

/-- The image of a type whose values are the numbers of a little-endian word. -/
@[reducible]
def ofNat {α : Type} (width : Nat) (toNat : α → Nat) (ofNat : Nat → α) (positive : 0 < width)
    (bound : ∀ value, toNat value < 256 ^ width) (inverse : ∀ value, ofNat (toNat value) = value) :
    FixedWidth α where
  width := width
  toBytes value := ByteWords.encode width (toNat value)
  ofBytes bytes := ofNat (ByteWords.decode bytes)
  width_pos := positive
  toBytes_length value := ByteWords.encode_length width (toNat value)
  ofBytes_toBytes value := by rw [ByteWords.decode_encode_of_lt (bound value), inverse]

/-- A run of bytes is the image of the value it stands for, when every word is a value. -/
theorem toBytes_ofBytes_ofNat {α : Type} {width : Nat} {toNat : α → Nat} {ofNat : Nat → α}
    (positive : 0 < width) (bound : ∀ value, toNat value < 256 ^ width)
    (inverse : ∀ value, ofNat (toNat value) = value)
    (exact : ∀ number, number < 256 ^ width → toNat (ofNat number) = number)
    {bytes : List UInt8} (length : bytes.length = width) :
    (FixedWidth.ofNat width toNat ofNat positive bound inverse).toBytes
      ((FixedWidth.ofNat width toNat ofNat positive bound inverse).ofBytes bytes) = bytes := by
  -- The bytes decode to a number inside the range, which the value keeps exactly.
  subst length
  show ByteWords.encode _ (toNat (ofNat (ByteWords.decode bytes))) = bytes
  rw [exact _ (ByteWords.decode_lt bytes), ByteWords.encode_decode]

instance : FixedWidth UInt8 :=
  ofNat 1 UInt8.toNat UInt8.ofNat (by decide) UInt8.toNat_lt fun _ => UInt8.ofNat_toNat

instance : FixedWidth UInt16 :=
  ofNat 2 UInt16.toNat UInt16.ofNat (by decide) UInt16.toNat_lt fun _ => UInt16.ofNat_toNat

instance : FixedWidth UInt32 :=
  ofNat 4 UInt32.toNat UInt32.ofNat (by decide) UInt32.toNat_lt fun _ => UInt32.ofNat_toNat

instance : FixedWidth UInt64 :=
  ofNat 8 UInt64.toNat UInt64.ofNat (by decide) UInt64.toNat_lt fun _ => UInt64.ofNat_toNat

instance : FixedWidth Int8 :=
  ofNat 1 (fun value => value.toUInt8.toNat) (fun number => (UInt8.ofNat number).toInt8) (by decide)
    (fun value => value.toUInt8.toNat_lt) fun value => by simp

instance : FixedWidth Int16 :=
  ofNat 2 (fun value => value.toUInt16.toNat) (fun number => (UInt16.ofNat number).toInt16)
    (by decide) (fun value => value.toUInt16.toNat_lt) fun value => by simp

instance : FixedWidth Int32 :=
  ofNat 4 (fun value => value.toUInt32.toNat) (fun number => (UInt32.ofNat number).toInt32)
    (by decide) (fun value => value.toUInt32.toNat_lt) fun value => by simp

instance : FixedWidth Int64 :=
  ofNat 8 (fun value => value.toUInt64.toNat) (fun number => (UInt64.ofNat number).toInt64)
    (by decide) (fun value => value.toUInt64.toNat_lt) fun value => by simp

/-- A truth value is one byte, and any byte but zero reads as true. -/
instance : FixedWidth Bool :=
  ofNat 1 Bool.toNat (· != 0) (by decide) (fun value => by cases value <;> decide)
    fun value => by cases value <;> rfl

end FixedWidth
