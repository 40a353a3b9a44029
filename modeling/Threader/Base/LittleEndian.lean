import Mathlib.Algebra.Group.Nat.Defs

/-! Fixed-width little-endian words as byte lists, read back from the front of a longer list. -/

namespace ByteWords

/-- The low `width` bytes of a number, least significant first. -/
def encode : Nat → Nat → List UInt8
  | 0, _ => []
  | width + 1, value => UInt8.ofNat (value % 256) :: encode width (value / 256)

/-- The number a run of bytes stands for, least significant first. -/
def decode : List UInt8 → Nat
  | [] => 0
  | byte :: rest => byte.toNat + 256 * decode rest

/-- A word takes exactly the width it was written at. -/
@[simp] theorem encode_length (width value : Nat) : (encode width value).length = width := by
  -- Every byte written consumes one unit of width, whatever the value still holds.
  induction width generalizing value with
  | zero => rfl
  | succ width ih => simp only [encode, List.length_cons, ih]

/-- A run of bytes never exceeds the range of its width. -/
theorem decode_lt (bytes : List UInt8) : decode bytes < 256 ^ bytes.length := by
  -- The low byte is below 256, and the rest is bounded one width down.
  induction bytes with
  | nil => simp [decode]
  | cons byte rest ih =>
    have small := byte.toNat_lt
    simp only [decode, List.length_cons, Nat.pow_succ]
    omega

/-- Reading a written word gives the value back, up to what its width can hold. -/
theorem decode_encode (width value : Nat) : decode (encode width value) = value % 256 ^ width := by
  -- Induction on the width, with the value free to become the quotient.
  induction width generalizing value with
  | zero => simp [encode, decode, Nat.mod_one]
  | succ width ih =>
    -- The low byte is the residue, and the remaining bytes carry the quotient.
    have low : (UInt8.ofNat (value % 256)).toNat = value % 256 := by
      simp only [UInt8.toNat_ofNat']
      omega
    rw [encode, decode, ih, low, Nat.pow_succ', Nat.mod_mul]

/-- A value inside the range of its width survives being written and read. -/
theorem decode_encode_of_lt {width value : Nat} (fits : value < 256 ^ width) :
    decode (encode width value) = value := by
  -- Inside the range of the width, the reduction changes nothing.
  rw [decode_encode, Nat.mod_eq_of_lt fits]

/-- Writing what was read reproduces the bytes that were read. -/
theorem encode_decode (bytes : List UInt8) : encode bytes.length (decode bytes) = bytes := by
  -- Every byte carries one digit in base 256, so no digit is lost on the way.
  induction bytes with
  | nil => rfl
  | cons byte rest ih =>
    -- Splitting off the low byte leaves the same claim about the remaining ones.
    have small := byte.toNat_lt
    have low : (byte.toNat + 256 * decode rest) % 256 = byte.toNat := by omega
    have high : (byte.toNat + 256 * decode rest) / 256 = decode rest := by omega
    rw [List.length_cons, decode, encode, low, high, ih, UInt8.ofNat_toNat]

end ByteWords
