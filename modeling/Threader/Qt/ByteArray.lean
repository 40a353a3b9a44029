import Mathlib.Data.List.Basic

/-! The operations of Qt's `QByteArray` that the packet and stream code rests on. -/

namespace Threader

/--
The bytes of a `QByteArray`.

Its size is an `int`, so a real one stays below `2^31` bytes, and casts of its size are exact.
-/
abbrev QByteArray := List UInt8

namespace QByteArray

/-- The bytes a `const char *` argument stands for: those in front of the first NUL. -/
def cString (literal : List UInt8) : List UInt8 :=
  literal.takeWhile (· != 0)

/-- The first place at or after `position` where the needle occurs, or `-1`. -/
def findFrom (needle : List UInt8) : QByteArray → Nat → Int
  | [], position => if needle.isEmpty then position else -1
  | byte :: rest, position =>
    if needle.isPrefixOf (byte :: rest) then position else findFrom needle rest (position + 1)

/-- `indexOf(const char *str)`: the needle ends at its first NUL. -/
def indexOf (data : QByteArray) (literal : List UInt8) : Int :=
  findFrom (cString literal) data 0

/-- An empty needle is found at once, in an empty array too. -/
theorem findFrom_nil (data : QByteArray) (position : Nat) : findFrom [] data position = position := by
  cases data <;> simp [findFrom]

/-- `indexOf(char c, int from)`: the first place of a byte at or after `from`, or `-1`. -/
def indexOfByte (data : QByteArray) (byte : UInt8) (start : Int) : Int :=
  match (data.drop start.toNat).findIdx? (· == byte) with
  | some offset => start + offset
  | none => -1

/-- `resize(int size)`: Qt leaves the new bytes unset, and zeros stand for them here. -/
def resize (data : QByteArray) (size : Nat) : QByteArray :=
  data.take size ++ List.replicate (size - data.length) 0

/-- `memcpy` into the array at a position. -/
def overwrite (data : QByteArray) (position : Nat) (value : List UInt8) : QByteArray :=
  data.take position ++ value ++ data.drop (position + value.length)

/-- Copying a value behind some bytes replaces as many bytes that follow them. -/
theorem overwrite_append (front back value : List UInt8) :
    overwrite (front ++ back) front.length value = front ++ value ++ back.drop value.length := by
  rw [overwrite, List.take_left, ← List.drop_drop, List.drop_left]

/-- An array that grows keeps what it has. -/
theorem resize_append (front back : List UInt8) {size : Nat}
    (more : (front ++ back).length ≤ size) :
    resize (front ++ back) size =
      front ++ (back ++ List.replicate (size - (front ++ back).length) 0) := by
  rw [resize, List.take_of_length_le more, List.append_assoc]

/-- A byte is found right behind a run that does not contain it. -/
theorem indexOfByte_append (front : List UInt8) {run : List UInt8} {byte : UInt8}
    (absent : byte ∉ run) (rest : List UInt8) :
    indexOfByte (front ++ (run ++ byte :: rest)) byte front.length = front.length + run.length := by
  -- The search skips what precedes its start and then the run.
  have found : (run ++ byte :: rest).findIdx? (· == byte) = some run.length := by
    rw [List.findIdx?_append, List.findIdx?_eq_none_iff.mpr]
    · simp [List.findIdx?_cons]
    · intro other member
      simpa using fun same : other = byte => absent (same ▸ member)
  simp [indexOfByte, found]

end QByteArray

end Threader
