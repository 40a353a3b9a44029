import Threader.Frames.DataFrameRawData
import Threader.Threads.HandlerBase

/-! `HandlerBase::readString` and `HandlerBase::readBytes`, and what they make of a failed read. -/

namespace Threader

/-- `QByteArray::append(const char *str, int len)`: a negative length stands for that of a C string. -/
def QByteArray.appendData (data : QByteArray) (str : List UInt8) (len : Int) : QByteArray :=
  if len < 0 then data ++ cString str else data ++ str.take len.toNat

/-- What the device answers while one of the two functions runs. -/
structure DeviceRead where
  -- The result of `inputBytesAvailable`.
  available : Int
  -- The result of `read`.
  readCount : Int
  -- The bytes from the start of the new array on, when `read` has returned.
  memory : List UInt8
deriving DecidableEq, Repr

namespace DeviceRead

/-- A read fails with `-1`, or fills as many bytes as it says of an array that has room for them. -/
structure Valid (input : DeviceRead) : Prop where
  failed : -1 ≤ input.readCount
  room : 0 < input.available → input.readCount ≤ input.available
  -- The array of `readString` is the longer one.
  allocated : input.available + 1 ≤ input.memory.length

/-- The bytes that were read. -/
def received (input : DeviceRead) : QByteArray :=
  if input.available > 0 then input.memory.take input.readCount.toNat else []

/-- `readBytes()`. -/
def readBytes (input : DeviceRead) : QByteArray :=
  if input.available > 0 then
    if input.readCount ≠ 0 then QByteArray.appendData [] input.memory input.readCount else []
  else []

/-- `data[index] = 0`, which leaves the array alone if it is in front of it. -/
def terminate (memory : List UInt8) (index : Int) : List UInt8 :=
  if index < 0 then memory else memory.set index.toNat 0

variable [QtUtf8]

/-- `readString()`: the index of the terminator if one is stored, and the text. -/
def readString (input : DeviceRead) : Option Int × QString :=
  if input.available > 0 then
    if input.readCount ≠ 0 then
      (some input.readCount,
        QtUtf8.fromUtf8 (QByteArray.cString (terminate input.memory input.readCount)))
    else (none, [])
  else (none, [])

omit [QtUtf8] in
/-- `readBytes` returns what was read. -/
def HonoursBytes (input : DeviceRead) : Prop := input.readBytes = input.received

/-- `readString` stores inside its array, and returns what was read up to the first NUL. -/
structure HonoursString (input : DeviceRead) : Prop where
  inside : ∀ index ∈ input.readString.1, 0 ≤ index ∧ index < input.available + 1
  text : input.readString.2 = QtUtf8.fromUtf8 (QByteArray.cString input.received)

omit [QtUtf8] in
/-- A NUL behind some bytes ends the C string that they begin. -/
theorem cString_terminate {memory : List UInt8} {count : Nat} (inside : count < memory.length) :
    QByteArray.cString (terminate memory count) = QByteArray.cString (memory.take count) := by
  rw [terminate, if_neg (by omega), Int.toNat_natCast, List.set_eq_take_append_cons_drop,
    if_pos inside, QByteArray.cString, QByteArray.cString, List.takeWhile_append]
  -- Behind the bytes stands the NUL, and nothing else is taken.
  split
  · rename_i all
    rw [(List.takeWhile_prefix _).eq_of_length all]
    simp
  · rfl

omit [QtUtf8] in
/-- A C string is empty if it begins with its NUL. -/
theorem cString_eq_nil_iff {memory : List UInt8} (nonempty : memory ≠ []) :
    QByteArray.cString memory = [] ↔ memory.head? = some 0 := by
  obtain ⟨first, rest, rfl⟩ := List.exists_cons_of_ne_nil nonempty
  rw [QByteArray.cString, List.takeWhile_cons]
  split
  · rename_i other
    exact iff_of_false (List.cons_ne_nil _ _) (by simpa using other)
  · rename_i nul
    exact iff_of_true rfl (by simpa using nul)

omit [QtUtf8] in
/-- Without a failure, and also if the array happens to begin with a NUL, `readBytes` is right. -/
theorem Valid.honoursBytes_iff {input : DeviceRead} (valid : input.Valid) :
    input.HonoursBytes ↔
      input.available ≤ 0 ∨ 0 ≤ input.readCount ∨ input.memory.head? = some 0 := by
  have allocated := valid.allocated
  unfold HonoursBytes readBytes received
  by_cases available : input.available > 0
  · rw [if_pos available, if_pos available]
    have nonempty : input.memory ≠ [] := by
      rw [← List.length_pos_iff]
      omega
    rcases Int.lt_trichotomy input.readCount 0 with below | zero | above
    · -- The whole array is taken for a C string.
      rw [if_pos (by omega), QByteArray.appendData, if_pos below, List.nil_append,
        show input.readCount.toNat = 0 by omega, List.take_zero, cString_eq_nil_iff nonempty]
      constructor
      · intro nul
        exact .inr (.inr nul)
      · rintro (none | done | nul)
        · omega
        · omega
        · exact nul
    · rw [if_neg (by omega), zero]
      exact iff_of_true rfl (.inr (.inl (Int.le_refl 0)))
    · rw [if_pos (by omega), QByteArray.appendData, if_neg (by omega), List.nil_append]
      exact iff_of_true rfl (.inr (.inl (Int.le_of_lt above)))
  · rw [if_neg available, if_neg available]
    exact iff_of_true rfl (.inl (by omega))

/-- `readString` is right exactly without a failure, whatever the array holds. -/
theorem Valid.honoursString_iff {input : DeviceRead} (valid : input.Valid) :
    input.HonoursString ↔ input.available ≤ 0 ∨ 0 ≤ input.readCount := by
  have allocated := valid.allocated
  have empty : QtUtf8.fromUtf8 [] = [] := QtUtf8.fromUtf8_ascii (by simp)
  constructor
  · intro honours
    by_contra failed
    obtain ⟨available, below⟩ := not_or.mp failed
    -- The terminator is stored in front of the array.
    have stored : input.readString.1 = some input.readCount := by
      rw [readString, if_pos (by omega), if_pos (by omega)]
    have inside := honours.inside input.readCount stored
    omega
  · intro done
    by_cases available : input.available > 0
    · have room := valid.room available
      rcases Int.lt_trichotomy input.readCount 0 with below | zero | above
      · omega
      · have read : input.readString = (none, []) := by
          rw [readString, if_pos available, if_neg (by omega)]
        refine ⟨?_, ?_⟩
        · intro index stored
          rw [read] at stored
          cases stored
        · rw [read, received, if_pos available, zero]
          exact empty.symm
      · have read : input.readString = (some input.readCount,
            QtUtf8.fromUtf8 (QByteArray.cString (terminate input.memory input.readCount))) := by
          rw [readString, if_pos available, if_pos (by omega)]
        refine ⟨?_, ?_⟩
        · intro index stored
          rw [read] at stored
          obtain rfl := Option.some.inj stored
          omega
        · have ended := @cString_terminate input.memory input.readCount.toNat (by omega)
          rw [Int.toNat_of_nonneg (Int.le_of_lt above)] at ended
          rw [read, received, if_pos available, ended]
    · have read : input.readString = (none, []) := by rw [readString, if_neg available]
      refine ⟨?_, ?_⟩
      · intro index stored
        rw [read] at stored
        cases stored
      · rw [read, received, if_neg available]
        exact empty.symm

/--
Both functions honour the result of a read exactly if it did not fail.

Where no bytes are available, there is no read that could fail.
-/
theorem honours_iff {input : DeviceRead} (valid : input.Valid) :
    (input.HonoursBytes ∧ input.HonoursString) ↔ input.available ≤ 0 ∨ 0 ≤ input.readCount := by
  rw [valid.honoursBytes_iff, valid.honoursString_iff]
  constructor
  · intro both
    exact both.2
  · intro done
    refine ⟨?_, done⟩
    -- What is right for the text is right for the bytes.
    rcases done with none | done
    · exact .inl none
    · exact .inr (.inl done)

omit [QtUtf8] in
/-- Two of four bytes are read, and the others are no part of any result. -/
theorem honours_short_read :
    let _ := QtUtf8.ascii
    let input : DeviceRead := ⟨4, 2, [0x4F, 0x4B, 0xCD, 0xCD, 0xCD]⟩
    (input.HonoursBytes ∧ input.HonoursString) ↔ input.available ≤ 0 ∨ 0 ≤ input.readCount := by
  let _ := QtUtf8.ascii
  exact honours_iff ⟨by decide, by decide, by decide⟩

omit [QtUtf8] in
/-- After a read that failed, a byte is stored in front of the array, and what it held is returned. -/
theorem honours_failed_read :
    let _ := QtUtf8.ascii
    let input : DeviceRead := ⟨4, -1, [0xCD, 0xCD, 0, 0, 0]⟩
    input.Valid ∧ input.readString.1 = some (-1) ∧ input.readBytes = [0xCD, 0xCD] ∧
      ¬ input.HonoursBytes ∧ ¬ input.HonoursString := by
  intro _ input
  have valid : input.Valid := ⟨by decide, by decide, by decide⟩
  refine ⟨valid, rfl, rfl, ?_, ?_⟩
  · rw [valid.honoursBytes_iff]
    decide
  · rw [valid.honoursString_iff]
    decide

end DeviceRead

end Threader
