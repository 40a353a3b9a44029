import Threader.Base.ValueLayout
import Threader.Utils.DataStreamValues

/-! What the reads of a `DataStream` make of data that end too early. -/

namespace Threader

namespace DataStream

/--
The bytes ahead of the cursor of a stream.

The array is as short as the header in front of its bytes makes it, so no sum of its size and the
width of a number exceeds an int.
-/
def Ahead (bytes : List UInt8) (stream : DataStream) : Prop :=
  ∃ front, stream = between front bytes ∧ (front ++ bytes).length < 2147483640

/-- A read operation refuses the bytes ahead, or goes on to the bytes that are left. -/
def Reads {γ : Type} (left : List UInt8 → Option (List UInt8))
    (read : DataStream → Bool × γ × DataStream) : Prop :=
  ∀ ⦃bytes stream⦄, Ahead bytes stream →
    match left bytes with
    | none => (read stream).1 = false
    | some rest => (read stream).1 = true ∧ Ahead rest (read stream).2.2

/-- The two outcomes of a read. -/
theorem Reads.cases {γ : Type} {left : List UInt8 → Option (List UInt8)}
    {read : DataStream → Bool × γ × DataStream} (reads : Reads left read) {bytes : List UInt8}
    {stream : DataStream} (ahead : Ahead bytes stream) :
    (left bytes = none ∧ (read stream).1 = false) ∨
      ∃ rest, left bytes = some rest ∧ (read stream).1 = true ∧ Ahead rest (read stream).2.2 := by
  have result := reads ahead
  -- The outcome is decided by the bytes ahead.
  cases next : left bytes with
  | none =>
    rw [next] at result
    exact .inl ⟨rfl, result⟩
  | some rest =>
    rw [next] at result
    exact .inr ⟨rest, rfl, result⟩

/-- A read succeeds unless the bytes ahead are refused. -/
theorem Reads.fst_eq {γ : Type} {left : List UInt8 → Option (List UInt8)}
    {read : DataStream → Bool × γ × DataStream} (reads : Reads left read) {bytes : List UInt8}
    {stream : DataStream} (ahead : Ahead bytes stream) : (read stream).1 = (left bytes).isSome := by
  obtain ⟨refused, failed⟩ | ⟨rest, taken, done, _⟩ := reads.cases ahead
  · rw [refused, failed]
    rfl
  · rw [taken, done]
    rfl

/-- Moving over bytes leaves those behind them ahead. -/
theorem Ahead.setPosition {front skipped rest : List UInt8}
    (fits : (front ++ (skipped ++ rest)).length < 2147483640) :
    Ahead rest ((between front (skipped ++ rest)).setPosition (front.length + skipped.length)) := by
  -- The bytes that are skipped join those in front of the cursor.
  rw [between_setPosition]
  exact ⟨front ++ skipped, rfl, by rwa [List.append_assoc]⟩

/-- A number is read from its bytes, and the cursor moves over them. -/
theorem readFixed_of_le {α : Type} [FixedWidth α] {front bytes : List UInt8}
    (enough : FixedWidth.width α ≤ bytes.length) (fits : (front ++ bytes).length < 2147483640)
    (old : α) :
    readFixed old (between front bytes) =
      (true, FixedWidth.ofBytes (bytes.take (FixedWidth.width α)),
        between (front ++ bytes.take (FixedWidth.width α)) (bytes.drop (FixedWidth.width α))) := by
  have positive := FixedWidth.width_pos (α := α)
  have split := List.take_append_drop (FixedWidth.width α) bytes
  have width : (bytes.take (FixedWidth.width α)).length = FixedWidth.width α :=
    List.length_take_of_le enough
  have some : bytes.take (FixedWidth.width α) ≠ [] := by
    rw [← List.length_pos_iff, width]
    exact positive
  -- The bytes of the number are the first of those ahead.
  have raw := @readRaw_between front (bytes.take (FixedWidth.width α))
    (bytes.drop (FixedWidth.width α)) some (by rw [split]; omega)
  rw [split, width] at raw
  exact readFixed_of_readRaw raw

/-- A number is not read when bytes of it are missing. -/
theorem readFixed_of_lt {α : Type} [FixedWidth α] (narrow : FixedWidth.width α ≤ 8)
    {front bytes : List UInt8} (short : bytes.length < FixedWidth.width α)
    (fits : (front ++ bytes).length < 2147483640) (old : α) :
    (readFixed old (between front bytes)).1 = false := by
  rw [List.length_append] at fits
  -- The cursor is moved to the end, where nothing is read.
  have exactly : MachineInt.toInt32 ((front.length : Int) + FixedWidth.width α) =
      front.length + FixedWidth.width α := MachineInt.toInt32_of_fits (by omega) (by omega)
  have beyond : (front.length : Int) + FixedWidth.width α > front.length + bytes.length := by
    omega
  have moved := between_setPosition front bytes []
  rw [List.append_nil] at moved
  have raw : ((between front bytes).readRaw (FixedWidth.width α)).1 = none := by
    simp only [readRaw, between_position, exactly, between_size, if_pos beyond, moved,
      between_endOfData, decide_true, if_true]
  rw [readFixed]
  split
  · rfl
  · rename_i read
    rw [read] at raw
    cases raw

/-- A number is read unless fewer bytes are ahead than it takes. -/
theorem reads_fixed {α : Type} [FixedWidth α] (narrow : FixedWidth.width α ≤ 8) (old : α) :
    Reads (ValueLayout.fixed (FixedWidth.width α)).after (readFixed old) := by
  rintro bytes _ ⟨front, rfl, fits⟩
  -- Either all bytes of the number are ahead, or the read fails.
  by_cases enough : FixedWidth.width α ≤ bytes.length
  · rw [ValueLayout.after, if_neg (Nat.not_lt.mpr enough), readFixed_of_le enough fits]
    exact ⟨rfl, _, rfl, by rwa [List.append_assoc, List.take_append_drop]⟩
  · rw [ValueLayout.after, if_pos (Nat.not_le.mp enough)]
    exact readFixed_of_lt narrow (Nat.not_le.mp enough) fits old

/-- The cursor moves behind the last byte of a text. -/
theorem readString_snd {front text rest : List UInt8}
    (last : (if (between front (text ++ rest)).indexOf 0 = -1 then
      (between front (text ++ rest)).size - 1 else (between front (text ++ rest)).indexOf 0) =
        front.length + text.length - 1) :
    (between front (text ++ rest)).readString.2 = between (front ++ text) rest := by
  -- The cursor moves over as many bytes as lie between it and the last one.
  have size : (front.length : Int) + text.length - 1 - front.length + 1 = text.length := by omega
  have some : (text.length : Int) + 1 > 0 := by omega
  simp only [readString, last, between_position, size, if_pos some]
  exact between_setPosition front text rest

/-- A text is read up to its NUL, or up to the end of the data. -/
theorem reads_text : Reads ValueLayout.text.after
    fun stream => (true, stream.readString.1, stream.readString.2) := by
  rintro bytes _ ⟨front, rfl, fits⟩
  by_cases clean : (0 : UInt8) ∉ bytes
  · -- Without a NUL, the last byte is the end of the text.
    have left := ValueLayout.Shortened.after (show ValueLayout.Shortened .text bytes from clean)
    have absent : (between front bytes).indexOf 0 = -1 := by
      have nowhere : bytes.findIdx? (· == 0) = none := by
        rw [List.findIdx?_eq_none_iff]
        intro byte member
        simpa using fun zero : byte = 0 => clean (zero ▸ member)
      simp only [indexOf, between, QByteArray.indexOfByte, Int.toNat_natCast, List.drop_left, nowhere]
    have moved := @readString_snd front bytes [] (by
      rw [List.append_nil, if_pos absent, between_size])
    rw [List.append_nil] at moved
    rw [left]
    exact ⟨rfl, front ++ bytes, moved, by rwa [List.append_nil]⟩
  · -- With a NUL, the text ends at the first one.
    obtain ⟨units, tail, rfl, before⟩ := List.eq_append_cons_of_mem (Classical.not_not.mp clean)
    have whole : ValueLayout.Whole .text (units ++ [0]) := ⟨units, rfl, before⟩
    have left := whole.after tail
    rw [← List.append_cons] at left
    -- There the search stops.
    have found : (between front (units ++ 0 :: tail)).indexOf 0 = front.length + units.length :=
      QByteArray.indexOfByte_append front before tail
    have moved := @readString_snd front (units ++ [0]) tail (by
      rw [← List.append_cons, found, if_neg (by omega), List.length_append, List.length_singleton]
      omega)
    rw [← List.append_cons] at moved
    rw [left]
    exact ⟨rfl, front ++ (units ++ [0]), moved, by rwa [List.append_assoc, ← List.append_cons]⟩

/-- The length in front of a byte array is what its four bytes announce. -/
theorem toNat_ofBytes_take (bytes : List UInt8) :
    (FixedWidth.ofBytes (bytes.take 4) : UInt32).toNat = ValueLayout.announced bytes := by
  -- Four bytes make no number above 32 bits.
  have small := ByteWords.decode_lt (bytes.take 4)
  have power : 256 ^ (bytes.take 4).length ≤ 256 ^ 4 :=
    Nat.pow_le_pow_right (by decide) (List.length_take_le 4 bytes)
  exact UInt32.toNat_ofNat_of_lt' (Nat.lt_of_lt_of_le small power)

/-- A byte array is read as far as there are bytes, once its length and one of them are there. -/
theorem reads_counted (old : QByteArray) :
    Reads ValueLayout.counted.after (readByteArray old) := by
  rintro bytes _ ⟨front, rfl, fits⟩
  have four : FixedWidth.width UInt32 = 4 := rfl
  by_cases enough : 4 ≤ bytes.length
  · have sized := readFixed_of_le (α := UInt32) enough fits 0
    rw [four] at sized
    have count := toNat_ofBytes_take bytes
    generalize (FixedWidth.ofBytes (bytes.take 4) : UInt32) = valueSize at sized count
    have behind : (front ++ bytes.take 4 ++ bytes.drop 4).length < 2147483640 := by
      rwa [List.append_assoc, List.take_append_drop]
    rw [ValueLayout.after, if_neg (Nat.not_lt.mpr enough), ← count]
    simp only [readByteArray, sized, Bool.not_true, Bool.false_eq_true, if_false]
    by_cases nothing : valueSize = 0
    · -- An empty array has no bytes behind its length.
      have zero : valueSize.toNat = 0 := congrArg UInt32.toNat nothing
      rw [if_pos zero, if_pos nothing]
      exact ⟨rfl, _, rfl, behind⟩
    · have wanted : valueSize.toNat ≠ 0 := fun zero => nothing (UInt32.toNat_inj.mp zero)
      rw [if_neg wanted, if_neg nothing, ← List.drop_drop]
      have length : (bytes.drop 4).length = bytes.length - 4 := List.length_drop
      generalize bytes.drop 4 = tail at length behind ⊢
      generalize front ++ bytes.take 4 = head at behind ⊢
      simp only [between_size, between_position]
      -- The bytes that are left are counted first, and at least one of them is wanted.
      by_cases last : bytes.length = 4
      · rw [if_pos last, if_pos (by omega)]
      · have taken : (if (head.length : Int) + tail.length - head.length < valueSize.toNat then
            ((head.length : Int) + tail.length - head.length).toNat else valueSize.toNat) =
              (tail.take valueSize.toNat).length := by
          rw [List.length_take]
          split <;> omega
        rw [if_neg last, if_neg (by omega), taken]
        have split := List.take_append_drop valueSize.toNat tail
        have moved := @Ahead.setPosition head (tail.take valueSize.toNat)
          (tail.drop valueSize.toNat) (by rwa [split])
        rw [split] at moved
        exact ⟨rfl, moved⟩
  · -- Without its length, the array is refused.
    have short := readFixed_of_lt (α := UInt32) (by decide) (Nat.not_le.mp enough) fits 0
    rw [ValueLayout.after, if_pos (Nat.not_le.mp enough)]
    show (readByteArray old (between front bytes)).1 = false
    simp only [readByteArray, short, Bool.not_false, if_true]

end DataStream

end Threader
