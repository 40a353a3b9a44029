import Threader.Qt.ByteArray

/-! Qt's `QString`, the Windows-1251 codec that carries it in streams, and what is left to Qt. -/

namespace Threader

/-- The UTF-16 code units of a `QString`, which is what `length()` counts. -/
abbrev QString := List UInt16

/-- The code units of a text whose characters are all below `0x80`. -/
def QString.ofAscii (text : String) : QString :=
  text.toList.map fun character => UInt16.ofNat character.toNat

/-- The code units of a text whose characters are all below `0x10000`. -/
def QString.ofBasic (text : String) : QString :=
  text.toList.map fun character => UInt16.ofNat character.toNat

/-- A literal is decoded character by character, without going through its bytes. -/
theorem QString.ofAscii_ofList (characters : List Char) :
    ofAscii (String.ofList characters) =
      characters.map fun character => UInt16.ofNat character.toNat := by
  rw [ofAscii, String.toList_ofList]

theorem QString.ofBasic_ofList (characters : List Char) :
    ofBasic (String.ofList characters) =
      characters.map fun character => UInt16.ofNat character.toNat := by
  rw [ofBasic, String.toList_ofList]

/-- A `QDateTime` as its milliseconds since the epoch, or none when it is null. -/
abbrev QDateTime := Option Int

/-- The conversions that are taken from Qt and from floating-point arithmetic as they are. -/
class QtText where
  /-- `QString::toUpper`. -/
  toUpper : QString → QString
  /-- The bit pattern of the floating-point day number that a `QDateTime` is written as. -/
  dateTimeToDouble : QDateTime → UInt64
  /-- The `QDateTime` that the bit pattern of a day number is read as. -/
  dateTimeOfDouble : UInt64 → QDateTime

/-- The conversions as they are for ASCII texts, with every date taken for a null one. -/
@[reducible]
def QtText.ascii : QtText where
  toUpper text := text.map fun unit => if 0x61 ≤ unit ∧ unit ≤ 0x7A then unit - 0x20 else unit
  dateTimeToDouble _ := 0
  dateTimeOfDouble _ := none

/-- The upper case of a code unit below `0x80`. -/
def upperAscii (unit : UInt16) : UInt16 :=
  if 0x61 ≤ unit ∧ unit ≤ 0x7A then unit - 0x20 else unit

/-- `toUpper` treats a leading code unit below `0x80` by itself, whatever follows it. -/
structure QtText.UppersAscii [QtText] : Prop where
  empty : QtText.toUpper [] = []
  head : ∀ {unit : UInt16} (rest : QString), unit < 0x80 →
    (QtText.toUpper (unit :: rest)).head? = some (upperAscii unit)

theorem QtText.uppersAscii_ascii : @QtText.UppersAscii .ascii :=
  -- Every character is treated by itself.
  @UppersAscii.mk .ascii rfl fun _ _ => rfl

/-- A text of characters below `0x80`. -/
def QString.Ascii (text : QString) : Prop := ∀ unit ∈ text, unit < 0x80

instance (text : QString) : Decidable text.Ascii :=
  List.decidableBAll (fun unit => unit < 0x80) text

/-- `toUpper` treats the characters of an ASCII text one by one. -/
def QtText.MapsAscii [QtText] : Prop :=
  ∀ {text : QString}, text.Ascii → QtText.toUpper text = text.map upperAscii

theorem QtText.mapsAscii_ascii : @QtText.MapsAscii .ascii := fun _ => rfl

/-- What holds of the numbers below 128 holds of the code units below `0x80`. -/
theorem forall_ascii {P : UInt16 → Prop} (all : ∀ number : Fin 128, P (UInt16.ofNat number))
    {unit : UInt16} (low : unit < 0x80) : P unit := by
  have one := all ⟨unit.toNat, UInt16.lt_iff_toNat_lt.mp low⟩
  rwa [UInt16.ofNat_toNat] at one

/-- A capital letter stays below `0x80`, and is its own upper case. -/
theorem upperAscii_upperAscii {unit : UInt16} (low : unit < 0x80) :
    upperAscii unit < 0x80 ∧ upperAscii (upperAscii unit) = upperAscii unit :=
  forall_ascii (P := fun unit => upperAscii unit < 0x80 ∧
    upperAscii (upperAscii unit) = upperAscii unit) (by decide) low

/-- The upper case of an ASCII text is its own upper case. -/
theorem QtText.MapsAscii.toUpper_toUpper [QtText] (maps : QtText.MapsAscii) {text : QString}
    (ascii : text.Ascii) : QtText.toUpper (QtText.toUpper text) = QtText.toUpper text := by
  have upper : QString.Ascii (text.map upperAscii) := by
    intro unit member
    obtain ⟨lower, inside, rfl⟩ := List.mem_map.mp member
    exact (upperAscii_upperAscii (ascii lower inside)).1
  rw [maps ascii, maps upper, List.map_map]
  exact List.map_congr_left fun unit member => (upperAscii_upperAscii (ascii unit member)).2

/-- Only a space has the upper case of a space. -/
theorem upperAscii_ne_space {unit : UInt16} (visible : 0x20 < unit) : upperAscii unit ≠ 0x20 := by
  have visible : 32 < unit.toNat := UInt16.lt_iff_toNat_lt.mp visible
  intro space
  have value := congrArg UInt16.toNat space
  have constants : (0x20 : UInt16).toNat = 32 ∧ (0x61 : UInt16).toNat = 97 := ⟨rfl, rfl⟩
  unfold upperAscii at value
  split at value
  · -- A small letter is moved to a capital one, which is not a space either.
    rename_i letter
    have small := UInt16.le_iff_toNat_le.mp letter.1
    rw [UInt16.toNat_sub_of_le _ _ (UInt16.le_iff_toNat_le.mpr (by omega))] at value
    omega
  · omega

/-- A name of printable ASCII characters. -/
def QString.Printable (text : QString) : Prop :=
  text ≠ [] ∧ ∀ unit ∈ text, 0x20 ≤ unit ∧ unit ≤ 0x7E

instance (text : QString) : Decidable text.Printable :=
  @instDecidableAnd _ _ _ (List.decidableBAll (fun unit => 0x20 ≤ unit ∧ unit ≤ 0x7E) text)

/-- `QString(const char *)`, which decodes UTF-8, as far as it is known here. -/
class QtUtf8 where
  fromUtf8 : QByteArray → QString
  /-- Bytes below `0x80` stand for themselves. -/
  fromUtf8_ascii : ∀ {text : QByteArray}, (∀ byte ∈ text, byte < 0x80) →
    fromUtf8 text = text.map UInt8.toUInt16
  /-- A leading byte below `0x80` stands for itself, whatever follows it. -/
  fromUtf8_head : ∀ {byte : UInt8} (rest : QByteArray), byte < 0x80 →
    (fromUtf8 (byte :: rest)).head? = some byte.toUInt16

/-- The decoder as it is for ASCII texts, with a replacement character for every other byte. -/
@[reducible]
def QtUtf8.ascii : QtUtf8 where
  fromUtf8 text := text.map fun byte => if byte < 0x80 then byte.toUInt16 else 0xFFFD
  fromUtf8_ascii low := List.map_congr_left fun byte member => if_pos (low byte member)
  fromUtf8_head _ low := by simp [low]

set_option maxRecDepth 4000 in
/-- The upper half of the Windows-1251 code page, with `0xFFFD` for the unassigned code. -/
def windows1251Table : Vector UInt16 128 :=
  #v[
    0x0402, 0x0403, 0x201A, 0x0453, 0x201E, 0x2026, 0x2020, 0x2021,
    0x20AC, 0x2030, 0x0409, 0x2039, 0x040A, 0x040C, 0x040B, 0x040F,
    0x0452, 0x2018, 0x2019, 0x201C, 0x201D, 0x2022, 0x2013, 0x2014,
    0xFFFD, 0x2122, 0x0459, 0x203A, 0x045A, 0x045C, 0x045B, 0x045F,
    0x00A0, 0x040E, 0x045E, 0x0408, 0x00A4, 0x0490, 0x00A6, 0x00A7,
    0x0401, 0x00A9, 0x0404, 0x00AB, 0x00AC, 0x00AD, 0x00AE, 0x0407,
    0x00B0, 0x00B1, 0x0406, 0x0456, 0x0491, 0x00B5, 0x00B6, 0x00B7,
    0x0451, 0x2116, 0x0454, 0x00BB, 0x0458, 0x0405, 0x0455, 0x0457,
    0x0410, 0x0411, 0x0412, 0x0413, 0x0414, 0x0415, 0x0416, 0x0417,
    0x0418, 0x0419, 0x041A, 0x041B, 0x041C, 0x041D, 0x041E, 0x041F,
    0x0420, 0x0421, 0x0422, 0x0423, 0x0424, 0x0425, 0x0426, 0x0427,
    0x0428, 0x0429, 0x042A, 0x042B, 0x042C, 0x042D, 0x042E, 0x042F,
    0x0430, 0x0431, 0x0432, 0x0433, 0x0434, 0x0435, 0x0436, 0x0437,
    0x0438, 0x0439, 0x043A, 0x043B, 0x043C, 0x043D, 0x043E, 0x043F,
    0x0440, 0x0441, 0x0442, 0x0443, 0x0444, 0x0445, 0x0446, 0x0447,
    0x0448, 0x0449, 0x044A, 0x044B, 0x044C, 0x044D, 0x044E, 0x044F]

namespace Windows1251

/-- The code unit a byte stands for. -/
def decodeByte (byte : UInt8) : UInt16 :=
  if byte < 0x80 then byte.toUInt16
  else windows1251Table.toList.getD (byte.toNat - 0x80) 0xFFFD

/-- The byte a code unit is written as, a question mark when the code page lacks it. -/
def encodeUnit (unit : UInt16) : UInt8 :=
  if unit < 0x80 then unit.toUInt8
  else if unit = 0xFFFD then 0x3F
  else
    match windows1251Table.toList.findIdx? (· == unit) with
    | some index => UInt8.ofNat (0x80 + index)
    | none => 0x3F

/-- `QTextCodec::fromUnicode`: one byte for every code unit. -/
def fromUnicode (text : QString) : QByteArray := text.map encodeUnit

/-- `QTextCodec::toUnicode`: one code unit for every byte. -/
def toUnicode (raw : QByteArray) : QString := raw.map decodeByte

/-- A text that the code page can express comes back unchanged. -/
def Encodable (text : QString) : Prop := toUnicode (fromUnicode text) = text

instance (text : QString) : Decidable (Encodable text) :=
  inferInstanceAs (Decidable (_ = _))

@[simp] theorem fromUnicode_length (text : QString) : (fromUnicode text).length = text.length := by
  simp [fromUnicode]

theorem terminated_length (text : QString) : (fromUnicode text ++ [0]).length = text.length + 1 := by
  simp

/-- Only the NUL character is written as a NUL byte. -/
theorem encodeUnit_ne_zero {unit : UInt16} (nonzero : unit ≠ 0) : encodeUnit unit ≠ 0 := by
  -- The three ways of encoding a unit are checked one by one.
  unfold encodeUnit
  split
  · -- Below 0x80 the byte has the value of the unit itself.
    rename_i low
    intro zero
    have value := congrArg UInt8.toNat zero
    have small : unit.toNat < 128 := UInt16.lt_iff_toNat_lt.mp low
    simp only [UInt16.toNat_toUInt8, UInt8.toNat_zero] at value
    exact nonzero (UInt16.toNat_inj.mp (by simp only [UInt16.toNat_zero]; omega))
  · split
    · decide
    · split
      · -- A table position is below 128, so the byte lies in the upper half.
        rename_i index found
        have bound := (List.findIdx?_eq_some_iff_getElem.mp found).1
        rw [Vector.length_toList] at bound
        intro zero
        have value := congrArg UInt8.toNat zero
        simp only [UInt8.toNat_ofNat', UInt8.toNat_zero] at value
        omega
      · decide

/-- A printable character is written as the byte of its value. -/
theorem encodeUnit_toUInt16 {unit : UInt16} (printable : unit ≤ 0x7E) :
    (encodeUnit unit).toUInt16 = unit ∧ encodeUnit unit < 0x80 := by
  -- Printable characters are below the part of the code page that differs from Unicode.
  have small : unit.toNat ≤ 126 := UInt16.le_iff_toNat_le.mp printable
  have low : unit < 0x80 := UInt16.lt_iff_toNat_lt.mpr (Nat.lt_of_le_of_lt small (by decide))
  have byte : (encodeUnit unit).toNat = unit.toNat := by
    rw [encodeUnit, if_pos low, UInt16.toNat_toUInt8]
    omega
  refine ⟨UInt16.toNat_inj.mp ?_, UInt8.lt_iff_toNat_lt.mpr ?_⟩
  · rw [UInt8.toNat_toUInt16, byte]
  · rw [byte]
    exact Nat.lt_of_le_of_lt small (by decide)

/-- A character of the code page is a visible ASCII one if it is written as such a byte. -/
theorem encodeUnit_visible_iff {unit : UInt16}
    (encodable : decodeByte (encodeUnit unit) = unit) :
    (32 < (encodeUnit unit).toNat ∧ (encodeUnit unit).toNat < 128) ↔ 0x20 < unit ∧ unit < 0x80 := by
  have value (same : (encodeUnit unit).toNat = unit.toNat) :
      (32 < (encodeUnit unit).toNat ∧ (encodeUnit unit).toNat < 128) ↔ 0x20 < unit ∧ unit < 0x80 := by
    rw [same, UInt16.lt_iff_toNat_lt, UInt16.lt_iff_toNat_lt]
    rfl
  constructor
  · intro visible
    -- A byte below `0x80` is decoded as its own value.
    have low : encodeUnit unit < 0x80 := UInt8.lt_iff_toNat_lt.mpr visible.2
    rw [decodeByte, if_pos low] at encodable
    refine (value ?_).mp visible
    rw [← UInt8.toNat_toUInt16, encodable]
  · intro visible
    have low : unit.toNat < 128 := UInt16.lt_iff_toNat_lt.mp visible.2
    refine (value ?_).mpr visible
    rw [encodeUnit, if_pos visible.2, UInt16.toNat_toUInt8]
    omega

/-- A text without NUL characters is written without NUL bytes. -/
theorem zero_notMem_fromUnicode {text : QString} (nulFree : (0 : UInt16) ∉ text) :
    (0 : UInt8) ∉ fromUnicode text := by
  -- A NUL byte could only come from a NUL character.
  intro member
  obtain ⟨unit, inside, zero⟩ := List.mem_map.mp member
  exact encodeUnit_ne_zero (fun same => nulFree (same ▸ inside)) zero

/-- The bytes of a printable name stand for themselves. -/
theorem printable_bytes {text : QString} (printable : text.Printable) :
    (∀ byte ∈ fromUnicode text, byte < 0x80) ∧
      (fromUnicode text).map UInt8.toUInt16 = text ∧
      (0 : UInt8) ∉ fromUnicode text := by
  -- Each character is converted by itself.
  refine ⟨fun byte member => ?_, ?_, zero_notMem_fromUnicode fun member => ?_⟩
  · obtain ⟨unit, inside, rfl⟩ := List.mem_map.mp member
    exact (encodeUnit_toUInt16 (printable.2 unit inside).2).2
  · rw [fromUnicode, List.map_map]
    refine (List.map_congr_left fun unit inside => ?_).trans (List.map_id text)
    exact (encodeUnit_toUInt16 (printable.2 unit inside).2).1
  · exact absurd (printable.2 0 member).1 (by decide)

end Windows1251

end Threader
