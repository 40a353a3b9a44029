import Threader.Qt.Text

/-! `QString::toUtf8`, which works on pairs of code units where two of them make one character. -/

namespace Threader

namespace QString

/-- A code unit that begins a surrogate pair. -/
def IsHighSurrogate (unit : UInt16) : Prop := 0xD800 ≤ unit ∧ unit ≤ 0xDBFF

/-- A code unit that ends a surrogate pair. -/
def IsLowSurrogate (unit : UInt16) : Prop := 0xDC00 ≤ unit ∧ unit ≤ 0xDFFF

instance (unit : UInt16) : Decidable (IsHighSurrogate unit) := inferInstanceAs (Decidable (_ ∧ _))

instance (unit : UInt16) : Decidable (IsLowSurrogate unit) := inferInstanceAs (Decidable (_ ∧ _))

/-- A byte that goes on with the six lowest bits of a code. -/
def continuation (code : UInt32) : UInt8 := ((0x80 : UInt32) ||| code &&& 0x3F).toUInt8

/-- The bytes of a code unit by itself; half a surrogate pair becomes a question mark. -/
def utf8OfUnit (unit : UInt16) : QByteArray :=
  let code := unit.toUInt32
  if unit < 0x80 then [unit.toUInt8]
  else if unit < 0x800 then [((0xC0 : UInt32) ||| code >>> 6).toUInt8, continuation code]
  else if IsHighSurrogate unit ∨ IsLowSurrogate unit then [0x3F]
  else [((0xE0 : UInt32) ||| code >>> 12).toUInt8, continuation (code >>> 6), continuation code]

/-- The four bytes of a surrogate pair. -/
def utf8OfPair (high low : UInt16) : QByteArray :=
  let code := (0x10000 : UInt32) + (high - 0xD800).toUInt32 <<< 10 + (low - 0xDC00).toUInt32
  [((0xF0 : UInt32) ||| code >>> 18).toUInt8, continuation (code >>> 12), continuation (code >>> 6),
    continuation code]

/-- `toUtf8()`. -/
def toUtf8 : QString → QByteArray
  | [] => []
  | [unit] => utf8OfUnit unit
  | unit :: next :: rest =>
    if IsHighSurrogate unit ∧ IsLowSurrogate next then utf8OfPair unit next ++ toUtf8 rest
    else utf8OfUnit unit ++ toUtf8 (next :: rest)

/-- A text that does not end within a surrogate pair. -/
def Ended (text : QString) : Prop := ∀ unit ∈ text.getLast?, ¬ IsHighSurrogate unit

theorem ended_nil : Ended [] := by simp [Ended]

/-- What comes last decides about the end. -/
theorem Ended.append {first second : QString} (ended : Ended first) (last : Ended second) :
    Ended (first ++ second) := by
  intro unit member
  rcases List.eq_nil_or_concat second with rfl | ⟨rest, final, rfl⟩
  · rw [List.append_nil] at member
    exact ended unit member
  · exact last unit (by simpa using member)

/-- Encoding two texts after one another is encoding them together, unless a pair is cut. -/
theorem toUtf8_append {first : QString} (ended : Ended first) (second : QString) :
    toUtf8 (first ++ second) = toUtf8 first ++ toUtf8 second := by
  -- Induction along the pairs and single units of the first text.
  induction first using toUtf8.induct with
  | case1 => rfl
  | case2 unit =>
    -- The only unit is the last one, which begins no pair.
    have single : ¬ IsHighSurrogate unit := ended unit rfl
    cases second with
    | nil => simp [toUtf8]
    | cons next rest =>
      have alone : ¬ (IsHighSurrogate unit ∧ IsLowSurrogate next) := fun pair => single pair.1
      simp [toUtf8, alone]
  | case3 unit next rest pair ih =>
    have rest : Ended rest := by
      intro last member
      refine ended last ?_
      cases rest with
      | nil => cases member
      | cons other rest => simpa using member
    simp [toUtf8, pair, ih rest]
  | case4 unit next rest alone ih =>
    have rest : Ended (next :: rest) := fun last member => ended last (by simpa using member)
    simp [toUtf8, alone, ← ih rest]

-- Characters of one to four bytes, and half a pair.
example : toUtf8 [0x7E, 0x44F, 0x20AC, 0xD834, 0xDD1E, 0xD834] =
    [0x7E, 0xD1, 0x8F, 0xE2, 0x82, 0xAC, 0xF0, 0x9D, 0x84, 0x9E, 0x3F] := by decide

/-- Every code unit by itself takes a byte at least. -/
theorem length_utf8OfUnit_pos (unit : UInt16) : 0 < (utf8OfUnit unit).length := by
  -- One byte, two bytes, a question mark, or three bytes.
  unfold utf8OfUnit
  split
  · exact Nat.one_pos
  · split
    · exact Nat.two_pos
    · split
      · exact Nat.one_pos
      · exact Nat.succ_pos 2

/-- Half a surrogate pair takes one byte. -/
theorem length_utf8OfUnit_of_low {unit : UInt16} (low : IsLowSurrogate unit) :
    (utf8OfUnit unit).length = 1 := by
  have large : 0xDC00 ≤ unit.toNat := UInt16.le_iff_toNat_le.mp low.1
  have notAscii : ¬ unit < 0x80 := fun small => by
    have bound : unit.toNat < 0x80 := UInt16.lt_iff_toNat_lt.mp small
    omega
  have notShort : ¬ unit < 0x800 := fun small => by
    have bound : unit.toNat < 0x800 := UInt16.lt_iff_toNat_lt.mp small
    omega
  -- It is written as a question mark.
  rw [utf8OfUnit, if_neg notAscii, if_neg notShort, if_pos (.inr low)]
  rfl

/-- Each unit that is removed from the front takes a byte away at least. -/
theorem length_toUtf8_tail (unit : UInt16) (rest : QString) :
    (toUtf8 rest).length < (toUtf8 (unit :: rest)).length := by
  cases rest with
  | nil => exact length_utf8OfUnit_pos unit
  | cons next rest =>
    rw [toUtf8]
    split
    · -- The other half of the pair is left alone.
      rename_i pair
      have notHigh : ¬ IsHighSurrogate next := fun high => by
        have least : 0xDC00 ≤ next.toNat := UInt16.le_iff_toNat_le.mp pair.2.1
        have most : next.toNat ≤ 0xDBFF := UInt16.le_iff_toNat_le.mp high.2
        omega
      have apart : toUtf8 (next :: rest) = utf8OfUnit next ++ toUtf8 rest := by
        cases rest with
        | nil => simp [toUtf8]
        | cons other rest => rw [toUtf8, if_neg fun both => notHigh both.1]
      rw [apart, List.length_append, List.length_append, length_utf8OfUnit_of_low pair.2]
      simp only [utf8OfPair, List.length_cons, List.length_nil]
      omega
    · have nonempty := length_utf8OfUnit_pos unit
      rw [List.length_append]
      omega

/-- Removing some units takes at least so many bytes away, if there are so many units. -/
theorem length_toUtf8_drop {text : QString} {count : Nat} (bound : count ≤ text.length) :
    (toUtf8 (text.drop count)).length + count ≤ (toUtf8 text).length := by
  -- Each unit that is removed takes a byte away at least.
  induction text generalizing count with
  | nil => simpa [toUtf8] using bound
  | cons unit rest ih =>
    cases count with
    | zero => exact Nat.le_refl _
    | succ count =>
      have shorter := length_toUtf8_tail unit rest
      have fewer := ih (Nat.le_of_succ_le_succ bound)
      rw [List.drop_succ_cons]
      omega

/-- A text that is not empty takes some bytes. -/
theorem length_toUtf8_pos {text : QString} (nonempty : text ≠ []) : 0 < (toUtf8 text).length := by
  cases text with
  | nil => exact absurd rfl nonempty
  | cons unit rest => exact Nat.lt_of_le_of_lt (Nat.zero_le _) (length_toUtf8_tail unit rest)

/-- However many units are removed, the bytes that are left are fewer by that number, if any. -/
theorem length_toUtf8_drop_le (text : QString) (count : Nat) :
    (toUtf8 (text.drop count)).length ≤ (toUtf8 text).length - count := by
  by_cases enough : count ≤ text.length
  · have fewer := length_toUtf8_drop enough
    omega
  · rw [List.drop_eq_nil_of_le (by omega)]
    exact Nat.zero_le _

end QString

end Threader
