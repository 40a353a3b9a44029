import Threader.Base.Splitting
import Threader.Utils.IpFilter

/-! `IpMask::strToBin` without wild cards: which texts are taken for the address of four bytes. -/

namespace Threader

namespace IpMask

variable [QtNumbers]

/-- Each field is the number of the byte in its place. -/
def StandFor (fields : List QString) (bytes : List UInt8) : Prop :=
  List.Forall₂ (fun field byte => QtNumbers.toInt field = some (byte.toNat : Int)) fields bytes

/-- Four fields between three dots, each of which is the number of a byte. -/
def DottedQuad (text : QString) (bytes : List UInt8) : Prop :=
  (text.splitOn DOT).length = 4 ∧ StandFor (text.splitOn DOT) bytes

/-- The address is taken if it is a dotted quad, then as its bytes, and refused by a mask if not. -/
def TakesQuads (text : QString) (binAddr : BinarryIpAddress) : Prop :=
  ((strToBin text binAddr false).1 = true ↔ ∃ bytes, DottedQuad text bytes) ∧
    (∀ bytes, DottedQuad text bytes → (strToBin text binAddr false).2.bytes.toList = bytes) ∧
    ((¬ ∃ bytes, DottedQuad text bytes) → ∀ (mask : IpMask) (errorString : QString),
      (mask.checkIpAddress binAddr text errorString).1 = false)

/-- Four fields that are numbers of bytes are followed by a fourth dot. -/
def GoesOn (text : QString) : Prop :=
  4 < (text.splitOn DOT).length ∧
    ∀ field ∈ (text.splitOn DOT).take 4, ∃ byte : UInt8,
      QtNumbers.toInt field = some (byte.toNat : Int)

/-- A field is read as a byte exactly if it is the number of the byte. -/
theorem toByte_eq_some_iff (field : QString) (byte : UInt8) :
    toByte field = some byte ↔ QtNumbers.toInt field = some (byte.toNat : Int) := by
  -- A number outside the range of a byte is the number of no byte.
  have small : byte.toNat < 256 := byte.toNat_lt
  unfold toByte
  cases QtNumbers.toInt field with
  | none => simp
  | some gbyte =>
    by_cases range : 0 ≤ gbyte ∧ gbyte ≤ 255
    · simp only [if_pos range, Option.some.injEq]
      -- Within the range the number is not cut.
      have exact : (UInt8.ofNat gbyte.toNat).toNat = gbyte.toNat := by
        rw [UInt8.toNat_ofNat']
        omega
      constructor
      · rintro rfl
        omega
      · rintro rfl
        exact UInt8.ofNat_toNat
    · simp only [if_neg range, reduceCtorEq, Option.some.injEq, false_iff]
      omega

/-- Some fields stand for bytes exactly if each of them is the number of one. -/
theorem exists_standFor_iff (fields : List QString) :
    (∃ bytes, StandFor fields bytes) ↔
      ∀ field ∈ fields, ∃ byte : UInt8, QtNumbers.toInt field = some (byte.toNat : Int) := by
  -- The bytes are found field by field.
  induction fields with
  | nil => exact iff_of_true ⟨[], .nil⟩ (List.forall_mem_nil _)
  | cons field fields ih =>
    rw [List.forall_mem_cons, ← ih]
    constructor
    · rintro ⟨bytes, stand⟩
      cases stand with
      | cons first stand => exact ⟨⟨_, first⟩, _, stand⟩
    · rintro ⟨⟨byte, first⟩, bytes, stand⟩
      exact ⟨byte :: bytes, .cons first stand⟩

omit [QtNumbers] in
/-- A text with a dot is split into the part in front of it and the parts of what follows it. -/
theorem splitOn_of_mem {text : QString} (dot : DOT ∈ text) :
    text.splitOn DOT = text.takeWhile (· ≠ DOT) ::
      (text.drop ((text.takeWhile (· ≠ DOT)).length + 1)).splitOn DOT := by
  -- The text is cut at its first dot.
  obtain ⟨part, rest, rfl, absent⟩ := List.eq_append_cons_of_mem dot
  have front : (part ++ DOT :: rest).takeWhile (· ≠ DOT) = part := by
    rw [List.takeWhile_append_of_pos, List.takeWhile_cons_of_neg (by simp), List.append_nil]
    intro unit member
    simpa using fun same : unit = DOT => absent (same ▸ member)
  rw [front, List.splitOn_append_cons_self_of_not_mem absent]
  simp

/-- Some fields are read exactly if the text has as many, and the first ones are numbers of bytes. -/
theorem fieldsOf_eq_some_iff (count : Nat) (text : QString) (pattern : IpPattern) :
    fieldsOf false count text = some pattern ↔
      count ≤ (text.splitOn DOT).length ∧ ∃ bytes : List UInt8, pattern = bytes.map some ∧
        StandFor ((text.splitOn DOT).take count) bytes := by
  -- Each field is read in front of a dot, and the last one may have none behind it.
  induction count generalizing text pattern with
  | zero =>
    simp only [fieldsOf, Option.some.injEq, Nat.zero_le, List.take_zero, StandFor,
      List.forall₂_nil_left_iff, exists_eq_right, List.map_nil, true_and]
    exact eq_comm
  | succ count ih =>
    simp only [fieldsOf, Bool.false_eq_true, false_and, if_false]
    by_cases dot : DOT ∈ text
    · rw [if_pos (.inl dot), splitOn_of_mem dot]
      simp only [List.length_cons, Nat.add_le_add_iff_right, List.take_succ_cons]
      generalize text.takeWhile (· ≠ DOT) = part
      constructor
      · intro read
        -- The first field is a byte, and the others are read from the rest of the text.
        split at read
        · cases read
        · rename_i byte first
          obtain ⟨others, rest, rfl⟩ := Option.map_eq_some_iff.mp read
          obtain ⟨enough, bytes, rfl, stand⟩ := (ih _ _).mp rest
          exact ⟨enough, byte :: bytes, rfl, .cons ((toByte_eq_some_iff _ _).mp first) stand⟩
      · rintro ⟨enough, bytes, rfl, stand⟩
        cases stand with
        | cons first stand =>
          rename_i byte bytes
          rw [(toByte_eq_some_iff _ _).mpr first]
          simp only [(ih _ _).mpr ⟨enough, bytes, rfl, stand⟩, Option.map_some, List.map_cons]
    · -- Without a dot the text is one field.
      have whole : text.takeWhile (· ≠ DOT) = text :=
        List.takeWhile_eq_self_iff.mpr fun unit member => by
          simpa using fun same : unit = DOT => dot (same ▸ member)
      rw [List.splitOn_eq_singleton dot, whole]
      cases count with
      | zero =>
        simp only [dot, or_true, if_true, fieldsOf, List.length_singleton, Nat.zero_add,
          Nat.le_refl, true_and, List.take_succ_cons, List.take_zero]
        constructor
        · intro read
          split at read
          · cases read
          · rename_i byte only
            obtain rfl := Option.some.inj read
            exact ⟨[byte], rfl, .cons ((toByte_eq_some_iff _ _).mp only) .nil⟩
        · rintro ⟨bytes, rfl, stand⟩
          cases stand with
          | cons only stand =>
            cases stand
            rw [(toByte_eq_some_iff _ _).mpr only]
            rfl
      | succ count =>
        rw [if_neg (by simp [dot])]
        refine iff_of_false (Option.some_ne_none pattern).symm fun both => ?_
        have short := both.1
        rw [List.length_singleton] at short
        omega

/-- An address is taken exactly if it begins with four numbers of bytes, as the address of these. -/
theorem strToBin_eq_true_iff (text : QString) (binAddr : BinarryIpAddress) :
    ((strToBin text binAddr false).1 = true ↔
      4 ≤ (text.splitOn DOT).length ∧ ∃ bytes, StandFor ((text.splitOn DOT).take 4) bytes) ∧
    ∀ bytes, 4 ≤ (text.splitOn DOT).length → StandFor ((text.splitOn DOT).take 4) bytes →
      (strToBin text binAddr false).2.bytes.toList = bytes := by
  -- The parser stores what the fields give, so both halves are read off the fields.
  have outcome := strToBin_outcome text binAddr false
  have fields := fieldsOf_eq_some_iff 4 text
  cases read : fieldsOf false 4 text with
  | none =>
    rw [read] at outcome fields
    -- Nothing is read, so the text does not begin with four numbers.
    have refused : (strToBin text binAddr false).1 = false := outcome
    have absent (bytes : List UInt8) : ¬ (4 ≤ (text.splitOn DOT).length ∧
        StandFor ((text.splitOn DOT).take 4) bytes) := fun both =>
      nomatch (fields (bytes.map some)).mpr ⟨both.1, bytes, rfl, both.2⟩
    refine ⟨iff_of_false (by simp [refused]) ?_, fun bytes enough stand => ?_⟩
    · rintro ⟨enough, bytes, stand⟩
      exact absent bytes ⟨enough, stand⟩
    · exact absurd ⟨enough, stand⟩ (absent bytes)
  | some pattern =>
    have four := length_fieldsOf read
    rw [read] at outcome fields
    obtain ⟨enough, bytes, rfl, stand⟩ := (fields pattern).mp rfl
    have stored : strToBin text binAddr false = (true, binAddr.store (bytes.map some) 0) := outcome
    refine ⟨iff_of_true (by rw [stored]) ⟨enough, bytes, stand⟩, fun others _ standOthers => ?_⟩
    -- The fields stand for these bytes and no others.
    have same := (fields (others.map some)).mpr ⟨enough, others, rfl, standOthers⟩
    obtain rfl := List.map_injective_iff.mpr (fun _ _ => Option.some.inj) (Option.some.inj same)
    rw [List.length_map] at four
    obtain ⟨b0, b1, b2, b3, rfl⟩ := List.length_eq_four.mp four
    simp only [stored, List.map_cons, List.map_nil, BinarryIpAddress.store_four, Option.getD_some]
    rfl

/-- The parser takes exactly the dotted quads unless four good fields are followed by a dot. -/
theorem takesQuads_iff (text : QString) (binAddr : BinarryIpAddress) :
    TakesQuads text binAddr ↔ ¬ GoesOn text := by
  -- Only a fifth field distinguishes what is taken from a dotted quad.
  obtain ⟨taken, bytes⟩ := strToBin_eq_true_iff text binAddr
  constructor
  · rintro ⟨quads, _, _⟩ ⟨more, numbers⟩
    -- Such a text is taken, and is no dotted quad.
    have stand := (exists_standFor_iff _).mpr numbers
    obtain ⟨_, four, _⟩ := quads.mp (taken.mpr ⟨Nat.le_of_lt more, stand⟩)
    omega
  · intro ends
    have quad : (strToBin text binAddr false).1 = true ↔ ∃ bytes, DottedQuad text bytes := by
      rw [taken]
      constructor
      · rintro ⟨enough, bytes, stand⟩
        -- There is no fifth field, so the first four are all.
        have four : (text.splitOn DOT).length = 4 := by
          by_contra other
          exact ends ⟨by omega, (exists_standFor_iff _).mp ⟨bytes, stand⟩⟩
        rw [List.take_of_length_le (Nat.le_of_eq four)] at stand
        exact ⟨bytes, four, stand⟩
      · rintro ⟨bytes, four, stand⟩
        rw [List.take_of_length_le (Nat.le_of_eq four)]
        exact ⟨Nat.le_of_eq four.symm, bytes, stand⟩
    refine ⟨quad, fun found quadruple => ?_, fun absent mask errorString => ?_⟩
    · refine bytes found (Nat.le_of_eq quadruple.1.symm) ?_
      rw [List.take_of_length_le (Nat.le_of_eq quadruple.1)]
      exact quadruple.2
    · have refused : (strToBin text binAddr false).1 = false :=
        Bool.eq_false_iff.mpr (mt quad.mp absent)
      unfold checkIpAddress
      simp only [refused, Bool.not_false, if_true]
      split <;> rfl

omit [QtNumbers] in
/-- What follows a fourth dot is not looked at, and such an address is let in. -/
theorem takesQuads_fails :
    letI := QtNumbers.decimal
    let address := QString.ofAscii "127.0.0.1.evil"
    ¬ TakesQuads address everything ∧
      ((ofValues [] (.ofAscii " ") everything).checkIpAddress everything address []).1 = true := by
  let _ := QtNumbers.decimal
  intro address
  refine ⟨fun takes => ?_, by decide⟩
  have five : (address.splitOn DOT).length = 5 := by decide
  -- The text is taken, but it has five fields.
  obtain ⟨_, four, _⟩ := takes.1.mp (by decide)
  omega

end IpMask

end Threader
