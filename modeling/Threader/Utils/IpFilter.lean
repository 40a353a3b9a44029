import Threader.Utils.IpMask
import Mathlib.Data.List.Forall2
import Mathlib.Data.List.TakeWhile

/-! What an `IpMask` means: patterns of addresses, of which some admit and others refuse. -/

namespace Threader

/-- Four fields of a mask, none of which stands for any byte when it is absent. -/
abbrev IpPattern := List (Option UInt8)

/-- Every field of a pattern is absent, or is the byte of the address. -/
def IpPattern.Matches (pattern : IpPattern) (address : List UInt8) : Prop :=
  List.Forall₂ (fun field byte => field = none ∨ field = some byte) pattern address

/-- Some pattern admits an address, and no pattern refuses it. -/
def Admits (allowed prohibited : List IpPattern) (address : List UInt8) : Prop :=
  (∃ pattern ∈ allowed, pattern.Matches address) ∧
    ∀ pattern ∈ prohibited, ¬ pattern.Matches address

namespace IpMask

variable [QtNumbers]

/-- The fields that a text separates by dots; a last wild card stands for all that are missing. -/
def fieldsOf (useMatch : Bool) : Nat → QString → Option IpPattern
  | 0, _ => some []
  | missing + 1, text =>
    let part := text.takeWhile (· ≠ DOT)
    let rest := text.drop (part.length + 1)
    if useMatch ∧ part.head? = some STAR then
      if DOT ∈ text then (fieldsOf useMatch missing rest).map (none :: ·)
      else some (List.replicate (missing + 1) none)
    else if DOT ∈ text ∨ missing = 0 then
      match toByte part with
      | none => none
      | some byte => (fieldsOf useMatch missing rest).map (some byte :: ·)
    else none

/-- The pattern that a part of a mask text stands for, if it is one. -/
def patternOf (text : QString) : Option IpPattern := fieldsOf true 4 text

/-- The parts of a mask text that admit addresses. -/
def allowedParts (maskValues delimiters : QString) : List QString :=
  (maskValues.split delimiters).filter fun part => part.head? ≠ some MARK

/-- The parts of a mask text that refuse addresses, without their marks. -/
def prohibitedParts (maskValues delimiters : QString) : List QString :=
  ((maskValues.split delimiters).filter fun part => part.head? = some MARK).map (List.drop 1)

/-- The patterns that admit addresses: without any in the text, the ones of the computer itself. -/
def allowedPatterns (maskValues delimiters : QString) : List IpPattern :=
  if allowedParts maskValues delimiters = [] then [[some 127, none, none, none]]
  else (allowedParts maskValues delimiters).filterMap patternOf

/-- The patterns that refuse addresses. -/
def prohibitedPatterns (maskValues delimiters : QString) : List IpPattern :=
  (prohibitedParts maskValues delimiters).filterMap patternOf

end IpMask

namespace BinarryIpAddress

/-- Some fields are stored one after another. -/
def store (address : BinarryIpAddress) : IpPattern → Nat → BinarryIpAddress
  | [], _ => address
  | none :: pattern, field => (address.setWildCard field).store pattern (field + 1)
  | some byte :: pattern, field => (address.setByte field byte).store pattern (field + 1)

/-- Wild cards are stored by the loop over the fields that are missing. -/
theorem store_replicate (address : BinarryIpAddress) (count field : Nat) :
    address.store (List.replicate count none) field =
      (List.range' field count).foldl setWildCard address := by
  -- Each turn of the loop stores one of them.
  induction count generalizing address field with
  | zero => rfl
  | succ count ih => exact ih (address.setWildCard field) (field + 1)

/-- What is stored in all four fields is what was to be stored. -/
theorem store_four (address : BinarryIpAddress) (first second third fourth : Option UInt8) :
    address.store [first, second, third, fourth] 0 =
      ⟨#v[first.isNone, second.isNone, third.isNone, fourth.isNone],
        #v[first.getD 0xFF, second.getD 0xFF, third.getD 0xFF, fourth.getD 0xFF]⟩ := by
  obtain ⟨⟨⟨wildCards⟩, fourWild⟩, ⟨⟨bytes⟩, fourBytes⟩⟩ := address
  obtain ⟨w0, w1, w2, w3, rfl⟩ := List.length_eq_four.mp fourWild
  obtain ⟨b0, b1, b2, b3, rfl⟩ := List.length_eq_four.mp fourBytes
  -- Every field is written once, with a byte or as a wild card.
  cases first <;> cases second <;> cases third <;> cases fourth <;> rfl

/-- What holds of four places holds of each of them. -/
theorem forall_fin_four {holds : Fin 4 → Prop} :
    (∀ place, holds place) ↔ holds 0 ∧ holds 1 ∧ holds 2 ∧ holds 3 := by
  simp [Fin.forall_fin_succ]

/-- Joined numbers are contained in one another when their parts are. -/
theorem append_and_eq_iff {high low : Nat} {leftHigh rightHigh : BitVec high}
    {leftLow rightLow : BitVec low} :
    (leftHigh ++ leftLow) &&& (rightHigh ++ rightLow) = leftHigh ++ leftLow ↔
      leftHigh &&& rightHigh = leftHigh ∧ leftLow &&& rightLow = leftLow := by
  rw [BitVec.and_append]
  constructor
  · intro same
    -- The two parts are cut out of both sides again.
    have upper := congrArg (BitVec.extractLsb' low high) same
    have lower := congrArg (BitVec.setWidth low) same
    rw [BitVec.extractLsb'_append_eq_left, BitVec.extractLsb'_append_eq_left] at upper
    rw [BitVec.setWidth_append_eq_right, BitVec.setWidth_append_eq_right] at lower
    exact ⟨upper, lower⟩
  · rintro ⟨upper, lower⟩
    rw [upper, lower]

/-- An address is contained in a mask when each of its bytes is. -/
theorem values_and_eq_iff (address listed : BinarryIpAddress) :
    address.values &&& listed.values = address.values ↔
      ∀ i : Fin 4, address.bytes.get i &&& listed.bytes.get i = address.bytes.get i := by
  have joined : address.values &&& listed.values = address.values ↔ _ :=
    append_and_eq_iff.trans (and_congr_right' (append_and_eq_iff.trans (and_congr_right'
      append_and_eq_iff)))
  have field (i : Fin 4) : (address.bytes.get i).toBitVec &&& (listed.bytes.get i).toBitVec =
      (address.bytes.get i).toBitVec ↔
        address.bytes.get i &&& listed.bytes.get i = address.bytes.get i :=
    UInt8.toBitVec_inj
  rw [joined, forall_fin_four, field, field, field, field]
  -- The number begins with its last byte.
  constructor
  · rintro ⟨fourth, third, second, first⟩
    exact ⟨first, second, third, fourth⟩
  · rintro ⟨first, second, third, fourth⟩
    exact ⟨fourth, third, second, first⟩

/-- The two tests of a field together are the comparison with its byte. -/
theorem field_iff (byte : UInt8) (field : Option UInt8) :
    (byte &&& field.getD 0xFF = byte ∧ (byte ||| field.getD 0xFF = byte ∨ field.isNone = true)) ↔
      field = none ∨ field = some byte := by
  cases field with
  | none =>
    -- A wild card is stored with a byte that contains every other one.
    exact iff_of_true ⟨UInt8.and_neg_one, .inr rfl⟩ (.inl rfl)
  | some other =>
    simp only [Option.getD_some, Option.isNone_some, Bool.false_eq_true, or_false, reduceCtorEq,
      false_or, Option.some.injEq]
    constructor
    · rintro ⟨inside, outside⟩
      -- One test says that the byte has no bit too many, and the other one that it has none too few.
      have least : byte ≤ other := inside ▸ UInt8.and_le_right
      have greatest : other.toNat ≤ byte.toNat := by
        rw [← congrArg UInt8.toNat outside, UInt8.toNat_or]
        exact Nat.right_le_or
      exact UInt8.le_antisymm (UInt8.le_iff_toNat_le.mpr greatest) least
    · rintro rfl
      exact ⟨UInt8.and_self, UInt8.or_self⟩

/-- An address of four bytes is listed under a pattern exactly if it matches the pattern. -/
theorem isListed_store {address : BinarryIpAddress} {pattern : IpPattern}
    (four : pattern.length = 4) (memory : BinarryIpAddress) :
    address.isListed (memory.store pattern 0) = true ↔ pattern.Matches address.bytes.toList := by
  obtain ⟨f0, f1, f2, f3, rfl⟩ := List.length_eq_four.mp four
  obtain ⟨wildCards, ⟨⟨bytes⟩, fourBytes⟩⟩ := address
  obtain ⟨b0, b1, b2, b3, rfl⟩ := List.length_eq_four.mp fourBytes
  rw [store_four]
  simp only [isListed, Bool.and_eq_true, beq_iff_eq, values_and_eq_iff, Bool.not_eq_true',
    List.any_eq_false, List.mem_finRange, true_imp_iff, bne_iff_ne, ne_eq, not_and,
    Bool.not_eq_false, ← or_iff_not_imp_left, ← forall_and]
  -- What is left to compare are the four fields, one by one.
  rw [forall_fin_four, IpPattern.Matches]
  simp only [Vector.toList_mk, List.forall₂_cons, List.Forall₂.nil, and_true]
  exact and_congr (field_iff b0 f0) (and_congr (field_iff b1 f1)
    (and_congr (field_iff b2 f2) (field_iff b3 f3)))

end BinarryIpAddress

namespace QString

/-- A unit that a text has is found behind the part in front of it. -/
theorem indexOf_of_mem {text : QString} {unit : UInt16} {start : Nat}
    (member : unit ∈ text.drop start) :
    text.indexOf unit start = some (start + ((text.drop start).takeWhile (· ≠ unit)).length) := by
  -- The units in front of it are those that are none of its kind.
  have found : (text.drop start).findIdx? (· == unit) =
      some ((text.drop start).takeWhile (· ≠ unit)).length := by
    have present : ∃ other ∈ text.drop start, (other == unit) = true :=
      ⟨unit, member, beq_self_eq_true unit⟩
    have below := List.findIdx_lt_length_of_exists present
    rw [List.findIdx?_eq_some_of_exists present,
      List.takeWhile_eq_take_findIdx_not, List.length_take]
    simp only [ne_eq, decide_not, Bool.not_not, ← beq_eq_decide,
      Nat.min_eq_left (Nat.le_of_lt below)]
  rw [indexOf, found, Option.map_some]

/-- The part in front of a unit that a text has is shorter than the text. -/
theorem length_takeWhile_lt {text : QString} {unit : UInt16} (member : unit ∈ text) :
    (text.takeWhile (· ≠ unit)).length < text.length := by
  rw [List.takeWhile_eq_take_findIdx_not, List.length_take]
  have below := List.findIdx_lt_length_of_exists
    (⟨unit, member, by simp⟩ : ∃ other ∈ text, (!decide (other ≠ unit)) = true)
  omega

/-- A unit that a text lacks is not found. -/
theorem indexOf_of_notMem {text : QString} {unit : UInt16} {start : Nat}
    (absent : unit ∉ text.drop start) : text.indexOf unit start = none := by
  have missing : (text.drop start).findIdx? (· == unit) = none := by
    rw [List.findIdx?_eq_none_iff]
    intro other member
    simpa using fun same : other = unit => absent (same ▸ member)
  rw [indexOf, missing, Option.map_none]

end QString

namespace IpMask

variable [QtNumbers]

omit [QtNumbers] in
/-- A field is a wild card when the part of the text for it begins with one. -/
theorem getD_eq_star_iff (text : QString) (start : Nat) :
    text.getD start 0 = STAR ↔
      ((text.drop start).takeWhile (· ≠ DOT)).head? = some STAR := by
  rw [List.getD_eq_getElem?_getD, ← List.head?_drop]
  cases text.drop start with
  | nil => decide
  | cons unit rest =>
    -- A dot ends the part before it begins, and is no wild card either.
    by_cases dot : unit = DOT
    · subst dot
      simp [STAR, DOT]
    · simp [dot]

omit [QtNumbers] in
/-- What is read from a field on is stored there, or is refused. -/
def Outcome (binAddr : BinarryIpAddress) (field : Nat) (result : Bool × BinarryIpAddress) :
    Option IpPattern → Prop
  | some pattern => result = (true, binAddr.store pattern field)
  | none => result.1 = false

omit [QtNumbers] in
theorem Outcome.setWildCard {binAddr : BinarryIpAddress} {field : Nat}
    {result : Bool × BinarryIpAddress} {pattern : Option IpPattern}
    (outcome : Outcome (binAddr.setWildCard field) (field + 1) result pattern) :
    Outcome binAddr field result (pattern.map (none :: ·)) := by
  cases pattern <;> exact outcome

omit [QtNumbers] in
theorem Outcome.setByte {binAddr : BinarryIpAddress} {field : Nat} {byte : UInt8}
    {result : Bool × BinarryIpAddress} {pattern : Option IpPattern}
    (outcome : Outcome (binAddr.setByte field byte) (field + 1) result pattern) :
    Outcome binAddr field result (pattern.map (some byte :: ·)) := by
  cases pattern <;> exact outcome

/-- The loop of `strToBin` reads the fields of the text one after another. -/
theorem strToBinFrom_outcome {stringIp : QString} {useMatch : Bool} {turns : Nat} (few : turns ≤ 4)
    {start : Nat} (inside : start ≤ stringIp.length) (binAddr : BinarryIpAddress) :
    Outcome binAddr (4 - turns) (strToBinFrom stringIp useMatch turns start binAddr)
      (fieldsOf useMatch turns (stringIp.drop start)) := by
  induction turns generalizing start binAddr with
  | zero => rfl
  | succ turns ih =>
    -- The loop counts the fields up, and the turns that are left count down.
    have field : 4 - (turns + 1) = 3 - turns := by omega
    have next : 4 - turns = 3 - turns + 1 := by omega
    have star := getD_eq_star_iff stringIp start
    rw [next] at ih
    rw [fieldsOf, strToBinFrom, if_neg (Nat.not_lt.mpr inside), field]
    simp only [Bool.and_eq_true, beq_iff_eq, star]
    by_cases dot : DOT ∈ stringIp.drop start
    · rw [QString.indexOf_of_mem dot]
      -- The text goes on behind the dot.
      have bound := QString.length_takeWhile_lt dot
      generalize shape : (stringIp.drop start).takeWhile (· ≠ DOT) = part at star bound ⊢
      have beginning : part <+: stringIp.drop start := shape ▸ List.takeWhile_prefix _
      rw [List.length_drop] at bound
      have behind : (stringIp.drop start).drop (part.length + 1) =
          stringIp.drop (start + part.length + 1) := by rw [List.drop_drop]; rfl
      have middle : stringIp.mid start (start + part.length - start) = part := by
        rw [QString.mid, Nat.add_sub_cancel_left]
        exact (List.prefix_iff_eq_take.mp beginning).symm
      simp only [dot, if_true, true_or, behind, middle]
      split
      · -- The rest of the text is read behind a wild card, and behind a byte that is one.
        exact (ih (Nat.le_of_succ_le few) (by omega) _).setWildCard
      · cases toByte part with
        | none => rfl
        | some byte => exact (ih (Nat.le_of_succ_le few) (by omega) _).setByte
    · rw [QString.indexOf_of_notMem dot]
      -- Without a dot, the whole text is the last field.
      have whole : (stringIp.drop start).takeWhile (· ≠ DOT) = stringIp.drop start :=
        List.takeWhile_eq_self_iff.mpr fun unit member => by
          simpa using fun same : unit = DOT => dot (same ▸ member)
      have middle : stringIp.mid start (stringIp.length - start) = stringIp.drop start := by
        rw [QString.mid, ← List.length_drop, List.take_length]
      simp only [dot, if_false, false_or, whole, middle]
      split
      · -- A wild card at the end stands for all fields that are missing.
        exact congrArg (Prod.mk true) (BinarryIpAddress.store_replicate ..).symm
      · by_cases only : turns = 0
        · subst only
          simp only [Nat.sub_zero, if_true]
          cases toByte (stringIp.drop start) with
          | none => rfl
          | some byte => rfl
        · rw [if_neg only, if_neg (by omega)]
          rfl

/-- A text is read as the fields that it has. -/
theorem strToBin_outcome (text : QString) (binAddr : BinarryIpAddress) (useMatch : Bool) :
    Outcome binAddr 0 (strToBin text binAddr useMatch) (fieldsOf useMatch 4 text) :=
  strToBinFrom_outcome (Nat.le_refl 4) (Nat.zero_le _) binAddr

/-- A text has as many fields as are asked for. -/
theorem length_fieldsOf {useMatch : Bool} {missing : Nat} {text : QString} {pattern : IpPattern}
    (read : fieldsOf useMatch missing text = some pattern) : pattern.length = missing := by
  induction missing generalizing text pattern with
  | zero =>
    cases read
    rfl
  | succ missing ih =>
    have longer {field : Option UInt8} {rest : QString}
        (read : (fieldsOf useMatch missing rest).map (field :: ·) = some pattern) :
        pattern.length = missing + 1 := by
      obtain ⟨later, found, rfl⟩ := Option.map_eq_some_iff.mp read
      rw [List.length_cons, ih found]
    rw [fieldsOf] at read
    -- Either one field is added to those of the rest, or all that are missing are.
    split at read
    · split at read
      · exact longer read
      · cases read
        exact List.length_replicate
    · split at read
      · split at read
        · cases read
        · exact longer read
      · cases read

/-- A part of a mask text without the mark it may begin with. -/
def unmarked (line : QString) : QString := if line.head? = some MARK then line.drop 1 else line

/-- A part of a mask text that is taken for a mask. -/
def Readable (line : QString) : Prop :=
  (line.split [DOT]).length ≤ 4 ∧ (patternOf (unmarked line)).isSome = true

omit [QtNumbers] in
/-- Masks that stand for some patterns. -/
def Stands (masks : List BinarryIpAddress) (patterns : List IpPattern) : Prop :=
  List.Forall₂ (fun mask pattern => pattern.length = 4 ∧
    ∃ memory : BinarryIpAddress, mask = memory.store pattern 0) masks patterns

/-- The masks of both kinds stand for patterns. -/
structure Lists (mask : IpMask) (allowed prohibited : List IpPattern) : Prop where
  allowed : Stands mask.allowedMask allowed
  prohibited : Stands mask.prohibitedMask prohibited

/-- What a line adds to the patterns that admit addresses. -/
def admitting (line : QString) : List IpPattern :=
  if line.head? = some MARK then [] else (patternOf line).toList

/-- What a line adds to the patterns that refuse addresses. -/
def refusing (line : QString) : List IpPattern :=
  if line.head? = some MARK then (patternOf (line.drop 1)).toList else []

omit [QtNumbers] in
/-- A mask that has been stored stands for its pattern beside the others. -/
theorem Stands.append {masks : List BinarryIpAddress} {patterns : List IpPattern}
    (stands : Stands masks patterns) {pattern : IpPattern} (four : pattern.length = 4)
    (memory : BinarryIpAddress) :
    Stands (masks ++ [memory.store pattern 0]) (patterns ++ [pattern]) :=
  List.rel_append stands (.cons ⟨four, memory, rfl⟩ .nil)

/-- A mask of four fields is stored as its pattern, and any other text is refused. -/
theorem strToBin_cases (text : QString) (binAddr : BinarryIpAddress) :
    (∃ pattern, patternOf text = some pattern ∧ pattern.length = 4 ∧
      strToBin text binAddr true = (true, binAddr.store pattern 0)) ∨
    (patternOf text = none ∧ (strToBin text binAddr true).1 = false) := by
  have outcome := strToBin_outcome text binAddr true
  rw [← patternOf] at outcome
  -- The outcome says what is stored for the pattern that the text has.
  cases found : patternOf text with
  | none =>
    rw [found] at outcome
    exact .inr ⟨rfl, outcome⟩
  | some pattern =>
    rw [found] at outcome
    exact .inl ⟨pattern, rfl, length_fieldsOf found, outcome⟩

/-- A line that can be read adds its pattern to the masks of its kind, and any other is an error. -/
theorem parseLine_cases (line : QString) (binAddr : BinarryIpAddress) {mask : IpMask}
    {allowed prohibited : List IpPattern} (lists : mask.Lists allowed prohibited) :
    (Readable line ∧ (parseLine line binAddr mask).1 = none ∧
      (parseLine line binAddr mask).2.2.Lists (allowed ++ admitting line)
        (prohibited ++ refusing line) ∧
      (parseLine line binAddr mask).2.2.maskParsed = mask.maskParsed) ∨
    (¬ Readable line ∧ ∃ error, (parseLine line binAddr mask).1 = some error ∧
      (parseLine line binAddr mask).2.2 = mask) := by
  by_cases many : (line.split [DOT]).length > 4
  · -- More than four fields are refused before any of them is looked at.
    refine .inr ⟨fun readable => Nat.not_le.mpr many readable.1, ?_⟩
    rw [parseLine, if_pos many]
    exact ⟨_, rfl, rfl⟩
  by_cases marked : line.head? = some MARK
  · -- Behind its mark, the line is a mask that refuses addresses.
    rw [parseLine, if_neg many, if_pos marked, Readable, unmarked, if_pos marked, admitting,
      if_pos marked, refusing, if_pos marked, List.append_nil]
    obtain ⟨pattern, found, four, stored⟩ | ⟨missing, failed⟩ :=
      strToBin_cases (line.drop 1) binAddr
    · rw [found]
      refine .inl ⟨⟨Nat.not_lt.mp many, rfl⟩, ?_⟩
      simp only [stored, if_true]
      exact ⟨trivial, ⟨lists.allowed, lists.prohibited.append four binAddr⟩, trivial⟩
    · rw [missing]
      refine .inr ⟨fun readable => Bool.false_ne_true readable.2, ?_⟩
      simp only [failed, Bool.false_eq_true, if_false]
      exact ⟨_, rfl, trivial⟩
  · -- Without a mark, the line is a mask that admits them.
    rw [parseLine, if_neg many, if_neg marked, Readable, unmarked, if_neg marked, admitting,
      if_neg marked, refusing, if_neg marked, List.append_nil]
    obtain ⟨pattern, found, four, stored⟩ | ⟨missing, failed⟩ := strToBin_cases line binAddr
    · rw [found]
      refine .inl ⟨⟨Nat.not_lt.mp many, rfl⟩, ?_⟩
      simp only [stored, if_true]
      exact ⟨trivial, ⟨lists.allowed.append four binAddr, lists.prohibited⟩, trivial⟩
    · rw [missing]
      refine .inr ⟨fun readable => Bool.false_ne_true readable.2, ?_⟩
      simp only [failed, Bool.false_eq_true, if_false]
      exact ⟨_, rfl, trivial⟩

/-- When all lines can be read, their patterns are added; any other line is an error. -/
theorem parseLines_cases (lines : List QString) (binAddr : BinarryIpAddress) {mask : IpMask}
    {allowed prohibited : List IpPattern} (lists : mask.Lists allowed prohibited) :
    ((∀ line ∈ lines, Readable line) ∧ (parseLines lines binAddr mask).1 = none ∧
      (parseLines lines binAddr mask).2.Lists (allowed ++ lines.flatMap admitting)
        (prohibited ++ lines.flatMap refusing) ∧
      (parseLines lines binAddr mask).2.maskParsed = mask.maskParsed) ∨
    ((∃ line ∈ lines, ¬ Readable line) ∧ ∃ error, (parseLines lines binAddr mask).1 = some error ∧
      (parseLines lines binAddr mask).2.maskParsed = mask.maskParsed) := by
  induction lines generalizing binAddr mask allowed prohibited with
  | nil =>
    refine .inl ⟨fun _ => nofun, rfl, ?_, rfl⟩
    rwa [List.flatMap_nil, List.flatMap_nil, List.append_nil, List.append_nil]
  | cons line lines ih =>
    have turn := parseLine_cases line binAddr lists
    generalize shape : parseLine line binAddr mask = result at turn
    obtain ⟨outcome, local', after⟩ := result
    obtain ⟨readable, rfl, added, same⟩ | ⟨unreadable, error, rfl, rfl⟩ := turn
    · -- The other lines start from the masks that this one leaves behind.
      have going : parseLines (line :: lines) binAddr mask = parseLines lines local' after := by
        rw [parseLines, shape]
      rw [going, List.flatMap_cons, List.flatMap_cons, ← List.append_assoc, ← List.append_assoc]
      obtain ⟨others, none, all, kept⟩ | ⟨⟨other, member, unreadable⟩, error, some, kept⟩ :=
        ih local' added
      · exact .inl ⟨List.forall_mem_cons.mpr ⟨readable, others⟩, none, all, kept.trans same⟩
      · exact .inr ⟨⟨other, .tail line member, unreadable⟩, error, some, kept.trans same⟩
    · -- The first error ends the loop.
      refine .inr ⟨⟨line, .head lines, unreadable⟩, error, ?_⟩
      rw [parseLines, shape]
      exact ⟨rfl, rfl⟩

/-- The patterns that the lines add are the ones of the parts of the text. -/
theorem flatMap_admitting (maskValues delimiters : QString) :
    (maskValues.split delimiters).flatMap admitting =
      (allowedParts maskValues delimiters).filterMap patternOf := by
  -- Every line adds at most one pattern of either kind, as its mark says.
  rw [allowedParts, List.filterMap_filter, List.filterMap_eq_flatMap_toList]
  congr 1
  funext line
  by_cases marked : line.head? = some MARK <;> simp [admitting, marked]

theorem flatMap_refusing (maskValues delimiters : QString) :
    (maskValues.split delimiters).flatMap refusing = prohibitedPatterns maskValues delimiters := by
  rw [prohibitedPatterns, prohibitedParts, List.filterMap_map, List.filterMap_filter,
    List.filterMap_eq_flatMap_toList]
  congr 1
  funext line
  by_cases marked : line.head? = some MARK <;> simp [refusing, marked]

/-- When all parts can be read, none of the allowed ones is lost. -/
theorem allowed_filterMap_eq_nil_iff {maskValues delimiters : QString}
    (readable : ∀ part ∈ maskValues.split delimiters, Readable part) :
    (allowedParts maskValues delimiters).filterMap patternOf = [] ↔
      allowedParts maskValues delimiters = [] := by
  constructor
  · intro empty
    -- A part that is lost has no pattern, so it cannot be read.
    refine List.eq_nil_iff_forall_not_mem.mpr fun part member => ?_
    have lost := List.filterMap_eq_nil_iff.mp empty part member
    obtain ⟨inside, unmarked'⟩ := List.mem_filter.mp member
    have read := (readable part inside).2
    rw [unmarked, if_neg (of_decide_eq_true unmarked'), lost] at read
    exact Bool.false_ne_true read
  · intro empty
    rw [empty, List.filterMap_nil]

omit [QtNumbers] in
/-- An address is listed under some mask exactly if it matches some pattern. -/
theorem Stands.any_isListed {masks : List BinarryIpAddress} {patterns : List IpPattern}
    (stands : Stands masks patterns) (address : BinarryIpAddress) :
    masks.any address.isListed = true ↔
      ∃ pattern ∈ patterns, pattern.Matches address.bytes.toList := by
  induction stands with
  | nil => exact iff_of_false Bool.false_ne_true fun ⟨_, member, _⟩ => nomatch member
  | cons stored _ ih =>
    -- The first mask lists what matches its pattern, whatever memory it was stored into.
    obtain ⟨four, memory, rfl⟩ := stored
    rw [List.any_cons, Bool.or_eq_true, ih, BinarryIpAddress.isListed_store four,
      List.exists_mem_cons_iff]

omit [QtNumbers] in
/-- Some mask has only wild cards exactly if some pattern has no byte. -/
theorem Stands.any_everything {masks : List BinarryIpAddress} {patterns : List IpPattern}
    (stands : Stands masks patterns) :
    masks.any (·.equals everything) = true ↔ [none, none, none, none] ∈ patterns := by
  induction stands with
  | nil => exact iff_of_false Bool.false_ne_true List.not_mem_nil
  | @cons mask pattern masks patterns stored _ ih =>
    obtain ⟨four, memory, rfl⟩ := stored
    obtain ⟨f0, f1, f2, f3, rfl⟩ := List.length_eq_four.mp four
    rw [List.any_cons, Bool.or_eq_true, ih, List.mem_cons, BinarryIpAddress.store_four]
    refine or_congr_left ?_
    -- All four fields are wild cards, or one of them is a byte.
    cases f0 <;> cases f1 <;> cases f2 <;> cases f3 <;> simp [BinarryIpAddress.equals, everything]

/-- A text whose masks are all taken, without one that refuses every address. -/
def Parses (maskValues delimiters : QString) : Prop :=
  (∀ part ∈ maskValues.split delimiters, Readable part) ∧
    [none, none, none, none] ∉ prohibitedPatterns maskValues delimiters

/-- Without a mask that admits addresses, the ones of the computer itself are admitted. -/
theorem Lists.withLoopback {maskValues delimiters : QString} {mask : IpMask}
    {prohibited : List IpPattern}
    (readable : ∀ part ∈ maskValues.split delimiters, Readable part)
    (lists : mask.Lists ((allowedParts maskValues delimiters).filterMap patternOf) prohibited) :
    (if mask.allowedMask.length = 0 then { mask with allowedMask := mask.allowedMask ++ [loopback] }
      else mask).Lists (allowedPatterns maskValues delimiters) prohibited := by
  -- The list of masks is empty exactly if the text has no part of the kind.
  have empty : mask.allowedMask.length = 0 ↔ allowedParts maskValues delimiters = [] := by
    rw [List.Forall₂.length_eq lists.allowed, List.length_eq_zero_iff]
    exact allowed_filterMap_eq_nil_iff readable
  rw [allowedPatterns]
  by_cases none : allowedParts maskValues delimiters = []
  · rw [if_pos (empty.mpr none), if_pos none, List.length_eq_zero_iff.mp (empty.mpr none)]
    -- Whatever the memory was, storing the four fields gives the mask itself.
    have stored : loopback = loopback.store [some 127, .none, .none, .none] 0 := rfl
    exact ⟨.cons ⟨rfl, loopback, stored⟩ .nil, lists.prohibited⟩
  · rwa [if_neg (mt empty.mp none), if_neg none]

/-- The constructor takes a text that parses, and its masks stand for the patterns of the text. -/
theorem ofValues_cases (maskValues delimiters : QString) (binAddr : BinarryIpAddress) :
    (Parses maskValues delimiters ∧ (ofValues maskValues delimiters binAddr).maskParsed = true ∧
      (ofValues maskValues delimiters binAddr).Lists (allowedPatterns maskValues delimiters)
        (prohibitedPatterns maskValues delimiters)) ∨
    (¬ Parses maskValues delimiters ∧
      (ofValues maskValues delimiters binAddr).maskParsed = false) := by
  have lines := parseLines_cases (maskValues.split delimiters) binAddr
    (⟨.nil, .nil⟩ : Lists ⟨[], [], maskValues, delimiters, false⟩ [] [])
  rw [ofValues, parseMask]
  simp only
  generalize parseLines (maskValues.split delimiters) binAddr
    ⟨[], [], maskValues, delimiters, false⟩ = result at lines ⊢
  obtain ⟨outcome, mask⟩ := result
  -- Either all lines were read, or an error was reported.
  obtain ⟨readable, rfl, lists, unparsed⟩ | ⟨⟨part, member, unreadable⟩, error, rfl, unparsed⟩ :=
    lines
  · rw [List.nil_append, List.nil_append, flatMap_admitting, flatMap_refusing] at lists
    have full := lists.withLoopback readable
    have kept : (if mask.allowedMask.length = 0 then
        { mask with allowedMask := mask.allowedMask ++ [loopback] }
      else mask).maskParsed = false := by
      split <;> exact unparsed
    simp only
    generalize (if mask.allowedMask.length = 0 then
      { mask with allowedMask := mask.allowedMask ++ [loopback] } else mask) = mask at full kept ⊢
    -- A mask that refuses every address makes the text be refused.
    split
    · rename_i refused
      exact .inr ⟨fun parses => parses.2 (full.prohibited.any_everything.mp refused), kept⟩
    · rename_i refused
      exact .inl ⟨⟨readable, mt full.prohibited.any_everything.mpr refused⟩, rfl, full.allowed,
        full.prohibited⟩
  · exact .inr ⟨fun parses => unreadable (parses.1 part member), unparsed⟩

/-- What an address is checked for, once the masks have been taken. -/
theorem checkIpAddress_eq_true_iff {maskValues delimiters : QString} {memory : BinarryIpAddress}
    (parsed : (ofValues maskValues delimiters memory).maskParsed = true) {address : QString}
    {binAddr : BinarryIpAddress} (valid : (strToBin address binAddr false).1 = true)
    (errorString : QString) :
    ((ofValues maskValues delimiters memory).checkIpAddress binAddr address errorString).1 = true ↔
      Admits (allowedPatterns maskValues delimiters) (prohibitedPatterns maskValues delimiters)
        (strToBin address binAddr false).2.bytes.toList := by
  obtain ⟨_, _, lists⟩ | ⟨_, unparsed⟩ := ofValues_cases maskValues delimiters memory
  · have prohibited := lists.prohibited.any_isListed (strToBin address binAddr false).2
    have allowed := lists.allowed.any_isListed (strToBin address binAddr false).2
    rw [checkIpAddress, parsed, Admits, ← allowed]
    simp only [valid, Bool.not_true, Bool.false_eq_true, if_false]
    -- A mask that refuses the address is looked for before the ones that admit it.
    split
    · rename_i refused
      obtain ⟨pattern, member, same⟩ := prohibited.mp refused
      exact iff_of_false Bool.false_ne_true fun admitted => admitted.2 pattern member same
    · rename_i unrefused
      refine (and_iff_left fun pattern member same => unrefused ?_).symm
      exact prohibited.mpr ⟨pattern, member, same⟩
  · exact absurd (parsed.symm.trans unparsed) Bool.noConfusion

/-- The order of the parts of a mask text decides nothing. -/
theorem Parses.perm {left right leftDelimiters rightDelimiters : QString}
    (same : (left.split leftDelimiters).Perm (right.split rightDelimiters)) :
    (Parses left leftDelimiters ↔ Parses right rightDelimiters) ∧
      ∀ address, Admits (allowedPatterns left leftDelimiters)
          (prohibitedPatterns left leftDelimiters) address ↔
        Admits (allowedPatterns right rightDelimiters)
          (prohibitedPatterns right rightDelimiters) address := by
  -- Sorting the parts by their marks keeps each kind a permutation.
  have allowed : (allowedParts left leftDelimiters).Perm (allowedParts right rightDelimiters) :=
    same.filter _
  have prohibited : (prohibitedPatterns left leftDelimiters).Perm
      (prohibitedPatterns right rightDelimiters) := ((same.filter _).map _).filterMap _
  have patterns : (allowedPatterns left leftDelimiters).Perm
      (allowedPatterns right rightDelimiters) := by
    have empty : allowedParts left leftDelimiters = [] ↔
        allowedParts right rightDelimiters = [] := by
      rw [← List.length_eq_zero_iff, allowed.length_eq, List.length_eq_zero_iff]
    rw [allowedPatterns, allowedPatterns]
    by_cases none : allowedParts left leftDelimiters = []
    · rw [if_pos none, if_pos (empty.mp none)]
    · rw [if_neg none, if_neg (mt empty.mpr none)]
      exact allowed.filterMap _
  refine ⟨and_congr ?_ (not_congr prohibited.mem_iff), fun address => and_congr ?_ ?_⟩
  · exact forall_congr' fun part => imp_congr same.mem_iff Iff.rfl
  · exact exists_congr fun pattern => and_congr patterns.mem_iff Iff.rfl
  · exact forall_congr' fun pattern => imp_congr prohibited.mem_iff Iff.rfl

omit [QtNumbers] in
/-- What was on the stack is not part of an address that has been read. -/
theorem Outcome.bytes_eq {left right : BinarryIpAddress}
    {leftResult rightResult : Bool × BinarryIpAddress}
    {pattern : Option IpPattern} (four : ∀ fields, pattern = some fields → fields.length = 4)
    (leftOutcome : Outcome left 0 leftResult pattern)
    (rightOutcome : Outcome right 0 rightResult pattern) :
    leftResult.1 = rightResult.1 ∧ (leftResult.1 = true → leftResult.2 = rightResult.2) := by
  cases pattern with
  | none =>
    have left : leftResult.1 = false := leftOutcome
    exact ⟨left.trans (Eq.symm rightOutcome), fun read => absurd (read.symm.trans left) nofun⟩
  | some fields =>
    -- All four fields are stored, so nothing of the memory is left.
    obtain ⟨f0, f1, f2, f3, rfl⟩ := List.length_eq_four.mp (four fields rfl)
    have left : leftResult = _ := leftOutcome
    have right : rightResult = _ := rightOutcome
    rw [left, right, BinarryIpAddress.store_four, BinarryIpAddress.store_four]
    exact ⟨rfl, fun _ => rfl⟩

/-- The memory of the local address decides nothing about what an address is read as. -/
theorem strToBin_memory (address : QString) (left right : BinarryIpAddress) :
    (strToBin address left false).1 = (strToBin address right false).1 ∧
      ((strToBin address left false).1 = true →
        (strToBin address left false).2 = (strToBin address right false).2) :=
  Outcome.bytes_eq (fun _ => length_fieldsOf) (strToBin_outcome address left false)
    (strToBin_outcome address right false)

/-- An address is let in exactly if some mask of the text admits it and none refuses it, and the
order of the masks in the text decides nothing. -/
theorem checkIpAddress_iff {maskValues delimiters : QString} {memory : BinarryIpAddress}
    (parsed : (ofValues maskValues delimiters memory).maskParsed = true) {address : QString}
    {binAddr : BinarryIpAddress} (valid : (strToBin address binAddr false).1 = true)
    (errorString : QString) :
    (((ofValues maskValues delimiters memory).checkIpAddress binAddr address errorString).1 = true ↔
      Admits (allowedPatterns maskValues delimiters) (prohibitedPatterns maskValues delimiters)
        (strToBin address binAddr false).2.bytes.toList) ∧
    ∀ otherValues otherDelimiters otherMemory otherAddr otherString,
      (maskValues.split delimiters).Perm (QString.split otherValues otherDelimiters) →
      ((ofValues otherValues otherDelimiters otherMemory).checkIpAddress otherAddr address
        otherString).1 =
      ((ofValues maskValues delimiters memory).checkIpAddress binAddr address errorString).1 := by
  have answer := checkIpAddress_eq_true_iff parsed valid errorString
  refine ⟨answer, ?_⟩
  intro otherValues otherDelimiters otherMemory otherAddr otherString same
  have order := Parses.perm same
  -- The other text is taken because this one is.
  have parses : Parses maskValues delimiters := by
    obtain ⟨parses, _⟩ | ⟨_, unparsed⟩ := ofValues_cases maskValues delimiters memory
    · exact parses
    · exact absurd (parsed.symm.trans unparsed) nofun
  have otherParsed : (ofValues otherValues otherDelimiters otherMemory).maskParsed = true := by
    obtain ⟨_, otherParsed, _⟩ | ⟨unparsable, _⟩ :=
      ofValues_cases otherValues otherDelimiters otherMemory
    · exact otherParsed
    · exact absurd (order.1.mp parses) unparsable
  have bytes := strToBin_memory address binAddr otherAddr
  have otherValid : (strToBin address otherAddr false).1 = true := bytes.1 ▸ valid
  rw [Bool.eq_iff_iff, answer, order.2, bytes.2 valid]
  exact checkIpAddress_eq_true_iff otherParsed otherValid otherString

omit [QtNumbers] in
/-- A network of which one address is refused lets another one in. -/
theorem checkIpAddress_iff_network :
    letI := QtNumbers.decimal
    let masks := QString.ofAscii "10.0.*.* !10.0.0.1"
    Admits (allowedPatterns masks (.ofAscii " ")) (prohibitedPatterns masks (.ofAscii " "))
      (strToBin (.ofAscii "10.0.0.2") everything false).2.bytes.toList :=
  letI := QtNumbers.decimal
  (@checkIpAddress_iff _ (.ofAscii "10.0.*.* !10.0.0.1") (.ofAscii " ") everything
    (by decide) (.ofAscii "10.0.0.2") everything (by decide) []).1.mp
    (by decide)

end IpMask

end Threader
