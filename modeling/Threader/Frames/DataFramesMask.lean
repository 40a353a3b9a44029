import Mathlib.Data.List.Sort
import Threader.Base.EventMachine
import Threader.Base.Memo
import Threader.Frames.DataFramesCommon
import Threader.Utils.IpMask

/-! `DataFramesMask`: the names of frames that masks allow, with a memory of earlier answers. -/

namespace Threader

/-- `QRegExp::exactMatch` of a pattern in the syntax `QRegExp::Wildcard`, which is left to Qt. -/
class QtWildcards where
  exactMatch : QString → QString → Bool

/-- A pattern in which a star stands for any characters and a question mark for one. -/
def matchesWildcards : QString → QString → Bool
  | [], text => text.isEmpty
  | unit :: pattern, text =>
    if unit = 0x2A then text.tails.any (matchesWildcards pattern)
    else
      match text with
      | [] => false
      | first :: text => (unit = 0x3F || unit = first) && matchesWildcards pattern text

/-- The patterns without brackets. -/
@[reducible]
def QtWildcards.plain : QtWildcards := ⟨matchesWildcards⟩

/-- `keys()`, in the order in which the table happens to be. -/
def DataFramesDefinitions.keys (definitions : DataFramesDefinitions) : List QString :=
  definitions.framesHash.map Prod.fst

/-- `DataFramesMask`: the patterns of both kinds, and the names that were asked for. -/
structure DataFramesMask where
  knownNames : Memo QString Bool
  masksAllowed : List QString
  masksProhibited : List QString
deriving DecidableEq

namespace DataFramesMask

/-- `' '`. -/
def SPACE : UInt16 := 0x20

/-- `'!'`. -/
def MARK : UInt16 := 0x21

/-- `"*"`. -/
def STAR : UInt16 := 0x2A

variable [QtText] [QtWildcards]

/-- `allowFrameByMasks(name)`. -/
def allowFrameByMasks (mask : DataFramesMask) (name : QString) : Bool × DataFramesMask :=
  let upperName := QtText.toUpper name
  let prohibited := mask.masksProhibited.any (QtWildcards.exactMatch · upperName)
  let allowed := !prohibited && mask.masksAllowed.any (QtWildcards.exactMatch · upperName)
  (allowed, { mask with knownNames := mask.knownNames.remember upperName allowed })

/-- `allow(name)`. -/
def allow (mask : DataFramesMask) (name : QString) : Bool × DataFramesMask :=
  let upperName := QtText.toUpper name
  match mask.knownNames.lookup upperName with
  | some known => (known, mask)
  | none => mask.allowFrameByMasks upperName

omit [QtWildcards] in
/-- A turn of the first loop of the constructor: a mask is allowed unless it is marked. -/
def appendMask (mask : DataFramesMask) (item : QString) : DataFramesMask :=
  let item := QtText.toUpper item
  if item.isEmpty then mask
  else if item.head? = some MARK then
    { mask with masksProhibited := mask.masksProhibited ++ [item.drop 1] }
  else { mask with masksAllowed := mask.masksAllowed ++ [item] }

/-- A turn of the second loop: a name is known from the start unless it has a star. -/
def appendName (mask : DataFramesMask) (key : QString) : DataFramesMask :=
  let frameName := QtText.toUpper key
  if STAR ∈ frameName then mask else (mask.allowFrameByMasks frameName).2

/-- The constructor. -/
def ofMask (maskValue : QString) (definitions : Option DataFramesDefinitions) : DataFramesMask :=
  let masksList := (maskValue.split [SPACE]).insertionSort (· ≤ ·)
  let mask := masksList.foldl appendMask ⟨∅, [], []⟩
  match definitions with
  | none => mask
  | some definitions => definitions.keys.foldl appendName mask

omit [QtWildcards] in
/-- The masks of a text, in upper case. -/
def items (maskValue : QString) : List QString := (maskValue.split [SPACE]).map QtText.toUpper

omit [QtWildcards] in
/-- The patterns that allow names. -/
def allowedPatterns (maskValue : QString) : List QString :=
  (items maskValue).filter fun item => item ≠ [] ∧ item.head? ≠ some MARK

omit [QtWildcards] in
/-- The patterns that prohibit names, without their marks. -/
def prohibitedPatterns (maskValue : QString) : List QString :=
  ((items maskValue).filter fun item => item.head? = some MARK).map (List.drop 1)

/-- A name in upper case matches some pattern that allows it, and none that prohibits it. -/
def Allows (maskValue upperName : QString) : Prop :=
  (∃ pattern ∈ allowedPatterns maskValue, QtWildcards.exactMatch pattern upperName = true) ∧
    ∀ pattern ∈ prohibitedPatterns maskValue, ¬ QtWildcards.exactMatch pattern upperName = true

instance (maskValue upperName : QString) : Decidable (Allows maskValue upperName) :=
  inferInstanceAs (Decidable (_ ∧ _))

/-- The masks are those of the text in some order, and the names that are known are known rightly. -/
structure Faithful (maskValue : QString) (mask : DataFramesMask) : Prop where
  allowed : ∀ pattern, pattern ∈ mask.masksAllowed ↔ pattern ∈ allowedPatterns maskValue
  prohibited : ∀ pattern, pattern ∈ mask.masksProhibited ↔ pattern ∈ prohibitedPatterns maskValue
  known : Memo.Sound (fun upperName => decide (Allows maskValue upperName)) mask.knownNames

namespace Faithful

variable {maskValue : QString} {mask : DataFramesMask}

/-- The masks themselves decide as they should. -/
theorem fst_allowFrameByMasks (faithful : mask.Faithful maskValue) (name : QString) :
    (mask.allowFrameByMasks name).1 = decide (Allows maskValue (QtText.toUpper name)) := by
  -- Both lists contain the patterns of the text, in whatever order.
  rw [Bool.eq_iff_iff, decide_eq_true_iff]
  simp only [allowFrameByMasks, Allows, Bool.and_eq_true, Bool.not_eq_true', List.any_eq_true,
    List.any_eq_false, faithful.allowed, faithful.prohibited]
  exact and_comm

/-- What is decided by the masks is remembered rightly. -/
theorem snd_allowFrameByMasks (faithful : mask.Faithful maskValue) (name : QString) :
    (mask.allowFrameByMasks name).2.Faithful maskValue := by
  -- The answer that is stored is the one that the masks give.
  have known := faithful.known.remember (QtText.toUpper name)
  rw [← faithful.fst_allowFrameByMasks name] at known
  exact ⟨faithful.allowed, faithful.prohibited, known⟩

/-- Asking for a name changes no answer. -/
theorem snd_allow (faithful : mask.Faithful maskValue) (name : QString) :
    (mask.allow name).2.Faithful maskValue := by
  -- A known name changes nothing, and another one is added with its answer.
  unfold allow
  dsimp only
  split
  · exact faithful
  · exact faithful.snd_allowFrameByMasks _

/-- A known name, and one that is not known yet, are allowed if the masks allow them. -/
theorem fst_allow (faithful : mask.Faithful maskValue) {name : QString}
    (upper : QtText.toUpper (QtText.toUpper name) = QtText.toUpper name) :
    (mask.allow name).1 = decide (Allows maskValue (QtText.toUpper name)) := by
  -- Known or not, the name gets the answer that the memory stands for.
  have remembered := faithful.known.getD_lookup (QtText.toUpper name)
  unfold allow
  dsimp only
  cases found : mask.knownNames.lookup (QtText.toUpper name) with
  | some known =>
    rw [found] at remembered
    exact remembered
  | none =>
    -- The name is converted once more where the masks are asked.
    exact (faithful.fst_allowFrameByMasks _).trans (by rw [upper])

/-- A name of the table is decided like any other. -/
theorem appendName (faithful : mask.Faithful maskValue) (key : QString) :
    (mask.appendName key).Faithful maskValue := by
  -- A name with a star is left out of the memory.
  unfold DataFramesMask.appendName
  dsimp only
  split
  · exact faithful
  · exact faithful.snd_allowFrameByMasks _

end Faithful

omit [QtWildcards] in
/-- The masks that a list of items adds, one after another. -/
theorem foldl_appendMask (list : List QString) (mask : DataFramesMask) :
    list.foldl appendMask mask =
      ⟨mask.knownNames,
        mask.masksAllowed ++ (list.map QtText.toUpper).filter fun item =>
          item ≠ [] ∧ item.head? ≠ some MARK,
        mask.masksProhibited ++ ((list.map QtText.toUpper).filter fun item =>
          item.head? = some MARK).map (List.drop 1)⟩ := by
  -- What is collected so far is kept general in the induction.
  induction list generalizing mask with
  | nil => simp
  | cons item list ih =>
    rw [List.foldl_cons, ih, List.map_cons]
    unfold appendMask
    dsimp only
    generalize QtText.toUpper item = item
    -- An item is empty, or begins with the mark, or is a mask of its own.
    cases item with
    | nil => simp
    | cons unit item => by_cases marked : unit = MARK <;> simp [marked]

/-- The constructor takes the masks of the text, and knows the names of the table. -/
theorem ofMask_faithful (maskValue : QString) (definitions : Option DataFramesDefinitions) :
    (ofMask maskValue definitions).Faithful maskValue := by
  -- Sorting only changes the order of the masks.
  have sorted := (List.perm_insertionSort (· ≤ ·) (maskValue.split [SPACE])).map QtText.toUpper
  have masks : (((maskValue.split [SPACE]).insertionSort (· ≤ ·)).foldl appendMask
      ⟨∅, [], []⟩).Faithful maskValue := by
    rw [foldl_appendMask]
    refine ⟨fun pattern => ?_, fun pattern => ?_, Memo.sound_empty⟩
    · rw [List.nil_append]
      exact (sorted.filter _).mem_iff
    · rw [List.nil_append]
      exact ((sorted.filter _).map _).mem_iff
  cases definitions with
  | none => exact masks
  | some definitions =>
    exact EventMachine.run_invariant appendName (fun _ key faithful => faithful.appendName key)
      masks definitions.keys

/-- The mask after some calls of `allow`. -/
abbrev asked (mask : DataFramesMask) (names : List QString) : DataFramesMask :=
  EventMachine.run (fun mask name => (mask.allow name).2) mask names

/-- No calls change any answer. -/
theorem Faithful.asked {maskValue : QString} {mask : DataFramesMask}
    (faithful : mask.Faithful maskValue) (names : List QString) :
    (mask.asked names).Faithful maskValue :=
  EventMachine.run_invariant _ (fun _ name faithful => faithful.snd_allow name) faithful names

/-- The order of the masks decides nothing. -/
theorem Allows.perm {left right : QString}
    (same : (left.split [SPACE]).Perm (right.split [SPACE])) (upperName : QString) :
    Allows left upperName ↔ Allows right upperName := by
  -- Each list of patterns is a rearrangement of the other one.
  have items : (items left).Perm (items right) := same.map _
  have allowed : (allowedPatterns left).Perm (allowedPatterns right) := items.filter _
  have prohibited : (prohibitedPatterns left).Perm (prohibitedPatterns right) :=
    (items.filter _).map _
  simp only [Allows, allowed.mem_iff, prohibited.mem_iff]

/--
An ASCII name is allowed exactly if the masks allow it, whatever was asked before.

Neither the table, nor the order of the masks, nor the case of the name makes a difference.
-/
theorem allow_iff (maps : QtText.MapsAscii) (maskValue : QString)
    (definitions : Option DataFramesDefinitions) (earlier : List QString) {name : QString}
    (ascii : name.Ascii) :
    ((((ofMask maskValue definitions).asked earlier).allow name).1 = true ↔
      Allows maskValue (QtText.toUpper name)) ∧
    ∀ (otherValue : QString) (otherDefinitions : Option DataFramesDefinitions)
      (otherEarlier : List QString) (otherName : QString),
      (maskValue.split [SPACE]).Perm (otherValue.split [SPACE]) → otherName.Ascii →
      otherName.map upperAscii = name.map upperAscii →
      (((ofMask otherValue otherDefinitions).asked otherEarlier).allow otherName).1 =
        (((ofMask maskValue definitions).asked earlier).allow name).1 := by
  -- Whatever has been remembered agrees with the masks, on both sides.
  have answer := ((ofMask_faithful maskValue definitions).asked earlier).fst_allow
    (maps.toUpper_toUpper ascii)
  refine ⟨by rw [answer, decide_eq_true_iff], ?_⟩
  intro otherValue otherDefinitions otherEarlier otherName same otherAscii case
  have other := ((ofMask_faithful otherValue otherDefinitions).asked otherEarlier).fst_allow
    (maps.toUpper_toUpper otherAscii)
  -- Names that differ in case have one upper case.
  have upper : QtText.toUpper otherName = QtText.toUpper name := by
    rw [maps otherAscii, maps ascii, case]
  rw [answer, other, upper, decide_eq_decide]
  exact (Allows.perm same _).symm

omit [QtText] [QtWildcards] in
/-- A name that was asked for in another case, beside a prohibited one, is allowed. -/
theorem allow_iff_ping :
    let _ := QtText.ascii
    let _ := QtWildcards.plain
    (((ofMask (.ofAscii "!Pong P*") none).asked [.ofAscii "PING", .ofAscii "pong"]).allow
      (.ofAscii "Ping")).1 = true := by
  let _ := QtText.ascii
  let _ := QtWildcards.plain
  exact (allow_iff QtText.mapsAscii_ascii (.ofAscii "!Pong P*") none
    [.ofAscii "PING", .ofAscii "pong"] (by decide)).1.mpr (by decide)

end DataFramesMask

end Threader
