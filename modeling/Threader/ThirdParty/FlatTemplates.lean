import Mathlib.Data.List.GetD
import Mathlib.Data.List.TakeWhile
import Threader.Base.Entities
import Threader.ThirdParty.QtVariantContext

/-! Escaped values, and templates with nothing but such values in them. -/

universe u

namespace Threader.Mustache

open Entities (Distinct Spelt spelling)
open QString (ofAscii)
open Searching (findRun findRunFrom)

/-- The entities that `unescapeHtml` decodes before the last one. -/
def markupEntities : List (QString × QString) :=
  [(ofAscii "&lt;", ofAscii "<"), (ofAscii "&gt;", ofAscii ">"), (ofAscii "&quot;", ofAscii "\"")]

/-- The last entity that `unescapeHtml` decodes. -/
def ampersandEntity : QString × QString := (ofAscii "&amp;", ofAscii "&")

/-- Whether entities are distinct can be checked. -/
theorem distinct_of_check {table : List (QString × QString)}
    (starts : table.all (fun pair => pair.1.head? == some 0x26 && !pair.1.tail.contains 0x26) = true)
    (apart : table.all (fun pair => table.all fun other => !pair.1.isPrefixOf other.1 || pair == other) =
      true) : Distinct 0x26 table := by
  constructor
  · intro pair member
    obtain ⟨first, clean⟩ := Bool.and_eq_true_iff.mp (List.all_eq_true.mp starts pair member)
    obtain ⟨tail, run⟩ := List.head?_eq_some_iff.mp (eq_of_beq first)
    refine ⟨tail, run, ?_⟩
    simpa [run] using clean
  · intro pair member other otherMember begins
    have check := List.all_eq_true.mp (List.all_eq_true.mp apart pair member) other otherMember
    rw [List.isPrefixOf_iff_prefix.mpr begins] at check
    simpa using check

/-- Each character is escaped by itself, as an entity that `unescapeHtml` decodes. -/
theorem escapeUnit_cases (unit : UInt16) : escapeUnit unit = [unit] ∧ unit ≠ 0x26 ∨
    (escapeUnit unit, [unit]) ∈ markupEntities ++ [ampersandEntity] := by
  unfold escapeUnit
  split
  · rename_i same
    exact .inr (same ▸ by decide)
  · rename_i other
    repeat' split
    all_goals
      first
        | exact .inl ⟨rfl, other⟩
        | rename_i same
          exact .inr (same ▸ by decide)

/-- What was escaped is unescaped again, whatever it was. -/
theorem unescapeHtml_escapeHtml (input : QString) : unescapeHtml (escapeHtml input) = input := by
  have distinct : Distinct 0x26 (markupEntities ++ [ampersandEntity]) :=
    distinct_of_check (by decide) (by decide)
  have spelt : Spelt (markupEntities ++ [ampersandEntity]) (spelling escapeUnit input) :=
    Entities.spelt_spelling fun unit _ => (escapeUnit_cases unit).imp And.left id
  -- The ampersand is escaped itself, so that every ampersand begins an entity.
  have escaped : Entities.Escaped 0x26 (spelling escapeUnit input) := by
    intro member
    obtain ⟨unit, _, same⟩ := List.mem_map.mp member
    split at same
    · rename_i unescaped
      cases same
      exact absurd unescaped (by decide)
    · cases same
  -- The entity of the ampersand is the last one, and may give back what the others begin with.
  have decoded := Entities.replaceEach_escaped distinct spelt escaped (by decide)
  rwa [Entities.written_spelling, Entities.plain_spelling] at decoded

/-- A value tag of a template: the text in front of it, and the name with spaces in front. -/
structure Slot where
  literal : QString
  pad : QString
  key : QString

namespace Slot

/-- What stands between the markers. -/
def inside (slot : Slot) : QString := slot.pad ++ slot.key

/-- A tag in full, with the text in front of it. -/
def source (slot : Slot) : QString :=
  slot.literal ++ (ofAscii "\x7b\x7b" ++ (slot.inside ++ ofAscii "\x7d\x7d"))

/-- What a tag is rendered as, with the text in front of it. -/
def shown {γ : Type u} [Context γ] (context : γ) (slot : Slot) : QString :=
  slot.literal ++ escapeHtml (Context.stringValue context slot.key)

/-- Whether a character in front of a name makes a tag of another type of it. -/
def changesType (unit : UInt16) : Bool :=
  (namedTagType unit).isSome || [0x21, 0x3D, 0x26, 0x7B].contains unit

/-- A tag is found by its markers, and names a value. -/
structure Readable (slot : Slot) : Prop where
  starts : findRun (ofAscii "\x7b\x7b") (slot.literal ++ ofAscii "\x7b\x7b") = some slot.literal.length
  ends : findRun (ofAscii "\x7d\x7d") (slot.inside ++ ofAscii "\x7d\x7d") = some slot.inside.length
  pad : ∀ unit ∈ slot.pad, isSpace unit = true
  key : ∀ unit ∈ slot.key, isSpace unit = false
  plain : changesType (slot.inside.headD 0x7D) = false

/-- Whether a tag is one of these can be checked. -/
def check (slot : Slot) : Bool :=
  findRun (ofAscii "\x7b\x7b") (slot.literal ++ ofAscii "\x7b\x7b") == some slot.literal.length &&
    (findRun (ofAscii "\x7d\x7d") (slot.inside ++ ofAscii "\x7d\x7d") == some slot.inside.length &&
      (slot.pad.all isSpace && (slot.key.all (fun unit => !isSpace unit) &&
        !changesType (slot.inside.headD 0x7D))))

theorem readable_of_check {slot : Slot} (checked : slot.check = true) : slot.Readable := by
  simp only [check, Bool.and_eq_true, beq_iff_eq, List.all_eq_true, Bool.not_eq_true'] at checked
  obtain ⟨starts, ends, pad, key, plain⟩ := checked
  exact ⟨starts, ends, pad, key, plain⟩

end Slot

/-- A template with value tags, and a text behind them. -/
def flatTemplate (slots : List Slot) (last : QString) : QString := slots.flatMap Slot.source ++ last

section Flat

variable {slot : Slot} (readable : slot.Readable) (front rest : QString)

include readable

/-- The name of a value tag is read without the spaces in front of it. -/
theorem Slot.Readable.readTagName_eq :
    readTagName (front ++ (slot.inside ++ (ofAscii "\x7d\x7d" ++ rest))) front.length
      (front.length + slot.inside.length) = slot.key := by
  have skipped : skipSpaces (front ++ (slot.inside ++ (ofAscii "\x7d\x7d" ++ rest))) front.length =
      front.length + slot.pad.length := by
    -- Neither a name nor a marker begins with a space.
    have stops : (slot.key ++ (ofAscii "\x7d\x7d" ++ rest)).takeWhile isSpace = [] := by
      cases named : slot.key with
      | nil => rfl
      | cons unit key =>
        have solid := readable.key unit (named ▸ List.mem_cons_self)
        simp [solid]
    rw [skipSpaces, List.drop_left, Slot.inside, List.append_assoc,
      List.takeWhile_append_of_pos readable.pad, stops, List.append_nil]
  have whole : (front ++ (slot.inside ++ (ofAscii "\x7d\x7d" ++ rest))).take
      (front.length + slot.inside.length) = front ++ slot.pad ++ slot.key := by
    rw [← List.append_assoc, ← List.length_append, List.take_left, Slot.inside, List.append_assoc]
  rw [readTagName, skipped, wordAt, whole, ← List.length_append, List.drop_left]
  exact List.takeWhile_eq_self_iff.mpr fun unit member => by simp [readable.key unit member]

/-- The tag is found behind the text in front of it. -/
theorem Slot.Readable.findTag_eq :
    Markers.findTag ⟨ofAscii "\x7b\x7b", ofAscii "\x7d\x7d"⟩ (front ++ (slot.source ++ rest))
      front.length (front ++ (slot.source ++ rest)).length =
      some ⟨.value, slot.key, front.length + slot.literal.length,
        front.length + slot.source.length, .escape⟩ := by
  have markerLength : (ofAscii "\x7b\x7b").length = 2 ∧ (ofAscii "\x7d\x7d").length = 2 := ⟨rfl, rfl⟩
  -- The text is taken apart at the start of the tag, and inside it.
  have atStart : front ++ (slot.source ++ rest) =
      front ++ (slot.literal ++ (ofAscii "\x7b\x7b" ++
        (slot.inside ++ (ofAscii "\x7d\x7d" ++ rest)))) := by
    simp [Slot.source]
  have atInside : front ++ (slot.source ++ rest) =
      (front ++ slot.literal ++ ofAscii "\x7b\x7b") ++
        (slot.inside ++ (ofAscii "\x7d\x7d" ++ rest)) := by
    simp [Slot.source]
  have frontLength : (front ++ slot.literal ++ ofAscii "\x7b\x7b").length =
      front.length + slot.literal.length + 2 := by
    rw [List.length_append, List.length_append, markerLength.1]
  have starts : findRunFrom (ofAscii "\x7b\x7b") (front ++ (slot.source ++ rest)) front.length =
      some (front.length + slot.literal.length) := by
    rw [findRunFrom, if_pos (by simp), atStart, List.drop_left,
      Searching.findRun_append readable.starts]
    rfl
  have ends : findRunFrom (ofAscii "\x7d\x7d") (front ++ (slot.source ++ rest))
      (front.length + slot.literal.length + 2) =
      some (front.length + slot.literal.length + 2 + slot.inside.length) := by
    rw [findRunFrom, if_pos (by rw [atInside, List.length_append, frontLength]; omega), atInside,
      ← frontLength, List.drop_left, Searching.findRun_append readable.ends]
    rfl
  -- The first character between the markers decides about the type of the tag.
  have typeUnit : unitAt (front ++ (slot.source ++ rest)) (front.length + slot.literal.length + 2) =
      slot.inside.headD 0x7D := by
    rw [unitAt, atInside, ← frontLength, List.getD_append_right _ _ _ _ (Nat.le_refl _), Nat.sub_self]
    cases slot.inside <;> rfl
  have name := readable.readTagName_eq (front ++ slot.literal ++ ofAscii "\x7b\x7b") rest
  rw [← atInside, frontLength] at name
  -- The end of the text is behind the tag.
  have early : ¬ (front ++ (slot.source ++ rest)).length ≤ front.length + slot.literal.length := by
    rw [atInside, List.length_append, frontLength]
    omega
  have plain := readable.plain
  simp only [Slot.changesType, Bool.or_eq_false_iff, Option.isSome_eq_false_iff,
    Option.isNone_iff_eq_none, List.contains_eq_mem, List.mem_cons, List.not_mem_nil, or_false,
    decide_eq_false_iff_not, not_or] at plain
  obtain ⟨named, notComment, notDelimiter, notUnescaped, notRaw⟩ := plain
  have sourceLength : slot.source.length =
      slot.literal.length + 2 + slot.inside.length + 2 := by
    simp only [Slot.source, List.length_append, markerLength]
    omega
  simp only [Markers.findTag, starts, early, ↓reduceIte, markerLength.1, ends, Option.some.injEq]
  simp only [readTag, markerLength, typeUnit, named, notComment, notDelimiter, notUnescaped, notRaw,
    ↓reduceIte, valueTag, name, sourceLength, Tag.mk.injEq, true_and]
  exact ⟨by omega, trivial⟩

end Flat

section Rendering

variable {γ : Type u} [Context γ] (context : γ) {slots : List Slot} {last : QString}

/-- What a template amounts to is what its tags are rendered as, one after another. -/
theorem Renderer.renderFrom_flat {renderer : Renderer} (faultless : renderer.errorPos = none)
    (markers : renderer.markers = ⟨ofAscii "\x7b\x7b", ofAscii "\x7d\x7d"⟩)
    (readable : ∀ slot ∈ slots, slot.Readable) (ends : findRun (ofAscii "\x7b\x7b") last = none)
    (front : QString) {fuel : Nat} (enough : slots.length < fuel) :
    renderer.renderFrom fuel (front ++ flatTemplate slots last) front.length
      (front ++ flatTemplate slots last).length context =
      some (slots.flatMap (Slot.shown context) ++ last, renderer) := by
  -- What has been rendered is in front of the position, and grows by a tag in each turn.
  induction slots generalizing front fuel with
  | nil =>
    cases fuel with
    | zero => cases enough
    | succ fuel =>
      -- No marker stands in the text behind the last tag.
      have absent : renderer.markers.findTag (front ++ last) front.length (front ++ last).length = none := by
        rw [Markers.findTag, markers, findRunFrom, if_pos (by simp), List.drop_left, ends]
        rfl
      have rest : midRef (front ++ last) front.length (front ++ last).length = last := by
        simp [midRef]
      have whole : flatTemplate [] last = last := rfl
      rw [Renderer.renderFrom, if_neg (by simp [faultless]), whole]
      simp only [Renderer.findTag, absent, rest]
      rfl
  | cons slot slots ih =>
    cases fuel with
    | zero => cases enough
    | succ fuel =>
      obtain ⟨first, others⟩ := List.forall_mem_cons.mp readable
      have whole : flatTemplate (slot :: slots) last = slot.source ++ flatTemplate slots last := by
        simp [flatTemplate]
      have found := first.findTag_eq front (flatTemplate slots last)
      have literal : midRef (front ++ (slot.source ++ flatTemplate slots last)) front.length
          (front.length + slot.literal.length) = slot.literal := by
        rw [midRef, if_neg (by omega), List.drop_left, Nat.add_sub_cancel_left, Slot.source,
          List.append_assoc, List.take_left]
      -- The loop goes on behind the tag.
      have later := ih others (front ++ slot.source) (Nat.lt_of_succ_lt_succ enough)
      rw [List.append_assoc, List.length_append] at later
      rw [Renderer.renderFrom, if_neg (by simp [faultless]), whole]
      simp only [Renderer.findTag, markers, found, later, reduceCtorEq, ↓reduceIte,
        Option.bind_eq_bind, Option.bind_some, EscapeMode.apply, literal, List.flatMap_cons, Slot.shown,
        List.append_assoc]

/-- A template with value tags only is rendered as what its tags are rendered as. -/
theorem Renderer.render_flat {renderer : Renderer}
    (markers : renderer.defaultMarkers = ⟨ofAscii "\x7b\x7b", ofAscii "\x7d\x7d"⟩)
    (readable : ∀ slot ∈ slots, slot.Readable) (ends : findRun (ofAscii "\x7b\x7b") last = none)
    {fuel : Nat} (enough : slots.length < fuel) :
    renderer.render fuel (flatTemplate slots last) context =
      some (slots.flatMap (Slot.shown context) ++ last, renderer.cleared) := by
  have faultless : renderer.cleared.errorPos = none := rfl
  exact Renderer.renderFrom_flat context faultless markers readable ends [] enough

end Rendering

end Threader.Mustache
