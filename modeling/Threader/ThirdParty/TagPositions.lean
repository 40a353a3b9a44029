import Threader.ThirdParty.Mustache

/-! Where `findTag` finds tags: behind each other, and each one from where the one before it ends. -/

namespace Threader.Mustache

open Searching (findRunFrom)

/-- The end marker of tags ends with something that is no space. -/
def Markers.Fit (markers : Markers) : Prop :=
  ∃ last, markers.tagEnd.getLast? = some last ∧ isSpace last = false

/-- The markers that a renderer is created with are of this kind. -/
theorem fit_defaultMarkers : Renderer.create.defaultMarkers.Fit := ⟨0x7D, rfl, rfl⟩

/-- No tag that begins at or behind a position can be expanded to a place in front of it. -/
def Barrier (content : QString) (pos : Nat) : Prop :=
  pos = 0 ∨ ∃ place < pos, isSpace (unitAt content place) = false ∧
    ∀ later, place ≤ later → later + 1 < pos → unitAt content later ≠ 0x0A

section Expansion

variable {content : QString}

/-- A line begins behind a line break, with nothing but spaces in front of a tag alone on it. -/
theorem lineStart_spec {start first : Nat} (found : lineStart content start = some first) :
    first ≤ start ∧ (first = 0 ∨ unitAt content (first - 1) = 0x0A) ∧
      ∀ place, first ≤ place → place < start → isSpace (unitAt content place) = true := by
  induction start with
  | zero =>
    obtain rfl : 0 = first := by simpa [lineStart] using found
    exact ⟨Nat.le_refl _, .inl rfl, by omega⟩
  | succ start ih =>
    rw [lineStart] at found
    split at found
    -- The loop stops behind a line break.
    · rename_i lineBreak
      obtain rfl : start + 1 = first := by simpa using found
      exact ⟨Nat.le_refl _, .inr lineBreak, by omega⟩
    · split at found
      · rename_i space
        obtain ⟨le, beginning, spaces⟩ := ih found
        refine ⟨by omega, beginning, fun place from' before => ?_⟩
        -- The spaces of the later turns are in front of the one of this turn.
        rcases Nat.lt_succ_iff_lt_or_eq.mp before with earlier | rfl
        · exact spaces place from' earlier
        · exact space
      · cases found

/-- A line goes on until its first line break. -/
theorem lineEnd_spec {turns stop last : Nat} (found : lineEnd content turns stop = some last) :
    stop ≤ last ∧
      ∀ place, stop - 1 ≤ place → place + 1 < last → unitAt content place ≠ 0x0A := by
  induction turns generalizing stop with
  | zero =>
    obtain rfl : stop = last := by simpa [lineEnd] using found
    exact ⟨Nat.le_refl _, by omega⟩
  | succ turns ih =>
    rw [lineEnd] at found
    split at found
    · obtain rfl : stop = last := by simpa using found
      exact ⟨Nat.le_refl _, by omega⟩
    · rename_i noBreak
      split at found
      · cases found
      · obtain ⟨le, others⟩ := ih found
        refine ⟨by omega, fun place from' before => ?_⟩
        -- This turn has looked at the first character, and the later ones at the others.
        rcases Nat.eq_or_lt_of_le from' with rfl | later
        · exact noBreak
        · exact others place (by omega) before

/-- An expanded tag is the same one on its whole line, or as it was. -/
theorem expandTag_cases (tag : Tag) (content : QString) :
    expandTag tag content = tag ∨ ∃ first last, lineStart content tag.start = some first ∧
      lineEnd content (content.length + 1 - tag.stop) tag.stop = some last ∧
      expandTag tag content = { tag with start := first, stop := last } := by
  -- Either loop may come upon something that keeps the tag from being alone on its line.
  cases starts : lineStart content tag.start with
  | none => exact .inl (by simp [expandTag, starts])
  | some first =>
    cases ends : lineEnd content (content.length + 1 - tag.stop) tag.stop with
    | none => exact .inl (by simp [expandTag, starts, ends])
    | some last => exact .inr ⟨first, last, rfl, rfl, by simp [expandTag, starts, ends]⟩

@[simp] theorem expandTag_type (tag : Tag) (content : QString) :
    (expandTag tag content).type = tag.type := by
  obtain same | ⟨first, last, _, _, same⟩ := expandTag_cases tag content <;> rw [same]

end Expansion

/-- A tag that was read at a place is in front of its end, and is kept from what is before it. -/
structure Located (content : QString) (place : Nat) (tag : Tag) : Prop where
  start_le : tag.start ≤ place
  lt_stop : place < tag.stop
  barrier : Barrier content tag.stop
  le_start : ∀ {pos}, Barrier content pos → pos ≤ place → pos ≤ tag.start

section Reading

variable {content : QString} {place last : Nat}

/-- A tag with something other than a space in front of its end. -/
theorem located_unexpanded (solid : isSpace (unitAt content last) = false) (before : place ≤ last)
    {tag : Tag} (starts : tag.start = place) (stops : tag.stop = last + 1 ∨ tag.stop = last + 2) :
    Located content place tag := by
  refine ⟨starts.le, by omega, .inr ⟨last, by omega, solid, fun later from' inside => ?_⟩,
    fun _ le => starts ▸ le⟩
  -- Only the last character of the marker is in front of the last one of the tag.
  obtain rfl : later = last := by omega
  intro lineBreak
  rw [lineBreak] at solid
  cases solid

/-- Expanding a tag does not bring it nearer to those in front of it than they allow. -/
theorem located_expandTag (solid : isSpace (unitAt content last) = false) (before : place ≤ last)
    {tag : Tag} (starts : tag.start = place) (stops : tag.stop = last + 1) :
    Located content place (expandTag tag content) := by
  obtain same | ⟨first, past, lineStarts, lineEnds, same⟩ := expandTag_cases tag content
  · rw [same]
    exact located_unexpanded solid before starts (.inl stops)
  · obtain ⟨firstLe, beginning, spaces⟩ := lineStart_spec lineStarts
    obtain ⟨stopLe, noBreak⟩ := lineEnd_spec lineEnds
    rw [starts] at firstLe spaces
    rw [stops] at stopLe noBreak
    rw [same]
    refine ⟨firstLe, show place < past by omega, .inr ⟨last, stopLe, solid,
      fun later from' inside => noBreak later (by omega) inside⟩, fun {pos} barrier le => ?_⟩
    -- A line that begins in front of the position would run across the barrier.
    show pos ≤ first
    rcases barrier with rfl | ⟨wall, wallBefore, wallSolid, unbroken⟩
    · exact Nat.zero_le _
    · by_contra crossing
      -- The wall is in front of the line, which then begins with a break, or on it as no space.
      rcases Nat.lt_or_ge wall first with behind | inFront
      · rcases beginning with rfl | lineBreak
        · omega
        · exact unbroken (first - 1) (by omega) (by omega) lineBreak
      · have space := spaces wall inFront (by omega)
        rw [wallSolid] at space
        cases space

/-- Whatever tag stands between two markers, it is located there. -/
theorem located_readTag {markers : Markers} (fit : markers.Fit) {endPos : Nat}
    (before : place + markers.tagStart.length ≤ endPos)
    (closes : markers.tagEnd <+: content.drop endPos) :
    Located content place (readTag markers content place endPos) := by
  obtain ⟨solidUnit, isLast, solid⟩ := fit
  have some : 0 < markers.tagEnd.length := by
    cases empty : markers.tagEnd with
    | nil => rw [empty] at isLast; cases isLast
    | cons => simp
  -- The last character of the end marker is the one that keeps tags apart.
  have solid : isSpace (unitAt content (endPos + (markers.tagEnd.length - 1))) = false := by
    obtain ⟨rest, whole⟩ := closes
    have lastUnit : (content.drop endPos)[markers.tagEnd.length - 1]? = Option.some solidUnit := by
      rw [← whole, List.getElem?_append_left (by omega), ← List.getLast?_eq_getElem?, isLast]
    rw [unitAt, List.getD_eq_getElem?_getD, ← List.getElem?_drop, lastUnit]
    exact solid
  have inside : place ≤ endPos + (markers.tagEnd.length - 1) := by omega
  have ends : endPos + markers.tagEnd.length = endPos + (markers.tagEnd.length - 1) + 1 := by omega
  -- Each kind of tag ends where the marker does, but for a third brace behind it.
  unfold readTag
  dsimp only
  split
  · exact located_expandTag solid inside rfl ends
  · split
    · exact located_expandTag solid inside rfl ends
    · split
      · exact located_expandTag solid inside rfl ends
      · split
        · exact located_unexpanded solid inside rfl (.inl ends)
        · split
          · split
            · exact located_unexpanded solid inside rfl (.inr (congrArg (· + 1) ends))
            · exact located_unexpanded solid inside rfl (.inl ends)
          · exact located_unexpanded solid inside rfl (.inl ends)

end Reading

section Finding

variable {markers : Markers} {content : QString} {pos endPos : Nat} {tag : Tag}

/-- A tag is found by its two markers, the first one in front of the end. -/
theorem findTag_eq_some : markers.findTag content pos endPos = some tag ↔
    ∃ place stop, findRunFrom markers.tagStart content pos = some place ∧ place < endPos ∧
      findRunFrom markers.tagEnd content (place + markers.tagStart.length) = some stop ∧
      tag = readTag markers content place stop := by
  unfold Markers.findTag
  cases starts : findRunFrom markers.tagStart content pos with
  | none => simp
  | some place =>
    -- What is found behind the end counts as nothing.
    by_cases late : endPos ≤ place
    · simp only [late, ↓reduceIte, reduceCtorEq, false_iff]
      rintro ⟨_, _, same, early, _⟩
      cases same
      omega
    · cases ends : findRunFrom markers.tagEnd content (place + markers.tagStart.length) with
      | none =>
        simp only [late, ends, ↓reduceIte, reduceCtorEq, false_iff]
        rintro ⟨_, _, same, _, found, _⟩
        cases same
        rw [ends] at found
        cases found
      | some stop =>
        simp only [late, ends, ↓reduceIte, Option.some.injEq]
        constructor
        · rintro rfl
          exact ⟨place, stop, rfl, by omega, ends, rfl⟩
        · rintro ⟨_, _, same, _, found, rfl⟩
          cases same
          rw [ends] at found
          cases found
          rfl

/-- A tag that is found lies behind the position that the search begins at. -/
theorem located_of_findTag (fit : markers.Fit)
    (found : markers.findTag content pos endPos = some tag) :
    ∃ place, pos ≤ place ∧ place < endPos ∧ Located content place tag := by
  obtain ⟨place, stop, starts, early, ends, rfl⟩ := findTag_eq_some.mp found
  obtain ⟨behind, closes⟩ := Searching.findRunFrom_spec ends
  exact ⟨place, (Searching.findRunFrom_spec starts).1, early, located_readTag fit behind closes⟩

/-- A tag that is found in front of a place is found up to that place. -/
theorem findTag_upto {place bound : Nat} (found : markers.findTag content pos endPos = some tag)
    (starts : findRunFrom markers.tagStart content pos = some place) :
    markers.findTag content pos bound = if bound ≤ place then none else some tag := by
  obtain ⟨other, stop, same, _, ends, rfl⟩ := findTag_eq_some.mp found
  obtain rfl : other = place := by
    rw [starts] at same
    cases same
    rfl
  -- Only the last test of `findTag` has to do with the bound.
  simp only [Markers.findTag, starts, ends]

/-- Behind the end of a text there is no tag. -/
theorem findTag_behind (behind : content.length < pos) :
    markers.findTag content pos endPos = none := by
  have absent : ¬ pos ≤ content.length := by omega
  simp [Markers.findTag, findRunFrom, absent]

end Finding

end Threader.Mustache
