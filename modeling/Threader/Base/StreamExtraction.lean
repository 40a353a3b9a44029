import Mathlib.Data.List.Basic

/-! Incremental extraction of items from a growing buffer, and framings that survive any cut. -/

universe u v

/--
An extractor looks at a buffer, may return one item, and says what remains of the buffer.

Its decisions are final: bytes arriving later never change what was already decided.
-/
structure StreamExtractor (α : Type u) (β : Type v) where
  /-- One call on a buffer. -/
  extract : List α → Option β × List α
  /-- Returning an item consumes something. -/
  item_shrinks : ∀ {buffer item rest}, extract buffer = (some item, rest) →
    rest.length < buffer.length
  /-- Waiting never makes the buffer longer. -/
  wait_le : ∀ {buffer rest}, extract buffer = (none, rest) → rest.length ≤ buffer.length
  /-- An item already complete is returned whatever follows it. -/
  item_stable : ∀ {buffer item rest} (more : List α), extract buffer = (some item, rest) →
    extract (buffer ++ more) = (some item, rest ++ more)
  /-- What was given up while waiting would be given up again with more input at hand. -/
  wait_stable : ∀ {buffer rest} (more : List α), extract buffer = (none, rest) →
    extract (buffer ++ more) = extract (rest ++ more)

namespace StreamExtractor

variable {α : Type u} {β : Type v} (extractor : StreamExtractor α β)

/-- Extraction repeated at most `fuel` times, stopping at the first call that returns nothing. -/
def drainWithin : Nat → List α → List β × List α
  | 0, buffer => ([], buffer)
  | fuel + 1, buffer =>
    match extractor.extract buffer with
    | (none, rest) => ([], rest)
    | (some item, rest) =>
      let drained := drainWithin fuel rest
      (item :: drained.1, drained.2)

/-- Extraction repeated until a call returns nothing. -/
def drain (buffer : List α) : List β × List α :=
  -- Every item consumes at least one element, so one call more than the length is enough.
  extractor.drainWithin (buffer.length + 1) buffer

/-- Any two sufficient amounts of fuel give the same result. -/
theorem drainWithin_fuel {fuel other : Nat} {buffer : List α}
    (enough : buffer.length < fuel) (alsoEnough : buffer.length < other) :
    extractor.drainWithin fuel buffer = extractor.drainWithin other buffer := by
  -- Each extracted item leaves a shorter buffer, so one unit of fuel pays for it.
  induction fuel generalizing other buffer with
  | zero => omega
  | succ fuel ih =>
    obtain ⟨other, rfl⟩ : ∃ smaller, other = smaller + 1 := ⟨other - 1, by omega⟩
    simp only [drainWithin]
    cases called : extractor.extract buffer with
    | mk item rest =>
      cases item with
      | none => rfl
      | some item =>
        have shorter := extractor.item_shrinks called
        have later : extractor.drainWithin fuel rest = extractor.drainWithin other rest :=
          ih (by omega) (by omega)
        simp only [later]

/-- A call that returns nothing ends the drain. -/
theorem drain_wait {buffer rest : List α} (called : extractor.extract buffer = (none, rest)) :
    extractor.drain buffer = ([], rest) := by
  -- The first call is the last one.
  simp only [drain, drainWithin, called]

/-- A call that returns an item is followed by a drain of what it left. -/
theorem drain_item {buffer rest : List α} {item : β}
    (called : extractor.extract buffer = (some item, rest)) :
    extractor.drain buffer =
      (item :: (extractor.drain rest).1, (extractor.drain rest).2) := by
  -- The fuel left over after one item still exceeds the length of the shorter buffer.
  have shorter := extractor.item_shrinks called
  have refuelled : extractor.drainWithin buffer.length rest =
      extractor.drainWithin (rest.length + 1) rest := extractor.drainWithin_fuel shorter (by omega)
  simp only [drain, drainWithin, called, refuelled]

/-- Buffers on which the first call agrees drain alike. -/
theorem drain_congr {left right : List α}
    (same : extractor.extract left = extractor.extract right) :
    extractor.drain left = extractor.drain right := by
  -- A drain looks at its buffer through the first call only.
  cases called : extractor.extract right with
  | mk item rest =>
    cases item with
    | none => rw [extractor.drain_wait (same.trans called), extractor.drain_wait called]
    | some item => rw [extractor.drain_item (same.trans called), extractor.drain_item called]

/-- An empty buffer holds no item. -/
theorem extract_nil : extractor.extract ([] : List α) = (none, []) := by
  -- There is nothing to shrink, so no item can be returned.
  cases called : extractor.extract ([] : List α) with
  | mk item rest =>
    cases item with
    | none =>
      have empty : rest = [] := List.length_eq_zero_iff.mp (by simpa using extractor.wait_le called)
      rw [empty]
    | some item => exact absurd (extractor.item_shrinks called) (by simp)

theorem drain_nil : extractor.drain [] = ([], []) := extractor.drain_wait extractor.extract_nil

/-- What a drain leaves behind holds nothing more to extract. -/
theorem extract_drained (buffer : List α) :
    extractor.extract (extractor.drain buffer).2 = (none, (extractor.drain buffer).2) := by
  -- The last call returned nothing, and repeating it on what it left changes nothing.
  induction length : buffer.length using Nat.strongRecOn generalizing buffer with
  | ind length ih =>
    cases called : extractor.extract buffer with
    | mk item rest =>
      cases item with
      | none =>
        -- The buffer was given up on at once, and asking again with nothing more changes nothing.
        rw [extractor.drain_wait called]
        simpa [called] using (extractor.wait_stable [] called).symm
      | some item =>
        -- Behind an item, what is left is shorter, and the claim holds of it already.
        rw [extractor.drain_item called]
        exact ih rest.length (length ▸ extractor.item_shrinks called) rest rfl

/-- Draining a concatenation drains its front, then the remainder joined with the back. -/
theorem drain_append (front back : List α) :
    extractor.drain (front ++ back) =
      ((extractor.drain front).1 ++ (extractor.drain ((extractor.drain front).2 ++ back)).1,
        (extractor.drain ((extractor.drain front).2 ++ back)).2) := by
  -- Induction on the length of the front, which every item makes shorter.
  induction length : front.length using Nat.strongRecOn generalizing front with
  | ind length ih =>
    cases called : extractor.extract front with
    | mk item rest =>
      cases item with
      | none =>
        -- Nothing was decided beyond what was given up, so the back meets the same remainder.
        rw [extractor.drain_wait called,
          extractor.drain_congr (extractor.wait_stable back called)]
        rfl
      | some item =>
        -- The item is returned with and without the back, which then follows a shorter front.
        rw [extractor.drain_item called, extractor.drain_item (extractor.item_stable back called),
          ih rest.length (length ▸ extractor.item_shrinks called) rest rfl]
        rfl

/-- Appending the chunks one by one, draining the buffer after each. -/
def drainChunks : List α → List (List α) → List β × List α
  | buffer, [] => ([], buffer)
  | buffer, chunk :: chunks =>
    let drained := extractor.drain (buffer ++ chunk)
    let later := drainChunks drained.2 chunks
    (drained.1 ++ later.1, later.2)

/-- From a drained buffer, any way of cutting the input gives the result of draining it whole. -/
theorem drainChunks_eq_drain {buffer : List α}
    (drained : extractor.extract buffer = (none, buffer)) (chunks : List (List α)) :
    extractor.drainChunks buffer chunks = extractor.drain (buffer ++ chunks.flatten) := by
  -- Each chunk is drained as the front of everything that is still to come.
  induction chunks generalizing buffer with
  | nil => simp [drainChunks, extractor.drain_wait drained]
  | cons chunk chunks ih =>
    rw [drainChunks, ih (extractor.extract_drained _), List.flatten_cons, ← List.append_assoc,
      ← extractor.drain_append]

/--
A framing writes each valid item as a run of elements that the extractor recognises.

Neither a following item nor a cut inside the run can confuse it.
-/
structure Framing where
  /-- The run of elements an item is written as. -/
  encode : β → List α
  /-- The items that can be written. -/
  Valid : β → Prop
  /-- A complete run is recognised whatever follows it. -/
  extract_encode : ∀ {item} (more : List α), Valid item →
    extractor.extract (encode item ++ more) = (some item, more)
  /-- A run cut short is left in place. -/
  extract_cut : ∀ {item cut}, Valid item → cut <+: encode item → cut ≠ encode item →
    extractor.extract cut = (none, cut)

namespace Framing

variable {extractor} (framing : extractor.Framing)

/-- The run of elements a whole list of items is written as. -/
def encodeAll (items : List β) : List α :=
  items.flatMap framing.encode

@[simp] theorem encodeAll_nil : framing.encodeAll [] = [] := rfl

@[simp] theorem encodeAll_cons (item : β) (items : List β) :
    framing.encodeAll (item :: items) = framing.encode item ++ framing.encodeAll items := rfl

@[simp] theorem encodeAll_append (left right : List β) :
    framing.encodeAll (left ++ right) = framing.encodeAll left ++ framing.encodeAll right := by
  simp [encodeAll]

/-- Written items are drained in order, and draining continues in what follows them. -/
theorem drain_encodeAll_append {items : List β} (valid : ∀ item ∈ items, framing.Valid item)
    (more : List α) :
    extractor.drain (framing.encodeAll items ++ more) =
      (items ++ (extractor.drain more).1, (extractor.drain more).2) := by
  -- Induction on the items, with what follows them left free.
  induction items with
  | nil => rfl
  | cons item items ih =>
    -- The first run is recognised at the front, and the rest is the same claim one item down.
    obtain ⟨first, others⟩ := List.forall_mem_cons.mp valid
    rw [framing.encodeAll_cons, List.append_assoc,
      extractor.drain_item (framing.extract_encode _ first), ih others]
    rfl

/-- Written items followed by one cut short drain to the items, and the cut run stays. -/
theorem drain_encodeAll_cut {items : List β} (valid : ∀ item ∈ items, framing.Valid item)
    {last : β} {cut : List α} (lastValid : framing.Valid last)
    (isPrefix : cut <+: framing.encode last) (strict : cut ≠ framing.encode last) :
    extractor.drain (framing.encodeAll items ++ cut) = (items, cut) := by
  -- Behind the complete runs stands the cut one, on which the first call waits.
  rw [framing.drain_encodeAll_append valid,
    extractor.drain_wait (framing.extract_cut lastValid isPrefix strict), List.append_nil]

/-- Written items alone drain to exactly those items. -/
theorem drain_encodeAll {items : List β} (valid : ∀ item ∈ items, framing.Valid item) :
    extractor.drain (framing.encodeAll items) = (items, []) := by
  -- With nothing behind the runs, nothing is left to drain.
  simpa [extractor.drain_nil] using framing.drain_encodeAll_append valid []

/--
Whatever part of the written stream has arrived, it starts with the whole run of the first item,
or nothing can be extracted yet.
-/
theorem extract_prefix {items : List β} (valid : ∀ item ∈ items, framing.Valid item)
    {arrived : List α} (isPrefix : arrived <+: framing.encodeAll items) :
    (∃ item later rest, items = item :: later ∧ arrived = framing.encode item ++ rest ∧
      rest <+: framing.encodeAll later) ∨
    (extractor.extract arrived = (none, arrived) ∧
      (arrived = framing.encodeAll items → items = [])) := by
  cases items with
  | nil =>
    -- Of nothing written, nothing has arrived.
    have empty : arrived = [] := by simpa using isPrefix
    exact .inr ⟨empty ▸ extractor.extract_nil, fun _ => rfl⟩
  | cons item later =>
    have first : framing.Valid item := valid item (by simp)
    rw [framing.encodeAll_cons] at isPrefix
    -- Either the first run has arrived completely, or the arrival stops inside it.
    by_cases complete : framing.encode item <+: arrived
    · obtain ⟨rest, rfl⟩ := complete
      exact .inl ⟨item, later, rest, rfl, rfl, (List.prefix_append_right_inj _).mp isPrefix⟩
    · -- Two prefixes of one stream are comparable, so what arrived is a part of the first run.
      have inside : arrived <+: framing.encode item :=
        (List.prefix_or_prefix_of_prefix isPrefix (List.prefix_append ..)).resolve_right complete
      have strict : arrived ≠ framing.encode item := fun same => complete (same ▸ List.prefix_rfl)
      refine .inr ⟨framing.extract_cut first inside strict, fun whole => ?_⟩
      exact absurd (whole ▸ List.prefix_append ..) complete

end Framing

end StreamExtractor
