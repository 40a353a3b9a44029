import Threader.Base.StreamExtraction

/-! Items sent over a stream in one direction, and what a receiver has made of those that arrived. -/

universe u v

namespace StreamExtractor

namespace Framing

variable {α : Type u} {β : Type v} {extractor : StreamExtractor α β}

/--
A sender has written the front of its items, and a receiver has read a part of what was written.

The receiver has returned a front part of the items, and keeps what it has read behind them.
-/
structure Carries (framing : extractor.Framing) (sent : List β) (written : List α) (arrived : Nat)
    (received : List β) (input : List α) : Prop where
  valid : ∀ item ∈ sent, framing.Valid item
  front : written <+: framing.encodeAll sent
  within : arrived ≤ written.length
  returned : received <+: sent
  kept : written.take arrived = framing.encodeAll received ++ input

namespace Carries

variable {framing : extractor.Framing} {sent received : List β} {written input : List α}
  {arrived : Nat}

/-- Before anything is sent. -/
theorem start (framing : extractor.Framing) : Carries framing [] [] 0 [] [] where
  valid := by simp
  front := List.prefix_rfl
  within := Nat.le_refl _
  returned := List.prefix_rfl
  kept := rfl

/-- Further items are sent, and more of the stream is written. -/
theorem send (carries : Carries framing sent written arrived received input) {more : List β}
    (valid : ∀ item ∈ more, framing.Valid item) {longer : List α} (grown : written <+: longer)
    (front : longer <+: framing.encodeAll (sent ++ more)) :
    Carries framing (sent ++ more) longer arrived received input where
  valid := List.forall_mem_append.mpr ⟨carries.valid, valid⟩
  front := front
  within := Nat.le_trans carries.within grown.length_le
  returned := carries.returned.trans (List.prefix_append ..)
  kept := by
    obtain ⟨rest, rfl⟩ := grown
    rw [List.take_append_of_le_length carries.within, carries.kept]

/-- The next part of what was written is read. -/
theorem arrive (carries : Carries framing sent written arrived received input) {read : List α}
    (next : read <+: written.drop arrived) :
    Carries framing sent written (arrived + read.length) received (input ++ read) where
  valid := carries.valid
  front := carries.front
  within := by
    have length := next.length_le
    have within := carries.within
    rw [List.length_drop] at length
    omega
  returned := carries.returned
  kept := by
    have taken : (written.drop arrived).take read.length = read :=
      (List.prefix_iff_eq_take.mp next).symm
    rw [List.take_add, taken, carries.kept, List.append_assoc]

/--
The input begins with the whole of the next item, which is then extracted, or a call waits.

Of all the items that were not returned yet, the input can be the whole only if there are none.
-/
theorem next_or_wait (carries : Carries framing sent written arrived received input) :
    (∃ item others rest, sent = received ++ item :: others ∧
      input = framing.encode item ++ rest ∧ extractor.extract input = (some item, rest)) ∨
    (extractor.extract input = (none, input) ∧
      (framing.encodeAll sent = framing.encodeAll received ++ input → received = sent)) := by
  obtain ⟨later, rfl⟩ := carries.returned
  have valid : ∀ other ∈ later, framing.Valid other := fun other member =>
    carries.valid other (List.mem_append_right _ member)
  -- What has been read behind the returned items is a front of the others.
  have front := (List.take_prefix arrived written).trans carries.front
  rw [carries.kept, framing.encodeAll_append, List.prefix_append_right_inj] at front
  rcases framing.extract_prefix valid front with ⟨item, others, rest, rfl, whole, _⟩ | ⟨waits, none⟩
  · refine .inl ⟨item, others, rest, rfl, whole, ?_⟩
    rw [whole, framing.extract_encode rest (valid item List.mem_cons_self)]
  · refine .inr ⟨waits, fun whole => ?_⟩
    rw [framing.encodeAll_append] at whole
    rw [none (List.append_cancel_left whole).symm, List.append_nil]

/-- An item that is extracted is the next one that was sent. -/
theorem extract (carries : Carries framing sent written arrived received input) {item : β}
    {rest : List α} (called : extractor.extract input = (some item, rest)) :
    Carries framing sent written arrived (received ++ [item]) rest := by
  rcases carries.next_or_wait with ⟨next, others, behind, rfl, whole, extracted⟩ | ⟨waits, _⟩
  · obtain ⟨⟨rfl⟩, rfl⟩ := Prod.mk.inj (called.symm.trans extracted)
    refine ⟨carries.valid, carries.front, carries.within, ⟨others, by simp⟩, ?_⟩
    rw [carries.kept, whole, framing.encodeAll_append, framing.encodeAll_cons,
      framing.encodeAll_nil, List.append_nil, List.append_assoc]
  · cases called.symm.trans waits

/-- A call that returns nothing leaves what has been read in place. -/
theorem wait (carries : Carries framing sent written arrived received input) {rest : List α}
    (called : extractor.extract input = (none, rest)) : rest = input := by
  rcases carries.next_or_wait with ⟨next, others, behind, _, _, extracted⟩ | ⟨waits, _⟩
  · cases called.symm.trans extracted
  · exact congrArg Prod.snd (called.symm.trans waits)

/-- When everything that was written has been read, every item that was written whole is returned. -/
theorem caught_up (carries : Carries framing sent written arrived received input)
    (all : arrived = written.length) (drained : extractor.extract input = (none, input))
    {count : Nat} (bounded : count ≤ sent.length)
    (whole : framing.encodeAll (sent.take count) <+: written) : count ≤ received.length := by
  by_contra more
  obtain ⟨later, rfl⟩ := carries.returned
  rw [List.length_append] at bounded
  cases later with
  | nil => simp at bounded; omega
  | cons item others =>
    -- The next item is among those that were written whole, so it stands in the input.
    obtain ⟨further, rfl⟩ : ∃ further, count = received.length + (further + 1) :=
      ⟨count - received.length - 1, by omega⟩
    have kept := carries.kept
    rw [all, List.take_length] at kept
    rw [kept, List.take_length_add_append, List.take_succ_cons, framing.encodeAll_append,
      framing.encodeAll_cons, List.prefix_append_right_inj] at whole
    obtain ⟨rest, input⟩ := (List.prefix_append ..).trans whole
    have valid := carries.valid item (by simp)
    rw [← input, framing.extract_encode rest valid] at drained
    cases drained

/-- When everything was written and read, and nothing more is returned, every item was returned. -/
theorem complete (carries : Carries framing sent written arrived received input)
    (everything : written = framing.encodeAll sent) (all : arrived = written.length)
    (drained : extractor.extract input = (none, input)) : received = sent := by
  have whole := carries.kept
  rw [all, List.take_length, everything] at whole
  rcases carries.next_or_wait with ⟨next, others, behind, _, _, extracted⟩ | ⟨_, none⟩
  · cases drained.symm.trans extracted
  · exact none whole

end Carries

end Framing

end StreamExtractor
