import Mathlib.Data.List.TakeWhile
import Threader.Base.LittleEndian

/-! How values lie in a run of bytes, and which of them a lenient reader makes out in a cut one. -/

/-- How many bytes a value takes up. -/
inductive ValueLayout
  -- Always the same number.
  | fixed (width : Nat)
  -- As many as there are up to a NUL.
  | text
  -- As many as a word of four bytes in front of them says.
  | counted
deriving DecidableEq, Repr

namespace ValueLayout

/-- The number that four bytes in front announce. -/
def announced (bytes : List UInt8) : Nat := ByteWords.decode (bytes.take 4)

/-- The bytes of a whole value. -/
def Whole : ValueLayout → List UInt8 → Prop
  | .fixed width, bytes => bytes.length = width
  | .text, bytes => ∃ units, bytes = units ++ [0] ∧ (0 : UInt8) ∉ units
  | .counted, bytes => bytes.length = 4 + announced bytes

/-- The last bytes of a run that are taken for a value although they are only its beginning. -/
def Shortened : ValueLayout → List UInt8 → Prop
  | .fixed _, _ => False
  | .text, bytes => (0 : UInt8) ∉ bytes
  | .counted, bytes => 4 < bytes.length ∧ bytes.length < 4 + announced bytes

/--
Bytes that are taken for values of some layouts.

Whole values come first; the last one may be shortened if only texts are missing behind it.
-/
inductive Passes : List ValueLayout → List UInt8 → Prop
  | done (rest : List UInt8) : Passes [] rest
  | whole {layout : ValueLayout} {layouts : List ValueLayout} {bytes rest : List UInt8}
      (whole : layout.Whole bytes) (later : Passes layouts rest) :
      Passes (layout :: layouts) (bytes ++ rest)
  | shortened {layout : ValueLayout} {layouts : List ValueLayout} {bytes : List UInt8}
      (shortened : layout.Shortened bytes) (texts : ∀ other ∈ layouts, other = .text) :
      Passes (layout :: layouts) bytes

/-- The bytes that are left behind a value, unless its bytes are refused. -/
def after : ValueLayout → List UInt8 → Option (List UInt8)
  | .fixed width, bytes => if bytes.length < width then none else some (bytes.drop width)
  | .text, bytes => some ((bytes.dropWhile (· ≠ 0)).drop 1)
  | .counted, bytes =>
    if bytes.length < 4 then none
    else if announced bytes = 0 then some (bytes.drop 4)
    else if bytes.length = 4 then none
    else some (bytes.drop (4 + announced bytes))

/-- The bytes that are left behind some values. -/
def afterAll (layouts : List ValueLayout) (bytes : List UInt8) : Option (List UInt8) :=
  layouts.foldlM (fun bytes layout => layout.after bytes) bytes

@[simp] theorem afterAll_nil (bytes : List UInt8) : afterAll [] bytes = some bytes := rfl

@[simp] theorem afterAll_cons (layout : ValueLayout) (layouts : List ValueLayout)
    (bytes : List UInt8) :
    afterAll (layout :: layouts) bytes = (layout.after bytes).bind (afterAll layouts) := rfl

theorem afterAll_append (left right : List ValueLayout) (bytes : List UInt8) :
    afterAll (left ++ right) bytes = (afterAll left bytes).bind (afterAll right) :=
  List.foldlM_append ..

/-- What four bytes announce does not depend on what follows. -/
theorem announced_append {bytes : List UInt8} (four : 4 ≤ bytes.length) (rest : List UInt8) :
    announced (bytes ++ rest) = announced bytes := by
  rw [announced, announced, List.take_append_of_le_length four]

/-- A whole value is read, and what follows it is left. -/
theorem Whole.after {layout : ValueLayout} {bytes : List UInt8} (whole : layout.Whole bytes)
    (rest : List UInt8) : layout.after (bytes ++ rest) = some rest := by
  cases layout with
  | fixed width =>
    obtain rfl : bytes.length = width := whole
    rw [ValueLayout.after, if_neg (by simp), List.drop_left]
  | text =>
    obtain ⟨units, rfl, clean⟩ := whole
    have kept : ∀ unit ∈ units, (decide (unit ≠ 0)) = true :=
      fun unit member => decide_eq_true fun zero => clean (zero ▸ member)
    -- The NUL behind the text is the first one.
    rw [ValueLayout.after, List.append_assoc, List.dropWhile_append_of_pos kept]
    rfl
  | counted =>
    have length : bytes.length = 4 + announced bytes := whole
    have four : 4 ≤ bytes.length := by omega
    have same := announced_append four rest
    rw [ValueLayout.after, same, if_neg (by rw [List.length_append]; omega)]
    split
    · rename_i nothing
      rw [← show bytes.length = 4 by omega, List.drop_left]
    · rw [if_neg (by rw [List.length_append]; omega), ← length, List.drop_left]

/-- A shortened value is read, and nothing is left. -/
theorem Shortened.after {layout : ValueLayout} {bytes : List UInt8}
    (shortened : layout.Shortened bytes) : layout.after bytes = some [] := by
  -- A text is read to the end of the data, and a counted value as far as it is there.
  cases layout with
  | fixed width => exact shortened.elim
  | text =>
    have clean : (0 : UInt8) ∉ bytes := shortened
    have kept : ∀ unit ∈ bytes, (decide (unit ≠ 0)) = true :=
      fun unit member => decide_eq_true fun zero => clean (zero ▸ member)
    rw [ValueLayout.after, List.dropWhile_eq_nil_iff.mpr kept, List.drop_nil]
  | counted =>
    obtain ⟨more, less⟩ : 4 < bytes.length ∧ bytes.length < 4 + announced bytes := shortened
    rw [ValueLayout.after, if_neg (by omega), if_neg (by omega), if_neg (by omega),
      List.drop_eq_nil_of_le (by omega)]

/-- Bytes that are read begin with a whole value, or are a shortened one. -/
theorem after_cases {layout : ValueLayout} {bytes rest : List UInt8}
    (read : layout.after bytes = some rest) :
    (∃ front, layout.Whole front ∧ bytes = front ++ rest) ∨
      (layout.Shortened bytes ∧ rest = []) := by
  cases layout with
  | fixed width =>
    rw [after] at read
    split at read
    · cases read
    · rename_i enough
      cases read
      refine .inl ⟨bytes.take width, ?_, (List.take_append_drop ..).symm⟩
      exact List.length_take_of_le (Nat.not_lt.mp enough)
  | text =>
    by_cases clean : (0 : UInt8) ∉ bytes
    · have left := Shortened.after (show Shortened .text bytes from clean)
      exact .inr ⟨clean, Option.some.inj (read.symm.trans left)⟩
    · -- The text ends at its first NUL.
      obtain ⟨units, tail, rfl, before⟩ := List.eq_append_cons_of_mem (Classical.not_not.mp clean)
      have whole : Whole .text (units ++ [0]) := ⟨units, rfl, before⟩
      have left := whole.after tail
      rw [List.append_assoc] at left
      obtain rfl := Option.some.inj (left.symm.trans read)
      exact .inl ⟨units ++ [0], whole, List.append_cons ..⟩
  | counted =>
    rw [after] at read
    split at read
    · cases read
    · rename_i four
      have announced_take {count : Nat} (more : 4 ≤ count) :
          announced (bytes.take count) = announced bytes := by
        rw [announced, announced, List.take_take, Nat.min_eq_left more]
      -- The announced bytes are there, or fewer of them, but at least one.
      have enough {count : Nat} (here : 4 + announced bytes = count) (inside : count ≤ bytes.length) :
          Whole .counted (bytes.take count) := by
        show (bytes.take count).length = 4 + announced (bytes.take count)
        rw [List.length_take_of_le inside, announced_take (by omega), here]
      split at read
      · rename_i nothing
        cases read
        exact .inl ⟨bytes.take 4, enough (by omega) (by omega), (List.take_append_drop ..).symm⟩
      · split at read
        · cases read
        · cases read
          by_cases inside : 4 + announced bytes ≤ bytes.length
          · exact .inl ⟨_, enough rfl inside, (List.take_append_drop ..).symm⟩
          · refine .inr ⟨⟨by omega, by omega⟩, List.drop_eq_nil_of_le (by omega)⟩

/-- Behind the last byte, nothing but texts are read. -/
theorem afterAll_end_iff {layouts : List ValueLayout}
    (positive : ∀ width, .fixed width ∈ layouts → 0 < width) :
    (afterAll layouts []).isSome = true ↔ ∀ layout ∈ layouts, layout = .text := by
  -- Each layout is tried on no bytes at all.
  induction layouts with
  | nil => exact iff_of_true rfl fun _ => nofun
  | cons layout layouts ih =>
    have later := ih fun width member => positive width (.tail layout member)
    rw [afterAll_cons, List.forall_mem_cons, ← later]
    cases layout with
    | fixed width =>
      have some : ([] : List UInt8).length < width := positive width List.mem_cons_self
      rw [after, if_pos some]
      exact iff_of_false Bool.false_ne_true fun both => nomatch both.1
    | text => exact (and_iff_right rfl).symm
    | counted => exact iff_of_false Bool.false_ne_true fun both => nomatch both.1

/-- Bytes are read as values of some layouts exactly if they pass for them. -/
theorem passes_iff {layouts : List ValueLayout}
    (positive : ∀ width, .fixed width ∈ layouts → 0 < width) {bytes : List UInt8} :
    Passes layouts bytes ↔ (afterAll layouts bytes).isSome = true := by
  induction layouts generalizing bytes with
  | nil => exact iff_of_true (.done bytes) rfl
  | cons layout layouts ih =>
    have widths := fun width member => positive width (.tail layout member)
    constructor
    · intro passes
      cases passes with
      | whole whole later =>
        rw [afterAll_cons, whole.after]
        exact (ih widths).mp later
      | shortened shortened texts =>
        rw [afterAll_cons, shortened.after]
        exact (afterAll_end_iff widths).mpr texts
    · intro read
      rw [afterAll_cons] at read
      cases first : layout.after bytes with
      | none =>
        rw [first] at read
        exact absurd read Bool.false_ne_true
      | some rest =>
        rw [first] at read
        -- What is left behind the first value passes for the others.
        obtain ⟨front, whole, rfl⟩ | ⟨shortened, rfl⟩ := after_cases first
        · exact .whole whole ((ih widths).mpr read)
        · exact .shortened shortened ((afterAll_end_iff widths).mp read)

/-- A value whose bytes are cut is refused unless it is a text, or has more than its length left. -/
theorem after_cut {layout : ValueLayout} {bytes : List UInt8} (whole : layout.Whole bytes)
    {kept : Nat} (cut : kept < bytes.length) :
    layout.after (bytes.take kept) =
      if layout = .text ∨ (layout = .counted ∧ 4 < kept) then some [] else none := by
  have length : (bytes.take kept).length = kept := List.length_take_of_le (Nat.le_of_lt cut)
  cases layout with
  | fixed width =>
    obtain rfl : bytes.length = width := whole
    rw [after, if_pos (by omega), if_neg (by simp)]
  | text =>
    obtain ⟨units, rfl, clean⟩ := whole
    rw [List.length_append, List.length_singleton] at cut
    -- The NUL is the last byte, so it is not kept.
    have before : (units ++ [0]).take kept = units.take kept :=
      List.take_append_of_le_length (by omega)
    have shortened : Shortened .text ((units ++ [0]).take kept) := by
      rw [before]
      exact fun member => clean (List.mem_of_mem_take member)
    rw [if_pos (.inl rfl), shortened.after]
  | counted =>
    have whole : bytes.length = 4 + announced bytes := whole
    by_cases more : 4 < kept
    · have same : announced (bytes.take kept) = announced bytes := by
        rw [announced, announced, List.take_take, Nat.min_eq_left (Nat.le_of_lt more)]
      have shortened : Shortened .counted (bytes.take kept) := ⟨by omega, by omega⟩
      rw [if_pos (.inr ⟨rfl, more⟩), shortened.after]
    · rw [if_neg (by simp [more]), after]
      split
      · rfl
      · -- The length is there, but none of the bytes that it announces.
        have exactly : kept = 4 := by omega
        have same : announced (bytes.take kept) = announced bytes := by
          rw [announced, announced, List.take_take, exactly, Nat.min_self]
        rw [if_neg (by omega), if_pos (by omega)]

/-- A value as its layout and its bytes. -/
abbrev Item := ValueLayout × List UInt8

/-- A run that is cut within a value is what stands in front of it and its beginning. -/
theorem take_cut (done later : List Item) {item : Item} {kept : Nat}
    (cut : kept < item.2.length) :
    ((done ++ item :: later).flatMap Prod.snd).take ((done.flatMap Prod.snd).length + kept) =
      done.flatMap Prod.snd ++ item.2.take kept := by
  rw [List.flatMap_append, List.flatMap_cons, List.take_length_add_append,
    List.take_append_of_le_length (Nat.le_of_lt cut)]

/-- Whole values are read one after another, and what follows them is left. -/
theorem afterAll_whole {items : List Item} (whole : ∀ item ∈ items, item.1.Whole item.2)
    (rest : List UInt8) :
    afterAll (items.map Prod.fst) (items.flatMap Prod.snd ++ rest) = some rest := by
  induction items with
  | nil => rfl
  | cons item items ih =>
    obtain ⟨first, others⟩ := List.forall_mem_cons.mp whole
    rw [List.map_cons, List.flatMap_cons, List.append_assoc, afterAll_cons, first.after]
    exact ih others

/-- A run that is cut within a value is read unless the value or what is missing is no text. -/
theorem afterAll_cut_iff {done later : List Item} {item : Item}
    (whole : ∀ other ∈ done ++ [item], other.1.Whole other.2)
    (positive : ∀ width, .fixed width ∈ later.map Prod.fst → 0 < width) {kept : Nat}
    (cut : kept < item.2.length) :
    (afterAll ((done ++ item :: later).map Prod.fst)
      (done.flatMap Prod.snd ++ item.2.take kept)).isSome = true ↔
      (item.1 = .text ∨ (item.1 = .counted ∧ 4 < kept)) ∧ ∀ other ∈ later, other.1 = .text := by
  -- What is in front of the cut is read as it was written.
  obtain ⟨before, own⟩ := List.forall_mem_append.mp whole
  have own := own item List.mem_cons_self
  rw [List.map_append, afterAll_append, afterAll_whole before, List.map_cons, Option.bind_some,
    afterAll_cons, after_cut own cut]
  by_cases lenient : item.1 = .text ∨ (item.1 = .counted ∧ 4 < kept)
  · rw [if_pos lenient, Option.bind_some, afterAll_end_iff positive, and_iff_right lenient,
      List.forall_mem_map]
  · rw [if_neg lenient]
    exact iff_of_false Bool.false_ne_true fun both => lenient both.1

end ValueLayout
