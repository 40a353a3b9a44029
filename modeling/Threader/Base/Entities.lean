import Threader.Base.Replacing

/-! Texts with entities in them, which replacements decode one kind after another. -/

universe u

namespace Entities

open Replacing (replaceAll replaceEach replaceFrom)

variable {α : Type u}

/-- A part of a text: an element as it is, or a run that stands for other elements. -/
inductive Code (α : Type u)
  | raw (element : α)
  | entity (run value : List α)

/-- How a part is written. -/
def Code.run : Code α → List α
  | raw element => [element]
  | entity run _ => run

/-- What a part stands for. -/
def Code.value : Code α → List α
  | raw element => [element]
  | entity _ value => value

/-- The text as it is written. -/
def written (codes : List (Code α)) : List α := codes.flatMap Code.run

/-- What the text stands for. -/
def plain (codes : List (Code α)) : List α := codes.flatMap Code.value

@[simp] theorem written_nil : written ([] : List (Code α)) = [] := rfl

@[simp] theorem written_cons (code : Code α) (codes : List (Code α)) :
    written (code :: codes) = code.run ++ written codes := List.flatMap_cons

@[simp] theorem written_append (front back : List (Code α)) :
    written (front ++ back) = written front ++ written back := List.flatMap_append

@[simp] theorem written_map_raw (list : List α) : written (list.map Code.raw) = list := by
  simp [written, List.flatMap_map, Code.run]

@[simp] theorem plain_nil : plain ([] : List (Code α)) = [] := rfl

@[simp] theorem plain_cons (code : Code α) (codes : List (Code α)) :
    plain (code :: codes) = code.value ++ plain codes := List.flatMap_cons

@[simp] theorem plain_append (front back : List (Code α)) :
    plain (front ++ back) = plain front ++ plain back := List.flatMap_append

@[simp] theorem plain_map_raw (list : List α) : plain (list.map Code.raw) = list := by
  simp [plain, List.flatMap_map, Code.value]

/-- Only entities of a table are used. -/
def Spelt (table : List (List α × List α)) (codes : List (Code α)) : Prop :=
  ∀ {run value : List α}, Code.entity run value ∈ codes → (run, value) ∈ table

/-- Without entities a text is written as what it stands for. -/
theorem written_eq_plain {codes : List (Code α)} (spelt : Spelt [] codes) :
    written codes = plain codes := by
  refine List.flatMap_congr fun code member => ?_
  cases code with
  | raw element => rfl
  | entity run value => cases spelt member

theorem spelt_append {table : List (List α × List α)} {front back : List (Code α)}
    (first : Spelt table front) (second : Spelt table back) : Spelt table (front ++ back) := by
  intro run value member
  rcases List.mem_append.mp member with inFront | inBack
  · exact first inFront
  · exact second inBack

theorem spelt_map_raw (table : List (List α × List α)) (list : List α) :
    Spelt table (list.map Code.raw) := by
  intro run value member
  obtain ⟨element, _, same⟩ := List.mem_map.mp member
  cases same

/-- Entities begin alike, go on otherwise, and none of them is the beginning of another. -/
structure Distinct (start : α) (table : List (List α × List α)) : Prop where
  starts : ∀ pair ∈ table, ∃ tail, pair.1 = start :: tail ∧ start ∉ tail
  apart : ∀ pair ∈ table, ∀ other ∈ table, pair.1 <+: other.1 → pair = other

theorem Distinct.tail {start : α} {pair : List α × List α} {table : List (List α × List α)}
    (distinct : Distinct start (pair :: table)) : Distinct start table where
  starts other member := distinct.starts other (List.mem_cons_of_mem _ member)
  apart first inside second among :=
    distinct.apart first (List.mem_cons_of_mem _ inside) second (List.mem_cons_of_mem _ among)

variable {start : α} {table : List (List α × List α)} {codes : List (Code α)}

/-- A run that no entity begins inside of is made of elements that are there as they are. -/
theorem raw_prefix (distinct : Distinct start table) (spelt : Spelt table codes) {run : List α}
    (clean : start ∉ run) (begins : run <+: written codes) : run.map Code.raw <+: codes := by
  induction codes generalizing run with
  | nil =>
    cases List.prefix_nil.mp begins
    exact List.nil_prefix
  | cons code codes ih =>
    cases run with
    | nil => exact List.nil_prefix
    | cons first run =>
      cases code with
      | raw element =>
        obtain ⟨same, rest⟩ :=
          List.cons_prefix_cons.mp (begins : first :: run <+: element :: written codes)
        have later := ih (fun member => spelt (List.mem_cons_of_mem _ member))
          (fun member => clean (List.mem_cons_of_mem _ member)) rest
        exact List.cons_prefix_cons.mpr ⟨congrArg Code.raw same, later⟩
      | entity other value =>
        -- The run would go through the first element of the entity.
        obtain ⟨tail, entity, _⟩ := distinct.starts _ (spelt List.mem_cons_self)
        rw [written_cons, Code.run, show other = start :: tail from entity, List.cons_append] at begins
        have same := (List.cons_prefix_cons.mp begins).1
        exact absurd (same ▸ List.mem_cons_self) clean

/-- A run at a place is the entity there, or runs into none of its kind. -/
theorem Distinct.eq_of_prefix (distinct : Distinct start table) {pair other : List α × List α}
    (member : pair ∈ table) (otherMember : other ∈ table) {rest : List α}
    (begins : pair.1 <+: other.1 ++ rest) : pair = other := by
  rcases List.prefix_or_prefix_of_prefix begins (List.prefix_append ..) with inside | past
  · exact distinct.apart pair member other otherMember inside
  · exact (distinct.apart other otherMember pair member past).symm

/-- One text is written for another, with entities of a table. -/
def Coded (table : List (List α × List α)) (text shown : List α) : Prop :=
  ∃ codes : List (Code α), Spelt table codes ∧ written codes = text ∧ plain codes = shown

/-- A text can be written as it is. -/
theorem Coded.refl (table : List (List α × List α)) (text : List α) : Coded table text text :=
  ⟨text.map Code.raw, spelt_map_raw table text, written_map_raw text, plain_map_raw text⟩

theorem Coded.append {text shown otherText otherShown : List α} (first : Coded table text shown)
    (second : Coded table otherText otherShown) :
    Coded table (text ++ otherText) (shown ++ otherShown) := by
  obtain ⟨front, frontSpelt, rfl, rfl⟩ := first
  obtain ⟨back, backSpelt, rfl, rfl⟩ := second
  exact ⟨front ++ back, spelt_append frontSpelt backSpelt, written_append .., plain_append ..⟩

section Decoding

variable [DecidableEq α]

/-- Takes the elements for an entity of one kind. -/
def Code.decode (run : List α) : Code α → List (Code α)
  | raw element => [raw element]
  | entity other value => if other = run then value.map raw else [entity other value]

/-- Takes the elements for the entities of one kind. -/
def decode (run : List α) (codes : List (Code α)) : List (Code α) := codes.flatMap (Code.decode run)

/-- A text stands for the same after its entities of a kind were decoded. -/
@[simp] theorem plain_decode (run : List α) (codes : List (Code α)) :
    plain (decode run codes) = plain codes := by
  rw [plain, decode, List.flatMap_assoc]
  refine List.flatMap_congr fun code _ => ?_
  show plain (code.decode run) = code.value
  cases code with
  | raw element => simp [Code.decode, Code.value]
  | entity other value =>
    rw [Code.decode]
    split
    · exact plain_map_raw value
    · simp [Code.value]

/-- The entities that are left are of other kinds. -/
theorem Spelt.decode {pair : List α × List α} {table : List (List α × List α)}
    {codes : List (Code α)} (spelt : Spelt (pair :: table) codes) :
    Spelt table (decode pair.1 codes) := by
  intro run value member
  -- What is decoded leaves elements only, and the others are left as they were.
  obtain ⟨code, inside, among⟩ := List.mem_flatMap.mp member
  cases code with
  | raw element => cases List.mem_singleton.mp among
  | entity other otherValue =>
    rw [Code.decode] at among
    split at among
    · obtain ⟨element, _, same⟩ := List.mem_map.mp among
      cases same
    · rename_i different
      cases List.mem_singleton.mp among
      rcases List.mem_cons.mp (spelt inside) with rfl | later
      · exact absurd rfl different
      · exact later

/-- Replacing goes on behind the elements that are left out. -/
theorem replaceFrom_skip (before after list rest : List α) :
    replaceFrom before after list.length (list ++ rest) = replaceFrom before after 0 rest := by
  induction list with
  | nil => rfl
  | cons first list ih => exact ih

/-- Replacing an entity in a text decodes it, unless the entity is also there as it is. -/
theorem replaceAll_written (distinct : Distinct start table) {pair : List α × List α}
    (member : pair ∈ table) (spelt : Spelt table codes)
    (absent : ¬ pair.1.map Code.raw <:+: codes) :
    replaceAll pair.1 pair.2 (written codes) = written (decode pair.1 codes) := by
  induction codes with
  | nil => rfl
  | cons code codes ih =>
    have others : Spelt table codes := fun inside => spelt (List.mem_cons_of_mem _ inside)
    have later := ih others fun inside => absent (inside.trans (List.suffix_cons ..).isInfix)
    have after : decode pair.1 (code :: codes) = code.decode pair.1 ++ decode pair.1 codes :=
      List.flatMap_cons
    rw [after, written_append, ← later, written_cons]
    cases code with
    | raw element =>
      -- An entity that begins here would be there as it is, with its first element.
      have here : pair.1.isPrefixOf (element :: written codes) = false := by
        refine Bool.eq_false_iff.mpr fun found => absent ?_
        obtain ⟨tail, run, clean⟩ := distinct.starts pair member
        have begins := List.isPrefixOf_iff_prefix.mp found
        rw [run] at begins ⊢
        obtain ⟨rfl, rest⟩ := List.cons_prefix_cons.mp begins
        exact (List.cons_prefix_cons.mpr ⟨rfl, raw_prefix distinct others clean rest⟩).isInfix
      rw [Code.run, Code.decode, List.singleton_append, replaceAll, replaceFrom, here,
        if_neg Bool.false_ne_true]
      rfl
    | entity other value =>
      have otherMember := spelt List.mem_cons_self
      obtain ⟨tail, run, clean⟩ := distinct.starts _ otherMember
      obtain rfl : other = start :: tail := run
      rw [Code.run, Code.decode, List.cons_append, replaceAll, replaceFrom]
      by_cases same : start :: tail = pair.1
      · -- The whole entity is replaced.
        have found : pair.1.isPrefixOf (start :: (tail ++ written codes)) = true :=
          List.isPrefixOf_iff_prefix.mpr (same ▸ List.prefix_append ..)
        obtain rfl : (start :: tail, value) = pair :=
          distinct.apart _ otherMember pair member (same ▸ List.prefix_refl _)
        rw [if_pos found, if_pos rfl, written_map_raw]
        exact congrArg (value ++ ·) (replaceFrom_skip _ _ tail _)
      · have notFound : pair.1.isPrefixOf (start :: (tail ++ written codes)) = false := by
          refine Bool.eq_false_iff.mpr fun found => same ?_
          have begins : pair.1 <+: start :: tail ++ written codes :=
            List.isPrefixOf_iff_prefix.mp found
          rw [distinct.eq_of_prefix member otherMember begins]
        -- Inside an entity of another kind none of this kind begins.
        obtain ⟨_, pairRun, _⟩ := distinct.starts pair member
        have rest : replaceAll pair.1 pair.2 (tail ++ written codes) =
            tail ++ replaceAll pair.1 pair.2 (written codes) :=
          Replacing.replaceAll_literal (List.head?_eq_some_iff.mpr ⟨_, pairRun⟩) clean _
        rw [if_neg (by simp [notFound]), if_neg same]
        simpa [Code.run, replaceAll] using congrArg (start :: ·) rest

/-- Replacing entities one after another decodes all of them, if none is there as it is. -/
theorem replaceEach_written (distinct : Distinct start table) (spelt : Spelt table codes)
    (absent : ∀ pair ∈ table, ¬ pair.1 <:+: plain codes) :
    replaceEach table (written codes) = plain codes := by
  induction table generalizing codes with
  | nil => exact written_eq_plain spelt
  | cons pair table ih =>
    have raw : ¬ pair.1.map Code.raw <:+: codes := by
      -- Elements that are there as they are belong to what the text stands for.
      rintro ⟨front, back, rfl⟩
      exact absent pair List.mem_cons_self ⟨plain front, plain back, by simp⟩
    rw [Replacing.replaceEach_cons, replaceAll_written distinct List.mem_cons_self spelt raw,
      ih distinct.tail spelt.decode, plain_decode]
    simpa using fun run value member => absent (run, value) (List.mem_cons_of_mem _ member)

/-- Nothing of a text is the element that entities begin with. -/
def Escaped (start : α) (codes : List (Code α)) : Prop := Code.raw start ∉ codes

/-- Decoding leaves no such element, if the entity stands for none. -/
theorem Escaped.decode (escaped : Escaped start codes) {pair : List α × List α}
    (spelt : Spelt (pair :: table) codes) (distinct : Distinct start (pair :: table))
    (clean : start ∉ pair.2) : Escaped start (decode pair.1 codes) := by
  intro member
  obtain ⟨code, inside, among⟩ := List.mem_flatMap.mp member
  cases code with
  | raw element =>
    cases List.mem_singleton.mp among
    exact escaped inside
  | entity other value =>
    rw [Code.decode] at among
    split at among
    · rename_i same
      obtain ⟨element, isThere, same'⟩ := List.mem_map.mp among
      cases same'
      -- The elements that have been put in come from the value of the entity.
      obtain rfl := distinct.apart pair List.mem_cons_self _ (spelt inside) (same ▸ List.prefix_refl _)
      exact clean isThere
    · cases List.mem_singleton.mp among

/--
Replacing entities one after another decodes all of them in any escaped text.

Only the last of them may stand for the element that they begin with.
-/
theorem replaceEach_escaped {front : List (List α × List α)} {last : List α × List α}
    (distinct : Distinct start (front ++ [last])) (spelt : Spelt (front ++ [last]) codes)
    (escaped : Escaped start codes) (clean : ∀ pair ∈ front, start ∉ pair.2) :
    replaceEach (front ++ [last]) (written codes) = plain codes := by
  -- The first element of an entity is nowhere by itself, so the entity is not either.
  have notRaw {table : List (List α × List α)} {pair : List α × List α} {codes : List (Code α)}
      (distinct : Distinct start (pair :: table)) (escaped : Escaped start codes) :
      ¬ pair.1.map Code.raw <:+: codes := by
    intro inside
    obtain ⟨tail, run, _⟩ := distinct.starts pair List.mem_cons_self
    exact escaped (inside.subset (by simp [run]))
  -- Each entity but the last keeps the text escaped for those that follow.
  induction front generalizing codes with
  | nil =>
    rw [List.nil_append] at distinct spelt ⊢
    rw [Replacing.replaceEach_cons,
      replaceAll_written distinct List.mem_cons_self spelt (notRaw distinct escaped)]
    exact (written_eq_plain spelt.decode).trans (plain_decode ..)
  | cons pair front ih =>
    rw [List.cons_append] at distinct spelt ⊢
    obtain ⟨first, others⟩ := List.forall_mem_cons.mp clean
    rw [Replacing.replaceEach_cons,
      replaceAll_written distinct List.mem_cons_self spelt (notRaw distinct escaped),
      ih distinct.tail spelt.decode (escaped.decode spelt distinct first) others, plain_decode]

/-- A text in which some elements are written as entities. -/
def spelling (entity : α → List α) (list : List α) : List (Code α) :=
  list.map fun element =>
    if entity element = [element] then .raw element else .entity (entity element) [element]

@[simp] theorem plain_spelling (entity : α → List α) (list : List α) :
    plain (spelling entity list) = list := by
  rw [plain, spelling, List.flatMap_map]
  refine (List.flatMap_congr fun element _ => ?_).trans (List.flatMap_singleton' list)
  split <;> rfl

@[simp] theorem written_spelling (entity : α → List α) (list : List α) :
    written (spelling entity list) = list.flatMap entity := by
  rw [written, spelling, List.flatMap_map]
  refine List.flatMap_congr fun element _ => ?_
  split
  · rename_i same
    exact same.symm
  · rfl

/-- Such a text is spelt with a table that has an entity for each element that needs one. -/
theorem spelt_spelling {entity : α → List α} {list : List α}
    (all : ∀ element ∈ list, entity element = [element] ∨ (entity element, [element]) ∈ table) :
    Spelt table (spelling entity list) := by
  intro run value member
  obtain ⟨element, inside, same⟩ := List.mem_map.mp member
  -- Only an element that has another spelling is written as an entity.
  split at same
  · cases same
  · rename_i written
    cases same
    exact (all element inside).resolve_left written

/-- A text can be written with an entity for each element that needs one. -/
theorem coded_spelling {entity : α → List α} {text : List α}
    (all : ∀ element ∈ text, entity element = [element] ∨ (entity element, [element]) ∈ table) :
    Coded table (text.flatMap entity) text :=
  ⟨spelling entity text, spelt_spelling all, written_spelling .., plain_spelling ..⟩

/-- The text that another was written for is found again, unless it has one of the entities in it. -/
theorem Coded.replaceEach (distinct : Distinct start table) {text shown : List α}
    (coded : Coded table text shown) (absent : ∀ pair ∈ table, ¬ pair.1 <:+: shown) :
    replaceEach table text = shown := by
  obtain ⟨codes, spelt, rfl, rfl⟩ := coded
  exact replaceEach_written distinct spelt absent

end Decoding

end Entities
