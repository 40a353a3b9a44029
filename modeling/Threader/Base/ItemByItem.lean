import Mathlib.Data.List.Forall2

/-! Lists whose items are related one by one, or made one by one. -/

universe u v

namespace ItemByItem

variable {α : Type u} {β : Type v} {related : α → β → Prop} {left : List α} {right : List β}

/-- Every item on the left of two related lists has a partner on the right. -/
theorem exists_of_mem_left (all : List.Forall₂ related left right) {item : α}
    (member : item ∈ left) : ∃ partner ∈ right, related item partner := by
  -- The partner stands in the same place.
  induction all with
  | nil => cases member
  | cons first _ ih =>
    rcases List.mem_cons.mp member with rfl | later
    · exact ⟨_, List.mem_cons_self, first⟩
    · obtain ⟨partner, inside, both⟩ := ih later
      exact ⟨partner, List.mem_cons_of_mem _ inside, both⟩

/-- Every item on the right of two related lists has a partner on the left. -/
theorem exists_of_mem_right (all : List.Forall₂ related left right) {item : β}
    (member : item ∈ right) : ∃ partner ∈ left, related partner item :=
  exists_of_mem_left (List.Forall₂.flip all) member

/-- Partners that exist one by one form a list. -/
theorem exists_forall₂ (partners : ∀ item ∈ left, ∃ partner, related item partner) :
    ∃ right, List.Forall₂ related left right := by
  -- The partners are collected in the order of the items.
  induction left with
  | nil => exact ⟨[], .nil⟩
  | cons item left ih =>
    obtain ⟨first, others⟩ := List.forall_mem_cons.mp partners
    obtain ⟨partner, both⟩ := first
    obtain ⟨right, all⟩ := ih others
    exact ⟨partner :: right, .cons both all⟩

/-- What a loop that succeeds has made was made from one of its sources. -/
theorem mem_of_mapM_eq_some {make : α → Option β} {sources : List α} {made : List β}
    (all : sources.mapM make = some made) {item : β} (member : item ∈ made) :
    ∃ source ∈ sources, make source = some item := by
  -- A loop that succeeds has succeeded at its first source, and at all others.
  induction sources generalizing made with
  | nil =>
    cases all
    cases member
  | cons source sources ih =>
    simp only [List.mapM_cons, Option.bind_eq_bind, Option.bind_eq_some_iff, Option.pure_def,
      Option.some.injEq] at all
    obtain ⟨first, firstMade, others, rest, rfl⟩ := all
    rcases List.mem_cons.mp member with rfl | later
    · exact ⟨source, List.mem_cons_self, firstMade⟩
    · obtain ⟨origin, inside, found⟩ := ih rest later
      exact ⟨origin, List.mem_cons_of_mem source inside, found⟩

/-- Nothing is made of selected items exactly when nothing can be made of any of them. -/
theorem filterMap_filter_eq_nil_iff {makes selected : α → Bool} {make : α → Option β}
    {items : List α} (made : ∀ item ∈ items, (make item).isSome = makes item) :
    (items.filter selected).filterMap make = [] ↔
      ∀ item ∈ items, ¬ (makes item = true ∧ selected item = true) := by
  -- An item has to be selected, and something has to be made of it.
  rw [List.filterMap_eq_nil_iff]
  constructor
  · rintro none item member ⟨can, inside⟩
    have absent := none item (List.mem_filter.mpr ⟨member, inside⟩)
    rw [← made item member, absent] at can
    cases can
  · intro none item member
    obtain ⟨member, inside⟩ := List.mem_filter.mp member
    rw [← Option.not_isSome_iff_eq_none, made item member]
    exact fun can => none item member ⟨can, inside⟩

/--
The items before the first one of which nothing can be made and the selected items make the same
list exactly when the former are all selected, and nothing can be made of a selected item later.

What is made of an item shows whether the item is selected.
-/
theorem filterMap_takeWhile_eq_iff {makes selected : α → Bool} {make : α → Option β}
    {items : List α} (made : ∀ item ∈ items, (make item).isSome = makes item)
    (shown : ∀ item ∈ items, ∀ other ∈ items, ∀ result, make item = some result →
      make other = some result → selected item = selected other) :
    (items.takeWhile makes).filterMap make = (items.filter selected).filterMap make ↔
      (∀ item ∈ items.takeWhile makes, selected item = true) ∧
        ∀ item ∈ items.dropWhile makes, ¬ (makes item = true ∧ selected item = true) := by
  have split : items.takeWhile makes ++ items.dropWhile makes = items :=
    List.takeWhile_append_dropWhile
  have early (item : α) (member : item ∈ items.takeWhile makes) : item ∈ items :=
    split ▸ List.mem_append_left _ member
  have late (item : α) (member : item ∈ items.dropWhile makes) : item ∈ items :=
    split ▸ List.mem_append_right _ member
  -- The selected items are those of the beginning and those of the rest.
  have parts : (items.filter selected).filterMap make =
      ((items.takeWhile makes).filter selected).filterMap make ++
        ((items.dropWhile makes).filter selected).filterMap make := by
    rw [← List.filterMap_append, ← List.filter_append, split]
  have nothing : ((items.dropWhile makes).filter selected).filterMap make = [] ↔ _ :=
    filterMap_filter_eq_nil_iff fun item member => made item (late item member)
  constructor
  · intro same
    have all (item : α) (member : item ∈ items.takeWhile makes) : selected item = true := by
      have can : makes item = true := List.all_eq_true.mp List.all_takeWhile item member
      rw [← made item (early item member)] at can
      obtain ⟨result, makes⟩ := Option.isSome_iff_exists.mp can
      -- The same result is made of a selected item.
      have inside := List.mem_filterMap.mpr ⟨item, member, makes⟩
      rw [same] at inside
      obtain ⟨other, taken, also⟩ := List.mem_filterMap.mp inside
      obtain ⟨there, chosen⟩ := List.mem_filter.mp taken
      rw [shown item (early item member) other there result makes also, chosen]
    rw [parts, List.filter_eq_self.mpr all, List.self_eq_append_right] at same
    exact ⟨all, nothing.mp same⟩
  · rintro ⟨all, none⟩
    rw [parts, List.filter_eq_self.mpr all, nothing.mpr none, List.append_nil]

/-- Entries are what is expected of them exactly when each of them is. -/
theorem map_zipWith_eq_iff {γ δ : Type*} {fill : α → β → γ} {view : γ → δ} {expected : α → δ}
    {keys : List α} {entries : List β} (sized : keys.length = entries.length) :
    (List.zipWith fill keys entries).map view = keys.map expected ↔
      ∀ pair ∈ keys.zip entries, view (fill pair.1 pair.2) = expected pair.1 := by
  -- The two lists are walked through together.
  induction keys generalizing entries with
  | nil => simp
  | cons key keys ih =>
    cases entries with
    | nil => cases sized
    | cons entry entries =>
      rw [List.zipWith_cons_cons, List.map_cons, List.map_cons, List.cons.injEq, List.zip_cons_cons,
        List.forall_mem_cons, ih (Nat.succ.inj sized)]

end ItemByItem
