import Mathlib.Data.List.Infix

/-! Runs that are replaced in a list, and lists that are pieced together so that none is across. -/

universe u v

namespace Replacing

variable {α : Type u} [DecidableEq α]

/-- Replaces a run from the left, with some elements of the last one still to be left out. -/
def replaceFrom (before after : List α) : Nat → List α → List α
  | _, [] => []
  | skip + 1, _ :: list => replaceFrom before after skip list
  | 0, first :: list =>
    if before.isPrefixOf (first :: list) then
      after ++ replaceFrom before after (before.length - 1) list
    else first :: replaceFrom before after 0 list

/-- Replaces all occurrences of a run that is not empty. -/
def replaceAll (before after list : List α) : List α := replaceFrom before after 0 list

/-- Makes several replacements, one after another. -/
def replaceEach (replacements : List (List α × List α)) (list : List α) : List α :=
  replacements.foldl (fun list pair => replaceAll pair.1 pair.2 list) list

/-- Each run that is replaced begins with the same element. -/
def Starts (start : α) (replacements : List (List α × List α)) : Prop :=
  ∀ pair ∈ replacements, pair.1.head? = some start

variable {before after : List α}

/-- A run does not go on behind an element that it does not have. -/
theorem isPrefixOf_append_cons {boundary : α} (absent : boundary ∉ before) (list rest : List α) :
    before.isPrefixOf (list ++ boundary :: rest) = before.isPrefixOf list := by
  -- The run is compared element by element until it ends or differs.
  induction list generalizing before with
  | nil =>
    cases before with
    | nil => rfl
    | cons first before =>
      have other : first ≠ boundary := fun same => absent (same ▸ List.mem_cons_self)
      rw [List.nil_append, List.isPrefixOf_cons_cons, beq_false_of_ne other, Bool.false_and]
      rfl
  | cons next list ih =>
    cases before with
    | nil => rfl
    | cons first before =>
      have rest := ih fun member => absent (List.mem_cons_of_mem _ member)
      simp only [List.cons_append, List.isPrefixOf_cons_cons, rest]

/-- What stands in front of an element that a run does not have is replaced by itself. -/
theorem replaceFrom_append_cons {boundary : α} (absent : boundary ∉ before) (rest : List α)
    (list : List α) {skip : Nat} (inside : skip ≤ list.length) :
    replaceFrom before after skip (list ++ boundary :: rest) =
      replaceFrom before after skip list ++ replaceFrom before after 0 (boundary :: rest) := by
  -- No run that begins in the list ends behind it, so nothing is left out behind it either.
  induction list generalizing skip with
  | nil =>
    obtain rfl : skip = 0 := Nat.le_zero.mp inside
    rfl
  | cons first list ih =>
    cases skip with
    | succ skip => exact ih (Nat.le_of_succ_le_succ inside)
    | zero =>
      have same := isPrefixOf_append_cons absent (first :: list) rest
      rw [List.cons_append] at same ⊢
      rw [replaceFrom, replaceFrom, same]
      split
      · rename_i found
        have short := (List.isPrefixOf_iff_prefix.mp found).length_le
        rw [List.length_cons] at short
        rw [ih (by omega), List.append_assoc]
      · rw [ih (Nat.zero_le _), List.cons_append]

/-- Nothing is replaced where no run begins. -/
theorem replaceAll_literal {start : α} (starts : before.head? = some start) {literal : List α}
    (clean : start ∉ literal) (rest : List α) :
    replaceAll before after (literal ++ rest) = literal ++ replaceAll before after rest := by
  induction literal with
  | nil => rfl
  | cons first literal ih =>
    have other : start ≠ first := fun same => clean (same ▸ List.mem_cons_self)
    have others : start ∉ literal := fun member => clean (List.mem_cons_of_mem first member)
    obtain ⟨tail, rfl⟩ := List.head?_eq_some_iff.mp starts
    -- The first element is not the one that a run begins with.
    have absent : (start :: tail).isPrefixOf (first :: (literal ++ rest)) = false := by
      rw [List.isPrefixOf_cons_cons, beq_false_of_ne other, Bool.false_and]
    rw [List.cons_append, replaceAll, replaceFrom, absent, if_neg Bool.false_ne_true]
    exact congrArg (first :: ·) (ih others)

/-- A list without an occurrence stays as it is. -/
theorem replaceAll_of_absent {list : List α} (absent : ¬ before <:+: list) :
    replaceAll before after list = list := by
  induction list with
  | nil => rfl
  | cons first list ih =>
    have here : before.isPrefixOf (first :: list) = false := by
      refine Bool.eq_false_iff.mpr fun found => absent ?_
      exact (List.isPrefixOf_iff_prefix.mp found).isInfix
    have later : ¬ before <:+: list := fun found => absent (found.trans (List.suffix_cons ..).isInfix)
    rw [replaceAll, replaceFrom, here, if_neg Bool.false_ne_true]
    exact congrArg (first :: ·) (ih later)

variable {replacements : List (List α × List α)} {start : α}

theorem replaceEach_cons (pair : List α × List α) (list : List α) :
    replaceEach (pair :: replacements) list =
      replaceEach replacements (replaceAll pair.1 pair.2 list) := rfl

@[simp] theorem replaceEach_empty : replaceEach replacements ([] : List α) = [] := by
  induction replacements with
  | nil => rfl
  | cons pair replacements ih => exact ih

theorem replaceEach_literal (starts : Starts start replacements) {literal : List α}
    (clean : start ∉ literal) (rest : List α) :
    replaceEach replacements (literal ++ rest) = literal ++ replaceEach replacements rest := by
  induction replacements generalizing rest with
  | nil => rfl
  | cons pair replacements ih =>
    obtain ⟨first, others⟩ := List.forall_mem_cons.mp starts
    rw [replaceEach_cons, replaceAll_literal first clean, ih others, replaceEach_cons]

/-- None of several runs occurs. -/
theorem replaceEach_of_absent {list : List α} (absent : ∀ pair ∈ replacements, ¬ pair.1 <:+: list) :
    replaceEach replacements list = list := by
  induction replacements with
  | nil => rfl
  | cons pair replacements ih =>
    obtain ⟨first, others⟩ := List.forall_mem_cons.mp absent
    rw [replaceEach_cons, replaceAll_of_absent first, ih others]

/-- A run of elements behind which each occurrence in front of it has ended, and none begins. -/
def separates (start : α) (replacements : List (List α × List α)) (literal : List α) : Bool :=
  !literal.contains start &&
    literal.head?.any fun boundary => replacements.all fun pair => !pair.1.contains boundary

/-- What separates values has no place where an occurrence begins. -/
theorem clean_of_separates {literal : List α}
    (separated : separates start replacements literal = true) : start ∉ literal := by
  obtain ⟨clean, _⟩ := Bool.and_eq_true_iff.mp separated
  simpa using clean

/-- What separates values for some replacements does so for fewer of them. -/
theorem separates_of_subset {others : List (List α × List α)} (fewer : others ⊆ replacements)
    {literal : List α} (separated : separates start replacements literal = true) :
    separates start others literal = true := by
  obtain ⟨clean, boundaries⟩ := Bool.and_eq_true_iff.mp separated
  refine Bool.and_eq_true_iff.mpr ⟨clean, ?_⟩
  cases literal with
  | nil => cases boundaries
  | cons boundary literal =>
    exact List.all_eq_true.mpr fun pair member => List.all_eq_true.mp boundaries pair (fewer member)

/-- Such a run separates what is replaced in front of it from what is replaced behind it. -/
theorem replaceEach_separated (starts : Starts start replacements) {literal : List α}
    (separated : separates start replacements literal = true) (value rest : List α) :
    replaceEach replacements (value ++ (literal ++ rest)) =
      replaceEach replacements value ++ (literal ++ replaceEach replacements rest) := by
  have clean := clean_of_separates separated
  obtain ⟨_, boundaries⟩ := Bool.and_eq_true_iff.mp separated
  cases literal with
  | nil => cases boundaries
  | cons boundary literal =>
    have absent : ∀ pair ∈ replacements, boundary ∉ pair.1 := by simpa using boundaries
    clear separated boundaries
    induction replacements generalizing value rest with
    | nil => rfl
    | cons pair replacements ih =>
      obtain ⟨first, others⟩ := List.forall_mem_cons.mp starts
      obtain ⟨apart, apartOthers⟩ := List.forall_mem_cons.mp absent
      -- One replacement is made on both sides by itself, and then the others are.
      have once : replaceAll pair.1 pair.2 (value ++ (boundary :: literal ++ rest)) =
          replaceAll pair.1 pair.2 value ++ (boundary :: literal ++ replaceAll pair.1 pair.2 rest) := by
        rw [← replaceAll_literal first clean]
        exact replaceFrom_append_cons apart _ value (Nat.zero_le _)
      rw [replaceEach_cons, once, ih others _ _ apartOthers, replaceEach_cons, replaceEach_cons]

/-- A part of a text that is pieced together: a fixed run, and a value behind it. -/
structure Piece (α : Type u) where
  literal : List α
  value : List α
deriving DecidableEq

/-- What the pieces amount to. -/
def text (pieces : List (Piece α)) : List α := pieces.flatMap fun piece => piece.literal ++ piece.value

omit [DecidableEq α] in
@[simp] theorem text_nil : text ([] : List (Piece α)) = [] := rfl

omit [DecidableEq α] in
@[simp] theorem text_cons (piece : Piece α) (pieces : List (Piece α)) :
    text (piece :: pieces) = piece.literal ++ (piece.value ++ text pieces) :=
  List.append_assoc ..

omit [DecidableEq α] in
@[simp] theorem text_append (front back : List (Piece α)) :
    text (front ++ back) = text front ++ text back :=
  List.flatMap_append

omit [DecidableEq α] in
theorem text_flatMap {β : Type v} (items : List β) (pieces : β → List (Piece α)) :
    text (items.flatMap pieces) = items.flatMap fun item => text (pieces item) :=
  List.flatMap_assoc

/-- Replaces in the values only. -/
def replaceValues (replacements : List (List α × List α)) (pieces : List (Piece α)) : List (Piece α) :=
  pieces.map fun piece => { piece with value := replaceEach replacements piece.value }

@[simp] theorem replaceValues_nil (replacements : List (List α × List α)) :
    replaceValues replacements [] = [] := rfl

@[simp] theorem replaceValues_cons (replacements : List (List α × List α)) (piece : Piece α)
    (pieces : List (Piece α)) :
    replaceValues replacements (piece :: pieces) =
      ⟨piece.literal, replaceEach replacements piece.value⟩ :: replaceValues replacements pieces := rfl

@[simp] theorem replaceValues_append (replacements : List (List α × List α)) (front back : List (Piece α)) :
    replaceValues replacements (front ++ back) =
      replaceValues replacements front ++ replaceValues replacements back :=
  List.map_append

/-- Replacing in a text is replacing in its values, and in what follows it by itself. -/
def Delimited (replacements : List (List α × List α)) (pieces : List (Piece α)) : Prop :=
  ∀ rest, replaceEach replacements (text pieces ++ rest) =
    text (replaceValues replacements pieces) ++ replaceEach replacements rest

theorem delimited_nil : Delimited replacements ([] : List (Piece α)) := fun _ => rfl

theorem Delimited.replaceEach_text {pieces : List (Piece α)}
    (delimited : Delimited replacements pieces) :
    replaceEach replacements (text pieces) = text (replaceValues replacements pieces) := by
  simpa using delimited []

theorem Delimited.append {front back : List (Piece α)} (first : Delimited replacements front)
    (second : Delimited replacements back) : Delimited replacements (front ++ back) := by
  intro rest
  rw [text_append, List.append_assoc, first, second, replaceValues_append, text_append,
    List.append_assoc]

theorem Delimited.flatMap {β : Type v} {pieces : β → List (Piece α)} {items : List β}
    (each : ∀ item ∈ items, Delimited replacements (pieces item)) :
    Delimited replacements (items.flatMap pieces) := by
  induction items with
  | nil => exact delimited_nil
  | cons item items ih =>
    obtain ⟨first, others⟩ := List.forall_mem_cons.mp each
    exact first.append (ih others)

/-- Fixed runs that separate their values, up to a last one, keep what is behind them apart too. -/
theorem delimited_pieces (starts : Starts start replacements) {literal last : List α}
    (clean : start ∉ literal) (value : List α) {pieces : List (Piece α)}
    (separated : ∀ piece ∈ pieces, separates start replacements piece.literal = true)
    (ends : separates start replacements last = true) :
    Delimited replacements (⟨literal, value⟩ :: pieces ++ [⟨last, []⟩]) := by
  intro rest
  -- The first value and those behind it are separated one after another.
  have values : replaceEach replacements (value ++ (text (pieces ++ [⟨last, []⟩]) ++ rest)) =
      replaceEach replacements value ++
        (text (replaceValues replacements (pieces ++ [⟨last, []⟩])) ++
          replaceEach replacements rest) := by
    clear clean
    induction pieces generalizing value with
    | nil =>
      have split := replaceEach_separated starts ends value rest
      simpa using split
    | cons piece pieces ih =>
      obtain ⟨first, others⟩ := List.forall_mem_cons.mp separated
      have split := replaceEach_separated starts first value
        (piece.value ++ (text (pieces ++ [⟨last, []⟩]) ++ rest))
      rw [ih piece.value others] at split
      simpa using split
  have front := replaceEach_literal starts clean (value ++ (text (pieces ++ [⟨last, []⟩]) ++ rest))
  rw [values] at front
  simpa using front

/-- A fixed run where nothing begins is one by itself. -/
theorem delimited_literal (starts : Starts start replacements) {literal : List α}
    (clean : start ∉ literal) : Delimited replacements [⟨literal, []⟩] := by
  intro rest
  have front := replaceEach_literal starts clean rest
  simpa using front

end Replacing
