import Mathlib.Algebra.BigOperators.Ring.List
import Mathlib.Algebra.Ring.Nat
import Mathlib.Data.List.SplitBy
import Mathlib.Data.List.TakeWhile
import Threader.Base.ItemByItem
import Threader.Frames.FrameListRoundTrip

/-! Which frames are read back from data that hold the values of array atoms row by row. -/

namespace Threader

namespace DataStream

/-- A read operation that makes a value of any bytes of some width. -/
def Takes {γ : Type} (width : Nat) (read : DataStream → Bool × γ × DataStream) : Prop :=
  ∀ chunk : List UInt8, chunk.length = width → ∃ value, ∀ front rest,
    (front ++ (chunk ++ rest)).length < 2147483648 →
      read (between front (chunk ++ rest)) = (true, value, between (front ++ chunk) rest)

/-- A number is read from any bytes of its width. -/
theorem takes_fixed {α : Type} [FixedWidth α] (old : α) :
    Takes (FixedWidth.width α) (readFixed old) := by
  intro chunk width
  -- No type is without bytes, so there is something to read.
  have some : chunk ≠ [] := by
    rw [← List.length_pos_iff, width]
    exact FixedWidth.width_pos
  refine ⟨FixedWidth.ofBytes chunk, fun front rest fits => ?_⟩
  have raw := readRaw_between rest some fits
  rw [width] at raw
  exact readFixed_of_readRaw raw

end DataStream

namespace AtomType

/-- The width of an integer type. -/
def integerWidth? : AtomType → Option Nat
  | .uint8 | .int8 => some 1
  | .uint16 | .int16 => some 2
  | .uint32 | .int32 => some 4
  | .uint64 | .int64 => some 8
  | _ => none

/-- No integer is without bytes. -/
theorem integerWidth?_pos {type : AtomType} {width : Nat}
    (integer : type.integerWidth? = some width) : 0 < width := by
  cases type <;> cases integer <;> decide

variable [QtText]

/-- An integer is read from any bytes that are as many as it takes. -/
theorem takes_integer {type : AtomType} {width : Nat} (integer : type.integerWidth? = some width)
    (old : type.Value) : DataStream.Takes width (StreamValue.read old) := by
  -- The types without a width are no integers.
  cases type <;> cases integer
  case uint8 => exact DataStream.takes_fixed (α := UInt8) old
  case int8 => exact DataStream.takes_fixed (α := Int8) old
  case uint16 => exact DataStream.takes_fixed (α := UInt16) old
  case int16 => exact DataStream.takes_fixed (α := Int16) old
  case uint32 => exact DataStream.takes_fixed (α := UInt32) old
  case int32 => exact DataStream.takes_fixed (α := Int32) old
  case uint64 => exact DataStream.takes_fixed (α := UInt64) old
  case int64 => exact DataStream.takes_fixed (α := Int64) old

/-- An integer is written as a stream image of its width. -/
theorem streamImage_integer {type : AtomType} {width : Nat}
    (integer : type.integerWidth? = some width) (value : type.Value) :
    StreamImage value (type.image value) ∧ (type.image value).length = width := by
  have image : StreamImage value (type.image value) := by
    apply streamImage
    cases type <;> cases integer <;> trivial
  refine ⟨image, image.width.trans ?_⟩
  cases type <;> cases integer <;> rfl

end AtomType

namespace BaseDataAtom

variable {α : Type} [StreamValue α]

/-- Reading the value at an index fills the vector up to it, and replaces what is there. -/
theorem readItem_eq {atom : BaseDataAtom α} (array : atom.definition.isScalar = false)
    (some : atom.valuesVector ≠ []) {index : UInt32} (small : index.toNat < 2147483647) :
    ∃ old : α, ∀ stream, atom.readItem stream index =
      .some ((StreamValue.read old stream).1,
        { atom with valuesVector :=
            (atom.valuesVector ++ List.replicate (index.toNat + 1 - atom.valuesVector.length)
              StreamValue.empty).set index.toNat (StreamValue.read old stream).2.1 },
        (StreamValue.read old stream).2.2) := by
  have length := List.length_pos_iff.mpr some
  -- The index is converted to an int, which it fits into.
  have exactly : MachineInt.toInt32 (index.toNat : Int) = index.toNat :=
    MachineInt.toInt32_of_fits (by omega) (by omega)
  have first : index > 0 ↔ 0 < index.toNat := UInt32.lt_iff_toNat_lt
  -- Nothing is filled up where the vector does not grow.
  have grown : (if (atom.valuesVector.length : Int) < MachineInt.toInt32 index.toNat + 1 ∧ index > 0
      then atom.valuesVector ++ List.replicate (index.toNat + 1 - atom.valuesVector.length)
        StreamValue.empty
      else atom.valuesVector) = atom.valuesVector ++
        List.replicate (index.toNat + 1 - atom.valuesVector.length) StreamValue.empty := by
    rw [exactly]
    split
    · rfl
    · rename_i enough
      rw [first] at enough
      rw [show index.toNat + 1 - atom.valuesVector.length = 0 by omega, List.replicate_zero,
        List.append_nil]
  simp only [readItem, array, Bool.false_eq_true, if_false, grown]
  -- After that there is a value at the index, which is the old one.
  have inside : index.toNat < (atom.valuesVector ++
      List.replicate (index.toNat + 1 - atom.valuesVector.length) StreamValue.empty).length := by
    rw [List.length_append, List.length_replicate]
    omega
  exact ⟨_, fun stream => by rw [List.getElem?_eq_getElem inside, Option.map_some]⟩

omit [StreamValue α] in
/-- A value behind those that are there already is put in the place of one that was there before. -/
theorem set_after {values old : List α} {value empty : α} {row : Nat}
    (there : values[row]? = some value) :
    (values.take row ++ old.drop row ++
      List.replicate (row + 1 - (values.take row ++ old.drop row).length) empty).set row value =
        values.take (row + 1) ++ old.drop (row + 1) := by
  have inside : row < values.length := (List.getElem?_eq_some_iff.mp there).1
  have before : (values.take row).length = row := List.length_take_of_le (Nat.le_of_lt inside)
  -- The values in front of the row stay as they are.
  have front : values.take (row + 1) = values.take row ++ [value] := by
    rw [List.take_add_one, there]
    rfl
  rw [front, List.append_assoc, List.append_assoc, List.set_append_right _ _ (by omega), before,
    Nat.sub_self, ← List.drop_drop]
  congr 1
  -- The first of the old values is replaced, or the one that was filled in.
  cases old.drop row with
  | nil =>
    have one : row + 1 - (values.take row ++ []).length = 1 := by
      rw [List.append_nil]
      omega
    rw [one]
    rfl
  | cons first others =>
    have none : row + 1 - (values.take row ++ first :: others).length = 0 := by
      rw [List.length_append, List.length_cons]
      omega
    rw [none]
    simp

end BaseDataAtom

variable [QtText]

/-- One value of an array atom is read from some bytes, whatever is around them. -/
def AbstractDataAtom.ReadsItem (c : UInt32) (old : AbstractDataAtom) (chunk : List UInt8)
    (new : AbstractDataAtom) : Prop :=
  old.definition.isScalar = false ∧ ∀ front rest, (front ++ (chunk ++ rest)).length < 2147483648 →
    old.readItem (.between front (chunk ++ rest)) c = some (true, new, .between (front ++ chunk) rest)

namespace DataFrame

/-- A row ends in front of a scalar atom, or behind the last atom. -/
def RowEnds (atoms : List (Option AbstractDataAtom)) : Prop :=
  ∀ next ∈ atoms.head?, ∃ atom, next = some atom ∧ atom.definition.isScalar = true

/-- A row is read from the bytes of its values, one after another. -/
theorem readRow_items {β : Type} {c : UInt32} {old new : β → AbstractDataAtom}
    {chunk : β → List UInt8} {items : List β}
    (reads : ∀ item ∈ items, (old item).ReadsItem c (chunk item) (new item))
    {later : List (Option AbstractDataAtom)} (ends : RowEnds later) (front rest : List UInt8)
    (fits : (front ++ (items.flatMap chunk ++ rest)).length < 2147483648) :
    readRow c (items.map (fun item => some (old item)) ++ later)
        (.between front (items.flatMap chunk ++ rest)) =
      some ⟨true, items.length, items.map (fun item => some (new item)) ++ later,
        .between (front ++ items.flatMap chunk) rest⟩ := by
  induction items generalizing front with
  | nil =>
    rw [List.flatMap_nil, List.nil_append, List.map_nil, List.nil_append, List.append_nil]
    cases later with
    | nil => rfl
    | cons next later =>
      -- The index stops at a scalar atom.
      obtain ⟨atom, rfl, scalar⟩ := ends next rfl
      simp only [readRow, scalar, if_true]
      rfl
  | cons item items ih =>
    obtain ⟨first, others⟩ := List.forall_mem_cons.mp reads
    obtain ⟨array, first⟩ := first
    rw [List.flatMap_cons, List.append_assoc] at fits ⊢
    have later := ih others (front ++ chunk item) (by rwa [List.append_assoc])
    rw [List.append_assoc] at later
    rw [List.map_cons, List.cons_append, readRow, array, first front _ fits]
    simp only [Bool.false_eq_true, if_false, Option.bind_some, if_true, later, Option.map_some]
    rfl

omit [QtText] in
/-- An atom of integers that has at least one value, and just one if it is scalar. -/
structure IntegerAtom (atom : AbstractDataAtom) : Prop where
  integer : ∃ width, atom.type.integerWidth? = some width
  occupied : atom.base.valuesVector ≠ []
  single : atom.definition.isScalar = true → atom.base.valuesVector.length = 1

/-- An atom of a frame, and the values that a stream holds for it. -/
structure Column (capacity : Nat) where
  atom : AbstractDataAtom
  values : List atom.type.Value
  length_eq : values.length = if atom.definition.isScalar then 1 else capacity

namespace Column

variable {capacity : Nat}

/-- The bytes of one value of a column. -/
def cell (column : Column capacity) (row : Nat) : List UInt8 :=
  column.values[row]?.elim [] column.atom.type.image

omit [QtText] in
/-- What the atom holds when it has taken over the values of some rows in the place of its own. -/
def base (column : Column capacity) (rows : Nat) : BaseDataAtom column.atom.type.Value :=
  { column.atom.base with
    valuesVector := column.values.take rows ++ column.atom.base.valuesVector.drop rows }

omit [QtText] in
/-- The atom when it has taken over the values of some rows. -/
def after (column : Column capacity) (rows : Nat) : AbstractDataAtom :=
  ⟨column.atom.type, column.base rows⟩

omit [QtText] in
/--
The atom when it has taken over all values of the column.

An atom of a new frame has one value, and is left with those of the column alone.
-/
def filled (column : Column capacity) : AbstractDataAtom := column.after column.values.length

/-- The value of a row is read from its cell. -/
theorem readsItem {column : Column capacity} (numbers : IntegerAtom column.atom)
    (array : column.atom.definition.isScalar = false) {c : UInt32} (inside : c.toNat < capacity)
    (small : c.toNat < 2147483647) :
    (column.after c.toNat).ReadsItem c (column.cell c.toNat) (column.after (c.toNat + 1)) := by
  obtain ⟨⟨width, integer⟩, occupied, _⟩ := numbers
  -- The column of an array atom has a value for every row.
  obtain ⟨value, there⟩ : ∃ value, column.values[c.toNat]? = some value := by
    have length := column.length_eq
    rw [array, if_neg Bool.false_ne_true] at length
    exact ⟨_, List.getElem?_eq_getElem (by omega)⟩
  have some : (column.base c.toNat).valuesVector ≠ [] := by
    have before := (List.getElem?_eq_some_iff.mp there).1
    rw [← List.length_pos_iff] at occupied ⊢
    simp only [base, List.length_append, List.length_take, List.length_drop]
    omega
  -- The old value is whatever the vector holds at the row, or an empty one.
  obtain ⟨old, read⟩ := @BaseDataAtom.readItem_eq _ _ (column.base c.toNat) array some c small
  have image := (AtomType.streamImage_integer integer value).1
  refine ⟨array, fun front rest fits => ?_⟩
  rw [cell, there, Option.elim_some] at fits ⊢
  rw [after, AbstractDataAtom.readItem, read, image.read old front rest fits, Option.map_some]
  simp only [base, BaseDataAtom.set_after there]
  rfl

/-- The value of a scalar atom is read from its only cell. -/
theorem read_scalar {column : Column capacity} (numbers : IntegerAtom column.atom)
    (scalar : column.atom.definition.isScalar = true) (front rest : List UInt8)
    (fits : (front ++ (column.cell 0 ++ rest)).length < 2147483648) :
    column.atom.read (.between front (column.cell 0 ++ rest)) =
      (true, column.filled, .between (front ++ column.cell 0) rest) := by
  obtain ⟨⟨width, integer⟩, _, single⟩ := numbers
  have one := column.length_eq
  rw [scalar, if_pos rfl] at one
  -- The only cell is the image of all values, of which there is one.
  have cell : column.cell 0 = column.values.flatMap column.atom.type.image := by
    obtain ⟨value, only⟩ := List.length_eq_one_iff.mp one
    rw [Column.cell, only, List.flatMap_singleton]
    rfl
  have images : ∀ value ∈ column.values, StreamImage value (column.atom.type.image value) :=
    fun value _ => (AtomType.streamImage_integer integer value).1
  -- The atom keeps its place for one value when it is cleared.
  have cleared : column.atom.base.clear.valuesVector.length = column.values.length := by
    rw [BaseDataAtom.clear, List.length_replicate, single scalar, one]
  rw [cell] at fits ⊢
  have all : column.filled = ⟨column.atom.type, { column.atom.base with
      valuesVector := column.values }⟩ := by
    rw [filled, after, base, List.take_length, one, ← single scalar, List.drop_length,
      List.append_nil]
  rw [AbstractDataAtom.read, BaseDataAtom.read,
    BaseDataAtom.readValues_image images cleared front rest fits, all]

/-- One row of a run: a value of each of its columns. -/
def row (run : List (Column capacity)) (row : Nat) : List UInt8 :=
  run.flatMap fun column => column.cell row

omit [QtText] in
/-- Neighbouring columns of array atoms belong to one run. -/
def sameRun (left right : Column capacity) : Bool :=
  !left.atom.definition.isScalar && !right.atom.definition.isScalar

/-- The bytes of a run: its rows one after another, of which a scalar atom has only one. -/
def runImage (run : List (Column capacity)) : List UInt8 :=
  (List.range (if run.any (·.atom.definition.isScalar) then 1 else capacity)).flatMap (row run)

/-- The bytes of all columns, with the maximal runs of array atoms stored row by row. -/
def rowWiseImage (columns : List (Column capacity)) : List UInt8 :=
  (columns.splitBy sameRun).flatMap runImage

/-- A scalar atom is stored as its only value. -/
theorem rowWiseImage_scalar {column : Column capacity}
    (scalar : column.atom.definition.isScalar = true) (columns : List (Column capacity)) :
    rowWiseImage (column :: columns) = column.cell 0 ++ rowWiseImage columns := by
  -- A scalar atom is in no run with its neighbours.
  have alone : (column :: columns).splitBy sameRun = [column] :: columns.splitBy sameRun := by
    refine List.splitBy_append (l := [column]) fun last member _ _ => ?_
    obtain rfl : column = last := by simpa using member
    simp [sameRun, scalar]
  rw [rowWiseImage, alone, List.flatMap_cons, runImage]
  simp [row, scalar, rowWiseImage]

/-- A run of array atoms that a scalar atom ends is stored row by row. -/
theorem rowWiseImage_run {run later : List (Column capacity)}
    (arrays : ∀ column ∈ run, column.atom.definition.isScalar = false)
    (ends : ∀ column ∈ later.head?, column.atom.definition.isScalar = true) :
    rowWiseImage (run ++ later) = (List.range capacity).flatMap (row run) ++ rowWiseImage later := by
  -- The run ends in front of the scalar atom.
  have apart : (run ++ later).splitBy sameRun = run.splitBy sameRun ++ later.splitBy sameRun :=
    List.splitBy_append fun last _ next member => by simp [sameRun, ends next member]
  rw [rowWiseImage, apart, List.flatMap_append]
  refine congrArg (· ++ rowWiseImage later) ?_
  cases run with
  | nil => exact (List.flatMap_eq_nil_iff.mpr fun _ _ => rfl).symm
  | cons column run =>
    -- Up to there all neighbours belong together, so the run is a single part.
    have chain : (column :: run).IsChain fun left right => sameRun left right = true := by
      refine List.Pairwise.isChain (List.pairwise_of_forall_mem_list ?_)
      intro left here right there
      simp [sameRun, arrays left here, arrays right there]
    have none : (column :: run).any (·.atom.definition.isScalar) = false := by
      rw [List.any_eq_false]
      exact fun other member => by simp [arrays other member]
    rw [List.splitBy_of_isChain (List.cons_ne_nil _ _) chain, List.flatMap_singleton, runImage,
      none, if_neg Bool.false_ne_true]

omit [QtText] in
/-- An array atom begins a run, which ends in front of the next scalar atom. -/
theorem exists_run {column : Column capacity} (array : column.atom.definition.isScalar = false)
    (columns : List (Column capacity)) :
    ∃ run later, columns = run ++ later ∧
      (∀ other ∈ column :: run, other.atom.definition.isScalar = false) ∧
      ∀ other ∈ later.head?, other.atom.definition.isScalar = true := by
  -- The run is as long as there are array atoms.
  let isArray (column : Column capacity) : Bool := !column.atom.definition.isScalar
  refine ⟨columns.takeWhile isArray, columns.dropWhile isArray,
    List.takeWhile_append_dropWhile.symm, List.forall_mem_cons.mpr ⟨array, ?_⟩, ?_⟩
  · intro other member
    simpa [isArray] using List.mem_takeWhile_imp member
  · intro other member
    have stopped := List.head?_dropWhile_not isArray columns
    rw [member] at stopped
    simpa [isArray] using stopped

end Column

omit [QtText] in
/-- The number of bytes that a value of an atom of integers takes. -/
def width (atom : AbstractDataAtom) : Nat := atom.type.integerWidth?.getD 0

omit [QtText] in
/-- Every value of an atom of integers takes some bytes. -/
theorem IntegerAtom.width_pos {atom : AbstractDataAtom} (numbers : IntegerAtom atom) :
    0 < width atom := by
  obtain ⟨bytes, integer⟩ := numbers.integer
  rw [width, integer]
  exact AtomType.integerWidth?_pos integer

namespace Column

variable {capacity : Nat}

omit [QtText] in
/-- The number of bytes of a column. -/
def bytes (column : Column capacity) : Nat := column.values.length * width column.atom

omit [QtText] in
/-- Columns that begin with an array atom have at least one byte for every row. -/
theorem capacity_le_sum_bytes {column : Column capacity} (numbers : IntegerAtom column.atom)
    (array : column.atom.definition.isScalar = false) (columns : List (Column capacity)) :
    capacity ≤ ((column :: columns).map bytes).sum := by
  have own : capacity ≤ column.bytes := by
    rw [bytes, column.length_eq, array, if_neg Bool.false_ne_true]
    exact Nat.le_mul_of_pos_right _ numbers.width_pos
  rw [List.map_cons, List.sum_cons]
  exact Nat.le_add_right_of_le own

/-- A cell has the width of its atom. -/
theorem cell_length {column : Column capacity} (numbers : IntegerAtom column.atom) {row : Nat}
    (inside : row < column.values.length) : (column.cell row).length = width column.atom := by
  obtain ⟨width, integer⟩ := numbers.integer
  rw [cell, List.getElem?_eq_getElem inside, Option.elim_some, DataFrame.width, integer]
  exact (AtomType.streamImage_integer integer _).2

omit [QtText] in
/-- The columns of a run have as many bytes as its rows. -/
theorem sum_bytes {run : List (Column capacity)}
    (arrays : ∀ column ∈ run, column.atom.definition.isScalar = false) :
    (run.map bytes).sum = capacity * ((run.map Column.atom).map width).sum := by
  have columns : run.map bytes = run.map fun column => capacity * width column.atom := by
    refine List.map_congr_left fun column inside => ?_
    rw [bytes, column.length_eq, arrays column inside, if_neg Bool.false_ne_true]
  rw [columns, List.map_map]
  exact List.sum_map_mul_left run (fun column => width column.atom) capacity

/-- A run is stored in as many bytes as its columns have. -/
theorem rows_length {run : List (Column capacity)}
    (numbers : ∀ column ∈ run, IntegerAtom column.atom)
    (arrays : ∀ column ∈ run, column.atom.definition.isScalar = false) :
    ((List.range capacity).flatMap (row run)).length = (run.map bytes).sum := by
  -- Every row is as wide as its atoms together.
  have each : ∀ place ∈ List.range capacity,
      (row run place).length = ((run.map Column.atom).map width).sum := by
    intro place member
    rw [row, List.length_flatMap, List.map_map]
    refine congrArg List.sum (List.map_congr_left fun column inside => ?_)
    have length := column.length_eq
    rw [arrays column inside, if_neg Bool.false_ne_true] at length
    exact cell_length (numbers column inside) (by rw [length]; exact List.mem_range.mp member)
  rw [List.length_flatMap, List.map_congr_left each, List.map_const', List.length_range,
    List.sum_replicate_nat, sum_bytes arrays]

/-- The columns are stored in as many bytes as they have. -/
theorem rowWiseImage_length {columns : List (Column capacity)}
    (numbers : ∀ column ∈ columns, IntegerAtom column.atom) :
    (rowWiseImage columns).length = (columns.map bytes).sum := by
  -- What follows a scalar atom, or a whole run of array atoms, is shorter.
  induction length : columns.length using Nat.strong_induction_on generalizing columns with
  | _ count ih =>
    cases columns with
    | nil => rfl
    | cons column columns =>
      cases scalar : column.atom.definition.isScalar with
      | true =>
        obtain ⟨own, others⟩ := List.forall_mem_cons.mp numbers
        have one := column.length_eq
        rw [scalar, if_pos rfl] at one
        rw [rowWiseImage_scalar scalar, List.length_append, List.map_cons, List.sum_cons, bytes, one,
          Nat.one_mul, cell_length own (by omega),
          ih columns.length (by rw [← length, List.length_cons]; omega) others rfl]
      | false =>
        obtain ⟨run, later, rfl, arrays, ends⟩ := exists_run scalar columns
        rw [← List.cons_append] at numbers length ⊢
        obtain ⟨first, others⟩ := List.forall_mem_append.mp numbers
        have shorter : later.length < count := by
          rw [← length, List.length_append, List.length_cons]
          omega
        rw [rowWiseImage_run arrays ends, List.length_append, rows_length first arrays,
          ih later.length shorter others rfl, List.map_append, List.sum_append]

end Column

variable {capacity : Nat}

/-- The rows of a run, from row `c` on, are read into its columns. -/
theorem readRows_columns {columns : List (Column capacity)}
    (numbers : ∀ column ∈ columns, IntegerAtom column.atom)
    (arrays : ∀ column ∈ columns, column.atom.definition.isScalar = false)
    (small : capacity < 2147483648) :
    ∀ (rows : Nat) (c : UInt32) (passed : Nat) (front rest : List UInt8),
      c.toNat + rows = capacity → 0 < rows ∨ passed = columns.length →
      (front ++ ((List.range' c.toNat rows).flatMap (Column.row columns) ++ rest)).length <
        2147483648 →
      readRows rows c ⟨true, passed, columns.map fun column => some (column.after c.toNat),
          .between front ((List.range' c.toNat rows).flatMap (Column.row columns) ++ rest)⟩ =
        some ⟨true, columns.length, columns.map fun column => some (column.after capacity),
          .between (front ++ (List.range' c.toNat rows).flatMap (Column.row columns)) rest⟩ := by
  intro rows
  -- The rows that are left become fewer while `c` counts up.
  induction rows with
  | zero =>
    intro c passed front rest last finished fits
    obtain rfl : passed = columns.length := by omega
    rw [readRows, List.range'_zero, List.flatMap_nil, List.nil_append, List.append_nil,
      show c.toNat = capacity from last]
  | succ rows ih =>
    intro c passed front rest last finished fits
    have next : (c + 1).toNat = c.toNat + 1 := MachineInt.toNat_add_one (by omega)
    rw [List.range'_succ, List.flatMap_cons, List.append_assoc] at fits ⊢
    have reads : ∀ column ∈ columns, (column.after c.toNat).ReadsItem c (column.cell c.toNat)
        (column.after (c.toNat + 1)) :=
      fun column member => column.readsItem (numbers column member) (arrays column member)
        (by omega) (by omega)
    have row := @readRow_items _ _ c _ _ _ columns reads [] (fun _ => nofun) front _ fits
    rw [List.append_nil, List.append_nil] at row
    rw [readRows, Column.row, row, Option.bind_some, if_pos rfl]
    -- The next row is read behind this one.
    have later := ih (c + 1) columns.length (front ++ Column.row columns c.toNat) rest (by omega)
      (.inr rfl) (by rwa [next, List.append_assoc])
    rw [next, List.append_assoc] at later
    exact later

omit [QtText] in
/-- Where no array atom is directly followed by a scalar one, all atoms behind an array atom are. -/
theorem Column.arrays_of_isChain {column : Column capacity} {columns : List (Column capacity)}
    (chain : (column :: columns).IsChain fun left right =>
      left.atom.definition.isScalar = true ∨ right.atom.definition.isScalar = false)
    (array : column.atom.definition.isScalar = false) :
    ∀ other ∈ column :: columns, other.atom.definition.isScalar = false := by
  -- Behind an array atom there is no scalar one, and so on.
  refine List.IsChain.induction (fun other => other.atom.definition.isScalar = false) _ chain ?_
    fun _ => array
  intro left right next here
  exact next.resolve_left (by simp [here])

/-- Where all scalar atoms come first, the values of all atoms are read. -/
theorem readRuns_columns {capacity : UInt32} (positive : 0 < capacity.toNat)
    {columns : List (Column capacity.toNat)}
    (numbers : ∀ column ∈ columns, IntegerAtom column.atom)
    (chain : columns.IsChain fun left right =>
      left.atom.definition.isScalar = true ∨ right.atom.definition.isScalar = false)
    {left : Nat} (enough : columns.length ≤ left) (front rest : List UInt8)
    (fits : (front ++ (Column.rowWiseImage columns ++ rest)).length < 2147483648) :
    readRuns capacity left true (columns.map fun column => some column.atom)
        (.between front (Column.rowWiseImage columns ++ rest)) =
      some (true, columns.map fun column => some column.filled,
        .between (front ++ Column.rowWiseImage columns) rest) := by
  -- Scalar atoms are read one by one until the first array atom.
  induction columns generalizing left front with
  | nil =>
    rw [List.map_nil, readRuns]
    simp [Column.rowWiseImage]
  | cons column columns ih =>
    obtain ⟨left, rfl⟩ : ∃ less, left = less + 1 := by
      cases left with
      | zero => cases enough
      | succ left => exact ⟨left, rfl⟩
    obtain ⟨own, others⟩ := List.forall_mem_cons.mp numbers
    cases scalar : column.atom.definition.isScalar with
    | true =>
      rw [Column.rowWiseImage_scalar scalar, List.append_assoc] at fits ⊢
      have first := Column.read_scalar own scalar front _ fits
      have later := ih others chain.tail (Nat.le_of_succ_le_succ enough)
        (front ++ column.cell 0) (by rwa [List.append_assoc])
      rw [List.map_cons, readRuns, scalar]
      simp only [if_true, first, later, Option.map_some, List.append_assoc, List.map_cons]
    | false =>
      -- All atoms from here on are read as one run.
      have arrays := Column.arrays_of_isChain chain scalar
      have length := Column.rowWiseImage_length numbers
      have image := @Column.rowWiseImage_run _ _ _ [] arrays fun _ => nofun
      rw [List.append_nil, show Column.rowWiseImage ([] : List (Column capacity.toNat)) = [] from rfl,
        List.append_nil, List.range_eq_range'] at image
      -- Every row has at least one byte, so there are fewer rows than an int can count.
      have wide := Column.capacity_le_sum_bytes own scalar columns
      have small : capacity.toNat < 2147483648 := by
        simp only [List.length_append] at fits
        omega
      have rows := readRows_columns numbers arrays small capacity.toNat 0 0 front rest
        (Nat.zero_add _) (.inl positive)
      rw [UInt32.toNat_zero, ← image] at rows
      have rows := rows fits
      -- All values of an array atom are those of its rows.
      have filled : ((column :: columns).map fun column => some (column.after capacity.toNat)) =
          (column :: columns).map fun column => some column.filled := by
        refine List.map_congr_left fun other member => ?_
        rw [Column.filled, other.length_eq, arrays other member, if_neg Bool.false_ne_true]
      rw [filled] at rows
      have start : some column.atom :: columns.map (fun column => some column.atom) =
          (column :: columns).map fun column => some (column.after 0) := rfl
      -- No atom is left behind the run.
      have inside : ((column :: columns).map fun column => some column.filled).length ≤
          (column :: columns).length + 1 := by
        rw [List.length_map]
        exact Nat.le_succ _
      have all := List.take_of_length_le inside
      have none := List.drop_eq_nil_of_le inside
      rw [List.map_cons, readRuns, scalar, if_neg Bool.false_ne_true, start, rows, Option.bind_some,
        if_pos rfl, none, readRuns, Option.map_some, List.append_nil, all]

/-- A value of an array atom is read from any bytes that are as many as it takes. -/
theorem exists_readsItem {atom : AbstractDataAtom} (numbers : IntegerAtom atom)
    (array : atom.definition.isScalar = false) {c : UInt32} (small : c.toNat < 2147483647)
    {chunk : List UInt8} (exactly : chunk.length = width atom) :
    ∃ new, atom.ReadsItem c chunk new ∧ IntegerAtom new ∧ new.definition.isScalar = false ∧
      width new = width atom := by
  obtain ⟨⟨bytes, integer⟩, occupied, _⟩ := numbers
  obtain ⟨old, read⟩ := BaseDataAtom.readItem_eq array occupied small
  rw [width, integer] at exactly
  obtain ⟨value, item⟩ := AtomType.takes_integer integer old chunk exactly
  -- The vector is filled up to the index, and takes over the value that the bytes make.
  let values := (atom.base.valuesVector ++
    List.replicate (c.toNat + 1 - atom.base.valuesVector.length) StreamValue.empty).set c.toNat value
  refine ⟨⟨atom.type, { atom.base with valuesVector := values }⟩, ⟨array, fun front rest fits => ?_⟩,
    ⟨⟨bytes, integer⟩, ?_, ?_⟩, array, rfl⟩
  · rw [AbstractDataAtom.readItem, read, item front rest fits, Option.map_some]
  · rw [← List.length_pos_iff] at occupied ⊢
    simp only [values, List.length_set, List.length_append]
    omega
  · exact fun scalar => absurd (array.symm.trans scalar) Bool.false_ne_true

omit [QtText] in
/-- As many bytes as are wanted come first. -/
theorem exists_front {bytes : List UInt8} {count : Nat} (enough : count ≤ bytes.length) :
    ∃ front back, bytes = front ++ back ∧ front.length = count :=
  ⟨bytes.take count, bytes.drop count, (List.take_append_drop ..).symm,
    List.length_take_of_le enough⟩

/-- A row is read from any bytes that are as many as its values take. -/
theorem exists_items {c : UInt32} (small : c.toNat < 2147483647) {run : List AbstractDataAtom}
    (numbers : ∀ atom ∈ run, IntegerAtom atom)
    (arrays : ∀ atom ∈ run, atom.definition.isScalar = false) {bytes : List UInt8}
    (exactly : bytes.length = (run.map width).sum) :
    ∃ items : List (AbstractDataAtom × List UInt8 × AbstractDataAtom), items.map (·.1) = run ∧
      items.flatMap (·.2.1) = bytes ∧ (∀ item ∈ items, item.1.ReadsItem c item.2.1 item.2.2) ∧
      ∀ item ∈ items, IntegerAtom item.2.2 ∧ item.2.2.definition.isScalar = false ∧
        width item.2.2 = width item.1 := by
  induction run generalizing bytes with
  | nil => exact ⟨[], rfl, (List.length_eq_zero_iff.mp exactly).symm, by simp, by simp⟩
  | cons atom run ih =>
    obtain ⟨own, others⟩ := List.forall_mem_cons.mp numbers
    obtain ⟨array, more⟩ := List.forall_mem_cons.mp arrays
    rw [List.map_cons, List.sum_cons] at exactly
    -- The first atom takes its bytes, and the others take what is left.
    obtain ⟨chunk, behind, rfl, length⟩ := @exists_front bytes (width atom) (by omega)
    rw [List.length_append] at exactly
    obtain ⟨new, reads, alike⟩ := exists_readsItem own array small length
    obtain ⟨items, rfl, rfl, each, news⟩ := @ih others more behind (by omega)
    refine ⟨(atom, chunk, new) :: items, List.map_cons .., List.flatMap_cons .., ?_, ?_⟩
    · exact List.forall_mem_cons.mpr ⟨reads, each⟩
    · exact List.forall_mem_cons.mpr ⟨alike, news⟩

/-- The rows of a run, from row `c` on, are read from any bytes that are as many as they take. -/
theorem exists_readRows {later : List (Option AbstractDataAtom)} (ends : RowEnds later)
    (rows : Nat) :
    ∀ (c : UInt32) (passed : Nat) (run : List AbstractDataAtom) (front chunk rest : List UInt8),
      (∀ atom ∈ run, IntegerAtom atom) → (∀ atom ∈ run, atom.definition.isScalar = false) →
      c.toNat + rows < 2147483648 → 0 < rows ∨ passed = run.length →
      chunk.length = rows * (run.map width).sum →
      (front ++ (chunk ++ rest)).length < 2147483648 →
      ∃ news : List AbstractDataAtom, news.length = run.length ∧
        readRows rows c ⟨true, passed, run.map some ++ later, .between front (chunk ++ rest)⟩ =
          some ⟨true, run.length, news.map some ++ later, .between (front ++ chunk) rest⟩ := by
  induction rows with
  | zero =>
    intro c passed run front chunk rest numbers arrays small finished exactly fits
    obtain rfl : chunk = [] := by
      rw [Nat.zero_mul] at exactly
      exact List.length_eq_zero_iff.mp exactly
    obtain rfl : passed = run.length := by omega
    exact ⟨run, rfl, by rw [readRows, List.nil_append, List.append_nil]⟩
  | succ rows ih =>
    intro c passed run front chunk rest numbers arrays small finished exactly fits
    have next : (c + 1).toNat = c.toNat + 1 := MachineInt.toNat_add_one (by omega)
    -- The bytes of this row come first.
    rw [Nat.succ_mul] at exactly
    obtain ⟨first, others, rfl, wide⟩ := @exists_front chunk (run.map width).sum (by omega)
    rw [List.length_append, wide] at exactly
    obtain ⟨items, rfl, rfl, reads, alike⟩ := @exists_items _ c (by omega) _ numbers arrays _ wide
    rw [List.append_assoc] at fits ⊢
    have row := readRow_items reads ends front _ fits
    -- The atoms that have taken over this row are as wide as before.
    have same : (items.map (·.2.2)).map width = (items.map (·.1)).map width := by
      rw [List.map_map, List.map_map]
      exact List.map_congr_left fun item member => (alike item member).2.2
    obtain ⟨news, length, later⟩ := ih (c + 1) items.length (items.map (·.2.2))
      (front ++ items.flatMap (·.2.1)) others rest
      (List.forall_mem_map.mpr fun item member => (alike item member).1)
      (List.forall_mem_map.mpr fun item member => (alike item member).2.1) (by omega)
      (.inr (List.length_map _).symm) (by rw [same]; omega) (by rwa [List.append_assoc])
    refine ⟨news, by rw [length, List.length_map, List.length_map], ?_⟩
    rw [List.map_map, List.length_map, List.append_assoc] at later
    rw [List.map_map, List.length_map, readRows]
    simp only [Function.comp_def] at later ⊢
    rw [row, Option.bind_some, if_pos rfl, later]

/-- The value of a scalar atom is read from any bytes that are as many as it takes. -/
theorem exists_read_scalar {atom : AbstractDataAtom} (numbers : IntegerAtom atom)
    (scalar : atom.definition.isScalar = true) {chunk : List UInt8}
    (exactly : chunk.length = width atom) :
    ∃ new, ∀ front rest, (front ++ (chunk ++ rest)).length < 2147483648 →
      atom.read (.between front (chunk ++ rest)) = (true, new, .between (front ++ chunk) rest) := by
  obtain ⟨⟨bytes, integer⟩, _, single⟩ := numbers
  rw [width, integer] at exactly
  obtain ⟨value, read⟩ := AtomType.takes_integer integer StreamValue.empty chunk exactly
  refine ⟨⟨atom.type, { atom.base with valuesVector := [value] }⟩, fun front rest fits => ?_⟩
  rw [AbstractDataAtom.read, BaseDataAtom.read, BaseDataAtom.clear, single scalar]
  simp only [List.replicate_one, BaseDataAtom.readValues, read front rest fits, if_true]

/-- Behind a run, the index passes over one more atom before the next one is read. -/
theorem exists_readRuns_run {capacity : UInt32} (positive : 0 < capacity.toNat)
    (small : capacity.toNat < 2147483648) {column : Column capacity.toNat}
    {run later : List (Column capacity.toNat)}
    (numbers : ∀ other ∈ column :: run, IntegerAtom other.atom)
    (arrays : ∀ other ∈ column :: run, other.atom.definition.isScalar = false)
    (ends : ∀ other ∈ later.head?, other.atom.definition.isScalar = true)
    {front chunk rest : List UInt8}
    (exactly : chunk.length = ((column :: run).map Column.bytes).sum)
    (fits : (front ++ (chunk ++ rest)).length < 2147483648) (left : Nat) (result : Bool) :
    ∃ atoms, readRuns capacity (left + 1) result
        ((column :: run ++ later).map fun other => some other.atom)
        (.between front (chunk ++ rest)) =
      (readRuns capacity left true ((later.drop 1).map fun other => some other.atom)
        (.between (front ++ chunk) rest)).map fun remaining =>
          (remaining.1, atoms ++ remaining.2.1, remaining.2.2) := by
  have stops : RowEnds (later.map fun other => some other.atom) := by
    intro next member
    rw [List.head?_map, Option.mem_map] at member
    obtain ⟨other, here, rfl⟩ := member
    exact ⟨other.atom, rfl, ends other here⟩
  -- The bytes of the run are those of its rows.
  rw [Column.sum_bytes arrays] at exactly
  obtain ⟨news, length, rows⟩ := exists_readRows stops capacity.toNat 0 0
    ((column :: run).map Column.atom) front chunk rest (List.forall_mem_map.mpr numbers)
    (List.forall_mem_map.mpr arrays) (by rwa [UInt32.toNat_zero, Nat.zero_add]) (.inl positive)
    exactly fits
  have array := arrays column List.mem_cons_self
  have start : some column.atom :: (run ++ later).map (fun other => some other.atom) =
      ((column :: run).map Column.atom).map some ++ later.map fun other => some other.atom := by
    rw [List.map_append, List.map_map]
    rfl
  -- The atoms behind the run are as they were, and the first of them is dropped.
  have behind : (news.map some ++ later.map fun other => some other.atom).drop
      (((column :: run).map Column.atom).length + 1) =
        (later.drop 1).map fun other => some other.atom := by
    rw [← length, ← List.length_map some, List.drop_length_add_append, List.map_drop]
  refine ⟨(news.map some ++ later.map fun other => some other.atom).take
    (((column :: run).map Column.atom).length + 1), ?_⟩
  rw [List.cons_append, List.map_cons, readRuns, array, if_neg Bool.false_ne_true, start, rows,
    Option.bind_some, if_pos rfl, behind]

/-- A scalar atom is read from as many bytes as it takes, and what follows behind them. -/
theorem exists_readRuns_scalar {capacity : UInt32} {column : Column capacity.toNat}
    (own : IntegerAtom column.atom) (scalar : column.atom.definition.isScalar = true)
    {front chunk rest : List UInt8} (exactly : chunk.length = width column.atom)
    (fits : (front ++ (chunk ++ rest)).length < 2147483648) (left : Nat) (result : Bool)
    (later : List (Column capacity.toNat)) :
    ∃ atoms, readRuns capacity (left + 1) result
        ((column :: later).map fun other => some other.atom) (.between front (chunk ++ rest)) =
      (readRuns capacity left true (later.map fun other => some other.atom)
        (.between (front ++ chunk) rest)).map fun remaining =>
          (remaining.1, atoms ++ remaining.2.1, remaining.2.2) := by
  obtain ⟨new, read⟩ := exists_read_scalar own scalar exactly
  refine ⟨[some new], ?_⟩
  rw [List.map_cons, readRuns, scalar]
  simp only [if_true, read front rest fits, List.singleton_append]

namespace Column

variable {capacity : Nat}

omit [QtText] in
/-- A scalar atom has the bytes of its only value. -/
theorem bytes_scalar {column : Column capacity}
    (scalar : column.atom.definition.isScalar = true) : column.bytes = width column.atom := by
  rw [bytes, column.length_eq, scalar, if_pos rfl, Nat.one_mul]

omit [QtText] in
/-- The first column has the bytes that are missing without it. -/
theorem sum_bytes_drop_one (columns : List (Column capacity)) :
    ((columns.drop 1).map bytes).sum + columns.head?.elim 0 bytes = (columns.map bytes).sum := by
  cases columns with
  | nil => rfl
  | cons column columns => exact Nat.add_comm ..

omit [QtText] in
/-- Where an array atom is followed by a scalar one, something stands behind the first run. -/
theorem head_bytes_pos {run later : List (Column capacity)}
    (arrays : ∀ column ∈ run, column.atom.definition.isScalar = false)
    (ends : ∀ column ∈ later.head?, column.atom.definition.isScalar = true)
    (numbers : ∀ column ∈ later, IntegerAtom column.atom)
    (broken : ¬ (run ++ later).IsChain fun left right =>
      left.atom.definition.isScalar = true ∨ right.atom.definition.isScalar = false) :
    0 < later.head?.elim 0 bytes := by
  cases later with
  | nil =>
    -- The run is all there is, and it has no scalar atom.
    refine absurd (List.Pairwise.isChain (List.pairwise_of_forall_mem_list ?_)) broken
    intro left _ right member
    rw [List.append_nil] at member
    exact .inr (arrays right member)
  | cons next later =>
    rw [List.head?_cons, Option.elim_some, bytes_scalar (ends next rfl)]
    exact (numbers next List.mem_cons_self).width_pos

end Column

/--
Where an array atom is directly followed by a scalar one, fewer bytes are read than are stored.

Behind every run the index passes over one more atom, which is not read.
-/
theorem exists_readRuns {capacity : UInt32} (positive : 0 < capacity.toNat) (left : Nat) :
    ∀ (columns : List (Column capacity.toNat)) (result : Bool) (front bytes : List UInt8),
      (∀ column ∈ columns, IntegerAtom column.atom) → columns.length ≤ left →
      (columns.map Column.bytes).sum ≤ bytes.length → (front ++ bytes).length < 2147483648 →
      ∃ done atoms chunk rest, bytes = chunk ++ rest ∧
        readRuns capacity left result (columns.map fun column => some column.atom)
          (.between front bytes) = some (done, atoms, .between (front ++ chunk) rest) ∧
        chunk.length ≤ (columns.map Column.bytes).sum ∧
        ((¬ columns.IsChain fun left right =>
            left.atom.definition.isScalar = true ∨ right.atom.definition.isScalar = false) →
          chunk.length < (columns.map Column.bytes).sum) := by
  -- Without atoms, no bytes are read.
  have nothing (left : Nat) (result : Bool) (front bytes : List UInt8) :
      readRuns capacity left result [] (.between front bytes) =
        some (result, [], .between (front ++ []) bytes) := by
    rw [readRuns, List.append_nil]
  induction left with
  | zero =>
    intro columns result front bytes numbers enough stored fits
    obtain rfl : columns = [] := List.length_eq_zero_iff.mp (Nat.le_zero.mp enough)
    exact ⟨_, _, [], bytes, rfl, nothing _ _ _ _, Nat.le_refl 0, fun broken => (broken .nil).elim⟩
  | succ left ih =>
    intro columns result front bytes numbers enough stored fits
    cases columns with
    | nil =>
      exact ⟨_, _, [], bytes, rfl, nothing _ _ _ _, Nat.le_refl 0, fun broken => (broken .nil).elim⟩
    | cons column columns =>
      cases scalar : column.atom.definition.isScalar with
      | true =>
        obtain ⟨own, others⟩ := List.forall_mem_cons.mp numbers
        have total : ((column :: columns).map Column.bytes).sum =
            width column.atom + (columns.map Column.bytes).sum := by
          rw [List.map_cons, List.sum_cons, Column.bytes_scalar scalar]
        rw [total] at stored ⊢
        -- The scalar atom takes its bytes, and what follows takes no more than its own.
        obtain ⟨first, behind, rfl, wide⟩ := @exists_front bytes (width column.atom) (by omega)
        obtain ⟨own', step⟩ := exists_readRuns_scalar own scalar wide fits left result columns
        rw [List.length_append] at stored
        obtain ⟨done, atoms, chunk, rest, rfl, later, most, less⟩ := ih columns true
          (front ++ first) behind others (Nat.le_of_succ_le_succ enough) (by omega)
          (by rwa [List.append_assoc])
        refine ⟨done, own' ++ atoms, first ++ chunk, rest, (List.append_assoc ..).symm, ?_, ?_, ?_⟩
        · rw [step, later, Option.map_some, List.append_assoc]
        · rw [List.length_append]
          omega
        · intro broken
          have fewer := less fun chain =>
            broken (List.isChain_cons.mpr ⟨fun _ _ => .inl scalar, chain⟩)
          rw [List.length_append]
          omega
      | false =>
        obtain ⟨run, later, rfl, arrays, ends⟩ := Column.exists_run scalar columns
        rw [← List.cons_append] at numbers enough stored ⊢
        obtain ⟨own, others⟩ := List.forall_mem_append.mp numbers
        have total : ((column :: run ++ later).map Column.bytes).sum =
            ((column :: run).map Column.bytes).sum + (later.map Column.bytes).sum := by
          rw [List.map_append, List.sum_append]
        rw [total] at stored ⊢
        -- The run takes its bytes, and its rows are fewer than those.
        obtain ⟨first, behind, rfl, wide⟩ :=
          @exists_front bytes ((column :: run).map Column.bytes).sum (by omega)
        have rows := Column.capacity_le_sum_bytes (own column List.mem_cons_self) scalar run
        rw [← wide] at rows
        have small : capacity.toNat < 2147483648 := by
          simp only [List.length_append] at fits
          omega
        obtain ⟨passed, step⟩ :=
          exists_readRuns_run positive small own arrays ends wide fits left result
        rw [List.length_append] at stored
        have fewer : (later.drop 1).length ≤ left := by
          simp only [List.length_append, List.length_cons, List.length_drop] at enough ⊢
          omega
        -- What the passed atom would have taken is missing from what is read behind it.
        have kept := Column.sum_bytes_drop_one later
        obtain ⟨done, atoms, chunk, rest, rfl, remaining, most, _⟩ := ih (later.drop 1) true
          (front ++ first) behind (fun other member => others other (List.mem_of_mem_drop member))
          fewer (by omega) (by rwa [List.append_assoc])
        refine ⟨done, passed ++ atoms, first ++ chunk, rest, (List.append_assoc ..).symm, ?_, ?_, ?_⟩
        · rw [step, remaining, Option.map_some, List.append_assoc]
        · rw [List.length_append]
          omega
        · intro broken
          have passedOver := Column.head_bytes_pos arrays ends others broken
          rw [List.length_append]
          omega

omit [QtText] in
/-- The atoms of a frame that is built for a definition with integers are atoms of integers. -/
theorem BuiltFor.integerAtom {factory : DataFramesFactory} {definition : DataFrameDefinition}
    {atoms : List AbstractDataAtom} {frame : DataFrame}
    (built : frame.BuiltFor factory definition atoms)
    (integers : ∀ atom ∈ definition.atoms, ∃ type width,
      factory.registry.lookup atom.atomType = some type ∧ type.integerWidth? = some width) :
    ∀ atom ∈ atoms, IntegerAtom atom := by
  intro atom member
  obtain ⟨described, inside, own⟩ := ItemByItem.exists_of_mem_right built.built member
  obtain ⟨type, width, registered, integer⟩ := integers described inside
  obtain rfl : type = atom.type := Option.some.inj (registered.symm.trans own.type)
  -- It was built with a value, or with as many as the capacity says.
  refine ⟨⟨width, integer⟩, ?_, ?_⟩
  · have positive : 0 < frame.capacity.toNat := by
      refine Nat.pos_of_ne_zero fun zero => built.capacity (UInt32.toNat_inj.mp zero)
    rw [← List.length_pos_iff, own.length]
    split <;> omega
  · intro scalar
    rw [own.described] at scalar
    rw [own.length, if_pos (.inl scalar)]

/--
A frame of integers takes over the values that a stream holds for it, with its runs of array atoms
stored row by row, exactly if no array atom of its definition is directly followed by a scalar one.
-/
theorem readWithCapacity_iff {factory : DataFramesFactory} {definition : DataFrameDefinition}
    {frame : DataFrame} (assembled : frame.Assembled factory definition)
    (integers : ∀ atom ∈ definition.atoms, ∃ type width,
      factory.registry.lookup atom.atomType = some type ∧ type.integerWidth? = some width)
    {capacity : UInt32} (positive : 1 ≤ capacity) {columns : List (Column capacity.toNat)}
    (own : frame.atoms = columns.map fun column => some column.atom) (front rest : List UInt8)
    (fits : (front ++ (Column.rowWiseImage columns ++ rest)).length < 2147483648) :
    frame.readWithCapacity (.between front (Column.rowWiseImage columns ++ rest)) capacity =
        some (true, { frame with atoms := columns.map fun column => some column.filled },
          .between (front ++ Column.rowWiseImage columns) rest) ↔
      definition.atoms.IsChain fun left right => left.isScalar = true ∨ right.isScalar = false := by
  obtain ⟨atoms, built⟩ := assembled.builtFor fun atom member =>
    have ⟨type, _, registered, _⟩ := integers atom member
    ⟨type, registered⟩
  obtain rfl : atoms = columns.map Column.atom := by
    refine List.map_injective_iff.mpr (Option.some_injective _) ?_
    rw [← built.wired, own, List.map_map]
    rfl
  have numbers : ∀ column ∈ columns, IntegerAtom column.atom :=
    List.forall_mem_map.mp (built.integerAtom integers)
  -- The atoms keep the definitions that they were built for, in their order.
  have described : definition.atoms = columns.map fun column => column.atom.definition := by
    have each := List.forall₂_map_right_iff.mp built.built
    have same : List.Forall₂ Eq definition.atoms (columns.map fun column => column.atom.definition) :=
      List.forall₂_map_right_iff.mpr (each.imp fun _ _ own => own.described.symm)
    rwa [List.forall₂_eq_eq_eq] at same
  have positive : 0 < capacity.toNat := UInt32.le_iff_toNat_le.mp positive
  rw [described, List.isChain_map, readWithCapacity, own, List.length_map]
  constructor
  · intro read
    by_contra broken
    obtain ⟨done, atoms, chunk, behind, split, result, _, less⟩ := exists_readRuns positive
      columns.length columns true front (Column.rowWiseImage columns ++ rest) numbers
      (Nat.le_refl _) (by
        rw [List.length_append, Column.rowWiseImage_length numbers]
        exact Nat.le_add_right ..) fits
    rw [result, Option.map_some] at read
    -- The cursor is not yet behind the stored bytes.
    have place := congrArg (fun result => result.2.2.position) (Option.some.inj read)
    have length := Column.rowWiseImage_length numbers
    have short := less broken
    simp only [DataStream.between_position, List.length_append] at place
    omega
  · intro chain
    rw [readRuns_columns positive numbers chain (Nat.le_refl _) front rest fits, Option.map_some]

omit [QtText]

/-- A number in front of two rows of samples. -/
def samplesDefinition : DataFrameDefinition :=
  ⟨.ofAscii "Samples", true, 1, false, 0, [⟨.ofAscii "Rate", .ofAscii "uint16", true⟩,
    ⟨.ofAscii "Left", .ofAscii "uint8", false⟩, ⟨.ofAscii "Right", .ofAscii "uint8", false⟩]⟩

/-- Three rows of two samples are read behind the number. -/
theorem readWithCapacity_iff_samples :
    let _ : QtText := .ascii
    let frame := (DataFramesFactory.init ⟨[]⟩).buildFrame samplesDefinition
    ∃ atoms, frame.readWithCapacity (.ofData [5, 0, 1, 10, 2, 20, 3, 30]) 3 =
        some (true, { frame with atoms }, .atEnd [5, 0, 1, 10, 2, 20, 3, 30]) ∧
      atomsImage atoms = [5, 0, 1, 2, 3, 10, 20, 30] := by
  let _ : QtText := .ascii
  let rate : Column 3 := ⟨.clone .uint16 ⟨.ofAscii "Rate", .ofAscii "uint16", true⟩,
    [(5 : UInt16)], rfl⟩
  let left : Column 3 := ⟨.clone .uint8 ⟨.ofAscii "Left", .ofAscii "uint8", false⟩,
    [(1 : UInt8), (2 : UInt8), (3 : UInt8)], rfl⟩
  let right : Column 3 := ⟨.clone .uint8 ⟨.ofAscii "Right", .ofAscii "uint8", false⟩,
    [(10 : UInt8), (20 : UInt8), (30 : UInt8)], rfl⟩
  have integers : ∀ atom ∈ samplesDefinition.atoms, ∃ type width,
      DataFramesFactory.initializeAtomsStorage.lookup atom.atomType = some type ∧
        type.integerWidth? = some width := by
    simp only [samplesDefinition, List.forall_mem_cons]
    exact ⟨⟨.uint16, 2, by decide, rfl⟩, ⟨.uint8, 1, by decide, rfl⟩, ⟨.uint8, 1, by decide, rfl⟩,
      fun _ => nofun⟩
  have read := (@readWithCapacity_iff _ (.init ⟨[]⟩) _ _ .buildFrame integers 3 (by decide)
    [rate, left, right] rfl [] [] (by decide)).mpr (by decide)
  -- The two rows of samples are stored one after another behind the number.
  have stored : Column.rowWiseImage [rate, left, right] = [5, 0, 1, 10, 2, 20, 3, 30] := by
    decide
  rw [stored] at read
  exact ⟨_, read, by decide⟩

/-- A sample in front of a number. -/
def trailerDefinition : DataFrameDefinition :=
  ⟨.ofAscii "Trailer", true, 1, false, 0, [⟨.ofAscii "Sample", .ofAscii "uint8", false⟩,
    ⟨.ofAscii "Sum", .ofAscii "uint8", true⟩]⟩

/-- The number behind the samples is not read. -/
theorem readWithCapacity_trailer :
    let _ : QtText := .ascii
    let frame := (DataFramesFactory.init ⟨[]⟩).buildFrame trailerDefinition
    (frame.readWithCapacity (.ofData [7, 9]) 1).map
      (fun result => (result.1, atomsImage result.2.1.atoms, result.2.2.position)) =
        some (true, [7, 0], 1) := by
  decide

end DataFrame

end Threader
