import Mathlib.Data.List.Range
import Mathlib.Logic.Function.Iterate

/-! Shift registers with linear feedback, and what a run of bits does to one of them. -/

namespace ShiftRegister

variable {width : Nat}

/-- A way to move a register by one place, and the bit that leaves it there. -/
structure Direction (width : Nat) where
  move : BitVec width → BitVec width
  leaving : BitVec width → Bool
  move_xor : ∀ left right, move (left ^^^ right) = move left ^^^ move right
  leaving_xor : ∀ left right, leaving (left ^^^ right) = (leaving left ^^ leaving right)

/-- The register moves up, and its most significant bit leaves it. -/
def up : Direction width where
  move register := register <<< 1
  leaving register := register.msb
  move_xor left right := BitVec.shiftLeft_xor_distrib left right 1
  leaving_xor _ _ := BitVec.msb_xor

/-- The register moves down, and its least significant bit leaves it. -/
def down : Direction width where
  move register := register >>> 1
  leaving register := register.getLsbD 0
  move_xor left right := BitVec.ushiftRight_xor_distrib left right 1
  leaving_xor _ _ := BitVec.getLsbD_xor

variable (direction : Direction width) (polynomial : BitVec width)

/-- One bit enters: the polynomial is added when it differs from the bit that leaves. -/
def shift (register : BitVec width) (bit : Bool) : BitVec width :=
  if direction.leaving register ^^ bit then direction.move register ^^^ polynomial
  else direction.move register

/-- The register after some bits have entered one by one. -/
def feed (register : BitVec width) (bits : List Bool) : BitVec width :=
  bits.foldl (shift direction polynomial) register

/-- What is added to a register that has moved by one place. -/
def feedback (differs : Bool) : BitVec width := if differs then polynomial else BitVec.ofNat width 0

/-- A shift is a move and an addition. -/
theorem shift_eq (register : BitVec width) (bit : Bool) :
    shift direction polynomial register bit =
      direction.move register ^^^ feedback polynomial (direction.leaving register ^^ bit) := by
  unfold shift feedback
  split
  · rfl
  · exact BitVec.xor_zero.symm

/-- Moving an empty register leaves it empty. -/
theorem move_zero : direction.move (BitVec.ofNat width 0) = BitVec.ofNat width 0 := by
  -- The empty register is its own sum with itself.
  have doubled := direction.move_xor (BitVec.ofNat width 0) (BitVec.ofNat width 0)
  rwa [BitVec.xor_zero, BitVec.xor_self] at doubled

/-- No bit leaves an empty register. -/
theorem leaving_zero : direction.leaving (BitVec.ofNat width 0) = false := by
  have doubled := direction.leaving_xor (BitVec.ofNat width 0) (BitVec.ofNat width 0)
  rwa [BitVec.xor_zero, Bool.xor_self] at doubled

/-- Moving by several places is linear, too. -/
theorem iterate_move_xor (count : Nat) (left right : BitVec width) :
    direction.move^[count] (left ^^^ right) =
      direction.move^[count] left ^^^ direction.move^[count] right := by
  induction count generalizing left right with
  | zero => rfl
  | succ count ih =>
    rw [Function.iterate_succ_apply, direction.move_xor, ih]
    rfl

/--
Bits that enter a register meet the bits that leave it.

The register itself only moves, and the sums of the bits enter an empty register instead.
-/
theorem feed_map_range (register : BitVec width) (bits : Nat → Bool) (count : Nat) :
    feed direction polynomial register ((List.range count).map bits) =
      direction.move^[count] register ^^^
        feed direction polynomial (BitVec.ofNat width 0) ((List.range count).map fun place =>
          direction.leaving (direction.move^[place] register) ^^ bits place) := by
  induction count generalizing register bits with
  | zero => exact BitVec.xor_zero.symm
  | succ count ih =>
    -- The first bit enters both registers, and the later ones are treated by induction.
    let added := feedback polynomial (direction.leaving register ^^ bits 0)
    have first : shift direction polynomial register (bits 0) = direction.move register ^^^ added :=
      shift_eq direction polynomial register (bits 0)
    have empty : shift direction polynomial (BitVec.ofNat width 0)
        (direction.leaving register ^^ bits 0) = added := by
      rw [shift_eq, move_zero, leaving_zero, Bool.false_xor, BitVec.zero_xor]
    have front := ih (direction.move register ^^^ added) fun place => bits (place + 1)
    have back := ih added fun place =>
      direction.leaving (direction.move^[place + 1] register) ^^ bits (place + 1)
    simp only [List.range_succ_eq_map, List.map_cons, List.map_map, feed, List.foldl_cons,
      Function.iterate_zero_apply] at front back ⊢
    rw [first, empty]
    refine front.trans ?_
    refine Eq.trans ?_ (congrArg (direction.move^[count + 1] register ^^^ ·) back.symm)
    -- What was added moves along with the register, and leaves it together with its bits.
    rw [iterate_move_xor, Function.iterate_succ_apply, BitVec.xor_assoc]
    congr 3
    refine List.map_congr_left fun place _ => ?_
    rw [iterate_move_xor, direction.leaving_xor, Function.iterate_succ_apply]
    rw [Bool.xor_assoc, Bool.xor_left_comm]

/-- A step that feeds the bits of one symbol feeds those of a sequence, one symbol after another. -/
theorem foldl_eq_feed {σ β : Type} {step : σ → β → σ} {bits : β → List Bool}
    {register : σ → BitVec width}
    (feeds : ∀ state symbol,
      register (step state symbol) = feed direction polynomial (register state) (bits symbol))
    (state : σ) (symbols : List β) :
    register (symbols.foldl step state) =
      feed direction polynomial (register state) (symbols.flatMap bits) := by
  -- Induction on the symbols, with the register free to be any that they are fed to.
  induction symbols generalizing state with
  | nil => rfl
  | cons symbol symbols ih =>
    rw [List.foldl_cons, ih, feeds, List.flatMap_cons, feed, feed, feed, List.foldl_append]

/-- Several moves up are one shift. -/
theorem iterate_up (register : BitVec width) (count : Nat) :
    up.move^[count] register = register <<< count := by
  induction count with
  | zero => exact (BitVec.shiftLeft_zero register).symm
  | succ count ih => rw [Function.iterate_succ_apply', ih, BitVec.shiftLeft_add]; rfl

/-- Several moves down are one shift. -/
theorem iterate_down (register : BitVec width) (count : Nat) :
    down.move^[count] register = register >>> count := by
  induction count with
  | zero => exact (BitVec.ushiftRight_zero register).symm
  | succ count ih => rw [Function.iterate_succ_apply', ih, BitVec.shiftRight_add]; rfl

/-- A register that moves up loses its bits from the most significant one on. -/
theorem leaving_up (register : BitVec width) (place : Nat) :
    up.leaving (up.move^[place] register) = register.getMsbD place := by
  rw [iterate_up]
  show (register <<< place).msb = _
  simp [BitVec.msb]

/-- A register that moves down loses its bits from the least significant one on. -/
theorem leaving_down (register : BitVec width) (place : Nat) :
    down.leaving (down.move^[place] register) = register.getLsbD place := by
  rw [iterate_down]
  show (register >>> place).getLsbD 0 = _
  simp

end ShiftRegister
