import Mathlib.Logic.Function.Basic

/-! Digests folded over a sequence, and when a single changed symbol must change the digest. -/

universe u v

namespace Digest

variable {σ : Type u} {β : Type v}

/-- A step loses neither the state it starts from nor the symbol it absorbs. -/
structure Reversible (step : σ → β → σ) : Prop where
  /-- With the symbol fixed, different states stay different. -/
  state : ∀ symbol, Function.Injective fun state => step state symbol
  /-- With the state fixed, different symbols lead to different states. -/
  symbol : ∀ state, Function.Injective (step state)

/-- Absorbing a common suffix keeps different states different. -/
theorem Reversible.foldl_injective {step : σ → β → σ} (reversible : Reversible step)
    (symbols : List β) : Function.Injective fun state => symbols.foldl step state := by
  -- Induction over the suffix: the states stay apart after each of its symbols.
  induction symbols with
  | nil => exact fun _ _ same => same
  | cons symbol rest ih =>
    -- The first step separates the states, and the rest keeps them apart.
    intro left right same
    exact reversible.state symbol (ih same)

/-- Replacing one symbol by a different one always changes the digest. -/
theorem Reversible.foldl_set_ne {step : σ → β → σ} (reversible : Reversible step) (start : σ)
    {symbols : List β} {position : Nat} {symbol : β} (inside : position < symbols.length)
    (changed : symbol ≠ symbols[position]) :
    (symbols.set position symbol).foldl step start ≠ symbols.foldl step start := by
  -- Both sequences share what stands before and after the changed position.
  intro same
  have original : symbols =
      symbols.take position ++ symbols[position] :: symbols.drop (position + 1) := by
    rw [List.getElem_cons_drop, List.take_append_drop]
  rw [List.set_eq_take_append_cons_drop, if_pos inside] at same
  conv at same => rhs; rw [original]
  rw [List.foldl_append, List.foldl_append, List.foldl_cons, List.foldl_cons] at same
  -- After the suffix is cancelled, the two states differ by the changed symbol alone.
  exact changed (reversible.symbol _ (reversible.foldl_injective _ same))

end Digest
