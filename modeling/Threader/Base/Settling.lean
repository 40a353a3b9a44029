import Mathlib.Logic.Basic
import Mathlib.Logic.Relation

/-! Steps that cannot go on for ever, because each of them makes a measure smaller. -/

universe u

namespace Settling

variable {σ : Type u} {step : σ → σ → Prop}

/-- No step leads on from a state. -/
def AtRest (step : σ → σ → Prop) (state : σ) : Prop := ∀ next, ¬ step state next

/-- Wherever an invariant holds, steps that make a measure smaller lead to a state at rest. -/
theorem exists_atRest {invariant : σ → Prop} {measure : σ → Nat}
    (preserved : ∀ before after, step before after → invariant before → invariant after)
    (decreases : ∀ before after, step before after → invariant before →
      measure after < measure before) {start : σ} (initially : invariant start) :
    ∃ rest, Relation.ReflTransGen step start rest ∧ invariant rest ∧ AtRest step rest := by
  -- Strong induction on the measure: any first step leads to a state with a smaller one.
  generalize size : measure start = bound
  induction bound using Nat.strongRecOn generalizing start with
  | ind bound ih =>
    by_cases rest : AtRest step start
    · exact ⟨start, .refl, initially, rest⟩
    · simp only [AtRest, not_forall, not_not] at rest
      obtain ⟨next, first⟩ := rest
      have smaller : measure next < bound := size ▸ decreases start next first initially
      obtain ⟨last, steps, holds, atRest⟩ :=
        ih (measure next) smaller (preserved start next first initially) rfl
      exact ⟨last, .head first steps, holds, atRest⟩

end Settling
