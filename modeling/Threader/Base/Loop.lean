import Mathlib.Data.List.Basic
import Mathlib.Logic.Relation

/-! Loops whose every turn yields an item or ends them: what they yield, and when they end. -/

universe u v

namespace Loop

variable {σ : Type u} {α : Type v} (turn : σ → Option (α × σ))

/-- A loop yields some items, and ends in a state from which it takes no turn. -/
inductive Ends : σ → List α → σ → Prop
  | stop {state : σ} (stops : turn state = none) : Ends state [] state
  | turn {state next last : σ} {item : α} {items : List α} (goes : turn state = some (item, next))
      (later : Ends next items last) : Ends state (item :: items) last

/-- A turn leads from one state to another. -/
def Goes (state next : σ) : Prop := ∃ item, turn state = some (item, next)

/-- A state that the turns of a loop lead to. -/
def Reaches (start state : σ) : Prop := Relation.ReflTransGen (Goes turn) start state

/-- What a loop yields within a number of turns, or nothing when it needs more of them. -/
def within : Nat → σ → Option (List α)
  | 0, _ => none
  | fuel + 1, state =>
    match turn state with
    | none => some []
    | some (item, next) => (within fuel next).map (item :: ·)

variable {turn}

/-- A loop that ends takes one turn for each item, and one more to find that it has to end. -/
theorem Ends.within {state last : σ} {items : List α} (ends : Ends turn state items last)
    {fuel : Nat} (enough : items.length < fuel) : within turn fuel state = some items := by
  -- Induction on the turns, each of which uses up one unit of fuel.
  induction ends generalizing fuel with
  | stop stops =>
    obtain ⟨fuel, rfl⟩ := Nat.exists_eq_add_one.mpr enough
    simp only [Loop.within, stops]
  | turn goes _ ih =>
    obtain ⟨fuel, rfl⟩ := Nat.exists_eq_add_one.mpr (Nat.zero_lt_of_lt enough)
    simp only [Loop.within, goes, ih (Nat.lt_of_succ_lt_succ enough), Option.map_some]

/-- The first item that a loop yields is that of its first turn. -/
theorem Ends.eq_cons {state next last : σ} {item : α} {items : List α}
    (ends : Ends turn state items last) (goes : turn state = some (item, next)) :
    ∃ later, items = item :: later ∧ Ends turn next later last := by
  -- The first turn cannot have stopped the loop.
  cases ends with
  | stop stops =>
    rw [goes] at stops
    cases stops
  | turn turned later =>
    rw [goes] at turned
    cases turned
    exact ⟨_, rfl, later⟩

/-- A loop that is done within some number of turns ends. -/
theorem ends_of_within {fuel : Nat} {state : σ} {items : List α}
    (done : within turn fuel state = some items) : ∃ last, Ends turn state items last := by
  induction fuel generalizing state items with
  | zero => cases done
  | succ fuel ih =>
    simp only [within] at done
    split at done
    · rename_i stops
      cases done
      exact ⟨state, .stop stops⟩
    · rename_i item next goes
      -- The later turns yield what stands behind the first item.
      obtain ⟨others, rest, rfl⟩ := Option.map_eq_some_iff.mp done
      obtain ⟨last, later⟩ := ih rest
      exact ⟨last, .turn goes later⟩

/-- A loop ends if every turn it takes makes a measure smaller. -/
theorem ends_of_decreases {measure : σ → Nat} {start : σ}
    (decreases : ∀ state next, Reaches turn start state → Goes turn state next →
      measure next < measure state) :
    ∃ items last, Ends turn start items last ∧ items.length ≤ measure start := by
  -- Induction on the measure: behind the first turn it is smaller.
  induction value : measure start using Nat.strongRecOn generalizing start with
  | ind value ih =>
    cases turned : turn start with
    | none => exact ⟨[], start, .stop turned, Nat.zero_le _⟩
    | some result =>
      obtain ⟨item, next⟩ := result
      have goes : Goes turn start next := ⟨item, turned⟩
      have smaller := decreases start next .refl goes
      obtain ⟨items, last, later, length⟩ := ih (measure next) (value ▸ smaller)
        (fun state after reached => decreases state after (.head goes reached)) rfl
      refine ⟨item :: items, last, .turn turned later, ?_⟩
      simp only [List.length_cons]
      omega

/-- A loop does not end if a turn leads back to where it started. -/
theorem not_ends_of_fixed {state : σ} (fixed : Goes turn state state) (items : List α) (last : σ) :
    ¬ Ends turn state items last := by
  obtain ⟨item, goes⟩ := fixed
  intro ends
  -- Induction on the turns, all of which start from the same state.
  generalize same : state = start at ends
  induction ends with
  | stop stops =>
    rw [← same, goes] at stops
    cases stops
  | turn turned _ ih =>
    rw [← same, goes] at turned
    cases turned
    exact ih rfl

/-- An invariant of the turns holds wherever they lead. -/
theorem Reaches.invariant {start state : σ} (reached : Reaches turn start state)
    {invariant : σ → Prop} (initially : invariant start)
    (preserved : ∀ before after, Goes turn before after → invariant before → invariant after) :
    invariant state := by
  induction reached with
  | refl => exact initially
  | tail _ goes ih => exact preserved _ _ goes ih

end Loop
