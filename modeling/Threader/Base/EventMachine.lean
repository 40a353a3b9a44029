import Mathlib.Data.List.Basic
import Mathlib.Logic.Relation

/-! Runs of a machine that reacts to events, and what holds at the states and steps of a run. -/

universe u v

namespace EventMachine

variable {σ : Type u} {ε : Type v} (step : σ → ε → σ)

/-- The state a sequence of events leads to. -/
def run (start : σ) (events : List ε) : σ := events.foldl step start

@[simp] theorem run_nil (start : σ) : run step start [] = start := rfl

@[simp] theorem run_cons (start : σ) (event : ε) (events : List ε) :
    run step start (event :: events) = run step (step start event) events := rfl

/-- The last event of a run is reacted to in the state that the others lead to. -/
theorem run_concat (start : σ) (events : List ε) (event : ε) :
    run step start (events ++ [event]) = step (run step start events) event := by
  simp [run]

/-- A relation holds at every step of a run, between the state before it and its event. -/
def Along (holds : σ → ε → Prop) : σ → List ε → Prop
  | _, [] => True
  | state, event :: events => holds state event ∧ Along holds (step state event) events

/-- A property that every step preserves holds wherever a run leads. -/
theorem run_invariant {invariant : σ → Prop}
    (preserved : ∀ state event, invariant state → invariant (step state event)) {start : σ}
    (initially : invariant start) (events : List ε) : invariant (run step start events) := by
  -- Each event leads to a state from which the same claim is made about the later events.
  induction events generalizing start with
  | nil => exact initially
  | cons event events ih => exact ih (preserved start event initially)

/-- A property that the admitted events preserve holds wherever they lead. -/
theorem run_invariant_of_admitted {invariant : σ → Prop} {admitted : ε → Prop}
    (preserved : ∀ state event, admitted event → invariant state → invariant (step state event))
    {start : σ} (initially : invariant start) {events : List ε}
    (all : ∀ event ∈ events, admitted event) : invariant (run step start events) := by
  induction events generalizing start with
  | nil => exact initially
  | cons event events ih =>
    -- The first event is admitted, and so are all that follow it.
    obtain ⟨first, others⟩ := List.forall_mem_cons.mp all
    exact ih (preserved start event first initially) others

/-- A property that the steps of one kind preserve holds wherever a run of such steps leads. -/
theorem run_invariant_of_along {invariant : σ → Prop} {holds : σ → ε → Prop}
    (preserved : ∀ state event, holds state event → invariant state → invariant (step state event))
    {start : σ} (initially : invariant start) {events : List ε}
    (all : Along step holds start events) : invariant (run step start events) := by
  induction events generalizing start with
  | nil => exact initially
  | cons event events ih =>
    -- What holds along the run holds at its first step and along the rest.
    obtain ⟨first, others⟩ := all
    exact ih (preserved start event first initially) others

/-- What concerns the events only holds along a run when it holds of each of them. -/
theorem along_iff_forall {admitted : ε → Prop} {start : σ} {events : List ε} :
    Along step (fun _ event => admitted event) start events ↔ ∀ event ∈ events, admitted event := by
  induction events generalizing start with
  | nil => exact ⟨fun _ _ absent => absurd absent List.not_mem_nil, fun _ => trivial⟩
  | cons event events ih => exact (and_congr_right' ih).trans List.forall_mem_cons.symm

/-- What holds along a run holds along its beginning. -/
theorem Along.of_prefix {holds : σ → ε → Prop} {start : σ} {events past : List ε}
    (all : Along step holds start events) (beginning : past <+: events) :
    Along step holds start past := by
  -- The two runs take the same steps until the shorter one ends.
  induction past generalizing start events with
  | nil => exact trivial
  | cons event past ih =>
    obtain ⟨later, rfl⟩ := beginning
    exact ⟨all.1, ih all.2 (List.prefix_append past later)⟩

/-- What one relation implies wherever an invariant holds, it implies along a run. -/
theorem Along.imp {invariant : σ → Prop} {left right : σ → ε → Prop}
    (preserved : ∀ state event, invariant state → left state event → invariant (step state event))
    (implies : ∀ state event, invariant state → left state event → right state event) {start : σ}
    (initially : invariant start) {events : List ε} (all : Along step left start events) :
    Along step right start events := by
  -- The invariant is carried to the start of the rest of the run.
  induction events generalizing start with
  | nil => exact trivial
  | cons event events ih =>
    obtain ⟨first, others⟩ := all
    exact ⟨implies start event initially first, ih (preserved start event initially first) others⟩

/-- A property of the events so far that every step extends holds of the whole run. -/
theorem run_history {invariant : List ε → σ → Prop} {admitted : ε → Prop}
    (extended : ∀ past state event, admitted event → invariant past state →
      invariant (past ++ [event]) (step state event))
    {start : σ} (initially : invariant [] start) {events : List ε}
    (all : ∀ event ∈ events, admitted event) : invariant events (run step start events) := by
  -- The past is kept general, because it grows by one event with every step.
  suffices ∀ past state, invariant past state →
      invariant (past ++ events) (run step state events) from this [] start initially
  induction events with
  | nil => intro past state holds; simpa using holds
  | cons event events ih =>
    intro past state holds
    obtain ⟨first, others⟩ := List.forall_mem_cons.mp all
    have later := ih others (past ++ [event]) (step state event)
      (extended past state event first holds)
    -- Appending one event and then the others appends them all.
    simpa using later

/-- Two relations that agree wherever an invariant holds agree along every run. -/
theorem along_iff {invariant : σ → Prop} {left right : σ → ε → Prop}
    (preserved : ∀ state event, invariant state → invariant (step state event))
    (agree : ∀ state event, invariant state → (left state event ↔ right state event)) {start : σ}
    (initially : invariant start) (events : List ε) :
    Along step left start events ↔ Along step right start events := by
  -- The invariant is carried along, and makes the two relations agree at every step.
  induction events generalizing start with
  | nil => rfl
  | cons event events ih =>
    exact and_congr (agree start event initially) (ih (preserved start event initially))

/-- Two relations agree along a run when the first one carries an invariant that makes them agree. -/
theorem along_iff_of_along {invariant : σ → Prop} {admitted left right : σ → ε → Prop}
    (agree : ∀ state event, admitted state event → invariant state →
      (left state event ↔ right state event))
    (preserved : ∀ state event, admitted state event → invariant state → left state event →
      invariant (step state event)) {start : σ}
    (initially : invariant start) {events : List ε} (all : Along step admitted start events) :
    Along step left start events ↔ Along step right start events := by
  induction events generalizing start with
  | nil => rfl
  | cons event events ih =>
    obtain ⟨first, others⟩ := all
    -- Once the first relation holds at a step, the rest of the run starts from the invariant.
    exact (and_congr_right fun holds => ih (preserved start event first initially holds) others).trans
      (and_congr_left' (agree start event first initially))

omit step in
/-- A property that every step of a relation preserves holds wherever its steps lead. -/
theorem steps_invariant {relation : σ → σ → Prop} {before after : σ}
    (steps : Relation.ReflTransGen relation before after) {invariant : σ → Prop}
    (initially : invariant before)
    (preserved : ∀ before after, relation before after → invariant before → invariant after) :
    invariant after := by
  -- Induction on the last step: what it starts from already has the property.
  induction steps with
  | refl => exact initially
  | tail _ last ih => exact preserved _ _ last ih

end EventMachine
