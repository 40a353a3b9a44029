import Mathlib.Data.List.Nodup

/-! A ledger of items that are collected, applied, sent under an id, and acknowledged exactly once. -/

universe u v

/-- How far an item has come once it was applied. -/
inductive Ledger.Progress (ι : Type v)
  | waiting
  | inFlight (id : ι)
  | acknowledged
deriving DecidableEq, Repr

/-- How far an item has come. -/
inductive Ledger.Stage (ι : Type v)
  | collected
  | applied (progress : Progress ι)
deriving DecidableEq, Repr

/-- The items that were applied, with their progress, and those collected after them. -/
structure Ledger (α : Type u) (ι : Type v) where
  applied : List (α × Ledger.Progress ι)
  collected : List α

namespace Ledger

variable {α : Type u} {ι : Type v}

/-- A ledger without items. -/
def empty : Ledger α ι := ⟨[], []⟩

/-- All items, in the order in which they were collected. -/
def items (ledger : Ledger α ι) : List α := ledger.applied.map Prod.fst ++ ledger.collected

/-- All items with their stages. -/
def stages (ledger : Ledger α ι) : List (α × Stage ι) :=
  ledger.applied.map (fun entry => (entry.1, .applied entry.2)) ++
    ledger.collected.map fun item => (item, .collected)

/-- The applied items with a progress of some kind, in the order in which they were collected. -/
def having (ledger : Ledger α ι) (kind : Progress ι → Bool) : List α :=
  (ledger.applied.filter fun entry => kind entry.2).map Prod.fst

/-- The applied items that are not acknowledged. -/
def pending [DecidableEq ι] (ledger : Ledger α ι) : List α := ledger.having (· ≠ .acknowledged)

/-- The items that wait to be sent. -/
def waiting [DecidableEq ι] (ledger : Ledger α ι) : List α := ledger.having (· = .waiting)

/-- The items that were sent under an id. -/
def inFlight [DecidableEq ι] (ledger : Ledger α ι) (id : ι) : List α :=
  ledger.having (· = .inFlight id)

/-- A change of the progress of applied items. -/
def advance (ledger : Ledger α ι) (change : α → Progress ι → Progress ι) : Ledger α ι :=
  { ledger with applied := ledger.applied.map fun entry => (entry.1, change entry.1 entry.2) }

/-- What can happen to the items of a ledger. -/
inductive Event (α : Type u) (ι : Type v)
  | collect (items : List α)
  | apply
  | send (id : ι) (chosen : List α)
  | acknowledge (id : ι)
  | reset
deriving DecidableEq, Repr

/-- The change that an acknowledgement is. -/
def acknowledged [DecidableEq ι] (id : ι) (progress : Progress ι) : Progress ι :=
  if progress = .inFlight id then .acknowledged else progress

/-- The change that a reset is. -/
def afterReset : Progress ι → Progress ι
  | .inFlight _ => .waiting
  | progress => progress

/-- The ledger after an event. -/
def step [DecidableEq α] [DecidableEq ι] (ledger : Ledger α ι) : Event α ι → Ledger α ι
  | .collect items => { ledger with collected := ledger.collected ++ items }
  | .apply => ⟨ledger.applied ++ ledger.collected.map fun item => (item, .waiting), []⟩
  | .send id chosen =>
    ledger.advance fun item progress => if item ∈ chosen then .inFlight id else progress
  | .acknowledge id => ledger.advance fun _ progress => acknowledged id progress
  | .reset => ledger.advance fun _ progress => afterReset progress

/-- Only new items are collected, and only items that wait are sent. -/
def Admits [DecidableEq ι] (ledger : Ledger α ι) : Event α ι → Prop
  | .collect items => (ledger.items ++ items).Nodup
  | .send _ chosen => chosen.Sublist ledger.waiting
  | _ => True

/-- A change of the progress loses no item and adds none. -/
@[simp] theorem items_advance (ledger : Ledger α ι) (change : α → Progress ι → Progress ι) :
    (ledger.advance change).items = ledger.items := by
  simp [advance, items]

@[simp] theorem items_collect [DecidableEq α] [DecidableEq ι] (ledger : Ledger α ι)
    (items : List α) : (ledger.step (.collect items)).items = ledger.items ++ items := by
  simp [step, Ledger.items]

@[simp] theorem items_apply [DecidableEq α] [DecidableEq ι] (ledger : Ledger α ι) :
    (ledger.step .apply).items = ledger.items := by
  simp [step, items, Function.comp_def]

/-- The items that an event adds. -/
def Event.collected : Event α ι → List α
  | .collect items => items
  | _ => []

/-- A ledger grows by the items that are collected. -/
theorem items_step [DecidableEq α] [DecidableEq ι] (ledger : Ledger α ι) (event : Event α ι) :
    (ledger.step event).items = ledger.items ++ event.collected := by
  cases event with
  | collect items => exact items_collect ledger items
  | apply => simp [Event.collected]
  | send id chosen => simp [step, Event.collected]
  | acknowledge id => simp [step, Event.collected]
  | reset => simp [step, Event.collected]

/-- What was collected waits behind the other items that are not acknowledged. -/
theorem pending_apply [DecidableEq α] [DecidableEq ι] (ledger : Ledger α ι) :
    (ledger.step .apply).pending = ledger.pending ++ ledger.collected := by
  -- No item that was collected is acknowledged when it starts waiting.
  have all : (ledger.collected.map fun item => (item, Progress.waiting (ι := ι))).filter
      (fun entry => decide (entry.2 ≠ .acknowledged)) =
      ledger.collected.map fun item => (item, .waiting) := by
    apply List.filter_eq_self.mpr
    intro entry member
    obtain ⟨item, _, rfl⟩ := List.mem_map.mp member
    rfl
  simp only [step, pending, having, List.filter_append, List.map_append, all, List.map_map,
    Function.comp_def, List.map_id']

/-- The items that are listed once stay listed once. -/
theorem nodup_step [DecidableEq α] [DecidableEq ι] {ledger : Ledger α ι} {event : Event α ι}
    (distinct : ledger.items.Nodup) (admitted : ledger.Admits event) :
    (ledger.step event).items.Nodup := by
  cases event with
  | collect items => rwa [items_collect]
  | apply => rwa [items_apply]
  | send id chosen => simpa only [step, items_advance] using distinct
  | acknowledge id => simpa only [step, items_advance] using distinct
  | reset => simpa only [step, items_advance] using distinct

theorem map_fst_stages (ledger : Ledger α ι) : ledger.stages.map Prod.fst = ledger.items := by
  simp [stages, items, Function.comp_def]

/-- Every item is in exactly one stage. -/
theorem existsUnique_stage {ledger : Ledger α ι} (distinct : ledger.items.Nodup) {item : α}
    (member : item ∈ ledger.items) : ∃! stage, (item, stage) ∈ ledger.stages := by
  rw [← map_fst_stages] at distinct member
  obtain ⟨⟨_, stage⟩, listed, rfl⟩ := List.mem_map.mp member
  refine ⟨stage, listed, fun other alsoListed => ?_⟩
  -- Two entries with one item are the same entry.
  exact congrArg Prod.snd (List.inj_on_of_nodup_map distinct alsoListed listed rfl)

/-- An applied item has one progress. -/
theorem progress_unique {ledger : Ledger α ι} (distinct : ledger.items.Nodup) {item : α}
    {first second : Progress ι} (left : (item, first) ∈ ledger.applied)
    (right : (item, second) ∈ ledger.applied) : first = second :=
  congrArg Prod.snd
    (List.inj_on_of_nodup_map (List.Nodup.of_append_left distinct) left right rfl)

theorem mem_having {ledger : Ledger α ι} {kind : Progress ι → Bool} {item : α} :
    item ∈ ledger.having kind ↔ ∃ progress, (item, progress) ∈ ledger.applied ∧ kind progress := by
  simp [having]

/-- Selecting some of the items with a progress of one kind. -/
theorem filter_having {ledger : Ledger α ι} {kind narrower : Progress ι → Bool} {keep : α → Bool}
    (agree : ∀ item progress, (item, progress) ∈ ledger.applied →
      (kind progress && keep item) = narrower progress) :
    (ledger.having kind).filter keep = ledger.having narrower := by
  -- Both selections are made in one pass over the entries.
  unfold having
  rw [List.filter_map, List.filter_filter]
  congr 1
  apply List.filter_congr
  intro entry member
  rw [Bool.and_comm]
  exact agree entry.1 entry.2 member

/-- What a change leaves of the items with a progress of one kind. -/
theorem having_advance {ledger : Ledger α ι} {change : α → Progress ι → Progress ι}
    {kind before : Progress ι → Bool}
    (agree : ∀ item progress, (item, progress) ∈ ledger.applied →
      kind (change item progress) = before progress) :
    (ledger.advance change).having kind = ledger.having before := by
  simp only [having, advance, List.filter_map, List.map_map]
  congr 1
  exact List.filter_congr fun entry member => agree entry.1 entry.2 member

/-- The applied items with their progress after a change. -/
theorem mem_advance {ledger : Ledger α ι} {change : α → Progress ι → Progress ι} {item : α}
    {after : Progress ι} (listed : (item, after) ∈ (ledger.advance change).applied) :
    ∃ before, (item, before) ∈ ledger.applied ∧ after = change item before := by
  obtain ⟨⟨_, before⟩, member, same⟩ := List.mem_map.mp listed
  cases same
  exact ⟨before, member, rfl⟩

section Events

variable [DecidableEq ι] {ledger : Ledger α ι}

/-- An item that waits has no other progress. -/
theorem eq_waiting_of_mem (distinct : ledger.items.Nodup) {item : α} (waits : item ∈ ledger.waiting)
    {progress : Progress ι} (listed : (item, progress) ∈ ledger.applied) : progress = .waiting := by
  obtain ⟨other, alsoListed, kind⟩ := mem_having.mp waits
  rw [progress_unique distinct listed alsoListed]
  exact of_decide_eq_true kind

/-- What is collected does not wait. -/
theorem notMem_waiting_of_collected (distinct : ledger.items.Nodup) {item : α}
    (collected : item ∈ ledger.collected) : item ∉ ledger.waiting := by
  intro waits
  obtain ⟨progress, listed, _⟩ := mem_having.mp waits
  exact List.disjoint_of_nodup_append distinct (List.mem_map_of_mem listed) collected

/-- What is sent was not acknowledged, and is not acknowledged by that. -/
theorem pending_send [DecidableEq α] (distinct : ledger.items.Nodup) {id : ι} {chosen : List α}
    (admitted : ledger.Admits (.send id chosen)) :
    (ledger.step (.send id chosen)).pending = ledger.pending := by
  -- Only items that wait are sent, so the same entries are selected before and after.
  simp only [pending, step]
  apply having_advance
  intro item progress listed
  split
  · rename_i taken
    rw [eq_waiting_of_mem distinct (admitted.subset taken) listed]
    rfl
  · rfl

/-- An acknowledgement ends what is in flight under its id, and nothing else. -/
theorem pending_acknowledge [DecidableEq α] (id : ι) :
    (ledger.step (.acknowledge id)).pending =
      ledger.having fun progress => progress ≠ .acknowledged ∧ progress ≠ .inFlight id := by
  simp only [pending, step]
  apply having_advance
  intro item progress listed
  by_cases sent : progress = .inFlight id
  · simp [acknowledged, sent]
  · simp [acknowledged, sent]

/-- A reset acknowledges nothing. -/
theorem pending_reset [DecidableEq α] : (ledger.step .reset).pending = ledger.pending := by
  -- An item that goes back to waiting was not acknowledged before.
  simp only [pending, step]
  apply having_advance
  intro item progress listed
  cases progress with
  | waiting => rfl
  | inFlight id => rfl
  | acknowledged => rfl

end Events

end Ledger
