import Mathlib.Data.Finset.Card
import Threader.Base.Settling
import Threader.Threads.PollingsWindows

/-! On Windows no signal of a thread is lost, and a thread that is left alone comes to rest. -/

namespace Threader

namespace ThreadSignals

/-- Every signal is recognised by its event. -/
theorem ofEvent_event (signal : ThreadSignals) : ofEvent signal.event = some signal := by
  cases signal <;> rfl

/-- Different signals have different events. -/
theorem event_inj {first second : ThreadSignals} : first.event = second.event ↔ first = second := by
  -- What is recognised by the same event is the same.
  refine ⟨fun same => ?_, congrArg event⟩
  have recognised := congrArg ofEvent same
  rw [ofEvent_event, ofEvent_event] at recognised
  exact Option.some.inj recognised

/-- An event that stands for a signal is the event of that signal. -/
theorem eq_event_of_ofEvent {event : EventHandle} {signal : ThreadSignals}
    (recognised : ofEvent event = some signal) : event = signal.event := by
  unfold ofEvent at recognised
  split at recognised
  · rename_i same
    cases recognised
    exact same
  · split at recognised
    · rename_i same
      cases recognised
      exact same
    · split at recognised
      · rename_i same
        cases recognised
        exact same
      · cases recognised

end ThreadSignals

/-- A phase of the thread leads to the slot of a signal. -/
def PollPhase.LeadsTo (signal : ThreadSignals) : PollPhase → Prop
  | .waiting => False
  | .returned event => event = signal.event
  | .processing event pollers => event = signal.event ∧ pollerThreadPtr ∈ pollers
  | .emitting event _ => event = signal.event

namespace ThreadWindows

open Settling (AtRest exists_atRest)

variable {μ ρ : Type}

/-- `PollerThread` has been registered with the events of the signals. -/
structure Registered (thread : ThreadWindows μ ρ) : Prop where
  listed : pollerThreadPtr ∈ thread.polling.pollers
  assigned : ∀ signal : ThreadSignals, signal.event ∈ thread.polling.events pollerThreadPtr

/-- The event of a signal is set, or the thread has been woken up by it. -/
def Coming (thread : ThreadWindows μ ρ) (signal : ThreadSignals) : Prop :=
  thread.isSet signal.event = true ∨ thread.phase.LeadsTo signal

/-- The slot of a signal has been called more often than so many times, or is going to be. -/
structure Heeds (count : Nat) (signal : ThreadSignals) (thread : ThreadWindows μ ρ) : Prop where
  counted : count ≤ thread.slots signal
  heeded : thread.Coming signal ∨ count < thread.slots signal

/-- No message waits without a wake-up. -/
def Attended (thread : ThreadWindows μ ρ) : Prop :=
  thread.queue.queue ≠ [] →
    thread.Coming .signalWakeUp ∨ ∃ caller, thread.signalling caller = true

/-- The pollers stay as they were registered. -/
theorem polling_step [DecidableEq ρ] {before after : ThreadWindows μ ρ} (step : Step before after) :
    after.polling = before.polling := by
  -- The slots of the thread itself do not register anything.
  cases step with
  | advance =>
    unfold advance
    split
    · rfl
    · rfl
    · rfl
    · split <;> rfl
    · dsimp only
      split
      · rename_i signal _
        cases signal <;> rfl
      · rfl
  | _ => rfl

/-- Setting an event takes no signal away. -/
theorem Coming.setEvent {thread : ThreadWindows μ ρ} {signal : ThreadSignals}
    (coming : thread.Coming signal) (event : EventHandle) :
    (thread.setEvent event).Coming signal := by
  refine coming.imp_left fun isSet => ?_
  -- An event that is set stays set.
  show Function.update thread.isSet event true signal.event = true
  rw [Function.update_apply]
  split
  · rfl
  · exact isSet

/-- Where the phase leads to no slot, only the event itself can announce its signal. -/
theorem Coming.isSet {thread : ThreadWindows μ ρ} {signal : ThreadSignals}
    (coming : thread.Coming signal) (apart : ¬ thread.phase.LeadsTo signal) :
    thread.isSet signal.event = true := coming.resolve_right apart

/-- Calling a slot tells one signal only. -/
theorem slots_slot (thread : ThreadWindows μ ρ) (called : ThreadSignals) (signal : ThreadSignals) :
    (thread.slot called).slots signal =
      if signal = called then thread.slots signal + 1 else thread.slots signal := by
  have updated : (thread.slot called).slots =
      Function.update thread.slots called (thread.slots called + 1) := by
    cases called <;> rfl
  rw [updated, Function.update_apply]
  split
  · rename_i same
    rw [same]
  · rfl

/-- The slots are called in the phases that lead to them, and nothing else takes a signal away. -/
theorem Heeds.advance {count : Nat} {signal : ThreadSignals} {thread : ThreadWindows μ ρ}
    (heeds : Heeds count signal thread) (registered : thread.Registered) :
    Heeds count signal thread.advance := by
  obtain ⟨counted, heeded⟩ := heeds
  -- Resetting another event does not touch that of the signal.
  have reset {event : EventHandle} (apart : event ≠ signal.event)
      (isSet : thread.isSet signal.event = true) :
      (thread.resetEvent event).isSet signal.event = true :=
    (Function.update_of_ne apart.symm _ _).trans isSet
  unfold ThreadWindows.advance
  cases phase : thread.phase with
  | waiting => exact ⟨counted, heeded⟩
  | returned event =>
    refine ⟨counted, heeded.imp_left fun coming => ?_⟩
    by_cases same : event = signal.event
    · -- The pollers that are to process the event include the thread's own one.
      refine .inr ⟨same, List.mem_filter.mpr ⟨registered.listed, ?_⟩⟩
      rw [same]
      exact decide_eq_true (registered.assigned signal)
    · exact .inl (reset same (coming.isSet (by rw [phase]; exact same)))
  | processing event pollers =>
    cases pollers with
    | nil =>
      refine ⟨counted, heeded.imp_left fun coming => .inl (coming.isSet ?_)⟩
      rw [phase]
      exact fun leads => List.not_mem_nil leads.2
    | cons poller pollers =>
      dsimp only
      split
      · refine ⟨counted, heeded.imp_left fun coming => ?_⟩
        by_cases same : event = signal.event
        · exact .inr same
        · exact .inl (reset same (coming.isSet (by rw [phase]; exact fun leads => same leads.1)))
      · -- Another poller leaves the thread's own one to come.
        rename_i other
        refine ⟨counted, heeded.imp_left fun coming => coming.imp_right fun leads => ?_⟩
        rw [phase] at leads
        exact ⟨leads.1, (List.mem_cons.mp leads.2).resolve_left fun own => other own.symm⟩
  | emitting event pollers =>
    dsimp only
    split
    · rename_i called recognised
      have named := ThreadSignals.eq_event_of_ofEvent recognised
      refine ⟨?_, ?_⟩
      · rw [slots_slot]
        dsimp only
        split <;> omega
      · rw [slots_slot]
        by_cases same : signal = called
        · exact .inr (by rw [if_pos same]; dsimp only; omega)
        · rw [if_neg same]
          refine heeded.imp_left fun coming => .inl ?_
          have before := coming.isSet (by
            rw [phase, named]
            exact fun leads => same (ThreadSignals.event_inj.mp leads).symm)
          cases called <;> exact before
    · rename_i unknown
      refine ⟨counted, heeded.imp_left fun coming => .inl (coming.isSet ?_)⟩
      rw [phase]
      rintro rfl
      rw [ThreadSignals.ofEvent_event] at unknown
      cases unknown

/-- No step takes a signal away. -/
theorem Heeds.step [DecidableEq ρ] {count : Nat} {signal : ThreadSignals}
    {before after : ThreadWindows μ ρ} (heeds : Heeds count signal before)
    (registered : before.Registered) (step : Step before after) : Heeds count signal after := by
  obtain ⟨counted, heeded⟩ := heeds
  cases step with
  | enqueue caller list idle => exact ⟨counted, heeded⟩
  | signalEventWakeUp caller enqueued =>
    exact ⟨counted, heeded.imp_left fun coming => coming.setEvent ThreadSignals.signalWakeUp.event⟩
  | sendSignal sent => exact ⟨counted, heeded.imp_left fun coming => coming.setEvent sent.event⟩
  | setOther event isSet other =>
    refine ⟨counted, heeded.imp_left fun coming => coming.imp_left fun before => ?_⟩
    -- The event is not that of a signal.
    have apart : signal.event ≠ event := by
      rintro rfl
      rw [ThreadSignals.ofEvent_event] at other
      cases other
    exact (Function.update_of_ne apart _ _).trans before
  | returns waits first =>
    refine ⟨counted, heeded.imp_left fun coming => .inl (coming.isSet ?_)⟩
    rw [waits]
    exact id
  | advance => exact Heeds.advance ⟨counted, heeded⟩ registered
  | processMessages => exact ⟨counted, heeded⟩

/-- The slot of a wake-up leaves no message behind, and no other phase takes one away. -/
theorem queue_advance (thread : ThreadWindows μ ρ) :
    (thread.advance.queue = thread.queue ∧
        thread.advance.slots .signalWakeUp = thread.slots .signalWakeUp) ∨
      thread.advance.queue.queue = [] := by
  unfold advance
  split
  · exact .inl ⟨rfl, rfl⟩
  · exact .inl ⟨rfl, rfl⟩
  · exact .inl ⟨rfl, rfl⟩
  · split
    · exact .inl ⟨rfl, rfl⟩
    · exact .inl ⟨rfl, rfl⟩
  · dsimp only
    split
    · rename_i signal _
      cases signal with
      | signalTerminate => exact .inl ⟨rfl, rfl⟩
      | signalWakeUp => exact .inr rfl
      | signalTerminateChildThreads => exact .inl ⟨rfl, rfl⟩
    · exact .inl ⟨rfl, rfl⟩

/-- The callers go on independently of the thread. -/
theorem signalling_advance (thread : ThreadWindows μ ρ) :
    thread.advance.signalling = thread.signalling := by
  unfold advance
  split
  · rfl
  · rfl
  · rfl
  · split <;> rfl
  · dsimp only
    split
    · rename_i signal _
      cases signal <;> rfl
    · rfl

/-- No step leaves messages without a wake-up. -/
theorem Attended.step [DecidableEq ρ] {before after : ThreadWindows μ ρ}
    (attended : before.Attended) (registered : before.Registered) (step : Step before after) :
    after.Attended := by
  intro waits
  -- A wake-up that was coming has not been taken away, or its slot has been called.
  have kept (coming : before.Coming .signalWakeUp) :
      after.Coming .signalWakeUp ∨
        before.slots .signalWakeUp < after.slots .signalWakeUp :=
    (Heeds.step ⟨Nat.le_refl _, .inl coming⟩ registered step).heeded
  cases step with
  | enqueue caller list idle => exact .inr ⟨caller, Function.update_self ..⟩
  | signalEventWakeUp caller enqueued =>
    have isSet : Function.update before.isSet ThreadSignals.signalWakeUp.event true
      ThreadSignals.signalWakeUp.event = true := Function.update_self ..
    exact .inl (.inl isSet)
  | sendSignal sent =>
    exact (attended waits).imp_left fun coming => (kept coming).resolve_right (Nat.lt_irrefl _)
  | setOther event isSet other =>
    exact (attended waits).imp_left fun coming => (kept coming).resolve_right (Nat.lt_irrefl _)
  | returns waiting first =>
    exact (attended waits).imp_left fun coming => (kept coming).resolve_right (Nat.lt_irrefl _)
  | advance =>
    rcases before.queue_advance with ⟨queue, slots⟩ | empty
    · rw [queue] at waits
      rw [slots] at kept
      rw [before.signalling_advance]
      exact (attended waits).imp_left fun coming => (kept coming).resolve_right (Nat.lt_irrefl _)
    · exact absurd empty waits
  | processMessages => exact absurd rfl waits

/-- What a thread does by itself while nobody disturbs it. -/
inductive OwnStep : ThreadWindows μ ρ → ThreadWindows μ ρ → Prop
  | returns (thread : ThreadWindows μ ρ) (waits : thread.phase = .waiting) {event : EventHandle}
      (first : thread.polling.waitForMultipleObjects thread.isSet = some event) :
      OwnStep thread { thread with phase := .returned event }
  | advance (thread : ThreadWindows μ ρ) (busy : thread.phase ≠ .waiting) :
      OwnStep thread thread.advance

/-- The events in the array that are set. -/
def setEvents (thread : ThreadWindows μ ρ) : Finset EventHandle :=
  thread.polling.pollArray.toFinset.filter (thread.isSet · = true)

/-- What is left to be done: each event costs a round, in which each poller costs two steps. -/
def potential (thread : ThreadWindows μ ρ) : Nat :=
  let pollers := thread.polling.pollers.length
  let round := 2 * pollers + 3
  match thread.phase with
  | .waiting => round * thread.setEvents.card
  | .returned event => round * (thread.setEvents.erase event).card + 2 * pollers + 2
  | .processing _ pollers => round * thread.setEvents.card + 2 * pollers.length + 1
  | .emitting _ pollers => round * thread.setEvents.card + 2 * pollers.length + 2

/-- An event that is reset is the only one that is no longer set. -/
theorem setEvents_resetEvent (thread : ThreadWindows μ ρ) (event : EventHandle) :
    (thread.resetEvent event).setEvents = thread.setEvents.erase event := by
  ext other
  simp only [setEvents, resetEvent, Finset.mem_filter, Finset.mem_erase, Function.update_apply]
  by_cases same : other = event
  · simp [same]
  · simp [same]

/-- Every step of its own leaves a thread less to do. -/
theorem potential_ownStep {before after : ThreadWindows μ ρ} (step : OwnStep before after) :
    after.potential < before.potential := by
  cases step with
  | returns waits first =>
    rename_i event
    have member : event ∈ before.setEvents := by
      refine Finset.mem_filter.mpr ⟨?_, ?_⟩
      · exact List.mem_toFinset.mpr (List.mem_of_find?_eq_some first)
      · exact List.find?_some first
    have fewer := Finset.card_erase_add_one member
    unfold potential
    rw [waits]
    dsimp only
    show _ * (before.setEvents.erase event).card + _ + _ < _
    rw [← fewer, Nat.mul_add]
    omega
  | advance busy =>
    -- The slots set no event, and the polls only reset one.
    have fewer (event : EventHandle) : (before.resetEvent event).setEvents.card ≤
        before.setEvents.card := by
      rw [setEvents_resetEvent]
      exact Finset.card_erase_le
    have round (event : EventHandle) := Nat.mul_le_mul_left
      (2 * before.polling.pollers.length + 3) (fewer event)
    unfold advance
    cases phase : before.phase with
    | waiting => exact absurd phase busy
    | returned event =>
      have fits := List.length_filter_le (before.polling.hasEvent · event) before.polling.pollers
      show (2 * before.polling.pollers.length + 3) * (before.resetEvent event).setEvents.card +
        2 * (before.polling.pollers.filter _).length + 1 < before.potential
      rw [setEvents_resetEvent]
      simp only [potential, phase]
      omega
    | processing event pollers =>
      cases pollers with
      | nil =>
        show (2 * before.polling.pollers.length + 3) * before.setEvents.card < before.potential
        simp only [potential, phase]
        omega
      | cons poller pollers =>
        dsimp only
        split
        · show (2 * before.polling.pollers.length + 3) * (before.resetEvent event).setEvents.card +
            2 * pollers.length + 2 < before.potential
          have less := round event
          simp only [potential, phase, List.length_cons]
          omega
        · show (2 * before.polling.pollers.length + 3) * before.setEvents.card +
            2 * pollers.length + 1 < before.potential
          simp only [potential, phase, List.length_cons]
          omega
    | emitting event pollers =>
      have quiet (after : ThreadWindows μ ρ)
          (same : after = { before with phase := .processing event pollers } ∨
            ∃ signal, after = { before with phase := .processing event pollers }.slot signal) :
          after.potential = (2 * before.polling.pollers.length + 3) * before.setEvents.card +
            2 * pollers.length + 1 := by
        rcases same with rfl | ⟨signal, rfl⟩
        · rfl
        · cases signal <;> rfl
      dsimp only
      have less : (2 * before.polling.pollers.length + 3) * before.setEvents.card +
          2 * pollers.length + 1 < before.potential := by
        simp only [potential, phase]
        omega
      split
      · rename_i signal _
        exact (quiet _ (.inr ⟨signal, rfl⟩)).trans_lt less
      · exact (quiet _ (.inl rfl)).trans_lt less

/-- What a thread does by itself is one of the steps there are. -/
theorem OwnStep.step [DecidableEq ρ] {before after : ThreadWindows μ ρ}
    (step : OwnStep before after) : Step before after := by
  cases step with
  | returns waits first => exact .returns before waits first
  | advance busy => exact .advance before

/-- The messages that the thread takes from its queue are those that it processes. -/
theorem processed_ownStep {before after : ThreadWindows μ ρ} (step : OwnStep before after) :
    after.processed ++ after.queue.queue = before.processed ++ before.queue.queue := by
  cases step with
  | returns waits first => rfl
  | advance busy =>
    unfold advance
    split
    · rfl
    · rfl
    · rfl
    · split <;> rfl
    · dsimp only
      split
      · rename_i signal _
        cases signal with
        | signalTerminate => rfl
        | signalWakeUp => exact List.append_nil _
        | signalTerminateChildThreads => rfl
      · rfl

/-- A thread that rests waits for events, of which none is set. -/
theorem AtRest.waits {thread : ThreadWindows μ ρ} (rests : AtRest OwnStep thread) :
    thread.phase = .waiting ∧ thread.polling.waitForMultipleObjects thread.isSet = none := by
  have waits : thread.phase = .waiting := by
    by_contra busy
    exact rests _ (.advance thread busy)
  refine ⟨waits, ?_⟩
  cases first : thread.polling.waitForMultipleObjects thread.isSet with
  | none => rfl
  | some event => exact absurd (.returns thread waits first) (rests _)

/-- The flag is set by the slot that is there for it. -/
def Terminates (thread : ThreadWindows μ ρ) : Prop :=
  0 < thread.slots .signalTerminate → thread.isTerminated = true

/-- What holds of a thread in every state. -/
structure Kept (thread : ThreadWindows μ ρ) : Prop where
  registered : thread.Registered
  attended : thread.Attended
  terminates : thread.Terminates

/-- Every step keeps it. -/
theorem Kept.step [DecidableEq ρ] {before after : ThreadWindows μ ρ} (kept : before.Kept)
    (step : Step before after) : after.Kept := by
  have polling := polling_step step
  refine ⟨⟨?_, ?_⟩, kept.attended.step kept.registered step, ?_⟩
  · rw [polling]
    exact kept.registered.listed
  · rw [polling]
    exact kept.registered.assigned
  · -- Only the slot itself counts.
    cases step with
    | advance =>
      have before := kept.terminates
      unfold advance
      split
      · exact before
      · exact before
      · exact before
      · split
        · exact before
        · exact before
      · dsimp only
        split
        · rename_i signal _
          cases signal with
          | signalTerminate => exact fun _ => rfl
          | signalWakeUp => exact before
          | signalTerminateChildThreads => exact before
        · exact before
    | _ => exact kept.terminates

section

variable [DecidableEq ρ] {polling : PollingWindows}
  (listed : pollerThreadPtr ∈ polling.pollers)
  (assigned : ∀ signal : ThreadSignals, signal.event ∈ polling.events pollerThreadPtr)

include listed assigned

/-- It is kept in every run from the start. -/
theorem Kept.of_steps {thread : ThreadWindows μ ρ}
    (steps : Relation.ReflTransGen Step (started polling) thread) : thread.Kept :=
  EventMachine.steps_invariant steps
    ⟨⟨listed, assigned⟩, fun waits => absurd rfl waits, fun none => absurd none (Nat.lt_irrefl 0)⟩
    fun _ _ step kept => kept.step step

/--
Whatever the callers and the thread do, a signal that has been sent is coming until its slot has
been called, and messages that wait have a wake-up coming, or a caller about to send one.

An event that is set stays set until the thread resets it, and then its slot is called.
-/
theorem signal_kept {before after : ThreadWindows μ ρ}
    (steps : Relation.ReflTransGen Step (started polling) before) (signal : ThreadSignals)
    (later : Relation.ReflTransGen Step (before.sendSignal signal) after) :
    (after.Coming signal ∨ before.slots signal < after.slots signal) ∧
      (0 < after.slots .signalTerminate → after.isTerminated = true) ∧
      (after.queue.queue ≠ [] →
        after.Coming .signalWakeUp ∨ ∃ caller, after.signalling caller = true) := by
  have sent : (before.sendSignal signal).Kept :=
    (Kept.of_steps listed assigned steps).step (.sendSignal before signal)
  have heeds : Heeds (before.slots signal) signal (before.sendSignal signal) :=
    ⟨Nat.le_refl _, .inl (.inl (Function.update_self ..))⟩
  have preserved (first second : ThreadWindows μ ρ) (step : Step first second)
      (both : first.Kept ∧ Heeds (before.slots signal) signal first) :
      second.Kept ∧ Heeds (before.slots signal) signal second :=
    ⟨both.1.step step, both.2.step both.1.registered step⟩
  have both := EventMachine.steps_invariant later ⟨sent, heeds⟩ preserved
  exact ⟨both.2.heeded, both.1.terminates, both.1.attended⟩

end

/-- A thread that polls nothing but its own events. -/
def alone : PollingWindows := ⟨fun poller => if poller = pollerThreadPtr then [0, 1, 2] else [], [0]⟩

/-- `PollerThread` assigns the events of all three signals. -/
theorem event_mem_alone (signal : ThreadSignals) :
    signal.event ∈ alone.events pollerThreadPtr := by
  cases signal <;> decide

/-- A request to terminate is coming, although the thread waits for a message at the same time. -/
theorem signal_kept_terminate :
    let thread : ThreadWindows Nat Unit := (started alone).sendSignal .signalTerminate
    (thread.Coming .signalTerminate ∨ 0 < thread.slots .signalTerminate) ∧
      (0 < thread.slots .signalTerminate → thread.isTerminated = true) ∧
      (thread.queue.queue ≠ [] →
        thread.Coming .signalWakeUp ∨ ∃ caller, thread.signalling caller = true) :=
  signal_kept (by decide) event_mem_alone .refl .signalTerminate .refl

end ThreadWindows

end Threader
