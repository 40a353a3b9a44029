import Threader.Threads.WakeUp

/-! Requests to terminate share a pipe with the wake-ups, and are lost when it has no room. -/

namespace Threader

namespace ThreadBase

variable {μ ρ : Type}

/-- A byte that terminates the thread. -/
abbrev Terminates (byte : UInt8) : Prop := ThreadSignals.ofByte byte = some .signalTerminate

/-- The thread has its flag set, or is going to read a byte that sets it. -/
def TerminateRequested (thread : ThreadBase μ ρ) : Prop :=
  thread.isTerminated = true ∨ ∃ byte ∈ thread.pollerThread.unread, Terminates byte

/-- Sending a signal takes no request away. -/
theorem TerminateRequested.sendSignal {thread : ThreadBase μ ρ}
    (requested : thread.TerminateRequested) (signal : ThreadSignals) :
    TerminateRequested { thread with pollerThread := thread.pollerThread.sendSignal signal } := by
  -- A write adds a byte behind the others, or does nothing.
  rcases requested with terminated | ⟨byte, unread, terminates⟩
  · exact .inl terminated
  · exact .inr ⟨byte, BoundedPipe.mem_write_of_mem unread, terminates⟩

/-- Reading a signal takes a request from the pipe only to set the flag. -/
theorem TerminateRequested.process {thread : ThreadBase μ ρ}
    (requested : thread.TerminateRequested) {signal : Option ThreadSignals} {poller : PollerThread}
    (reads : thread.pollerThread.process = some (signal, poller)) :
    ({ thread with pollerThread := poller }.onSignal signal).TerminateRequested := by
  obtain ⟨⟨byte, rest⟩, read, same⟩ := Option.map_eq_some_iff.mp reads
  obtain ⟨rfl, rfl⟩ := Prod.mk.inj same
  by_cases terminates : Terminates byte
  · -- The slot sets the flag.
    rw [show ThreadSignals.ofByte byte = some .signalTerminate from terminates]
    exact .inl rfl
  · have later : TerminateRequested { thread with pollerThread := rest } := by
      rcases requested with terminated | ⟨other, unread, others⟩
      · exact .inl terminated
      · rcases BoundedPipe.mem_of_read read unread with rfl | unread
        · exact absurd others terminates
        · exact .inr ⟨other, unread, others⟩
    -- The other slots touch neither the flag nor the pipe.
    cases decoded : ThreadSignals.ofByte byte with
    | none => exact later
    | some signal =>
      cases signal with
      | signalTerminate => exact absurd decoded terminates
      | signalWakeUp => exact later
      | signalTerminateChildThreads => exact later

/-- No step takes a request away. -/
theorem TerminateRequested.step [DecidableEq ρ] {before after : ThreadBase μ ρ}
    (requested : before.TerminateRequested) (step : Step before after) :
    after.TerminateRequested := by
  -- Only the thread itself reads from the pipe.
  cases step with
  | enqueue caller list idle => exact requested
  | signalEventWakeUp caller enqueued => exact requested.sendSignal .signalWakeUp
  | postTerminateEvent => exact requested.sendSignal .signalTerminate
  | postEventChildThreadTerminated => exact requested.sendSignal .signalTerminateChildThreads
  | process polls reads => exact requested.process reads
  | processMessages => exact requested

/-- The room that the pipe had at the start is the room it has. -/
theorem capacity_of_step [DecidableEq ρ] {before after : ThreadBase μ ρ}
    (step : Step before after) :
    after.pollerThread.capacity = before.pollerThread.capacity := by
  -- The pipe is written and read, and keeps its size.
  cases step with
  | enqueue caller list idle => rfl
  | signalEventWakeUp caller enqueued => exact BoundedPipe.capacity_write _ _
  | postTerminateEvent => exact BoundedPipe.capacity_write _ _
  | postEventChildThreadTerminated => exact BoundedPipe.capacity_write _ _
  | process polls reads =>
    rename_i signal poller
    obtain ⟨⟨byte, rest⟩, read, same⟩ := Option.map_eq_some_iff.mp reads
    obtain ⟨rfl, rfl⟩ := Prod.mk.inj same
    have kept : rest.capacity = before.pollerThread.capacity := BoundedPipe.capacity_of_read read
    cases decoded : ThreadSignals.ofByte byte with
    | none => exact kept
    | some signal => cases signal <;> exact kept
  | processMessages => rfl

/-- A call of `postTerminateEvent` makes a request exactly when its byte fits or there was one. -/
theorem terminateRequested_postTerminateEvent (thread : ThreadBase μ ρ) :
    thread.postTerminateEvent.TerminateRequested ↔
      thread.pollerThread.unread.length < thread.pollerThread.capacity ∨
        thread.TerminateRequested := by
  constructor
  · intro requested
    by_cases free : thread.pollerThread.unread.length < thread.pollerThread.capacity
    · exact .inl free
    · -- The pipe is full, and `write` leaves it as it is.
      have dropped : thread.postTerminateEvent = thread := by
        rw [postTerminateEvent, PollerThread.sendSignal, BoundedPipe.write, if_neg free]
      rw [dropped] at requested
      exact .inr requested
  · rintro (free | requested)
    · refine .inr ⟨ThreadSignals.signalTerminate.toByte, ?_, ThreadSignals.ofByte_toByte _⟩
      rw [postTerminateEvent, PollerThread.sendSignal, BoundedPipe.write, if_pos free]
      exact List.mem_append_right _ List.mem_cons_self
    · exact requested.sendSignal .signalTerminate

/--
A call of `postTerminateEvent` is heeded in every state that can follow it exactly when there were
fewer unread bytes than the pipe holds, or the thread had been requested to terminate before.

Being heeded means that the flag is set, or that a byte that sets it is unread.
-/
theorem terminate_request_kept_iff [DecidableEq ρ] {capacity : Nat} {before : ThreadBase μ ρ}
    (steps : Relation.ReflTransGen Step (started capacity) before) :
    (∀ after, Relation.ReflTransGen Step before.postTerminateEvent after →
      after.isTerminated = true ∨ ∃ byte ∈ after.pollerThread.unread, Terminates byte) ↔
    (before.pollerThread.unread.length < capacity ∨ before.isTerminated = true ∨
      ∃ byte ∈ before.pollerThread.unread, Terminates byte) := by
  have holds : before.pollerThread.capacity = capacity := by
    -- Induction on the steps that led here, none of which changes the size.
    induction steps with
    | refl => rfl
    | tail _ step ih => exact (capacity_of_step step).trans ih
  have posted := terminateRequested_postTerminateEvent before
  rw [holds] at posted
  constructor
  · intro heeded
    exact posted.mp (heeded _ .refl)
  · intro condition after later
    -- What the call leaves behind outlasts all later steps.
    exact EventMachine.steps_invariant later (posted.mpr condition)
      fun _ _ step requested => requested.step step

/-- A thread that one caller has posted so many messages to, while it was busy. -/
def busy (capacity : Nat) : Nat → ThreadBase Nat Unit
  | 0 => started capacity
  | posted + 1 => ((busy capacity posted).enqueue () [posted]).signalEventWakeUp ()

/-- The caller can post any number of messages, because it does not wait for the thread. -/
theorem steps_busy (capacity posted : Nat) :
    Relation.ReflTransGen Step (started capacity) (busy capacity posted) ∧
      (busy capacity posted).signalling () = false := by
  -- Each message is enqueued, and its byte is written before the next one is.
  induction posted with
  | zero => exact ⟨.refl, rfl⟩
  | succ posted ih =>
    obtain ⟨steps, idle⟩ := ih
    have enqueued : ((busy capacity posted).enqueue () [posted]).signalling () = true := by
      simp [enqueue]
    refine ⟨(steps.tail (.enqueue _ () [posted] idle)).tail (.signalEventWakeUp _ () enqueued), ?_⟩
    simp [busy, signalEventWakeUp]

/-- Every message leaves its byte in the pipe as long as there is room. -/
theorem unread_busy {capacity posted : Nat} (fits : posted ≤ capacity) :
    (busy capacity posted).isTerminated = false ∧
      (busy capacity posted).pollerThread =
        ⟨capacity, List.replicate posted ThreadSignals.signalWakeUp.toByte⟩ := by
  -- Induction on the messages, for each of which there is room.
  induction posted with
  | zero => exact ⟨rfl, rfl⟩
  | succ posted ih =>
    obtain ⟨running, pipe⟩ := ih (by omega)
    refine ⟨running, ?_⟩
    show (busy capacity posted).pollerThread.sendSignal .signalWakeUp = _
    have free : (List.replicate posted ThreadSignals.signalWakeUp.toByte).length < capacity := by
      rw [List.length_replicate]
      omega
    rw [pipe, PollerThread.sendSignal, BoundedPipe.write, if_pos free, List.replicate_succ']

/-- A thread that is busy until its pipe is full never learns that it is to terminate. -/
theorem terminate_request_lost :
    Relation.ReflTransGen Step (started 65536) (busy 65536 65536) ∧
      ¬ ((busy 65536 65536).postTerminateEvent.isTerminated = true ∨
        ∃ byte ∈ (busy 65536 65536).postTerminateEvent.pollerThread.unread, Terminates byte) := by
  refine ⟨(steps_busy 65536 65536).1, fun requested => ?_⟩
  obtain ⟨running, pipe⟩ := unread_busy (Nat.le_refl 65536)
  have posted := (terminateRequested_postTerminateEvent _).mp requested
  rw [pipe, List.length_replicate] at posted
  rcases posted with free | terminated | ⟨byte, unread, terminates⟩
  · exact absurd free (Nat.lt_irrefl 65536)
  · rw [running] at terminated
    cases terminated
  · -- All the bytes are wake-ups.
    rw [pipe] at unread
    obtain rfl := List.eq_of_mem_replicate unread
    rw [Terminates, ThreadSignals.ofByte_toByte] at terminates
    cases terminates

/-- One message does not fill the pipe, and the request that follows it is heeded at once. -/
theorem terminate_request_kept_busy :
    let thread := (busy 65536 1).postTerminateEvent
    thread.isTerminated = true ∨ ∃ byte ∈ thread.pollerThread.unread, Terminates byte :=
  (terminate_request_kept_iff (steps_busy 65536 1).1).mpr (.inl (by decide)) _ .refl

end ThreadBase

end Threader
