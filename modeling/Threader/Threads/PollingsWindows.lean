import Threader.Threads.Pollings
import Threader.Threads.WakeUp

/-! `Polling` and `PollerThread` on Windows, where events that stay set take the place of a pipe. -/

namespace Threader

/-- `HANDLE` of an event, which stays set until it is reset. -/
abbrev EventHandle := Nat

/-- `Polling` on Windows: the registered pollers. -/
structure PollingWindows where
  -- What `events()` of a poller returns.
  events : PollerPtr → List EventHandle
  pollers : List PollerPtr

namespace PollingWindows

variable (polling : PollingWindows)

/-- `registerPoller(poller)`, which looks for the poller anywhere but in the first place. -/
def registerPoller (poller : PollerPtr) : Nat × PollingWindows :=
  let index : Int := match polling.pollers.idxOf? poller with
    | some index => index
    | none => -1
  let pollers := if index < 1 then polling.pollers ++ [poller] else polling.pollers
  (pollers.length, { polling with pollers := pollers })

/-- `unregisterPoller(poller)`. -/
def unregisterPoller (poller : PollerPtr) : Nat × PollingWindows :=
  let pollers := polling.pollers.filter (· ≠ poller)
  (pollers.length, { polling with pollers := pollers })

/-- `hasEvent(event)` of a poller. -/
def hasEvent (poller : PollerPtr) (event : EventHandle) : Bool := event ∈ polling.events poller

/-- `pollArray`: the events of all the pollers. -/
def pollArray : List EventHandle := polling.pollers.flatMap polling.events

/-- `WaitForMultipleObjects(..., false, timeout)`: the first event of the array that is set. -/
def waitForMultipleObjects (isSet : EventHandle → Bool) : Option EventHandle :=
  polling.pollArray.find? isSet

/-- The pollers whose `process` is called for an event, one call after another. -/
def processedBy (event : EventHandle) : List PollerPtr :=
  polling.pollers.filter (polling.hasEvent · event)

/-- What is asked of the registration. -/
inductive Event
  | registerPoller (poller : PollerPtr)
  | unregisterPoller (poller : PollerPtr)

/-- The `Polling` after a call. -/
def step (polling : PollingWindows) : Event → PollingWindows
  | .registerPoller poller => (polling.registerPoller poller).2
  | .unregisterPoller poller => (polling.unregisterPoller poller).2

/-- A poller that is registered is not the first one in the list. -/
def NotFirst (polling : PollingWindows) : Event → Prop
  | .registerPoller poller => polling.pollers.head? ≠ some poller
  | .unregisterPoller _ => True

/-- Registering a poller repeats it exactly if it is the first one already. -/
theorem nodup_registerPoller_iff {polling : PollingWindows} (nodup : polling.pollers.Nodup)
    (poller : PollerPtr) :
    (polling.registerPoller poller).2.pollers.Nodup ↔ polling.pollers.head? ≠ some poller := by
  -- The search finds the poller nowhere, in the first place, or behind it.
  unfold registerPoller
  dsimp only
  cases listed : polling.pollers with
  | nil => simp
  | cons first others =>
    rw [listed] at nodup
    obtain ⟨apart, distinct⟩ := List.nodup_cons.mp nodup
    rw [List.head?_cons, List.idxOf?_cons]
    by_cases same : first = poller
    · subst same
      simp [List.nodup_append]
    · have different : (first == poller) = false := by simpa using same
      rw [different]
      cases found : others.idxOf? poller with
      | none =>
        have absent : poller ∉ others := List.idxOf?_eq_none_iff.mp found
        have unlike (other : PollerPtr) (member : other ∈ others) : other ≠ poller :=
          fun equal => absent (equal ▸ member)
        simpa [same, List.nodup_append, apart, distinct] using unlike
      | some index =>
        have later : ¬ ((index : Int) + 1 < 1) := by omega
        simp [same, later, apart, distinct]

/--
No poller is ever listed twice, so that its events are processed once, exactly when the first
poller in the list is never registered again.

The search is meant to find a poller wherever it is listed.
-/
theorem run_nodup_iff (handles : PollerPtr → List EventHandle) (calls : List Event) :
    EventMachine.Along step (fun polling call => (polling.step call).pollers.Nodup) ⟨handles, []⟩
        calls ↔
      EventMachine.Along step NotFirst ⟨handles, []⟩ calls := by
  have agree (polling : PollingWindows) (call : Event) (_ : True) (nodup : polling.pollers.Nodup) :
      (polling.step call).pollers.Nodup ↔ polling.NotFirst call := by
    cases call with
    | registerPoller poller => exact nodup_registerPoller_iff nodup poller
    | unregisterPoller poller => exact iff_of_true (nodup.filter _) trivial
  exact EventMachine.along_iff_of_along step agree (fun _ _ _ _ nodup => nodup) List.nodup_nil
    ((EventMachine.along_iff_forall step).mpr fun _ _ => trivial)

end PollingWindows

/-- Where a thread is in `poll` on Windows. -/
inductive PollPhase
  -- Outside of `poll`, or waiting in it.
  | waiting
  -- The wait has returned with an event, which is to be reset.
  | returned (event : EventHandle)
  -- These pollers are still to process the event.
  | processing (event : EventHandle) (pollers : List PollerPtr)
  -- `PollerThread::process` has reset the event again, and is to emit its signal.
  | emitting (event : EventHandle) (pollers : List PollerPtr)
deriving DecidableEq, Repr

/-- `_pollerThread`. -/
def pollerThreadPtr : PollerPtr := 0

/-- The event of a signal, in the order in which `PollerThread` assigns them. -/
def ThreadSignals.event : ThreadSignals → EventHandle
  | .signalTerminate => 0
  | .signalTerminateChildThreads => 1
  | .signalWakeUp => 2

/-- The signal that `PollerThread::process` emits for an event. -/
def ThreadSignals.ofEvent (event : EventHandle) : Option ThreadSignals :=
  if event = signalTerminate.event then some .signalTerminate
  else if event = signalTerminateChildThreads.event then some .signalTerminateChildThreads
  else if event = signalWakeUp.event then some .signalWakeUp
  else none

/-- `ThreadBase` in the polling mode on Windows, and where its callers are. -/
structure ThreadWindows (μ ρ : Type) where
  queue : QueueMessages μ
  polling : PollingWindows
  isSet : EventHandle → Bool
  phase : PollPhase
  isTerminated : Bool
  -- The callers of `postMessage` between `enqueue` and `signalEventWakeUp`.
  signalling : ρ → Bool
  -- The messages that were handed to `processMessage` so far.
  processed : List μ
  -- How often the slot of each signal has been called.
  slots : ThreadSignals → Nat

namespace ThreadWindows

variable {μ ρ : Type}

/-- A thread without messages, whose pollers have been registered. -/
def started (polling : PollingWindows) : ThreadWindows μ ρ :=
  ⟨⟨[]⟩, polling, fun _ => false, .waiting, false, fun _ => false, [], fun _ => 0⟩

/-- `SetEvent(event)`. -/
def setEvent (thread : ThreadWindows μ ρ) (event : EventHandle) : ThreadWindows μ ρ :=
  { thread with isSet := Function.update thread.isSet event true }

/-- `ResetEvent(event)`. -/
def resetEvent (thread : ThreadWindows μ ρ) (event : EventHandle) : ThreadWindows μ ρ :=
  { thread with isSet := Function.update thread.isSet event false }

/-- `PollerThread::sendSignal(signal)`. -/
def sendSignal (thread : ThreadWindows μ ρ) (signal : ThreadSignals) : ThreadWindows μ ρ :=
  thread.setEvent signal.event

/-- The first half of `postMessage(message)` and of `postMessages(messagesList)`. -/
def enqueue [DecidableEq ρ] (thread : ThreadWindows μ ρ) (caller : ρ) (list : List μ) :
    ThreadWindows μ ρ :=
  { thread with
    queue := thread.queue.enqueue list
    signalling := Function.update thread.signalling caller true }

/-- The second half of `postMessage(message)` and of `postMessages(messagesList)`. -/
def signalEventWakeUp [DecidableEq ρ] (thread : ThreadWindows μ ρ) (caller : ρ) :
    ThreadWindows μ ρ :=
  { thread.sendSignal .signalWakeUp with
    signalling := Function.update thread.signalling caller false }

/-- `processMessages()`, which starts with `dequeueAll`. -/
def processMessages (thread : ThreadWindows μ ρ) : ThreadWindows μ ρ :=
  let messages := thread.queue.dequeueAll
  { thread with queue := messages.2, processed := thread.processed ++ messages.1 }

/-- The slot that a signal of `PollerThread` is connected to. -/
def slot (thread : ThreadWindows μ ρ) (signal : ThreadSignals) : ThreadWindows μ ρ :=
  let thread := { thread with
    slots := Function.update thread.slots signal (thread.slots signal + 1) }
  match signal with
  | .signalTerminate => { thread with isTerminated := true }
  | .signalWakeUp => thread.processMessages
  | .signalTerminateChildThreads => thread

/-- What the thread does next in `poll`, if it does not wait. -/
def advance (thread : ThreadWindows μ ρ) : ThreadWindows μ ρ :=
  match thread.phase with
  | .waiting => thread
  | .returned event =>
    { thread.resetEvent event with phase := .processing event (thread.polling.processedBy event) }
  | .processing _ [] => { thread with phase := .waiting }
  | .processing event (poller :: pollers) =>
    -- The other pollers do not concern the thread itself.
    if poller = pollerThreadPtr then
      { thread.resetEvent event with phase := .emitting event pollers }
    else { thread with phase := .processing event pollers }
  | .emitting event pollers =>
    let thread := { thread with phase := .processing event pollers }
    match ThreadSignals.ofEvent event with
    | some signal => thread.slot signal
    | none => thread

/-- What the callers and the thread can do next, in any order. -/
inductive Step [DecidableEq ρ] : ThreadWindows μ ρ → ThreadWindows μ ρ → Prop
  | enqueue (thread : ThreadWindows μ ρ) (caller : ρ) (list : List μ)
      (idle : thread.signalling caller = false) : Step thread (thread.enqueue caller list)
  | signalEventWakeUp (thread : ThreadWindows μ ρ) (caller : ρ)
      (enqueued : thread.signalling caller = true) : Step thread (thread.signalEventWakeUp caller)
  | sendSignal (thread : ThreadWindows μ ρ) (signal : ThreadSignals) :
      Step thread (thread.sendSignal signal)
  -- The other pollers' events are set by the system, and reset by their owners.
  | setOther (thread : ThreadWindows μ ρ) (event : EventHandle) (isSet : Bool)
      (other : ThreadSignals.ofEvent event = none) :
      Step thread { thread with isSet := Function.update thread.isSet event isSet }
  | returns (thread : ThreadWindows μ ρ) (waits : thread.phase = .waiting) {event : EventHandle}
      (first : thread.polling.waitForMultipleObjects thread.isSet = some event) :
      Step thread { thread with phase := .returned event }
  | advance (thread : ThreadWindows μ ρ) : Step thread thread.advance
  | processMessages (thread : ThreadWindows μ ρ) : Step thread thread.processMessages

end ThreadWindows

end Threader
