import Threader.Base.BoundedPipe
import Threader.Base.EventMachine
import Threader.Threads.QueueMessages

/-! `ThreadBase` in the polling mode: messages are queued, and a byte in a pipe wakes their reader. -/

namespace Threader

/-- `ThreadSignals`. -/
inductive ThreadSignals
  | signalTerminate
  | signalWakeUp
  | signalTerminateChildThreads
deriving DecidableEq, Repr

namespace ThreadSignals

/-- The value of a signal, in the eight bits that go through the pipe. -/
def toByte : ThreadSignals → UInt8
  | .signalTerminate => 1
  | .signalWakeUp => 2
  | .signalTerminateChildThreads => 3

/-- The cases of the `switch` over a byte. -/
def ofByte (byte : UInt8) : Option ThreadSignals :=
  if byte = 1 then some .signalTerminate
  else if byte = 2 then some .signalWakeUp
  else if byte = 3 then some .signalTerminateChildThreads
  else none

/-- Every signal is recognised by its byte. -/
theorem ofByte_toByte (signal : ThreadSignals) : ofByte signal.toByte = some signal := by
  cases signal <;> rfl

end ThreadSignals

/-- `PollerThread`: the two ends of a pipe that does not block. -/
abbrev PollerThread := BoundedPipe UInt8

namespace PollerThread

/-- `sendSignal(signal)`: the result of `write` is not used. -/
def sendSignal (poller : PollerThread) (signal : ThreadSignals) : PollerThread :=
  poller.write signal.toByte

/-- `receiveSignal(signal)` and the `switch` in `process`, when there is something to read. -/
def process (poller : PollerThread) : Option (Option ThreadSignals × PollerThread) :=
  poller.read.map fun result => (ThreadSignals.ofByte result.1, result.2)

end PollerThread

/--
`ThreadBase` in the polling mode, before it has finished, and where its callers are.

Nothing is known about how many callers there are.
-/
structure ThreadBase (μ ρ : Type) where
  queue : QueueMessages μ
  pollerThread : PollerThread
  isTerminated : Bool
  -- The callers of `postMessage` between `enqueue` and `signalEventWakeUp`.
  signalling : ρ → Bool
  -- The thread is between reading a wake-up byte and `dequeueAll`.
  wokenUp : Bool
  -- The messages that were handed to `processMessage` so far.
  processed : List μ

namespace ThreadBase

variable {μ ρ : Type}

/-- A thread without messages, whose pipe has room for some bytes. -/
def started (capacity : Nat) : ThreadBase μ ρ :=
  ⟨⟨[]⟩, .empty capacity, false, fun _ => false, false, []⟩

/-- The first half of `postMessage(message)` and of `postMessages(messagesList)`. -/
def enqueue [DecidableEq ρ] (thread : ThreadBase μ ρ) (caller : ρ) (list : List μ) :
    ThreadBase μ ρ :=
  { thread with
    queue := thread.queue.enqueue list
    signalling := Function.update thread.signalling caller true }

/-- The second half of `postMessage(message)` and of `postMessages(messagesList)`. -/
def signalEventWakeUp [DecidableEq ρ] (thread : ThreadBase μ ρ) (caller : ρ) : ThreadBase μ ρ :=
  { thread with
    pollerThread := thread.pollerThread.sendSignal .signalWakeUp
    signalling := Function.update thread.signalling caller false }

/-- `postTerminateEvent()`. -/
def postTerminateEvent (thread : ThreadBase μ ρ) : ThreadBase μ ρ :=
  { thread with pollerThread := thread.pollerThread.sendSignal .signalTerminate }

/-- `postEventChildThreadTerminated()`. -/
def postEventChildThreadTerminated (thread : ThreadBase μ ρ) : ThreadBase μ ρ :=
  { thread with pollerThread := thread.pollerThread.sendSignal .signalTerminateChildThreads }

/-- `processMessages()`, which starts with `dequeueAll`. -/
def processMessages (thread : ThreadBase μ ρ) : ThreadBase μ ρ :=
  let messages := thread.queue.dequeueAll
  { thread with
    queue := messages.2
    wokenUp := false
    processed := thread.processed ++ messages.1 }

/-- The slots that a signal from the pipe leads to, up to the beginning of `processMessages`. -/
def onSignal (thread : ThreadBase μ ρ) : Option ThreadSignals → ThreadBase μ ρ
  | some .signalTerminate => { thread with isTerminated := true }
  | some .signalWakeUp => { thread with wokenUp := true }
  | some .signalTerminateChildThreads => thread
  | none => thread

/-- What the callers and the thread can do next, in any order. -/
inductive Step [DecidableEq ρ] : ThreadBase μ ρ → ThreadBase μ ρ → Prop
  | enqueue (thread : ThreadBase μ ρ) (caller : ρ) (list : List μ)
      (idle : thread.signalling caller = false) : Step thread (thread.enqueue caller list)
  | signalEventWakeUp (thread : ThreadBase μ ρ) (caller : ρ)
      (enqueued : thread.signalling caller = true) : Step thread (thread.signalEventWakeUp caller)
  | postTerminateEvent (thread : ThreadBase μ ρ) : Step thread thread.postTerminateEvent
  | postEventChildThreadTerminated (thread : ThreadBase μ ρ) :
      Step thread thread.postEventChildThreadTerminated
  | process (thread : ThreadBase μ ρ) (polls : thread.wokenUp = false)
      {signal : Option ThreadSignals} {poller : PollerThread}
      (reads : thread.pollerThread.process = some (signal, poller)) :
      Step thread ({ thread with pollerThread := poller }.onSignal signal)
  | processMessages (thread : ThreadBase μ ρ) : Step thread thread.processMessages

/-- A byte that wakes the thread up. -/
abbrev WakesUp (byte : UInt8) : Prop := ThreadSignals.ofByte byte = some .signalWakeUp

/-- A step while the other signals in the pipe leave room for one that wakes the thread up. -/
def RoomyStep [DecidableEq ρ] (before after : ThreadBase μ ρ) : Prop :=
  before.pollerThread.RoomFor WakesUp ∧ Step before after

/-- A byte in the pipe wakes the thread up, or someone is about to write one, or it is awake. -/
def WillWakeUp (thread : ThreadBase μ ρ) : Prop :=
  (∃ byte ∈ thread.pollerThread.unread, WakesUp byte) ∨
    (∃ caller, thread.signalling caller = true) ∨ thread.wokenUp = true

/-- No message waits without a wake-up. -/
def Attended (thread : ThreadBase μ ρ) : Prop := thread.queue.queue ≠ [] → thread.WillWakeUp

/-- Sending a signal takes no wake-up away. -/
theorem WillWakeUp.sendSignal {thread : ThreadBase μ ρ} (wakes : thread.WillWakeUp)
    (signal : ThreadSignals) :
    WillWakeUp { thread with pollerThread := thread.pollerThread.sendSignal signal } := by
  rcases wakes with ⟨byte, unread, wake⟩ | other
  · exact .inl ⟨byte, BoundedPipe.mem_write_of_mem unread, wake⟩
  · exact .inr other

/-- Reading a signal takes a wake-up from the pipe only to be woken up by it. -/
theorem WillWakeUp.process {thread : ThreadBase μ ρ} (wakes : thread.WillWakeUp)
    {signal : Option ThreadSignals} {poller : PollerThread}
    (reads : thread.pollerThread.process = some (signal, poller)) :
    ({ thread with pollerThread := poller }.onSignal signal).WillWakeUp := by
  obtain ⟨⟨byte, rest⟩, read, same⟩ := Option.map_eq_some_iff.mp reads
  obtain ⟨rfl, rfl⟩ := Prod.mk.inj same
  by_cases wake : WakesUp byte
  · -- The thread is awake now.
    rw [show ThreadSignals.ofByte byte = some .signalWakeUp from wake]
    exact .inr (.inr rfl)
  · have later : WillWakeUp { thread with pollerThread := rest } := by
      rcases wakes with ⟨other, unread, wakes⟩ | other
      · rcases BoundedPipe.mem_of_read read unread with rfl | unread
        · exact absurd wakes wake
        · exact .inl ⟨other, unread, wakes⟩
      · exact .inr other
    -- The other signals concern neither the pipe nor the callers.
    cases decoded : ThreadSignals.ofByte byte with
    | none => exact later
    | some signal =>
      cases signal with
      | signalTerminate => exact later
      | signalWakeUp => exact absurd decoded wake
      | signalTerminateChildThreads => exact later

/-- No step leaves messages without a wake-up. -/
theorem Attended.step [DecidableEq ρ] {before after : ThreadBase μ ρ} (attended : before.Attended)
    (steps : before.RoomyStep after) : after.Attended := by
  obtain ⟨room, step⟩ := steps
  cases step with
  | enqueue caller list idle =>
    -- The caller is about to write a wake-up byte.
    exact fun _ => .inr (.inl ⟨caller, Function.update_self ..⟩)
  | signalEventWakeUp caller enqueued =>
    -- The byte is in the pipe, or the pipe was full and holds another one.
    exact fun _ => .inl (BoundedPipe.exists_write room (ThreadSignals.ofByte_toByte .signalWakeUp))
  | postTerminateEvent => exact fun waits => (attended waits).sendSignal .signalTerminate
  | postEventChildThreadTerminated =>
    exact fun waits => (attended waits).sendSignal .signalTerminateChildThreads
  | process polls reads =>
    rename_i signal poller
    intro waits
    have queued : before.queue.queue ≠ [] := by
      cases signal with
      | none => exact waits
      | some signal => cases signal <;> exact waits
    exact (attended queued).process reads
  | processMessages =>
    intro waits
    exact absurd rfl waits

/--
Whatever the callers and the thread do, as long as the other signals leave room in the pipe, a
thread with messages is awake, or a byte that wakes it up is unread, or about to be written.

A thread that polls an empty pipe with messages in its queue is about to be sent a wake-up.
-/
theorem willWakeUp_of_steps [DecidableEq ρ] {capacity : Nat} {thread : ThreadBase μ ρ}
    (steps : Relation.ReflTransGen RoomyStep (started capacity) thread) :
    (thread.queue.queue ≠ [] →
      (∃ byte ∈ thread.pollerThread.unread, WakesUp byte) ∨
        (∃ caller, thread.signalling caller = true) ∨ thread.wokenUp = true) ∧
    (thread.queue.queue ≠ [] → thread.wokenUp = false → thread.pollerThread.unread = [] →
      ∃ caller, thread.signalling caller = true) := by
  -- The invariant names three ways of waking up, of which the last two may be excluded.
  have attended : thread.Attended :=
    EventMachine.steps_invariant steps (fun waits => absurd rfl waits)
      fun _ _ step before => before.step step
  refine ⟨attended, fun waits polls empty => ?_⟩
  rcases attended waits with ⟨byte, unread, _⟩ | coming | awake
  · rw [empty] at unread
    cases unread
  · exact coming
  · rw [polls] at awake
    cases awake

/-- A caller has posted a message, and its byte is the only one in the pipe. -/
theorem willWakeUp_of_steps_post :
    let thread : ThreadBase Nat Unit := ((started 1).enqueue () [7]).signalEventWakeUp ()
    (∃ byte ∈ thread.pollerThread.unread, WakesUp byte) ∨
      (∃ caller, thread.signalling caller = true) ∨ thread.wokenUp = true := by
  intro thread
  have posted : Relation.ReflTransGen RoomyStep (started 1) thread :=
    .tail (.single ⟨show 0 < 1 by omega, .enqueue _ () [7] rfl⟩)
      ⟨show 0 < 1 by omega, .signalEventWakeUp _ () rfl⟩
  exact (willWakeUp_of_steps posted).1 (List.cons_ne_nil 7 [])

end ThreadBase

end Threader
