import Mathlib.Logic.Function.Basic
import Threader.Threads.TicketRefinement

/-! Two threads whose devices are the ends of one connection, a reliable stream in each direction. -/

namespace Threader

/-- The two ends of a connection. -/
inductive Side
  | client
  | server
deriving DecidableEq, Repr

namespace Side

/-- The other end. -/
def peer : Side → Side
  | client => server
  | server => client

@[simp] theorem peer_peer (side : Side) : side.peer.peer = side := by cases side <;> rfl

@[simp] theorem peer_ne (side : Side) : side.peer ≠ side := by cases side <;> decide

/-- An end that is not a given one is its peer. -/
theorem eq_peer_of_ne {side other : Side} (different : other ≠ side) : other = side.peer := by
  cases side <;> cases other <;> first | rfl | exact absurd rfl different

end Side

/-- The threads at both ends, and how many bytes of its peer's output each of them has read. -/
structure Link where
  thread : Side → ThreadDataFrames
  arrived : Side → Nat

/-- What the owner and the device of a thread ask of it, apart from reading. -/
inductive ThreadAction
  | sendFrame (frame : Option DataFrame)
  | processQueue
  | resetQueue
  | readyToWrite

/-- An action as an event of the thread. -/
def ThreadAction.event : ThreadAction → ThreadEvent
  | .sendFrame frame => .sendFrame frame
  | .processQueue => .processQueue
  | .resetQueue => .resetQueue
  | .readyToWrite => .readyToWrite

/-- What may happen to a link: the slot for reading runs as a whole, with reads of any sizes. -/
inductive LinkEvent
  | act (side : Side) (action : ThreadAction)
  | readyToRead (side : Side) (counts : List Nat)

/-- The parts of what may happen to a link: the loop over received packets runs turn by turn. -/
inductive LinkStep
  | act (side : Side) (action : ThreadAction)
  | readInput (side : Side) (counts : List Nat)
  | receiveTurn (side : Side)

/-- What a device answers to reads of the given sizes while the given bytes are there. -/
def slices : List Nat → List UInt8 → List QByteArray
  | [], _ => []
  | count :: counts, bytes => bytes.take count :: slices counts (bytes.drop count)

/-- Whatever the sizes, what is read is a front part of what is there. -/
theorem readLoop_slices (counts : List Nat) (bytes : List UInt8) :
    ThreadHandler.readLoop (slices counts bytes) <+: bytes := by
  -- Induction on the sizes, with what is still there left free to become shorter.
  induction counts generalizing bytes with
  | nil => exact List.nil_prefix
  | cons count counts ih =>
    rw [slices, ThreadHandler.readLoop]
    split
    · exact List.nil_prefix
    · -- The later reads go on behind the first one.
      have later := (List.prefix_append_right_inj (bytes.take count)).mpr (ih (bytes.drop count))
      rwa [List.take_append_drop] at later

namespace Link

/-- The bytes on their way to an end. -/
def channel (link : Link) (side : Side) : List UInt8 :=
  (link.thread side.peer).handler.output.drop (link.arrived side)

/-- Puts a thread in the place of the one at an end. -/
def update (link : Link) (side : Side) (thread : ThreadDataFrames) : Link :=
  { link with thread := Function.update link.thread side thread }

/-- Takes bytes from the way to an end. -/
def take (link : Link) (side : Side) (count : Nat) : Link :=
  { link with arrived := Function.update link.arrived side (link.arrived side + count) }

@[simp] theorem update_thread_self (link : Link) (side : Side) (thread : ThreadDataFrames) :
    (link.update side thread).thread side = thread := by
  simp [update]

@[simp] theorem update_thread_peer (link : Link) (side : Side) (thread : ThreadDataFrames) :
    (link.update side thread).thread side.peer = link.thread side.peer := by
  simp [update]

@[simp] theorem update_update (link : Link) (side : Side) (first second : ThreadDataFrames) :
    (link.update side first).update side second = link.update side second := by
  simp [update]

@[simp] theorem update_self (link : Link) (side : Side) :
    link.update side (link.thread side) = link := by
  simp [update]

@[simp] theorem update_arrived (link : Link) (side : Side) (thread : ThreadDataFrames) :
    (link.update side thread).arrived = link.arrived := rfl

@[simp] theorem take_thread (link : Link) (side : Side) (count : Nat) :
    (link.take side count).thread = link.thread := rfl

@[simp] theorem take_zero (link : Link) (side : Side) : link.take side 0 = link := by
  simp [take]

@[simp] theorem take_arrived_self (link : Link) (side : Side) (count : Nat) :
    (link.take side count).arrived side = link.arrived side + count := by
  simp [take]

@[simp] theorem take_arrived_peer (link : Link) (side : Side) (count : Nat) :
    (link.take side count).arrived side.peer = link.arrived side.peer := by
  simp [take]

/-- A thread that is not caught in a loop, and not disconnected, reads when it is told to. -/
def reads (link : Link) (side : Side) : Bool :=
  !(link.thread side).hung && (link.thread side).handler.connectionState ≠ .disconnected

variable [QtText]

/-- A link takes a step. -/
def step (link : Link) : LinkStep → Link
  | .act side action => link.update side ((link.thread side).react action.event)
  | .readInput side counts =>
    if link.reads side then
      let answers := slices counts (link.channel side)
      (link.update side ((link.thread side).readInput answers)).take side
        (ThreadHandler.readLoop answers).length
    else link
  | .receiveTurn side =>
    if (link.thread side).hung then link else link.update side (link.thread side).receiveTurn.2

/-- A link reacts to an event. -/
def react (link : Link) : LinkEvent → Link
  | .act side action => link.step (.act side action)
  | .readyToRead side counts =>
    if link.reads side then
      let answers := slices counts (link.channel side)
      (link.update side ((link.thread side).slotOnReadyToRead answers)).take side
        (ThreadHandler.readLoop answers).length
    else link

omit [QtText] in
@[simp] theorem take_update (link : Link) (side : Side) (count : Nat) (thread : ThreadDataFrames) :
    (link.take side count).update side thread = (link.update side thread).take side count := rfl

/-- There is another turn of the loop only for a thread that is not caught in a loop. -/
theorem receiveTurn_running {thread : ThreadDataFrames} (again : thread.receiveTurn.1 = true) :
    thread.receiveTurn.2.hung = false := by
  -- The turn says itself whether the thread is caught in a loop.
  unfold ThreadDataFrames.receiveTurn at again ⊢
  split at again
  · cases again
  · simpa using again

/-- The loop over the received packets is a number of its turns. -/
theorem receiveLoop_turns (side : Side) (fuel : Nat) (thread : ThreadDataFrames)
    (running : thread.hung = false) :
    ∃ turns, ∀ link : Link, link.thread side = thread →
      EventMachine.run step link (List.replicate turns (.receiveTurn side)) =
        link.update side (ThreadDataFrames.receiveLoop fuel thread) := by
  -- Induction on the fuel: each unit of it pays for one turn, and the last turn ends the loop.
  induction fuel generalizing thread with
  | zero =>
    refine ⟨0, fun link here => ?_⟩
    rw [ThreadDataFrames.receiveLoop, ← here, update_self]
    rfl
  | succ fuel ih =>
    have first (link : Link) (here : link.thread side = thread) :
        link.step (.receiveTurn side) = link.update side thread.receiveTurn.2 := by
      simp [step, here, running]
    rw [ThreadDataFrames.receiveLoop]
    -- Either there is another turn on the thread that this one left, or this was the last one.
    by_cases again : thread.receiveTurn.1 = true
    · obtain ⟨turns, later⟩ := ih thread.receiveTurn.2 (receiveTurn_running again)
      refine ⟨turns + 1, fun link here => ?_⟩
      rw [List.replicate_succ, EventMachine.run_cons, first link here, if_pos again,
        later _ (update_thread_self ..), update_update]
    · refine ⟨1, fun link here => ?_⟩
      rw [if_neg again]
      exact first link here

/-- Every event of a link is a sequence of its steps. -/
theorem react_eq_run (link : Link) (event : LinkEvent) :
    ∃ steps, link.react event = EventMachine.run step link steps := by
  -- An action is a step, and the slot for reading is one step for its input and some for its loop.
  cases event with
  | act side action => exact ⟨[.act side action], rfl⟩
  | readyToRead side counts =>
    by_cases reading : link.reads side = true
    · -- The slot reads its input first, and then takes the turns of its loop.
      have connected : ¬ (link.thread side).handler.connectionState = .disconnected := by
        simp only [reads, Bool.and_eq_true, decide_eq_true_eq, ne_eq] at reading
        exact reading.2
      have running : (link.thread side).hung = false := by
        simp only [reads, Bool.and_eq_true, Bool.not_eq_true'] at reading
        exact reading.1
      obtain ⟨turns, loop⟩ := receiveLoop_turns side
        (((link.thread side).readInput (slices counts (link.channel side))).inputBuffer.length + 1)
        ((link.thread side).readInput (slices counts (link.channel side))) running
      refine ⟨.readInput side counts :: List.replicate turns (.receiveTurn side), ?_⟩
      rw [EventMachine.run_cons]
      simp only [react, step, if_pos reading]
      have looped := loop (Link.take (link.update side
        ((link.thread side).readInput (slices counts (link.channel side)))) side
          (ThreadHandler.readLoop (slices counts (link.channel side))).length)
        (update_thread_self ..)
      rw [looped, take_update, update_update, ThreadDataFrames.slotOnReadyToRead, if_neg connected]
    · exact ⟨[], by simp only [react, if_neg reading, EventMachine.run_nil]⟩

end Link

end Threader
