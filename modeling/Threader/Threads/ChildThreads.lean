import Mathlib.Data.List.Nodup
import Threader.Base.EventMachine
import Threader.Base.LiveObjects
import Threader.Frames.QueueDataFrames

/-! The list of child threads of a `ThreadBase`, from which the threads are deleted in two places. -/

namespace Threader

/-- Where `run()` is, as far as the list of child threads is concerned. -/
inductive RunPlace
  -- Before `terminateChildThreads`.
  | serving
  -- In the loop of `destroyTerminatedChildThreads`, with the children below an index to come.
  | destroying (index : Nat) (caller : RunPlace)
  -- In the first loop of `terminateChildThreads`, with the children below an index to come.
  | terminating (index : Nat)
  -- After `terminateChildThreads`: in the last `processMessages`, or in `onThreadFinished`.
  | finishing
deriving DecidableEq, Repr

/-- The child threads of a thread, among all the threads there are. -/
structure ChildThreads where
  childThreadsList : List ThreadPtr
  threads : LiveObjects ThreadPtr
  isFinished : ThreadPtr → Bool
  place : RunPlace

/-- What happens to the child threads; user code can run between any two events. -/
inductive ChildThreadsEvent
  | registerAndStartChildThread (thread : Option ThreadPtr)
  | finished (thread : ThreadPtr)
  | destroyTerminatedChildThreads
  | terminateChildThreads
  -- The thread goes on in the loop that it is in.
  | proceed
deriving DecidableEq, Repr

namespace ChildThreads

/-- A thread without children. -/
def started : ChildThreads := ⟨[], .undeleted, fun _ => false, .serving⟩

/-- `registerAndStartChildThread(thread)`; a thread that was started has not finished. -/
def registerAndStartChildThread (children : ChildThreads) : Option ThreadPtr → ChildThreads
  | none => children
  | some thread =>
    { children with
      childThreadsList := children.childThreadsList ++ [thread]
      isFinished := Function.update children.isFinished thread false }

/-- One turn of `destroyTerminatedChildThreads`, behind which `onDestroyTerminatedChildThread` is. -/
def destroy (children : ChildThreads) (index : Nat) (caller : RunPlace) : ChildThreads :=
  let children := { children with place := .destroying index caller }
  match children.childThreadsList[index]? with
  | some thread =>
    if children.isFinished thread then
      { children with
        threads := children.threads.delete thread
        childThreadsList := children.childThreadsList.eraseIdx index }
    else children
  | none => children

/-- One turn of the first loop of `terminateChildThreads`, which waits for a thread to finish. -/
def terminate (children : ChildThreads) (index : Nat) : ChildThreads :=
  match children.childThreadsList[index]? with
  | some thread =>
    if children.isFinished thread then { children with place := .terminating index } else children
  -- A handler has destroyed the threads from this index on.
  | none => { children with place := .terminating index }

/-- The second loop of `terminateChildThreads`, which leaves the list as it is. -/
def deleteChildThreads (children : ChildThreads) : ChildThreads :=
  { children with
    threads := children.threads.deleteAll children.childThreadsList.reverse
    place := .finishing }

/-- The state after an event; where an event has no place, nothing happens. -/
def step (children : ChildThreads) : ChildThreadsEvent → ChildThreads
  | .registerAndStartChildThread thread => children.registerAndStartChildThread thread
  | .finished thread =>
    { children with isFinished := Function.update children.isFinished thread true }
  | .destroyTerminatedChildThreads =>
    match children.place with
    | .destroying _ _ => children
    | caller => { children with place := .destroying children.childThreadsList.length caller }
  | .terminateChildThreads =>
    match children.place with
    | .serving => { children with place := .terminating children.childThreadsList.length }
    | _ => children
  | .proceed =>
    match children.place with
    | .serving | .finishing => children
    | .destroying 0 caller => { children with place := caller }
    | .destroying (index + 1) caller => children.destroy index caller
    | .terminating 0 => children.deleteChildThreads
    | .terminating (index + 1) => children.terminate index

/-- The list refers to threads that exist, and no thread was deleted twice. -/
def RefersToLive (children : ChildThreads) : Prop :=
  (∀ thread ∈ children.childThreadsList, children.threads.live thread = true) ∧
    ∀ thread, children.threads.deletions thread ≤ 1

/-- Only threads that exist are registered, and no thread is registered again. -/
def RegistersNew (children : ChildThreads) : ChildThreadsEvent → Prop
  | .registerAndStartChildThread (some thread) =>
    children.threads.live thread = true ∧ thread ∉ children.childThreadsList
  | _ => True

/-- The last loop of `terminateChildThreads` begins with an empty list. -/
def LeavesNoChild (children : ChildThreads) (event : ChildThreadsEvent) : Prop :=
  event = .proceed → children.place = .terminating 0 → children.childThreadsList = []

/-- The list refers to different threads that exist, and no thread was deleted twice. -/
structure Sound (children : ChildThreads) : Prop where
  live : ∀ thread ∈ children.childThreadsList, children.threads.live thread = true
  distinct : children.childThreadsList.Nodup
  threads : children.threads.Sound

namespace Sound

variable {children : ChildThreads}

/-- The list refers to what exists, in particular. -/
theorem refersToLive (sound : children.Sound) : children.RefersToLive :=
  ⟨sound.live, sound.threads.once⟩

/-- A new thread is another one than those in the list. -/
theorem register (sound : children.Sound) {thread : ThreadPtr}
    (live : children.threads.live thread = true) (new : thread ∉ children.childThreadsList) :
    (children.registerAndStartChildThread (some thread)).Sound := by
  refine ⟨fun other member => ?_, ?_, sound.threads⟩
  · -- The list grows at its end by a thread that exists.
    rcases List.mem_append.mp member with old | added
    · exact sound.live other old
    · rw [List.mem_singleton.mp added]
      exact live
  · refine List.nodup_append.mpr ⟨sound.distinct, List.nodup_singleton thread, ?_⟩
    rintro other old _ added rfl
    rw [List.mem_singleton.mp added] at old
    exact new old

/-- A thread that is deleted leaves the list at once. -/
theorem destroy (sound : children.Sound) (index : Nat) (caller : RunPlace) :
    (children.destroy index caller).Sound := by
  unfold ChildThreads.destroy
  dsimp only
  split
  · rename_i thread found
    split
    · obtain ⟨bound, rfl⟩ := List.getElem?_eq_some_iff.mp found
      refine ⟨fun other member => ?_, sound.distinct.sublist (List.eraseIdx_sublist ..),
        sound.threads.delete (sound.live _ (List.getElem_mem bound))⟩
      -- The others are different threads, because no thread is in the list twice.
      have different : other ≠ children.childThreadsList[index] := by
        rw [← sound.distinct.erase_getElem index bound] at member
        exact (sound.distinct.mem_erase_iff.mp member).1
      show (children.threads.delete _).live other = true
      rw [LiveObjects.live_delete_ne _ different]
      exact sound.live other (List.mem_of_mem_eraseIdx member)
    · exact ⟨sound.live, sound.distinct, sound.threads⟩
  · exact ⟨sound.live, sound.distinct, sound.threads⟩

/-- Waiting for a thread changes no thread. -/
theorem terminate (sound : children.Sound) (index : Nat) : (children.terminate index).Sound := by
  -- The loop goes on with the next index, or stays where it is.
  unfold ChildThreads.terminate
  split
  · split
    · exact ⟨sound.live, sound.distinct, sound.threads⟩
    · exact sound
  · exact ⟨sound.live, sound.distinct, sound.threads⟩

/-- Without children there is nothing to be deleted. -/
theorem deleteChildThreads (sound : children.Sound) (empty : children.childThreadsList = []) :
    children.deleteChildThreads.Sound := by
  -- The loop has nothing to go through.
  refine ⟨?_, sound.distinct, ?_⟩
  · intro thread member
    rw [show children.deleteChildThreads.childThreadsList = [] from empty] at member
    cases member
  · show (children.threads.deleteAll _).Sound
    rw [empty]
    exact sound.threads

/-- Every event keeps the list sound if it registers new threads and leaves no child behind. -/
theorem step (sound : children.Sound) {event : ChildThreadsEvent}
    (new : children.RegistersNew event) (empty : children.LeavesNoChild event) :
    (children.step event).Sound := by
  have moved : ∀ place, Sound { children with place := place } :=
    fun _ => ⟨sound.live, sound.distinct, sound.threads⟩
  -- Most events only move to another place.
  cases event with
  | registerAndStartChildThread thread =>
    cases thread with
    | none => exact sound
    | some thread => exact sound.register new.1 new.2
  | finished thread => exact ⟨sound.live, sound.distinct, sound.threads⟩
  | destroyTerminatedChildThreads =>
    cases place : children.place <;> simp only [ChildThreads.step, place]
    case destroying => exact sound
    all_goals exact moved _
  | terminateChildThreads =>
    cases place : children.place <;> simp only [ChildThreads.step, place]
    case serving => exact moved _
    all_goals exact sound
  | proceed =>
    cases place : children.place with
    | serving => simpa only [ChildThreads.step, place] using sound
    | destroying index caller =>
      cases index with
      | zero => simpa only [ChildThreads.step, place] using moved caller
      | succ index => simpa only [ChildThreads.step, place] using sound.destroy index caller
    | terminating index =>
      cases index with
      | zero => simpa only [ChildThreads.step, place] using sound.deleteChildThreads (empty rfl place)
      | succ index => simpa only [ChildThreads.step, place] using sound.terminate index
    | finishing => simpa only [ChildThreads.step, place] using sound

/-- The list is sound after an event exactly when the event leaves no child behind. -/
theorem refersToLive_step_iff (sound : children.Sound) {event : ChildThreadsEvent}
    (new : children.RegistersNew event) :
    (children.step event).RefersToLive ↔ children.LeavesNoChild event := by
  constructor
  · rintro ⟨live, _⟩ rfl place
    rw [ChildThreads.step, place] at live
    -- A child that was left has been deleted, and is still in the list.
    refine List.eq_nil_iff_forall_not_mem.mpr fun thread member => ?_
    have deleted : (children.threads.deleteAll children.childThreadsList.reverse).live thread = false :=
      LiveObjects.live_deleteAll (List.mem_reverse.mpr member)
    have lives := live thread member
    rw [show children.deleteChildThreads.threads.live thread = false from deleted] at lives
    cases lives
  · intro empty
    exact (sound.step new empty).refersToLive

end Sound

/--
In a run that registers no thread twice, the list refers to threads that exist in every state, and
no thread is deleted twice, exactly when the last loop of `terminateChildThreads` finds no child.

That loop deletes the threads, and leaves the list as it is.
-/
theorem refersToLive_iff {events : List ChildThreadsEvent}
    (new : EventMachine.Along step RegistersNew started events) :
    EventMachine.Along step (fun children event => (children.step event).RefersToLive) started
        events ↔
      EventMachine.Along step LeavesNoChild started events := by
  have initially : started.Sound :=
    ⟨fun _ none => absurd none List.not_mem_nil, List.nodup_nil, LiveObjects.Sound.undeleted⟩
  -- The lists that refer to live threads are the sound ones, as long as they were so before.
  refine EventMachine.along_iff_of_along step ?_ ?_ initially new
  · exact fun children event new sound => sound.refersToLive_step_iff new
  · exact fun children event new sound refers =>
      sound.step new ((sound.refersToLive_step_iff new).mp refers)

/-- A child is registered, and finishes, and then its parent is terminated. -/
def shutdown : List ChildThreadsEvent :=
  [.registerAndStartChildThread (some 1), .finished 1, .terminateChildThreads, .proceed, .proceed]

/-- The last messages are processed while the list refers to a thread that was deleted. -/
theorem refersToLive_fails :
    ¬ ∀ events, EventMachine.Along step RegistersNew started events →
      EventMachine.Along step (fun children event => (children.step event).RefersToLive)
        started events := by
  intro always
  obtain ⟨_, _, _, _, ⟨live, _⟩, _⟩ :=
    always shutdown ⟨⟨rfl, List.not_mem_nil⟩, trivial, trivial, trivial, trivial, trivial⟩
  have deleted : false = true := live 1 List.mem_cons_self
  cases deleted

/-- A child that was destroyed before its parent is terminated does no harm. -/
theorem refersToLive_iff_destroyed :
    EventMachine.Along step (fun children event => (children.step event).RefersToLive) started
        [.registerAndStartChildThread (some 1), .finished 1, .destroyTerminatedChildThreads,
          .proceed, .proceed, .terminateChildThreads, .proceed] ↔
      EventMachine.Along step LeavesNoChild started
        [.registerAndStartChildThread (some 1), .finished 1, .destroyTerminatedChildThreads,
          .proceed, .proceed, .terminateChildThreads, .proceed] :=
  refersToLive_iff ⟨⟨rfl, List.not_mem_nil⟩, trivial, trivial, trivial, trivial, trivial, trivial,
    trivial⟩

end ChildThreads

end Threader
