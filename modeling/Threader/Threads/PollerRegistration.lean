import Mathlib.Data.Finset.Option
import Threader.Base.Placement
import Threader.Threads.Pollings

/-! Registering pollers whose descriptors change, and which of them stay listed. -/

namespace Threader

namespace Polling

/-- A listed poller has the descriptor that the poller to be registered has. -/
def shares (polling : Polling) (poller listed : PollerPtr) : Bool :=
  (polling.objects listed).descriptor = (polling.objects poller).descriptor

/-- The listed poller whose place a poller takes when it is registered. -/
def found (polling : Polling) (poller : PollerPtr) : Option PollerPtr :=
  polling.pollers.find? (polling.shares poller)

/-- The pollers that give way to another one with the same valid descriptor. -/
def replacedBy (polling : Polling) (poller : PollerPtr) : Finset PollerPtr :=
  if (polling.objects poller).descriptor = INVALID_DESCRIPTOR then ∅
  else (polling.found poller).toFinset

/-- Only a poller that is found gives way, and only if the descriptor is valid. -/
theorem mem_replacedBy {polling : Polling} {poller other : PollerPtr} :
    other ∈ polling.replacedBy poller ↔
      (polling.objects poller).descriptor ≠ INVALID_DESCRIPTOR ∧
        polling.found poller = some other := by
  -- An invalid descriptor makes no poller give way.
  unfold replacedBy
  split
  · rename_i invalid
    exact iff_of_false (Finset.notMem_empty other) fun both => both.1 invalid
  · rename_i valid
    rw [Option.mem_toFinset, Option.mem_def, and_iff_right valid]

end Polling

/-- A `Polling` together with what has been asked of it. -/
structure PollerRegistration where
  polling : Polling
  -- Pollers that have been registered, and not been unregistered since.
  registered : Finset PollerPtr
  -- Pollers that have given way to another one, and not been registered since.
  replaced : Finset PollerPtr

namespace PollerRegistration

open EventMachine (run Along)

/-- Nothing has been asked of a new `Polling`. -/
def created (objects : PollerPtr → Poller) : PollerRegistration := ⟨.created objects, ∅, ∅⟩

/-- The `Polling` reacts to an event, which is recorded. -/
def step (session : PollerRegistration) (event : PollingEvent) : PollerRegistration :=
  let polling := session.polling.step event
  match event with
  | .registerPoller poller =>
    { polling
      registered := insert poller session.registered
      replaced := (session.replaced ∪ session.polling.replacedBy poller).erase poller }
  | .unregisterPoller poller =>
    { session with polling, registered := session.registered.erase poller }
  | .change _ _ | .poll _ => { session with polling }

/-- The list contains each registered poller exactly once, and nothing else. -/
def ListsRegistered (session : PollerRegistration) : Prop :=
  session.polling.pollers.Nodup ∧
    ∀ poller, poller ∈ session.polling.pollers ↔ poller ∈ session.registered

/-- The list contains each registered poller that is not replaced exactly once, and nothing else. -/
structure Exact (session : PollerRegistration) : Prop where
  once : session.polling.pollers.Nodup
  listed : ∀ poller, poller ∈ session.polling.pollers ↔
    poller ∈ session.registered ∧ poller ∉ session.replaced

/--
A poller that is registered finds its descriptor at no other poller, or it is not listed yet and
the descriptor is valid.
-/
def Unmistaken (session : PollerRegistration) : PollingEvent → Prop
  | .registerPoller poller => ∀ found ∈ session.polling.found poller, found = poller ∨
      (poller ∉ session.polling.pollers ∧
        (session.polling.objects poller).descriptor ≠ INVALID_DESCRIPTOR)
  | _ => True

/-- Registering a poller keeps the list exact if and only if it is not mistaken for another one. -/
theorem Exact.registerPoller_iff {session : PollerRegistration} (exact : session.Exact)
    (poller : PollerPtr) :
    (session.step (.registerPoller poller)).Exact ↔
      session.Unmistaken (.registerPoller poller) := by
  -- The list stays exact in its repetitions and in its members, which are looked at apart.
  have once : (session.step (.registerPoller poller)).polling.pollers.Nodup ↔
      (poller ∈ session.polling.pollers → session.polling.found poller = some poller) :=
    Placement.nodup_place_iff exact.once
  -- Another one is dropped when it is found, and this is recorded if its descriptor is valid.
  have listed (other : PollerPtr) (different : other ≠ poller) :
      (other ∈ (session.step (.registerPoller poller)).polling.pollers ↔
          other ∈ insert poller session.registered ∧
            other ∉ (session.replaced ∪ session.polling.replacedBy poller).erase poller) ↔
        (session.polling.found poller = some other →
          (session.polling.objects poller).descriptor ≠ INVALID_DESCRIPTOR) := by
    have stays : other ∈ (session.step (.registerPoller poller)).polling.pollers ↔
        other = poller ∨
          (other ∈ session.polling.pollers ∧ session.polling.found poller ≠ some other) :=
      Placement.mem_place_iff exact.once
    have member : session.polling.found poller = some other → other ∈ session.polling.pollers :=
      List.mem_of_find?_eq_some
    rw [exact.listed] at stays member
    rw [stays, Finset.mem_insert, Finset.mem_erase, Finset.mem_union, Polling.mem_replacedBy,
      or_iff_right different, or_iff_right different, and_iff_right different, not_or]
    constructor
    · intro agree found invalid
      -- Not recorded, it would have to stay, although it is found.
      have kept := member found
      exact (agree.mpr ⟨kept.1, kept.2, fun both => both.1 invalid⟩).2 found
    · intro valid
      refine ⟨fun both => ⟨both.1.1, both.1.2, fun gives => both.2 gives.2⟩, fun both => ?_⟩
      exact ⟨⟨both.1, both.2.1⟩, fun found => both.2.2 ⟨valid found, found⟩⟩
  constructor
  · intro after found member
    by_cases own : found = poller
    · exact .inl own
    · refine .inr ⟨fun present => ?_, (listed found own).mp (after.listed found) member⟩
      -- One that is listed already would have to find itself.
      have itself := once.mp after.once present
      exact own (Option.some.inj (member.symm.trans itself))
  · intro unmistaken
    refine ⟨once.mpr fun present => ?_, fun other => ?_⟩
    · cases found : session.polling.found poller with
      | none =>
        -- Its own descriptor is found at the latest where it is listed.
        have unlike := List.find?_eq_none.mp found poller present
        simp [Polling.shares] at unlike
      | some first =>
        rw [(unmistaken first found).resolve_right fun new => new.1 present]
    · by_cases same : other = poller
      · subst same
        have placed : other ∈ (session.step (.registerPoller other)).polling.pollers :=
          (Placement.mem_place_iff exact.once).mpr (.inl rfl)
        exact iff_of_true placed ⟨Finset.mem_insert_self .., Finset.notMem_erase _ _⟩
      · exact (listed other same).mpr fun member =>
          ((unmistaken other member).resolve_left same).2

/-- Every event keeps the list exact, as long as no poller is mistaken for another. -/
theorem Exact.step {session : PollerRegistration} (exact : session.Exact) {event : PollingEvent}
    (unmistaken : session.Unmistaken event) : (session.step event).Exact := by
  -- Only registering can mistake one poller for another.
  cases event with
  | registerPoller poller => exact (exact.registerPoller_iff poller).mpr unmistaken
  | unregisterPoller poller =>
    refine ⟨exact.once.filter _, fun other => ?_⟩
    show other ∈ session.polling.pollers.filter (· ≠ poller) ↔
      other ∈ session.registered.erase poller ∧ other ∉ session.replaced
    rw [List.mem_filter, exact.listed, Finset.mem_erase, decide_eq_true_iff]
    exact and_right_comm.trans (and_congr_left' and_comm)
  | change poller call => exact ⟨exact.once, exact.listed⟩
  | poll revents => exact ⟨exact.once, exact.listed⟩

/-- There is an entry of the array for each listed poller, in every run. -/
theorem run_sized (objects : PollerPtr → Poller) (events : List PollingEvent) :
    (run step (created objects) events).polling.pollers.length =
      (run step (created objects) events).polling.pollStructArray.length := by
  -- The sizes are compared after every event.
  have preserved (session : PollerRegistration) (event : PollingEvent)
      (sized : session.polling.pollers.length = session.polling.pollStructArray.length) :
      (session.step event).polling.pollers.length =
        (session.step event).polling.pollStructArray.length := by
    -- The `Polling` of a session takes the step of the event.
    cases event <;> exact Polling.sized_step sized _
  exact EventMachine.run_invariant step preserved rfl events

/-- The pipe of a thread, which every thread registers, and clients that are not connected. -/
def pipeAndClients : PollerPtr → Poller
  | 0 => .base 5 POLLIN
  | _ => .tcpSocket .client false

/-- The pipe, a client that connects after it was registered, and another client. -/
def connectedInBetween : List PollingEvent :=
  [.registerPoller 0, .registerPoller 1,
    .change 1 (.handler (.open HandlerTcpSocket.pending 0)), .registerPoller 2]

end PollerRegistration

end Threader
