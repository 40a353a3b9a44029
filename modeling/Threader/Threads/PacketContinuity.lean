import Threader.Base.Breaks
import Threader.Threads.PassedPackets

/-! When the id of a received packet is reported as a discontinuity. -/

namespace Threader

namespace DataFramesPacketFactory

/-- The results of as many calls of `generateNextPacketId` one after another. -/
def generatedIds : Nat → DataFramesPacketFactory → List UInt32
  | 0, _ => []
  | count + 1, factory =>
    let generated := factory.generateNextPacketId
    generated.1 :: generatedIds count generated.2

/-- The id that is generated behind another one. -/
def nextId (packetId : UInt32) : UInt32 := (generateNextPacketId ⟨packetId⟩).1

/-- Generated ids follow each other. -/
theorem generatedIds_isChain (count : Nat) (factory : DataFramesPacketFactory) :
    (factory.generatedIds count).IsChain fun left right => right = nextId left := by
  induction count generalizing factory with
  | zero => exact .nil
  | succ count ih =>
    refine List.isChain_cons.mpr ⟨?_, ih _⟩
    intro second member
    -- The factory keeps the id that it has generated.
    cases count with
    | zero => cases member
    | succ count => exact (Option.some.inj member).symm

/-- Behind the greatest id comes the first one, and behind any other one its successor. -/
theorem nextId_toNat {packetId : UInt32} (counted : packetId.toNat ≤ maximumPacketId) :
    (nextId packetId).toNat =
      if packetId.toNat = maximumPacketId then 1 else packetId.toNat + 1 := by
  -- The successor never overflows, so comparing it tells the greatest id.
  have next := succ_toNat counted
  have limit : (packetId + 1 ≥ 0x1FFFFFFF) ↔ packetId.toNat = maximumPacketId := by
    show (0x1FFFFFFF : UInt32).toNat ≤ (packetId + 1).toNat ↔ _
    rw [next, show (0x1FFFFFFF : UInt32).toNat = maximumPacketId + 1 by decide]
    omega
  simp only [nextId, generateNextPacketId, limit, apply_ite UInt32.toNat, next]
  rfl

/-- No generated id is greater than the greatest one. -/
theorem generatedIds_le (count : Nat) (factory : DataFramesPacketFactory) :
    ∀ packetId ∈ factory.generatedIds count, packetId.toNat ≤ maximumPacketId := by
  -- A successor that reaches the limit is replaced by one.
  induction count generalizing factory with
  | zero => exact fun _ => nofun
  | succ count ih =>
    refine List.forall_mem_cons.mpr ⟨?_, ih _⟩
    unfold generateNextPacketId
    dsimp only
    split
    · decide
    · rename_i small
      have small : ¬ (0x1FFFFFFF : UInt32).toNat ≤ (factory.packetId + 1).toNat := small
      rw [show (0x1FFFFFFF : UInt32).toNat = maximumPacketId + 1 by decide] at small
      omega

/-- The next id is the successor unless it starts again. -/
theorem nextId_eq_iff {packetId : UInt32} (counted : packetId.toNat ≤ maximumPacketId) :
    nextId packetId = packetId + 1 ↔ packetId.toNat ≠ maximumPacketId := by
  have next := succ_toNat counted
  rw [← UInt32.toNat_inj, nextId_toNat counted, next]
  -- Only behind the greatest id the next one is not the sum.
  split
  · rename_i last
    rw [last]
    decide
  · rename_i before
    exact iff_of_true rfl before

/-- The id after the next one is never the successor. -/
theorem nextId_nextId_ne {packetId : UInt32} (counted : packetId.toNat ≤ maximumPacketId) :
    nextId (nextId packetId) ≠ packetId + 1 := by
  intro same
  have next := succ_toNat counted
  have first := nextId_toNat counted
  by_cases last : packetId.toNat = maximumPacketId
  · -- Behind the greatest id come one and two.
    rw [if_pos last] at first
    have second := nextId_toNat (show (nextId packetId).toNat ≤ maximumPacketId by
      rw [first]
      decide)
    rw [same, next, if_neg (by rw [first]; decide), last, first] at second
    exact absurd second (by decide)
  · -- Behind any other one comes its successor, and behind that one no successor of its own again.
    rw [if_neg last] at first
    have second := nextId_toNat (show (nextId packetId).toNat ≤ maximumPacketId by omega)
    rw [same, next] at second
    split at second
    · rename_i top
      rw [first] at top
      rw [top] at second
      exact absurd second (by decide)
    · omega

end DataFramesPacketFactory

/-- How often ids start again at one, each directly behind the greatest one. -/
def wraps (packetIds : List UInt32) : Nat :=
  packetIds.dropLast.countP fun packetId => packetId.toNat = maximumPacketId

open DataFramesPacketFactory in
/-- Generated ids are not each the successor of the one before only where they start again. -/
theorem breaks_eq_wraps {packetIds : List UInt32}
    (chain : packetIds.IsChain fun left right => right = nextId left)
    (counted : ∀ packetId ∈ packetIds, packetId.toNat ≤ maximumPacketId) :
    breaks (· + 1) packetIds = wraps packetIds := by
  rw [Breaks.of_isChain chain, wraps]
  -- Each id but the last one is looked at by itself.
  refine List.countP_congr fun packetId member => ?_
  have own := nextId_eq_iff (counted packetId (List.dropLast_subset packetIds member))
  simp only [decide_eq_true_eq]
  rw [ne_eq, own, Classical.not_not]

open DataFramesPacketFactory in
/-- Where one of some generated ids is left out, those on both sides of it are no neighbours. -/
theorem breaks_left_out {front back : List UInt32} {lost : UInt32}
    (chain : (front ++ lost :: back).IsChain fun left right => right = nextId left)
    (counted : ∀ packetId ∈ front ++ lost :: back, packetId.toNat ≤ maximumPacketId) :
    breaks (· + 1) (front ++ back) =
      wraps front + (if front = [] ∨ back = [] then 0 else 1) + wraps back := by
  obtain ⟨frontChain, lostChain, joined⟩ := List.isChain_append.mp chain
  obtain ⟨follows, backChain⟩ := List.isChain_cons.mp lostChain
  obtain ⟨frontCounted, lostCounted⟩ := List.forall_mem_append.mp counted
  obtain ⟨_, backCounted⟩ := List.forall_mem_cons.mp lostCounted
  have before := breaks_eq_wraps frontChain frontCounted
  have behind := breaks_eq_wraps backChain backCounted
  rcases List.eq_nil_or_concat' front with rfl | ⟨init, last, rfl⟩
  · -- What is left out at either end joins nothing.
    rw [List.nil_append, behind, if_pos (.inl rfl)]
    simp [wraps]
  · cases back with
    | nil =>
      rw [List.append_nil, before, if_pos (.inr rfl)]
      rfl
    | cons first back =>
      -- The id that is left out was generated between the two.
      have second : lost = nextId last := joined last (by simp) lost rfl
      have third : first = nextId lost := follows first rfl
      have apart : first ≠ last + 1 := by
        rw [third, second]
        exact nextId_nextId_ne (frontCounted last (by simp))
      rw [List.append_assoc, List.singleton_append, Breaks.append_cons, before, behind,
        if_neg apart, if_neg (by simp)]

/-- Whether the first of some ids is not the one that is waited for, if any is. -/
def unawaited (nextPacketId : Int) : List UInt32 → Nat
  | [] => 0
  | packetId :: _ => if nextPacketId ≥ 0 ∧ nextPacketId ≠ packetId.toNat then 1 else 0

namespace ThreadDataFrames

/-- The check of an id reports one discontinuity at most, and waits for the successor. -/
theorem checkPacketId_discontinuities (thread : ThreadDataFrames) (packetId : UInt32) :
    (thread.checkPacketId packetId).discontinuities =
        thread.discontinuities + unawaited thread.nextPacketId [packetId] ∧
      (thread.checkPacketId packetId).nextPacketId = (packetId + 1).toNat := by
  refine ⟨?_, rfl⟩
  rw [checkPacketId, unawaited]
  -- The hook is called under the same condition.
  split
  · simp [record, discontinuities, List.countP_append]
  · rfl

variable [QtText]

/-- The id of the packet that a thread receives in an event, if it does. -/
def heard (thread : ThreadDataFrames) : ThreadEvent → List UInt32
  | .packetReceived packet => if thread.hung then [] else [packet.packetId]
  | _ => []

/-- The ids of the packets that a thread receives in a run. -/
def received (thread : ThreadDataFrames) : List ThreadEvent → List UInt32
  | [] => []
  | event :: events => thread.heard event ++ (thread.react event).received events

/-- Within a connection, only a received packet reports a loss or changes what is awaited. -/
theorem react_discontinuities (thread : ThreadDataFrames) {event : ThreadEvent}
    (within : event.Within) :
    (thread.react event).discontinuities =
        thread.discontinuities + unawaited thread.nextPacketId (thread.heard event) ∧
      (thread.react event).nextPacketId =
        (thread.heard event).head?.elim thread.nextPacketId
          fun packetId => (packetId + 1).toNat := by
  obtain ⟨_, _, works⟩ := thread.react_one within
  -- All work behind the check of the id leaves both alone.
  rw [works.discontinuities, works.nextPacketId]
  cases event with
  | packetReceived packet =>
    by_cases hung : thread.hung = true
    · -- A thread that is caught in a loop receives nothing.
      rw [checked, heard, if_pos hung, if_pos hung]
      exact ⟨rfl, rfl⟩
    · rw [checked, heard, if_neg hung, if_neg hung]
      exact thread.checkPacketId_discontinuities packet.packetId
  | _ => exact ⟨rfl, rfl⟩

/-- Within a connection, a discontinuity is reported where an id is not the successor. -/
theorem run_discontinuities (thread : ThreadDataFrames) {events : List ThreadEvent}
    (within : ∀ event ∈ events, event.Within) :
    (EventMachine.run react thread events).discontinuities =
      thread.discontinuities + unawaited thread.nextPacketId (thread.received events) +
        breaks (· + 1) (thread.received events) := by
  -- A packet that is received sets what is awaited for the rest of the run.
  induction events generalizing thread with
  | nil => rfl
  | cons event events ih =>
    obtain ⟨first, others⟩ := List.forall_mem_cons.mp within
    obtain ⟨reported, awaits⟩ := thread.react_discontinuities first
    rw [EventMachine.run_cons, ih _ others, reported, awaits, received]
    generalize (thread.react event).received events = later
    -- An event lets one packet be received, or none.
    have alone : thread.heard event = [] ∨ ∃ packetId, thread.heard event = [packetId] := by
      cases event with
      | packetReceived packet =>
        by_cases hung : thread.hung = true
        · exact .inl (if_pos hung)
        · exact .inr ⟨packet.packetId, if_neg hung⟩
      | _ => exact .inl rfl
    rcases alone with none | ⟨packetId, one⟩
    · rw [none, List.nil_append]
      rfl
    · rw [one, List.singleton_append, breaks]
      cases later with
      | nil => rfl
      | cons second later =>
        -- The next packet is compared with the successor of this one.
        have same : unawaited ((packetId + 1).toNat : Int) (second :: later) =
            if second = packetId + 1 then 0 else 1 := by
          by_cases follows : second = packetId + 1
          · rw [if_pos follows, unawaited, follows, if_neg (by simp)]
          · have other : (packetId + 1).toNat ≠ second.toNat :=
              fun same => follows (UInt32.toNat_inj.mp same.symm)
            rw [if_neg follows, unawaited, if_pos (by omega)]
        rw [List.head?_cons, Option.elim_some, List.head?_cons, Option.elim_some, same]
        simp only [unawaited]
        omega

open DataFramesPacketFactory in
/--
Within a connection, generated ids that are all received are reported as often as the first of them
is not awaited, and they start again.

Where one of them is left out, this is so for the two parts of them, and one more is reported where
there are packets on both sides of it.
-/
theorem run_discontinuities_iff (thread : ThreadDataFrames) {events : List ThreadEvent}
    (within : ∀ event ∈ events, event.Within) (factory : DataFramesPacketFactory) (count : Nat) :
    (thread.received events = factory.generatedIds count →
      ((EventMachine.run react thread events).discontinuities = thread.discontinuities ↔
        unawaited thread.nextPacketId (factory.generatedIds count) = 0 ∧
          wraps (factory.generatedIds count) = 0)) ∧
    ∀ front lost back, factory.generatedIds count = front ++ lost :: back →
      thread.received events = front ++ back →
      ((EventMachine.run react thread events).discontinuities = thread.discontinuities + 1 ↔
        unawaited thread.nextPacketId (front ++ back) + wraps front +
          (if front = [] ∨ back = [] then 0 else 1) + wraps back = 1) := by
  have reported := thread.run_discontinuities within
  have chain := generatedIds_isChain count factory
  have counted := generatedIds_le count factory
  constructor
  · intro all
    rw [reported, all, breaks_eq_wraps chain counted]
    omega
  · intro front lost back split rest
    -- What is received is the two parts around the one that is lost.
    rw [split] at chain counted
    rw [reported, rest, breaks_left_out chain counted]
    omega

omit [QtText] in
/-- A client that has just connected waits for no id. -/
theorem setConnectionState_nextPacketId {thread : ThreadDataFrames}
    (unconnected : thread.handler.connectionState ≠ .connected) :
    (thread.setConnectionState .connected).nextPacketId = -1 := by
  simp only [setConnectionState, if_neg (Ne.symm unconnected), if_true]

/-- A client that has just connected reports generated ids only where they start again. -/
theorem run_connected {thread : ThreadDataFrames}
    (unconnected : thread.handler.connectionState ≠ .connected) {events : List ThreadEvent}
    (within : ∀ event ∈ events, event.Within) {factory : DataFramesPacketFactory} {count : Nat}
    (all : (thread.setConnectionState .connected).received events = factory.generatedIds count) :
    (EventMachine.run react (thread.setConnectionState .connected) events).discontinuities =
      thread.discontinuities + wraps (factory.generatedIds count) := by
  have silent : (thread.setConnectionState .connected).discontinuities = thread.discontinuities := by
    simp only [setConnectionState, if_neg (Ne.symm unconnected), discontinuities]
  -- No id is negative, so the first one is not compared with anything.
  have nothing : unawaited (-1) (factory.generatedIds count) = 0 := by
    cases factory.generatedIds count <;> rfl
  rw [run_discontinuities _ within, all, silent, setConnectionState_nextPacketId unconnected, nothing,
    breaks_eq_wraps (factory.generatedIds_isChain count) (factory.generatedIds_le count), Nat.add_zero]

omit [QtText]

/-- A client that has just connected. -/
def freshClient : ThreadDataFrames :=
  (construct ⟨.disconnected, fun _ => 0, 0, []⟩ ⟨fun _ => 0, 0⟩ false none 7).setConnectionState
    .connected

/-- The thread of a socket that has just been accepted. -/
def freshServer : ThreadDataFrames :=
  construct ⟨.connected, fun _ => 0, 0, []⟩ ⟨fun _ => 0, 0⟩ false none 7

/-- The event of receiving a packet without data. -/
def emptyReceived (packetId : UInt32) : ThreadEvent :=
  .packetReceived ⟨.build .packetNeedsTicket 0 (CrcUtils.crc16 [] 0) packetId, [], []⟩

/-- A client that receives three packets of four reports the one that is left out. -/
theorem run_discontinuities_iff_client :
    let _ : QtText := .ascii
    let events := [emptyReceived 5, emptyReceived 6, emptyReceived 8]
    (EventMachine.run react freshClient events).discontinuities = 1 := by
  let _ : QtText := .ascii
  have within : ∀ event ∈ [emptyReceived 5, emptyReceived 6, emptyReceived 8], event.Within := by
    simp [emptyReceived, ThreadEvent.Within]
  have counted := (freshClient.run_discontinuities_iff within ⟨4⟩ 4).2 [5, 6] 7 [8] (by decide)
    (by decide)
  exact counted.mpr (by decide)

/--
A client reports a loss between the greatest id and the one that follows it, and a thread that was
started for an accepted socket may report one in front of the first packet.
-/
theorem run_misreports :
    let _ : QtText := .ascii
    (DataFramesPacketFactory.generatedIds 2 ⟨0x1FFFFFFD⟩ = [0x1FFFFFFE, 1] ∧
      freshClient.received [emptyReceived 0x1FFFFFFE, emptyReceived 1] = [0x1FFFFFFE, 1] ∧
      (EventMachine.run react freshClient
        [emptyReceived 0x1FFFFFFE, emptyReceived 1]).discontinuities = 1) ∧
    (DataFramesPacketFactory.init.generatedIds 1 = [1] ∧
      freshServer.received [emptyReceived 1] = [1] ∧
      (EventMachine.run react freshServer [emptyReceived 1]).discontinuities = 1) := by
  decide

end ThreadDataFrames

end Threader
