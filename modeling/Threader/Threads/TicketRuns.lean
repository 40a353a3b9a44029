import Threader.Threads.TicketRefinement

/-! What holds of the queue in every run of a thread, and what a ticket may take out of it. -/

namespace Threader

/-- Every event is one that makes a thread apply tickets of any ids. -/
theorem ThreadEvent.ticketsAllowed_true (event : ThreadEvent) :
    event.TicketsAllowed fun _ => True := by
  -- Only the received packets say anything about ids at all.
  cases event with
  | packetReceived packet => exact fun _ _ _ => trivial
  | _ => trivial

namespace ThreadDataFrames

/-- A thread as its constructor leaves it, with any device, any buffers and any clock. -/
structure Initial (thread : ThreadDataFrames) : Prop where
  currentPacket : thread.currentPacket = none
  queued : thread.queued = []
  dataFramesPacketFactory : thread.dataFramesPacketFactory = .init
  calls : thread.calls = []

namespace Initial

variable {start : ThreadDataFrames}

/-- With nothing queued and nothing sent, nothing is on its way. -/
theorem stopAndWait (initial : start.Initial) : start.tickets.StopAndWait := by
  have empty : start.tickets.queued = [] := initial.queued
  have silent : start.tickets.calls = [] := initial.calls
  have counter : start.tickets.factory = .init := initial.dataFramesPacketFactory
  -- The queue and the calls are empty, and the counter starts below the first id.
  refine ⟨⟨?_, ?_, ?_, ?_, ?_⟩, .idle initial.currentPacket ?_⟩
  · rw [counter]
    decide
  · simp [empty]
  · simp [empty]
  · simp [empty]
  · simp [silent]
  · simp [empty]

/-- With nothing queued, nothing has been acknowledged either. -/
theorem inOrder (initial : start.Initial) : start.tickets.InOrder := by
  have empty : start.tickets.queued = [] := initial.queued
  have silent : start.tickets.calls = [] := initial.calls
  exact ⟨initial.stopAndWait, [], by rw [empty, silent]; rfl, by simp⟩

end Initial

/-- A thread with a queue, connected to a device that accepts whatever it is offered. -/
def connected (framesFactory : Option DataFramesFactory) : ThreadDataFrames where
  handler := ⟨.connected, fun _ => 0x7FFFFFFF, 0, []⟩
  inputBuffer := []
  outputStream := .ofData []
  lastPacketSent := 0
  lastPacketReceived := 0
  clock := ⟨fun _ => 0, 0⟩
  nextPacketId := -1
  currentPacket := none
  dataFramesPacketFactory := .init
  queuePackets := some ⟨[]⟩
  framesFactory := framesFactory
  heap := .empty
  calls := []
  hung := false

/-- A frame without atoms that needs a ticket. -/
def ticketedFrame : DataFrame :=
  ⟨some ⟨[0x54], false, 1, true, 0, []⟩, [], 1, 0, 0⟩

/-- A ticket whose data are an empty id. -/
def emptyTicket : DataFramesPacket :=
  ⟨.build .ticket 4 (CrcUtils.crc16 [0, 0, 0, 0] 4) 1, [0, 0, 0, 0], []⟩

variable [QtText]

/-- An event leaves at most one packet on its way. -/
theorem react_stopAndWait (thread : ThreadDataFrames) (event : ThreadEvent)
    (holds : thread.tickets.StopAndWait) : (thread.react event).tickets.StopAndWait :=
  -- The event takes steps of the tickets, each of which keeps the invariant.
  EventMachine.steps_invariant (thread.react_steps event.ticketsAllowed_true) holds
    fun _ _ step => step.stopAndWait

/-- An event that applies no ticket without an id keeps the order. -/
theorem react_inOrder (thread : ThreadDataFrames) (event : ThreadEvent)
    (named : event.TicketsAllowed (· ≠ 0)) (holds : thread.tickets.InOrder) :
    (thread.react event).tickets.InOrder :=
  -- The event takes steps of the tickets, none of which applies the empty id.
  EventMachine.steps_invariant (thread.react_steps named) holds fun _ _ step => step.inOrder

/--
Stop and wait, in every run in which every ticket that is applied has an id.

At most the first packet of the queue has an id, and then it is the current one.
A ticket removes nothing or that packet, so packets are acknowledged in the order they were queued.
-/
theorem run_stopAndWait {start : ThreadDataFrames} (initial : start.Initial)
    {events : List ThreadEvent} (named : ∀ event ∈ events, event.TicketsAllowed (· ≠ 0)) :
    let thread := EventMachine.run react start events
    (∀ packet ∈ thread.queued.tail, thread.heap.packetId packet = some 0) ∧
    ((thread.currentPacket = none ∧
        ∀ packet ∈ thread.queued, thread.heap.packetId packet = some 0) ∨
      ∃ head rest packetId, thread.queued = head :: rest ∧ thread.currentPacket = some head ∧
        thread.heap.packetId head = some packetId ∧
        1 ≤ packetId.toNat ∧ packetId.toNat ≤ 0x1FFFFFFE) ∧
    (∀ packetId, packetId ≠ 0 →
      (thread.applyTicket packetId).2.queued = thread.queued ∨
        ∃ head, thread.queued = head :: (thread.applyTicket packetId).2.queued) ∧
    ∃ acknowledged,
      TicketState.queuedCalls thread.calls = acknowledged ++ thread.queued ∧
      ∀ packet ∈ acknowledged, ∃ sent, .sendPacket packet sent ∈ thread.calls := by
  intro thread
  -- The order is carried from event to event.
  have holds := EventMachine.run_invariant_of_admitted react react_inOrder initial.inOrder named
  refine ⟨holds.unnamed, ?_, ?_, holds.ordered⟩
  · -- The two states of the window are the two cases of the statement.
    cases holds.window with
    | idle idle unnamed => exact .inl ⟨idle, unnamed⟩
    | busy queued current found range _ _ =>
      exact .inr ⟨_, _, _, queued, current, found, range.1, range.2⟩
  · -- A ticket applied next removes the first packet at most.
    intro packetId nonempty
    obtain ⟨due, applied⟩ := thread.applyTicket_tickets packetId
    have after : (thread.applyTicket packetId).2.queued =
        (thread.tickets.remove packetId due).queued := congrArg TicketState.queued applied
    rw [after]
    rcases holds.toStopAndWait.remove_named nonempty due with same | ⟨head, rest, queued, removed, _⟩
    · exact .inl same
    · exact .inr ⟨head, removed ▸ queued⟩

omit [QtText] in
/-- Of two packets with tickets the first one is acknowledged, and the second one is sent. -/
theorem run_stopAndWait_two :
    let events := [.sendFrame (some ticketedFrame), .sendFrame (some ticketedFrame), .applyTicket 1]
    let thread := EventMachine.run (@react .ascii) (connected none) events
    thread.queued = [1] ∧ ∃ acknowledged,
      TicketState.queuedCalls thread.calls = acknowledged ++ thread.queued ∧
      ∀ packet ∈ acknowledged, ∃ sent, .sendPacket packet sent ∈ thread.calls := by
  intro events thread
  have initial : (connected none).Initial := ⟨rfl, rfl, rfl, rfl⟩
  have named : ∀ event ∈ events, event.TicketsAllowed (· ≠ 0) := by
    simp [events, ThreadEvent.TicketsAllowed]
  exact ⟨by decide, (@run_stopAndWait .ascii _ initial _ named).2.2.2⟩

/-- The packets that a received ticket removes were sent under its id since the last reset. -/
def RemovesOnlySent (thread : ThreadDataFrames) : ThreadEvent → Prop
  | .packetReceived packet => packet.header.packetType = .ticket →
      ∀ waiting ∈ thread.queued, waiting ∉ (thread.react (.packetReceived packet)).queued →
        ∃ packetId, ticketId packet = some packetId ∧ SentSinceReset thread.calls waiting packetId
  | _ => True

omit [QtText] in
/-- A received ticket has an id, or every packet that waits has one. -/
def NamesNoWaiting (thread : ThreadDataFrames) : ThreadEvent → Prop
  | .packetReceived packet => thread.hung = false → packet.header.packetType = .ticket →
      ticketId packet = some 0 → ∀ waiting ∈ thread.queued, thread.heap.packetId waiting ≠ some 0
  | _ => True

omit [QtText] in
/-- The check of the id of a received packet touches neither the queue nor the ids in it. -/
theorem checkPacketId_queued (thread : ThreadDataFrames) (packetId : UInt32) :
    (thread.checkPacketId packetId).queued = thread.queued ∧
      (thread.checkPacketId packetId).heap = thread.heap := by
  -- At most a discontinuity is reported.
  unfold checkPacketId
  dsimp only
  split
  · exact ⟨rfl, rfl⟩
  · exact ⟨rfl, rfl⟩

/-- Handing frames on leaves the queue alone. -/
theorem restoreFrames_queued (thread : ThreadDataFrames) (packet : DataFramesPacket) :
    (thread.restoreFrames packet).2.queued = thread.queued := by
  -- The call of the hook is kept, and nothing else happens.
  unfold restoreFrames
  split
  · rfl
  · split <;> rfl

/-- A received packet removes nothing from the queue, unless it is a ticket for what it removes. -/
theorem mem_onPacketReceived {thread : ThreadDataFrames} {packet : DataFramesPacket}
    {waiting : PacketPtr} :
    waiting ∈ (thread.onPacketReceived packet).2.queued ↔
      waiting ∈ thread.queued ∧ (packet.header.packetType = .ticket →
        ∀ packetId, ticketId packet = some packetId →
          thread.heap.packetId waiting ≠ some packetId) := by
  obtain ⟨sameQueue, sameHeap⟩ := thread.checkPacketId_queued packet.packetId
  unfold onPacketReceived
  dsimp only
  split
  · -- The packet is answered, which sends a ticket past the queue.
    rename_i type
    have noTicket : packet.header.packetType ≠ .ticket := by
      rcases type with same | same <;> rw [same] <;> decide
    have answered : ((thread.checkPacketId packet.packetId).sendTicket packet.packetId).queued =
        thread.queued :=
      (congrArg TicketState.queued (sendTicket_tickets _ _)).trans
        ((TicketState.Quiet.answer _ _).queued.trans sameQueue)
    split
    · rw [restoreFrames_queued, answered]
      simp [noTicket]
    · rw [answered]
      simp [noTicket]
  · split
    · rename_i type
      cases named : ticketId packet with
      | none => simp [sameQueue]
      | some packetId =>
        -- The ticket is applied, which removes the packets of its id.
        obtain ⟨due, applied⟩ := (thread.checkPacketId packet.packetId).applyTicket_tickets packetId
        have removed := (congrArg TicketState.queued applied).trans (TicketState.remove_queued _ _ _)
        have kept : ((thread.checkPacketId packet.packetId).applyTicket packetId).2.queued =
            thread.queued.filter (thread.heap.packetId · ≠ some packetId) := by
          rw [← sameQueue, ← sameHeap]
          exact removed
        simp [kept, type]
    · rename_i noTicket
      simp [sameQueue, noTicket]

omit [QtText] in
/-- A packet that waits with an id is the current one, and was sent under that id. -/
theorem sent_of_named {thread : ThreadDataFrames} (holds : thread.tickets.StopAndWait)
    {waiting : PacketPtr} (member : waiting ∈ thread.queued) {packetId : UInt32}
    (named : thread.heap.packetId waiting = some packetId) (nonempty : packetId ≠ 0) :
    SentSinceReset thread.calls waiting packetId := by
  -- In an idle window nothing has an id, and in a busy one only the first packet has.
  cases holds.window with
  | idle _ unnamed =>
    have zero := (unnamed waiting member).symm.trans named
    exact absurd (Option.some_inj.mp zero).symm nonempty
  | @busy head rest current queued _ found _ sent unnamed =>
    have inside : waiting ∈ head :: rest := by
      rw [← queued]
      exact member
    rcases List.mem_cons.mp inside with rfl | later
    · cases found.symm.trans named
      exact sent
    · have zero := (unnamed waiting later).symm.trans named
      exact absurd (Option.some_inj.mp zero).symm nonempty

/-- A ticket only removes sent packets, unless it has no id and a packet without one waits. -/
theorem removesOnlySent_iff (thread : ThreadDataFrames) (event : ThreadEvent)
    (holds : thread.tickets.StopAndWait) :
    thread.RemovesOnlySent event ↔ thread.NamesNoWaiting event := by
  cases event with
  | packetReceived packet =>
    have received (running : thread.hung = false) : thread.react (.packetReceived packet) =
        (thread.onPacketReceived packet).2 := by simp [react, running]
    constructor
    · intro onlySent running type empty waiting member unnamed
      -- A packet without an id that waits would be removed, although nothing is sent without one.
      have removed : waiting ∉ (thread.react (.packetReceived packet)).queued := by
        rw [received running, mem_onPacketReceived]
        exact fun kept => kept.2 type 0 empty unnamed
      obtain ⟨packetId, named, sent, found, same⟩ := onlySent type waiting member removed
      cases empty.symm.trans named
      exact holds.named waiting sent (sinceReset_subset _ found) same
    · intro noWaiting type waiting member removed
      cases running : thread.hung with
      | true =>
        -- A thread that is caught in a loop removes nothing.
        have unchanged : thread.react (.packetReceived packet) = thread := by simp [react, running]
        exact absurd member (unchanged ▸ removed)
      | false =>
        rw [received running, mem_onPacketReceived] at removed
        obtain ⟨packetId, named, own⟩ : ∃ packetId, ticketId packet = some packetId ∧
            thread.heap.packetId waiting = some packetId := by
          simpa [member, type] using removed
        refine ⟨packetId, named, sent_of_named holds member own ?_⟩
        -- The id is not the empty one, because the ticket would then be excluded.
        rintro rfl
        exact noWaiting running type named waiting member own
  | _ => exact Iff.rfl

/--
In every run, received tickets only ever remove packets that were sent under their ids,
exactly if none of them has the empty id while a packet waits that has not been given one.
-/
theorem run_removesOnlySent_iff {start : ThreadDataFrames} (initial : start.Initial)
    (events : List ThreadEvent) :
    EventMachine.Along react RemovesOnlySent start events ↔
      EventMachine.Along react NamesNoWaiting start events :=
  -- The two relations agree at every step from a state in which at most one packet is sent.
  EventMachine.along_iff react react_stopAndWait removesOnlySent_iff initial.stopAndWait events

omit [QtText] in
/-- While only the packet that was sent waits, a ticket with the empty id removes nothing. -/
theorem run_removesOnlySent_iff_single :
    EventMachine.Along (@react .ascii) (@RemovesOnlySent .ascii) (connected none)
      [.sendFrame (some ticketedFrame), .packetReceived emptyTicket] := by
  refine (@run_removesOnlySent_iff .ascii _ ⟨rfl, rfl, rfl, rfl⟩ _).mpr ⟨trivial, ?_, trivial⟩
  intro _ _ _
  decide

omit [QtText] in
/-- A ticket with the empty id removes the second of two packets, which was never sent. -/
theorem run_removesOnlySent_fails :
    ¬ EventMachine.Along (@react .ascii) (@RemovesOnlySent .ascii) (connected none)
      [.sendFrame (some ticketedFrame), .sendFrame (some ticketedFrame),
        .packetReceived emptyTicket] := by
  rintro ⟨_, _, onlySent, _⟩
  have initial : (connected none).Initial := ⟨rfl, rfl, rfl, rfl⟩
  have holds := EventMachine.run_invariant (@react .ascii) (@react_stopAndWait .ascii)
    initial.stopAndWait [.sendFrame (some ticketedFrame), .sendFrame (some ticketedFrame)]
  -- The second packet still has the empty id when the ticket arrives.
  have noWaiting := (@removesOnlySent_iff .ascii _ _ holds).mp onlySent
  exact noWaiting rfl rfl rfl 1 (by decide) (by decide)

end ThreadDataFrames

end Threader
