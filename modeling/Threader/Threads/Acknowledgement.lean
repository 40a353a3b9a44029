import Threader.Threads.Link
import Threader.Threads.TicketRuns

/-! What an acknowledgement says: packets with tickets are answered, but their frames are dropped. -/

namespace Threader

/-- The packets that frames were restored from, in the calls of `onFrameReceived`. -/
def restoredCalls (calls : List ThreadCall) : List DataFramesPacket :=
  calls.filterMap fun call =>
    match call with
    | .onFrameReceived _ _ received => some received
    | _ => none

theorem mem_restoredCalls {calls : List ThreadCall} {frames : List DataFrame} {packetId : UInt32}
    {received : DataFramesPacket} (member : .onFrameReceived frames packetId received ∈ calls) :
    received ∈ restoredCalls calls :=
  -- The call is one of those the packets are collected from.
  List.mem_filterMap.mpr ⟨_, member, rfl⟩

namespace TicketState

/-- A call that is not one of `onFrameReceived` restores no frames. -/
theorem restoredCalls_note (state : TicketState) {call : ThreadCall}
    (other : ∀ frames packetId received, call ≠ .onFrameReceived frames packetId received) :
    restoredCalls (state.note call).calls = restoredCalls state.calls := by
  -- Only one kind of call is collected.
  cases call with
  | onFrameReceived frames packetId received => exact absurd rfl (other frames packetId received)
  | _ => simp [TicketState.note, restoredCalls]

@[simp] theorem restoredCalls_send (state : TicketState) (packet : PacketPtr) :
    restoredCalls (state.send packet).calls = restoredCalls state.calls := by
  -- At most a call of `sendPacket` is added.
  unfold send
  split
  · rfl
  · exact restoredCalls_note state (by simp)

@[simp] theorem restoredCalls_advance (state : TicketState) (due : Bool) :
    restoredCalls (state.advance due).calls = restoredCalls state.calls := by
  -- Going on sends one packet at most.
  unfold advance
  split
  · split
    · exact restoredCalls_send ..
    · rfl
  · split
    · rfl
    · exact restoredCalls_send ..

/-- Frames are only restored from packets that need no tickets. -/
def RestoresUnticketed (state : TicketState) : Prop :=
  ∀ received ∈ restoredCalls state.calls, received.header.packetType = .packetWithoutTicket

/-- Only a call of `onFrameReceived` itself adds to the packets that frames were restored from. -/
theorem Step.restoresUnticketed {allowed : UInt32 → Prop} {before after : TicketState}
    (step : Step allowed before after) (holds : RestoresUnticketed before) :
    RestoresUnticketed after := by
  -- All steps but one kind leave the collected packets as they are.
  have unchanged (same : restoredCalls after.calls = restoredCalls before.calls) :
      RestoresUnticketed after := by
    rw [RestoresUnticketed, same]
    exact holds
  cases step with
  | @note call _ _ _ unticketed =>
    cases call with
    | onFrameReceived frames packetId received =>
      -- The packet of the new call needs no ticket, by the condition on such a step.
      intro other member
      simp only [TicketState.note, restoredCalls, List.filterMap_append, List.mem_append] at member
      rcases member with earlier | last
      · exact holds other earlier
      · rw [List.mem_singleton.mp last]
        exact unticketed frames packetId received rfl
    | _ => exact unchanged (restoredCalls_note before (by simp))
  | sendNow packet => exact unchanged (restoredCalls_send ..)
  | enqueue _ _ due =>
    apply unchanged
    rw [TicketState.enqueue, restoredCalls_advance]
    exact restoredCalls_note _ (by simp)
  | advance due => exact unchanged (restoredCalls_advance ..)
  | answer packetId =>
    apply unchanged
    unfold TicketState.answer
    dsimp only
    split
    · rfl
    · exact restoredCalls_send ..
  | remove _ due =>
    apply unchanged
    unfold TicketState.remove
    dsimp only
    split
    · rfl
    · rw [restoredCalls_advance]
      exact restoredCalls_note _ (by simp)
  | reset => exact unchanged (restoredCalls_note before (by simp))

end TicketState

namespace ThreadDataFrames

variable [QtText]

/-- A turn of the loop over the input takes the steps of handling a packet, or none. -/
theorem receiveTurn_steps (thread : ThreadDataFrames) :
    Relation.ReflTransGen (TicketState.Step fun _ => True) thread.tickets
      thread.receiveTurn.2.tickets := by
  -- Taking a packet out of the input is no step, and handling it is one of the events.
  unfold receiveTurn
  split
  · exact .refl
  · rename_i packet buffer _
    have extracted : (thread.packetExtracted buffer).tickets = thread.tickets := rfl
    rw [← extracted]
    exact onPacketReceived_steps _ fun _ _ _ => trivial

end ThreadDataFrames

namespace Link

variable [QtText]

/-- A step of a link takes steps of the tickets at one end. -/
theorem step_steps (link : Link) (step : LinkStep) (side : Side) :
    Relation.ReflTransGen (TicketState.Step fun _ => True) (link.thread side).tickets
      ((link.step step).thread side).tickets := by
  -- The other end does not change.
  have update {acting : Side} {thread : ThreadDataFrames}
      (steps : Relation.ReflTransGen (TicketState.Step fun _ => True) (link.thread acting).tickets
        thread.tickets) : Relation.ReflTransGen (TicketState.Step fun _ => True)
          (link.thread side).tickets ((link.update acting thread).thread side).tickets := by
    by_cases same : side = acting
    · subst same
      rw [update_thread_self]
      exact steps
    · rw [Side.eq_peer_of_ne same, update_thread_peer]
  cases step with
  | act acting action =>
    exact update ((link.thread acting).react_steps action.event.ticketsAllowed_true)
  | readInput acting counts =>
    simp only [Link.step]
    split
    · exact update .refl
    · exact .refl
  | receiveTurn acting =>
    simp only [Link.step]
    split
    · exact .refl
    · exact update (link.thread acting).receiveTurn_steps

/-- What holds of both ends of a link between its steps. -/
structure Endpoints (link : Link) : Prop where
  stopAndWait : ∀ side, (link.thread side).tickets.StopAndWait
  restoresUnticketed : ∀ side, (link.thread side).tickets.RestoresUnticketed

/-- A step of a link keeps both ends in order. -/
theorem step_endpoints (link : Link) (step : LinkStep) (holds : link.Endpoints) :
    (link.step step).Endpoints := by
  -- Both invariants are kept by every step of the tickets, whichever end takes it.
  refine ⟨fun side => ?_, fun side => ?_⟩
  · exact EventMachine.steps_invariant (link.step_steps step side) (holds.stopAndWait side)
      fun _ _ step => step.stopAndWait
  · exact EventMachine.steps_invariant (link.step_steps step side) (holds.restoresUnticketed side)
      fun _ _ step => step.restoresUnticketed

/-- A packet that waits has been handed on at the other end, apart from its id and its name. -/
def Delivered (link : Link) (side : Side) (waiting : PacketPtr) : Prop :=
  ∃ stored frames packetId received, (link.thread side).heap.read waiting = some stored ∧
    .onFrameReceived frames packetId received ∈ (link.thread side.peer).calls ∧
    received.setPacketId 0 = (stored.setPacketId 0).setPacketName []

/-- The packets that a received ticket removes have been handed on at the other end. -/
def RemovesOnlyDelivered (link : Link) : LinkStep → Prop
  | .receiveTurn side => ∀ waiting ∈ (link.thread side).queued,
      waiting ∉ ((link.step (.receiveTurn side)).thread side).queued → link.Delivered side waiting
  | _ => True

/-- A received ticket has the id of none of the packets that wait. -/
def NamesNone (link : Link) : LinkStep → Prop
  | .receiveTurn side => (link.thread side).hung = false → ∀ packet rest,
      DataFramesPacketFactory.tryExtractPacket (link.thread side).inputBuffer = (.ok packet, rest) →
      packet.header.packetType = .ticket → ∀ packetId,
      ThreadDataFrames.ticketId packet = some packetId →
      ∀ waiting ∈ (link.thread side).queued, (link.thread side).heap.packetId waiting ≠ some packetId
  | _ => True

omit [QtText] in
/-- No packet that waits is ever handed on: the other end drops the frames of packets with tickets. -/
theorem not_delivered {link : Link} (holds : link.Endpoints) {side : Side} {waiting : PacketPtr}
    (member : waiting ∈ (link.thread side).queued) : ¬ link.Delivered side waiting := by
  rintro ⟨stored, frames, packetId, received, found, call, same⟩
  obtain ⟨other, own, ticketed⟩ := (holds.stopAndWait side).stored waiting member
  cases found.symm.trans own
  -- A packet that waits needs a ticket, and frames are restored from packets that do not.
  have unticketed := holds.restoresUnticketed side.peer received (mem_restoredCalls call)
  have types := congrArg (fun packet : DataFramesPacket => packet.header.packetType) same
  have types : received.header.packetType = stored.header.packetType := types
  rw [unticketed, ticketed] at types
  exact absurd types (by decide)

/-- A turn with a packet removes what the packet is a ticket for. -/
theorem mem_receiveTurn {thread : ThreadDataFrames} {packet : DataFramesPacket} {rest : QByteArray}
    (called : DataFramesPacketFactory.tryExtractPacket thread.inputBuffer = (.ok packet, rest))
    {waiting : PacketPtr} :
    waiting ∈ thread.receiveTurn.2.queued ↔
      waiting ∈ thread.queued ∧ (packet.header.packetType = .ticket →
        ∀ packetId, ThreadDataFrames.ticketId packet = some packetId →
          thread.heap.packetId waiting ≠ some packetId) := by
  -- Taking the packet out of the input changes neither the queue nor the ids in it.
  rw [ThreadDataFrames.receiveTurn_packet called, ThreadDataFrames.mem_onPacketReceived]
  rfl

/-- A ticket never removes a packet that has been delivered, so it must not remove any. -/
theorem removesOnlyDelivered_iff (link : Link) (step : LinkStep) (holds : link.Endpoints) :
    link.RemovesOnlyDelivered step ↔ link.NamesNone step := by
  cases step with
  | receiveTurn side =>
    constructor
    · intro onlyDelivered running packet rest called type packetId named waiting member own
      -- The packet would be removed, but it cannot have been delivered.
      refine not_delivered holds member (onlyDelivered waiting member ?_)
      simp only [Link.step, running, Bool.false_eq_true, if_false, update_thread_self,
        mem_receiveTurn called]
      exact fun kept => kept.2 type packetId named own
    · intro none waiting member removed
      cases running : (link.thread side).hung with
      | true => exact absurd member (by simpa [Link.step, running] using removed)
      | false =>
        simp only [Link.step, running, Bool.false_eq_true, if_false, update_thread_self] at removed
        rcases called : DataFramesPacketFactory.tryExtractPacket (link.thread side).inputBuffer with
          ⟨result | packet, rest⟩
        · -- Without a packet nothing is removed.
          simp only [ThreadDataFrames.receiveTurn, called] at removed
          exact absurd member removed
        · rw [mem_receiveTurn called] at removed
          refine absurd ⟨member, fun type packetId named => ?_⟩ removed
          exact none running packet rest called type packetId named waiting member
  | _ => exact Iff.rfl

omit [QtText] in
/-- Threads as their constructors leave them are in order. -/
theorem endpoints_of_initial {link : Link} (initial : ∀ side, (link.thread side).Initial) :
    link.Endpoints where
  stopAndWait side := (initial side).stopAndWait
  restoresUnticketed side := by
    -- Nothing waits and nothing was called.
    have silent : (link.thread side).tickets.calls = [] := (initial side).calls
    simp [TicketState.RestoresUnticketed, restoredCalls, silent]

/--
In every run of a link, what a ticket removes from the queue has been delivered to the other end,
exactly if no ticket that is received has the id of a packet that waits.
-/
theorem run_removesOnlyDelivered_iff {start : Link}
    (initial : ∀ side, (start.thread side).Initial) (steps : List LinkStep) :
    EventMachine.Along step RemovesOnlyDelivered start steps ↔
      EventMachine.Along step NamesNone start steps :=
  -- The two relations agree at every step, because what waits is never delivered.
  EventMachine.along_iff step step_endpoints removesOnlyDelivered_iff
    (endpoints_of_initial initial) steps

omit [QtText] in
/-- Two threads that know a frame that needs a ticket, and accept whatever they are offered. -/
def ticketedLink : Link where
  thread _ := .connected (some (.init ⟨[([0x54], ⟨[0x54], false, 1, true, 0, []⟩)]⟩))
  arrived _ := 0

omit [QtText] in
/-- As long as the ticket has not been received, nothing is removed. -/
theorem run_removesOnlyDelivered_iff_pending :
    EventMachine.Along (@step .ascii) (@RemovesOnlyDelivered .ascii) ticketedLink
      [.act .client (.sendFrame (some ThreadDataFrames.ticketedFrame)), .readInput .server [100],
        .receiveTurn .server, .readInput .client [100]] := by
  have initial : ∀ side, (ticketedLink.thread side).Initial := fun _ => ⟨rfl, rfl, rfl, rfl⟩
  refine (@run_removesOnlyDelivered_iff .ascii _ initial _).mpr
    ⟨trivial, trivial, ?_, trivial, trivial⟩
  -- Nothing waits at the server.
  intro _ packet rest _ _ packetId _ waiting member
  have empty : ((EventMachine.run (@step .ascii) ticketedLink
      [.act .client (.sendFrame (some ThreadDataFrames.ticketedFrame)),
        .readInput .server [100]]).thread .server).queued = [] := by decide
  cases empty ▸ member

omit [QtText] in
/--
A frame with a ticket is sent, received and acknowledged.

Its packet is removed from the queue, although nothing was ever handed on at the other end.
-/
theorem run_removesOnlyDelivered_fails :
    let steps := [.act .client (.sendFrame (some ThreadDataFrames.ticketedFrame)),
      .readInput .server [100], .receiveTurn .server, .readInput .client [100], .receiveTurn .client]
    let link := EventMachine.run (@step .ascii) ticketedLink steps
    (link.thread .client).queued = [] ∧ restoredCalls (link.thread .server).calls = [] ∧
      ¬ EventMachine.Along (@step .ascii) (@RemovesOnlyDelivered .ascii) ticketedLink steps := by
  -- The packet is still waiting before the last step, and was not delivered.
  refine ⟨by decide, by decide, ?_⟩
  rintro ⟨_, _, _, _, onlyDelivered, _⟩
  have initial : ∀ side, (ticketedLink.thread side).Initial := fun _ => ⟨rfl, rfl, rfl, rfl⟩
  have holds := EventMachine.run_invariant (@step .ascii) (@step_endpoints .ascii)
    (endpoints_of_initial initial) [.act .client (.sendFrame (some ThreadDataFrames.ticketedFrame)),
      .readInput .server [100], .receiveTurn .server, .readInput .client [100]]
  have waits : 0 ∈ ((EventMachine.run (@step .ascii) ticketedLink
      [.act .client (.sendFrame (some ThreadDataFrames.ticketedFrame)), .readInput .server [100],
        .receiveTurn .server, .readInput .client [100]]).thread .client).queued := by decide
  exact not_delivered holds waits (onlyDelivered 0 waits (by decide))

end Link

end Threader
