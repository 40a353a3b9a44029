import Mathlib.Logic.Relation
import Threader.Threads.TicketQueue

/-! Whatever happens to a thread, the part of it that decides about tickets takes its own steps. -/

namespace Threader

/-- What may happen to a thread: the calls made of it, and the slots its device calls. -/
inductive ThreadEvent
  | sendFrame (frame : Option DataFrame)
  | processQueue
  | resetQueue
  | applyTicket (packetId : UInt32)
  | sendTicket (packetId : UInt32)
  | packetReceived (packet : DataFramesPacket)
  | readyToWrite
  | connectionStateChanged (value : ConnectionState)

namespace ThreadDataFrames

/-- A thread reacts to an event, unless it is caught in a loop that never ends. -/
def react [QtText] (thread : ThreadDataFrames) (event : ThreadEvent) : ThreadDataFrames :=
  if thread.hung then thread
  else
    match event with
    | .sendFrame frame => (thread.sendFrame frame).2
    | .processQueue => thread.processQueue
    | .resetQueue => thread.resetQueue
    | .applyTicket packetId => (thread.applyTicket packetId).2
    | .sendTicket packetId => thread.sendTicket packetId
    | .packetReceived packet => (thread.onPacketReceived packet).2
    | .readyToWrite => thread.slotOnReadyToWrite
    | .connectionStateChanged value => thread.setConnectionState value

/-- The packets that wait in the queue, of which there are none without a queue. -/
def queued (thread : ThreadDataFrames) : List PacketPtr :=
  (thread.queuePackets.map QueueDataFramesPackets.packets).getD []

/-- The part of a thread that decides about tickets. -/
def tickets (thread : ThreadDataFrames) : TicketState where
  heap := thread.heap
  queued := thread.queued
  currentPacket := thread.currentPacket
  factory := thread.dataFramesPacketFactory
  calls := thread.calls

theorem makeShared_tickets (thread : ThreadDataFrames) (packet : DataFramesPacket) :
    (thread.makeShared packet).2.tickets = thread.tickets.store packet := rfl

theorem giveNextPacketId_tickets (thread : ThreadDataFrames) (packet : PacketPtr) :
    (thread.giveNextPacketId packet).tickets = thread.tickets.give packet := rfl

/-- Whether a packet can be written out makes no difference to the tickets. -/
theorem sendPacket_tickets (thread : ThreadDataFrames) (packet : PacketPtr) :
    (thread.sendPacket packet).tickets = thread.tickets.send packet := by
  -- A null pointer is not sent, and any other is sent as the packet it points to.
  cases found : thread.heap.read packet with
  | none => simp only [sendPacket, TicketState.send, tickets, found]
  | some sent =>
    simp only [sendPacket, TicketState.send, found, tickets]
    rfl

/-- Without a queue there is nothing to process. -/
theorem processQueue_unqueued {thread : ThreadDataFrames} (queue : thread.queuePackets = none) :
    thread.processQueue = thread := by
  -- The function returns at once.
  simp only [processQueue, queue]

/-- The current packet is sent again two seconds after the last packet that was sent. -/
theorem processQueue_busy {thread : ThreadDataFrames} {packets : QueueDataFramesPackets}
    {packet : PacketPtr} (queue : thread.queuePackets = some packets)
    (current : thread.currentPacket = some packet) :
    thread.processQueue =
      if thread.lastPacketSent + 2000 < thread.getTickCount.1 then
        { thread with toThreadHandler := thread.getTickCount.2 }.sendPacket packet
      else { thread with toThreadHandler := thread.getTickCount.2 } := by
  simp only [processQueue, queue, current]
  rfl

/-- The first packet that waits becomes the current one, is given an id, and is sent. -/
theorem processQueue_idle {thread : ThreadDataFrames} {packets : QueueDataFramesPackets}
    (queue : thread.queuePackets = some packets) (current : thread.currentPacket = none) :
    thread.processQueue =
      match packets.first with
      | none => { thread with toThreadHandler := thread.getTickCount.2 }
      | some packet =>
        ({ thread with toThreadHandler := thread.getTickCount.2, currentPacket := some packet
          }.giveNextPacketId packet).sendPacket packet := by
  simp only [processQueue, queue, current]
  cases packets.first <;> rfl

/-- The clock decides whether the current packet is due, and nothing else. -/
theorem processQueue_tickets (thread : ThreadDataFrames) :
    ∃ due, thread.processQueue.tickets = thread.tickets.advance due := by
  cases queue : thread.queuePackets with
  | none =>
    -- Without a queue nothing waits, and a current packet is not looked at.
    refine ⟨false, ?_⟩
    have empty : thread.tickets.queued = [] := by simp [tickets, queued, queue]
    rw [processQueue_unqueued queue, TicketState.advance, empty]
    cases thread.tickets.currentPacket <;> rfl
  | some packets =>
    have waiting : thread.tickets.queued = packets.packets := by simp [tickets, queued, queue]
    cases current : thread.currentPacket with
    | some packet =>
      -- The current packet is due exactly if the clock says so.
      refine ⟨decide (thread.lastPacketSent + 2000 < thread.getTickCount.1), ?_⟩
      have busy : thread.tickets.currentPacket = some packet := current
      rw [processQueue_busy queue current, TicketState.advance_busy busy]
      by_cases due : thread.lastPacketSent + 2000 < thread.getTickCount.1
      · rw [if_pos due, sendPacket_tickets, if_pos (decide_eq_true due)]
        rfl
      · rw [if_neg due, if_neg (by simpa using due)]
        rfl
    | none =>
      refine ⟨false, ?_⟩
      have idle : thread.tickets.currentPacket = none := current
      rw [processQueue_idle queue current, QueueDataFramesPackets.first]
      -- The queue is empty, or its first packet becomes the current one.
      cases first : packets.packets with
      | nil =>
        rw [TicketState.advance_empty idle (waiting.trans first)]
        rfl
      | cons head rest =>
        rw [TicketState.advance_idle idle (waiting.trans first), List.head?_cons]
        simp only [sendPacket_tickets, giveNextPacketId_tickets]
        rfl

/-- A ticket is applied to the queue, and when it removed something the queue is processed. -/
theorem applyTicket_queued {thread : ThreadDataFrames} {packets : QueueDataFramesPackets}
    (queue : thread.queuePackets = some packets) (packetId : UInt32) :
    (thread.applyTicket packetId).2 =
      if packets.packets.countP (thread.heap.packetId · = some packetId) > 0 then
        { { thread with
            queuePackets := some ⟨packets.packets.filter (thread.heap.packetId · ≠ some packetId)⟩
          }.record (.onPacketApplied packetId) with currentPacket := none }.processQueue
      else
        { thread with
          queuePackets := some ⟨packets.packets.filter (thread.heap.packetId · ≠ some packetId)⟩ } := by
  -- The loop of the queue is the filter that keeps the packets of other ids.
  simp only [applyTicket, queue, packets.applyTicket_eq]
  split <;> rfl

/-- Applying a ticket removes the packets of its id, and then processes the queue. -/
theorem applyTicket_tickets (thread : ThreadDataFrames) (packetId : UInt32) :
    ∃ due, (thread.applyTicket packetId).2.tickets = thread.tickets.remove packetId due := by
  cases queue : thread.queuePackets with
  | none =>
    refine ⟨false, ?_⟩
    -- Without a queue there is nothing to remove.
    have empty : thread.tickets.queued = [] := by simp [tickets, queued, queue]
    simp only [applyTicket, queue, TicketState.remove, empty, List.filter_nil, if_true]
  | some packets =>
    have waiting : thread.tickets.queued = packets.packets := by simp [tickets, queued, queue]
    -- The count of the removed packets is positive exactly if something is missing afterwards.
    have removed : packets.packets.countP (thread.heap.packetId · = some packetId) > 0 ↔
        ¬ packets.packets.filter (thread.heap.packetId · ≠ some packetId) = packets.packets := by
      simp only [gt_iff_lt, List.countP_pos_iff, List.filter_eq_self]
      simp
    rw [applyTicket_queued queue]
    by_cases any : packets.packets.countP (thread.heap.packetId · = some packetId) > 0
    · obtain ⟨due, processed⟩ := processQueue_tickets { { thread with
          queuePackets := some ⟨packets.packets.filter (thread.heap.packetId · ≠ some packetId)⟩
          }.record (.onPacketApplied packetId) with currentPacket := none }
      refine ⟨due, ?_⟩
      have kept : ¬ thread.tickets.queued.filter (thread.tickets.heap.packetId · ≠ some packetId) =
          thread.tickets.queued := by
        rw [waiting]
        exact removed.mp any
      rw [if_pos any, processed, TicketState.remove, if_neg kept, waiting]
      rfl
    · refine ⟨false, ?_⟩
      -- Nothing was removed, so the filter has kept the queue as it was.
      have kept := Decidable.not_not.mp (mt removed.mpr any)
      rw [if_neg any, kept, TicketState.remove, waiting]
      refine Eq.trans ?_ (if_pos kept).symm
      simp only [tickets, queued, queue]

/-- A reset clears the ids of the packets that wait, also when there is no queue. -/
theorem resetQueue_tickets (thread : ThreadDataFrames) :
    thread.resetQueue.tickets = thread.tickets.reset := by
  cases queue : thread.queuePackets with
  | none =>
    -- A reset of no packets at all clears no ids.
    simp [resetQueue, record, queue, tickets, queued, TicketState.reset, TicketState.note,
      QueueDataFramesPackets.reset]
  | some packets =>
    simp [resetQueue, record, queue, tickets, queued, TicketState.reset, TicketState.note]

/-- A packet is answered with a ticket unless it has the empty id. -/
theorem sendTicket_tickets (thread : ThreadDataFrames) (packetId : UInt32) :
    (thread.sendTicket packetId).tickets = thread.tickets.answer packetId := by
  have same : thread.tickets.factory = thread.dataFramesPacketFactory := rfl
  rw [TicketState.answer, same]
  -- The counter moves on even when no ticket is built.
  cases built : (thread.dataFramesPacketFactory.buildPacketTicket packetId).1 with
  | none =>
    simp only [sendTicket, built]
    rfl
  | some ticket =>
    simp only [sendTicket, built, sendPacket_tickets, makeShared_tickets]
    rfl

/-- Without a queue, or without a need for a ticket, a built packet is sent at once. -/
theorem sendBuilt_now {thread : ThreadDataFrames} {needsTicket : Bool} (packet : DataFramesPacket)
    (now : thread.queuePackets = none ∨ needsTicket = false) :
    thread.sendBuilt needsTicket packet =
      ((thread.makeShared packet).2.giveNextPacketId thread.heap.fresh).sendPacket
        thread.heap.fresh := by
  have kept : (thread.makeShared packet).2.queuePackets = thread.queuePackets := rfl
  unfold sendBuilt
  -- The branch that queues the packet is taken only with both a queue and a need.
  rcases now with none | false
  · simp only [kept, none]
    rfl
  · subst false
    cases queue : thread.queuePackets with
    | none =>
      simp only [kept, queue]
      rfl
    | some packets =>
      simp only [kept, queue]
      rfl

/-- A built packet that needs a ticket is appended to the queue, which is then processed. -/
theorem sendBuilt_queued {thread : ThreadDataFrames} {packets : QueueDataFramesPackets}
    (packet : DataFramesPacket) (queue : thread.queuePackets = some packets) :
    thread.sendBuilt true packet =
      ({ (thread.makeShared packet).2 with
        queuePackets := some ⟨packets.packets ++ [thread.heap.fresh]⟩ }.record
          (.onPacketQueued thread.heap.fresh)).processQueue := by
  have kept : (thread.makeShared packet).2.queuePackets = some packets := queue
  simp only [sendBuilt, kept, QueueDataFramesPackets.enqueue]
  rfl

/-- A built packet is appended to the queue if it needs a ticket and there is a queue. -/
theorem sendBuilt_steps {allowed : UInt32 → Prop} (thread : ThreadDataFrames) {needsTicket : Bool}
    {packet : DataFramesPacket}
    (type : needsTicket = true → packet.header.packetType = .packetNeedsTicket)
    (unnamed : packet.packetId = 0) :
    TicketState.Step allowed thread.tickets (thread.sendBuilt needsTicket packet).tickets := by
  by_cases now : thread.queuePackets = none ∨ needsTicket = false
  · rw [sendBuilt_now packet now, sendPacket_tickets, giveNextPacketId_tickets, makeShared_tickets]
    exact .sendNow packet
  · simp only [not_or, Bool.not_eq_false] at now
    -- Otherwise there is a queue, and the packet joins it before it is processed.
    obtain ⟨packets, queue⟩ := Option.ne_none_iff_exists'.mp now.1
    have waiting : thread.tickets.queued = packets.packets := by simp [tickets, queued, queue]
    obtain ⟨due, processed⟩ := processQueue_tickets ({ (thread.makeShared packet).2 with
      queuePackets := some ⟨packets.packets ++ [thread.heap.fresh]⟩ }.record
        (.onPacketQueued thread.heap.fresh))
    have queuedUp : (thread.sendBuilt true packet).tickets = thread.tickets.enqueue packet due := by
      rw [sendBuilt_queued packet queue, processed, TicketState.enqueue, waiting]
      rfl
    rw [now.2, queuedUp]
    exact .enqueue (type now.2) unnamed due

variable [QtText]

omit [QtText] in
/-- The id of a received packet is only compared with the one that was waited for. -/
theorem checkPacketId_steps {allowed : UInt32 → Prop} (thread : ThreadDataFrames)
    (packetId : UInt32) :
    Relation.ReflTransGen (TicketState.Step allowed) thread.tickets
      (thread.checkPacketId packetId).tickets := by
  -- At most a discontinuity is reported, which neither queues nor sends anything.
  unfold checkPacketId
  dsimp only
  split
  · exact .single (.note (by simp) (by simp) (by simp) (by simp))
  · exact .refl

/-- The frames of a packet without a ticket are handed on. -/
theorem restoreFrames_steps {allowed : UInt32 → Prop} (thread : ThreadDataFrames)
    {packet : DataFramesPacket} (type : packet.header.packetType = .packetWithoutTicket) :
    Relation.ReflTransGen (TicketState.Step allowed) thread.tickets
      (thread.restoreFrames packet).2.tickets := by
  unfold restoreFrames
  split
  · exact .refl
  · split
    · exact .refl
    · exact .refl
    -- The frames came out of a packet that needs no ticket.
    · refine .single (.note (by simp) (by simp) (by simp) ?_)
      rintro _ _ received ⟨⟩
      exact type

/-- A frame with a definition is built without an id, and then queued or sent. -/
theorem sendFrame_built (thread : ThreadDataFrames) {frame : DataFrame}
    {definition : DataFrameDefinition} (described : frame.definition = some definition) :
    ∃ packet,
      thread.dataFramesPacketFactory.buildPacketFromFrame frame false =
        (some packet, thread.dataFramesPacketFactory) ∧
      thread.sendFrame (some frame) =
        (true, thread.sendBuilt definition.needsTicket (packet.setPacketName frame.name)) ∧
      packet.packetId = 0 ∧
      packet.header.packetType =
        (if definition.needsTicket then .packetNeedsTicket else .packetWithoutTicket) := by
  have built := DataFramesPacketFactory.buildPacketFromFrame.eq_def
    thread.dataFramesPacketFactory frame false
  simp only [described] at built
  refine ⟨_, built, ?_, rfl, rfl⟩
  -- The counter of the factory has not moved.
  simp only [sendFrame, built, DataFrame.needsTicket, described]
  rfl

/-- Sending a frame queues a packet, sends it at once, or does nothing without a definition. -/
theorem sendFrame_steps {allowed : UInt32 → Prop} (thread : ThreadDataFrames)
    (frame : Option DataFrame) :
    Relation.ReflTransGen (TicketState.Step allowed) thread.tickets
      (thread.sendFrame frame).2.tickets := by
  cases frame with
  | none => exact .refl
  | some frame =>
    -- Without a definition no packet is built.
    cases described : frame.definition with
    | none =>
      simp only [sendFrame, DataFramesPacketFactory.buildPacketFromFrame, described]
      exact .refl
    | some definition =>
      obtain ⟨packet, _, sent, unnamed, type⟩ := thread.sendFrame_built described
      rw [sent]
      apply Relation.ReflTransGen.single
      refine sendBuilt_steps thread (fun ticketed => ?_) unnamed
      exact type.trans (if_pos ticketed)

end ThreadDataFrames

/-- The ids of the tickets that an event makes a thread apply are all allowed. -/
def ThreadEvent.TicketsAllowed (allowed : UInt32 → Prop) : ThreadEvent → Prop
  | .applyTicket packetId => allowed packetId
  | .packetReceived packet => packet.header.packetType = .ticket →
      ∀ packetId, ThreadDataFrames.ticketId packet = some packetId → allowed packetId
  | _ => True

namespace ThreadDataFrames

variable [QtText]

/-- A received packet is answered or applied, and a packet of neither kind is ignored. -/
theorem onPacketReceived_steps {allowed : UInt32 → Prop} (thread : ThreadDataFrames)
    {packet : DataFramesPacket}
    (permitted : (ThreadEvent.packetReceived packet).TicketsAllowed allowed) :
    Relation.ReflTransGen (TicketState.Step allowed) thread.tickets
      (thread.onPacketReceived packet).2.tickets := by
  -- The check of the id comes first in every case.
  have checked : Relation.ReflTransGen (TicketState.Step allowed) thread.tickets
      (thread.checkPacketId packet.packetId).tickets := thread.checkPacketId_steps packet.packetId
  unfold onPacketReceived
  dsimp only
  split
  · -- The ticket goes out in front of the frames.
    have answered : Relation.ReflTransGen (TicketState.Step allowed) thread.tickets
        ((thread.checkPacketId packet.packetId).sendTicket packet.packetId).tickets := by
      apply checked.tail
      rw [sendTicket_tickets]
      exact .answer packet.packetId
    split
    · rename_i unticketed
      exact answered.trans (restoreFrames_steps _ unticketed.symm)
    · exact answered
  · split
    -- A ticket removes the packets of its id, if its data hold one.
    · rename_i type
      cases named : ticketId packet with
      | none => exact checked
      | some packetId =>
        obtain ⟨due, applied⟩ := (thread.checkPacketId packet.packetId).applyTicket_tickets packetId
        apply checked.tail
        dsimp only
        rw [applied]
        exact .remove (permitted type packetId named) due
    · exact checked

/-- A turn that extracts a packet notes it and handles it, and is the last one for a hung thread. -/
theorem receiveTurn_packet {thread : ThreadDataFrames} {packet : DataFramesPacket}
    {rest : QByteArray}
    (called : DataFramesPacketFactory.tryExtractPacket thread.inputBuffer = (.ok packet, rest)) :
    thread.receiveTurn = (!((thread.packetExtracted rest).onPacketReceived packet).2.hung,
      ((thread.packetExtracted rest).onPacketReceived packet).2) := by
  simp only [receiveTurn, called]

/-- Whatever happens to a thread, its tickets take steps of their own. -/
theorem react_steps {allowed : UInt32 → Prop} (thread : ThreadDataFrames) {event : ThreadEvent}
    (permitted : event.TicketsAllowed allowed) :
    Relation.ReflTransGen (TicketState.Step allowed) thread.tickets (thread.react event).tickets := by
  -- A thread that is caught in a loop does nothing, and each event is a lemma of its own.
  unfold react
  split
  · exact .refl
  · cases event with
    | sendFrame frame => exact thread.sendFrame_steps frame
    | processQueue =>
      obtain ⟨due, processed⟩ := thread.processQueue_tickets
      rw [processed]
      exact .single (.advance due)
    | resetQueue =>
      rw [resetQueue_tickets]
      exact .single .reset
    | applyTicket packetId =>
      obtain ⟨due, applied⟩ := thread.applyTicket_tickets packetId
      rw [applied]
      exact .single (.remove permitted due)
    | sendTicket packetId =>
      rw [sendTicket_tickets]
      exact .single (.answer packetId)
    | packetReceived packet => exact thread.onPacketReceived_steps permitted
    | readyToWrite => exact .refl
    | connectionStateChanged value =>
      -- The device and the buffers are not part of the tickets.
      change Relation.ReflTransGen _ thread.tickets (thread.setConnectionState value).tickets
      unfold setConnectionState
      split
      · exact .refl
      · exact .refl

end ThreadDataFrames

end Threader
