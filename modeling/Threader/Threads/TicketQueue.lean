import Mathlib.Data.List.Induction
import Mathlib.Data.List.Nodup
import Threader.Threads.ThreadDataFrames

/-! Stop and wait: how the queue, the current packet and the packet ids belong together. -/

namespace Threader

namespace PacketHeap

/-- A packet that was allocated has an id. -/
theorem packetId_eq_some {heap : PacketHeap} {packet : PacketPtr} {packetId : UInt32} :
    heap.packetId packet = some packetId ↔
      ∃ stored, heap.read packet = some stored ∧ stored.packetId = packetId := by
  -- A packet has the id that is stored in it.
  simp [PacketHeap.packetId]

/-- Allocation leaves the ids of the packets that exist alone. -/
theorem packetId_allocate {heap : PacketHeap} {packet : PacketPtr} (stored : DataFramesPacket)
    (allocated : heap.Allocated packet) :
    PacketHeap.packetId (heap.allocate stored) packet = heap.packetId packet := by
  -- The cell of the packet is not the new one.
  rw [PacketHeap.packetId, Heap.read_allocate_of_allocated stored allocated, PacketHeap.packetId]

/-- A packet has the id that was set last. -/
theorem packetId_setPacketId {heap : PacketHeap} {packet : PacketPtr} (packetId : UInt32)
    (allocated : heap.Allocated packet) :
    (heap.setPacketId packet packetId).packetId packet = some packetId := by
  -- The change is made in the cell of the packet itself.
  obtain ⟨stored, found⟩ := Heap.read_isSome allocated
  simp [PacketHeap.packetId, setPacketId, found, DataFramesPacket.setPacketId,
    DataFramesPacket.packetId]

/-- Setting an id leaves the other packets alone. -/
theorem packetId_setPacketId_ne {heap : PacketHeap} {packet other : PacketPtr} (packetId : UInt32)
    (different : packet ≠ other) :
    (heap.setPacketId packet packetId).packetId other = heap.packetId other := by
  -- The change is made in a cell of another packet.
  rw [PacketHeap.packetId, setPacketId, Heap.read_update_ne heap _ different, PacketHeap.packetId]

theorem allocated_setPacketId {heap : PacketHeap} {packet other : PacketPtr} {packetId : UInt32}
    (allocated : heap.Allocated other) :
    Heap.Allocated (heap.setPacketId packet packetId) other := by
  -- Changing a cell allocates and frees nothing.
  simpa [Heap.Allocated, setPacketId] using allocated

end PacketHeap

namespace QueueDataFramesPackets

/-- The loop of `applyTicket` keeps what it has not reached and filters what it has. -/
theorem applyTicketBelow_eq (heap : PacketHeap) (packetId : UInt32) {index : Nat}
    {packets : List PacketPtr} (inside : index ≤ packets.length) (count : Nat) :
    applyTicketBelow heap packetId index packets count =
      (count + (packets.take index).countP (heap.packetId · = some packetId),
        (packets.take index).filter (heap.packetId · ≠ some packetId) ++ packets.drop index) := by
  -- The loop goes down from the end, so the places below the index are still untouched.
  induction index generalizing packets count with
  | zero => simp [applyTicketBelow]
  | succ index ih =>
    have within : index < packets.length := inside
    have found : packets[index]?.bind heap.packetId = heap.packetId packets[index] := by
      rw [List.getElem?_eq_getElem within, Option.bind_some]
    rw [applyTicketBelow, found, List.take_succ_eq_append_getElem within]
    by_cases named : heap.packetId packets[index] = some packetId
    · -- The place that is removed separates the places still to come from those already seen.
      have erased : packets.eraseIdx index = packets.take index ++ packets.drop (index + 1) :=
        List.eraseIdx_eq_take_drop_succ packets index
      have front : (packets.eraseIdx index).take index = packets.take index := by
        rw [erased, List.take_left' (by simp [Nat.le_of_lt within])]
      have back : (packets.eraseIdx index).drop index = packets.drop (index + 1) := by
        rw [erased, List.drop_left' (by simp [Nat.le_of_lt within])]
      rw [if_pos named, ih (by rw [List.length_eraseIdx_of_lt within]; omega), front, back,
        List.countP_append, List.filter_append, List.countP_singleton, List.filter_singleton]
      simp only [named, decide_true, if_true, ne_eq, not_true_eq_false, decide_false,
        cond_false, List.append_nil, Nat.add_assoc, Nat.add_comm 1]
    · rw [if_neg named, ih (by omega)]
      -- The place that is kept joins those already seen.
      have back : packets.drop index = packets[index] :: packets.drop (index + 1) :=
        List.drop_eq_getElem_cons within
      rw [List.countP_append, List.filter_append, List.countP_singleton, List.filter_singleton, back]
      simp only [named, decide_false, Bool.false_eq_true, if_false, Nat.add_zero, ne_eq,
        not_false_eq_true, decide_true, cond_true, List.append_assoc, List.singleton_append]

/-- A ticket removes exactly the packets of its id, and counts them. -/
theorem applyTicket_eq (queue : QueueDataFramesPackets) (heap : PacketHeap) (packetId : UInt32) :
    queue.applyTicket heap packetId =
      (queue.packets.countP (heap.packetId · = some packetId),
        ⟨queue.packets.filter (heap.packetId · ≠ some packetId)⟩) := by
  -- The loop starts behind the last place, so all places are still to be looked at.
  simp [applyTicket, applyTicketBelow_eq heap packetId (Nat.le_refl queue.packets.length)]

/-- After a reset every packet of the queue has the empty id. -/
theorem reset_packetId (packets : List PacketPtr) {heap : PacketHeap} {packet : PacketPtr}
    (allocated : heap.Allocated packet)
    (reset : packet ∈ packets ∨ heap.packetId packet = some 0) :
    PacketHeap.packetId (QueueDataFramesPackets.reset ⟨packets⟩ heap) packet = some 0 := by
  -- Once the id has been cleared, later turns of the loop leave it cleared.
  unfold QueueDataFramesPackets.reset
  induction packets generalizing heap with
  | nil => exact reset.resolve_left (by simp)
  | cons first packets ih =>
    refine ih (PacketHeap.allocated_setPacketId allocated) ?_
    by_cases same : first = packet
    · subst same
      exact .inr (PacketHeap.packetId_setPacketId 0 allocated)
    · rw [PacketHeap.packetId_setPacketId_ne 0 same]
      exact reset.imp (fun member => (List.mem_cons.mp member).resolve_left (Ne.symm same)) id

/-- A reset changes nothing of a packet but its id. -/
theorem reset_read (packets : List PacketPtr) {heap : PacketHeap} {packet : PacketPtr}
    {stored : DataFramesPacket} (found : heap.read packet = some stored) :
    ∃ cleared, Heap.read (reset ⟨packets⟩ heap) packet = some cleared ∧
      cleared.header.packetType = stored.header.packetType ∧
      cleared.setPacketId 0 = stored.setPacketId 0 := by
  -- Induction on the queue, with the packet free to have lost its id already.
  unfold reset
  induction packets generalizing heap stored with
  | nil => exact ⟨stored, found, rfl, rfl⟩
  | cons first packets ih =>
    by_cases same : first = packet
    · subst same
      have cleared : Heap.read (heap.setPacketId first 0) first = some (stored.setPacketId 0) :=
        (Heap.read_update_self ..).trans (congrArg _ found)
      obtain ⟨later, kept, type, others⟩ := ih cleared
      exact ⟨later, kept, type, others⟩
    · exact ih ((Heap.read_update_ne _ _ same).trans found)

end QueueDataFramesPackets

/-- The greatest id that is ever given to a packet. -/
def maximumPacketId : Nat := 0x1FFFFFFE

/-- The successor of an id that is given to a packet does not wrap around. -/
theorem DataFramesPacketFactory.succ_toNat {packetId : UInt32}
    (counted : packetId.toNat ≤ maximumPacketId) : (packetId + 1).toNat = packetId.toNat + 1 := by
  simp only [maximumPacketId] at counted
  exact MachineInt.toNat_add_one (by omega)

/-- From a counter in range, the next id is in range and not the empty one. -/
theorem DataFramesPacketFactory.generateNextPacketId_range {factory : DataFramesPacketFactory}
    (counted : factory.packetId.toNat ≤ maximumPacketId) :
    1 ≤ factory.generateNextPacketId.1.toNat ∧
      factory.generateNextPacketId.1.toNat ≤ maximumPacketId ∧
      factory.generateNextPacketId.2.packetId = factory.generateNextPacketId.1 := by
  -- Inside the range the counter does not wrap around.
  have next := succ_toNat counted
  unfold generateNextPacketId
  dsimp only
  -- Where the limit is reached the id is one, and elsewhere it is the sum.
  refine ⟨?_, ?_, rfl⟩
  · split
    · decide
    · omega
  · split
    · decide
    · rename_i small
      simp only [maximumPacketId] at counted ⊢
      have small : ¬ (0x1FFFFFFF : UInt32).toNat ≤ (factory.packetId + 1).toNat := small
      have limit : (0x1FFFFFFF : UInt32).toNat = 0x1FFFFFFF := by decide
      omega

/-- A packet with an id is answered with a ticket, which gets the next id. -/
theorem DataFramesPacketFactory.buildPacketTicket_some (factory : DataFramesPacketFactory)
    {packetId : UInt32} (named : packetId ≠ PACKET_ID_EMPTY) :
    ∃ ticket, factory.buildPacketTicket packetId =
        (some ticket, factory.generateNextPacketId.2) ∧
      ticket.packetId = factory.generateNextPacketId.1 ∧ ticket.header.packetType = .ticket := by
  -- Only the empty id is refused.
  rw [buildPacketTicket, if_neg (Ne.symm named)]
  exact ⟨_, rfl, rfl, rfl⟩

/-- The part of a thread that decides about tickets: what waits, is current, and was called. -/
structure TicketState where
  heap : PacketHeap
  queued : List PacketPtr
  currentPacket : Option PacketPtr
  factory : DataFramesPacketFactory
  calls : List ThreadCall

/-- The calls behind the last reset of the queue. -/
def sinceReset (calls : List ThreadCall) : List ThreadCall :=
  calls.foldl (fun later call =>
    match call with
    | .resetQueue => []
    | call => later ++ [call]) []

/-- A packet was passed to `sendPacket` under an id since the last reset of the queue. -/
def SentSinceReset (calls : List ThreadCall) (packet : PacketPtr) (packetId : UInt32) : Prop :=
  ∃ sent, .sendPacket packet sent ∈ sinceReset calls ∧ sent.packetId = packetId

/-- A call that is no reset comes behind the earlier ones. -/
theorem sinceReset_append {calls : List ThreadCall} {call : ThreadCall} (other : call ≠ .resetQueue) :
    sinceReset (calls ++ [call]) = sinceReset calls ++ [call] := by
  -- The fold keeps every call but a reset.
  cases call <;> simp_all [sinceReset]

/-- The calls behind the last reset are calls. -/
theorem sinceReset_subset (calls : List ThreadCall) : sinceReset calls ⊆ calls := by
  -- Induction from the last call backwards, which either is a reset or is kept.
  induction calls using List.reverseRecOn with
  | nil => simp [sinceReset]
  | append_singleton calls call ih =>
    by_cases reset : call = .resetQueue
    · simp [sinceReset, reset]
    · rw [sinceReset_append reset]
      exact List.append_subset.mpr ⟨List.subset_append_of_subset_left _ ih, by simp⟩

theorem SentSinceReset.append {calls : List ThreadCall} {packet : PacketPtr} {packetId : UInt32}
    (sent : SentSinceReset calls packet packetId) {call : ThreadCall} (other : call ≠ .resetQueue) :
    SentSinceReset (calls ++ [call]) packet packetId := by
  obtain ⟨copy, member, named⟩ := sent
  exact ⟨copy, by rw [sinceReset_append other]; exact List.mem_append_left _ member, named⟩

namespace TicketState

/-- Keeps a call behind the earlier ones. -/
def note (state : TicketState) (call : ThreadCall) : TicketState :=
  { state with calls := state.calls ++ [call] }

/-- Stores a new packet. -/
def store (state : TicketState) (packet : DataFramesPacket) : TicketState :=
  { state with heap := state.heap.allocate packet }

/-- Gives a packet the next id. -/
def give (state : TicketState) (packet : PacketPtr) : TicketState :=
  { state with
    factory := state.factory.generateNextPacketId.2
    heap := state.heap.setPacketId packet state.factory.generateNextPacketId.1 }

/-- Passes a packet to `sendPacket`. -/
def send (state : TicketState) (packet : PacketPtr) : TicketState :=
  match state.heap.read packet with
  | none => state
  | some sent => state.note (.sendPacket packet sent)

/-- Sends the current packet again when it is due, or else the first one that waits. -/
def advance (state : TicketState) (due : Bool) : TicketState :=
  match state.currentPacket with
  | some packet => if due then state.send packet else state
  | none =>
    match state.queued.head? with
    | none => state
    | some packet => ({ state with currentPacket := some packet }.give packet).send packet

/-- Sends a new packet at once. -/
def sendNow (state : TicketState) (packet : DataFramesPacket) : TicketState :=
  ((state.store packet).give state.heap.fresh).send state.heap.fresh

/-- Appends a new packet to the queue. -/
def enqueue (state : TicketState) (packet : DataFramesPacket) (due : Bool) : TicketState :=
  let stored := state.store packet
  ({ stored with queued := state.queued ++ [state.heap.fresh] }.note
    (.onPacketQueued state.heap.fresh)).advance due

/-- Answers a packet with a ticket, unless its id is the empty one. -/
def answer (state : TicketState) (packetId : UInt32) : TicketState :=
  let built := state.factory.buildPacketTicket packetId
  let counted := { state with factory := built.2 }
  match built.1 with
  | none => counted
  | some ticket => (counted.store ticket).send state.heap.fresh

/-- Removes the packets of an id from the queue, and goes on when there were any. -/
def remove (state : TicketState) (packetId : UInt32) (due : Bool) : TicketState :=
  let kept := state.queued.filter (state.heap.packetId · ≠ some packetId)
  if kept = state.queued then state
  else
    ({ state with queued := kept, currentPacket := none }.note (.onPacketApplied packetId)).advance
      due

/-- Clears the ids of all packets that wait, and the current packet. -/
def reset (state : TicketState) : TicketState :=
  { state.note .resetQueue with
    currentPacket := none
    heap := QueueDataFramesPackets.reset ⟨state.queued⟩ state.heap }

/--
At most the first packet of the queue is on its way.

Then it is the current one and has an id, and all others still have the empty id.
-/
inductive Window (state : TicketState) : Prop
  | idle (none : state.currentPacket = none)
    (unnamed : ∀ packet ∈ state.queued, state.heap.packetId packet = some 0)
  | busy {head : PacketPtr} {rest : List PacketPtr} {packetId : UInt32}
    (queued : state.queued = head :: rest) (current : state.currentPacket = some head)
    (named : state.heap.packetId head = some packetId)
    (range : 1 ≤ packetId.toNat ∧ packetId.toNat ≤ maximumPacketId)
    (sent : SentSinceReset state.calls head packetId)
    (unnamed : ∀ packet ∈ rest, state.heap.packetId packet = some 0)

/-- The queue in front of a decision about its first packet: all others have the empty id. -/
structure Lined (state : TicketState) : Prop where
  counted : state.factory.packetId.toNat ≤ maximumPacketId
  distinct : state.queued.Nodup
  stored : ∀ packet ∈ state.queued, ∃ stored, state.heap.read packet = some stored ∧
    stored.header.packetType = .packetNeedsTicket
  unnamed : ∀ packet ∈ state.queued.tail, state.heap.packetId packet = some 0
  named : ∀ packet sent, .sendPacket packet sent ∈ state.calls → sent.packetId ≠ 0

/-- What holds between the steps of a thread. -/
structure StopAndWait (state : TicketState) : Prop extends Lined state where
  window : Window state

theorem send_of_read {state : TicketState} {packet : PacketPtr} {sent : DataFramesPacket}
    (found : state.heap.read packet = some sent) :
    state.send packet = state.note (.sendPacket packet sent) := by
  simp only [send, found]

/-- Sending changes nothing but the calls. -/
theorem send_eq (state : TicketState) (packet : PacketPtr) :
    state.send packet = { state with calls := (state.send packet).calls } := by
  -- A null pointer changes nothing, and any other adds one call.
  unfold send
  split
  · rfl
  · rfl

@[simp] theorem send_queued (state : TicketState) (packet : PacketPtr) :
    (state.send packet).queued = state.queued := by
  rw [send_eq]

/-- With nothing waiting, there is nothing to go on with. -/
theorem advance_empty {state : TicketState} (idle : state.currentPacket = none)
    (queued : state.queued = []) (due : Bool) : state.advance due = state := by
  simp only [advance, idle, queued, List.head?_nil]

/-- The first packet that waits becomes the current one, is given an id, and is sent. -/
theorem advance_idle {state : TicketState} {head : PacketPtr} {rest : List PacketPtr}
    (idle : state.currentPacket = none) (queued : state.queued = head :: rest) (due : Bool) :
    state.advance due = ({ state with currentPacket := some head }.give head).send head := by
  simp only [advance, idle, queued, List.head?_cons]

/-- The current packet is sent again when it is due. -/
theorem advance_busy {state : TicketState} {packet : PacketPtr}
    (current : state.currentPacket = some packet) (due : Bool) :
    state.advance due = if due then state.send packet else state := by
  simp only [advance, current]

/-- Going on leaves the queue alone. -/
@[simp] theorem advance_queued (state : TicketState) (due : Bool) :
    (state.advance due).queued = state.queued := by
  -- Whichever packet is sent, sending does not touch the queue.
  unfold advance
  split
  · split
    · exact send_queued ..
    · rfl
  · split
    · rfl
    · exact send_queued ..

/-- A ticket removes the packets of its id, and nothing else. -/
theorem remove_queued (state : TicketState) (packetId : UInt32) (due : Bool) :
    (state.remove packetId due).queued =
      state.queued.filter (state.heap.packetId · ≠ some packetId) := by
  -- If nothing was removed, the filter has kept everything.
  unfold remove
  dsimp only
  split
  · rename_i same
    exact same.symm
  · rw [advance_queued]
    rfl

namespace Lined

variable {state : TicketState}

/-- Packets that wait were allocated. -/
theorem allocated (lined : Lined state) {packet : PacketPtr} (member : packet ∈ state.queued) :
    state.heap.Allocated packet := by
  -- Whatever is read was allocated.
  obtain ⟨_, found, _⟩ := lined.stored packet member
  exact Heap.allocated_of_read found

/-- A packet yet to be allocated does not wait. -/
theorem fresh_notMem (lined : Lined state) : state.heap.fresh ∉ state.queued := fun member =>
  Nat.lt_irrefl _ (lined.allocated member)

theorem note (lined : Lined state) {call : ThreadCall}
    (other : ∀ packet sent, call ≠ .sendPacket packet sent) : Lined (state.note call) where
  counted := lined.counted
  distinct := lined.distinct
  stored := lined.stored
  unnamed := lined.unnamed
  named packet sent member := by
    rcases List.mem_append.mp member with earlier | last
    · exact lined.named packet sent earlier
    · exact absurd (List.mem_singleton.mp last).symm (other packet sent)

theorem store (lined : Lined state) (packet : DataFramesPacket) : Lined (state.store packet) where
  counted := lined.counted
  distinct := lined.distinct
  stored waiting member := by
    obtain ⟨stored, found, type⟩ := lined.stored waiting member
    exact ⟨stored, (Heap.read_allocate_of_allocated packet (lined.allocated member)).trans found, type⟩
  unnamed waiting member :=
    (PacketHeap.packetId_allocate packet (lined.allocated (List.mem_of_mem_tail member))).trans
      (lined.unnamed waiting member)
  named := lined.named

/-- Only the first packet that waits, or one that does not wait, may be given an id. -/
theorem give (lined : Lined state) {packet : PacketPtr} (outside : packet ∉ state.queued.tail) :
    Lined (state.give packet) where
  counted := by
    -- The counter is the id that was given last.
    have range := DataFramesPacketFactory.generateNextPacketId_range lined.counted
    exact range.2.2 ▸ range.2.1
  distinct := lined.distinct
  stored waiting member := by
    -- The id is all that changes of the packet it is given to.
    obtain ⟨stored, found, type⟩ := lined.stored waiting member
    by_cases same : packet = waiting
    · subst same
      exact ⟨_, (Heap.read_update_self ..).trans (congrArg _ found), type⟩
    · exact ⟨stored, (Heap.read_update_ne _ _ same).trans found, type⟩
  unnamed waiting member := by
    have different : packet ≠ waiting := fun same => outside (same ▸ member)
    exact (PacketHeap.packetId_setPacketId_ne _ different).trans (lined.unnamed waiting member)
  named := lined.named

/-- A packet that has an id may be sent. -/
theorem send (lined : Lined state) {packet : PacketPtr} {packetId : UInt32}
    (named : state.heap.packetId packet = some packetId) (nonempty : packetId ≠ 0) :
    Lined (state.send packet) := by
  obtain ⟨sent, found, rfl⟩ := PacketHeap.packetId_eq_some.mp named
  rw [send_of_read found]
  refine ⟨lined.counted, lined.distinct, lined.stored, lined.unnamed, ?_⟩
  -- The only new call carries the id that the packet has.
  intro other copy member
  rcases List.mem_append.mp member with earlier | last
  · exact lined.named other copy earlier
  · cases List.mem_singleton.mp last
    exact nonempty

end Lined

theorem ne_zero_of_range {packetId : UInt32} (positive : 1 ≤ packetId.toNat) : packetId ≠ 0 := by
  -- The empty id is below the range.
  rintro rfl
  simp at positive

/-- A packet that was allocated is given the next id. -/
theorem give_packetId (state : TicketState) {packet : PacketPtr}
    (allocated : state.heap.Allocated packet) :
    (state.give packet).heap.packetId packet = some state.factory.generateNextPacketId.1 :=
  -- The id is written to the cell of the packet.
  PacketHeap.packetId_setPacketId _ allocated

/-- A packet just sent was sent under its id. -/
theorem sentSinceReset_send {state : TicketState} {packet : PacketPtr} {packetId : UInt32}
    (named : state.heap.packetId packet = some packetId) :
    SentSinceReset (state.send packet).calls packet packetId := by
  obtain ⟨sent, found, rfl⟩ := PacketHeap.packetId_eq_some.mp named
  rw [send_of_read found]
  -- The call is the last one, and no reset follows it.
  exact ⟨sent, by simp [TicketState.note, sinceReset_append], rfl⟩

/-- Without a current packet, going on makes the first one that waits the current one. -/
theorem Lined.advance {state : TicketState} (lined : Lined state)
    (idle : state.currentPacket = none) (due : Bool) : StopAndWait (state.advance due) := by
  cases queued : state.queued with
  | nil =>
    -- With an empty queue nothing happens, and nothing waits.
    rw [advance_empty idle queued]
    exact ⟨lined, .idle idle (by simp [queued])⟩
  | cons head rest =>
    have distinct := lined.distinct
    have allocated : state.heap.Allocated head := lined.allocated (by simp [queued])
    rw [queued, List.nodup_cons] at distinct
    have range := DataFramesPacketFactory.generateNextPacketId_range lined.counted
    -- The new current packet is the only one that gets an id, and it is sent under it.
    have current : Lined { state with currentPacket := some head } :=
      ⟨lined.counted, lined.distinct, lined.stored, lined.unnamed, lined.named⟩
    have outside : head ∉ state.queued.tail := by simpa [queued] using distinct.1
    have given := current.give outside
    have named := give_packetId { state with currentPacket := some head } allocated
    have sent := sentSinceReset_send named
    have unnamed : ∀ packet ∈ rest, ({ state with currentPacket := some head }.give
        head).heap.packetId packet = some 0 := fun packet member =>
      given.unnamed packet (by simpa [TicketState.give, queued] using member)
    rw [advance_idle idle queued]
    refine ⟨given.send named (ne_zero_of_range range.1), ?_⟩
    rw [send_eq]
    exact .busy queued rfl named ⟨range.1, range.2.1⟩ sent unnamed

namespace Window

variable {state : TicketState}

theorem note (window : Window state) {call : ThreadCall} (other : call ≠ .resetQueue) :
    Window (state.note call) := by
  cases window with
  | idle idle unnamed => exact .idle idle unnamed
  | busy queued current named range sent unnamed =>
    exact .busy queued current named range (sent.append other) unnamed

/-- A change that keeps the queue, the current packet, the calls and the ids in the queue. -/
theorem of_kept (window : Window state) {after : TicketState}
    (queued : after.queued = state.queued) (current : after.currentPacket = state.currentPacket)
    (calls : after.calls = state.calls)
    (kept : ∀ waiting ∈ state.queued,
      after.heap.packetId waiting = state.heap.packetId waiting) : Window after := by
  cases window with
  | idle idle unnamed =>
    refine .idle (current.trans idle) fun waiting member => ?_
    rw [queued] at member
    exact (kept waiting member).trans (unnamed waiting member)
  | @busy head rest packetId own busy named range sent unnamed =>
    -- The first packet and those behind it are all among the packets that wait.
    have first : after.heap.packetId head = some packetId :=
      (kept head (by simp [own])).trans named
    refine .busy (queued.trans own) (current.trans busy) first range (calls ▸ sent) ?_
    intro waiting member
    exact (kept waiting (by simp [own, member])).trans (unnamed waiting member)

/-- A new packet is no packet that waits. -/
theorem store (window : Window state) (lined : Lined state) (packet : DataFramesPacket) :
    Window (state.store packet) :=
  window.of_kept rfl rfl rfl fun _ member =>
    PacketHeap.packetId_allocate packet (lined.allocated member)

/-- Giving an id to a packet that does not wait changes nothing. -/
theorem give (window : Window state) {packet : PacketPtr} (outside : packet ∉ state.queued) :
    Window (state.give packet) :=
  window.of_kept rfl rfl rfl fun _ member =>
    PacketHeap.packetId_setPacketId_ne _ fun same => outside (same ▸ member)

theorem send (window : Window state) (packet : PacketPtr) : Window (state.send packet) := by
  unfold TicketState.send
  split
  · exact window
  · exact window.note (by simp)

end Window

/-- Filtering a list leaves nothing behind its first element that was not there before. -/
theorem tail_filter_subset {keep : PacketPtr → Bool} (packets : List PacketPtr) :
    (packets.filter keep).tail ⊆ packets.tail := by
  -- Whether or not the first element is kept, what follows it comes from the tail.
  cases packets with
  | nil => simp
  | cons head rest =>
    intro packet member
    rw [List.filter_cons] at member
    split at member
    · exact List.mem_of_mem_filter member
    · exact List.mem_of_mem_filter (List.mem_of_mem_tail member)

namespace StopAndWait

variable {state : TicketState}

/-- The current packet may be sent again at any time. -/
theorem advance (holds : StopAndWait state) (due : Bool) : StopAndWait (state.advance due) := by
  cases holds.window with
  | idle idle _ => exact holds.toLined.advance idle due
  | busy queued current named range sent unnamed =>
    rw [advance_busy current]
    -- Sending again adds one more call under the same id.
    cases due with
    | false => exact holds
    | true =>
      have again := sentSinceReset_send named
      refine ⟨holds.toLined.send named (ne_zero_of_range range.1), ?_⟩
      rw [if_pos rfl, send_eq]
      exact .busy queued current named range again unnamed

theorem note (holds : StopAndWait state) {call : ThreadCall}
    (noSend : ∀ packet sent, call ≠ .sendPacket packet sent) (noReset : call ≠ .resetQueue) :
    StopAndWait (state.note call) :=
  ⟨holds.toLined.note noSend, holds.window.note noReset⟩

theorem store (holds : StopAndWait state) (packet : DataFramesPacket) :
    StopAndWait (state.store packet) :=
  ⟨holds.toLined.store packet, holds.window.store holds.toLined packet⟩

/-- A packet that does not wait may be sent past the queue. -/
theorem sendNow (holds : StopAndWait state) (packet : DataFramesPacket) :
    StopAndWait (state.sendNow packet) := by
  -- The new packet is stored, given an id and sent, all without joining the queue.
  have stored := holds.store packet
  have outside : state.heap.fresh ∉ (state.store packet).queued := holds.fresh_notMem
  have range := DataFramesPacketFactory.generateNextPacketId_range stored.counted
  have allocated : (state.store packet).heap.Allocated state.heap.fresh := by
    simp [Heap.Allocated, TicketState.store]
  have named := give_packetId (state.store packet) allocated
  have given := stored.toLined.give fun member => outside (List.mem_of_mem_tail member)
  exact ⟨given.send named (ne_zero_of_range range.1), (stored.window.give outside).send _⟩

/-- A packet without an id may be appended to the queue. -/
theorem enqueue (holds : StopAndWait state) {packet : DataFramesPacket}
    (type : packet.header.packetType = .packetNeedsTicket) (unnamed : packet.packetId = 0)
    (due : Bool) : StopAndWait (state.enqueue packet due) := by
  have stored := holds.store packet
  have found : (state.store packet).heap.read state.heap.fresh = some packet :=
    Heap.read_allocate_fresh ..
  have empty : (state.store packet).heap.packetId state.heap.fresh = some 0 := by
    rw [PacketHeap.packetId, found, Option.map_some, unnamed]
  -- The new packet waits behind all others, so neither the first nor the current one changes.
  have lined : Lined { state.store packet with queued := state.queued ++ [state.heap.fresh] } := by
    refine ⟨stored.counted, ?_, ?_, ?_, stored.named⟩
    · refine List.nodup_append.mpr ⟨holds.distinct, List.nodup_singleton _, ?_⟩
      intro waiting member other last same
      exact holds.fresh_notMem (List.mem_singleton.mp last ▸ same ▸ member)
    · intro waiting member
      rcases List.mem_append.mp member with earlier | last
      · exact stored.stored waiting earlier
      · rw [List.mem_singleton.mp last]
        exact ⟨packet, found, type⟩
    · intro waiting member
      cases queued : state.queued with
      | nil => simp [queued] at member
      | cons head rest =>
        simp only [queued, List.cons_append, List.tail_cons, List.mem_append,
          List.mem_singleton] at member
        rcases member with earlier | rfl
        · exact stored.unnamed waiting (by simpa [TicketState.store, queued] using earlier)
        · exact empty
  have window : Window { state.store packet with queued := state.queued ++ [state.heap.fresh] } := by
    cases stored.window with
    | idle idle unnamed =>
      refine .idle idle fun waiting member => ?_
      rcases List.mem_append.mp member with earlier | last
      · exact unnamed waiting earlier
      · exact List.mem_singleton.mp last ▸ empty
    | busy queued current named range sent unnamed =>
      refine .busy (congrArg (· ++ [state.heap.fresh]) queued) current named range sent ?_
      intro waiting member
      rcases List.mem_append.mp member with earlier | last
      · exact unnamed waiting earlier
      · exact List.mem_singleton.mp last ▸ empty
  exact ((StopAndWait.mk lined window).note (by simp) (by simp)).advance due

/-- A ticket may be sent for any packet. -/
theorem answer (holds : StopAndWait state) (packetId : UInt32) :
    StopAndWait (state.answer packetId) := by
  -- The empty id is not answered, and for any other the counter moves on.
  by_cases empty : packetId = PACKET_ID_EMPTY
  · rw [TicketState.answer, DataFramesPacketFactory.buildPacketTicket, if_pos empty.symm]
    exact holds
  · obtain ⟨ticket, built, named, _⟩ := state.factory.buildPacketTicket_some empty
    have range := DataFramesPacketFactory.generateNextPacketId_range holds.counted
    have counted : StopAndWait { state with factory := state.factory.generateNextPacketId.2 } := by
      refine ⟨⟨range.2.2 ▸ range.2.1, holds.distinct, holds.stored, holds.unnamed, holds.named⟩, ?_⟩
      exact holds.window.of_kept rfl rfl rfl fun _ _ => rfl
    have stored := counted.store ticket
    -- The ticket is sent under the id that was generated for it.
    have found : ({ state with factory := state.factory.generateNextPacketId.2 }.store
        ticket).heap.packetId state.heap.fresh = some state.factory.generateNextPacketId.1 := by
      rw [PacketHeap.packetId, TicketState.store, Heap.read_allocate_fresh, Option.map_some, named]
    simp only [TicketState.answer, built]
    exact ⟨stored.toLined.send found (ne_zero_of_range range.1), stored.window.send _⟩

/-- A ticket of any id may be applied. -/
theorem remove (holds : StopAndWait state) (packetId : UInt32) (due : Bool) :
    StopAndWait (state.remove packetId due) := by
  unfold TicketState.remove
  dsimp only
  split
  · exact holds
  · -- Whatever is removed, what is left has ids at most in front, and nothing of it is current.
    have lined : Lined { state with
        queued := state.queued.filter (state.heap.packetId · ≠ some packetId)
        currentPacket := none } :=
      ⟨holds.counted, holds.distinct.filter _,
        fun waiting member => holds.stored waiting (List.mem_of_mem_filter member),
        fun waiting member => holds.unnamed waiting (tail_filter_subset _ member), holds.named⟩
    exact (lined.note (by simp)).advance rfl due

/-- The queue may be reset at any time. -/
theorem reset (holds : StopAndWait state) : StopAndWait state.reset := by
  -- Afterwards no packet has an id, and none is the current one.
  have unnamed : ∀ packet ∈ state.queued, state.reset.heap.packetId packet = some 0 :=
    fun packet member =>
      QueueDataFramesPackets.reset_packetId _ (holds.toLined.allocated member) (.inl member)
  refine ⟨⟨holds.counted, holds.distinct, ?_, ?_, ?_⟩, .idle rfl unnamed⟩
  · intro packet member
    obtain ⟨stored, found, type⟩ := holds.stored packet member
    obtain ⟨cleared, kept, same, _⟩ := QueueDataFramesPackets.reset_read state.queued found
    exact ⟨cleared, kept, same ▸ type⟩
  · exact fun packet member => unnamed packet (List.mem_of_mem_tail member)
  · intro packet sent member
    rcases List.mem_append.mp member with earlier | last
    · exact holds.named packet sent earlier
    · cases List.mem_singleton.mp last

end StopAndWait

/-- A ticket with an id removes nothing, or the first packet if it was sent under that id. -/
theorem StopAndWait.remove_named {state : TicketState} (holds : StopAndWait state)
    {packetId : UInt32} (named : packetId ≠ 0) (due : Bool) :
    (state.remove packetId due).queued = state.queued ∨
      ∃ head rest, state.queued = head :: rest ∧ (state.remove packetId due).queued = rest ∧
        SentSinceReset state.calls head packetId := by
  rw [remove_queued]
  -- Packets with the empty id are kept.
  have kept {packets : List PacketPtr}
      (unnamed : ∀ packet ∈ packets, state.heap.packetId packet = some 0) :
      packets.filter (state.heap.packetId · ≠ some packetId) = packets := by
    rw [List.filter_eq_self]
    intro packet member
    simpa [unnamed packet member] using Ne.symm named
  cases holds.window with
  | idle _ unnamed => exact .inl (kept unnamed)
  | @busy head rest current queued _ found _ sent unnamed =>
    -- Only the first packet can have the id of the ticket.
    rw [queued, List.filter_cons, kept unnamed, found]
    by_cases same : current = packetId
    · subst same
      exact .inr ⟨head, rest, rfl, by simp, sent⟩
    · exact .inl (by simp [same])

/-- The packets that were ever queued, in order. -/
def queuedCalls (calls : List ThreadCall) : List PacketPtr :=
  calls.filterMap fun call =>
    match call with
    | .onPacketQueued packet => some packet
    | _ => none

/-- The queue is what is left of all packets ever queued when sent ones are removed in order. -/
def Ordered (state : TicketState) : Prop :=
  ∃ acknowledged, queuedCalls state.calls = acknowledged ++ state.queued ∧
    ∀ packet ∈ acknowledged, ∃ sent, .sendPacket packet sent ∈ state.calls

/-- A step that makes further calls, but neither queues nor removes a packet. -/
structure Quiet (before after : TicketState) : Prop where
  queued : after.queued = before.queued
  calls : ∃ more, after.calls = before.calls ++ more ∧ queuedCalls more = []

namespace Quiet

theorem refl (state : TicketState) : Quiet state state := ⟨rfl, [], by simp, rfl⟩

theorem trans {first second third : TicketState} (front : Quiet first second)
    (back : Quiet second third) : Quiet first third := by
  -- The calls of both steps come one after the other, and none of them queues a packet.
  obtain ⟨early, earlyCalls, earlyQueued⟩ := front.calls
  obtain ⟨late, lateCalls, lateQueued⟩ := back.calls
  refine ⟨back.queued.trans front.queued, early ++ late, ?_, ?_⟩
  · rw [lateCalls, earlyCalls, List.append_assoc]
  · simp only [queuedCalls, List.filterMap_append] at earlyQueued lateQueued ⊢
    rw [earlyQueued, lateQueued, List.append_nil]

/-- A step that makes no calls at all. -/
theorem of_calls {before after : TicketState} (queued : after.queued = before.queued)
    (calls : after.calls = before.calls) : Quiet before after :=
  ⟨queued, [], by simp [calls], rfl⟩

theorem note (state : TicketState) (call : ThreadCall)
    (other : ∀ packet, call ≠ .onPacketQueued packet) : Quiet state (state.note call) := by
  refine ⟨rfl, [call], rfl, ?_⟩
  cases call with
  | onPacketQueued packet => exact absurd rfl (other packet)
  | _ => rfl

theorem send (state : TicketState) (packet : PacketPtr) : Quiet state (state.send packet) := by
  unfold TicketState.send
  split
  · exact refl state
  · exact note state _ (by simp)

theorem advance (state : TicketState) (due : Bool) : Quiet state (state.advance due) := by
  unfold TicketState.advance
  split
  · split
    · exact send state _
    · exact refl state
  · split
    · exact refl state
    · -- Choosing the current packet and giving it an id makes no calls.
      rename_i packet _
      have chosen : Quiet state ({ state with currentPacket := some packet }.give packet) :=
        of_calls rfl rfl
      exact chosen.trans (send _ _)

theorem sendNow (state : TicketState) (packet : DataFramesPacket) :
    Quiet state (state.sendNow packet) := by
  have given : Quiet state ((state.store packet).give state.heap.fresh) := of_calls rfl rfl
  exact given.trans (send _ _)

theorem answer (state : TicketState) (packetId : UInt32) : Quiet state (state.answer packetId) := by
  -- A ticket is stored under a new pointer, and then sent.
  unfold TicketState.answer
  dsimp only
  split
  · exact of_calls rfl rfl
  · rename_i ticket _
    have stored : Quiet state ({ state with
        factory := (state.factory.buildPacketTicket packetId).2 }.store ticket) := of_calls rfl rfl
    exact stored.trans (send _ _)

theorem reset (state : TicketState) : Quiet state state.reset := by
  have noted := note state .resetQueue (by simp)
  exact noted.trans (of_calls rfl rfl)

end Quiet

namespace Ordered

variable {state : TicketState}

theorem of_quiet {after : TicketState} (ordered : Ordered state) (quiet : Quiet state after) :
    Ordered after := by
  -- The packets acknowledged so far stay the same.
  obtain ⟨acknowledged, split, sent⟩ := ordered
  obtain ⟨more, calls, none⟩ := quiet.calls
  refine ⟨acknowledged, ?_, fun packet member => ?_⟩
  · rw [calls, quiet.queued, ← split]
    simp only [queuedCalls, List.filterMap_append] at none ⊢
    rw [none, List.append_nil]
  · obtain ⟨copy, found⟩ := sent packet member
    exact ⟨copy, by rw [calls]; exact List.mem_append_left _ found⟩

theorem enqueue (ordered : Ordered state) (packet : DataFramesPacket) (due : Bool) :
    Ordered (state.enqueue packet due) := by
  refine of_quiet ?_ (Quiet.advance _ due)
  -- The new packet joins both sides at the end.
  obtain ⟨acknowledged, split, sent⟩ := ordered
  refine ⟨acknowledged, ?_, fun other member => ?_⟩
  · simp only [queuedCalls] at split
    simp [TicketState.note, TicketState.store, queuedCalls, split]
  · obtain ⟨copy, found⟩ := sent other member
    exact ⟨copy, List.mem_append_left _ found⟩

/-- A ticket with an id acknowledges the packet whose turn it is. -/
theorem remove (ordered : Ordered state) (holds : StopAndWait state) {packetId : UInt32}
    (named : packetId ≠ 0) (due : Bool) : Ordered (state.remove packetId due) := by
  have calls : ∃ more, (state.remove packetId due).calls = state.calls ++ more ∧
      queuedCalls more = [] := by
    unfold TicketState.remove
    dsimp only
    split
    · exact ⟨[], by simp, rfl⟩
    · exact ((Quiet.note { state with
        queued := state.queued.filter (state.heap.packetId · ≠ some packetId)
        currentPacket := none } _ (by simp)).trans (Quiet.advance _ due)).calls
  -- If the first packet is removed, it moves from the queue to those acknowledged.
  rcases holds.remove_named named due with same | ⟨head, rest, queued, removed, sent⟩
  · exact ordered.of_quiet ⟨same, calls⟩
  · obtain ⟨more, extended, none⟩ := calls
    obtain ⟨acknowledged, split, earlier⟩ := ordered
    refine ⟨acknowledged ++ [head], ?_, fun packet member => ?_⟩
    · rw [extended, removed, List.append_assoc, List.singleton_append, ← queued, ← split]
      simp only [queuedCalls, List.filterMap_append] at none ⊢
      rw [none, List.append_nil]
    · rw [extended]
      rcases List.mem_append.mp member with before | last
      · obtain ⟨copy, found⟩ := earlier packet before
        exact ⟨copy, List.mem_append_left _ found⟩
      · obtain ⟨copy, found, _⟩ := sent
        rw [List.mem_singleton.mp last]
        exact ⟨copy, List.mem_append_left _ (sinceReset_subset _ found)⟩

end Ordered

/-- The steps of the part of a thread that decides about tickets, for tickets with allowed ids. -/
inductive Step (allowed : UInt32 → Prop) : TicketState → TicketState → Prop
  | note {state : TicketState} {call : ThreadCall}
    (noSend : ∀ packet sent, call ≠ .sendPacket packet sent) (noReset : call ≠ .resetQueue)
    (noQueue : ∀ packet, call ≠ .onPacketQueued packet)
    (unticketed : ∀ frames packetId received, call = .onFrameReceived frames packetId received →
      received.header.packetType = .packetWithoutTicket) : Step allowed state (state.note call)
  | sendNow {state : TicketState} (packet : DataFramesPacket) :
    Step allowed state (state.sendNow packet)
  | enqueue {state : TicketState} {packet : DataFramesPacket}
    (type : packet.header.packetType = .packetNeedsTicket) (unnamed : packet.packetId = 0)
    (due : Bool) : Step allowed state (state.enqueue packet due)
  | advance {state : TicketState} (due : Bool) : Step allowed state (state.advance due)
  | answer {state : TicketState} (packetId : UInt32) : Step allowed state (state.answer packetId)
  | remove {state : TicketState} {packetId : UInt32} (permitted : allowed packetId) (due : Bool) :
    Step allowed state (state.remove packetId due)
  | reset {state : TicketState} : Step allowed state state.reset

/-- Every step keeps at most one packet on its way. -/
theorem Step.stopAndWait {allowed : UInt32 → Prop} {before after : TicketState}
    (step : Step allowed before after) (holds : StopAndWait before) : StopAndWait after := by
  -- One lemma for each kind of step.
  cases step with
  | note noSend noReset _ _ => exact holds.note noSend noReset
  | sendNow packet => exact holds.sendNow packet
  | enqueue type unnamed due => exact holds.enqueue type unnamed due
  | advance due => exact holds.advance due
  | answer packetId => exact holds.answer packetId
  | remove _ due => exact holds.remove _ due
  | reset => exact holds.reset

/-- At most one packet is on its way, and packets leave the queue in the order they joined it. -/
structure InOrder (state : TicketState) : Prop extends StopAndWait state where
  ordered : Ordered state

/-- While no ticket has the empty id, packets are acknowledged in the order they were queued. -/
theorem Step.inOrder {before after : TicketState} (step : Step (· ≠ 0) before after)
    (holds : InOrder before) : InOrder after := by
  refine ⟨step.stopAndWait holds.toStopAndWait, ?_⟩
  have ordered := holds.ordered
  -- Only queueing and removing packets touch the order; all other steps are quiet.
  cases step with
  | note _ _ noQueue _ => exact ordered.of_quiet (Quiet.note _ _ noQueue)
  | sendNow packet => exact ordered.of_quiet (Quiet.sendNow _ packet)
  | enqueue _ _ due => exact ordered.enqueue _ due
  | advance due => exact ordered.of_quiet (Quiet.advance _ due)
  | answer packetId => exact ordered.of_quiet (Quiet.answer _ packetId)
  | remove named due => exact ordered.remove holds.toStopAndWait named due
  | reset => exact ordered.of_quiet (Quiet.reset _)

end TicketState

end Threader
