import Threader.Base.EventMachine
import Threader.Threads.PassedPackets
import Threader.Threads.TicketRuns

/-! When the packet that waits for its ticket is passed on again. -/

namespace Threader

/--
A thread, and the packets it has passed to `sendPacket` so far, each with the time noted then.

While the thread is connected, `sendPacket` notes the time of every packet it is called with.
-/
structure TimedThread where
  thread : ThreadDataFrames
  passings : List (PacketPtr × Int)

namespace TimedThread

open ThreadDataFrames (passedPackets)

/-- When a packet was passed on for the last time, if it was. -/
def lastPassed (state : TimedThread) (packet : PacketPtr) : Option Int :=
  (state.passings.filter fun passing => passing.1 = packet).getLast?.map Prod.snd

/-- The current packet, if it was passed on for the last time more than two seconds ago. -/
def Overdue (state : TimedThread) (packet : PacketPtr) : Prop :=
  state.thread.currentPacket = some packet ∧
    ∃ time, state.lastPassed packet = some time ∧ time + 2000 < state.thread.getTickCount.1

/--
An event in which the queue is processed, with the current packet as it is.

A ticket that removes something has the queue processed as well, but without a current packet.
-/
def ProcessesQueue (state : TimedThread) (event : ThreadEvent) : Prop :=
  state.thread.hung = false ∧
    match event with
    | .processQueue => True
    | .sendFrame (some frame) => frame.needsTicket = true
    | _ => False

variable [QtText]

/-- The packets that are passed on in an event. -/
def passes (state : TimedThread) (event : ThreadEvent) : List PacketPtr :=
  (passedPackets (state.thread.react event).calls).drop (passedPackets state.thread.calls).length

/-- A thread reacts to an event, and what it passes on is noted with the time. -/
def react (state : TimedThread) (event : ThreadEvent) : TimedThread where
  thread := state.thread.react event
  passings := state.passings ++
    (state.passes event).map fun packet => (packet, (state.thread.react event).lastPacketSent)

/-- Whenever the queue is processed, a packet that is overdue is passed on again. -/
def Retransmits (state : TimedThread) (event : ThreadEvent) : Prop :=
  state.ProcessesQueue event → ∀ packet, state.Overdue packet → packet ∈ state.passes event

omit [QtText] in
/-- Whenever the queue is processed with a packet overdue, no packet was passed on for as long. -/
def Undelayed (state : TimedThread) (event : ThreadEvent) : Prop :=
  state.ProcessesQueue event → ∀ packet, state.Overdue packet →
    ∀ last ∈ state.passings.getLast?, last.2 + 2000 < state.thread.getTickCount.1

omit [QtText] in
/-- A connected thread with a queue, which has noted when it passed its last packet on. -/
structure Tracked (state : TimedThread) : Prop where
  connected : state.thread.handler.connectionState = .connected
  queued : state.thread.queuePackets.isSome = true
  noted : ∀ last ∈ state.passings.getLast?, state.thread.lastPacketSent = last.2
  stored : ∀ passing ∈ state.passings, state.thread.heap.Allocated passing.1

/-- An event within the connection keeps track of the packets that are passed on. -/
theorem Tracked.react {state : TimedThread} {event : ThreadEvent} (within : event.Within)
    (tracked : state.Tracked) : (state.react event).Tracked := by
  obtain ⟨passed, one, passes⟩ := state.thread.react_passes within
  -- What is noted are the calls behind those that were made before.
  have same : state.passes event = passed := by
    rw [TimedThread.passes, passes.calls, List.drop_left]
  refine ⟨passes.connectionState.trans tracked.connected, passes.queued.trans tracked.queued,
    ?_, ?_⟩
  · intro last member
    simp only [TimedThread.react, same] at member ⊢
    -- Either nothing was passed on, or the only packet that was is the last one.
    cases passed with
    | nil =>
      rw [List.map_nil, List.append_nil] at member
      rw [passes.noted rfl]
      exact tracked.noted last member
    | cons packet later =>
      obtain rfl : later = [] := List.length_eq_zero_iff.mp (by
        rw [List.length_cons] at one
        omega)
      rw [List.map_singleton, List.getLast?_concat] at member
      rw [← Option.some.inj member]
  · simp only [TimedThread.react, same]
    refine List.forall_mem_append.mpr ⟨?_, List.forall_mem_map.mpr passes.allocated⟩
    exact fun passing member => Nat.lt_of_lt_of_le (tracked.stored passing member) passes.stored

omit [QtText] in
/-- The current packet is passed on if the last packet that was sent was sent two seconds ago. -/
theorem processQueue_passes {thread : ThreadDataFrames} (queued : thread.queuePackets.isSome = true)
    {packet : PacketPtr} (current : thread.currentPacket = some packet)
    (allocated : thread.heap.Allocated packet) :
    passedPackets thread.processQueue.calls = passedPackets thread.calls ++
      if thread.lastPacketSent + 2000 < thread.getTickCount.1 then [packet] else [] := by
  -- The clock is read once, and the reading compared with the time of the last packet.
  obtain ⟨packets, queue⟩ := Option.isSome_iff_exists.mp queued
  rw [ThreadDataFrames.processQueue_busy queue current]
  split
  · let clocked := { thread with toThreadHandler := thread.getTickCount.2 }
    have there : clocked.heap.Allocated packet := allocated
    exact (ThreadDataFrames.Works.sendPacket there).calls
  · exact (List.append_nil _).symm

/-- A frame that needs a ticket joins the queue, and the current packet is passed on if it is due. -/
theorem sendFrame_passes {thread : ThreadDataFrames} (queued : thread.queuePackets.isSome = true)
    {frame : DataFrame} (ticketed : frame.needsTicket = true) {packet : PacketPtr}
    (current : thread.currentPacket = some packet) (allocated : thread.heap.Allocated packet) :
    passedPackets (thread.sendFrame (some frame)).2.calls = passedPackets thread.calls ++
      if thread.lastPacketSent + 2000 < thread.getTickCount.1 then [packet] else [] := by
  -- A frame that needs a ticket has a definition, so a packet is built for it.
  obtain ⟨definition, described⟩ : ∃ definition, frame.definition = some definition := by
    cases described : frame.definition with
    | none => simp [DataFrame.needsTicket, described] at ticketed
    | some definition => exact ⟨definition, rfl⟩
  have needs : definition.needsTicket = true := by
    simpa [DataFrame.needsTicket, described] using ticketed
  obtain ⟨built, _, sent, _⟩ := thread.sendFrame_built described
  obtain ⟨packets, queue⟩ := Option.isSome_iff_exists.mp queued
  rw [sent, needs, ThreadDataFrames.sendBuilt_queued _ queue]
  -- The packet of the frame joins the queue, which changes nothing for the current one.
  let joined := { (thread.makeShared (built.setPacketName frame.name)).2 with
    queuePackets := some ⟨packets.packets ++ [thread.heap.fresh]⟩ }.record
      (.onPacketQueued thread.heap.fresh)
  have there : joined.heap.Allocated packet :=
    Nat.lt_of_lt_of_le allocated (ThreadDataFrames.makeShared_works _ _).stored
  have silent : passedPackets joined.calls = passedPackets thread.calls := by
    simp [joined, ThreadDataFrames.record, ThreadDataFrames.makeShared, passedPackets]
  have passes := @processQueue_passes joined rfl packet current there
  show passedPackets joined.processQueue.calls = _
  rw [passes, silent]
  rfl

/-- Where the queue is processed, the current packet is passed on if the thread finds it due. -/
theorem passes_eq {state : TimedThread} (tracked : state.Tracked) {event : ThreadEvent}
    (processes : state.ProcessesQueue event) {packet : PacketPtr}
    (current : state.thread.currentPacket = some packet)
    (allocated : state.thread.heap.Allocated packet) :
    state.passes event =
      if state.thread.lastPacketSent + 2000 < state.thread.getTickCount.1 then [packet] else [] := by
  obtain ⟨running, processes⟩ := processes
  -- The thread is not hung, so it reacts.
  have running : ¬ state.thread.hung = true := by simp [running]
  unfold passes ThreadDataFrames.react
  rw [if_neg running]
  cases event with
  | processQueue =>
    show (passedPackets state.thread.processQueue.calls).drop _ = _
    rw [processQueue_passes tracked.queued current allocated, List.drop_left]
  | sendFrame frame =>
    cases frame with
    | none => exact processes.elim
    | some frame =>
      show (passedPackets (state.thread.sendFrame (some frame)).2.calls).drop _ = _
      rw [sendFrame_passes tracked.queued processes current allocated, List.drop_left]
  | _ => exact processes.elim

/-- An overdue packet is passed on exactly if the last packet that was passed on was so long ago. -/
theorem retransmits_iff {state : TimedThread} (tracked : state.Tracked) (event : ThreadEvent) :
    state.Retransmits event ↔ state.Undelayed event := by
  refine forall_congr' fun processes => forall_congr' fun packet => forall_congr' fun overdue => ?_
  obtain ⟨current, time, passed, _⟩ := overdue
  -- The packet is among those that were passed on, so there is a last one of them.
  obtain ⟨passing, found, _⟩ := Option.map_eq_some_iff.mp passed
  have member := List.mem_of_mem_getLast? found
  obtain ⟨inside, same⟩ := List.mem_filter.mp member
  obtain rfl : passing.1 = packet := by simpa using same
  rw [passes_eq tracked processes current (tracked.stored passing inside)]
  obtain ⟨last, final⟩ : ∃ last, state.passings.getLast? = some last := by
    have some : state.passings ≠ [] := List.ne_nil_of_mem inside
    exact ⟨_, List.getLast?_eq_some_getLast some⟩
  rw [final, tracked.noted last final]
  -- The thread looks at the time of the last one, whatever packet it was.
  simp only [Option.mem_some_iff, forall_eq']
  split
  · rename_i due
    exact iff_of_true List.mem_cons_self due
  · rename_i early
    exact iff_of_false List.not_mem_nil early

/--
In a run of a connected thread with a queue, a packet that is overdue when the queue is processed is
passed on again at every step exactly if at every such step no packet was passed on for as long.
-/
theorem run_retransmits_iff {start : TimedThread} (tracked : start.Tracked)
    {events : List ThreadEvent} (within : ∀ event ∈ events, event.Within) :
    EventMachine.Along react Retransmits start events ↔
      EventMachine.Along react Undelayed start events := by
  have admitted : EventMachine.Along react (fun _ event => event.Within) start events :=
    (EventMachine.along_iff_forall react).mpr within
  -- In every state of the run, the time of the last packet is the one that the thread has noted.
  have agree : ∀ state event, ThreadEvent.Within event → Tracked state →
      (Retransmits state event ↔ Undelayed state event) :=
    fun state event _ tracked => retransmits_iff tracked event
  have preserved : ∀ state event, ThreadEvent.Within event → Tracked state →
      Retransmits state event → Tracked (react state event) :=
    fun state event within tracked _ => tracked.react within
  exact EventMachine.along_iff_of_along react agree preserved tracked admitted

/-- A connected thread with a queue, whose clock reads 0, 0, 1900 and then 2500. -/
def waiting : TimedThread :=
  ⟨{ ThreadDataFrames.connected none with
      clock := ⟨fun reading => [0, 0, 1900].getD reading 2500, 0⟩ }, []⟩

/-- A frame without atoms that needs no ticket. -/
def unticketedFrame : DataFrame :=
  ⟨some ⟨[0x55], false, 2, false, 0, []⟩, [], 2, 0, 0⟩

omit [QtText] in
/-- A packet that waits alone is passed on again, because nothing else was passed on meanwhile. -/
theorem run_retransmits_iff_waiting :
    let events := [.sendFrame (some ThreadDataFrames.ticketedFrame), .processQueue, .processQueue]
    EventMachine.Along (@react .ascii) (@Retransmits .ascii) waiting events ↔
      EventMachine.Along (@react .ascii) Undelayed waiting events := by
  intro events
  have tracked : waiting.Tracked := ⟨rfl, rfl, by simp [waiting], by simp [waiting]⟩
  have within : ∀ event ∈ events, event.Within := by simp [events, ThreadEvent.Within]
  exact @run_retransmits_iff .ascii _ tracked _ within

omit [QtText] in
/-- A packet without a ticket at 1900 ms keeps the overdue one from being passed on at 2500 ms. -/
theorem run_delays :
    ¬ EventMachine.Along (@react .ascii) (@Retransmits .ascii) waiting
      [.sendFrame (some ThreadDataFrames.ticketedFrame), .sendFrame (some unticketedFrame),
        .processQueue] := by
  rintro ⟨-, -, retransmits, -⟩
  have passed := retransmits ⟨rfl, trivial⟩ 0 ⟨rfl, 0, by decide, by decide⟩
  exact absurd passed (by decide)

end TimedThread

end Threader
