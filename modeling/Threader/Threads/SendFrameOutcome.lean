import Threader.Threads.HandlerInvariant

/-! Whether a frame that `sendFrame` accepts is in the queue or in the output stream afterwards. -/

namespace Threader

/-- The first part of a conjunction that succeeds has succeeded, and so has the second one. -/
theorem DataStream.andThen_eq_true {first : Bool × DataStream}
    {next : DataStream → Bool × DataStream} (both : (andThen first next).1 = true) :
    (next first.2).1 = true := by
  unfold andThen at both
  split at both
  · exact both
  · rename_i failed
    exact absurd both failed

namespace DataFrame

variable [QtText]

/-- The bytes that a frame is serialised to, if it is written to its end. -/
def serialisation (frame : DataFrame) : Option QByteArray :=
  let written := frame.write (.ofData [])
  if written.1 then written.2.data else none

/-- No atom is missing, so that all of them can be written. -/
def Complete (frame : DataFrame) : Prop := ∀ atom ∈ frame.atoms, atom.isSome

omit [QtText] in
/-- A frame in which no atom is missing consists of atoms. -/
theorem Complete.wired {frame : DataFrame} (complete : frame.Complete) :
    ∃ atoms : List AbstractDataAtom, frame.atoms = atoms.map some := by
  -- The atoms are taken out of their pointers one by one.
  unfold Complete at complete
  generalize frame.atoms = atoms at complete ⊢
  induction atoms with
  | nil => exact ⟨[], rfl⟩
  | cons atom atoms ih =>
    obtain ⟨first, others⟩ := List.forall_mem_cons.mp complete
    obtain ⟨atom, rfl⟩ := Option.isSome_iff_exists.mp first
    obtain ⟨atoms, rfl⟩ := ih others
    exact ⟨atom :: atoms, rfl⟩

/-- A missing atom ends the loop over the atoms. -/
theorem complete_of_writeAtoms {atoms : List (Option AbstractDataAtom)} {stream : DataStream}
    (written : (writeAtoms atoms stream).1 = true) : ∀ atom ∈ atoms, atom.isSome := by
  -- The loop goes on behind an atom only when it was written.
  induction atoms generalizing stream with
  | nil => exact fun _ => nofun
  | cons atom atoms ih =>
    cases atom with
    | none => exact absurd written Bool.false_ne_true
    | some atom =>
      exact List.forall_mem_cons.mpr ⟨rfl, ih (DataStream.andThen_eq_true written)⟩

/-- A frame in which no atom is missing is written as its image. -/
theorem Complete.write {frame : DataFrame} (complete : frame.Complete) :
    frame.write (.ofData []) = (true, .atEnd frame.image) := by
  obtain ⟨atoms, wired⟩ := complete.wired
  rw [DataStream.ofData_nil, (frame.writes wired).atEnd, List.nil_append]

/-- A frame is serialised to its image if no atom is missing, and otherwise not at all. -/
theorem serialisation_eq_some_iff (frame : DataFrame) (data : QByteArray) :
    frame.serialisation = some data ↔ frame.Complete ∧ frame.image = data := by
  -- A frame that is written to its end has no missing atom, and so has its image.
  rw [serialisation]
  constructor
  · intro serialised
    split at serialised
    · rename_i written
      have complete : frame.Complete := complete_of_writeAtoms (DataStream.andThen_eq_true written)
      rw [complete.write] at serialised
      exact ⟨complete, Option.some.inj serialised⟩
    · cases serialised
  · rintro ⟨complete, rfl⟩
    rw [complete.write]
    rfl

end DataFrame

/-- The data of a packet that is built are what the frame was written as, as far as they fit. -/
theorem DataFramesPacketFactory.buildPacketFromFrame_data [QtText]
    {factory after : DataFramesPacketFactory} {frame : DataFrame} {packet : DataFramesPacket}
    (complete : frame.Complete)
    (built : factory.buildPacketFromFrame frame false = (some packet, after)) :
    packet.data = frame.image.take (frame.image.length % 4294967296) := by
  -- The header counts the bytes in 32 bits, and so many are taken.
  unfold buildPacketFromFrame at built
  split at built
  · cases built
  · rw [complete.write] at built
    obtain rfl := Option.some.inj (congrArg Prod.fst built)
    show List.take (UInt32.ofNat frame.image.length).toNat frame.image = _
    rw [UInt32.toNat_ofNat']

namespace ThreadHandler

/-- The cursor of the output stream stands at the end of the buffer, or behind an empty buffer. -/
def Aligned (thread : ThreadHandler) : Prop :=
  ∃ gap : Nat, thread.outputStream =
      ⟨some thread.outputBuffer, thread.outputBuffer.length + gap⟩ ∧
    (thread.outputBuffer = [] ∨ gap = 0)

/--
Bytes are appended to the output stream, of which the device may take a part at once.

A gap in front of the cursor is filled with zeros.
-/
def Appends (bytes : List UInt8) (before after : ThreadHandler) : Prop :=
  ∃ gap : Nat, after.handler.output ++ after.outputBuffer =
    before.handler.output ++ before.outputBuffer ++ (List.replicate gap 0 ++ bytes)

/-- A cursor at the end of the buffer leaves no gap. -/
theorem Aligned.of_atEnd {thread : ThreadHandler}
    (atEnd : thread.outputStream = .atEnd thread.outputBuffer) : thread.Aligned :=
  ⟨0, by rw [atEnd]; simp [DataStream.atEnd], .inr rfl⟩

/-- Nothing that a thread does with its device moves the cursor away from the end. -/
theorem aligned_invariant : HandlerInvariant Aligned where
  getTickCount aligned := aligned
  inputBuffer _ aligned := aligned
  times _ _ aligned := aligned
  connectionState _ aligned := aligned
  clearBuffers {thread} aligned := by
    -- The cursor stays where it was, which is behind the empty buffer.
    obtain ⟨gap, stream, _⟩ := aligned
    refine ⟨thread.outputBuffer.length + gap, ?_, .inl rfl⟩
    rw [clearBuffers, stream]
    simp [outputBuffer]
  slotOnReadyToWrite {thread} aligned := by
    obtain ⟨gap, stream, empty | none⟩ := aligned
    · have unchanged : thread.slotOnReadyToWrite = thread := by
        simp [slotOnReadyToWrite, empty]
      rw [unchanged]
      exact ⟨gap, stream, .inl empty⟩
    · have atEnd : thread.outputStream = .atEnd thread.outputBuffer := by
        rw [stream, none]
        simp [DataStream.atEnd, outputBuffer]
      exact .of_atEnd (slotOnReadyToWrite_writes thread atEnd).atEnd
  sendPacketBase {thread} packet aligned := by
    by_cases connected : thread.handler.connectionState = .connected
    · cases packet with
      | none => exact aligned
      | some packet =>
        obtain ⟨gap, stream, _⟩ := aligned
        exact .of_atEnd (sendPacketBase_connected connected stream packet).2.atEnd
    · rw [sendPacketBase_unconnected connected]
      exact aligned

/-- Where a thread is constructed, the cursor is at the beginning of an empty buffer. -/
theorem aligned_construct (handler : HandlerBase) (clock : Clock) :
    (construct handler clock).Aligned := by
  -- A thread starts at the end of an empty buffer, and may be connected from then on.
  have fresh (lastPacketSent : Int) : Aligned ⟨handler, [], .ofData [], lastPacketSent,
      lastPacketSent, { clock with readings := clock.readings + 2 }⟩ := .of_atEnd rfl
  unfold construct
  dsimp only
  split
  · exact aligned_invariant.slotOnConnectionStateChanged (fresh _) _
  · exact fresh _

/-- While connected, a packet is appended to the output stream. -/
theorem Aligned.appends {thread : ThreadHandler} (aligned : thread.Aligned)
    (connected : thread.handler.connectionState = .connected) (packet : DataFramesPacket) :
    Appends packet.image thread (thread.sendPacket (some packet)).2 := by
  -- A gap in front of the cursor is filled when the packet is written.
  obtain ⟨gap, stream, _⟩ := aligned
  exact ⟨gap, (sendPacketBase_connected connected stream packet.toPacketBase).2.stream⟩

end ThreadHandler

/-- Going on with the queue changes nothing of the packets but an id. -/
theorem TicketState.advance_sameButIds (state : TicketState) (due : Bool) :
    PacketHeap.SameButIds state.heap (state.advance due).heap := by
  -- Only a packet that is sent for the first time gets an id.
  have sent (state : TicketState) (packet : PacketPtr) :
      (state.send packet).heap = state.heap := by rw [send_eq]
  unfold advance
  split
  · split
    · rw [sent]
      exact fun _ => rfl
    · exact fun _ => rfl
  · split
    · exact fun _ => rfl
    · rw [sent]
      exact PacketHeap.sameButIds_setPacketId state.heap _ _

namespace ThreadDataFrames

/-- A packet joins the queue of a thread. -/
def Queues (packet : DataFramesPacket) (before after : ThreadDataFrames) : Prop :=
  ∃ pointer, after.queued = before.queued ++ [pointer] ∧ after.heap.read pointer = some packet

/-- A built packet that needs a ticket joins the queue, if there is one. -/
theorem queues_sendBuilt {thread : ThreadDataFrames} (queue : thread.queuePackets ≠ none)
    (packet : DataFramesPacket) :
    ∃ later : DataFramesPacket, later.setPacketId 0 = packet.setPacketId 0 ∧
      Queues later thread (thread.sendBuilt true packet) := by
  -- The packet joins the queue first, and then the queue is looked at.
  obtain ⟨packets, queue⟩ := Option.ne_none_iff_exists'.mp queue
  rw [sendBuilt_queued packet queue]
  let joined := { (thread.makeShared packet).2 with
    queuePackets := some ⟨packets.packets ++ [thread.heap.fresh]⟩ }.record
      (.onPacketQueued thread.heap.fresh)
  have waiting : joined.queued = thread.queued ++ [thread.heap.fresh] := by
    simp [joined, record, queued, queue]
  have stored : joined.tickets.heap.read thread.heap.fresh = some packet :=
    Heap.read_allocate_fresh ..
  obtain ⟨due, processed⟩ := joined.processQueue_tickets
  have kept : joined.processQueue.queued = joined.queued := by
    have same := congrArg TicketState.queued processed
    rwa [TicketState.advance_queued] at same
  -- The packet may have been given an id, and is the same otherwise.
  obtain ⟨later, found, same⟩ := (joined.tickets.advance_sameButIds due).after stored
  rw [← processed] at found
  exact ⟨later, same, thread.heap.fresh, kept.trans waiting, found⟩

/-- A built packet that is sent at once leaves the queue alone, and is given to the device. -/
theorem sendBuilt_at_once {thread : ThreadDataFrames} {needsTicket : Bool}
    (packet : DataFramesPacket) (now : thread.queuePackets = none ∨ needsTicket = false) :
    (thread.sendBuilt needsTicket packet).queued = thread.queued ∧
      ∃ named : DataFramesPacket, named.setPacketId 0 = packet.setPacketId 0 ∧
        (thread.sendBuilt needsTicket packet).toThreadHandler =
          (thread.toThreadHandler.sendPacket (some named)).2 := by
  -- The packet is stored, given an id, and handed to the device.
  let named := packet.setPacketId thread.dataFramesPacketFactory.generateNextPacketId.1
  let given := (thread.makeShared packet).2.giveNextPacketId thread.heap.fresh
  have stored : given.heap.read thread.heap.fresh = some named := by
    refine (Heap.read_update_self ..).trans ?_
    exact congrArg (Option.map _) (Heap.read_allocate_fresh ..)
  have sent : given.sendPacket thread.heap.fresh =
      { given.record (.sendPacket thread.heap.fresh named) with
        toThreadHandler := (thread.toThreadHandler.sendPacket (some named)).2 } := by
    simp only [sendPacket, stored]
    rfl
  rw [sendBuilt_now packet now]
  have queue := congrArg queued sent
  exact ⟨queue, named, rfl, congrArg ThreadDataFrames.toThreadHandler sent⟩

variable [QtText]

/-- A well-formed packet whose data are the whole of a frame. -/
def Carries (packet : DataFramesPacket) (frame : DataFrame) : Prop :=
  frame.serialisation = some packet.data ∧ (packet.setPacketName []).WellFormed

/-- A packet with a frame joins the queue, or is appended to the output stream. -/
def Keeps (frame : DataFrame) (before after : ThreadDataFrames) : Prop :=
  ∃ packet : DataFramesPacket, Carries packet frame ∧
    (Queues packet before after ∨
      before.toThreadHandler.Appends packet.image after.toThreadHandler)

/-- The thread keeps a frame if `sendFrame` returns true. -/
def KeepsSent (thread : ThreadDataFrames) (frame : Option DataFrame) : Prop :=
  (thread.sendFrame frame).1 = true →
    ∃ sent, frame = some sent ∧ Keeps sent thread (thread.sendFrame frame).2

/-- A frame is refused, or it is complete, fits into a packet, and can be queued or written. -/
def CanKeep (thread : ThreadDataFrames) : Option DataFrame → Prop
  | none => True
  | some frame => frame.definition = none ∨
      (frame.Complete ∧ frame.image.length < 4294967296) ∧
        (thread.handler.connectionState = .connected ∨
          thread.queuePackets ≠ none ∧ frame.needsTicket = true)

/-- Whether a packet carries a frame does not depend on its id and its name. -/
theorem Carries.of_built {factory after : DataFramesPacketFactory} {frame : DataFrame}
    {packet sent : DataFramesPacket} (complete : frame.Complete)
    (fits : frame.image.length < 4294967296)
    (built : factory.buildPacketFromFrame frame false = (some packet, after))
    (same : sent.setPacketId 0 = (packet.setPacketName frame.name).setPacketId 0) :
    Carries sent frame := by
  -- The id and the name of a packet are no part of its data.
  have data : sent.data = packet.data := (congrArg DataFramesPacket.data same :)
  have whole := DataFramesPacketFactory.buildPacketFromFrame_data complete built
  rw [Nat.mod_eq_of_lt fits, List.take_length] at whole
  refine ⟨(frame.serialisation_eq_some_iff _).mpr ⟨complete, (data.trans whole).symm⟩, ?_⟩
  have valid := DataFramesPacketFactory.buildPacketFromFrame_wellFormed (congrArg Prod.fst built)
  exact .of_sameButId same.symm (valid.of_named frame.name)

/-- A frame that a packet carries is complete, and fits into it. -/
theorem Carries.complete {packet : DataFramesPacket} {frame : DataFrame}
    (carries : Carries packet frame) : frame.Complete ∧ frame.image.length < 4294967296 := by
  -- The length of a packet is a number of 32 bits.
  obtain ⟨complete, image⟩ := (frame.serialisation_eq_some_iff _).mp carries.1
  refine ⟨complete, ?_⟩
  rw [image, show packet.data.length = packet.header.length.toNat from carries.2.length]
  exact UInt32.toNat_lt _

omit [QtText] in
/-- Without a connection, a packet that is sent at once is neither queued nor written. -/
theorem not_kept_of_unconnected {thread : ThreadDataFrames} {needsTicket : Bool}
    (built : DataFramesPacket) (now : thread.queuePackets = none ∨ needsTicket = false)
    (apart : thread.handler.connectionState ≠ .connected) (packet : DataFramesPacket) :
    ¬ (Queues packet thread (thread.sendBuilt needsTicket built) ∨
      thread.toThreadHandler.Appends packet.image
        (thread.sendBuilt needsTicket built).toThreadHandler) := by
  -- Neither the queue nor the stream has changed.
  obtain ⟨queued, named, _, sent⟩ := sendBuilt_at_once built now
  rintro (⟨pointer, grown, _⟩ | ⟨gap, appended⟩)
  · rw [queued] at grown
    exact List.cons_ne_nil _ _ (List.self_eq_append_right.mp grown)
  · -- The stream stays as it was, but the header of the packet has some bytes.
    have unchanged : (thread.toThreadHandler.sendPacket (some named)).2 = thread.toThreadHandler :=
      congrArg Prod.snd (ThreadHandler.sendPacketBase_unconnected apart (some named.toPacketBase))
    rw [sent, unchanged] at appended
    have nothing := List.self_eq_append_right.mp appended
    have header : packet.header.toBytes.length = 13 := packet.header.toBytes_length
    have length := congrArg List.length nothing
    simp only [List.length_append, DataFramesPacket.image, List.length_nil] at length
    omega

/-- With the cursor in its place, a frame that is sent is kept exactly if it can be kept. -/
theorem keepsSent_iff {thread : ThreadDataFrames} (aligned : thread.toThreadHandler.Aligned)
    (frame : Option DataFrame) : thread.KeepsSent frame ↔ thread.CanKeep frame := by
  -- A frame that is refused loses nothing; any other one is built into a packet.
  cases frame with
  | none =>
    refine iff_of_true (fun accepted => ?_) trivial
    cases accepted
  | some frame =>
    cases described : frame.definition with
    | none =>
      have refused : (thread.sendFrame (some frame)).1 = false := by
        simp only [sendFrame, DataFramesPacketFactory.buildPacketFromFrame, described]
      refine iff_of_true (fun accepted => ?_) (.inl described)
      rw [refused] at accepted
      cases accepted
    | some definition =>
      obtain ⟨packet, built, sent, _, _⟩ := thread.sendFrame_built described
      have needs : frame.needsTicket = definition.needsTicket := by
        simp only [DataFrame.needsTicket, described]
      have wanted : thread.CanKeep (some frame) ↔
          (frame.Complete ∧ frame.image.length < 4294967296) ∧
            (thread.handler.connectionState = .connected ∨
              thread.queuePackets ≠ none ∧ definition.needsTicket = true) := by
        rw [CanKeep, needs, described]
        exact or_iff_right (Option.some_ne_none definition)
      -- A packet that does not wait for its ticket goes at once.
      have atOnce (waitless : ¬ (thread.queuePackets ≠ none ∧ definition.needsTicket = true)) :
          thread.queuePackets = none ∨ definition.needsTicket = false :=
        (not_and_or.mp waitless).imp not_not.mp Bool.eq_false_iff.mpr
      rw [wanted, KeepsSent, sent]
      constructor
      · intro keeps
        obtain ⟨_, same, kept, carries, place⟩ := keeps rfl
        cases same
        refine ⟨carries.complete, ?_⟩
        -- Without a connection, only a packet that joins the queue is kept.
        by_contra neither
        obtain ⟨apart, unqueued⟩ := not_or.mp neither
        exact not_kept_of_unconnected (packet.setPacketName frame.name) (atOnce unqueued) apart
          kept place
      · rintro ⟨⟨complete, fits⟩, place⟩ _
        refine ⟨frame, rfl, ?_⟩
        by_cases waits : thread.queuePackets ≠ none ∧ definition.needsTicket = true
        · obtain ⟨later, same, queues⟩ :=
            queues_sendBuilt waits.1 (packet.setPacketName frame.name)
          rw [waits.2]
          exact ⟨later, .of_built complete fits built same, .inl queues⟩
        · have connected := place.resolve_right waits
          obtain ⟨_, named, same, given⟩ :=
            sendBuilt_at_once (packet.setPacketName frame.name) (atOnce waits)
          refine ⟨named, .of_built complete fits built same, .inr ?_⟩
          rw [given]
          exact aligned.appends connected named

omit [QtText]

/-- A thread for a device that is not connected, with a queue. -/
def unconnected : ThreadDataFrames :=
  construct ⟨.disconnected, fun _ => 0, 0, []⟩ ⟨fun _ => 0, 0⟩ true none 0

end ThreadDataFrames

end Threader
