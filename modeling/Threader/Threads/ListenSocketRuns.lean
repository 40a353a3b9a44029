import Mathlib.Data.List.Chain
import Threader.Threads.ThreadListenSocket

/-! A listening thread over whole runs: no descriptor is lost, or closed for somebody else. -/

namespace Threader

namespace ThreadListenSocket

open EventMachine (run run_invariant)
open SocketUtils (lowest closeSocket createTcpServerSocket createTcpServerSocket_cases lowest_notMem
  mem_closeSocket)

/-- The poller of the listening socket has this descriptor, and waits for these events. -/
def Listener (thread : ThreadListenSocket) (descriptor : Descriptor) (events : UInt16) : Prop :=
  thread.polling.objects listener = .base descriptor events

/-- The descriptors that are open are those of others and that of the listening socket. -/
structure Accounted (thread : ThreadListenSocket) : Prop where
  owned : ∀ socket, socket ∈ thread.sockets ↔
    socket ∈ thread.others ∨ (socket : Int) = thread.descriptor
  apart : ∀ socket ∈ thread.others, (socket : Int) ≠ thread.descriptor
  pipe : (thread.polling.objects pollerThread).descriptor = INVALID_DESCRIPTOR ∨
    ∃ socket ∈ thread.others, (thread.polling.objects pollerThread).descriptor = (socket : Int)
  listens : thread.Listener thread.descriptor
    (if thread.isInitialized then POLLIN ||| POLLERR else 0)
  socket : if thread.isInitialized then ∃ socket : Nat, thread.descriptor = socket
    else thread.descriptor = INVALID_DESCRIPTOR

namespace Accounted

variable {thread : ThreadListenSocket}

/-- Descriptors of others are opened and closed, while the pollers stay as they are. -/
theorem of_polling (accounted : thread.Accounted) {after : ThreadListenSocket}
    (polling : after.polling = thread.polling)
    (isInitialized : after.isInitialized = thread.isInitialized)
    (owned : ∀ socket, socket ∈ after.sockets ↔
      socket ∈ after.others ∨ (socket : Int) = thread.descriptor)
    (apart : ∀ socket ∈ after.others, (socket : Int) ≠ thread.descriptor)
    (pipe : ∀ socket ∈ thread.others,
      (thread.polling.objects pollerThread).descriptor = (socket : Int) → socket ∈ after.others) :
    after.Accounted := by
  obtain ⟨_, _, before, listens, socket⟩ := accounted
  have descriptor : after.descriptor = thread.descriptor := by
    rw [ThreadListenSocket.descriptor, polling]
    rfl
  refine ⟨?_, ?_, ?_, ?_, ?_⟩
  · rwa [descriptor]
  · rwa [descriptor]
  · rw [polling]
    exact before.imp_right fun ⟨socket, member, same⟩ => ⟨socket, pipe socket member same, same⟩
  · rwa [Listener, descriptor, polling, isInitialized]
  · rwa [descriptor, isInitialized]

/-- What is signalled, and when the next attempt is made, has nothing to do with descriptors. -/
theorem of_same (accounted : thread.Accounted) {after : ThreadListenSocket}
    (polling : after.polling = thread.polling)
    (isInitialized : after.isInitialized = thread.isInitialized)
    (sockets : after.sockets = thread.sockets) (others : after.others = thread.others) :
    after.Accounted :=
  accounted.of_polling polling isInitialized (by rw [sockets, others]; exact accounted.owned)
    (by rw [others]; exact accounted.apart) (by rw [others]; exact fun _ member _ => member)

/-- A socket that is listening is open. -/
theorem descriptor_eq (accounted : thread.Accounted) :
    thread.descriptor = INVALID_DESCRIPTOR ↔ thread.isInitialized = false := by
  have socket := accounted.socket
  cases initialized : thread.isInitialized with
  | false => simpa [initialized] using socket
  | true =>
    obtain ⟨socket, same⟩ : ∃ socket : Nat, thread.descriptor = socket := by
      simpa [initialized] using socket
    simp [same, socket_ne_invalid]

/-- The poller of the listening socket is changed, and with it what is open. -/
theorem changed (accounted : thread.Accounted) {after : ThreadListenSocket} (descriptor : Descriptor)
    (objects : after.polling.objects = Function.update thread.polling.objects listener
      (.base descriptor (if after.isInitialized then POLLIN ||| POLLERR else 0)))
    (others : after.others = thread.others)
    (owned : ∀ socket, socket ∈ after.sockets ↔
      socket ∈ thread.others ∨ (socket : Int) = descriptor)
    (apart : ∀ socket ∈ thread.others, (socket : Int) ≠ descriptor)
    (socket : if after.isInitialized then ∃ socket : Nat, descriptor = socket
      else descriptor = INVALID_DESCRIPTOR) : after.Accounted := by
  have now : after.descriptor = descriptor := by
    rw [ThreadListenSocket.descriptor, objects, Function.update_self]
    rfl
  have other : after.polling.objects pollerThread = thread.polling.objects pollerThread := by
    rw [objects, Function.update_of_ne (by decide)]
  refine ⟨?_, ?_, ?_, ?_, ?_⟩
  · rw [now, others]
    exact owned
  · rw [now, others]
    exact apart
  · rw [other, others]
    exact accounted.pipe
  · rw [Listener, now, objects, Function.update_self]
  · rw [now]
    exact socket

/-- A socket that stops listening is closed, and nothing else is. -/
theorem finalize (accounted : thread.Accounted) : thread.finalize.Accounted := by
  have listens := accounted.listens
  unfold ThreadListenSocket.finalize finalizeLinux
  split
  · -- Without a descriptor the thread was not listening.
    rename_i invalid
    have stopped := accounted.descriptor_eq.mp invalid
    exact accounted.of_same rfl stopped.symm rfl rfl
  · refine accounted.changed INVALID_DESCRIPTOR ?_ rfl ?_ ?_ rfl
    · unfold Listener at listens
      simp [setDescriptor, setEvents, Polling.step, listens, Poller.perform]
    · -- The others are not the one that is closed.
      intro socket
      rw [or_iff_left (socket_ne_invalid socket)]
      show socket ∈ closeSocket thread.descriptor thread.sockets ↔ _
      rw [mem_closeSocket, accounted.owned]
      exact ⟨fun kept => kept.1.resolve_right kept.2,
        fun member => ⟨.inl member, accounted.apart socket member⟩⟩
    · exact fun socket _ => socket_ne_invalid socket

/-- A descriptor that the system hands out is not that of the listening socket. -/
theorem lowest_ne (accounted : thread.Accounted) :
    (lowest thread.sockets : Int) ≠ thread.descriptor := fun same =>
  lowest_notMem thread.sockets ((accounted.owned _).mpr (.inr same))

/-- Something else opens a descriptor. -/
theorem opened (accounted : thread.Accounted) {after : ThreadListenSocket}
    (polling : after.polling = thread.polling)
    (isInitialized : after.isInitialized = thread.isInitialized)
    (sockets : after.sockets = lowest thread.sockets :: thread.sockets)
    (others : after.others = lowest thread.sockets :: thread.others) : after.Accounted := by
  refine accounted.of_polling polling isInitialized (fun socket => ?_) ?_ fun socket member _ => ?_
  · rw [sockets, others, List.mem_cons, List.mem_cons, accounted.owned, or_assoc]
  · rw [others]
    exact List.forall_mem_cons.mpr ⟨accounted.lowest_ne, accounted.apart⟩
  · rw [others]
    exact List.mem_cons_of_mem _ member

/-- A client is given away or closed, and the listening socket stays as it is. -/
theorem acceptTurn (accounted : thread.Accounted) (accept : Bool) :
    (thread.acceptTurn accept).Accounted := by
  cases accept with
  | true => exact accounted.opened rfl rfl rfl rfl
  | false =>
    -- The socket that was handed out is the one that is closed again.
    refine accounted.of_polling rfl rfl (fun socket => ?_) accounted.apart fun _ member _ => member
    show socket ∈ closeSocket (lowest thread.sockets) (lowest thread.sockets :: thread.sockets) ↔
      socket ∈ thread.others ∨ _
    rw [mem_closeSocket, List.mem_cons, ← accounted.owned]
    constructor
    · rintro ⟨rfl | member, other⟩
      · exact absurd rfl other
      · exact member
    · intro member
      refine ⟨.inr member, fun same => lowest_notMem thread.sockets ?_⟩
      exact Int.natCast_inj.mp same ▸ member

/-- An attempt to listen opens one socket, or none. -/
theorem initializeListener (accounted : thread.Accounted) (calls : ServerSocketCalls) :
    (thread.initializeListener calls).2.Accounted := by
  have listens : thread.polling.objects listener = .base thread.descriptor
    (if thread.isInitialized then POLLIN ||| POLLERR else 0) := accounted.listens
  unfold ThreadListenSocket.initializeListener
  split
  · exact accounted
  · rename_i stopped
    rw [Bool.not_eq_true] at stopped
    have invalid := accounted.descriptor_eq.mpr stopped
    -- While nothing listens, all that is open belongs to others.
    have owned : ∀ socket, socket ∈ thread.sockets ↔ socket ∈ thread.others := fun socket => by
      rw [accounted.owned, invalid, or_iff_left (socket_ne_invalid socket)]
    obtain ⟨error, created⟩ | created := createTcpServerSocket_cases calls thread.sockets
    · rw [created, if_pos error.property]
      refine accounted.changed INVALID_DESCRIPTOR ?_ rfl ?_ ?_ rfl
      · simp [setDescriptor, signal, Polling.step, listens, stopped, Poller.perform]
      · intro socket
        rw [or_iff_left (socket_ne_invalid socket)]
        exact owned socket
      · exact fun socket _ => socket_ne_invalid socket
    · rw [created, if_neg (not_not_intro rfl)]
      refine accounted.changed (lowest thread.sockets) ?_ rfl ?_ ?_ ⟨_, rfl⟩
      · simp [setDescriptor, setEvents, Polling.step, listens, Poller.perform]
      · -- The socket that is opened is the one that listens now.
        intro socket
        show socket ∈ lowest thread.sockets :: thread.sockets ↔ _
        rw [List.mem_cons, owned, Int.natCast_inj, or_comm]
      · intro socket member same
        rw [Int.natCast_inj] at same
        exact lowest_notMem thread.sockets (same ▸ (owned socket).mpr member)

/-- The listening socket is never the pipe. -/
theorem pipe_ne (accounted : thread.Accounted) (initialized : thread.isInitialized = true) :
    (thread.polling.objects pollerThread).descriptor ≠ thread.descriptor := by
  obtain invalid | ⟨socket, member, same⟩ := accounted.pipe
  · rw [invalid]
    intro same
    simp [accounted.descriptor_eq.mp same.symm] at initialized
  · rw [same]
    exact accounted.apart socket member

end Accounted

/-- The thread polls its pipe, and the listening socket once it has been registered. -/
structure Watched (thread : ThreadListenSocket) : Prop where
  pollers : thread.polling.pollers = [pollerThread] ∧ thread.isInitialized = false ∨
    thread.polling.pollers = [pollerThread, listener]
  sized : thread.polling.pollers.length = thread.polling.pollStructArray.length
  pipe : ∃ descriptor events, thread.polling.objects pollerThread = .base descriptor events

namespace Watched

variable {thread : ThreadListenSocket}

/-- The listening socket is added behind the pipe, or takes its own place there. -/
theorem registerPoller {thread : ThreadListenSocket} (accounted : thread.Accounted)
    (initialized : thread.isInitialized = true)
    (pollers : thread.polling.pollers = [pollerThread] ∨
      thread.polling.pollers = [pollerThread, listener]) :
    (thread.polling.registerPoller listener).2.pollers = [pollerThread, listener] := by
  have other : (thread.polling.objects pollerThread).descriptor ≠
    (thread.polling.objects listener).descriptor := accounted.pipe_ne initialized
  unfold Polling.registerPoller Polling.indexOfDescriptor
  obtain only | both := pollers
  · simp [only, other]
  · simp [both, List.findIdx?_cons, other]

end Watched

/-- `poll` is handed the pipe, and besides it the listening socket exactly while there is one. -/
def Polls (thread : ThreadListenSocket) : Prop :=
  ∃ pipe : PollStruct, ∃ rest, thread.polling.assigned = pipe :: rest ∧
    pipe.fd = (thread.polling.objects pollerThread).descriptor ∧
    (thread.isInitialized = true ↔ thread.descriptor ≠ INVALID_DESCRIPTOR) ∧
    rest.filter (fun entry => entry.fd ≠ INVALID_DESCRIPTOR) =
      if thread.isInitialized then [⟨thread.descriptor, POLLIN ||| POLLERR, 0⟩] else []

/-- After an attempt that has failed, the next one is made 30 seconds later at the earliest. -/
def Spaced (earlier later : ListenAttempt) : Prop :=
  ∀ failed ∈ earlier.failed, 0 ≤ failed →
    failed + TIMEOUT_REOPEN_LISTEN_SOCKET_MILLISECONDS ≤ later.started

/-- The attempts are spaced, and so is one that is made when the time for it has come. -/
structure Patient (thread : ThreadListenSocket) : Prop where
  spaced : thread.attempts.IsChain Spaced
  next : ∀ last ∈ thread.attempts.getLast?, ∀ failed ∈ last.failed, 0 ≤ failed →
    failed + TIMEOUT_REOPEN_LISTEN_SOCKET_MILLISECONDS ≤ thread.nextStartListening

/-- An attempt is made when its time has come, and puts the next one off if it fails. -/
theorem Patient.attempt {thread after : ThreadListenSocket} (patient : thread.Patient) {now : Int}
    (due : thread.nextStartListening ≤ now) {failed : Option Int}
    (attempts : after.attempts = thread.attempts ++ [ListenAttempt.mk now failed])
    (next : ∀ failure ∈ failed, 0 ≤ failure →
      failure + TIMEOUT_REOPEN_LISTEN_SOCKET_MILLISECONDS ≤ after.nextStartListening) :
    after.Patient := by
  refine ⟨?_, ?_⟩
  · rw [attempts]
    refine patient.spaced.append (List.isChain_singleton _) fun last member later same => ?_
    obtain rfl : ListenAttempt.mk now failed = later := by simpa using same
    intro failure reading known
    exact Int.le_trans (patient.next last member failure reading known) due
  · intro last member
    obtain rfl : ListenAttempt.mk now failed = last := by simpa [attempts] using member
    exact next

/-- What is kept by everything that happens to a listening thread. -/
structure Kept (thread : ThreadListenSocket) : Prop where
  accounted : thread.Accounted
  watched : thread.Watched
  patient : thread.Patient

/-- Nothing is registered or attempted in between, and the thread does not begin to listen. -/
structure Quiet (thread after : ThreadListenSocket) : Prop where
  pollers : after.polling.pollers = thread.polling.pollers
  sized : after.polling.pollStructArray.length = thread.polling.pollStructArray.length
  pipe : after.polling.objects pollerThread = thread.polling.objects pollerThread
  isInitialized : after.isInitialized = true → thread.isInitialized = true
  attempts : after.attempts = thread.attempts
  next : after.nextStartListening = thread.nextStartListening

namespace Kept

variable {thread : ThreadListenSocket}

/-- A quiet change is only about descriptors. -/
theorem of_quiet (kept : thread.Kept) {after : ThreadListenSocket} (quiet : thread.Quiet after)
    (accounted : after.Accounted) : after.Kept := by
  obtain ⟨pollers, sized, pipe, isInitialized, attempts, next⟩ := quiet
  refine ⟨accounted, ⟨?_, ?_, ?_⟩, ?_, ?_⟩
  · rw [pollers]
    refine kept.watched.pollers.imp_left fun ⟨only, stopped⟩ => ⟨only, ?_⟩
    rw [← Bool.not_eq_true] at stopped ⊢
    exact fun listening => stopped (isInitialized listening)
  · rw [pollers, sized]
    exact kept.watched.sized
  · rw [pipe]
    exact kept.watched.pipe
  · rw [attempts]
    exact kept.patient.spaced
  · rw [attempts, next]
    exact kept.patient.next

/-- The listening socket stays registered when it is closed. -/
theorem finalize (kept : thread.Kept) : thread.finalize.Kept := by
  refine kept.of_quiet ?_ kept.accounted.finalize
  unfold ThreadListenSocket.finalize finalizeLinux
  split
  all_goals exact ⟨rfl, rfl, rfl, fun listening => Bool.noConfusion listening, rfl, rfl⟩

/-- A failure of `accept` is only signalled. -/
theorem acceptError (kept : thread.Kept) (error : Errno) : (thread.acceptError error).Kept := by
  unfold ThreadListenSocket.acceptError
  split
  · exact kept.of_quiet ⟨rfl, rfl, rfl, id, rfl, rfl⟩ (kept.accounted.of_same rfl rfl rfl rfl)
  · exact kept

/-- The clients that wait are dealt with one after another. -/
theorem processConnectionRequests (kept : thread.Kept) (clients : List Bool) (error : Errno) :
    (thread.processConnectionRequests clients error).Kept := by
  have turn : ∀ (before : ThreadListenSocket) accept, before.Kept → (before.acceptTurn accept).Kept :=
    fun before accept kept =>
      kept.of_quiet (by cases accept <;> exact ⟨rfl, rfl, rfl, id, rfl, rfl⟩)
        (kept.accounted.acceptTurn accept)
  unfold ThreadListenSocket.processConnectionRequests
  split
  · exact kept.acceptError EBADF
  · have served : (run ThreadListenSocket.acceptTurn thread clients).Kept :=
      run_invariant _ turn kept clients
    exact served.acceptError error

/-- An error closes the socket, whether there are clients or not. -/
theorem process (kept : thread.Kept) (event : PollFd) (clients : List Bool) (error : Errno) :
    (thread.process event clients error).Kept := by
  unfold ThreadListenSocket.process
  split
  · exact kept
  · have closed : (if event.has POLLERR then thread.finalize else thread).Kept := by
      split
      · exact kept.finalize
      · exact kept
    dsimp only
    split
    · exact closed.processConnectionRequests clients error
    · exact closed

/-- The listener only tells whether it listens; it does not register itself, or touch the pipe. -/
theorem initializeListener_frame (thread : ThreadListenSocket) (calls : ServerSocketCalls) :
    (thread.initializeListener calls).2.polling.pollers = thread.polling.pollers ∧
      (thread.initializeListener calls).2.polling.pollStructArray = thread.polling.pollStructArray ∧
      (thread.initializeListener calls).2.polling.objects pollerThread =
        thread.polling.objects pollerThread ∧
      (thread.initializeListener calls).2.isInitialized = (thread.initializeListener calls).1 := by
  unfold ThreadListenSocket.initializeListener
  split
  · rename_i listening
    exact ⟨rfl, rfl, rfl, listening⟩
  · dsimp only
    split
    all_goals exact ⟨rfl, rfl, rfl, rfl⟩

/-- An attempt to listen is made when its time has come, and registers the socket it opens. -/
theorem onBeforeWaitEvents (kept : thread.Kept) (now : Int) (calls : ServerSocketCalls)
    (afterwards : Int) : (thread.onBeforeWaitEvents now calls afterwards).Kept := by
  unfold ThreadListenSocket.onBeforeWaitEvents
  split
  · exact kept
  · rename_i due
    rw [not_or] at due
    have now_due : thread.nextStartListening ≤ now := Int.not_lt.mp due.2
    have begun : (thread.signal .beforeListenSocketInitialization).Accounted :=
      kept.accounted.of_same rfl rfl rfl rfl
    have accounted := begun.initializeListener calls
    obtain ⟨pollers, array, pipe, result⟩ :=
      initializeListener_frame (thread.signal .beforeListenSocketInitialization) calls
    dsimp only
    split
    · -- The socket that has been opened is registered.
      rename_i success
      rw [success] at result
      refine ⟨?_, ⟨.inr ?_, (Polling.length_resize ..).symm, pipe ▸ kept.watched.pipe⟩, ?_⟩
      · exact ⟨accounted.owned, accounted.apart, accounted.pipe, accounted.listens, accounted.socket⟩
      · refine Watched.registerPoller accounted result ?_
        rw [pollers]
        exact kept.watched.pollers.imp_left And.left
      · refine kept.patient.attempt now_due rfl fun reading none => ?_
        exact absurd none (Option.not_mem_none reading)
    · -- Without a socket nothing changes but the time of the next attempt.
      rename_i failure
      rw [Bool.not_eq_true] at failure
      rw [failure] at result
      refine ⟨?_, ⟨?_, ?_, pipe ▸ kept.watched.pipe⟩, ?_⟩
      · exact ⟨accounted.owned, accounted.apart, accounted.pipe, accounted.listens, accounted.socket⟩
      · rw [pollers]
        exact kept.watched.pollers.imp_left fun only => ⟨only.1, result⟩
      · rw [pollers, array]
        exact kept.watched.sized
      · refine kept.patient.attempt now_due rfl fun reading same known => ?_
        obtain rfl : afterwards = reading := by simpa using same
        exact (if_pos known).symm ▸ Int.le_refl _

/-- Whatever happens keeps the descriptors accounted for, the pollers and the attempts. -/
theorem step (kept : thread.Kept) (event : Event) : (thread.step event).Kept := by
  cases event with
  | beforeWaitEvents now calls afterwards => exact kept.onBeforeWaitEvents now calls afterwards
  | poll revents =>
    refine ⟨?_, ⟨kept.watched.pollers, ?_, kept.watched.pipe⟩, kept.patient.spaced, kept.patient.next⟩
    · obtain ⟨owned, apart, pipe, listens, socket⟩ := kept.accounted
      exact ⟨owned, apart, pipe, listens, socket⟩
    · exact Polling.sized_step kept.watched.sized (.poll revents)
  | process event clients error => exact kept.process event clients error
  | terminateChildThreads => exact kept.finalize
  | opened =>
    exact kept.of_quiet ⟨rfl, rfl, rfl, id, rfl, rfl⟩ (kept.accounted.opened rfl rfl rfl rfl)
  | closed socket =>
    unfold ThreadListenSocket.step
    dsimp only
    split
    · rename_i own
      refine kept.of_quiet ⟨rfl, rfl, rfl, id, rfl, rfl⟩ ?_
      refine kept.accounted.of_polling rfl rfl (fun other => ?_) ?_ fun other member same => ?_
      · -- What is closed is not the socket that listens.
        show other ∈ closeSocket socket thread.sockets ↔ other ∈ thread.others.filter _ ∨ _
        have apart := kept.accounted.apart socket own.1
        rw [mem_closeSocket, kept.accounted.owned, List.mem_filter, or_and_right]
        refine or_congr ?_ (and_iff_left_of_imp ?_)
        · simp only [decide_eq_true_eq, ne_eq, Int.natCast_inj]
        · exact fun same closed => apart (closed.symm.trans same)
      · exact fun other member => kept.accounted.apart other (List.mem_of_mem_filter member)
      · refine List.mem_filter.mpr ⟨member, ?_⟩
        rw [decide_eq_true_eq]
        exact fun closed => own.2 (closed ▸ same.symm)
    · exact kept

/-- Nothing listens in the beginning, and all that is open belongs to others. -/
theorem start (opened : List Nat) (pipe : Bool) (now : Int) :
    (ThreadListenSocket.start opened pipe now).Kept := by
  refine ⟨⟨fun socket => ?_, fun socket _ => ?_, ?_, ?_, rfl⟩, ⟨.inl ⟨rfl, rfl⟩, rfl, ?_⟩,
    List.isChain_nil, fun last none => ?_⟩
  · exact (or_iff_left (socket_ne_invalid socket)).symm
  · exact socket_ne_invalid socket
  · -- The pipe is one of the descriptors that others have, unless it could not be created.
    cases pipe with
    | false => exact .inl rfl
    | true => exact .inr ⟨lowest opened, List.mem_cons_of_mem _ List.mem_cons_self, rfl⟩
  · rfl
  · cases pipe
    all_goals exact ⟨_, _, rfl⟩
  · exact absurd none (Option.not_mem_none last)

/-- The array for `poll` begins with the pipe, and the listening socket is all that may follow. -/
theorem polls (kept : thread.Kept) : thread.Polls := by
  obtain ⟨descriptor, events, pipe⟩ := kept.watched.pipe
  have listens : thread.polling.objects listener = .base thread.descriptor
    (if thread.isInitialized then POLLIN ||| POLLERR else 0) := kept.accounted.listens
  have invalid := kept.accounted.descriptor_eq
  have sized := kept.watched.sized
  have initialized : thread.isInitialized = true ↔ thread.descriptor ≠ INVALID_DESCRIPTOR := by
    rw [ne_eq, invalid, Bool.not_eq_false]
  obtain ⟨only, stopped⟩ | both := kept.watched.pollers
  · rw [only] at sized
    obtain ⟨first, array⟩ := List.length_eq_one_iff.mp sized.symm
    refine ⟨⟨descriptor, events, 0⟩, [], ?_, ?_, initialized, ?_⟩
    · simp [Polling.assigned, only, array, pipe, Poller.assign]
    · rw [pipe]
      rfl
    · simp [stopped]
  · rw [both] at sized
    obtain ⟨first, second, array⟩ := List.length_eq_two.mp sized.symm
    refine ⟨⟨descriptor, events, 0⟩,
      [⟨thread.descriptor, if thread.isInitialized then POLLIN ||| POLLERR else 0, 0⟩],
      ?_, ?_, initialized, ?_⟩
    · simp [Polling.assigned, both, array, pipe, listens, Poller.assign]
    · rw [pipe]
      rfl
    · -- The entry that follows is ignored by the system while nothing listens.
      cases listening : thread.isInitialized with
      | false => simp [invalid.mpr listening]
      | true => simp [initialized.mp listening]

end Kept

/--
Whatever happens to a listening thread and in the rest of its process, no socket is lost or closed
for somebody else, the listening socket is polled exactly while there is one, and attempts to open
it that fail are 30 seconds apart.
-/
theorem run_kept (opened : List Nat) (pipe : Bool) (now : Int) (events : List Event) :
    let thread := run step (start opened pipe now) events
    (∀ socket, socket ∈ thread.sockets ↔
      socket ∈ thread.others ∨ (socket : Int) = thread.descriptor) ∧
    (∀ socket ∈ thread.others, (socket : Int) ≠ thread.descriptor) ∧
    thread.Polls ∧ thread.attempts.IsChain Spaced := by
  have kept : (run step (start opened pipe now) events).Kept :=
    run_invariant step (fun _ event kept => kept.step event) (Kept.start opened pipe now) events
  exact ⟨kept.accounted.owned, kept.accounted.apart, kept.polls, kept.patient.spaced⟩

end ThreadListenSocket

end Threader
