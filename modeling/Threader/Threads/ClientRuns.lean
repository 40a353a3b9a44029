import Mathlib.Data.List.Chain
import Threader.Threads.ClientThread

/-! The connections of a client over whole runs, and the attempt after which there are no more. -/

namespace Threader

namespace HandlerTcpSocket

/-- The changes of state that a handler makes without `open`. -/
def Falls : ConnectionState → ConnectionState → Prop
  | .connecting, .connected => True
  | .connecting, .disconnected => True
  | .connected, .disconnected => True
  | _, _ => False

/-- The signals tell every change on the way from one state to another. -/
def Leads : ConnectionState → List HandlerSignal → ConnectionState → Prop
  | first, [], last => first = last
  | first, .onConnectionStateChanged oldState newState :: signals, last =>
    first = oldState ∧ Falls oldState newState ∧ Leads newState signals last
  | first, _ :: signals, last => Leads first signals last

/-- Two ways are put together. -/
theorem Leads.append {first middle last : ConnectionState} {earlier later : List HandlerSignal}
    (before : Leads first earlier middle) (after : Leads middle later last) :
    Leads first (earlier ++ later) last := by
  -- The first way is followed signal by signal, whatever the states are that it passes.
  induction earlier generalizing first with
  | nil =>
    obtain rfl : first = middle := before
    exact after
  | cons signal earlier ih =>
    cases signal with
    | onConnectionStateChanged oldState newState =>
      obtain ⟨same, falls, rest⟩ := before
      exact ⟨same, falls, ih rest⟩
    | onReadyRead => exact ih before
    | onReadyWrite => exact ih before
    | onError errorCode => exact ih before

/-- What a handler has signalled since leads to the state that it is in. -/
def Since (before after : HandlerTcpSocket) : Prop :=
  after.socketType = before.socketType ∧ ∃ signals, after.signals = before.signals ++ signals ∧
    Leads before.connectionState signals after.connectionState

namespace Since

variable {before handler : HandlerTcpSocket}

/-- Nothing has been signalled yet. -/
theorem refl (handler : HandlerTcpSocket) : Since handler handler :=
  ⟨rfl, [], (List.append_nil _).symm, rfl⟩

/-- One more way is appended. -/
theorem trans {after : HandlerTcpSocket} (since : Since before handler)
    (further : Since handler after) : Since before after := by
  obtain ⟨socketType, earlier, same, leads⟩ := since
  obtain ⟨kept, later, next, onward⟩ := further
  refine ⟨kept.trans socketType, earlier ++ later, ?_, leads.append onward⟩
  rw [next, same, List.append_assoc]

/-- An error leaves the state as it is. -/
theorem doError (since : Since before handler) (errorCode : Int) :
    Since before (handler.doError errorCode) := since.trans ⟨rfl, [.onError errorCode], rfl, rfl⟩

/-- Something to be read leaves the state as it is. -/
theorem doReadyRead (since : Since before handler) : Since before handler.doReadyRead :=
  since.trans ⟨rfl, [.onReadyRead], rfl, rfl⟩

/-- Room to be written to leaves the state as it is. -/
theorem doReadyWrite (since : Since before handler) : Since before handler.doReadyWrite :=
  since.trans ⟨rfl, [.onReadyWrite], rfl, rfl⟩

/-- A change that the handler may make is signalled when it is one. -/
theorem changeState (since : Since before handler) {value : ConnectionState}
    (falls : value ≠ handler.connectionState → Falls handler.connectionState value) :
    Since before (handler.changeState value) := by
  refine since.trans ?_
  unfold HandlerTcpSocket.changeState
  split
  · rename_i different
    exact ⟨rfl, [.onConnectionStateChanged handler.connectionState value], rfl, rfl,
      falls different, rfl⟩
  · exact refl handler

/-- Any state may be followed by the last one. -/
theorem disconnected (since : Since before handler) :
    Since before (handler.changeState .disconnected) := by
  refine since.changeState fun alive => ?_
  cases state : handler.connectionState with
  | disconnected => exact absurd state.symm alive
  | connecting => trivial
  | connected => trivial

/-- Descriptors are not signalled. -/
theorem of_same (since : Since before handler) {after : HandlerTcpSocket}
    (socketType : after.socketType = handler.socketType)
    (connectionState : after.connectionState = handler.connectionState)
    (signals : after.signals = handler.signals) : Since before after := by
  obtain ⟨kept, earlier, same, leads⟩ := since
  exact ⟨socketType.trans kept, earlier, signals.trans same, connectionState ▸ leads⟩

/-- A handler that is closed becomes disconnected. -/
theorem close (since : Since before handler) : Since before handler.close := by
  unfold HandlerTcpSocket.close
  split
  · exact since
  · rw [HandlerTcpSocket.setDescriptor, if_pos rfl]
    have closed : Since before { handler with
        sockets := SocketUtils.closeSocket handler.descriptor handler.sockets
        descriptor := INVALID_DESCRIPTOR } := since.of_same rfl rfl rfl
    exact closed.disconnected

/-- A socket that can be written to may make the handler connected. -/
theorem processWritable (since : Since before handler) (calls : ProcessCalls) :
    Since before (handler.processWritable calls).2 := by
  unfold HandlerTcpSocket.processWritable
  split
  · rename_i connecting
    split
    · refine Since.doReadyWrite ?_
      rw [setConnectionState, if_neg (by simp)]
      refine since.changeState fun _ => ?_
      rw [connecting]
      trivial
    · exact (since.doError calls.lastError).close
  · exact since.doReadyWrite

/-- Whatever an event does to the handler is told in order. -/
theorem process (handler : HandlerTcpSocket) (event : PollFd) (calls : ProcessCalls) :
    Since handler (handler.process event calls).2 := by
  unfold HandlerTcpSocket.process
  split
  · exact refl handler
  · split
    · exact refl handler
    · -- An error closes the socket first, and the other branches go on from there.
      have checked : Since handler (if event.has (POLLERR ||| POLLNVAL) then
          (handler.doError calls.lastError).close else handler) := by
        split
        · exact ((refl handler).doError calls.lastError).close
        · exact refl handler
      dsimp only
      generalize (if event.has (POLLERR ||| POLLNVAL) then
        (handler.doError calls.lastError).close else handler) = alive at *
      split
      · exact checked.doReadyRead.close
      · have written : Since handler (if event.has POLLOUT then alive.processWritable calls
            else (true, alive)).2 := by
          split
          · exact checked.processWritable calls
          · exact checked
        generalize (if event.has POLLOUT then alive.processWritable calls
          else (true, alive)) = result at *
        split
        · exact written
        · dsimp only
          split
          · exact written.doReadyRead
          · exact written

/-- A descriptor that a handler gets while it connects is not signalled, unless it is invalid. -/
theorem setDescriptor (since : Since before handler)
    (connecting : handler.connectionState = .connecting) (value : Descriptor) :
    Since before (handler.setDescriptor value) := by
  have changed : Since before { handler with descriptor := value } := since.of_same rfl rfl rfl
  unfold HandlerTcpSocket.setDescriptor
  dsimp only
  split
  · exact changed.disconnected
  · rw [if_neg (not_not_intro connecting)]
    exact changed

/-- Behind the first signal of an attempt to connect, everything is told in order. -/
theorem opened {handler : HandlerTcpSocket} (client : handler.socketType = .client)
    (calls : SocketCalls) (errorCode : Int) :
    Since (handler.setConnectionState .connecting) (handler.open calls errorCode).2 := by
  have connecting : (handler.setConnectionState .connecting).connectionState = .connecting := by
    rw [setConnectionState, changeState_connectionState]
  simp only [HandlerTcpSocket.open, client, ne_eq, not_true_eq_false, if_false]
  have opened : Since (handler.setConnectionState .connecting)
      { handler.setConnectionState .connecting with
        sockets := (SocketUtils.openTcpClientSocket calls errorCode
          (handler.setConnectionState .connecting).sockets).2.2 } := (refl _).of_same rfl rfl rfl
  split
  · exact opened.doError _
  · exact opened.setDescriptor connecting _

end Since

end HandlerTcpSocket

namespace ConnectionRecord

/-- The state that a record leaves behind. -/
def state : ConnectionRecord → ConnectionState
  | .connecting _ => .connecting
  | .connected => .connected
  | .disconnected _ => .disconnected

/-- What may follow, where a new attempt is not made before its time has come. -/
def Follows (reconnectTimeout : Nat) : ConnectionRecord → ConnectionRecord → Prop
  | .connecting _, .connected => True
  | .connecting _, .disconnected _ => True
  | .connected, .disconnected _ => True
  | .disconnected ended, .connecting started => 0 ≤ ended → ended + reconnectTimeout ≤ started
  | _, _ => False

end ConnectionRecord

namespace ThreadHandler

/-- Offering the buffer to the device does not change its state. -/
theorem slotOnReadyToWrite_connectionState (thread : ThreadHandler) :
    thread.slotOnReadyToWrite.handler.connectionState = thread.handler.connectionState := by
  -- Nothing is offered, or the device answers, whether it accepts something or not.
  unfold slotOnReadyToWrite
  split
  · rfl
  · dsimp only [HandlerBase.write]
    split
    all_goals rfl

/-- Sending does not change the state of the device. -/
theorem sendPacketBase_connectionState (thread : ThreadHandler) (packet : Option PacketBase) :
    (thread.sendPacketBase packet).2.handler.connectionState =
      thread.handler.connectionState := by
  -- A packet that is not taken changes nothing at all.
  cases packet with
  | none => rfl
  | some packet =>
    unfold sendPacketBase
    dsimp only
    split
    · rfl
    · exact slotOnReadyToWrite_connectionState _

/-- The device is in the state that its slot is called with. -/
theorem setConnectionState_connectionState (thread : ThreadHandler) (value : ConnectionState) :
    (thread.setConnectionState value).handler.connectionState = value := by
  -- The slot only touches the buffers and the times of packets.
  unfold setConnectionState
  split
  · rename_i same
    exact same.symm
  · cases value
    all_goals rfl

end ThreadHandler

namespace ClientThread

open ConnectionRecord (Follows)
open EventMachine (run run_invariant)
open HandlerTcpSocket (Falls Leads Since)

/-- The state that the records end with. -/
def stateOf (history : List ConnectionRecord) : ConnectionState :=
  (history.getLast?.map ConnectionRecord.state).getD .disconnected

/-- A thread that is told of an attempt takes no other reading of the clock. -/
theorem lastReading_connecting (client : ClientThread) :
    ({ client with thread := client.thread.setConnectionState .connecting } :
      ClientThread).lastReading = client.lastReading := by
  unfold lastReading ThreadHandler.setConnectionState
  dsimp only
  split
  all_goals rfl

/-- The records tell how the thread has come to a state, and when it may leave it again. -/
structure Recorded (client : ClientThread) (timeout : Nat) (state : ConnectionState) : Prop where
  constant : client.reconnectTimeout = timeout
  mirrored : client.thread.handler.connectionState = state
  last : stateOf client.history = state
  follows : client.history.IsChain (Follows timeout)
  first : ∀ record ∈ client.history.head?, record.state = .connecting
  next : ∀ ended, client.history.getLast? = some (.disconnected ended) → 0 ≤ ended →
    ended + timeout ≤ client.nextTryToConnect

namespace Recorded

variable {client : ClientThread} {timeout : Nat} {state : ConnectionState}

/-- What is written and when the clock is read is of no importance for the records. -/
theorem of_same (recorded : client.Recorded timeout state) {after : ClientThread}
    (connectionState : after.thread.handler.connectionState = client.thread.handler.connectionState)
    (history : after.history = client.history)
    (reconnectTimeout : after.reconnectTimeout = client.reconnectTimeout)
    (next : after.nextTryToConnect = client.nextTryToConnect) : after.Recorded timeout state := by
  obtain ⟨constant, mirrored, last, follows, first, puts⟩ := recorded
  refine ⟨reconnectTimeout.trans constant, connectionState.trans mirrored, ?_, ?_, ?_, ?_⟩
  · rwa [history]
  · rwa [history]
  · rwa [history]
  · rwa [history, next]

/-- A record is added to those before it. -/
theorem add (recorded : client.Recorded timeout state) (after : ClientThread)
    (record : ConnectionRecord) (reconnectTimeout : after.reconnectTimeout = client.reconnectTimeout)
    (mirrored : after.thread.handler.connectionState = record.state)
    (history : after.history = client.history ++ [record])
    (follows : ∀ last ∈ client.history.getLast?, Follows timeout last record)
    (first : client.history = [] → record.state = .connecting)
    (next : ∀ ended, record = .disconnected ended → 0 ≤ ended →
      ended + timeout ≤ after.nextTryToConnect) : after.Recorded timeout record.state := by
  refine ⟨reconnectTimeout.trans recorded.constant, mirrored, ?_, ?_, ?_, ?_⟩
  · simp [stateOf, history]
  · rw [history]
    refine recorded.follows.append (List.isChain_singleton _) fun last member added same => ?_
    obtain rfl : record = added := by simpa using same
    exact follows last member
  · -- The first record stays the first, unless this is the first one.
    intro earliest member
    rw [history] at member
    cases records : client.history with
    | nil =>
      obtain rfl : record = earliest := by simpa [records] using member
      exact first records
    | cons head rest =>
      refine recorded.first earliest ?_
      simpa [records] using member
  · intro ended same
    exact next ended (by simpa [history] using same)

/-- A packet that is sent is no matter for the records. -/
theorem sendPacket (recorded : client.Recorded timeout state) (packet : PacketBase) :
    (client.sendPacket packet).Recorded timeout state :=
  recorded.of_same (client.thread.sendPacketBase_connectionState (some packet)) rfl rfl rfl

/-- Neither are several of them. -/
theorem sendPackets (recorded : client.Recorded timeout state) (packets : List PacketBase) :
    (packets.foldl ClientThread.sendPacket client).Recorded timeout state :=
  run_invariant ClientThread.sendPacket
    (fun client packet (recorded : client.Recorded timeout state) => recorded.sendPacket packet)
    recorded packets

/-- Before a state other than `Disconnected` there is a record of it. -/
theorem last_state (recorded : client.Recorded timeout state) :
    (client.history = [] → state = .disconnected) ∧
      ∀ record ∈ client.history.getLast?, record.state = state := by
  refine ⟨fun none => ?_, fun record member => ?_⟩
  · rw [← recorded.last, stateOf, none]
    rfl
  · rw [← recorded.last, stateOf, Option.mem_def.mp member]
    rfl

/-- The thread is told that its device has got on, or that it has been lost. -/
theorem falls {newState : ConnectionState} (recorded : client.Recorded timeout state)
    (falls : Falls state newState) :
    (client.slotOnConnectionStateChanged newState).Recorded timeout newState := by
  obtain ⟨empty, last⟩ := recorded.last_state
  have changed := client.thread.setConnectionState_connectionState newState
  -- The handler has been connecting or connected, of which there is a record.
  have begun (record : ConnectionRecord) (none : client.history = []) :
      record.state = .connecting := by
    rw [empty none] at falls
    cases newState <;> exact falls.elim
  cases newState with
  | connecting => cases state <;> exact falls.elim
  | connected =>
    -- The subclass greets when the record has been made.
    have added : Recorded { client with
        thread := client.thread.setConnectionState .connected
        history := client.history ++ [.connected] } timeout .connected := by
      refine recorded.add _ .connected rfl changed rfl (fun earlier member => ?_) (begun _) nofun
      have same := last earlier member
      cases earlier <;> cases same <;> trivial
    exact added.sendPackets client.hello
  | disconnected =>
    refine recorded.add _ (.disconnected _) rfl changed rfl (fun earlier member => ?_) (begun _)
      fun ended same known => ?_
    · have same := last earlier member
      cases earlier <;> cases same <;> trivial
    · cases same
      rw [← recorded.constant]
      exact Int.le_of_eq (if_pos known).symm

/-- An attempt is told to the thread that has made it when its time had come. -/
theorem begins (recorded : client.Recorded timeout .disconnected)
    (due : client.nextTryToConnect ≤ client.lastReading) :
    (client.slotOnConnectionStateChanged .connecting).Recorded timeout .connecting := by
  obtain ⟨_, last⟩ := recorded.last_state
  have changed := client.thread.setConnectionState_connectionState .connecting
  refine recorded.add _ (.connecting _) rfl changed rfl (fun earlier member => ?_) (fun _ => rfl)
    nofun
  have same := last earlier member
  cases earlier with
  | connecting started => cases same
  | connected => cases same
  | disconnected ended =>
    intro known
    rw [lastReading_connecting]
    exact Int.le_trans (recorded.next ended member known) due

/-- The thread reacts to one signal after another, up to the state that they lead to. -/
theorem reacts {signals : List HandlerSignal} {last : ConnectionState}
    (recorded : client.Recorded timeout state) (leads : Leads state signals last)
    (replies : List PacketBase) : (signals.foldl (react replies) client).Recorded timeout last := by
  induction signals generalizing client state with
  | nil =>
    obtain rfl : state = last := leads
    exact recorded
  | cons signal signals ih =>
    cases signal with
    | onConnectionStateChanged oldState newState =>
      obtain ⟨rfl, falls, rest⟩ := leads
      exact ih (recorded.falls falls) rest
    | onReadyRead => exact ih (recorded.sendPackets replies) leads
    | onReadyWrite =>
      refine ih (recorded.of_same ?_ rfl rfl rfl) leads
      exact client.thread.slotOnReadyToWrite_connectionState
    | onError errorCode => exact ih recorded leads

end Recorded

/-- The handler is a client's, in the recorded state, and without a descriptor if disconnected. -/
structure Kept (client : ClientThread) (timeout : Nat) : Prop where
  socketType : client.socket.socketType = .client
  settled : client.socket.Settled
  recorded : client.Recorded timeout client.socket.connectionState

/-- The reactions of a thread do not reach the handler. -/
theorem socket_reacts (signals : List HandlerSignal) (replies : List PacketBase)
    (client : ClientThread) : (signals.foldl (react replies) client).socket = client.socket := by
  have sends (packets : List PacketBase) (client : ClientThread) :
      (packets.foldl sendPacket client).socket = client.socket := by
    induction packets generalizing client with
    | nil => rfl
    | cons packet packets ih => exact ih (client.sendPacket packet)
  -- No reaction to a signal does, whatever the signals before it were.
  induction signals generalizing client with
  | nil => rfl
  | cons signal signals ih =>
    refine (ih _).trans ?_
    cases signal with
    | onConnectionStateChanged oldState newState =>
      cases newState with
      | connecting => rfl
      | connected => exact sends client.hello _
      | disconnected => rfl
    | onReadyRead => exact sends replies client
    | onReadyWrite => rfl
    | onError errorCode => rfl

/-- A call changes the handler as if nothing were connected to its signals. -/
theorem socket_perform (client : ClientThread) (call : HandlerCall) (replies : List PacketBase) :
    (client.perform call replies).socket = client.socket.step call := socket_reacts ..

/-- A disconnected handler signals that it connects. -/
theorem setConnectionState_connecting {handler : HandlerTcpSocket}
    (disconnected : handler.connectionState = .disconnected) :
    (handler.setConnectionState .connecting).signals =
        handler.signals ++ [.onConnectionStateChanged .disconnected .connecting] ∧
      (handler.setConnectionState .connecting).connectionState = .connecting := by
  simp [HandlerTcpSocket.setConnectionState, HandlerTcpSocket.changeState, disconnected,
    HandlerTcpSocket.signal]

namespace Kept

variable {client : ClientThread} {timeout : Nat}

/-- A call of the handler that is told in order keeps the records. -/
theorem perform (kept : client.Kept timeout) (call : HandlerCall)
    (since : Since client.socket (client.socket.step call)) (replies : List PacketBase) :
    (client.perform call replies).Kept timeout := by
  obtain ⟨socketType, signals, same, leads⟩ := since
  refine ⟨?_, ?_, ?_⟩
  · rw [socket_perform]
    exact socketType.trans kept.socketType
  · rw [socket_perform]
    exact kept.settled.step call
  · -- What the thread has to react to is what has been signalled since.
    have told : ClientThread.Recorded { client with socket := client.socket.step call } timeout
      client.socket.connectionState := kept.recorded.of_same rfl rfl rfl rfl
    rw [socket_perform, ClientThread.perform, same, List.drop_left]
    exact told.reacts leads replies

/-- An attempt to connect is made, and told, only when its time has come. -/
theorem tryToConnect (kept : client.Kept timeout) (calls : SocketCalls) (errorCode : Int) :
    (client.tryToConnect calls errorCode).Kept timeout := by
  unfold ClientThread.tryToConnect
  split
  · rename_i idle
    have disconnected := idle.2
    dsimp only
    split
    · rename_i due
      refine ⟨?_, ?_, ?_⟩
      all_goals rw [socket_perform]
      all_goals obtain ⟨socketType, signals, same, leads⟩ :=
        Since.opened kept.socketType calls errorCode
      · exact socketType.trans ((HandlerTcpSocket.changeState_socketType ..).trans kept.socketType)
      · exact kept.settled.opened calls errorCode
      · -- The first signal tells that an attempt is made, and the others what becomes of it.
        obtain ⟨began, connecting⟩ := setConnectionState_connecting disconnected
        rw [connecting] at leads
        have told : (client.socket.step (.open calls errorCode)).signals =
            client.socket.signals ++
              .onConnectionStateChanged .disconnected .connecting :: signals := by
          rw [HandlerTcpSocket.step, same, began, List.append_assoc]
          rfl
        have idle : ClientThread.Recorded { client with
            thread := client.thread.getTickCount.2
            socket := client.socket.step (.open calls errorCode) } timeout .disconnected :=
          (disconnected ▸ kept.recorded).of_same rfl rfl rfl rfl
        unfold ClientThread.perform
        dsimp only
        rw [told, List.drop_left]
        exact (idle.begins due).reacts leads []
    · exact ⟨kept.socketType, kept.settled, kept.recorded.of_same rfl rfl rfl rfl⟩
  · exact kept

/-- Whether there is something to write is no matter for the records. -/
theorem onBeforeWaitEvents (kept : client.Kept timeout) (calls : SocketCalls) (errorCode : Int) :
    (client.onBeforeWaitEvents calls errorCode).Kept timeout := by
  have tried := kept.tryToConnect calls errorCode
  unfold ClientThread.onBeforeWaitEvents
  dsimp only
  split
  · exact ⟨tried.socketType, tried.settled, tried.recorded.of_same rfl rfl rfl rfl⟩
  · exact tried

/-- Every event keeps the records. -/
theorem step (kept : client.Kept timeout) (event : Event) : (client.step event).Kept timeout := by
  cases event with
  | beforeWaitEvents calls errorCode => exact kept.onBeforeWaitEvents calls errorCode
  | poll revents calls replies =>
    unfold ClientThread.step ClientThread.poll
    dsimp only
    have assigned : ClientThread.Kept { client with
        entry := (Poller.tcpSocket client.socket client.needsToWrite).assign client.entry } timeout :=
      ⟨kept.socketType, kept.settled, kept.recorded.of_same rfl rfl rfl rfl⟩
    split
    · exact assigned
    · exact assigned.perform _ (Since.process _ _ _) replies
  | sendPacket packet => exact ⟨kept.socketType, kept.settled, kept.recorded.sendPacket packet⟩
  | close => exact kept.perform .close (Since.refl _).close []

/-- A client that has just been constructed has no connection to tell of. -/
theorem construct (answers : Nat → Int) (clock : Clock) (reconnectTimeout : Nat)
    (hello : List PacketBase) :
    (ClientThread.construct answers clock reconnectTimeout hello).Kept reconnectTimeout :=
  ⟨rfl, fun _ => rfl, rfl, rfl, rfl, List.isChain_nil, nofun, nofun⟩

/-- The records are kept in every run. -/
theorem run (kept : client.Kept timeout) (events : List Event) :
    (EventMachine.run ClientThread.step client events).Kept timeout :=
  run_invariant ClientThread.step
    (fun client event (kept : client.Kept timeout) => kept.step event) kept events

end Kept

/--
Every connection of a client begins with an attempt, is made at most once and is lost at most once,
and behind it the next attempt is put off by the timeout; the thread and its handler agree with
these records about the state that they are in.
-/
theorem run_follows (answers : Nat → Int) (clock : Clock) (reconnectTimeout : Nat)
    (hello : List PacketBase) (events : List Event) :
    let client := run step (construct answers clock reconnectTimeout hello) events
    client.history.IsChain (Follows reconnectTimeout) ∧
      (∀ record ∈ client.history.head?, record.state = .connecting) ∧
      client.socket.connectionState = stateOf client.history ∧
      client.thread.handler.connectionState = stateOf client.history := by
  have kept := (Kept.construct answers clock reconnectTimeout hello).run events
  obtain ⟨_, mirrored, last, follows, first, _⟩ := kept.recorded
  exact ⟨follows, first, last.symm, mirrored.trans last.symm⟩

/-- The handler connects, but has no descriptor that anything could happen to. -/
structure GivenUp (client : ClientThread) : Prop where
  connecting : client.socket.connectionState = .connecting
  invalid : client.socket.descriptor = INVALID_DESCRIPTOR

/-- No event changes anything for a client that has given up. -/
theorem GivenUp.step {client : ClientThread} (givenUp : client.GivenUp) (event : Event) :
    (client.step event).GivenUp ∧ (client.step event).history = client.history := by
  have alive : client.socket.connectionState ≠ .disconnected := by
    rw [givenUp.connecting]
    decide
  cases event with
  | beforeWaitEvents calls errorCode =>
    -- The next attempt would be made by a client that is disconnected.
    have waits : client.tryToConnect calls errorCode = client := if_neg fun both => alive both.2
    show (client.onBeforeWaitEvents calls errorCode).GivenUp ∧ _
    unfold ClientThread.step onBeforeWaitEvents
    dsimp only
    rw [waits, if_pos alive]
    exact ⟨⟨givenUp.connecting, givenUp.invalid⟩, rfl⟩
  | poll revents calls replies =>
    -- The system ignores the entry of the handler.
    have ignored :
        ((Poller.tcpSocket client.socket client.needsToWrite).assign client.entry).fd < 0 := by
      simp only [Poller.assign, if_neg alive, givenUp.invalid]
      decide
    unfold ClientThread.step ClientThread.poll
    dsimp only
    rw [if_pos (.inl ignored)]
    exact ⟨⟨givenUp.connecting, givenUp.invalid⟩, rfl⟩
  | sendPacket packet => exact ⟨⟨givenUp.connecting, givenUp.invalid⟩, rfl⟩
  | close =>
    -- There is nothing to be closed, so nothing is signalled either.
    have closed : client.socket.step .close = client.socket := if_pos givenUp.invalid
    unfold ClientThread.step ClientThread.perform
    dsimp only
    rw [closed, List.drop_length]
    exact ⟨⟨givenUp.connecting, givenUp.invalid⟩, rfl⟩

/-- In no run does a client that has given up make another attempt. -/
theorem GivenUp.run {client : ClientThread} (givenUp : client.GivenUp) (events : List Event) :
    (EventMachine.run ClientThread.step client events).history = client.history := by
  induction events generalizing client with
  | nil => rfl
  | cons event events ih =>
    obtain ⟨after, same⟩ := givenUp.step event
    exact (ih after).trans same

section

variable {handler : HandlerTcpSocket} {calls : SocketCalls} {errorCode : Int}

/-- An attempt that reports an error leaves its handler connecting, with nothing but that to tell. -/
theorem open_of_error (client : handler.socketType = .client)
    (disconnected : handler.connectionState = .disconnected)
    (error : ¬ handler.ReportsNoError (.open calls errorCode)) :
    (handler.open calls errorCode).2.connectionState = .connecting ∧
      (handler.open calls errorCode).2.descriptor = handler.descriptor ∧
      (handler.open calls errorCode).2.signals = handler.signals ++
        [.onConnectionStateChanged .disconnected .connecting,
          .onError (calls.firstError errorCode)] := by
  obtain ⟨began, connecting⟩ := setConnectionState_connecting disconnected
  have reported : calls.firstError errorCode ≠ 0 ∧ calls.firstError errorCode ≠ EINPROGRESS :=
    not_or.mp error
  simp only [HandlerTcpSocket.open, client, ne_eq, not_true_eq_false, if_false,
    SocketUtils.openTcpClientSocket_errorCode, reported, not_false_eq_true, and_self, if_true]
  refine ⟨connecting, ?_, ?_⟩
  · exact HandlerTcpSocket.changeState_descriptor ..
  · show (handler.setConnectionState .connecting).signals ++ _ = _
    rw [began, List.append_assoc]
    rfl

/-- A handler that has reported no error is disconnected at the latest when it is closed. -/
theorem close_of_open (client : handler.socketType = .client)
    (unreported : handler.ReportsNoError (.open calls errorCode)) :
    (handler.open calls errorCode).2.close.connectionState = .disconnected := by
  have none : ¬ (calls.firstError errorCode ≠ 0 ∧ calls.firstError errorCode ≠ EINPROGRESS) :=
    fun error => not_or.mpr error unreported
  have connecting : (handler.setConnectionState .connecting).connectionState = .connecting := by
    rw [HandlerTcpSocket.setConnectionState, HandlerTcpSocket.changeState_connectionState]
  simp only [HandlerTcpSocket.open, client, ne_eq, not_true_eq_false, if_false,
    SocketUtils.openTcpClientSocket_errorCode, none]
  -- A descriptor that is invalid disconnects the handler at once.
  unfold HandlerTcpSocket.setDescriptor
  dsimp only
  split
  · unfold HandlerTcpSocket.close
    rename_i invalid
    rw [HandlerTcpSocket.changeState_descriptor, if_pos invalid]
    exact HandlerTcpSocket.changeState_connectionState ..
  · rename_i valid
    rw [if_neg (not_not_intro connecting)]
    unfold HandlerTcpSocket.close
    rw [if_neg valid, HandlerTcpSocket.setDescriptor, if_pos rfl]
    exact HandlerTcpSocket.changeState_connectionState ..

end

/-- When the time for it has come, the only thing that matters of a turn is the attempt. -/
theorem onBeforeWaitEvents_due {client : ClientThread} (timeout : client.reconnectTimeout > 0)
    (disconnected : client.socket.connectionState = .disconnected)
    (due : client.nextTryToConnect ≤ client.thread.getTickCount.1) (calls : SocketCalls)
    (errorCode : Int) :
    (client.onBeforeWaitEvents calls errorCode).socket = (client.socket.open calls errorCode).2 ∧
      (client.onBeforeWaitEvents calls errorCode).history =
        ({ client with thread := client.thread.getTickCount.2 }.perform
          (.open calls errorCode) []).history := by
  have tried : client.tryToConnect calls errorCode =
      { client with thread := client.thread.getTickCount.2 }.perform (.open calls errorCode) [] := by
    unfold tryToConnect
    rw [if_pos ⟨timeout, disconnected⟩]
    exact if_pos due
  unfold onBeforeWaitEvents
  dsimp only
  rw [tried]
  split
  all_goals exact ⟨socket_perform .., rfl⟩

/--
A client never tries to connect again exactly when one of its attempts reports an error, whatever
happens to it later.
-/
theorem gives_up_iff (answers : Nat → Int) (clock : Clock) (reconnectTimeout : Nat)
    (hello : List PacketBase) (past : List Event) (calls : SocketCalls) (errorCode : Int) :
    let client := run step (construct answers clock reconnectTimeout hello) past
    client.reconnectTimeout > 0 → client.socket.connectionState = .disconnected →
    client.nextTryToConnect ≤ client.thread.getTickCount.1 →
    ((∀ later, (run step (client.step (.beforeWaitEvents calls errorCode)) later).history =
        client.history ++ [.connecting client.thread.getTickCount.1]) ↔
      ¬ client.socket.ReportsNoError (.open calls errorCode)) := by
  intro client timeout disconnected due
  have kept : client.Kept reconnectTimeout :=
    (Kept.construct answers clock reconnectTimeout hello).run past
  obtain ⟨socket, history⟩ := onBeforeWaitEvents_due timeout disconnected due calls errorCode
  constructor
  · -- Closing the handler would otherwise be told as the end of the attempt.
    intro always unreported
    have closed := (kept.step (.beforeWaitEvents calls errorCode)).step .close
    have last := closed.recorded.last
    have state : ((client.step (.beforeWaitEvents calls errorCode)).step .close).history =
        client.history ++ [.connecting client.thread.getTickCount.1] := always [.close]
    rw [state, stateOf, List.getLast?_concat] at last
    have ended : ((client.step (.beforeWaitEvents calls errorCode)).step
        .close).socket.connectionState = .disconnected := by
      refine (congrArg HandlerTcpSocket.connectionState (socket_perform _ .close [])).trans ?_
      show (client.onBeforeWaitEvents calls errorCode).socket.close.connectionState = _
      rw [socket]
      exact close_of_open kept.socketType unreported
    rw [ended] at last
    cases last
  · intro reported later
    obtain ⟨connecting, descriptor, signals⟩ := open_of_error kept.socketType disconnected reported
    have givenUp : (client.step (.beforeWaitEvents calls errorCode)).GivenUp := by
      refine ⟨?_, ?_⟩
      · exact (congrArg HandlerTcpSocket.connectionState socket).trans connecting
      · refine (congrArg HandlerTcpSocket.descriptor socket).trans (descriptor.trans ?_)
        exact kept.settled disconnected
    -- Neither of the two signals is followed by another record.
    rw [givenUp.run]
    refine history.trans ?_
    unfold perform
    dsimp only [HandlerTcpSocket.step]
    rw [signals, List.drop_left]
    exact congrArg (client.history ++ [.connecting ·])
      (lastReading_connecting { client with thread := client.thread.getTickCount.2 })

/-- A network that cannot be reached, so that `connect` fails with `ENETUNREACH`. -/
def unreachable : SocketCalls := ⟨none, .ok 7, none, none, none, none, some 101⟩

/-- A client that is to reconnect every ten seconds gives up without a network. -/
theorem gives_up_iff_unreachable :
    let client := construct (fun _ => 0) ⟨fun _ => 0, 0⟩ 10000 []
    (∀ later, (run step (client.step (.beforeWaitEvents unreachable 0)) later).history =
        [.connecting 0]) ↔
      ¬ client.socket.ReportsNoError (.open unreachable 0) :=
  gives_up_iff (fun _ => 0) ⟨fun _ => 0, 0⟩ 10000 [] [] unreachable 0 (by decide) rfl (by decide)

end ClientThread

end Threader
