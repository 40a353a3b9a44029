import Threader.Base.EventMachine

/-! `ThreadTimer`: a thread that waits for nothing, and posts a message whenever it idles. -/

namespace Threader

/-- `MessageTimer`. -/
structure MessageTimer where
  timerName : String
  shotCount : Nat
deriving DecidableEq, Repr

/-- What `Polling::poll` returns, and whether it has read a byte that terminates the thread. -/
inductive PollResult
  | timedOut
  | signalled (terminates : Bool)
  | failed
deriving DecidableEq, Repr

/-- One call of `waitEvents`, with the ticks at which its parts are executed. -/
structure TimerWait where
  -- When `poll` begins to wait.
  start : Nat
  result : PollResult
  -- When `_nextCallIdle` is compared with the time.
  checked : Nat
  -- When a message is posted.
  posted : Nat
  -- When `_nextCallIdle` is set.
  rearmed : Nat
deriving DecidableEq, Repr

/-- `ThreadTimer`, with the messages that it has posted, and when. -/
structure ThreadTimer where
  timerName : String
  delay : Nat
  multiShot : Bool
  shotCount : Nat
  nextCallIdle : Nat
  isTerminated : Bool
  posted : List (Nat × MessageTimer)
deriving DecidableEq, Repr

namespace ThreadTimer

/-- The constructor, which waits for events as long as the delay is. -/
def created (timerName : String) (delay : Nat) (multiShot : Bool) : ThreadTimer :=
  ⟨timerName, delay, multiShot, 0, 0, false, []⟩

/-- `sendTimerMessage()`, at some tick; a timer has a parent. -/
def sendTimerMessage (timer : ThreadTimer) (tick : Nat) : ThreadTimer :=
  let shotCount := timer.shotCount + 1
  { timer with shotCount, posted := timer.posted ++ [(tick, ⟨timer.timerName, shotCount⟩)] }

/-- `onIdle()`, at some tick. -/
def onIdle (timer : ThreadTimer) (tick : Nat) : ThreadTimer :=
  let timer := if timer.multiShot then timer else { timer with isTerminated := true }
  timer.sendTimerMessage tick

/-- What the slots do that `poll` calls; a timer has no messages to process. -/
def afterPoll (timer : ThreadTimer) : PollResult → ThreadTimer
  | .signalled true => { timer with isTerminated := true }
  | _ => timer

/-- `waitEvents()`. -/
def waitEvents (timer : ThreadTimer) (wait : TimerWait) : ThreadTimer :=
  let timer := timer.afterPoll wait.result
  if wait.result = .timedOut ∨ timer.nextCallIdle < wait.checked then
    { timer.onIdle wait.posted with nextCallIdle := wait.rearmed + timer.delay }
  else timer

/-- One turn of the loop of `run()`, which ends when the thread is terminated. -/
def turn (timer : ThreadTimer) (wait : TimerWait) : ThreadTimer :=
  if timer.isTerminated then timer else timer.waitEvents wait

end ThreadTimer

/-- A call takes its time: the clock never goes back, and a time-out takes the whole delay. -/
structure TimerWait.Takes (delay now : Nat) (wait : TimerWait) : Prop where
  begins : now ≤ wait.start
  returns : wait.start ≤ wait.checked
  timesOut : wait.result = .timedOut → wait.start + delay ≤ wait.checked
  posts : wait.checked ≤ wait.posted
  rearms : wait.posted ≤ wait.rearmed

/-- The calls are made one after another. -/
def TimerWait.Successive (delay : Nat) : Nat → List TimerWait → Prop
  | _, [] => True
  | now, wait :: waits => wait.Takes delay now ∧ Successive delay wait.rearmed waits

namespace ThreadTimer

/-- Each message was posted no earlier than its number of delays after the start. -/
def NeverEarly (start : Nat) (timer : ThreadTimer) : Prop :=
  ∀ count tick message, timer.posted[count]? = some (tick, message) →
    start + (count + 1) * timer.delay ≤ tick

/-- After the first wait, what is behind the timer and what it is armed for are spaced out. -/
structure OnTime (start now : Nat) (timer : ThreadTimer) : Prop where
  neverEarly : timer.NeverEarly start
  reached : start + timer.posted.length * timer.delay ≤ now
  armed : start + (timer.posted.length + 1) * timer.delay ≤ timer.nextCallIdle

/-- A timer that shoots once ends with its message. -/
def ShootsOnce (timer : ThreadTimer) : Prop :=
  timer.multiShot = false → timer.posted = [] ∨ timer.posted.length = 1 ∧ timer.isTerminated = true

section

variable {timer : ThreadTimer}

@[simp] theorem afterPoll_posted (timer : ThreadTimer) (result : PollResult) :
    (timer.afterPoll result).posted = timer.posted := by
  unfold afterPoll
  split <;> rfl

@[simp] theorem afterPoll_delay (timer : ThreadTimer) (result : PollResult) :
    (timer.afterPoll result).delay = timer.delay := by
  unfold afterPoll
  split <;> rfl

@[simp] theorem afterPoll_nextCallIdle (timer : ThreadTimer) (result : PollResult) :
    (timer.afterPoll result).nextCallIdle = timer.nextCallIdle := by
  unfold afterPoll
  split <;> rfl

@[simp] theorem afterPoll_multiShot (timer : ThreadTimer) (result : PollResult) :
    (timer.afterPoll result).multiShot = timer.multiShot := by
  unfold afterPoll
  split <;> rfl

@[simp] theorem onIdle_delay (timer : ThreadTimer) (tick : Nat) :
    (timer.onIdle tick).delay = timer.delay := by
  unfold onIdle
  dsimp only
  split <;> rfl

/-- Idling posts one message. -/
theorem onIdle_posted (timer : ThreadTimer) (tick : Nat) :
    ∃ message, (timer.onIdle tick).posted = timer.posted ++ [(tick, message)] := by
  unfold onIdle
  dsimp only
  split <;> exact ⟨_, rfl⟩

/-- A call of `waitEvents` posts a message at its tick and arms the timer anew, or does neither. -/
theorem waitEvents_cases (timer : ThreadTimer) (wait : TimerWait) :
    (timer.waitEvents wait).delay = timer.delay ∧
      (((wait.result = .timedOut ∨ timer.nextCallIdle < wait.checked) ∧
          (∃ message, (timer.waitEvents wait).posted = timer.posted ++ [(wait.posted, message)]) ∧
          (timer.waitEvents wait).nextCallIdle = wait.rearmed + timer.delay) ∨
        (¬ (wait.result = .timedOut ∨ timer.nextCallIdle < wait.checked) ∧
          (timer.waitEvents wait).posted = timer.posted ∧
          (timer.waitEvents wait).nextCallIdle = timer.nextCallIdle)) := by
  unfold waitEvents
  dsimp only
  -- What the slots do makes no difference to the condition.
  rw [afterPoll_nextCallIdle]
  split
  · rename_i fires
    obtain ⟨message, posted⟩ := onIdle_posted (timer.afterPoll wait.result) wait.posted
    refine ⟨by simp, .inl ⟨fires, ⟨message, ?_⟩, by simp⟩⟩
    rw [posted, afterPoll_posted]
  · rename_i quiet
    exact ⟨by simp, .inr ⟨quiet, by simp, by simp⟩⟩

/-- A message that is posted late enough for its number joins the others. -/
theorem NeverEarly.concat {start : Nat} (early : timer.NeverEarly start) {after : ThreadTimer}
    (delay : after.delay = timer.delay) {tick : Nat} {message : MessageTimer}
    (posted : after.posted = timer.posted ++ [(tick, message)])
    (late : start + (timer.posted.length + 1) * timer.delay ≤ tick) : after.NeverEarly start := by
  intro count other sent found
  rw [posted] at found
  rw [delay]
  by_cases earlier : count < timer.posted.length
  · rw [List.getElem?_append_left earlier] at found
    exact early count other sent found
  · -- Only the new message is behind the others.
    have last : count = timer.posted.length := by
      have bound := (List.getElem?_eq_some_iff.mp found).1
      simp at bound
      omega
    subst last
    simp at found
    obtain ⟨rfl, rfl⟩ := found
    exact late

/-- A turn after the first wait keeps the messages spaced out. -/
theorem OnTime.turn {start now : Nat} (onTime : timer.OnTime start now) {wait : TimerWait}
    (takes : wait.Takes timer.delay now) :
    (timer.turn wait).OnTime start wait.rearmed ∧ (timer.turn wait).delay = timer.delay := by
  obtain ⟨neverEarly, reached, armed⟩ := onTime
  obtain ⟨begins, returns, timesOut, posts, rearms⟩ := takes
  unfold ThreadTimer.turn
  split
  · -- A timer that is terminated only lets the time pass.
    exact ⟨⟨neverEarly, by omega, armed⟩, rfl⟩
  · obtain ⟨delay, ⟨fires, ⟨message, posted⟩, idle⟩ | ⟨quiet, posted, idle⟩⟩ :=
      timer.waitEvents_cases wait
    · -- The wait has taken the whole delay, or the time it was armed for has passed.
      have late : start + (timer.posted.length + 1) * timer.delay ≤ wait.posted := by
        rcases fires with timed | passed
        · have whole := timesOut timed
          rw [Nat.add_mul] at armed ⊢
          omega
        · omega
      have count : (timer.waitEvents wait).posted.length = timer.posted.length + 1 := by
        rw [posted, List.length_append, List.length_singleton]
      refine ⟨⟨neverEarly.concat delay posted late, ?_, ?_⟩, delay⟩
      · rw [count, delay]
        omega
      · rw [count, delay, idle, Nat.add_mul]
        omega
    · -- Nothing is posted, and the timer stays armed as it was.
      refine ⟨⟨?_, ?_, ?_⟩, delay⟩
      · intro count tick message found
        rw [posted] at found
        rw [delay]
        exact neverEarly count tick message found
      · rw [posted, delay]
        omega
      · rw [posted, delay, idle]
        exact armed

/-- Nothing that follows the first wait is too early. -/
theorem OnTime.run {start now : Nat} (onTime : timer.OnTime start now) {waits : List TimerWait}
    (successive : TimerWait.Successive timer.delay now waits) :
    (EventMachine.run ThreadTimer.turn timer waits).NeverEarly start := by
  induction waits generalizing timer now with
  -- Induction on the waits, each of which begins when the one before has ended.
  | nil => exact onTime.neverEarly
  | cons wait waits ih =>
    obtain ⟨takes, others⟩ := successive
    obtain ⟨later, delay⟩ := onTime.turn takes
    exact ih later (delay ▸ others)

/-- No turn takes a message back. -/
theorem posted_prefix_run (timer : ThreadTimer) (waits : List TimerWait) :
    timer.posted <+: (EventMachine.run turn timer waits).posted ∧
      (EventMachine.run turn timer waits).delay = timer.delay := by
  -- A turn posts a message behind the others, or none.
  induction waits generalizing timer with
  | nil => exact ⟨List.prefix_rfl, rfl⟩
  | cons wait waits ih =>
    have once : timer.posted <+: (timer.turn wait).posted ∧ (timer.turn wait).delay = timer.delay := by
      unfold turn
      split
      · exact ⟨List.prefix_rfl, rfl⟩
      · obtain ⟨delay, ⟨_, ⟨message, posted⟩, _⟩ | ⟨_, posted, _⟩⟩ := timer.waitEvents_cases wait
        · exact ⟨posted ▸ List.prefix_append .., delay⟩
        · exact ⟨posted ▸ List.prefix_rfl, delay⟩
    obtain ⟨more, delay⟩ := ih (timer.turn wait)
    exact ⟨once.1.trans more, delay.trans once.2⟩

/-- A timer goes on shooting once, or often. -/
@[simp] theorem turn_multiShot (timer : ThreadTimer) (wait : TimerWait) :
    (timer.turn wait).multiShot = timer.multiShot := by
  simp [turn, waitEvents, onIdle, sendTimerMessage, apply_ite ThreadTimer.multiShot]

/-- The loop is left as soon as a timer has shot that shoots once. -/
theorem ShootsOnce.turn (once : timer.ShootsOnce) (wait : TimerWait) :
    (timer.turn wait).ShootsOnce := by
  unfold ThreadTimer.turn
  split
  · -- A terminated timer posts nothing more.
    exact once
  · rename_i running
    unfold waitEvents
    dsimp only
    split
    · -- The timer was running, so this is its first message.
      intro single
      have single : timer.multiShot = false := by
        simpa [onIdle, sendTimerMessage, apply_ite ThreadTimer.multiShot] using single
      rcases once single with none | ⟨_, terminated⟩
      · refine .inr ?_
        simp [onIdle, sendTimerMessage, single, none]
      · exact absurd terminated running
    · intro single
      rw [afterPoll_multiShot] at single
      rw [afterPoll_posted]
      rcases once single with none | ⟨_, terminated⟩
      · exact .inl none
      · exact absurd terminated running

end

/-- A timer that shoots once posts one message at most. -/
theorem length_posted_le_one (timerName : String) (delay : Nat) (waits : List TimerWait) :
    (EventMachine.run turn (created timerName delay false) waits).posted.length ≤ 1 := by
  -- That a timer shoots once is kept, and so is what this says about its messages.
  have kept := EventMachine.run_invariant turn
    (fun timer wait (held : timer.multiShot = false ∧ timer.ShootsOnce) =>
      And.intro ((turn_multiShot timer wait).trans held.1) (held.2.turn wait))
    (⟨rfl, fun _ => .inl rfl⟩ : (created timerName delay false).multiShot = false ∧ _) waits
  rcases kept.2 kept.1 with none | ⟨one, _⟩
  · rw [none]
    exact Nat.zero_le 1
  · exact Nat.le_of_eq one

/-- Whatever ends the first wait, the timer posts its first message then. -/
theorem turn_created (timerName : String) {delay start : Nat} (multiShot : Bool)
    (running : 0 < start) {first : TimerWait} (takes : first.Takes delay start) :
    ((created timerName delay multiShot).turn first).delay = delay ∧
      (∃ message, ((created timerName delay multiShot).turn first).posted =
        [(first.posted, message)]) ∧
      ((created timerName delay multiShot).turn first).nextCallIdle = first.rearmed + delay := by
  obtain ⟨kept, ⟨_, posted, idle⟩ | ⟨quiet, _⟩⟩ :=
    (created timerName delay multiShot).waitEvents_cases first
  · exact ⟨kept, posted, idle⟩
  · -- The timer is not armed yet, so its time seems to have passed.
    refine absurd (.inr ?_) quiet
    have begins := takes.begins
    have returns := takes.returns
    show 0 < first.checked
    omega

/-- A timer that has posted its first message in time goes on in time. -/
theorem OnTime.of_first {start : Nat} {timer : ThreadTimer} {first : TimerWait}
    {message : MessageTimer} (posted : timer.posted = [(first.posted, message)])
    (idle : timer.nextCallIdle = first.rearmed + timer.delay)
    (rearms : first.posted ≤ first.rearmed) (late : start + timer.delay ≤ first.posted) :
    timer.OnTime start first.rearmed := by
  refine ⟨fun count tick sent found => ?_, ?_, ?_⟩
  · rw [posted] at found
    -- There is no other message.
    obtain ⟨rfl, rfl, rfl⟩ : count = 0 ∧ first.posted = tick ∧ message = sent := by
      cases count with
      | zero => simpa using found
      | succ count => simp at found
    omega
  · rw [posted, List.length_singleton]
    omega
  · rw [posted, idle, List.length_singleton]
    omega

/-- A timer of one second is stopped five ticks after its start. -/
def stopped : TimerWait := ⟨100, .signalled true, 105, 105, 105⟩

/-- A wait of one second, and one that a message ends halfway. -/
def undisturbed : List TimerWait :=
  [⟨100, .timedOut, 1100, 1100, 1100⟩, ⟨1100, .signalled false, 1600, 1600, 1600⟩]

end ThreadTimer

end Threader
