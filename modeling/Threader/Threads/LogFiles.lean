import Threader.Threads.ThreadLogs

/-! Each day has a log file with exactly its own lines, and the subscriber is sent the same messages. -/

namespace Threader

namespace WriterLog

/-- What was stored in the file of a day. -/
def contents (writer : WriterLog) (date : QDate) : QByteArray :=
  (writer.written.filter fun part => part.1 = date).flatMap Prod.snd

/-- The lines of the messages that were created on a day. -/
def linesOf (messages : List MessageLog) (date : QDate) : QByteArray :=
  QString.toUtf8 ((messages.filter fun message => message.created.date = date).flatMap
    MessageLog.line)

/-- Lines end where no surrogate pair is cut, however many there are. -/
theorem ended_lines (messages : List MessageLog) :
    QString.Ended (messages.flatMap MessageLog.line) := by
  -- One line is put in front of the others at a time.
  induction messages with
  | nil => exact QString.ended_nil
  | cons message messages ih =>
    rw [List.flatMap_cons]
    exact (ended_line message).append ih

/-- The lines of two lists of messages follow one another. -/
theorem linesOf_append (earlier later : List MessageLog) (date : QDate) :
    linesOf (earlier ++ later) date = linesOf earlier date ++ linesOf later date := by
  rw [linesOf, List.filter_append, List.flatMap_append, QString.toUtf8_append (ended_lines _)]
  rfl

/-- Messages of one day have no lines on any other. -/
theorem linesOf_day {messages : List MessageLog} {day : QDate}
    (all : ∀ message ∈ messages, message.created.date = day) (date : QDate) :
    linesOf messages date =
      if day = date then QString.toUtf8 (messages.flatMap MessageLog.line) else [] := by
  -- Either all of them are lines of that day, or none.
  split
  · rename_i same
    rw [linesOf, List.filter_eq_self.mpr fun message member => by simp [all message member, same]]
  · rename_i different
    have none : (messages.filter fun message => message.created.date = date) = [] := by
      rw [List.filter_eq_nil_iff]
      intro message member
      simpa [all message member] using different
    rw [linesOf, none]
    rfl

/-- What is written goes to the file that is open. -/
theorem contents_write {writer : WriterLog} {day : QDate} (opened : writer.currentLogFile = some day)
    (bytes : QByteArray) (date : QDate) :
    (writer.write bytes).contents date =
      writer.contents date ++ if day = date then bytes else [] := by
  simp only [write, opened, contents, List.filter_append, List.flatMap_append]
  by_cases same : day = date
  · simp [same]
  · simp [same]

/--
The buffer holds the lines of messages of the day whose file is open, and what is stored is what
the files should hold besides.
-/
structure Dated (noDate : QDate) (writer : WriterLog) (pending : List MessageLog) : Prop where
  buffer : writer.logBuffer = pending.flatMap MessageLog.line
  today : ∀ message ∈ pending, message.created.date = writer.currentLogFileDate
  opened : writer.currentLogFile = some writer.currentLogFileDate ∨
    (writer.currentLogFileDate = noDate ∧ pending = [])
  files : ∀ date, writer.contents date ++ linesOf pending date = linesOf writer.accepted date

namespace Dated

variable {noDate : QDate} {writer : WriterLog} {pending : List MessageLog}

/-- A flush that stores everything leaves nothing in the buffer. -/
theorem flush (dated : Dated noDate writer pending) :
    Dated noDate (logFlushBuffer [] writer) [] ∧
      (logFlushBuffer [] writer).accepted = writer.accepted ∧
      (logFlushBuffer [] writer).logLevel = writer.logLevel := by
  unfold logFlushBuffer
  split
  · -- The buffer is empty, or there is no open file, and nothing has been logged yet.
    rename_i idle
    obtain rfl : pending = [] := by
      rcases idle with empty | closed
      · rw [dated.buffer] at empty
        cases pending with
        | nil => rfl
        | cons message pending =>
          exact absurd (List.append_eq_nil_iff.mp empty).1 (line_ne_nil message)
      · rcases dated.opened with opened | ⟨_, none⟩
        · rw [closed] at opened
          cases opened
        · exact none
    exact ⟨dated, rfl, rfl⟩
  · rename_i busy
    have opened : writer.currentLogFile = some writer.currentLogFileDate := by
      rcases dated.opened with opened | ⟨_, rfl⟩
      · exact opened
      · exact absurd (.inl dated.buffer) busy
    rw [flushWhole, write_eq]
    refine ⟨⟨rfl, List.forall_mem_nil _, .inl opened, fun date => ?_⟩, rfl, rfl⟩
    -- What was pending is now in the file of its day.
    show (writer.write writer.logBuffer.toUtf8).contents date ++ linesOf [] date = _
    rw [contents_write opened, ← dated.files, linesOf_day dated.today, dated.buffer]
    exact List.append_nil _

/-- A line of the day whose file is open is put in the buffer behind the others. -/
theorem append (dated : Dated noDate writer pending) {message : MessageLog}
    (opened : writer.currentLogFile = some writer.currentLogFileDate)
    (today : message.created.date = writer.currentLogFileDate) :
    Dated noDate { writer with
      logBuffer := writer.logBuffer ++ message.line
      accepted := writer.accepted ++ [message] } (pending ++ [message]) := by
  refine ⟨?_, ?_, .inl opened, fun date => ?_⟩
  · simp [dated.buffer]
  · intro other member
    rcases List.mem_append.mp member with before | last
    · exact dated.today other before
    · rw [List.mem_singleton.mp last]
      exact today
  · rw [linesOf_append, linesOf_append, ← List.append_assoc]
    exact congrArg (· ++ linesOf [message] date) (dated.files date)

/-- A message is put in the buffer once the file of its day is open. -/
theorem accept (dated : Dated noDate writer pending) {message : MessageLog}
    (date : message.created.date ≠ noDate) :
    (∃ pending, Dated noDate (writer.doMessageLog [] (some message) true) pending) ∧
      (writer.doMessageLog [] (some message) true).accepted =
        writer.accepted ++ (if message.level ≤ writer.logLevel then [message] else []) ∧
      (writer.doMessageLog [] (some message) true).logLevel = writer.logLevel := by
  unfold doMessageLog acceptMessage
  dsimp only
  split
  · rename_i detailed
    rw [if_neg (Int.not_le.mpr detailed), List.append_nil]
    exact ⟨⟨pending, dated⟩, rfl, rfl⟩
  · rename_i admitted
    rw [if_pos (Int.not_lt.mp admitted)]
    split
    · -- The buffer is flushed before the file of another day is opened.
      obtain ⟨flushed, accepted, level⟩ := dated.flush
      have changed : Dated noDate ({ logFlushBuffer [] writer with
          currentLogFileDate := message.created.date }.logRecreateFile true) [] :=
        ⟨flushed.buffer, List.forall_mem_nil _, .inl rfl, flushed.files⟩
      exact ⟨⟨_, changed.append rfl rfl⟩, congrArg (· ++ [message]) accepted, level⟩
    · rename_i same
      have today := (not_not.mp same).symm
      have opened : writer.currentLogFile = some writer.currentLogFileDate := by
        rcases dated.opened with opened | ⟨none, _⟩
        · exact opened
        · exact absurd (today.trans none) date
      exact ⟨⟨_, dated.append opened today⟩, rfl, rfl⟩

end Dated

end WriterLog

/-- Every file can be opened, and stores what is written to it. -/
def LogFileCalls.Succeed (files : LogFileCalls) : Prop :=
  files.flushes = [] ∧ files.opens = true ∧ files.checked = []

namespace ThreadLogs

open WriterLog (Dated contents linesOf)

namespace Event

/-- The files do as they should, and no message is from the day that stands for none. -/
def Smooth (noDate : QDate) : Event → Prop
  | .processMessage (.log message) files => files.Succeed ∧ message.created.date ≠ noDate
  | .processMessage _ files => files.Succeed
  | .onIdle flushes => flushes = []
  | .note message files => files.Succeed ∧ message.created.date ≠ noDate

/-- The message that an event logs, unless it is too detailed for the level. -/
def logged (level : Int) : Event → List MessageLog
  | .processMessage (.log message) _ => if message.level ≤ level then [message] else []
  | .note message _ => if message.level ≤ level then [message] else []
  | _ => []

/-- The message that the subscriber is to be sent, who is not sent the thread's own. -/
def forwarded (level : Int) : Event → List MessageLog
  | .processMessage (.log message) _ => if message.level ≤ level then [message] else []
  | _ => []

/-- The level behind an event. -/
def levelAfter (level : Int) : Event → Int
  | .processMessage (.logLevel new) _ => new
  | _ => level

end Event

/-- What is logged in a run, at the level that is in force each time. -/
def logged (level : Int) : List Event → List MessageLog
  | [] => []
  | event :: events => event.logged level ++ logged (event.levelAfter level) events

/-- What the subscriber is to be sent in a run. -/
def forwarded (level : Int) : List Event → List MessageLog
  | [] => []
  | event :: events => event.forwarded level ++ forwarded (event.levelAfter level) events

/-- The thread has logged some messages since, and posted some of them to its subscriber. -/
structure Since (noDate : QDate) (logged forwarded : List MessageLog) (level : Int)
    (before after : ThreadLogs) : Prop where
  dated : ∃ pending, Dated noDate after.writer pending
  accepted : after.writer.accepted = before.writer.accepted ++ logged
  level : after.writer.logLevel = level
  subscriber : after.subscriber = before.subscriber
  posted : after.posted = before.posted ++ if before.subscriber then forwarded else []

namespace Since

variable {noDate : QDate} {before thread after : ThreadLogs}

/-- Nothing has happened yet. -/
theorem refl (dated : ∃ pending, Dated noDate before.writer pending) :
    Since noDate [] [] before.writer.logLevel before before :=
  ⟨dated, (List.append_nil _).symm, rfl, rfl, by simp⟩

/-- One part of a run follows another. -/
theorem trans {earlier later sent further : List MessageLog} {level final : Int}
    (since : Since noDate earlier sent level before thread)
    (next : Since noDate later further final thread after) :
    Since noDate (earlier ++ later) (sent ++ further) final before after := by
  refine ⟨next.dated, ?_, next.level, next.subscriber.trans since.subscriber, ?_⟩
  · rw [next.accepted, since.accepted, List.append_assoc]
  · rw [next.posted, since.posted, since.subscriber]
    cases before.subscriber with
    | false => simp
    | true => simp

/-- Reading the clock and flushing the buffer is not noticed. -/
theorem logFlushBuffer {logged sent : List MessageLog} {level : Int}
    (since : Since noDate logged sent level before thread) :
    Since noDate logged sent level before (thread.logFlushBuffer []) := by
  obtain ⟨⟨pending, dated⟩, accepted, constant, subscriber, posted⟩ := since
  obtain ⟨flushed, same, level⟩ := dated.flush
  exact ⟨⟨[], flushed⟩, same.trans accepted, level.trans constant, subscriber, posted⟩

/-- Neither is a check of the buffer. -/
theorem logCheckAndFlushBuffer {logged sent : List MessageLog} {level : Int}
    (since : Since noDate logged sent level before thread) :
    Since noDate logged sent level before (thread.logCheckAndFlushBuffer []) := by
  have read : Since noDate logged sent level before thread.getTickCount.2 :=
    ⟨since.dated, since.accepted, since.level, since.subscriber, since.posted⟩
  unfold ThreadLogs.logCheckAndFlushBuffer
  split
  · exact since
  · dsimp only
    split
    · exact read
    · exact read.logFlushBuffer

/-- A message is logged if the level admits it. -/
theorem doMessageLog (dated : ∃ pending, Dated noDate before.writer pending)
    {message : MessageLog} (date : message.created.date ≠ noDate) {files : LogFileCalls}
    (succeed : files.Succeed) :
    Since noDate (if message.level ≤ before.writer.logLevel then [message] else []) []
      before.writer.logLevel before (before.doMessageLog files message) := by
  obtain ⟨pending, dated⟩ := dated
  obtain ⟨flushes, opens, _⟩ := succeed
  obtain ⟨after, accepted, level⟩ := dated.accept date
  unfold ThreadLogs.doMessageLog
  rw [flushes, opens]
  dsimp only
  have posted : before.posted = before.posted ++ if before.subscriber then [] else [] := by simp
  -- Putting off the next flush is not noticed.
  by_cases another : message.level ≤ before.writer.logLevel ∧
      before.writer.currentLogFileDate ≠ message.created.date
  · rw [if_pos another]
    exact ⟨after, accepted, level, rfl, posted⟩
  · rw [if_neg another]
    exact ⟨after, accepted, level, rfl, posted⟩

/-- One event of a run. -/
theorem step (dated : ∃ pending, Dated noDate before.writer pending) {event : Event}
    (smooth : event.Smooth noDate) :
    Since noDate (event.logged before.writer.logLevel) (event.forwarded before.writer.logLevel)
      (event.levelAfter before.writer.logLevel) before (before.step event) := by
  cases event with
  | processMessage message files =>
    cases message with
    | log message =>
      obtain ⟨succeed, date⟩ := smooth
      have noted := doMessageLog dated date succeed
      show Since _ _ _ _ _ (before.processMessage files (.log message))
      unfold processMessage
      rw [succeed.2.2]
      refine Since.logCheckAndFlushBuffer ?_
      -- The level that decides about the subscriber is the one that the message was logged at.
      obtain ⟨after, accepted, level, subscriber, posted⟩ := noted
      dsimp only
      rw [subscriber, level]
      by_cases sends : before.subscriber = true ∧ before.writer.logLevel ≥ message.level
      · rw [if_pos sends]
        have admitted : message.level ≤ before.writer.logLevel := sends.2
        refine ⟨after, accepted, level, rfl, ?_⟩
        simp [posted, sends.1, Event.forwarded, admitted]
      · rw [if_neg sends]
        refine ⟨after, accepted, level, subscriber, ?_⟩
        rw [posted]
        cases listens : before.subscriber with
        | false => rfl
        | true =>
          have detailed : ¬ message.level ≤ before.writer.logLevel :=
            fun admitted => sends ⟨listens, admitted⟩
          simp [Event.forwarded, detailed]
    | writeToFile =>
      show Since _ _ _ _ _ (before.logCheckAndFlushBuffer files.checked)
      rw [(show files.Succeed from smooth).2.2]
      exact (refl dated).logCheckAndFlushBuffer
    | logLevel level =>
      show Since _ _ _ _ _ (ThreadLogs.logCheckAndFlushBuffer _ files.checked)
      rw [(show files.Succeed from smooth).2.2]
      refine Since.logCheckAndFlushBuffer ⟨?_, (List.append_nil _).symm, rfl, rfl, ?_⟩
      · obtain ⟨pending, dated⟩ := dated
        exact ⟨pending, dated.buffer, dated.today, dated.opened, dated.files⟩
      · simp [Event.forwarded]
    | other =>
      show Since _ _ _ _ _ (before.logCheckAndFlushBuffer files.checked)
      rw [(show files.Succeed from smooth).2.2]
      exact (refl dated).logCheckAndFlushBuffer
  | onIdle flushes =>
    obtain rfl : flushes = [] := smooth
    exact (refl dated).logCheckAndFlushBuffer
  | note message files => exact doMessageLog dated smooth.2 smooth.1

/-- A run, event by event. -/
theorem run (dated : ∃ pending, Dated noDate before.writer pending) {events : List Event}
    (smooth : ∀ event ∈ events, event.Smooth noDate) :
    ∃ level, Since noDate (logged before.writer.logLevel events)
      (forwarded before.writer.logLevel events) level before
      (EventMachine.run ThreadLogs.step before events) := by
  -- The level behind the first event is the one that the others start with.
  induction events generalizing before with
  | nil => exact ⟨_, refl dated⟩
  | cons event events ih =>
    obtain ⟨first, others⟩ := List.forall_mem_cons.mp smooth
    have stepped := step dated first
    obtain ⟨level, rest⟩ := ih stepped.dated others
    rw [stepped.level] at rest
    exact ⟨level, stepped.trans rest⟩

end Since

/-- The thread's own messages are not for its subscriber. -/
theorem forwarded_note (level : Int) (earlier later : List Event) (message : MessageLog)
    (files : LogFileCalls) :
    forwarded level (earlier ++ .note message files :: later) = forwarded level (earlier ++ later) := by
  induction earlier generalizing level with
  | nil => rfl
  | cons event earlier ih => exact congrArg (event.forwarded level ++ ·) (ih _)

/--
When the thread has finished, the file of each day holds the lines of the messages of that day, in
the order in which they came and at the levels that were in force, and no others; and the
subscriber has been sent the same messages, apart from the three of the thread itself.
-/
theorem run_files {noDate : QDate} (clock : Clock) (subscriber : Bool) {notes : Notes}
    {loop finishing : List Event}
    (smooth : ∀ event ∈ events notes loop finishing, event.Smooth noDate) :
    let thread := (construct noDate clock subscriber).run notes loop finishing []
    thread.writer.logBuffer = [] ∧
      (∀ date, thread.writer.contents date =
        linesOf (logged 9 (events notes loop finishing)) date) ∧
      thread.posted = if subscriber then forwarded 9 (loop ++ finishing) else [] := by
  have initially : ∃ pending, Dated noDate (construct noDate clock subscriber).writer pending :=
    ⟨[], rfl, List.forall_mem_nil _, .inr ⟨rfl, rfl⟩, fun _ => rfl⟩
  obtain ⟨level, since⟩ := Since.run initially smooth
  obtain ⟨⟨pending, dated⟩, accepted, _, _, posted⟩ := since
  obtain ⟨flushed, same, _⟩ := dated.flush
  refine ⟨flushed.buffer, fun date => ?_, ?_⟩
  · -- Nothing is pending behind the last flush.
    have files := flushed.files date
    rw [same, accepted] at files
    exact (List.append_nil _).symm.trans files
  · have own : forwarded 9 (events notes loop finishing) = forwarded 9 (loop ++ finishing) := by
      unfold events
      rw [forwarded_note, List.append_nil, forwarded_note]
      exact forwarded_note 9 [] (loop ++ finishing) _ _
    rw [← own]
    exact posted

/-- Files that do as they should. -/
def wholeFiles : LogFileCalls := ⟨[], true, []⟩

/-- A message before midnight, one behind it, and one that the new level does not admit. -/
theorem run_files_midnight :
    let notes : Notes := ⟨(⟨1, 0⟩, wholeFiles), (⟨2, 0⟩, wholeFiles), (⟨2, 1⟩, wholeFiles)⟩
    let loop : List Event :=
      [.processMessage (.log ⟨⟨1, 86399999⟩, [0x41], 7, 5, .error⟩) wholeFiles,
        .processMessage (.logLevel 4) wholeFiles,
        .processMessage (.log ⟨⟨2, 0⟩, [0x42], 7, 4, .message⟩) wholeFiles,
        .processMessage (.log ⟨⟨2, 0⟩, [0x43], 7, 5, .message⟩) wholeFiles]
    let thread := (construct 0 ⟨fun _ => 0, 0⟩ true).run notes loop [] []
    thread.writer.logBuffer = [] ∧
      (∀ date, thread.writer.contents date = linesOf (logged 9 (events notes loop [])) date) ∧
      thread.posted = forwarded 9 (loop ++ []) := by
  have succeed : wholeFiles.Succeed := ⟨rfl, rfl, rfl⟩
  refine run_files ⟨fun _ => 0, 0⟩ true ?_
  -- The days 1 and 2 are not the one that stands for none.
  simp [events, Event.Smooth, succeed, message0, message1, message2]

end ThreadLogs

end Threader
