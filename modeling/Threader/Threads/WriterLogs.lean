import Threader.Base.EventMachine
import Threader.Qt.Utf8

/-! `WriterLog`: the lines of a log are collected in a buffer, and written to a file for each day. -/

namespace Threader

/-- `QDate`, as the number of a day. -/
abbrev QDate := Int

/-- A local date, and the milliseconds since its midnight. -/
structure LocalDateTime where
  date : QDate
  time : Nat
deriving DecidableEq, Repr

/-- `MessageType`. -/
inductive MessageType
  | message
  | warning
  | error
  | debug
deriving DecidableEq, Repr

/-- `MessagesTypesNames`. -/
def MessageType.name : MessageType → QString
  | .message => .ofAscii "MSG"
  | .warning => .ofAscii "WRN"
  | .error => .ofAscii "ERR"
  | .debug => .ofAscii "DBG"

/-- `MessageLog`. -/
structure MessageLog where
  created : LocalDateTime
  text : QString
  number : Int
  level : Int
  messageType : MessageType
deriving DecidableEq, Repr

/-- The code units of a text whose characters take one unit each. -/
def QString.ofBmp (text : String) : QString :=
  text.toList.map fun character => UInt16.ofNat character.toNat

/-- The decimal digits of a number, with zeros in front of them up to a width. -/
def QString.zeroPadded (width number : Nat) : QString :=
  let digits := (Nat.toDigits 10 number).map fun digit => UInt16.ofNat digit.toNat
  List.replicate (width - digits.length) 0x30 ++ digits

/-- `toString("hh:mm:ss.zzz")`. -/
def LocalDateTime.timeString (moment : LocalDateTime) : QString :=
  .zeroPadded 2 (moment.time / 3600000) ++ .ofAscii ":" ++
    .zeroPadded 2 (moment.time / 60000 % 60) ++ .ofAscii ":" ++
    .zeroPadded 2 (moment.time / 1000 % 60) ++ .ofAscii "." ++ .zeroPadded 3 (moment.time % 1000)

/-- `arg(number, 5, 10, QLatin1Char('0'))`, in which the sign counts as a digit. -/
def MessageLog.numberString (number : Int) : QString :=
  if number < 0 then .ofAscii "-" ++ .zeroPadded 4 number.natAbs else .zeroPadded 5 number.natAbs

/-- `toString()`, with the time, the type, the number and the text. -/
def MessageLog.toString (message : MessageLog) : QString :=
  .ofAscii "[" ++ message.created.timeString ++ .ofAscii "] " ++ message.messageType.name ++
    .ofAscii ":  " ++ numberString message.number ++ .ofAscii "  " ++ message.text

/-- What is appended to the buffer for a message. -/
def MessageLog.line (message : MessageLog) : QString := message.toString ++ .ofAscii "\r\n"

/-- `MessageLog(Message3)`, which says that a file was opened again. -/
def message3 (created : LocalDateTime) : MessageLog where
  created := created
  text := .ofBmp "ПОДСИСТЕМА ПРОТОКОЛИРОВАНИЯ ПОВТОРНО ОТКРЫЛА ФАЙЛ!"
  number := 3
  level := 0
  messageType := .error

/-- `WriterLog`, with what it has written to its files, and the messages whose lines it took. -/
structure WriterLog where
  logBuffer : QString
  logLevel : Int
  currentLogFileDate : QDate
  -- The date in the name of the file that is open.
  currentLogFile : Option QDate
  written : List (QDate × QByteArray)
  accepted : List MessageLog

/-- A flush whose first write does not store everything, and what happens in the course of it. -/
structure PartialFlush where
  stored : Nat
  -- When the message about it is created, and whether a file can be opened for its date.
  now : LocalDateTime
  opens : Bool

namespace WriterLog

/-- The constructor, with the date that stands for none. -/
def created (logLevel : Int) (noDate : QDate) : WriterLog := ⟨[], logLevel, noDate, none, [], []⟩

/-- `_currentLogFile.write(bytes)`, as far as the bytes are stored. -/
def write (writer : WriterLog) (bytes : QByteArray) : WriterLog :=
  match writer.currentLogFile with
  | some date => { writer with written := writer.written ++ [(date, bytes)] }
  | none => writer

/-- `logRecreateFile()`. -/
def logRecreateFile (writer : WriterLog) (opens : Bool) : WriterLog :=
  { writer with currentLogFile := if opens then some writer.currentLogFileDate else none }

/-- `doMessageLog(message)`, with the function that flushes the buffer. -/
def acceptMessage (flush : WriterLog → WriterLog) (writer : WriterLog) (message : MessageLog)
    (opens : Bool) : WriterLog :=
  if message.level > writer.logLevel then writer
  else
    let writer :=
      if writer.currentLogFileDate ≠ message.created.date then
        { flush writer with currentLogFileDate := message.created.date }.logRecreateFile opens
      else writer
    { writer with
      logBuffer := writer.logBuffer ++ message.line
      accepted := writer.accepted ++ [message] }

/-- There is nothing to be flushed, or the file is closed. -/
def Idle (writer : WriterLog) : Prop := writer.logBuffer = [] ∨ writer.currentLogFile = none

instance (writer : WriterLog) : Decidable writer.Idle := inferInstanceAs (Decidable (_ ∨ _))

/-- A flush whose first write stores everything. -/
def flushWhole (writer : WriterLog) : WriterLog :=
  { writer.write writer.logBuffer.toUtf8 with logBuffer := [] }

/-- A flush whose first write stores some bytes only, up to the message that it logs. -/
def flushRest (writer : WriterLog) (stored : Nat) : WriterLog :=
  let writer := writer.write (writer.logBuffer.toUtf8.take stored)
  -- The bytes are counted, but code units are removed.
  let writer := { writer with logBuffer := writer.logBuffer.drop stored }
  let writer := writer.logRecreateFile true
  writer.write writer.logBuffer.toUtf8

/--
`logFlushBuffer()`, with the flushes in it that are partial, each of which may lead to the next one.

The file can be opened again, and then stores the rest.
-/
def logFlushBuffer : List PartialFlush → WriterLog → WriterLog
  | [], writer => if writer.Idle then writer else writer.flushWhole
  | flush :: later, writer =>
    if writer.Idle then writer
    else if flush.stored < writer.logBuffer.toUtf8.length then
      let writer := writer.flushRest flush.stored
      let writer := acceptMessage (logFlushBuffer later) writer (message3 flush.now) flush.opens
      { writer with logBuffer := [] }
    else writer.flushWhole

/-- `doMessageLog(message)`; nothing is done for a null pointer. -/
def doMessageLog (writer : WriterLog) (flushes : List PartialFlush) (message : Option MessageLog)
    (opens : Bool) : WriterLog :=
  match message with
  | none => writer
  | some message => acceptMessage (logFlushBuffer flushes) writer message opens

/-- The calls, with the partial flushes and the file that is opened in each of them. -/
inductive Call
  | doMessageLog (message : Option MessageLog) (flushes : List PartialFlush) (opens : Bool)
  | logFlushBuffer (flushes : List PartialFlush)
  | setLevel (level : Int)

/-- The writer after a call. -/
def step (writer : WriterLog) : Call → WriterLog
  | .doMessageLog message flushes opens => writer.doMessageLog flushes message opens
  | .logFlushBuffer flushes => logFlushBuffer flushes writer
  | .setLevel level => { writer with logLevel := level }

/-- The bytes that were stored, in the order of writing. -/
def stored (writer : WriterLog) : QByteArray := writer.written.flatMap Prod.snd

/-- What is stored, and then what is in the buffer, are the lines of the accepted messages. -/
def Conserved (writer : WriterLog) : Prop :=
  writer.stored ++ QString.toUtf8 writer.logBuffer =
    QString.toUtf8 (writer.accepted.flatMap MessageLog.line)

/--
A flush does no harm if the first write stores everything.

Otherwise the message about it must be left out, and the bytes must be cut where the units are.
-/
def FlushesSafely (writer : WriterLog) : List PartialFlush → Prop
  | [] => True
  | flush :: _ =>
    writer.Idle ∨ (QString.toUtf8 writer.logBuffer).length ≤ flush.stored ∨
      writer.logLevel < 0 ∧
        QString.toUtf8 (writer.logBuffer.drop flush.stored) =
          (QString.toUtf8 writer.logBuffer).drop flush.stored

/-- The flushes that a call leads to do no harm. -/
def CallsSafely (writer : WriterLog) : Call → Prop
  | .doMessageLog (some message) flushes _ =>
    message.level ≤ writer.logLevel → writer.currentLogFileDate ≠ message.created.date →
      writer.FlushesSafely flushes
  | .doMessageLog none _ _ => True
  | .logFlushBuffer flushes => writer.FlushesSafely flushes
  | .setLevel _ => True

/-- The text is conserved, and no surrogate pair is cut between two lines. -/
structure Sound (writer : WriterLog) : Prop where
  conserved : writer.Conserved
  buffer : QString.Ended writer.logBuffer
  lines : QString.Ended (writer.accepted.flatMap MessageLog.line)

/-- A line ends with a line feed. -/
theorem ended_line (message : MessageLog) : QString.Ended message.line := by
  -- The last two characters of a line are those that end it.
  intro unit member
  have last : message.line.getLast? = some 0x0A := by
    rw [MessageLog.line, show QString.ofAscii "\r\n" = [0x0D, 0x0A] from rfl]
    simp
  rw [last] at member
  cases member
  decide

/-- A line is never empty. -/
theorem line_ne_nil (message : MessageLog) : message.line ≠ [] :=
  List.append_ne_nil_of_right_ne_nil _ (List.cons_ne_nil 0x0D [0x0A])

/-- Bytes that are written to an open file are stored behind all others. -/
theorem stored_write {writer : WriterLog} {date : QDate} (opened : writer.currentLogFile = some date)
    (bytes : QByteArray) : (writer.write bytes).stored = writer.stored ++ bytes := by
  simp [write, opened, stored]

/-- Writing leaves the rest of the writer as it is. -/
theorem write_eq (writer : WriterLog) (bytes : QByteArray) :
    writer.write bytes = { writer with written := (writer.write bytes).written } := by
  unfold write
  split <;> rfl

/-- A partial flush stores the first bytes, and then the units that were not removed. -/
theorem stored_flushRest {writer : WriterLog} {date : QDate}
    (opened : writer.currentLogFile = some date) (count : Nat) :
    (writer.flushRest count).stored =
      writer.stored ++ (QString.toUtf8 writer.logBuffer).take count ++
        QString.toUtf8 (writer.logBuffer.drop count) := by
  unfold flushRest
  dsimp only
  -- The second write stores what is left of the buffer in the file that was opened again.
  rw [stored_write rfl]
  congr 1
  · exact stored_write opened _
  · rw [write_eq]
    rfl

/-- A writer that is not idle has an open file. -/
theorem exists_open {writer : WriterLog} (busy : ¬ writer.Idle) :
    ∃ date, writer.currentLogFile = some date :=
  Option.ne_none_iff_exists'.mp fun closed => busy (.inr closed)

namespace Sound

variable {writer : WriterLog}

/-- Nothing is logged yet. -/
theorem created (logLevel : Int) (noDate : QDate) : (created logLevel noDate).Sound :=
  ⟨rfl, QString.ended_nil, QString.ended_nil⟩

/-- What was stored is the whole buffer, which is then empty. -/
theorem emptied (sound : writer.Sound) {after : WriterLog}
    (stored : after.stored = writer.stored ++ QString.toUtf8 writer.logBuffer)
    (empty : after.logBuffer = []) (same : after.accepted = writer.accepted) : after.Sound := by
  refine ⟨?_, ?_, ?_⟩
  · rw [Conserved, stored, empty, same]
    -- What was in the buffer is now stored.
    exact (List.append_nil _).trans sound.conserved
  · rw [empty]
    exact QString.ended_nil
  · rw [same]
    exact sound.lines

/-- A flush that stores everything keeps the text. -/
theorem flushWhole (sound : writer.Sound) (busy : ¬ writer.Idle) : writer.flushWhole.Sound := by
  obtain ⟨date, opened⟩ := exists_open busy
  refine sound.emptied ?_ rfl ?_
  · exact stored_write opened _
  · rw [WriterLog.flushWhole, write_eq]

/-- A flush that does no harm keeps the text. -/
theorem flush (sound : writer.Sound) {flushes : List PartialFlush}
    (safely : writer.FlushesSafely flushes) : (logFlushBuffer flushes writer).Sound := by
  cases flushes with
  | nil =>
    rw [logFlushBuffer]
    split
    · exact sound
    · exact sound.flushWhole ‹_›
  | cons first later =>
    rw [logFlushBuffer]
    split
    · exact sound
    · rename_i busy
      split
      · rename_i short
        obtain ⟨date, opened⟩ := exists_open busy
        rcases safely with idle | whole | ⟨silent, cut⟩
        · exact absurd idle busy
        · omega
        · -- The message is left out, and the rest of the units is the rest of the bytes.
          have level : (message3 first.now).level > (writer.flushRest first.stored).logLevel := by
            rw [show (writer.flushRest first.stored).logLevel = writer.logLevel from ?_]
            · exact silent
            · rw [flushRest, write_eq, write_eq]
              rfl
          dsimp only
          rw [acceptMessage, if_pos level]
          refine sound.emptied ?_ rfl ?_
          · show (writer.flushRest first.stored).stored = _
            rw [stored_flushRest opened, cut, List.append_assoc, List.take_append_drop]
          · show (writer.flushRest first.stored).accepted = _
            rw [flushRest, write_eq, write_eq]
            rfl
      · exact sound.flushWhole busy

/-- A line that is appended is in the buffer. -/
theorem append (sound : writer.Sound) (message : MessageLog) :
    Sound { writer with
      logBuffer := writer.logBuffer ++ message.line
      accepted := writer.accepted ++ [message] } := by
  refine ⟨?_, sound.buffer.append (ended_line message), ?_⟩
  · have conserved := sound.conserved
    -- The text in the buffer and the new line are encoded one after the other.
    rw [Conserved] at conserved ⊢
    dsimp only
    rw [QString.toUtf8_append sound.buffer, List.flatMap_append, QString.toUtf8_append sound.lines,
      ← conserved, List.append_assoc]
    simp [stored]
  · dsimp only
    rw [List.flatMap_append]
    exact sound.lines.append (by simpa using ended_line message)

/-- A call whose flushes do no harm keeps the text. -/
theorem step (sound : writer.Sound) {call : Call} (safely : writer.CallsSafely call) :
    (writer.step call).Sound := by
  -- Lines are appended by one kind of call, and moved to the file by flushes.
  cases call with
  | doMessageLog message flushes opens =>
    cases message with
    | none => exact sound
    | some message =>
      simp only [WriterLog.step, doMessageLog, acceptMessage]
      split
      · exact sound
      · rename_i accepted
        split
        · -- The buffer is flushed before another file is opened.
          rename_i differs
          have flushed := sound.flush (safely (by omega) differs)
          have opened : ({ logFlushBuffer flushes writer with
              currentLogFileDate := message.created.date }.logRecreateFile opens).Sound :=
            ⟨flushed.conserved, flushed.buffer, flushed.lines⟩
          exact opened.append message
        · exact sound.append message
  | logFlushBuffer flushes => exact sound.flush safely
  | setLevel level => exact ⟨sound.conserved, sound.buffer, sound.lines⟩

end Sound

/--
No text is lost or doubled in a run whose partial flushes do no harm.

The bytes that are stored and the text in the buffer are then the lines of all accepted messages.
-/
theorem conserved_of_callsSafely {logLevel : Int} {noDate : QDate} {calls : List Call}
    (safely : EventMachine.Along step CallsSafely (created logLevel noDate) calls) :
    (EventMachine.run step (created logLevel noDate) calls).Conserved :=
  (EventMachine.run_invariant_of_along step (fun _ _ safely sound => sound.step safely)
    (Sound.created logLevel noDate) safely).conserved

/-- A flush that stores some bytes only loses text as soon as the message about it is accepted. -/
theorem not_conserved_of_partial {writer : WriterLog} (sound : writer.Sound) (busy : ¬ writer.Idle)
    {flush : PartialFlush} (short : flush.stored < (QString.toUtf8 writer.logBuffer).length)
    (accepts : 0 ≤ writer.logLevel) (today : flush.now.date = writer.currentLogFileDate)
    (later : List PartialFlush) : ¬ (logFlushBuffer (flush :: later) writer).Conserved := by
  obtain ⟨date, opened⟩ := exists_open busy
  -- Apart from what is written, a partial flush removes units and opens the file again.
  have rest : ∀ count, writer.flushRest count =
      { writer with
        logBuffer := writer.logBuffer.drop count
        currentLogFile := some writer.currentLogFileDate
        written := (writer.flushRest count).written } := by
    intro count
    rw [flushRest, write_eq, write_eq]
    rfl
  have level : ¬ (message3 flush.now).level > (writer.flushRest flush.stored).logLevel := by
    rw [rest]
    exact Int.not_lt.mpr accepts
  have sameDate : ¬ (writer.flushRest flush.stored).currentLogFileDate ≠
      (message3 flush.now).created.date := by
    rw [rest]
    exact not_not.mpr today.symm
  intro conserved
  rw [logFlushBuffer, if_neg busy, if_pos short, Conserved] at conserved
  dsimp only at conserved
  rw [acceptMessage, if_neg level] at conserved
  dsimp only at conserved
  rw [if_neg sameDate] at conserved
  have lengths : (writer.flushRest flush.stored).stored.length = (QString.toUtf8
      (writer.accepted.flatMap MessageLog.line ++ (message3 flush.now).line)).length := by
    have accepted : (writer.flushRest flush.stored).accepted = writer.accepted := by rw [rest]
    rw [← accepted]
    simpa [stored, QString.toUtf8] using congrArg List.length conserved
  -- Nothing more was stored than was in the buffer, so the line of the message is missing.
  rw [stored_flushRest opened, QString.toUtf8_append sound.lines, ← sound.conserved] at lengths
  have line := QString.length_toUtf8_pos (line_ne_nil (message3 flush.now))
  have fewer := QString.length_toUtf8_drop_le writer.logBuffer flush.stored
  simp only [List.length_append, List.length_take] at lengths
  omega

/-- A message whose text is one letter that takes two bytes. -/
def letter : MessageLog := ⟨⟨1, 0⟩, [0x44F], 7, 0, .message⟩

/-- The line of the letter takes 31 units and 32 bytes, of which the first write stores 30. -/
theorem conserved_fails :
    ¬ (EventMachine.run step (created 9 0)
      [.doMessageLog (some letter) [] true, .logFlushBuffer [⟨30, ⟨1, 0⟩, true⟩]]).Conserved := by
  have sound : ((created 9 0).step (.doMessageLog (some letter) [] true)).Sound :=
    (Sound.created 9 0).step fun _ _ => trivial
  rw [EventMachine.run_cons, EventMachine.run_cons, EventMachine.run_nil]
  show ¬ (logFlushBuffer [⟨30, ⟨1, 0⟩, true⟩] ((created 9 0).step _)).Conserved
  exact not_conserved_of_partial sound (by decide) (by decide) (by decide) rfl []

/-- The letter is conserved by a flush that stores its whole line. -/
theorem conserved_of_callsSafely_letter :
    (EventMachine.run step (created 9 0)
      [.doMessageLog (some letter) [] true, .logFlushBuffer []]).Conserved :=
  conserved_of_callsSafely ⟨fun _ _ => trivial, trivial, trivial⟩

end WriterLog

end Threader
