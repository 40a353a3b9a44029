import Threader.Threads.ThreadHandler
import Threader.Threads.WriterLogs

/-! `ThreadLogs`: the thread that owns the log, from its first note to its last flush. -/

namespace Threader

/-- The messages that `ThreadLogs` tells apart by their names. -/
inductive LogsMessage
  | log (message : MessageLog)
  | writeToFile
  | logLevel (level : Int)
  | other
deriving DecidableEq, Repr

/-- How the calls of the log file turn out while one message is dealt with. -/
structure LogFileCalls where
  -- The partial flushes in `doMessageLog`, and whether the file of another day can be opened.
  flushes : List PartialFlush
  opens : Bool
  -- The partial flushes of the buffer behind it.
  checked : List PartialFlush

/-- `ThreadLogs`, with what it has posted to its subscriber. -/
structure ThreadLogs where
  writer : WriterLog
  nextWriteFileTickCount : Int
  clock : Clock
  subscriber : Bool
  posted : List MessageLog

/-- `Message0`. -/
def message0 (created : LocalDateTime) : MessageLog where
  created := created
  text := .ofBmp "Запуск подсистемы протоколирования работы службы..."
  number := 0
  level := 0
  messageType := .message

/-- `Message1`. -/
def message1 (created : LocalDateTime) : MessageLog where
  created := created
  text := .ofBmp "Завершение подсистемы протоколирования работы службы..."
  number := 1
  level := 0
  messageType := .warning

/-- `Message2`. -/
def message2 (created : LocalDateTime) : MessageLog where
  created := created
  text := .ofBmp "Подсистема протоколирования работы службы завершена"
  number := 2
  level := 0
  messageType := .message

namespace ThreadLogs

/-- `TIMEOUT_BUFFER_FLUSH_MILLISECONDS`. -/
def TIMEOUT_BUFFER_FLUSH_MILLISECONDS : Int := 1000

variable (thread : ThreadLogs)

/-- `DateUtils::getTickCount()`. -/
def getTickCount : Int × ThreadLogs :=
  (thread.clock.ticks thread.clock.readings,
    { thread with clock := { thread.clock with readings := thread.clock.readings + 1 } })

/-- `_nextWriteFileTickCount = DateUtils::getNextTickCount(TIMEOUT_BUFFER_FLUSH_MILLISECONDS)`. -/
def putOff : ThreadLogs :=
  let tickCount := thread.getTickCount
  let now : Int := tickCount.1
  { tickCount.2 with
    nextWriteFileTickCount := if now ≥ 0 then now + TIMEOUT_BUFFER_FLUSH_MILLISECONDS else now }

/-- `logFlushBuffer()`. -/
def logFlushBuffer (flushes : List PartialFlush) : ThreadLogs :=
  { thread with writer := WriterLog.logFlushBuffer flushes thread.writer }.putOff

/-- `logCheckAndFlushBuffer()`. -/
def logCheckAndFlushBuffer (flushes : List PartialFlush) : ThreadLogs :=
  if thread.writer.logBuffer = [] then thread
  else
    let tickCount := thread.getTickCount
    if tickCount.1 < thread.nextWriteFileTickCount then tickCount.2
    else tickCount.2.logFlushBuffer flushes

/-- `doMessageLog(message)`, which flushes the buffer before a message of another day. -/
def doMessageLog (files : LogFileCalls) (message : MessageLog) : ThreadLogs :=
  let flushes := message.level ≤ thread.writer.logLevel ∧
    thread.writer.currentLogFileDate ≠ message.created.date
  let thread :=
    { thread with writer := thread.writer.doMessageLog files.flushes (some message) files.opens }
  if flushes then thread.putOff else thread

/-- `processMessage(message)`. -/
def processMessage (files : LogFileCalls) (message : LogsMessage) : ThreadLogs :=
  let thread :=
    match message with
    | .log message =>
      let thread := thread.doMessageLog files message
      if thread.subscriber ∧ thread.writer.logLevel ≥ message.level then
        { thread with posted := thread.posted ++ [message] }
      else thread
    | .logLevel level => { thread with writer := { thread.writer with logLevel := level } }
    -- Other files than that of the log are rewritten.
    | .writeToFile => thread
    | .other => thread
  thread.logCheckAndFlushBuffer files.checked

/-- What happens to the thread. -/
inductive Event
  | processMessage (message : LogsMessage) (files : LogFileCalls)
  | onIdle (flushes : List PartialFlush)
  -- One of its own messages.
  | note (message : MessageLog) (files : LogFileCalls)

/-- The thread after an event. -/
def step (thread : ThreadLogs) : Event → ThreadLogs
  | .processMessage message files => thread.processMessage files message
  | .onIdle flushes => thread.logCheckAndFlushBuffer flushes
  | .note message files => thread.doMessageLog files message

/-- The constructor. -/
def construct (noDate : QDate) (clock : Clock) (subscriber : Bool) : ThreadLogs :=
  ThreadLogs.putOff ⟨.created 9 noDate, 0, clock, subscriber, []⟩

/-- When the thread writes its own messages, and how their calls turn out. -/
structure Notes where
  onThreadStarted : LocalDateTime × LogFileCalls
  onThreadFinishing : LocalDateTime × LogFileCalls
  onThreadFinished : LocalDateTime × LogFileCalls

/-- The events of `run()`, with those of its loop and those while the thread is finishing. -/
def events (notes : Notes) (loop finishing : List Event) : List Event :=
  .note (message0 notes.onThreadStarted.1) notes.onThreadStarted.2 :: loop ++
    .note (message1 notes.onThreadFinishing.1) notes.onThreadFinishing.2 :: finishing ++
    [.note (message2 notes.onThreadFinished.1) notes.onThreadFinished.2]

/-- `run()`, up to the last flush in `onThreadFinished()`. -/
def run (notes : Notes) (loop finishing : List Event) (flushes : List PartialFlush) : ThreadLogs :=
  (EventMachine.run step thread (events notes loop finishing)).logFlushBuffer flushes

end ThreadLogs

end Threader
