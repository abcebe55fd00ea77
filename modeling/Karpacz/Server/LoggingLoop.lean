import Karpacz.Pipeline.AccessLog

/-!
# The logging loop of `start_server`

`start_server` opens the access log and the error log in append mode and wraps each in
a `BufWriter` of capacity 131072 behind a mutex. Its logging loop receives the
pipeline's `LogMessage`s; for each, if the sink of its kind is open, it spawns a task
that takes that sink's lock, formats the record (an error record gets the time as
`[%Y-%m-%d %H:%M:%S]: ` in front, every record a `\n` after) and calls `write` on it
once. A separate task takes each lock every 100 ms and flushes.

The spawned tasks and the flush task run in any order, each one's critical section
atomic under its lock. `LoggingLoop.step` is one such section, or the loop receiving a
message; a run is any list of them. The bytes a sink has received are the file's
contents followed by the `BufWriter`'s buffer (`SinkFile.output`).

`write` returns how many bytes it took, and the task ignores the count. For a record
of at least the buffer's capacity, tokio's `BufWriter` passes the write to the file,
which takes at most its own chunk of bytes per call (`chunk` below; 2 MiB for
`tokio::fs::File`), so the rest of a longer record is dropped.
-/

namespace Karpacz

/-- `BufWriter::with_capacity(131072, file)`. -/
def logBufferCapacity : Nat := 131072

/-- A sink: the bytes in the file and the bytes in the `BufWriter`'s buffer. -/
structure SinkFile where
  file : List UInt8
  buffer : List UInt8
  deriving DecidableEq

/-- The bytes the sink has received, in order: the file's, then the buffer's. -/
def SinkFile.output (s : SinkFile) : List UInt8 := s.file ++ s.buffer

/-- `BufWriter::flush_buf`: the buffer goes to the file. -/
def SinkFile.flushBuf (s : SinkFile) : SinkFile := ⟨s.file ++ s.buffer, []⟩

/-- tokio's `BufWriter::poll_write` of `data`, over a file that takes at most `chunk`
bytes per write: the new sink and the count `write` returns. -/
def SinkFile.write (chunk : Nat) (s : SinkFile) (data : List UInt8) : SinkFile × Nat :=
  let s := if s.buffer.length + data.length > logBufferCapacity then s.flushBuf else s
  if data.length ≥ logBufferCapacity then (⟨s.file ++ data.take chunk, s.buffer⟩, min data.length chunk)
  else (⟨s.file, s.buffer ++ data⟩, data.length)

/-- `now.format("%Y-%m-%d %H:%M:%S")`. -/
def formatErrorTime (t : LocalTime) : String :=
  ⟨formatYear t.year ++ '-' :: pad2 (t.month.val + 1) ++ '-' :: pad2 t.day ++ ' ' :: pad2 t.hour ++
    ':' :: pad2 t.minute ++ ':' :: pad2 t.second⟩

/-- The text a writer task writes for `message` when it takes the lock at `now`. -/
def recordText (now : LocalTime) (message : LogMessage) : String :=
  (if message.isError then "[" ++ formatErrorTime now ++ "]: " ++ message.message else message.message) ++ "\n"

/-- `message.as_bytes()`: the UTF-8 bytes of the record. -/
def recordBytes (now : LocalTime) (message : LogMessage) : List UInt8 :=
  (recordText now message).data.flatMap String.utf8EncodeChar

/-- The logging loop and its tasks. -/
structure LoggingLoop where
  /-- `log_file_wrapped`: the access log, when it is open. -/
  logFileWrapped : Option SinkFile
  /-- `error_log_file_wrapped`: the error log, when it is open. -/
  errorLogFileWrapped : Option SinkFile
  /-- The spawned writer tasks that have not yet taken their lock, with their messages. -/
  spawned : List LogMessage
  /-- Ghost: the messages the loop received and spawned a task for, in order. -/
  received : List LogMessage
  /-- Ghost: each write made, in lock order: its message, its record, and the bytes the
  sink took. -/
  written : List (LogMessage × List UInt8 × List UInt8)

/-- What can happen next. -/
inductive LoggingEvent
  /-- `receive_log.recv()` yields `message`. -/
  | receive (message : LogMessage)
  /-- The spawned task at position `task` takes its sink's lock at time `now`. -/
  | write (task : Nat) (now : LocalTime)
  /-- The flush task takes the lock of the error log (`true`) or the access log (`false`). -/
  | flush (isError : Bool)

namespace LoggingLoop

/-- The sink of a kind of record. -/
def sinkFor (st : LoggingLoop) (isError : Bool) : Option SinkFile :=
  if isError then st.errorLogFileWrapped else st.logFileWrapped

/-- The state with the sink of a kind replaced. -/
def setSink (st : LoggingLoop) (isError : Bool) (sink : SinkFile) : LoggingLoop :=
  if isError then { st with errorLogFileWrapped := some sink } else { st with logFileWrapped := some sink }

/-- One step: the loop receives a message, a writer task runs, or a flush runs. -/
def step (chunk : Nat) (st : LoggingLoop) : LoggingEvent → LoggingLoop
  | .receive message =>
    if (st.sinkFor message.isError).isSome then
      { st with spawned := st.spawned ++ [message], received := st.received ++ [message] }
    else st
  | .write task now =>
    match st.spawned[task]? with
    | none => st
    | some message =>
      match st.sinkFor message.isError with
      | none => st
      | some sink =>
        let record := recordBytes now message
        let result := sink.write chunk record
        LoggingLoop.setSink
          { st with
            spawned := st.spawned.eraseIdx task
            written := st.written ++ [(message, record, record.take result.2)] }
          message.isError result.1
  | .flush isError =>
    match st.sinkFor isError with
    | some sink => st.setSink isError sink.flushBuf
    | none => st

/-- A run: the steps in order. -/
def run (chunk : Nat) (st : LoggingLoop) (events : List LoggingEvent) : LoggingLoop :=
  events.foldl (step chunk) st

/-- The loop as `start_server` starts it: the sinks it opened, empty, and no tasks. -/
def start (logOpen errorLogOpen : Bool) : LoggingLoop :=
  ⟨if logOpen then some ⟨[], []⟩ else none, if errorLogOpen then some ⟨[], []⟩ else none, [], [], []⟩

end LoggingLoop

end Karpacz
