import StoreMeter.Log.Entry
import StoreMeter.Outcome
import StoreMeter.Storage.Operation
/-
# Worker — writing or reading one object, and measuring it

A worker opens one object, moves its data block by block and closes it.  The time runs from before
the object is opened to after the last block (and the flush, for a write).  A failure of the system
becomes an error of the outcome; any other failure ends the worker, after the stream is closed.  A
failure to close adds an error and never takes a measurement away.

The two tasks share one frame, `measured`: they differ in how they open the object (`create` or
`openRead`) and in how they move the data (`writeBlocks` and a flush, or `readBlocks`).
-/
namespace StoreMeter
namespace Worker

/-- What a worker asks its surroundings. -/
inductive Op (S : Type) where
  /-- An operation of the storage. -/
  | storage (op : Storage.Operation S)
  /-- The time in seconds. -/
  | clock
  /-- A log entry. -/
  | log (entry : Log.Entry)
  /-- Is the worker of this number in a set of late workers? -/
  | isLate (late : Nat) (index : Int)

/-- What each question answers. -/
def Op.Answer {S : Type} : Op S → Type
  | storage op => op.Answer
  | clock => Binary64
  | log _ => Unit
  | isLate _ _ => Bool

/-- The questions of a worker. -/
def effects (S : Type) : Effects := ⟨Op S, Op.Answer⟩

/-- A program of a worker. -/
abbrev Program (S : Type) (α : Type) := Prog (effects S) α

/-- What a worker does for a phase: an outcome, or a failure that is not the storage's. -/
abbrev Job (S : Type) := Program S (Except Fault Outcome)

section
variable {S : Type}

/-! ## Single questions -/

/-- Opens an object for writing. -/
def create (path : String) : Program S (Except Fault S) :=
  .perform (E := effects S) (.storage (.create path))

/-- Opens an object for reading. -/
def openRead (path : String) : Program S (Except Fault S) :=
  .perform (E := effects S) (.storage (.openRead path))

/-- Deletes an object. -/
def delete (path : String) : Program S (Except Fault Unit) :=
  .perform (E := effects S) (.storage (.delete path))

/-- Writes data to a stream. -/
def write (stream : S) (data : ByteArray) : Program S (S × Except Fault Nat) :=
  .perform (E := effects S) (.storage (.write stream data))

/-- Makes everything written to a stream visible. -/
def flush (stream : S) : Program S (S × Except Fault Unit) :=
  .perform (E := effects S) (.storage (.flush stream))

/-- Reads from a stream. -/
def read (stream : S) (size : Int) : Program S (S × Except Fault ByteArray) :=
  .perform (E := effects S) (.storage (.read stream (some size)))

/-- Closes a stream. -/
def close (stream : S) : Program S (S × Except Fault Unit) :=
  .perform (E := effects S) (.storage (.close stream))

/-- The time in seconds. -/
def clock : Program S Binary64 := .perform (E := effects S) .clock

/-- Adds an entry to the log. -/
def log (entry : Log.Entry) : Program S Unit := .perform (E := effects S) (.log entry)

/-- Is the worker of this number in a set of late workers? -/
def isLate (late : Nat) (index : Int) : Program S Bool :=
  .perform (E := effects S) (.isLate late index)

/-! ## Log entries -/

/-- An entry about one worker and its object. -/
def entry (level : Log.Level) (event : String) (index : Int) (path : String)
    (more : List (String × Value)) : Log.Entry :=
  ⟨level, "worker", event, [("path", .text path), ("worker", .int index)] ++ more, false⟩

/-- The words that the two directions use for a beginning, an end and a failure. -/
structure Wording where
  begins : String
  ends : String
  fails : String

/-- The words for a direction. -/
def wording : Mode → Wording
  | .write => ⟨"Writing", "Write task finished", "Failed to write"⟩
  | .read => ⟨"Reading", "Read task finished", "Failed to read"⟩

/-! ## Moving the data -/

/-- Writes so many bytes to a stream, in blocks taken from the start of the payload, which must not
be empty.  The first failure ends the work. -/
def writeBlocks (payload : ByteArray) (stream : S) (remaining : Nat) :
    Program S (S × Except Fault Unit) :=
  -- an empty payload would never get to the end of the amount
  if _h : remaining = 0 ∨ payload.size = 0 then pure (stream, .ok ())
  else do
    let (stream, reply) ← write stream (payload.extract 0 (min remaining payload.size))
    match reply with
    | .error fault => pure (stream, .error fault)
    | .ok _ => writeBlocks payload stream (remaining - min remaining payload.size)
termination_by remaining
decreasing_by omega

/-- Reads from a stream until so many bytes are counted or a block comes back empty, and returns
the count.  The first failure ends the work. -/
def readBlocks (bufferSize : Int) (size : Nat) (stream : S) (count : Nat) :
    Program S (S × Except Fault Nat) :=
  if size ≤ count then pure (stream, .ok count)
  else do
    let (stream, reply) ← read stream (min bufferSize (size - count))
    match reply with
    | .error fault => pure (stream, .error fault)
    | .ok block =>
      -- an empty block is the end of the object
      if block.size = 0 then pure (stream, .ok count)
      else readBlocks bufferSize size stream (count + block.size)
termination_by size - count
decreasing_by omega

/-- Writes the whole amount to a stream and makes it visible; the result counts the bytes. -/
def writeAll (payload : ByteArray) (size : Nat) (stream : S) :
    Program S (S × Except Fault Nat) := do
  let (stream, reply) ← writeBlocks payload stream size
  match reply with
  | .error fault => pure (stream, .error fault)
  | .ok () =>
    let (stream, reply) ← flush stream
    pure (stream, reply.map fun _ => size)

/-! ## The frame of both tasks -/

/-- Closes a stream; the result holds a message if that failed. -/
def closeStream (index : Int) (path : String) (stream : S) : Program S (List String) := do
  let (_, reply) ← close stream
  match reply with
  | .ok () => pure []
  | .error fault =>
    log (entry .warning "Failed to close stream" index path [("error", .text fault.text)])
    pure [s!"Failed to close {path}: {fault.text}"]

/-- The measurement of a finished transfer: the time since the start and the bytes moved. -/
def finish (mode : Mode) (index : Int) (path : String) (start : Binary64) (bytes : Nat) :
    Program S (Except Fault Measurement) := do
  let now ← clock
  match Measurement.make mode (.real (now.sub start)) bytes with
  | .error fault => pure (.error fault)
  | .ok measurement =>
    log (entry .debug (wording mode).ends index path
      [("duration", .scalar measurement.duration), ("data_size", .nat bytes)])
    pure (.ok measurement)

/-- Opens an object, moves its data and measures the time; the stream is still open, if it was
opened at all. -/
def attempt (mode : Mode) (index : Int) (path : String) (opened : Program S (Except Fault S))
    (transfer : S → Program S (S × Except Fault Nat)) :
    Program S (Option S × Except Fault Measurement) := do
  let start ← clock
  match ← opened with
  -- without a stream there is nothing to close
  | .error fault => pure (none, .error fault)
  | .ok stream =>
    let (stream, reply) ← transfer stream
    match reply with
    | .error fault => pure (some stream, .error fault)
    | .ok bytes =>
      let measurement ← finish mode index path start bytes
      pure (some stream, measurement)

/-- The message of an attempt that met a failure of the system. -/
def attemptErrors (mode : Mode) (index : Int) (path : String) :
    Except Fault Measurement → Program S (List String)
  | .ok _ => pure []
  | .error fault =>
    if fault.isSystem then do
      log (entry .error (wording mode).fails index path [("error", .text fault.text)])
      pure [s!"{(wording mode).fails} {path}: {fault.text}"]
    else pure []

/-- The message of a stream that failed to close. -/
def closingErrors (index : Int) (path : String) : Option S → Program S (List String)
  | none => pure []
  | some stream => closeStream index path stream

/-- The outcome of an attempt with the messages around it; a failure that is not of the system ends
the worker. -/
def conclude (mode : Mode) (index : Int) (errors : List String) :
    Except Fault Measurement → Except Fault Outcome
  | .ok measurement => Outcome.make index mode (some measurement) errors
  | .error fault =>
    if fault.isSystem then Outcome.make index mode none errors else .error fault

/-- Attempts a transfer, closes the stream and concludes. -/
def measured (mode : Mode) (index : Int) (path : String) (size : Int)
    (opened : Program S (Except Fault S)) (transfer : S → Program S (S × Except Fault Nat)) :
    Program S (Except Fault Outcome) := do
  log { entry .debug (wording mode).begins index path [("io_size", .int size)] with
    namesThread := true }
  let (stream, result) ← attempt mode index path opened transfer
  let errors ← attemptErrors mode index path result
  let closing ← closingErrors index path stream
  pure (conclude mode index (errors ++ closing) result)

/-! ## The two tasks -/

/-- Writes an object of a given size from a payload. -/
def writeTask (index : Int) (path : String) (size : Int) (payload : ByteArray) : Job S :=
  if payload.size = 0 ∧ 0 < size then
    Prog.done (.error (.value "Write payload must not be empty"))
  else measured .write index path size (create path) (writeAll payload size.toNat)

/-- Reads an object up to a given size, in blocks of at most the buffer size. -/
def readTask (index : Int) (path : String) (size : Int) (bufferSize : Int) : Job S :=
  measured .read index path size (openRead path) fun stream =>
    readBlocks bufferSize size.toNat stream 0

end

end Worker
end StoreMeter
