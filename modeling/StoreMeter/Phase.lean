import StoreMeter.Conductor
/-
# Phase — all workers in one direction at the same time

A phase first sees to the target directory, before any worker starts: for writing it is made if it
is not there, for reading it has to be there.  Then every worker gets one job, and the phase waits
for all of them up to the limit.  Each worker comes to exactly one outcome: its own, or a failure
that says that it crashed or that it was not done in time.

A writer that was started and is not done in time is late.  When it does end, it deletes its own
object; and the read phase skips the objects of late writers.
-/
namespace StoreMeter
namespace Phase

variable {S : Type}

/-! ## The target directory -/

/-- An entry about a phase. -/
def entry (level : Log.Level) (event : String) (fields : List (String × Value)) : Log.Entry :=
  ⟨level, "phase", event, fields, false⟩

/-- What a failure to see to the target directory becomes: a failure of the setup if it is the
system's, and itself otherwise. -/
def targetFault (path : String) (fault : Fault) : Fault :=
  if fault.isSystem then .setup s!"Cannot prepare target directory {path}: {fault.text}" else fault

/-- Makes the target directory of a write phase if it is not there. -/
def makeTarget (path : String) (present : Bool) : Conductor.Program S (Except Fault Unit) := do
  if present then pure (.ok ())
  else
    Conductor.log (entry .debug "Prepare directory" [("path", .text path)])
    Conductor.makeDirs path

/-- Sees to the target directory before any worker starts. -/
def prepareTarget (path : String) (mode : Mode) : Conductor.Program S (Except Fault Unit) := do
  match ← Conductor.isPresent path with
  | .error fault => pure (.error (targetFault path fault))
  | .ok present =>
    match mode with
    | .read =>
      if present then pure (.ok ())
      else pure (.error (.setup s!"The target directory {path} does not exist!"))
    | .write =>
      let made ← makeTarget path present
      pure (made.mapError (targetFault path))

/-! ## Jobs -/

/-- Deletes the object of a late writer; an object that is not there is no failure. -/
def discardLate (index : Int) (path : String) : Worker.Program S (Except Fault Unit) := do
  let fields : List (String × Value) := [("worker", .int index), ("path", .text path)]
  match ← Worker.delete path with
  | .ok () =>
    Worker.log (entry .info "Deleted object of late worker" fields)
    pure (.ok ())
  | .error fault =>
    if fault.isAbsent then
      Worker.log (entry .debug "Late worker left no object" fields)
      pure (.ok ())
    else if fault.isSystem then
      Worker.log (entry .warning "Failed to delete object of late worker"
        (fields ++ [("error", .text fault.text)]))
      pure (.ok ())
    else pure (.error fault)

/-- Is a worker in a set of late workers, if there is a set? -/
def isLate (late : Option Nat) (index : Int) : Worker.Program S Bool :=
  match late with
  | none => pure false
  | some late => Worker.isLate late index

/-- The job of a writer: it writes its object, and deletes it again if it is late by then. -/
def writeJob (settings : Settings) (size : Int) (payload : ByteArray) (late : Option Nat)
    (index : Int) : Worker.Program S (Except Fault Outcome) := do
  let path := settings.objectPath index
  match ← Worker.writeTask index path size payload with
  | .error fault => pure (.error fault)
  | .ok outcome =>
    -- the run may have given the writer up in the meantime
    if ← isLate late index then
      let discarded ← discardLate index path
      pure (discarded.map fun _ => outcome)
    else pure (.ok outcome)

/-- The message of a reader whose object is still being written. -/
def skippedMessage (index : Int) : String :=
  s!"Worker {index} skipped read: write did not complete in time"

/-- The job of a reader: it reads its object, unless the writer of the object is late. -/
def readJob (settings : Settings) (size : Int) (bufferSize : Int) (late : Option Nat)
    (index : Int) : Worker.Program S (Except Fault Outcome) := do
  if ← isLate late index then
    pure (.ok (Outcome.failure index .read (skippedMessage index)))
  else Worker.readTask index (settings.objectPath index) size bufferSize

/-! ## Collecting the outcomes -/

/-- The message of a worker that was not done in time. -/
def timeoutMessage (index : Int) (mode : Mode) (limit : Value) : String :=
  s!"Worker {index} did not complete {mode.name} within {limit.shown}s"

/-- The message of a worker that ended with a failure. -/
def crashMessage (index : Int) (fault : Fault) : String :=
  s!"Worker {index} failed: {fault.name}: {fault.text}"

/-- The outcome of a worker that is not done in time: its job is taken back, and if that fails the
worker is late. -/
def timedOut (pool : Nat) (mode : Mode) (limit : Value) (late : Option Nat) (index : Nat)
    (submission : Nat) : Conductor.Program S Outcome := do
  let cancelled ← Conductor.cancel pool submission
  -- a job that is taken back has not started, so it leaves no object behind
  match late with
  | some late => if cancelled then pure () else Conductor.addLate late index
  | none => pure ()
  Conductor.log (entry .error "Worker did not complete in time"
    [("worker", .nat index), ("mode", .text mode.name), ("timeout", limit)])
  pure (Outcome.failure index mode (timeoutMessage index mode limit))

/-- The outcome of a worker that is done. -/
def finished (pool : Nat) (mode : Mode) (index : Nat) (submission : Nat) :
    Conductor.Program S Outcome := do
  match ← Conductor.result pool submission with
  | .ok outcome => pure outcome
  | .error fault =>
    Conductor.log (entry .error "Worker crashed"
      [("worker", .nat index), ("mode", .text mode.name)])
    pure (Outcome.failure index mode (crashMessage index fault))

/-- Hands the jobs of the workers to a pool, in their order. -/
def submitAll (pool : Nat) (jobs : List (Worker.Job S)) : Conductor.Program S (List Nat) :=
  jobs.mapM (Conductor.submit pool)

/-- The outcomes of the workers from a number on, one for each submission. -/
def collectFrom (pool : Nat) (mode : Mode) (limit : Value) (late : Option Nat)
    (unfinished : List Nat) : Nat → List Nat → Conductor.Program S (List Outcome)
  | _, [] => pure []
  | index, submission :: rest => do
    let outcome ←
      if unfinished.contains submission then timedOut pool mode limit late index submission
      else finished pool mode index submission
    let others ← collectFrom pool mode limit late unfinished (index + 1) rest
    pure (outcome :: others)

/-- Runs the jobs of all workers and collects their outcomes in the order of the workers. -/
def collect (pool : Nat) (mode : Mode) (jobs : List (Worker.Job S)) (limit : Value)
    (late : Option Nat) : Conductor.Program S (Except Fault (List Outcome)) := do
  let submissions ← submitAll pool jobs
  match ← Conductor.wait pool submissions limit with
  | .error fault => pure (.error fault)
  | .ok unfinished =>
    let outcomes ← collectFrom pool mode limit late unfinished 0 submissions
    pure (.ok outcomes)

/-! ## A whole phase -/

/-- The job of each worker of a phase, as a function of its number.  The writers share one random
payload. -/
def jobs (settings : Settings) (mode : Mode) (size bufferSize : Int) (late : Option Nat) :
    Conductor.Program S (Except Fault (Nat → Worker.Job S)) :=
  match mode with
  | .write => do
    let payload ← Conductor.entropy bufferSize
    pure (payload.map fun payload index => writeJob settings size payload late index)
  | .read => pure (.ok fun index => readJob settings size bufferSize late index)

/-- Runs the jobs of all workers of a phase.  Only a write phase adds to the late workers. -/
def runJobs (settings : Settings) (mode : Mode) (pool : Nat) (size : Int) (late : Option Nat)
    (job : Nat → Worker.Job S) : Conductor.Program S (Except Fault (List Outcome)) := do
  Conductor.log (entry .info "Phase started"
    [("mode", .text mode.name), ("workers", settings.threads), ("io_size", .int size),
      ("path", .text settings.path)])
  match settings.workerCount with
  | .error fault => pure (.error fault)
  | .ok count =>
    -- a reader that is late leaves nothing behind to delete
    let late := if mode = .write then late else none
    match ← collect pool mode ((List.range count).map job) settings.timeout late with
    | .error fault => pure (.error fault)
    | .ok outcomes =>
      Conductor.log (entry .info "Phase finished"
        [("mode", .text mode.name), ("succeeded", .nat (outcomes.countP (·.ok))),
          ("failed", .nat (outcomes.countP fun outcome => !outcome.ok))])
      pure (.ok outcomes)

/-- Runs a phase over all workers: sees to the target, makes the jobs and runs them. -/
def run (settings : Settings) (mode : Mode) (pool : Nat) (size bufferSize : Int)
    (late : Option Nat) : Conductor.Program S (Except Fault (List Outcome)) := do
  match ← prepareTarget settings.path mode with
  | .error fault => pure (.error fault)
  | .ok () =>
    match ← jobs settings mode size bufferSize late with
    | .error fault => pure (.error fault)
    | .ok job => runJobs settings mode pool size late job

end Phase
end StoreMeter
