import StoreMeter.Worker
/-
# Conductor — what the main thread of a run asks

The main thread starts pools of workers, hands them jobs, waits for them and collects what they
came to.  Its questions go to the storage, to the log, to the pools and to the sets of late
workers.  A job is a program of its own (`Worker.Job`); when and how far it runs is up to the pool.
-/
namespace StoreMeter

/-- The stages of a run. -/
inductive Stage where
  | prepare
  | writePhase
  | readPhase
  | cleanup
  | done
  | failed
  deriving DecidableEq, Repr

/-- The stage in answers. -/
def Stage.name : Stage → String
  | prepare => "prepare"
  | writePhase => "write_phase"
  | readPhase => "read_phase"
  | cleanup => "cleanup"
  | done => "done"
  | failed => "failed"

namespace Conductor

/-! ## Waiting -/

/-- The limit, in seconds, from which on no wait can be made. -/
def longestWait : Scalar := .real (Binary64.ofDecimal false 9223372036854775807 (-9))

/-- What is said of a limit that is too long. -/
def tooLong : Scalar → String
  | .real _ => "timestamp out of range for platform time_t"
  | .truth _ | .int _ => "timestamp too large to convert to C _PyTime_t"

/-- Refuses a limit that no wait can have: one that is too long, or that is no number. -/
def checkLimit : Value → Except Fault Unit
  | .null => .ok ()
  | .scalar seconds =>
    match Scalar.compare? longestWait seconds with
    | some .lt | some .eq => .error (.plain .overflow (.message (tooLong seconds)))
    | _ => .ok ()
  | other =>
    .error (.wrongType s!"'>' not supported between instances of '{other.typeName}' and 'int'")

/-- The answer to a wait that ended with these submissions unfinished: only a wait that has to be
made can have a wrong limit.  Such a wait is refused as soon as it is made, so what goes on before its
answer goes on before the wait. -/
def waitResult (unfinished : List Nat) (limit : Value) : Except Fault (List Nat) :=
  if unfinished.isEmpty then .ok [] else (checkLimit limit).map fun _ => unfinished

/-! ## Questions -/

/-- What the main thread asks its surroundings. -/
inductive Op (S : Type) where
  /-- An operation of the storage. -/
  | storage (op : Storage.Operation S)
  /-- A log entry. -/
  | log (entry : Log.Entry)
  /-- So many random bytes. -/
  | entropy (size : Int)
  /-- A new pool with so many workers, whose threads have a common name. -/
  | newPool (workers : Value) (label : String)
  /-- Hands a job to a pool, which numbers its submissions. -/
  | submit (pool : Nat) (job : Worker.Job S)
  /-- Waits until all these submissions are done or the limit is reached, and tells which are not
  done. -/
  | wait (pool : Nat) (submissions : List Nat) (limit : Value)
  /-- Takes a submission back, which works until it is started. -/
  | cancel (pool : Nat) (submission : Nat)
  /-- What a finished submission came to. -/
  | result (pool : Nat) (submission : Nat)
  /-- Takes no more jobs; may take the waiting ones back, and may wait for the running ones. -/
  | shutdown (pool : Nat) (waits : Bool) (cancelsQueued : Bool)
  /-- A new set of late workers. -/
  | newLate
  /-- Adds a worker to a set of late workers. -/
  | addLate (late : Nat) (index : Int)
  /-- The late workers of a set, in ascending order. -/
  | lateIndexes (late : Nat)
  /-- The run reaches a stage. -/
  | enter (stage : Stage)

/-- What each question answers. -/
def Op.Answer {S : Type} : Op S → Type
  | storage op => op.Answer
  | log _ => Unit
  | entropy _ => Except Fault ByteArray
  | newPool _ _ => Nat
  | submit _ _ => Nat
  | wait _ _ _ => Except Fault (List Nat)
  | cancel _ _ => Bool
  | result _ _ => Except Fault Outcome
  | shutdown _ _ _ => Unit
  | newLate => Nat
  | addLate _ _ => Unit
  | lateIndexes _ => List Int
  | enter _ => Unit

/-- The questions of the main thread. -/
def effects (S : Type) : Effects := ⟨Op S, Op.Answer⟩

/-- A program of the main thread. -/
abbrev Program (S : Type) (α : Type) := Prog (effects S) α

section
variable {S : Type}

/-- Is there an object or a directory? -/
def isPresent (path : String) : Program S (Except Fault Bool) :=
  .perform (E := effects S) (.storage (.isPresent path))

/-- Makes a directory. -/
def makeDirs (path : String) : Program S (Except Fault Unit) :=
  .perform (E := effects S) (.storage (.makeDirs path))

/-- Deletes an object. -/
def delete (path : String) : Program S (Except Fault Unit) :=
  .perform (E := effects S) (.storage (.delete path))

/-- Adds an entry to the log. -/
def log (entry : Log.Entry) : Program S Unit := .perform (E := effects S) (.log entry)

/-- So many random bytes. -/
def entropy (size : Int) : Program S (Except Fault ByteArray) :=
  .perform (E := effects S) (.entropy size)

/-- A new pool. -/
def newPool (workers : Value) (label : String) : Program S Nat :=
  .perform (E := effects S) (.newPool workers label)

/-- Hands a job to a pool. -/
def submit (pool : Nat) (job : Worker.Job S) : Program S Nat :=
  .perform (E := effects S) (.submit pool job)

/-- Waits for submissions up to a limit, and tells which are not done. -/
def wait (pool : Nat) (submissions : List Nat) (limit : Value) :
    Program S (Except Fault (List Nat)) :=
  .perform (E := effects S) (.wait pool submissions limit)

/-- Takes a submission back. -/
def cancel (pool submission : Nat) : Program S Bool :=
  .perform (E := effects S) (.cancel pool submission)

/-- What a finished submission came to. -/
def result (pool submission : Nat) : Program S (Except Fault Outcome) :=
  .perform (E := effects S) (.result pool submission)

/-- Closes a pool. -/
def shutdown (pool : Nat) (waits cancelsQueued : Bool) : Program S Unit :=
  .perform (E := effects S) (.shutdown pool waits cancelsQueued)

/-- A new set of late workers. -/
def newLate : Program S Nat := .perform (E := effects S) .newLate

/-- Adds a worker to a set of late workers. -/
def addLate (late : Nat) (index : Int) : Program S Unit :=
  .perform (E := effects S) (.addLate late index)

/-- The late workers of a set. -/
def lateIndexes (late : Nat) : Program S (List Int) :=
  .perform (E := effects S) (.lateIndexes late)

/-- The run reaches a stage. -/
def enter (stage : Stage) : Program S Unit := .perform (E := effects S) (.enter stage)

end

end Conductor
end StoreMeter
