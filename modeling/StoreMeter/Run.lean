import StoreMeter.Phase
import StoreMeter.Tally
/-
# Run — prepare, write, read, clean up

A run measures how fast a storage takes and gives data with a number of workers at once.  It checks
its settings before it touches the storage, writes the objects of all workers, reads them back and
deletes them.  Its report is the tally of both phases.

The stages of a run are told to the surroundings (`Conductor.enter`).  What a run keeps between its
steps is a `Session`; the steps can also be taken one by one.
-/
namespace StoreMeter

/-- A run before it starts. -/
structure Plan where
  storageName : String
  settings : Settings
  poolSize : Option Int := none
  bufferSize : Int := defaultBufferSize

/-- What a run keeps between its steps. -/
structure Session where
  /-- The bytes for each worker, once the settings are checked. -/
  size : Option Nat := none
  /-- The set of late writers. -/
  late : Nat
  /-- The pool of the last whole run. -/
  pool : Option Nat := none

namespace Run

variable {S : Type}

/-- A step of a run: it may fail, and it keeps the session up to date in any case. -/
abbrev Step (S : Type) (α : Type) := ExceptT Fault (StateT Session (Prog (Conductor.effects S))) α

/-- A program of the main thread as a step. -/
def lift {α : Type} (program : Conductor.Program S α) : Step S α :=
  ExceptT.lift (StateT.lift program)

/-- A program of the main thread that may fail as a step. -/
def attempt {α : Type} (program : Conductor.Program S (Except Fault α)) : Step S α :=
  ExceptT.mk (StateT.lift program)

/-- An entry about a run. -/
def entry (level : Log.Level) (event : String) (fields : List (String × Value)) : Log.Entry :=
  ⟨level, "bench", event, fields, false⟩

/-! ## The stages -/

/-- The bytes for each worker, if a run of this plan is possible. -/
def check (plan : Plan) : Except Fault Nat := do
  if plan.bufferSize ≤ 0 then
    throw (.configuration s!"Buffer size must be positive, got {plan.bufferSize}")
  match plan.poolSize with
  | some size =>
    if size ≤ 0 then throw (.configuration s!"Pool size must be positive, got {size}")
  | none => pure ()
  plan.settings.checked

/-- Checks the plan before any question to the storage. -/
def prepare (plan : Plan) : Step S Unit := do
  lift (Conductor.enter .prepare)
  let late ← lift Conductor.newLate
  modify fun session => { session with late }
  match check plan with
  | .ok size => modify fun session => { session with size := some size }
  | .error fault =>
    if fault.isConfiguration then
      lift (Conductor.enter .failed)
      lift (Conductor.log
        (entry .error "Invalid benchmark parameters" [("error", .text fault.text)]))
    throw fault

/-- The bytes for each worker, which are known after the preparation. -/
def sizeInBytes : Step S Nat := do
  match (← get).size with
  | some size => return size
  | none => throw (.runtime "prepare() must be called before running phases")

/-- One phase of the run on a pool. -/
def phase (plan : Plan) (mode : Mode) (pool : Nat) : Step S (List Outcome) := do
  let size ← sizeInBytes
  let session ← get
  attempt (Phase.run plan.settings mode pool size plan.bufferSize (some session.late))

/-- The write phase. -/
def write (plan : Plan) (pool : Nat) : Step S Tally := do
  lift (Conductor.enter .writePhase)
  let outcomes ← phase plan .write pool
  let late ← lift (Conductor.lateIndexes (← get).late)
  if !late.isEmpty then
    lift (Conductor.log (entry .warning "Writers still running after timeout"
      [("workers", .list (late.map Value.int))]))
  return Tally.ofOutcomes outcomes

/-- The read phase. -/
def read (plan : Plan) (pool : Nat) : Step S Tally := do
  lift (Conductor.enter .readPhase)
  let outcomes ← phase plan .read pool
  return Tally.ofOutcomes outcomes

/-- Deletes one object; the result holds its path if that failed with a failure of the system. -/
def deleteObject (path : String) : Step S (List String) := do
  match ← lift (Conductor.delete path) with
  | .ok () => return []
  | .error fault =>
    if fault.isAbsent then
      lift (Conductor.log (entry .debug "Benchmark object already absent" [("path", .text path)]))
      return []
    else if fault.isSystem then
      lift (Conductor.log (entry .warning "Failed to delete benchmark object"
        [("path", .text path), ("error", .text fault.text)]))
      return [path]
    else throw fault

/-- Deletes the objects of all workers, and returns the paths where that failed. -/
def cleanup (plan : Plan) : Step S (List String) := do
  lift (Conductor.enter .cleanup)
  let paths ← ExceptT.mk (pure plan.settings.objectPaths)
  let failed ← paths.mapM deleteObject
  return failed.flatten

/-- The size of the pool of a whole run: as planned, or one thread for each worker. -/
def poolWorkers (plan : Plan) : Value :=
  match plan.poolSize with
  | some size => if size = 0 then plan.settings.threads else .int size
  | none => plan.settings.threads

/-- Both phases on one pool, which is closed in any case, without waiting for late workers. -/
def phases (plan : Plan) (pool : Nat) : Step S (Tally × Tally) := do
  let result ← ExceptT.lift (ExceptT.run do
    let written ← write plan pool
    let readBack ← read plan pool
    return (written, readBack))
  lift (Conductor.shutdown pool false true)
  ExceptT.mk (pure result)

/-- A whole run; the report is the tally of both phases. -/
def whole (plan : Plan) : Step S Tally := do
  prepare plan
  lift (Conductor.log (entry .info "Benchmark started"
    (("storage", .text plan.storageName) :: plan.settings.fields)))
  let pool ← lift (Conductor.newPool (poolWorkers plan) "bench-io-thread")
  modify fun session => { session with pool := some pool }
  let (written, readBack) ← phases plan pool
  let _ ← cleanup plan
  let report := written.merge readBack
  lift (Conductor.enter .done)
  lift (Conductor.log (entry .info "Benchmark finished"
    [("points", .nat report.points.length), ("errors", .nat report.errors.length)]))
  return report

/-- Waits for the workers that were late in the last whole run. -/
def join : Step S Unit := do
  match (← get).pool with
  | some pool => lift (Conductor.shutdown pool true false)
  | none => pure ()

end Run
end StoreMeter
