import StoreMeter.LateWorkers
import StoreMeter.Live.Storage
import StoreMeter.Run
/-
# Live.Threads — pools of threads for a real run

A pool keeps its submissions in one table behind a reference, and every change of the table is one
step of that reference.  A thread of the pool takes the first job that waits, runs it and looks for
the next; it ends when no job waits.  A submission starts another thread as long as the pool has
fewer than it may have, so no job waits while a thread is free.
-/
namespace StoreMeter
namespace Live

/-- What became of a submission. -/
inductive Submission (S : Type) where
  | waiting (job : Worker.Job S)
  | running
  | finished (result : Except Fault Outcome)
  | takenBack

/-- Is the submission over? -/
def Submission.isOver {S : Type} : Submission S → Bool
  | finished _ | takenBack => true
  | waiting _ | running => false

/-- The submissions of a pool by their numbers, and how many of its threads are at work. -/
structure Table (S : Type) where
  submissions : Array (Submission S) := #[]
  threads : Nat := 0
  /-- How many threads the pool ever had. -/
  named : Nat := 0

namespace Table

variable {S : Type}

/-- Adds a job.  The result holds its number, and the number of a thread to start for it if the
pool may have one more. -/
def add (table : Table S) (limit : Nat) (job : Worker.Job S) : (Nat × Option Nat) × Table S :=
  let number := table.submissions.size
  let table := { table with submissions := table.submissions.push (.waiting job) }
  if table.threads < limit then
    ((number, some table.named),
      { table with threads := table.threads + 1, named := table.named + 1 })
  else ((number, none), table)

/-- The first job that waits, with its number. -/
def firstWaiting (table : Table S) : Option (Nat × Worker.Job S) :=
  table.submissions.toList.zipIdx.findSome? fun
    | (.waiting job, number) => some (number, job)
    | _ => none

/-- Takes the first job that waits; a thread that finds none ends. -/
def take (table : Table S) : Option (Nat × Worker.Job S) × Table S :=
  match table.firstWaiting with
  | some (number, job) =>
    (some (number, job),
      { table with submissions := table.submissions.setIfInBounds number .running })
  | none => (none, { table with threads := table.threads - 1 })

/-- Writes down what a job came to. -/
def finish (table : Table S) (number : Nat) (result : Except Fault Outcome) : Table S :=
  { table with submissions := table.submissions.setIfInBounds number (.finished result) }

/-- Takes a submission back, if it waits. -/
def cancel (table : Table S) (number : Nat) : Bool × Table S :=
  match table.submissions[number]? with
  | some (.waiting _) =>
    (true, { table with submissions := table.submissions.setIfInBounds number .takenBack })
  | _ => (false, table)

/-- Takes all submissions back that wait. -/
def cancelAll (table : Table S) : Table S :=
  { table with
    submissions := table.submissions.map fun
      | .waiting _ => .takenBack
      | other => other }

/-- The submissions among these that are not over. -/
def unfinished (table : Table S) (numbers : List Nat) : List Nat :=
  numbers.filter fun number => !(table.submissions[number]?).any (·.isOver)

/-- What a submission came to. -/
def result (table : Table S) (number : Nat) : Except Fault Outcome :=
  match table.submissions[number]? with
  | some (.finished result) => result
  | _ => .error (.runtime "not finished")

end Table

/-- A pool of threads. -/
structure Pool (S : Type) where
  limit : Nat
  label : String
  table : IO.Ref (Table S)

/-- How a job is run on a thread of a name. -/
abbrev Runner (S : Type) := String → Worker.Job S → BaseIO (Except Fault Outcome)

namespace Pool

variable {S : Type}

/-- A pool of so many threads. -/
def make (limit : Nat) (label : String) : BaseIO (Pool S) :=
  return { limit, label, table := ← IO.mkRef {} }

/-- The work of one thread: job after job, until no job waits. -/
partial def work (pool : Pool S) (run : Runner S) (thread : String) : BaseIO Unit := do
  match ← pool.table.modifyGet Table.take with
  | none => return
  | some (number, job) =>
    let result ← run thread job
    pool.table.modify (·.finish number result)
    work pool run thread

/-- Hands a job to the pool. -/
def submit (pool : Pool S) (run : Runner S) (job : Worker.Job S) : BaseIO Nat := do
  let (number, thread) ← pool.table.modifyGet (·.add pool.limit job)
  match thread with
  | none => return number
  | some thread =>
    let _ ← BaseIO.asTask (pool.work run s!"{pool.label}_{thread}") .dedicated
    return number

/-- Waits until these submissions are over, or as long as it may go on. -/
partial def waitFor (pool : Pool S) (numbers : List Nat) (goOn : BaseIO Bool) :
    BaseIO (List Nat) := do
  let unfinished := (← pool.table.get).unfinished numbers
  if unfinished.isEmpty then return []
  else if ← goOn then
    IO.sleep 1
    waitFor pool numbers goOn
  else return unfinished

/-- Waits until every submission is over. -/
def join (pool : Pool S) : BaseIO Unit := do
  let count := (← pool.table.get).submissions.size
  let _ ← pool.waitFor (List.range count) (pure true)

end Pool

/-! ## A run -/

/-- The time in seconds since a fixed moment. -/
def clock : BaseIO Binary64 := return Binary64.ofQuotient (← IO.monoNanosNow) 1000000000

/-- Everything around a run. -/
structure World (S : Type) where
  storage : (op : Storage.Operation S) → BaseIO op.Answer
  /-- Adds an entry of a thread to the log. -/
  log : String → Log.Entry → BaseIO Unit
  lates : IO.Ref (Array LateWorkers)
  pools : IO.Ref (Array (Pool S))

namespace World

variable {S : Type}

/-- The thread that the program starts on. -/
def mainThread : String := "MainThread"

/-- The answer to a question of a worker. -/
def answerWorker (world : World S) (thread : String) : (op : Worker.Op S) → BaseIO op.Answer
  | .storage op => world.storage op
  | .clock => clock
  | .log entry => world.log thread entry
  | .isLate late index => return ((← world.lates.get)[late]?).any (·.contains index)

/-- Runs a job on a thread. -/
def runJob (world : World S) : Runner S := fun thread job => job.runIn (world.answerWorker thread)

/-- May a wait that began at a time go on? -/
def mayWait (limit : Value) (start : Binary64) : BaseIO Bool := do
  match limit with
  | .scalar seconds =>
    let elapsed := (← clock).sub start
    return Scalar.compare? (.real elapsed) seconds == some .lt
  | _ => return true

/-- Waits for submissions up to a limit, if there is anything to wait for. -/
def wait (pool : Pool S) (submissions : List Nat) (limit : Value) :
    BaseIO (Except Fault (List Nat)) := do
  match Conductor.waitResult ((← pool.table.get).unfinished submissions) limit with
  | .ok [] => return .ok []
  | .error fault => return .error fault
  | .ok _ => return .ok (← pool.waitFor submissions (mayWait limit (← clock)))

/-- A pool with so many threads, numbered among the pools. -/
def newPool (world : World S) (workers : Value) (label : String) : BaseIO Nat := do
  let limit := match workers with
    | .scalar (.int n) => n.toNat
    | _ => 1
  let pool ← Pool.make limit label
  world.pools.modifyGet fun pools => (pools.size, pools.push pool)

/-- A step on a pool; a pool that does not exist has nothing to do. -/
def onPool {α : Type} (world : World S) (pool : Nat) (otherwise : α)
    (step : Pool S → BaseIO α) : BaseIO α := do
  match (← world.pools.get)[pool]? with
  | none => return otherwise
  | some pool => step pool

/-- The answer to a question of the main thread. -/
def answer (world : World S) : (op : Conductor.Op S) → BaseIO op.Answer
  | .storage op => world.storage op
  | .log entry => world.log mainThread entry
  | .entropy size => onPath none (IO.getRandomBytes size.toNat.toUSize)
  | .newPool workers label => world.newPool workers label
  | .submit pool job => world.onPool pool (0 : Nat) (·.submit world.runJob job)
  | .wait pool submissions limit =>
    world.onPool pool (.ok []) fun pool => wait pool submissions limit
  | .cancel pool submission =>
    world.onPool pool false (·.table.modifyGet (·.cancel submission))
  | .result pool submission =>
    world.onPool pool (.error (.runtime "not finished")) fun pool => do
      return (← pool.table.get).result submission
  | .shutdown pool waits cancelsQueued =>
    world.onPool pool () fun pool => do
      if cancelsQueued then pool.table.modify Table.cancelAll
      if waits then pool.join
  | .newLate => world.lates.modifyGet fun lates => (lates.size, lates.push .nobody)
  | .addLate late index => world.lates.modify (·.modify late (·.add index))
  | .lateIndexes late => return (((← world.lates.get)[late]?).getD .nobody).indexes
  | .enter _ => return

/-- Waits for every job of every pool. -/
def joinAll (world : World S) : BaseIO Unit := do
  (← world.pools.get).forM Pool.join

end World

/-- Makes a whole run of a plan on a storage, and returns its result and what is left to wait for:
late writers go on after the run. -/
def wholeRun (backend : Backend) (log : String → Log.Entry → BaseIO Unit) (plan : Plan) :
    BaseIO (Except Fault Tally × BaseIO Unit) := do
  let world : World backend.Stream := {
    storage := backend.answer
    log
    lates := ← IO.mkRef #[.nobody]
    pools := ← IO.mkRef #[] }
  let (result, _) ← ((Run.whole plan).run.run { late := 0 }).runIn world.answer
  return (result, world.joinAll)

end Live
end StoreMeter
