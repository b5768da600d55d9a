import StoreMeter.Conductor
import StoreMeter.LateWorkers
import StoreMeter.Rehearsal.Backend
/-
# Rehearsal.World — clock, pools and late workers that follow a script

In a rehearsal a job runs when it is handed to its pool, unless the script says that its submission
hangs or stays queued.  A hung job counts as running and ends only when its pool is released; a
queued one never runs.  The clock shows a time and then moves by the next of its ticks.

A world may also have pools with threads of their own, which no script can hold up.
-/
namespace StoreMeter
namespace Rehearsal

/-- A clock that moves at every look. -/
structure Clock where
  time : Binary64 := Binary64.zero false
  ticks : List Binary64
  looks : Nat := 0

/-- The time, and the clock after the look. -/
def Clock.look (clock : Clock) : Binary64 × Clock :=
  let tick := (clock.ticks[clock.looks % clock.ticks.length]?).getD (Binary64.zero false)
  (clock.time, { clock with time := clock.time.add tick, looks := clock.looks + 1 })

/-- What became of a submission. -/
inductive Submission (S : Type) where
  | finished (result : Except Fault Outcome)
  | hung (job : Worker.Job S)
  | queued

/-- Everything around a run but its own program. -/
structure World (backend : Backend) where
  store : backend.State
  journal : Journal := {}
  clock : Clock
  /-- Do the pools have threads of their own?  Then the clock starts anew for every job, and no
  submission hangs or stays queued. -/
  threaded : Bool := false
  lates : List LateWorkers := []
  pools : List (List (Submission backend.Stream)) := []
  hang : List Nat := []
  queued : List Nat := []
  stage : Stage := .prepare

namespace World

variable {backend : Backend}

/-- The answer of the storage. -/
def askStorage (world : World backend) (op : Storage.Operation backend.Stream) :
    op.Answer × World backend :=
  let (reply, store, journal) := backend.answer op (world.store, world.journal)
  (reply, { world with store, journal })

/-- The world with one more log entry. -/
def addEntry (world : World backend) (entry : Log.Entry) : World backend :=
  { world with journal := world.journal.addEntry entry }

/-- The world with one more call. -/
def addCall (world : World backend) (call : Call) : World backend :=
  { world with journal := world.journal.addCall call }

/-- A set of late workers by its number. -/
def lateSet (world : World backend) (late : Nat) : LateWorkers := (world.lates[late]?).getD .nobody

/-- The world with a worker in a set of late workers. -/
def addLate (world : World backend) (late : Nat) (index : Int) : World backend :=
  { world with lates := world.lates.set late ((world.lateSet late).add index) }

/-! ## Workers -/

/-- The answer to a question of a worker. -/
def answerWorker (op : Worker.Op backend.Stream) (world : World backend) :
    op.Answer × World backend :=
  match op with
  | .storage op => world.askStorage op
  | .clock =>
    let (time, clock) := world.clock.look
    (time, { world with clock }.addCall .clock)
  | .log entry => ((), world.addEntry entry)
  | .isLate late index => ((world.lateSet late).contains index, world)

/-- Runs a program of a worker to its end. -/
def runJob {α : Type} (world : World backend) (job : Worker.Program backend.Stream α) :
    α × World backend :=
  let world :=
    if world.threaded then
      { world with clock := { world.clock with time := Binary64.zero false, looks := 0 } }
    else world
  job.runWith answerWorker world

/-! ## Pools -/

/-- Hands a job to a pool. -/
def submit (world : World backend) (pool : Nat) (job : Worker.Job backend.Stream) :
    Nat × World backend :=
  let submissions := (world.pools[pool]?).getD []
  let number := submissions.length
  let (submission, world) :=
    if !world.threaded && world.hang.contains number then (Submission.hung job, world)
    else if !world.threaded && world.queued.contains number then (Submission.queued, world)
    else
      let (result, world) := world.runJob job
      (Submission.finished result, world)
  (number, { world with pools := world.pools.set pool (submissions ++ [submission]) })

/-- What became of a submission. -/
def submission? (world : World backend) (pool submission : Nat) :
    Option (Submission backend.Stream) :=
  ((world.pools[pool]?).getD [])[submission]?

/-- Is a submission finished? -/
def isFinished (world : World backend) (pool submission : Nat) : Bool :=
  match world.submission? pool submission with
  | some (.finished _) => true
  | _ => false

/-- Runs the hung jobs among submissions, in their order; what they come to is dropped. -/
def releaseJobs (world : World backend) :
    List (Submission backend.Stream) → List (Submission backend.Stream) × World backend
  | [] => ([], world)
  | .hung job :: rest =>
    let (result, world) := world.runJob job
    let (rest, world) := releaseJobs world rest
    (.finished result :: rest, world)
  | submission :: rest =>
    let (rest, world) := releaseJobs world rest
    (submission :: rest, world)

/-- Runs the hung jobs of a pool. -/
def release (world : World backend) (pool : Nat) : World backend :=
  match world.pools[pool]? with
  | none => world
  | some submissions =>
    let (submissions, world) := world.releaseJobs submissions
    { world with pools := world.pools.set pool submissions }

/-- Runs the hung jobs of every pool. -/
def releaseAll (world : World backend) : World backend :=
  (List.range world.pools.length).foldl release world

/-- Refuses a number of threads that no pool can have. -/
def checkPool (world : World backend) (workers : Value) : Except Fault Unit :=
  if world.threaded then
    match workers with
    | .null => .ok ()
    | .scalar count =>
      if count.isNonPositive then .error (.value "max_workers must be greater than 0") else .ok ()
    | other =>
      .error (.wrongType
        s!"'<=' not supported between instances of '{other.typeName}' and 'int'")
  else .ok ()

/-- A new pool. -/
def newPool (world : World backend) (workers : Value) (label : String) : Nat × World backend :=
  (world.pools.length, { world with pools := world.pools ++ [[]] }.addCall (.pool workers label))

/-! ## The main thread -/

/-- So many random bytes, which here are sample data. -/
def entropy (world : World backend) (size : Int) : Except Fault ByteArray × World backend :=
  if size < 0 then (.error (.value "negative argument not allowed"), world)
  else (.ok (sample size.toNat), world.addCall (.entropy size))

/-- The answer to a question of the main thread. -/
def answerConductor (op : Conductor.Op backend.Stream) (world : World backend) :
    op.Answer × World backend :=
  match op with
  | .storage op => world.askStorage op
  | .log entry => ((), world.addEntry entry)
  | .entropy size => world.entropy size
  | .newPool workers label => world.newPool workers label
  | .submit pool job => world.submit pool job
  | .wait pool submissions limit =>
    let unfinished := submissions.filter fun submission => !world.isFinished pool submission
    (Conductor.waitResult unfinished limit, world)
  | .cancel pool submission =>
    (match world.submission? pool submission with | some .queued => true | _ => false, world)
  | .result pool submission =>
    (match world.submission? pool submission with
      | some (.finished result) => result
      | _ => .error (.runtime "not finished"), world)
  | .shutdown pool waits cancelsQueued =>
    let world := world.addCall (.shutdown waits cancelsQueued)
    ((), if waits then world.release pool else world)
  | .newLate => (world.lates.length, { world with lates := world.lates ++ [LateWorkers.nobody] })
  | .addLate late index => ((), world.addLate late index)
  | .lateIndexes late => ((world.lateSet late).indexes, world)
  | .enter stage => ((), { world with stage })

/-- Runs a program of the main thread to its end. -/
def run {α : Type} (world : World backend) (program : Conductor.Program backend.Stream α) :
    α × World backend :=
  program.runWith answerConductor world

/-- The world with an empty journal, and the journal that it had. -/
def takeJournal (world : World backend) : Journal × World backend :=
  (world.journal, { world with journal := {} })

end World
end Rehearsal
end StoreMeter
