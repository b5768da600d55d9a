import StoreMeter.LateWorkers
import StoreMeter.Run
/-
# Proofs.Concert.Machine — the main thread and its workers, one question at a time

The main thread of a run and the jobs of its workers are programs, and the operating system decides
whose question is answered next.  A `World` holds what they work on together: the storage, the
clock, the sets of late workers and the pools with their tasks.  A `Choice` is one decision: the
main thread gets an answer, a task is started, or a task that runs gets an answer.  `play` makes a
list of decisions, and a statement about every list of decisions is one about every interleaving.

The surroundings answer as freely as what is assumed about them allows.  A `Backend` says what the
storage may do and how the clock may move.  A wait may end with any submissions named as unfinished
as long as all that are unfinished are among them: they may have ended since the wait looked at
them.  And between its submission and its start a task may wait for any time, also while workers
are free.
-/
namespace StoreMeter
namespace Concert

/-- A storage with a state of its own, and a clock.  The fate of an operation picks one of the ways
in which the storage may answer. -/
structure Backend (S : Type) where
  State : Type
  Fate : Type
  answer : Fate → (op : Storage.Operation S) → State → op.Answer × State
  /-- May the clock show a time after the one that it showed last? -/
  ticks : Option Binary64 → Binary64 → Bool

/-! ## Worlds -/

/-- How far a task is. -/
inductive Status (S : Type) where
  | queued (job : Worker.Job S)
  | running (rest : Worker.Job S)
  | ended (result : Except Fault Outcome)
  | takenBack

namespace Status

variable {S : Type}

/-- Does a worker of the pool work on the task? -/
def isRunning : Status S → Bool
  | running _ => true
  | _ => false

/-- Has the task come to its end? -/
def isEnded : Status S → Bool
  | ended _ => true
  | _ => false

/-- Will nothing happen any more in the task? -/
def isOver : Status S → Bool
  | ended _ => true
  | takenBack => true
  | _ => false

theorem exists_of_isEnded {status : Status S} (ended : status.isEnded = true) :
    ∃ result, status = .ended result := by
  unfold isEnded at ended
  split at ended
  · exact ⟨_, rfl⟩
  · cases ended

/-- The task after the main thread has tried to take it back, and whether that worked. -/
def cancel : Status S → Bool × Status S
  | queued _ => (true, takenBack)
  | takenBack => (true, takenBack)
  | other => (false, other)

end Status

/-- A task of a pool. -/
structure Task (S : Type) where
  pool : Nat
  status : Status S

/-- What the main thread and the workers share. -/
structure Shared {S : Type} (B : Backend S) where
  store : B.State
  clock : Option Binary64 := none
  lates : List LateWorkers := []

/-- Everything that a run works on.  Tasks are numbered in the order of their submission. -/
structure World {S : Type} (B : Backend S) where
  shared : Shared B
  /-- The number of workers of each pool. -/
  pools : List Nat := []
  tasks : List (Task S) := []
  stage : Stage := .prepare
  /-- The random bytes that were drawn. -/
  drawn : List ByteArray := []

variable {S : Type} {B : Backend S}

namespace Shared

/-- Is a worker in one of the sets of late workers? -/
def isLate (shared : Shared B) (late : Nat) (index : Int) : Bool :=
  (shared.lates[late]?.getD .nobody).contains index

/-- The answer to a question of a worker. -/
def answer (fate : B.Fate) (time : Binary64) (shared : Shared B) :
    (op : Worker.Op S) → Option (op.Answer × Shared B)
  | .storage op =>
    let (reply, store) := B.answer fate op shared.store
    some (reply, { shared with store })
  | .clock =>
    if B.ticks shared.clock time then some (time, { shared with clock := some time }) else none
  | .log _ => some ((), shared)
  | .isLate late index => some (shared.isLate late index, shared)

end Shared

namespace World

/-- The status of a task, if there is a task of this number. -/
def status? (w : World B) (k : Nat) : Option (Status S) := w.tasks[k]?.map Task.status

/-- The world with another status of a task. -/
def setStatus (w : World B) (k : Nat) (status : Status S) : World B :=
  { w with tasks := w.tasks.modify k fun task => { task with status } }

/-- The number of tasks of a pool that its workers work on. -/
def busy (w : World B) (pool : Nat) : Nat :=
  w.tasks.countP fun task => task.pool == pool && task.status.isRunning

/-! ## What workers do -/

/-- A worker takes a task up, if its pool has one to spare. -/
def start (w : World B) (k : Nat) : Option (World B) :=
  match w.tasks[k]? with
  | some ⟨pool, .queued job⟩ =>
    if w.busy pool < w.pools[pool]?.getD 0 then some (w.setStatus k (.running job)) else none
  | _ => none

/-- A task that is worked on goes one question further, or ends. -/
def work (w : World B) (k : Nat) (fate : B.Fate) (time : Binary64) : Option (World B) :=
  match w.status? k with
  | some (.running (.done result)) => some (w.setStatus k (.ended result))
  | some (.running (.ask op next)) =>
    (w.shared.answer fate time op).map fun (reply, shared) =>
      { w with shared }.setStatus k (.running (next reply))
  | _ => none

/-! ## What the main thread does -/

/-- The world with another state of the storage. -/
def withStore (w : World B) (store : B.State) : World B := { w with shared.store := store }

/-- The world with the run at another stage. -/
def enter (w : World B) (stage : Stage) : World B := { w with stage }

/-- The world with one more task. -/
def submit (w : World B) (pool : Nat) (job : Worker.Job S) : World B :=
  { w with tasks := w.tasks ++ [⟨pool, .queued job⟩] }

/-- The world with one more late worker. -/
def addLate (w : World B) (late : Nat) (index : Int) : World B :=
  { w with shared.lates := w.shared.lates.modify late (·.add index) }

/-- The world after all waiting tasks of a pool have been taken back. -/
def takeBack (w : World B) (pool : Nat) : World B :=
  { w with
    tasks := w.tasks.map fun task =>
      if task.pool = pool then { task with status := task.status.cancel.2 } else task }

/-- The number of workers of a pool of a given size. -/
def capacity : Value → Nat
  | .scalar (.int n) => n.toNat
  | _ => 0

/-- Are these submissions a way to tell which of the others are not done? -/
def tells (w : World B) (submissions unfinished : List Nat) (limit : Value) : Bool :=
  unfinished.all submissions.contains &&
    (submissions.all fun n => unfinished.contains n || (w.status? n).any Status.isEnded) &&
    match limit with
    | .null => unfinished.isEmpty
    | _ => true

/-- The answer to a question of the main thread, if it can be answered now. -/
def answer (fate : B.Fate) (random : Except Fault ByteArray) (unfinished : List Nat)
    (w : World B) : (op : Conductor.Op S) → Option (op.Answer × World B)
  | .storage op =>
    let (reply, store) := B.answer fate op w.shared.store
    some (reply, w.withStore store)
  | .log _ => some ((), w)
  | .entropy size =>
    match random with
    | .ok bytes =>
      if bytes.size = size then some (.ok bytes, { w with drawn := w.drawn ++ [bytes] }) else none
    | .error fault => some (.error fault, w)
  | .newPool workers _ => some (w.pools.length, { w with pools := w.pools ++ [capacity workers] })
  | .submit pool job => some (w.tasks.length, w.submit pool job)
  | .wait _ submissions limit =>
    if w.tells submissions unfinished limit then
      some (Conductor.waitResult unfinished limit, w)
    else none
  | .cancel _ k =>
    (w.status? k).map fun status => (status.cancel.1, w.setStatus k status.cancel.2)
  | .result _ k =>
    match w.status? k with
    | some (.ended result) => some (result, w)
    | _ => none
  | .shutdown pool waits cancelsQueued =>
    let w := if cancelsQueued then w.takeBack pool else w
    if waits && w.tasks.any fun task => task.pool == pool && !task.status.isOver then none
    else some ((), w)
  | .newLate =>
    some (w.shared.lates.length, { w with shared.lates := w.shared.lates ++ [.nobody] })
  | .addLate late index => some ((), w.addLate late index)
  | .lateIndexes late => some ((w.shared.lates[late]?.getD .nobody).indexes, w)
  | .enter stage => some ((), w.enter stage)

end World

/-! ## Decisions -/

/-- One decision on what happens next: the main thread gets an answer, a task is started, or a task
goes on.  With an answer come the fate of an operation on the storage, the bytes that are drawn and
the submissions that a wait names, or the time that the clock shows. -/
inductive Choice (B : Backend S) where
  | conduct (fate : B.Fate) (random : Except Fault ByteArray) (unfinished : List Nat)
  | start (k : Nat)
  | work (k : Nat) (fate : B.Fate) (time : Binary64)

/-- What is left of the main thread, and the world. -/
structure State (B : Backend S) (α : Type) where
  main : Conductor.Program S α
  world : World B

variable {α : Type}

/-- The state after one decision, if the decision is possible. -/
def move : Choice B → State B α → Option (State B α)
  | .conduct fate random unfinished, ⟨main, w⟩ =>
    match main with
    | .done _ => none
    | .ask op next =>
      (w.answer fate random unfinished op).map fun (reply, w) => ⟨next reply, w⟩
  | .start k, ⟨main, w⟩ => (w.start k).map fun w => ⟨main, w⟩
  | .work k fate time, ⟨main, w⟩ => (w.work k fate time).map fun w => ⟨main, w⟩

/-- The state after a list of decisions, if all of them are possible. -/
def play : List (Choice B) → State B α → Option (State B α)
  | [], s => some s
  | choice :: rest, s => (move choice s).bind (play rest)

/-- A whole run before its first question. -/
def opening (plan : Plan) (store : B.State) : State B (Except Fault Tally × Session) :=
  ⟨(Run.whole plan).run.run { late := 0 }, { shared := { store } }⟩

/-- The report of a run, if it is done and came to one. -/
def State.report? (s : State B (Except Fault Tally × Session)) : Option Tally :=
  match s.main with
  | .done (.ok report, _) => some report
  | _ => none

theorem State.done_of_report? {s : State B (Except Fault Tally × Session)} {report : Tally}
    (h : s.report? = some report) : ∃ session, s.main = .done (.ok report, session) := by
  unfold report? at h
  split at h
  · rename_i found session done
    cases h
    exact ⟨session, done⟩
  · cases h

/-! ## A small plan -/

/-- One worker with one byte, and one second for a phase. -/
def oneByte : Plan where
  storageName := "memory"
  settings := { path := "target/", threads := .int 1, ioSize := .text "1", timeout := .int 1 }
  bufferSize := 1

end Concert
end StoreMeter
