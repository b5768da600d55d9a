import StoreMeter.Proofs.Checks
import StoreMeter.Proofs.Concert.Runs
/-
# Proofs.Concert.Outline — what is known at each point of a run

A whole run asks its questions in one fixed order: it sees to the target of a phase, draws the
payload, submits the jobs, waits, collects, and after both phases it deletes the objects.  `Point`
names the places between two questions, with what the run has come to by then.  An `Outline` gives
an assertion for each point.  Its fields say that no step of a task breaks an assertion, and that
each answer leads from one assertion to the next; they speak of worlds only, not of programs.

What holds of every run is told by `Layout`: how many tasks there are, where they belong, and that
whatever a wait did not name as unfinished has ended.
-/
namespace StoreMeter
namespace Concert

/-! ## Points -/

/-- What a run has come to so far: its payload, and the outcomes of both phases. -/
structure Progress where
  payload : ByteArray := .empty
  writes : List Outcome := []
  reads : List Outcome := []

namespace Progress

/-- The outcomes of a phase. -/
def outcomes (sofar : Progress) : Mode → List Outcome
  | .write => sofar.writes
  | .read => sofar.reads

/-- More outcomes of a phase, behind those so far. -/
def extend (sofar : Progress) (more : List Outcome) : Mode → Progress
  | .write => { sofar with writes := sofar.writes ++ more }
  | .read => { sofar with reads := sofar.reads ++ more }

/-- One more outcome of a phase. -/
def add (sofar : Progress) (outcome : Outcome) (mode : Mode) : Progress :=
  sofar.extend [outcome] mode

@[simp]
theorem outcomes_extend (sofar : Progress) (more : List Outcome) (mode : Mode) :
    (sofar.extend more mode).outcomes mode = sofar.outcomes mode ++ more := by
  cases mode <;> rfl

@[simp]
theorem extend_nil (sofar : Progress) (mode : Mode) : sofar.extend [] mode = sofar := by
  cases mode <;> simp [extend]

@[simp]
theorem payload_add (sofar : Progress) (outcome : Outcome) (mode : Mode) :
    (sofar.add outcome mode).payload = sofar.payload := by
  cases mode <;> rfl

theorem extend_add (sofar : Progress) (more : List Outcome) (outcome : Outcome) (mode : Mode) :
    (sofar.extend more mode).add outcome mode = sofar.extend (more ++ [outcome]) mode := by
  cases mode <;> simp [add, extend]

/-- What holds of each outcome so far, which belongs to the worker of its place. -/
def Each (came : Mode → Nat → Outcome → Prop) (sofar : Progress) : Prop :=
  ∀ mode index o, (sofar.outcomes mode)[index]? = some o → came mode index o

theorem Each.mono {came came' : Mode → Nat → Outcome → Prop} {sofar : Progress}
    (weaker : ∀ mode index o, came mode index o → came' mode index o) (h : sofar.Each came) :
    sofar.Each came' :=
  fun mode index o found => weaker mode index o (h mode index o found)

theorem Each.add {came : Mode → Nat → Outcome → Prop} {sofar : Progress} (h : sofar.Each came)
    {mode : Mode} {index : Nat} {o : Outcome} (turn : (sofar.outcomes mode).length = index)
    (here : came mode index o) : (sofar.add o mode).Each came := by
  subst turn
  intro other place found there
  by_cases same : other = mode
  · subst same
    rw [Progress.add, outcomes_extend] at there
    -- the place is one of before, the new one, or none
    rcases Nat.lt_trichotomy place (sofar.outcomes other).length with below | rfl | above
    · rw [List.getElem?_append_left below] at there
      exact h other place found there
    · rw [List.getElem?_append_right (Nat.le_refl _), Nat.sub_self] at there
      cases there
      exact here
    · rw [List.getElem?_eq_none (by simp; omega)] at there
      cases there
  · have untouched : (sofar.add o mode).outcomes other = sofar.outcomes other := by
      cases mode <;> cases other <;> first | rfl | exact absurd rfl same
    rw [untouched] at there
    exact h other place found there

end Progress

/-- The places between two questions of a run. -/
inductive Point where
  /-- The target of a phase is looked at. -/
  | target (mode : Mode) (sofar : Progress)
  /-- It is known whether the target is there. -/
  | looked (mode : Mode) (sofar : Progress) (present : Bool)
  /-- So many jobs are submitted. -/
  | placing (mode : Mode) (sofar : Progress) (jobs : Nat)
  /-- The wait is over and named these submissions; outcomes are collected. -/
  | taking (mode : Mode) (sofar : Progress) (unfinished : List Nat)
  /-- The next submission in turn was named; it could be taken back or not. -/
  | missing (mode : Mode) (sofar : Progress) (unfinished : List Nat) (cancelled : Bool)
  /-- The pool is closed. -/
  | closing (sofar : Progress)
  /-- So many objects are deleted. -/
  | clearing (sofar : Progress) (objects : Nat)
  /-- The run is done. -/
  | finished (sofar : Progress)

/-- The outcome of a worker whose task has ended. -/
def endedAs (mode : Mode) (index : Nat) : Except Fault Outcome → Outcome
  | .ok outcome => outcome
  | .error fault => Outcome.failure index mode (Phase.crashMessage index fault)

/-- The number of the first submission of a phase. -/
def first (workers : Nat) : Mode → Nat
  | .write => 0
  | .read => workers

namespace Point

/-- What the run has come to at a point. -/
def sofar : Point → Progress
  | target _ sofar | looked _ sofar _ | placing _ sofar _ | taking _ sofar _ | missing _ sofar _ _
  | closing sofar | clearing sofar _ | finished sofar => sofar

/-- The number of tasks that there are at a point of a run with so many workers. -/
def tasks (workers : Nat) : Point → Nat
  | target mode _ | looked mode _ _ => first workers mode
  | placing mode _ jobs => first workers mode + jobs
  | taking mode _ _ | missing mode _ _ _ => first workers mode + workers
  | closing _ | clearing _ _ | finished _ => workers + workers

/-- Is the task of this number done by the word of the last wait? -/
def Done (workers : Nat) : Point → Nat → Prop
  | taking mode _ unfinished, k | missing mode _ unfinished _, k =>
    first workers mode ≤ k ∧ k < first workers mode + workers ∧ k ∉ unfinished
  | _, _ => False

end Point

/-! ## Runs of one plan -/

/-- A plan that can be run, with a storage as it is before. -/
structure Piece {S : Type} (B : Backend S) where
  plan : Plan
  store : B.State
  size : Nat
  workers : Nat
  checked : Run.check plan = .ok size
  counted : plan.settings.workerCount = .ok workers

/-- A plan that can be run has a piece. -/
theorem Piece.of_checked {S : Type} {B : Backend S} {plan : Plan} {size : Nat}
    (checked : Run.check plan = .ok size) (store : B.State) :
    ∃ piece : Piece B, piece.plan = plan ∧ piece.store = store ∧ piece.size = size := by
  obtain ⟨n, threads, -⟩ := (Run.check_eq_ok.1 checked).threads
  exact ⟨⟨plan, store, size, n.toNat, checked, Settings.workerCount_of_threads threads⟩, rfl, rfl, rfl⟩

variable {S : Type} {B : Backend S}

namespace Piece

variable (piece : Piece B)

theorem valid : piece.plan.Valid piece.size := Run.check_eq_ok.1 piece.checked

theorem threads : piece.plan.settings.threads = .scalar (.int piece.workers) ∧ 0 < piece.workers := by
  obtain ⟨n, given, positive⟩ := piece.valid.threads
  have counted := piece.counted
  rw [Settings.workerCount_of_threads given, Except.ok.injEq] at counted
  have same : (piece.workers : Int) = n := by omega
  rw [same]
  exact ⟨given, by omega⟩

/-- The job of a worker in a phase. -/
def job (sofar : Progress) : Mode → Nat → Worker.Job S
  | .write, index => Phase.writeJob piece.plan.settings piece.size sofar.payload (some 0) index
  | .read, index =>
    Phase.readJob piece.plan.settings piece.size piece.plan.bufferSize (some 0) index

/-- The submissions of a phase. -/
def submissions (mode : Mode) : List Nat :=
  (List.range piece.workers).map (first piece.workers mode + ·)

/-- The outcome of a worker that is not done in time. -/
def timedOut (mode : Mode) (index : Nat) : Outcome :=
  Outcome.failure index mode (Phase.timeoutMessage index mode piece.plan.settings.timeout)

/-- The world when the target is looked at for the first time. -/
def start : World B where
  shared := { store := piece.store, lates := [.nobody] }
  pools := [World.capacity (Run.poolWorkers piece.plan)]
  stage := .writePhase

end Piece

/-- What holds of every run at a point. -/
structure Layout (piece : Piece B) (pt : Point) (w : World B) : Prop where
  tasks : w.tasks.length = pt.tasks piece.workers
  lates : w.shared.lates.length = 1
  pools : w.pools = [World.capacity (Run.poolWorkers piece.plan)]
  pool : ∀ task ∈ w.tasks, task.pool = 0
  done : ∀ k, pt.Done piece.workers k → ∃ result, w.status? k = some (.ended result)

/-! ## Outlines -/

/-- The end of a question to a storage: a value leads on, and a failure only if the run may fail. -/
def Leads {α : Type} (fails : Prop) (on : α → Prop) : Except Fault α → Prop
  | .ok a => on a
  | .error _ => fails

theorem leads_anyway {α : Type} {on : α → Prop} {reply : Except Fault α} (h : ∀ a, on a) :
    Leads True on reply := by
  cases reply with
  | ok a => exact h a
  | error fault => trivial

/-- The run is at a point: what holds of every run there, and the assertion. -/
structure Here (piece : Piece B) (At : Point → World B → Prop) (pt : Point) (w : World B) : Prop where
  layout : Layout piece pt w
  holds : At pt w

/-- An assertion for each point of a run, kept by all tasks, and led from point to point by the
answers that the main thread gets.  `fails` says whether the run may end with a failure. -/
structure Outline (piece : Piece B) (terms : Terms B) (fails : Prop) (At : Point → World B → Prop) :
    Prop where
  /-- No step of a task breaks the assertion of a point. -/
  stable {pt : Point} {w w' : World B} (here : Here piece At pt w) (moves : w.Moves w') : At pt w'
  start : At (.target .write {}) piece.start
  /-- The storage says whether the target is there. -/
  look {mode : Mode} {sofar : Progress} {w : World B} {fate : B.Fate}
    {reply : Except Fault Bool} {store : B.State} (here : Here piece At (.target mode sofar) w)
    (answer : B.answer fate (.isPresent piece.plan.settings.path) w.shared.store = (reply, store)) :
    Leads fails (fun present => At (.looked mode sofar present) (w.withStore store)) reply
  /-- The storage makes the target, or does not. -/
  make {sofar : Progress} {w : World B} {fate : B.Fate} {reply : Except Fault Unit}
    {store : B.State} (here : Here piece At (.looked .write sofar false) w)
    (answer : B.answer fate (.makeDirs piece.plan.settings.path) w.shared.store = (reply, store)) :
    Leads fails (fun _ => At (.looked .write sofar true) (w.withStore store)) reply
  /-- There is nothing to read where the target is missing. -/
  lost {sofar : Progress} {w : World B} (here : Here piece At (.looked .read sofar false) w) : fails
  /-- The bytes for the writers are drawn. -/
  draw {sofar : Progress} {w : World B} {random : Except Fault ByteArray} {unfinished : List Nat}
    (here : Here piece At (.looked .write sofar true) w)
    (permitted : terms.permits random unfinished) :
    Leads fails (fun payload => (payload.size : Int) = piece.plan.bufferSize →
      At (.placing .write { sofar with payload } 0) { w with drawn := w.drawn ++ [payload] }) random
  /-- Readers need no bytes. -/
  keep {sofar : Progress} {w : World B} (here : Here piece At (.looked .read sofar true) w) :
    At (.placing .read sofar 0) w
  /-- A job is handed out. -/
  submit {mode : Mode} {sofar : Progress} {jobs : Nat} {w : World B} (more : jobs < piece.workers)
    (here : Here piece At (.placing mode sofar jobs) w) :
    At (.placing mode sofar (jobs + 1)) (w.submit 0 (piece.job sofar mode jobs))
  /-- The wait is over, and names the submissions that are not done. -/
  wait {mode : Mode} {sofar : Progress} {w : World B} {random : Except Fault ByteArray}
    {unfinished : List Nat} (here : Here piece At (.placing mode sofar piece.workers) w)
    (permitted : terms.permits random unfinished)
    (tells : w.tells (piece.submissions mode) unfinished piece.plan.settings.timeout = true) :
    Leads fails (fun unfinished => At (.taking mode sofar unfinished) w)
      (Conductor.waitResult unfinished piece.plan.settings.timeout)
  /-- A submission that was not named has ended with its result. -/
  take {mode : Mode} {sofar : Progress} {unfinished : List Nat} {w : World B} {index : Nat}
    {result : Except Fault Outcome} (turn : (sofar.outcomes mode).length = index)
    (more : index < piece.workers) (known : first piece.workers mode + index ∉ unfinished)
    (here : Here piece At (.taking mode sofar unfinished) w)
    (ended : w.status? (first piece.workers mode + index) = some (.ended result)) :
    At (.taking mode (sofar.add (endedAs mode index result) mode) unfinished) w
  /-- A submission that was named is taken back, if that is still possible. -/
  cancel {mode : Mode} {sofar : Progress} {unfinished : List Nat} {w : World B} {index : Nat}
    {status : Status S} (turn : (sofar.outcomes mode).length = index)
    (more : index < piece.workers) (named : first piece.workers mode + index ∈ unfinished)
    (here : Here piece At (.taking mode sofar unfinished) w)
    (found : w.status? (first piece.workers mode + index) = some status) :
    At (.missing mode sofar unfinished status.cancel.1)
      (w.setStatus (first piece.workers mode + index) status.cancel.2)
  /-- A writer that could not be taken back is made late. -/
  late {sofar : Progress} {unfinished : List Nat} {w : World B} {index : Nat}
    (turn : sofar.writes.length = index) (more : index < piece.workers)
    (here : Here piece At (.missing .write sofar unfinished false) w) :
    At (.taking .write (sofar.add (piece.timedOut .write index) .write) unfinished)
      (w.addLate 0 index)
  /-- The other ones that were named time out without being made late. -/
  pass {mode : Mode} {sofar : Progress} {unfinished : List Nat} {cancelled : Bool} {w : World B}
    {index : Nat} (turn : (sofar.outcomes mode).length = index) (more : index < piece.workers)
    (gone : mode = .write → cancelled = true)
    (here : Here piece At (.missing mode sofar unfinished cancelled) w) :
    At (.taking mode (sofar.add (piece.timedOut mode index) mode) unfinished) w
  /-- The second phase begins. -/
  again {sofar : Progress} {unfinished : List Nat} {w : World B}
    (all : sofar.writes.length = piece.workers)
    (here : Here piece At (.taking .write sofar unfinished) w) :
    At (.target .read sofar) (w.enter .readPhase)
  /-- The pool is closed after both phases. -/
  close {sofar : Progress} {unfinished : List Nat} {w : World B}
    (all : sofar.writes.length = piece.workers) (all_read : sofar.reads.length = piece.workers)
    (here : Here piece At (.taking .read sofar unfinished) w) : At (.closing sofar) (w.takeBack 0)
  /-- The cleanup begins. -/
  clean {sofar : Progress} {w : World B} (here : Here piece At (.closing sofar) w) :
    At (.clearing sofar 0) (w.enter .cleanup)
  /-- An object is deleted, or the storage says why not. -/
  delete {sofar : Progress} {index : Nat} {w : World B} {fate : B.Fate} {reply : Except Fault Unit}
    {store : B.State} (more : index < piece.workers) (here : Here piece At (.clearing sofar index) w)
    (answer : B.answer fate (.delete (piece.plan.settings.objectPath index)) w.shared.store =
      (reply, store)) :
    (∀ fault, reply = .error fault → fault.isAbsent = false → fault.isSystem = false → fails) ∧
      At (.clearing sofar (index + 1)) (w.withStore store)
  /-- The run is done. -/
  finish {sofar : Progress} {w : World B} (here : Here piece At (.clearing sofar piece.workers) w) :
    At (.finished sofar) (w.enter .done)
  /-- Before its phases a run asks nothing that has to be looked at. -/
  fine_opening {w : World B} {op : Conductor.Op S} (unstarted : w.stage = .prepare)
    (answerable : terms.Answerable w op) : terms.Fine w op
  fine {pt : Point} {w : World B} {op : Conductor.Op S} (here : Here piece At pt w)
    (answerable : terms.Answerable w op) : terms.Fine w op
  fine_draw {sofar : Progress} {w : World B} (here : Here piece At (.looked .write sofar true) w) :
    terms.Fine w (.entropy piece.plan.bufferSize)
  fine_wait {mode : Mode} {sofar : Progress} {w : World B}
    (here : Here piece At (.placing mode sofar piece.workers) w) :
    terms.Fine w (.wait 0 (piece.submissions mode) piece.plan.settings.timeout)
  /-- A run that failed may ask anything. -/
  lenient (failed : fails) (w : World B) (op : Conductor.Op S) : terms.Fine w op
  fate : Nonempty B.Fate
  permits : ∃ random unfinished, terms.permits random unfinished

end Concert
end StoreMeter
