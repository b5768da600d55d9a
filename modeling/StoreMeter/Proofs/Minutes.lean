import StoreMeter.Proofs.Concert.Outline
import StoreMeter.Proofs.Sessions
/-
# Proofs.Minutes — what the main thread has asked, and what it was told

The main thread of a run is the only one that enters stages, hands out jobs, closes pools and deletes
objects in passing.  `Minutes` keep what it has asked so far, in its order, with the answers that
matter; `Minutes.note` is the entry for one question.  `Fits` says which questions a run of a plan may
ask after its minutes: it is the state machine of a run, with what has to be true on each edge.

Nothing is assumed about the answers but that sets, pools and tasks get their numbers one after
another, and that a wait only finds fault with its limit (`Honest`).
-/
namespace StoreMeter

open Concert (first endedAs)

/-! ## Plans -/

/-- The number of workers of a plan that can be run. -/
def Plan.workers (plan : Plan) : Nat := plan.settings.workerCount.toOption.getD 0

theorem Plan.workerCount_eq {plan : Plan} {size : Nat} (valid : plan.Valid size) :
    plan.settings.workerCount = .ok plan.workers := by
  obtain ⟨n, threads, -⟩ := valid.threads
  rw [Plan.workers, Settings.workerCount_of_threads threads]
  rfl

/-- The objects of all workers of a plan that can be run, in their order. -/
def Plan.objectPaths (plan : Plan) : List String :=
  (List.range plan.workers).map fun (i : Nat) => plan.settings.objectPath i

theorem Plan.objectPaths_eq {plan : Plan} {size : Nat} (valid : plan.Valid size) :
    plan.settings.objectPaths = .ok plan.objectPaths := by
  rw [Settings.objectPaths, Plan.workerCount_eq valid]
  rfl

/-- The stage of a phase. -/
def Mode.stage : Mode → Stage
  | write => .writePhase
  | read => .readPhase

/-! ## Minutes -/

/-- What the main thread did about a submission when it collected the outcomes. -/
inductive Taking where
  /-- It took the result of the task, which had ended. -/
  | ended (result : Except Fault Outcome)
  /-- It took the task back, which was not done in time. -/
  | takenBack
  /-- It gave the task up, which was not done in time and could not be taken back. -/
  | givenUp

namespace Taking

/-- The outcome of the worker. -/
def outcome (plan : Plan) (mode : Mode) (index : Nat) : Taking → Outcome
  | ended result => endedAs mode index result
  | takenBack | givenUp =>
    Outcome.failure index mode (Phase.timeoutMessage index mode plan.settings.timeout)

end Taking

/-- What the main thread has asked and was told, each list in its order. -/
structure Minutes (S : Type) where
  /-- The stages that the run has entered. -/
  stages : List Stage := []
  /-- How many sets of late workers were made. -/
  sets : Nat := 0
  /-- The pools that were made. -/
  pools : List Nat := []
  /-- The pools that were closed: does it wait for the running tasks, and does it take the waiting ones
  back? -/
  closings : List (Nat × Bool × Bool) := []
  /-- What the storage said about the target since the last stage began: is it there? -/
  target : List (Except Fault Bool) := []
  /-- The jobs that were handed out. -/
  jobs : List (Worker.Job S) := []
  /-- What was done about each submission, by its number. -/
  takings : List (Nat × Taking) := []
  /-- The workers that were made late. -/
  late : List Int := []
  /-- The objects that were deleted or not, with the answers of the storage. -/
  deletions : List (String × Except Fault Unit) := []
  /-- The failures of all other questions. -/
  failures : List Fault := []

/-- The failure of an answer, if it is one. -/
def failureOf {α : Type} : Except Fault α → List Fault
  | .ok _ => []
  | .error fault => [fault]

namespace Minutes

variable {S : Type}

/-- The minutes after a question about the target. -/
def seeTarget (m : Minutes S) (reply : Except Fault Bool) : Minutes S :=
  { m with target := m.target ++ [reply], failures := m.failures ++ failureOf reply }

/-- The minutes after another question that may fail. -/
def hear {α : Type} (m : Minutes S) (reply : Except Fault α) : Minutes S :=
  { m with failures := m.failures ++ failureOf reply }

/-- The minutes after more objects were deleted or not. -/
def delete (m : Minutes S) (more : List (String × Except Fault Unit)) : Minutes S :=
  { m with deletions := m.deletions ++ more }

/-- The minutes after something was done about a submission. -/
def take (m : Minutes S) (k : Nat) (taking : Taking) : Minutes S :=
  { m with takings := m.takings ++ [(k, taking)] }

/-- The minutes after the run entered a stage. -/
def enter (m : Minutes S) (stage : Stage) : Minutes S :=
  { m with stages := m.stages ++ [stage], target := [] }

/-- The minutes with one more question and its answer. -/
def note (m : Minutes S) : (op : Conductor.Op S) → op.Answer → Minutes S
  | .storage (.isPresent _), reply => m.seeTarget reply
  | .storage (.makeDirs _), reply => m.seeTarget (Except.map (fun _ => true) reply)
  | .storage (.delete path), reply => m.delete [(path, reply)]
  | .entropy _, reply => m.hear reply
  | .wait _ _ _, reply => m.hear reply
  | .newPool _ _, (pool : Nat) => { m with pools := m.pools ++ [pool] }
  | .submit _ job, _ => { m with jobs := m.jobs ++ [job] }
  | .cancel _ k, back => m.take k (bif back then .takenBack else .givenUp)
  | .result _ k, result => m.take k (.ended result)
  | .shutdown pool waits cancelsQueued, _ =>
    { m with closings := m.closings ++ [(pool, waits, cancelsQueued)] }
  | .newLate, _ => { m with sets := m.sets + 1 }
  | .addLate _ index, _ => { m with late := m.late ++ [index] }
  | .enter stage, _ => m.enter stage
  | .storage _, _ | .log _, _ | .lateIndexes _, _ => m

/-- The minutes of a preparation that went well. -/
def prepared : Minutes S := { stages := [.prepare], sets := 1 }

/-- The minutes of a preparation that failed: only a wrong configuration has a stage of its own. -/
def unprepared (fault : Fault) : Minutes S :=
  { stages := if fault.isConfiguration then [.prepare, .failed] else [.prepare], sets := 1 }

/-- The stage that a run is at. -/
def stage (m : Minutes S) : Stage := m.stages.getLast?.getD .prepare

/-- The run is in a phase. -/
def In (m : Minutes S) (mode : Mode) : Prop := m.stages.getLast? = some mode.stage

/-- The target of a phase was there, or, for writing, it was not there and has been made. -/
def Found (m : Minutes S) (mode : Mode) : Prop :=
  m.target = [.ok true] ∨ mode = .write ∧ m.target = [.ok false, .ok true]

/-- The only pool was closed once, without waiting and with its waiting tasks taken back. -/
def Closed (m : Minutes S) : Prop := ∃ pool, m.pools = [pool] ∧ m.closings = [(pool, false, true)]

/-- Something was done about each of the first submissions, and the writers that were given up have
been made late. -/
def Taken (m : Minutes S) (n : Nat) : Prop :=
  m.takings.map Prod.fst = List.range n ∧ ∀ k, (k, .givenUp) ∈ m.takings → (k : Int) ∈ m.late

/-- The outcomes of the workers of both phases, as the main thread came to them. -/
def outcomes (plan : Plan) (m : Minutes S) : List Outcome :=
  m.takings.map fun (k, taking) =>
    if k < plan.workers then taking.outcome plan .write k
    else taking.outcome plan .read (k - plan.workers)

end Minutes

/-! ## The state machine of a run -/

variable {S : Type}

/-- The job of a worker in a phase. -/
def IsJob (plan : Plan) (mode : Mode) (index : Nat) (job : Worker.Job S) : Prop :=
  match mode with
  | .write => ∃ size payload, job = Phase.writeJob plan.settings size payload (some 0) index
  | .read => ∃ size, job = Phase.readJob plan.settings size plan.bufferSize (some 0) index

/-- May a run enter a stage? -/
def Enters (plan : Plan) (m : Minutes S) : Stage → Prop
  | .prepare => m.stages = []
  | .failed => m.stages = [.prepare]
  | .writePhase => m.stages = [.prepare]
  | .readPhase => m.stages = [.prepare, .writePhase] ∧ m.Taken plan.workers
  | .cleanup => m.stages = [.prepare, .writePhase, .readPhase] ∧
    m.takings.map Prod.fst = List.range (plan.workers + plan.workers) ∧ m.Closed
  | .done => m.stages = [.prepare, .writePhase, .readPhase, .cleanup]

/-- May a run ask a question? -/
def Fits (plan : Plan) (m : Minutes S) : Conductor.Op S → Prop
  | .storage (.isPresent path) => path = plan.settings.path ∧ m.target = [] ∧ ∃ mode, m.In mode
  | .storage (.makeDirs path) => path = plan.settings.path ∧ m.target = [.ok false] ∧ m.In .write
  | .storage (.delete path) => m.stages.getLast? = some .cleanup ∧ m.Closed ∧
    m.deletions.length < plan.workers ∧ path = plan.settings.objectPath m.deletions.length
  | .storage _ => False
  | .newLate => m.sets = 0
  | .newPool _ _ => m.stages = [.prepare] ∧ m.pools = []
  | .submit pool job => m.pools = [pool] ∧ m.closings = [] ∧ ∃ mode, ∃ index < plan.workers,
    m.In mode ∧ m.Found mode ∧ m.jobs.length = first plan.workers mode + index ∧
      IsJob plan mode index job
  | .addLate late _ => late = 0 ∧ m.sets = 1
  | .shutdown pool waits cancelsQueued =>
    m.pools = [pool] ∧ m.closings = [] ∧ waits = false ∧ cancelsQueued = true
  | .enter stage => Enters plan m stage
  | .log _ | .entropy _ | .wait _ _ _ | .cancel _ _ | .result _ _ | .lateIndexes _ => True

/-- Sets, pools and tasks are numbered in the order in which they are made, and a wait tells who is not
done, if it can be made. -/
def Honest (m : Minutes S) : (op : Conductor.Op S) → op.Answer → Prop
  | .newLate, set => set = m.sets
  | .newPool _ _, pool => pool = m.pools.length
  | .submit _ _, task => task = m.jobs.length
  | .wait _ _ limit, reply => ∃ unfinished, reply = Conductor.waitResult unfinished limit
  | _, _ => True

/-- Surroundings that take the minutes, in which nothing else is asked than what fits. -/
def minuted (fits : Minutes S → Conductor.Op S → Prop) :
    Surroundings (Conductor.effects S) (Minutes S) where
  Allows := fits
  Answers m op reply m' := Honest m op reply ∧ m' = m.note op reply

section
variable {fits : Minutes S → Conductor.Op S → Prop} {m : Minutes S} {α : Type}

/-- A question that fits goes into the minutes. -/
theorem ends_minuted {op : Conductor.Op S} {goal : op.Answer → Minutes S → Prop} (here : fits m op)
    (answered : ∀ reply, Honest m op reply → goal reply (m.note op reply)) :
    (Prog.perform (E := Conductor.effects S) op).Ends (minuted fits) goal m := by
  refine ⟨here, ?_⟩
  rintro reply _ ⟨honest, rfl⟩
  exact answered reply honest

/-- A question that fits, and a program after it. -/
theorem ask_minuted {op : Conductor.Op S} {next : op.Answer → Conductor.Program S α}
    {goal : α → Minutes S → Prop} (here : fits m op) (further : ∀ reply, Honest m op reply →
      (next reply).Ends (minuted fits) goal (m.note op reply)) :
    ((Prog.perform (E := Conductor.effects S) op).bind next).Ends (minuted fits) goal m := by
  have asked : (Prog.perform (E := Conductor.effects S) op).Ends (minuted fits)
      (fun reply => (next reply).Ends (minuted fits) goal) m := ends_minuted here further
  exact asked.bind fun _ _ => id

/-- A question that fits, and a step after it. -/
theorem settles_minuted {op : Conductor.Op S} {next : op.Answer → Run.Step S α}
    {fails : Fault → Minutes S → Prop} {goal : α → Session → Minutes S → Prop} {session : Session}
    (here : fits m op) (further : ∀ reply, Honest m op reply →
      Run.Settles (minuted fits) fails goal (next reply) session (m.note op reply)) :
    Run.Settles (minuted fits) fails goal
      (Run.lift (Prog.perform (E := Conductor.effects S) op) >>= next) session m := by
  have asked : (Prog.perform (E := Conductor.effects S) op).Ends (minuted fits)
      (fun reply => Run.Settles (minuted fits) fails goal (next reply) session) m :=
    ends_minuted here further
  exact Run.settles_lift_bind asked fun _ _ => id

end

/-! ## Runs that are in order -/

/-- The stages that a run may have entered. -/
inductive Course : List Stage → Prop
  | unstarted : Course []
  | preparing : Course [.prepare]
  | refused : Course [.prepare, .failed]
  | writing : Course [.prepare, .writePhase]
  | reading : Course [.prepare, .writePhase, .readPhase]
  | cleaning : Course [.prepare, .writePhase, .readPhase, .cleanup]
  | finished : Course [.prepare, .writePhase, .readPhase, .cleanup, .done]

/-- The stages follow each other; only a run that was just prepared may fail instead. -/
theorem Course.prefix_or {stages : List Stage} (course : Course stages) :
    stages <+: [.prepare, .writePhase, .readPhase, .cleanup, .done] ∨
      stages = [.prepare, .failed] := by
  cases course with
  | refused => exact .inr rfl
  | unstarted | preparing | writing | reading | cleaning | finished => exact .inl (by decide)

theorem Course.write_first {stages : List Stage} (course : Course stages)
    (reading : .readPhase ∈ stages) : .writePhase ∈ stages := by
  cases course <;> revert reading <;> decide

/-- After the write phase has begun, a run neither prepares nor has failed to. -/
theorem Course.begun {stages : List Stage} (course : Course stages)
    (writing : .writePhase ∈ stages) :
    stages.getLast?.getD .prepare ≠ .prepare ∧ stages.getLast?.getD .prepare ≠ .failed := by
  cases course <;> revert writing <;> decide

/-- The write phase lasts until the read phase begins. -/
theorem Course.writing_last {stages : List Stage} (course : Course stages)
    (writing : .writePhase ∈ stages) (unread : .readPhase ∉ stages) :
    stages.getLast?.getD .prepare = .writePhase := by
  cases course <;> revert writing unread <;> decide

/-- The read phase lasts until the run cleans up. -/
theorem Course.reading_last {stages : List Stage} (course : Course stages)
    (reading : .readPhase ∈ stages) (uncleaned : .cleanup ∉ stages) :
    stages.getLast?.getD .prepare = .readPhase := by
  cases course <;> revert reading uncleaned <;> decide

/-- Where the takings are numbered, there is one for each number. -/
theorem exists_taking {takings : List (Nat × Taking)} {n k : Nat}
    (numbers : takings.map Prod.fst = List.range n) (below : k < n) :
    ∃ taking, (k, taking) ∈ takings := by
  have there : k ∈ takings.map Prod.fst := numbers ▸ List.mem_range.2 below
  obtain ⟨⟨_, taking⟩, found, rfl⟩ := List.mem_map.1 there
  exact ⟨taking, found⟩

/-- What the minutes of a run say at any time, whatever comes next. -/
structure InOrder (plan : Plan) (m : Minutes S) : Prop where
  course : Course m.stages
  /-- A pool is closed at most once. -/
  closings : m.closings = [] ∨ m.Closed
  few : m.jobs.length ≤ plan.workers + plan.workers
  /-- Jobs are handed out from the write phase on. -/
  writers : m.jobs ≠ [] → .writePhase ∈ m.stages
  /-- Jobs of readers are handed out from the read phase on. -/
  readers : plan.workers < m.jobs.length → .readPhase ∈ m.stages
  /-- After the write phase the outcome of each writer is taken, or its task was taken back, or it has
  been made late. -/
  writersTaken : .readPhase ∈ m.stages → ∀ k < plan.workers,
    (∃ result, (k, .ended result) ∈ m.takings) ∨ (k, .takenBack) ∈ m.takings ∨ (k : Int) ∈ m.late
  /-- After the read phase something was done about each submission. -/
  readersTaken : .cleanup ∈ m.stages → ∀ k < plan.workers + plan.workers,
    ∃ taking, (k, taking) ∈ m.takings

namespace InOrder

variable {plan : Plan} {m m' : Minutes S}

theorem start : InOrder plan ({} : Minutes S) where
  course := .unstarted
  closings := .inl rfl
  few := Nat.zero_le _
  writers := absurd rfl
  readers many := absurd many (Nat.not_lt_zero _)
  writersTaken begun := absurd begun List.not_mem_nil
  readersTaken begun := absurd begun List.not_mem_nil

/-- Where no stage is entered and no job is handed out, the order is kept. -/
theorem go (h : InOrder plan m) (stages : m'.stages = m.stages) (jobs : m'.jobs = m.jobs)
    (takings : m.takings ⊆ m'.takings) (late : m.late ⊆ m'.late)
    (closings : m'.closings = [] ∨ m'.Closed) :
    InOrder plan m' where
  course := stages ▸ h.course
  closings := closings
  few := jobs ▸ h.few
  writers := by
    rw [stages, jobs]
    exact h.writers
  readers := by
    rw [stages, jobs]
    exact h.readers
  writersTaken := by
    rw [stages]
    intro reading k below
    exact (h.writersTaken reading k below).imp (fun ⟨result, there⟩ => ⟨result, takings there⟩)
      (.imp (takings ·) (late ·))
  readersTaken := by
    rw [stages]
    intro cleaning k below
    obtain ⟨taking, there⟩ := h.readersTaken cleaning k below
    exact ⟨taking, takings there⟩

theorem submit (h : InOrder plan m) {pool : Nat} {job : Worker.Job S}
    (fits : Fits plan m (.submit pool job)) : InOrder plan { m with jobs := m.jobs ++ [job] } := by
  obtain ⟨-, -, mode, index, below, here, -, turn, -⟩ := fits
  have entered : mode.stage ∈ m.stages := List.mem_of_getLast? here
  refine ⟨h.course, h.closings, ?_, fun _ => ?_, fun many => ?_, h.writersTaken, h.readersTaken⟩
  -- the job of a writer is one of the first half, that of a reader one of the second
  · cases mode <;> simp only [List.length_append, List.length_singleton, turn, first] <;> omega
  · cases mode with
    | write => exact entered
    | read => exact h.course.write_first entered
  · cases mode with
    | write =>
      simp only [List.length_append, List.length_singleton, turn, first] at many
      omega
    | read => exact entered

/-- A stage was entered before, or it is the one that is entered now. -/
theorem mem_enter {stage entered : Stage} (there : entered ∈ (m.enter stage).stages) :
    entered ∈ m.stages ∨ entered = stage :=
  (List.mem_append.1 there).imp_right List.mem_singleton.1

theorem enter (h : InOrder plan m) {stage : Stage} (enters : Enters plan m stage) :
    InOrder plan (m.enter stage) where
  course := by
    cases stage with
    | prepare | failed | writePhase | done =>
      have stages : m.stages = _ := enters
      simp only [Minutes.enter, stages]
      constructor
    | readPhase | cleanup =>
      simp only [Minutes.enter, enters.1]
      constructor
  closings := h.closings
  few := h.few
  writers some := List.mem_append_left _ (h.writers some)
  readers many := List.mem_append_left _ (h.readers many)
  writersTaken := by
    intro reading k below
    rcases mem_enter reading with before | rfl
    · exact h.writersTaken before k below
    -- the read phase begins only after all writers were collected
    obtain ⟨-, all, given⟩ := enters
    obtain ⟨taking, there⟩ := exists_taking all below
    cases taking with
    | ended result => exact .inl ⟨result, there⟩
    | takenBack => exact .inr (.inl there)
    | givenUp => exact .inr (.inr (given _ there))
  readersTaken := by
    intro cleaning k below
    rcases mem_enter cleaning with before | rfl
    · exact h.readersTaken before k below
    exact exists_taking enters.2.1 below

/-- A question that fits keeps the order, whatever the answer is. -/
theorem note (h : InOrder plan m) {op : Conductor.Op S} (fits : Fits plan m op)
    (reply : op.Answer) : InOrder plan (m.note op reply) := by
  have more {α : Type} {l more : List α} : l ⊆ l ++ more := List.subset_append_left l more
  cases op with
  | enter stage => exact h.enter fits
  | submit pool job => exact h.submit fits
  | cancel _ _ | result _ _ => exact h.go rfl rfl more (List.Subset.refl _) h.closings
  | addLate _ _ => exact h.go rfl rfl (List.Subset.refl _) more h.closings
  | storage op =>
    cases op <;> exact h.go rfl rfl (List.Subset.refl _) (List.Subset.refl _) h.closings
  | log _ | entropy _ | wait _ _ _ | newLate | lateIndexes _ =>
    exact h.go rfl rfl (List.Subset.refl _) (List.Subset.refl _) h.closings
  | newPool _ _ =>
    -- only an only pool is ever closed, and this is the first one
    have opened : m.closings = [] := by
      rcases h.closings with opened | ⟨pool, some, -⟩
      · exact opened
      · rw [fits.2] at some
        cases some
    exact h.go rfl rfl (List.Subset.refl _) (List.Subset.refl _) (.inl opened)
  | shutdown pool waits cancelsQueued =>
    obtain ⟨pools, opened, rfl, rfl⟩ := fits
    refine h.go rfl rfl (List.Subset.refl _) (List.Subset.refl _) (.inr ⟨pool, pools, ?_⟩)
    simp [Minutes.note, opened]

end InOrder

end StoreMeter
