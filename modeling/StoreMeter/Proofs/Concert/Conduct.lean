import StoreMeter.Proofs.Concert.Custody
import StoreMeter.Proofs.Sessions
/-
# Proofs.Concert.Conduct — what the main thread asks, also in a run that fails

A run may fail at many places, and its workers go on after that.  What they can rely on is not what
the run has come to, but what the main thread asks and in which order.  It hands out the jobs of all
writers before that of any reader; it deletes an object only after it has taken the outcome of its
writer, has taken its job back or has made it late.

`Books` keep this account, and `conduct` are the surroundings that they make: they say what the main
thread may ask, and leave the answers free.  The main thread is walked through once, by function
(`whole_conduct`).  A run that comes to a report has deleted the objects of all workers.
-/
namespace StoreMeter
namespace Concert

/-! ## The books -/

/-- What the main thread has done so far: the sets of late workers that it made, the jobs that it
handed out, and how far it is with each of their tasks. -/
structure Books where
  lates : Nat := 0
  tasks : Nat := 0
  marks : Nat → Mark := fun _ => .awaited

namespace Books

/-- The books with another mark for one task. -/
def mark (b : Books) (k : Nat) (mark : Mark) : Books :=
  { b with marks := fun j => if j = k then mark else b.marks j }

@[simp]
theorem mark_self (b : Books) (k : Nat) (mark : Mark) : (b.mark k mark).marks k = mark := if_pos rfl

theorem mark_other (b : Books) {k j : Nat} (other : j ≠ k) (mark : Mark) :
    (b.mark k mark).marks j = b.marks j := if_neg other

/-- The outcomes of the first tasks are taken, or the tasks are settled in another way. -/
def Taken (n : Nat) (b : Books) : Prop := ∀ k < n, b.marks k ≠ .awaited

theorem Taken.mark {n : Nat} {b : Books} (h : b.Taken n) (k : Nat) {m : Mark} (past : m ≠ .awaited) :
    (b.mark k m).Taken n := by
  intro j below
  by_cases same : j = k
  · subst same
    rw [mark_self]
    exact past
  · rw [mark_other b same]
    exact h j below

theorem Taken.next {n : Nat} {b : Books} (h : b.Taken n) : (b.mark n .settled).Taken (n + 1) := by
  intro j below
  by_cases same : j = n
  · subst same
    rw [mark_self]
    decide
  · rw [mark_other b same]
    exact h j (by omega)

end Books

variable {S α : Type} {settings : Settings} {workers : Nat} {b : Books}

/-- The job of the next task: the writers come first, in their order, then the readers. -/
def NextJob (settings : Settings) (workers : Nat) (b : Books) (job : Worker.Job S) : Prop :=
  if b.tasks < workers then
    b.marks b.tasks = .awaited ∧
      ∃ size payload, job = Phase.writeJob settings size payload (some 0) b.tasks
  else ∃ size bufferSize index, job = Phase.readJob settings size bufferSize (some 0) index

/-- The surroundings of a main thread that keeps such books. -/
def conduct (settings : Settings) (workers : Nat) : Surroundings (Conductor.effects S) Books where
  Allows b
    | .storage (.isPresent _) | .storage (.makeDirs _) => True
    | .storage (.delete path) => ∃ k : Nat, path = settings.objectPath k ∧ b.marks k ≠ .awaited
    | .storage _ => False
    | .submit _ job => NextJob settings workers b job
    | .newLate => b.lates = 0
    | .addLate late index => late = 0 ∧ 0 < b.lates ∧ ∃ k : Nat, index = k
    | _ => True
  Answers b op reply b' :=
    match op, reply with
    | .storage (.delete path), _ => ∃ k : Nat, path = settings.objectPath k ∧ b' = b.mark k .cleared
    | .submit _ _, n => n = b.tasks ∧ b' = { b with tasks := b.tasks + 1 }
    | .newLate, n => n = b.lates ∧ b' = { b with lates := b.lates + 1 }
    | .addLate _ index, _ => b' = b.mark index.toNat .settled
    | .result _ k, _ => b' = b.mark k .settled
    | .cancel _ k, cancelled => match (cancelled : Bool) with
      | true => b' = b.mark k .settled
      | false => b' = b
    | _, _ => b' = b

/-! ## Single questions -/

/-- A question that needs no entry in the books. -/
def Routine : Conductor.Op S → Prop
  | .storage (.isPresent _) | .storage (.makeDirs _) | .log _ | .entropy _ | .newPool _ _
  | .wait _ _ _ | .shutdown _ _ _ | .lateIndexes _ | .enter _ => True
  | _ => False

theorem routine_conduct (op : Conductor.Op S) (routine : Routine op) :
    (Prog.perform (E := Conductor.effects S) op).Ends (conduct settings workers)
      (fun _ b' => b' = b) b := by
  match op, routine with
  | .storage (.isPresent _), _ | .storage (.makeDirs _), _ | .log _, _ | .entropy _, _
  | .newPool _ _, _ | .wait _ _ _, _ | .shutdown _ _ _, _ | .lateIndexes _, _ | .enter _, _ =>
    exact ⟨trivial, fun _ _ same => same⟩

/-- Such a question goes before what comes next. -/
theorem routine_bind (op : Conductor.Op S) {next : op.Answer → Conductor.Program S α}
    {goal : α → Books → Prop} (routine : Routine op)
    (h : ∀ reply, (next reply).Ends (conduct settings workers) goal b) :
    (Prog.bind (Prog.perform (E := Conductor.effects S) op) next).Ends (conduct settings workers)
      goal b := by
  refine (routine_conduct op routine).bind ?_
  rintro reply _ rfl
  exact h reply

theorem log_conduct (entry : Log.Entry) {next : Unit → Conductor.Program S α}
    {goal : α → Books → Prop} (h : (next ()).Ends (conduct settings workers) goal b) :
    ((Conductor.log entry).bind next).Ends (conduct settings workers) goal b :=
  routine_bind (.log entry) trivial fun _ => h

theorem routine_arrives (op : Conductor.Op S) {next : op.Answer → Run.Step S α}
    {goal : α → Session → Books → Prop} {session : Session} (routine : Routine op)
    (h : ∀ reply, Run.Arrives (conduct settings workers) True goal (next reply) session b) :
    Run.Arrives (conduct settings workers) True goal
      (Run.lift (Prog.perform (E := Conductor.effects S) op) >>= next) session b := by
  refine Run.arrives_lift_bind (routine_conduct op routine) ?_
  rintro reply _ rfl
  exact h reply

/-! ## The target and the jobs -/

theorem prepareTarget_conduct (path : String) (mode : Mode) :
    (Phase.prepareTarget (S := S) path mode).Ends (conduct settings workers)
      (fun _ b' => b' = b) b := by
  unfold Phase.prepareTarget
  refine routine_bind (.storage (.isPresent path)) trivial ?_
  rintro (fault | present)
  · rfl
  · cases mode with
    | read => cases present <;> rfl
    | write =>
      refine Prog.Ends.bind ?_ fun _ _ same => same
      unfold Phase.makeTarget
      split
      · rfl
      · exact log_conduct _ (routine_conduct (.storage (.makeDirs path)) trivial)

/-- The jobs of a phase. -/
def JobsOf (settings : Settings) (mode : Mode) (job : Nat → Worker.Job S) : Prop :=
  match mode with
  | .write => ∃ size payload, job = fun index : Nat =>
      Phase.writeJob settings size payload (some 0) index
  | .read => ∃ size bufferSize, job = fun index : Nat =>
      Phase.readJob settings size bufferSize (some 0) index

theorem jobs_conduct (mode : Mode) (size bufferSize : Int) :
    (Phase.jobs (S := S) settings mode size bufferSize (some 0)).Ends (conduct settings workers)
      (fun r b' => b' = b ∧ ∀ job, r = .ok job → JobsOf settings mode job) b := by
  cases mode with
  | read =>
    refine ⟨rfl, ?_⟩
    rintro _ ⟨⟩
    exact ⟨size, bufferSize, rfl⟩
  | write =>
    refine routine_bind (.entropy bufferSize) trivial ?_
    rintro (fault | payload)
    · refine ⟨rfl, ?_⟩
      rintro _ ⟨⟩
    · refine ⟨rfl, ?_⟩
      rintro _ ⟨⟩
      exact ⟨size, payload, rfl⟩

/-- Jobs that come one after another have consecutive numbers. -/
theorem submitAll_conduct (pool : Nat) (jobs : List (Worker.Job S)) :
    ∀ {b : Books}, (∀ i, (h : i < jobs.length) →
        NextJob settings workers { b with tasks := b.tasks + i } jobs[i]) →
      (Phase.submitAll pool jobs).Ends (conduct settings workers)
        (fun submissions b' => submissions = (List.range' b.tasks jobs.length) ∧
          b' = { b with tasks := b.tasks + jobs.length }) b := by
  induction jobs with
  | nil =>
    intro b _
    exact ⟨rfl, rfl⟩
  | cons job rest ih =>
    intro b next
    unfold Phase.submitAll
    rw [List.mapM_cons]
    have here : (Conductor.submit pool job).Ends (conduct settings workers)
        (fun n b' => n = b.tasks ∧ b' = { b with tasks := b.tasks + 1 }) b :=
      ⟨next 0 (Nat.zero_lt_succ _), fun _ _ answered => answered⟩
    refine here.bind ?_
    rintro _ _ ⟨rfl, rfl⟩
    -- the rest starts one number later
    have others (i : Nat) (h : i < rest.length) :
        NextJob settings workers { b with tasks := b.tasks + 1 + i } rest[i] := by
      have found := next (i + 1) (Nat.succ_lt_succ h)
      rw [Nat.add_assoc, Nat.add_comm 1 i]
      exact found
    refine (ih others).bind ?_
    rintro _ _ ⟨rfl, rfl⟩
    refine ⟨rfl, ?_⟩
    rw [List.length_cons, Nat.add_assoc, Nat.add_comm 1]

/-! ## Collecting -/

theorem finished_conduct (pool : Nat) (mode : Mode) (index k : Nat) :
    (Phase.finished (S := S) pool mode index k).Ends (conduct settings workers)
      (fun _ b' => b' = b.mark k .settled) b := by
  have result : (Conductor.result (S := S) pool k).Ends (conduct settings workers)
      (fun _ b' => b' = b.mark k .settled) b := ⟨trivial, fun _ _ answered => answered⟩
  unfold Phase.finished
  refine result.bind ?_
  rintro (fault | outcome) b' rfl
  · exact log_conduct _ rfl
  · rfl

/-- A writer that is not done in time is taken back or made late; a reader is at most taken back. -/
theorem timedOut_conduct (pool : Nat) (mode : Mode) (limit : Value) {late : Option Nat}
    {index k : Nat} (known : ∀ n, late = some n → n = 0 ∧ 0 < b.lates ∧ k = index) :
    (Phase.timedOut (S := S) pool mode limit late index k).Ends (conduct settings workers)
      (fun _ b' => b' = b.mark k .settled ∨ late = none ∧ b' = b) b := by
  have cancel : (Conductor.cancel (S := S) pool k).Ends (conduct settings workers)
      (fun cancelled b' => b' = match cancelled with
        | true => b.mark k .settled
        | false => b) b := by
    refine ⟨trivial, ?_⟩
    rintro (_ | _) b' answered <;> exact answered
  unfold Phase.timedOut
  refine cancel.bind ?_
  -- a task that cannot be taken back makes its worker late, if there is a set for that
  rintro (_ | _) b' same
  · obtain rfl : b' = b := same
    cases late with
    | none => exact log_conduct _ (.inr ⟨rfl, rfl⟩)
    | some late =>
      obtain ⟨rfl, made, rfl⟩ := known late rfl
      have added : (Conductor.addLate (S := S) 0 k).Ends (conduct settings workers)
          (fun _ b'' => b'' = b'.mark k .settled) b' :=
        ⟨⟨rfl, made, k, rfl⟩, fun _ _ answered => answered⟩
      refine added.bind ?_
      rintro _ _ rfl
      exact log_conduct _ (.inl rfl)
  · cases late <;> exact log_conduct _ (.inl same)

/-- Both phases: what the books say when the jobs of a phase are handed out. -/
def PhaseStarts (workers : Nat) (b : Books) : Mode → Prop
  | .write => b.tasks = 0 ∧ 0 < b.lates ∧ ∀ k, b.marks k = .awaited
  | .read => b.tasks = workers ∧ b.Taken workers

theorem submitJobs_conduct (pool : Nat) {mode : Mode} {job : Nat → Worker.Job S}
    (jobs : JobsOf settings mode job) (starts : PhaseStarts workers b mode) :
    (Phase.submitAll pool ((List.range workers).map job)).Ends (conduct settings workers)
      (fun submissions b' => submissions = List.range' b.tasks workers ∧
        b' = { b with tasks := b.tasks + workers }) b := by
  have each (i : Nat) (h : i < ((List.range workers).map job).length) :
      NextJob settings workers { b with tasks := b.tasks + i } ((List.range workers).map job)[i] := by
    rw [List.length_map, List.length_range] at h
    rw [List.getElem_map, List.getElem_range]
    unfold NextJob
    dsimp only
    -- the numbers below that of the workers are the writers', all others the readers'
    cases mode with
    | write =>
      obtain ⟨first, -, awaited⟩ := starts
      obtain ⟨size, payload, rfl⟩ := jobs
      rw [if_pos (by omega), first, Nat.zero_add]
      exact ⟨awaited i, size, payload, rfl⟩
    | read =>
      obtain ⟨first, -⟩ := starts
      obtain ⟨size, bufferSize, rfl⟩ := jobs
      rw [if_neg (by omega)]
      exact ⟨size, bufferSize, i, rfl⟩
  simpa using submitAll_conduct pool _ each

/-- While the writers are collected, those so far are taken down; their tasks have their numbers. -/
theorem collectWrites_conduct (settings : Settings) (pool : Nat) (limit : Value)
    (unfinished : List Nat) (made : 0 < b.lates) (tasks : b.tasks = workers) :
    (Phase.collectFrom (S := S) pool .write limit (some 0) unfinished 0
        (List.range' 0 workers)).Ends (conduct settings workers)
      (fun _ b' => b'.Taken workers ∧ b'.tasks = workers) b := by
  have next {outcomes : List Outcome} {o : Outcome} {b' : Books} (taken : b'.Taken outcomes.length) :
      (b'.mark outcomes.length .settled).Taken (outcomes ++ [o]).length := by
    rw [List.length_append]
    exact taken.next
  refine (Phase.collectRange_ends (fun outcomes b' => 0 < b'.lates ∧ b'.Taken outcomes.length ∧
    b'.tasks = workers) ?_ ?_ ⟨made, fun _ below => absurd below (Nat.not_lt_zero _), tasks⟩).mono ?_
  · rintro outcomes b' - - ⟨made, taken, tasks⟩
    rw [Nat.zero_add]
    have known (n : Nat) (told : some 0 = some n) :
        n = 0 ∧ 0 < b'.lates ∧ outcomes.length = outcomes.length :=
      ⟨(Option.some.inj told).symm, made, rfl⟩
    refine (timedOut_conduct pool .write limit known).mono ?_
    rintro _ _ (rfl | ⟨⟨⟩, -⟩)
    exact ⟨made, next taken, tasks⟩
  · rintro outcomes b' - - ⟨made, taken, tasks⟩
    rw [Nat.zero_add]
    refine (finished_conduct pool .write _ _).mono ?_
    rintro _ _ rfl
    exact ⟨made, next taken, tasks⟩
  · rintro outcomes b' ⟨count, -, taken, tasks⟩
    exact ⟨count ▸ taken, tasks⟩

/-- While the readers are collected, all writers stay taken down. -/
theorem collectReads_conduct (settings : Settings) (pool : Nat) (limit : Value)
    (unfinished : List Nat) (start : Nat) {tasks : Nat} (taken : b.Taken workers)
    (count : b.tasks = tasks) :
    (Phase.collectFrom (S := S) pool .read limit none unfinished 0
        (List.range' start workers)).Ends (conduct settings workers)
      (fun _ b' => b'.Taken workers ∧ b'.tasks = tasks) b := by
  refine (Phase.collectRange_ends (fun _ b' => b'.Taken workers ∧ b'.tasks = tasks) ?_ ?_
    ⟨taken, count⟩).mono fun _ _ h => h.2
  · rintro outcomes b' - - ⟨taken, count⟩
    have known (n : Nat) (told : none = some n) :
        n = 0 ∧ 0 < b'.lates ∧ start + outcomes.length = outcomes.length := nomatch told
    refine (timedOut_conduct pool .read limit known).mono ?_
    rintro _ _ (rfl | ⟨-, rfl⟩)
    · exact ⟨taken.mark _ (by decide), count⟩
    · exact ⟨taken, count⟩
  · rintro outcomes b' - - ⟨taken, count⟩
    refine (finished_conduct pool .read _ _).mono ?_
    rintro _ _ rfl
    exact ⟨taken.mark _ (by decide), count⟩

theorem collect_conduct (pool : Nat) {mode : Mode} (limit : Value) {job : Nat → Worker.Job S}
    (jobs : JobsOf settings mode job) (starts : PhaseStarts workers b mode) :
    (Phase.collect pool mode ((List.range workers).map job) limit
        (if mode = .write then some 0 else none)).Ends (conduct settings workers)
      (fun r b' => ∀ outcomes, r = .ok outcomes →
        b'.Taken workers ∧ b'.tasks = b.tasks + workers) b := by
  unfold Phase.collect
  refine (submitJobs_conduct pool jobs starts).bind ?_
  rintro submissions b' ⟨rfl, same⟩
  subst same
  refine routine_bind (.wait pool _ limit) trivial ?_
  rintro (fault | unfinished)
  · rintro _ ⟨⟩
  cases mode with
  | write =>
    obtain ⟨first, made, -⟩ := starts
    rw [first, Nat.zero_add]
    refine Prog.Ends.bind (collectWrites_conduct settings pool limit unfinished made rfl) ?_
    exact fun _ _ h _ _ => h
  | read =>
    refine Prog.Ends.bind (collectReads_conduct settings pool limit unfinished _ starts.2 rfl) ?_
    exact fun _ _ h _ _ => h

/-! ## Phases -/

theorem phase_conduct (counted : settings.workerCount = .ok workers) {mode : Mode}
    (starts : PhaseStarts workers b mode) (pool : Nat) (size bufferSize : Int) :
    (Phase.run (S := S) settings mode pool size bufferSize (some 0)).Ends (conduct settings workers)
      (fun r b' => ∀ outcomes, r = .ok outcomes →
        b'.Taken workers ∧ b'.tasks = b.tasks + workers) b := by
  unfold Phase.run
  refine (prepareTarget_conduct settings.path mode).bind ?_
  rintro (fault | _) _ rfl
  · rintro _ ⟨⟩
  refine (jobs_conduct mode size bufferSize).bind ?_
  rintro (fault | job) _ ⟨rfl, jobs⟩
  · rintro _ ⟨⟩
  unfold Phase.runJobs
  refine log_conduct _ ?_
  rw [counted]
  refine (collect_conduct pool settings.timeout (jobs job rfl) starts).bind ?_
  rintro (fault | outcomes) b' done
  · rintro _ ⟨⟩
  · exact log_conduct _ fun _ _ => done outcomes rfl

/-! ## A whole run -/

section
variable {plan : Plan} {session : Session}

/-- Where the settings are checked, the session knows the size and the set of late workers. -/
def Prepared (session : Session) : Prop := session.late = 0 ∧ ∃ size, session.size = some size

theorem prepare_conduct (session : Session) :
    Run.Arrives (S := S) (conduct plan.settings workers) True
      (fun _ session' b' => Prepared session' ∧ b' = { lates := 1 }) (Run.prepare plan) session {} := by
  unfold Run.prepare
  refine routine_arrives (.enter .prepare) trivial fun _ => ?_
  have made : (Conductor.newLate (S := S)).Ends (conduct plan.settings workers)
      (fun n b' => n = 0 ∧ b' = { lates := 1 }) {} := ⟨rfl, fun _ _ answered => answered⟩
  refine Run.arrives_lift_bind made ?_
  rintro _ _ ⟨rfl, rfl⟩
  refine Run.arrives_modify ?_
  cases Run.check plan with
  | ok size => exact ⟨⟨rfl, size, rfl⟩, rfl⟩
  | error fault =>
    dsimp only
    split
    · refine routine_arrives (.enter .failed) trivial fun _ => ?_
      refine routine_arrives (.log _) trivial fun _ => ?_
      exact Run.arrives_throw trivial
    · exact Run.arrives_throw trivial

theorem run_phase_conduct (counted : plan.settings.workerCount = .ok workers) {mode : Mode}
    (starts : PhaseStarts workers b mode) (pool : Nat) (prepared : Prepared session) :
    Run.Arrives (S := S) (conduct plan.settings workers) True
      (fun _ session' b' => Prepared session' ∧ b'.Taken workers ∧ b'.tasks = b.tasks + workers)
      (Run.phase plan mode pool) session b := by
  obtain ⟨first, size, sized⟩ := prepared
  refine Run.arrives_size sized (Run.arrives_get ?_)
  rw [first]
  refine Run.arrives_attempt ((phase_conduct counted starts pool size plan.bufferSize).mono ?_)
  rintro (fault | outcomes) b' done
  · trivial
  · exact ⟨⟨first, size, sized⟩, done outcomes rfl⟩

theorem write_conduct (counted : plan.settings.workerCount = .ok workers) (pool : Nat)
    (prepared : Prepared session) :
    Run.Arrives (S := S) (conduct plan.settings workers) True
      (fun _ session' b' => Prepared session' ∧ PhaseStarts workers b' .read)
      (Run.write plan pool) session { lates := 1 } := by
  unfold Run.write
  refine routine_arrives (.enter .writePhase) trivial fun _ => ?_
  have starts : PhaseStarts workers { lates := 1 } .write := ⟨rfl, Nat.one_pos, fun _ => rfl⟩
  refine (run_phase_conduct counted starts pool prepared).bind ?_
  rintro outcomes session b' ⟨prepared, taken, tasks⟩
  -- all jobs of writers are handed out, so the next ones are readers
  have onward : PhaseStarts workers b' .read := ⟨tasks.trans (Nat.zero_add _), taken⟩
  refine Run.arrives_get (routine_arrives (.lateIndexes _) trivial fun late => ?_)
  split
  · refine routine_arrives (.log _) trivial fun _ => ?_
    exact Run.arrives_pure ⟨prepared, onward⟩
  · exact Run.arrives_pure ⟨prepared, onward⟩

theorem read_conduct (counted : plan.settings.workerCount = .ok workers) (pool : Nat)
    (prepared : Prepared session) (starts : PhaseStarts workers b .read) :
    Run.Arrives (S := S) (conduct plan.settings workers) True
      (fun _ _ b' => b'.Taken workers) (Run.read plan pool) session b := by
  unfold Run.read
  refine routine_arrives (.enter .readPhase) trivial fun _ => ?_
  refine (run_phase_conduct counted starts pool prepared).bind ?_
  rintro outcomes session b' ⟨-, taken, -⟩
  exact Run.arrives_pure taken

/-- The pool is closed after a failure, too. -/
theorem phases_conduct (counted : plan.settings.workerCount = .ok workers) (pool : Nat)
    (prepared : Prepared session) :
    Run.Arrives (S := S) (conduct plan.settings workers) True
      (fun _ _ b' => b'.Taken workers) (Run.phases plan pool) session { lates := 1 } := by
  have both : Run.Arrives (S := S) (conduct plan.settings workers) True
      (fun _ _ b' => b'.Taken workers)
      (do
        let written ← Run.write plan pool
        let readBack ← Run.read plan pool
        return (written, readBack)) session { lates := 1 } := by
    refine (write_conduct counted pool prepared).bind ?_
    rintro written session b' ⟨prepared, starts⟩
    exact (read_conduct counted pool prepared starts).bind fun _ _ _ taken => Run.arrives_pure taken
  unfold Run.phases
  refine Run.arrives_finally both ?_ ?_
  · intro tallies session b' taken
    refine (routine_conduct (.shutdown pool false true) trivial).mono ?_
    rintro _ _ rfl
    exact taken
  · intro b' _
    exact (routine_conduct (.shutdown pool false true) trivial).mono fun _ _ _ => trivial

/-! ## Deleting -/

/-- The objects of the first workers are deleted, and the outcomes of all are taken. -/
def Books.Cleared (workers index : Nat) (b : Books) : Prop :=
  b.Taken workers ∧ ∀ k < index, b.marks k = .cleared

theorem deleteObject_conduct {index : Nat} (below : index < workers)
    (cleared : b.Cleared workers index) :
    Run.Arrives (S := S) (conduct plan.settings workers) True
      (fun _ _ b' => b'.Cleared workers (index + 1))
      (Run.deleteObject (plan.settings.objectPath index)) session b := by
  have deleted : (Conductor.delete (S := S) (plan.settings.objectPath index)).Ends
      (conduct plan.settings workers) (fun _ b' => b'.Cleared workers (index + 1)) b := by
    refine ⟨⟨index, rfl, cleared.1 index below⟩, ?_⟩
    rintro reply _ ⟨k, same, rfl⟩
    -- the path tells whose object it is
    obtain rfl : index = k := plan.settings.objectPath_injective same
    refine ⟨cleared.1.mark index (by decide), ?_⟩
    intro j up_to
    by_cases here : j = index
    · subst here
      exact b.mark_self j .cleared
    · rw [b.mark_other here]
      exact cleared.2 j (by omega)
  have logged {entry : Log.Entry} {value : List String} {b' : Books}
      (cleared : b'.Cleared workers (index + 1)) :
      Run.Arrives (S := S) (conduct plan.settings workers) True
        (fun _ _ b' => b'.Cleared workers (index + 1))
        (do Run.lift (Conductor.log entry); return value) session b' := by
    refine routine_arrives (.log entry) trivial fun _ => ?_
    exact Run.arrives_pure cleared
  unfold Run.deleteObject
  refine Run.arrives_lift_bind deleted ?_
  rintro (fault | _) b' cleared
  · dsimp only
    split
    · exact logged cleared
    · split
      · exact logged cleared
      · exact Run.arrives_throw trivial
  · exact Run.arrives_pure cleared

theorem deleteFrom_conduct (rest : Nat) :
    ∀ {index : Nat} {session : Session} {b : Books}, index + rest = workers →
      b.Cleared workers index →
      Run.Arrives (S := S) (conduct plan.settings workers) True
        (fun _ _ b' => b'.Cleared workers workers)
        (((List.range' index rest).map fun (i : Nat) => plan.settings.objectPath i).mapM
          Run.deleteObject) session b := by
  -- on the number of objects that are left
  induction rest with
  | zero =>
    rintro index session b rfl cleared
    exact Run.arrives_pure cleared
  | succ rest ih =>
    intro index session b count cleared
    rw [List.range'_succ, List.map_cons, List.mapM_cons]
    refine (deleteObject_conduct (by omega) cleared).bind fun _ session b cleared => ?_
    exact (ih (by omega) cleared).bind fun _ _ _ cleared => Run.arrives_pure cleared

theorem cleanup_conduct (counted : plan.settings.workerCount = .ok workers)
    (taken : b.Taken workers) :
    Run.Arrives (S := S) (conduct plan.settings workers) True
      (fun _ _ b' => b'.Cleared workers workers) (Run.cleanup plan) session b := by
  unfold Run.cleanup
  refine routine_arrives (.enter .cleanup) trivial fun _ => ?_
  have paths : plan.settings.objectPaths =
      .ok ((List.range' 0 workers).map fun (i : Nat) => plan.settings.objectPath i) := by
    rw [Settings.objectPaths, counted, ← List.range_eq_range']
    rfl
  rw [paths]
  -- what is taken is never awaited again, so each object may be deleted
  have start : b.Cleared workers 0 := ⟨taken, fun _ below => absurd below (Nat.not_lt_zero _)⟩
  exact (deleteFrom_conduct workers (Nat.zero_add _) start).bind
    fun _ _ _ cleared => Run.arrives_pure cleared

/-- The main thread keeps its books in every run; where the run comes to a report, the objects of all
workers are deleted. -/
theorem whole_conduct (counted : plan.settings.workerCount = .ok workers) (session : Session) :
    Run.Arrives (S := S) (conduct plan.settings workers) True
      (fun _ _ b' => ∀ k < workers, b'.marks k = .cleared) (Run.whole plan) session {} := by
  unfold Run.whole
  refine (prepare_conduct session).bind ?_
  rintro _ session _ ⟨prepared, rfl⟩
  refine routine_arrives (.log _) trivial fun _ => ?_
  refine routine_arrives (.newPool _ _) trivial fun pool => ?_
  refine Run.arrives_modify ?_
  have prepared : Prepared { session with pool := some pool } := prepared
  refine (phases_conduct counted pool prepared).bind ?_
  rintro ⟨written, readBack⟩ session b taken
  refine (cleanup_conduct counted taken).bind ?_
  rintro _ session b cleared
  refine routine_arrives (.enter .done) trivial fun _ => ?_
  refine routine_arrives (.log _) trivial fun _ => ?_
  exact Run.arrives_pure cleared.2

end

end Concert
end StoreMeter
