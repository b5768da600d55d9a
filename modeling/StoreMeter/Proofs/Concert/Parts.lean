import StoreMeter.Proofs.Concert.Scores
import StoreMeter.Proofs.Concert.Timeouts
/-
# Proofs.Concert.Parts — the part that a worker plays in a run

In a run the tasks of all workers go on among each other, and the main thread looks at the target,
makes workers late, takes tasks back and deletes objects.  What of all this reaches a worker is little: how
many steps its two tasks have made, whether it is late before its reader begins, and whether its object was
deleted.  With these alone its scores tell how far its tasks are, and what is at its path (`Plays`).

This needs that the tasks of a worker do not go on after a wait has named them, as the main thread
does not wait for them any more.  Nothing is said of such a worker, and nothing of it reaches the others.
-/
namespace StoreMeter
namespace Concert

open Storage (Operation)
open Storage.Memory (Stream Store)

variable {plan : Plan} {script : Script}

/-! ## Paths apart -/

/-- Each task works on the path of its worker. -/
def separate (plan : Plan) : Protocol Handle where
  Local := Unit
  env k := onPath (plan.settings.objectPath (workerOf plan.workers k)) (Besides (workerOf plan.workers k))
  Goal _ _ _ := True
  Quiet _ _ := True

/-- Nothing that tasks share matters for this. -/
abbrev unwatched (script : Script) (plan : Plan) : View (scripted script) (separate plan) :=
  fun _ _ _ => True

theorem separate_lawful (script : Script) (plan : Plan) :
    Protocol.Lawful (separate plan) (unwatched script plan) where
  own {k shared shared' l op reply fate time} _ allowed answered := by
    refine ⟨(), ?_, trivial⟩
    cases op with
    | storage op =>
      obtain ⟨store, answer, -⟩ := Shared.answer_storage.1 answered
      have stays : Stays _ op (Scene.answer script op shared.store).1 := On.stays allowed
      rwa [show Scene.answer script op shared.store = _ from answer] at stays
    | clock | log _ | isLate _ _ => trivial
  others _ _ _ _ _ := trivial

theorem separate_of_isJob {mode : Mode} {index : Nat} {job : Worker.Job Handle}
    (isJob : IsJob plan mode index job) (below : index < plan.workers)
    (shared : Shared (scripted script)) :
    (separate plan).Holds (unwatched script plan) (first plan.workers mode + index) shared
      (.queued job) := by
  refine ⟨(), trivial, ?_⟩
  simp only [separate, (placed_at mode below).2]
  cases mode with
  | write =>
    obtain ⟨size, payload, rfl⟩ := isJob
    exact writeJob_onPath plan.settings size payload index
  | read =>
    obtain ⟨size, rfl⟩ := isJob
    exact readJob_onPath plan.settings size plan.bufferSize index

/-- A question of a task leaves the paths of other workers alone. -/
theorem beside_answer {w : World (scripted script)}
    (sound : (separate plan).Sound (unwatched script plan) w) {k : Nat} {op : Worker.Op Handle}
    {next : op.Answer → Worker.Job Handle} (found : w.status? k = some (.running (.ask op next)))
    {fate : (scripted script).Fate} {time : Binary64} {reply : op.Answer}
    {shared : Shared (scripted script)} (answered : w.shared.answer fate time op = some (reply, shared))
    {j : Nat} (other : workerOf plan.workers k ≠ j) :
    SameAt (plan.settings.objectPath j) shared.store w.shared.store := by
  cases op with
  | storage op =>
    obtain ⟨store, answer, rfl⟩ := Shared.answer_storage.1 answered
    obtain ⟨_, _, asks⟩ := sound k _ found
    have own : On (plan.settings.objectPath (workerOf plan.workers k)) op := asks.1
    have beside : SameAt (plan.settings.objectPath j) (Scene.answer script op w.shared.store).2
        w.shared.store :=
      On.beside own fun same => other (plan.settings.objectPath_injective same).symm
    rwa [show Scene.answer script op w.shared.store = _ from answer] at beside
  | clock =>
    obtain ⟨-, -, rfl⟩ := Shared.answer_clock.1 answered
    exact .refl _ _
  | log _ | isLate _ _ =>
    cases answered
    exact .refl _ _

/-- What the clock has shown it has shown also after an answer. -/
theorem shown_answer {w : World (scripted script)} {op : Worker.Op Handle}
    {fate : (scripted script).Fate} {time : Binary64} {reply : op.Answer}
    {shared : Shared (scripted script)} (answered : w.shared.answer fate time op = some (reply, shared))
    {earlier : Binary64} (shown : Shown w.shared.clock earlier) : Shown shared.clock earlier := by
  rcases clock_of_answer answered with same | ⟨ticks, now⟩
  · rwa [same]
  · rw [now]
    exact shown.later ticks

/-! ## Parts -/

/-- What decides on the part of a worker in a run. -/
structure Part where
  plan : Plan
  size : Nat
  payload : ByteArray
  /-- What is written for the path of the worker. -/
  line : Line
  /-- The storage before the run. -/
  store : Store
  worker : Nat

namespace Part

/-- The path of the worker. -/
def path (part : Part) : String := part.plan.settings.objectPath part.worker

/-- The number of a task of the worker. -/
def task (part : Part) (mode : Mode) : Nat := first part.plan.workers mode + part.worker

/-- How far the writer is after so many steps.  While it goes on it is not late. -/
def writing (part : Part) (steps : Nat) : Score :=
  Score.after part.line false
    ⟨part.plan.job part.size part.payload .write part.worker, { store := part.store }⟩ steps

/-- How far the tasks of the worker are after so many steps of both.  The reader begins with what the
writer has left. -/
def score (part : Part) (late : Bool) (steps : Mode → Nat) : Mode → Score
  | .write => part.writing (steps .write)
  | .read => Score.after part.line late
    ⟨part.plan.job part.size part.payload .read part.worker, (part.writing (steps .write)).scene⟩
    (steps .read)

/-- Is a task of the worker told that the worker is late? -/
def told (late : Bool) : Mode → Bool
  | .write => false
  | .read => late

/-- A task is as far as a score. -/
def Follows (part : Part) (late : Bool) (clock : Option Binary64) : Status Handle → Score → Prop
  | .queued rest, score | .running rest, score =>
    ∃ since, (∀ time, since = some time → Shown clock time) ∧
      rest.Together (beside part.line part.path part.worker late) (fun r r' _ => AlikeTimeless r r')
        score.rest ⟨score.scene, since⟩
  | .ended r, score => ∃ r', score.rest = .done r' ∧ AlikeTimeless r r'
  | .takenBack, _ => True

variable {part : Part} {late : Bool} {score : Score} {clock : Option Binary64}

theorem Follows.later {clock' : Option Binary64} {status : Status Handle}
    (h : part.Follows late clock status score)
    (shown : ∀ time, Shown clock time → Shown clock' time) :
    part.Follows late clock' status score := by
  cases status with
  | queued rest | running rest =>
    obtain ⟨since, timely, together⟩ := h
    exact ⟨since, fun time told => shown time (timely time told), together⟩
  | ended r | takenBack => exact h

theorem Follows.cancel {status : Status Handle} (h : part.Follows late clock status score) :
    part.Follows late clock status.cancel.2 score := by
  cases status with
  | queued rest => trivial
  | running rest | ended r | takenBack => exact h

/-- A job that was just handed out is as far as a score that has not begun. -/
theorem follows_job (mode : Mode) (scene : Scene) :
    part.Follows late clock (.queued (part.plan.job part.size part.payload mode part.worker))
      ⟨part.plan.job part.size part.payload mode part.worker, scene⟩ :=
  ⟨none, nofun, job_together _ _ _ _ _ _ _ _⟩

/-- A task that comes to its end is as far as its score, which has come to its end, too. -/
theorem Follows.finish {r : Except Fault Outcome}
    (h : part.Follows late clock (.running (.done r)) score) :
    part.Follows late clock (.ended r) (score.next part.line late) ∧
      score.next part.line late = score := by
  obtain ⟨since, -, together⟩ := h
  obtain ⟨r', ended, alike⟩ := together.of_done
  rw [Score.next_of_done ended]
  exact ⟨⟨r', ended, alike⟩, rfl⟩

/-- A task that is answered goes on with its score. -/
theorem Follows.answer {shared shared' : Shared (scripted script)} {op : Worker.Op Handle}
    {next : op.Answer → Worker.Job Handle} {fate : (scripted script).Fate} {time : Binary64}
    {reply : op.Answer} (h : part.Follows late shared.clock (.running (.ask op next)) score)
    (cast : script part.path = part.line) (same : SameAt part.path shared.store score.scene)
    (told : shared.isLate 0 part.worker = late)
    (answered : shared.answer fate time op = some (reply, shared')) :
    part.Follows late shared'.clock (.running (next reply)) (score.next part.line late) ∧
      SameAt part.path shared'.store (score.next part.line late).scene := by
  obtain ⟨since, timely, together⟩ := h
  obtain ⟨op', next', asks', asks, further⟩ := together.of_ask
  obtain ⟨rest, scene⟩ := score
  obtain rfl : rest = .ask op' next' := asks'
  cases op with
  | storage op =>
    cases op' with
    | storage op' =>
      obtain ⟨rfl, own⟩ := asks
      obtain ⟨store, answer, rfl⟩ := Shared.answer_storage.1 answered
      -- the line of the part is what the script has for its path, so both answer alike
      let alone : Script := fun _ => part.line
      have agree : script part.path = alone part.path := cast
      obtain ⟨replies, kept⟩ := same.answer own agree
      rw [show Scene.answer script op' shared.store = _ from answer] at replies kept
      exact ⟨⟨since, timely, further _ _ _ ⟨replies, rfl, rfl⟩⟩, kept⟩
    | clock | log _ | isLate _ _ => cases asks
  | clock =>
    cases op' with
    | clock =>
      obtain ⟨ticks, rfl, rfl⟩ := Shared.answer_clock.1 answered
      refine ⟨⟨some reply, ?_, further _ _ _ ⟨steady_of_shown timely ticks, rfl, rfl⟩⟩, same⟩
      rintro _ ⟨⟩
      exact shown_now ticks
    | storage _ | log _ | isLate _ _ => cases asks
  | log _ =>
    cases op' with
    | log _ =>
      cases answered
      exact ⟨⟨since, timely, further _ _ _ rfl⟩, same⟩
    | storage _ | clock | isLate _ _ => cases asks
  | isLate _ _ =>
    cases op' with
    | isLate _ _ =>
      obtain ⟨⟨rfl, rfl⟩, -⟩ := asks
      cases answered
      exact ⟨⟨since, timely, further _ _ _ ⟨told, rfl, rfl⟩⟩, same⟩
    | storage _ | clock | log _ => cases asks

/-! ## Playing a part -/

variable {w w' : World (scripted script)} {d d' : Diary Handle} {mode : Mode}

/-- How many steps the diary tells of a task. -/
def steps (part : Part) (d : Diary Handle) (mode : Mode) : Nat := d.worked.count (part.task mode)

/-- A worker plays its part: its tasks are as far as their scores by the diary, and its object is as they
have left it, unless it was deleted. -/
structure Plays (part : Part) (late : Bool) (w : World (scripted script)) (d : Diary Handle) : Prop where
  tasks {mode : Mode} {status : Status Handle} (found : w.status? (part.task mode) = some status) :
    part.Follows (told late mode) w.shared.clock status (part.score late (part.steps d) mode)
  object (kept : part.path ∉ d.minutes.deletions.map Prod.fst) :
    SameAt part.path w.shared.store (part.score late (part.steps d) .read).scene
  gone (deleted : part.path ∈ d.minutes.deletions.map Prod.fst) :
    Store.get? (Scene.store w.shared.store) part.path = none

theorem task_ne (below : part.worker < part.plan.workers) {other : Mode} (apart : other ≠ mode) :
    part.task other ≠ part.task mode := by
  unfold task
  cases mode <;> cases other <;> simp only [first] <;> first | exact absurd rfl apart | omega

/-- A task that has made no step is as far as its job. -/
theorem score_fresh (part : Part) (late : Bool) {steps : Mode → Nat} (unplayed : steps mode = 0) :
    ∃ scene, part.score late steps mode =
      ⟨part.plan.job part.size part.payload mode part.worker, scene⟩ := by
  cases mode <;> exact ⟨_, by simp only [score, writing, unplayed, Score.after]; rfl⟩

/-- Where a task was as far as a score in one status, it is so in the other. -/
def Keeps (part : Part) (status status' : Status Handle) : Prop :=
  ∀ late clock score, part.Follows late clock status score → part.Follows late clock status' score

theorem keeps_refl (status : Status Handle) : part.Keeps status status := fun _ _ _ h => h

theorem keeps_cancel (status : Status Handle) : part.Keeps status status.cancel.2 :=
  fun _ _ _ h => h.cancel

theorem keeps_start (job : Worker.Job Handle) : part.Keeps (.queued job) (.running job) :=
  fun _ _ _ h => h

/-- What does not concern a part leaves it alone. -/
theorem Plays.go (h : part.Plays late w d)
    (tasks : ∀ mode status', w'.status? (part.task mode) = some status' →
      ∃ status, w.status? (part.task mode) = some status ∧ part.Keeps status status')
    (shown : ∀ time, Shown w.shared.clock time → Shown w'.shared.clock time)
    (same : SameAt part.path w'.shared.store w.shared.store) (steps : part.steps d' = part.steps d)
    (deletions : part.path ∈ d'.minutes.deletions.map Prod.fst ↔
      part.path ∈ d.minutes.deletions.map Prod.fst) : part.Plays late w' d' where
  tasks {mode status'} found := by
    obtain ⟨status, there, keeps⟩ := tasks mode status' found
    rw [steps]
    exact (keeps _ _ _ (h.tasks there)).later shown
  object kept := by
    rw [steps]
    exact same.trans (h.object fun deleted => kept (deletions.2 deleted))
  gone deleted := same.object.trans (h.gone (deletions.1 deleted))

/-- The object is deleted. -/
theorem Plays.delete (h : part.Plays late w d) (tasks : w'.tasks = w.tasks)
    (clock : w'.shared.clock = w.shared.clock)
    (gone : Store.get? (Scene.store w'.shared.store) part.path = none)
    (steps : part.steps d' = part.steps d)
    (deleted : part.path ∈ d'.minutes.deletions.map Prod.fst) : part.Plays late w' d' where
  tasks {mode status} found := by
    rw [World.status?, tasks] at found
    rw [steps, clock]
    exact h.tasks found
  object kept := absurd deleted kept
  gone _ := gone

/-- Before the reader of a worker begins it does not matter whether the worker is late. -/
theorem Plays.before (h : part.Plays late w d) (unread : w.status? (part.task .read) = none)
    (unplayed : part.steps d .read = 0) (late' : Bool) : part.Plays late' w d := by
  -- the score of a reader that has made no step is its job, late or not
  have same : (part.score late' (part.steps d) .read).scene = (part.score late (part.steps d) .read).scene := by
    simp only [score, unplayed, Score.after]
  refine ⟨fun {mode status} found => ?_, fun kept => same ▸ h.object kept, h.gone⟩
  cases mode with
  | write => exact h.tasks found
  | read =>
    rw [unread] at found
    cases found

/-- The object is as the task has left it that goes on. -/
theorem Plays.here (h : part.Plays late w d) (alone : mode = .write → part.steps d .read = 0)
    (undeleted : d.minutes.deletions = []) :
    SameAt part.path w.shared.store (part.score late (part.steps d) mode).scene := by
  have object := h.object (by rw [undeleted]; exact List.not_mem_nil)
  cases mode with
  | read => exact object
  -- the reader has not begun, so the object is as the writer has left it
  | write =>
    simp only [score, alone rfl, Score.after] at object
    exact object

/-- A job is handed out. -/
theorem Plays.submit (h : part.Plays late w d) (below : part.worker < part.plan.workers)
    (turn : w.tasks.length = part.task mode) (unplayed : part.steps d mode = 0) (pool : Nat)
    (steps : part.steps d' = part.steps d) (deletions : d'.minutes.deletions = d.minutes.deletions) :
    part.Plays late (w.submit pool (part.plan.job part.size part.payload mode part.worker)) d' := by
  refine ⟨fun {other status} found => ?_, fun kept => ?_, fun deleted => ?_⟩
  · rw [steps]
    rw [World.status?_submit, turn] at found
    by_cases same : other = mode
    · subst same
      rw [if_pos rfl] at found
      cases found
      obtain ⟨scene, fresh⟩ := score_fresh part late unplayed
      rw [fresh]
      exact follows_job other scene
    · rw [if_neg (task_ne below same)] at found
      exact h.tasks found
  · rw [steps]
    exact h.object (deletions ▸ kept)
  · exact h.gone (deletions ▸ deleted)

/-- One task of a worker goes one step further, and its score does, too.  The reader has not begun while
the writer goes on. -/
theorem Plays.goOn (h : part.Plays late w d) (below : part.worker < part.plan.workers)
    (alone : mode = .write → w.status? (part.task .read) = none ∧ part.steps d .read = 0)
    (undeleted : d'.minutes.deletions = []) (worked : d'.worked = d.worked ++ [part.task mode])
    (others : ∀ other, other ≠ mode → w'.status? (part.task other) = w.status? (part.task other))
    (shown : ∀ time, Shown w.shared.clock time → Shown w'.shared.clock time)
    (own : ∀ status, w'.status? (part.task mode) = some status →
      part.Follows (told late mode) w'.shared.clock status
        ((part.score late (part.steps d) mode).next part.line (told late mode)))
    (same : SameAt part.path w'.shared.store
      ((part.score late (part.steps d) mode).next part.line (told late mode)).scene) :
    part.Plays late w' d' := by
  -- the score goes on by one for this task, and stays for the other
  have further : part.steps d' mode = part.steps d mode + 1 := by
    simp [Part.steps, worked]
  have stays (other : Mode) (apart : other ≠ mode) : part.steps d' other = part.steps d other := by
    simp [Part.steps, worked, (task_ne below apart).symm]
  cases mode with
  | write =>
    obtain ⟨unread, unplayed⟩ := alone rfl
    have unplayed' := (stays .read (by decide)).trans unplayed
    refine ⟨fun {other status} found => ?_, fun _ => ?_, fun deleted => ?_⟩
    · cases other with
      | write =>
        simp only [score, writing, further, Score.after]
        exact own status found
      | read =>
        rw [others .read (by decide), unread] at found
        cases found
    · simp only [score, unplayed', Score.after, writing, further]
      exact same
    · rw [undeleted] at deleted
      cases deleted
  | read =>
    have stays := stays .write (by decide)
    refine ⟨fun {other status} found => ?_, fun _ => ?_, fun deleted => ?_⟩
    · cases other with
      | write =>
        rw [others .write (by decide)] at found
        simp only [score, stays]
        exact (h.tasks found).later shown
      | read =>
        simp only [score, stays, further, Score.after]
        exact own status found
    · simp only [score, stays, further, Score.after]
      exact same
    · rw [undeleted] at deleted
      cases deleted

/-- What is known of a task that goes on while the main thread still waits for it. -/
structure Awaited (part : Part) (w : World (scripted script)) (d : Diary Handle) (mode : Mode) :
    Prop where
  undeleted : d.minutes.deletions = []
  alone : mode = .write → w.status? (part.task .read) = none ∧ part.steps d .read = 0
  told : w.shared.isLate 0 part.worker = told (w.shared.isLate 0 part.worker) mode

/-- A task of the worker comes to its end. -/
theorem Plays.finish (h : part.Plays late w d) (below : part.worker < part.plan.workers)
    (known : part.Awaited w d mode) {result : Except Fault Outcome}
    (here : w.status? (part.task mode) = some (.running (.done result)))
    (worked : d'.worked = d.worked ++ [part.task mode])
    (deletions : d'.minutes.deletions = d.minutes.deletions) :
    part.Plays late (w.setStatus (part.task mode) (.ended result)) d' := by
  obtain ⟨ended, stays⟩ := (h.tasks here).finish
  refine h.goOn below known.alone (deletions.trans known.undeleted) worked (fun other apart => ?_)
    (fun _ => id) (fun status found => ?_) ?_
  · rw [World.status?_setStatus, if_neg (task_ne below apart)]
  · rw [World.status?_setStatus, if_pos rfl, here] at found
    cases found
    exact ended
  · rw [stays]
    exact h.here (fun writes => (known.alone writes).2) known.undeleted

/-- A task of the worker gets an answer. -/
theorem Plays.answer (h : part.Plays (w.shared.isLate 0 part.worker) w d)
    (below : part.worker < part.plan.workers) (cast : script part.path = part.line)
    (known : part.Awaited w d mode) {op : Worker.Op Handle} {next : op.Answer → Worker.Job Handle}
    {fate : (scripted script).Fate} {time : Binary64} {reply : op.Answer}
    {shared : Shared (scripted script)}
    (here : w.status? (part.task mode) = some (.running (.ask op next)))
    (answered : w.shared.answer fate time op = some (reply, shared))
    (worked : d'.worked = d.worked ++ [part.task mode])
    (deletions : d'.minutes.deletions = d.minutes.deletions) :
    part.Plays (w.shared.isLate 0 part.worker)
      ({ w with shared }.setStatus (part.task mode) (.running (next reply))) d' := by
  have own : SameAt part.path w.shared.store (part.score _ (part.steps d) mode).scene :=
    h.here (fun writes => (known.alone writes).2) known.undeleted
  obtain ⟨follows, same⟩ := (h.tasks here).answer cast own known.told answered
  refine h.goOn below known.alone (deletions.trans known.undeleted) worked (fun other apart => ?_)
    (fun _ => shown_answer answered) (fun status found => ?_) same
  · rw [World.status?_setStatus, if_neg (task_ne below apart)]
    rfl
  · have there : ({ w with shared } : World (scripted script)).status? (part.task mode) = _ := here
    rw [World.status?_setStatus, if_pos rfl, there] at found
    cases found
    exact follows

end Part

end Concert
end StoreMeter
