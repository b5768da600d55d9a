import StoreMeter.Proofs.Concert.Exact
import StoreMeter.Proofs.Concert.Layout
/-
# Proofs.Concert.Orderly — workers that nothing disturbs, side by side

On a reliable storage the workers of a phase run as if each of them were alone: their objects
differ, readers change nothing, and nobody is late.  So each comes to the outcome that it has alone
(`orderly_lawful`), and together they touch nothing but the objects of the writers (`Working.moves`).
As long as not all of them have ended, one of them can go on (`World.moves_on`).
-/
namespace StoreMeter
namespace Concert

open Storage (Operation)
open Storage.Memory (Stream Store)

/-! ## Contracts of the tasks -/

/-- The direction of a task by its number: writers are submitted before readers. -/
def modeOf (workers k : Nat) : Mode := if k < workers then .write else .read

/-- The worker whose task has this number. -/
def workerOf (workers k : Nat) : Nat := if k < workers then k else k - workers

theorem modeOf_write {workers k : Nat} : modeOf workers k = .write ↔ k < workers := by
  unfold modeOf
  split
  · exact iff_of_true rfl ‹_›
  · exact iff_of_false nofun ‹_›

theorem placed_at {workers index : Nat} (mode : Mode) (more : index < workers) :
    modeOf workers (first workers mode + index) = mode ∧
      workerOf workers (first workers mode + index) = index := by
  unfold modeOf workerOf
  cases mode with
  | write =>
    rw [first, Nat.zero_add, if_pos more, if_pos more]
    exact ⟨rfl, rfl⟩
  | read =>
    have reader : ¬ first workers .read + index < workers := by
      rw [first]
      omega
    rw [if_neg reader, if_neg reader, first]
    exact ⟨rfl, Nat.add_sub_cancel_left workers index⟩

/-- Two tasks of one phase are those of two workers. -/
theorem workerOf_injective {workers k j : Nat} (phase : modeOf workers k = modeOf workers j)
    (same : workerOf workers k = workerOf workers j) : k = j := by
  unfold modeOf at phase
  unfold workerOf at same
  by_cases early : k < workers <;> by_cases early' : j < workers <;>
    simp only [early, early', if_true, if_false, reduceCtorEq] at phase same <;> omega

/-- The contracts of the tasks in a phase: each comes to its one outcome, and its object is whole
then.  No task is taken back. -/
def orderly (settings : Settings) (workers size : Nat) (payload : ByteArray) (mode : Mode) :
    Protocol Stream where
  Local := Own
  env k := aloneEnv mode (settings.objectPath (workerOf workers k))
  Goal k r l := Exactly (modeOf workers k) (workerOf workers k) size r ∧ Holds payload size l
  Quiet _ _ := False

/-- What a worker sees of its object, of the clock and of the late workers. -/
structure Sees (path : String) (shared : Shared reliable) (l : Own) : Prop where
  object : shared.store.get? path = l.object
  timely : ∀ time, l.since = some time → Shown shared.clock time
  trusted : shared.lates = [.nobody]

/-- While objects are written there are writers only. -/
def sight (settings : Settings) (workers size : Nat) (payload : ByteArray) (mode : Mode) :
    View reliable (orderly settings workers size payload mode) :=
  fun k shared l => (mode = .write → k < workers) ∧
    Sees (settings.objectPath (workerOf workers k)) shared l

/-- The clock stays, or it goes on. -/
theorem clock_of_answer {S : Type} {B : Backend S} {shared shared' : Shared B} {op : Worker.Op S}
    {reply : op.Answer} {fate : B.Fate} {time : Binary64}
    (answered : shared.answer fate time op = some (reply, shared')) :
    shared'.clock = shared.clock ∨
      B.ticks shared.clock time = true ∧ shared'.clock = some time := by
  cases op with
  | clock =>
    obtain ⟨ticks, -, rfl⟩ := Shared.answer_clock.1 answered
    exact .inr ⟨ticks, rfl⟩
  | storage op | log entry | isLate late index =>
    cases answered
    exact .inl rfl

section
variable {path : String} {shared shared' : Shared reliable} {l : Own}

/-- A worker that asks sees what its surroundings say. -/
theorem Sees.asks (sees : Sees path shared l) {mode : Mode} {op : Worker.Op Stream}
    {reply : op.Answer} {fate : Unit} {time : Binary64}
    (answered : shared.answer fate time op = some (reply, shared')) :
    ∃ l', (aloneEnv mode path).Answers l op reply l' ∧ Sees path shared' l' := by
  cases op with
  | storage op =>
    obtain ⟨store, answer, rfl⟩ := Shared.answer_storage.1 answered
    exact ⟨{ l with object := store.get? path }, ⟨shared.store, store, sees.object, answer, rfl⟩,
      rfl, sees.timely, sees.trusted⟩
  | clock =>
    obtain ⟨ticks, rfl, rfl⟩ := Shared.answer_clock.1 answered
    refine ⟨{ l with since := some reply }, ⟨rfl, steady_of_shown sees.timely ticks⟩,
      sees.object, ?_, sees.trusted⟩
    intro _ told
    cases told
    exact shown_now ticks
  | log entry =>
    cases answered
    exact ⟨l, rfl, sees⟩
  | isLate late index =>
    cases answered
    refine ⟨l, ⟨?_, rfl⟩, sees⟩
    rw [Shared.isLate, sees.trusted]
    cases late <;> rfl

/-- Only an operation on the storage changes it. -/
theorem store_of_answer {op : Worker.Op Stream} {reply : op.Answer} {fate : Unit}
    {time : Binary64} (answered : shared.answer fate time op = some (reply, shared')) :
    shared'.store = shared.store ∨ ∃ asked, op = .storage asked ∧
      shared'.store = (Storage.Memory.answer asked shared.store).2 := by
  cases op with
  | storage op =>
    obtain ⟨store, answer, rfl⟩ := Shared.answer_storage.1 answered
    exact .inr ⟨op, rfl, (congrArg Prod.snd answer).symm⟩
  | clock =>
    obtain ⟨-, -, rfl⟩ := Shared.answer_clock.1 answered
    exact .inl rfl
  | log entry | isLate late index =>
    cases answered
    exact .inl rfl

/-- What leaves the object of a worker alone leaves what it sees. -/
theorem Sees.besides (sees : Sees path shared l) {op : Worker.Op Stream} {reply : op.Answer}
    {fate : Unit} {time : Binary64} (answered : shared.answer fate time op = some (reply, shared'))
    (apart : shared'.store.get? path = shared.store.get? path) : Sees path shared' l where
  object := apart.trans sees.object
  timely earlier seen := by
    rcases clock_of_answer answered with same | ⟨ticks, now⟩
    · rw [same]
      exact sees.timely earlier seen
    · rw [now]
      exact (sees.timely earlier seen).later ticks
  trusted := (Shared.lates_answer answered).trans sees.trusted

/-- A question of a worker changes no object but that of the worker, and only a writer does that. -/
theorem get?_of_answer {mode : Mode} {op : Worker.Op Stream} {reply : op.Answer} {fate : Unit}
    {time : Binary64} {other : String} (allowed : (aloneEnv mode path).Allows l op)
    (answered : shared.answer fate time op = some (reply, shared'))
    (apart : mode = .write → other ≠ path) :
    shared'.store.get? other = shared.store.get? other := by
  rcases store_of_answer answered with same | ⟨op, rfl, same⟩
  · rw [same]
  · rw [same]
    refine Storage.Memory.get?_answer op shared.store fun touched => ?_
    obtain ⟨writes, here⟩ := Concerns.touched allowed touched
    exact apart writes here

/-- A question of a worker changes nothing but its object, and only a writer does that. -/
theorem rest_of_answer {mode : Mode} {op : Worker.Op Stream} {reply : op.Answer} {fate : Unit}
    {time : Binary64} {paths : List String} (allowed : (aloneEnv mode path).Allows l op)
    (answered : shared.answer fate time op = some (reply, shared'))
    (mine : mode = .write → path ∈ paths) :
    shared'.store.without paths = shared.store.without paths := by
  rcases store_of_answer answered with same | ⟨op, rfl, same⟩
  · rw [same]
  · rw [same]
    refine Storage.Memory.without_answer (fun other touched => ?_) fun _ => allowed.no_dirs
    obtain ⟨writes, rfl⟩ := Concerns.touched allowed touched
    exact mine writes

end

section
variable {settings : Settings} {workers size : Nat} {payload : ByteArray} {mode : Mode}

/-- Nobody touches the object of another worker. -/
theorem orderly_lawful : Protocol.Lawful (orderly settings workers size payload mode)
    (sight settings workers size payload mode) where
  own view _ answered := by
    obtain ⟨l', answers, sees⟩ := view.2.asks answered
    exact ⟨l', answers, view.1, sees⟩
  others other view allowed answered seen := by
    refine ⟨seen.1, seen.2.besides answered (get?_of_answer allowed answered fun writes same => ?_)⟩
    -- two writers at one object would be the same writer
    have met := settings.objectPath_injective same
    rw [workerOf, workerOf, if_pos (view.1 writes), if_pos (seen.1 writes)] at met
    exact other met

end

/-! ## Tasks that have all ended -/

/-- Has every task ended? -/
def World.Still {S : Type} {B : Backend S} (w : World B) : Prop :=
  ∀ k status, w.status? k = some status → status.isEnded = true

namespace World.Still

variable {S : Type} {B : Backend S} {w w' : World B}

theorem ended (still : w.Still) {k : Nat} {status : Status S} (found : w.status? k = some status) :
    ∃ result, status = .ended result :=
  Status.exists_of_isEnded (still k status found)

theorem all (still : w.Still) {k : Nat} (below : k < w.tasks.length) :
    ∃ result, w.status? k = some (.ended result) := by
  obtain ⟨status, found⟩ := Option.isSome_iff_exists.1 (w.status?_isSome.1 below)
  obtain ⟨result, rfl⟩ := still.ended found
  exact ⟨result, found⟩

/-- Where all tasks have ended none of them goes on. -/
theorem no_moves (still : w.Still) : ¬ w.Moves w' := by
  intro moves
  obtain ⟨k, old, _, found, unfinished, -⟩ := moves.step.tasks
  obtain ⟨result, rfl⟩ := still.ended found
  cases unfinished

theorem takeBack (still : w.Still) (pool : Nat) : (w.takeBack pool).Still := by
  intro k status found
  obtain ⟨old, there, same⟩ := World.status?_takeBack found
  obtain ⟨result, rfl⟩ := still.ended there
  rcases same with rfl | rfl <;> rfl

end World.Still

/-! ## A phase while its workers work -/

/-- Each object of a run holds the payload over and over, up to the size. -/
def Written (settings : Settings) (workers size : Nat) (payload : ByteArray) (store : Store) : Prop :=
  ∀ index < workers, ∃ data, store.get? (settings.objectPath index) = some data ∧
    Repeats payload data size

/-- The workers of a phase keep their contracts, and nothing but their objects is changed; while
objects are read, they are all there. -/
structure Working (settings : Settings) (workers size : Nat) (before : Store) (mode : Mode)
    (payload : ByteArray) (w : World reliable) : Prop where
  sound : (orderly settings workers size payload mode).Sound
    (sight settings workers size payload mode) w
  rest : w.shared.store.without (settings.objects workers) =
    before.without (settings.objects workers)
  written : mode = .read → Written settings workers size payload w.shared.store

section
variable {settings : Settings} {workers size : Nat} {before : Store} {mode : Mode}
variable {payload : ByteArray} {w w' : World reliable}

theorem Working.moves (h : Working settings workers size before mode payload w)
    (moves : w.Moves w') : Working settings workers size before mode payload w' where
  sound := h.sound.step orderly_lawful moves.step
  rest := by
    refine h.sound.shared (Q := fun shared => Store.without shared.store (settings.objects workers) =
      before.without (settings.objects workers)) (fun _ view allowed answered => ?_) h.rest moves.step
    refine (rest_of_answer allowed answered fun writes => ?_).trans h.rest
    have writer := view.1 writes
    rw [workerOf, if_pos writer]
    exact Settings.objectPath_mem writer
  written := by
    intro same
    subst same
    refine h.sound.shared (Q := fun shared => Written settings workers size payload shared.store)
      (fun _ _ allowed answered index below => ?_) (h.written rfl) moves.step
    rw [get?_of_answer allowed answered nofun]
    exact h.written rfl index below

/-- Neither the tasks nor what they share has changed. -/
theorem Working.same (h : Working settings workers size before mode payload w)
    (tasks : w'.tasks = w.tasks) (shared : w'.shared = w.shared) :
    Working settings workers size before mode payload w' where
  sound := h.sound.mono tasks fun _ _ view => by rwa [shared]
  rest := by
    rw [shared]
    exact h.rest
  written := by
    rw [shared]
    exact h.written

/-- A new worker with its own job. -/
theorem Working.submit (h : Working settings workers size before mode payload w) {index : Nat}
    (more : index < workers) (count : w.tasks.length = first workers mode + index)
    (trusted : w.shared.lates = [.nobody]) {job : Worker.Job Stream}
    (does : ∀ l : Own, (mode = .read → Holds payload size l) →
      job.Ends (aloneEnv mode (settings.objectPath index))
        (fun r l => Exactly mode index size r ∧ Holds payload size l) l) :
    Working settings workers size before mode payload (w.submit 0 job) where
  sound := by
    have placed := count ▸ placed_at mode more
    have sees : Sees (settings.objectPath index) w.shared
        ⟨w.shared.store.get? (settings.objectPath index), none⟩ := by
      refine ⟨rfl, ?_, trusted⟩
      intro time told
      cases told
    refine h.sound.submit ⟨⟨w.shared.store.get? (settings.objectPath index), none⟩, ⟨?_, ?_⟩, ?_⟩
    · intro same
      subst same
      rw [count, first]
      omega
    · rw [placed.2]
      exact sees
    · have ends := does ⟨w.shared.store.get? (settings.objectPath index), none⟩ (fun reads => by
        obtain ⟨data, there, repeats⟩ := h.written reads index more
        exact ⟨data, there, repeats⟩)
      unfold orderly
      dsimp only
      rw [placed.1, placed.2]
      exact ends
  rest := h.rest
  written := h.written

/-- After the writers have ended all objects are there, and readers can come. -/
theorem Working.again (h : Working settings workers size before .write payload w)
    (still : w.Still) (all : ∀ index < workers, index < w.tasks.length) :
    Working settings workers size before .read payload w where
  sound k status found := by
    obtain ⟨result, rfl⟩ := still.ended found
    obtain ⟨l, view, goal⟩ := h.sound k _ found
    exact ⟨l, ⟨nofun, view.2⟩, goal⟩
  rest := h.rest
  written := by
    rintro - index below
    obtain ⟨result, found⟩ := still.all (all index below)
    obtain ⟨l, view, -, data, object, repeats⟩ := h.sound index _ found
    have there := view.2.object
    rw [workerOf, if_pos below] at there
    exact ⟨data, there.trans object, repeats⟩

end

/-! ## One of them can go on -/

/-- A clock that can show a time. -/
def Goes (clock : Option Binary64) : Prop := ∃ time, steady clock time = true

theorem goes_on {clock : Option Binary64} {time : Binary64} (ticks : steady clock time = true) :
    Goes (some time) := by
  obtain ⟨_, ⟨⟩, again⟩ := shown_now ticks
  exact ⟨time, again⟩

theorem World.Step.goes {S : Type} {B : Backend S} {w w' : World B} (h : w.Step w')
    (steadily : B.ticks = steady) (goes : Goes w.shared.clock) : Goes w'.shared.clock := by
  cases h with
  | start here | finish here => exact goes
  | answer here answered =>
    rcases clock_of_answer answered with same | ⟨ticks, now⟩
    · rw [World.shared_setStatus, same]
      exact goes
    · rw [World.shared_setStatus, now]
      exact goes_on (steadily ▸ ticks)

/-- A worker that asks can be answered. -/
theorem World.moves_of_running {S : Type} {B : Backend S} {w : World B} (fate : B.Fate)
    (steadily : B.ticks = steady) (goes : Goes w.shared.clock) {k : Nat} {rest : Worker.Job S}
    (found : w.status? k = some (.running rest)) : ∃ w', w.Moves w' := by
  obtain ⟨time, ticks⟩ := goes
  have worked : (w.work k fate time).isSome = true := by
    unfold World.work
    rw [found]
    cases rest with
    | done result => rfl
    | ask op next =>
      cases op with
      | storage op | log entry | isLate late index => rfl
      | clock =>
        have answer : w.shared.answer fate time .clock =
            some (time, { w.shared with clock := some time }) := if_pos (steadily ▸ ticks)
        simp only [answer]
        rfl
  obtain ⟨w', worked⟩ := Option.isSome_iff_exists.1 worked
  exact ⟨w', k, .inr ⟨fate, time, worked⟩⟩

/-- A task that waits can be started while nobody works. -/
theorem World.start_of_idle {S : Type} {B : Backend S} {w : World B} {room : Nat}
    (pools : w.pools = [room]) (some_room : 0 < room) (pool : ∀ task ∈ w.tasks, task.pool = 0)
    (idle : ∀ k rest, w.status? k ≠ some (.running rest)) {k : Nat} {job : Worker.Job S}
    (found : w.status? k = some (.queued job)) : ∃ w', w.Moves w' := by
  obtain ⟨⟨number, _⟩, there, rfl⟩ := Option.map_eq_some_iff.1 found
  obtain rfl : number = 0 := pool _ (List.mem_of_getElem? there)
  have nobody : w.busy 0 = 0 := by
    refine List.countP_eq_zero.2 fun task member works => ?_
    obtain ⟨j, here⟩ := List.mem_iff_getElem?.1 member
    have status : w.status? j = some task.status := Option.map_eq_some_iff.2 ⟨task, here, rfl⟩
    cases running : task.status with
    | running rest => exact idle j rest (running ▸ status)
    | queued job | ended result | takenBack => simp [running, Status.isRunning] at works
  refine ⟨w.setStatus k (.running job), k, .inl ?_⟩
  have started : w.start k =
      if w.busy 0 < w.pools[0]?.getD 0 then some (w.setStatus k (.running job)) else none := by
    rw [start, there]
  rw [started, nobody, pools]
  exact if_pos some_room

/-- As long as not all tasks have ended, one of them can go on. -/
theorem World.moves_on {S : Type} {B : Backend S} {w : World B} (fate : B.Fate)
    (steadily : B.ticks = steady) {room : Nat} (goes : Goes w.shared.clock)
    (pools : w.pools = [room]) (some_room : 0 < room) (pool : ∀ task ∈ w.tasks, task.pool = 0)
    (kept : ∀ k, w.status? k ≠ some .takenBack) (active : ¬ w.Still) : ∃ w', w.Moves w' := by
  by_cases works : ∃ k rest, w.status? k = some (.running rest)
  · obtain ⟨k, rest, found⟩ := works
    exact w.moves_of_running fate steadily goes found
  -- where nobody works the pool has room, and what has not ended waits to be started
  · unfold Still at active
    push Not at active
    obtain ⟨k, status, found, unfinished⟩ := active
    cases status with
    | queued job =>
      exact w.start_of_idle pools some_room pool (fun j rest there => works ⟨j, rest, there⟩) found
    | running rest => exact absurd ⟨k, rest, found⟩ works
    | ended result => exact absurd rfl unfinished
    | takenBack => exact absurd found (kept k)

/-- Whatever steps are taken, all tasks have ended at last, if one of them can go on until then. -/
theorem World.ends_at_last {P : World reliable → Prop}
    (keeps : ∀ w w', w.Moves w' → P w → P w') (goes_on : ∀ w, P w → ¬ w.Still → ∃ w', w.Moves w')
    {w : World reliable} (h : P w) : Inevitable World.Moves World.Still w := by
  have shrinks : WellFounded (InvImage (Relation.CutExpand (Status.Next (S := Stream)))
      (World.statuses (B := reliable))) :=
    have := Status.Next.wellFounded (S := Stream).irrefl
    InvImage.wf _ Status.Next.wellFounded.cutExpand
  induction w using shrinks.induction with
  | _ w ih =>
    by_cases still : w.Still
    · exact .here still
    · exact .later (goes_on w h still) fun w' moves => ih w' moves.step.next (keeps w w' moves h)

end Concert
end StoreMeter
