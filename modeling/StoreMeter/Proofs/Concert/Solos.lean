import StoreMeter.Proofs.Concert.Parts
/-
# Proofs.Concert.Solos — in a run each worker plays its own part

The tasks of a worker go on among those of all others, but only its own steps take them further, and
only the main thread and they touch its object.  So after every list of decisions a worker plays its
part (`Solos`), as long as its tasks rest when a wait has named them.

That a task has not been named tells much when it goes on: a writer is not late then, and its reader has
not begun, and no object has been deleted (`Timely.unread`, `Timely.uncleaned`).
-/
namespace StoreMeter
namespace Concert

open Storage (Operation)
open Storage.Memory (Stream Store)

/-! ## Tasks that were not named -/

section
variable {S : Type} {B : Backend S} {plan : Plan} {d : Diary S}
variable {s : State B (Except Fault Tally × Session)}

/-- A task that was never taken up has made no step. -/
theorem Booked.unworked (h : Booked plan s d) {k : Nat} (idle : s.world.hasBegun k = false) :
    d.worked.count k = 0 := by
  refine List.count_eq_zero.2 fun there => ?_
  have begun := (h.begun k).1 (h.worked there)
  rw [idle] at begun
  cases begun

theorem World.idle_of_none {w : World B} {k : Nat} (none : w.status? k = none) :
    w.hasBegun k = false := by
  rw [hasBegun, none]
  rfl

/-- Before the read phase there are no readers. -/
theorem Booked.no_reader (h : Booked plan s d) (unread : .readPhase ∉ d.minutes.stages) {k : Nat}
    (reader : plan.workers ≤ k) : s.world.status? k = none := by
  have order := h.orderly.minuted.order
  have borne := h.orderly.minuted.borne
  refine Option.not_isSome_iff_eq_none.1 fun there => unread (order.readers ?_)
  -- there is a task beyond those of the writers, so the readers have begun
  have count := s.world.status?_isSome.2 there
  rw [borne.tasks] at count
  omega

/-- While a writer goes on that was not named nothing is read. -/
theorem Timely.unread (h : Timely plan s d) {k : Nat} {rest : Worker.Job S} (writer : k < plan.workers)
    (unnamed : k ∉ d.named) (running : s.world.status? k = some (.running rest)) :
    .readPhase ∉ d.minutes.stages := by
  intro reading
  obtain ⟨result, ended, -⟩ := h.finished reading writer unnamed
  rw [running] at ended
  cases ended

/-- While a task goes on that was not named the run does not clean up. -/
theorem Timely.uncleaned (h : Timely plan s d) {k : Nat} {rest : Worker.Job S}
    (below : k < plan.workers + plan.workers) (unnamed : k ∉ d.named)
    (running : s.world.status? k = some (.running rest)) : .cleanup ∉ d.minutes.stages := by
  intro cleaning
  have minuted := h.booked.orderly.minuted
  obtain ⟨taking, taken⟩ := minuted.order.readersTaken cleaning k below
  cases taking with
  | ended result =>
    have ended := minuted.borne.ended taken
    rw [running] at ended
    cases ended
  | takenBack =>
    have back := minuted.borne.takenBack taken
    rw [running] at back
    cases back
  | givenUp => exact unnamed (h.booked.dealt taken).1

/-- Who was not named is not late. -/
theorem Timely.not_late (h : Timely plan s d) {k : Nat} (unnamed : k ∉ d.named) :
    s.world.shared.isLate 0 k = false := by
  refine Bool.eq_false_iff.2 fun late => ?_
  obtain ⟨j, -, same, named, -⟩ := h.late_named late
  exact unnamed (Int.ofNat_inj.1 same ▸ named)

end

/-! ## Objects are deleted in their order -/

/-- Objects are deleted while a run cleans up, in the order of the workers. -/
structure Clears {S : Type} (plan : Plan) (m : Minutes S) : Prop where
  cleaning : m.deletions ≠ [] → .cleanup ∈ m.stages
  order : m.deletions.map Prod.fst =
    (List.range m.deletions.length).map fun (index : Nat) => plan.settings.objectPath index

namespace Clears

variable {S : Type} {plan : Plan} {m m' : Minutes S}

theorem go (h : Clears plan m) (stages : m.stages ⊆ m'.stages)
    (deletions : m'.deletions = m.deletions) : Clears plan m' where
  cleaning some := stages (h.cleaning (deletions ▸ some))
  order := deletions ▸ h.order

theorem note (h : Clears plan m) {op : Conductor.Op S} (fits : Fits plan m op) (reply : op.Answer) :
    Clears plan (m.note op reply) := by
  cases op with
  | storage op =>
    cases op with
    | delete path =>
      obtain ⟨here, -, -, rfl⟩ := fits
      refine ⟨fun _ => List.mem_of_getLast? here, ?_⟩
      simp [Minutes.note, Minutes.delete, h.order, List.range_succ]
    | isPresent _ | makeDirs _ | create _ | openRead _ | write _ _ | flush _ | read _ _ | close _ =>
      exact h.go (List.Subset.refl _) rfl
  | enter stage => exact h.go (List.subset_append_left _ _) rfl
  | log _ | entropy _ | newPool _ _ | submit _ _ | wait _ _ _ | cancel _ _ | result _ _
    | shutdown _ _ _ | newLate | addLate _ _ | lateIndexes _ => exact h.go (List.Subset.refl _) rfl

/-- Which objects have been deleted. -/
theorem mem_iff (h : Clears plan m) (worker : Nat) :
    plan.settings.objectPath worker ∈ m.deletions.map Prod.fst ↔ worker < m.deletions.length := by
  rw [h.order, List.mem_map]
  constructor
  · rintro ⟨index, below, same⟩
    exact plan.settings.objectPath_injective same ▸ List.mem_range.1 below
  · exact fun below => ⟨worker, List.mem_range.2 below, rfl⟩

end Clears

/-! ## What answers to the main thread leave alone -/

namespace World

variable {S : Type} {B : Backend S} {w w' : World B} {fate : B.Fate}
variable {random : Except Fault ByteArray} {unfinished : List Nat} {op : Conductor.Op S}
variable {reply : op.Answer}

/-- Only handing out a job makes a new task. -/
theorem status?_kept (answered : w.answer fate random unfinished op = some (reply, w'))
    (no_job : ∀ pool job, op ≠ .submit pool job) {k : Nat} {status' : Status S}
    (found : w'.status? k = some status') :
    ∃ status, w.status? k = some status ∧ (status' = status ∨ status' = status.cancel.2) := by
  rcases status?_answer answered k with same | taken | ⟨job, fresh, -⟩
  · exact ⟨status', same ▸ found, .inl rfl⟩
  · rw [taken] at found
    obtain ⟨status, there, rfl⟩ := Option.map_eq_some_iff.1 found
    exact ⟨status, there, .inr rfl⟩
  · -- there are as many tasks as before
    have count : w'.tasks.length = w.tasks.length := by
      cases op with
      | submit pool job => exact absurd rfl (no_job pool job)
      | cancel pool j =>
        obtain ⟨status, -, -, rfl⟩ := answer_cancel.1 answered
        exact w.length_setStatus j _
      | entropy _ =>
        obtain ⟨-, -, rfl⟩ := answer_entropy.1 answered
        rfl
      | wait _ _ _ =>
        obtain ⟨-, -, rfl⟩ := answer_wait.1 answered
        rfl
      | result _ _ =>
        obtain ⟨-, rfl⟩ := answer_result.1 answered
        rfl
      | shutdown pool waits cancels =>
        obtain ⟨rfl, -⟩ := answer_shutdown.1 answered
        cases cancels with
        | false => rfl
        | true => exact List.length_map _
      | storage _ | log _ | newPool _ _ | newLate | addLate _ _ | lateIndexes _ | enter _ =>
        cases answered
        rfl
    have there := w'.status?_isSome.2 (Option.isSome_iff_exists.2 ⟨status', found⟩)
    rw [count, w.status?_isSome, fresh] at there
    cases there

/-- The clock does not go on for the main thread, and only operations of the storage change it. -/
theorem shared_kept (answered : w.answer fate random unfinished op = some (reply, w')) :
    w'.shared.clock = w.shared.clock ∧
      ((∀ call, op ≠ .storage call) → w'.shared.store = w.shared.store) := by
  rw [shared_answer answered]
  cases op with
  | storage call => exact ⟨rfl, fun no_call => absurd rfl (no_call call)⟩
  | log _ | entropy _ | newPool _ _ | submit _ _ | wait _ _ _ | cancel _ _ | result _ _
    | shutdown _ _ _ | newLate | addLate _ _ | lateIndexes _ | enter _ => exact ⟨rfl, fun _ => rfl⟩

end World

/-! ## Solos -/

variable {plan : Plan} {size : Nat} {script : Script} {store : Store}

/-- The part of a worker in a run. -/
def Script.part (script : Script) (plan : Plan) (size : Nat) (payload : ByteArray) (store : Store)
    (worker : Nat) : Part :=
  { plan, size, payload, line := script (plan.settings.objectPath worker), store, worker }

/-- No task of a worker went on after a wait had named it. -/
def Diary.Rests {S : Type} (plan : Plan) (d : Diary S) (worker : Nat) : Prop :=
  ∀ mode, first plan.workers mode + worker ∉ d.restless

/-- Each worker of a run plays its part as long as its tasks rest when they have been named. -/
structure Solos (plan : Plan) (size : Nat) (script : Script) (store : Store)
    (s : State (scripted script) (Except Fault Tally × Session)) (d : Diary Handle) : Prop where
  timely : Timely plan s d
  separate : (separate plan).Sound (unwatched script plan) s.world
  clears : Clears plan d.minutes
  plays {worker : Nat} {payload : ByteArray} (below : worker < plan.workers)
    (rests : d.Rests plan worker) (drawn : ∀ bytes ∈ s.world.drawn, bytes = payload) :
    (script.part plan size payload store worker).Plays (s.world.shared.isLate 0 worker) s.world d

namespace Solos

variable {s s' : State (scripted script) (Except Fault Tally × Session)} {d d' : Diary Handle}
variable {worker : Nat} {payload : ByteArray} {mode : Mode}

/-- The main thread waits for a task that goes on and was not named. -/
theorem awaited (h : Solos plan size script store s d) (below : worker < plan.workers)
    {rest : Worker.Job Handle} (unnamed : first plan.workers mode + worker ∉ d.named)
    (running : s.world.status? (first plan.workers mode + worker) = some (.running rest)) :
    (script.part plan size payload store worker).Awaited s.world d mode where
  undeleted := by
    have few : first plan.workers mode + worker < plan.workers + plan.workers := by
      cases mode <;> simp only [first] <;> omega
    by_contra some
    exact h.timely.uncleaned few unnamed running (h.clears.cleaning some)
  alone := by
    rintro rfl
    rw [first, Nat.zero_add] at unnamed running
    have none := h.timely.booked.no_reader (h.timely.unread below unnamed running)
      (Nat.le_add_right plan.workers worker)
    exact ⟨none, h.timely.booked.unworked (World.idle_of_none none)⟩
  told := by
    cases mode with
    | read => rfl
    | write =>
      rw [first, Nat.zero_add] at unnamed
      exact h.timely.not_late unnamed

/-- A task that goes on and rests when it is named has not been named. -/
theorem unnamed_of_goOn {k : Nat} (rests : k ∉ (d.goOn k).restless) : k ∉ d.named := by
  intro named
  exact rests (List.mem_append_right _ (by simpa using named))

theorem rests_goOn {k : Nat} (rests : (d.goOn k).Rests plan worker) : d.Rests plan worker :=
  fun mode there => rests mode (List.mem_append_left _ there)

/-! ### Steps of tasks -/

/-- The tasks of a worker are its writer and its reader. -/
theorem workerOf_ne {k : Nat} (others : ∀ mode, k ≠ first plan.workers mode + worker) :
    workerOf plan.workers k ≠ worker := by
  have writer := others .write
  have reader := others .read
  unfold workerOf
  simp only [first] at writer reader
  split <;> omega

/-- A task of another worker takes no task of this one further. -/
theorem steps_goOn {part : Part} {k : Nat} (others : ∀ mode, k ≠ part.task mode) :
    part.steps (d.goOn k) = part.steps d := by
  funext mode
  simp [Part.steps, Diary.goOn, others mode]

/-- A task is taken up. -/
theorem start {part : Part} {late : Bool} {w : World (scripted script)} (plays : part.Plays late w d)
    {k : Nat} {job : Worker.Job Handle} (here : w.status? k = some (.queued job)) :
    part.Plays late (w.setStatus k (.running job)) { d with begun := d.begun ++ [k] } := by
  refine plays.go (fun mode status found => ?_) (fun _ => id) (.refl _ _) rfl Iff.rfl
  rw [World.status?_setStatus] at found
  split at found
  · rename_i same
    rw [same, here] at found
    cases found
    exact ⟨_, same ▸ here, Part.keeps_start job⟩
  · exact ⟨status, found, Part.keeps_refl status⟩

/-- A task of the worker comes to its end. -/
theorem finish (h : Solos plan size script store s d) (below : worker < plan.workers)
    (drawn : ∀ bytes ∈ s.world.drawn, bytes = payload) {k : Nat} {result : Except Fault Outcome}
    (here : s.world.status? k = some (.running (.done result)))
    (rests : (d.goOn k).Rests plan worker) :
    (script.part plan size payload store worker).Plays (s.world.shared.isLate 0 worker)
      (s.world.setStatus k (.ended result)) (d.goOn k) := by
  have plays := h.plays below (rests_goOn rests) drawn
  by_cases own : ∃ mode, k = first plan.workers mode + worker
  · obtain ⟨mode, rfl⟩ := own
    exact plays.finish below (h.awaited below (unnamed_of_goOn (rests mode)) here) here rfl rfl
  · have others (mode : Mode) : k ≠ (script.part plan size payload store worker).task mode :=
      fun same => own ⟨mode, same⟩
    refine plays.go (fun mode status found => ?_) (fun _ => id) (.refl _ _) ?_ Iff.rfl
    · rw [World.status?_setStatus, if_neg (others mode).symm] at found
      exact ⟨status, found, Part.keeps_refl status⟩
    · exact steps_goOn others

/-- A task gets an answer. -/
theorem work (h : Solos plan size script store s d) (below : worker < plan.workers)
    (drawn : ∀ bytes ∈ s.world.drawn, bytes = payload) {k : Nat} {op : Worker.Op Handle}
    {next : op.Answer → Worker.Job Handle} {fate : (scripted script).Fate} {time : Binary64}
    {reply : op.Answer} {shared : Shared (scripted script)} {calls : List (Caller × Operation Handle)}
    (here : s.world.status? k = some (.running (.ask op next)))
    (answered : s.world.shared.answer fate time op = some (reply, shared))
    (rests : (d.goOn k).Rests plan worker) :
    (script.part plan size payload store worker).Plays (s.world.shared.isLate 0 worker)
      ({ s.world with shared }.setStatus k (.running (next reply))) { d.goOn k with calls } := by
  have plays := h.plays below (rests_goOn rests) drawn
  by_cases own : ∃ mode, k = first plan.workers mode + worker
  · obtain ⟨mode, rfl⟩ := own
    exact plays.answer below rfl (h.awaited below (unnamed_of_goOn (rests mode)) here) here answered
      rfl rfl
  · have others (mode : Mode) : k ≠ (script.part plan size payload store worker).task mode :=
      fun same => own ⟨mode, same⟩
    have beside := beside_answer h.separate here answered (workerOf_ne others)
    refine plays.go (fun mode status found => ?_) (fun _ => shown_answer answered) beside ?_ Iff.rfl
    · rw [World.status?_setStatus, if_neg (others mode).symm] at found
      exact ⟨status, found, Part.keeps_refl status⟩
    · exact steps_goOn others

/-! ### Answers to the main thread -/

section
variable {op : Conductor.Op Handle} {reply : op.Answer} {fate : (scripted script).Fate}
variable {next : op.Answer → Conductor.Program Handle (Except Fault Tally × Session)}
variable {random : Except Fault ByteArray} {unfinished : List Nat} {w' : World (scripted script)}
variable {named : List Nat} {calls : List (Caller × Operation Handle)}

/-- A worker plays the same part when it is made late: its reader has not begun then. -/
theorem relate (h : Solos plan size script store s d) (below : worker < plan.workers)
    (rests : d.Rests plan worker) (drawn : ∀ bytes ∈ s.world.drawn, bytes = payload)
    (asks : s.main = .ask op next)
    (answered : s.world.answer fate random unfinished op = some (reply, w')) :
    (script.part plan size payload store worker).Plays (w'.shared.isLate 0 worker) s.world d := by
  have plays := h.plays below rests drawn
  have booked := h.timely.booked
  rcases booked.isLate_answer asks answered with ⟨writing, -⟩ | same
  · have none : s.world.status? (plan.workers + worker) = none := by
      refine Option.not_isSome_iff_eq_none.1 fun there => ?_
      exact booked.reading (Nat.le_add_right plan.workers worker) there writing
    exact plays.before none (booked.unworked (World.idle_of_none none)) _
  · rw [same]
    exact plays

/-- An answer that hands out no job and leaves the path of the worker alone. -/
theorem keep {part : Part} {late : Bool} {w : World (scripted script)} (plays : part.Plays late w d)
    (answered : w.answer fate random unfinished op = some (reply, w'))
    (no_job : ∀ pool job, op ≠ .submit pool job)
    (same : SameAt part.path w'.shared.store w.shared.store)
    (deletions : part.path ∈ (d.minutes.note op reply).deletions.map Prod.fst ↔
      part.path ∈ d.minutes.deletions.map Prod.fst) :
    part.Plays late w' { d with minutes := d.minutes.note op reply, named, calls } := by
  refine plays.go (fun mode status' found => ?_) (fun _ shown => ?_) same rfl deletions
  · obtain ⟨status, there, rfl | rfl⟩ := World.status?_kept answered no_job found
    · exact ⟨status', there, Part.keeps_refl status'⟩
    · exact ⟨status, there, Part.keeps_cancel status⟩
  · rw [(World.shared_kept answered).1]
    exact shown

/-- A job is handed out, to the worker or to another one. -/
theorem submit (h : Solos plan size script store s d) (checked : Run.check plan = .ok size)
    (below : worker < plan.workers) (drawn : ∀ bytes ∈ s.world.drawn, bytes = payload) {late : Bool}
    (plays : (script.part plan size payload store worker).Plays late s.world d)
    {pool : Nat} {job : Worker.Job Handle}
    (heeds : Heeds plan ⟨d.minutes, d.named, s.world.drawn⟩ (.submit pool job)) {n : Nat} :
    (script.part plan size payload store worker).Plays late (s.world.submit pool job)
      { d with minutes := d.minutes.note (.submit pool job) n, named, calls } := by
  obtain ⟨mode, index, size', payload', below', turn, checked', given, rfl⟩ := heeds
  obtain rfl : size = size' := by
    rw [checked] at checked'
    exact Except.ok.inj checked'
  obtain rfl : payload' = payload := drawn payload' (by
    rw [show s.world.drawn = [payload'] from given]
    exact List.mem_singleton_self _)
  have count : s.world.tasks.length = first plan.workers mode + index :=
    h.timely.booked.orderly.minuted.borne.tasks.trans turn
  -- the job gets the next number, and no task has it yet
  have fresh : s.world.status? (first plan.workers mode + index) = none := by
    rw [← count, World.status?, List.getElem?_eq_none (Nat.le_refl _)]
    rfl
  by_cases own : index = worker
  · subst own
    exact plays.submit below count (h.timely.booked.unworked (World.idle_of_none fresh)) pool rfl rfl
  · refine plays.go (fun other status found => ?_) (fun _ => id) (.refl _ _) rfl Iff.rfl
    have another : (script.part plan size payload' store worker).task other ≠ s.world.tasks.length := by
      intro same
      have places := (placed_at mode below').2
      rw [← count, ← same] at places
      exact own (places.symm.trans (placed_at other below).2)
    rw [World.status?_submit, if_neg another] at found
    exact ⟨status, found, Part.keeps_refl status⟩

/-- The storage answers the main thread. -/
theorem call {late : Bool}
    (plays : (script.part plan size payload store worker).Plays late s.world d)
    {op : Operation Handle} {reply : op.Answer} (fits : Fits plan d.minutes (.storage op))
    (answered : s.world.answer fate random unfinished (.storage op) = some (reply, w')) :
    (script.part plan size payload store worker).Plays late w'
      { d with minutes := d.minutes.note (.storage op) reply, named, calls } := by
  obtain ⟨after, answer, rfl⟩ := World.answer_storage.1 answered
  have left : (Scene.answer script op s.world.shared.store).2 = after := congrArg Prod.snd answer
  cases op with
  | isPresent path | makeDirs path =>
    refine keep plays answered (fun _ _ same => by cases same) ?_ Iff.rfl
    rw [← show _ = (s.world.withStore after).shared.store from left]
    exact scene_beside (Option.some_ne_none _).symm fun _ => (Option.some_ne_none _).symm
  | delete path =>
    obtain ⟨-, -, -, rfl⟩ := fits
    -- objects are deleted in the order of the workers
    by_cases own : worker = d.minutes.deletions.length
    · subst own
      refine plays.delete rfl rfl ?_ rfl (by simp [Minutes.note, Minutes.delete]; exact .inr rfl)
      rw [← show _ = (s.world.withStore after).shared.store from left]
      exact Storage.Memory.get?_delete _ _
    · have apart : (script.part plan size payload store worker).path ≠
          plan.settings.objectPath d.minutes.deletions.length :=
        fun same => own (plan.settings.objectPath_injective same)
      refine keep plays answered (fun _ _ same => by cases same) ?_ ?_
      · rw [← show _ = (s.world.withStore after).shared.store from left]
        exact On.beside rfl apart
      · simp [Minutes.note, Minutes.delete, apart]
  | create _ | openRead _ | write _ _ | flush _ | read _ _ | close _ => cases fits

/-- An answer to the main thread keeps the part of a worker. -/
theorem answer (h : Solos plan size script store s d) (checked : Run.check plan = .ok size)
    (below : worker < plan.workers) (rests : d.Rests plan worker)
    (drawn : ∀ bytes ∈ w'.drawn, bytes = payload) (asks : s.main = .ask op next)
    (answered : s.world.answer fate random unfinished op = some (reply, w')) :
    (script.part plan size payload store worker).Plays (w'.shared.isLate 0 worker) w'
      { d with minutes := d.minutes.note op reply, named, calls } := by
  have drawn : ∀ bytes ∈ s.world.drawn, bytes = payload := fun bytes there =>
    drawn bytes (by rw [drawn_of_answer answered]; exact List.mem_append_left _ there)
  have plays := h.relate below rests drawn asks answered
  have asking := h.timely.booked.orderly.minuted.asks
  have heeding := h.timely.booked.heeds
  rw [asks] at asking heeding
  cases op with
  | submit pool job =>
    cases answered
    exact h.submit checked below drawn plays heeding.1
  | storage op => exact call plays asking.1 answered
  | log _ | entropy _ | newPool _ _ | wait _ _ _ | cancel _ _ | result _ _ | shutdown _ _ _ | newLate
    | addLate _ _ | lateIndexes _ | enter _ =>
    have same := (World.shared_kept answered).2 nofun
    exact keep plays answered nofun (by rw [same]; exact .refl _ _) Iff.rfl

end

/-! ### Whole runs -/

/-- Every decision keeps this. -/
theorem move {choice : Choice (scripted script)} (h : Solos plan size script store s d)
    (checked : Run.check plan = .ok size) (moved : move choice s = some s') :
    Solos plan size script store s' (d.note choice s) := by
  have timely := h.timely.move moved
  have noted := noted_of_move d moved
  generalize d.note choice s = d' at timely noted ⊢
  cases noted with
  | @start k job same here goes =>
    refine ⟨timely, ?_, h.clears, fun {worker payload} below rests drawn => ?_⟩
    · rw [goes]
      exact h.separate.step (separate_lawful script plan) (.start here)
    · rw [goes] at drawn ⊢
      exact start (h.plays below rests drawn) here
  | @finish k result same here goes =>
    refine ⟨timely, ?_, h.clears, fun {worker payload} below rests drawn => ?_⟩
    · rw [goes]
      exact h.separate.step (separate_lawful script plan) (.finish here)
    · rw [goes] at drawn ⊢
      exact h.finish below drawn here rests
  | @work k op next fate time reply shared more same here answered goes called =>
    refine ⟨timely, ?_, h.clears, fun {worker payload} below rests drawn => ?_⟩
    · rw [goes]
      exact h.separate.step (separate_lawful script plan) (.answer here answered)
    · rw [goes] at drawn ⊢
      have kept : shared.isLate 0 worker = s.world.shared.isLate 0 worker := by
        rw [Shared.isLate, Shared.lates_answer answered]
        rfl
      rw [World.shared_setStatus, kept]
      exact h.work below drawn here answered rests
  -- an answer to the main thread concerns the worker by what it is told or what is deleted
  | @conduct op next reply fate random unfinished more asks goes_on answered called =>
    have minuted := h.timely.booked.orderly.minuted
    have asking := minuted.asks
    rw [asks] at asking
    refine ⟨timely, ?_, h.clears.note asking.1 reply, fun {worker payload} below rests drawn => ?_⟩
    · exact h.separate.answer minuted.borne asking.1 answered (fun _ _ => id)
        (fun isJob below => separate_of_isJob isJob below _) fun _ _ => trivial
    · exact h.answer checked below rests drawn asks answered

end Solos

/-- Before a run nobody has played anything. -/
theorem opening_solos (checked : Run.check plan = .ok size) :
    Solos plan size script store (opening plan { store }) {} where
  timely := opening_timely plan ⟨size, checked⟩ _
  separate _ _ none := by cases none
  clears := ⟨fun some => absurd rfl some, rfl⟩
  plays {worker payload} _ _ _ :=
    { tasks := fun found => nomatch found
      object := fun _ => .refl _ _
      gone := nofun }

/-- After every list of decisions each worker has played its part, as long as its tasks rested when they
had been named. -/
theorem run_solos (checked : Run.check plan = .ok size) {choices : List (Choice (scripted script))}
    {s : State (scripted script) (Except Fault Tally × Session)}
    (played : play choices (opening plan { store }) = some s) :
    Solos plan size script store s (diary choices (opening plan { store }) {}) :=
  diary_keeps (fun h moved => Solos.move h checked moved) (opening_solos checked) played

end Concert
end StoreMeter
