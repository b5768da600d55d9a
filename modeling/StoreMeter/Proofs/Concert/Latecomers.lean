import StoreMeter.Proofs.Concert.Attendance
import StoreMeter.Proofs.Concert.Conduct
import StoreMeter.Proofs.Concert.Layout
/-
# Proofs.Concert.Latecomers — what a late writer leaves behind

A writer that is late deletes its object when its task ends, whatever the storage did to it in the
meantime, and whether the run around it came to a report or failed.  One thing keeps it from doing
so: a failure that is not the system's ends the task at once, after its stream is closed and before
the writer asks whether it is late.  `late_writer_tidies_up` states both sides, and
`crashed_writer_leaves_object` shows an object that is left.
-/
namespace StoreMeter
namespace Concert

open Storage (Operation)
open Storage.Memory (Stream Store)

variable {S : Type} {B : Backend S} {tidy : Tidy B} {settings : Settings} {workers : Nat}

/-! ## What the main thread does -/

/-- The books agree with the world, and all tasks keep their contracts. -/
structure Tracks (tidy : Tidy B) (settings : Settings) (workers : Nat) (caught : Nat → Prop)
    (b : Books) (w : World B) : Prop where
  tasks : w.tasks.length = b.tasks
  lates : w.shared.lates.length = b.lates
  sound : (attendance tidy settings workers).Sound (attending tidy settings workers b.marks caught) w
  old : ∀ k, caught k → k < b.tasks

section
variable {caught : Nat → Prop} {b : Books} {w w' : World B}

theorem Tracks.moves (h : Tracks tidy settings workers caught b w) (moves : w.Moves w') :
    Tracks tidy settings workers caught b w' where
  tasks := moves.step.length.trans h.tasks
  lates := by
    rw [moves.step.lates]
    exact h.lates
  sound := h.sound.step (attendance_lawful b.marks caught) moves.step
  old := h.old

/-- An answer that changes nothing that a writer sees. -/
theorem Tracks.go (h : Tracks tidy settings workers caught b w) (tasks : w'.tasks = w.tasks)
    (shared : w'.shared = w.shared) : Tracks tidy settings workers caught b w' where
  tasks := by rw [tasks, h.tasks]
  lates := by rw [shared, h.lates]
  sound := h.sound.mono tasks fun _ _ attends writer => by
    rw [shared]
    exact attends writer
  old := h.old

/-- An operation of the storage that touches no object. -/
theorem Tracks.ask (h : Tracks tidy settings workers caught b w) {fate : B.Fate} {op : Operation S}
    {reply : op.Answer} {store : B.State} (answer : B.answer fate op w.shared.store = (reply, store))
    (untouched : touchedBy tidy.target op = none) :
    Tracks tidy settings workers caught b (w.withStore store) where
  tasks := h.tasks
  lates := h.lates
  sound := h.sound.mono rfl fun _ _ attends writer => by
    obtain ⟨-, rfl⟩ := Prod.mk.inj answer
    refine (attends writer).frame rfl (tidy.untouched ?_)
    rw [untouched]
    exact Option.some_ne_none _ ∘ Eq.symm
  old := h.old

/-- The main thread deletes the object of a writer whose outcome it has taken, or which is late. -/
theorem Tracks.delete (h : Tracks tidy settings workers caught b w) {fate : B.Fate} {k : Nat}
    {reply : Except Fault Unit} {store : B.State} (past : b.marks k ≠ .awaited)
    (answer : B.answer fate (.delete (settings.objectPath k)) w.shared.store = (reply, store)) :
    Tracks tidy settings workers caught (b.mark k .cleared) (w.withStore store) where
  tasks := h.tasks
  lates := h.lates
  sound := h.sound.mono rfl fun j duty attends writer => by
    obtain ⟨-, rfl⟩ := Prod.mk.inj answer
    have attends := attends writer
    -- the object of the writer itself is gone; nobody else sees that
    by_cases here : j = k
    · subst here
      have gone : ¬ tidy.Holds (w.withStore (B.answer fate (.delete (settings.objectPath j))
          w.shared.store).2).shared.store (settings.objectPath j) := tidy.deletes
      rw [b.mark_self]
      exact ⟨fun _ => attends.warned past, fun _ _ => gone, fun _ => gone, attends.caught⟩
    · rw [b.mark_other here]
      refine attends.frame rfl (tidy.untouched ?_)
      exact fun same => here (settings.objectPath_injective (Option.some.inj same)).symm
  old := h.old

/-- A new task has to keep its own contract only. -/
theorem Tracks.submit (h : Tracks tidy settings workers caught b w) {job : Worker.Job S}
    (next : NextJob settings workers b job) (pool : Nat) :
    Tracks tidy settings workers caught { b with tasks := b.tasks + 1 } (w.submit pool job) where
  tasks := by
    show (w.tasks ++ [_]).length = b.tasks + 1
    rw [List.length_append, h.tasks]
    rfl
  lates := h.lates
  sound := by
    refine h.sound.submit ⟨.writes, ?_, ?_⟩
    · intro writer
      rw [h.tasks] at writer ⊢
      have awaited : b.marks b.tasks = .awaited := by
        unfold NextJob at next
        rw [if_pos writer] at next
        exact next.1
      rw [awaited]
      refine ⟨fun past => absurd rfl past, nofun, nofun, ?_⟩
      intro here
      exact absurd (h.old _ here) (Nat.lt_irrefl _)
    -- its program keeps the contract from its first question on
    · rw [h.tasks]
      unfold NextJob at next
      by_cases writer : b.tasks < workers
      · rw [if_pos writer] at next
        obtain ⟨-, size, payload, rfl⟩ := next
        rw [attendance_writer tidy writer]
        exact (writeJob_attends tidy).mono fun _ _ done _ => done
      · rw [if_neg writer] at next
        obtain ⟨size, bufferSize, index, rfl⟩ := next
        rw [attendance_reader tidy writer]
        exact (readJob_attends tidy .writes).mono fun _ _ _ below => absurd below writer
  old k here := Nat.lt_succ_of_lt (h.old k here)

/-- The first set of late workers is empty. -/
theorem Tracks.newLate (h : Tracks tidy settings workers caught b w) (first : b.lates = 0) :
    Tracks tidy settings workers caught { b with lates := b.lates + 1 }
      { w with shared.lates := w.shared.lates ++ [.nobody] } where
  tasks := h.tasks
  lates := by
    show (w.shared.lates ++ [_]).length = b.lates + 1
    rw [List.length_append, h.lates]
    rfl
  sound := h.sound.mono rfl fun j _ attends writer => by
    have empty : w.shared.lates = [] := List.eq_nil_of_length_eq_zero (h.lates.trans first)
    have attends := attends writer
    have early : w.shared.isLate 0 j = false := by
      rw [Shared.isLate, empty]
      rfl
    -- nobody was late, and nobody is
    refine ⟨fun past busy => ?_, attends.gone, attends.deleted,
      fun here => ⟨(attends.caught here).1, ?_⟩⟩
    · have late := attends.warned past busy
      rw [early] at late
      cases late
    · intro busy
      have late := (attends.caught here).2 busy
      rw [early] at late
      cases late
  old := h.old

/-- A writer that is made late is settled. -/
theorem Tracks.addLate (h : Tracks tidy settings workers caught b w) (made : 0 < b.lates) (k : Nat) :
    Tracks tidy settings workers caught (b.mark k .settled) (w.addLate 0 k) where
  tasks := h.tasks
  lates := by
    show (w.shared.lates.modify 0 _).length = b.lates
    rw [List.length_modify, h.lates]
  sound := h.sound.mono rfl fun j duty attends writer => by
    have attends := attends writer
    have added := World.isLate_addLate (h.lates ▸ made) k j
    have still (late : w.shared.isLate 0 j = true) : (w.addLate 0 k).shared.isLate 0 j = true := by
      rw [added, late, Bool.or_true]
    have caught_still (here : caught j) :
        duty ≠ .leaves ∧ (duty = .writes → (w.addLate 0 k).shared.isLate 0 j = true) :=
      ⟨(attends.caught here).1, fun busy => still ((attends.caught here).2 busy)⟩
    -- the writer itself is late now, and all others are as late as before
    by_cases here : j = k
    · subst here
      rw [b.mark_self]
      refine ⟨fun _ _ => ?_, nofun, attends.deleted, caught_still⟩
      rw [added, beq_self_eq_true, Bool.true_or]
    · rw [b.mark_other here]
      exact ⟨fun past busy => still (attends.warned past busy), attends.gone, attends.deleted,
        caught_still⟩
  old := h.old

/-- A writer whose task is over can be settled: it is late already, or it will not publish again. -/
theorem Attends.settle {path : String} {index : Nat} {mark : Mark} {caught : Prop}
    {shared : Shared B} {duty : Duty} (h : Attends tidy path index mark caught shared duty) :
    ∃ duty', Attends tidy path index .settled caught shared duty' ∧
      (duty ≠ .writes → duty' ≠ .writes) := by
  -- a writer that was caught keeps its duty; any other one has no duty any more
  by_cases here : caught
  · exact ⟨duty, ⟨fun _ => (h.caught here).2, nofun, h.deleted, h.caught⟩, id⟩
  · cases duty with
    | cleared => exact ⟨.cleared, ⟨fun _ => nofun, nofun, h.deleted, h.caught⟩, id⟩
    | writes | leaves =>
      refine ⟨.leaves, ⟨fun _ => nofun, nofun, nofun, fun caught => absurd caught here⟩, fun _ => ?_⟩
      decide

theorem attending_settle {k : Nat} {shared : Shared B} {duty : Duty}
    (attends : attending tidy settings workers b.marks caught k shared duty) :
    ∃ duty', attending tidy settings workers (b.mark k .settled).marks caught k shared duty' ∧
      (duty ≠ .writes → duty' ≠ .writes) := by
  by_cases writer : k < workers
  · obtain ⟨duty', settled, down⟩ := (attends writer).settle
    refine ⟨duty', fun _ => ?_, down⟩
    rw [b.mark_self]
    exact settled
  · exact ⟨duty, fun below => absurd below writer, id⟩

theorem Tracks.settle (h : Tracks tidy settings workers caught b w) {k : Nat} {status : Status S}
    (found : w.status? k = some status) (past : status.isOver = true) :
    Tracks tidy settings workers caught (b.mark k .settled) w where
  tasks := h.tasks
  lates := h.lates
  sound := by
    intro j other there
    have holds := h.sound j other there
    by_cases here : j = k
    · subst here
      rw [found] at there
      cases there
      cases status with
      | queued job | running rest => cases past
      | ended result =>
        obtain ⟨duty, attends, goal⟩ := holds
        obtain ⟨duty', settled, down⟩ := attending_settle attends
        refine ⟨duty', settled, fun writer => ?_⟩
        obtain ⟨own, fine⟩ := goal writer
        exact ⟨own, fun outcome same => down (fine outcome same)⟩
      | takenBack =>
        obtain ⟨duty, attends, -⟩ := holds
        obtain ⟨duty', settled, -⟩ := attending_settle attends
        exact ⟨duty', settled, trivial⟩
    · refine holds.mono fun duty attends writer => ?_
      rw [b.mark_other here]
      exact attends writer
  old := h.old

theorem Tracks.cancel (h : Tracks tidy settings workers caught b w) {k : Nat} {status : Status S}
    (found : w.status? k = some status) :
    Tracks tidy settings workers caught b (w.setStatus k status.cancel.2) where
  tasks := (w.length_setStatus k _).trans h.tasks
  lates := h.lates
  sound := h.sound.cancel found fun duty attends => ⟨duty, attends, trivial⟩
  old := h.old

theorem Tracks.takeBack (h : Tracks tidy settings workers caught b w) (pool : Nat) :
    Tracks tidy settings workers caught b (w.takeBack pool) where
  tasks := by
    show (w.tasks.map _).length = b.tasks
    rw [List.length_map, h.tasks]
  lates := h.lates
  sound := h.sound.takeBack pool fun _ duty attends => ⟨duty, attends, trivial⟩
  old := h.old

/-- Each answer to the main thread goes into its books. -/
theorem Tracks.answer (h : Tracks tidy settings workers caught b w) {op : Conductor.Op S}
    {reply : op.Answer} {fate : B.Fate} {random : Except Fault ByteArray} {unfinished : List Nat}
    (allowed : (conduct settings workers).Allows b op)
    (answered : w.answer fate random unfinished op = some (reply, w')) :
    ∃ b', (conduct settings workers).Answers b op reply b' ∧
      Tracks tidy settings workers caught b' w' := by
  cases op with
  | log entry | lateIndexes late | enter stage =>
    cases answered
    exact ⟨b, rfl, h.go rfl rfl⟩
  | newPool size label =>
    cases answered
    exact ⟨b, rfl, h.go rfl rfl⟩
  | storage op =>
    obtain ⟨store, answer, rfl⟩ := World.answer_storage.1 answered
    cases op with
    | isPresent path | makeDirs path => exact ⟨b, rfl, h.ask answer rfl⟩
    | delete path =>
      obtain ⟨k, rfl, past⟩ := allowed
      exact ⟨b.mark k .cleared, ⟨k, rfl, rfl⟩, h.delete past answer⟩
    | create _ | openRead _ | write _ _ | flush _ | read _ _ | close _ => cases allowed
  | entropy size =>
    obtain ⟨-, -, rfl⟩ := World.answer_entropy.1 answered
    exact ⟨b, rfl, h.go rfl rfl⟩
  | submit pool job =>
    cases answered
    exact ⟨_, ⟨h.tasks, rfl⟩, h.submit allowed pool⟩
  | wait pool submissions limit =>
    obtain ⟨-, -, rfl⟩ := World.answer_wait.1 answered
    exact ⟨b, rfl, h⟩
  | cancel pool k =>
    obtain ⟨status, found, rfl, rfl⟩ := World.answer_cancel.1 answered
    -- a task that could not be taken back goes on, and its writer is not settled yet
    have tracked := h.cancel found
    cases status with
    | queued job | takenBack =>
      have taken : (w.setStatus k Status.takenBack).status? k = some .takenBack := by
        rw [World.status?_setStatus, if_pos rfl, found]
        rfl
      exact ⟨b.mark k .settled, rfl, tracked.settle taken rfl⟩
    | running rest | ended result => exact ⟨b, rfl, tracked⟩
  | result pool k =>
    obtain ⟨found, rfl⟩ := World.answer_result.1 answered
    exact ⟨b.mark k .settled, rfl, h.settle found rfl⟩
  | shutdown pool waits cancels =>
    obtain ⟨rfl, -⟩ := World.answer_shutdown.1 answered
    cases cancels with
    | true => exact ⟨b, rfl, h.takeBack pool⟩
    | false => exact ⟨b, rfl, h⟩
  | newLate =>
    cases answered
    exact ⟨_, ⟨h.lates, rfl⟩, h.newLate allowed⟩
  | addLate late index =>
    obtain ⟨rfl, made, k, rfl⟩ := allowed
    cases answered
    exact ⟨b.mark k .settled, rfl, h.addLate made k⟩

end

/-! ## Whole runs -/

/-- The main thread keeps its books on the way to its goal, and the books agree with the world. -/
def Follows {α : Type} (tidy : Tidy B) (settings : Settings) (workers : Nat) (caught : Nat → Prop)
    (goal : α → Books → Prop) (s : State B α) : Prop :=
  ∃ b, s.main.Ends (conduct settings workers) goal b ∧
    Tracks tidy settings workers caught b s.world

section
variable {α : Type} {caught : Nat → Prop} {goal : α → Books → Prop} {s s' : State B α}

theorem Follows.move (h : Follows tidy settings workers caught goal s) {choice : Choice B}
    (moved : move choice s = some s') : Follows tidy settings workers caught goal s' := by
  obtain ⟨b, asks, tracked⟩ := h
  cases decided_of_move moved with
  | @conduct _ _ _ op next reply question goes_on answered =>
    rw [question] at asks
    obtain ⟨b', answers, tracked⟩ := tracked.answer asks.1 answered
    exact ⟨b', goes_on ▸ asks.2 reply b' answers, tracked⟩
  | start same started => exact ⟨b, same ▸ asks, tracked.moves ⟨_, .inl started⟩⟩
  | work same worked => exact ⟨b, same ▸ asks, tracked.moves ⟨_, .inr ⟨_, _, worked⟩⟩⟩

theorem Follows.play (h : Follows tidy settings workers caught goal s) {choices : List (Choice B)}
    (played : play choices s = some s') : Follows tidy settings workers caught goal s' :=
  keeps_of_play (Follows tidy settings workers caught goal) (fun _ _ _ _ h moved => h.move moved) h
    played

/-- A late writer that still has something to ask is caught: it was not told that it is not late. -/
theorem Follows.catch (h : Follows tidy settings workers (fun _ => False) goal s) {index : Nat}
    {op : Worker.Op S} {next : op.Answer → Worker.Job S} (writer : index < workers)
    (late : s.world.shared.isLate 0 index = true)
    (runs : s.world.status? index = some (.running (.ask op next))) :
    Follows tidy settings workers (· = index) goal s := by
  obtain ⟨b, asks, tracked⟩ := h
  refine ⟨b, asks, tracked.tasks, tracked.lates, ?_, ?_⟩
  · intro j status there
    have holds := tracked.sound j status there
    by_cases here : j = index
    · subst here
      rw [runs] at there
      cases there
      obtain ⟨duty, attends, ends⟩ := holds
      refine ⟨duty, fun writer => ?_, ends⟩
      have allowed : (writerRoom tidy (settings.objectPath j) j).Allows duty op := by
        rw [← attendance_writer tidy writer]
        exact ends.1
      -- a writer that leaves its object asks nothing any more
      have busy : duty ≠ .leaves := by
        rintro rfl
        match op, allowed with
        | .isLate _ _, ⟨_, _, told⟩ => cases told
        | .storage (.delete _), ⟨_, told⟩ => exact told rfl
        | .log _, told => exact told rfl
        | .clock, ⟨_, told⟩ | .storage (.isPresent _), ⟨_, told⟩ | .storage (.makeDirs _), ⟨_, told⟩
        | .storage (.create _), ⟨_, told⟩ | .storage (.openRead _), ⟨_, told⟩
        | .storage (.write _ _), ⟨_, told⟩ | .storage (.flush _), ⟨_, told⟩
        | .storage (.read _ _), ⟨_, told⟩ | .storage (.close _), ⟨_, told⟩ => cases told
      have attends := attends writer
      exact ⟨attends.warned, attends.gone, attends.deleted, fun _ => ⟨busy, fun _ => late⟩⟩
    · refine holds.mono fun duty attends writer => ?_
      have attends := attends writer
      exact ⟨attends.warned, attends.gone, attends.deleted, fun same => absurd same here⟩
  · rintro _ rfl
    rw [← tracked.tasks, World.status?_isSome, runs]
    rfl

end

theorem opening_follows (tidy : Tidy B) {plan : Plan}
    (counted : plan.settings.workerCount = .ok workers) (store : B.State) :
    Follows tidy plan.settings workers (fun _ => False)
      (Run.Reached True fun _ _ b => ∀ k < workers, b.marks k = .cleared) (opening plan store) := by
  refine ⟨{}, whole_conduct counted { late := 0 }, rfl, rfl, ?_, fun _ => False.elim⟩
  intro k status there
  cases there

/-- A writer that is late while its task runs deletes its object before the task ends, unless the
task ends with a failure that is not the system's: after every list of decisions, whatever the
storage did, its object is gone if it had anything left to ask when it was late.  If it had nothing
left to ask, it was told that it is not late before it was; then its object is gone after a run
that comes to a report, because the main thread deletes it. -/
theorem late_writer_tidies_up {S : Type} {B : Backend S} (tidy : Tidy B) {plan : Plan}
    {store : B.State} {workers index : Nat} (counted : plan.settings.workerCount = .ok workers)
    (writer : index < workers) {choices later : List (Choice B)}
    {s₁ s₂ : State B (Except Fault Tally × Session)}
    (played : play choices (opening plan store) = some s₁)
    (late : s₁.world.shared.isLate 0 index = true) {rest : Worker.Job S}
    (runs : s₁.world.status? index = some (.running rest)) (goes_on : play later s₁ = some s₂)
    {result : Except Fault Outcome} (ended : s₂.world.status? index = some (.ended result)) :
    (∀ outcome, result = .ok outcome → (∃ op next, rest = .ask op next) ∨ s₂.report?.isSome = true →
      ¬ tidy.Holds s₂.world.shared.store (plan.settings.objectPath index)) ∧
    ∀ fault, result = .error fault → fault.isSystem = false := by
  have before := (opening_follows tidy counted store).play played
  obtain ⟨b, asks, tracked⟩ := before.play goes_on
  obtain ⟨duty, attends, goal⟩ := tracked.sound index _ ended
  refine ⟨?_, (goal writer).1⟩
  rintro outcome rfl (⟨op, next, rfl⟩ | reported)
  · -- a writer that was caught has deleted its object
    obtain ⟨b, asks, tracked⟩ := (before.catch writer late runs).play goes_on
    obtain ⟨duty, attends, goal⟩ := tracked.sound index _ ended
    have attends := attends writer
    cases duty with
    | writes => exact absurd rfl ((goal writer).2 outcome rfl)
    | leaves => exact absurd rfl (attends.caught rfl).1
    | cleared => exact attends.deleted rfl
  -- a run with a report has deleted all objects, and this one was not published after that
  · obtain ⟨report, reported⟩ := Option.isSome_iff_exists.1 reported
    obtain ⟨session, done⟩ := State.done_of_report? reported
    rw [done] at asks
    have cleared : b.marks index = .cleared := asks index writer
    exact (attends writer).gone cleared ((goal writer).2 outcome rfl)

/-! ## An unruly storage -/

/-- Does the operation delete an object? -/
def deletes : Operation Stream → Bool
  | .delete _ => true
  | _ => false

/-- The answer of a storage in memory whose operations may fail in any way, but for deleting. -/
def unrulyAnswer (flaw : Flaw) (op : Operation Stream) (store : Store) : op.Answer × Store :=
  let (reply, after) := Storage.Memory.answer op store
  match flaw with
  | .none => (reply, after)
  | .refused fault => if deletes op then (reply, after) else (refusal fault op, store)
  | .disowned fault => (if deletes op then reply else disowned fault op reply, after)

/-- A storage in memory whose operations may fail in any way, but for deleting. -/
def unruly : Backend Stream where
  State := Store
  Fate := Flaw
  answer := unrulyAnswer
  ticks := steady

/-- What holds of an operation that works, of one that is refused and of one that is disowned holds of
an operation on an unruly storage; deleting works. -/
theorem unruly_elim (op : Operation Stream) {store : Store} {P : op.Answer × Store → Prop}
    (works : P (Storage.Memory.answer op store))
    (refused : deletes op = false → ∀ fault, P (refusal fault op, store))
    (disowned : deletes op = false → ∀ fault,
      P (disowned fault op (Storage.Memory.answer op store).1, (Storage.Memory.answer op store).2))
    (flaw : Flaw) : P (unrulyAnswer flaw op store) := by
  unfold unrulyAnswer
  cases flaw with
  | none => exact works
  | refused fault =>
    cases gone : deletes op with
    | true => exact works
    | false => exact refused gone fault
  | disowned fault =>
    cases gone : deletes op with
    | true => exact works
    | false => exact disowned gone fault

/-- An unruly storage is a tidy one. -/
def unrulyTidy : Tidy unruly where
  Holds store path := Store.get? store path ≠ none
  target := Stream.target
  untouched {flaw op store path} untouched := by
    have other : op.touched ≠ some path := by
      cases op <;> first | exact untouched | exact nofun
    -- an operation that is refused changes nothing, one that is disowned changes what it does
    have same := Storage.Memory.get?_answer op store other
    refine unruly_elim op
      (P := fun r => r.2.get? path ≠ none ↔ Store.get? store path ≠ none) ?_ ?_ ?_ flaw
    · rw [same]
    · exact fun _ _ => Iff.rfl
    · intro _ _
      rw [same]
  creates {flaw path store stream} := by
    refine unruly_elim (.create path) (P := fun (r : Except Fault Stream × Store) =>
      r.1 = .ok stream → stream.target = some path) ?_ ?_ ?_ flaw
    · rintro ⟨⟩
      rfl
    · exact fun _ _ => nofun
    · exact fun _ _ => nofun
  opens {flaw path store stream} := by
    refine unruly_elim (.openRead path) (P := fun (r : Except Fault Stream × Store) =>
      r.1 = .ok stream → stream.target = none) ?_ ?_ ?_ flaw
    · intro opened
      simp only [Storage.Memory.answer] at opened
      split at opened <;> cases opened
      rfl
    · exact fun _ _ => nofun
    · exact fun _ _ => nofun
  writes {flaw stream data store} :=
    unruly_elim (.write stream data)
      (P := fun (r : (Stream × Except Fault Nat) × Store) => r.1.1.target = stream.target)
      ((target_answer stream store).1 data)
      (fun _ _ => rfl) (fun _ _ => (target_answer stream store).1 data) flaw
  flushes {flaw stream store} :=
    unruly_elim (.flush stream)
      (P := fun (r : (Stream × Except Fault Unit) × Store) => r.1.1.target = stream.target)
      (target_answer stream store).2.1
      (fun _ _ => rfl) (fun _ _ => (target_answer stream store).2.1) flaw
  reads {flaw stream size store} :=
    unruly_elim (.read stream size)
      (P := fun (r : (Stream × Except Fault ByteArray) × Store) => r.1.1.target = stream.target)
      ((target_answer stream store).2.2 size)
      (fun _ _ => rfl) (fun _ _ => (target_answer stream store).2.2 size) flaw
  deletes {flaw path store} := by
    refine unruly_elim (.delete path) (P := fun r => ¬ r.2.get? path ≠ none) ?_ nofun nofun flaw
    exact not_not_intro (Storage.Memory.get?_delete path store)
  misses {flaw path store fault} := by
    refine unruly_elim (.delete path) (P := fun (r : Except Fault Unit × Store) =>
      r.1 = .error fault → fault.isAbsent = true) ?_ nofun nofun flaw
    exact fun failed => Storage.Memory.delete_fault (Prod.ext failed rfl)

/-- The target of the small plan, and nothing else. -/
def bareTarget : Store where
  files := []
  dirs := ["target"]

/-- The main thread up to the place where it has made its writer late. -/
def givenUp : List (Choice unruly) :=
  List.replicate 9 (.conduct .none (.ok ⟨#[7]⟩) []) ++
    .start 0 :: List.replicate 3 (.conduct .none (.ok ⟨#[7]⟩) [0])

/-- The rest of the main thread, and after that a writer whose write fails like this. -/
def failingWrite (fault : Fault) (rest : Nat) : List (Choice unruly) :=
  List.replicate 8 (.conduct .none (.ok ⟨#[7]⟩) [0]) ++
    List.replicate 10 (.conduct .none (.ok ⟨#[7]⟩) [1]) ++
    List.replicate 3 (.work 0 .none (.zero false)) ++
    .work 0 (.refused fault) (.zero false) :: List.replicate rest (.work 0 .none (.zero false))

/-- Does a task have a question to ask? -/
def asks : Status Stream → Bool
  | .running (.ask _ _) => true
  | _ => false

/-- Did a task come to an outcome? -/
def succeeds : Status Stream → Bool
  | .ended (.ok _) => true
  | _ => false

theorem exists_of_asks {status : Status Stream} (asking : asks status = true) :
    ∃ op next, status = .running (.ask op next) := by
  unfold asks at asking
  split at asking
  · exact ⟨_, _, rfl⟩
  · cases asking

theorem exists_of_succeeds {status : Status Stream} (succeeded : succeeds status = true) :
    ∃ outcome, status = .ended (.ok outcome) := by
  unfold succeeds at succeeded
  split at succeeded
  · exact ⟨_, rfl⟩
  · cases succeeded

/-- What a late writer comes to after it was given up, read off by evaluation. -/
theorem reaches (later : List (Choice unruly))
    (holds : State unruly (Except Fault Tally × Session) → Bool)
    (facts : ((play givenUp (opening oneByte bareTarget)).bind fun s₁ => (play later s₁).map fun s₂ =>
      (s₁.world.shared.isLate 0 (0 : Nat), (s₁.world.status? 0).any asks, holds s₂)) =
        some (true, true, true)) :
    ∃ s₁ s₂ op next, play givenUp (opening oneByte bareTarget) = some s₁ ∧
      s₁.world.shared.isLate 0 (0 : Nat) = true ∧
      s₁.world.status? 0 = some (.running (.ask op next)) ∧ play later s₁ = some s₂ ∧
      holds s₂ = true := by
  obtain ⟨s₁, played, facts⟩ := Option.bind_eq_some_iff.1 facts
  obtain ⟨s₂, goes_on, facts⟩ := Option.map_eq_some_iff.1 facts
  obtain ⟨late, facts⟩ := Prod.mk.inj facts
  obtain ⟨asking, held⟩ := Prod.mk.inj facts
  obtain ⟨status, found, asking⟩ := (Option.any_eq_true _ _).1 asking
  obtain ⟨op, next, rfl⟩ := exists_of_asks asking
  exact ⟨s₁, s₂, op, next, played, late, found, goes_on, held⟩

/-- A writer that is late meets a failure of the system in its write; its object is gone at its end. -/
theorem failing_writer_tidies_up :
    ∃ (s₁ s₂ : State unruly (Except Fault Tally × Session)) (op : Worker.Op Stream)
      (next : op.Answer → Worker.Job Stream) (outcome : Outcome),
      play givenUp (opening oneByte bareTarget) = some s₁ ∧
        s₁.world.shared.isLate 0 (0 : Nat) = true ∧
        s₁.world.status? 0 = some (.running (.ask op next)) ∧
        play (failingWrite (.system "disk is full") 6) s₁ = some s₂ ∧
        s₂.world.status? 0 = some (.ended (.ok outcome)) ∧
        ¬ unrulyTidy.Holds s₂.world.shared.store (oneByte.settings.objectPath (0 : Nat)) := by
  obtain ⟨s₁, s₂, op, next, played, late, runs, goes_on, succeeded⟩ :=
    reaches (failingWrite (.system "disk is full") 6) (fun s₂ => (s₂.world.status? 0).any succeeds)
      (by decide +kernel)
  obtain ⟨status, ended, succeeded⟩ := (Option.any_eq_true _ _).1 succeeded
  obtain ⟨outcome, rfl⟩ := exists_of_succeeds succeeded
  have counted : oneByte.settings.workerCount = .ok 1 := rfl
  exact ⟨s₁, s₂, op, next, outcome, played, late, runs, goes_on, ended,
    (late_writer_tidies_up unrulyTidy counted Nat.one_pos played late runs goes_on ended).1 outcome
      rfl (.inl ⟨op, next, rfl⟩)⟩

/-- Every writer that is late while its task runs has deleted its object when the task ends. -/
def AlwaysTidiesUp {S : Type} {B : Backend S} (tidy : Tidy B) : Prop :=
  ∀ {plan : Plan} {store : B.State} {workers index : Nat} {choices later : List (Choice B)}
    {s₁ s₂ : State B (Except Fault Tally × Session)} {op : Worker.Op S}
    {next : op.Answer → Worker.Job S} {result : Except Fault Outcome},
    plan.settings.workerCount = .ok workers → index < workers →
    play choices (opening plan store) = some s₁ → s₁.world.shared.isLate 0 index = true →
    s₁.world.status? index = some (.running (.ask op next)) → play later s₁ = some s₂ →
    s₂.world.status? index = some (.ended result) →
    ¬ tidy.Holds s₂.world.shared.store (plan.settings.objectPath index)

/-- A write that fails in a way that is not the system's ends the task of a late writer after the
close of its stream, and the object that the close published stays. -/
theorem crashed_writer_leaves_object : ¬ AlwaysTidiesUp unrulyTidy := by
  intro always
  obtain ⟨s₁, s₂, op, next, played, late, runs, goes_on, facts⟩ :=
    reaches (failingWrite (.runtime "driver") 2)
      (fun s₂ => (s₂.world.status? 0).any Status.isEnded &&
        (Store.get? s₂.world.shared.store (oneByte.settings.objectPath (0 : Nat))).isSome)
      (by decide +kernel)
  obtain ⟨ended, left⟩ := Bool.and_eq_true_iff.1 facts
  obtain ⟨status, found, ended⟩ := (Option.any_eq_true _ _).1 ended
  obtain ⟨result, rfl⟩ := Status.exists_of_isEnded ended
  have counted : oneByte.settings.workerCount = .ok 1 := rfl
  refine always counted Nat.one_pos played late runs goes_on found ?_
  exact Option.isSome_iff_ne_none.1 left

end Concert
end StoreMeter
