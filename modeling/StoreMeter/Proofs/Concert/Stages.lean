import StoreMeter.Proofs.Concert.Accounting
import StoreMeter.Proofs.Concert.Chronicle
/-
# Proofs.Concert.Stages — which calls are made at which stage of a run

The main thread looks at its target in the two phases and deletes objects when it cleans up, and its
minutes say so.  The workers are on their own: a writer that was started may still open its object when
the read phase runs, and a reader that was started may do so while the run cleans up.  What each of them
asks for is its own object (`manners`), and where it is still running the main thread has given it up
before it went on: a writer is late then, and a reader is just left alone.
-/
namespace StoreMeter
namespace Concert

open Storage (Operation)

variable {S : Type} {B : Backend S} {plan : Plan}

/-! ## What workers ask -/

/-- The surroundings of a writer, which knows whether it was told that it is late.  It opens its own
object, and deletes it only if it was told so. -/
def writerManners (path : String) (index : Nat) : Surroundings (Worker.effects S) Bool where
  Allows told
    | .storage (.delete other) => other = path ∧ told = true
    | .isLate late other => late = 0 ∧ other = index
    | op => Worker.WriterAsks path op
  Answers told op reply told' :=
    match op, reply with
    | .isLate _ _, late => told' = (told || late)
    | _, _ => told' = told

/-- The surroundings of a reader, which opens its own object. -/
def readerManners (path : String) : Surroundings (Worker.effects S) Bool where
  Allows _
    | .isLate _ _ => True
    | op => Worker.ReaderAsks path op
  Answers told _ _ told' := told' = told

/-- The contracts of the tasks of a run: the writers come first, then the readers. -/
def manners (S : Type) (plan : Plan) : Protocol S where
  Local := Bool
  env k :=
    if k < plan.workers then writerManners (plan.settings.objectPath k) k
    else readerManners (plan.settings.objectPath ((k - plan.workers : Nat)))
  Goal _ _ _ := True
  Quiet _ _ := True

theorem manners_writer {k : Nat} (writer : k < plan.workers) :
    (manners S plan).env k = writerManners (plan.settings.objectPath k) k := if_pos writer

theorem manners_reader {k : Nat} (reader : ¬ k < plan.workers) :
    (manners S plan).env k = readerManners (plan.settings.objectPath ((k - plan.workers : Nat))) :=
  if_neg reader

/-- Who was told that it is late is late. -/
def told (plan : Plan) : View B (manners S plan) := fun k shared known =>
  known = true → k < plan.workers → shared.isLate 0 k = true

/-- Questions of one kind are asked in surroundings that allow them in any state and keep it. -/
theorem ends_of_only {α : Type} {kind : Worker.Op S → Prop} {p : Worker.Program S α}
    (h : Worker.Only kind p) {σ : Type} {env : Surroundings (Worker.effects S) σ} {s : σ}
    (allows : ∀ op, kind op → env.Allows s op)
    (keeps : ∀ op reply s', kind op → env.Answers s op reply s' → s' = s) :
    p.Ends env (fun _ s' => s' = s) s := by
  refine (Prog.Ends.embed env (fun _ t => t = s) ?_ ?_ h rfl).mono fun _ _ ⟨_, _, same⟩ => same
  · rintro _ _ op rfl allowed
    exact allows op allowed
  · rintro _ _ op reply t' rfl allowed answered
    exact ⟨(), trivial, keeps op reply t' allowed answered⟩

/-- A writer that was told that it is late deletes its object, whatever comes of it. -/
theorem discardLate_manners (path : String) (index : Nat) :
    (Phase.discardLate (S := S) index path).Ends (writerManners path index) (fun _ _ => True) true := by
  have logged (entry : Log.Entry) (told : Bool) :
      Prog.Ends (writerManners (S := S) path index) (fun _ _ => True)
        (Worker.log entry >>= fun _ => pure (.ok ()) : Worker.Program S (Except Fault Unit)) told :=
    ⟨trivial, fun _ _ _ => trivial⟩
  have deleted : (Worker.delete (S := S) path).Ends (writerManners path index) (fun _ _ => True)
      true := ⟨⟨rfl, rfl⟩, fun _ _ _ => trivial⟩
  unfold Phase.discardLate
  refine deleted.bind ?_
  rintro (fault | _) told -
  · dsimp only
    split
    · exact logged _ told
    · split
      · exact logged _ told
      · trivial
  · exact logged _ told

theorem writeJob_manners (settings : Settings) (size : Int) (payload : ByteArray) (index : Nat) :
    (Phase.writeJob (S := S) settings size payload (some 0) index).Ends
      (writerManners (settings.objectPath index) index) (fun _ _ => True) false := by
  have written : (Worker.writeTask (S := S) index (settings.objectPath index) size payload).Ends
      (writerManners (settings.objectPath index) index) (fun _ told => told = false) false := by
    refine ends_of_only (Worker.writeTask_only index _ size payload) ?_ ?_
    · rintro (op | _ | _ | _) asks
      · cases op <;> first | exact asks | cases asks
      · trivial
      · trivial
      · cases asks
    · rintro (op | _ | _ | _) reply told asks answered <;> first | exact answered | cases asks
  unfold Phase.writeJob
  refine written.bind ?_
  rintro (fault | outcome) _ rfl
  · trivial
  refine ⟨⟨rfl, rfl⟩, ?_⟩
  -- only who is told that it is late goes on
  rintro (_ | _) told answered
  · trivial
  · obtain rfl : told = true := answered
    exact (discardLate_manners _ index).bind fun _ _ _ => trivial

theorem readJob_manners (settings : Settings) (size bufferSize : Int) (index : Nat) (told : Bool) :
    (Phase.readJob (S := S) settings size bufferSize (some 0) index).Ends
      (readerManners (settings.objectPath index)) (fun _ _ => True) told := by
  have read : (Worker.readTask (S := S) index (settings.objectPath index) size bufferSize).Ends
      (readerManners (settings.objectPath index)) (fun _ told' => told' = told) told := by
    refine ends_of_only (Worker.readTask_only index _ size bufferSize) ?_ ?_
    · rintro (op | _ | _ | _) asks
      · exact asks
      · trivial
      · trivial
      · cases asks
    · exact fun _ _ _ _ answered => answered
  unfold Phase.readJob
  refine ⟨trivial, ?_⟩
  rintro (_ | _) _ rfl
  · exact read.mono fun _ _ _ => trivial
  · trivial

/-! ## What workers are told -/

theorem manners_lawful : Protocol.Lawful (manners S plan) (told (B := B) plan) where
  own {k shared shared' known op reply fate time} agrees allowed answered := by
    have lates := Shared.lates_answer answered
    have still : told (B := B) plan k shared' known := by
      intro holds writer
      rw [Shared.isLate, lates]
      exact agrees holds writer
    by_cases writer : k < plan.workers
    · rw [manners_writer writer] at allowed ⊢
      cases op with
      | isLate late other =>
        obtain ⟨rfl, rfl⟩ := allowed
        cases answered
        refine ⟨known || shared.isLate 0 k, rfl, fun holds writer => ?_⟩
        -- what a writer knows is what it knew before or what it was told just now
        rcases Bool.or_eq_true_iff.1 holds with before | now
        · exact agrees before writer
        · exact now
      | storage op | clock | log entry => exact ⟨known, rfl, still⟩
    · rw [manners_reader writer]
      exact ⟨known, rfl, still⟩
  others {k j shared shared' known known' op reply fate time} other agrees allowed answered seen := by
    intro holds writer
    rw [Shared.isLate, Shared.lates_answer answered]
    exact seen holds writer

/-- All workers keep their manners. -/
abbrev Mannered (plan : Plan) (w : World B) : Prop := (manners S plan).Sound (told plan) w

section
variable {w w' : World B} {m : Minutes S} {op : Conductor.Op S} {fate : B.Fate}
variable {random : Except Fault ByteArray} {unfinished : List Nat} {reply : op.Answer}

/-- Nobody who is late becomes timely again. -/
theorem late_stays (borne : w.BearsOut m) (fits : Fits plan m op)
    (answered : w.answer fate random unfinished op = some (reply, w')) {k : Int}
    (late : w.shared.isLate 0 k = true) : w'.shared.isLate 0 k = true := by
  have lates := World.lates_answer answered
  cases op with
  | newLate =>
    -- the only set of late workers is made before anybody is late
    rw [Shared.isLate, List.length_eq_zero_iff.1 (borne.lates.trans fits)] at late
    cases late
  | addLate set index =>
    obtain ⟨rfl, one⟩ := fits
    cases answered
    have made : 0 < w.shared.lates.length := by
      rw [borne.lates, one]
      exact Nat.one_pos
    rw [World.isLate_addLate made, late, Bool.or_true]
  | storage _ | log _ | entropy _ | newPool _ _ | submit _ _ | wait _ _ _ | cancel _ _ | result _ _
    | shutdown _ _ _ | lateIndexes _ | enter _ =>
    rw [Shared.isLate, lates]
    exact late

theorem Mannered.moves (sound : Mannered plan w) (moves : w.Moves w') : Mannered plan w' :=
  Protocol.Sound.step manners_lawful sound moves.step

/-- The contract of a job that is handed out, for the task that it becomes. -/
theorem manners_of_isJob {mode : Mode} {index : Nat} {job : Worker.Job S}
    (isJob : IsJob plan mode index job) (below : index < plan.workers) (shared : Shared B) :
    (manners S plan).Holds (told plan) (first plan.workers mode + index) shared (.queued job) := by
  refine ⟨false, nofun, ?_⟩
  cases mode with
  | write =>
    obtain ⟨size, payload, rfl⟩ := isJob
    have env : (manners S plan).env (first plan.workers .write + index) =
        writerManners (plan.settings.objectPath index) index := by
      simp [manners, first, below]
    rw [env]
    exact writeJob_manners plan.settings size payload index
  | read =>
    obtain ⟨size, rfl⟩ := isJob
    have env : (manners S plan).env (first plan.workers .read + index) =
        readerManners (plan.settings.objectPath index) := by
      simp [manners, first]
    rw [env]
    exact readJob_manners plan.settings size plan.bufferSize index false

/-- No answer to the main thread makes a worker lose its manners. -/
theorem Mannered.answer (sound : Mannered plan w) (borne : w.BearsOut m) (fits : Fits plan m op)
    (answered : w.answer fate random unfinished op = some (reply, w')) : Mannered plan w' :=
  Protocol.Sound.answer sound borne fits answered
    (fun _ _ agrees holds writer => late_stays borne fits answered (agrees holds writer))
    (fun isJob below => manners_of_isJob isJob below w.shared) fun _ _ => trivial

end

/-! ## Calls to the storage -/

/-- Who calls the storage. -/
inductive Caller where
  | main
  | task (k : Nat)

/-- The call to the storage that a decision lets happen, and who makes it. -/
def call? {α : Type} : Choice B → State B α → Option (Caller × Operation S)
  | .conduct _ _ _, ⟨.ask (.storage op) _, _⟩ => some (.main, op)
  | .work k _ _, ⟨_, w⟩ =>
    match w.status? k with
    | some (.running (.ask (.storage op) _)) => some (.task k, op)
    | _ => none
  | _, _ => none

/-- A call to the storage comes from the main thread or from a task that is worked on. -/
theorem call?_cases {α : Type} {choice : Choice B} {s : State B α} {caller : Caller}
    {op : Operation S} (called : call? choice s = some (caller, op)) :
    (caller = .main ∧ ∃ next, s.main = .ask (.storage op) next) ∨
      ∃ k next, caller = .task k ∧ s.world.status? k = some (.running (.ask (.storage op) next)) := by
  obtain ⟨main, w⟩ := s
  unfold call? at called
  split at called
  · rename_i next _ same
    -- the main thread, which asks the storage
    cases same
    cases called
    exact .inl ⟨rfl, next, rfl⟩
  · rename_i k _ _ _ _ same
    cases same
    split at called
    · rename_i next found
      cases called
      exact .inr ⟨k, next, rfl, found⟩
    · cases called
  · cases called

/-- Which calls to the storage a run permits at its stages.  The main thread sees to the target in the
phases and deletes objects after the pool was closed.  Each task only asks for its own object: a writer
in the write phase or when it is late, and a reader in the read phase or after the main thread has given
it up. -/
def Permits (plan : Plan) (w : World B) (m : Minutes S) : Caller → Operation S → Prop
  | .main, .isPresent _ => w.stage = .writePhase ∨ w.stage = .readPhase
  | .main, .makeDirs _ => w.stage = .writePhase
  | .main, .delete path => w.stage = .cleanup ∧ path ∈ plan.objectPaths ∧ m.Closed
  | .main, _ => False
  | .task k, .create path => k < plan.workers ∧ path = plan.settings.objectPath k ∧
    (w.stage = .writePhase ∨ w.shared.isLate 0 k = true)
  | .task k, .delete path => k < plan.workers ∧ path = plan.settings.objectPath k ∧
    w.shared.isLate 0 k = true
  | .task k, .openRead path => ∃ index : Nat, k = plan.workers + index ∧ index < plan.workers ∧
    path = plan.settings.objectPath index ∧
      (w.stage = .readPhase ∨ (k, .givenUp) ∈ m.takings)
  | .task _, .isPresent _ | .task _, .makeDirs _ => False
  | .task _, _ => True

section
variable {s : State B (Except Fault Tally × Session)} {w : World B} {m : Minutes S}

/-- The main thread only calls the storage as its stage permits. -/
theorem main_permits (stage : w.stage = m.stage) {op : Operation S}
    (fits : Fits plan m (.storage op)) :
    (w.stage ≠ .prepare ∧ w.stage ≠ .failed) ∧ Permits plan w m .main op := by
  have here {stage : Stage} (last : m.stages.getLast? = some stage) : w.stage = stage := by
    simp [‹w.stage = m.stage›, Minutes.stage, last]
  cases op with
  | isPresent path =>
    obtain ⟨-, -, mode, entered⟩ := fits
    rw [Permits, here entered]
    cases mode <;> decide
  | makeDirs path =>
    obtain ⟨-, -, entered⟩ := fits
    rw [Permits, here entered]
    decide
  | delete path =>
    obtain ⟨last, closed, below, rfl⟩ := fits
    rw [Permits, here last]
    refine ⟨by decide, rfl, ?_, closed⟩
    exact List.mem_map.2 ⟨_, List.mem_range.2 below, rfl⟩
  | create _ | openRead _ | write _ _ | read _ _ | flush _ | close _ => cases fits

/-- Where tasks are worked on, the write phase has begun. -/
theorem phase_of_running (order : InOrder plan m) (borne : w.BearsOut m) {k : Nat}
    {rest : Worker.Job S} (found : w.status? k = some (.running rest)) :
    k < m.jobs.length ∧ .writePhase ∈ m.stages ∧ w.stage ≠ .prepare ∧ w.stage ≠ .failed := by
  have below : k < m.jobs.length := borne.tasks ▸ w.status?_isSome.2 (by rw [found]; rfl)
  -- there is a job, so the writers have begun
  have begun := order.writers (List.ne_nil_of_length_pos (Nat.zero_lt_of_lt below))
  refine ⟨below, begun, ?_⟩
  rw [borne.stage]
  exact order.course.begun begun

/-- A writer that is worked on when the write phase is over is late. -/
theorem late_of_writing (order : InOrder plan m) (borne : w.BearsOut m) {k : Nat}
    (writer : k < plan.workers) {rest : Worker.Job S}
    (found : w.status? k = some (.running rest)) :
    w.stage = .writePhase ∨ w.shared.isLate 0 k = true := by
  obtain ⟨-, begun, -⟩ := phase_of_running order borne found
  -- after the write phase every writer was taken, taken back or made late
  by_cases reading : Stage.readPhase ∈ m.stages
  · rcases order.writersTaken reading k writer with ⟨result, ended⟩ | taken | late
    · rw [borne.ended ended] at found
      cases found
    · rw [borne.takenBack taken] at found
      cases found
    · exact .inr (borne.late late)
  · exact .inl (borne.stage.trans (order.course.writing_last begun reading))

/-- A reader that is worked on when the read phase is over was given up. -/
theorem givenUp_of_reading (order : InOrder plan m) (borne : w.BearsOut m) {k : Nat}
    (reader : plan.workers ≤ k) {rest : Worker.Job S}
    (found : w.status? k = some (.running rest)) :
    k < plan.workers + plan.workers ∧ (w.stage = .readPhase ∨ (k, .givenUp) ∈ m.takings) := by
  obtain ⟨below, -⟩ := phase_of_running order borne found
  have few := order.few
  have begun := order.readers (by omega)
  refine ⟨by omega, ?_⟩
  -- after the read phase every reader was taken, taken back or given up
  by_cases cleaning : Stage.cleanup ∈ m.stages
  · obtain ⟨taking, there⟩ := order.readersTaken cleaning k (by omega)
    cases taking with
    | ended result =>
      rw [borne.ended there] at found
      cases found
    | takenBack =>
      rw [borne.takenBack there] at found
      cases found
    | givenUp => exact .inr there
  · exact .inl (borne.stage.trans (order.course.reading_last begun cleaning))

/-- A task only calls the storage as the stage of the run permits. -/
theorem task_permits (order : InOrder plan m) (borne : w.BearsOut m) (sound : Mannered plan w)
    {k : Nat} {op : Operation S} {next : op.Answer → Worker.Job S}
    (found : w.status? k = some (.running (.ask (.storage op) next))) :
    (w.stage ≠ .prepare ∧ w.stage ≠ .failed) ∧ Permits plan w m (.task k) op := by
  refine ⟨(phase_of_running order borne found).2.2, ?_⟩
  obtain ⟨known, agrees, asks⟩ := sound k _ found
  have allowed := asks.1
  by_cases writer : k < plan.workers
  · rw [manners_writer writer] at allowed
    cases op with
    | create path => exact ⟨writer, allowed, late_of_writing order borne writer found⟩
    | delete path => exact ⟨writer, allowed.1, agrees allowed.2 writer⟩
    | isPresent _ | makeDirs _ | openRead _ => cases allowed
    | write _ _ | read _ _ | flush _ | close _ => trivial
  · rw [manners_reader writer] at allowed
    cases op with
    | openRead path =>
      obtain ⟨below, past⟩ := givenUp_of_reading order borne (Nat.le_of_not_lt writer) found
      exact ⟨k - plan.workers, by omega, by omega, allowed, past⟩
    | isPresent _ | makeDirs _ | create _ | delete _ => cases allowed
    | write _ _ | read _ _ | flush _ | close _ => trivial

end

/-! ## The state machine of a run -/

/-- What a run keeps to at any time. -/
structure Staged (plan : Plan) (s : State B (Except Fault Tally × Session)) (m : Minutes S) :
    Prop where
  /-- The stages follow each other, or the preparation fails. -/
  course : m.stages <+: [.prepare, .writePhase, .readPhase, .cleanup, .done] ∨
    m.stages = [.prepare, .failed]
  /-- The run is at the stage that it entered last. -/
  stage : s.world.stage = m.stages.getLast?.getD .prepare
  /-- A run that is over comes to a report if and only if it is done. -/
  report : s.isDone = true → (s.report?.isSome = true ↔ s.world.stage = .done)
  /-- The storage is only called as the stage permits, and never in the preparation. -/
  calls : ∀ choice caller op, call? choice s = some (caller, op) →
    (s.world.stage ≠ .prepare ∧ s.world.stage ≠ .failed) ∧ Permits plan s.world m caller op
  /-- Jobs are only handed out in a phase that has found its target. -/
  submits : ∀ pool job next, s.main = .ask (.submit pool job) next →
    ∃ mode : Mode, s.world.stage = mode.stage ∧ m.Found mode
  /-- A pool is closed at most once, without waiting and with its waiting tasks taken back. -/
  closings : m.closings = [] ∨ m.Closed
  /-- A run that is over has closed its pool, if it has made one. -/
  closed : s.isDone = true → m.pools = [] ∨ m.Closed

/-- A run is minuted, and its workers keep their manners. -/
structure Orderly (plan : Plan) (s : State B (Except Fault Tally × Session)) (m : Minutes S) :
    Prop where
  minuted : Minuted plan s m
  mannered : Mannered plan s.world

theorem Orderly.move {choice : Choice B} {s s' : State B (Except Fault Tally × Session)}
    {m : Minutes S} (h : Orderly plan s m) (moved : move choice s = some s') :
    Orderly plan s' (heard choice s m) where
  minuted := h.minuted.move moved
  mannered := by
    rcases move_heard m moved with ⟨-, -, moves⟩ |
      ⟨op, next, reply, _, _, _, -, asks, -, -, answered⟩
    · exact h.mannered.moves moves
    · have asking := h.minuted.asks
      rw [asks] at asking
      exact h.mannered.answer h.minuted.borne asking.1 answered

theorem Orderly.staged {s : State B (Except Fault Tally × Session)} {m : Minutes S}
    (h : Orderly plan s m) : Staged plan s m where
  course := h.minuted.order.course.prefix_or
  stage := h.minuted.borne.stage
  report ended := by
    obtain ⟨r, session, done⟩ := State.exists_of_isDone ended
    rw [h.minuted.borne.stage, Minutes.stage, State.report?, done]
    cases h.minuted.ending done with
    | @refused fault failed => cases told : fault.isConfiguration <;>
      simp [Minutes.unprepared, told]
    | broken _ stages => rcases stages with stages | stages <;> simp [stages]
    | uncleaned _ stages | reported _ stages => simp [stages]
  calls choice caller op called := by
    rcases call?_cases called with ⟨rfl, next, asks⟩ | ⟨k, next, rfl, found⟩
    · have asking := h.minuted.asks
      rw [asks] at asking
      exact main_permits h.minuted.borne.stage asking.1
    · exact task_permits h.minuted.order h.minuted.borne h.mannered found
  submits pool job next asks := by
    have asking := h.minuted.asks
    rw [asks] at asking
    obtain ⟨-, -, mode, -, -, here, found, -⟩ := asking.1
    refine ⟨mode, ?_, found⟩
    rw [h.minuted.borne.stage, Minutes.stage, here]
    rfl
  closings := h.minuted.order.closings
  closed ended := by
    obtain ⟨r, session, done⟩ := State.exists_of_isDone ended
    cases h.minuted.ending done with
    | refused failed => exact .inl rfl
    | broken _ _ pools closings | uncleaned _ _ pools closings | reported _ _ pools closings =>
      exact .inr ⟨0, pools, closings⟩

/-- After every list of decisions a run has kept to its stages: whatever the storage answers, whichever
tasks hang or wait, and in whatever order things happen. -/
theorem run_keeps_its_stages {plan : Plan} {store : B.State} {choices : List (Choice B)}
    {s : State B (Except Fault Tally × Session)}
    (played : play choices (opening plan store) = some s) :
    Staged plan s (minutes choices (opening plan store) {}) := by
  have opens : Orderly plan (opening plan store) ({} : Minutes S) :=
    ⟨opening_minuted plan store, fun _ _ none => by cases none⟩
  exact (play_keeps (fun _ _ => Orderly.move) opens played).staged

/-! ## A reader that begins late -/

/-- The object that a decision opens to be read. -/
def opened? {α : Type} (choice : Choice B) (s : State B α) : Option String :=
  match call? choice s with
  | some (_, .openRead path) => some path
  | _ => none

/-- The read phase gives its only reader up, and the run cleans up.  Then the reader begins. -/
def givenUpReader : List (Choice (anyStorage Unit)) :=
  conducts 9 [] ++ .start 0 :: List.replicate 11 (.work 0 unclosing (.zero false)) ++
    conducts 8 [] ++ .start 1 :: conducts 6 [1] ++ List.replicate 3 (.work 1 unclosing (.zero false))

theorem givenUp_reader_opens :
    ∃ s : State (anyStorage Unit) (Except Fault Tally × Session),
      play givenUpReader (opening oneByte ()) = some s ∧ s.isDone = false ∧
        s.world.stage = .cleanup ∧
        opened? (.work 1 unclosing (.zero false)) s = some "target/io-benchmark-0" := by
  have facts : ((play givenUpReader (opening oneByte ())).any fun s => !s.isDone &&
      (s.world.stage == .cleanup &&
        opened? (.work 1 unclosing (.zero false)) s == some "target/io-benchmark-0")) = true := by
    decide +kernel
  obtain ⟨s, played, facts⟩ := (Option.any_eq_true _ _).1 facts
  obtain ⟨going, facts⟩ := Bool.and_eq_true_iff.1 facts
  obtain ⟨stage, opens⟩ := Bool.and_eq_true_iff.1 facts
  exact ⟨s, played, by simpa using going, eq_of_beq stage, eq_of_beq opens⟩

/-- The late reader opens its object as the run cleans up, and the run has still kept to its stages. -/
theorem givenUp_reader_staged :
    ∃ s : State (anyStorage Unit) (Except Fault Tally × Session),
      play givenUpReader (opening oneByte ()) = some s ∧ s.isDone = false ∧
        s.world.stage = .cleanup ∧
        Staged oneByte s (minutes givenUpReader (opening oneByte ()) {}) := by
  obtain ⟨s, played, going, stage, -⟩ := givenUp_reader_opens
  exact ⟨s, played, going, stage, run_keeps_its_stages played⟩

/-- As long as a run goes on, objects are opened to be read in the read phase only. -/
def OpensOnlyReading : Prop :=
  ∀ {plan : Plan} {S : Type} {B : Backend S} {store : B.State} {choices : List (Choice B)}
    {s : State B (Except Fault Tally × Session)} {choice : Choice B} {path : String},
    play choices (opening plan store) = some s → s.isDone = false →
    opened? choice s = some path → s.world.stage = .readPhase

/-- A reader that was given up may open its object after the read phase. -/
theorem reader_opens_after_its_phase : ¬ OpensOnlyReading := by
  intro only
  obtain ⟨s, played, going, stage, opens⟩ := givenUp_reader_opens
  rw [only played going opens] at stage
  cases stage

end Concert
end StoreMeter
