import StoreMeter.Proofs.Concert.Outline
import StoreMeter.Proofs.Sessions
/-
# Proofs.Concert.Itinerary — a run asks in the order of its points

Each function of a phase and of a run is walked through once, in any surroundings of the main thread.
An `Itinerary` says what each single question leads to, from one point to the next; it does not matter
what the surroundings keep count of.  Then a whole run comes to its last point with the outcomes of
both phases, or it fails and may fail (`Itinerary.whole`).
-/
namespace StoreMeter
namespace Concert

variable {S : Type} {B : Backend S}

/-! ## Itineraries -/

/-- The places of a run before its first phase. -/
inductive Early where
  /-- Nothing was asked yet. -/
  | fresh
  /-- The run prepares. -/
  | preparing
  /-- There is a set of late workers. -/
  | prepared
  /-- There is a pool. -/
  | pooled

/-- An assertion for each place of a run, and what each question leads to.  `fails` says whether the
run may end with a failure. -/
structure Itinerary (piece : Piece B) {X : Type} (env : Surroundings (Conductor.effects S) X)
    (fails : Prop) (Before : Early → X → Prop) (At : Point → X → Prop) : Prop where
  prepare {x : X} (here : Before .fresh x) :
    (Conductor.enter .prepare).Ends env (fun _ x => Before .preparing x) x
  newLate {x : X} (here : Before .preparing x) :
    Conductor.newLate.Ends env (fun late x => late = 0 ∧ Before .prepared x) x
  announce {x : X} (here : Before .prepared x) (entry : Log.Entry) :
    (Conductor.log entry).Ends env (fun _ x => Before .prepared x) x
  newPool {x : X} (here : Before .prepared x) :
    (Conductor.newPool (Run.poolWorkers piece.plan) "bench-io-thread").Ends env
      (fun pool x => pool = 0 ∧ Before .pooled x) x
  begin {x : X} (here : Before .pooled x) :
    (Conductor.enter .writePhase).Ends env (fun _ x => At (.target .write {}) x) x
  log {pt : Point} {x : X} (here : At pt x) (entry : Log.Entry) :
    (Conductor.log entry).Ends env (fun _ x => At pt x) x
  look {mode : Mode} {sofar : Progress} {x : X} (here : At (.target mode sofar) x) :
    (Conductor.isPresent piece.plan.settings.path).Ends env
      (fun r x => Leads fails (fun present => At (.looked mode sofar present) x) r) x
  make {sofar : Progress} {x : X} (here : At (.looked .write sofar false) x) :
    (Conductor.makeDirs piece.plan.settings.path).Ends env
      (fun r x => Leads fails (fun _ => At (.looked .write sofar true) x) r) x
  lost {sofar : Progress} {x : X} (here : At (.looked .read sofar false) x) : fails
  draw {sofar : Progress} {x : X} (here : At (.looked .write sofar true) x) :
    (Conductor.entropy piece.plan.bufferSize).Ends env
      (fun r x => Leads fails (fun payload => At (.placing .write { sofar with payload } 0) x) r) x
  keep {sofar : Progress} {x : X} (here : At (.looked .read sofar true) x) :
    At (.placing .read sofar 0) x
  submit {mode : Mode} {sofar : Progress} {jobs : Nat} {x : X} (more : jobs < piece.workers)
    (here : At (.placing mode sofar jobs) x) :
    (Conductor.submit 0 (piece.job sofar mode jobs)).Ends env
      (fun n x => n = first piece.workers mode + jobs ∧ At (.placing mode sofar (jobs + 1)) x) x
  wait {mode : Mode} {sofar : Progress} {x : X} (here : At (.placing mode sofar piece.workers) x) :
    (Conductor.wait 0 (piece.submissions mode) piece.plan.settings.timeout).Ends env
      (fun r x => Leads fails (fun unfinished => At (.taking mode sofar unfinished) x) r) x
  take {mode : Mode} {sofar : Progress} {unfinished : List Nat} {x : X} {index : Nat}
    (turn : (sofar.outcomes mode).length = index) (more : index < piece.workers)
    (known : first piece.workers mode + index ∉ unfinished)
    (here : At (.taking mode sofar unfinished) x) :
    (Conductor.result 0 (first piece.workers mode + index)).Ends env
      (fun r x => At (.taking mode (sofar.add (endedAs mode index r) mode) unfinished) x) x
  cancel {mode : Mode} {sofar : Progress} {unfinished : List Nat} {x : X} {index : Nat}
    (turn : (sofar.outcomes mode).length = index) (more : index < piece.workers)
    (named : first piece.workers mode + index ∈ unfinished)
    (here : At (.taking mode sofar unfinished) x) :
    (Conductor.cancel 0 (first piece.workers mode + index)).Ends env
      (fun cancelled x => At (.missing mode sofar unfinished cancelled) x) x
  late {sofar : Progress} {unfinished : List Nat} {x : X} {index : Nat}
    (turn : sofar.writes.length = index) (more : index < piece.workers)
    (here : At (.missing .write sofar unfinished false) x) :
    (Conductor.addLate 0 index).Ends env (fun _ x =>
      At (.taking .write (sofar.add (piece.timedOut .write index) .write) unfinished) x) x
  pass {mode : Mode} {sofar : Progress} {unfinished : List Nat} {cancelled : Bool} {x : X}
    {index : Nat} (turn : (sofar.outcomes mode).length = index) (more : index < piece.workers)
    (gone : mode = .write → cancelled = true)
    (here : At (.missing mode sofar unfinished cancelled) x) :
    At (.taking mode (sofar.add (piece.timedOut mode index) mode) unfinished) x
  list {sofar : Progress} {unfinished : List Nat} {x : X}
    (here : At (.taking .write sofar unfinished) x) :
    (Conductor.lateIndexes 0).Ends env (fun _ x => At (.taking .write sofar unfinished) x) x
  again {sofar : Progress} {unfinished : List Nat} {x : X}
    (all : sofar.writes.length = piece.workers) (here : At (.taking .write sofar unfinished) x) :
    (Conductor.enter .readPhase).Ends env (fun _ x => At (.target .read sofar) x) x
  close {sofar : Progress} {unfinished : List Nat} {x : X}
    (all : sofar.writes.length = piece.workers) (all_read : sofar.reads.length = piece.workers)
    (here : At (.taking .read sofar unfinished) x) :
    (Conductor.shutdown 0 false true).Ends env (fun _ x => At (.closing sofar) x) x
  /-- The pool is closed after a failure, too. -/
  quit (failed : fails) (x : X) :
    (Conductor.shutdown (S := S) 0 false true).Ends env (fun _ _ => True) x
  clean {sofar : Progress} {x : X} (here : At (.closing sofar) x) :
    (Conductor.enter .cleanup).Ends env (fun _ x => At (.clearing sofar 0) x) x
  delete {sofar : Progress} {index : Nat} {x : X} (more : index < piece.workers)
    (here : At (.clearing sofar index) x) :
    (Conductor.delete (piece.plan.settings.objectPath index)).Ends env
      (fun r x => (∀ fault, r = .error fault → fault.isAbsent = false → fault.isSystem = false →
        fails) ∧ At (.clearing sofar (index + 1)) x) x
  finish {sofar : Progress} {x : X} (here : At (.clearing sofar piece.workers) x) :
    (Conductor.enter .done).Ends env (fun _ x => At (.finished sofar) x) x

namespace Itinerary

variable {X : Type} {env : Surroundings (Conductor.effects S) X} {piece : Piece B} {fails : Prop}
variable {Before : Early → X → Prop} {At : Point → X → Prop} {x : X}

/-! ## The target and the payload -/

theorem makeTarget_ends (itinerary : Itinerary piece env fails Before At) {sofar : Progress}
    {present : Bool} (here : At (.looked .write sofar present) x) :
    (Phase.makeTarget piece.plan.settings.path present).Ends env
      (fun r x => Leads fails (fun _ => At (.looked .write sofar true) x) r) x := by
  unfold Phase.makeTarget
  cases present with
  | true => exact here
  | false => exact (itinerary.log here _).bind fun _ _ here => itinerary.make here

theorem prepareTarget_ends (itinerary : Itinerary piece env fails Before At) {mode : Mode}
    {sofar : Progress} (here : At (.target mode sofar) x) :
    (Phase.prepareTarget piece.plan.settings.path mode).Ends env
      (fun r x => Leads fails (fun _ => At (.looked mode sofar true) x) r) x := by
  unfold Phase.prepareTarget
  refine (itinerary.look here).bind fun r x leads => ?_
  cases r with
  | error fault => exact leads
  | ok present =>
    cases mode with
    | read =>
      cases present with
      | true => exact leads
      | false => exact itinerary.lost leads
    | write =>
      refine (itinerary.makeTarget_ends leads).bind fun r x leads => ?_
      cases r <;> exact leads

theorem jobs_ends (itinerary : Itinerary piece env fails Before At) {mode : Mode}
    {sofar : Progress} (here : At (.looked mode sofar true) x) :
    (Phase.jobs piece.plan.settings mode piece.size piece.plan.bufferSize (some 0)).Ends env
      (fun r x => Leads fails (fun job => ∃ payload, job = piece.job { sofar with payload } mode ∧
        At (.placing mode { sofar with payload } 0) x) r) x := by
  cases mode with
  | read => exact ⟨sofar.payload, rfl, itinerary.keep here⟩
  | write =>
    refine (itinerary.draw here).bind fun r x leads => ?_
    cases r with
    | error fault => exact leads
    | ok payload => exact ⟨payload, rfl, leads⟩

/-! ## Submitting -/

theorem submitAll_ends (itinerary : Itinerary piece env fails Before At) {mode : Mode}
    {sofar : Progress} (here : At (.placing mode sofar 0) x) :
    (Phase.submitAll 0 ((List.range piece.workers).map (piece.job sofar mode))).Ends env
      (fun submissions x => submissions = piece.submissions mode ∧
        At (.placing mode sofar piece.workers) x) x := by
  -- jobs that are placed have the numbers of their places, counted from the first of the phase
  let placing (placed : List (Worker.Job S)) (submissions : List Nat)
      (rest : List (Worker.Job S)) (x : X) : Prop :=
    placed ++ rest = (List.range piece.workers).map (piece.job sofar mode) ∧
      submissions = (List.range placed.length).map (first piece.workers mode + ·) ∧
      At (.placing mode sofar placed.length) x
  refine (Prog.ends_mapM (Conductor.submit (S := S) 0) placing ?_ _ x ⟨rfl, rfl, here⟩).mono ?_
  rotate_left
  · rintro submissions x ⟨-, rfl, here⟩
    rw [List.length_map, List.length_range] at here ⊢
    exact ⟨rfl, here⟩
  · rintro placed submissions job rest x ⟨split, rfl, here⟩
    have more : placed.length < piece.workers := by
      have := congrArg List.length split
      simp only [List.length_append, List.length_cons, List.length_map, List.length_range] at this
      omega
    obtain rfl : piece.job sofar mode placed.length = job := by
      have := congrArg (fun jobs => jobs[placed.length]?) split
      simpa [List.getElem?_range more] using this.symm
    refine (itinerary.submit more here).mono ?_
    rintro n x ⟨rfl, here⟩
    refine ⟨by rw [← split, List.append_assoc, List.singleton_append], ?_, ?_⟩
    · rw [List.length_append, List.length_singleton, List.range_succ, List.map_append,
        List.map_singleton]
    · rwa [List.length_append, List.length_singleton]

/-! ## Collecting -/

section
variable {mode : Mode} {sofar : Progress} {unfinished : List Nat} {index : Nat}

theorem finished_ends (itinerary : Itinerary piece env fails Before At)
    (turn : (sofar.outcomes mode).length = index) (more : index < piece.workers)
    (known : first piece.workers mode + index ∉ unfinished)
    (here : At (.taking mode sofar unfinished) x) :
    (Phase.finished (S := S) 0 mode index (first piece.workers mode + index)).Ends env
      (fun outcome x => At (.taking mode (sofar.add outcome mode) unfinished) x) x := by
  unfold Phase.finished
  refine (itinerary.take turn more known here).bind fun r x here => ?_
  cases r with
  | ok outcome => exact here
  | error fault => exact (itinerary.log here _).bind fun _ _ here => here

theorem timedOut_ends (itinerary : Itinerary piece env fails Before At)
    (turn : (sofar.outcomes mode).length = index) (more : index < piece.workers)
    (named : first piece.workers mode + index ∈ unfinished)
    (here : At (.taking mode sofar unfinished) x) :
    (Phase.timedOut (S := S) 0 mode piece.plan.settings.timeout
        (if mode = .write then some 0 else none) index (first piece.workers mode + index)).Ends
      env (fun outcome x => At (.taking mode (sofar.add outcome mode) unfinished) x) x := by
  unfold Phase.timedOut
  refine (itinerary.cancel turn more named here).bind fun cancelled x here => ?_
  have told {x : X} (here : At
      (.taking mode (sofar.add (piece.timedOut mode index) mode) unfinished) x) (entry : Log.Entry) :
      (do Conductor.log entry; pure (piece.timedOut mode index) : Conductor.Program S Outcome).Ends
        env (fun outcome x => At (.taking mode (sofar.add outcome mode) unfinished) x) x :=
    (itinerary.log here entry).bind fun _ _ here => here
  cases mode with
  | read => exact told (itinerary.pass turn more nofun here) _
  | write =>
    -- a writer that was taken back never runs; one that was not may still write, and is made late
    cases cancelled with
    | true => exact told (itinerary.pass turn more (fun _ => rfl) here) _
    | false => exact (itinerary.late turn more here).bind fun _ _ here => told here _

/-- The outcomes of all workers of a phase. -/
theorem collectFrom_ends (itinerary : Itinerary piece env fails Before At)
    (fresh : sofar.outcomes mode = []) (here : At (.taking mode sofar unfinished) x) :
    (Phase.collectFrom (S := S) 0 mode piece.plan.settings.timeout
        (if mode = .write then some 0 else none) unfinished 0
        (List.range' (first piece.workers mode) piece.workers)).Ends env
      (fun outcomes x => outcomes.length = piece.workers ∧
        At (.taking mode (sofar.extend outcomes mode) unfinished) x) x := by
  have turn (outcomes : List Outcome) :
      ((sofar.extend outcomes mode).outcomes mode).length = outcomes.length := by
    rw [Progress.outcomes_extend, fresh, List.nil_append]
  refine Phase.collectRange_ends
    (fun outcomes => At (.taking mode (sofar.extend outcomes mode) unfinished)) ?_ ?_
    (by rwa [Progress.extend_nil])
  · intro outcomes x more named here
    refine (itinerary.timedOut_ends (turn outcomes) more named here).mono fun o x here => ?_
    rwa [Progress.extend_add] at here
  · intro outcomes x more known here
    refine (itinerary.finished_ends (turn outcomes) more known here).mono fun o x here => ?_
    rwa [Progress.extend_add] at here

end

/-! ## Phases -/

/-- A phase that is over: its outcomes, one for each worker, are behind those of before. -/
def PhaseDone (piece : Piece B) (At : Point → X → Prop) (mode : Mode) (sofar : Progress)
    (outcomes : List Outcome) (x : X) : Prop :=
  outcomes.length = piece.workers ∧ ∃ payload unfinished,
    At (.taking mode ({ sofar with payload }.extend outcomes mode) unfinished) x

theorem collect_ends (itinerary : Itinerary piece env fails Before At) {mode : Mode}
    {sofar : Progress} (fresh : sofar.outcomes mode = []) (here : At (.placing mode sofar 0) x) :
    (Phase.collect 0 mode ((List.range piece.workers).map (piece.job sofar mode))
        piece.plan.settings.timeout (if mode = .write then some 0 else none)).Ends env
      (fun r x => Leads fails (fun outcomes => PhaseDone piece At mode sofar outcomes x) r) x := by
  unfold Phase.collect
  refine (itinerary.submitAll_ends here).bind ?_
  rintro submissions x ⟨rfl, here⟩
  refine (itinerary.wait here).bind fun r x leads => ?_
  cases r with
  | error fault => exact leads
  | ok unfinished =>
    rw [Piece.submissions, ← List.range'_eq_map_range]
    refine (itinerary.collectFrom_ends fresh leads).bind ?_
    rintro outcomes x ⟨length, here⟩
    exact ⟨length, sofar.payload, unfinished, here⟩

theorem runJobs_ends (itinerary : Itinerary piece env fails Before At) {mode : Mode}
    {sofar : Progress} (fresh : sofar.outcomes mode = []) (here : At (.placing mode sofar 0) x) :
    (Phase.runJobs piece.plan.settings mode 0 piece.size (some 0) (piece.job sofar mode)).Ends env
      (fun r x => Leads fails (fun outcomes => PhaseDone piece At mode sofar outcomes x) r) x := by
  unfold Phase.runJobs
  refine (itinerary.log here _).bind fun _ x here => ?_
  rw [piece.counted]
  refine (itinerary.collect_ends fresh here).bind fun r x leads => ?_
  cases r with
  | error fault => exact leads
  | ok outcomes =>
    obtain ⟨length, payload, unfinished, here⟩ := leads
    exact (itinerary.log here _).bind fun _ x here => ⟨length, payload, unfinished, here⟩

theorem phase_ends (itinerary : Itinerary piece env fails Before At) {mode : Mode}
    {sofar : Progress} (fresh : sofar.outcomes mode = []) (here : At (.target mode sofar) x) :
    (Phase.run piece.plan.settings mode 0 piece.size piece.plan.bufferSize (some 0)).Ends env
      (fun r x => Leads fails (fun outcomes => PhaseDone piece At mode sofar outcomes x) r) x := by
  unfold Phase.run
  refine (itinerary.prepareTarget_ends here).bind fun r x leads => ?_
  cases r with
  | error fault => exact leads
  | ok _ =>
    refine (itinerary.jobs_ends leads).bind fun r x leads => ?_
    cases r with
    | error fault => exact leads
    | ok job =>
      obtain ⟨payload, rfl, here⟩ := leads
      have fresh : ({ sofar with payload } : Progress).outcomes mode = [] := by
        cases mode <;> exact fresh
      exact itinerary.runJobs_ends fresh here

/-! ## Both phases -/

/-- The session of a run whose settings are checked. -/
def Ready (piece : Piece B) (session : Session) : Prop :=
  session.size = some piece.size ∧ session.late = 0

section
variable {session : Session}

theorem phase_arrives (itinerary : Itinerary piece env fails Before At) {mode : Mode}
    {sofar : Progress} (ready : Ready piece session) (fresh : sofar.outcomes mode = [])
    (here : At (.target mode sofar) x) :
    Run.Arrives env fails
      (fun outcomes session x => Ready piece session ∧ PhaseDone piece At mode sofar outcomes x)
      (Run.phase piece.plan mode 0) session x := by
  unfold Run.phase
  refine Run.arrives_size ready.1 (Run.arrives_get ?_)
  rw [ready.2]
  refine Run.arrives_attempt ((itinerary.phase_ends fresh here).mono fun r x leads => ?_)
  cases r with
  | error fault => exact leads
  | ok outcomes => exact ⟨ready, leads⟩

theorem write_arrives (itinerary : Itinerary piece env fails Before At)
    (ready : Ready piece session) (here : Before .pooled x) :
    Run.Arrives env fails
      (fun tally session x => Ready piece session ∧ ∃ sofar unfinished,
        sofar.writes.length = piece.workers ∧ sofar.reads = [] ∧
        tally = Tally.ofOutcomes sofar.writes ∧ At (.taking .write sofar unfinished) x)
      (Run.write piece.plan 0) session x := by
  unfold Run.write
  refine Run.arrives_lift_bind (itinerary.begin here) fun _ x here => ?_
  refine (itinerary.phase_arrives ready rfl here).bind ?_
  rintro outcomes session x ⟨ready, length, payload, unfinished, here⟩
  refine Run.arrives_get ?_
  rw [ready.2]
  refine Run.arrives_lift_bind (itinerary.list here) fun late x here => ?_
  have returned {x : X} (here : At (.taking .write { payload, writes := outcomes } unfinished) x) :
      ∃ sofar unfinished, sofar.writes.length = piece.workers ∧ sofar.reads = [] ∧
        Tally.ofOutcomes outcomes = Tally.ofOutcomes sofar.writes ∧
        At (.taking .write sofar unfinished) x :=
    ⟨{ payload, writes := outcomes }, unfinished, length, rfl, rfl, here⟩
  split
  · exact Run.arrives_lift_bind (itinerary.log here _) fun _ _ here => ⟨ready, returned here⟩
  · exact ⟨ready, returned here⟩

theorem read_arrives (itinerary : Itinerary piece env fails Before At) {sofar : Progress}
    {unfinished : List Nat} (ready : Ready piece session)
    (all : sofar.writes.length = piece.workers) (fresh : sofar.outcomes .read = [])
    (here : At (.taking .write sofar unfinished) x) :
    Run.Arrives env fails
      (fun tally _ x => ∃ reads payload unfinished, reads.length = piece.workers ∧
        tally = Tally.ofOutcomes reads ∧ At (.taking .read { sofar with payload, reads } unfinished) x)
      (Run.read piece.plan 0) session x := by
  unfold Run.read
  refine Run.arrives_lift_bind (itinerary.again all here) fun _ x here => ?_
  refine (itinerary.phase_arrives ready fresh here).bind ?_
  rintro outcomes session x ⟨-, length, payload, unfinished, here⟩
  refine Run.arrives_pure ⟨outcomes, payload, unfinished, length, rfl, ?_⟩
  have none_read : sofar.reads = [] := fresh
  simpa [Progress.extend, none_read] using here

/-- Both phases are over and their tallies are those of their outcomes. -/
def Tallied (piece : Piece B) (At : Point → X → Prop) (pt : Progress → Point)
    (written readBack : Tally) (x : X) : Prop :=
  ∃ sofar, sofar.writes.length = piece.workers ∧ sofar.reads.length = piece.workers ∧
    written = Tally.ofOutcomes sofar.writes ∧ readBack = Tally.ofOutcomes sofar.reads ∧
    At (pt sofar) x

theorem phases_arrives (itinerary : Itinerary piece env fails Before At)
    (ready : Ready piece session) (here : Before .pooled x) :
    Run.Arrives env fails (fun tallies _ x => Tallied piece At .closing tallies.1 tallies.2 x)
      (Run.phases piece.plan 0) session x := by
  have both : Run.Arrives env fails
      (fun tallies _ x => ∃ unfinished,
        Tallied piece At (.taking .read · unfinished) tallies.1 tallies.2 x)
      (do
        let written ← Run.write piece.plan 0
        let readBack ← Run.read piece.plan 0
        return (written, readBack) : Run.Step S (Tally × Tally)) session x := by
    refine (itinerary.write_arrives ready here).bind ?_
    rintro written session x ⟨ready, sofar, unfinished, all, fresh, rfl, here⟩
    refine (itinerary.read_arrives ready all fresh here).bind ?_
    rintro readBack session x ⟨reads, payload, unfinished, all_read, rfl, here⟩
    exact Run.arrives_pure
      ⟨unfinished, { sofar with payload, reads }, all, all_read, rfl, rfl, here⟩
  -- the pool is closed after a failure, too
  unfold Run.phases
  refine Run.arrives_finally both ?_ ?_
  · rintro tallies session x ⟨unfinished, sofar, all, all_read, written, readBack, here⟩
    exact (itinerary.close all all_read here).mono fun _ _ here =>
      ⟨sofar, all, all_read, written, readBack, here⟩
  · exact fun x failed => (itinerary.quit failed x).mono fun _ _ _ => failed

/-! ## Cleaning up -/

theorem deleteObject_arrives (itinerary : Itinerary piece env fails Before At) {sofar : Progress}
    {index : Nat} (more : index < piece.workers) (here : At (.clearing sofar index) x) :
    Run.Arrives env fails (fun _ _ x => At (.clearing sofar (index + 1)) x)
      (Run.deleteObject (piece.plan.settings.objectPath index)) session x := by
  unfold Run.deleteObject
  refine Run.arrives_lift_bind (itinerary.delete more here) ?_
  rintro r x ⟨failing, here⟩
  cases r with
  | ok _ => exact Run.arrives_pure here
  | error fault =>
    dsimp only
    split
    · exact Run.arrives_lift_bind (itinerary.log here _) fun _ _ here => here
    · rename_i present
      split
      · exact Run.arrives_lift_bind (itinerary.log here _) fun _ _ here => here
      · rename_i foreign
        exact Run.arrives_throw (failing fault rfl (by simpa using present) (by simpa using foreign))

theorem deleteFrom_arrives (itinerary : Itinerary piece env fails Before At) {sofar : Progress}
    (rest : Nat) : ∀ {index : Nat} {session : Session} {x : X}, index + rest = piece.workers →
      At (.clearing sofar index) x →
      Run.Arrives env fails (fun _ _ x => At (.clearing sofar piece.workers) x)
        (((List.range' index rest).map fun (i : Nat) => piece.plan.settings.objectPath i).mapM
          Run.deleteObject) session x := by
  induction rest with
  | zero =>
    rintro index session x rfl here
    exact Run.arrives_pure here
  | succ rest ih =>
    intro index session x count here
    rw [List.range'_succ, List.map_cons, List.mapM_cons]
    refine (itinerary.deleteObject_arrives (by omega) here).bind fun _ session x here => ?_
    exact (ih (by omega) here).bind fun _ _ _ here => Run.arrives_pure here

theorem cleanup_arrives (itinerary : Itinerary piece env fails Before At) {sofar : Progress}
    (here : At (.closing sofar) x) :
    Run.Arrives env fails (fun _ _ x => At (.clearing sofar piece.workers) x)
      (Run.cleanup piece.plan) session x := by
  unfold Run.cleanup
  refine Run.arrives_lift_bind (itinerary.clean here) fun _ x here => ?_
  have paths : piece.plan.settings.objectPaths =
      .ok ((List.range' 0 piece.workers).map fun (i : Nat) => piece.plan.settings.objectPath i) := by
    rw [Settings.objectPaths, piece.counted, ← List.range_eq_range']
    rfl
  rw [paths]
  exact (itinerary.deleteFrom_arrives piece.workers (Nat.zero_add _) here).bind
    fun _ _ _ here => Run.arrives_pure here

/-! ## A whole run -/

theorem prepare_arrives (itinerary : Itinerary piece env fails Before At) (here : Before .fresh x) :
    Run.Arrives env fails (fun _ session x => Ready piece session ∧ Before .prepared x)
      (Run.prepare piece.plan) session x := by
  unfold Run.prepare
  refine Run.arrives_lift_bind (itinerary.prepare here) fun _ x here => ?_
  refine Run.arrives_lift_bind (itinerary.newLate here) ?_
  rintro _ x ⟨rfl, here⟩
  refine Run.arrives_modify ?_
  rw [piece.checked]
  exact ⟨⟨rfl, rfl⟩, here⟩

/-- The report of a run with the state at its end. -/
def Reported (piece : Piece B) (At : Point → X → Prop) (report : Tally) (x : X) : Prop :=
  ∃ written readBack, report = written.merge readBack ∧ Tallied piece At .finished written readBack x

/-- A whole run comes to its report, or fails where it may. -/
theorem whole (itinerary : Itinerary piece env fails Before At) (session : Session)
    (here : Before .fresh x) :
    Run.Arrives env fails (fun report _ x => Reported piece At report x) (Run.whole piece.plan)
      session x := by
  unfold Run.whole
  refine (itinerary.prepare_arrives here).bind ?_
  rintro _ session x ⟨ready, here⟩
  refine Run.arrives_lift_bind (itinerary.announce here _) fun _ x here => ?_
  refine Run.arrives_lift_bind (itinerary.newPool here) ?_
  rintro _ x ⟨rfl, here⟩
  refine Run.arrives_modify ?_
  have ready : Ready piece { session with pool := some 0 } := ready
  refine (itinerary.phases_arrives ready here).bind ?_
  rintro ⟨written, readBack⟩ session x ⟨sofar, all, all_read, wrote, read, here⟩
  refine (itinerary.cleanup_arrives here).bind fun _ session x here => ?_
  refine Run.arrives_lift_bind (itinerary.finish here) fun _ x here => ?_
  refine Run.arrives_lift_bind (itinerary.log here _) fun _ x here => ?_
  exact Run.arrives_pure ⟨written, readBack, rfl, sofar, all, all_read, wrote, read, here⟩

end

end Itinerary

end Concert
end StoreMeter
