import StoreMeter.Proofs.Cleanup
import StoreMeter.Proofs.Preparation
import StoreMeter.Proofs.Tallies
/-
# Proofs.Proceedings — a whole run by its minutes

The main thread of a run is walked through once, by function, in surroundings that take its minutes
and answer as they like.  Wherever it asks a question, the question fits (`Fits`); and wherever it is
done, its minutes say how the run ended (`Ending`): it was refused by the check of the settings, it
was broken off in a phase, its cleaning up was broken off, or it came to its report.
-/
namespace StoreMeter

open Concert (first endedAs)

variable {S : Type} {plan : Plan} {m : Minutes S} {mode : Mode}

/-! ## The target and the jobs -/

/-- What the minutes say after a failure in a phase. -/
structure Broken (m : Minutes S) (fault : Fault) (m' : Minutes S) : Prop where
  stages : m'.stages = m.stages
  pools : m'.pools = m.pools
  closings : m'.closings = m.closings
  deletions : m'.deletions = m.deletions
  /-- No phase finds fault with the settings itself. -/
  told : fault.isConfiguration = true → fault ∈ m'.failures
  /-- A failure of the setup comes before the jobs. -/
  unplaced : fault.isSetup = true → m'.jobs = m.jobs

theorem seeTarget_ok (present : Bool) :
    m.seeTarget (.ok present) = { m with target := m.target ++ [.ok present] } := by
  simp [Minutes.seeTarget, failureOf]

theorem hear_ok {α : Type} (a : α) : m.hear (.ok a) = m := by
  simp [Minutes.hear, failureOf]

theorem broken_hear {α : Type} (fault : Fault) :
    Broken m fault (m.hear (.error fault : Except Fault α)) :=
  ⟨rfl, rfl, rfl, rfl, fun _ => List.mem_append_right _ (List.mem_singleton_self fault),
    fun _ => rfl⟩

theorem Broken.of_target {target : List (Except Fault Bool)} {fault : Fault} {m' : Minutes S}
    (h : Broken { m with target } fault m') : Broken m fault m' :=
  ⟨h.stages, h.pools, h.closings, h.deletions, h.told, h.unplaced⟩

/-- What becomes of a failure of the system is no failure of the settings. -/
theorem broken_target (path : String) (fault : Fault) :
    Broken m (Phase.targetFault path fault) (m.seeTarget (.error fault)) := by
  refine ⟨rfl, rfl, rfl, rfl, fun configuration => ?_, fun _ => rfl⟩
  unfold Phase.targetFault at configuration ⊢
  split at configuration
  · cases configuration
  · rename_i foreign
    rw [if_neg foreign]
    exact List.mem_append_right _ (List.mem_singleton_self fault)

theorem prepareTarget_minuted (here : m.In mode) (fresh : m.target = []) :
    (Phase.prepareTarget (S := S) plan.settings.path mode).Ends (minuted (Fits plan))
      (fun r m' => match r with
        | .ok _ => ∃ target, m' = { m with target } ∧ m'.Found mode
        | .error fault => Broken m fault m') m := by
  unfold Phase.prepareTarget
  refine ask_minuted ⟨rfl, fresh, mode, here⟩ ?_
  rintro (fault | present) -
  · exact broken_target _ fault
  show Prog.Ends _ _ _ (m.seeTarget (.ok present))
  rw [seeTarget_ok, fresh]
  cases mode with
  | read =>
    cases present with
    | true => exact ⟨_, rfl, .inl rfl⟩
    -- a target that is missing is no failure of the settings
    | false => exact ⟨rfl, rfl, rfl, rfl, nofun, fun _ => rfl⟩
  | write =>
    unfold Phase.makeTarget
    cases present with
    | true => exact ⟨_, rfl, .inl rfl⟩
    | false =>
      have made : (Conductor.makeDirs (S := S) plan.settings.path).Ends (minuted (Fits plan))
          (fun (reply : Except Fault Unit) m' =>
            m' = { m with target := [.ok false] }.seeTarget (reply.map fun _ => true))
          { m with target := [.ok false] } := ends_minuted ⟨rfl, rfl, here⟩ fun _ _ => rfl
      refine Prog.Ends.bind (ask_minuted trivial fun _ _ => made) ?_
      rintro (fault | _) _ rfl
      · exact (broken_target _ fault).of_target
      · exact ⟨_, seeTarget_ok true, .inr ⟨rfl, rfl⟩⟩

theorem jobs_minuted (size : Nat) :
    (Phase.jobs (S := S) plan.settings mode size plan.bufferSize (some 0)).Ends
      (minuted (Fits plan)) (fun r m' => match r with
        | .ok job => (∀ index : Nat, IsJob plan mode index (job index)) ∧ m' = m
        | .error fault => Broken m fault m') m := by
  cases mode with
  | read => exact ⟨fun _ => ⟨size, rfl⟩, rfl⟩
  | write =>
    refine ask_minuted trivial ?_
    rintro (fault | payload) -
    · exact broken_hear fault
    · exact ⟨fun _ => ⟨size, payload, rfl⟩, hear_ok payload⟩

/-- A phase can hand out its jobs on a pool that is open. -/
structure Starts (plan : Plan) (mode : Mode) (pool : Nat) (m : Minutes S) : Prop where
  here : m.In mode
  sets : m.sets = 1
  pools : m.pools = [pool]
  opened : m.closings = []
  turn : m.jobs.length = first plan.workers mode

/-- Jobs are handed out in the order of their workers. -/
theorem submitAll_minuted {pool : Nat} {job : Nat → Worker.Job S} (starts : Starts plan mode pool m)
    (found : m.Found mode) (jobs : ∀ index : Nat, IsJob plan mode index (job index)) :
    (Phase.submitAll pool ((List.range plan.workers).map job)).Ends (minuted (Fits plan))
      (fun submissions m' => submissions = List.range' (first plan.workers mode) plan.workers ∧
        m' = { m with jobs := m.jobs ++ (List.range plan.workers).map job }) m := by
  -- jobs that are placed have the numbers of their places, counted from the first of the phase
  let placing (before : List (Worker.Job S)) (submissions : List Nat)
      (rest : List (Worker.Job S)) (m' : Minutes S) : Prop :=
    before ++ rest = (List.range plan.workers).map job ∧
      submissions = List.range' (first plan.workers mode) before.length ∧
        m' = { m with jobs := m.jobs ++ before }
  refine (Prog.ends_mapM (Conductor.submit (S := S) pool) placing ?_ _ m
    ⟨rfl, rfl, by simp⟩).mono ?_
  rotate_left
  · rintro submissions m' ⟨-, rfl, rfl⟩
    exact ⟨by simp, rfl⟩
  rintro before _ next rest _ ⟨split, rfl, rfl⟩
  have length := congrArg List.length split
  simp only [List.length_append, List.length_cons, List.length_map, List.length_range] at length
  have below : before.length < plan.workers := by omega
  have this_job : job before.length = next := by
    have := congrArg (fun jobs => jobs[before.length]?) split
    simpa [List.getElem?_range below] using this.symm
  refine ends_minuted ⟨starts.pools, starts.opened, mode, before.length, below, starts.here, found,
    ?_, this_job ▸ jobs before.length⟩ ?_
  · simp [starts.turn]
  · rintro n (rfl : n = _)
    refine ⟨by rw [← split, List.append_assoc, List.singleton_append], ?_, ?_⟩
    · simp [List.range'_concat, starts.turn]
    · simp [Minutes.note]

/-! ## Collecting -/

/-- The writers that were given up; only writers are made late. -/
def missed (mode : Mode) (takings : List (Nat × Taking)) : List Int :=
  takings.filterMap fun (k, taking) => match mode, taking with
    | .write, .givenUp => some (k : Int)
    | _, _ => none

theorem missed_append (mode : Mode) (takings more : List (Nat × Taking)) :
    missed mode (takings ++ more) = missed mode takings ++ missed mode more :=
  List.filterMap_append

/-- The minutes after a phase has collected outcomes. -/
def Minutes.collect (m : Minutes S) (mode : Mode) (takings : List (Nat × Taking)) : Minutes S :=
  { m with takings := m.takings ++ takings, late := m.late ++ missed mode takings }

theorem collect_collect (takings more : List (Nat × Taking)) :
    (m.collect mode takings).collect mode more = m.collect mode (takings ++ more) := by
  simp [Minutes.collect, missed_append]

/-- The set of late workers that a phase adds to. -/
def lateSet (mode : Mode) : Option Nat := if mode = .write then some 0 else none

theorem timedOut_minuted (sets : m.sets = 1) (pool index : Nat) :
    (Phase.timedOut (S := S) pool mode plan.settings.timeout (lateSet mode) index
        (first plan.workers mode + index)).Ends (minuted (Fits plan))
      (fun outcome m' => ∃ taking : Taking, outcome = taking.outcome plan mode index ∧
        m' = m.collect mode [(first plan.workers mode + index, taking)]) m := by
  unfold Phase.timedOut
  refine ask_minuted trivial fun back _ => ?_
  cases mode with
  | read =>
    refine ask_minuted trivial fun _ _ => ⟨bif back then .takenBack else .givenUp, ?_, ?_⟩
    · cases back <;> rfl
    · cases back <;> simp [Minutes.note, Minutes.collect, Minutes.take, missed]
  | write =>
    cases back with
    | true =>
      refine ask_minuted trivial fun _ _ => ⟨.takenBack, rfl, ?_⟩
      simp [Minutes.note, Minutes.collect, Minutes.take, missed]
    | false =>
      refine ask_minuted ⟨rfl, sets⟩ fun _ _ => ?_
      refine ask_minuted trivial fun _ _ => ⟨.givenUp, rfl, ?_⟩
      simp [Minutes.note, Minutes.collect, Minutes.take, missed, first]

theorem finished_minuted (pool index : Nat) :
    (Phase.finished (S := S) pool mode index (first plan.workers mode + index)).Ends
      (minuted (Fits plan)) (fun outcome m' => ∃ taking : Taking,
        outcome = taking.outcome plan mode index ∧
          m' = m.collect mode [(first plan.workers mode + index, taking)]) m := by
  have taken (result : Except Fault Outcome) : m.take (first plan.workers mode + index) (.ended result)
      = m.collect mode [(first plan.workers mode + index, .ended result)] := by
    cases mode <;> simp [Minutes.collect, Minutes.take, missed]
  unfold Phase.finished
  refine ask_minuted trivial ?_
  rintro (fault | outcome) -
  · exact ask_minuted trivial fun _ _ => ⟨.ended (.error fault), rfl, taken _⟩
  · exact ⟨.ended (.ok outcome), rfl, taken _⟩

/-- The outcomes of the workers of a phase from a number on. -/
def Collected (plan : Plan) (mode : Mode) (index rest : Nat) (takings : List (Nat × Taking))
    (outcomes : List Outcome) : Prop :=
  takings.map Prod.fst = List.range' (first plan.workers mode + index) rest ∧
    outcomes = takings.map fun (k, taking) =>
      taking.outcome plan mode (k - first plan.workers mode)

/-- One more submission is taken. -/
theorem Collected.concat {n : Nat} {takings : List (Nat × Taking)} {outcomes : List Outcome}
    (collected : Collected plan mode 0 n takings outcomes) (taking : Taking) :
    Collected plan mode 0 (n + 1) (takings ++ [(first plan.workers mode + n, taking)])
      (outcomes ++ [taking.outcome plan mode n]) := by
  obtain ⟨numbers, rfl⟩ := collected
  constructor
  · rw [List.map_append, numbers, List.range'_1_concat]
    rfl
  · simp

theorem collectFrom_minuted (pool : Nat) (unfinished : List Nat) (sets : m.sets = 1) :
    (Phase.collectFrom (S := S) pool mode plan.settings.timeout (lateSet mode) unfinished 0
        (List.range' (first plan.workers mode) plan.workers)).Ends (minuted (Fits plan))
      (fun outcomes m' => ∃ takings, Collected plan mode 0 plan.workers takings outcomes ∧
        m' = m.collect mode takings) m := by
  -- the takings so far are those of the outcomes so far
  have next {outcomes : List Outcome} {takings : List (Nat × Taking)}
      (collected : Collected plan mode 0 outcomes.length takings outcomes) {outcome : Outcome}
      {m' : Minutes S} (h : ∃ taking : Taking, outcome = taking.outcome plan mode outcomes.length ∧
        m' = (m.collect mode takings).collect mode
          [(first plan.workers mode + outcomes.length, taking)]) :
      ∃ takings, Collected plan mode 0 (outcomes ++ [outcome]).length takings
        (outcomes ++ [outcome]) ∧ m' = m.collect mode takings := by
    obtain ⟨taking, rfl, rfl⟩ := h
    refine ⟨_, ?_, collect_collect _ _⟩
    rw [List.length_append]
    exact collected.concat taking
  refine (Phase.collectRange_ends (fun outcomes m' => ∃ takings,
    Collected plan mode 0 outcomes.length takings outcomes ∧ m' = m.collect mode takings) ?_ ?_
    ⟨[], ⟨rfl, rfl⟩, by simp [Minutes.collect, missed]⟩).mono ?_
  · rintro outcomes _ - - ⟨takings, collected, rfl⟩
    have sets : (m.collect mode takings).sets = 1 := sets
    exact (timedOut_minuted sets pool _).mono fun _ _ => next collected
  · rintro outcomes _ - - ⟨takings, collected, rfl⟩
    exact (finished_minuted pool _).mono fun _ _ => next collected
  · rintro outcomes m' ⟨count, collected⟩
    rwa [count] at collected

/-! ## Phases -/

/-- A wait that fails finds fault with its limit, and with nothing else. -/
theorem innocent_of_wait {unfinished : List Nat} {limit : Value} {fault : Fault}
    (failed : Conductor.waitResult unfinished limit = .error fault) :
    fault.isConfiguration = false ∧ fault.isSetup = false := by
  unfold Conductor.waitResult at failed
  split at failed
  · cases failed
  · unfold Conductor.checkLimit at failed
    grind [Except.map, Fault.isConfiguration, Fault.isSetup, Fault.wrongType]

/-- What the minutes say after a phase, behind what they said before. -/
def Held (plan : Plan) (mode : Mode) (m : Minutes S) (outcomes : List Outcome) (m' : Minutes S) :
    Prop :=
  ∃ target jobs takings, jobs.length = plan.workers ∧
    Collected plan mode 0 plan.workers takings outcomes ∧
      m' = ({ m with target, jobs := m.jobs ++ jobs } : Minutes S).collect mode takings

theorem phase_minuted {size : Nat} (valid : plan.Valid size) {pool : Nat}
    (starts : Starts plan mode pool m) (fresh : m.target = []) :
    (Phase.run (S := S) plan.settings mode pool size plan.bufferSize (some 0)).Ends
      (minuted (Fits plan)) (fun r m' => match r with
        | .ok outcomes => Held plan mode m outcomes m'
        | .error fault => Broken m fault m') m := by
  unfold Phase.run
  refine (prepareTarget_minuted starts.here fresh).bind ?_
  rintro (fault | _) m' seen
  · exact seen
  obtain ⟨target, rfl, found⟩ := seen
  refine (jobs_minuted size).bind ?_
  rintro (fault | job) m' made
  · exact made.of_target
  obtain ⟨jobs, rfl⟩ := made
  unfold Phase.runJobs
  refine ask_minuted trivial fun _ _ => ?_
  rw [Plan.workerCount_eq valid]
  have collected : (Phase.collect (S := S) pool mode ((List.range plan.workers).map job)
      plan.settings.timeout (lateSet mode)).Ends (minuted (Fits plan)) (fun r m' => match r with
        | .ok outcomes => Held plan mode m outcomes m'
        | .error fault => Broken m fault m') { m with target } := by
    unfold Phase.collect
    have starts : Starts plan mode pool { m with target } :=
      ⟨starts.here, starts.sets, starts.pools, starts.opened, starts.turn⟩
    refine Prog.Ends.bind (submitAll_minuted starts found jobs) ?_
    rintro _ _ ⟨rfl, rfl⟩
    refine ask_minuted trivial ?_
    rintro (fault | unfinished) honest
    · obtain ⟨_, failed⟩ := honest
      obtain ⟨innocent, usable⟩ := innocent_of_wait failed.symm
      exact ⟨rfl, rfl, rfl, rfl, by simp [innocent], by simp [usable]⟩
    show Prog.Ends _ _ _ (Minutes.hear _ (.ok unfinished))
    rw [hear_ok]
    refine Prog.Ends.bind (collectFrom_minuted pool unfinished starts.sets) ?_
    rintro outcomes _ ⟨takings, collected, rfl⟩
    exact ⟨target, _, takings, by simp, collected, rfl⟩
  refine collected.bind ?_
  rintro (fault | outcomes) m' held
  · exact held
  · exact ask_minuted trivial fun _ _ => held

/-! ## A whole run -/

/-- How a run ends, and what its minutes say then. -/
inductive Ending (plan : Plan) : Except Fault Tally → Minutes S → Prop
  /-- The settings did not pass their check, and nothing else was asked. -/
  | refused {fault : Fault} (failed : Run.check plan = .error fault) :
    Ending plan (.error fault) (.unprepared fault)
  /-- A phase failed, and its pool was closed. -/
  | broken {fault : Fault} {m : Minutes S} {size : Nat} (valid : plan.Valid size)
    (stages : m.stages = [.prepare, .writePhase] ∨ m.stages = [.prepare, .writePhase, .readPhase])
    (pools : m.pools = [0]) (closings : m.closings = [(0, false, true)])
    (deletions : m.deletions = []) (told : fault.isConfiguration = true → fault ∈ m.failures)
    (unplaced : fault.isSetup = true →
      m.jobs.length ≤ plan.workers ∧ (m.jobs ≠ [] → .readPhase ∈ m.stages)) :
    Ending plan (.error fault) m
  /-- Both phases came to their outcomes, and then a deletion failed in a way that escapes. -/
  | uncleaned {fault : Fault} {m : Minutes S} {size : Nat} (valid : plan.Valid size)
    (stages : m.stages = [.prepare, .writePhase, .readPhase, .cleanup])
    (pools : m.pools = [0]) (closings : m.closings = [(0, false, true)])
    (escaped : Run.Escaped plan.objectPaths fault m.deletions) : Ending plan (.error fault) m
  /-- The report is the tally of both phases. -/
  | reported {report : Tally} {m : Minutes S} {size : Nat} (valid : plan.Valid size)
    (stages : m.stages = [.prepare, .writePhase, .readPhase, .cleanup, .done])
    (pools : m.pools = [0]) (closings : m.closings = [(0, false, true)])
    (takings : m.takings.map Prod.fst = List.range (plan.workers + plan.workers))
    (cleared : Run.Cleared plan.objectPaths m.deletions)
    (merged : report = Tally.ofOutcomes (m.outcomes plan)) : Ending plan (.ok report) m

section
variable {session : Session} {size : Nat}

/-- Where the settings are checked, the session knows the size and the set of late workers. -/
def Ready (size : Nat) (session : Session) : Prop := session.late = 0 ∧ session.size = some size

theorem prepare_minuted (session : Session) :
    Run.Settles (S := S) (minuted (Fits plan)) (fun fault m => Ending plan (.error fault) m)
      (fun _ session' m => ∃ size, plan.Valid size ∧ Ready size session' ∧ m = .prepared)
      (Run.prepare plan) session {} := by
  refine (Run.prepare_settles rfl rfl rfl fun _ _ => trivial).mono ?_ ?_
  · rintro _ _ m ⟨size, checked, rfl, rfl⟩
    exact ⟨size, Run.check_eq_ok.1 checked, ⟨rfl, rfl⟩, rfl⟩
  · rintro fault m ⟨failed, rfl⟩
    exact .refused failed

theorem run_phase_minuted (valid : plan.Valid size) (ready : Ready size session) {pool : Nat}
    (starts : Starts plan mode pool m) (fresh : m.target = []) :
    Run.Settles (S := S) (minuted (Fits plan)) (Broken m)
      (fun outcomes session' m' => session' = session ∧ Held plan mode m outcomes m')
      (Run.phase plan mode pool) session m := by
  obtain ⟨late, sized⟩ := ready
  refine Run.settles_size sized (Run.settles_get ?_)
  rw [late]
  refine Run.settles_attempt ?_
  refine (phase_minuted valid starts fresh).mono ?_
  rintro (fault | outcomes) m' held
  · exact held
  · exact ⟨rfl, held⟩

/-- The minutes when the pool is made. -/
def withPool (pool : Nat) : Minutes S := { stages := [.prepare], sets := 1, pools := [pool] }

/-- The minutes after the write phase. -/
def afterWrite (pool : Nat) (target : List (Except Fault Bool)) (jobs : List (Worker.Job S))
    (takings : List (Nat × Taking)) : Minutes S where
  stages := [.prepare, .writePhase]
  sets := 1
  pools := [pool]
  target := target
  jobs := jobs
  takings := takings
  late := missed .write takings

/-- The writers have come to these outcomes. -/
def Written (plan : Plan) (pool : Nat) (outcomes : List Outcome) (m : Minutes S) : Prop :=
  ∃ target jobs takings, jobs.length = plan.workers ∧
    Collected plan .write 0 plan.workers takings outcomes ∧ m = afterWrite pool target jobs takings

theorem write_minuted (valid : plan.Valid size) (ready : Ready size session) (pool : Nat) :
    Run.Settles (S := S) (minuted (Fits plan)) (Broken ((withPool pool).enter .writePhase))
      (fun tally session' m => session' = session ∧ ∃ outcomes,
        tally = Tally.ofOutcomes outcomes ∧ Written plan pool outcomes m)
      (Run.write plan pool) session (withPool pool) := by
  unfold Run.write
  refine settles_minuted rfl fun _ _ => ?_
  have starts : Starts plan .write pool ((withPool (S := S) pool).enter .writePhase) :=
    ⟨rfl, rfl, rfl, rfl, rfl⟩
  refine (run_phase_minuted valid ready starts rfl).bind ?_
  rintro outcomes _ m ⟨rfl, target, jobs, takings, count, collected, rfl⟩
  have written : Written (S := S) plan pool outcomes _ :=
    ⟨target, jobs, takings, count, collected, rfl⟩
  refine Run.settles_get (settles_minuted trivial fun late _ => ?_)
  split
  · exact settles_minuted trivial fun _ _ => Run.settles_pure ⟨rfl, outcomes, rfl, written⟩
  · exact Run.settles_pure ⟨rfl, outcomes, rfl, written⟩

/-- The minutes of a phase that failed, while its pool is open. -/
structure Halted (plan : Plan) (pool : Nat) (fault : Fault) (m : Minutes S) : Prop where
  stages : m.stages = [.prepare, .writePhase] ∨ m.stages = [.prepare, .writePhase, .readPhase]
  pools : m.pools = [pool]
  closings : m.closings = []
  deletions : m.deletions = []
  told : fault.isConfiguration = true → fault ∈ m.failures
  /-- A failure of the setup comes before the jobs of the phase. -/
  unplaced : fault.isSetup = true →
    m.jobs.length ≤ plan.workers ∧ (m.jobs ≠ [] → .readPhase ∈ m.stages)

theorem Broken.halted {fault : Fault} {m' : Minutes S} {pool : Nat} (broken : Broken m fault m')
    (stages : m.stages = [.prepare, .writePhase] ∨ m.stages = [.prepare, .writePhase, .readPhase])
    (pools : m.pools = [pool]) (closings : m.closings = []) (deletions : m.deletions = [])
    (placed : m.jobs.length ≤ plan.workers ∧ (m.jobs ≠ [] → .readPhase ∈ m.stages)) :
    Halted plan pool fault m' where
  stages := by rwa [broken.stages]
  pools := broken.pools.trans pools
  closings := broken.closings.trans closings
  deletions := broken.deletions.trans deletions
  told := broken.told
  unplaced setup := by
    rw [broken.unplaced setup, broken.stages]
    exact placed

/-- A writer that was given up has been made late. -/
theorem mem_missed {takings : List (Nat × Taking)} {k : Nat} (given : (k, .givenUp) ∈ takings) :
    (k : Int) ∈ missed .write takings :=
  List.mem_filterMap.2 ⟨_, given, rfl⟩

section
variable {writes reads : List Outcome} {written readBack : List (Nat × Taking)}

/-- Something was done about all submissions of both phases, in their order. -/
theorem numbers_of_collected (write : Collected plan .write 0 plan.workers written writes)
    (read : Collected plan .read 0 plan.workers readBack reads) :
    (written ++ readBack).map Prod.fst = List.range (plan.workers + plan.workers) := by
  have second : first plan.workers .read + 0 = 0 + plan.workers := by simp [first]
  rw [List.map_append, write.1, read.1, List.range_eq_range', second]
  exact List.range'_append_1

/-- The outcomes of both phases are those of the takings, one behind the other. -/
theorem outcomes_of_collected (write : Collected plan .write 0 plan.workers written writes)
    (read : Collected plan .read 0 plan.workers readBack reads)
    (taken : m.takings = written ++ readBack) : m.outcomes plan = writes ++ reads := by
  obtain ⟨numbers, rfl⟩ := write
  obtain ⟨others, rfl⟩ := read
  have numbered {takings : List (Nat × Taking)} {start : Nat}
      (numbers : takings.map Prod.fst = List.range' start plan.workers) {k : Nat}
      {taking : Taking} (there : (k, taking) ∈ takings) : start ≤ k ∧ k < start + plan.workers :=
    List.mem_range'_1.1 (numbers ▸ List.mem_map_of_mem there)
  rw [Minutes.outcomes, taken, List.map_append]
  -- the numbers of the writers are below those of the readers
  congr 1
  · refine List.map_congr_left fun ⟨k, taking⟩ there => ?_
    have := numbered numbers there
    simp only [first] at this ⊢
    rw [if_pos (by omega), Nat.sub_zero]
  · refine List.map_congr_left fun ⟨k, taking⟩ there => ?_
    have := numbered others there
    simp only [first] at this ⊢
    rw [if_neg (by omega)]

end

/-- The minutes after both phases. -/
structure BothHeld (plan : Plan) (pool : Nat) (writes reads : List Outcome) (m : Minutes S) :
    Prop where
  stages : m.stages = [.prepare, .writePhase, .readPhase]
  pools : m.pools = [pool]
  closings : m.closings = []
  takings : m.takings.map Prod.fst = List.range (plan.workers + plan.workers)
  deletions : m.deletions = []
  outcomes : m.outcomes plan = writes ++ reads

theorem read_minuted (valid : plan.Valid size) (ready : Ready size session) {pool : Nat}
    {writes : List Outcome} (written : Written plan pool writes m) :
    Run.Settles (S := S) (minuted (Fits plan)) (Halted plan pool)
      (fun tally _ m => ∃ reads, tally = Tally.ofOutcomes reads ∧ BothHeld plan pool writes reads m)
      (Run.read plan pool) session m := by
  obtain ⟨target, jobs, takings, count, collected, rfl⟩ := written
  unfold Run.read
  have taken : takings.map Prod.fst = List.range plan.workers := by
    rw [collected.1, List.range_eq_range']
    rfl
  refine settles_minuted ⟨rfl, taken, fun _ => mem_missed⟩ fun _ _ => ?_
  have starts : Starts plan .read pool ((afterWrite pool target jobs takings).enter .readPhase) :=
    ⟨rfl, rfl, rfl, rfl, count⟩
  refine Run.Settles.bind ((run_phase_minuted valid ready starts rfl).mono (fun _ _ _ h => h)
    fun fault m broken => broken.halted (.inr rfl) rfl rfl rfl ⟨count.le, fun _ => ?_⟩) ?_
  · exact List.mem_append_right _ (List.mem_singleton_self _)
  rintro outcomes _ m ⟨rfl, target, more, others, -, read, rfl⟩
  exact Run.settles_pure ⟨outcomes, rfl, rfl, rfl, rfl, numbers_of_collected collected read, rfl,
    outcomes_of_collected collected read rfl⟩

/-- The pool is closed after both phases and after a failure of one of them. -/
theorem phases_minuted (valid : plan.Valid size) (ready : Ready size session) (pool : Nat) :
    Run.Settles (S := S) (minuted (Fits plan))
      (fun fault m => ∃ m₀ : Minutes S, Halted plan pool fault m₀ ∧
        m = { m₀ with closings := [(pool, false, true)] })
      (fun tallies _ m => ∃ writes reads m₀, tallies = (Tally.ofOutcomes writes,
        Tally.ofOutcomes reads) ∧ BothHeld plan pool writes reads m₀ ∧
          m = { m₀ with closings := [(pool, false, true)] })
      (Run.phases plan pool) session (withPool pool) := by
  have both : Run.Settles (S := S) (minuted (Fits plan)) (Halted plan pool)
      (fun tallies _ m => ∃ writes reads, tallies = (Tally.ofOutcomes writes,
        Tally.ofOutcomes reads) ∧ BothHeld plan pool writes reads m)
      (do
        let written ← Run.write plan pool
        let readBack ← Run.read plan pool
        return (written, readBack)) session (withPool pool) := by
    refine Run.Settles.bind ((write_minuted valid ready pool).mono (fun _ _ _ h => h)
      fun fault m broken => broken.halted (.inl rfl) rfl rfl rfl ⟨Nat.zero_le _, absurd rfl⟩) ?_
    rintro _ _ m ⟨rfl, writes, rfl, written⟩
    refine (read_minuted valid ready written).bind ?_
    rintro _ _ m ⟨reads, rfl, held⟩
    exact Run.settles_pure ⟨writes, reads, rfl, held⟩
  unfold Run.phases
  -- the pool is closed on both ways out
  refine Run.settles_finally both ?_ ?_
  · rintro _ _ m ⟨writes, reads, rfl, held⟩
    refine ends_minuted ⟨held.pools, held.closings, rfl, rfl⟩ fun _ _ =>
      ⟨writes, reads, m, rfl, held, ?_⟩
    simp [Minutes.note, held.closings]
  · intro fault m halted
    refine ends_minuted ⟨halted.pools, halted.closings, rfl, rfl⟩ fun _ _ => ⟨m, halted, ?_⟩
    simp [Minutes.note, halted.closings]

/-- A whole run asks what fits, and ends in one of four ways. -/
theorem whole_minuted (plan : Plan) (session : Session) :
    Run.Settles (S := S) (minuted (Fits plan)) (fun fault m => Ending plan (.error fault) m)
      (fun report _ m => Ending plan (.ok report) m) (Run.whole plan) session {} := by
  unfold Run.whole
  refine (prepare_minuted session).bind ?_
  rintro _ session _ ⟨size, valid, ready, rfl⟩
  refine settles_minuted trivial fun _ _ => settles_minuted ⟨rfl, rfl⟩ ?_
  rintro pool (rfl : pool = (0 : Nat))
  refine Run.settles_modify ?_
  have ready : Ready size { session with pool := some 0 } := ready
  refine Run.Settles.bind ((phases_minuted valid ready 0).mono (fun _ _ _ h => h) ?_) ?_
  · rintro fault _ ⟨m, halted, rfl⟩
    exact .broken valid halted.stages halted.pools rfl halted.deletions halted.told halted.unplaced
  rintro _ session _ ⟨writes, reads, m, rfl, held, rfl⟩
  refine Run.Settles.bind ((Run.cleanup_settles valid (fun _ _ => trivial)
    ⟨held.stages, held.takings, 0, held.pools, rfl⟩ ?_).mono (fun _ _ _ h => h) ?_) ?_
  · intro cleared below
    simp only [Fits, Minutes.enter, Minutes.delete, held.stages, held.deletions, List.nil_append]
    exact ⟨rfl, ⟨0, held.pools, rfl⟩, below, trivial⟩
  · rintro fault _ ⟨deletions, escaped, rfl⟩
    refine .uncleaned valid ?_ held.pools rfl ?_
    · simp [Minutes.enter, Minutes.delete, held.stages]
    · simpa [Minutes.enter, Minutes.delete, held.deletions] using escaped
  rintro _ session _ ⟨rfl, deletions, cleared, -, rfl⟩
  -- the run is done after its cleanup only
  have done : Fits plan (Minutes.delete (Minutes.enter { m with closings := [(0, false, true)] }
      .cleanup) deletions) (Conductor.Op.enter (S := S) .done) := by
    simp [Fits, Enters, Minutes.enter, Minutes.delete, held.stages]
  refine settles_minuted done fun _ _ => settles_minuted trivial fun _ _ => Run.settles_pure ?_
  refine .reported valid ?_ held.pools rfl held.takings ?_ ?_
  · simp [Minutes.note, Minutes.enter, Minutes.delete, held.stages]
  · simpa [Minutes.note, Minutes.enter, Minutes.delete, held.deletions] using cleared
  · rw [← Tally.ofOutcomes_append, ← held.outcomes]
    rfl

end

end StoreMeter
