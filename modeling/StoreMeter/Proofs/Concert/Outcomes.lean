import StoreMeter.Proofs.Concert.Accounting
import StoreMeter.Proofs.Concert.Chronicle
/-
# Proofs.Concert.Outcomes — the outcomes in the minutes of a run

The minutes of a run that comes to a report hold what the main thread did about each submission, and so
one outcome for each worker in each direction.  All of them account for their workers, and the report is
their tally: it is without errors if and only if every worker did its work (`Reports.silent`).
-/
namespace StoreMeter
namespace Concert

variable {S : Type} {B : Backend S} {plan : Plan}

/-- A run is minuted, and its tasks account for their workers. -/
structure Accountable (plan : Plan) (s : State B (Except Fault Tally × Session)) (m : Minutes S) :
    Prop where
  minuted : Minuted plan s m
  sound : (accounting S plan.workers).Sound (unseen plan.workers) s.world

/-- A job that is handed out keeps the contract of its task. -/
theorem accounting_of_isJob {mode : Mode} {index : Nat} {job : Worker.Job S}
    (isJob : IsJob plan mode index job) (below : index < plan.workers) (shared : Shared B) :
    (accounting S plan.workers).Holds (unseen plan.workers) (first plan.workers mode + index) shared
      (.queued job) := by
  have accounts : job.Ends (Prog.free (Worker.effects S))
      (fun r _ => ∀ o, r = .ok o → o.Accounts index mode) () := by
    cases mode with
    | write =>
      obtain ⟨size, payload, rfl⟩ := isJob
      exact writeJob_accounts _ _ _ _ _
    | read =>
      obtain ⟨size, rfl⟩ := isJob
      exact readJob_accounts _ _ _ _ _
  exact ⟨(), trivial, accounts.mono fun _ _ outcome => goal_of_accounts below outcome⟩

theorem Accountable.move {choice : Choice B} {s s' : State B (Except Fault Tally × Session)}
    {m : Minutes S} (h : Accountable plan s m) (moved : move choice s = some s') :
    Accountable plan s' (heard choice s m) where
  minuted := h.minuted.move moved
  sound := by
    rcases move_heard m moved with ⟨-, -, moves⟩ |
      ⟨op, next, reply, _, _, _, -, asks, -, -, answered⟩
    · exact h.sound.step (accounting_lawful plan.workers) moves.step
    · have asking := h.minuted.asks
      rw [asks] at asking
      exact h.sound.answer h.minuted.borne asking.1 answered (fun _ _ _ => trivial)
        (fun isJob below => accounting_of_isJob isJob below s.world.shared) fun _ _ => trivial

/-- What was done about the submission of a worker accounts for the worker. -/
theorem Accountable.accounts {s : State B (Except Fault Tally × Session)} {m : Minutes S}
    (h : Accountable plan s m) {mode : Mode} {index : Nat} (below : index < plan.workers)
    {taking : Taking} (there : (first plan.workers mode + index, taking) ∈ m.takings) :
    (taking.outcome plan mode index).Accounts index mode := by
  cases taking with
  | ended result =>
    obtain ⟨_, -, outcome⟩ := h.sound _ _ (h.minuted.borne.ended there)
    cases result with
    | ok o => exact outcome mode index below rfl o rfl
    | error fault => exact Outcome.failure_accounts _ _ _
  | takenBack | givenUp => exact Outcome.failure_accounts _ _ _

/-! ## Reports -/

/-- The report is the tally of the outcomes in the minutes, of which each accounts for its worker. -/
structure Reports (plan : Plan) (m : Minutes S) (report : Tally) : Prop where
  threads : plan.settings.threads = .scalar (.int plan.workers)
  count : (m.outcomes plan).length = plan.workers + plan.workers
  accounted : ∀ mode, ∀ index < plan.workers, ∃ o : Outcome,
    (m.outcomes plan)[first plan.workers mode + index]? = some o ∧ o.Accounts index mode
  merged : report = Tally.ofOutcomes (m.outcomes plan)

/-- The outcome of a worker stands in its place. -/
theorem outcome_of_numbers {m : Minutes S}
    (numbers : m.takings.map Prod.fst = List.range (plan.workers + plan.workers)) (mode : Mode)
    {index : Nat} (below : index < plan.workers) :
    ∃ taking, (first plan.workers mode + index, taking) ∈ m.takings ∧
      (m.outcomes plan)[first plan.workers mode + index]? = some (taking.outcome plan mode index) := by
  have place : first plan.workers mode + index < plan.workers + plan.workers := by
    cases mode <;> simp only [first] <;> omega
  have number : (m.takings.map Prod.fst)[first plan.workers mode + index]? =
      some (first plan.workers mode + index) := by
    rw [numbers, List.getElem?_range place]
  rw [List.getElem?_map, Option.map_eq_some_iff] at number
  obtain ⟨⟨_, taking⟩, found, rfl⟩ := number
  refine ⟨taking, List.mem_of_getElem? found, ?_⟩
  rw [Minutes.outcomes, List.getElem?_map, found]
  cases mode <;> simp [first, below]

theorem reports_of_done {store : B.State} {choices : List (Choice B)}
    {s : State B (Except Fault Tally × Session)} (played : play choices (opening plan store) = some s)
    {report : Tally} {session : Session} (done : s.main = .done (.ok report, session)) :
    Reports plan (minutes choices (opening plan store) {}) report := by
  have opens : Accountable plan (opening plan store) ({} : Minutes S) :=
    ⟨opening_minuted plan store, fun _ _ none => by cases none⟩
  have accountable := play_keeps (fun _ _ => Accountable.move) opens played
  generalize minutes choices (opening plan store) {} = m at *
  have ending := accountable.minuted.ending done
  cases ending with | reported valid stages pools closings numbers cleared merged
  refine ⟨?_, ?_, ?_, merged⟩
  · obtain ⟨n, threads, positive⟩ := valid.threads
    rw [Plan.workers, Settings.workerCount_of_threads threads, threads]
    simp [Except.toOption, Int.toNat_of_nonneg positive.le]
  · have length := congrArg List.length numbers
    simpa [Minutes.outcomes] using length
  · intro mode index below
    obtain ⟨taking, there, found⟩ := outcome_of_numbers numbers mode below
    exact ⟨_, found, accountable.accounts below there⟩

/-- The errors of a report are missing if and only if every worker did its work in both directions. -/
theorem Reports.silent {m : Minutes S} {report : Tally} (h : Reports plan m report) :
    report.errors = [] ↔ ∀ o ∈ m.outcomes plan, o.ok = true := by
  rw [h.merged]
  refine Tally.errors_ofOutcomes_eq_nil fun o there => ?_
  obtain ⟨k, here⟩ := List.mem_iff_getElem?.1 there
  have below : k < plan.workers + plan.workers := by
    rw [← h.count]
    exact (List.getElem?_eq_some_iff.1 here).1
  obtain ⟨mode, index, inside, rfl⟩ : ∃ (mode : Mode) (index : Nat),
      index < plan.workers ∧ k = first plan.workers mode + index := by
    by_cases writer : k < plan.workers
    · exact ⟨.write, k, writer, (Nat.zero_add k).symm⟩
    · exact ⟨.read, k - plan.workers, by omega, by simp only [first]; omega⟩
  obtain ⟨o', found, accounts⟩ := h.accounted mode index inside
  rw [here] at found
  cases found
  exact accounts.told

end Concert
end StoreMeter
