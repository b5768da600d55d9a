import StoreMeter.Proofs.Concert.Walk
import StoreMeter.Proofs.Errands
import StoreMeter.Proofs.Tallies
/-
# Proofs.Concert.Accounting — a report accounts for every worker

Whatever a storage answers, whichever tasks hang or still wait when a wait is over, and in whatever
order things happen: a report holds one outcome for each worker and direction.  The outcome of a
worker comes from one of three places, its task (`writeJob_accounts`, `readJob_accounts`), the
failure that ended its task, or the wait that named it, and `CameFrom` says which.  The
rest is counting (`Tally.ofOutcomes_counts`).
-/
namespace StoreMeter
namespace Concert

variable {S : Type} {B : Backend S}

/-! ## What a job comes to -/

/-- An outcome of an attempt accounts for its worker: the attempt leaves a measurement or a message,
and the closing of the stream at most one message more. -/
theorem conclude_accounts {mode : Mode} {index : Int} {errors closing : List String}
    {result : Except Fault Measurement} {o : Outcome}
    (measured : ∀ m, result = .ok m → m.mode = mode)
    (count : errors.length = Worker.attemptCount result) (few : closing.length ≤ 1)
    (h : Worker.conclude mode index (errors ++ closing) result = .ok o) :
    o.Accounts index mode := by
  cases result with
  -- a measurement leaves no message, so only the closing can
  | ok m =>
    have same := measured m rfl
    obtain rfl : errors = [] := List.eq_nil_of_length_eq_zero count
    rw [Worker.conclude, Outcome.make, if_pos same] at h
    cases h
    refine ⟨rfl, rfl, .inl rfl, ?_, Nat.le_succ_of_le few, fun _ => few⟩
    intro _ told
    cases told
    exact same
  | error fault =>
    unfold Worker.conclude Worker.attemptCount at *
    dsimp only at h count
    split at h
    · rename_i system
      rw [if_pos system] at count
      have filled : errors ++ closing ≠ [] := by
        rw [← List.length_pos_iff, List.length_append]
        omega
      rw [Outcome.make, if_neg (by simpa using filled)] at h
      cases h
      refine ⟨rfl, rfl, .inr filled, ?_, ?_, ?_⟩
      · intro _ told
        cases told
      · rw [List.length_append]
        omega
      · rintro ⟨⟩
    · cases h

/-- The contract of a task of which nothing is known: what it measures is of its direction. -/
def anyErrand (mode : Mode) (opened : Worker.Program S (Except Fault S))
    (transfer : S → Worker.Program S (S × Except Fault Nat)) :
    Worker.Errand (Prog.free (Worker.effects S)) mode opened transfer where
  Ready _ := True
  Timed _ _ := True
  Open _ _ _ := True
  Moved _ _ _ := True
  Over _ := True
  Counts _ := True
  Takes result := ∀ m, result = .ok m → m.mode = mode
  Closes _ := True
  silent _ _ := ⟨trivial, fun _ _ _ => rfl⟩
  begins _ := ⟨trivial, fun _ _ _ => trivial⟩
  opens _ := by
    apply (Prog.ends_free opened).mono
    rintro (fault | stream) _ -
    · refine ⟨?_, trivial⟩
      intro _ told
      cases told
    · trivial
  moves _ := by
    apply (Prog.ends_free (transfer _)).mono
    rintro ⟨stream, fault | bytes⟩ _ -
    · refine ⟨trivial, ?_⟩
      intro _ told
      cases told
    · exact ⟨trivial, trivial⟩
  measures _ _ := by
    refine ⟨trivial, fun now _ _ => ⟨trivial, fun m made => ?_⟩⟩
    unfold Measurement.make at made
    split at made
    · cases made
    · split at made
      · cases made
      · cases made
        rfl
  closes _ := ⟨trivial, fun _ _ _ => ⟨trivial, trivial⟩⟩

/-- Whatever a task comes to that is an outcome accounts for its worker. -/
theorem measured_accounts (mode : Mode) (index : Int) (path : String) (size : Int)
    (opened : Worker.Program S (Except Fault S))
    (transfer : S → Worker.Program S (S × Except Fault Nat)) :
    (Worker.measured mode index path size opened transfer).Ends (Prog.free (Worker.effects S))
      (fun r _ => ∀ o, r = .ok o → o.Accounts index mode) () := by
  apply ((anyErrand mode opened transfer).measured_ends size trivial).mono
  rintro r _ ⟨⟨result, errors, closing, measured, count, few, rfl⟩, -⟩ o made
  refine conclude_accounts measured count ?_ made
  rcases few with rfl | ⟨one, -⟩
  · exact Nat.zero_le 1
  · exact one.le

theorem writeJob_accounts (settings : Settings) (size : Int) (payload : ByteArray)
    (late : Option Nat) (index : Int) :
    (Phase.writeJob (S := S) settings size payload late index).Ends (Prog.free (Worker.effects S))
      (fun r _ => ∀ o, r = .ok o → o.Accounts index .write) () := by
  have written : (Worker.writeTask (S := S) index (settings.objectPath index) size payload).Ends
      (Prog.free (Worker.effects S)) (fun r _ => ∀ o, r = .ok o → o.Accounts index .write) () := by
    unfold Worker.writeTask
    split
    · intro _ told
      cases told
    · exact measured_accounts _ _ _ _ _ _
  apply written.bind
  rintro (fault | outcome) _ accounts
  · intro _ told
    cases told
  · refine (Prog.ends_free _).bind fun late _ _ => ?_
    split
    · refine (Prog.ends_free _).bind fun discarded _ _ o kept => ?_
      cases discarded <;> cases kept
      exact accounts outcome rfl
    · intro _ told
      cases told
      exact accounts outcome rfl

theorem readJob_accounts (settings : Settings) (size bufferSize : Int) (late : Option Nat)
    (index : Int) :
    (Phase.readJob (S := S) settings size bufferSize late index).Ends
      (Prog.free (Worker.effects S)) (fun r _ => ∀ o, r = .ok o → o.Accounts index .read) () := by
  refine (Prog.ends_free _).bind fun late _ _ => ?_
  split
  · intro _ told
    cases told
    exact Outcome.failure_accounts _ _ _
  · exact measured_accounts _ _ _ _ _ _

/-! ## The tasks of a run -/

/-- The contracts of the tasks of a run: each accounts for its worker, if it comes to an outcome. -/
def accounting (S : Type) (workers : Nat) : Protocol S where
  Local := Unit
  env _ := Prog.free (Worker.effects S)
  Goal k result _ := ∀ mode index, index < workers → first workers mode + index = k →
    ∀ o, result = .ok o → o.Accounts index mode
  Quiet _ _ := True

/-- Nothing that tasks share matters for these contracts. -/
abbrev unseen (workers : Nat) : View B (accounting S workers) := fun _ _ _ => True

theorem accounting_lawful (workers : Nat) :
    Protocol.Lawful (accounting S workers) (unseen (B := B) workers) where
  own _ _ _ := ⟨(), trivial, trivial⟩
  others _ _ _ _ _ := trivial

variable {piece : Piece B} {sofar : Progress} {w w' : World B}

/-- Where the outcome of a worker comes from: from its task, which has ended, or from the wait. -/
def CameFrom (plan : Plan) (workers : Nat) (w : World B) (mode : Mode) (index : Nat)
    (o : Outcome) : Prop :=
  o = Outcome.failure index mode (Phase.timeoutMessage index mode plan.settings.timeout) ∨
    ∃ result, w.status? (first workers mode + index) = some (.ended result) ∧
      o = endedAs mode index result

/-- What has ended stays so, and with it what was taken from it. -/
theorem CameFrom.kept {plan : Plan} {workers : Nat} {mode : Mode} {index : Nat} {o : Outcome}
    (came : CameFrom plan workers w mode index o)
    (kept : ∀ k result, w.status? k = some (.ended result) → w'.status? k = some (.ended result)) :
    CameFrom plan workers w' mode index o := by
  rcases came with timed | ⟨result, ended, rfl⟩
  · exact .inl timed
  · exact .inr ⟨result, kept _ _ ended, rfl⟩

/-- The assertion at each point: all tasks keep their contracts, and what was gathered is theirs. -/
structure Accounted (piece : Piece B) (pt : Point) (w : World B) : Prop where
  sound : (accounting S piece.workers).Sound (unseen piece.workers) w
  gathered : pt.sofar.Each (CameFrom piece.plan piece.workers w)

theorem Accounted.go {pt pt' : Point} (h : Accounted piece pt w) (tasks : w'.tasks = w.tasks)
    (same : ∀ mode, pt'.sofar.outcomes mode = pt.sofar.outcomes mode) :
    Accounted piece pt' w' where
  sound := h.sound.mono tasks fun _ _ => id
  gathered := by
    intro mode index o found
    rw [same] at found
    refine (h.gathered mode index o found).kept fun k result ended => ?_
    rwa [World.status?, tasks]

theorem Accounted.gather {pt pt' : Point} {mode : Mode} {index : Nat} {o : Outcome}
    (h : Accounted piece pt w) (tasks : w'.tasks = w.tasks)
    (turn : (pt.sofar.outcomes mode).length = index) (came : CameFrom piece.plan piece.workers w mode index o)
    (added : pt'.sofar = pt.sofar.add o mode) : Accounted piece pt' w' where
  sound := h.sound.mono tasks fun _ _ => id
  gathered := by
    rw [added]
    refine (h.gathered.add turn came).mono fun _ _ _ came => came.kept fun k result ended => ?_
    rwa [World.status?, tasks]

/-- A result that accounts for a worker keeps the contract of its task. -/
theorem goal_of_accounts {workers index : Nat} {mode : Mode} {result : Except Fault Outcome}
    (more : index < workers) (accounts : ∀ o, result = .ok o → o.Accounts index mode) :
    (accounting S workers).Goal (first workers mode + index) result () := by
  intro other place below same o made
  cases mode <;> cases other <;> simp only [first] at same
  · obtain rfl : place = index := by omega
    exact accounts o made
  · omega
  · omega
  · obtain rfl : place = index := by omega
    exact accounts o made

/-- The job of a worker keeps the contract of its task. -/
theorem accounting_job (piece : Piece B) (sofar : Progress) (mode : Mode) {index : Nat}
    (more : index < piece.workers) :
    (piece.job sofar mode index).Ends (Prog.free (Worker.effects S))
      ((accounting S piece.workers).Goal (first piece.workers mode + index)) () := by
  have accounts : (piece.job sofar mode index).Ends (Prog.free (Worker.effects S))
      (fun r _ => ∀ o, r = .ok o → o.Accounts index mode) () := by
    cases mode with
    | write => exact writeJob_accounts _ _ _ _ _
    | read => exact readJob_accounts _ _ _ _ _
  exact accounts.mono fun _ _ outcome => goal_of_accounts more outcome

/-! ## The outline -/

theorem accounting_outline (piece : Piece B) [fates : Nonempty B.Fate] :
    Outline piece Terms.anything True (Accounted piece) where
  stable here moves :=
    { sound := here.holds.sound.step (accounting_lawful piece.workers) moves.step
      gathered := here.holds.gathered.mono fun _ _ _ came =>
        came.kept fun _ _ ended => moves.step.stays ended rfl }
  start :=
    { sound := by
        intro k status told
        cases told
      gathered := by
        intro mode index o found
        cases mode <;> cases found }
  look here _ := leads_anyway fun _ => here.holds.go rfl fun _ => rfl
  make here _ := leads_anyway fun _ => here.holds.go rfl fun _ => rfl
  lost _ := trivial
  draw here _ := leads_anyway fun payload _ => here.holds.go rfl fun mode => by cases mode <;> rfl
  keep here := here.holds.go rfl fun _ => rfl
  submit {mode sofar jobs w} more here :=
    { sound := by
        refine here.holds.sound.submit ⟨(), trivial, ?_⟩
        have count : w.tasks.length = first piece.workers mode + jobs := here.layout.tasks
        rw [count]
        exact accounting_job piece sofar mode more
      gathered := here.holds.gathered.mono fun _ _ _ came => came.kept fun _ _ ended =>
        World.status?_submit_old ended 0 _ }
  wait here _ _ := leads_anyway fun _ => here.holds.go rfl fun _ => rfl
  take turn _ _ here ended := here.holds.gather rfl turn (.inr ⟨_, ended, rfl⟩) rfl
  cancel _ _ _ here found :=
    { sound := here.holds.sound.cancel found fun l _ => ⟨l, trivial, trivial⟩
      gathered := here.holds.gathered.mono fun _ _ _ came =>
        came.kept fun _ _ ended => World.status?_cancel_over found ended rfl }
  late {sofar _ _ index} turn _ here := by
    have turn : (sofar.outcomes .write).length = index := turn
    exact here.holds.gather rfl turn (.inl rfl) rfl
  pass turn _ _ here := here.holds.gather rfl turn (.inl rfl) rfl
  again _ here := here.holds.go rfl fun _ => rfl
  close _ _ here :=
    { sound := here.holds.sound.takeBack 0 fun _ l _ => ⟨l, trivial, trivial⟩
      gathered := here.holds.gathered.mono fun _ _ _ came =>
        came.kept fun _ _ ended => World.status?_takeBack_over 0 ended rfl }
  clean here := here.holds.go rfl fun _ => rfl
  delete _ here _ := ⟨fun _ _ _ _ => trivial, here.holds.go rfl fun _ => rfl⟩
  finish here := here.holds.go rfl fun _ => rfl
  fine_opening _ _ := trivial
  fine _ _ := trivial
  fine_draw _ := trivial
  fine_wait _ := trivial
  lenient _ _ _ := trivial
  fate := fates
  permits := ⟨.ok .empty, [], trivial⟩

/-! ## Every worker is accounted for -/

/-- A report that accounts for so many workers in each direction, in the world at its end. -/
structure FullAccount (plan : Plan) (w : World B) (report : Tally) (workers : Nat)
    (outcomes : Mode → List Outcome) : Prop where
  /-- Each worker has one outcome. -/
  count (mode : Mode) : (outcomes mode).length = workers
  /-- It has the number and direction of the worker, and tells what became of it. -/
  accounted (mode : Mode) : Tally.Accounted mode (outcomes mode)
  /-- It is what the worker's task came to, or what the wait said of it. -/
  came (mode : Mode) (index : Nat) (o : Outcome) (found : (outcomes mode)[index]? = some o) :
    CameFrom plan workers w mode index o
  /-- The report holds what they tell, in the order of the workers, first the writers. -/
  merged : report = (Tally.ofOutcomes (outcomes .write)).merge (Tally.ofOutcomes (outcomes .read))
  /-- It tells the directions apart. -/
  apart (mode : Mode) : report.forMode mode = Tally.ofOutcomes (outcomes mode)
  points (mode : Mode) : (report.forMode mode).points.length ≤ workers
  told (mode : Mode) :
    workers ≤ (report.forMode mode).points.length + (report.forMode mode).errors.length
  few (mode : Mode) :
    (report.forMode mode).points.length + (report.forMode mode).errors.length ≤ 2 * workers
  /-- The share of the workers that left a measurement is always known, and it is a share. -/
  rate (mode : Mode) : ∃ rate,
    Summary.successRate (report.forMode mode).points.length plan.settings.threads = .ok rate ∧
      Summary.IsShare rate
  /-- A summary of the report shows it. -/
  shown (summary : Summary) (made : Summary.ofTally report plan.settings = .ok summary)
    (mode : Mode) : Summary.IsShare (summary.part mode).successRate

/-- A main thread goes on only by an answer, and an answer has a fate. -/
theorem main_of_no_fate {α : Type} (none : ¬ Nonempty B.Fate) {choices : List (Choice B)}
    {s s' : State B α} (played : play choices s = some s') : s'.main = s.main := by
  refine keeps_of_play (fun t => t.main = s.main) ?_ rfl played
  intro choice _ t t' same_before moved
  cases decided_of_move moved with
  | start same _ | work same _ => exact same.trans same_before
  | @conduct fate => exact absurd ⟨fate⟩ none

theorem fullAccount_of_reported (piece : Piece B) {report : Tally} {w : World B}
    (reported : Outline.Reported piece (Accounted piece) report w) :
    ∃ outcomes, FullAccount piece.plan w report piece.workers outcomes := by
  obtain ⟨_, _, rfl, sofar, all, all_read, rfl, rfl, here⟩ := reported
  have count (mode : Mode) : (sofar.outcomes mode).length = piece.workers := by
    cases mode
    · exact all
    · exact all_read
  have accounted (mode : Mode) : Tally.Accounted mode (sofar.outcomes mode) := by
    intro index below
    -- an outcome that the wait told is a failure, and the others are those of tasks
    obtain timed | ⟨result, ended, same⟩ :=
      here.holds.gathered mode index _ (List.getElem?_eq_getElem below)
    · rw [timed]
      exact Outcome.failure_accounts _ _ _
    · obtain ⟨_, -, outcome⟩ := here.holds.sound _ _ ended
      rw [same]
      cases result with
      | ok o => exact outcome mode index (count mode ▸ below) rfl o rfl
      | error fault => exact Outcome.failure_accounts _ _ _
  have apart (mode : Mode) :
      ((Tally.ofOutcomes sofar.writes).merge (Tally.ofOutcomes sofar.reads)).forMode mode =
        Tally.ofOutcomes (sofar.outcomes mode) := by
    have both := Tally.forMode_of_merge (Tally.ofOutcomes_of (accounted .write).of_mem)
      (Tally.ofOutcomes_of (accounted .read).of_mem)
    cases mode
    · exact both.1
    · exact both.2
  have counts (mode : Mode) := Tally.ofOutcomes_counts (accounted mode).of_mem
  have rate (mode : Mode) : ∃ rate, Summary.successRate
      (Tally.ofOutcomes (sofar.outcomes mode)).points.length piece.plan.settings.threads = .ok rate ∧
        Summary.IsShare rate := by
    apply Summary.successRate_share piece.threads.1 (Int.natCast_pos.2 piece.threads.2)
    rw [Int.toNat_natCast, ← count mode]
    exact (counts mode).1
  refine ⟨sofar.outcomes, count, accounted, here.holds.gathered, rfl, apart, ?_, ?_, ?_, ?_, ?_⟩
  · intro mode
    rw [apart, ← count mode]
    exact (counts mode).1
  · intro mode
    rw [apart, ← count mode]
    exact (counts mode).2.1
  · intro mode
    rw [apart, ← count mode]
    exact (counts mode).2.2
  · intro mode
    rw [apart]
    exact rate mode
  · intro summary made mode
    obtain ⟨share, rated, between⟩ := rate mode
    have shown := Summary.successRate_part made mode
    rw [apart, rated] at shown
    cases shown
    exact between

/-- If a run returns a report, every worker is accounted for in it. -/
theorem every_worker_accounted_for {plan : Plan} {store : B.State} {choices : List (Choice B)}
    {s : State B (Except Fault Tally × Session)} (played : play choices (opening plan store) = some s)
    {report : Tally} {session : Session} (done : s.main = .done (.ok report, session)) :
    ∃ workers : Nat, 0 < workers ∧ plan.settings.threads = .scalar (.int workers) ∧
      ∃ outcomes, FullAccount plan s.world report workers outcomes := by
  cases checked : Run.check plan with
  | error fault => exact absurd done (no_report_of_refused checked played)
  | ok size =>
    obtain ⟨piece, rfl, rfl, -⟩ := Piece.of_checked (B := B) checked store
    -- a storage without a way to answer never lets a run come to its report
    by_cases fates : Nonempty B.Fate
    · have reported := (accounting_outline piece).of_play
        (fun choice _ => Terms.anything_admits choice) played done
      exact ⟨piece.workers, piece.threads.2, piece.threads.1, fullAccount_of_reported piece reported⟩
    · have same := main_of_no_fate fates played
      rw [done] at same
      cases same

/-! ## A late reader -/

/-- A storage that may answer anything to any question, with a clock that may show anything. -/
def anyStorage (S : Type) : Backend S where
  State := Unit
  Fate := (op : Storage.Operation S) → op.Answer
  answer fate op _ := (fate op, ())
  ticks _ _ := true

/-- The answers of a storage that works, but for streams that fail to close. -/
def unclosing : (op : Storage.Operation Unit) → op.Answer
  | .isPresent _ => .ok true
  | .makeDirs _ | .delete _ => .ok ()
  | .create _ | .openRead _ => .ok ()
  | .write _ data => ((), .ok data.size)
  | .flush _ => ((), .ok ())
  | .read _ _ => ((), .ok .empty)
  | .close _ => ((), .error (.system "stream is gone"))

/-- So many answers to the main thread, where waits name these submissions. -/
def conducts (n : Nat) (unfinished : List Nat) : List (Choice (anyStorage Unit)) :=
  List.replicate n (.conduct unclosing (.ok ⟨#[7]⟩) unfinished)

/-- The writer writes, but its stream fails to close; the reader hangs right after its start. -/
def lateReader : List (Choice (anyStorage Unit)) :=
  conducts 9 [] ++ .start 0 :: List.replicate 11 (.work 0 unclosing (.zero false)) ++
    conducts 8 [] ++ .start 1 :: conducts 9 [1]

theorem late_reader_accounted_for :
    ∃ (s : State (anyStorage Unit) (Except Fault Tally × Session)) (report : Tally)
      (session : Session), play lateReader (opening oneByte ()) = some s ∧
        s.main = .done (.ok report, session) ∧
        (report.points.length, report.errors.length) = (1, 2) ∧
        ∃ workers : Nat, 0 < workers ∧ oneByte.settings.threads = .scalar (.int workers) ∧
          ∃ outcomes, FullAccount oneByte s.world report workers outcomes := by
  have counts : ((play lateReader (opening oneByte ())).bind State.report?).map
      (fun report => (report.points.length, report.errors.length)) = some (1, 2) := by
    decide +kernel
  obtain ⟨report, found, counts⟩ := Option.map_eq_some_iff.1 counts
  obtain ⟨s, played, reported⟩ := Option.bind_eq_some_iff.1 found
  obtain ⟨session, done⟩ := State.done_of_report? reported
  exact ⟨s, report, session, played, done, counts, every_worker_accounted_for played done⟩

end Concert
end StoreMeter
