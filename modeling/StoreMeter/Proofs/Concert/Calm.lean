import StoreMeter.Proofs.Concert.Orderly
import StoreMeter.Proofs.Concert.Walk
import StoreMeter.Proofs.Tallies
/-
# Proofs.Concert.Calm — runs in which nobody is late

On the terms on which nothing fails a run goes on in the same way on every storage that lets its
workers come to a measurement of all their bytes: nobody is ever late, each outcome that is taken is
such a measurement (`Smooth`), and the main thread does not wait in vain (`wait_or_moves`).  So the
points of the report are told by the plan (`Smooth.report`).  What the storage holds meanwhile is
another matter.
-/
namespace StoreMeter

/-- The directions and the bytes of all measurements, in their order. -/
def Tally.moved (t : Tally) : List (Mode × Int) := t.points.map fun m => (m.mode, m.bytes)

namespace Concert

variable {S : Type} {B : Backend S} {piece : Piece B} {pt : Point} {w w' : World B}

/-! ## Terms -/

/-- The terms on which nothing fails that a plan can hope for: the random bytes are drawn, and a wait
ends when all is done.  More bytes than an index can count are never drawn, and a limit that no wait can
have is refused where a wait would have to be made; of such plans nothing is promised. -/
def calm (plan : Plan) : Terms B where
  permits random unfinished :=
    (plan.bufferSize ≤ Storage.greatestSize → ∃ bytes, random = .ok bytes) ∧
      (Conductor.checkLimit plan.settings.timeout = .ok () → unfinished = [])
  Fine _ _ := True

/-- The same terms, where in addition something can always happen. -/
def lively (plan : Plan) : Terms B where
  permits := (calm (B := B) plan).permits
  Fine w op := (calm plan).Answerable w op ∨ ∃ w', w.Moves w'

/-- Can a question be answered with bytes that are drawn, and by a wait that names nobody? -/
def World.Easy (w : World B) (op : Conductor.Op S) : Prop :=
  ∃ fate bytes, (w.answer fate (.ok bytes) [] op).isSome = true

theorem World.Easy.calm {plan : Plan} {op : Conductor.Op S} (h : w.Easy op) :
    (calm plan).Answerable w op := by
  obtain ⟨fate, bytes, answered⟩ := h
  exact ⟨fate, .ok bytes, [], ⟨fun _ => ⟨_, rfl⟩, fun _ => rfl⟩, answered⟩

/-! ## The assertion -/

/-- The task of a worker has ended with a measurement of all its bytes. -/
def Finished (workers size : Nat) (w : World B) (mode : Mode) (index : Nat) (o : Outcome) : Prop :=
  Exactly mode index size (.ok o) ∧
    w.status? (first workers mode + index) = some (.ended (.ok o))

/-- Nobody is late, the clock can show a time, and all outcomes so far are of all bytes. -/
structure Smooth (piece : Piece B) (pt : Point) (w : World B) : Prop where
  trusted : w.shared.lates = [.nobody]
  goes : Goes w.shared.clock
  gathered : pt.sofar.Each (Finished piece.workers piece.size w)

namespace Smooth

theorem start (piece : Piece B) : Smooth piece (.target .write {}) piece.start where
  trusted := rfl
  goes := ⟨.zero false, rfl⟩
  gathered := by
    intro mode index o found
    cases mode <;> cases found

theorem moves (steadily : B.ticks = steady) (h : Smooth piece pt w) (moves : w.Moves w') :
    Smooth piece pt w' where
  trusted := moves.step.lates.trans h.trusted
  goes := moves.step.goes steadily h.goes
  gathered := h.gathered.mono fun _ _ _ finished => ⟨finished.1, moves.step.stays finished.2 rfl⟩

/-- An answer that leaves the tasks, the late workers and the clock as they are. -/
theorem go {pt' : Point} (h : Smooth piece pt w) (tasks : w'.tasks = w.tasks)
    (lates : w'.shared.lates = w.shared.lates) (clock : w'.shared.clock = w.shared.clock)
    (same : ∀ mode, pt'.sofar.outcomes mode = pt.sofar.outcomes mode) : Smooth piece pt' w' where
  trusted := lates.trans h.trusted
  goes := by
    rw [clock]
    exact h.goes
  gathered := by
    intro mode index o found
    rw [same] at found
    have finished := h.gathered mode index o found
    refine ⟨finished.1, ?_⟩
    rw [World.status?, tasks]
    exact finished.2

theorem submit {mode : Mode} {sofar : Progress} {jobs : Nat} {job : Worker.Job S}
    (h : Smooth piece (.placing mode sofar jobs) w) :
    Smooth piece (.placing mode sofar (jobs + 1)) (w.submit 0 job) where
  trusted := h.trusted
  goes := h.goes
  gathered := h.gathered.mono fun _ _ _ finished =>
    ⟨finished.1, World.status?_submit_old finished.2 0 _⟩

/-- The outcome of the next worker in turn is taken. -/
theorem take {mode : Mode} {sofar : Progress} {unfinished : List Nat} {index : Nat}
    {result : Except Fault Outcome} (h : Smooth piece (.taking mode sofar unfinished) w)
    (turn : (sofar.outcomes mode).length = index) (exactly : Exactly mode index piece.size result)
    (ended : w.status? (first piece.workers mode + index) = some (.ended result)) :
    Smooth piece (.taking mode (sofar.add (endedAs mode index result) mode) unfinished) w := by
  obtain ⟨m, directed, bytes, rfl⟩ := exactly
  exact ⟨h.trusted, h.goes, h.gathered.add turn ⟨⟨m, directed, bytes, rfl⟩, ended⟩⟩

/-- Closing the pool takes nothing back of what has ended. -/
theorem takeBack {sofar : Progress} {unfinished : List Nat} (pool : Nat)
    (h : Smooth piece (.taking .read sofar unfinished) w) :
    Smooth piece (.closing sofar) (w.takeBack pool) where
  trusted := h.trusted
  goes := h.goes
  gathered := h.gathered.mono fun _ _ _ finished =>
    ⟨finished.1, World.status?_takeBack_over pool finished.2 rfl⟩

end Smooth

/-! ## Where nobody works -/

/-- Where there are no tasks yet, none of them goes on. -/
theorem still_of_none (none : w.tasks.length = 0) : w.Still := by
  intro k status found
  rw [World.status?, List.eq_nil_of_length_eq_zero none] at found
  cases found

/-- A worker whose outcome is taken has ended. -/
theorem ended_of_gathered {workers size : Nat} {sofar : Progress}
    (gathered : sofar.Each (Finished workers size w)) (mode : Mode) {index : Nat}
    (below : index < (sofar.outcomes mode).length) :
    ∃ result, w.status? (first workers mode + index) = some (.ended result) :=
  ⟨_, (gathered mode index _ (List.getElem?_eq_getElem below)).2⟩

/-- After the outcomes of all tasks are taken, none of them goes on. -/
theorem still_of_gathered {workers size : Nat} {sofar : Progress}
    (gathered : sofar.Each (Finished workers size w)) (all : sofar.writes.length = workers)
    (most : w.tasks.length ≤ workers + sofar.reads.length) : w.Still := by
  intro k status found
  have submitted : k < w.tasks.length := w.status?_isSome.2 (by rw [found]; rfl)
  have past : ∃ result, w.status? k = some (.ended result) := by
    -- the tasks of the writers come first, those of the readers behind them
    by_cases writer : k < workers
    · have ended := ended_of_gathered gathered .write (all ▸ writer)
      rwa [first, Nat.zero_add] at ended
    · obtain ⟨index, rfl⟩ := Nat.exists_eq_add_of_le (Nat.le_of_not_lt writer)
      exact ended_of_gathered gathered .read (Nat.lt_of_add_lt_add_left (submitted.trans_le most))
  obtain ⟨result, ended⟩ := past
  rw [found] at ended
  cases ended
  rfl

/-! ## What can happen -/

/-- There is room for a worker in the pool of a run. -/
theorem Piece.room (piece : Piece B) : 0 < World.capacity (Run.poolWorkers piece.plan) := by
  have threads : 0 < World.capacity piece.plan.settings.threads := by
    rw [piece.threads.1]
    exact piece.threads.2
  unfold Run.poolWorkers
  split
  · rename_i given
    have positive := piece.valid.pool _ given
    split
    · exact threads
    · rename_i size _
      show 0 < size.toNat
      omega
  · exact threads

/-- There are so many bytes to draw. -/
theorem draw_easy (fate : B.Fate) (piece : Piece B) (w : World B) :
    w.Easy (.entropy piece.plan.bufferSize) := by
  have buffer := piece.valid.buffer
  -- any bytes of this number will do
  have count : ((⟨Array.replicate piece.plan.bufferSize.toNat 0⟩ : ByteArray).size : Int) =
      piece.plan.bufferSize := by
    rw [ByteArray.size, Array.size_replicate]
    omega
  refine ⟨fate, ⟨Array.replicate piece.plan.bufferSize.toNat 0⟩, ?_⟩
  simp only [World.answer, if_pos count]
  rfl

/-- A wait is over, or it is not and a worker can go on. -/
theorem wait_or_moves (fate : B.Fate) (steadily : B.ticks = steady) {mode : Mode}
    {sofar : Progress} (layout : Layout piece (.placing mode sofar piece.workers) w)
    (goes : Goes w.shared.clock) (kept : ∀ k, w.status? k ≠ some .takenBack) :
    w.Easy (.wait 0 (piece.submissions mode) piece.plan.settings.timeout) ∨
      ∃ w', w.Moves w' := by
  -- a wait that names nobody can be answered exactly when all tasks have ended
  by_cases still : w.Still
  · refine .inl ⟨fate, .empty, ?_⟩
    have told : w.tells (piece.submissions mode) [] piece.plan.settings.timeout = true := by
      refine World.tells_iff.2 ⟨nofun, fun k submitted _ => ?_, fun _ => rfl⟩
      obtain ⟨index, below, rfl⟩ := List.mem_map.1 submitted
      have there : first piece.workers mode + index < w.tasks.length := by
        rw [layout.tasks, Point.tasks]
        exact Nat.add_lt_add_left (List.mem_range.1 below) _
      obtain ⟨status, found⟩ := Option.isSome_iff_exists.1 (w.status?_isSome.1 there)
      obtain ⟨result, rfl⟩ := Status.exists_of_isEnded (still _ status found)
      exact ⟨result, found⟩
    simp only [World.answer, if_pos told]
    rfl
  · exact .inr (w.moves_on fate steadily goes layout.pools piece.room layout.pool kept still)

/-! ## Reports -/

/-- The measurements of one direction. -/
theorem tally_of_gathered {workers size : Nat} {sofar : Progress}
    (gathered : sofar.Each (Finished workers size w)) (mode : Mode)
    (all : (sofar.outcomes mode).length = workers) :
    ∃ points, Tally.ofOutcomes (sofar.outcomes mode) = ⟨points, []⟩ ∧ points.length = workers ∧
      ∀ index < workers, ∃ m : Measurement, points[index]? = some m ∧ m.mode = mode ∧
        m.bytes = size ∧ w.status? (first workers mode + index) =
          some (.ended (.ok ⟨index, mode, some m, []⟩)) := by
  have whole (o : Outcome) (member : o ∈ sofar.outcomes mode) :
      ∃ m, o.measurement = some m ∧ o.errors = [] := by
    obtain ⟨index, found⟩ := List.mem_iff_getElem?.1 member
    obtain ⟨⟨m, -, -, made⟩, -⟩ := gathered mode index o found
    cases made
    exact ⟨m, rfl, rfl⟩
  obtain ⟨points, tally, same⟩ := Tally.ofOutcomes_of_whole whole
  refine ⟨points, tally, ?_, ?_⟩
  · have count := congrArg List.length same
    rw [List.length_map, List.length_map, all] at count
    exact count.symm
  · intro index below
    have found := List.getElem?_eq_getElem (all ▸ below : index < (sofar.outcomes mode).length)
    obtain ⟨⟨m, directed, bytes, made⟩, ended⟩ := gathered mode index _ found
    rw [Except.ok.injEq] at made
    rw [made] at found ended
    refine ⟨m, ?_, directed, bytes, ended⟩
    -- the measurements stand in the order of the workers
    have there := congrArg (fun list => list[index]?) same
    simpa [found] using there.symm

/-- What workers of one direction have moved who moved the same each. -/
theorem moved_of_gathered {workers size : Nat} {sofar : Progress}
    (gathered : sofar.Each (Finished workers size w)) (mode : Mode)
    (all : (sofar.outcomes mode).length = workers) :
    (Tally.ofOutcomes (sofar.outcomes mode)).errors = [] ∧
      (Tally.ofOutcomes (sofar.outcomes mode)).moved =
        List.replicate workers (mode, (size : Int)) := by
  obtain ⟨points, tally, count, each⟩ := tally_of_gathered gathered mode all
  rw [tally]
  refine ⟨rfl, List.eq_replicate_iff.2 ⟨(List.length_map _).trans count, fun moved member => ?_⟩⟩
  obtain ⟨m, there, rfl⟩ := List.mem_map.1 member
  obtain ⟨index, below, rfl⟩ := List.mem_iff_getElem.1 there
  obtain ⟨m, found, directed, bytes, -⟩ := each index (count ▸ below)
  rw [List.getElem?_eq_getElem below] at found
  cases found
  rw [directed, bytes]

/-- The directions and the bytes of a report in which nothing is missing. -/
def planned (workers size : Nat) : List (Mode × Int) :=
  List.replicate workers (.write, (size : Int)) ++ List.replicate workers (.read, (size : Int))

/-- The report of a run in which nobody was late has all measurements of all bytes, and no error. -/
theorem Smooth.report {At : Point → World B → Prop} (smooth : ∀ pt w, At pt w → Smooth piece pt w)
    {report : Tally} (reported : Outline.Reported piece At report w) :
    report.moved = planned piece.workers piece.size ∧ report.errors = [] := by
  obtain ⟨_, _, rfl, sofar, all, all_read, rfl, rfl, here⟩ := reported
  have gathered := (smooth _ _ here.holds).gathered
  obtain ⟨no_error, wrote⟩ := moved_of_gathered gathered .write all
  obtain ⟨no_error', read⟩ := moved_of_gathered gathered .read all_read
  refine ⟨?_, (congrArg₂ (· ++ ·) no_error no_error').trans (List.append_nil [])⟩
  have both := congrArg₂ (· ++ ·) wrote read
  rwa [Tally.moved, Tally.moved, ← List.map_append] at both

/-- Whichever step is taken whenever there is a choice, a run comes to a report with these points
and without an error, in a world like this. -/
def Delivers (plan : Plan) (store : B.State) (points : List (Mode × Int))
    (leaves : World B → Prop) : Prop :=
  Inevitable (calm plan).Step (fun s => ∃ report session, s.main = .done (.ok report, session) ∧
    report.moved = points ∧ report.errors = [] ∧ leaves s.world) (opening plan store)

/-- A run that is smooth all along comes to all measurements of all bytes. -/
theorem Smooth.delivers {At : Point → World B → Prop} {terms : Terms B}
    (outline : Outline piece terms False At) (smooth : ∀ pt w, At pt w → Smooth piece pt w)
    (same : terms.permits = (calm (B := B) piece.plan).permits)
    (live : ∀ w op, terms.Fine w op → terms.Answerable w op ∨ ∃ w', w.Moves w')
    {leaves : World B → Prop} (left : ∀ sofar w, At (.finished sofar) w → leaves w) :
    Delivers piece.plan piece.store (planned piece.workers piece.size) leaves := by
  have step : (calm piece.plan).Step = terms.Step (α := Except Fault Tally × Session) := by
    unfold Terms.Step Terms.Admits
    rw [same]
  rw [Delivers, step]
  apply (outline.inevitable live).mono
  rintro s ⟨⟨result, session⟩, done, reached⟩
  cases result with
  | error fault => exact False.elim reached
  | ok report =>
    obtain ⟨points, errors⟩ := Smooth.report smooth reached
    obtain ⟨_, _, -, sofar, -, -, -, -, here⟩ := reached
    exact ⟨report, session, done, points, errors, left sofar s.world here.holds⟩

/-! ## Failures -/

/-- Has a run failed? -/
def State.hasFailed (s : State B (Except Fault Tally × Session)) : Bool :=
  match s.main with
  | .done (.error _, _) => true
  | _ => false

/-- Where a report is inevitable, no decisions on the same terms lead to a failure. -/
theorem not_failed_of_inevitable {terms : Terms B} {choices : List (Choice B)}
    {s s' : State B (Except Fault Tally × Session)}
    {goal : State B (Except Fault Tally × Session) → Prop} (h : Inevitable terms.Step goal s)
    (reports : ∀ s, goal s → ∃ report session, s.main = .done (.ok report, session))
    (admitted : ∀ choice ∈ choices, terms.Admits choice) (played : play choices s = some s') :
    s'.hasFailed = false := by
  unfold State.hasFailed
  split
  · rename_i fault session done
    have inevitable : Inevitable terms.Step (fun s => ∃ r, s.main = .done r ∧
        ∃ report session, r = (Except.ok report, session)) s := by
      refine h.mono fun s reached => ?_
      obtain ⟨report, session, done⟩ := reports s reached
      exact ⟨_, done, report, session, rfl⟩
    obtain ⟨_, _, same⟩ := Terms.result_of_inevitable inevitable admitted played done
    cases same
  · rfl

end Concert
end StoreMeter
