import StoreMeter.Proofs.Concert.Itinerary
import StoreMeter.Proofs.Concert.Orderly
import StoreMeter.Proofs.Concert.Refusals
/-
# Proofs.Concert.Diaries — what the waits named, and what became of it

The minutes of a run tell what the main thread asked.  A `Diary` also keeps which submissions the waits
named as not done, which tasks were taken up and went on, and who called the storage.  The main thread heeds the
words of its waits (`Heeds`): it takes the results of the submissions that were not named, tries to take
back the others, and makes a worker late right after its task could not be taken back.  So the diary
tells which writers are late: those that were named and had begun (`Booked`).
-/
namespace StoreMeter

/-- The job of a worker in a phase of a plan, with the size and the payload that it was given. -/
def Plan.job {S : Type} (plan : Plan) (size : Nat) (payload : ByteArray) :
    Mode → Nat → Worker.Job S
  | .write, index => Phase.writeJob plan.settings size payload (some 0) index
  | .read, index => Phase.readJob plan.settings size plan.bufferSize (some 0) index

namespace Concert

open Storage (Operation)

variable {S : Type} {B : Backend S} {α : Type} {plan : Plan}

/-! ## Diaries -/

/-- What decisions leave behind of a run, each list in its order. -/
structure Diary (S : Type) where
  minutes : Minutes S := {}
  /-- The submissions that waits named as not done. -/
  named : List Nat := []
  /-- The tasks that were taken up. -/
  begun : List Nat := []
  /-- The tasks that went one step further, each of them once for each step. -/
  worked : List Nat := []
  /-- The tasks that went further after a wait had named them. -/
  restless : List Nat := []
  /-- The calls to the storage, and who made them. -/
  calls : List (Caller × Operation S) := []

/-- The submissions that a decision names if it ends a wait. -/
def names : Choice B → State B α → List Nat
  | .conduct _ _ unfinished, ⟨.ask (.wait _ _ _) _, _⟩ => unfinished
  | _, _ => []

/-- The task that a decision lets a worker take up. -/
def begins : Choice B → List Nat
  | .start k => [k]
  | _ => []

/-- The task that a decision lets go one step further. -/
def works : Choice B → List Nat
  | .work k _ _ => [k]
  | _ => []

/-- The diary after one decision. -/
def Diary.note (d : Diary S) (choice : Choice B) (s : State B α) : Diary S where
  minutes := heard choice s d.minutes
  named := d.named ++ names choice s
  begun := d.begun ++ begins choice
  worked := d.worked ++ works choice
  restless := d.restless ++ (works choice).filter (· ∈ d.named)
  calls := d.calls ++ (call? choice s).toList

/-- The diary after a list of decisions. -/
def diary : List (Choice B) → State B α → Diary S → Diary S
  | [], _, d => d
  | choice :: rest, s, d =>
    match move choice s with
    | some s' => diary rest s' (d.note choice s)
    | none => d

/-- What every decision keeps holds after all of them. -/
theorem diary_keeps {keeps : State B α → Diary S → Prop}
    (step : ∀ {choice s s' d}, keeps s d → move choice s = some s' → keeps s' (d.note choice s))
    {choices : List (Choice B)} {s s' : State B α} {d : Diary S} (h : keeps s d)
    (played : play choices s = some s') : keeps s' (diary choices s d) := by
  induction choices generalizing s d with
  | nil =>
    cases played
    exact h
  | cons choice rest ih =>
    obtain ⟨s₁, moved, played⟩ := Option.bind_eq_some_iff.1 played
    rw [diary, moved]
    exact ih (step h moved) played

/-- The diary after a task went one step further. -/
def Diary.goOn (d : Diary S) (k : Nat) : Diary S :=
  { d with worked := d.worked ++ [k], restless := d.restless ++ [k].filter (· ∈ d.named) }

/-- A decision is a start of a task, a step of a task, or an answer to the main thread, and the diary
says which. -/
inductive Noted (s s' : State B α) (d : Diary S) : Diary S → Prop
  | start {k : Nat} {job : Worker.Job S} (same : s'.main = s.main)
    (here : s.world.status? k = some (.queued job))
    (goes : s'.world = s.world.setStatus k (.running job)) :
    Noted s s' d { d with begun := d.begun ++ [k] }
  | finish {k : Nat} {result : Except Fault Outcome} (same : s'.main = s.main)
    (here : s.world.status? k = some (.running (.done result)))
    (goes : s'.world = s.world.setStatus k (.ended result)) : Noted s s' d (d.goOn k)
  | work {k : Nat} {op : Worker.Op S} {next : op.Answer → Worker.Job S} {fate : B.Fate}
    {time : Binary64} {reply : op.Answer} {shared : Shared B} {more : List (Operation S)}
    (same : s'.main = s.main) (here : s.world.status? k = some (.running (.ask op next)))
    (answered : s.world.shared.answer fate time op = some (reply, shared))
    (goes : s'.world = { s.world with shared }.setStatus k (.running (next reply)))
    (called : more = match op with | .storage op => [op] | _ => []) :
    Noted s s' d { d.goOn k with calls := d.calls ++ more.map (.task k, ·) }
  | conduct {op : Conductor.Op S} {next : op.Answer → Conductor.Program S α} {reply : op.Answer}
    {fate : B.Fate} {random : Except Fault ByteArray} {unfinished : List Nat}
    {more : List (Operation S)} (asks : s.main = .ask op next) (goes_on : s'.main = next reply)
    (answered : s.world.answer fate random unfinished op = some (reply, s'.world))
    (called : more = match op with | .storage op => [op] | _ => []) :
    Noted s s' d
      { d with
        minutes := d.minutes.note op reply
        named := d.named ++ match op with | .wait _ _ _ => unfinished | _ => []
        calls := d.calls ++ more.map (.main, ·) }

theorem noted_of_move {choice : Choice B} {s s' : State B α} (d : Diary S)
    (moved : move choice s = some s') : Noted s s' d (d.note choice s) := by
  obtain ⟨main, w⟩ := s
  cases decided_of_move moved with
  | @start k same started =>
    obtain ⟨job, here, goes⟩ := World.start_eq_some started
    have note : Noted ⟨main, w⟩ s' d _ := .start same here goes
    simpa [Diary.note, heard, names, begins, works, call?] using note
  | @work k fate time same worked =>
    -- a task that is done ends, any other one gets its answer
    rcases World.work_eq_some worked with ⟨result, here, goes⟩ |
      ⟨op, next, reply, shared, here, answered, goes⟩
    · have note : Noted ⟨main, w⟩ s' d _ := .finish same here goes
      have here : w.status? k = some (.running (.done result)) := here
      simpa [Diary.note, Diary.goOn, heard, names, begins, works, call?, here] using note
    · have note : Noted ⟨main, w⟩ s' d _ := .work same here answered goes rfl
      have here : w.status? k = some (.running (.ask op next)) := here
      cases op <;>
        simpa [Diary.note, Diary.goOn, heard, names, begins, works, call?, here] using note
  | @conduct fate random unfinished op next reply asks goes_on answered =>
    obtain rfl : main = .ask op next := asks
    have note : Noted ⟨.ask op next, w⟩ s' d _ := .conduct rfl goes_on answered rfl
    have told : heard (.conduct fate random unfinished) ⟨.ask op next, w⟩ d.minutes =
        d.minutes.note op reply := heard_of_answer rfl answered
    cases op <;> simpa [Diary.note, told, names, begins, works, call?] using note

/-! ## What the main thread heeds -/

/-- What the main thread has asked, what its waits have named and which random bytes it was given. -/
structure Notes (S : Type) where
  minutes : Minutes S := {}
  named : List Nat := []
  drawn : List ByteArray := []

/-- May the main thread ask this, by its notes?  Its jobs are those of the plan, with the bytes that it
was given once.  It waits for submissions of which nothing was taken yet, takes the results of those that
were not named, and tries to take back those that were.  A worker is made late right after that failed,
in the write phase only.  And it is done after it has deleted all objects. -/
def Heeds (plan : Plan) (x : Notes S) : Conductor.Op S → Prop
  | .submit _ job => ∃ mode index size payload, index < plan.workers ∧
    x.minutes.jobs.length = first plan.workers mode + index ∧ Run.check plan = .ok size ∧
      x.drawn = [payload] ∧ job = plan.job size payload mode index
  | .wait _ submissions _ => ∀ k ∈ submissions, ∀ taking, (k, taking) ∉ x.minutes.takings
  | .cancel _ k => k ∈ x.named
  | .result _ k => k ∉ x.named
  | .addLate _ index => x.minutes.In .write ∧ ∃ k : Nat, k < plan.workers ∧ index = k ∧
    x.minutes.takings.getLast? = some (k, .givenUp)
  | .enter .done => plan.workers ≤ x.minutes.deletions.length
  | _ => True

/-- What waits have named after an answer: a wait names some of the submissions that it waited for. -/
def Names (named : List Nat) : (op : Conductor.Op S) → op.Answer → List Nat → Prop
  | .wait _ submissions _, .ok unfinished, after =>
    (∀ k ∈ unfinished, k ∈ submissions) ∧ after = named ++ unfinished
  | .wait _ _ _, .error _, _ => True
  | _, _, after => after = named

/-- The random bytes that an answer gives. -/
def draws : (op : Conductor.Op S) → op.Answer → List ByteArray
  | .entropy _, .ok bytes => [bytes]
  | _, _ => []

/-- Surroundings that keep notes, which the main thread has to heed. -/
def heeding (plan : Plan) : Surroundings (Conductor.effects S) (Notes S) where
  Allows := Heeds plan
  Answers x op reply x' := Honest x.minutes op reply ∧ x'.minutes = x.minutes.note op reply ∧
    Names x.named op reply x'.named ∧ x'.drawn = x.drawn ++ draws op reply

section
variable {x : Notes S} {m m' : Minutes S} {known : List Nat} {mode : Mode} {jobs workers : Nat}
variable {unfinished : List Nat}

theorem ends_heeding {op : Conductor.Op S} {goal : op.Answer → Notes S → Prop} (here : Heeds plan x op)
    (answered : ∀ reply after, Honest x.minutes op reply → Names x.named op reply after →
      goal reply ⟨x.minutes.note op reply, after, x.drawn ++ draws op reply⟩) :
    (Prog.perform (E := Conductor.effects S) op).Ends (heeding plan) goal x := by
  refine ⟨here, ?_⟩
  rintro reply ⟨m, after, drawn⟩ ⟨honest, rfl, names, rfl⟩
  exact answered reply after honest names

/-- A phase that hands out its jobs: all that was named or taken is of a phase before. -/
structure Placing (workers : Nat) (mode : Mode) (jobs : Nat) (m : Minutes S) (known : List Nat) :
    Prop where
  here : m.In mode
  jobs : m.jobs.length = first workers mode + jobs
  named {k : Nat} (there : k ∈ known) : k < first workers mode
  taken {k : Nat} {taking : Taking} (there : (k, taking) ∈ m.takings) : k < first workers mode

/-- A phase that collects outcomes after its wait named these submissions. -/
structure Collecting (workers : Nat) (mode : Mode) (unfinished : List Nat) (m : Minutes S)
    (known : List Nat) : Prop where
  here : m.In mode
  jobs : m.jobs.length = first workers mode + workers
  named {k : Nat} (own : first workers mode ≤ k) : k ∈ known ↔ k ∈ unfinished
  few {k : Nat} (there : k ∈ known) : k < first workers mode + workers
  taken {k : Nat} {taking : Taking} (there : (k, taking) ∈ m.takings) :
    k < first workers mode + workers

/-- A question that hands out nothing and takes nothing. -/
theorem Placing.go (h : Placing workers mode 0 m known) (stages : m'.stages = m.stages)
    (jobs : m'.jobs = m.jobs) (takings : m'.takings = m.takings) : Placing workers mode 0 m' known where
  here := (congrArg List.getLast? stages).trans h.here
  jobs := (congrArg List.length jobs).trans h.jobs
  named := h.named
  taken there := h.taken (takings ▸ there)

/-- One more submission of the phase is dealt with. -/
theorem Collecting.take {k : Nat} {taking : Taking} (h : Collecting workers mode unfinished m known)
    (below : k < first workers mode + workers) :
    Collecting workers mode unfinished (m.take k taking) known := by
  refine ⟨h.here, h.jobs, h.named, h.few, fun {j taking} there => ?_⟩
  rcases List.mem_append.1 there with before | new
  · exact h.taken before
  · cases List.mem_singleton.1 new
    exact below

/-- A wait names submissions of its phase, and what was named before belongs to the phase before. -/
theorem Placing.wait (h : Placing workers mode workers m known)
    (within : ∀ k ∈ unfinished, first workers mode ≤ k ∧ k < first workers mode + workers) :
    Collecting workers mode unfinished (m.hear (.ok unfinished)) (known ++ unfinished) where
  here := h.here
  jobs := h.jobs
  named {k} own := by
    refine ⟨fun there => ?_, List.mem_append_right _⟩
    exact (List.mem_append.1 there).resolve_left fun before => by
      have := h.named before
      omega
  few {k} there := by
    rcases List.mem_append.1 there with before | new
    · exact Nat.lt_add_right _ (h.named before)
    · exact (within k new).2
  taken there := Nat.lt_add_right _ (h.taken there)

/-- The readers come behind all writers. -/
theorem Collecting.again (h : Collecting workers .write unfinished m known) :
    Placing workers .read 0 (m.enter .readPhase) known where
  here := by simp [Minutes.enter, Minutes.In, Mode.stage]
  jobs := h.jobs.trans (Nat.zero_add _)
  named there := (h.few there).trans_eq (Nat.zero_add _)
  taken there := (h.taken there).trans_eq (Nat.zero_add _)

/-- The random bytes that a run was given when it is at a point. -/
def Point.given : Point → List ByteArray
  | .target .write _ | .looked .write _ _ => []
  | .target .read sofar | .looked .read sofar _ | .placing _ sofar _ | .taking _ sofar _
  | .missing _ sofar _ _ | .closing sofar | .clearing sofar _ | .finished sofar => [sofar.payload]

/-- What is known of the minutes and of what was named at each point of a run. -/
def HeededNow (workers : Nat) (m : Minutes S) (known : List Nat) : Point → Prop
  | .target mode _ | .looked mode _ _ => Placing workers mode 0 m known
  | .placing mode _ jobs => Placing workers mode jobs m known
  | .taking mode _ unfinished => Collecting workers mode unfinished m known
  | .missing mode sofar unfinished cancelled => Collecting workers mode unfinished m known ∧
    m.takings.getLast? = some (first workers mode + (sofar.outcomes mode).length,
      bif cancelled then .takenBack else .givenUp)
  | .clearing _ objects => objects ≤ m.deletions.length
  | .closing _ | .finished _ => True

/-- What is known of the notes at each point of a run. -/
structure Heeded (workers : Nat) (pt : Point) (x : Notes S) : Prop where
  drawn : x.drawn = pt.given
  now : HeededNow workers x.minutes x.named pt

/-- Before the phases nothing was handed out, named, taken or drawn. -/
structure Untouched (x : Notes S) : Prop where
  jobs : x.minutes.jobs = []
  named : x.named = []
  takings : x.minutes.takings = []
  drawn : x.drawn = []

/-- What is known before the phases. -/
def HeededBefore : Early → Notes S → Prop
  | .fresh, x | .preparing, x => x.minutes.sets = 0 ∧ x.minutes.pools = [] ∧ Untouched x
  | .prepared, x => x.minutes.pools = [] ∧ Untouched x
  | .pooled, x => Untouched x

/-- A question that is not about jobs leaves the notes untouched. -/
theorem Untouched.go (h : Untouched x) (jobs : m.jobs = x.minutes.jobs)
    (takings : m.takings = x.minutes.takings) (same : known = x.named) :
    Untouched (S := S) ⟨m, known, x.drawn ++ []⟩ :=
  ⟨jobs.trans h.jobs, same.trans h.named, takings.trans h.takings,
    (List.append_nil _).trans h.drawn⟩

/-- The writers are the first whose jobs are handed out. -/
theorem Untouched.begin (h : Untouched x) :
    Placing workers .write 0 (x.minutes.enter .writePhase) x.named where
  here := by simp [Minutes.enter, Minutes.In, Mode.stage]
  jobs := congrArg List.length h.jobs
  named there := by
    rw [h.named] at there
    cases there
  taken {k taking} there := by
    have there : (k, taking) ∈ x.minutes.takings := there
    rw [h.takings] at there
    cases there

/-- The workers of a plan that can be run are those that are counted. -/
theorem Piece.plan_workers (piece : Piece B) : piece.plan.workers = piece.workers := by
  rw [Plan.workers, piece.counted]
  rfl

/-! ### The longer points -/

section
variable {piece : Piece B} {sofar : Progress} {index : Nat}

/-- The bytes were drawn once, so they are those of the job that is handed out. -/
theorem Heeded.submit (here : Heeded piece.workers (.placing mode sofar jobs) x)
    (more : jobs < piece.workers) :
    (Conductor.submit 0 (piece.job sofar mode jobs)).Ends (heeding piece.plan)
      (fun k x' => k = first piece.workers mode + jobs ∧
        Heeded piece.workers (.placing mode sofar (jobs + 1)) x') x := by
  have now : Placing piece.workers mode jobs x.minutes x.named := here.now
  have drawn : x.drawn = [sofar.payload] := here.drawn
  refine ends_heeding ⟨mode, jobs, piece.size, sofar.payload, piece.plan_workers ▸ more,
    piece.plan_workers ▸ now.jobs, piece.checked, drawn, by cases mode <;> rfl⟩
    fun n _ honest names => ⟨honest.trans now.jobs, (List.append_nil _).trans drawn, ?_⟩
  subst names
  refine ⟨now.here, ?_, now.named, now.taken⟩
  simp [Minutes.note, now.jobs, Nat.add_assoc]

/-- A wait names submissions of its phase, of which nothing was taken yet. -/
theorem Heeded.wait (here : Heeded piece.workers (.placing mode sofar piece.workers) x) :
    (Conductor.wait (S := S) 0 (piece.submissions mode) piece.plan.settings.timeout).Ends
      (heeding piece.plan) (fun reply x' => Leads True
        (fun unfinished => Heeded piece.workers (.taking mode sofar unfinished) x') reply) x := by
  have now : Placing piece.workers mode piece.workers x.minutes x.named := here.now
  have within {k : Nat} (there : k ∈ piece.submissions mode) :
      first piece.workers mode ≤ k ∧ k < first piece.workers mode + piece.workers := by
    obtain ⟨index, below, rfl⟩ := List.mem_map.1 there
    exact ⟨by omega, by simpa using below⟩
  refine ends_heeding (fun k there taking taken => ?_) fun r after _ names => ?_
  -- what was taken is of the phase before, and what is waited for is of this one
  · exact absurd (now.taken taken) (Nat.not_lt.2 (within there).1)
  · cases r with
    | error fault => trivial
    | ok unfinished =>
      obtain ⟨some, rfl⟩ := names
      exact ⟨(List.append_nil _).trans here.drawn, now.wait fun k new => within (some k new)⟩

/-- The result of a submission is taken that no wait has named. -/
theorem Heeded.take (here : Heeded piece.workers (.taking mode sofar unfinished) x)
    (more : index < piece.workers) (known : first piece.workers mode + index ∉ unfinished) :
    (Conductor.result (S := S) 0 (first piece.workers mode + index)).Ends (heeding piece.plan)
      (fun result x' => Heeded piece.workers
        (.taking mode (sofar.add (endedAs mode index result) mode) unfinished) x') x := by
  have now : Collecting piece.workers mode unfinished x.minutes x.named := here.now
  refine ends_heeding (fun named => known ((now.named (Nat.le_add_right _ _)).1 named))
    fun r _ _ names => ?_
  subst names
  refine ⟨(List.append_nil _).trans (here.drawn.trans ?_), now.take (Nat.add_lt_add_left more _)⟩
  rw [Point.given, Point.given, Progress.payload_add]

/-- A submission is taken back that a wait has named. -/
theorem Heeded.cancel (here : Heeded piece.workers (.taking mode sofar unfinished) x)
    (turn : (sofar.outcomes mode).length = index) (more : index < piece.workers)
    (named : first piece.workers mode + index ∈ unfinished) :
    (Conductor.cancel (S := S) 0 (first piece.workers mode + index)).Ends (heeding piece.plan)
      (fun back x' => Heeded piece.workers (.missing mode sofar unfinished back) x') x := by
  have now : Collecting piece.workers mode unfinished x.minutes x.named := here.now
  refine ends_heeding ((now.named (Nat.le_add_right _ _)).2 named) fun back _ _ names => ?_
  subst names
  refine ⟨(List.append_nil _).trans here.drawn, now.take (Nat.add_lt_add_left more _), ?_⟩
  rw [turn]
  exact List.getLast?_concat

/-- The writer that is made late is the one that was dealt with last. -/
theorem Heeded.late (here : Heeded piece.workers (.missing .write sofar unfinished false) x)
    (turn : sofar.writes.length = index) (more : index < piece.workers) :
    (Conductor.addLate (S := S) 0 index).Ends (heeding piece.plan)
      (fun _ x' => Heeded piece.workers
        (.taking .write (sofar.add (piece.timedOut .write index) .write) unfinished) x') x := by
  obtain ⟨drawn, now, last⟩ := here
  refine ends_heeding ⟨now.here, index, piece.plan_workers ▸ more, rfl, ?_⟩ fun _ _ _ names => ?_
  -- the last submission that was dealt with is that of this writer
  · rw [last, first, Nat.zero_add, show (sofar.outcomes .write).length = index from turn]
    rfl
  · subst names
    exact ⟨(List.append_nil _).trans drawn, now.here, now.jobs, now.named, now.few, now.taken⟩

end

/-- A run heeds what its waits name, and hands out its own jobs. -/
theorem heeding_itinerary (piece : Piece B) :
    Itinerary piece (heeding piece.plan) True HeededBefore (Heeded piece.workers) where
  prepare here := ends_heeding trivial fun _ _ _ names =>
    ⟨here.1, here.2.1, here.2.2.go rfl rfl names⟩
  newLate here := ends_heeding trivial fun _ _ honest names =>
    ⟨honest.trans here.1, here.2.1, here.2.2.go rfl rfl names⟩
  announce here _ := ends_heeding trivial fun _ _ _ names => ⟨here.1, here.2.go rfl rfl names⟩
  newPool here := by
    refine ends_heeding trivial fun _ _ honest names => ⟨honest.trans ?_, here.2.go rfl rfl names⟩
    rw [here.1]
    rfl
  begin {x} here := by
    have here : Untouched x := here
    refine ends_heeding trivial fun _ _ _ names => ?_
    subst names
    exact ⟨(List.append_nil _).trans here.drawn, here.begin⟩
  log {pt x} here _ := ends_heeding trivial fun _ _ _ names => by
    subst names
    exact ⟨(List.append_nil _).trans here.drawn, here.now⟩
  look {mode sofar x} here := ends_heeding trivial fun _ _ _ names => by
    subst names
    refine leads_anyway fun _ => ⟨(List.append_nil _).trans ?_, Placing.go here.now rfl rfl rfl⟩
    cases mode <;> exact here.drawn
  make here := ends_heeding trivial fun _ _ _ names => by
    subst names
    exact leads_anyway fun _ => ⟨(List.append_nil _).trans here.drawn,
      Placing.go here.now rfl rfl rfl⟩
  lost _ := trivial
  draw {sofar x} here := ends_heeding trivial fun reply _ _ names => by
    subst names
    cases reply with
    | error fault => trivial
    | ok payload =>
      refine ⟨?_, Placing.go here.now rfl rfl rfl⟩
      have none : x.drawn = [] := here.drawn
      rw [none]
      rfl
  keep here := ⟨here.drawn, here.now⟩
  submit more here := here.submit more
  wait here := here.wait
  take _ more known here := here.take more known
  cancel turn more named here := here.cancel turn more named
  late turn more here := here.late turn more
  pass {mode sofar unfinished cancelled x index} _ _ _ here := by
    refine ⟨here.drawn.trans ?_, here.now.1⟩
    rw [Point.given, Point.given, Progress.payload_add]
  list here := ends_heeding trivial fun _ _ _ names => by
    subst names
    exact ⟨(List.append_nil _).trans here.drawn, here.now⟩
  again {sofar unfinished x} _ here := by
    have now : Collecting piece.workers .write unfinished x.minutes x.named := here.now
    refine ends_heeding trivial fun _ _ _ names => ?_
    subst names
    exact ⟨(List.append_nil _).trans here.drawn, now.again⟩
  close _ _ here := ends_heeding trivial fun _ _ _ _ => ⟨(List.append_nil _).trans here.drawn, trivial⟩
  quit _ _ := ends_heeding trivial fun _ _ _ _ => trivial
  clean here := ends_heeding trivial fun _ _ _ _ =>
    ⟨(List.append_nil _).trans here.drawn, Nat.zero_le _⟩
  delete {sofar index x} _ here := ends_heeding trivial fun _ _ _ _ => by
    refine ⟨fun _ _ _ _ => trivial, (List.append_nil _).trans here.drawn, ?_⟩
    have sofar : index ≤ x.minutes.deletions.length := here.now
    simpa [HeededNow, Minutes.note, Minutes.delete] using sofar
  finish {sofar x} here := by
    have all : piece.workers ≤ x.minutes.deletions.length := here.now
    have heeds : Heeds piece.plan x (.enter .done) := piece.plan_workers.trans_le all
    exact ends_heeding heeds fun _ _ _ _ => ⟨(List.append_nil _).trans here.drawn, trivial⟩

end

/-! ## What becomes of tasks -/

/-- Has a worker taken the task up? -/
def Status.hasBegun : Status S → Bool
  | running _ | ended _ => true
  | queued _ | takenBack => false

@[simp]
theorem Status.hasBegun_cancel (status : Status S) : status.cancel.2.hasBegun = status.hasBegun := by
  cases status <;> rfl

namespace World

variable {w w' : World B} {fate : B.Fate} {random : Except Fault ByteArray} {unfinished : List Nat}
variable {op : Conductor.Op S} {reply : op.Answer}

/-- Has a worker taken the task of this number up? -/
def hasBegun (w : World B) (k : Nat) : Bool := (w.status? k).any Status.hasBegun

/-- Only what was submitted can be taken up. -/
theorem isSome_of_hasBegun {k : Nat} (begun : w.hasBegun k = true) :
    (w.status? k).isSome = true :=
  ((Option.any_eq_true_iff_get _ _).1 begun).1

theorem status?_takeBack_cases (w : World B) (pool k : Nat) :
    (w.takeBack pool).status? k = w.status? k ∨
      (w.takeBack pool).status? k = (w.status? k).map (·.cancel.2) := by
  simp only [status?, takeBack, List.getElem?_map]
  cases w.tasks[k]? with
  | none => exact .inl rfl
  | some task => by_cases own : task.pool = pool <;> simp [own]

/-- An answer to the main thread leaves a task alone, takes it back, or is its submission. -/
theorem status?_answer (answered : w.answer fate random unfinished op = some (reply, w')) (k : Nat) :
    w'.status? k = w.status? k ∨ w'.status? k = (w.status? k).map (·.cancel.2) ∨
      ∃ job, w.status? k = none ∧ w'.status? k = some (.queued job) := by
  cases op with
  | submit pool job =>
    cases answered
    rw [status?_submit]
    split
    · rename_i last
      refine .inr (.inr ⟨job, ?_, rfl⟩)
      rw [status?, last, List.getElem?_eq_none (Nat.le_refl _)]
      rfl
    · exact .inl rfl
  | cancel pool j =>
    obtain ⟨status, found, -, rfl⟩ := answer_cancel.1 answered
    rw [status?_setStatus]
    split
    · rename_i same
      subst same
      rw [found]
      exact .inr (.inl rfl)
    · exact .inl rfl
  | shutdown pool waits cancelsQueued =>
    -- a pool is closed with its waiting tasks taken back, or with all of them left
    obtain ⟨rfl, -⟩ := answer_shutdown.1 answered
    split
    · exact (status?_takeBack_cases w pool k).imp id .inl
    · exact .inl rfl
  | entropy size =>
    obtain ⟨-, -, rfl⟩ := answer_entropy.1 answered
    exact .inl rfl
  | wait pool submissions limit =>
    obtain ⟨-, -, rfl⟩ := answer_wait.1 answered
    exact .inl rfl
  | result pool j =>
    obtain ⟨-, rfl⟩ := answer_result.1 answered
    exact .inl rfl
  | storage _ | log _ | newPool _ _ | newLate | addLate _ _ | lateIndexes _ | enter _ =>
    cases answered
    exact .inl rfl

theorem hasBegun_answer (answered : w.answer fate random unfinished op = some (reply, w')) (k : Nat) :
    w'.hasBegun k = w.hasBegun k := by
  unfold hasBegun
  rcases status?_answer answered k with same | taken | ⟨job, none_there, there⟩
  · rw [same]
  · rw [taken, Option.any_map]
    cases w.status? k <;> simp
  · rw [none_there, there]
    rfl

/-- What is over stays as it is, whatever the main thread asks. -/
theorem over_answer (answered : w.answer fate random unfinished op = some (reply, w')) {k : Nat}
    {status : Status S} (found : w.status? k = some status) (past : status.isOver = true) :
    w'.status? k = some status := by
  rcases status?_answer answered k with same | taken | ⟨job, none_there, -⟩
  · rw [same, found]
  · rw [taken, found]
    cases status <;> first | rfl | cases past
  · rw [found] at none_there
    cases none_there

theorem hasBegun_setStatus {k j : Nat} {old status : Status S} (here : w.status? k = some old) :
    (w.setStatus k status).hasBegun j = if j = k then status.hasBegun else w.hasBegun j := by
  unfold hasBegun
  rw [status?_setStatus]
  split
  · rename_i same
    rw [same, here]
    rfl
  · rfl

end World

/-! ## What a diary tells -/

/-- Which submissions are dealt with in which way: results are taken of those that were not named, and
those that were named are taken back or given up, the latter only after they have begun. -/
def Dealt (d : Diary S) (k : Nat) : Taking → Prop
  | .ended _ => k ∉ d.named
  | .takenBack => k ∈ d.named
  | .givenUp => k ∈ d.named ∧ k ∈ d.begun

/-- The diary of a run tells what became of each submission.  Who is late was given up as a writer. -/
structure Booked (plan : Plan) (s : State B (Except Fault Tally × Session)) (d : Diary S) : Prop where
  orderly : Orderly plan s d.minutes
  heeds : s.main.Ends (heeding plan) (fun _ _ => True) ⟨d.minutes, d.named, s.world.drawn⟩
  begun (k : Nat) : k ∈ d.begun ↔ s.world.hasBegun k = true
  worked {k : Nat} (there : k ∈ d.worked) : k ∈ d.begun
  called {k : Nat} {op : Operation S} (there : (.task k, op) ∈ d.calls) : k ∈ d.begun
  dealt {k : Nat} {taking : Taking} (there : (k, taking) ∈ d.minutes.takings) : Dealt d k taking
  late {i : Int} (late : s.world.shared.isLate 0 i = true) :
    ∃ k : Nat, k < plan.workers ∧ i = k ∧ (k, .givenUp) ∈ d.minutes.takings

section
variable {s s' : State B (Except Fault Tally × Session)} {d d' : Diary S}

theorem opening_booked (plan : Plan) (checked : ∃ size, Run.check plan = .ok size)
    (store : B.State) : Booked plan (opening plan store) {} where
  orderly := ⟨opening_minuted plan store, fun _ _ none => by cases none⟩
  heeds := by
    obtain ⟨size, checked⟩ := checked
    obtain ⟨piece, rfl, rfl, -⟩ := Piece.of_checked (B := B) checked store
    have start : HeededBefore .fresh ({} : Notes S) := ⟨rfl, rfl, rfl, rfl, rfl, rfl⟩
    have whole := (heeding_itinerary piece).whole { late := 0 } start
    exact Prog.Ends.mono (fun _ _ _ => trivial) whole
  begun k := by simp [opening, World.hasBegun, World.status?]
  worked there := nomatch there
  called there := nomatch there
  dealt there := nomatch there
  late late := nomatch late

/-- What was dealt with in one way before was dealt with in this way. -/
theorem Dealt.mono {k : Nat} {taking : Taking} (h : Dealt d k taking)
    (named : k ∈ d'.named ↔ k ∈ d.named) (begun : k ∈ d.begun → k ∈ d'.begun) :
    Dealt d' k taking := by
  cases taking with
  | ended result => exact fun there => h (named.1 there)
  | takenBack => exact named.2 h
  | givenUp => exact ⟨named.2 h.1, begun h.2⟩

/-- A step of a task adds nothing to the minutes; a task has begun as soon as it is taken up. -/
theorem Booked.task (h : Booked plan s d) (orderly : Orderly plan s' d'.minutes)
    (same : s'.main = s.main) (minutes : d'.minutes = d.minutes) (named : d'.named = d.named)
    (lates : s'.world.shared.lates = s.world.shared.lates) (drawn : s'.world.drawn = s.world.drawn)
    (begun : ∀ k, k ∈ d'.begun ↔ s'.world.hasBegun k = true)
    (more : ∀ k, k ∈ d.begun → k ∈ d'.begun) (worked : ∀ {k}, k ∈ d'.worked → k ∈ d'.begun)
    (called : ∀ {k op}, (.task k, op) ∈ d'.calls → k ∈ d'.begun) : Booked plan s' d' where
  orderly := orderly
  heeds := by
    rw [same, minutes, named, drawn]
    exact h.heeds
  begun := begun
  worked := worked
  called := called
  dealt there := (h.dealt (minutes ▸ there)).mono (by rw [named]) (more _)
  late late := by
    rw [Shared.isLate, lates] at late
    rw [minutes]
    exact h.late late

/-- What an answer adds to the takings. -/
def taken : (op : Conductor.Op S) → op.Answer → List (Nat × Taking)
  | .cancel _ k, back => [(k, bif back then .takenBack else .givenUp)]
  | .result _ k, result => [(k, .ended result)]
  | _, _ => []

theorem note_takings (m : Minutes S) (op : Conductor.Op S) (reply : op.Answer) :
    (m.note op reply).takings = m.takings ++ taken op reply := by
  cases op with
  | storage op => cases op <;> exact (List.append_nil _).symm
  | cancel _ _ | result _ _ => rfl
  | log _ | entropy _ | newPool _ _ | submit _ _ | wait _ _ _ | shutdown _ _ _ | newLate
    | addLate _ _ | lateIndexes _ | enter _ => exact (List.append_nil _).symm

/-- What an answer to the main thread names. -/
def said (unfinished : List Nat) : Conductor.Op S → List Nat
  | .wait _ _ _ => unfinished
  | _ => []

section
variable {w w' : World B} {op : Conductor.Op S} {reply : op.Answer} {fate : B.Fate}
variable {random : Except Fault ByteArray} {unfinished : List Nat}

theorem names_of_answer (answered : w.answer fate random unfinished op = some (reply, w'))
    (named : List Nat) : Names named op reply (named ++ said unfinished op) := by
  cases op with
  | wait pool submissions limit =>
    obtain ⟨tells, rfl, -⟩ := World.answer_wait.1 answered
    unfold Conductor.waitResult
    split
    · rename_i none_left
      rw [List.isEmpty_iff] at none_left
      subst none_left
      exact ⟨List.forall_mem_nil _, rfl⟩
    · cases Conductor.checkLimit limit with
      | error fault => trivial
      | ok _ => exact ⟨fun _ there => (World.tells_iff.1 tells).1 _ there, rfl⟩
  | storage _ | log _ | entropy _ | newPool _ _ | submit _ _ | cancel _ _ | result _ _
    | shutdown _ _ _ | newLate | addLate _ _ | lateIndexes _ | enter _ => exact List.append_nil _

/-- The world keeps the random bytes that its answers gave. -/
theorem drawn_of_answer (answered : w.answer fate random unfinished op = some (reply, w')) :
    w'.drawn = w.drawn ++ draws op reply := by
  cases op with
  | entropy size =>
    obtain ⟨rfl, -, rfl⟩ := World.answer_entropy.1 answered
    cases reply <;> rfl
  | cancel pool k =>
    obtain ⟨status, -, -, rfl⟩ := World.answer_cancel.1 answered
    exact (List.append_nil _).symm
  | wait pool submissions limit =>
    obtain ⟨-, -, rfl⟩ := World.answer_wait.1 answered
    exact (List.append_nil _).symm
  | result pool k =>
    obtain ⟨-, rfl⟩ := World.answer_result.1 answered
    exact (List.append_nil _).symm
  | shutdown pool waits cancels =>
    obtain ⟨rfl, -⟩ := World.answer_shutdown.1 answered
    cases cancels <;> exact (List.append_nil _).symm
  | storage _ | log _ | submit _ _ | newPool _ _ | newLate | addLate _ _ | lateIndexes _ | enter _ =>
    cases answered
    exact (List.append_nil _).symm

/-- A wait names nobody whose submission was dealt with before. -/
theorem not_said (answered : w.answer fate random unfinished op = some (reply, w'))
    {x : Notes S} (heeds : Heeds plan x op) {k : Nat} {taking : Taking}
    (there : (k, taking) ∈ x.minutes.takings) : k ∉ said unfinished op := by
  cases op with
  | wait pool submissions limit =>
    obtain ⟨tells, -⟩ := World.answer_wait.1 answered
    exact fun said => heeds k ((World.tells_iff.1 tells).1 k said) taking there
  | storage _ | log _ | entropy _ | newPool _ _ | submit _ _ | cancel _ _ | result _ _
    | shutdown _ _ _ | newLate | addLate _ _ | lateIndexes _ | enter _ => exact List.not_mem_nil

/-- Who is late after an answer was late before, or was just given up as a writer. -/
theorem late_of_answer (x : Notes S) (borne : w.BearsOut x.minutes) (fits : Fits plan x.minutes op)
    (heeds : Heeds plan x op) (answered : w.answer fate random unfinished op = some (reply, w')) {i : Int}
    (late : w'.shared.isLate 0 i = true) : w.shared.isLate 0 i = true ∨
      ∃ k : Nat, k < plan.workers ∧ i = k ∧ (k, .givenUp) ∈ x.minutes.takings := by
  have lates := World.lates_answer answered
  cases op with
  | newLate =>
    have none : w.shared.lates = [] := List.length_eq_zero_iff.1 (borne.lates.trans fits)
    rw [Shared.isLate, lates, none] at late
    cases late
  | addLate set index =>
    obtain ⟨-, k, below, rfl, last⟩ := heeds
    obtain ⟨rfl, one⟩ := fits
    cases answered
    rw [World.isLate_addLate (by rw [borne.lates, one]; exact Nat.one_pos)] at late
    rcases Bool.or_eq_true_iff.1 late with new | before
    · exact .inr ⟨k, below, eq_of_beq new, List.mem_of_getLast? last⟩
    · exact .inl before
  | storage _ | log _ | entropy _ | newPool _ _ | submit _ _ | wait _ _ _ | cancel _ _ | result _ _
    | shutdown _ _ _ | lateIndexes _ | enter _ =>
    rw [Shared.isLate, lates] at late
    exact .inl late

end

/-- What an answer deals with was named or not, as it should be. -/
theorem dealt_now (h : Booked plan s d) {op : Conductor.Op S} {reply : op.Answer} {fate : B.Fate}
    {random : Except Fault ByteArray} {unfinished : List Nat}
    (heeds : Heeds plan ⟨d.minutes, d.named, s.world.drawn⟩ op) {w' : World B}
    (answered : s.world.answer fate random unfinished op = some (reply, w')) {k : Nat}
    {taking : Taking} (new : (k, taking) ∈ taken op reply)
    (named : d'.named = d.named ++ said unfinished op) (begun : d'.begun = d.begun) :
    Dealt d' k taking := by
  cases op with
  | result pool j =>
    cases List.mem_singleton.1 new
    have same : d'.named = d.named := named.trans (List.append_nil _)
    exact fun there => heeds (same ▸ there)
  | cancel pool j =>
    have same : d'.named = d.named := named.trans (List.append_nil _)
    obtain ⟨status, found, rfl, -⟩ := World.answer_cancel.1 answered
    cases List.mem_singleton.1 new
    have there : k ∈ d'.named := same ▸ heeds
    -- a task that cannot be taken back has begun
    cases status with
    | queued job | takenBack => exact there
    | running rest | ended result =>
      refine ⟨there, begun ▸ (h.begun k).2 ?_⟩
      rw [World.hasBegun, found]
      rfl
  | storage _ | log _ | entropy _ | newPool _ _ | submit _ _ | wait _ _ _
    | shutdown _ _ _ | newLate | addLate _ _ | lateIndexes _ | enter _ => cases new

/-- An answer to the main thread keeps what the diary tells. -/
theorem Booked.answer (h : Booked plan s d) {op : Conductor.Op S}
    {next : op.Answer → Conductor.Program S (Except Fault Tally × Session)} {reply : op.Answer}
    {fate : B.Fate} {random : Except Fault ByteArray} {unfinished : List Nat}
    (asks : s.main = .ask op next) (goes_on : s'.main = next reply)
    (answered : s.world.answer fate random unfinished op = some (reply, s'.world))
    (orderly : Orderly plan s' d'.minutes) (minutes : d'.minutes = d.minutes.note op reply)
    (named : d'.named = d.named ++ said unfinished op) (begun : d'.begun = d.begun)
    (worked : d'.worked = d.worked)
    (called : ∀ {k op}, (.task k, op) ∈ d'.calls → (.task k, op) ∈ d.calls) : Booked plan s' d' := by
  have asking := h.orderly.minuted.asks
  have heeding := h.heeds
  rw [asks] at asking heeding
  obtain ⟨fits, -⟩ := asking
  obtain ⟨heeds, further⟩ := heeding
  have honest := (h.orderly.minuted.borne.answer fits answered).1
  have takings : d'.minutes.takings = d.minutes.takings ++ taken op reply := by
    rw [minutes, note_takings]
  -- nothing that was dealt with is named afterwards
  have unsaid {k : Nat} {taking : Taking} (there : (k, taking) ∈ d.minutes.takings) :
      k ∈ d'.named ↔ k ∈ d.named := by
    rw [named, List.mem_append]
    exact or_iff_left (not_said answered heeds there)
  refine ⟨orderly, ?_, fun k => ?_, fun there => begun ▸ h.worked (worked ▸ there),
    fun there => begun ▸ h.called (called there), fun {k taking} there => ?_, fun {i} late => ?_⟩
  · rw [goes_on, minutes, named]
    exact further reply _ ⟨honest, rfl, names_of_answer answered _, drawn_of_answer answered⟩
  · rw [begun, World.hasBegun_answer answered k]
    exact h.begun k
  · rw [takings] at there
    rcases List.mem_append.1 there with before | new
    · exact (h.dealt before).mono (unsaid before) fun there => begun ▸ there
    · exact dealt_now h heeds answered new named begun
  · rcases late_of_answer ⟨d.minutes, d.named, s.world.drawn⟩ h.orderly.minuted.borne fits heeds
      answered late with before | new
    · obtain ⟨k, below, same, there⟩ := h.late before
      exact ⟨k, below, same, takings ▸ List.mem_append_left _ there⟩
    · obtain ⟨k, below, same, there⟩ := new
      exact ⟨k, below, same, takings ▸ List.mem_append_left _ there⟩

/-- A task that goes on has begun. -/
theorem Booked.worked_goOn (h : Booked plan s d) {k : Nat} (running : s.world.hasBegun k = true)
    {j : Nat} (there : j ∈ (d.goOn k).worked) : j ∈ d.begun := by
  rcases List.mem_append.1 there with before | new
  · exact h.worked before
  · obtain rfl := List.mem_singleton.1 new
    exact (h.begun j).2 running

/-- Every decision keeps what the diary tells. -/
theorem Booked.move {choice : Choice B} (h : Booked plan s d) (moved : move choice s = some s') :
    Booked plan s' (d.note choice s) := by
  have orderly : Orderly plan s' (d.note choice s).minutes := h.orderly.move moved
  have noted := noted_of_move d moved
  generalize d.note choice s = d' at orderly noted ⊢
  cases noted with
  | @start k job same here goes =>
    refine h.task orderly same rfl rfl (by rw [goes]; rfl) (by rw [goes]; rfl) (fun j => ?_)
      (fun _ => List.mem_append_left _) (fun there => List.mem_append_left _ (h.worked there))
      fun there => List.mem_append_left _ (h.called there)
    rw [goes, World.hasBegun_setStatus here, List.mem_append, h.begun, List.mem_singleton]
    split <;> simp_all [Status.hasBegun]
  | @finish k result same here goes =>
    have running : s.world.hasBegun k = true := by simp [World.hasBegun, here, Status.hasBegun]
    refine h.task orderly same rfl rfl (by rw [goes]; rfl) (by rw [goes]; rfl)
      (fun j => (h.begun j).trans ?_) (fun _ => id) (h.worked_goOn running) h.called
    rw [goes, World.hasBegun_setStatus here]
    split <;> simp_all [Status.hasBegun]
  | @work k op next fate time reply shared more same here answered goes called =>
    have running : s.world.hasBegun k = true := by simp [World.hasBegun, here, Status.hasBegun]
    have lates := Shared.lates_answer answered
    refine h.task orderly same rfl rfl (by rw [goes]; exact lates) (by rw [goes]; rfl)
      (fun j => (h.begun j).trans ?_) (fun _ => id) (h.worked_goOn running) ?_
    · rw [goes]
      have there : ({ s.world with shared } : World B).status? k = _ := here
      rw [World.hasBegun_setStatus there]
      split
      · simp_all [Status.hasBegun]
      · rfl
    · intro j op there
      rcases List.mem_append.1 there with before | new
      · exact h.called before
      · obtain ⟨_, -, same⟩ := List.mem_map.1 new
        cases same
        exact (h.begun k).2 running
  | @conduct op next reply fate random unfinished more asks goes_on answered called =>
    refine h.answer asks goes_on answered orderly rfl ?_ rfl rfl fun {k op} there => ?_
    · cases op <;> rfl
    · rcases List.mem_append.1 there with before | new
      · exact before
      · obtain ⟨_, -, same⟩ := List.mem_map.1 new
        cases same

end

end Concert
end StoreMeter
