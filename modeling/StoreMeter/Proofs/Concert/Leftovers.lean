import StoreMeter.Proofs.Concert.Custody
import StoreMeter.Proofs.Concert.Walk
/-
# Proofs.Concert.Leftovers — no object outlives a run that is reported

A run that returns a report leaves no object behind, once all its tasks are over: not where writers
were late, not where they failed half-way, and not where an object was in the store before the run.
The main thread settles every writer before it clears the objects, and a writer that is settled
either works no more or knows itself late (`marks`, `Kept`); what holds of a writer then is told by
`Agrees`, whatever the order of the steps was.
-/
namespace StoreMeter
namespace Concert

open Storage (Operation)
open Storage.Memory (Stream Store)

/-! ## The marks of the main thread -/

/-- How far the main thread is with each writer, at each point of a run. -/
def marks : Point → Nat → Mark
  | .target .write _, _ | .looked .write _ _, _ | .placing .write _ _, _ => .awaited
  | .taking .write sofar _, k | .missing .write sofar _ _, k =>
    if k < sofar.writes.length then .settled else .awaited
  | .target .read _, _ | .looked .read _ _, _ | .placing .read _ _, _ => .settled
  | .taking .read _ _, _ | .missing .read _ _ _, _ | .closing _, _ => .settled
  | .clearing _ index, k => if k < index then .cleared else .settled
  | .finished _, _ => .cleared

/-- The writer whose turn it is gets settled when its outcome is taken. -/
theorem marks_add_self (sofar : Progress) (o : Outcome) (unfinished : List Nat) :
    marks (.taking .write (sofar.add o .write) unfinished) sofar.writes.length = .settled := by
  simp [marks, Progress.add, Progress.extend]

/-- The other marks stay as they are then. -/
theorem marks_add (sofar : Progress) (o : Outcome) (unfinished : List Nat) {k : Nat}
    (other : k ≠ sofar.writes.length) :
    marks (.taking .write (sofar.add o .write) unfinished) k =
      marks (.taking .write sofar unfinished) k := by
  have same : k < (sofar.writes ++ [o]).length ↔ k < sofar.writes.length := by
    rw [List.length_append, List.length_singleton]
    omega
  simp only [marks, Progress.add, Progress.extend, same]

theorem marks_clear_self (sofar : Progress) (index : Nat) :
    marks (.clearing sofar (index + 1)) index = .cleared := by
  simp [marks]

theorem marks_clear (sofar : Progress) {index k : Nat} (other : k ≠ index) :
    marks (.clearing sofar (index + 1)) k = marks (.clearing sofar index) k := by
  have same : k < index + 1 ↔ k < index := by omega
  simp only [marks, same]

section
variable {settings : Settings} {workers index : Nat} {m m' : Nat → Mark} {w : World flawed}

/-- The same marks for all writers, and nothing that a writer sees has changed. -/
theorem sound_mono {w' : World flawed}
    (sound : (custody settings workers).Sound (agreement settings workers m) w)
    (tasks : w'.tasks = w.tasks) (same : ∀ k, k < workers → m' k = m k)
    (agrees : ∀ k, k < workers → ∀ l, Agrees (settings.objectPath k) k (m k) w.shared l →
      Agrees (settings.objectPath k) k (m k) w'.shared l) :
    (custody settings workers).Sound (agreement settings workers m') w' := by
  refine sound.mono tasks fun k l h writer => ?_
  rw [same k writer]
  exact agrees k writer l (h writer)

/-- A writer that puts its work down can be settled. -/
theorem Agrees.settle {path : String} {shared : Shared flawed} {l : Held}
    (agrees : Agrees path index (m index) shared l) (down : l.duty ≠ .writes) :
    Agrees path index .settled shared l where
  timely := agrees.timely
  warned _ duty := absurd duty down
  gone := nofun
  deleted := agrees.deleted

/-- A writer whose task is over is settled. -/
theorem settle_over (sound : (custody settings workers).Sound (agreement settings workers m) w)
    {status : Status Stream} (found : w.status? index = some status) (past : status.isOver = true)
    (same : ∀ k, k < workers → k ≠ index → m' k = m k) (settled : m' index = .settled) :
    (custody settings workers).Sound (agreement settings workers m') w := by
  intro k other there
  by_cases here : k = index
  · subst here
    rw [found] at there
    cases there
    have holds := sound k status found
    cases status with
    | queued job | running rest => cases past
    | ended result =>
      obtain ⟨l, agrees, down⟩ := holds
      exact ⟨l, fun writer => settled ▸ (agrees writer).settle (down writer), down⟩
    | takenBack =>
      obtain ⟨l, agrees, left⟩ := holds
      refine ⟨l, fun writer => settled ▸ (agrees writer).settle ?_, left⟩
      rw [left writer]
      decide
  · refine (sound k other there).mono fun l agrees writer => ?_
    rw [same k writer here]
    exact agrees writer

/-- A writer that is made late is settled. -/
theorem settle_late (sound : (custody settings workers).Sound (agreement settings workers m) w)
    (lates : w.shared.lates.length = 1)
    (same : ∀ k, k < workers → k ≠ index → m' k = m k) (settled : m' index = .settled) :
    (custody settings workers).Sound (agreement settings workers m') (w.addLate 0 index) := by
  have made : 0 < w.shared.lates.length := lates ▸ Nat.one_pos
  refine sound.mono rfl fun k l agrees writer => ?_
  have agrees := agrees writer
  by_cases here : k = index
  · subst here
    rw [settled]
    refine ⟨agrees.timely, fun _ _ => ?_, nofun, agrees.deleted⟩
    rw [World.isLate_addLate made, beq_self_eq_true, Bool.true_or]
  · rw [same k writer here]
    refine ⟨agrees.timely, fun mark duty => ?_, agrees.gone, agrees.deleted⟩
    rw [World.isLate_addLate made, agrees.warned mark duty, Bool.or_true]

/-- The object of a settled writer is deleted by the main thread. -/
theorem clear_object (sound : (custody settings workers).Sound (agreement settings workers m) w)
    {flaw : Flaw} {reply : Except Fault Unit} {store : Store}
    (answer : flawedAnswer flaw (.delete (settings.objectPath index)) w.shared.store = (reply, store))
    (before : m index = .settled) (same : ∀ k, k < workers → k ≠ index → m' k = m k)
    (cleared : m' index = .cleared) :
    (custody settings workers).Sound (agreement settings workers m') (w.withStore store) := by
  refine sound.mono rfl fun k l agrees writer => ?_
  have agrees := agrees writer
  by_cases here : k = index
  · subst here
    rw [before] at agrees
    rw [cleared]
    exact ⟨agrees.timely, fun _ => agrees.warned (by decide), fun _ _ => flawed_delete answer,
      fun _ => flawed_delete answer⟩
  · rw [same k writer here]
    refine agrees.frame (flawed_untouched answer ?_)
    rintro touched
    exact here (settings.objectPath_injective (Option.some.inj touched)).symm

/-- What is taken back before its object was cleared leaves nothing to do. -/
theorem quiet_of_uncleared {k : Nat} (mark : m k ≠ .cleared) {l : Held}
    (agrees : agreement settings workers m k w.shared l) :
    ∃ l', agreement settings workers m k w.shared l' ∧ (custody settings workers).Quiet k l' :=
  ⟨{ l with duty := .leaves }, fun writer =>
    ⟨(agrees writer).timely, fun _ => nofun, fun cleared => absurd cleared mark, nofun⟩, fun _ => rfl⟩

end

/-! ## The outline -/

/-- What else is known at some points. -/
def Aside (w : World flawed) : Point → Prop
  | .target .write sofar | .looked .write sofar _ => sofar.writes = []
  | .placing .write sofar _ => sofar.writes = [] ∧ 0 < sofar.payload.size
  | .missing .write sofar _ true => w.status? sofar.writes.length = some .takenBack
  | _ => True

/-- The assertion at each point: all tasks keep their contracts, by the marks of the point. -/
structure Kept (piece : Piece flawed) (pt : Point) (w : World flawed) : Prop where
  sound : (custody piece.plan.settings piece.workers).Sound
    (agreement piece.plan.settings piece.workers (marks pt)) w
  aside : Aside w pt

variable {piece : Piece flawed} {pt pt' : Point} {w w' : World flawed}

/-- An answer that changes nothing that a writer sees. -/
theorem Kept.go (h : Kept piece pt w) (tasks : w'.tasks = w.tasks) (shared : w'.shared = w.shared)
    (same : ∀ k, k < piece.workers → marks pt' k = marks pt k) (aside : Aside w' pt') :
    Kept piece pt' w' :=
  ⟨sound_mono h.sound tasks same fun k _ l agrees => by rwa [shared], aside⟩

/-- An operation of the storage that touches no object. -/
theorem Kept.ask (h : Kept piece pt w) {flaw : Flaw} {op : Operation Stream} {reply : op.Answer}
    {store : Store} (answer : flawedAnswer flaw op w.shared.store = (reply, store))
    (untouched : op.touched = none) (same : ∀ k, k < piece.workers → marks pt' k = marks pt k)
    (aside : Aside (w.withStore store) pt') : Kept piece pt' (w.withStore store) := by
  refine ⟨sound_mono h.sound rfl same fun k _ l agrees => agrees.frame ?_, aside⟩
  exact flawed_untouched answer (untouched ▸ Option.some_ne_none _ |>.symm)

/-- A new task keeps its contract. -/
theorem job_custody {mode : Mode} {sofar : Progress} {jobs : Nat} (more : jobs < piece.workers)
    (h : Kept piece (.placing mode sofar jobs) w) :
    (custody piece.plan.settings piece.workers).Holds
      (agreement piece.plan.settings piece.workers (marks (.placing mode sofar jobs)))
      (first piece.workers mode + jobs) w.shared (.queued (piece.job sofar mode jobs)) := by
  refine ⟨{}, ?_, ?_⟩
  · rintro writer
    cases mode with
    | write => exact ⟨nofun, fun waits => absurd rfl waits, nofun, nofun⟩
    | read => exact absurd writer (by simp only [first]; omega)
  · cases mode with
    | write =>
      have env : (custody piece.plan.settings piece.workers).env (first piece.workers .write + jobs) =
          writerEnv (piece.plan.settings.objectPath jobs) jobs := by
        simp only [custody, first, Nat.zero_add, if_pos more]
      rw [env]
      refine (writeJob_custody h.aside.2 rfl).mono fun _ _ down _ => down
    | read =>
      have reader : ¬ first piece.workers .read + jobs < piece.workers := by
        simp only [first]
        omega
      rw [custody_reader reader]
      exact (readJob_custody _).mono fun _ _ _ writer => absurd writer reader

theorem Kept.moves (h : Kept piece pt w) (moves : w.Moves w') : Kept piece pt w' := by
  refine ⟨h.sound.step (custody_lawful _ _ _) moves.step, ?_⟩
  have aside := h.aside
  unfold Aside at aside ⊢
  split at aside
  · exact aside
  · exact aside
  · exact aside
  · exact moves.step.stays aside rfl
  · trivial

section
variable {mode : Mode} {sofar : Progress} {jobs index : Nat} {unfinished : List Nat}

/-- One more job is handed out. -/
theorem Kept.submit (h : Kept piece (.placing mode sofar jobs) w) (more : jobs < piece.workers)
    (count : w.tasks.length = first piece.workers mode + jobs) :
    Kept piece (.placing mode sofar (jobs + 1)) (w.submit 0 (piece.job sofar mode jobs)) := by
  have same : marks (.placing mode sofar (jobs + 1)) = marks (.placing mode sofar jobs) := by
    cases mode <;> rfl
  refine ⟨?_, ?_⟩
  · rw [same]
    apply h.sound.submit
    rw [count]
    exact job_custody more h
  · cases mode
    · exact h.aside
    · trivial

/-- When a wait is over no writer is settled yet, or all of them are. -/
theorem Kept.wait (h : Kept piece (.placing mode sofar piece.workers) w) (unfinished : List Nat) :
    Kept piece (.taking mode sofar unfinished) w := by
  refine h.go rfl rfl ?_ ?_
  · cases mode
    · have none : sofar.writes = [] := h.aside.1
      intro k _
      simp [marks, none]
    · exact fun _ _ => rfl
  · cases mode <;> trivial

/-- A writer whose outcome is taken is settled. -/
theorem Kept.take (h : Kept piece (.taking mode sofar unfinished) w)
    (turn : (sofar.outcomes mode).length = index) {result : Except Fault Outcome}
    (ended : w.status? (first piece.workers mode + index) = some (.ended result)) (o : Outcome) :
    Kept piece (.taking mode (sofar.add o mode) unfinished) w := by
  cases mode with
  | write =>
    obtain rfl : sofar.writes.length = index := turn
    rw [first, Nat.zero_add] at ended
    exact ⟨settle_over h.sound ended rfl (fun _ _ => marks_add _ _ _) (marks_add_self _ _ _),
      trivial⟩
  | read => exact h.go rfl rfl (fun _ _ => rfl) trivial

/-- Only a task that was not started can be taken back. -/
theorem status?_takenBack {k : Nat} {status : Status Stream} (found : w.status? k = some status)
    (back : status.cancel.1 = true) :
    (w.setStatus k status.cancel.2).status? k = some .takenBack := by
  rw [World.status?_setStatus, if_pos rfl, found]
  cases status with
  | queued _ | takenBack => rfl
  | running _ | ended _ => cases back

/-- Before its object is cleared a task may be taken back. -/
theorem Kept.cancel (h : Kept piece (.taking mode sofar unfinished) w)
    (turn : (sofar.outcomes mode).length = index) {status : Status Stream}
    (found : w.status? (first piece.workers mode + index) = some status) :
    Kept piece (.missing mode sofar unfinished status.cancel.1)
      (w.setStatus (first piece.workers mode + index) status.cancel.2) := by
  have uncleared (k : Nat) : marks (.taking mode sofar unfinished) k ≠ .cleared := by
    cases mode
    · simp only [marks]
      split <;> decide
    · exact nofun
  have same : marks (.missing mode sofar unfinished status.cancel.1) =
      marks (.taking mode sofar unfinished) := by
    cases mode <;> rfl
  refine ⟨?_, ?_⟩
  · rw [same]
    exact h.sound.cancel found fun l agrees => quiet_of_uncleared (uncleared _) agrees
  · cases mode with
    | write =>
      obtain rfl : sofar.writes.length = index := turn
      rw [first, Nat.zero_add] at found ⊢
      cases back : status.cancel.1 with
      | true => exact status?_takenBack found back
      | false => trivial
    | read => trivial

/-- A writer that was taken back is settled, and readers are of no concern. -/
theorem Kept.pass {cancelled : Bool} (h : Kept piece (.missing mode sofar unfinished cancelled) w)
    (gone : mode = .write → cancelled = true) (o : Outcome) :
    Kept piece (.taking mode (sofar.add o mode) unfinished) w := by
  cases mode with
  | write =>
    cases gone rfl
    exact ⟨settle_over h.sound h.aside rfl (fun _ _ => marks_add _ _ _) (marks_add_self _ _ _),
      trivial⟩
  | read => exact h.go rfl rfl (fun _ _ => rfl) trivial

end

theorem custody_outline (piece : Piece flawed) :
    Outline piece Terms.anything True (Kept piece) where
  stable here moves := here.holds.moves moves
  start := by
    refine ⟨?_, rfl⟩
    intro k status told
    cases told
  look {mode sofar w fate reply store} here answer := by
    refine leads_anyway fun present => here.holds.ask answer rfl ?_ ?_
    · cases mode <;> exact fun _ _ => rfl
    · cases mode
      · exact here.holds.aside
      · trivial
  make here answer := leads_anyway fun _ => here.holds.ask answer rfl (fun _ _ => rfl) here.holds.aside
  lost _ := trivial
  draw {sofar w random unfinished} here _ := by
    refine leads_anyway fun payload drawn => ?_
    refine here.holds.go rfl rfl (fun _ _ => rfl) ⟨here.holds.aside, ?_⟩
    have buffer := piece.valid.buffer
    show 0 < payload.size
    omega
  keep here := here.holds.go rfl rfl (fun _ _ => rfl) trivial
  submit more here := here.holds.submit more here.layout.tasks
  wait here _ _ := leads_anyway fun unfinished => here.holds.wait unfinished
  take turn _ _ here ended := here.holds.take turn ended _
  cancel turn _ _ here found := here.holds.cancel turn found
  late {sofar unfinished w index} turn _ here := by
    subst turn
    exact ⟨settle_late here.holds.sound here.layout.lates (fun _ _ => marks_add _ _ _)
      (marks_add_self _ _ _), trivial⟩
  pass _ _ gone here := here.holds.pass gone _
  again {sofar unfinished w} all here := by
    refine here.holds.go rfl rfl ?_ trivial
    intro k writer
    simp [marks, all, writer]
  close {sofar unfinished w} _ _ here :=
    ⟨here.holds.sound.takeBack 0 fun _ _ agrees => quiet_of_uncleared nofun agrees, trivial⟩
  clean here := here.holds.go rfl rfl (fun k _ => by simp [marks]) trivial
  delete {sofar index w fate reply store} _ here answer := by
    refine ⟨fun _ _ _ _ => trivial, clear_object here.holds.sound answer ?_
      (fun _ _ => marks_clear sofar) (marks_clear_self sofar index), trivial⟩
    simp [marks]
  finish here := here.holds.go rfl rfl (fun k writer => by simp [marks, writer]) trivial
  fine_opening _ _ := trivial
  fine _ _ := trivial
  fine_draw _ := trivial
  fine_wait _ := trivial
  lenient _ _ _ := trivial
  fate := ⟨.none⟩
  permits := ⟨.ok .empty, [], trivial⟩

/-! ## Nothing is left -/

/-- If a run returns a report, then no object of a worker is there once all tasks are over. -/
theorem no_object_outlives_report {plan : Plan} {store : Store} {choices : List (Choice flawed)}
    {s : State flawed (Except Fault Tally × Session)}
    (played : play choices (opening plan store) = some s) {report : Tally} {session : Session}
    (done : s.main = .done (.ok report, session))
    (past : ∀ k status, s.world.status? k = some status → status.isOver = true) :
    ∃ paths, plan.settings.objectPaths = .ok paths ∧
      ∀ path ∈ paths, s.world.shared.store.get? path = none := by
  cases checked : Run.check plan with
  | error fault => exact absurd done (no_report_of_refused checked played)
  | ok size =>
    obtain ⟨piece, rfl, rfl, -⟩ := Piece.of_checked (B := flawed) checked store
    obtain ⟨_, _, -, sofar, -, -, -, -, here⟩ :=
      (custody_outline piece).of_play (fun choice _ => Terms.anything_admits choice) played done
    refine ⟨_, Settings.objectPaths_of_count piece.counted, ?_⟩
    intro path member
    obtain ⟨index, below, rfl⟩ := List.mem_map.1 member
    have writer := List.mem_range.1 below
    -- every writer has a task, and its contract says what it left behind
    have submitted : index < s.world.tasks.length := by
      rw [here.layout.tasks, Point.tasks]
      omega
    obtain ⟨status, found⟩ := Option.isSome_iff_exists.1 (s.world.status?_isSome.1 submitted)
    have holds := here.holds.sound index status found
    cases status with
    | queued job | running rest => cases past index _ found
    | ended result =>
      obtain ⟨l, agrees, down⟩ := holds
      exact (agrees writer).gone rfl (down writer)
    | takenBack =>
      obtain ⟨l, agrees, left⟩ := holds
      apply (agrees writer).gone rfl
      rw [left writer]
      decide

/-! ## A late writer -/

/-- A store with the target and an object of an earlier run. -/
def staleStore : Store where
  files := [("target/io-benchmark-0", ⟨#[1, 2, 3]⟩)]
  dirs := ["target"]

/-- The main thread gives the writer up and clears its object; the writer goes on after that, cannot
flush but publishes when it closes its stream, and finds that it is late. -/
def lateWriter : List (Choice flawed) :=
  let conducts (n : Nat) (unfinished : List Nat) : List (Choice flawed) :=
    List.replicate n (.conduct .none (.ok ⟨#[7]⟩) unfinished)
  let works (n : Nat) (flaw : Flaw) : List (Choice flawed) :=
    List.replicate n (.work 0 flaw (.zero false))
  conducts 9 [] ++ .start 0 :: conducts 11 [0] ++ conducts 9 [1] ++ works 4 .none ++
    works 1 (.refused (.system "disk is full")) ++ works 6 .none

theorem late_writer_leaves_nothing :
    ∃ (s : State flawed (Except Fault Tally × Session)) (report : Tally) (session : Session),
      play lateWriter (opening oneByte staleStore) = some s ∧
        s.main = .done (.ok report, session) ∧
        (∀ k status, s.world.status? k = some status → status.isOver = true) ∧
        ∃ paths, oneByte.settings.objectPaths = .ok paths ∧
          ∀ path ∈ paths, s.world.shared.store.get? path = none := by
  have facts : (play lateWriter (opening oneByte staleStore)).map (fun s =>
      (s.report?.isSome, s.world.tasks.map (·.status.isOver))) = some (true, [true, true]) := by
    decide +kernel
  obtain ⟨s, played, facts⟩ := Option.map_eq_some_iff.1 facts
  obtain ⟨reported, past⟩ := Prod.mk.inj facts
  obtain ⟨report, reported⟩ := Option.isSome_iff_exists.1 reported
  obtain ⟨session, done⟩ := State.done_of_report? reported
  have past (k : Nat) (status : Status Stream) (found : s.world.status? k = some status) :
      status.isOver = true := by
    obtain ⟨task, there, rfl⟩ := Option.map_eq_some_iff.1 found
    have member := List.mem_map_of_mem (f := (·.status.isOver)) (List.mem_of_getElem? there)
    rw [past] at member
    simpa using member
  exact ⟨s, report, session, played, done, past, no_object_outlives_report played done past⟩

end Concert
end StoreMeter
