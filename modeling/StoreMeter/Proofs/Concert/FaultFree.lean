import StoreMeter.Proofs.Concert.Calm
/-
# Proofs.Concert.FaultFree — a run in which nothing fails

On a reliable storage, with random bytes to draw and waits that can be made and end when all is done, a
run comes to its report on every schedule, and the report is exact: one measurement of all bytes for each worker
and direction, and no error.  Between the phases each object holds the payload over and over, and at
the end the storage is as before but for the objects, which are gone, and the target, which is there.

No schedule can keep the run from its end (`Inevitable`): all programs are finite, and as long as the
main thread has to wait one of its workers can go on (`World.moves_on`).
-/
namespace StoreMeter
namespace Concert

open Storage (Operation)
open Storage.Memory (Stream Store)

/-! ## Terms -/

/-- Each object holds the random bytes over and over, up to the size. -/
def Between (plan : Plan) (workers size : Nat) (w : World reliable) : Prop :=
  ∃ payload : ByteArray, w.drawn = [payload] ∧ (payload.size : Int) = plan.bufferSize ∧
    Written plan.settings workers size payload w.shared.store

/-- The terms on which nothing fails, where in addition the objects are looked at while the run is in
its read phase, and something can always happen. -/
def watched (plan : Plan) (workers size : Nat) : Terms reliable where
  permits := (calm (B := reliable) plan).permits
  Fine w op := (w.stage = .readPhase → Between plan workers size w) ∧
    ((calm plan).Answerable w op ∨ ∃ w', w.Moves w')

theorem watched_step {α : Type} (plan : Plan) (workers size : Nat) :
    (watched plan workers size).Step (α := α) = (calm plan).Step := rfl

/-! ## The assertion -/

/-- The stage of a phase. -/
def phaseStage : Mode → Stage
  | .write => .writePhase
  | .read => .readPhase

namespace Point

/-- The stage of a run at a point. -/
def stage : Point → Stage
  | target mode _ | looked mode _ _ | placing mode _ _ | taking mode _ _ | missing mode _ _ _ =>
    phaseStage mode
  | closing _ => .readPhase
  | clearing _ _ => .cleanup
  | finished _ => .done

/-- The random bytes that are drawn up to a point. -/
def drawn : Point → List ByteArray
  | target .write _ | looked .write _ _ => []
  | pt => [pt.sofar.payload]

end Point

/-- The store after the target was seen to. -/
def Piece.prepared (piece : Piece reliable) : Store :=
  Store.withTarget piece.store piece.plan.settings.path

/-- The workers of a phase work with a payload of the planned size. -/
structure Works (piece : Piece reliable) (mode : Mode) (sofar : Progress) (w : World reliable) :
    Prop where
  working : Working piece.plan.settings piece.workers piece.size piece.prepared mode sofar.payload w
  planned : (sofar.payload.size : Int) = piece.plan.bufferSize

/-- What only the objects of a run have changed. -/
def Rest (piece : Piece reliable) (store : Store) : Prop :=
  store.without (piece.plan.settings.objects piece.workers) =
    piece.prepared.without (piece.plan.settings.objects piece.workers)

/-- What holds at a point besides what holds at all of them. -/
def Now (piece : Piece reliable) (w : World reliable) : Point → Prop
  | .target .write _ => w.shared.store = piece.store
  | .looked .write _ false =>
    w.shared.store = piece.store ∧ Store.isPresent piece.store piece.plan.settings.path = false
  | .looked .write _ true => w.shared.store = piece.prepared
  | .target .read sofar | .looked .read sofar true => Works piece .read sofar w
  | .placing mode sofar _ => Works piece mode sofar w
  | .taking mode sofar unfinished => Works piece mode sofar w ∧ unfinished = []
  | .closing sofar => w.Still ∧ Rest piece w.shared.store ∧
    (sofar.payload.size : Int) = piece.plan.bufferSize ∧
    Written piece.plan.settings piece.workers piece.size sofar.payload w.shared.store
  | .clearing _ objects => w.Still ∧ Rest piece w.shared.store ∧
    ∀ index < objects, Store.get? w.shared.store (piece.plan.settings.objectPath index) = none
  | .finished _ => w.Still ∧
    w.shared.store = piece.prepared.without (piece.plan.settings.objects piece.workers)
  | .missing _ _ _ _ | .looked .read _ false => False

/-- The assertion at each point. -/
structure Exact (piece : Piece reliable) (pt : Point) (w : World reliable) : Prop
    extends Smooth piece pt w where
  stage : w.stage = pt.stage
  drawn : w.drawn = pt.drawn
  now : Now piece w pt

variable {piece : Piece reliable} {pt : Point} {w w' : World reliable}

theorem Works.moves {mode : Mode} {sofar : Progress} (h : Works piece mode sofar w)
    (moves : w.Moves w') : Works piece mode sofar w' :=
  ⟨h.working.moves moves, h.planned⟩

theorem Now.moves (layout : Layout piece pt w) (h : Now piece w pt) (moves : w.Moves w') :
    Now piece w' pt := by
  have count := layout.tasks
  unfold Now at h ⊢
  split at h
  · exact absurd moves (still_of_none count).no_moves
  · exact absurd moves (still_of_none count).no_moves
  · exact absurd moves (still_of_none count).no_moves
  · exact h.moves moves
  · exact h.moves moves
  · exact h.moves moves
  · exact ⟨h.1.moves moves, h.2⟩
  · exact absurd moves h.1.no_moves
  · exact absurd moves h.1.no_moves
  · exact absurd moves h.1.no_moves
  · exact h
  · exact h

theorem Exact.moves (layout : Layout piece pt w) (h : Exact piece pt w) (moves : w.Moves w') :
    Exact piece pt w' where
  toSmooth := h.toSmooth.moves rfl moves
  stage := moves.step.stage.trans h.stage
  drawn := moves.step.drawn.trans h.drawn
  now := h.now.moves layout moves

/-! ## From point to point -/

/-- An answer that leaves the tasks, the late workers and the clock as they are. -/
theorem Exact.go {pt' : Point} (h : Exact piece pt w) (tasks : w'.tasks = w.tasks)
    (lates : w'.shared.lates = w.shared.lates) (clock : w'.shared.clock = w.shared.clock)
    (stage : w'.stage = pt'.stage) (drawn : w'.drawn = pt'.drawn)
    (same : ∀ mode, pt'.sofar.outcomes mode = pt.sofar.outcomes mode) (now : Now piece w' pt') :
    Exact piece pt' w' where
  toSmooth := h.toSmooth.go tasks lates clock same
  stage := stage
  drawn := drawn
  now := now

/-- The target stays. -/
theorem isPresent_of_rest {store : Store} (rest : Rest piece store) :
    store.isPresent piece.plan.settings.path = true := by
  have other := piece.plan.settings.path_not_mem piece.workers
  rw [← Store.isPresent_without store other, rest, Store.isPresent_without _ other]
  exact Store.isPresent_withTarget piece.store piece.plan.settings.path

/-- A phase starts on a world without tasks. -/
theorem working_of_none {payload : ByteArray} (none : w.tasks.length = 0)
    (store : w.shared.store = piece.prepared) :
    Working piece.plan.settings piece.workers piece.size piece.prepared .write payload w where
  sound := by
    intro k status found
    rw [World.status?, List.eq_nil_of_length_eq_zero none] at found
    cases found
  rest := by rw [store]
  written := nofun

/-- The job of a worker comes to its one outcome. -/
theorem job_exactly (fits : min piece.plan.bufferSize piece.size ≤ Storage.greatestSize)
    {mode : Mode} {sofar : Progress} (works : Works piece mode sofar w) (index : Nat) (l : Own)
    (holds : mode = .read → Holds sofar.payload piece.size l) :
    (piece.job sofar mode index).Ends (aloneEnv mode (piece.plan.settings.objectPath index))
      (fun r l => Exactly mode index piece.size r ∧ Holds sofar.payload piece.size l) l := by
  have buffer := piece.valid.buffer
  cases mode with
  | write =>
    refine writeJob_alone ?_ (some 0) l
    have := works.planned
    omega
  | read => exact readJob_alone buffer fits (some 0) (holds rfl)

/-! ## Seeing to the target -/

/-- The storage says whether the target is there, and it is there when objects are read. -/
theorem Exact.look {mode : Mode} {sofar : Progress} (h : Exact piece (.target mode sofar) w) :
    Exact piece
      (.looked mode sofar (Store.isPresent w.shared.store piece.plan.settings.path)) w := by
  cases mode with
  | write =>
    have same : w.shared.store = piece.store := h.now
    refine h.go rfl rfl rfl h.stage h.drawn (fun _ => rfl) ?_
    cases present : Store.isPresent w.shared.store piece.plan.settings.path with
    | true =>
      show w.shared.store = piece.prepared
      rw [same] at present
      exact same.trans (if_pos present).symm
    | false => exact ⟨same, same ▸ present⟩
  | read =>
    have works : Works piece .read sofar w := h.now
    -- no object of a worker is the target, so the target is as it was prepared
    have there := isPresent_of_rest works.working.rest
    refine h.go rfl rfl rfl h.stage h.drawn (fun _ => rfl) ?_
    rw [there]
    exact works

/-- A target that is missing is made. -/
theorem Exact.make {sofar : Progress} (h : Exact piece (.looked .write sofar false) w) :
    Exact piece (.looked .write sofar true)
      (w.withStore (Store.addDir w.shared.store piece.plan.settings.path)) := by
  obtain ⟨same, missing⟩ := h.now
  refine h.go rfl rfl rfl h.stage h.drawn (fun _ => rfl) ?_
  show Store.addDir w.shared.store _ = piece.prepared
  rw [same]
  exact (if_neg (ne_true_of_eq_false missing)).symm

/-! ## Handing out jobs -/

/-- The random bytes for all writers are drawn once. -/
theorem Exact.draw {sofar : Progress} {payload : ByteArray}
    (h : Exact piece (.looked .write sofar true) w) (none : w.tasks.length = 0)
    (planned : (payload.size : Int) = piece.plan.bufferSize) :
    Exact piece (.placing .write { sofar with payload } 0)
      { w with drawn := w.drawn ++ [payload] } := by
  refine h.go rfl rfl rfl h.stage ?_ (fun mode => by cases mode <;> rfl) ?_
  · show w.drawn ++ [payload] = [payload]
    rw [h.drawn]
    rfl
  · exact ⟨working_of_none none h.now, planned⟩

/-- One more job is handed out. -/
theorem Exact.submit {mode : Mode} {sofar : Progress} {jobs : Nat}
    (drawn : piece.plan.bufferSize ≤ Storage.greatestSize)
    (h : Exact piece (.placing mode sofar jobs) w) (more : jobs < piece.workers)
    (count : w.tasks.length = first piece.workers mode + jobs) :
    Exact piece (.placing mode sofar (jobs + 1)) (w.submit 0 (piece.job sofar mode jobs)) := by
  have works : Works piece mode sofar w := h.now
  refine ⟨h.toSmooth.submit, h.stage, h.drawn, ?_, works.planned⟩
  exact works.working.submit more count h.trusted
    (job_exactly ((min_le_left _ _).trans drawn) works jobs)

/-! ## Taking outcomes -/

section
variable {sofar : Progress} {unfinished : List Nat}

/-- The outcome of the next worker in turn is its one outcome. -/
theorem Exact.take {mode : Mode} {index : Nat} {result : Except Fault Outcome}
    (h : Exact piece (.taking mode sofar unfinished) w)
    (turn : (sofar.outcomes mode).length = index) (more : index < piece.workers)
    (ended : w.status? (first piece.workers mode + index) = some (.ended result)) :
    Exact piece (.taking mode (sofar.add (endedAs mode index result) mode) unfinished) w := by
  obtain ⟨works, all_done⟩ := h.now
  -- the contract of the task says what it came to
  obtain ⟨l, -, exactly, -⟩ := works.working.sound _ _ ended
  rw [(placed_at mode more).1, (placed_at mode more).2] at exactly
  refine ⟨h.toSmooth.take turn exactly ended, h.stage, ?_, ?_, all_done⟩
  · show w.drawn = [(sofar.add _ mode).payload]
    rw [Progress.payload_add]
    exact h.drawn
  · exact ⟨by simpa using works.working, by simpa using works.planned⟩

/-- After the last outcome of a writer the readers find all objects. -/
theorem Exact.again (h : Exact piece (.taking .write sofar unfinished) w)
    (layout : Layout piece (.taking .write sofar unfinished) w)
    (all : sofar.writes.length = piece.workers) :
    Exact piece (.target .read sofar) (w.enter .readPhase) := by
  have count : w.tasks.length = 0 + piece.workers := layout.tasks
  have works : Works piece .write sofar w := h.now.1
  have still : w.Still := still_of_gathered h.gathered all (by
    rw [count]
    omega)
  have objects := works.working.again still fun index below => by omega
  exact h.go rfl rfl rfl rfl h.drawn (fun _ => rfl) ⟨objects.same rfl rfl, works.planned⟩

/-- After the last outcome of a reader closing the pool takes nothing back. -/
theorem Exact.close (h : Exact piece (.taking .read sofar unfinished) w)
    (layout : Layout piece (.taking .read sofar unfinished) w)
    (all : sofar.writes.length = piece.workers) (all_read : sofar.reads.length = piece.workers) :
    Exact piece (.closing sofar) (w.takeBack 0) := by
  have count : w.tasks.length = piece.workers + sofar.reads.length := by
    rw [layout.tasks, Point.tasks, first, all_read]
  have works : Works piece .read sofar w := h.now.1
  have still : w.Still := still_of_gathered h.gathered all count.le
  exact ⟨h.toSmooth.takeBack 0, h.stage, h.drawn,
    still.takeBack 0, works.working.rest, works.planned, works.working.written rfl⟩

end

/-! ## Clearing the objects -/

/-- One more object is gone. -/
theorem Exact.delete {sofar : Progress} {index : Nat} {reply : Except Fault Unit} {store : Store}
    (h : Exact piece (.clearing sofar index) w) (more : index < piece.workers)
    (answer : Storage.Memory.answer (.delete (piece.plan.settings.objectPath index))
      w.shared.store = (reply, store)) :
    Exact piece (.clearing sofar (index + 1)) (w.withStore store) := by
  obtain ⟨still, rest, gone⟩ := h.now
  obtain rfl : (Storage.Memory.answer (.delete (piece.plan.settings.objectPath index))
    w.shared.store).2 = store := congrArg Prod.snd answer
  refine h.go rfl rfl rfl h.stage h.drawn (fun _ => rfl) ⟨still, ?_, ?_⟩
  · refine (Storage.Memory.without_answer ?_ ?_).trans rest
    · intro _ told
      cases told
      exact Settings.objectPath_mem more
    · intro _ told
      cases told
  · intro other below
    by_cases same : other = index
    · subst same
      exact Storage.Memory.get?_delete _ w.shared.store
    · -- the objects before this one are gone already, and stay so
      refine (Storage.Memory.get?_answer _ w.shared.store ?_).trans (gone other (by omega))
      intro touched
      exact same (piece.plan.settings.objectPath_injective (Option.some.inj touched)).symm

/-- Without its objects a storage is as it was before, but for the target. -/
theorem Exact.finish {sofar : Progress} (h : Exact piece (.clearing sofar piece.workers) w) :
    Exact piece (.finished sofar) (w.enter .done) := by
  obtain ⟨still, rest, gone⟩ := h.now
  have nothing (path : String) (member : path ∈ piece.plan.settings.objects piece.workers) :
      Store.get? w.shared.store path = none := by
    obtain ⟨index, below, rfl⟩ := List.mem_map.1 member
    exact gone index (List.mem_range.1 below)
  have whole : Store.without w.shared.store (piece.plan.settings.objects piece.workers) =
      w.shared.store := Store.without_eq_self nothing
  exact h.go rfl rfl rfl rfl h.drawn (fun _ => rfl) ⟨still, whole.symm.trans rest⟩

/-! ## What can happen at each point -/

/-- While a run is in its read phase all objects are whole. -/
theorem Exact.between (h : Exact piece pt w) (reading : w.stage = .readPhase) :
    Between piece.plan piece.workers piece.size w := by
  have drawn := h.drawn
  have now := h.now
  rw [h.stage] at reading
  have whole {sofar : Progress} {mode : Mode} (drawn : w.drawn = [sofar.payload])
      (works : Works piece mode sofar w) (reads : phaseStage mode = .readPhase) :
      Between piece.plan piece.workers piece.size w := by
    cases mode with
    | write => cases reads
    | read => exact ⟨sofar.payload, drawn, works.planned, works.working.written rfl⟩
  unfold Now at now
  split at now
  · cases reading
  · cases reading
  · cases reading
  · exact whole drawn now reading
  · exact whole drawn now reading
  · exact whole drawn now reading
  · exact whole drawn now.1 reading
  · exact ⟨_, drawn, now.2.2⟩
  · cases reading
  · cases reading
  · exact now.elim
  · exact now.elim

/-! ## The outline -/

theorem faultFree_outline (piece : Piece reliable)
    (drawn : piece.plan.bufferSize ≤ Storage.greatestSize)
    (possible : Conductor.checkLimit piece.plan.settings.timeout = .ok ()) :
    Outline piece (watched piece.plan piece.workers piece.size) False (Exact piece) where
  stable here moves := here.holds.moves here.layout moves
  start :=
    { toSmooth := .start piece
      stage := rfl
      drawn := rfl
      now := rfl }
  look here answer := by
    cases answer
    exact here.holds.look
  make here answer := by
    cases answer
    exact here.holds.make
  lost here := here.holds.now
  draw here permitted := by
    obtain ⟨payload, rfl⟩ := permitted.1 drawn
    exact here.holds.draw here.layout.tasks
  keep here := here.holds.go rfl rfl rfl here.holds.stage here.holds.drawn (fun _ => rfl)
    here.holds.now
  submit more here := here.holds.submit drawn more here.layout.tasks
  wait here permitted _ := by
    obtain rfl := permitted.2 possible
    exact here.holds.go rfl rfl rfl here.holds.stage here.holds.drawn (fun _ => rfl)
      ⟨here.holds.now, rfl⟩
  take turn more _ here ended := here.holds.take turn more ended
  cancel _ _ named here _ := by
    -- the wait named nobody
    rw [here.holds.now.2] at named
    cases named
  late _ _ here := here.holds.now.elim
  pass _ _ _ here := here.holds.now.elim
  again all here := here.holds.again here.layout all
  close all all_read here := here.holds.close here.layout all all_read
  clean here := by
    obtain ⟨still, rest, -⟩ := here.holds.now
    refine here.holds.go rfl rfl rfl rfl here.holds.drawn (fun _ => rfl) ⟨still, rest, ?_⟩
    intro index told
    cases told
  delete more here answer := by
    refine ⟨?_, here.holds.delete more answer⟩
    intro fault failed present _
    subst failed
    rw [Storage.Memory.delete_fault answer] at present
    cases present
  finish here := here.holds.finish
  fine_opening unstarted answerable := by
    refine ⟨fun reading => ?_, .inl answerable⟩
    rw [unstarted] at reading
    cases reading
  fine here answerable := ⟨here.holds.between, .inl answerable⟩
  fine_draw here := ⟨here.holds.between, .inl (draw_easy () piece _).calm⟩
  fine_wait {mode sofar w} here := by
    have works : Works piece mode sofar w := here.holds.now
    refine ⟨here.holds.between, ?_⟩
    refine (wait_or_moves () rfl here.layout here.holds.goes fun k found => ?_).imp_left World.Easy.calm
    obtain ⟨_, -, quiet⟩ := works.working.sound k _ found
    exact quiet
  lenient failed := failed.elim
  fate := ⟨()⟩
  permits := ⟨.ok .empty, [], fun _ => ⟨_, rfl⟩, fun _ => rfl⟩

/-! ## An exact report -/

/-- The report of a run in which nothing failed, in the world at its end. -/
structure ExactReport (plan : Plan) (store : Store) (workers size : Nat) (w : World reliable)
    (report : Tally) : Prop where
  count : report.points.length = workers + workers
  errors : report.errors = []
  /-- First come the measurements of the writers and then those of the readers, in the order of the
  workers.  Each is one of all bytes, and the one that the worker's task came to. -/
  point (mode : Mode) (index : Nat) (below : index < workers) : ∃ m : Measurement,
    report.points[first workers mode + index]? = some m ∧ m.mode = mode ∧ m.bytes = size ∧
      w.status? (first workers mode + index) = some (.ended (.ok ⟨index, mode, some m, []⟩))
  /-- The objects of the workers are gone, also those that were there before. -/
  files : w.shared.store.files =
    store.files.filter fun entry => !(plan.settings.objects workers).contains entry.1
  /-- The target is there. -/
  dirs : w.shared.store.dirs = if store.isPresent plan.settings.path then store.dirs
    else store.dirs ++ [Store.dirKey plan.settings.path]
  stage : w.stage = .done

theorem exactReport_of_reported (piece : Piece reliable) {report : Tally} {w : World reliable}
    (reported : Outline.Reported piece (Exact piece) report w) :
    ExactReport piece.plan piece.store piece.workers piece.size w report := by
  obtain ⟨_, _, rfl, sofar, all, all_read, rfl, rfl, here⟩ := reported
  obtain ⟨writes, written, count, wrote⟩ := tally_of_gathered here.holds.gathered .write all
  obtain ⟨reads, readBack, count_read, read⟩ := tally_of_gathered here.holds.gathered .read all_read
  have after : w.shared.store =
      piece.prepared.without (piece.plan.settings.objects piece.workers) := here.holds.now.2
  have report : (Tally.ofOutcomes sofar.writes).merge (Tally.ofOutcomes sofar.reads) =
      ⟨writes ++ reads, []⟩ := by
    rw [show Tally.ofOutcomes sofar.writes = _ from written,
      show Tally.ofOutcomes sofar.reads = _ from readBack]
    rfl
  rw [report]
  refine ⟨by rw [List.length_append, count, count_read], rfl, ?_, ?_, ?_, here.holds.stage⟩
  · intro mode index below
    cases mode with
    | write =>
      obtain ⟨m, found, facts⟩ := wrote index below
      refine ⟨m, ?_, facts⟩
      rw [first, Nat.zero_add, List.getElem?_append_left (count ▸ below)]
      exact found
    | read =>
      obtain ⟨m, found, facts⟩ := read index below
      refine ⟨m, ?_, facts⟩
      rw [first, List.getElem?_append_right (by omega), count, Nat.add_sub_cancel_left]
      exact found
  · rw [after]
    exact congrArg (List.filter _) (Store.files_withTarget _ _)
  · rw [after]
    exact Store.dirs_withTarget _ _

/-- What a run comes to if nothing fails, with so many workers. -/
structure RunsExactly (plan : Plan) (store : Store) (size workers : Nat) : Prop where
  positive : 0 < workers
  threads : plan.settings.threads = .scalar (.int workers)
  paths : plan.settings.objectPaths = .ok (plan.settings.objects workers)
  /-- While the run is in its read phase each object holds the random bytes over and over. -/
  between (choices : List (Choice reliable)) (s : State reliable (Except Fault Tally × Session))
    (admitted : ∀ choice ∈ choices, (calm plan).Admits choice)
    (played : play choices (opening plan store) = some s) (reading : s.world.stage = .readPhase) :
    Between plan workers size s.world
  /-- Whichever step is taken whenever there is a choice, the run comes to an exact report. -/
  reported : Inevitable (calm plan).Step
    (fun s => ∃ report session, s.main = .done (.ok report, session) ∧
      ExactReport plan store workers size s.world report) (opening plan store)

/-- On a reliable storage, if nothing fails, a run of a valid plan is exact on every schedule.  Its
random bytes have to be so few that they can be drawn, and its limit one that a wait can have. -/
theorem fault_free_run_exact {plan : Plan} {size : Nat} (valid : plan.Valid size)
    (drawn : plan.bufferSize ≤ Storage.greatestSize)
    (possible : Conductor.checkLimit plan.settings.timeout = .ok ()) (store : Store) :
    ∃ workers, RunsExactly plan store size workers := by
  obtain ⟨piece, rfl, rfl, rfl⟩ := Piece.of_checked (B := reliable) (Run.check_eq_ok.2 valid) store
  have outline := faultFree_outline piece drawn possible
  refine ⟨piece.workers, piece.threads.2, piece.threads.1,
    Settings.objectPaths_of_count piece.counted, ?_, ?_⟩
  · rintro choices ⟨main, w⟩ admitted played reading
    -- wherever the main thread asks, its question was fine, and it is done in the last stage only
    have ends := outline.ends_of_play admitted played
    cases main with
    | ask op next => exact (ends.1 w .refl).1 reading
    | done r =>
      obtain ⟨result, session⟩ := r
      cases result with
      | error fault => exact False.elim ends
      | ok report =>
        have stage := (exactReport_of_reported piece ends).stage
        rw [show w.stage = .readPhase from reading] at stage
        cases stage
  · rw [← watched_step piece.plan piece.workers piece.size]
    apply (outline.inevitable fun _ _ fine => fine.2).mono
    rintro s ⟨⟨result, session⟩, done, reached⟩
    cases result with
    | error fault => exact False.elim reached
    | ok report => exact ⟨report, session, done, exactReport_of_reported piece reached⟩

/-! ## Two workers and one thread -/

/-- Two workers that share one thread, with more bytes than fit in the buffer. -/
def oneThread : Plan where
  storageName := "memory"
  settings := { path := "target/", threads := .int 2, ioSize := .text "5", timeout := .int 1 }
  poolSize := some 1
  bufferSize := 2

/-- A store without the target, but with an object of an earlier run and another one. -/
def strayStore : Store where
  files := [("target/io-benchmark-1", ⟨#[1, 2, 3]⟩), ("notes", ⟨#[4]⟩)]

theorem one_thread_exact :
    oneThread.Valid 5 ∧ oneThread.bufferSize ≤ Storage.greatestSize ∧
      Conductor.checkLimit oneThread.settings.timeout = .ok () ∧
        ∃ workers, RunsExactly oneThread strayStore 5 workers := by
  have valid : oneThread.Valid 5 := Run.check_eq_ok.1 (by decide +kernel)
  have drawn : oneThread.bufferSize ≤ Storage.greatestSize := by decide
  have possible : Conductor.checkLimit oneThread.settings.timeout = .ok () := by decide +kernel
  exact ⟨valid, drawn, possible, fault_free_run_exact valid drawn possible strayStore⟩

/-! ## The bounds -/

/-- Where one list of decisions makes a run fail, it is not exact. -/
theorem not_exact_of_fails {plan : Plan} {store : Store} {choices : List (Choice reliable)}
    (admitted : ∀ choice ∈ choices, (calm plan).Admits choice)
    (fails : ((play choices (opening plan store)).any fun s => s.hasFailed) = true)
    (size workers : Nat) : ¬ RunsExactly plan store size workers := by
  intro runs
  obtain ⟨s, played, failed⟩ := (Option.any_eq_true _ _).1 fails
  have reported := not_failed_of_inevitable runs.reported
    (fun _ ⟨report, session, done, _⟩ => ⟨report, session, done⟩) admitted played
  rw [failed] at reported
  cases reported

/-- The same plan with a limit that passes the check and is longer than a wait can be. -/
def patientThread : Plan :=
  { oneThread with settings := { oneThread.settings with timeout := .int 10000000000 } }

/-- The limit is needed: with such a one a run fails if a worker is not done when the wait is made. -/
theorem overlong_limit_not_exact :
    ¬ ∀ (plan : Plan) (size : Nat) (store : Store), plan.Valid size →
      ∃ workers, RunsExactly plan store size workers := by
  intro exact
  obtain ⟨workers, runs⟩ := exact patientThread 5 {} (Run.check_eq_ok.1 (by decide +kernel))
  -- the main thread hands out its jobs and waits, before any worker has started
  let choices : List (Choice reliable) := List.replicate 14 (.conduct () (.ok ⟨#[7, 8]⟩) [0, 1])
  refine not_exact_of_fails ?_ (show ((play choices _).any _) = true by decide +kernel) 5 workers runs
  intro choice there
  rw [List.eq_of_mem_replicate there]
  exact ⟨fun _ => ⟨_, rfl⟩, fun possible => absurd possible (by decide +kernel)⟩

/-- The bound on the random bytes is needed, too: more of them than an index counts are refused. -/
theorem excessive_buffer_not_exact :
    ¬ ∀ (plan : Plan) (size : Nat) (store : Store), plan.Valid size →
      Conductor.checkLimit plan.settings.timeout = .ok () →
        ∃ workers, RunsExactly plan store size workers := by
  intro exact
  let plan : Plan := { oneThread with bufferSize := Storage.greatestSize + 1 }
  obtain ⟨workers, runs⟩ :=
    exact plan 5 {} (Run.check_eq_ok.1 (by decide +kernel)) (by decide +kernel)
  let choices : List (Choice reliable) :=
    List.replicate 10 (.conduct () (.error (.plain .overflow .silent)) [])
  refine not_exact_of_fails ?_ (show ((play choices _).any _) = true by decide +kernel) 5 workers runs
  intro choice there
  rw [List.eq_of_mem_replicate there]
  exact ⟨fun few => absurd few (by decide), fun _ => rfl⟩

end Concert
end StoreMeter
