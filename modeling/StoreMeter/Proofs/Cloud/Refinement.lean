import StoreMeter.Proofs.Cloud.Fleet
import StoreMeter.Proofs.Cloud.Keeper
import StoreMeter.Proofs.Concert.FaultFree
/-
# Proofs.Cloud.Refinement — a run at a consistent service reports what a run in memory does

A run at a target in a bucket goes through the same points as a run in memory: the target is made
unless it is there, all objects are whole between the phases, and at the end they are deleted
(`service_outline`).  So both deliver the same points and no error, whatever the shape of the key is
and in however many parts the objects are sent, and the service is left without an object of the run
and without an upload that the run has opened.
-/
namespace StoreMeter
namespace Concert

open Storage.S3 (ConsistentService Holdings Located objectKey isPresent_tells makeDirs_prepares
  delete_clears)
open Storage.Memory (Store)

variable {service : ConsistentService} {partSize : Nat} {piece : Piece (cloud service partSize)}

namespace Site

/-! ## The assertion -/

/-- So many objects are gone, the bucket is there, and no upload of the run is open. -/
structure Cleared (site : Site piece) (objects : Nat) (state : service.State) : Prop where
  has : (service.holds state).Has site.bucket
  tidy : (service.holds piece.store).Tidy (service.holds state)
  gone {index : Nat} (below : index < objects) : (site.stash state index).object = none

/-- What holds at a point besides what holds at all of them. -/
def Now (site : Site piece) (w : World (cloud service partSize)) : Point → Prop
  | .target .write _ | .looked .write _ false =>
    (service.holds piece.store).Tidy (service.holds w.shared.store)
  | .looked .write _ true => (service.holds w.shared.store).Prepared site.bucket site.key ∧
    (service.holds piece.store).Tidy (service.holds w.shared.store)
  | .target .read sofar | .looked .read sofar true => site.Serving sofar.payload .read w
  | .placing mode sofar _ => site.Serving sofar.payload mode w ∧
    (mode = .write → 0 < sofar.payload.size)
  | .taking mode sofar unfinished => site.Serving sofar.payload mode w ∧ unfinished = []
  | .closing _ => w.Still ∧ site.Cleared 0 w.shared.store
  | .clearing _ objects => w.Still ∧ site.Cleared objects w.shared.store
  | .finished _ => w.Still ∧ site.Cleared piece.workers w.shared.store
  | .missing _ _ _ _ | .looked .read _ false => False

/-- The assertion at each point. -/
structure At (site : Site piece) (pt : Point) (w : World (cloud service partSize)) : Prop
    extends Smooth piece pt w where
  now : site.Now w pt

variable {site : Site piece} {pt pt' : Point} {w w' : World (cloud service partSize)}

theorem Now.moves (layout : Layout piece pt w) (h : site.Now w pt) (moves : w.Moves w') :
    site.Now w' pt := by
  -- where no task has started or all are still, nothing can move
  have count := layout.tasks
  unfold Now at h ⊢
  split at h
  · exact absurd moves (still_of_none count).no_moves
  · exact absurd moves (still_of_none count).no_moves
  · exact absurd moves (still_of_none count).no_moves
  · exact h.moves moves
  · exact h.moves moves
  · exact ⟨h.1.moves moves, h.2⟩
  · exact ⟨h.1.moves moves, h.2⟩
  · exact absurd moves h.1.no_moves
  · exact absurd moves h.1.no_moves
  · exact absurd moves h.1.no_moves
  · exact h
  · exact h

/-- An answer that leaves the tasks, the late workers and the clock as they are. -/
theorem At.go (h : site.At pt w) (tasks : w'.tasks = w.tasks)
    (lates : w'.shared.lates = w.shared.lates) (clock : w'.shared.clock = w.shared.clock)
    (same : ∀ mode, pt'.sofar.outcomes mode = pt.sofar.outcomes mode) (now : site.Now w' pt') :
    site.At pt' w' where
  toSmooth := h.toSmooth.go tasks lates clock same
  now := now

/-! ## From point to point -/

/-- While objects are read the target is there, as one of them at least is. -/
theorem Serving.there {payload : ByteArray} (h : site.Serving payload .read w) :
    (service.holds w.shared.store).There site.bucket site.key := by
  obtain ⟨⟨data, object, -⟩, -⟩ := h.whole rfl piece.threads.2
  exact h.prepared.there 0 (Option.isSome_iff_exists.2 ⟨data, object⟩)

/-- The job of a worker comes to its one outcome. -/
theorem job_exactly {mode : Mode} {sofar : Progress} (index : Nat)
    (given : mode = .write → 0 < sofar.payload.size) (l : Client service.Body)
    (fresh : mode = .write → l.stash.uploads = (site.stash piece.store index).uploads)
    (there : mode = .read → ∃ data, l.stash.object = some data ∧ data.size = piece.size) :
    (piece.job sofar mode index).Ends
      (clientEnv service.home mode partSize site.bucket (site.place index))
      (fun r l => Exactly mode index piece.size r ∧ (mode = .write → HoldsWhole
        (site.stash piece.store index).uploads sofar.payload piece.size l.stash)) l := by
  have split := (site.located.object index).split
  cases mode with
  | write =>
    refine (writeJob_client split site.parted (given rfl) (some 0) piece.size l).mono ?_
    rintro r l' ⟨exactly, whole⟩
    exact ⟨exactly, fun _ => fresh rfl ▸ whole⟩
  | read =>
    obtain ⟨data, object, count⟩ := there rfl
    refine (readJob_client split piece.valid.buffer (some 0) object count).mono ?_
    intro r l' exactly
    exact ⟨exactly, nofun⟩

/-- One more object is gone. -/
theorem Cleared.delete {index : Nat} {state after : service.State} {reply : Except Fault Unit}
    (h : site.Cleared index state)
    (answer : (cloud service partSize).answer () (.delete (piece.plan.settings.objectPath index))
      state = (reply, after)) : reply = .ok () ∧ site.Cleared (index + 1) after := by
  obtain ⟨rfl, only, tidy, gone⟩ :=
    service.performs (delete_clears (site.located.object index).split h.has) answer
  refine ⟨rfl, only.has ▸ h.has, h.tidy.trans tidy, fun {other} below => ?_⟩
  by_cases same : other = index
  · subst same
    exact gone
  · -- the objects before this one are gone already
    have apart : (site.bucket, site.place other) ≠ (site.bucket, objectKey site.key index) :=
      fun met => same (place_injective (congrArg Prod.snd met))
    exact (congrArg _ (only.stash apart)).trans (h.gone (by omega))

/-- The service says whether the target is there, and it is there when objects are read. -/
theorem At.look {mode : Mode} {sofar : Progress} (h : site.At (.target mode sofar) w)
    {reply : Except Fault Bool} {state : service.State}
    (answer : (cloud service partSize).answer () (.isPresent piece.plan.settings.path)
      w.shared.store = (reply, state)) :
    ∃ present, reply = .ok present ∧
      site.At (.looked mode sofar present) (w.withStore state) := by
  obtain ⟨same, present, rfl, tells⟩ :=
    service.performs (isPresent_tells site.located.split) answer
  refine ⟨present, rfl, h.go rfl rfl rfl (fun _ => rfl) ?_⟩
  cases mode with
  | write =>
    have tidy : (service.holds piece.store).Tidy (service.holds w.shared.store) := h.now
    rw [← same] at tidy
    cases present with
    | true =>
      have there := tells.1 rfl
      rw [← same] at there
      exact ⟨⟨there.1, .inl there⟩, tidy⟩
    | false => exact tidy
  | read =>
    have serving : site.Serving sofar.payload .read w := h.now
    -- an object of the first phase is there
    obtain rfl : present = true := tells.2 serving.there
    exact serving.same rfl same rfl rfl

/-- The random bytes for all writers are drawn once. -/
theorem At.draw {sofar : Progress} {payload : ByteArray}
    (h : site.At (.looked .write sofar true) w) (none : w.tasks.length = 0)
    (planned : (payload.size : Int) = piece.plan.bufferSize) :
    site.At (.placing .write { sofar with payload } 0)
      { w with drawn := w.drawn ++ [payload] } := by
  have buffer := piece.valid.buffer
  obtain ⟨prepared, tidy⟩ := h.now
  refine h.go rfl rfl rfl (fun mode => by cases mode <;> rfl) ⟨?_, fun _ => ?_⟩
  · exact .start none prepared tidy
  · show 0 < payload.size
    omega

/-- After the last outcome of a writer the readers find all objects. -/
theorem At.again {sofar : Progress} {unfinished : List Nat}
    (h : site.At (.taking .write sofar unfinished) w)
    (count : w.tasks.length = 0 + piece.workers) (all : sofar.writes.length = piece.workers) :
    site.At (.target .read sofar) (w.enter .readPhase) := by
  have still : w.Still := still_of_gathered h.gathered all (by omega)
  have serving : site.Serving sofar.payload .write w := h.now.1
  refine h.go rfl rfl rfl (fun _ => rfl) ?_
  exact (serving.again still (by omega)).same rfl rfl rfl rfl

/-- After the last outcome of a reader closing the pool takes nothing back. -/
theorem At.close {sofar : Progress} {unfinished : List Nat}
    (h : site.At (.taking .read sofar unfinished) w)
    (layout : Layout piece (.taking .read sofar unfinished) w)
    (all : sofar.writes.length = piece.workers) (all_read : sofar.reads.length = piece.workers) :
    site.At (.closing sofar) (w.takeBack 0) := by
  have count : w.tasks.length = piece.workers + sofar.reads.length := by
    rw [layout.tasks, Point.tasks, first, all_read]
  have still : w.Still := still_of_gathered h.gathered all count.le
  have serving : site.Serving sofar.payload .read w := h.now.1
  refine ⟨h.toSmooth.takeBack 0, still.takeBack 0, serving.prepared.has, serving.tidy, ?_⟩
  exact fun none => absurd none (Nat.not_lt_zero _)

/-! ## The outline -/

theorem service_outline (site : Site piece)
    (drawn : piece.plan.bufferSize ≤ Storage.greatestSize)
    (possible : Conductor.checkLimit piece.plan.settings.timeout = .ok ()) :
    Outline piece (lively piece.plan) False site.At where
  stable here moves := ⟨here.holds.toSmooth.moves rfl moves, here.holds.now.moves here.layout moves⟩
  start := ⟨.start piece, fun _ _ => rfl⟩
  look here answer := by
    obtain ⟨present, rfl, looked⟩ := here.holds.look answer
    exact looked
  make {sofar w fate reply store} here answer := by
    obtain ⟨rfl, prepared, tidy⟩ :=
      service.performs (makeDirs_prepares site.located.split) answer
    have tidy' : (service.holds piece.store).Tidy (service.holds w.shared.store) := here.holds.now
    exact here.holds.go rfl rfl rfl (fun _ => rfl) ⟨prepared, tidy'.trans tidy⟩
  lost here := here.holds.now
  draw here permitted := by
    obtain ⟨payload, rfl⟩ := permitted.1 drawn
    exact here.holds.draw here.layout.tasks
  keep {sofar w} here := by
    have serving : site.Serving sofar.payload .read w := here.holds.now
    exact here.holds.go rfl rfl rfl (fun _ => rfl) ⟨serving, nofun⟩
  submit {mode sofar jobs w} more here := by
    obtain ⟨serving, given⟩ := here.holds.now
    refine ⟨here.holds.toSmooth.submit, ?_, given⟩
    exact serving.submit more here.layout.tasks here.holds.trusted (job_exactly jobs given)
  wait here permitted _ := by
    obtain rfl := permitted.2 possible
    exact here.holds.go rfl rfl rfl (fun _ => rfl) ⟨here.holds.now.1, rfl⟩
  take {mode sofar unfinished w index result} turn more _ here ended := by
    obtain ⟨serving, all_done⟩ := here.holds.now
    refine ⟨here.holds.toSmooth.take turn (serving.exactly more ended) ended, ?_, all_done⟩
    rwa [Progress.payload_add]
  cancel _ _ named here _ := by
    -- the wait named nobody
    rw [here.holds.now.2] at named
    cases named
  late _ _ here := here.holds.now.elim
  pass _ _ _ here := here.holds.now.elim
  again all here := here.holds.again here.layout.tasks all
  close all all_read here := here.holds.close here.layout all all_read
  clean here := here.holds.go rfl rfl rfl (fun _ => rfl) here.holds.now
  delete {sofar index w fate reply store} more here answer := by
    obtain ⟨still, cleared⟩ := here.holds.now
    obtain ⟨rfl, cleared⟩ := cleared.delete answer
    refine ⟨fun _ failed => (by cases failed), ?_⟩
    exact here.holds.go rfl rfl rfl (fun _ => rfl) ⟨still, cleared⟩
  finish here := here.holds.go rfl rfl rfl (fun _ => rfl) here.holds.now
  fine_opening _ answerable := .inl answerable
  fine _ answerable := .inl answerable
  fine_draw _ := .inl (draw_easy () piece _).calm
  fine_wait here := (wait_or_moves () rfl here.layout here.holds.goes
    here.holds.now.1.kept).imp_left World.Easy.calm
  lenient failed := failed.elim
  fate := ⟨()⟩
  permits := ⟨.ok .empty, [], fun _ => ⟨_, rfl⟩, fun _ => rfl⟩

end Site

/-! ## The same report -/

/-- What a run at a service and a run in memory have in common: on every schedule both come to a
report with one measurement of all bytes for each worker and direction, and no error. -/
structure RunsAlike (service : ConsistentService) (partSize : Nat) (plan : Plan)
    (bucket key : String) (state : service.State) (store : Store) (size workers : Nat) : Prop where
  positive : 0 < workers
  threads : plan.settings.threads = .scalar (.int workers)
  /-- The storages may differ in their names. -/
  inMemory (name : String) : Delivers (B := reliable) { plan with storageName := name } store
    (planned workers size) fun _ => True
  /-- Afterwards the bucket has no object of a worker, and there is no upload that was not open
  before. -/
  atService : Delivers (B := cloud service partSize) plan state (planned workers size) fun w =>
    (∀ index < workers,
      ((service.holds w.shared.store).stash bucket (objectKey key index)).object = none) ∧
        (service.holds state).Tidy (service.holds w.shared.store)

theorem memory_delivers (piece : Piece reliable)
    (drawn : piece.plan.bufferSize ≤ Storage.greatestSize)
    (possible : Conductor.checkLimit piece.plan.settings.timeout = .ok ()) :
    Delivers piece.plan piece.store (planned piece.workers piece.size) fun _ => True :=
  Smooth.delivers (faultFree_outline piece drawn possible) (fun _ _ h => h.toSmooth) rfl
    (fun _ _ fine => fine.2) fun _ _ _ => trivial

theorem service_delivers (site : Site piece)
    (drawn : piece.plan.bufferSize ≤ Storage.greatestSize)
    (possible : Conductor.checkLimit piece.plan.settings.timeout = .ok ()) :
    Delivers piece.plan piece.store (planned piece.workers piece.size) fun w =>
      (∀ index < piece.workers, (site.stash w.shared.store index).object = none) ∧
        (service.holds piece.store).Tidy (service.holds w.shared.store) := by
  refine Smooth.delivers (site.service_outline drawn possible) (fun _ _ h => h.toSmooth) rfl
    (fun _ _ fine => fine) ?_
  intro sofar w h
  obtain ⟨-, cleared⟩ := h.now
  exact ⟨fun index below => cleared.gone below, cleared.tidy⟩

/-- At every target in a bucket, with parts of whatever size, a consistent service serves a run as a
storage in memory does.  The random bytes have to be so few that they can be drawn, and the limit one
that a wait can have. -/
theorem service_refines_memory {plan : Plan} {size : Nat} {bucket key : String}
    (valid : plan.Valid size) (drawn : plan.bufferSize ≤ Storage.greatestSize)
    (possible : Conductor.checkLimit plan.settings.timeout = .ok ())
    (located : Located plan.settings.path bucket key) (parted : 0 < partSize)
    (state : service.State) (store : Store) :
    ∃ workers, RunsAlike service partSize plan bucket key state store size workers := by
  obtain ⟨piece, rfl, rfl, rfl⟩ :=
    Piece.of_checked (B := cloud service partSize) (Run.check_eq_ok.2 valid) state
  refine ⟨piece.workers, piece.threads.2, piece.threads.1, fun name => ?_, ?_⟩
  · -- the check does not look at the name of the storage
    exact memory_delivers ⟨{ piece.plan with storageName := name }, store, piece.size,
      piece.workers, piece.checked, piece.counted⟩ drawn possible
  · exact service_delivers ⟨bucket, key, located, parted⟩ drawn possible

/-! ## Two workers, and more parts than one -/

/-- Two workers that share one thread, with more bytes than fit in the buffer or in a part. -/
def inBucket : Plan where
  storageName := "native_s3"
  settings :=
    { path := "s3://bucket/runs", threads := .int 2, ioSize := .text "5", timeout := .int 1 }
  poolSize := some 1
  bufferSize := 2

theorem keeper_refines_memory :
    inBucket.Valid 5 ∧ inBucket.bufferSize ≤ Storage.greatestSize ∧
      Conductor.checkLimit inBucket.settings.timeout = .ok () ∧
        Located inBucket.settings.path "bucket" "runs" ∧ 0 < 3 ∧
          ∃ workers, RunsAlike Storage.S3.Keeper.service 3 inBucket "bucket" "runs"
            (.new ["bucket"]) {} 5 workers := by
  have valid : inBucket.Valid 5 := Run.check_eq_ok.1 (by decide +kernel)
  have drawn : inBucket.bufferSize ≤ Storage.greatestSize := by decide
  have possible : Conductor.checkLimit inBucket.settings.timeout = .ok () := by decide +kernel
  have located : Located inBucket.settings.path "bucket" "runs" :=
    ⟨by decide, by decide, by decide⟩
  exact ⟨valid, drawn, possible, located, by decide,
    service_refines_memory valid drawn possible located (by decide) _ _⟩

/-! ## The bounds -/

/-- Where one list of decisions makes a run at a service fail, it is not like one in memory. -/
theorem not_alike_of_fails {plan : Plan} {bucket key : String} {state : service.State}
    {choices : List (Choice (cloud service partSize))}
    (admitted : ∀ choice ∈ choices, (calm plan).Admits choice)
    (fails : ((play choices (opening plan state)).any fun s => s.hasFailed) = true) (store : Store)
    (size workers : Nat) :
    ¬ RunsAlike service partSize plan bucket key state store size workers := by
  intro runs
  obtain ⟨s, played, failed⟩ := (Option.any_eq_true _ _).1 fails
  have reported := not_failed_of_inevitable runs.atService
    (fun _ ⟨report, session, done, _⟩ => ⟨report, session, done⟩) admitted played
  rw [failed] at reported
  cases reported

/-- The same plan with a limit that passes the check and is longer than a wait can be. -/
def patientBucket : Plan :=
  { inBucket with settings := { inBucket.settings with timeout := .int 10000000000 } }

/-- The limit is needed: with such a one a run at a service fails if a worker is not done when the wait
is made. -/
theorem overlong_limit_not_alike :
    ¬ ∀ (service : ConsistentService) (partSize : Nat) (plan : Plan) (size : Nat)
      (bucket key : String) (state : service.State) (store : Store), plan.Valid size →
      Located plan.settings.path bucket key → 0 < partSize →
        ∃ workers, RunsAlike service partSize plan bucket key state store size workers := by
  intro alike
  obtain ⟨workers, runs⟩ := alike Storage.S3.Keeper.service 3 patientBucket 5 "bucket" "runs"
    (.new ["bucket"]) {} (Run.check_eq_ok.1 (by decide +kernel)) ⟨by decide, by decide, by decide⟩
    (by decide)
  -- the main thread hands out its jobs and waits, before any worker has started
  let choices : List (Choice (cloud Storage.S3.Keeper.service 3)) :=
    List.replicate 14 (.conduct () (.ok ⟨#[7, 8]⟩) [0, 1])
  refine not_alike_of_fails ?_ (show ((play choices _).any _) = true by decide +kernel) {} 5 workers
    runs
  intro choice there
  rw [List.eq_of_mem_replicate there]
  exact ⟨fun _ => ⟨_, rfl⟩, fun possible => absurd possible (by decide +kernel)⟩

/-- The bound on the random bytes is needed, too: more of them than an index counts are refused. -/
theorem excessive_buffer_not_alike :
    ¬ ∀ (service : ConsistentService) (partSize : Nat) (plan : Plan) (size : Nat)
      (bucket key : String) (state : service.State) (store : Store), plan.Valid size →
      Conductor.checkLimit plan.settings.timeout = .ok () →
      Located plan.settings.path bucket key → 0 < partSize →
        ∃ workers, RunsAlike service partSize plan bucket key state store size workers := by
  intro alike
  let plan : Plan := { inBucket with bufferSize := Storage.greatestSize + 1 }
  obtain ⟨workers, runs⟩ := alike Storage.S3.Keeper.service 3 plan 5 "bucket" "runs"
    (.new ["bucket"]) {} (Run.check_eq_ok.1 (by decide +kernel)) (by decide +kernel)
    ⟨by decide, by decide, by decide⟩ (by decide)
  let choices : List (Choice (cloud Storage.S3.Keeper.service 3)) :=
    List.replicate 10 (.conduct () (.error (.plain .overflow .silent)) [])
  refine not_alike_of_fails ?_ (show ((play choices _).any _) = true by decide +kernel) {} 5 workers
    runs
  intro choice there
  rw [List.eq_of_mem_replicate there]
  exact ⟨fun few => absurd few (by decide), fun _ => rfl⟩

end Concert
end StoreMeter
