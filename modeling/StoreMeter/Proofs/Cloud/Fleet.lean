import StoreMeter.Proofs.Cloud.Clients
import StoreMeter.Proofs.Concert.Orderly
/-
# Proofs.Cloud.Fleet — the workers of a phase side by side at a consistent service

The workers of a phase have a key each, and what one of them asks changes no other key
(`fleet_lawful`).  So each comes to what it comes to alone.  Together they keep the target, the open
uploads of all keys that no writer has begun with, and, while objects are read, everything
(`Serving.moves`).
-/
namespace StoreMeter
namespace Concert

open Storage (Operation)
open Storage.S3 (ConsistentService Holdings Located Stash objectKey objectKey_injective perform
  stashEnv)

variable {service : ConsistentService} {partSize : Nat}

/-! ## One worker among others -/

/-- What a worker sees of its key, of the clock and of the late workers. -/
structure Meets (bucket key : String) (shared : Shared (cloud service partSize))
    (l : Client service.Body) : Prop where
  has : (service.holds shared.store).Has bucket
  stash : (service.holds shared.store).stash bucket key = l.stash
  timely : ∀ time, l.since = some time → Shown shared.clock time
  trusted : shared.lates = [.nobody]

section
variable {bucket key : String} {mode : Mode} {shared shared' : Shared (cloud service partSize)}
variable {l : Client service.Body}

/-- What comes of an operation that keeps to the key of a worker. -/
theorem Meets.performs (meets : Meets bucket key shared l)
    {op : Operation (Storage.S3.Stream service.Body)}
    (allowed : (perform partSize op).Ends (stashEnv service.home mode bucket key)
      (fun _ _ => True) l.stash) {reply : op.Answer} {store : service.State}
    (answer : (perform partSize op).runWith service.answers shared.store = (reply, store)) :
    (perform partSize op).Comes (stashEnv service.home mode bucket key) l.stash reply
        ((service.holds store).stash bucket key) ∧
      (service.holds shared.store).Only (service.holds store) bucket key ∧
        Stash.Kept mode ((service.holds shared.store).stash bucket key)
          ((service.holds store).stash bucket key) := by
  rw [← meets.stash] at allowed ⊢
  exact service.performs (Storage.S3.Ends.onStash allowed.comes meets.has) answer

variable {op : Worker.Op (Storage.S3.Stream service.Body)}
variable {reply : op.Answer} {fate : Unit} {time : Binary64}

/-- A worker that asks meets what its surroundings say. -/
theorem Meets.asks (meets : Meets bucket key shared l)
    (allowed : (clientEnv service.home mode partSize bucket key).Allows l op)
    (answered : shared.answer fate time op = some (reply, shared')) :
    ∃ l', (clientEnv service.home mode partSize bucket key).Answers l op reply l' ∧
      Meets bucket key shared' l' := by
  cases op with
  | storage op =>
    obtain ⟨store, answer, rfl⟩ := Shared.answer_storage.1 answered
    obtain ⟨comes, only, -⟩ := meets.performs allowed answer
    exact ⟨{ l with stash := (service.holds store).stash bucket key }, ⟨_, comes, rfl⟩,
      only.has ▸ meets.has, rfl, meets.timely, meets.trusted⟩
  | clock =>
    obtain ⟨ticks, rfl, rfl⟩ := Shared.answer_clock.1 answered
    refine ⟨{ l with since := some reply }, ⟨rfl, steady_of_shown meets.timely ticks⟩,
      meets.has, meets.stash, ?_, meets.trusted⟩
    intro _ told
    cases told
    exact shown_now ticks
  | log entry =>
    cases answered
    exact ⟨l, rfl, meets⟩
  | isLate late index =>
    cases answered
    refine ⟨l, ⟨?_, rfl⟩, meets⟩
    rw [Shared.isLate, meets.trusted]
    cases late <;> rfl

/-- A question of a worker changes its key only, and that only as its direction lets it. -/
theorem Meets.changes (meets : Meets bucket key shared l)
    (allowed : (clientEnv service.home mode partSize bucket key).Allows l op)
    (answered : shared.answer fate time op = some (reply, shared')) :
    (service.holds shared.store).Only (service.holds shared'.store) bucket key ∧
      Stash.Kept mode ((service.holds shared.store).stash bucket key)
        ((service.holds shared'.store).stash bucket key) := by
  cases op with
  | storage op =>
    obtain ⟨store, answer, rfl⟩ := Shared.answer_storage.1 answered
    exact (meets.performs allowed answer).2
  | clock =>
    obtain ⟨-, -, rfl⟩ := Shared.answer_clock.1 answered
    exact ⟨⟨rfl, fun _ => rfl⟩, Stash.kept_refl mode _⟩
  | log entry | isLate late index =>
    cases answered
    exact ⟨⟨rfl, fun _ => rfl⟩, Stash.kept_refl mode _⟩

/-- What leaves the key of a worker alone leaves what it meets. -/
theorem Meets.besides (meets : Meets bucket key shared l)
    (answered : shared.answer fate time op = some (reply, shared')) {other : String}
    (only : (service.holds shared.store).Only (service.holds shared'.store) bucket other)
    (apart : key ≠ other) : Meets bucket key shared' l where
  has := only.has ▸ meets.has
  stash := (only.stash fun same => apart (congrArg Prod.snd same)).trans meets.stash
  timely earlier seen := by
    rcases clock_of_answer answered with same | ⟨ticks, now⟩
    · rw [same]
      exact meets.timely earlier seen
    · rw [now]
      exact (meets.timely earlier seen).later ticks
  trusted := (Shared.lates_answer answered).trans meets.trusted

end

/-! ## Contracts of the tasks -/

/-- Where a run works: at a target in a bucket of the service. -/
structure Site (piece : Piece (cloud service partSize)) where
  bucket : String
  key : String
  located : Located piece.plan.settings.path bucket key
  parted : 0 < partSize

namespace Site

variable {piece : Piece (cloud service partSize)} (site : Site piece)

/-- The key of a worker. -/
def place (index : Nat) : String := objectKey site.key index

/-- What is kept under the key of a worker. -/
def stash (state : service.State) (index : Nat) : Stash service.Body :=
  (service.holds state).stash site.bucket (site.place index)

/-- The object of a worker is whole, and its key has the uploads that it had before the run. -/
def Whole (payload : ByteArray) (state : service.State) (index : Nat) : Prop :=
  HoldsWhole (site.stash piece.store index).uploads payload piece.size (site.stash state index)

/-- The contracts of the tasks in a phase: each comes to its one outcome, and a writer leaves its
object whole.  There are none for the tasks of the other phase, which ask nothing. -/
def fleet (payload : ByteArray) (mode : Mode) : Protocol (Storage.S3.Stream service.Body) where
  Local := Client service.Body
  env k := Prog.provided (clientEnv service.home mode partSize site.bucket
    (site.place (workerOf piece.workers k))) (modeOf piece.workers k = mode)
  Goal k r l := modeOf piece.workers k = mode →
    Exactly mode (workerOf piece.workers k) piece.size r ∧ (mode = .write → HoldsWhole
      (site.stash piece.store (workerOf piece.workers k)).uploads payload piece.size l.stash)
  Quiet _ _ := False

/-- Each worker of a phase sees its own key. -/
def outlook (payload : ByteArray) (mode : Mode) :
    View (cloud service partSize) (site.fleet payload mode) :=
  fun k shared l => modeOf piece.workers k = mode →
    Meets site.bucket (site.place (workerOf piece.workers k)) shared l

variable {site} {payload : ByteArray} {mode : Mode}

theorem place_injective {index other : Nat} (same : site.place index = site.place other) :
    index = other :=
  objectKey_injective same

/-- Nobody touches the key of another worker. -/
theorem fleet_lawful : Protocol.Lawful (site.fleet payload mode) (site.outlook payload mode) where
  own view allowed answered := by
    obtain ⟨l', answers, meets⟩ := (view allowed.1).asks allowed.2 answered
    exact ⟨l', answers, fun _ => meets⟩
  others {k j _ _ _ _ _ _ _ _} other view allowed answered seen := by
    intro mine
    obtain ⟨only, -⟩ := (view allowed.1).changes allowed.2 answered
    refine (seen mine).besides answered only fun same => other ?_
    exact workerOf_injective (mine.trans allowed.1.symm) (place_injective same)

/-! ## A phase while its workers work -/

/-- The workers of a phase keep their contracts.  The target stays, and so do the uploads of all
keys that no writer works on; while objects are read, each of them is whole. -/
structure Serving (site : Site piece) (payload : ByteArray) (mode : Mode)
    (w : World (cloud service partSize)) : Prop where
  sound : (site.fleet payload mode).Sound (site.outlook payload mode) w
  prepared : (service.holds w.shared.store).Prepared site.bucket site.key
  elsewhere {bucket key : String} (other : ∀ index < piece.workers, index < w.tasks.length →
      (bucket, key) ≠ (site.bucket, site.place index)) :
    ((service.holds w.shared.store).stash bucket key).uploads =
      ((service.holds piece.store).stash bucket key).uploads
  whole (reads : mode = .read) {index : Nat} (below : index < piece.workers) :
    site.Whole payload w.shared.store index

section
variable {w w' : World (cloud service partSize)}

/-- A phase of writers begins on a service with the target and without tasks. -/
theorem Serving.start (none : w.tasks.length = 0)
    (prepared : (service.holds w.shared.store).Prepared site.bucket site.key)
    (tidy : (service.holds piece.store).Tidy (service.holds w.shared.store)) :
    site.Serving payload .write w where
  sound := by
    intro k status found
    rw [World.status?, List.eq_nil_of_length_eq_zero none] at found
    cases found
  prepared := prepared
  elsewhere _ := tidy _ _
  whole := nofun

/-- A step of a worker leaves all that the others need. -/
theorem Serving.moves (h : site.Serving payload mode w) (moves : w.Moves w') :
    site.Serving payload mode w' where
  sound := h.sound.step fleet_lawful moves.step
  prepared := by
    refine h.sound.shared (Q := fun shared => (service.holds shared.store).Prepared site.bucket
      site.key) (fun _ view allowed answered => ?_) h.prepared moves.step
    obtain ⟨only, kept⟩ := (view allowed.1).changes allowed.2 answered
    exact h.prepared.grows (only.grows kept)
  elsewhere {bucket key} other := by
    have count : w'.tasks.length = w.tasks.length := moves.step.length
    rw [count] at other
    refine h.sound.shared (Q := fun shared =>
      ((service.holds shared.store).stash bucket key).uploads =
        ((service.holds piece.store).stash bucket key).uploads)
      (fun submitted view allowed answered => ?_) (h.elsewhere other) moves.step
    obtain ⟨only, kept⟩ := (view allowed.1).changes allowed.2 answered
    refine (only.uploads kept fun writes here => ?_).trans (h.elsewhere other)
    -- a writer works at the key of its own number
    have writer := modeOf_write.1 (allowed.1.trans writes)
    rw [workerOf, if_pos writer] at here
    exact other _ writer submitted here
  whole := by
    intro reads index below
    subst reads
    refine h.sound.shared (Q := fun shared => site.Whole payload shared.store index)
      (fun _ view allowed answered => ?_) (h.whole rfl below) moves.step
    obtain ⟨only, kept⟩ := (view allowed.1).changes allowed.2 answered
    exact (h.whole rfl below).same (only.same kept)

/-- Neither the tasks nor what they meet has changed. -/
theorem Serving.same (h : site.Serving payload mode w) (tasks : w'.tasks = w.tasks)
    (holds : service.holds w'.shared.store = service.holds w.shared.store)
    (clock : w'.shared.clock = w.shared.clock) (lates : w'.shared.lates = w.shared.lates) :
    site.Serving payload mode w' where
  sound := by
    refine h.sound.mono tasks fun k l view mine => ?_
    have meets := view mine
    exact ⟨holds ▸ meets.has, holds ▸ meets.stash, clock ▸ meets.timely, lates.trans meets.trusted⟩
  prepared := holds ▸ h.prepared
  elsewhere := by
    rw [tasks, holds]
    exact h.elsewhere
  whole reads index below := by
    unfold Whole stash
    rw [holds]
    exact h.whole reads below

/-- A new worker with its own job. -/
theorem Serving.submit (h : site.Serving payload mode w) {index : Nat}
    (more : index < piece.workers)
    (count : w.tasks.length = first piece.workers mode + index)
    (trusted : w.shared.lates = [.nobody])
    {job : Worker.Job (Storage.S3.Stream service.Body)}
    (does : ∀ l : Client service.Body,
      (mode = .write → l.stash.uploads = (site.stash piece.store index).uploads) →
      (mode = .read → ∃ data, l.stash.object = some data ∧ data.size = piece.size) →
      job.Ends (clientEnv service.home mode partSize site.bucket (site.place index))
        (fun r l => Exactly mode index piece.size r ∧ (mode = .write → HoldsWhole
          (site.stash piece.store index).uploads payload piece.size l.stash)) l) :
    site.Serving payload mode (w.submit 0 job) where
  sound := by
    have placed := count ▸ placed_at mode more
    refine h.sound.submit ⟨⟨site.stash w.shared.store index, none⟩, fun _ => ?_, ?_⟩
    · rw [placed.2]
      exact ⟨h.prepared.has, rfl, nofun, trusted⟩
    · unfold fleet
      dsimp only
      rw [placed.1, placed.2]
      refine ((does _ (fun writes => ?_) fun reads => ?_).provided rfl).mono fun r l h _ => h
      · -- no writer has begun at this key
        subst writes
        refine h.elsewhere fun other _ begun same => ?_
        have met := place_injective (congrArg Prod.snd same)
        rw [count, first] at begun
        omega
      · obtain ⟨⟨data, there, repeats⟩, -⟩ := h.whole reads more
        exact ⟨data, there, repeats.count⟩
  prepared := h.prepared
  elsewhere other := by
    refine h.elsewhere fun index below begun => other index below ?_
    rw [World.submit, List.length_append]
    exact begun.trans_le (Nat.le_add_right _ _)
  whole := h.whole

/-- After the writers have ended all objects are whole, and readers can come. -/
theorem Serving.again (h : site.Serving payload .write w) (still : w.Still)
    (all : w.tasks.length = piece.workers) : site.Serving payload .read w where
  sound k status found := by
    obtain ⟨result, rfl⟩ := still.ended found
    have writer : k < piece.workers := all ▸ w.status?_isSome.2 (by rw [found]; rfl)
    -- the tasks so far are those of writers, which have no contract any more
    have other : modeOf piece.workers k ≠ .read := by
      rw [modeOf_write.2 writer]
      nofun
    obtain ⟨l, -, -⟩ := h.sound k _ found
    exact ⟨l, fun mine => absurd mine other, fun mine => absurd mine other⟩
  prepared := h.prepared
  elsewhere := h.elsewhere
  whole _ {index} below := by
    obtain ⟨result, found⟩ := still.all (all ▸ below)
    have writer := modeOf_write.2 below
    obtain ⟨l, view, goal⟩ := h.sound index _ found
    have meets := view writer
    have whole := (goal writer).2 rfl
    rw [workerOf, if_pos below] at meets whole
    unfold Whole stash
    rw [meets.stash]
    exact whole

/-- After both phases no upload is left, as the keys of all workers are seen to. -/
theorem Serving.tidy (h : site.Serving payload .read w) :
    (service.holds piece.store).Tidy (service.holds w.shared.store) := by
  intro bucket key
  by_cases mine : ∃ index < piece.workers, (bucket, key) = (site.bucket, site.place index)
  · obtain ⟨index, below, same⟩ := mine
    cases same
    exact (h.whole rfl below).2
  · exact h.elsewhere fun index below _ same => mine ⟨index, below, same⟩

/-- A task that has ended has come to its outcome. -/
theorem Serving.exactly (h : site.Serving payload mode w) {index : Nat}
    (more : index < piece.workers) {result : Except Fault Outcome}
    (ended : w.status? (first piece.workers mode + index) = some (.ended result)) :
    Exactly mode index piece.size result := by
  obtain ⟨directed, worker⟩ := placed_at mode more
  obtain ⟨l, -, goal⟩ := h.sound _ _ ended
  have exactly := (goal directed).1
  rwa [worker] at exactly

/-- No task is taken back. -/
theorem Serving.kept (h : site.Serving payload mode w) (k : Nat) :
    w.status? k ≠ some .takenBack := by
  intro found
  obtain ⟨_, -, quiet⟩ := h.sound k _ found
  exact quiet

end

end Site

end Concert
end StoreMeter
