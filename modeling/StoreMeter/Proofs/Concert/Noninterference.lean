import StoreMeter.Proofs.Concert.Orderly
import StoreMeter.Proofs.Concert.Runs
/-
# Proofs.Concert.Noninterference — a phase in any order, and its jobs one after another

The workers of a phase go on in any order, one question at a time.  On a reliable storage each of
them comes to what it would come to alone, with the object that it finds at its path (`Comes`).  So
nothing but the durations can tell in which order they went on: their outcomes and the storage
that they leave are those of the jobs one after another, in the order of the workers
(`Crew.inTurn`).
-/
namespace StoreMeter

/-- An outcome without the time that the work took. -/
def Outcome.timeless (o : Outcome) : Outcome :=
  { o with measurement := o.measurement.map fun m => { m with duration := .int 0 } }

namespace Concert

open Storage.Memory (Stream Store)

/-! ## Results -/

/-- The results of all tasks without the times, as far as the tasks have ended. -/
def World.results (w : World reliable) : List (Option (Except Fault Outcome)) :=
  w.tasks.map fun task => match task.status with
    | .ended result => some (result.map Outcome.timeless)
    | _ => none

/-- The tasks have come to these results and left this storage, but for the times. -/
structure Alike (w : World reliable) (turn : List (Except Fault Outcome) × Store) : Prop where
  outcomes : w.results = turn.1.map fun result => some (result.map Outcome.timeless)
  files (path : String) : Store.get? w.shared.store path = turn.2.get? path
  dirs : w.shared.store.dirs = turn.2.dirs

/-! ## Phases -/

/-- The workers of a phase, with what they all use. -/
structure Crew where
  settings : Settings
  workers : Nat
  /-- How many of them can work at the same time. -/
  room : Nat
  size : Nat
  payload : ByteArray
  bufferSize : Int
  /-- The set of late workers that they look into, if there is one. -/
  late : Option Nat
  some_room : 0 < room
  given : 0 < payload.size
  buffer : 0 < bufferSize

namespace Crew

/-- The path of a worker. -/
def path (crew : Crew) (index : Nat) : String := crew.settings.objectPath index

/-- The paths of all workers. -/
def paths (crew : Crew) : List String := crew.settings.objects crew.workers

/-- The job of a worker. -/
def job (crew : Crew) : Mode → Nat → Worker.Job Stream
  | .write, index => Phase.writeJob crew.settings crew.size crew.payload crew.late index
  | .read, index => Phase.readJob crew.settings crew.size crew.bufferSize crew.late index

/-- All jobs are submitted; none of them has begun, and nobody is late. -/
def start (crew : Crew) (mode : Mode) (store : Store) : World reliable where
  shared := { store, lates := [.nobody] }
  pools := [crew.room]
  tasks := (List.range crew.workers).map fun index => ⟨0, .queued (crew.job mode index)⟩

/-- The answers to a worker that has the storage to itself, while the clock shows one of these times
after another. -/
def solo (times : Nat → Binary64) :
    (op : Worker.Op Stream) → Store × Nat → op.Answer × (Store × Nat)
  | .storage op, (store, shown) =>
    let (reply, store) := Storage.Memory.answer op store
    (reply, store, shown)
  | .clock, (store, shown) => (times shown, store, shown + 1)
  | .log _, before => ((), before)
  | .isLate _ _, before => (false, before)

/-- The jobs one after another: what each of them comes to, and the storage that they leave. -/
def inTurn (crew : Crew) (mode : Mode) (times : Nat → Binary64) (store : Store) :
    List (Except Fault Outcome) × Store :=
  let (results, store, _) :=
    ((List.range crew.workers).mapM (m := Prog (Worker.effects Stream)) (crew.job mode)).runWith
      (solo times) (store, 0)
  (results, store)

theorem path_mem {crew : Crew} {index : Nat} (below : index < crew.workers) :
    crew.path index ∈ crew.paths :=
  Settings.objectPath_mem below

theorem mem_paths {crew : Crew} {path : String} (member : path ∈ crew.paths) :
    ∃ index < crew.workers, crew.path index = path := by
  obtain ⟨index, below, same⟩ := List.mem_map.1 member
  exact ⟨index, List.mem_range.1 below, same⟩

theorem path_injective {crew : Crew} {index other : Nat} (same : crew.path index = crew.path other) :
    index = other :=
  crew.settings.objectPath_injective same

/-! ## One worker -/

/-- What a worker comes to, and what it leaves at its path, where it found this object. -/
def Comes (crew : Crew) (mode : Mode) (index : Nat) (found : Option ByteArray)
    (r : Except Fault Outcome) (left : Option ByteArray) : Prop :=
  match mode with
  | .write => Exactly .write index crew.size r ∧
    ∃ data, left = some data ∧ Repeats crew.payload data crew.size
  | .read => Finds (crew.path index) crew.size crew.bufferSize index r found ∧ left = found

theorem job_comes (crew : Crew) (mode : Mode) (index : Nat) (l : Own) :
    (crew.job mode index).Ends (aloneEnv mode (crew.path index))
      (fun r l' => crew.Comes mode index l.object r l'.object) l := by
  cases mode with
  | write => exact writeJob_alone crew.given crew.late l
  | read => exact readJob_finds crew.buffer crew.late l

end Crew

theorem Exactly.timeless {mode : Mode} {index : Int} {size : Nat} {r : Except Fault Outcome}
    (h : Exactly mode index size r) :
    r.map Outcome.timeless = .ok ⟨index, mode, some ⟨mode, .int 0, size⟩, []⟩ := by
  obtain ⟨m, rfl, bytes, rfl⟩ := h
  rw [← bytes]
  rfl

theorem Finds.alike {path : String} {size : Nat} {bufferSize index : Int}
    {r r' : Except Fault Outcome} {found : Option ByteArray}
    (h : Finds path size bufferSize index r found) (h' : Finds path size bufferSize index r' found) :
    r.map Outcome.timeless = r'.map Outcome.timeless := by
  cases found with
  | none => exact congrArg (Except.map Outcome.timeless) (h.trans h'.symm)
  | some data =>
    by_cases fits : min bufferSize size ≤ Storage.greatestSize
    · rw [Finds, if_pos fits] at h h'
      rw [h.timeless, h'.timeless]
    · rw [Finds, if_neg fits] at h h'
      rw [h, h']

namespace Crew

variable {crew : Crew} {mode : Mode}

/-- Two workers that find the same come to the same, but for the time, and leave the same. -/
theorem Comes.alike {index : Nat} {found left left' : Option ByteArray}
    {r r' : Except Fault Outcome} (h : crew.Comes mode index found r left)
    (h' : crew.Comes mode index found r' left') :
    r.map Outcome.timeless = r'.map Outcome.timeless ∧ left = left' := by
  cases mode with
  | write =>
    obtain ⟨exactly, data, rfl, repeats⟩ := h
    obtain ⟨exactly', data', rfl, repeats'⟩ := h'
    refine ⟨?_, congrArg some (repeats.unique repeats')⟩
    rw [exactly.timeless, exactly'.timeless]
  | read => exact ⟨h.1.alike h'.1, h.2.trans h'.2.symm⟩

/-! ## In any order -/

/-- The contracts of the workers, by the storage before the phase. -/
def apart (crew : Crew) (mode : Mode) (before : Store) : Protocol Stream where
  Local := Own
  env k := aloneEnv mode (crew.path k)
  Goal k r l := crew.Comes mode k (before.get? (crew.path k)) r l.object
  Quiet _ _ := False

/-- Each worker sees its own object. -/
def look (crew : Crew) (mode : Mode) (before : Store) : View reliable (crew.apart mode before) :=
  fun k shared l => k < crew.workers ∧ Sees (crew.path k) shared l

theorem apart_lawful (before : Store) :
    Protocol.Lawful (crew.apart mode before) (crew.look mode before) where
  own view _ answered := by
    obtain ⟨l', answers, sees⟩ := view.2.asks answered
    exact ⟨l', answers, view.1, sees⟩
  others other _ allowed answered seen := by
    refine ⟨seen.1, seen.2.besides answered (get?_of_answer allowed answered fun _ same => ?_)⟩
    exact other (path_injective same)

/-- What holds while the workers of a phase go on. -/
structure Kept (crew : Crew) (mode : Mode) (before : Store) (w : World reliable) : Prop where
  sound : (crew.apart mode before).Sound (crew.look mode before) w
  count : w.tasks.length = crew.workers
  pools : w.pools = [crew.room]
  pool : ∀ task ∈ w.tasks, task.pool = 0
  goes : Goes w.shared.clock
  rest : Store.without w.shared.store crew.paths = before.without crew.paths

theorem kept_start (before : Store) : crew.Kept mode before (crew.start mode before) where
  sound := by
    intro k status found
    obtain ⟨task, there, rfl⟩ := Option.map_eq_some_iff.1 found
    rw [start, List.getElem?_map] at there
    obtain ⟨index, place, rfl⟩ := Option.map_eq_some_iff.1 there
    obtain ⟨below, rfl⟩ := List.getElem?_eq_some_iff.1 place
    rw [List.getElem_range]
    have sees : Sees (crew.path k) (crew.start mode before).shared
        ⟨before.get? (crew.path k), none⟩ := ⟨rfl, nofun, rfl⟩
    exact ⟨_, ⟨by rwa [List.length_range] at below, sees⟩,
      crew.job_comes mode k ⟨before.get? (crew.path k), none⟩⟩
  count := by rw [start, List.length_map, List.length_range]
  pools := rfl
  pool := by
    intro task member
    obtain ⟨index, -, rfl⟩ := List.mem_map.1 member
    rfl
  goes := ⟨.zero false, rfl⟩
  rest := rfl

theorem Kept.moves {before : Store} {w w' : World reliable} (h : crew.Kept mode before w)
    (moves : w.Moves w') : crew.Kept mode before w' where
  sound := h.sound.step (apart_lawful before) moves.step
  count := moves.step.length.trans h.count
  pools := moves.step.pools.trans h.pools
  pool := by
    obtain ⟨k, _, status, -, -, tasks⟩ := moves.step.tasks
    intro task member
    rw [tasks] at member
    obtain ⟨old, there, same⟩ := World.pool_setStatus member
    exact same.trans (h.pool old there)
  goes := moves.step.goes rfl h.goes
  rest := by
    refine h.sound.shared
      (Q := fun shared => Store.without shared.store crew.paths = before.without crew.paths)
      (fun _ view allowed answered => ?_) h.rest moves.step
    exact (rest_of_answer allowed answered fun _ => path_mem view.1).trans h.rest

theorem Kept.runs {before : Store} {w w' : World reliable} (h : crew.Kept mode before w)
    (runs : w.Runs w') : crew.Kept mode before w' :=
  Terms.Stable.runs (fun _ _ moves kept => Kept.moves kept moves) runs h

theorem Kept.moves_on {before : Store} {w : World reliable} (h : crew.Kept mode before w)
    (active : ¬ w.Still) : ∃ w', w.Moves w' := by
  refine w.moves_on () rfl h.goes h.pools crew.some_room h.pool (fun k found => ?_) active
  obtain ⟨_, -, quiet⟩ := h.sound k _ found
  exact quiet

/-- At the end every worker has come to what it comes to alone. -/
theorem Kept.comes {before : Store} {w : World reliable} (h : crew.Kept mode before w)
    (still : w.Still) {index : Nat} (below : index < crew.workers) :
    ∃ r, w.status? index = some (.ended r) ∧
      crew.Comes mode index (before.get? (crew.path index)) r
        (Store.get? w.shared.store (crew.path index)) := by
  obtain ⟨result, found⟩ := still.all (h.count ▸ below)
  obtain ⟨l, view, goal⟩ := h.sound index _ found
  refine ⟨result, found, ?_⟩
  rw [view.2.object]
  exact goal

/-! ## One after another -/

/-- The surroundings of workers that have the storage to themselves, one after another. -/
def turnEnv : Surroundings (Worker.effects Stream) (Shared reliable) where
  Allows _ _ := True
  Answers shared op reply shared' := ∃ time, shared.answer () time op = some (reply, shared')

/-- What the first workers of a phase have come to, and the storage after them. -/
structure Turned (crew : Crew) (mode : Mode) (before : Store) (results : List (Except Fault Outcome))
    (after : Store) : Prop where
  comes {index : Nat} {r : Except Fault Outcome} (there : results[index]? = some r) :
    crew.Comes mode index (before.get? (crew.path index)) r (after.get? (crew.path index))
  untouched {index : Nat} (later : results.length ≤ index) :
    after.get? (crew.path index) = before.get? (crew.path index)
  rest : after.without crew.paths = before.without crew.paths

/-- A worker in its turn comes to what it comes to alone, and touches its own object only. -/
theorem job_turns (index : Nat) {shared : Shared reliable} (trusted : shared.lates = [.nobody]) :
    (crew.job mode index).Ends turnEnv (fun r shared' =>
      crew.Comes mode index (Store.get? shared.store (crew.path index)) r
          (Store.get? shared'.store (crew.path index)) ∧
        Store.without shared'.store [crew.path index] =
          Store.without shared.store [crew.path index] ∧ shared'.lates = [.nobody]) shared := by
  have sees : Sees (crew.path index) shared ⟨Store.get? shared.store (crew.path index), none⟩ :=
    ⟨rfl, nofun, trusted⟩
  refine (Prog.Ends.embed turnEnv (fun l shared' => Sees (crew.path index) shared' l ∧
    Store.without shared'.store [crew.path index] =
      Store.without shared.store [crew.path index]) ?_ ?_ (crew.job_comes mode index _)
    ⟨sees, rfl⟩).mono ?_
  · intro _ _ _ _ _
    trivial
  · rintro l shared' op reply after ⟨sees, rest⟩ allowed ⟨time, answered⟩
    obtain ⟨l', answers, sees'⟩ := sees.asks answered
    have kept := rest_of_answer allowed answered fun _ => List.mem_singleton.2 rfl
    exact ⟨l', answers, sees', kept.trans rest⟩
  · rintro r shared' ⟨l, comes, sees, rest⟩
    refine ⟨?_, rest, sees.trusted⟩
    rw [sees.object]
    exact comes

/-- One more worker. -/
theorem Turned.next {before after after' : Store} {results : List (Except Fault Outcome)}
    (h : crew.Turned mode before results after) (below : results.length < crew.workers)
    {r : Except Fault Outcome}
    (comes : crew.Comes mode results.length (after.get? (crew.path results.length)) r
      (after'.get? (crew.path results.length)))
    (rest : after'.without [crew.path results.length] = after.without [crew.path results.length]) :
    crew.Turned mode before (results ++ [r]) after' := by
  have others {index : Nat} (other : index ≠ results.length) :
      after'.get? (crew.path index) = after.get? (crew.path index) := by
    have apart : crew.path index ∉ [crew.path results.length] := fun member =>
      other (path_injective (List.mem_singleton.1 member))
    exact Store.get?_of_rest rest apart
  refine ⟨fun {index r'} there => ?_, fun {index} later => ?_, ?_⟩
  · by_cases last : index = results.length
    · subst last
      rw [List.getElem?_concat_length] at there
      cases there
      rw [← h.untouched (Nat.le_refl _)]
      exact comes
    · rw [others last]
      refine h.comes ?_
      have short := (List.getElem?_eq_some_iff.1 there).1
      rw [List.length_append, List.length_singleton] at short
      rwa [List.getElem?_append_left (by omega)] at there
  · rw [List.length_append, List.length_singleton] at later
    rw [others (by omega), h.untouched (by omega)]
  · -- what is left without one path is left without all of them
    have wider (store : Store) : (store.without [crew.path results.length]).without crew.paths =
        store.without crew.paths := by
      have member := path_mem below
      simp only [Store.without, List.filter_filter]
      congr 1
      refine List.filter_congr fun entry _ => ?_
      by_cases same : entry.1 = crew.path results.length
      · simp [same, member]
      · simp [same]
    rw [← wider, rest, wider, h.rest]

theorem turn_ends (crew : Crew) (mode : Mode) (before : Store) :
    ((List.range crew.workers).mapM (m := Prog (Worker.effects Stream)) (crew.job mode)).Ends
      turnEnv (fun results shared =>
        results.length = crew.workers ∧ crew.Turned mode before results shared.store)
      { store := before, lates := [.nobody] } := by
  refine (Prog.ends_mapM (crew.job mode) (fun past results rest shared =>
    past ++ rest = List.range crew.workers ∧ results.length = past.length ∧
      shared.lates = [.nobody] ∧ crew.Turned mode before results shared.store) ?_ _ _ ?_).mono ?_
  · rintro past results index rest shared ⟨all, count, trusted, turned⟩
    have place : (past ++ index :: rest)[past.length]? = some index := by
      rw [List.getElem?_append_right (Nat.le_refl _), Nat.sub_self]
      rfl
    rw [all] at place
    obtain ⟨below, same⟩ := List.getElem?_eq_some_iff.1 place
    rw [List.getElem_range, ← count] at same
    rw [List.length_range, ← count] at below
    subst same
    refine (job_turns _ trusted).mono fun r shared' h => ⟨?_, ?_, h.2.2, ?_⟩
    · rw [List.append_assoc]
      exact all
    · rw [List.length_append, List.length_append, count]
      rfl
    · exact turned.next below h.1 h.2.1
  · exact ⟨rfl, rfl, rfl, nofun, fun _ => rfl, rfl⟩
  · rintro results shared ⟨all, count, -, turned⟩
    rw [List.append_nil] at all
    rw [all, List.length_range] at count
    exact ⟨count, turned⟩

/-- Times that never go back. -/
def Ascending (times : Nat → Binary64) : Prop :=
  ∀ n, Binary64.le (times n) (times (n + 1)) = true

/-- What the workers share after so many times were shown. -/
def after (times : Nat → Binary64) : Store × Nat → Shared reliable
  | (store, 0) => { store, lates := [.nobody] }
  | (store, shown + 1) => { store, clock := some (times shown), lates := [.nobody] }

theorem solo_answers {times : Nat → Binary64} (ascending : Ascending times)
    (op : Worker.Op Stream) (t : Store × Nat) :
    turnEnv.Answers (after times t) op (solo times op t).1 (after times (solo times op t).2) := by
  obtain ⟨store, shown⟩ := t
  cases op with
  | storage op =>
    refine ⟨times 0, ?_⟩
    cases shown <;> rfl
  | clock =>
    refine ⟨times shown, ?_⟩
    have ticks : steady (after times (store, shown)).clock (times shown) = true := by
      cases shown with
      | zero =>
        -- a time with a later one is a time
        refine Binary64.le_refl fun same => ?_
        have later := ascending 0
        rw [same] at later
        cases later
      | succ shown => exact ascending shown
    cases shown <;> exact if_pos ticks
  | log entry =>
    refine ⟨times 0, ?_⟩
    cases shown <;> rfl
  | isLate late index =>
    refine ⟨times 0, ?_⟩
    cases shown <;> cases late <;> rfl

theorem inTurn_turned (crew : Crew) (mode : Mode) {times : Nat → Binary64}
    (ascending : Ascending times) (before : Store) :
    (crew.inTurn mode times before).1.length = crew.workers ∧
      crew.Turned mode before (crew.inTurn mode times before).1
        (crew.inTurn mode times before).2 := by
  have turned := Prog.Ends.runWith (solo times) (after times) (solo_answers ascending)
    (t := (before, 0)) (turn_ends crew mode before)
  have store (t : Store × Nat) : (after times t).store = t.1 := by
    obtain ⟨store, _ | shown⟩ := t <;> rfl
  rw [store] at turned
  exact turned

/-! ## In any order as in turn -/

/-- A phase that has ended, and its jobs in turn on a storage that holds the same. -/
theorem Kept.alike {before before' : Store} {w : World reliable} (h : crew.Kept mode before w)
    (still : w.Still) (files : ∀ path, before.get? path = before'.get? path)
    (dirs : before.dirs = before'.dirs) {times : Nat → Binary64} (ascending : Ascending times) :
    Alike w (crew.inTurn mode times before') := by
  obtain ⟨count, turned⟩ := crew.inTurn_turned mode ascending before'
  -- worker by worker, both orders come to the same
  have same {index : Nat} (below : index < crew.workers) :
      ∃ r r', w.status? index = some (.ended r) ∧
        (crew.inTurn mode times before').1[index]? = some r' ∧
        r.map Outcome.timeless = r'.map Outcome.timeless ∧
        Store.get? w.shared.store (crew.path index) =
          (crew.inTurn mode times before').2.get? (crew.path index) := by
    obtain ⟨r, ended, comes⟩ := h.comes still below
    have there := List.getElem?_eq_getElem (count ▸ below)
    have comes' := turned.comes there
    rw [← files] at comes'
    exact ⟨r, _, ended, there, comes.alike comes'⟩
  refine ⟨List.ext_getElem? fun index => ?_, fun path => ?_, ?_⟩
  · by_cases below : index < crew.workers
    · obtain ⟨r, r', ended, there, timeless, -⟩ := same below
      obtain ⟨task, found, status⟩ := Option.map_eq_some_iff.1 ended
      rw [World.results, List.getElem?_map, found, List.getElem?_map, there]
      simp only [Option.map_some, status, timeless]
    · rw [List.getElem?_eq_none, List.getElem?_eq_none]
      · rw [List.length_map, count]
        omega
      · rw [World.results, List.length_map, h.count]
        omega
  · by_cases member : path ∈ crew.paths
    · obtain ⟨index, below, rfl⟩ := mem_paths member
      obtain ⟨-, -, -, -, -, left⟩ := same below
      exact left
    · calc Store.get? w.shared.store path = before.get? path := Store.get?_of_rest h.rest member
        _ = before'.get? path := files path
        _ = _ := (Store.get?_of_rest turned.rest member).symm
  · calc w.shared.store.dirs = before.dirs := Store.dirs_of_rest h.rest
      _ = before'.dirs := dirs
      _ = _ := (Store.dirs_of_rest turned.rest).symm

/-- The workers of a phase do not disturb each other. -/
structure Undisturbed (crew : Crew) (store : Store) : Prop where
  /-- In whatever order they go on, all of them come to their end. -/
  ends (mode : Mode) : Inevitable World.Moves World.Still (crew.start mode store)
  /-- Then their outcomes and the storage are those of the jobs one after another. -/
  alike (mode : Mode) {w : World reliable} (runs : (crew.start mode store).Runs w)
    (still : w.Still) {times : Nat → Binary64} (ascending : Ascending times) :
    Alike w (crew.inTurn mode times store)
  /-- So it is with readers after the writers. -/
  again {w w' : World reliable} (writes : (crew.start .write store).Runs w) (still : w.Still)
    (reads : (crew.start .read w.shared.store).Runs w') (still' : w'.Still)
    {times times' : Nat → Binary64} (ascending : Ascending times) (ascending' : Ascending times') :
    Alike w' (crew.inTurn .read times' (crew.inTurn .write times store).2)

/-- On a reliable storage the workers of a phase, in whatever order they go on, come to the outcomes
and leave the storage to which they come one after another. -/
theorem workers_undisturbed (crew : Crew) (store : Store) : crew.Undisturbed store where
  ends mode := World.ends_at_last (P := crew.Kept mode store) (fun _ _ moves kept => kept.moves moves)
    (fun _ kept active => kept.moves_on active) (kept_start store)
  alike mode _ runs still _ ascending :=
    ((kept_start store).runs runs).alike still (fun _ => rfl) rfl ascending
  again {w w'} writes still reads still' times times' ascending ascending' := by
    have written := ((kept_start store).runs writes).alike still (fun _ => rfl) rfl ascending
    exact ((kept_start w.shared.store).runs reads).alike still' written.files written.dirs ascending'

/-! ## Two workers -/

/-- Two workers with three bytes each, in blocks of two. -/
def pair : Crew where
  settings := { path := "target/" }
  workers := 2
  room := 2
  size := 3
  payload := ⟨#[7, 8]⟩
  bufferSize := 2
  late := some 0
  some_room := by decide
  given := by decide
  buffer := by decide

/-- The two of them in turn, question by question. -/
def alternately : List (Choice reliable) :=
  [.start 0, .start 1] ++
    (List.replicate 11 [1, 0]).flatten.map fun k => .work k () (.zero false)

/-- Two writers that take turns, one of them over an object that is there already. -/
theorem pair_undisturbed : ∃ w, (pair.start .write ⟨[("target/io-benchmark-1", ⟨#[1]⟩)], []⟩).Runs w ∧
    w.Still ∧ Alike w (pair.inTurn .write (fun _ => .zero false)
      ⟨[("target/io-benchmark-1", ⟨#[1]⟩)], []⟩) := by
  have facts : (play alternately ⟨Prog.done (), pair.start .write
      ⟨[("target/io-benchmark-1", ⟨#[1]⟩)], []⟩⟩).map (fun s => s.world.tasks.all
        fun task => task.status.isEnded) = some true := by decide +kernel
  obtain ⟨s, played, all⟩ := Option.map_eq_some_iff.1 facts
  have still : s.world.Still := by
    intro k status found
    obtain ⟨task, there, rfl⟩ := Option.map_eq_some_iff.1 found
    exact List.all_eq_true.1 all task (List.mem_of_getElem? there)
  have runs := Terms.runs_of_play played
  have ascending : Ascending fun _ => .zero false := fun _ => rfl
  exact ⟨s.world, runs, still, (workers_undisturbed pair _).alike .write runs still ascending⟩

end Crew

end Concert
end StoreMeter
