import StoreMeter.Proofs.Concert.Calm
import StoreMeter.Proofs.Concert.Parts
/-
# Proofs.Concert.Endurance — a run comes to its report whatever its workers meet

The calls of the workers may fail as is written, and the workers may stay behind.  The run comes to its
report all the same, if random bytes can be drawn and the limit of its waits is one that a wait can have.
No worker touches the target, so it is there when it is looked at again.  And a wait with a limit can
always end: by its limit, if not before.  A wait without a limit ends when all tasks have ended, and until
then one of them can go on, as nothing was taken back.
-/
namespace StoreMeter
namespace Concert

open Storage (Operation)
open Storage.Memory (Store)

variable {script : Script}

/-! ## Terms -/

/-- The terms on which random bytes can be drawn.  A wait may name whomever it likes. -/
def drawable : Terms (scripted script) where
  permits random _ := ∃ bytes, random = .ok bytes
  Fine _ _ := True

/-- The same terms, where in addition the main thread can always be answered; only if it waits without a
limit it may be that a worker has to go on first. -/
def limited (script : Script) (limit : Value) : Terms (scripted script) where
  permits := (drawable : Terms (scripted script)).permits
  Fine w op := drawable.Answerable w op ∨ limit = .null ∧ ∃ w', w.Moves w'

theorem World.Easy.drawable {w : World (scripted script)} {op : Conductor.Op Handle}
    (h : w.Easy op) : drawable.Answerable w op := by
  obtain ⟨fate, bytes, answered⟩ := h
  exact ⟨fate, .ok bytes, [], ⟨_, rfl⟩, answered⟩

/-! ## The assertion -/

/-- The target of a run is there. -/
def TargetThere (piece : Piece (scripted script)) (w : World (scripted script)) : Prop :=
  Store.isPresent (Scene.store w.shared.store) piece.plan.settings.path = true

/-- A run without a limit has taken no task back. -/
def NobodyBack (piece : Piece (scripted script)) (w : World (scripted script)) : Prop :=
  piece.plan.settings.timeout = .null → ∀ k, w.status? k ≠ some .takenBack

/-- What holds at a point besides what holds at all of them. -/
def EnduresNow (piece : Piece (scripted script)) (w : World (scripted script)) : Point → Prop
  | .target .write _ | .looked .write _ false => NobodyBack piece w
  | .looked .read _ false => False
  | .target .read _ | .looked _ _ true | .placing _ _ _ => NobodyBack piece w ∧ TargetThere piece w
  | .taking _ _ unfinished => NobodyBack piece w ∧ TargetThere piece w ∧
    (piece.plan.settings.timeout = .null → unfinished = [])
  | .missing _ _ _ _ => TargetThere piece w ∧ piece.plan.settings.timeout ≠ .null
  | .closing _ | .clearing _ _ | .finished _ => True

/-- The assertion at each point. -/
structure Endures (piece : Piece (scripted script)) (pt : Point) (w : World (scripted script)) :
    Prop where
  separate : (separate piece.plan).Sound (unwatched script piece.plan) w
  goes : Goes w.shared.clock
  now : EnduresNow piece w pt

variable {piece : Piece (scripted script)} {pt : Point} {w w' : World (scripted script)}

/-! ## Steps of tasks -/

/-- No step takes a task back. -/
theorem World.Step.takenBack {S : Type} {B : Backend S} {w w' : World B} (h : w.Step w') {k : Nat}
    (taken : w'.status? k = some .takenBack) : w.status? k = some .takenBack := by
  -- each step leaves a task that runs or one that has ended
  cases h with
  | start here | finish here | answer here answered =>
    rw [World.status?_setStatus] at taken
    split at taken
    · obtain ⟨_, -, other⟩ := Option.map_eq_some_iff.1 taken
      cases other
    · exact taken

/-- An operation on the path of a worker leaves the target as it is. -/
theorem On.target {settings : Settings} {index : Nat} {op : Operation Handle}
    (own : On (settings.objectPath index) op) (scene : Scene) :
    (Scene.answer script op scene).2.store.isPresent settings.path =
      scene.store.isPresent settings.path := by
  have beside : SameAt settings.path (Scene.answer script op scene).2 scene :=
    own.beside (settings.objectPath_ne_path index).symm
  rw [Store.isPresent, Store.isPresent, beside.object, own.dirs]

theorem TargetThere.moves (sound : (separate piece.plan).Sound (unwatched script piece.plan) w)
    (h : TargetThere piece w) (moves : w.Moves w') : TargetThere piece w' := by
  let Q (shared : Shared (scripted script)) : Prop :=
    Store.isPresent (Scene.store shared.store) piece.plan.settings.path = true
  have there : Q w.shared := h
  -- workers ask about the paths of their objects only, none of which is the target
  refine sound.shared (Q := Q) (fun {k shared' l op reply fate time} _ _ allowed answered => ?_) there
    moves.step
  cases op with
  | storage op =>
    obtain ⟨store, answer, rfl⟩ := Shared.answer_storage.1 answered
    have left : (Scene.answer script op w.shared.store).2 = store := congrArg Prod.snd answer
    exact left ▸ (On.target allowed _).trans there
  | clock =>
    obtain ⟨-, -, rfl⟩ := Shared.answer_clock.1 answered
    exact h
  | log _ | isLate _ _ =>
    cases answered
    exact h

theorem NobodyBack.moves (h : NobodyBack piece w) (moves : w.Moves w') : NobodyBack piece w' :=
  fun forever k taken => h forever k (moves.step.takenBack taken)

theorem Endures.moves (h : Endures piece pt w) (moves : w.Moves w') : Endures piece pt w' where
  separate := h.separate.step (separate_lawful script piece.plan) moves.step
  goes := moves.step.goes rfl h.goes
  now := by
    have now := h.now
    unfold EnduresNow at now ⊢
    split at now
    · exact now.moves moves
    · exact now.moves moves
    · exact now
    · exact ⟨now.1.moves moves, now.2.moves h.separate moves⟩
    · exact ⟨now.1.moves moves, now.2.moves h.separate moves⟩
    · exact ⟨now.1.moves moves, now.2.moves h.separate moves⟩
    · exact ⟨now.1.moves moves, now.2.1.moves h.separate moves, now.2.2⟩
    · exact ⟨now.1.moves h.separate moves, now.2⟩
    · trivial
    · trivial
    · trivial

/-! ## From point to point -/

/-- An answer that leaves the tasks and the clock as they are. -/
theorem Endures.go {pt' : Point} (h : Endures piece pt w) (tasks : w'.tasks = w.tasks)
    (clock : w'.shared.clock = w.shared.clock) (now : EnduresNow piece w' pt') :
    Endures piece pt' w' where
  separate := h.separate.mono tasks fun _ _ _ => trivial
  goes := by
    rw [clock]
    exact h.goes
  now := now

theorem NobodyBack.same (h : NobodyBack piece w) (tasks : w'.tasks = w.tasks) :
    NobodyBack piece w' := by
  intro forever k
  rw [World.status?, tasks]
  exact h forever k

/-- The storage says whether the target is there, and it is there when objects are read. -/
theorem Endures.look {mode : Mode} {sofar : Progress} (h : Endures piece (.target mode sofar) w)
    (tasks : w'.tasks = w.tasks) (clock : w'.shared.clock = w.shared.clock)
    (store : Scene.store w'.shared.store = Scene.store w.shared.store) :
    Endures piece (.looked mode sofar
      (Store.isPresent (Scene.store w.shared.store) piece.plan.settings.path)) w' := by
  have same := congrArg (Store.isPresent · piece.plan.settings.path) store
  refine h.go tasks clock ?_
  cases mode with
  | write =>
    have nobody : NobodyBack piece w := h.now
    cases present : Store.isPresent (Scene.store w.shared.store) piece.plan.settings.path with
    | true => exact ⟨nobody.same tasks, same.trans present⟩
    | false => exact nobody.same tasks
  | read =>
    obtain ⟨nobody, there⟩ := h.now
    have present : Store.isPresent (Scene.store w.shared.store) piece.plan.settings.path = true :=
      there
    rw [present]
    exact ⟨nobody.same tasks, same.trans present⟩

/-- One more job. -/
theorem Endures.submit {mode : Mode} {sofar : Progress} {jobs : Nat}
    (h : Endures piece (.placing mode sofar jobs) w) (more : jobs < piece.workers)
    (count : w.tasks.length = first piece.workers mode + jobs) :
    Endures piece (.placing mode sofar (jobs + 1)) (w.submit 0 (piece.job sofar mode jobs)) where
  separate := by
    refine h.separate.submit ?_
    rw [count, ← piece.plan_workers]
    have isJob : IsJob piece.plan mode jobs (piece.job sofar mode jobs : Worker.Job Handle) := by
      cases mode with
      | write => exact ⟨_, _, rfl⟩
      | read => exact ⟨_, rfl⟩
    exact separate_of_isJob isJob (piece.plan_workers.symm ▸ more) w.shared
  goes := h.goes
  now := by
    refine ⟨fun forever k taken => ?_, h.now.2⟩
    rw [World.status?_submit] at taken
    split at taken
    · cases taken
    · exact h.now.1 forever k taken

/-- A wait ends with the submissions that it named, as it could be made. -/
theorem waitResult_ok {limit : Value} (possible : Conductor.checkLimit limit = .ok ())
    (unfinished : List Nat) : Conductor.waitResult unfinished limit = .ok unfinished := by
  unfold Conductor.waitResult
  split
  · rename_i none
    rw [List.isEmpty_iff.1 none]
  · rw [possible]
    rfl

/-- A wait with a limit can end at any time, by its limit. -/
theorem wait_answerable {limit : Value} (limited : limit ≠ .null) (w : World (scripted script))
    (pool : Nat) (submissions : List Nat) :
    drawable.Answerable w (.wait pool submissions limit) := by
  refine ⟨(), .ok .empty, submissions, ⟨_, rfl⟩, ?_⟩
  -- the wait may say that nobody is done
  have told : w.tells submissions submissions limit = true :=
    World.tells_iff.2 ⟨fun _ => id, fun _ there unnamed => absurd there unnamed,
      fun forever => absurd forever limited⟩
  simp only [World.answer, if_pos told]
  rfl

/-! ## The outline -/

theorem endurance_outline (piece : Piece (scripted script))
    (possible : Conductor.checkLimit piece.plan.settings.timeout = .ok ()) :
    Outline piece (limited script piece.plan.settings.timeout) False (Endures piece) where
  stable here moves := here.holds.moves moves
  start :=
    { separate := fun _ _ none => nomatch none
      goes := ⟨.zero false, rfl⟩
      now := fun _ _ none => nomatch none }
  look here answer := by
    cases answer
    exact here.holds.look rfl rfl rfl
  make {sofar w fate reply store} here answer := by
    cases answer
    refine here.holds.go rfl rfl ⟨NobodyBack.same here.holds.now rfl, ?_⟩
    exact Store.isPresent_addDir _ _
  lost here := here.holds.now
  draw {sofar w random unfinished} here permitted := by
    obtain ⟨payload, rfl⟩ := permitted
    exact fun _ => here.holds.go rfl rfl ⟨here.holds.now.1.same rfl, here.holds.now.2⟩
  keep here := here.holds.go rfl rfl here.holds.now
  submit more here := here.holds.submit more here.layout.tasks
  wait {mode sofar w random unfinished} here permitted tells := by
    rw [waitResult_ok possible]
    refine here.holds.go rfl rfl ⟨here.holds.now.1, here.holds.now.2, fun forever => ?_⟩
    -- without a limit a wait names nobody
    exact (World.tells_iff.1 tells).2.2 forever
  take _ _ _ here _ := here.holds.go rfl rfl here.holds.now
  cancel {mode sofar unfinished w index status} _ _ named here found := by
    obtain ⟨-, there, none⟩ := here.holds.now
    refine ⟨here.holds.separate.cancel found fun l agrees => ⟨l, agrees, trivial⟩, here.holds.goes,
      there, fun forever => ?_⟩
    rw [none forever] at named
    cases named
  late _ _ here := by
    obtain ⟨there, limited⟩ := here.holds.now
    exact ⟨here.holds.separate.mono rfl fun _ _ _ => trivial, here.holds.goes,
      fun forever => absurd forever limited, there, fun forever => absurd forever limited⟩
  pass _ _ _ here := by
    obtain ⟨there, limited⟩ := here.holds.now
    exact here.holds.go rfl rfl
      ⟨fun forever => absurd forever limited, there, fun forever => absurd forever limited⟩
  again _ here := here.holds.go rfl rfl ⟨here.holds.now.1.same rfl, here.holds.now.2.1⟩
  close _ _ here := ⟨here.holds.separate.takeBack 0 fun _ l agrees => ⟨l, agrees, trivial⟩,
    here.holds.goes, trivial⟩
  clean here := here.holds.go rfl rfl trivial
  delete {sofar index w fate reply store} _ here answer := by
    refine ⟨fun fault failed present _ => ?_, here.holds.go rfl rfl trivial⟩
    subst failed
    have told : (Storage.Memory.answer (.delete (piece.plan.settings.objectPath index))
        (Scene.store w.shared.store)).1 = .error fault := congrArg Prod.fst answer
    rw [Storage.Memory.delete_fault (Prod.ext told rfl)] at present
    cases present
  finish here := here.holds.go rfl rfl trivial
  fine_opening _ answerable := .inl answerable
  fine _ answerable := .inl answerable
  fine_draw _ := .inl (draw_easy () piece _).drawable
  fine_wait {mode sofar w} here := by
    by_cases forever : piece.plan.settings.timeout = .null
    · exact (wait_or_moves () rfl here.layout here.holds.goes
        (here.holds.now.1 forever)).imp World.Easy.drawable fun moves => ⟨forever, moves⟩
    · exact .inl (wait_answerable forever w 0 _)
  lenient failed := failed.elim
  fate := ⟨()⟩
  permits := ⟨.ok .empty, [], _, rfl⟩

/-! ## Reports -/

/-- What a run comes to on a storage in memory whose calls fail as is written. -/
structure Persists (script : Script) (plan : Plan) (store : Store) : Prop where
  /-- Whichever step is taken whenever there is a choice, and whomever the waits name, the run comes to a
  report. -/
  inevitable : Inevitable drawable.Step
    (fun s : State (scripted script) (Except Fault Tally × Session) => s.report?.isSome = true)
    (opening plan { store })
  /-- If its waits have a limit, the main thread can be answered at any time, whether the workers go on
  or not. -/
  unhindered {choices : List (Choice (scripted script))}
    {s : State (scripted script) (Except Fault Tally × Session)} {op : Conductor.Op Handle}
    {next : op.Answer → Conductor.Program Handle (Except Fault Tally × Session)}
    (limit : plan.settings.timeout ≠ .null) (admitted : ∀ choice ∈ choices, drawable.Admits choice)
    (played : play choices (opening plan { store }) = some s) (asks : s.main = .ask op next) :
    drawable.Answerable s.world op
  /-- When it is done it has its report. -/
  reported {choices : List (Choice (scripted script))}
    {s : State (scripted script) (Except Fault Tally × Session)}
    (admitted : ∀ choice ∈ choices, drawable.Admits choice)
    (played : play choices (opening plan { store }) = some s) (ended : s.isDone = true) :
    s.report?.isSome = true

theorem State.report?_isSome {B : Backend Handle} {s : State B (Except Fault Tally × Session)}
    {report : Tally} {session : Session} (done : s.main = .done (.ok report, session)) :
    s.report?.isSome = true := by
  unfold State.report?
  rw [done]
  rfl

/-- Whatever is written for the calls of its workers, a run with a limit that a wait can have comes to a
report. -/
theorem run_persists {plan : Plan} {size : Nat} (checked : Run.check plan = .ok size)
    (possible : Conductor.checkLimit plan.settings.timeout = .ok ()) (script : Script) (store : Store) :
    Persists script plan store := by
  obtain ⟨piece, rfl, same, -⟩ :=
    Piece.of_checked (B := scripted script) checked ({ store } : Scene)
  have outline := endurance_outline piece possible
  constructor
  · rw [← same]
    refine (outline.inevitable fun w op fine => fine.imp id (·.2)).mono ?_
    rintro s ⟨⟨result, session⟩, done, reached⟩
    cases result with
    | error fault => exact False.elim reached
    | ok report => exact State.report?_isSome done
  -- with a limit the main thread need not wait for a step of a worker
  · intro choices s op next limit admitted played asks
    rw [← same] at played
    have ends := outline.ends_of_play admitted played
    rw [asks] at ends
    exact (ends.1 s.world .refl).resolve_right fun forever => limit forever.1
  · intro choices s admitted played ended
    rw [← same] at played
    obtain ⟨result, session, done⟩ := State.exists_of_isDone ended
    have reached := outline.of_play admitted played done
    cases result with
    | error fault => exact False.elim reached
    | ok report => exact State.report?_isSome done

end Concert
end StoreMeter
