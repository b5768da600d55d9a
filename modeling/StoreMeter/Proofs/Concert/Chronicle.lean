import StoreMeter.Proofs.Concert.Layout
import StoreMeter.Proofs.Proceedings
/-
# Proofs.Concert.Chronicle — the minutes of a run among its workers

A list of decisions makes minutes of its own: each decision that lets the main thread go on adds the
question that it asked (`minutes`).  What the walk through the main thread says of all answers holds of
these minutes, and the world bears them out: tasks, pools and sets have the numbers that they were
told, what was taken has ended, what was taken back does not start, and who was made late is late.
-/
namespace StoreMeter
namespace Concert

variable {S : Type} {B : Backend S} {α : Type}

/-! ## Minutes of decisions -/

/-- The minutes after one decision. -/
def heard : Choice B → State B α → Minutes S → Minutes S
  | .conduct fate random unfinished, ⟨.ask op _, w⟩, m =>
    match w.answer fate random unfinished op with
    | some (reply, _) => m.note op reply
    | none => m
  | _, _, m => m

theorem heard_of_answer {s : State B α} {w' : World B} {m : Minutes S} {op : Conductor.Op S}
    {next : op.Answer → Conductor.Program S α} {reply : op.Answer} {fate : B.Fate}
    {random : Except Fault ByteArray} {unfinished : List Nat} (asks : s.main = .ask op next)
    (answered : s.world.answer fate random unfinished op = some (reply, w')) :
    heard (.conduct fate random unfinished) s m = m.note op reply := by
  obtain ⟨main, w⟩ := s
  obtain rfl : main = .ask op next := asks
  dsimp only [heard]
  rw [answered]

/-- The minutes after a list of decisions. -/
def minutes : List (Choice B) → State B α → Minutes S → Minutes S
  | [], _, m => m
  | choice :: rest, s, m =>
    match move choice s with
    | some s' => minutes rest s' (heard choice s m)
    | none => m

/-- A decision is a step of a task, or the main thread gets an answer that is minuted. -/
theorem move_heard {choice : Choice B} {s s' : State B α} (m : Minutes S)
    (moved : move choice s = some s') :
    (s'.main = s.main ∧ heard choice s m = m ∧ s.world.Moves s'.world) ∨
      ∃ op next reply fate random unfinished, choice = .conduct fate random unfinished ∧
        s.main = .ask op next ∧ s'.main = next reply ∧ heard choice s m = m.note op reply ∧
          s.world.answer fate random unfinished op = some (reply, s'.world) := by
  cases decided_of_move moved with
  | start same started => exact .inl ⟨same, rfl, _, .inl started⟩
  | work same worked => exact .inl ⟨same, rfl, _, .inr ⟨_, _, worked⟩⟩
  | conduct asks goes_on answered =>
    exact .inr ⟨_, _, _, _, _, _, rfl, asks, goes_on, heard_of_answer asks answered, answered⟩

/-- What each of these decisions keeps holds after all of them. -/
theorem play_keeps {keeps : State B α → Minutes S → Prop} {choices : List (Choice B)}
    (step : ∀ choice ∈ choices, ∀ {s s' m}, keeps s m → move choice s = some s' →
      keeps s' (heard choice s m))
    {s s' : State B α} {m : Minutes S} (h : keeps s m) (played : play choices s = some s') :
    keeps s' (minutes choices s m) := by
  induction choices generalizing s m with
  | nil =>
    cases played
    exact h
  | cons choice rest ih =>
    obtain ⟨s₁, moved, played⟩ := Option.bind_eq_some_iff.1 played
    rw [minutes, moved]
    exact ih (fun _ there => step _ (List.mem_cons_of_mem _ there))
      (step choice List.mem_cons_self h moved) played

/-- Is the main thread done? -/
def State.isDone (s : State B α) : Bool :=
  match s.main with
  | .done _ => true
  | .ask _ _ => false

theorem State.exists_of_isDone {β : Type} {s : State B (α × β)} (ended : s.isDone = true) :
    ∃ a b, s.main = .done (a, b) := by
  unfold isDone at ended
  split at ended
  · rename_i r done
    exact ⟨r.1, r.2, done⟩
  · cases ended

/-! ## The world bears the minutes out -/

namespace World

/-- The world bears the minutes out. -/
structure BearsOut (w : World B) (m : Minutes S) : Prop where
  stage : w.stage = m.stage
  pools : w.pools.length = m.pools.length
  tasks : w.tasks.length = m.jobs.length
  lates : w.shared.lates.length = m.sets
  ended : ∀ {k result}, (k, .ended result) ∈ m.takings → w.status? k = some (.ended result)
  takenBack : ∀ {k}, (k, .takenBack) ∈ m.takings → w.status? k = some .takenBack
  late : ∀ {i}, i ∈ m.late → w.shared.isLate 0 i = true

namespace BearsOut

variable {w w' : World B} {m m' : Minutes S}

/-- What is over stays so, and all else that the minutes tell is the same. -/
theorem go (h : w.BearsOut m) (stage : w'.stage = m'.stage) (pools : w'.pools.length = m'.pools.length)
    (tasks : w'.tasks.length = m'.jobs.length) (lates : w'.shared.lates.length = m'.sets)
    (stays : ∀ {k status}, w.status? k = some status → status.isOver = true →
      w'.status? k = some status)
    (takings : m'.takings = m.takings)
    (late : ∀ {i}, i ∈ m'.late → w'.shared.isLate 0 i = true) : w'.BearsOut m' where
  stage := stage
  pools := pools
  tasks := tasks
  lates := lates
  ended there := stays (h.ended (takings ▸ there)) rfl
  takenBack there := stays (h.takenBack (takings ▸ there)) rfl
  late := late

theorem moves (h : w.BearsOut m) (moves : w.Moves w') : w'.BearsOut m := by
  have step := moves.step
  refine h.go (step.stage.trans h.stage) (step.pools ▸ h.pools) (step.length.trans h.tasks)
    (step.lates ▸ h.lates) (fun found past => step.stays found past) rfl ?_
  intro i made
  rw [Shared.isLate, step.lates]
  exact h.late made

/-- One more submission is taken or taken back, or neither. -/
theorem take (h : w.BearsOut m) {k : Nat} {taking : Taking} (stage : w'.stage = w.stage)
    (pools : w'.pools = w.pools) (tasks : w'.tasks.length = w.tasks.length)
    (shared : w'.shared = w.shared)
    (stays : ∀ {j status}, w.status? j = some status → status.isOver = true →
      w'.status? j = some status)
    (ended : ∀ result, taking = .ended result → w'.status? k = some (.ended result))
    (takenBack : taking = .takenBack → w'.status? k = some .takenBack) :
    w'.BearsOut (m.take k taking) where
  stage := stage.trans h.stage
  pools := pools ▸ h.pools
  tasks := tasks.trans h.tasks
  lates := shared ▸ h.lates
  ended there := by
    rcases List.mem_append.1 there with before | new
    · exact stays (h.ended before) rfl
    · cases List.mem_singleton.1 new
      exact ended _ rfl
  takenBack there := by
    rcases List.mem_append.1 there with before | new
    · exact stays (h.takenBack before) rfl
    · cases List.mem_singleton.1 new
      exact takenBack rfl
  late made := shared ▸ h.late made

/-- Each answer to a question that fits is honest, and the world bears it out. -/
theorem answer (h : w.BearsOut m) {plan : Plan} {op : Conductor.Op S} (fits : Fits plan m op)
    {fate : B.Fate} {random : Except Fault ByteArray} {unfinished : List Nat} {reply : op.Answer}
    (answered : w.answer fate random unfinished op = some (reply, w')) :
    Honest m op reply ∧ w'.BearsOut (m.note op reply) := by
  cases op with
  | storage op =>
    obtain ⟨store, -, rfl⟩ := answer_storage.1 answered
    cases op <;>
      exact ⟨trivial, h.go h.stage h.pools h.tasks h.lates (fun there _ => there) rfl h.late⟩
  | log entry | lateIndexes late =>
    cases answered
    exact ⟨trivial, h⟩
  | entropy size =>
    obtain ⟨-, -, rfl⟩ := answer_entropy.1 answered
    exact ⟨trivial, h.go h.stage h.pools h.tasks h.lates (fun there _ => there) rfl h.late⟩
  | newPool workers label =>
    cases answered
    refine ⟨h.pools, h.go h.stage ?_ h.tasks h.lates (fun there _ => there) rfl h.late⟩
    simpa [Minutes.note] using h.pools
  | submit pool job =>
    cases answered
    refine ⟨h.tasks, h.go h.stage h.pools ?_ h.lates ?_ rfl h.late⟩
    · simpa [Minutes.note, World.submit] using h.tasks
    · exact fun there _ => status?_submit_old there pool job
  | wait pool submissions limit =>
    obtain ⟨-, told, rfl⟩ := answer_wait.1 answered
    exact ⟨⟨unfinished, told⟩, h.go h.stage h.pools h.tasks h.lates (fun there _ => there) rfl h.late⟩
  | cancel pool k =>
    -- only a task that waits is taken back, and the minutes say which it was
    obtain ⟨status, found, rfl, rfl⟩ := answer_cancel.1 answered
    refine ⟨trivial, h.take rfl rfl (w.length_setStatus k _) rfl ?_ ?_ ?_⟩
    · exact fun there past => status?_cancel_over found there past
    · intro result taken
      cases status <;> cases taken
    · intro taken
      rw [status?_setStatus, if_pos rfl, found]
      cases status <;> first | rfl | cases taken
  | result pool k =>
    obtain ⟨found, rfl⟩ := answer_result.1 answered
    refine ⟨trivial, h.take rfl rfl rfl rfl (fun there _ => there) ?_ ?_⟩
    · rintro _ ⟨⟩
      exact found
    · rintro ⟨⟩
  | shutdown pool waits cancelsQueued =>
    obtain ⟨-, -, rfl, rfl⟩ := fits
    obtain ⟨rfl, -⟩ := answer_shutdown.1 answered
    refine ⟨trivial, h.go h.stage h.pools ?_ h.lates ?_ rfl h.late⟩
    · simpa [Minutes.note, World.takeBack] using h.tasks
    · exact fun there past => status?_takeBack_over pool there past
  | newLate =>
    cases answered
    refine ⟨h.lates, h.go h.stage h.pools h.tasks ?_ (fun there _ => there) rfl ?_⟩
    · simpa [Minutes.note] using h.lates
    · intro i made
      -- no worker can be late before the first set is made
      have none : w.shared.lates = [] := List.length_eq_zero_iff.1 (h.lates.trans fits)
      have late := h.late made
      rw [Shared.isLate, none] at late
      cases late
  | addLate late index =>
    cases answered
    -- the one set that was made is the one that is added to
    obtain ⟨rfl, one⟩ := fits
    have made : 0 < w.shared.lates.length := by
      rw [h.lates, one]
      exact Nat.one_pos
    refine ⟨trivial, h.go h.stage h.pools h.tasks ?_ (fun there _ => there) rfl ?_⟩
    · simpa [Minutes.note, World.addLate] using h.lates
    · intro i there
      rw [isLate_addLate made]
      rcases List.mem_append.1 there with before | new
      · simp [h.late before]
      · simp [List.mem_singleton.1 new]
  | enter stage =>
    cases answered
    refine ⟨trivial, h.go ?_ h.pools h.tasks h.lates (fun there _ => there) rfl h.late⟩
    simp [Minutes.note, Minutes.enter, Minutes.stage, World.enter]

end BearsOut

end World

/-! ## The contracts of the tasks -/

/-- No answer to the main thread breaks the contracts of the tasks, if each of them sees what it saw
before, jobs come with their contracts, and a task may be taken back at any time. -/
theorem Protocol.Sound.answer {π : Protocol S} {view : View B π} {plan : Plan} {w w' : World B}
    {m : Minutes S} {op : Conductor.Op S} {fate : B.Fate} {random : Except Fault ByteArray}
    {unfinished : List Nat} {reply : op.Answer} (sound : π.Sound view w) (borne : w.BearsOut m)
    (fits : Fits plan m op) (answered : w.answer fate random unfinished op = some (reply, w'))
    (sees : ∀ k l, view k w.shared l → view k w'.shared l)
    (jobs : ∀ {mode index job}, IsJob plan mode index job → index < plan.workers →
      π.Holds view (first plan.workers mode + index) w.shared (.queued job))
    (quiet : ∀ k l, π.Quiet k l) : π.Sound view w' := by
  have taken_back (k : Nat) (l : π.Local) (agrees : view k w.shared l) :
      ∃ l', view k w.shared l' ∧ π.Quiet k l' := ⟨l, agrees, quiet k l⟩
  cases op with
  | submit pool job =>
    obtain ⟨-, -, mode, index, below, -, -, turn, isJob⟩ := fits
    cases answered
    refine sound.submit ?_
    rw [borne.tasks, turn]
    exact jobs isJob below
  | cancel pool k =>
    obtain ⟨status, found, -, rfl⟩ := World.answer_cancel.1 answered
    exact sound.cancel found (taken_back k)
  | shutdown pool waits cancelsQueued =>
    obtain ⟨-, -, rfl, rfl⟩ := fits
    obtain ⟨rfl, -⟩ := World.answer_shutdown.1 answered
    exact sound.takeBack pool taken_back
  | entropy size =>
    obtain ⟨-, -, rfl⟩ := World.answer_entropy.1 answered
    exact sound.mono rfl sees
  | wait pool submissions limit =>
    obtain ⟨-, -, rfl⟩ := World.answer_wait.1 answered
    exact sound
  | result pool k =>
    obtain ⟨-, rfl⟩ := World.answer_result.1 answered
    exact sound
  | storage _ | log _ | newPool _ _ | lateIndexes _ | enter _ | newLate | addLate _ _ =>
    cases answered
    exact sound.mono rfl sees

/-! ## Whole runs -/

/-- The main thread goes on as its minutes allow, the minutes are in order, and the world bears them
out. -/
structure Minuted (plan : Plan) (s : State B (Except Fault Tally × Session)) (m : Minutes S) :
    Prop where
  asks : s.main.Ends (minuted (Fits plan)) (fun r m => Ending plan r.1 m) m
  order : InOrder plan m
  borne : s.world.BearsOut m

theorem Minuted.move {plan : Plan} {choice : Choice B}
    {s s' : State B (Except Fault Tally × Session)} {m : Minutes S} (h : Minuted plan s m)
    (moved : move choice s = some s') : Minuted plan s' (heard choice s m) := by
  rcases move_heard m moved with ⟨same, none, moves⟩ |
    ⟨op, next, reply, fate, random, unfinished, -, asks, goes_on, told, answered⟩
  · rw [none]
    exact ⟨same ▸ h.asks, h.order, h.borne.moves moves⟩
  -- what the main thread asks fits, so the answer is honest
  · have asking := h.asks
    rw [asks] at asking
    obtain ⟨honest, borne⟩ := h.borne.answer asking.1 answered
    rw [told]
    exact ⟨goes_on ▸ asking.2 reply _ ⟨honest, rfl⟩, h.order.note asking.1 reply, borne⟩

theorem opening_minuted (plan : Plan) (store : B.State) : Minuted plan (opening plan store) {} where
  asks := by
    refine Prog.Ends.mono ?_ (whole_minuted plan { late := 0 })
    rintro ⟨fault | report, session⟩ m ending <;> exact ending
  order := .start
  borne := ⟨rfl, rfl, rfl, rfl, fun there => absurd there List.not_mem_nil,
    fun there => absurd there List.not_mem_nil, fun there => absurd there List.not_mem_nil⟩

/-- After every list of decisions, a run is minuted. -/
theorem run_minuted {plan : Plan} {store : B.State} {choices : List (Choice B)}
    {s : State B (Except Fault Tally × Session)}
    (played : play choices (opening plan store) = some s) :
    Minuted plan s (minutes choices (opening plan store) {}) :=
  play_keeps (fun _ _ => Minuted.move) (opening_minuted plan store) played

/-- A run that is done has ended in one of the four ways. -/
theorem Minuted.ending {plan : Plan} {s : State B (Except Fault Tally × Session)} {m : Minutes S}
    (h : Minuted plan s m) {r : Except Fault Tally} {session : Session}
    (done : s.main = .done (r, session)) : Ending plan r m := by
  have ending := h.asks
  rw [done] at ending
  exact ending

end Concert
end StoreMeter
