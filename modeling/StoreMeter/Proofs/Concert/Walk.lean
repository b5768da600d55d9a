import StoreMeter.Proofs.Concert.Itinerary
import StoreMeter.Proofs.Concert.Layout
/-
# Proofs.Concert.Walk — runs by their outlines

The questions of a main thread among its workers lead from point to point as an outline says, and so
an outline is an itinerary (`Outline.itinerary`): where it holds before, it holds at the point that a
function leads to, or the run may fail.  What is shown of a run afterwards (`Outline.ends_of_play`,
`Outline.inevitable`) is a matter of worlds alone.
-/
namespace StoreMeter
namespace Concert
namespace Outline

variable {S : Type} {B : Backend S} {piece : Piece B} {terms : Terms B} {fails : Prop}
variable {At : Point → World B → Prop} {w : World B}

/-! ## Questions -/

theorem stable_here (outline : Outline piece terms fails At) (pt : Point) :
    Terms.Stable (Here piece At pt) :=
  fun _ _ moves here => ⟨here.layout.moves moves, outline.stable here moves⟩

/-- A question that is answered in any case. -/
theorem answerable (outline : Outline piece terms fails At) {op : Conductor.Op S}
    (h : ∀ fate random unfinished, (w.answer fate random unfinished op).isSome = true) :
    terms.Answerable w op := by
  obtain ⟨fate⟩ := outline.fate
  obtain ⟨random, unfinished, permitted⟩ := outline.permits
  exact ⟨fate, random, unfinished, permitted, h fate random unfinished⟩

/-- A question at a point, where it can be answered. -/
theorem ends_ask (outline : Outline piece terms fails At) {pt : Point} {op : Conductor.Op S}
    {goal : op.Answer → World B → Prop} (here : Here piece At pt w)
    (can : ∀ w, Here piece At pt w → terms.Answerable w op)
    (answered : ∀ w fate random unfinished reply w', Here piece At pt w →
      w.answer fate random unfinished op = some (reply, w') → goal reply w') :
    (Prog.perform (E := Conductor.effects S) op).Ends terms.main goal w :=
  Terms.ends_perform (outline.stable_here pt) (fun w here => outline.fine here (can w here))
    (fun w fate random unfinished reply w' here _ => answered w fate random unfinished reply w' here)
    here

theorem ends_log (outline : Outline piece terms fails At) {pt : Point} (here : Here piece At pt w)
    (entry : Log.Entry) :
    (Conductor.log entry).Ends terms.main (fun _ w => Here piece At pt w) w := by
  refine outline.ends_ask here (fun w _ => outline.answerable fun _ _ _ => rfl) ?_
  intro w fate random unfinished reply w' here told
  cases told
  exact here

theorem ends_enter (outline : Outline piece terms fails At) {pt pt' : Point} {stage : Stage}
    (here : Here piece At pt w) (count : pt'.tasks piece.workers = pt.tasks piece.workers)
    (done : ∀ k, ¬ pt'.Done piece.workers k)
    (enters : ∀ w, Here piece At pt w → At pt' (w.enter stage)) :
    (Conductor.enter stage).Ends terms.main (fun _ w => Here piece At pt' w) w := by
  refine outline.ends_ask here (fun w _ => outline.answerable fun _ _ _ => rfl) ?_
  intro w fate random unfinished reply w' here told
  cases told
  exact ⟨here.layout.go rfl rfl rfl count fun k known => absurd known (done k), enters w here⟩

/-! ## The target and the payload -/

theorem isPresent_ends (outline : Outline piece terms fails At) {mode : Mode} {sofar : Progress}
    (here : Here piece At (.target mode sofar) w) :
    (Conductor.isPresent piece.plan.settings.path).Ends terms.main
      (fun r w => Leads fails (fun present => Here piece At (.looked mode sofar present) w) r) w := by
  refine outline.ends_ask here (fun w _ => outline.answerable fun _ _ _ => rfl) ?_
  intro w fate random unfinished reply w' here answer
  obtain ⟨store, stored, rfl⟩ := World.answer_storage.1 answer
  have leads := outline.look here stored
  cases reply with
  | ok present => exact ⟨here.layout.go rfl rfl rfl rfl nofun, leads⟩
  | error fault => exact leads

theorem makeDirs_ends (outline : Outline piece terms fails At) {sofar : Progress}
    (here : Here piece At (.looked .write sofar false) w) :
    (Conductor.makeDirs piece.plan.settings.path).Ends terms.main
      (fun r w => Leads fails (fun _ => Here piece At (.looked .write sofar true) w) r) w := by
  refine outline.ends_ask here (fun w _ => outline.answerable fun _ _ _ => rfl) ?_
  intro w fate random unfinished reply w' here answer
  obtain ⟨store, stored, rfl⟩ := World.answer_storage.1 answer
  have leads := outline.make here stored
  cases reply with
  | ok _ => exact ⟨here.layout.go rfl rfl rfl rfl nofun, leads⟩
  | error fault => exact leads

theorem entropy_ends (outline : Outline piece terms fails At) {sofar : Progress}
    (here : Here piece At (.looked .write sofar true) w) :
    (Conductor.entropy (S := S) piece.plan.bufferSize).Ends terms.main
      (fun r w => Leads fails (fun payload =>
        Here piece At (.placing .write { sofar with payload } 0) w) r) w := by
  refine Terms.ends_perform (outline.stable_here _) (fun w here => outline.fine_draw here) ?_ here
  intro w fate random unfinished reply w' here permitted answer
  have leads := outline.draw here permitted
  obtain ⟨rfl, sized, rfl⟩ := World.answer_entropy.1 answer
  cases reply with
  | error fault => exact leads
  | ok payload => exact ⟨here.layout.go rfl rfl rfl rfl nofun, leads (sized payload rfl)⟩

/-! ## Submitting and waiting -/

theorem submit_ends (outline : Outline piece terms fails At) {mode : Mode} {sofar : Progress}
    {jobs : Nat} (more : jobs < piece.workers) (here : Here piece At (.placing mode sofar jobs) w) :
    (Conductor.submit 0 (piece.job sofar mode jobs)).Ends terms.main
      (fun n w => n = first piece.workers mode + jobs ∧
        Here piece At (.placing mode sofar (jobs + 1)) w) w := by
  refine outline.ends_ask here (fun w _ => outline.answerable fun _ _ _ => rfl) ?_
  intro w fate random unfinished reply w' here told
  cases told
  exact ⟨here.layout.tasks, here.layout.submit, outline.submit more here⟩

theorem wait_ends (outline : Outline piece terms fails At) {mode : Mode} {sofar : Progress}
    (here : Here piece At (.placing mode sofar piece.workers) w) :
    (Conductor.wait (S := S) 0 (piece.submissions mode) piece.plan.settings.timeout).Ends terms.main
      (fun r w => Leads fails (fun unfinished =>
        Here piece At (.taking mode sofar unfinished) w) r) w := by
  refine Terms.ends_perform (outline.stable_here _) (fun w here => outline.fine_wait here) ?_ here
  intro w fate random unfinished reply w' here permitted answer
  obtain ⟨tells, rfl, rfl⟩ := World.answer_wait.1 answer
  have leads := outline.wait here permitted tells
  unfold Conductor.waitResult at leads ⊢
  -- where the wait names nobody, its limit is not looked at
  split at leads
  · rename_i none_left
    rw [if_pos none_left]
    obtain rfl := List.isEmpty_iff.1 none_left
    exact ⟨here.layout.wait tells, leads⟩
  · rename_i some_left
    rw [if_neg some_left]
    cases limit : Conductor.checkLimit piece.plan.settings.timeout with
    | error fault =>
      rw [limit] at leads
      exact leads
    | ok _ =>
      rw [limit] at leads
      exact ⟨here.layout.wait tells, leads⟩

/-! ## Collecting -/

section
variable {mode : Mode} {sofar : Progress} {unfinished : List Nat} {index : Nat}

theorem result_ends (outline : Outline piece terms fails At)
    (turn : (sofar.outcomes mode).length = index) (more : index < piece.workers)
    (known : first piece.workers mode + index ∉ unfinished)
    (here : Here piece At (.taking mode sofar unfinished) w) :
    (Conductor.result (S := S) 0 (first piece.workers mode + index)).Ends terms.main
      (fun r w =>
        Here piece At (.taking mode (sofar.add (endedAs mode index r) mode) unfinished) w) w := by
  -- the wait did not name the submission, so its task has ended
  have done (w : World B) (here : Here piece At (.taking mode sofar unfinished) w) :
      ∃ result, w.status? (first piece.workers mode + index) = some (.ended result) :=
    here.layout.done _ ⟨by omega, by omega, known⟩
  refine outline.ends_ask here (fun w here => outline.answerable fun _ _ _ => ?_) ?_
  · obtain ⟨result, ended⟩ := done w here
    simp [World.answer, ended]
  · intro w fate random unfinished reply w' here answer
    obtain ⟨ended, rfl⟩ := World.answer_result.1 answer
    exact ⟨here.layout.go rfl rfl rfl rfl fun _ => id, outline.take turn more known here ended⟩

theorem cancel_ends (outline : Outline piece terms fails At)
    (turn : (sofar.outcomes mode).length = index) (more : index < piece.workers)
    (named : first piece.workers mode + index ∈ unfinished)
    (here : Here piece At (.taking mode sofar unfinished) w) :
    (Conductor.cancel (S := S) 0 (first piece.workers mode + index)).Ends terms.main
      (fun cancelled w => Here piece At (.missing mode sofar unfinished cancelled) w) w := by
  -- every submission of the phase has its task
  have found (w : World B) (here : Here piece At (.taking mode sofar unfinished) w) :
      ∃ status, w.status? (first piece.workers mode + index) = some status := by
    rw [← Option.isSome_iff_exists, ← World.status?_isSome, here.layout.tasks]
    simp only [Point.tasks]
    omega
  refine outline.ends_ask here (fun w here => outline.answerable fun _ _ _ => ?_) ?_
  · obtain ⟨status, there⟩ := found w here
    simp [World.answer, there]
  · intro w fate random _ reply w' here answer
    obtain ⟨status, there, rfl, rfl⟩ := World.answer_cancel.1 answer
    exact ⟨here.layout.setStatus named, outline.cancel turn more named here there⟩

theorem addLate_ends (outline : Outline piece terms fails At) (turn : sofar.writes.length = index)
    (more : index < piece.workers) (here : Here piece At (.missing .write sofar unfinished false) w) :
    (Conductor.addLate (S := S) 0 index).Ends terms.main (fun _ w => Here piece At
      (.taking .write (sofar.add (piece.timedOut .write index) .write) unfinished) w) w := by
  refine outline.ends_ask here (fun w _ => outline.answerable fun _ _ _ => rfl) ?_
  intro w fate random _ reply w' here told
  cases told
  exact ⟨here.layout.go rfl (by simp [World.addLate]) rfl rfl fun _ => id,
    outline.late turn more here⟩

theorem lateIndexes_ends (outline : Outline piece terms fails At) {pt : Point}
    (here : Here piece At pt w) (late : Nat) :
    (Conductor.lateIndexes (S := S) late).Ends terms.main (fun _ w => Here piece At pt w) w := by
  refine outline.ends_ask here (fun w _ => outline.answerable fun _ _ _ => rfl) ?_
  intro w fate random _ reply w' here told
  cases told
  exact here

end

/-! ## Closing the pool and deleting -/

theorem shutdown_ends (outline : Outline piece terms fails At) {sofar : Progress}
    {unfinished : List Nat} (all : sofar.writes.length = piece.workers)
    (all_read : sofar.reads.length = piece.workers)
    (here : Here piece At (.taking .read sofar unfinished) w) :
    (Conductor.shutdown (S := S) 0 false true).Ends terms.main
      (fun _ w => Here piece At (.closing sofar) w) w := by
  refine outline.ends_ask here (fun w _ => outline.answerable fun _ _ _ => ?_) ?_
  · simp [World.answer]
  · intro w fate random _ reply w' here answer
    obtain ⟨rfl, -⟩ := World.answer_shutdown.1 answer
    exact ⟨here.layout.takeBack 0, outline.close all all_read here⟩

theorem delete_ends (outline : Outline piece terms fails At) {sofar : Progress} {index : Nat}
    (more : index < piece.workers) (here : Here piece At (.clearing sofar index) w) :
    (Conductor.delete (S := S) (piece.plan.settings.objectPath index)).Ends terms.main
      (fun r w => (∀ fault, r = .error fault → fault.isAbsent = false → fault.isSystem = false →
        fails) ∧ Here piece At (.clearing sofar (index + 1)) w) w := by
  refine outline.ends_ask here (fun w _ => outline.answerable fun _ _ _ => rfl) ?_
  intro w fate random _ reply w' here answer
  obtain ⟨store, stored, rfl⟩ := World.answer_storage.1 answer
  have ⟨failing, holds⟩ := outline.delete more here stored
  exact ⟨failing, here.layout.go rfl rfl rfl rfl nofun, holds⟩

/-! ## Before the first phase -/

/-- A question in a world without tasks has the answer that the world gives. -/
theorem ends_alone (outline : Outline piece terms fails At) {op : Conductor.Op S}
    {reply : op.Answer} {w' : World B} (alone : w.tasks = []) (unstarted : w.stage = .prepare)
    (answer : ∀ fate random unfinished,
      w.answer fate random unfinished op = some (reply, w')) :
    (Prog.perform (E := Conductor.effects S) op).Ends terms.main
      (fun found w₁ => found = reply ∧ w₁ = w') w := by
  -- without tasks nothing happens between the question and its answer
  have still : Terms.Stable (fun w₁ : World B => w₁ = w) := by
    intro _ w₁ moves same
    subst same
    obtain ⟨k, old, _, there, -⟩ := moves.step.tasks
    simp [World.status?, alone] at there
  refine Terms.ends_perform still (fun w₁ same => ?_) ?_ rfl
  · subst same
    exact outline.fine_opening unstarted (outline.answerable fun _ _ _ => by rw [answer]; rfl)
  · rintro w₁ fate random unfinished found w₂ rfl - answered
    rw [answer] at answered
    cases answered
    exact ⟨rfl, rfl⟩

/-- The world at each place before the first phase. -/
def early (piece : Piece B) : Early → World B
  | .fresh | .preparing => { shared := { store := piece.store } }
  | .prepared => { shared := { store := piece.store, lates := [.nobody] } }
  | .pooled =>
    { shared := { store := piece.store, lates := [.nobody] }
      pools := [World.capacity (Run.poolWorkers piece.plan)] }

theorem start_here (outline : Outline piece terms fails At) :
    Here piece At (.target .write {}) piece.start := by
  refine ⟨⟨rfl, rfl, rfl, ?_, fun k known => known.elim⟩, outline.start⟩
  intro task member
  cases member

/-! ## A whole run -/

/-- Each question leads on as the outline says. -/
theorem itinerary (outline : Outline piece terms fails At) :
    Itinerary piece terms.main fails (fun place w => w = early piece place) (Here piece At) where
  prepare here := by
    subst here
    exact (outline.ends_alone rfl rfl fun _ _ _ => rfl).mono fun _ _ answered => answered.2
  newLate here := by
    subst here
    exact outline.ends_alone rfl rfl fun _ _ _ => rfl
  announce here entry := by
    subst here
    exact (outline.ends_alone rfl rfl fun _ _ _ => rfl).mono fun _ _ answered => answered.2
  newPool here := by
    subst here
    exact outline.ends_alone rfl rfl fun _ _ _ => rfl
  begin here := by
    subst here
    refine (outline.ends_alone rfl rfl fun _ _ _ => rfl).mono ?_
    rintro _ _ ⟨-, rfl⟩
    exact outline.start_here
  log here entry := outline.ends_log here entry
  look here := outline.isPresent_ends here
  make here := outline.makeDirs_ends here
  lost here := outline.lost here
  draw here := outline.entropy_ends here
  keep here := ⟨here.layout.go rfl rfl rfl rfl nofun, outline.keep here⟩
  submit more here := outline.submit_ends more here
  wait here := outline.wait_ends here
  take turn more known here := outline.result_ends turn more known here
  cancel turn more named here := outline.cancel_ends turn more named here
  late turn more here := outline.addLate_ends turn more here
  pass turn more gone here :=
    ⟨here.layout.go rfl rfl rfl rfl fun _ => id, outline.pass turn more gone here⟩
  list here := outline.lateIndexes_ends here 0
  again all here :=
    outline.ends_enter here (Nat.zero_add _).symm (fun _ => id) fun _ here => outline.again all here
  close all all_read here := outline.shutdown_ends all all_read here
  quit failed w := Terms.ends_of_fine (outline.lenient failed) _ w
  clean here := outline.ends_enter here rfl (fun _ => id) fun _ here => outline.clean here
  delete more here := outline.delete_ends more here
  finish here := outline.ends_enter here rfl (fun _ => id) fun _ here => outline.finish here

/-- The report of a run with the world at its end. -/
abbrev Reported (piece : Piece B) (At : Point → World B → Prop) (report : Tally) (w : World B) :
    Prop :=
  Itinerary.Reported piece (Here piece At) report w

/-- No step of a task breaks what the main thread came to. -/
theorem reached_stable (outline : Outline piece terms fails At)
    (r : Except Fault Tally × Session) : Terms.Stable
      (Run.Reached fails (fun report _ w => Reported piece At report w) r) := by
  obtain ⟨result, session⟩ := r
  cases result with
  | error fault => exact fun _ _ _ => id
  | ok report =>
    rintro w w' moves ⟨written, readBack, rfl, sofar, all, all_read, hw, hr, here⟩
    exact ⟨written, readBack, rfl, sofar, all, all_read, hw, hr,
      outline.stable_here _ _ _ moves here⟩

theorem opening_ends (outline : Outline piece terms fails At) :
    (opening piece.plan piece.store).main.Ends terms.main
      (Run.Reached fails (fun report _ w => Reported piece At report w))
      (opening piece.plan piece.store).world :=
  outline.itinerary.whole { late := 0 } rfl

/-- After every list of decisions on the terms the main thread is on its way to its report. -/
theorem ends_of_play (outline : Outline piece terms fails At) {choices : List (Choice B)}
    (admitted : ∀ choice ∈ choices, terms.Admits choice)
    {s : State B (Except Fault Tally × Session)}
    (played : play choices (opening piece.plan piece.store) = some s) :
    s.main.Ends terms.main (Run.Reached fails (fun report _ w => Reported piece At report w))
      s.world :=
  Terms.Ends.of_play outline.reached_stable admitted outline.opening_ends played

/-- If the main thread is done after a list of decisions, it has its report, or it failed and was
allowed to. -/
theorem of_play (outline : Outline piece terms fails At) {choices : List (Choice B)}
    (admitted : ∀ choice ∈ choices, terms.Admits choice)
    {s : State B (Except Fault Tally × Session)}
    (played : play choices (opening piece.plan piece.store) = some s) {result : Except Fault Tally}
    {session : Session} (done : s.main = .done (result, session)) :
    Leads fails (fun report => Reported piece At report s.world) result := by
  have reached := outline.ends_of_play admitted played
  rw [done] at reached
  cases result <;> exact reached

/-- If its terms always leave a step, a run comes to its report or fails where it may, in whatever
order the steps are taken. -/
theorem inevitable (outline : Outline piece terms fails At)
    (live : ∀ w op, terms.Fine w op → terms.Answerable w op ∨ ∃ w', w.Moves w') :
    Inevitable terms.Step
      (fun s => ∃ r, s.main = .done r ∧
        Run.Reached fails (fun report _ w => Reported piece At report w) r s.world)
      (opening piece.plan piece.store) :=
  Terms.Ends.inevitable outline.reached_stable live _ _ outline.opening_ends

end Outline

/-- A plan that is refused leads to no report. -/
theorem no_report_of_refused {S : Type} {B : Backend S} {plan : Plan} {fault : Fault}
    (refused : Run.check plan = .error fault) {store : B.State} {choices : List (Choice B)}
    {s : State B (Except Fault Tally × Session)} (played : play choices (opening plan store) = some s)
    {report : Tally} {session : Session} : s.main ≠ .done (.ok report, session) := by
  have free {α : Type} (p : Conductor.Program S α) (w : World B) :
      p.Ends Terms.anything.main (fun _ _ => True) w := Terms.ends_of_fine (fun _ _ => trivial) p w
  have ends : Run.Arrives Terms.anything.main True (fun (_ : Tally) _ _ => False) (Run.whole plan)
      { late := 0 } { shared := { store } } := by
    -- whatever is answered before, the check of the plan is where it stops
    have stops : Run.Arrives Terms.anything.main True (fun (_ : Unit) _ _ => False) (Run.prepare plan)
        { late := 0 } { shared := { store } } := by
      unfold Run.prepare
      refine Run.arrives_lift_bind (free _ _) fun _ w _ => ?_
      refine Run.arrives_lift_bind (free _ _) fun late w _ => Run.arrives_modify ?_
      rw [refused]
      dsimp only
      split
      · refine Run.arrives_lift_bind (free _ _) fun _ w _ => ?_
        exact Run.arrives_lift_bind (free _ _) fun _ w _ => Run.arrives_throw trivial
      · exact Run.arrives_throw trivial
    unfold Run.whole
    exact stops.bind fun _ _ _ => False.elim
  have steady (r : Except Fault Tally × Session) : Terms.Stable (B := B)
      (Run.Reached True (fun _ _ _ => False) r) := fun _ _ _ => id
  have admitted (choice : Choice B) (_ : choice ∈ choices) : Terms.anything.Admits choice :=
    Terms.anything_admits choice
  have start : (opening plan store).main.Ends Terms.anything.main _ _ := ends
  have reached := Terms.Ends.of_play steady admitted start played
  intro done
  rw [done] at reached
  exact reached

end Concert
end StoreMeter
