import StoreMeter.Proofs.Concert.Borders
import StoreMeter.Proofs.Concert.Endurance
import StoreMeter.Proofs.Concert.Outcomes
import StoreMeter.Proofs.Concert.Solos
/-
# Proofs.Concert.Isolation — what the failures of a worker cost the others

Two runs of a plan on the same storage differ in the failures at the object of one worker, and in whether
the tasks of this worker finish, hang or are never begun.  The tasks of the others are found alike
(`FoundAlike`).  Then both runs come to their reports, and for all other workers nothing is different but
the times: neither their outcomes nor their objects at the borders of the stages (`Isolates`).

A worker plays the same part in both runs (`Part`), and where its tasks were found alike it has come
equally far in it: what has finished has come to the end of its score, what was never begun is at its
start, and what hangs does so after the same steps.
-/
namespace StoreMeter

/-- What a task was found to be when its outcome was due: it had finished, it was still queued, or it hung
after so many steps. -/
inductive Found where
  | finished
  | queued
  | hanging (steps : Nat)
  deriving DecidableEq

/-- What the main thread found, by what it did. -/
def Taking.found (steps : Nat) : Taking → Found
  | .ended _ => .finished
  | .takenBack => .queued
  | .givenUp => .hanging steps

namespace Concert

open Storage (Operation)
open Storage.Memory (Store)

/-! ## What the main thread found -/

/-- Two runs found the tasks of a worker alike, which rested when they had been named. -/
structure FoundAlike (plan : Plan) (d d' : Diary Handle) (worker : Nat) : Prop where
  rests : d.Rests plan worker
  rests' : d'.Rests plan worker
  takings {mode : Mode} {taking taking' : Taking}
    (taken : (first plan.workers mode + worker, taking) ∈ d.minutes.takings)
    (taken' : (first plan.workers mode + worker, taking') ∈ d'.minutes.takings) :
    taking.found (d.worked.count (first plan.workers mode + worker)) =
      taking'.found (d'.worked.count (first plan.workers mode + worker))

/-- What was found of a task earlier in a run is what was found at its end. -/
theorem found_earlier {d d₁ : Diary Handle} (later : d.Later d₁) {k : Nat} {taking : Taking}
    (dealt : Dealt d k taking) (rests : k ∉ d₁.restless) :
    taking.found (d.worked.count k) = taking.found (d₁.worked.count k) := by
  cases taking with
  | ended r | takenBack => rfl
  | givenUp => exact congrArg Found.hanging (later.worked dealt.1 rests).symm

theorem FoundAlike.earlier {plan : Plan} {d d' d₁ d₁' : Diary Handle} {worker : Nat}
    (h : FoundAlike plan d₁ d₁' worker) (later : d.Later d₁) (later' : d'.Later d₁')
    (dealt : ∀ {k taking}, (k, taking) ∈ d.minutes.takings → Dealt d k taking)
    (dealt' : ∀ {k taking}, (k, taking) ∈ d'.minutes.takings → Dealt d' k taking) :
    FoundAlike plan d d' worker where
  rests mode there := h.rests mode (later.restless there)
  rests' mode there := h.rests' mode (later'.restless there)
  takings {mode taking taking'} taken taken' := by
    rw [found_earlier later (dealt taken) (h.rests mode),
      found_earlier later' (dealt' taken') (h.rests' mode)]
    exact h.takings (later.takings taken) (later'.takings taken')

/-! ## Scores that are settled -/

/-- What is known of a score when the outcome of the task is taken. -/
def Settled (score : Score) (steps : Nat) : Taking → Prop
  | .ended r => ∃ r', score.rest = .done r' ∧ AlikeTimeless r r'
  | .takenBack => steps = 0
  | .givenUp => True

section
variable {score : Score} {line : Line} {late : Bool} {n n' : Nat} {taking taking' : Taking}

/-- Tasks with one score that were found alike are equally far. -/
theorem after_alike (found : taking.found n = taking'.found n')
    (h : Settled (score.after line late n) n taking)
    (h' : Settled (score.after line late n') n' taking') :
    score.after line late n = score.after line late n' := by
  cases taking <;> cases taking' <;> simp only [Taking.found, reduceCtorEq] at found
  -- a score that has come to its end stays there
  case ended =>
    obtain ⟨r, ended, -⟩ := h
    obtain ⟨r', ended', -⟩ := h'
    exact Score.after_unique ended ended'
  case takenBack => rw [show n = 0 from h, show n' = 0 from h']
  case givenUp => rw [Found.hanging.inj found]

/-- Their outcomes differ in the times at most. -/
theorem outcome_alike (plan : Plan) (mode : Mode) (index : Nat)
    (found : taking.found n = taking'.found n') (h : Settled score n taking)
    (h' : Settled score n' taking') :
    (taking.outcome plan mode index).timeless = (taking'.outcome plan mode index).timeless := by
  cases taking <;> cases taking' <;> simp only [Taking.found, reduceCtorEq] at found
  case ended r r' =>
    obtain ⟨a, ended, alike⟩ := h
    obtain ⟨a', ended', alike'⟩ := h'
    obtain rfl : a = a' := Prog.done.inj (ended.symm.trans ended')
    have same : r.map Outcome.timeless = r'.map Outcome.timeless := alike.trans alike'.symm
    cases r <;> cases r' <;> simp only [Except.map, reduceCtorEq, Except.ok.injEq, Except.error.injEq] at same
    · rw [same]
    · exact same
  case takenBack => rfl
  case givenUp => rfl

end

/-! ## One part in two runs -/

/-- A worker has played its part in a run. -/
structure Played (part : Part) {script : Script}
    (s : State (scripted script) (Except Fault Tally × Session)) (d : Diary Handle) : Prop where
  timely : Timely part.plan s d
  clears : Clears part.plan d.minutes
  below : part.worker < part.plan.workers
  plays : part.Plays (s.world.shared.isLate 0 part.worker) s.world d

namespace Played

variable {part : Part} {script script' : Script} {d d' : Diary Handle} {mode : Mode}
variable {s : State (scripted script) (Except Fault Tally × Session)}
variable {s' : State (scripted script') (Except Fault Tally × Session)}
variable {taking taking' : Taking}

/-- When the outcome of a task is taken its score is settled. -/
theorem settled (h : Played part s d) (taken : (part.task mode, taking) ∈ d.minutes.takings) :
    Settled (part.score (s.world.shared.isLate 0 part.worker) (part.steps d) mode)
      (part.steps d mode) taking := by
  have booked := h.timely.booked
  have borne := booked.orderly.minuted.borne
  cases taking with
  | ended r => exact h.plays.tasks (borne.ended taken)
  | takenBack =>
    refine booked.unworked ?_
    rw [World.hasBegun, borne.takenBack taken]
    rfl
  | givenUp => trivial

/-- After the write phase a worker is late if and only if its writer was given up. -/
theorem late_iff (h : Played part s d) (reading : .readPhase ∈ d.minutes.stages)
    (taken : (part.task .write, taking) ∈ d.minutes.takings) :
    s.world.shared.isLate 0 part.worker = true ↔ taking = .givenUp := by
  rw [Part.task, first, Nat.zero_add] at taken
  have dealt := h.timely.booked.dealt taken
  constructor
  · intro late
    obtain ⟨k, -, same, named, begun⟩ := h.timely.late_named late
    obtain rfl := Int.ofNat_inj.1 same
    cases taking with
    | ended r => exact absurd named dealt
    | takenBack =>
      have back := h.timely.booked.orderly.minuted.borne.takenBack taken
      exact absurd begun (h.timely.not_begun_of_takenBack back)
    | givenUp => rfl
  · rintro rfl
    exact (h.timely.named_cases reading h.below dealt.1).resolve_right fun back =>
      h.timely.not_begun_of_takenBack back dealt.2

/-- Writers that were found alike are equally far. -/
theorem writing_alike (h : Played part s d) (h' : Played part s' d')
    (alike : FoundAlike part.plan d d' part.worker)
    (taken : (part.task .write, taking) ∈ d.minutes.takings)
    (taken' : (part.task .write, taking') ∈ d'.minutes.takings) :
    part.writing (part.steps d .write) = part.writing (part.steps d' .write) :=
  after_alike (alike.takings taken taken') (h.settled taken) (h'.settled taken')

/-- A worker whose writer was found alike is late in both runs or in neither. -/
theorem late_alike (h : Played part s d) (h' : Played part s' d')
    (alike : FoundAlike part.plan d d' part.worker) (reading : .readPhase ∈ d.minutes.stages)
    (reading' : .readPhase ∈ d'.minutes.stages)
    (taken : (part.task .write, taking) ∈ d.minutes.takings)
    (taken' : (part.task .write, taking') ∈ d'.minutes.takings) :
    s.world.shared.isLate 0 part.worker = s'.world.shared.isLate 0 part.worker := by
  rw [Bool.eq_iff_iff, h.late_iff reading taken, h'.late_iff reading' taken']
  have found := alike.takings taken taken'
  cases taking <;> cases taking' <;> simp [Taking.found] at found ⊢

/-- The tasks of a worker that were found alike are equally far. -/
theorem score_alike (h : Played part s d) (h' : Played part s' d')
    (alike : FoundAlike part.plan d d' part.worker) (reading : .readPhase ∈ d.minutes.stages)
    (reading' : .readPhase ∈ d'.minutes.stages)
    (written : ∃ taking, (part.task .write, taking) ∈ d.minutes.takings)
    (written' : ∃ taking, (part.task .write, taking) ∈ d'.minutes.takings)
    (taken : (part.task mode, taking) ∈ d.minutes.takings)
    (taken' : (part.task mode, taking') ∈ d'.minutes.takings) :
    part.score (s.world.shared.isLate 0 part.worker) (part.steps d) mode =
      part.score (s'.world.shared.isLate 0 part.worker) (part.steps d') mode := by
  obtain ⟨writer, written⟩ := written
  obtain ⟨writer', written'⟩ := written'
  have writing := h.writing_alike h' alike written written'
  have late := h.late_alike h' alike reading reading' written written'
  cases mode with
  | write => exact writing
  -- both readers begin with what equal writers have left, and are late in both runs or in neither
  | read =>
    have settled := h.settled taken
    have settled' := h'.settled taken'
    simp only [Part.score, ← late, ← writing] at settled settled' ⊢
    exact after_alike (alike.takings taken taken') settled settled'

/-! ### At the borders -/

/-- Before a run cleans up the object of a worker is what its tasks have left. -/
theorem object (h : Played part s d) (uncleaned : .cleanup ∉ d.minutes.stages) :
    Store.get? (Scene.store s.world.shared.store) part.path =
      Store.get? (part.score (s.world.shared.isLate 0 part.worker) (part.steps d) .read).scene.store
        part.path := by
  have undeleted : d.minutes.deletions = [] :=
    by_contra fun some => uncleaned (h.clears.cleaning some)
  exact (h.plays.object (by rw [undeleted]; exact List.not_mem_nil)).object

/-- Before the write phase no task has made a step. -/
theorem unwritten (h : Played part s d) (unwritten : .writePhase ∉ d.minutes.stages) (mode : Mode) :
    part.steps d mode = 0 := by
  have minuted := h.timely.booked.orderly.minuted
  have none : s.world.tasks.length = 0 := by
    rw [minuted.borne.tasks]
    exact List.length_eq_zero_iff.2 (by_contra fun some => unwritten (minuted.order.writers some))
  refine h.timely.booked.unworked (World.idle_of_none ?_)
  rw [World.status?, List.eq_nil_of_length_eq_zero none]
  rfl

/-- Before the read phase no reader has made a step. -/
theorem unread (h : Played part s d) (unread : .readPhase ∉ d.minutes.stages) :
    part.steps d .read = 0 :=
  h.timely.booked.unworked
    (World.idle_of_none (h.timely.booked.no_reader unread (Nat.le_add_right _ _)))

/-- A run enters a stage as its minutes allow. -/
theorem enters (h : Played part s d) {stage : Stage} (border : s.AtBorder stage) :
    Enters part.plan d.minutes stage := by
  obtain ⟨next, asks⟩ := border
  have asking := h.timely.booked.orderly.minuted.asks
  rw [asks] at asking
  exact asking.1

/-- When a run is done all objects are gone. -/
theorem gone (h : Played part s d) (border : s.AtBorder .done) :
    Store.get? (Scene.store s.world.shared.store) part.path = none := by
  obtain ⟨next, asks⟩ := border
  have heeding := h.timely.booked.heeds
  rw [asks] at heeding
  have all : part.plan.workers ≤ d.minutes.deletions.length := heeding.1
  exact h.plays.gone ((h.clears.mem_iff part.worker).2 (h.below.trans_le all))

/-- At the border of a stage the object of a worker is the same in both runs. -/
theorem objects_alike (h : Played part s d) (h' : Played part s' d')
    (alike : FoundAlike part.plan d d' part.worker) {stage : Stage} (border : s.AtBorder stage)
    (border' : s'.AtBorder stage) :
    Store.get? (Scene.store s.world.shared.store) part.path =
      Store.get? (Scene.store s'.world.shared.store) part.path := by
  have enters := h.enters border
  have enters' := h'.enters border'
  cases stage with
  -- nothing has been written yet
  | prepare | failed | writePhase =>
    have stages : d.minutes.stages = _ := enters
    have stages' : d'.minutes.stages = _ := enters'
    rw [h.object (by rw [stages]; decide), h'.object (by rw [stages']; decide)]
    simp only [Part.score, Part.writing, h.unwritten (by rw [stages]; decide),
      h'.unwritten (by rw [stages']; decide), Score.after]
  -- the object is as the writer has left it
  | readPhase =>
    obtain ⟨stages, numbers, -⟩ := enters
    obtain ⟨stages', numbers', -⟩ := enters'
    have below : part.task .write < part.plan.workers := by
      rw [Part.task, first, Nat.zero_add]
      exact h.below
    obtain ⟨taking, taken⟩ := exists_taking numbers below
    obtain ⟨taking', taken'⟩ := exists_taking numbers' below
    rw [h.object (by rw [stages]; decide), h'.object (by rw [stages']; decide)]
    simp only [Part.score, h.unread (by rw [stages]; decide), h'.unread (by rw [stages']; decide),
      Score.after, h.writing_alike h' alike taken taken']
  -- the object is as both tasks have left it
  | cleanup =>
    obtain ⟨stages, numbers, -⟩ := enters
    obtain ⟨stages', numbers', -⟩ := enters'
    have below (mode : Mode) : part.task mode < part.plan.workers + part.plan.workers := by
      have := h.below
      cases mode <;> simp only [Part.task, first] <;> omega
    obtain ⟨taking, taken⟩ := exists_taking numbers (below .read)
    obtain ⟨taking', taken'⟩ := exists_taking numbers' (below .read)
    rw [h.object (by rw [stages]; decide), h'.object (by rw [stages']; decide),
      h.score_alike h' alike (by rw [stages]; decide) (by rw [stages']; decide)
        (exists_taking numbers (below .write)) (exists_taking numbers' (below .write)) taken taken']
  | done => rw [h.gone border, h'.gone border']

end Played

/-! ## Two runs -/

/-- The object at a path. -/
def objectAt {script : Script} (path : String) (w : World (scripted script)) : Option ByteArray :=
  Store.get? (Scene.store w.shared.store) path

/-- What is at a path at each border of a run. -/
def objectsAt {script : Script} {α : Type} (path : String) (choices : List (Choice (scripted script)))
    (s : State (scripted script) α) : List (Stage × Option ByteArray) :=
  (borders choices s).map fun border => (border.1, objectAt path border.2)

/-- A run went through all its stages, and its report is the tally of its outcomes. -/
structure Completed {script : Script} (plan : Plan) (store : Store)
    (choices : List (Choice (scripted script)))
    (s : State (scripted script) (Except Fault Tally × Session)) : Prop where
  report : s.report? = some
    (Tally.ofOutcomes ((diary choices (opening plan { store }) {}).minutes.outcomes plan))
  stages : (borders choices (opening plan { store })).map Prod.fst =
    [.prepare, .writePhase, .readPhase, .cleanup, .done]

/-- In two runs a worker has the same outcomes, but for the times, and the same objects at all borders. -/
structure SameFor {script script' : Script} (plan : Plan) (store : Store)
    (choices : List (Choice (scripted script))) (choices' : List (Choice (scripted script')))
    (worker : Nat) : Prop where
  outcome (mode : Mode) : ∃ o o',
    ((diary choices (opening plan { store }) {}).minutes.outcomes plan)[first plan.workers mode +
      worker]? = some o ∧
    ((diary choices' (opening plan { store }) {}).minutes.outcomes plan)[first plan.workers mode +
      worker]? = some o' ∧ o.timeless = o'.timeless
  objects : objectsAt (plan.settings.objectPath worker) choices (opening plan { store }) =
    objectsAt (plan.settings.objectPath worker) choices' (opening plan { store })

section
variable {plan : Plan} {size : Nat} {store : Store} {script script' : Script} {worker : Nat}
variable {payload : ByteArray} {choices : List (Choice (scripted script))}
variable {choices' : List (Choice (scripted script'))}
variable {s : State (scripted script) (Except Fault Tally × Session)}
variable {s' : State (scripted script') (Except Fault Tally × Session)}

/-- After every list of decisions a worker whose tasks rest has played its part. -/
theorem run_played (checked : Run.check plan = .ok size) (below : worker < plan.workers)
    (admitted : ∀ choice ∈ choices, (drawing payload).Admits choice)
    (played : play choices (opening plan { store }) = some s)
    (rests : (diary choices (opening plan { store }) {}).Rests plan worker) :
    Played (script.part plan size payload store worker) s
      (diary choices (opening plan { store }) {}) := by
  have solos := run_solos checked played
  have fresh : ∀ bytes ∈ (opening (B := scripted script) plan { store }).world.drawn,
      bytes = payload := fun _ there => absurd there List.not_mem_nil
  exact ⟨solos.timely, solos.clears, below,
    solos.plays below rests (drawn_of_play admitted fresh played)⟩

/-- A run with a report has one outcome for each task. -/
theorem numbers_of_report (checked : Run.check plan = .ok size)
    (played : play choices (opening plan { store }) = some s) {report : Tally}
    (told : s.report? = some report) :
    (diary choices (opening plan { store }) {}).minutes.takings.map Prod.fst =
      List.range (plan.workers + plan.workers) := by
  obtain ⟨session, done⟩ := State.done_of_report? told
  have ending := (run_timely checked played).booked.orderly.minuted.ending done
  cases ending with | reported valid stages pools closings numbers cleared merged
  exact numbers

theorem completed_of_report (checked : Run.check plan = .ok size)
    (played : play choices (opening plan { store }) = some s) (reported : s.report?.isSome = true) :
    Completed plan store choices s := by
  obtain ⟨report, told⟩ := Option.isSome_iff_exists.1 reported
  obtain ⟨session, done⟩ := State.done_of_report? told
  have ending := (run_timely checked played).booked.orderly.minuted.ending done
  have crossed : (diary choices (opening plan { store }) {}).minutes.stages =
      [] ++ (borders choices (opening plan { store })).map Prod.fst := stages_borders
  cases ending with | reported valid stages pools closings numbers cleared merged
  exact ⟨told.trans (congrArg some merged), crossed.symm.trans stages⟩

/-- The reports of two runs tell the same of a worker whose part was the same and whose tasks were found
alike. -/
theorem outcome_same (checked : Run.check plan = .ok size) (below : worker < plan.workers)
    (agree : script' (plan.settings.objectPath worker) = script (plan.settings.objectPath worker))
    (admitted : ∀ choice ∈ choices, (drawing payload).Admits choice)
    (admitted' : ∀ choice ∈ choices', (drawing payload).Admits choice)
    (played : play choices (opening plan { store }) = some s)
    (played' : play choices' (opening plan { store }) = some s')
    (told : Completed plan store choices s) (told' : Completed plan store choices' s')
    (alike : FoundAlike plan (diary choices (opening plan { store }) {})
      (diary choices' (opening plan { store }) {}) worker) (mode : Mode) :
    ∃ o o', ((diary choices (opening plan { store }) {}).minutes.outcomes plan)[first plan.workers
        mode + worker]? = some o ∧
      ((diary choices' (opening plan { store }) {}).minutes.outcomes plan)[first plan.workers mode +
        worker]? = some o' ∧ o.timeless = o'.timeless := by
  have part : script'.part plan size payload store worker =
      script.part plan size payload store worker := by
    rw [Script.part, Script.part, agree]
  have mine := run_played checked below admitted played alike.rests
  have mine' := part ▸ run_played checked below admitted' played' alike.rests'
  have outcome := outcome_of_numbers (numbers_of_report checked played told.report)
  have outcome' := outcome_of_numbers (numbers_of_report checked played' told'.report)
  obtain ⟨taking, taken, found⟩ := outcome mode below
  obtain ⟨taking', taken', found'⟩ := outcome' mode below
  obtain ⟨writer, written, -⟩ := outcome .write below
  obtain ⟨writer', written', -⟩ := outcome' .write below
  have reading : .readPhase ∈ (diary choices (opening plan { store }) {}).minutes.stages := by
    rw [stages_borders, told.stages]
    decide
  have reading' : .readPhase ∈ (diary choices' (opening plan { store }) {}).minutes.stages := by
    rw [stages_borders, told'.stages]
    decide
  have score := mine.score_alike mine' alike reading reading' ⟨writer, written⟩ ⟨writer', written'⟩
    taken taken'
  have settled := mine.settled taken
  have settled' := score ▸ mine'.settled taken'
  exact ⟨_, _, found, found', outcome_alike plan mode worker (alike.takings taken taken') settled
    settled'⟩

/-- Where the borders are those of the same stages, and at each of them the same is found, all that is
found is the same. -/
theorem map_borders {B B' : Backend Handle} {β : Type} {l : List (Stage × World B)}
    {l' : List (Stage × World B')} {f : World B → β} {f' : World B' → β}
    (stages : l.map Prod.fst = l'.map Prod.fst)
    (same : ∀ stage w w', (stage, w) ∈ l → (stage, w') ∈ l' → f w = f' w') :
    l.map (fun border => (border.1, f border.2)) = l'.map fun border => (border.1, f' border.2) := by
  induction l generalizing l' with
  | nil =>
    cases l' with
    | nil => rfl
    | cons border' rest' => cases stages
  | cons border rest ih =>
    cases l' with
    | nil => cases stages
    | cons border' rest' =>
      obtain ⟨stage, w⟩ := border
      obtain ⟨stage', w'⟩ := border'
      obtain ⟨rfl, rest_stages⟩ := List.cons.inj stages
      have here := same stage w w' List.mem_cons_self List.mem_cons_self
      have further := ih rest_stages fun stage w w' there there' =>
        same stage w w' (List.mem_cons_of_mem _ there) (List.mem_cons_of_mem _ there')
      rw [List.map_cons, List.map_cons, here, further]

/-- At the borders of two runs the object of such a worker is the same. -/
theorem objects_same (checked : Run.check plan = .ok size) (below : worker < plan.workers)
    (agree : script' (plan.settings.objectPath worker) = script (plan.settings.objectPath worker))
    (admitted : ∀ choice ∈ choices, (drawing payload).Admits choice)
    (admitted' : ∀ choice ∈ choices', (drawing payload).Admits choice)
    (told : Completed plan store choices s) (told' : Completed plan store choices' s')
    (alike : FoundAlike plan (diary choices (opening plan { store }) {})
      (diary choices' (opening plan { store }) {}) worker) :
    objectsAt (plan.settings.objectPath worker) choices (opening plan { store }) =
      objectsAt (plan.settings.objectPath worker) choices' (opening plan { store }) := by
  have part : script'.part plan size payload store worker =
      script.part plan size payload store worker := by
    rw [Script.part, Script.part, agree]
  unfold objectsAt
  refine map_borders (told.stages.trans told'.stages.symm) fun stage w w' there there' => ?_
  obtain ⟨before, after, t, rfl, played, border, rfl⟩ := exists_of_mem_borders there
  obtain ⟨before', after', t', rfl, played', border', rfl⟩ := exists_of_mem_borders there'
  -- what was found of the tasks at the end had been found at the border
  have sofar := alike.earlier (Diary.later_append after played) (Diary.later_append after' played')
    (run_timely checked played).booked.dealt (run_timely checked played').booked.dealt
  have mine := run_played checked below
    (fun choice there => admitted choice (List.mem_append_left _ there)) played sofar.rests
  have mine' := part ▸ run_played checked below
    (fun choice there => admitted' choice (List.mem_append_left _ there)) played' sofar.rests'
  exact mine.objects_alike mine' sofar border border'

end

/-! ## The failures of one worker -/

/-- The storages of two runs fail alike but at the object of one worker, and nobody else notices. -/
structure Isolates (plan : Plan) (store : Store) (worker : Nat) (script script' : Script) : Prop where
  /-- Both runs come to their reports. -/
  persists : Persists script plan store
  persists' : Persists script' plan store
  /-- Where the same bytes were drawn and the tasks of all other workers were found alike, both reports
  tell of all stages, and for all other workers the outcomes and the objects are the same. -/
  alike {payload : ByteArray} {choices : List (Choice (scripted script))}
    {choices' : List (Choice (scripted script'))}
    {s : State (scripted script) (Except Fault Tally × Session)}
    {s' : State (scripted script') (Except Fault Tally × Session)}
    (admitted : ∀ choice ∈ choices, (drawing payload).Admits choice)
    (admitted' : ∀ choice ∈ choices', (drawing payload).Admits choice)
    (played : play choices (opening plan { store }) = some s)
    (played' : play choices' (opening plan { store }) = some s')
    (done : s.isDone = true) (done' : s'.isDone = true)
    (found : ∀ other < plan.workers, other ≠ worker →
      FoundAlike plan (diary choices (opening plan { store }) {})
        (diary choices' (opening plan { store }) {}) other) :
    Completed plan store choices s ∧ Completed plan store choices' s' ∧
      ∀ other < plan.workers, other ≠ worker → SameFor plan store choices choices' other

theorem drawable_of_drawing {script : Script} {payload : ByteArray} {choice : Choice (scripted script)}
    (admitted : (drawing payload).Admits choice) : drawable.Admits choice := by
  cases choice with
  | conduct fate random unfinished => exact ⟨payload, admitted⟩
  | start _ | work _ _ _ => trivial

/-- Whatever the calls at the object of one worker come to, and whether its tasks finish, hang or are
never begun: the runs come to their reports, and the other workers fare the same.  The limit of the waits
is one that a wait can have. -/
theorem failures_stay_with_worker {plan : Plan} {size : Nat} (checked : Run.check plan = .ok size)
    (possible : Conductor.checkLimit plan.settings.timeout = .ok ()) {script script' : Script}
    {worker : Nat}
    (apart : ∀ path, path ≠ plan.settings.objectPath worker → script path = script' path)
    (store : Store) : Isolates plan store worker script script' where
  persists := run_persists checked possible script store
  persists' := run_persists checked possible script' store
  alike admitted admitted' played played' done done' found := by
    have told := completed_of_report checked played <|
      (run_persists checked possible script store).reported
        (fun choice there => drawable_of_drawing (admitted choice there)) played done
    have told' := completed_of_report checked played' <|
      (run_persists checked possible script' store).reported
        (fun choice there => drawable_of_drawing (admitted' choice there)) played' done'
    refine ⟨told, told', fun other below different => ?_⟩
    have agree : script' (plan.settings.objectPath other) = script (plan.settings.objectPath other) :=
      (apart _ fun same =>
        different (plan.settings.objectPath_injective same)).symm
    exact {
      outcome := outcome_same checked below agree admitted admitted' played played' told told'
        (found other below different)
      objects := objects_same checked below agree admitted admitted' told told'
        (found other below different) }

/-- Two workers. -/
def twoWorkers : Plan := { oneByte with settings := { oneByte.settings with threads := .int 2 } }

/-- No call fails. -/
def smooth : Script := fun _ _ _ => .none

/-- The object of the first worker cannot be created, and the failure is none of the system. -/
def uncreatable : Script := fun path _ call =>
  if path = twoWorkers.settings.objectPath (0 : Nat) ∧ call = .create then
    .refused (.plain .runtime (.message "boom"))
  else .none

section
variable {script : Script}

/-- So many answers to the main thread, where waits name these submissions. -/
def replies (n : Nat) (unfinished : List Nat) : List (Choice (scripted script)) :=
  List.replicate n (.conduct () (.ok ⟨#[7]⟩) unfinished)

/-- A task is taken up and makes so many steps. -/
def workOff (n k : Nat) : List (Choice (scripted script)) :=
  .start k :: List.replicate n (.work k () (.zero false))

end

/-- All tasks finish. -/
def bothFinish : List (Choice (scripted smooth)) :=
  replies 12 [] ++ workOff 10 0 ++ workOff 10 1 ++ replies 10 [] ++ workOff 9 2 ++
    workOff 9 3 ++ replies 10 []

/-- The writer of the first worker crashes, and its reader hangs after a step. -/
def firstFails : List (Choice (scripted uncreatable)) :=
  replies 12 [] ++ workOff 4 0 ++ workOff 10 1 ++ replies 11 [] ++ workOff 1 2 ++
    workOff 9 3 ++ replies 12 [2]

theorem crash_and_hang_stay_with_worker :
    ∃ (s : State (scripted smooth) (Except Fault Tally × Session))
      (s' : State (scripted uncreatable) (Except Fault Tally × Session)),
      Run.check twoWorkers = .ok 1 ∧
        play bothFinish (opening twoWorkers { store := {} }) = some s ∧
        play firstFails (opening twoWorkers { store := {} }) = some s' ∧
        (diary bothFinish (opening twoWorkers { store := {} }) {}).named = [] ∧
        (diary firstFails (opening twoWorkers { store := {} }) {}).named = [2] ∧
        Completed twoWorkers {} bothFinish s ∧ Completed twoWorkers {} firstFails s' ∧
        SameFor twoWorkers {} bothFinish firstFails 1 := by
  have checked : Run.check twoWorkers = .ok 1 := by decide +kernel
  have admitted : ∀ choice ∈ bothFinish, (drawing ⟨#[7]⟩).Admits choice := by decide +kernel
  have admitted' : ∀ choice ∈ firstFails, (drawing ⟨#[7]⟩).Admits choice := by decide +kernel
  have ends : ((play bothFinish (opening twoWorkers { store := {} })).any fun s => s.isDone) = true ∧
      ((play firstFails (opening twoWorkers { store := {} })).any fun s => s.isDone) = true := by
    decide +kernel
  have facts :
      let d := diary bothFinish (opening twoWorkers { store := {} }) {}
      let d' := diary firstFails (opening twoWorkers { store := {} }) {}
      d.named = [] ∧ d'.named = [2] ∧ d.restless = [] ∧ d'.restless = [] ∧
        ∀ e ∈ d.minutes.takings, ∀ e' ∈ d'.minutes.takings, e.1 = e'.1 → e.1 ∈ [1, 3] →
          e.2.found (d.worked.count e.1) = e'.2.found (d'.worked.count e'.1) := by
    decide +kernel
  obtain ⟨named, named', rests, rests', takings⟩ := facts
  have second (mode : Mode) : first twoWorkers.workers mode + 1 ∈ [1, 3] := by
    cases mode <;> decide +kernel
  have alike (other : Nat) (below : other < twoWorkers.workers) (different : other ≠ 0) :
      FoundAlike twoWorkers (diary bothFinish (opening twoWorkers { store := {} }) {})
        (diary firstFails (opening twoWorkers { store := {} }) {}) other := by
    have two : twoWorkers.workers = 2 := by decide +kernel
    obtain rfl : other = 1 := by omega
    exact {
      rests := fun mode => by
        rw [rests]
        exact List.not_mem_nil
      rests' := fun mode => by
        rw [rests']
        exact List.not_mem_nil
      takings := fun {mode} _ _ taken taken' => takings _ taken _ taken' rfl (second mode) }
  have apart (path : String) (other : path ≠ twoWorkers.settings.objectPath (0 : Nat)) :
      smooth path = uncreatable path := by
    funext calls call
    rw [smooth, uncreatable, if_neg fun same => other same.1]
  obtain ⟨s, played, done⟩ := (Option.any_eq_true _ _).1 ends.1
  obtain ⟨s', played', done'⟩ := (Option.any_eq_true _ _).1 ends.2
  obtain ⟨told, told', same⟩ :=
    (failures_stay_with_worker checked (by decide +kernel) apart {}).alike admitted admitted' played
      played' done done' alike
  exact ⟨s, s', checked, played, played', named, named', told, told',
    same 1 (by decide +kernel) (by decide)⟩

/-- Two workers, with a limit that passes the check and is longer than a wait can be. -/
def overlong : Plan :=
  { twoWorkers with settings := { twoWorkers.settings with timeout := .int 10000000000 } }

/-- The second writer has finished when the wait begins, the first hangs. -/
def firstHangs : List (Choice (scripted smooth)) :=
  replies 12 [] ++ workOff 0 0 ++ workOff 10 1 ++ replies 2 [0]

/-- With such a limit a worker that hangs takes the report from the others. -/
theorem overlong_limit_loses_report :
    ¬ ∀ (plan : Plan) (size worker : Nat) (script script' : Script) (store : Store),
      Run.check plan = .ok size →
      (∀ path, path ≠ plan.settings.objectPath worker → script path = script' path) →
      Isolates plan store worker script script' := by
  intro isolates
  have ends : ((play firstHangs (opening overlong { store := {} })).any fun s =>
      s.isDone && s.report?.isNone) = true := by decide +kernel
  obtain ⟨s, played, lost⟩ := (Option.any_eq_true _ _).1 ends
  rw [Bool.and_eq_true] at lost
  have admitted : ∀ choice ∈ firstHangs, (drawing ⟨#[7]⟩).Admits choice := by decide +kernel
  -- the two scripts are the same, so the claim would be one about a single run
  have isolated := isolates overlong 1 0 smooth smooth {} (by decide +kernel) fun _ _ => rfl
  have reported := isolated.persists.reported
    (fun choice there => drawable_of_drawing (admitted choice there)) played lost.1
  rw [Option.isSome_iff_ne_none] at reported
  exact reported (Option.isNone_iff_eq_none.1 lost.2)

end Concert
end StoreMeter
