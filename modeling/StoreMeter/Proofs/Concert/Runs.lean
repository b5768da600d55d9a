import Mathlib.Logic.Hydra
import StoreMeter.Proofs.Concert.Contracts
/-
# Proofs.Concert.Runs — the main thread among its workers

The main thread is a program, too, and between two of its questions the tasks go on as they like.
`Terms.main` are its surroundings: an answer comes after any number of steps of tasks.  What the
main thread comes to in them holds wherever it is done, after every list of decisions
(`Ends.of_play`), and what its questions allow holds wherever it asks.

If its terms never leave it without a possible step, the main thread is also done at last, in
whatever order the steps are taken (`Ends.inevitable`): every program is a finite tree, and every
step goes down in one of them.
-/
namespace StoreMeter
namespace Concert

variable {S : Type} {B : Backend S} {α : Type}

/-- The tasks go on for any number of steps. -/
abbrev World.Runs : World B → World B → Prop := Relation.ReflTransGen World.Moves

/-- The terms on which a main thread runs: which bytes may be drawn and which submissions a wait may
name, and what has to hold wherever the main thread asks a question. -/
structure Terms (B : Backend S) where
  permits : Except Fault ByteArray → List Nat → Prop
  Fine : World B → Conductor.Op S → Prop

namespace Terms

variable {terms : Terms B}

/-- The surroundings of the main thread. -/
def main (terms : Terms B) : Surroundings (Conductor.effects S) (World B) where
  Allows w op := ∀ w₁, w.Runs w₁ → terms.Fine w₁ op
  Answers w op reply w' := ∃ w₁ fate random unfinished, w.Runs w₁ ∧
    terms.permits random unfinished ∧ w₁.answer fate random unfinished op = some (reply, w')

/-- The terms on which anything may happen. -/
def anything : Terms B := ⟨fun _ _ => True, fun _ _ => True⟩

/-- Is the decision one of those that the terms leave open? -/
def Admits (terms : Terms B) : Choice B → Prop
  | .conduct _ random unfinished => terms.permits random unfinished
  | _ => True

theorem anything_admits (choice : Choice B) : anything.Admits choice := by
  cases choice <;> trivial

/-- One decision on these terms. -/
def Step (terms : Terms B) (s s' : State B α) : Prop :=
  ∃ choice, terms.Admits choice ∧ move choice s = some s'

/-- Can a question of the main thread be answered now? -/
def Answerable (terms : Terms B) (w : World B) (op : Conductor.Op S) : Prop :=
  ∃ fate random unfinished, terms.permits random unfinished ∧
    (w.answer fate random unfinished op).isSome = true

/-- An assertion that no step of a task breaks. -/
def Stable (P : World B → Prop) : Prop := ∀ w w', w.Moves w' → P w → P w'

theorem Stable.runs {P : World B → Prop} (stable : Stable P) {w w' : World B} (runs : w.Runs w')
    (h : P w) : P w' := by
  induction runs with
  | refl => exact h
  | tail _ step ih => exact stable _ _ step ih

/-! ## Rules for questions -/

/-- A question is asked under an assertion that no task breaks. -/
theorem ends_perform {P : World B → Prop} {op : Conductor.Op S}
    {goal : op.Answer → World B → Prop} (stable : Stable P) (fine : ∀ w, P w → terms.Fine w op)
    (answered : ∀ w fate random unfinished reply w', P w → terms.permits random unfinished →
      w.answer fate random unfinished op = some (reply, w') → goal reply w')
    {w : World B} (h : P w) :
    (Prog.perform (E := Conductor.effects S) op).Ends terms.main goal w := by
  refine ⟨fun w₁ runs => fine w₁ (stable.runs runs h), ?_⟩
  rintro reply w' ⟨w₁, fate, random, unfinished, runs, permitted, answer⟩
  exact answered w₁ fate random unfinished reply w' (stable.runs runs h) permitted answer

/-- Where everything is fine, a program can ask what it likes. -/
theorem ends_of_fine (fine : ∀ w op, terms.Fine w op) (p : Conductor.Program S α) (w : World B) :
    p.Ends terms.main (fun _ _ => True) w := by
  induction p generalizing w with
  | done a => trivial
  | ask op next ih => exact ⟨fun w₁ _ => fine w₁ op, fun reply w' _ => ih reply w'⟩

/-! ## Runs on these terms -/

theorem Ends.of_moves {goal : α → World B → Prop} (steady : ∀ a, Stable (goal a))
    {p : Conductor.Program S α} {w w' : World B} (h : p.Ends terms.main goal w)
    (moves : w.Moves w') : p.Ends terms.main goal w' := by
  cases p with
  | done a => exact steady a _ _ moves h
  | ask op next =>
    refine ⟨fun w₁ runs => h.1 w₁ (.head moves runs), ?_⟩
    rintro reply w₂ ⟨w₁, fate, random, unfinished, runs, answered⟩
    exact h.2 reply w₂ ⟨w₁, fate, random, unfinished, .head moves runs, answered⟩

/-- A decision is a step of a task, or the main thread gets an answer. -/
theorem move_cases {choice : Choice B} {s s' : State B α} (admitted : terms.Admits choice)
    (h : move choice s = some s') :
    (s'.main = s.main ∧ s.world.Moves s'.world) ∨
      ∃ op next reply, s.main = .ask op next ∧ s'.main = next reply ∧
        terms.main.Answers s.world op reply s'.world := by
  cases decided_of_move h with
  | start same started => exact .inl ⟨same, _, .inl started⟩
  | work same worked => exact .inl ⟨same, _, .inr ⟨_, _, worked⟩⟩
  | conduct asks goes_on answered =>
    exact .inr ⟨_, _, _, asks, goes_on, _, _, _, _, .refl, admitted, answered⟩

/-- Where there is no main thread, all decisions are steps of tasks. -/
theorem runs_of_play {a : α} {choices : List (Choice B)} {w : World B} {s : State B α}
    (played : play choices ⟨.done a, w⟩ = some s) : w.Runs s.world := by
  have goes_on : s.main = .done a ∧ w.Runs s.world := by
    refine keeps_of_play (fun s => s.main = .done a ∧ w.Runs s.world) ?_ ⟨rfl, .refl⟩ played
    rintro choice - s s' ⟨done, runs⟩ moved
    rcases move_cases (anything_admits choice) moved with ⟨same, moves⟩ | ⟨_, _, _, asks, -⟩
    · exact ⟨same.trans done, runs.tail moves⟩
    · cases done.symm.trans asks
  exact goes_on.2

theorem Ends.of_step {goal : α → World B → Prop} (steady : ∀ a, Stable (goal a))
    {s s' : State B α} (h : s.main.Ends terms.main goal s.world) (step : terms.Step s s') :
    s'.main.Ends terms.main goal s'.world := by
  obtain ⟨choice, admitted, moved⟩ := step
  rcases move_cases admitted moved with ⟨same, moves⟩ | ⟨op, next, reply, asks, goes_on, answers⟩
  · rw [same]
    exact Ends.of_moves steady h moves
  · rw [asks] at h
    rw [goes_on]
    exact h.2 reply _ answers

/-- After every list of decisions, the rest of the main thread comes to its goal. -/
theorem Ends.of_play {goal : α → World B → Prop} (steady : ∀ a, Stable (goal a))
    {choices : List (Choice B)} (admitted : ∀ choice ∈ choices, terms.Admits choice)
    {s s' : State B α} (h : s.main.Ends terms.main goal s.world)
    (played : play choices s = some s') : s'.main.Ends terms.main goal s'.world :=
  keeps_of_play (fun s => s.main.Ends terms.main goal s.world)
    (fun choice there _ _ h moved => Ends.of_step steady h ⟨choice, admitted choice there, moved⟩)
    h played

end Terms

/-! ## Runs come to an end -/

/-- One status is the next one of a task after another. -/
inductive Status.Next : Status S → Status S → Prop
  | start (job : Worker.Job S) : Next (.running job) (.queued job)
  | finish (result : Except Fault Outcome) : Next (.ended result) (.running (.done result))
  | answer (op : Worker.Op S) (next : op.Answer → Worker.Job S) (reply : op.Answer) :
    Next (.running (next reply)) (.running (.ask op next))

theorem Status.Next.wellFounded : WellFounded (Status.Next (S := S)) := by
  -- from the end backwards: first what has ended, then the programs that run, then what waits
  have ended (result : Except Fault Outcome) : Acc Next (.ended (S := S) result) := by
    constructor
    intro _ told
    cases told
  have running (rest : Worker.Job S) : Acc Next (.running rest) := by
    induction rest with
    | done result =>
      constructor
      intro _ told
      cases told
      exact ended result
    | ask op next ih =>
      constructor
      intro _ told
      cases told
      exact ih _
  refine ⟨fun status => ?_⟩
  cases status with
  | queued job =>
    constructor
    intro _ told
    cases told
    exact running job
  | running rest => exact running rest
  | ended result => exact ended result
  | takenBack =>
    constructor
    intro _ told
    cases told

namespace World

/-- The statuses of all tasks. -/
def statuses (w : World B) : Multiset (Status S) := w.tasks.map Task.status

theorem statuses_setStatus {w : World B} {k : Nat} {old : Status S} (here : w.status? k = some old)
    (status : Status S) :
    (w.setStatus k status).statuses + {old} = w.statuses + {status} := by
  obtain ⟨task, found, rfl⟩ := Option.map_eq_some_iff.1 here
  obtain ⟨short, -⟩ := List.getElem?_eq_some_iff.1 found
  obtain ⟨before, other, after, split, length, changed⟩ :=
    List.exists_of_modify (fun task : Task S => { task with status }) short
  -- both lists are split at the task that changes
  obtain rfl : task = other := by
    rw [split, List.getElem?_append_right (by omega)] at found
    simpa [← length] using found.symm
  rw [statuses, statuses, setStatus, changed, split]
  simp only [List.map_append, List.map_cons, ← Multiset.coe_add, ← Multiset.cons_coe,
    ← Multiset.singleton_add]
  ac_rfl

theorem Step.next {w w' : World B} (h : w.Step w') :
    Relation.CutExpand Status.Next w'.statuses w.statuses := by
  cases h with
  | @start k job here =>
    refine ⟨{.running job}, .queued job, ?_, statuses_setStatus here _⟩
    simpa using Status.Next.start job
  | @finish k result here =>
    refine ⟨{.ended result}, .running (.done result), ?_, statuses_setStatus here _⟩
    simpa using Status.Next.finish result
  | @answer k op next fate time reply shared here answered =>
    refine ⟨{.running (next reply)}, .running (.ask op next), ?_,
      statuses_setStatus (w := { w with shared }) here _⟩
    simpa using Status.Next.answer op next reply

end World

/-- Whatever steps are taken, the goal is reached: it holds here, or a step is possible and every
step leads to where it is reached. -/
inductive Inevitable {σ : Type} (step : σ → σ → Prop) (goal : σ → Prop) : σ → Prop
  | here {s : σ} (reached : goal s) : Inevitable step goal s
  | later {s : σ} (possible : ∃ s', step s s')
      (further : ∀ s', step s s' → Inevitable step goal s') : Inevitable step goal s

/-- What is inevitable stays so with every step, unless a step undoes it. -/
theorem Inevitable.after {σ : Type} {step : σ → σ → Prop} {goal : σ → Prop} {s s' : σ}
    (h : Inevitable step goal s) (lasts : goal s → step s s' → goal s') (taken : step s s') :
    Inevitable step goal s' := by
  cases h with
  | here reached => exact .here (lasts reached taken)
  | later _ further => exact further s' taken

/-- What is inevitable comes about somewhere within what the steps keep. -/
theorem Inevitable.exists {σ : Type} {step : σ → σ → Prop} {goal P : σ → Prop} {s : σ}
    (h : Inevitable step goal s) (kept : ∀ s s', P s → step s s' → P s') (here : P s) :
    ∃ s', P s' ∧ goal s' := by
  induction h with
  | here reached => exact ⟨_, here, reached⟩
  | later possible _ ih =>
    obtain ⟨s', taken⟩ := possible
    exact ih s' taken (kept _ s' here taken)

theorem Inevitable.mono {σ : Type} {step : σ → σ → Prop} {goal goal' : σ → Prop} {s : σ}
    (weaker : ∀ s, goal s → goal' s) (h : Inevitable step goal s) : Inevitable step goal' s := by
  induction h with
  | here reached => exact .here (weaker _ reached)
  | later possible _ ih => exact .later possible ih

namespace Terms

variable {terms : Terms B}

/-- If there is always a step, the main thread is done at last and comes to its goal. -/
theorem Ends.inevitable {goal : α → World B → Prop} (steady : ∀ a, Stable (goal a))
    (live : ∀ w op, terms.Fine w op → terms.Answerable w op ∨ ∃ w', w.Moves w')
    (p : Conductor.Program S α) :
    ∀ w, p.Ends terms.main goal w →
      Inevitable terms.Step (fun s => ∃ a, s.main = .done a ∧ goal a s.world) ⟨p, w⟩ := by
  induction p with
  | done a => exact fun w h => .here ⟨a, rfl, h⟩
  | ask op next ih =>
    have shrinks : WellFounded
        (InvImage (Relation.CutExpand (Status.Next (S := S))) (World.statuses (B := B))) :=
      have := Status.Next.wellFounded (S := S).irrefl
      InvImage.wf _ Status.Next.wellFounded.cutExpand
    intro w
    -- the main thread waits while tasks go on, which ends because each of them is a finite tree
    induction w using shrinks.induction with
    | _ w tasks =>
      intro h
      refine .later ?_ ?_
      · rcases live w op (h.1 w .refl) with answerable | ⟨w', k, started | ⟨fate, time, worked⟩⟩
        · obtain ⟨fate, random, unfinished, permitted, answered⟩ := answerable
          obtain ⟨⟨reply, w'⟩, answer⟩ := Option.isSome_iff_exists.1 answered
          exact ⟨⟨next reply, w'⟩, .conduct fate random unfinished, permitted,
            Option.map_eq_some_iff.2 ⟨_, answer, rfl⟩⟩
        · exact ⟨⟨.ask op next, w'⟩, .start k, trivial, Option.map_eq_some_iff.2 ⟨_, started, rfl⟩⟩
        · exact ⟨⟨.ask op next, w'⟩, .work k fate time, trivial,
            Option.map_eq_some_iff.2 ⟨_, worked, rfl⟩⟩
      · rintro ⟨main, w'⟩ ⟨choice, admitted, moved⟩
        obtain ⟨same, moves⟩ | ⟨op', next', reply, asks, goes_on, answers⟩ :=
          move_cases admitted moved
        · cases same
          exact tasks w' moves.step.next (Ends.of_moves steady h moves)
        · cases asks
          cases goes_on
          exact ih reply w' (h.2 reply w' answers)

/-- A main thread that is done stays so. -/
theorem done_of_step {a : α} {s s' : State B α} (done : s.main = .done a)
    (step : terms.Step s s') : s'.main = .done a := by
  obtain ⟨choice, admitted, moved⟩ := step
  rcases move_cases admitted moved with ⟨same, -⟩ | ⟨op, next, reply, asks, -⟩
  · exact same.trans done
  · cases done.symm.trans asks

/-- Whatever result is inevitable, every run that is done has come to such a one. -/
theorem result_of_inevitable {goal : α → Prop} {choices : List (Choice B)} {s s' : State B α} {a : α}
    (h : Inevitable terms.Step (fun s => ∃ a, s.main = .done a ∧ goal a) s)
    (admitted : ∀ choice ∈ choices, terms.Admits choice) (played : play choices s = some s')
    (done : s'.main = .done a) : goal a := by
  -- a result that was reached on the way is not lost, so it is still to come at the end
  have still : Inevitable terms.Step (fun s => ∃ a, s.main = .done a ∧ goal a) s' := by
    refine keeps_of_play _ (fun choice there s s' (h : Inevitable _ _ s) moved => ?_) h played
    have step : terms.Step s s' := ⟨choice, admitted choice there, moved⟩
    exact h.after (fun ⟨a, done, reached⟩ _ => ⟨a, done_of_step done step, reached⟩) step
  obtain ⟨last, ended, a', done', reached⟩ :=
    still.exists (P := fun s => s.main = .done a) (fun _ _ => done_of_step) done
  cases ended.symm.trans done'
  exact reached

end Terms

end Concert
end StoreMeter
