import StoreMeter.Proofs.Concert.Machine
import StoreMeter.Proofs.Surroundings
/-
# Proofs.Concert.Contracts — what a worker relies on and what it keeps

A worker sees little of the world: its own object, its own entry in a set of late workers, the
clock.  A `Protocol` gives each task a local state for what it sees and does, with the surroundings
that its program runs in, and a `View` ties the local states to what the tasks share.  If each
question of a task changes its own view as its surroundings say and leaves the views of all others
alone (`Lawful`), then every step of every task keeps all contracts (`Sound.step`).
-/
namespace StoreMeter
namespace Concert

variable {S : Type} {B : Backend S}

/-! ## Answers to workers -/

theorem Shared.answer_clock {shared shared' : Shared B} {fate : B.Fate} {time reply : Binary64} :
    shared.answer fate time .clock = some (reply, shared') ↔
      B.ticks shared.clock time = true ∧ reply = time ∧
        shared' = { shared with clock := some time } := by
  constructor
  · intro answered
    by_cases ticks : B.ticks shared.clock time = true
    · rw [answer, if_pos ticks] at answered
      cases answered
      exact ⟨ticks, rfl, rfl⟩
    · rw [answer, if_neg ticks] at answered
      cases answered
  · rintro ⟨ticks, rfl, rfl⟩
    rw [answer, if_pos ticks]
    rfl

theorem Shared.answer_storage {shared shared' : Shared B} {fate : B.Fate} {time : Binary64}
    {op : Storage.Operation S} {reply : op.Answer} :
    shared.answer fate time (.storage op) = some (reply, shared') ↔
      ∃ store, B.answer fate op shared.store = (reply, store) ∧
        shared' = { shared with store } := by
  constructor
  · rintro ⟨⟩
    exact ⟨_, rfl, rfl⟩
  · rintro ⟨store, answer, rfl⟩
    rw [Shared.answer, answer]
    rfl

theorem Shared.lates_answer {shared shared' : Shared B} {fate : B.Fate} {time : Binary64}
    {op : Worker.Op S} {reply : op.Answer}
    (h : shared.answer fate time op = some (reply, shared')) : shared'.lates = shared.lates := by
  cases op with
  | storage op | log entry | isLate late index =>
    cases h
    rfl
  | clock =>
    obtain ⟨-, -, rfl⟩ := answer_clock.1 h
    rfl

namespace World

/-! ## Answers to the main thread -/

section
variable {w w' : World B} {fate : B.Fate} {random : Except Fault ByteArray} {unfinished : List Nat}

theorem answer_storage {op : Storage.Operation S} {reply : op.Answer} :
    w.answer fate random unfinished (.storage op) = some (reply, w') ↔
      ∃ store, B.answer fate op w.shared.store = (reply, store) ∧ w' = w.withStore store := by
  constructor
  · rintro ⟨⟩
    exact ⟨_, rfl, rfl⟩
  · rintro ⟨store, answer, rfl⟩
    rw [World.answer, answer]
    rfl

theorem answer_entropy {size : Int} {reply : Except Fault ByteArray} :
    w.answer fate random unfinished (.entropy size) = some (reply, w') ↔
      reply = random ∧ (∀ bytes, random = .ok bytes → bytes.size = size) ∧
        w' = { w with drawn := w.drawn ++ random.toOption.toList } := by
  cases random with
  | error fault =>
    have same : { w with drawn := w.drawn ++ [] } = w := by rw [List.append_nil]
    constructor
    · rintro ⟨⟩
      exact ⟨rfl, nofun, same.symm⟩
    · rintro ⟨rfl, -, rfl⟩
      exact congrArg (fun w => some (Except.error fault, w)) same.symm
  | ok bytes =>
    by_cases fits : (bytes.size : Int) = size
    · constructor
      · intro answered
        rw [answer, if_pos fits] at answered
        cases answered
        exact ⟨rfl, fun _ same => Except.ok.inj same ▸ fits, rfl⟩
      · rintro ⟨rfl, -, rfl⟩
        rw [answer, if_pos fits]
        rfl
    · constructor
      · intro answered
        rw [answer, if_neg fits] at answered
        cases answered
      · exact fun told => absurd (told.2.1 bytes rfl) fits

/-- What a wait has named it had waited for, the others have ended, and without a limit it names
nobody. -/
theorem tells_iff {submissions : List Nat} {limit : Value} :
    w.tells submissions unfinished limit = true ↔
      (∀ k ∈ unfinished, k ∈ submissions) ∧
        (∀ k ∈ submissions, k ∉ unfinished → ∃ result, w.status? k = some (.ended result)) ∧
          (limit = .null → unfinished = []) := by
  have ended_iff (k : Nat) : (w.status? k).any Status.isEnded = true ↔
      ∃ result, w.status? k = some (.ended result) := by
    constructor
    · intro ended
      obtain ⟨status, found, ended⟩ := (Option.any_eq_true _ _).1 ended
      obtain ⟨result, rfl⟩ := Status.exists_of_isEnded ended
      exact ⟨result, found⟩
    · rintro ⟨result, found⟩
      rw [found]
      rfl
  unfold tells
  rw [Bool.and_eq_true, Bool.and_eq_true, and_assoc]
  refine and_congr ?_ (and_congr ?_ ?_)
  · simp only [List.all_eq_true, List.contains_iff_mem]
  · simp only [List.all_eq_true, List.contains_iff_mem, Bool.or_eq_true, ended_iff,
      Decidable.or_iff_not_imp_left]
  · cases limit <;> simp

theorem answer_wait {pool : Nat} {submissions : List Nat} {limit : Value}
    {reply : Except Fault (List Nat)} :
    w.answer fate random unfinished (.wait pool submissions limit) = some (reply, w') ↔
      w.tells submissions unfinished limit = true ∧
        reply = Conductor.waitResult unfinished limit ∧ w' = w := by
  by_cases tells : w.tells submissions unfinished limit = true
  · rw [answer, if_pos tells]
    constructor
    · rintro ⟨⟩
      exact ⟨tells, rfl, rfl⟩
    · rintro ⟨-, rfl, rfl⟩
      rfl
  · rw [answer, if_neg tells]
    exact ⟨nofun, fun told => absurd told.1 tells⟩

theorem answer_cancel {pool k : Nat} {reply : Bool} :
    w.answer fate random unfinished (.cancel pool k) = some (reply, w') ↔
      ∃ status, w.status? k = some status ∧ reply = status.cancel.1 ∧
        w' = w.setStatus k status.cancel.2 := by
  constructor
  · intro answered
    obtain ⟨status, found, same⟩ := Option.map_eq_some_iff.1 answered
    cases same
    exact ⟨status, found, rfl, rfl⟩
  · rintro ⟨status, found, rfl, rfl⟩
    exact Option.map_eq_some_iff.2 ⟨status, found, rfl⟩

theorem answer_result {pool k : Nat} {reply : Except Fault Outcome} :
    w.answer fate random unfinished (.result pool k) = some (reply, w') ↔
      w.status? k = some (.ended reply) ∧ w' = w := by
  constructor
  · intro answered
    dsimp only [answer] at answered
    split at answered
    · rename_i result found
      cases answered
      exact ⟨found, rfl⟩
    · cases answered
  · rintro ⟨found, rfl⟩
    rw [answer, found]
    rfl

/-- A pool that is waited for has nothing left to do. -/
theorem answer_shutdown {pool : Nat} {waits cancels : Bool} {reply : Unit} :
    w.answer fate random unfinished (.shutdown pool waits cancels) = some (reply, w') ↔
      w' = (if cancels = true then w.takeBack pool else w) ∧
        (waits = true → ∀ task ∈ w'.tasks, task.pool = pool → task.status.isOver = true) := by
  dsimp only [answer]
  generalize (if cancels = true then w.takeBack pool else w) = closed
  by_cases busy : (waits && closed.tasks.any fun task =>
      task.pool == pool && !task.status.isOver) = true
  · rw [if_pos busy]
    simp only [Bool.and_eq_true, List.any_eq_true, beq_iff_eq, Bool.not_eq_true'] at busy
    obtain ⟨waits, task, there, own, still⟩ := busy
    refine ⟨nofun, ?_⟩
    rintro ⟨rfl, all⟩
    cases still.symm.trans (all waits task there own)
  · rw [if_neg busy]
    constructor
    · rintro ⟨⟩
      refine ⟨rfl, fun waits task there own => ?_⟩
      rw [← Bool.not_eq_false]
      exact fun still => busy (by simpa [waits] using ⟨task, there, own, still⟩)
    · rintro ⟨rfl, -⟩
      rfl

/-- What workers and the main thread share changes only where an operation, a new set of late workers
or another late worker changes it. -/
theorem shared_answer {op : Conductor.Op S} {reply : op.Answer}
    (answered : w.answer fate random unfinished op = some (reply, w')) :
    w'.shared = match op with
      | .storage call => { w.shared with store := (B.answer fate call w.shared.store).2 }
      | .newLate => { w.shared with lates := w.shared.lates ++ [.nobody] }
      | .addLate late index => { w.shared with lates := w.shared.lates.modify late (·.add index) }
      | _ => w.shared := by
  cases op with
  | entropy size =>
    obtain ⟨-, -, rfl⟩ := answer_entropy.1 answered
    rfl
  | wait pool submissions limit =>
    obtain ⟨-, -, rfl⟩ := answer_wait.1 answered
    rfl
  | cancel pool k =>
    obtain ⟨status, -, -, rfl⟩ := answer_cancel.1 answered
    rfl
  | result pool k =>
    obtain ⟨-, rfl⟩ := answer_result.1 answered
    rfl
  | shutdown pool waits cancels =>
    obtain ⟨rfl, -⟩ := answer_shutdown.1 answered
    cases cancels <;> rfl
  | storage _ | log _ | newPool _ _ | submit _ _ | newLate | addLate _ _ | lateIndexes _ | enter _ =>
    cases answered
    rfl

/-- The sets of late workers change only where the main thread says so. -/
theorem lates_answer {op : Conductor.Op S} {reply : op.Answer}
    (answered : w.answer fate random unfinished op = some (reply, w')) :
    w'.shared.lates = match op with
      | .newLate => w.shared.lates ++ [.nobody]
      | .addLate late index => w.shared.lates.modify late (·.add index)
      | _ => w.shared.lates := by
  rw [shared_answer answered]
  cases op <;> rfl

end

/-! ## The table of tasks -/

@[simp]
theorem shared_setStatus (w : World B) (k : Nat) (status : Status S) :
    (w.setStatus k status).shared = w.shared := rfl

@[simp]
theorem length_setStatus (w : World B) (k : Nat) (status : Status S) :
    (w.setStatus k status).tasks.length = w.tasks.length := by
  simp [setStatus]

theorem status?_setStatus (w : World B) (k j : Nat) (status : Status S) :
    (w.setStatus k status).status? j =
      if j = k then (w.status? j).map fun _ => status else w.status? j := by
  simp only [status?, setStatus, List.getElem?_modify, Option.map_eq_map, Option.map_map]
  by_cases same : k = j
  · simp [same, Function.comp_def]
  · simp [same, Ne.symm same, Function.comp_def]

theorem status?_submit (w : World B) (pool j : Nat) (job : Worker.Job S) :
    (w.submit pool job).status? j =
      if j = w.tasks.length then some (.queued job) else w.status? j := by
  simp only [status?, submit, List.getElem?_append]
  split
  · rw [if_neg (by omega)]
  · by_cases last : j = w.tasks.length
    · simp [last]
    · rw [if_neg last, List.getElem?_eq_none (by simp; omega), List.getElem?_eq_none (by omega)]

theorem status?_isSome (w : World B) {k : Nat} : k < w.tasks.length ↔ (w.status? k).isSome := by
  simp [status?]

/-- A new task leaves those that there are. -/
theorem status?_submit_old {w : World B} {k : Nat} {status : Status S}
    (found : w.status? k = some status) (pool : Nat) (job : Worker.Job S) :
    (w.submit pool job).status? k = some status := by
  have old : k < w.tasks.length := w.status?_isSome.2 (by rw [found]; rfl)
  rw [status?_submit, if_neg (Nat.ne_of_lt old), found]

theorem status?_takeBack {w : World B} {pool k : Nat} {status : Status S}
    (found : (w.takeBack pool).status? k = some status) :
    ∃ old, w.status? k = some old ∧ (status = old ∨ status = old.cancel.2) := by
  simp only [status?, takeBack, List.getElem?_map, Option.map_map, Option.map_eq_some_iff] at found
  obtain ⟨task, there, rfl⟩ := found
  refine ⟨task.status, Option.map_eq_some_iff.2 ⟨task, there, rfl⟩, ?_⟩
  simp only [Function.comp]
  split
  · exact .inr rfl
  · exact .inl rfl

/-- Taking tasks back leaves those that are over. -/
theorem status?_cancel_over {w : World B} {k j : Nat} {status final : Status S}
    (found : w.status? k = some status) (there : w.status? j = some final)
    (past : final.isOver = true) : (w.setStatus k status.cancel.2).status? j = some final := by
  rw [status?_setStatus]
  split
  · rename_i same
    subst same
    rw [found] at there
    cases there
    rw [found]
    cases status <;> first | rfl | cases past
  · exact there

theorem status?_takeBack_over {w : World B} (pool : Nat) {j : Nat} {final : Status S}
    (there : w.status? j = some final) (past : final.isOver = true) :
    (w.takeBack pool).status? j = some final := by
  obtain ⟨⟨here, status⟩, found, rfl⟩ := Option.map_eq_some_iff.1 there
  simp only [status?, takeBack, List.getElem?_map, found, Option.map_some]
  split
  · cases status <;> first | rfl | cases past
  · rfl

/-! ## Steps of tasks -/

theorem start_eq_some {w w' : World B} {k : Nat} (started : w.start k = some w') :
    ∃ job, w.status? k = some (.queued job) ∧ w' = w.setStatus k (.running job) := by
  unfold start at started
  split at started
  · rename_i pool job here
    split at started
    · cases started
      exact ⟨job, by simp [status?, here], rfl⟩
    · cases started
  · cases started

theorem work_eq_some {w w' : World B} {k : Nat} {fate : B.Fate} {time : Binary64}
    (worked : w.work k fate time = some w') :
    (∃ result, w.status? k = some (.running (.done result)) ∧ w' = w.setStatus k (.ended result)) ∨
      ∃ (op : Worker.Op S) (next : op.Answer → Worker.Job S) (reply : op.Answer)
        (shared : Shared B), w.status? k = some (.running (.ask op next)) ∧
          w.shared.answer fate time op = some (reply, shared) ∧
            w' = { w with shared }.setStatus k (.running (next reply)) := by
  unfold work at worked
  split at worked
  · rename_i result here
    cases worked
    exact .inl ⟨result, here, rfl⟩
  · rename_i op next here
    obtain ⟨⟨reply, shared⟩, answered, rfl⟩ := Option.map_eq_some_iff.1 worked
    exact .inr ⟨op, next, reply, shared, here, answered, rfl⟩
  · cases worked

/-- One task goes on, whichever it is. -/
def Moves (w w' : World B) : Prop :=
  ∃ k, w.start k = some w' ∨ ∃ fate time, w.work k fate time = some w'

/-- What a step of a task can be: a start, an end, or an answer to its question. -/
inductive Step (w : World B) : World B → Prop
  | start {k : Nat} {job : Worker.Job S} (here : w.status? k = some (.queued job)) :
      Step w (w.setStatus k (.running job))
  | finish {k : Nat} {result : Except Fault Outcome}
      (here : w.status? k = some (.running (.done result))) :
      Step w (w.setStatus k (.ended result))
  | answer {k : Nat} {op : Worker.Op S} {next : op.Answer → Worker.Job S} {fate : B.Fate}
      {time : Binary64} {reply : op.Answer} {shared : Shared B}
      (here : w.status? k = some (.running (.ask op next)))
      (answered : w.shared.answer fate time op = some (reply, shared)) :
      Step w ({ w with shared }.setStatus k (.running (next reply)))

theorem Moves.step {w w' : World B} (h : w.Moves w') : w.Step w' := by
  obtain ⟨k, started | ⟨fate, time, worked⟩⟩ := h
  · obtain ⟨job, here, rfl⟩ := start_eq_some started
    exact .start here
  · rcases work_eq_some worked with ⟨result, here, rfl⟩ |
      ⟨op, next, reply, shared, here, answered, rfl⟩
    · exact .finish here
    · exact .answer here answered

end World

/-! ## Decisions -/

section
variable {α : Type} {s s' : State B α}

/-- What a decision can be: a step of a task, or an answer to the main thread. -/
inductive Decided (s s' : State B α) : Choice B → Prop
  | start {k : Nat} (same : s'.main = s.main) (started : s.world.start k = some s'.world) :
    Decided s s' (.start k)
  | work {k : Nat} {fate : B.Fate} {time : Binary64} (same : s'.main = s.main)
    (worked : s.world.work k fate time = some s'.world) : Decided s s' (.work k fate time)
  | conduct {fate : B.Fate} {random : Except Fault ByteArray} {unfinished : List Nat}
    {op : Conductor.Op S} {next : op.Answer → Conductor.Program S α} {reply : op.Answer}
    (asks : s.main = .ask op next) (goes_on : s'.main = next reply)
    (answered : s.world.answer fate random unfinished op = some (reply, s'.world)) :
    Decided s s' (.conduct fate random unfinished)

theorem decided_of_move {choice : Choice B} (moved : move choice s = some s') :
    Decided s s' choice := by
  obtain ⟨main, w⟩ := s
  cases choice with
  | start k =>
    obtain ⟨w', started, rfl⟩ := Option.map_eq_some_iff.1 moved
    exact .start rfl started
  | work k fate time =>
    obtain ⟨w', worked, rfl⟩ := Option.map_eq_some_iff.1 moved
    exact .work rfl worked
  | conduct fate random unfinished =>
    cases main with
    | done a => cases moved
    | ask op next =>
      obtain ⟨⟨reply, w'⟩, answered, rfl⟩ := Option.map_eq_some_iff.1 moved
      exact .conduct rfl rfl answered

/-- What each decision of a list keeps holds after all of them. -/
theorem keeps_of_play (keeps : State B α → Prop) {choices : List (Choice B)}
    (step : ∀ choice ∈ choices, ∀ {s s'}, keeps s → move choice s = some s' → keeps s')
    (h : keeps s) (played : play choices s = some s') : keeps s' := by
  induction choices generalizing s with
  | nil =>
    cases played
    exact h
  | cons choice rest ih =>
    obtain ⟨s₁, moved, played⟩ := Option.bind_eq_some_iff.1 played
    exact ih (fun _ there => step _ (List.mem_cons_of_mem _ there))
      (step choice List.mem_cons_self h moved) played

end

/-! ## Protocols -/

/-- The contracts of tasks by their numbers: local states, the surroundings in which the program of
a task runs, and what holds of a task that has ended or was taken back. -/
structure Protocol (S : Type) where
  Local : Type
  env : Nat → Surroundings (Worker.effects S) Local
  Goal : Nat → Except Fault Outcome → Local → Prop
  Quiet : Nat → Local → Prop

/-- How the local states of tasks agree with what the tasks share. -/
abbrev View (B : Backend S) (π : Protocol S) := Nat → Shared B → π.Local → Prop

namespace Protocol

variable {π : Protocol S} {view : View B π}

/-- The questions of a task change its own view as its surroundings say, and no other view. -/
structure Lawful (π : Protocol S) (view : View B π) : Prop where
  own : ∀ {k : Nat} {shared shared' : Shared B} {l : π.Local} {op : Worker.Op S} {reply : op.Answer}
    {fate : B.Fate} {time : Binary64}, view k shared l → (π.env k).Allows l op →
    shared.answer fate time op = some (reply, shared') →
    ∃ l', (π.env k).Answers l op reply l' ∧ view k shared' l'
  others : ∀ {k j : Nat} {shared shared' : Shared B} {l m : π.Local} {op : Worker.Op S}
    {reply : op.Answer} {fate : B.Fate} {time : Binary64}, j ≠ k → view k shared l →
    (π.env k).Allows l op → shared.answer fate time op = some (reply, shared') →
    view j shared m → view j shared' m

/-- The contract of a task by its status. -/
def Holds (π : Protocol S) (view : View B π) (k : Nat) (shared : Shared B) : Status S → Prop
  | .queued job => ∃ l, view k shared l ∧ job.Ends (π.env k) (π.Goal k) l
  | .running rest => ∃ l, view k shared l ∧ rest.Ends (π.env k) (π.Goal k) l
  | .ended result => ∃ l, view k shared l ∧ π.Goal k result l
  | .takenBack => ∃ l, view k shared l ∧ π.Quiet k l

/-- All tasks keep their contracts. -/
def Sound (π : Protocol S) (view : View B π) (w : World B) : Prop :=
  ∀ k status, w.status? k = some status → π.Holds view k w.shared status

/-- A contract only depends on the view of its task. -/
theorem Holds.mono {view' : View B π} {k : Nat} {shared shared' : Shared B} {status : Status S}
    (same : ∀ l, view k shared l → view' k shared' l) (h : π.Holds view k shared status) :
    π.Holds view' k shared' status := by
  cases status with
  | queued job | running rest | ended result | takenBack =>
    obtain ⟨l, agrees, rest⟩ := h
    exact ⟨l, same l agrees, rest⟩

/-- A new status of one task, with a change of what is shared that no other task sees. -/
theorem Sound.update {w : World B} (sound : π.Sound view w) {k : Nat} {shared : Shared B}
    {status : Status S} (own : π.Holds view k shared status)
    (others : ∀ j, j ≠ k → ∀ l, view j w.shared l → view j shared l) :
    π.Sound view ({ w with shared }.setStatus k status) := by
  intro j found there
  rw [World.status?_setStatus] at there
  by_cases same : j = k
  · subst same
    rw [if_pos rfl, Option.map_eq_some_iff] at there
    obtain ⟨_, -, rfl⟩ := there
    exact own
  · rw [if_neg same] at there
    exact (sound j found there).mono (others j same)

/-- A step of a task keeps all contracts. -/
theorem Sound.step (lawful : Lawful π view) {w w' : World B} (sound : π.Sound view w)
    (step : w.Step w') : π.Sound view w' := by
  -- only an answer changes what is shared; the other steps keep all views
  cases step with
  | start here =>
    obtain ⟨l, agrees, ends⟩ := sound _ _ here
    exact sound.update ⟨l, agrees, ends⟩ fun _ _ _ => id
  | finish here =>
    obtain ⟨l, agrees, ends⟩ := sound _ _ here
    exact sound.update ⟨l, agrees, ends⟩ fun _ _ _ => id
  | answer here answered =>
    obtain ⟨l, agrees, asks⟩ := sound _ _ here
    obtain ⟨l', answers, agrees'⟩ := lawful.own agrees asks.1 answered
    exact sound.update ⟨l', agrees', asks.2 _ l' answers⟩
      fun j other m => lawful.others other agrees asks.1 answered

/-- What no question that is allowed changes stays as the tasks go on. -/
theorem Sound.shared {Q : Shared B → Prop} {w w' : World B} (sound : π.Sound view w)
    (kept : ∀ {k : Nat} {shared' : Shared B} {l : π.Local} {op : Worker.Op S} {reply : op.Answer}
      {fate : B.Fate} {time : Binary64}, k < w.tasks.length → view k w.shared l →
      (π.env k).Allows l op → w.shared.answer fate time op = some (reply, shared') → Q shared')
    (h : Q w.shared) (step : w.Step w') : Q w'.shared := by
  cases step with
  | start here | finish here => exact h
  | answer here answered =>
    obtain ⟨l, agrees, asks⟩ := sound _ _ here
    exact kept (w.status?_isSome.2 (by rw [here]; rfl)) agrees asks.1 answered

/-- A new task has to keep its own contract only. -/
theorem Sound.submit {w : World B} (sound : π.Sound view w) {pool : Nat} {job : Worker.Job S}
    (fresh : π.Holds view w.tasks.length w.shared (.queued job)) :
    π.Sound view (w.submit pool job) := by
  intro k status there
  rw [World.status?_submit] at there
  split at there
  · rename_i last
    cases there
    exact last ▸ fresh
  · exact sound k status there

/-- Taking a task back asks nothing of it but to be quiet. -/
theorem Holds.cancel {k : Nat} {shared : Shared B} {status : Status S}
    (quiet : ∀ l, view k shared l → ∃ l', view k shared l' ∧ π.Quiet k l')
    (h : π.Holds view k shared status) : π.Holds view k shared status.cancel.2 := by
  cases status with
  | queued job =>
    obtain ⟨l, agrees, -⟩ := h
    exact quiet l agrees
  | running rest | ended result | takenBack => exact h

theorem Sound.cancel {w : World B} (sound : π.Sound view w) {k : Nat} {status : Status S}
    (found : w.status? k = some status)
    (quiet : ∀ l, view k w.shared l → ∃ l', view k w.shared l' ∧ π.Quiet k l') :
    π.Sound view (w.setStatus k status.cancel.2) :=
  sound.update ((sound k status found).cancel quiet) fun _ _ _ => id

theorem Sound.takeBack {w : World B} (sound : π.Sound view w) (pool : Nat)
    (quiet : ∀ k l, view k w.shared l → ∃ l', view k w.shared l' ∧ π.Quiet k l') :
    π.Sound view (w.takeBack pool) := by
  intro k status there
  obtain ⟨old, found, rfl | rfl⟩ := World.status?_takeBack there
  · exact sound k status found
  · exact (sound k old found).cancel (quiet k)

/-- What tells a view from another one leaves all contracts as they are. -/
theorem Sound.mono {view' : View B π} {w w' : World B} (sound : π.Sound view w)
    (tasks : w'.tasks = w.tasks) (same : ∀ k l, view k w.shared l → view' k w'.shared l) :
    π.Sound view' w' := by
  intro k status there
  rw [World.status?, tasks] at there
  exact (sound k status there).mono (same k)

end Protocol

end Concert
end StoreMeter
