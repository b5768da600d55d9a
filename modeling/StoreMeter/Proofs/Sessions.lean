import StoreMeter.Proofs.Surroundings
import StoreMeter.Run
/-
# Proofs.Sessions — steps of a run in their surroundings

A step of a run may fail, and it keeps a session.  `Settles` says what it comes to if it does not
fail, and what holds after each of its failures; its rules follow the ways in which steps are put
together.  `Arrives` is the case in which it only matters whether the step may fail at all.

The outcomes of a phase are collected in one loop, and what holds while it runs is shown by one
rule, `Phase.collectFrom_ends`.
-/
namespace StoreMeter

namespace Phase

section
variable {S σ : Type} {env : Surroundings (Conductor.effects S) σ} {pool : Nat} {mode : Mode}
variable {limit : Value} {late : Option Nat} {unfinished : List Nat}

/-- What each outcome leads to leads from the first one to the last one.  The invariant knows the
outcomes so far, and so the number of the next worker. -/
theorem collectFrom_ends {submissions : List Nat} (inv : List Outcome → σ → Prop)
    (missed : ∀ {outcomes k s}, submissions[outcomes.length]? = some k → k ∈ unfinished →
      inv outcomes s → (timedOut pool mode limit late outcomes.length k).Ends env
        (fun o => inv (outcomes ++ [o])) s)
    (done : ∀ {outcomes k s}, submissions[outcomes.length]? = some k → k ∉ unfinished →
      inv outcomes s → (finished pool mode outcomes.length k).Ends env
        (fun o => inv (outcomes ++ [o])) s)
    {s : σ} (start : inv [] s) :
    (collectFrom pool mode limit late unfinished 0 submissions).Ends env
      (fun outcomes s => outcomes.length = submissions.length ∧ inv outcomes s) s := by
  -- the induction is on the submissions that are left, behind those that were collected
  suffices general : ∀ rest past (outcomes : List Outcome) s, past ++ rest = submissions →
      past.length = outcomes.length → inv outcomes s →
      (collectFrom pool mode limit late unfinished outcomes.length rest).Ends env
        (fun more s => more.length = rest.length ∧ inv (outcomes ++ more) s) s from
    general submissions [] [] s rfl rfl start
  intro rest
  induction rest with
  | nil =>
    intro past outcomes s _ _ h
    exact ⟨rfl, by rwa [List.append_nil]⟩
  | cons k rest ih =>
    intro past outcomes s split count h
    have here : submissions[outcomes.length]? = some k := by
      rw [← split, ← count, List.getElem?_append_right (Nat.le_refl _), Nat.sub_self]
      rfl
    have further (o : Outcome) (s : σ) (h : inv (outcomes ++ [o]) s) :
        (do
          let others ← collectFrom pool mode limit late unfinished (outcomes.length + 1) rest
          pure (o :: others) : Conductor.Program S (List Outcome)).Ends env
        (fun more s => more.length = (k :: rest).length ∧ inv (outcomes ++ more) s) s := by
      have next : (past ++ [k]).length = (outcomes ++ [o]).length := by simp [count]
      have others := ih (past ++ [k]) (outcomes ++ [o]) s (by rwa [List.append_assoc]) next h
      rw [List.length_append, List.length_singleton] at others
      refine Prog.Ends.bind others ?_
      rintro more s ⟨count, h⟩
      rw [List.append_assoc] at h
      exact ⟨congrArg (· + 1) count, h⟩
    rw [collectFrom]
    split
    · rename_i named
      exact (missed here (List.contains_iff_mem.1 named) h).bind further
    · rename_i unnamed
      exact (done here (fun named => unnamed (List.contains_iff_mem.2 named)) h).bind further

/-- The same rule for submissions that have consecutive numbers. -/
theorem collectRange_ends {first count : Nat} (inv : List Outcome → σ → Prop)
    (missed : ∀ {outcomes s}, outcomes.length < count → first + outcomes.length ∈ unfinished →
      inv outcomes s →
        (timedOut pool mode limit late outcomes.length (first + outcomes.length)).Ends env
          (fun o => inv (outcomes ++ [o])) s)
    (done : ∀ {outcomes s}, outcomes.length < count → first + outcomes.length ∉ unfinished →
      inv outcomes s →
        (finished pool mode outcomes.length (first + outcomes.length)).Ends env
          (fun o => inv (outcomes ++ [o])) s)
    {s : σ} (start : inv [] s) :
    (collectFrom pool mode limit late unfinished 0 (List.range' first count)).Ends env
      (fun outcomes s => outcomes.length = count ∧ inv outcomes s) s := by
  have numbered {i k : Nat} (here : (List.range' first count)[i]? = some k) :
      i < count ∧ k = first + i := by
    obtain ⟨below, rfl⟩ := List.getElem?_eq_some_iff.1 here
    rw [List.length_range'] at below
    exact ⟨below, by rw [List.getElem_range', Nat.one_mul]⟩
  refine Prog.Ends.mono (fun outcomes s h => ⟨h.1.trans List.length_range', h.2⟩)
    (collectFrom_ends inv ?_ ?_ start)
  · intro outcomes k s here named h
    obtain ⟨below, rfl⟩ := numbered here
    exact missed below named h
  · intro outcomes k s here unnamed h
    obtain ⟨below, rfl⟩ := numbered here
    exact done below unnamed h

end

end Phase

namespace Run

section
variable {S σ α β : Type} {env : Surroundings (Conductor.effects S) σ} {fails : Fault → σ → Prop}
variable {session : Session} {s : σ}

/-- The goal is reached, or there is a failure and what holds after it. -/
def Met (fails : Fault → σ → Prop) (goal : α → Session → σ → Prop)
    (r : Except Fault α × Session) (s : σ) : Prop :=
  match r.1 with
  | .ok a => goal a r.2 s
  | .error fault => fails fault s

/-- Every way through a step reaches the goal, or it ends in a failure and what holds after it. -/
def Settles (env : Surroundings (Conductor.effects S) σ) (fails : Fault → σ → Prop)
    (goal : α → Session → σ → Prop) (step : Step S α) (session : Session) (s : σ) : Prop :=
  Prog.Ends env (Met fails goal) (step.run.run session) s

theorem settles_pure {goal : α → Session → σ → Prop} {a : α} (h : goal a session s) :
    Settles env fails goal (pure a) session s := h

theorem settles_throw {goal : α → Session → σ → Prop} {fault : Fault} (h : fails fault s) :
    Settles env fails goal (throw fault) session s := h

theorem settles_lift {goal : α → Session → σ → Prop} {program : Conductor.Program S α}
    (h : program.Ends env (fun a s => goal a session s) s) :
    Settles env fails goal (lift program) session s := by
  have kept : (program.bind fun a => Prog.done (a, session)).Ends env
      (fun r s => goal r.1 r.2 s) s := h.bind fun _ _ => id
  exact kept.bind fun _ _ => id

theorem settles_attempt {goal : α → Session → σ → Prop}
    {program : Conductor.Program S (Except Fault α)}
    (h : program.Ends env (fun r s => match r with
      | .ok a => goal a session s
      | .error fault => fails fault s) s) :
    Settles env fails goal (attempt program) session s :=
  Prog.Ends.bind h fun _ _ => id

/-- One step after another. -/
theorem Settles.bind {mid : α → Session → σ → Prop} {goal : β → Session → σ → Prop}
    {step : Step S α} {next : α → Step S β} (h : Settles env fails mid step session s)
    (further : ∀ a session s, mid a session s → Settles env fails goal (next a) session s) :
    Settles env fails goal (step >>= next) session s := by
  apply Prog.Ends.bind h
  rintro ⟨result, session⟩ s settled
  cases result with
  | ok a => exact further a session s settled
  | error fault => exact settled

/-- Weaker goals, after a success and after a failure. -/
theorem Settles.mono {fails' : Fault → σ → Prop} {goal goal' : α → Session → σ → Prop}
    {step : Step S α} (h : Settles env fails goal step session s)
    (ok : ∀ a session s, goal a session s → goal' a session s)
    (error : ∀ fault s, fails fault s → fails' fault s) :
    Settles env fails' goal' step session s := by
  refine Prog.Ends.mono ?_ h
  rintro ⟨result, session⟩ s settled
  cases result with
  | ok a => exact ok a session s settled
  | error fault => exact error fault s settled

/-- A program of the main thread, and a step after it. -/
theorem settles_lift_bind {mid : α → σ → Prop} {goal : β → Session → σ → Prop}
    {program : Conductor.Program S α} {next : α → Step S β} (h : program.Ends env mid s)
    (further : ∀ a s, mid a s → Settles env fails goal (next a) session s) :
    Settles env fails goal (lift program >>= next) session s := by
  have kept : Settles env fails (fun a session' s => mid a s ∧ session' = session)
      (lift program) session s := settles_lift (h.mono fun _ _ reached => ⟨reached, rfl⟩)
  apply kept.bind
  rintro a _ s ⟨reached, rfl⟩
  exact further a s reached

theorem settles_get {goal : α → Session → σ → Prop} {next : Session → Step S α}
    (h : Settles env fails goal (next session) session s) :
    Settles env fails goal (get >>= next) session s := h

theorem settles_modify {goal : α → Session → σ → Prop} {f : Session → Session} {next : Step S α}
    (h : Settles env fails goal next (f session) s) :
    Settles env fails goal (modify f >>= fun _ => next) session s := h

/-- The bytes for each worker are known from the session. -/
theorem settles_size {goal : α → Session → σ → Prop} {size : Nat} {next : Nat → Step S α}
    (known : session.size = some size) (h : Settles env fails goal (next size) session s) :
    Settles env fails goal (sizeInBytes >>= next) session s := by
  have same : (sizeInBytes (S := S)).run.run session = Prog.done (.ok size, session) := by
    obtain ⟨_, late, pool⟩ := session
    cases known
    rfl
  have settled : Settles env fails (fun found session' s' => found = size ∧ session' = session ∧
      s' = s) (sizeInBytes (S := S)) session s := by
    rw [Settles, same]
    exact ⟨rfl, rfl, rfl⟩
  apply settled.bind
  rintro _ _ _ ⟨rfl, rfl, rfl⟩
  exact h

/-- A step whose failure is kept until a program of the main thread has run. -/
theorem settles_finally {inner goal : α → Session → σ → Prop} {broken : Fault → σ → Prop}
    {step : Step S α} {program : Conductor.Program S Unit}
    (h : Settles env broken inner step session s)
    (ok : ∀ a session s, inner a session s → program.Ends env (fun _ s => goal a session s) s)
    (error : ∀ fault s, broken fault s → program.Ends env (fun _ s => fails fault s) s) :
    Settles env fails goal (do
      let result ← ExceptT.lift (ExceptT.run step)
      lift program
      ExceptT.mk (pure result)) session s := by
  have kept : Settles env fails (fun result session s => match result with
      | .ok a => inner a session s
      | .error fault => broken fault s) (ExceptT.lift (ExceptT.run step)) session s := by
    apply Prog.Ends.bind h
    rintro ⟨result, session⟩ s settled
    cases result <;> exact settled
  refine kept.bind fun result session s settled => ?_
  cases result with
  | ok a => exact settles_lift_bind (ok a session s settled) fun _ _ reached => reached
  | error fault => exact settles_lift_bind (error fault s settled) fun _ _ failed => failed

end

section
variable {S σ α β : Type} {env : Surroundings (Conductor.effects S) σ} {fails : Prop}
variable {session : Session} {s : σ}

/-- The goal is reached, or there is a failure and there may be one. -/
def Reached (fails : Prop) (goal : α → Session → σ → Prop) (r : Except Fault α × Session) (s : σ) :
    Prop :=
  match r.1 with
  | .ok a => goal a r.2 s
  | .error _ => fails

/-- Every way through a step reaches the goal, or the step fails and is one that may fail. -/
def Arrives (env : Surroundings (Conductor.effects S) σ) (fails : Prop)
    (goal : α → Session → σ → Prop) (step : Step S α) (session : Session) (s : σ) : Prop :=
  Prog.Ends env (Reached fails goal) (step.run.run session) s

theorem arrives_pure {goal : α → Session → σ → Prop} {a : α} (h : goal a session s) :
    Arrives env fails goal (pure a) session s := settles_pure h

theorem arrives_throw {goal : α → Session → σ → Prop} {fault : Fault} (h : fails) :
    Arrives env fails goal (throw fault) session s := settles_throw h

theorem arrives_attempt {goal : α → Session → σ → Prop}
    {program : Conductor.Program S (Except Fault α)}
    (h : program.Ends env (fun r s => match r with
      | .ok a => goal a session s
      | .error _ => fails) s) :
    Arrives env fails goal (attempt program) session s := settles_attempt h

/-- One step after another. -/
theorem Arrives.bind {mid : α → Session → σ → Prop} {goal : β → Session → σ → Prop}
    {step : Step S α} {next : α → Step S β} (h : Arrives env fails mid step session s)
    (further : ∀ a session s, mid a session s → Arrives env fails goal (next a) session s) :
    Arrives env fails goal (step >>= next) session s := Settles.bind h further

/-- A program of the main thread, and a step after it. -/
theorem arrives_lift_bind {mid : α → σ → Prop} {goal : β → Session → σ → Prop}
    {program : Conductor.Program S α} {next : α → Step S β} (h : program.Ends env mid s)
    (further : ∀ a s, mid a s → Arrives env fails goal (next a) session s) :
    Arrives env fails goal (lift program >>= next) session s := settles_lift_bind h further

theorem arrives_get {goal : α → Session → σ → Prop} {next : Session → Step S α}
    (h : Arrives env fails goal (next session) session s) :
    Arrives env fails goal (get >>= next) session s := settles_get h

theorem arrives_modify {goal : α → Session → σ → Prop} {f : Session → Session} {next : Step S α}
    (h : Arrives env fails goal next (f session) s) :
    Arrives env fails goal (modify f >>= fun _ => next) session s := settles_modify h

/-- The bytes for each worker are known from the session. -/
theorem arrives_size {goal : α → Session → σ → Prop} {size : Nat} {next : Nat → Step S α}
    (known : session.size = some size) (h : Arrives env fails goal (next size) session s) :
    Arrives env fails goal (sizeInBytes >>= next) session s := settles_size known h

/-- A step whose failure is kept until a program of the main thread has run. -/
theorem arrives_finally {inner goal : α → Session → σ → Prop} {step : Step S α}
    {program : Conductor.Program S Unit} (h : Arrives env fails inner step session s)
    (ok : ∀ a session s, inner a session s → program.Ends env (fun _ s => goal a session s) s)
    (error : ∀ s, fails → program.Ends env (fun _ _ => fails) s) :
    Arrives env fails goal (do
      let result ← ExceptT.lift (ExceptT.run step)
      lift program
      ExceptT.mk (pure result)) session s := settles_finally h ok fun _ => error

end

end Run
end StoreMeter
