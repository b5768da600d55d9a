import StoreMeter.Prog
/-
# Proofs.Surroundings — programs in surroundings that answer as they like

A statement about a program is a statement about all the answers that it may get.  `Surroundings`
say which questions a program may ask in a state and which answers each of them may get; the state
is whatever the statement keeps count of, a store, a history or nothing at all.  `Prog.Ends` holds
of a program if every way through it asks only what is allowed and comes to the goal.

The rules follow the shape of a program: `ends_done`, `ends_ask` and `ends_bind`, and `ends_mapM`
for the same step over a list.  `Comes` says what a program may come to, so that a whole program can
be one question of another one.  `Ends.runWith` leads back to a run against answers that are given
by a function.
-/
namespace StoreMeter

/-- The questions that a program may ask in a state, and the answers that each may get, with the
state after the answer. -/
structure Surroundings (E : Effects) (σ : Type) where
  Allows : σ → E.Op → Prop
  Answers : σ → (op : E.Op) → E.Answer op → σ → Prop

namespace Prog

variable {E : Effects} {α β σ τ : Type}

/-- Every way through the program asks only what is allowed, and comes to the goal. -/
def Ends (env : Surroundings E σ) (goal : α → σ → Prop) : Prog E α → σ → Prop
  | done a, s => goal a s
  | ask op next, s =>
    env.Allows s op ∧ ∀ reply s', env.Answers s op reply s' → Ends env goal (next reply) s'

/-! ## One rule for each shape -/

variable {env : Surroundings E σ} {goal : α → σ → Prop}

@[simp]
theorem ends_done (a : α) (s : σ) : (done a : Prog E α).Ends env goal s ↔ goal a s := Iff.rfl

theorem ends_ask (op : E.Op) (next : E.Answer op → Prog E α) (s : σ) :
    (ask op next).Ends env goal s ↔
      env.Allows s op ∧ ∀ reply s', env.Answers s op reply s' → (next reply).Ends env goal s' :=
  Iff.rfl

theorem ends_bind (p : Prog E α) (k : α → Prog E β) (goal : β → σ → Prop) (s : σ) :
    (p.bind k).Ends env goal s ↔ p.Ends env (fun a => (k a).Ends env goal) s := by
  induction p generalizing s with
  | done a => rfl
  | ask op next ih => simp only [ask_bind, ends_ask, ih]

/-- A choice between two programs. -/
theorem ends_ite {c : Prop} [Decidable c] {p q : Prog E α} {s : σ} (yes : c → p.Ends env goal s)
    (no : ¬ c → q.Ends env goal s) : (if c then p else q).Ends env goal s := by
  split
  · rename_i holds
    exact yes holds
  · rename_i fails
    exact no fails

/-! ## Weaker goals -/

theorem Ends.mono {goal' : α → σ → Prop} (weaker : ∀ a s, goal a s → goal' a s) {p : Prog E α}
    {s : σ} (h : p.Ends env goal s) : p.Ends env goal' s := by
  induction p generalizing s with
  | done a => exact weaker a s h
  | ask op next ih => exact ⟨h.1, fun reply s' answered => ih reply (h.2 reply s' answered)⟩

/-- One program after another: what the first comes to is where the second starts. -/
theorem Ends.bind {mid : α → σ → Prop} {goal : β → σ → Prop} {p : Prog E α} {k : α → Prog E β}
    {s : σ} (first : p.Ends env mid s) (second : ∀ a s, mid a s → (k a).Ends env goal s) :
    (p.bind k).Ends env goal s :=
  (ends_bind p k goal s).2 (first.mono second)

/-- Two goals at once, where the second asks no more of the answers than the first. -/
theorem Ends.and {env' : Surroundings E σ} {goal' : α → σ → Prop} {p : Prog E α} {s : σ}
    (answers : ∀ s op reply s', env.Answers s op reply s' → env'.Answers s op reply s')
    (h : p.Ends env goal s) (h' : p.Ends env' goal' s) :
    p.Ends env (fun a s => goal a s ∧ goal' a s) s := by
  induction p generalizing s with
  | done a => exact ⟨h, h'⟩
  | ask op next ih =>
    exact ⟨h.1, fun reply s' answered =>
      ih reply (h.2 reply s' answered) (h'.2 reply s' (answers s op reply s' answered))⟩

/-! ## What a program may come to -/

/-- Some way through the program leads to this result and this state. -/
def Comes (env : Surroundings E σ) : Prog E α → σ → α → σ → Prop
  | done a, s, result, after => result = a ∧ after = s
  | ask op next, s, result, after =>
    ∃ reply s', env.Answers s op reply s' ∧ Comes env (next reply) s' result after

/-- One program after another, each on its way. -/
theorem Comes.bind {p : Prog E α} {k : α → Prog E β} {s mid after : σ} {a : α} {b : β}
    (first : p.Comes env s a mid) (second : (k a).Comes env mid b after) :
    (p.bind k).Comes env s b after := by
  induction p generalizing s with
  | done _ =>
    obtain ⟨rfl, rfl⟩ := first
    exact second
  | ask op next ih =>
    obtain ⟨reply, s', answered, rest⟩ := first
    exact ⟨reply, s', answered, ih reply rest⟩

theorem Ends.of_comes {p : Prog E α} {s after : σ} {result : α} (h : p.Ends env goal s)
    (comes : p.Comes env s result after) : goal result after := by
  induction p generalizing s with
  | done a =>
    obtain ⟨rfl, rfl⟩ := comes
    exact h
  | ask op next ih =>
    obtain ⟨reply, s', answered, comes⟩ := comes
    exact ih reply (h.2 reply s' answered) comes

/-- A program that asks only what is allowed ends where some way leads to. -/
theorem Ends.comes {p : Prog E α} {s : σ} (h : p.Ends env goal s) :
    p.Ends env (fun result after => p.Comes env s result after) s := by
  induction p generalizing s with
  | done a => exact ⟨rfl, rfl⟩
  | ask op next ih =>
    exact ⟨h.1, fun reply s' answered => (ih reply (h.2 reply s' answered)).mono
      fun _ _ comes => ⟨reply, s', answered, comes⟩⟩

/-! ## Other surroundings -/

/-- A program in other surroundings, whose states are related to those of its own: what it asks is
allowed there, and what it is answered there is an answer in its own. -/
theorem Ends.embed {env : Surroundings E σ} (env' : Surroundings E τ) (related : σ → τ → Prop)
    (allows : ∀ s t op, related s t → env.Allows s op → env'.Allows t op)
    (answers : ∀ s t op reply t', related s t → env.Allows s op → env'.Answers t op reply t' →
      ∃ s', env.Answers s op reply s' ∧ related s' t')
    {goal : α → σ → Prop} {p : Prog E α} {s : σ} {t : τ} (h : p.Ends env goal s) (here : related s t) :
    p.Ends env' (fun a t => ∃ s, goal a s ∧ related s t) t := by
  induction p generalizing s t with
  | done a => exact ⟨s, h, here⟩
  | ask op next ih =>
    refine ⟨allows s t op here h.1, fun reply t' answered => ?_⟩
    -- each answer there has its counterpart in the own surroundings
    obtain ⟨s', own, there⟩ := answers s t op reply t' here h.1 answered
    exact ih reply (h.2 reply s' own) there

/-! ## Surroundings under a condition -/

/-- The same surroundings, where nothing may be asked unless a condition holds. -/
def provided (env : Surroundings E σ) (c : Prop) : Surroundings E σ :=
  ⟨fun s op => c ∧ env.Allows s op, env.Answers⟩

theorem Ends.provided {c : Prop} (holds : c) {p : Prog E α} {s : σ} (h : p.Ends env goal s) :
    p.Ends (provided env c) goal s := by
  induction p generalizing s with
  | done a => exact h
  | ask op next ih =>
    exact ⟨⟨holds, h.1⟩, fun reply s' answered => ih reply (h.2 reply s' answered)⟩

/-! ## Free surroundings -/

/-- Surroundings in which everything may be asked, and every answer given. -/
def free (E : Effects) : Surroundings E Unit := ⟨fun _ _ => True, fun _ _ _ _ => True⟩

theorem ends_free (p : Prog E α) : p.Ends (free E) (fun _ _ => True) () := by
  induction p with
  | done a => trivial
  | ask op next ih => exact ⟨trivial, fun reply _ _ => ih reply⟩

/-! ## The same step over a list -/

instance : LawfulMonad (Prog E) :=
  LawfulMonad.mk' (Prog E) bind_done (fun _ _ => rfl) bind_assoc

/-- A step over a list keeps an invariant that knows what is done and what is left. -/
theorem ends_mapM (step : α → Prog E β) (inv : List α → List β → List α → σ → Prop)
    (keeps : ∀ before results a rest s, inv before results (a :: rest) s →
      (step a).Ends env (fun b => inv (before ++ [a]) (results ++ [b]) rest) s)
    (items : List α) (s : σ) (start : inv [] [] items s) :
    (items.mapM step).Ends env (fun results => inv items results []) s := by
  -- the induction is on what is left, with what is done generalized
  suffices general : ∀ before results s, inv before results items s →
      (items.mapM step).Ends env (fun more => inv (before ++ items) (results ++ more) []) s by
    simpa using general [] [] s start
  clear start
  induction items with
  | nil =>
    intro before results s h
    simpa using h
  | cons a rest ih =>
    intro before results s h
    rw [List.mapM_cons]
    refine (keeps before results a rest s h).bind fun b s h => ?_
    refine (ih (before ++ [a]) (results ++ [b]) s h).bind fun more s h => ?_
    simpa using h

/-! ## Runs against given answers -/

/-- A run against a function that answers as the surroundings may.  The function may keep more
than the state of the surroundings, which `view` picks out. -/
theorem Ends.runWith (answer : (op : E.Op) → τ → E.Answer op × τ) (view : τ → σ)
    (answers : ∀ op t, env.Answers (view t) op (answer op t).1 (view (answer op t).2))
    {p : Prog E α} {t : τ} (h : p.Ends env goal (view t)) :
    goal (p.runWith answer t).1 (view (p.runWith answer t).2) := by
  induction p generalizing t with
  | done a => exact h
  | ask op next ih => exact ih _ (h.2 _ _ (answers op t))

/-- Such a run is one of the ways through the program. -/
theorem comes_runWith (answer : (op : E.Op) → τ → E.Answer op × τ) (view : τ → σ)
    (answers : ∀ op t, env.Answers (view t) op (answer op t).1 (view (answer op t).2))
    (p : Prog E α) (t : τ) :
    p.Comes env (view t) (p.runWith answer t).1 (view (p.runWith answer t).2) := by
  induction p generalizing t with
  | done a => exact ⟨rfl, rfl⟩
  | ask op next ih => exact ⟨_, _, answers op t, ih _ _⟩

end Prog
end StoreMeter
