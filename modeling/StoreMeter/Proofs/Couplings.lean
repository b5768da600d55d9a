import StoreMeter.Proofs.Surroundings
/-
# Proofs.Couplings — two programs side by side

A statement about two runs of a program compares their answers.  A `Coupling` says which questions go
together in a state, and which pairs of answers they may get.  `Prog.Together` holds of two programs
that ask in step under a coupling and come to their goal at the same time.

As for one program, the rules follow the shape: `Together.bind` for one program after another, and
`Ends.together` for a program beside itself, where its questions are answered in the same way.
-/
namespace StoreMeter

/-- Which questions of two programs go together in a state, and the pairs of answers that they may get,
with the state after them. -/
structure Coupling (E : Effects) (σ : Type) where
  Asks : σ → E.Op → E.Op → Prop
  Answers : σ → (op op' : E.Op) → E.Answer op → E.Answer op' → σ → Prop

namespace Prog

variable {E : Effects} {α α' β β' σ τ : Type} {c : Coupling E σ}

/-- The programs ask in step, whatever they are answered, and come to the goal at the same time. -/
def Together (c : Coupling E σ) (goal : α → α' → σ → Prop) : Prog E α → Prog E α' → σ → Prop
  | done a, done a', s => goal a a' s
  | ask op next, ask op' next', s => c.Asks s op op' ∧ ∀ reply reply' s',
    c.Answers s op op' reply reply' s' → Together c goal (next reply) (next' reply') s'
  | done _, ask _ _, _ | ask _ _, done _, _ => False

variable {goal : α → α' → σ → Prop}

/-- What is done beside another program is done when that is. -/
theorem Together.of_done {a : α} {q : Prog E α'} {s : σ} (h : (done a).Together c goal q s) :
    ∃ a', q = done a' ∧ goal a a' s := by
  cases q with
  | done a' => exact ⟨a', rfl, h⟩
  | ask op next => exact h.elim

/-- What asks beside another program asks when that does. -/
theorem Together.of_ask {op : E.Op} {next : E.Answer op → Prog E α} {q : Prog E α'} {s : σ}
    (h : (ask op next).Together c goal q s) : ∃ op' next', q = ask op' next' ∧ c.Asks s op op' ∧
      ∀ reply reply' s', c.Answers s op op' reply reply' s' →
        (next reply).Together c goal (next' reply') s' := by
  cases q with
  | done a' => exact h.elim
  | ask op' next' => exact ⟨op', next', rfl, h⟩

theorem Together.mono {goal' : α → α' → σ → Prop} (weaker : ∀ a a' s, goal a a' s → goal' a a' s)
    {p : Prog E α} {q : Prog E α'} {s : σ} (h : p.Together c goal q s) :
    p.Together c goal' q s := by
  induction p generalizing q s with
  | done a =>
    obtain ⟨a', rfl, reached⟩ := h.of_done
    exact weaker a a' s reached
  | ask op next ih =>
    obtain ⟨op', next', rfl, asks, further⟩ := h.of_ask
    exact ⟨asks, fun reply reply' s' answered => ih reply (further reply reply' s' answered)⟩

/-- One pair of programs after another. -/
theorem Together.bind {goal' : β → β' → σ → Prop} {p : Prog E α} {q : Prog E α'}
    {k : α → Prog E β} {k' : α' → Prog E β'} {s : σ} (first : p.Together c goal q s)
    (second : ∀ a a' s, goal a a' s → (k a).Together c goal' (k' a') s) :
    (p.bind k).Together c goal' (q.bind k') s := by
  induction p generalizing q s with
  | done a =>
    obtain ⟨a', rfl, reached⟩ := first.of_done
    exact second a a' s reached
  | ask op next ih =>
    obtain ⟨op', next', rfl, asks, further⟩ := first.of_ask
    exact ⟨asks, fun reply reply' s' answered => ih reply (further reply reply' s' answered)⟩

/-- A program goes together with itself, where both are answered alike and as its surroundings do. -/
theorem Ends.together {env : Surroundings E τ} {goal : α → τ → Prop} (related : τ → σ → Prop)
    (asks : ∀ t s op, related t s → env.Allows t op → c.Asks s op op)
    (answers : ∀ t s op reply reply' s', related t s → env.Allows t op →
      c.Answers s op op reply reply' s' →
        reply' = reply ∧ ∃ t', env.Answers t op reply t' ∧ related t' s')
    {p : Prog E α} {t : τ} {s : σ} (h : p.Ends env goal t) (here : related t s) :
    p.Together c (fun a a' s => a' = a ∧ ∃ t, goal a t ∧ related t s) p s := by
  induction p generalizing t s with
  | done a => exact ⟨rfl, t, h, here⟩
  | ask op next ih =>
    refine ⟨asks t s op here h.1, fun reply reply' s' answered => ?_⟩
    obtain ⟨rfl, t', own, there⟩ := answers t s op reply reply' s' here h.1 answered
    exact ih _ (h.2 _ t' own) there

end Prog
end StoreMeter
