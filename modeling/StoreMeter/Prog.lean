/-
# Prog — programs that ask their surroundings

A worker and the main thread of a run are programs that do everything through questions to their
surroundings: to a storage, to a clock, to a log.  `Prog` keeps such a program as data: it is done,
or it asks one question and goes on with the answer.  Because the questions stand in the program in
their order, one program can be run against a rehearsed storage, against the real one, or in steps
that other programs interleave with.
-/
namespace StoreMeter

/-- The questions that programs of one kind may ask, and the type of the answer to each. -/
structure Effects where
  Op : Type
  Answer : Op → Type

/-- A program with the questions of `E` and a result of type `α`. -/
inductive Prog (E : Effects) (α : Type) where
  /-- The program is done. -/
  | done (value : α)
  /-- The program asks, and goes on with the answer. -/
  | ask (op : E.Op) (next : E.Answer op → Prog E α)

namespace Prog

variable {E : Effects} {α β : Type}

/-- One question, whose answer is the result. -/
def perform (op : E.Op) : Prog E (E.Answer op) := ask op done

/-- One program after another. -/
def bind : Prog E α → (α → Prog E β) → Prog E β
  | done a, k => k a
  | ask op next, k => ask op fun answer => bind (next answer) k

instance : Monad (Prog E) where
  pure := done
  bind := bind

/-! ## Running a program -/

/-- Runs a program against a state that answers every question and changes with it. -/
def runWith {σ : Type} (answer : (op : E.Op) → σ → E.Answer op × σ) : Prog E α → σ → α × σ
  | done a, state => (a, state)
  | ask op next, state =>
    let (reply, state) := answer op state
    runWith answer (next reply) state

/-- Runs a program in surroundings with effects of their own. -/
def runIn {m : Type → Type} [Monad m] (answer : (op : E.Op) → m (E.Answer op)) : Prog E α → m α
  | done a => pure a
  | ask op next => do
    let reply ← answer op
    runIn answer (next reply)

/-! ## Laws -/

@[simp]
theorem pure_eq_done (a : α) : (pure a : Prog E α) = done a := rfl

@[simp]
theorem bind_eq_bind (p : Prog E α) (k : α → Prog E β) : p >>= k = p.bind k := rfl

@[simp]
theorem done_bind (a : α) (k : α → Prog E β) : (done a).bind k = k a := rfl

@[simp]
theorem ask_bind (op : E.Op) (next : E.Answer op → Prog E α) (k : α → Prog E β) :
    (ask op next).bind k = ask op fun answer => (next answer).bind k := rfl

@[simp]
theorem perform_bind (op : E.Op) (k : E.Answer op → Prog E β) :
    (perform op).bind k = ask op k := rfl

@[simp]
theorem bind_done (p : Prog E α) : p.bind done = p := by
  induction p with
  | done a => rfl
  | ask op next ih => simp [ih]

theorem bind_assoc {γ : Type} (p : Prog E α) (k : α → Prog E β) (l : β → Prog E γ) :
    (p.bind k).bind l = p.bind fun a => (k a).bind l := by
  induction p with
  | done a => rfl
  | ask op next ih => simp [ih]

@[simp]
theorem runWith_done {σ : Type} (answer : (op : E.Op) → σ → E.Answer op × σ) (a : α) (state : σ) :
    runWith answer (done a) state = (a, state) := rfl

@[simp]
theorem runWith_ask {σ : Type} (answer : (op : E.Op) → σ → E.Answer op × σ) (op : E.Op)
    (next : E.Answer op → Prog E α) (state : σ) :
    runWith answer (ask op next) state =
      runWith answer (next (answer op state).1) (answer op state).2 := rfl

end Prog
end StoreMeter
