import StoreMeter.Proofs.Concert.Outline
/-
# Proofs.Concert.Layout — what every run keeps, whatever its outline

The facts of a `Layout` need no assertion: tasks are only added, what has ended stays ended, and the
sets of late workers are made once.  Here they are carried over the steps of tasks and over each
answer to the main thread.
-/
namespace StoreMeter
namespace Concert

variable {S : Type} {B : Backend S} {piece : Piece B}

/-! ## Steps of tasks -/

namespace World

/-- A step of a task gives one task a new status, and the others stay as they are. -/
theorem Step.tasks {w w' : World B} (h : w.Step w') :
    ∃ k old status, w.status? k = some old ∧ old.isOver = false ∧
      w'.tasks = (w.setStatus k status).tasks := by
  cases h with
  | start here => exact ⟨_, _, _, here, rfl, rfl⟩
  | finish here => exact ⟨_, _, _, here, rfl, rfl⟩
  | answer here answered => exact ⟨_, _, _, here, rfl, rfl⟩

theorem Step.lates {w w' : World B} (h : w.Step w') : w'.shared.lates = w.shared.lates := by
  cases h with
  | start here | finish here => rfl
  | answer here answered => exact Shared.lates_answer answered

theorem Step.stage {w w' : World B} (h : w.Step w') : w'.stage = w.stage := by
  cases h <;> rfl

theorem Step.drawn {w w' : World B} (h : w.Step w') : w'.drawn = w.drawn := by
  cases h <;> rfl

theorem Step.pools {w w' : World B} (h : w.Step w') : w'.pools = w.pools := by
  cases h <;> rfl

theorem Step.length {w w' : World B} (h : w.Step w') : w'.tasks.length = w.tasks.length := by
  obtain ⟨k, old, status, -, -, tasks⟩ := h.tasks
  rw [tasks, length_setStatus]

/-- A task that goes on is none that is over. -/
theorem ne_of_over {w : World B} {k j : Nat} {status old : Status S}
    (found : w.status? k = some status) (past : status.isOver = true)
    (here : w.status? j = some old) (going : old.isOver = false) : k ≠ j := by
  rintro rfl
  obtain rfl := Option.some.inj (found.symm.trans here)
  cases past.symm.trans going

/-- What is over stays as it is. -/
theorem Step.stays {w w' : World B} (h : w.Step w') {k : Nat} {status : Status S}
    (found : w.status? k = some status) (past : status.isOver = true) :
    w'.status? k = some status := by
  obtain ⟨j, old, new, here, open_, tasks⟩ := h.tasks
  have other : k ≠ j := ne_of_over found past here open_
  rw [status?, tasks, ← status?, status?_setStatus, if_neg other, found]

theorem pool_setStatus {w : World B} {k : Nat} {status : Status S} {task : Task S}
    (member : task ∈ (w.setStatus k status).tasks) : ∃ old ∈ w.tasks, task.pool = old.pool := by
  obtain ⟨j, found⟩ := List.mem_iff_getElem?.1 member
  rw [setStatus, List.getElem?_modify] at found
  obtain ⟨old, there, rfl⟩ := Option.map_eq_some_iff.1 found
  refine ⟨old, List.mem_iff_getElem?.2 ⟨j, there⟩, ?_⟩
  split <;> rfl

/-- Who is late once one more worker is. -/
theorem isLate_addLate {w : World B} (made : 0 < w.shared.lates.length) (index k : Int) :
    (w.addLate 0 index).shared.isLate 0 k = (k == index || w.shared.isLate 0 k) := by
  cases lates : w.shared.lates with
  | nil =>
    rw [lates] at made
    cases made
  | cons late rest => simp [addLate, Shared.isLate, lates]

end World

namespace Layout

variable {pt : Point} {w w' : World B}

theorem moves (layout : Layout piece pt w) (moves : w.Moves w') : Layout piece pt w' := by
  have step := moves.step
  refine ⟨step.length.trans layout.tasks, ?_, step.pools.trans layout.pools, ?_, ?_⟩
  · rw [step.lates]
    exact layout.lates
  · intro task member
    obtain ⟨k, _, status, -, -, tasks⟩ := step.tasks
    rw [tasks] at member
    obtain ⟨old, there, same⟩ := World.pool_setStatus member
    exact same.trans (layout.pool old there)
  · intro k done
    obtain ⟨result, ended⟩ := layout.done k done
    exact ⟨result, step.stays ended rfl⟩

/-! ## Answers to the main thread -/

/-- An answer that leaves the tasks as they are leads to a point with as many tasks. -/
theorem go {pt' : Point} (layout : Layout piece pt w) (tasks : w'.tasks = w.tasks)
    (lates : w'.shared.lates.length = w.shared.lates.length) (pools : w'.pools = w.pools)
    (count : pt'.tasks piece.workers = pt.tasks piece.workers)
    (done : ∀ k, pt'.Done piece.workers k → pt.Done piece.workers k) : Layout piece pt' w' where
  tasks := by rw [tasks, count, layout.tasks]
  lates := lates.trans layout.lates
  pools := pools.trans layout.pools
  pool := by
    rw [tasks]
    exact layout.pool
  done k known := by
    rw [World.status?, tasks]
    exact layout.done k (done k known)

theorem submit {mode : Mode} {sofar : Progress} {jobs : Nat} {job : Worker.Job S}
    (layout : Layout piece (.placing mode sofar jobs) w) :
    Layout piece (.placing mode sofar (jobs + 1)) (w.submit 0 job) where
  tasks := by
    have := layout.tasks
    simp only [Point.tasks] at this
    simp [World.submit, Point.tasks, this, Nat.add_assoc]
  lates := layout.lates
  pools := layout.pools
  pool := by
    intro task member
    simp only [World.submit, List.mem_append, List.mem_singleton] at member
    rcases member with old | rfl
    · exact layout.pool task old
    · rfl
  done := nofun

/-- After a wait, what it did not name has ended. -/
theorem wait {mode : Mode} {sofar : Progress} {unfinished : List Nat} {limit : Value}
    (layout : Layout piece (.placing mode sofar piece.workers) w)
    (tells : w.tells (piece.submissions mode) unfinished limit = true) :
    Layout piece (.taking mode sofar unfinished) w where
  tasks := layout.tasks
  lates := layout.lates
  pools := layout.pools
  pool := layout.pool
  done := by
    rintro k ⟨least, below, unnamed⟩
    obtain ⟨-, ended, -⟩ := World.tells_iff.1 tells
    -- the task is one of those that were waited for, and the wait did not name it
    have submitted : k ∈ piece.submissions mode :=
      List.mem_map.2 ⟨k - first piece.workers mode, List.mem_range.2 (by omega), by omega⟩
    exact ended k submitted unnamed

/-- A submission that was named gets another status. -/
theorem setStatus {mode : Mode} {sofar : Progress} {unfinished : List Nat} {k : Nat}
    {status : Status S} {cancelled : Bool} (layout : Layout piece (.taking mode sofar unfinished) w)
    (named : k ∈ unfinished) :
    Layout piece (.missing mode sofar unfinished cancelled) (w.setStatus k status) where
  tasks := (w.length_setStatus k status).trans layout.tasks
  lates := layout.lates
  pools := layout.pools
  pool := by
    intro task member
    obtain ⟨old, there, same⟩ := World.pool_setStatus member
    exact same.trans (layout.pool old there)
  done := by
    rintro j ⟨least, below, unnamed⟩
    have other : j ≠ k := by
      intro same
      subst same
      exact unnamed named
    obtain ⟨result, ended⟩ := layout.done j ⟨least, below, unnamed⟩
    exact ⟨result, by rw [World.status?_setStatus, if_neg other, ended]⟩

theorem takeBack {sofar sofar' : Progress} {unfinished : List Nat} (pool : Nat)
    (layout : Layout piece (.taking .read sofar unfinished) w) :
    Layout piece (.closing sofar') (w.takeBack pool) where
  tasks := by simpa [World.takeBack, Point.tasks, first] using layout.tasks
  lates := layout.lates
  pools := layout.pools
  pool := by
    intro task member
    simp only [World.takeBack, List.mem_map] at member
    obtain ⟨old, there, rfl⟩ := member
    split <;> exact layout.pool old there
  done := nofun

end Layout

end Concert
end StoreMeter
