/-
# LateWorkers — the workers that a phase gave up on

A writer that is still running when the limit of its phase is reached is late: it may yet write its
object.  `LateWorkers` is the set of such workers by their numbers.  It is a list without repetition,
so `count` counts workers and `indexes` names each late worker once.
-/
namespace StoreMeter

/-- A set of workers by their numbers. -/
structure LateWorkers where
  members : List Int
  /-- Every number is in the list once. -/
  distinct : members.Nodup

namespace LateWorkers

/-- No late workers. -/
def nobody : LateWorkers := ⟨[], .nil⟩

/-- Is a worker late? -/
def contains (late : LateWorkers) (index : Int) : Bool := late.members.contains index

/-- The set with one more worker. -/
def add (late : LateWorkers) (index : Int) : LateWorkers :=
  if h : late.contains index then late
  else ⟨index :: late.members, List.nodup_cons.2 ⟨by simpa [contains] using h, late.distinct⟩⟩

/-- The number of late workers. -/
def count (late : LateWorkers) : Nat := late.members.length

/-- The late workers in ascending order. -/
def indexes (late : LateWorkers) : List Int := late.members.mergeSort (· ≤ ·)

/-! ## Laws -/

@[simp]
theorem contains_nobody (index : Int) : nobody.contains index = false := rfl

@[simp]
theorem contains_add (late : LateWorkers) (index other : Int) :
    (late.add index).contains other = (other == index || late.contains other) := by
  unfold add
  split
  · rename_i h
    by_cases e : other = index
    · subst e; simp [h]
    · simp [e]
  · simp [contains, Bool.beq_eq_decide_eq]

theorem mem_indexes (late : LateWorkers) (index : Int) :
    index ∈ late.indexes ↔ late.contains index = true := by
  simp [indexes, contains]

/-- The late workers are named in ascending order, each of them once. -/
theorem indexes_ascending (late : LateWorkers) : late.indexes.Pairwise (· < ·) := by
  have sorted : late.indexes.Pairwise fun a b => decide (a ≤ b) = true :=
    List.pairwise_mergeSort (fun a b c => by simpa using Int.le_trans)
      (fun a b => by simpa using Int.le_total a b) late.members
  have once : late.indexes.Nodup := (List.mergeSort_perm _ _).nodup_iff.2 late.distinct
  exact sorted.imp₂ (fun _ _ ordered other => by simp at ordered; omega) once

end LateWorkers
end StoreMeter
