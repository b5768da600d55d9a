import Mathlib.Algebra.BigOperators.Group.List.Lemmas
import Mathlib.Algebra.Group.PUnit
import Mathlib.Data.List.Forall2
import StoreMeter.Speed.Sum
/-
# Proofs.Speed.Sum — what a sum and an extreme keep

A long list is summed in an order of its own: in halves, in lanes and from the left.  None of these
loses a number or takes one twice, so whatever addition keeps, the sum keeps (`AddsUp.sum`).  One
lemma a function says so for a relation between the numbers of an arithmetic and those of a
commutative monoid, in which the order does not matter.  Exact numbers, doubles that hold whole
numbers and doubles without a minus sign are all instances of it.

The greatest and the least number of a list are picked by one function each, two numbers at a time
(`Picks`), and so they are numbers of the list beyond which none lies (`Extreme`).
-/
namespace StoreMeter
namespace Speed

/-! ## Sums -/

section

variable {K A : Type} [Arithmetic K] [AddCommMonoid A] {holds : K → A → Prop}

/-- A relation between the numbers of an arithmetic and the elements of a monoid that addition
keeps. -/
structure AddsUp (holds : K → A → Prop) : Prop where
  nought : holds nought 0
  add {x y : K} {a b : A} : holds x a → holds y b → holds (Arithmetic.add x y) (a + b)

namespace AddsUp

variable {xs lanes : List K} {as cs : List A}

theorem sumFrom (adds : AddsUp holds) {start : K} {a : A} (first : holds start a)
    (terms : List.Forall₂ holds xs as) : holds (Speed.sumFrom start xs) (a + as.sum) := by
  induction terms generalizing start a with
  | nil =>
    rw [List.sum_nil, add_zero]
    exact first
  | cons head _ ih =>
    rw [List.sum_cons, ← add_assoc]
    exact ih (adds.add first head)

theorem zipWith (adds : AddsUp holds) (held : List.Forall₂ holds lanes cs)
    (terms : List.Forall₂ holds xs as) :
    List.Forall₂ holds (List.zipWith Arithmetic.add lanes xs) (List.zipWith (· + ·) cs as) := by
  induction held generalizing xs as with
  | nil => exact .nil
  | cons lane _ ih =>
    cases terms with
    | nil => exact .nil
    | cons term rest => exact .cons (adds.add lane term) (ih rest)

/-- The lanes and the rest together hold what the lanes and the list held before. -/
theorem addLanes (adds : AddsUp holds) (held : List.Forall₂ holds lanes cs)
    (eight : lanes.length = 8) (terms : List.Forall₂ holds xs as) :
    ∃ ds rs, List.Forall₂ holds (Speed.addLanes lanes xs).1 ds ∧
      List.Forall₂ holds (Speed.addLanes lanes xs).2 rs ∧ ds.sum + rs.sum = cs.sum + as.sum := by
  induction lanes, xs using Speed.addLanes.induct generalizing cs as with
  | case1 lanes x₁ x₂ x₃ x₄ x₅ x₆ x₇ x₈ rest ih =>
    have few : lanes.length = [x₁, x₂, x₃, x₄, x₅, x₆, x₇, x₈].length := eight
    -- cut off eight numbers on the other side, too
    have front := List.forall₂_take 8 terms
    have back := List.forall₂_drop 8 terms
    obtain ⟨ds, rs, lanes', rest', total⟩ := ih (adds.zipWith held front) (by
      rw [List.length_zipWith, ← few, eight]
      rfl) back
    refine ⟨ds, rs, lanes', rest', total.trans ?_⟩
    have length : cs.length = (as.take 8).length := by
      rw [← held.length_eq, ← front.length_eq]
      exact few
    rw [← List.sum_add_sum_eq_sum_zipWith_of_length_eq _ _ length, add_assoc,
      List.sum_take_add_sum_drop]
  | case2 lanes rest short =>
    rw [Speed.addLanes.eq_2 lanes rest short]
    exact ⟨cs, as, held, terms, rfl⟩

theorem joinLanes (adds : AddsUp holds) (held : List.Forall₂ holds lanes cs) :
    holds (Speed.joinLanes lanes) cs.sum := by
  unfold Speed.joinLanes
  split
  · obtain _ | ⟨h₁, _ | ⟨h₂, _ | ⟨h₃, _ | ⟨h₄, _ | ⟨h₅, _ | ⟨h₆, _ | ⟨h₇, _ | ⟨h₈, _ | _⟩⟩⟩⟩⟩⟩⟩⟩ := held
    have pairs := adds.add
      (adds.add (adds.add h₁ h₂) (adds.add h₃ h₄))
      (adds.add (adds.add h₅ h₆) (adds.add h₇ h₈))
    simpa only [List.sum_cons, List.sum_nil, add_zero, add_assoc] using pairs
  · have total := adds.sumFrom adds.nought held
    rwa [zero_add] at total

theorem sumBlock (adds : AddsUp holds) (terms : List.Forall₂ holds xs as) :
    holds (Speed.sumBlock xs) as.sum := by
  unfold Speed.sumBlock
  split
  · have total := adds.sumFrom adds.nought terms
    rwa [zero_add] at total
  · rename_i many
    obtain ⟨ds, rs, lanes, rest, total⟩ := adds.addLanes (List.forall₂_take 8 terms)
      (by rw [List.length_take]; omega) (List.forall₂_drop 8 terms)
    rw [List.sum_take_add_sum_drop] at total
    rw [← total]
    exact adds.sumFrom (adds.joinLanes lanes) rest

theorem sumHalves (adds : AddsUp holds) (terms : List.Forall₂ holds xs as) :
    holds (Speed.sumHalves xs) as.sum := by
  fun_induction Speed.sumHalves xs generalizing as with
  | case1 xs few => exact adds.sumBlock terms
  | case2 xs many half first =>
    rename_i second
    rw [← List.sum_take_add_sum_drop as half]
    exact adds.add (first (List.forall₂_take half terms))
      (second (List.forall₂_drop half terms))

/-- The sum keeps what addition keeps, in whatever order the numbers are added. -/
theorem sum (adds : AddsUp holds) (terms : List.Forall₂ holds xs as) :
    holds (Speed.sum xs) as.sum := by
  have total := adds.add (adds.sumHalves terms) adds.nought
  rwa [add_zero] at total

end AddsUp

end

/-- A property that addition keeps holds of a sum. -/
theorem sum_keeps {K : Type} [Arithmetic K] {P : K → Prop} (zero : P nought)
    (add : ∀ {x y}, P x → P y → P (Arithmetic.add x y)) {xs : List K} (each : ∀ x ∈ xs, P x) :
    P (sum xs) := by
  have adds : AddsUp fun (x : K) (_ : Unit) => P x := ⟨zero, add⟩
  have terms : List.Forall₂ (fun (x : K) (_ : Unit) => P x) xs (xs.map fun _ => ()) := by
    rw [List.forall₂_map_right_iff, List.forall₂_same]
    exact each
  exact adds.sum terms

/-! ## Extremes -/

/-- A number of the list beyond which no number of the list lies. -/
structure Extreme {K : Type} (within : K → K → Prop) (x : K) (xs : List K) : Prop where
  mem : x ∈ xs
  bound : ∀ y ∈ xs, within y x

/-- The function picks that one of two numbers which the other does not lie beyond. -/
structure Picks {K : Type} (P : K → Prop) (within : K → K → Prop) (pick : K → K → K) : Prop where
  refl {x : K} : P x → within x x
  trans {x y z : K} : within x y → within y z → within x z
  one {x y : K} : P x → P y → pick x y = x ∧ within y x ∨ pick x y = y ∧ within x y

/-- Picking from left to right ends at an extreme. -/
theorem Picks.foldl {K : Type} {P : K → Prop} {within : K → K → Prop} {pick : K → K → K}
    (picks : Picks P within pick) {x : K} {xs : List K} (each : ∀ y ∈ x :: xs, P y) :
    Extreme within (xs.foldl pick x) (x :: xs) := by
  induction xs generalizing x with
  | nil =>
    refine ⟨List.mem_singleton_self x, fun y member => ?_⟩
    rw [List.mem_singleton.1 member]
    exact picks.refl (each x (List.mem_singleton_self x))
  | cons y rest ih =>
    simp only [List.forall_mem_cons] at each
    obtain ⟨good, good', others⟩ := each
    rw [List.foldl_cons]
    rcases picks.one good good' with ⟨same, less⟩ | ⟨same, less⟩
    · rw [same]
      obtain ⟨mem, bound⟩ := ih (List.forall_mem_cons.2 ⟨good, others⟩)
      rw [List.forall_mem_cons] at bound
      refine ⟨?_, ?_⟩
      · simp only [List.mem_cons] at mem ⊢
        exact mem.imp_right .inr
      · rw [List.forall_mem_cons, List.forall_mem_cons]
        exact ⟨bound.1, picks.trans less bound.1, bound.2⟩
    · rw [same]
      obtain ⟨mem, bound⟩ := ih (List.forall_mem_cons.2 ⟨good', others⟩)
      refine ⟨List.mem_cons_of_mem x mem, ?_⟩
      rw [List.forall_mem_cons]
      exact ⟨picks.trans less (bound y List.mem_cons_self), bound⟩

section

variable {K : Type} {within : K → K → Prop} {x y : K} {xs ys : List K}

theorem Picks.greatest [Arithmetic K] {P : K → Prop} (picks : Picks P within Arithmetic.greater)
    (some_left : xs ≠ []) (each : ∀ x ∈ xs, P x) : Extreme within (Speed.greatest xs) xs := by
  cases xs with
  | nil => exact absurd rfl some_left
  | cons x rest => exact picks.foldl each

theorem Picks.least [Arithmetic K] {P : K → Prop} (picks : Picks P within Arithmetic.lesser)
    (some_left : xs ≠ []) (each : ∀ x ∈ xs, P x) : Extreme within (Speed.least xs) xs := by
  cases xs with
  | nil => exact absurd rfl some_left
  | cons x rest => exact picks.foldl each

/-- Extremes of the same numbers in another order lie within each other. -/
theorem Extreme.eq_of_perm (left : Extreme within x xs) (right : Extreme within y ys)
    (perm : xs.Perm ys) (antisymm : within x y → within y x → x = y) : x = y :=
  antisymm (right.bound x (perm.subset left.mem)) (left.bound y (perm.symm.subset right.mem))

end

end Speed
end StoreMeter
