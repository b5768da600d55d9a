import Mathlib.Algebra.Order.Field.Power
import Mathlib.Algebra.Order.Field.Rat
import Mathlib.Order.WithBot
import StoreMeter.Scalar
/-
# Proofs.Binary64.Order — the order of doubles and their differences

Doubles compare by their exact values.  `place?` puts each of them but not-a-number on the line of
the rationals with an infinity at both ends, and `le_iff` says that the comparison is the order of
this line.  So it is transitive, and the difference of a later time and an earlier one is never
negative, although it is rounded.
-/
namespace StoreMeter
namespace Binary64

/-! ## Values -/

/-- The exact value of an integer times a power of two. -/
def scaled (a : Int) (e : Int) : ℚ := a * (2 : ℚ) ^ e

theorem scaled_shift (a e : Int) {base : Int} (h : base ≤ e) :
    scaled (a * twoTo (e - base).toNat) base = scaled a e := by
  have power : ((twoTo (e - base).toNat : Nat) : ℚ) = (2 : ℚ) ^ (e - base) := by
    rw [twoTo, Nat.pow_eq, Nat.cast_pow, Nat.cast_ofNat, ← zpow_natCast, Int.toNat_of_nonneg (by omega)]
  rw [scaled, scaled, Int.cast_mul, Int.cast_natCast, power, mul_assoc,
    ← zpow_add₀ (by norm_num : (2 : ℚ) ≠ 0), Int.sub_add_cancel]

theorem scaled_le (a b base : Int) : scaled a base ≤ scaled b base ↔ a ≤ b := by
  rw [scaled, scaled, mul_le_mul_iff_of_pos_right (zpow_pos (by norm_num) base), Int.cast_le]

theorem compareScaled_isLE (a d b e : Int) :
    (compareScaled a d b e).isLE = true ↔ scaled a d ≤ scaled b e := by
  rw [compareScaled, ← scaled_shift a d (Int.min_le_left d e), ← scaled_shift b e (Int.min_le_right d e),
    scaled_le, ← compare_le_iff_le, ← Ordering.ne_gt_iff_isLE]

/-! ## The order -/

/-- At most as large, by value; not a number is comparable to nothing. -/
def le (x y : Binary64) : Bool := (compare? x y).any Ordering.isLE

/-- The place of a double on the line of the rationals between two infinities. -/
def place? : Binary64 → Option (WithBot (WithTop ℚ))
  | nan => none
  | infinity true => some ⊥
  | infinity false => some ⊤
  | finite negative mantissa exponent =>
    some ((scaled (signedMantissa negative mantissa) exponent : WithTop ℚ) : WithBot (WithTop ℚ))

theorem le_iff (x y : Binary64) :
    le x y = true ↔ ∃ a b, place? x = some a ∧ place? y = some b ∧ a ≤ b := by
  cases x with
  | nan => simp [le, compare?, place?]
  | infinity s =>
    cases y with
    | nan => cases s <;> simp [le, compare?, place?]
    | infinity t => cases s <;> cases t <;> simp [le, compare?, place?]
    | finite t n f => cases s <;> simp [le, compare?, place?]
  | finite s m e =>
    cases y with
    | nan => simp [le, compare?, place?]
    | infinity t => cases t <;> simp [le, compare?, place?]
    | finite t n f =>
      simp [le, compare?, place?, compareScaled_isLE]

theorem le_trans {x y z : Binary64} (h : le x y = true) (h' : le y z = true) : le x z = true := by
  obtain ⟨a, b, hx, hy, first⟩ := (le_iff x y).1 h
  obtain ⟨b', c, hy', hz, second⟩ := (le_iff y z).1 h'
  rw [hy] at hy'
  cases hy'
  exact (le_iff x z).2 ⟨a, c, hx, hz, first.trans second⟩

theorem le_refl {x : Binary64} (h : x ≠ nan) : le x x = true := by
  rw [le_iff]
  cases x with
  | nan => exact absurd rfl h
  | infinity negative => cases negative <;> exact ⟨_, _, rfl, rfl, le_rfl⟩
  | finite negative mantissa exponent => exact ⟨_, _, rfl, rfl, le_rfl⟩

theorem compareScaled_swap (a d b e : Int) :
    (compareScaled a d b e).swap = compareScaled b e a d := by
  unfold compareScaled
  rw [Int.min_comm e d]
  exact Std.OrientedOrd.eq_swap.symm

theorem compare?_swap (x y : Binary64) : (compare? x y).map Ordering.swap = compare? y x := by
  cases x with
  | nan => cases y <;> rfl
  | infinity s =>
    cases y with
    | nan => cases s <;> rfl
    | infinity t => cases s <;> cases t <;> rfl
    | finite t n f => cases s <;> rfl
  | finite s m e =>
    cases y with
    | nan => rfl
    | infinity t => cases t <;> rfl
    | finite t n f => exact congrArg some (compareScaled_swap _ _ _ _)

/-- Two numbers compare. -/
theorem compare?_isSome {x y : Binary64} (hx : x ≠ nan) (hy : y ≠ nan) :
    ∃ order, compare? x y = some order := by
  cases x with
  | nan => exact absurd rfl hx
  | infinity s =>
    cases y with
    | nan => exact absurd rfl hy
    | infinity t => cases s <;> cases t <;> exact ⟨_, rfl⟩
    | finite t n f => cases s <;> exact ⟨_, rfl⟩
  | finite s m e =>
    cases y with
    | nan => exact absurd rfl hy
    | infinity t => cases t <;> exact ⟨_, rfl⟩
    | finite t n f => exact ⟨_, rfl⟩

theorem le_of_lt {x y : Binary64} (h : lt x y = true) : le x y = true := by
  rw [lt, beq_iff_eq] at h
  rw [le, h]
  rfl

/-- Of two numbers, one that is not less than the other is at least as large. -/
theorem le_of_not_lt {x y : Binary64} (hx : x ≠ nan) (hy : y ≠ nan) (h : lt x y = false) :
    le y x = true := by
  obtain ⟨order, same⟩ := compare?_isSome hx hy
  rw [lt, same] at h
  rw [le, ← compare?_swap, same]
  revert h
  cases order <;> decide

/-! ## Zero -/

theorem compareScaled_zero (d b e : Int) : compareScaled 0 d b e = compare 0 b := by
  have positive : (0 : Int) < twoTo (e - min d e).toNat := Int.natCast_pos.2 (twoTo_pos _)
  unfold compareScaled
  dsimp only
  rw [Int.zero_mul]
  rcases lt_trichotomy b 0 with below | rfl | above
  · rw [compare_gt_iff_gt.2 below, compare_gt_iff_gt.2 (Int.mul_neg_of_neg_of_pos below positive)]
  · rw [Int.zero_mul]
  · rw [compare_lt_iff_lt.2 above, compare_lt_iff_lt.2 (Int.mul_pos above positive)]

theorem compareInt?_zero (x : Binary64) : compareInt? 0 x = compare? (zero false) x := by
  cases x with
  | nan => rfl
  | infinity negative => cases negative <;> rfl
  | finite s m e =>
    rw [compareInt?, zero, compare?, compareScaled_zero]
    exact congrArg some (compareScaled_zero leastExponent _ e).symm

/-- A number is zero or less exactly if it is not greater than zero. -/
theorem isNonPositive_real {x : Binary64} (number : x ≠ nan) :
    Scalar.isNonPositive (.real x) = !lt (zero false) x := by
  obtain ⟨order, same⟩ := compare?_isSome (x := zero false) (y := x) (by decide) number
  have against : Scalar.compare? (.real x) (.int 0) = some order.swap := by
    change (compareInt? 0 x).map Ordering.swap = _
    rw [compareInt?_zero, same]
    rfl
  rw [Scalar.isNonPositive, against, lt, same]
  cases order <;> decide

/-! ## Differences -/

theorem scaled_nonneg {a e : Int} : 0 ≤ scaled a e ↔ 0 ≤ a := by
  rw [scaled, mul_nonneg_iff_of_pos_right (zpow_pos (by norm_num) e), Int.cast_nonneg_iff]

theorem isNegative_ofParts (negative : Bool) (mantissa : Nat) (exponent : Int) :
    (ofParts negative mantissa exponent).isNegative = negative := by
  unfold ofParts
  split
  split <;> rfl

theorem isNegative_roundRatio (negative : Bool) (num den : Nat) :
    (roundRatio negative num den).isNegative = negative := by
  unfold roundRatio
  split
  · rfl
  · exact isNegative_ofParts _ _ _

theorem not_negative_finite {negative : Bool} {mantissa : Nat} {exponent : Int}
    (h : 0 ≤ signedMantissa negative mantissa) :
    Scalar.isNegative (.real (.finite negative mantissa exponent)) = false := by
  have least : (compareScaled 0 0 (signedMantissa negative mantissa) exponent).isLE = true := by
    rw [compareScaled_isLE, scaled, Int.cast_zero, zero_mul, scaled_nonneg]
    exact h
  simp only [Scalar.isNegative, Scalar.compare?, Scalar.integer?, compareInt?,
    Option.bind_eq_bind, Option.bind_some, Option.map_some]
  generalize compareScaled 0 0 (signedMantissa negative mantissa) exponent = order at least
  revert least
  cases order <;> decide

/-- A double without a minus sign is not less than zero. -/
theorem not_negative_of_sign {x : Binary64} (h : x.isNegative = false) :
    Scalar.isNegative (.real x) = false := by
  cases x with
  | nan => rfl
  | infinity negative =>
    cases h
    rfl
  | finite negative mantissa exponent =>
    cases h
    exact not_negative_finite (Int.natCast_nonneg mantissa)

theorem not_negative_zero (negative : Bool) : Scalar.isNegative (.real (zero negative)) = false := by
  apply not_negative_finite
  cases negative <;> decide

/-- The difference of a later and an earlier time is not negative. -/
theorem not_negative_sub {x y : Binary64} (h : le x y = true) :
    Scalar.isNegative (.real (y.sub x)) = false := by
  cases x with
  | nan => simp [le, compare?] at h
  | infinity s =>
    cases y with
    | nan => cases s <;> rfl
    | infinity t => cases s <;> cases t <;> first | rfl | simp [le, compare?] at h
    | finite t n f => cases s <;> first | rfl | simp [le, compare?] at h
  | finite s m e =>
    cases y with
    | nan => rfl
    | infinity t => cases t <;> first | rfl | simp [le, compare?] at h
    | finite t n f =>
      -- on a common exponent the difference is one of whole numbers
      have ordered : scaled (signedMantissa s m) e ≤ scaled (signedMantissa t n) f := by
        simpa [le, compare?, compareScaled_isLE] using h
      have opposite : signedMantissa (!s) m = -signedMantissa s m := by
        cases s <;> simp [signedMantissa]
      rw [← scaled_shift _ e (Int.min_le_right f e), ← scaled_shift _ f (Int.min_le_left f e),
        scaled_le] at ordered
      unfold sub neg add
      dsimp only
      rw [opposite]
      split
      · exact not_negative_zero _
      · rw [roundScaled]
        apply not_negative_of_sign
        rw [isNegative_roundRatio, decide_eq_false_iff_not]
        rw [Int.neg_mul]
        omega

end Binary64
end StoreMeter
