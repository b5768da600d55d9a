import Mathlib.Tactic.Ring
import StoreMeter.Proofs.Binary64.Shares
/-
# Proofs.Binary64.Range — results that are no infinity

A quotient that is at most some double does not round to more than it, and one that is less than half
a step above the greatest double still rounds to a double.  So products and sums stay in the range of
doubles as long as their exact values do.
-/
namespace StoreMeter
namespace Binary64

/-! ## Powers of two -/

theorem twoTo_cast (k : Nat) : (twoTo k : ℚ) = (2 : ℚ) ^ (k : Int) := by
  rw [twoTo, Nat.pow_eq, Nat.cast_pow, Nat.cast_ofNat, zpow_natCast]

/-- A power of two as a quotient of two natural ones. -/
theorem twoTo_toNat (e : Int) :
    (twoTo e.toNat : ℚ) = (2 : ℚ) ^ e * (twoTo (-e).toNat : ℚ) := by
  rw [twoTo_cast, twoTo_cast, ← zpow_add₀ (by norm_num : (2 : ℚ) ≠ 0)]
  congr 1
  omega

/-- The power of two that is found is at most the quotient. -/
theorem twoPow_floorLog2_le {num den : Nat} (above : 0 < num) :
    (2 : ℚ) ^ floorLog2 num den * den ≤ num := by
  have shift (e : Int) (h : den * twoTo e.toNat ≤ num * twoTo (-e).toNat) :
      (2 : ℚ) ^ e * den ≤ num := by
    have cast : (den : ℚ) * twoTo e.toNat ≤ num * twoTo (-e).toNat := by exact_mod_cast h
    rw [twoTo_toNat, ← mul_assoc] at cast
    have positive : (0 : ℚ) < twoTo (-e).toNat := by exact_mod_cast twoTo_pos _
    rw [mul_comm]
    exact le_of_mul_le_mul_right cast positive
  unfold floorLog2
  dsimp only
  split
  · rename_i reached
    exact shift _ reached
  · -- below the guess, the leading bits of both numbers decide
    apply shift
    have first : den ≤ twoTo (den.log2 + 1) := Nat.le_of_lt Nat.lt_log2_self
    have last : twoTo num.log2 ≤ num := Nat.log2_self_le (by omega)
    generalize exponent : (num.log2 : Int) - (den.log2 : Int) - 1 = e
    calc den * twoTo e.toNat ≤ twoTo (den.log2 + 1) * twoTo e.toNat :=
          Nat.mul_le_mul_right _ first
      _ = twoTo num.log2 * twoTo (-e).toNat := by
          simp only [twoTo, Nat.pow_eq, ← Nat.pow_add]
          congr 1
          omega
      _ ≤ num * twoTo (-e).toNat := Nat.mul_le_mul_right _ last

/-- The grid of a quotient is no wider than that of a double with full precision above it. -/
theorem gridExponent_le {num den : Nat} (above : 0 < num) (below : 0 < den) {j : Int}
    (least : leastExponent ≤ j) (h : (num : ℚ) < (2 : ℚ) ^ (53 + j) * den) :
    gridExponent num den ≤ j := by
  have positive : (0 : ℚ) < den := by exact_mod_cast below
  have power : (2 : ℚ) ^ floorLog2 num den < (2 : ℚ) ^ (53 + j) :=
    lt_of_mul_lt_mul_right ((twoPow_floorLog2_le above).trans_lt h) positive.le
  have exponent := (zpow_lt_zpow_iff_right₀ (by norm_num : (1 : ℚ) < 2)).1 power
  unfold gridExponent
  omega

/-! ## Bounds that rounding keeps -/

theorem den_scaled (b den : Nat) (e : Int) :
    (b : ℚ) * (den * twoTo e.toNat) = scaled b e * den * twoTo (-e).toNat := by
  rw [twoTo_toNat, scaled, Int.cast_natCast]
  ring

/-- A bound on the exact value in units of the grid. -/
theorem mantissa_le {num den b : Nat} {e : Int} (h : (num : ℚ) ≤ scaled b e * den) :
    num * twoTo (-e).toNat ≤ b * (den * twoTo e.toNat) := by
  have cast : (num : ℚ) * twoTo (-e).toNat ≤ b * (den * twoTo e.toNat) := by
    rw [den_scaled]
    exact mul_le_mul_of_nonneg_right h (Nat.cast_nonneg _)
  exact_mod_cast cast

theorem mantissa_lt {num den b : Nat} {e : Int} (h : (num : ℚ) < scaled b e * den) :
    num * twoTo (-e).toNat < b * (den * twoTo e.toNat) := by
  have cast : (num : ℚ) * twoTo (-e).toNat < b * (den * twoTo e.toNat) := by
    rw [den_scaled]
    exact mul_lt_mul_of_pos_right h (by exact_mod_cast twoTo_pos _)
  exact_mod_cast cast

theorem ofParts_le {negative : Bool} {mantissa k : Nat} {e j : Int} (short : k < twoTo 53)
    (greatest : j ≤ greatestExponent) (fits : e ≤ j) (h : mantissa ≤ k * twoTo (j - e).toNat) :
    ∃ (m : Nat) (e' : Int), ofParts negative mantissa e = .finite negative m e' ∧
      scaled m e' ≤ scaled k j := by
  have bound : scaled mantissa e ≤ scaled k j := by
    rw [← scaled_shift k j fits, scaled_le]
    exact_mod_cast h
  unfold ofParts
  dsimp only
  split
  · dsimp only
    rw [if_pos (fits.trans greatest)]
    exact ⟨mantissa, e, rfl, bound⟩
  · rename_i long
    -- a mantissa of fifty-four bits leaves room for one more exponent
    have room : e < j := by
      by_contra none_left
      obtain rfl : e = j := by omega
      rw [Int.sub_self, Int.toNat_zero, twoTo_zero, Nat.mul_one] at h
      omega
    dsimp only
    rw [if_pos (by omega)]
    refine ⟨twoTo 52, e + 1, rfl, ?_⟩
    calc scaled (twoTo 52) (e + 1) = scaled (twoTo 53) e := by
          rw [← scaled_shift _ (e + 1) (show e ≤ e + 1 by omega)]
          congr 1
          rw [show (e + 1 - e).toNat = 1 by omega]
          rfl
      _ ≤ scaled mantissa e := (scaled_le _ _ _).2 (by omega)
      _ ≤ scaled k j := bound

/-- A quotient that is at most a double rounds to one that is at most that double. -/
theorem roundRatio_le {negative : Bool} {num den k : Nat} {j : Int} (below : 0 < den)
    (short : k < twoTo 53) (least : leastExponent ≤ j) (greatest : j ≤ greatestExponent)
    (h : (num : ℚ) ≤ scaled k j * den) :
    ∃ (m : Nat) (e : Int), roundRatio negative num den = .finite negative m e ∧
      scaled m e ≤ scaled k j := by
  unfold roundRatio
  split
  · refine ⟨0, leastExponent, rfl, ?_⟩
    rw [Nat.cast_zero, scaled, Int.cast_zero, zero_mul, scaled_nonneg]
    exact Int.natCast_nonneg k
  · rename_i some_left
    have grid : gridExponent num den ≤ j := by
      refine gridExponent_le (by omega) below least (h.trans_lt ?_)
      refine mul_lt_mul_of_pos_right ?_ (by exact_mod_cast below)
      rw [zpow_add₀ (by norm_num : (2 : ℚ) ≠ 0), scaled, Int.cast_natCast]
      refine mul_lt_mul_of_pos_right ?_ (zpow_pos (by norm_num) j)
      exact_mod_cast short
    refine ofParts_le short greatest grid (divNearest_le ?_ (mantissa_le ?_))
    · exact Nat.mul_pos below (twoTo_pos _)
    · rw [← scaled_shift k j grid] at h
      exact_mod_cast h

theorem ofParts_finite {negative : Bool} {mantissa : Nat} {e : Int}
    (h : e < greatestExponent ∨ e = greatestExponent ∧ mantissa < twoTo 53) :
    ∃ (m : Nat) (e' : Int), ofParts negative mantissa e = .finite negative m e' := by
  unfold ofParts
  dsimp only
  split
  · dsimp only
    rw [if_pos (by omega)]
    exact ⟨_, _, rfl⟩
  · dsimp only
    rw [if_pos (by omega)]
    exact ⟨_, _, rfl⟩

/-- Twice the value that lies half a step above the greatest double. -/
def twiceLimit : ℚ := scaled (2 * (twoTo 53 - 1) + 1 : Nat) greatestExponent

theorem twiceLimit_lt : twiceLimit < 2 * (2 : ℚ) ^ (53 + greatestExponent) := by
  rw [twiceLimit, scaled, zpow_add₀ (by norm_num : (2 : ℚ) ≠ 0), ← mul_assoc]
  refine mul_lt_mul_of_pos_right ?_ (zpow_pos (by norm_num) _)
  norm_num [twoTo]

/-- A quotient below the limit rounds to a double. -/
theorem roundRatio_finite {negative : Bool} {num den : Nat} (below : 0 < den)
    (h : 2 * (num : ℚ) < twiceLimit * den) :
    ∃ (m : Nat) (e : Int), roundRatio negative num den = .finite negative m e := by
  unfold roundRatio
  split
  · exact ⟨_, _, rfl⟩
  · rename_i some_left
    have positive : (0 : ℚ) < den := by exact_mod_cast below
    have grid : gridExponent num den ≤ greatestExponent := by
      refine gridExponent_le (by omega) below (by decide) ?_
      have := mul_lt_mul_of_pos_right twiceLimit_lt positive
      linarith
    refine ofParts_finite (grid.lt_or_eq.imp_right fun last => ⟨last, ?_⟩)
    rw [last]
    have short : divNearest (num * twoTo (-greatestExponent).toNat)
        (den * twoTo greatestExponent.toNat) ≤ twoTo 53 - 1 := by
      apply divNearest_le_of_lt
      rw [← Nat.mul_assoc]
      exact mantissa_lt (by exact_mod_cast h)
    have := twoTo_pos 53
    omega

/-! ## Products and sums -/

theorem num_scaled (m : Nat) (e : Int) :
    ((m * twoTo e.toNat : Nat) : ℚ) = scaled m e * twoTo (-e).toNat := by
  rw [Nat.cast_mul, twoTo_toNat, scaled, Int.cast_natCast, mul_assoc]

theorem scaled_mul (m n : Nat) (e f : Int) :
    scaled (m * n : Nat) (e + f) = scaled m e * scaled n f := by
  rw [scaled, scaled, scaled, zpow_add₀ (by norm_num : (2 : ℚ) ≠ 0)]
  push_cast
  ring

/-- A product that is at most a double rounds to one that is at most that double. -/
theorem mul_le {s t : Bool} {m n k : Nat} {e f j : Int} (short : k < twoTo 53)
    (least : leastExponent ≤ j) (greatest : j ≤ greatestExponent)
    (h : scaled m e * scaled n f ≤ scaled k j) :
    ∃ (m' : Nat) (e' : Int), mul (.finite s m e) (.finite t n f) = .finite (s != t) m' e' ∧
      scaled m' e' ≤ scaled k j := by
  refine roundRatio_le (twoTo_pos _) short least greatest ?_
  rw [num_scaled, scaled_mul]
  exact mul_le_mul_of_nonneg_right h (Nat.cast_nonneg _)

/-- A sum of two positive doubles is its exact value, rounded. -/
theorem add_eq_round (m n : Nat) (e f : Int) :
    ∃ (total : Nat) (base : Int), scaled total base = scaled m e + scaled n f ∧
      add (.finite false m e) (.finite false n f) = roundScaled false total base := by
  refine ⟨m * twoTo (e - min e f).toNat + n * twoTo (f - min e f).toNat, min e f, ?_, ?_⟩
  · rw [← scaled_shift m e (Int.min_le_left e f), ← scaled_shift n f (Int.min_le_right e f)]
    simp only [scaled]
    push_cast
    ring
  · have sum : (m : Int) * twoTo (e - min e f).toNat + (n : Int) * twoTo (f - min e f).toNat =
        (m * twoTo (e - min e f).toNat + n * twoTo (f - min e f).toNat : Nat) := by push_cast; rfl
    unfold add
    dsimp only [signedMantissa]
    rw [if_neg Bool.false_ne_true, if_neg Bool.false_ne_true, sum, Int.natAbs_natCast,
      decide_eq_false (by omega)]
    split
    · rename_i none_left
      rw [Int.natCast_eq_zero.1 none_left, roundScaled, Nat.zero_mul]
      rfl
    · rfl

/-- A sum below the limit rounds to a double. -/
theorem add_finite {m n : Nat} {e f : Int} (h : 2 * (scaled m e + scaled n f) < twiceLimit) :
    ∃ (m' : Nat) (e' : Int),
      add (.finite false m e) (.finite false n f) = .finite false m' e' := by
  obtain ⟨total, base, exact_, same⟩ := add_eq_round m n e f
  rw [same]
  refine roundRatio_finite (twoTo_pos _) ?_
  rw [num_scaled, ← mul_assoc, exact_]
  exact mul_lt_mul_of_pos_right h (by exact_mod_cast twoTo_pos _)

/-! ## Doubles that are not below zero -/

/-- A double that is a number and has no minus sign. -/
def Positive (x : Binary64) : Prop := x = .infinity false ∨ ∃ m e, x = .finite false m e

theorem positive_ofParts (mantissa : Nat) (exponent : Int) :
    Positive (ofParts false mantissa exponent) := by
  unfold ofParts
  split
  split
  · exact .inr ⟨_, _, rfl⟩
  · exact .inl rfl

theorem positive_roundRatio (num den : Nat) : Positive (roundRatio false num den) := by
  unfold roundRatio
  split
  · exact .inr ⟨_, _, rfl⟩
  · exact positive_ofParts _ _

theorem Positive.mul {x : Binary64} (h : Positive x) {n : Nat} (some_left : n ≠ 0) (f : Int) :
    Positive (x.mul (.finite false n f)) := by
  obtain rfl | ⟨m, e, rfl⟩ := h
  · refine .inl ?_
    rw [Binary64.mul, if_neg some_left]
    rfl
  · exact positive_roundRatio _ _

theorem Positive.add {x : Binary64} (h : Positive x) (n : Nat) (f : Int) :
    Positive (x.add (.finite false n f)) := by
  obtain rfl | ⟨m, e, rfl⟩ := h
  · exact .inl rfl
  · obtain ⟨total, base, -, same⟩ := add_eq_round m n e f
    rw [same]
    exact positive_roundRatio _ _

end Binary64
end StoreMeter
