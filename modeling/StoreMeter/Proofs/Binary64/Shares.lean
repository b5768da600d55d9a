import Mathlib.Tactic.ByContra
import Mathlib.Tactic.Linarith
import StoreMeter.Proofs.Binary64.Order
/-
# Proofs.Binary64.Shares — a part of a whole as a double

The quotient of a part and its whole lies between zero and one, and rounding keeps it there: the
mantissa of a quotient of at most one is rounded from at most the power of two that stands for one.
-/
namespace StoreMeter
namespace Binary64

/-- The nearest integer to a quotient is at most an integer that the quotient lies less than one half
above. -/
theorem divNearest_le_of_lt {num den bound : Nat} (h : 2 * num < (2 * bound + 1) * den) :
    divNearest num den ≤ bound := by
  have split := Nat.div_add_mod num den
  have low : num / den ≤ bound := by
    by_contra high
    have more : (bound + 1) * den ≤ num / den * den := Nat.mul_le_mul_right den (by omega)
    have whole := Nat.div_mul_le_self num den
    nlinarith
  rcases Nat.lt_or_eq_of_le low with less | exact_
  · unfold divNearest
    dsimp only
    split
    · omega
    · split
      · omega
      · split <;> omega
  · -- a quotient with the bound as its whole part is rounded down
    have rest : 2 * (num % den) < den := by
      rw [exact_] at split
      nlinarith
    unfold divNearest
    dsimp only
    rw [if_pos rest]
    exact low

/-- The nearest integer to a quotient is at most an integer that the quotient does not exceed. -/
theorem divNearest_le {num den bound : Nat} (positive : 0 < den) (h : num ≤ bound * den) :
    divNearest num den ≤ bound := by
  apply divNearest_le_of_lt
  rw [Nat.add_mul, Nat.one_mul, Nat.mul_assoc]
  omega

theorem floorLog2_nonpos {num den : Nat} (h : num ≤ den) : floorLog2 num den ≤ 0 := by
  have logs : num.log2 ≤ den.log2 := by
    rcases Nat.eq_zero_or_pos num with rfl | positive
    · simp
    · rw [Nat.le_log2 (by omega)]
      exact (Nat.log2_self_le (by omega)).trans h
  unfold floorLog2
  dsimp only
  split <;> omega

theorem ofNat_one : ofNat 1 = .finite false (twoTo 52) (-52) := by decide +kernel

theorem scaled_twoTo (k : Nat) : scaled (twoTo k) (-k) = scaled 1 0 := by
  have shifted := scaled_shift 1 0 (show -(k : Int) ≤ 0 by omega)
  rwa [Int.one_mul, Int.zero_sub, Int.neg_neg, Int.toNat_natCast] at shifted

/-- A finite double that is at most one. -/
theorem finite_le_one {mantissa k : Nat} (h : mantissa ≤ twoTo k) :
    le (.finite false mantissa (-k)) (ofNat 1) = true := by
  rw [ofNat_one, le_iff]
  refine ⟨_, _, rfl, rfl, ?_⟩
  rw [WithBot.coe_le_coe, WithTop.coe_le_coe]
  calc scaled mantissa (-k) ≤ scaled (twoTo k) (-k) := (scaled_le _ _ _).2 (Int.ofNat_le.2 h)
    _ = scaled (twoTo 52) (-(52 : Nat)) := (scaled_twoTo k).trans (scaled_twoTo 52).symm

theorem zero_le_finite (mantissa : Nat) (exponent : Int) :
    le (zero false) (.finite false mantissa exponent) = true := by
  rw [zero, le, compare?, Option.any_some, compareScaled_isLE]
  have least : scaled (signedMantissa false 0) leastExponent = 0 := by
    rw [scaled, signedMantissa]
    simp
  rw [least, scaled_nonneg]
  exact Int.natCast_nonneg mantissa

/-- A finite double from a mantissa that is at most one. -/
theorem ofParts_share {mantissa k : Nat} (h : mantissa ≤ twoTo k) :
    ∃ m j : Nat, ofParts false mantissa (-k) = .finite false m (-j) ∧ m ≤ twoTo j := by
  unfold ofParts
  split
  rename_i m e normal
  split at normal
  · cases normal
    refine ⟨mantissa, k, if_pos ?_, h⟩
    rw [greatestExponent]
    omega
  · rename_i large
    cases normal
    -- a mantissa of fifty-four bits is below one only with an exponent to match
    have bits : 53 ≤ k := by
      by_contra few
      have : twoTo k ≤ twoTo 52 := Nat.pow_le_pow_right (by decide) (by omega)
      have : twoTo 53 = twoTo 52 * 2 := twoTo_succ 52
      have := twoTo_pos 52
      omega
    refine ⟨twoTo 52, k - 1, ?_, Nat.pow_le_pow_right (by decide) (by omega)⟩
    have exponent : -(k : Int) + 1 = -((k - 1 : Nat) : Int) := by omega
    rw [exponent, if_pos]
    rw [greatestExponent]
    omega

theorem ofQuotient_natCast (num den : Nat) :
    ofQuotient (num : Int) (den : Int) = roundRatio false num den := by
  rw [ofQuotient, decide_eq_false (by omega), decide_eq_false (by omega), Int.natAbs_natCast,
    Int.natAbs_natCast]
  rfl

/-- The share of a part in its whole is a double between zero and one. -/
theorem quotientChecked_share {part whole : Nat} (positive : 0 < whole) (h : part ≤ whole) :
    ∃ x, quotientChecked part whole = .ok x ∧ le (zero false) x = true ∧ le x (ofNat 1) = true := by
  have rounded : ∃ m j : Nat,
      ofQuotient part whole = .finite false m (-j) ∧ m ≤ twoTo j := by
    rw [ofQuotient_natCast, roundRatio]
    split
    · exact ⟨0, 1074, rfl, Nat.zero_le _⟩
    · have low : gridExponent part whole ≤ 0 := by
        have := floorLog2_nonpos h
        simp only [gridExponent, leastExponent]
        omega
      obtain ⟨k, exponent⟩ : ∃ k : Nat, gridExponent part whole = -k :=
        ⟨(gridExponent part whole).natAbs, by omega⟩
      rw [exponent]
      dsimp only
      rw [Int.neg_neg, Int.toNat_natCast]
      refine ofParts_share (divNearest_le ?_ ?_)
      · exact Nat.mul_pos positive (twoTo_pos _)
      · have none_more : (-(k : Int)).toNat = 0 := by omega
        rw [none_more, twoTo_zero, Nat.mul_one, Nat.mul_comm]
        exact Nat.mul_le_mul_left _ h
  obtain ⟨m, j, same, bound⟩ := rounded
  refine ⟨.finite false m (-j), ?_, zero_le_finite _ _, finite_le_one bound⟩
  rw [quotientChecked, if_neg (by omega), same]

end Binary64
end StoreMeter
