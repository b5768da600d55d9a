import StoreMeter.Proofs.Binary64.Range
/-
# Proofs.Binary64.Nearest — what a quantity rounds to

Rounding as a relation between rationals.  Around a quantity the doubles are the multiples of a power
of two (`Grid`), and the quantity rounds to the multiple nearest to it, an even one if two are as near
(`Rounds`).  So nothing is nearer than what it rounds to, a larger quantity does not round to less, a
double rounds to itself, and among the normal doubles a power of two goes through a rounding.
-/
namespace StoreMeter
namespace Binary64

/-! ## The nearest whole number -/

/-- A whole number is the nearest to a quantity; of two that are as near it is the even one. -/
structure NearestWhole (q : ℚ) (n : Nat) : Prop where
  close : |(n : ℚ) - q| ≤ 1 / 2
  even : |(n : ℚ) - q| = 1 / 2 → n % 2 = 0

theorem nearestWhole_natCast (n : Nat) : NearestWhole n n where
  close := by norm_num
  even h := by norm_num at h

/-- The nearest whole number does not fall as the quantity grows. -/
theorem NearestWhole.mono {q q' : ℚ} {n n' : Nat} (h : NearestWhole q n) (h' : NearestWhole q' n')
    (le : q ≤ q') : n ≤ n' := by
  by_contra larger
  have low := (abs_le.1 h.close).2
  have high := (abs_le.1 h'.close).1
  obtain ⟨more, step⟩ : ∃ more, n = n' + 1 + more := ⟨n - (n' + 1), by omega⟩
  have apart : (n : ℚ) = n' + 1 + more := by exact_mod_cast step
  have nonneg : (0 : ℚ) ≤ more := Nat.cast_nonneg more
  -- both quantities lie half way between two neighbours, and only one of these is even
  have none_more : (more : ℚ) = 0 := by linarith
  have upper : (n : ℚ) - q = 1 / 2 := by linarith
  have lower : (n' : ℚ) - q' = -(1 / 2) := by linarith
  have even := h.even (by rw [upper]; norm_num)
  have even' := h'.even (by rw [lower]; norm_num)
  obtain rfl : more = 0 := by exact_mod_cast none_more
  omega

theorem NearestWhole.unique {q : ℚ} {n n' : Nat} (h : NearestWhole q n) (h' : NearestWhole q n') :
    n = n' :=
  Nat.le_antisymm (h.mono h' le_rfl) (h'.mono h le_rfl)

/-- An even number is reached from half way below it on, as a tie goes to it. -/
theorem NearestWhole.lt_even_iff {q : ℚ} {n k : Nat} (h : NearestWhole q n) (even : k % 2 = 0) :
    n < k ↔ q < k - 1 / 2 := by
  obtain ⟨low, high⟩ := abs_le.1 h.close
  constructor
  · intro less
    by_contra above
    have step : (n : ℚ) + 1 ≤ k := by exact_mod_cast less
    -- below the even number and not below half way is half way exactly
    have tie : |(n : ℚ) - q| = 1 / 2 := by
      rw [abs_of_nonpos (by linarith)]
      linarith
    have next : k = n + 1 := by
      have cast : (k : ℚ) = n + 1 := by linarith
      exact_mod_cast cast
    have := h.even tie
    omega
  · intro below
    have cast : (n : ℚ) < k := by linarith
    exact_mod_cast cast

/-- No whole number is nearer. -/
theorem NearestWhole.le_dist {q : ℚ} {n : Nat} (h : NearestWhole q n) (k : Int) :
    |(n : ℚ) - q| ≤ |(k : ℚ) - q| := by
  rcases eq_or_ne (n : Int) k with same | other
  · rw [← same, Int.cast_natCast]
  · have apart : (1 : ℚ) ≤ |(n : ℚ) - k| := by
      have whole : 1 ≤ |(n : Int) - k| := Int.one_le_abs (sub_ne_zero.2 other)
      exact_mod_cast whole
    -- another whole number is at least one away, and this one at most a half
    have path := abs_sub_le (n : ℚ) q k
    rw [abs_sub_comm q] at path
    have close := h.close
    linarith

/-- A quotient of natural numbers is rounded to the nearest whole number. -/
theorem divNearest_nearest (num : Nat) {den : Nat} (positive : 0 < den) :
    NearestWhole ((num : ℚ) / den) (divNearest num den) := by
  have below : (0 : ℚ) < den := by exact_mod_cast positive
  obtain ⟨rest, value, part⟩ : ∃ rest : ℚ, (num : ℚ) / den = (num / den : Nat) + rest ∧
      ((num % den : Nat) : ℚ) = rest * den := by
    refine ⟨(num % den : Nat) / den, ?_, (div_mul_cancel₀ _ below.ne').symm⟩
    rw [div_eq_iff below.ne', add_mul, div_mul_cancel₀ _ below.ne']
    exact_mod_cast (Nat.div_add_mod' num den).symm
  have nonneg : 0 ≤ rest := by
    rw [← mul_nonneg_iff_of_pos_right below, ← part]
    exact Nat.cast_nonneg _
  have short : rest < 1 := by
    rw [← mul_lt_mul_iff_of_pos_right below, ← part, one_mul]
    exact_mod_cast Nat.mod_lt num positive
  -- the two whole numbers around the quotient, and how far it is from each
  have down : |((num / den : Nat) : ℚ) - num / den| = rest := by
    rw [value, sub_add_cancel_left, abs_neg, abs_of_nonneg nonneg]
  have up : |((num / den + 1 : Nat) : ℚ) - num / den| = 1 - rest := by
    rw [value, Nat.cast_add, Nat.cast_one, add_sub_add_left_eq_sub, abs_of_nonneg (by linarith)]
  unfold divNearest
  dsimp only
  split
  · rename_i less
    have less : rest < 1 / 2 := by
      have cast : 2 * ((num % den : Nat) : ℚ) < den := by exact_mod_cast less
      rw [part] at cast
      nlinarith
    exact ⟨by rw [down]; linarith, by rw [down]; intro tie; linarith⟩
  · split
    · rename_i more
      have more : 1 / 2 < rest := by
        have cast : (den : ℚ) < 2 * ((num % den : Nat) : ℚ) := by exact_mod_cast more
        rw [part] at cast
        nlinarith
      exact ⟨by rw [up]; linarith, by rw [up]; intro tie; linarith⟩
    · rename_i no_less no_more
      have tie : rest = 1 / 2 := by
        have cast : 2 * ((num % den : Nat) : ℚ) = den := by
          exact_mod_cast (by omega : 2 * (num % den) = den)
        rw [part] at cast
        have := mul_right_cancel₀ below.ne' (show 2 * rest * den = 1 * den by linarith)
        linarith
      split
      · rename_i even
        exact ⟨by rw [down, tie], fun _ => even⟩
      · exact ⟨by rw [up, tie]; norm_num, fun _ => by omega⟩

/-! ## The grid of the doubles -/

/-- The doubles around a quantity are the multiples of this power of two: it leaves fifty-three bits to
the quantity, or it is the least one. -/
structure Grid (q : ℚ) (e : Int) : Prop where
  least : leastExponent ≤ e
  below : q < 2 ^ (53 + e)
  full : e = leastExponent ∨ 2 ^ (52 + e) ≤ q

theorem Grid.mono {q q' : ℚ} {e e' : Int} (h : Grid q e) (h' : Grid q' e') (le : q ≤ q') : e ≤ e' := by
  obtain rfl | full := h.full
  · exact h'.least
  -- a grid with fifty-three bits ends where the next one begins
  · have power : (2 : ℚ) ^ (52 + e) < 2 ^ (53 + e') := full.trans_lt (le.trans_lt h'.below)
    have exponent := (zpow_lt_zpow_iff_right₀ (by norm_num : (1 : ℚ) < 2)).1 power
    omega

theorem Grid.unique {q : ℚ} {e e' : Int} (h : Grid q e) (h' : Grid q e') : e = e' :=
  le_antisymm (h.mono h' le_rfl) (h'.mono h le_rfl)

theorem Grid.nearest_le {q : ℚ} {e : Int} {n : Nat} (grid : Grid q e)
    (nearest : NearestWhole (q / 2 ^ e) n) : n ≤ twoTo 53 := by
  refine nearest.mono (nearestWhole_natCast _) ?_
  have below := grid.below
  rw [zpow_add₀ (by norm_num : (2 : ℚ) ≠ 0)] at below
  rw [div_le_iff₀ (zpow_pos (by norm_num) e)]
  refine below.le.trans_eq ?_
  norm_num [twoTo]

theorem Grid.le_nearest {q : ℚ} {e : Int} {n : Nat} (full : 2 ^ (52 + e) ≤ q)
    (nearest : NearestWhole (q / 2 ^ e) n) : twoTo 52 ≤ n := by
  refine (nearestWhole_natCast _).mono nearest ?_
  rw [zpow_add₀ (by norm_num : (2 : ℚ) ≠ 0)] at full
  rw [le_div_iff₀ (zpow_pos (by norm_num) e)]
  refine Eq.trans_le ?_ full
  norm_num [twoTo]

theorem lt_twoPow_floorLog2 {num den : Nat} (below : 0 < den) :
    (num : ℚ) < 2 ^ (floorLog2 num den + 1) * den := by
  have shift (e : Int) (h : num * twoTo (-e).toNat < den * twoTo e.toNat) :
      (num : ℚ) < 2 ^ e * den := by
    have cast : (num : ℚ) * twoTo (-e).toNat < den * twoTo e.toNat := by exact_mod_cast h
    rw [twoTo_toNat e, ← mul_assoc] at cast
    rw [mul_comm]
    exact lt_of_mul_lt_mul_right cast (Nat.cast_nonneg _)
  unfold floorLog2
  dsimp only
  split
  · -- beyond the guess, the leading bits of both numbers decide
    apply shift
    have first : num < twoTo (num.log2 + 1) := Nat.lt_log2_self
    have last : twoTo den.log2 ≤ den := Nat.log2_self_le (by omega)
    generalize exponent : (num.log2 : Int) - (den.log2 : Int) + 1 = e
    calc num * twoTo (-e).toNat < twoTo (num.log2 + 1) * twoTo (-e).toNat :=
          Nat.mul_lt_mul_of_pos_right first (twoTo_pos _)
      _ = twoTo den.log2 * twoTo e.toNat := by
          simp only [twoTo, Nat.pow_eq, ← Nat.pow_add]
          congr 1
          omega
      _ ≤ den * twoTo e.toNat := Nat.mul_le_mul_right _ last
  · rename_i short
    rw [Int.sub_add_cancel]
    exact shift _ (not_le.1 short)

/-- The grid of a quotient is found. -/
theorem grid_gridExponent {num den : Nat} (above : 0 < num) (below : 0 < den) :
    Grid ((num : ℚ) / den) (gridExponent num den) := by
  have positive : (0 : ℚ) < den := by exact_mod_cast below
  refine ⟨le_max_left _ _, ?_, ?_⟩
  · rw [div_lt_iff₀ positive]
    refine (lt_twoPow_floorLog2 below).trans_le ?_
    refine mul_le_mul_of_nonneg_right (zpow_le_zpow_right₀ (by norm_num) ?_) positive.le
    unfold gridExponent
    omega
  · unfold gridExponent
    rcases le_total (floorLog2 num den - 52) leastExponent with small | normal
    · exact .inl (max_eq_left small)
    · right
      rw [max_eq_right normal, add_sub_cancel, le_div_iff₀ positive]
      exact twoPow_floorLog2_le above

/-! ## Rounding -/

/-- What a quantity rounds to: the multiple nearest to it on its grid. -/
def Rounds (q w : ℚ) : Prop :=
  ∃ (e : Int) (n : Nat), Grid q e ∧ NearestWhole (q / 2 ^ e) n ∧ w = scaled n e

/-- The values of doubles that are not below zero, were their exponents not bounded above. -/
def IsDouble (d : ℚ) : Prop :=
  ∃ (k : Nat) (j : Int), k ≤ twoTo 53 ∧ leastExponent ≤ j ∧ d = scaled k j

theorem Rounds.isDouble {q w : ℚ} (h : Rounds q w) : IsDouble w := by
  obtain ⟨e, n, grid, nearest, same⟩ := h
  exact ⟨n, e, grid.nearest_le nearest, grid.least, same⟩

theorem scaled_mono {n n' : Nat} (le : n ≤ n') (e : Int) : scaled n e ≤ scaled n' e :=
  (scaled_le _ _ _).2 (Int.ofNat_le.2 le)

theorem scaled_twoPow (k : Nat) (e : Int) : scaled (twoTo k) e = 2 ^ (k + e) := by
  rw [scaled, zpow_add₀ (by norm_num : (2 : ℚ) ≠ 0), zpow_natCast, twoTo]
  norm_num

/-- A larger quantity does not round to less. -/
theorem Rounds.mono {q q' w w' : ℚ} (h : Rounds q w) (h' : Rounds q' w') (le : q ≤ q') : w ≤ w' := by
  obtain ⟨e, n, grid, nearest, rfl⟩ := h
  obtain ⟨e', n', grid', nearest', rfl⟩ := h'
  rcases (grid.mono grid' le).eq_or_lt with rfl | wider
  · exact scaled_mono (nearest.mono nearest' ((div_le_div_iff_of_pos_right
      (zpow_pos (by norm_num) e)).2 le)) e
  · -- a wider grid begins where the narrower one ends
    have full : 2 ^ (52 + e') ≤ q' := grid'.full.resolve_left (by have := grid.least; omega)
    calc scaled n e ≤ scaled (twoTo 53) e := scaled_mono (grid.nearest_le nearest) e
      _ = 2 ^ (53 + e) := scaled_twoPow 53 e
      _ ≤ 2 ^ (52 + e') := zpow_le_zpow_right₀ (by norm_num) (by omega)
      _ = scaled (twoTo 52) e' := (scaled_twoPow 52 e').symm
      _ ≤ scaled n' e' := scaled_mono (Grid.le_nearest full nearest') e'

theorem scaled_dist (k : Int) (q : ℚ) (e : Int) :
    |scaled k e - q| = |(k : ℚ) - q / 2 ^ e| * 2 ^ e := by
  have positive : (0 : ℚ) < 2 ^ e := zpow_pos (by norm_num) e
  rw [← abs_of_pos positive, ← abs_mul, abs_of_pos positive, sub_mul, div_mul_cancel₀ _ positive.ne',
    scaled]

/-- No double is nearer to a quantity than what it rounds to. -/
theorem Rounds.nearest {q w d : ℚ} (h : Rounds q w) (double : IsDouble d) : |w - q| ≤ |d - q| := by
  obtain ⟨e, n, grid, nearest, rfl⟩ := h
  obtain ⟨k, j, short, least, rfl⟩ := double
  have on_grid (k : Int) : |scaled n e - q| ≤ |scaled k e - q| := by
    rw [scaled_dist, scaled_dist]
    exact mul_le_mul_of_nonneg_right (nearest.le_dist k) (zpow_pos (by norm_num) e).le
  rcases le_or_gt e j with wide | narrow
  · rw [← scaled_shift k j wide]
    exact on_grid _
  · -- the doubles of a narrower grid lie below the first of this one, and that below the quantity
    have full : 2 ^ (52 + e) ≤ q := grid.full.resolve_left (by omega)
    have lower : scaled k j ≤ 2 ^ (52 + e) := by
      calc scaled k j ≤ scaled (twoTo 53) j := scaled_mono short j
        _ = 2 ^ (53 + j) := scaled_twoPow 53 j
        _ ≤ 2 ^ (52 + e) := zpow_le_zpow_right₀ (by norm_num) (by omega)
    refine (on_grid (twoTo 52)).trans ?_
    rw [scaled_twoPow 52 e, abs_sub_comm, abs_sub_comm (scaled k j), abs_of_nonneg, abs_of_nonneg] <;>
      push_cast <;> linarith

/-- A double rounds to itself. -/
theorem Rounds.eq_of_isDouble {q w : ℚ} (h : Rounds q w) (double : IsDouble q) : w = q := by
  have near := h.nearest double
  rw [sub_self, abs_zero] at near
  exact sub_eq_zero.1 (abs_nonpos_iff.1 near)

/-- What is at most a double rounds to at most that double. -/
theorem Rounds.le_of_isDouble {q w d : ℚ} (h : Rounds q w) (double : IsDouble d) (le : q ≤ d) :
    w ≤ d := by
  have near := h.nearest double
  rw [abs_of_nonneg (sub_nonneg.2 le)] at near
  have := (abs_le.1 near).2
  linarith

/-- What is at least a double rounds to at least that double. -/
theorem Rounds.ge_of_isDouble {q w d : ℚ} (h : Rounds q w) (double : IsDouble d) (le : d ≤ q) :
    d ≤ w := by
  have near := h.nearest double
  rw [abs_of_nonpos (sub_nonpos.2 le)] at near
  have := (abs_le.1 near).1
  linarith

/-- A power of two goes through the rounding of a normal quantity. -/
theorem Rounds.shift {q w : ℚ} (h : Rounds q w) (normal : 2 ^ (52 + leastExponent) ≤ q) (k : Nat) :
    Rounds (q * 2 ^ k) (w * 2 ^ k) := by
  obtain ⟨e, n, grid, nearest, rfl⟩ := h
  have power (i : Int) : (2 : ℚ) ^ (i + k) = 2 ^ i * 2 ^ k := by
    rw [zpow_add₀ (by norm_num : (2 : ℚ) ≠ 0), zpow_natCast]
  have positive : (0 : ℚ) < 2 ^ k := by positivity
  have full : 2 ^ (52 + e) ≤ q := grid.full.elim (fun same => same ▸ normal) id
  refine ⟨e + k, n, ⟨by have := grid.least; omega, ?_, .inr ?_⟩, ?_, ?_⟩
  · rw [← add_assoc, power, mul_lt_mul_iff_of_pos_right positive]
    exact grid.below
  · rw [← add_assoc, power, mul_le_mul_iff_of_pos_right positive]
    exact full
  · rw [power, mul_div_mul_right _ _ positive.ne']
    exact nearest
  · rw [scaled, scaled, power, mul_assoc]

end Binary64
end StoreMeter
