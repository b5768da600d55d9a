import Mathlib.Algebra.Order.Floor.Semifield
import Mathlib.Data.Rat.Floor
import StoreMeter.Proofs.Binary64.Nearest
/-
# Proofs.Binary64.Values — the values that doubles hold

`Stores` says which value a double holds.  `roundRatio` rounds the exact quotient, and so every
operation rounds the exact result; as long as that lies in the range of the doubles, one rule an
operation says so.  Truncation and comparison work on the values themselves.
-/
namespace StoreMeter
namespace Binary64

/-- The double is finite, not below zero, and holds this value. -/
def Stores (x : Binary64) (v : ℚ) : Prop :=
  ∃ (m : Nat) (e : Int), x = .finite false m e ∧ m < twoTo 53 ∧ leastExponent ≤ e ∧ v = scaled m e

theorem Stores.nonneg {x : Binary64} {v : ℚ} (h : Stores x v) : 0 ≤ v := by
  obtain ⟨m, e, -, -, -, rfl⟩ := h
  exact scaled_nonneg.2 (Int.natCast_nonneg m)

/-! ## Quotients -/

theorem ratio_on_grid (num den : Nat) (e : Int) :
    ((num * twoTo (-e).toNat : Nat) : ℚ) / (den * twoTo e.toNat : Nat) = num / den / 2 ^ e := by
  have positive : (0 : ℚ) < twoTo (-e).toNat := by exact_mod_cast twoTo_pos _
  rw [Nat.cast_mul, Nat.cast_mul, twoTo_toNat e, ← mul_assoc, mul_div_mul_right _ _ positive.ne',
    div_div]

theorem mantissa_nearest (num : Nat) {den : Nat} (below : 0 < den) (e : Int) :
    NearestWhole ((num : ℚ) / den / 2 ^ e)
      (divNearest (num * twoTo (-e).toNat) (den * twoTo e.toNat)) := by
  rw [← ratio_on_grid]
  exact divNearest_nearest _ (Nat.mul_pos below (twoTo_pos _))

theorem ofParts_short {negative : Bool} {n : Nat} {e : Int} (short : n < twoTo 53)
    (range : e ≤ greatestExponent) : ofParts negative n e = .finite negative n e := by
  unfold ofParts
  dsimp only
  rw [if_pos short]
  dsimp only
  rw [if_pos range]

theorem ofParts_long {negative : Bool} {n : Nat} {e : Int} (long : twoTo 53 ≤ n)
    (range : e + 1 ≤ greatestExponent) :
    ofParts negative n e = .finite negative (twoTo 52) (e + 1) := by
  unfold ofParts
  dsimp only
  rw [if_neg (not_lt.2 long)]
  dsimp only
  rw [if_pos range]

/-- The parts stay as they are, or the mantissa was rounded up to `2 ^ 53` and carries into the
exponent. -/
theorem ofParts_cases {negative sign : Bool} {n m : Nat} {e e' : Int}
    (same : ofParts negative n e = .finite sign m e') :
    sign = negative ∧ e' ≤ greatestExponent ∧
      (n < twoTo 53 ∧ m = n ∧ e' = e ∨ twoTo 53 ≤ n ∧ m = twoTo 52 ∧ e' = e + 1) := by
  unfold ofParts at same
  dsimp only at same
  split at same
  · rename_i short
    split at same
    · rename_i range
      cases same
      exact ⟨rfl, range, .inl ⟨short, rfl, rfl⟩⟩
    · cases same
  · rename_i long
    split at same
    · rename_i range
      cases same
      exact ⟨rfl, range, .inr ⟨not_lt.1 long, rfl, rfl⟩⟩
    · cases same

theorem stores_ofParts {n m : Nat} {e e' : Int} (short : n ≤ twoTo 53) (least : leastExponent ≤ e)
    (same : ofParts false n e = .finite false m e') :
    Stores (ofParts false n e) (scaled n e) := by
  obtain ⟨-, -, ⟨less, rfl, rfl⟩ | ⟨full, rfl, rfl⟩⟩ := ofParts_cases same
  · exact ⟨_, _, same, less, least, rfl⟩
  · refine ⟨_, _, same, by decide, by omega, ?_⟩
    -- the mantissa that carries has the value of `2 ^ 52` one exponent higher
    obtain rfl : n = twoTo 53 := le_antisymm short full
    rw [scaled_twoPow 53, scaled_twoPow 52]
    congr 1
    push_cast
    ring

theorem scaled_zero (e : Int) : scaled (0 : Nat) e = 0 := by
  rw [scaled, Nat.cast_zero, Int.cast_zero, zero_mul]

theorem rounds_zero : Rounds 0 0 := by
  refine ⟨leastExponent, 0, ⟨le_rfl, by positivity, .inl rfl⟩, ?_, (scaled_zero _).symm⟩
  rw [zero_div]
  exact_mod_cast nearestWhole_natCast 0

/-- A quotient below the limit of the doubles is rounded to a double. -/
theorem stores_roundRatio (num : Nat) {den : Nat} (below : 0 < den)
    (range : 2 * ((num : ℚ) / den) < twiceLimit) :
    ∃ w, Stores (roundRatio false num den) w ∧ Rounds ((num : ℚ) / den) w := by
  have positive : (0 : ℚ) < den := by exact_mod_cast below
  rw [← mul_div_assoc, div_lt_iff₀ positive] at range
  obtain ⟨m, e', finite⟩ : ∃ m e', roundRatio false num den = .finite false m e' :=
    roundRatio_finite below range
  unfold roundRatio at finite ⊢
  split
  · rename_i none_left
    refine ⟨0, ⟨0, leastExponent, rfl, by decide, le_rfl, (scaled_zero _).symm⟩, ?_⟩
    rw [none_left, Nat.cast_zero, zero_div]
    exact rounds_zero
  · rename_i some_left
    rw [if_neg some_left] at finite
    have grid := grid_gridExponent (by omega : 0 < num) below
    have nearest := mantissa_nearest num below (gridExponent num den)
    exact ⟨_, stores_ofParts (grid.nearest_le nearest) grid.least finite, _, _, grid, nearest, rfl⟩

/-- The grid around a quotient and the nearest multiple on it decide what the quotient is rounded
to. -/
theorem roundRatio_eq {negative : Bool} {num den n : Nat} {e : Int} (above : 0 < num)
    (below : 0 < den) (grid : Grid ((num : ℚ) / den) e)
    (nearest : NearestWhole ((num : ℚ) / den / 2 ^ e) n) :
    roundRatio negative num den = ofParts negative n e := by
  obtain rfl := grid.unique (grid_gridExponent above below)
  unfold roundRatio
  rw [if_neg above.ne', nearest.unique (mantissa_nearest num below _)]

/-- Only the value of a quotient decides what it is rounded to. -/
theorem roundRatio_congr {negative : Bool} {num den num' den' : Nat} (below : 0 < den)
    (below' : 0 < den') (same : (num : ℚ) / den = num' / den') :
    roundRatio negative num den = roundRatio negative num' den' := by
  have positive_iff {n d : Nat} (below : 0 < d) : 0 < (n : ℚ) / d ↔ 0 < n := by
    rw [div_pos_iff_of_pos_right (by exact_mod_cast below), Nat.cast_pos]
  rcases Nat.eq_zero_or_pos num with rfl | above
  · have none_left : ¬ 0 < num' := fun above' =>
      (positive_iff below).1 (same ▸ (positive_iff below').2 above') |>.ne rfl
    rw [Nat.eq_zero_of_not_pos none_left]
    rfl
  · have above' : 0 < num' := (positive_iff below').1 (same ▸ (positive_iff below).2 above)
    have grid := grid_gridExponent above below
    have nearest := mantissa_nearest num below (gridExponent num den)
    rw [roundRatio_eq above below grid nearest]
    -- the grid and the nearest multiple depend on the value only
    rw [same] at grid nearest
    rw [roundRatio_eq above' below' grid nearest]

/-! ## Operations -/

/-- The limit of the doubles is far away. -/
theorem lt_twiceLimit {q : ℚ} (small : q ≤ 2 ^ 54) : 2 * q < twiceLimit := by
  have far : (2 : ℚ) ^ (55 : Int) < 2 ^ greatestExponent :=
    zpow_lt_zpow_right₀ (by norm_num) (by decide)
  rw [twiceLimit, scaled]
  generalize (2 : ℚ) ^ greatestExponent = step at far ⊢
  norm_num [twoTo] at far small ⊢
  linarith

/-- A quotient of two doubles that are not below zero is its exact value, rounded. -/
theorem div_eq_round (m : Nat) (e : Int) {n : Nat} (some_left : n ≠ 0) (f : Int) :
    ∃ num den : Nat, 0 < den ∧ (num : ℚ) / den = scaled m e / scaled n f ∧
      div (.finite false m e) (.finite false n f) = roundRatio false num den := by
  refine ⟨m * twoTo (e - min e f).toNat, n * twoTo (f - min e f).toNat,
    Nat.mul_pos (Nat.pos_of_ne_zero some_left) (twoTo_pos _), ?_, ?_⟩
  · rw [← scaled_shift m e (Int.min_le_left e f), ← scaled_shift n f (Int.min_le_right e f), scaled,
      scaled, mul_div_mul_right _ _ (zpow_ne_zero _ (by norm_num))]
    push_cast
    rfl
  · rw [Binary64.div, if_neg some_left]
    rfl

/-- A double as a quotient of whole numbers. -/
theorem ratio_scaled (m : Nat) (e : Int) :
    ((m * twoTo e.toNat : Nat) : ℚ) / twoTo (-e).toNat = scaled m e := by
  have positive : (0 : ℚ) < twoTo (-e).toNat := by exact_mod_cast twoTo_pos _
  rw [num_scaled, mul_div_assoc, div_self positive.ne', mul_one]

theorem stores_roundScaled {m : Nat} {e : Int} (range : 2 * scaled m e < twiceLimit) :
    ∃ w, Stores (roundScaled false m e) w ∧ Rounds (scaled m e) w := by
  rw [← ratio_scaled] at range ⊢
  exact stores_roundRatio _ (twoTo_pos _) range

section

variable {x y : Binary64} {v w : ℚ}

/-- The product of two values, rounded. -/
theorem Stores.mul (h : Stores x v) (h' : Stores y w) (range : 2 * (v * w) < twiceLimit) :
    ∃ z, Stores (x.mul y) z ∧ Rounds (v * w) z := by
  obtain ⟨m, e, rfl, -, -, rfl⟩ := h
  obtain ⟨n, f, rfl, -, -, rfl⟩ := h'
  rw [← scaled_mul] at range ⊢
  exact stores_roundScaled range

/-- The sum of two values, rounded. -/
theorem Stores.add (h : Stores x v) (h' : Stores y w) (range : 2 * (v + w) < twiceLimit) :
    ∃ z, Stores (x.add y) z ∧ Rounds (v + w) z := by
  obtain ⟨m, e, rfl, -, -, rfl⟩ := h
  obtain ⟨n, f, rfl, -, -, rfl⟩ := h'
  obtain ⟨total, base, value, same⟩ := add_eq_round m n e f
  rw [same]
  rw [← value] at range ⊢
  exact stores_roundScaled range

/-- The quotient of two values, rounded. -/
theorem Stores.div (h : Stores x v) (h' : Stores y w) (positive : 0 < w)
    (range : 2 * (v / w) < twiceLimit) : ∃ z, Stores (x.div y) z ∧ Rounds (v / w) z := by
  obtain ⟨m, e, rfl, -, -, rfl⟩ := h
  obtain ⟨n, f, rfl, -, -, rfl⟩ := h'
  have some_left : n ≠ 0 := by
    rintro rfl
    rw [scaled_zero] at positive
    exact positive.false
  obtain ⟨num, den, below, ratio, same⟩ := div_eq_round m e some_left f
  rw [same]
  rw [← ratio] at range ⊢
  exact stores_roundRatio _ below range

/-- The whole part of a value. -/
theorem Stores.toInt (h : Stores x v) : x.toInt = .ok (⌊v⌋₊ : Int) := by
  obtain ⟨m, e, rfl, -, -, rfl⟩ := h
  have whole : wholePart m e = ⌊scaled m e⌋₊ := by
    rw [wholePart, ← Nat.floor_div_eq_div (K := ℚ), ratio_scaled]
  rw [Binary64.toInt, whole]
  rfl

/-- Doubles compare as their values do. -/
theorem Stores.lt (h : Stores x v) (h' : Stores y w) : x.lt y = true ↔ v < w := by
  obtain ⟨m, e, rfl, -, -, rfl⟩ := h
  obtain ⟨n, f, rfl, -, -, rfl⟩ := h'
  -- both mantissas are shifted to the lower of the exponents
  unfold Binary64.lt compare? compareScaled
  dsimp only [signedMantissa]
  rw [if_neg Bool.false_ne_true, if_neg Bool.false_ne_true, beq_iff_eq, Option.some_inj,
    compare_lt_iff_lt, ← lt_iff_lt_of_le_iff_le (scaled_le _ _ (min e f)),
    scaled_shift m e (Int.min_le_left e f), scaled_shift n f (Int.min_le_right e f)]

end

/-- Whole numbers of at most fifty-three bits are doubles. -/
theorem isDouble_natCast {n : Nat} (short : n ≤ twoTo 53) : IsDouble n :=
  ⟨n, 0, short, by decide, by rw [scaled, zpow_zero, mul_one, Int.cast_natCast]⟩

theorem ofInt_natCast (n : Nat) : ofInt n = ofNat n := by
  rw [ofInt, decide_eq_false (Int.natCast_nonneg n).not_gt, Int.natAbs_natCast, ofNat]

theorem stores_ofNat {n : Nat} (short : n ≤ twoTo 53) : Stores (ofNat n) n := by
  have small : (n : ℚ) ≤ 2 ^ 54 := by
    have cast : (n : ℚ) ≤ (twoTo 53 : Nat) := by exact_mod_cast short
    refine cast.trans ?_
    norm_num [twoTo]
  obtain ⟨w, stores, rounds⟩ := stores_roundRatio n Nat.one_pos (by
    rw [Nat.cast_one, div_one]
    exact lt_twiceLimit small)
  rw [Nat.cast_one, div_one] at rounds
  rwa [rounds.eq_of_isDouble (isDouble_natCast short)] at stores

/-- A whole number of at most fifty-three bits becomes the double that holds it. -/
theorem ofIntChecked_natCast {n : Nat} (short : n ≤ twoTo 53) : ofIntChecked n = .ok (ofNat n) := by
  obtain ⟨m, e, finite, -⟩ := stores_ofNat short
  rw [ofIntChecked, ofInt_natCast, finite]

end Binary64
end StoreMeter
