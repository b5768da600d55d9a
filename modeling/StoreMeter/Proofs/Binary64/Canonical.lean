import StoreMeter.Proofs.Binary64.Values
/-
# Proofs.Binary64.Canonical — doubles bit for bit

What a rounding returns is canonical: each value has one mantissa and one exponent.  So two rounded
doubles of one value are the same, and a double that is rounded again stays what it is.  A power of
two goes through the rounding of a positive whole number (`roundRatio_twoTo`), so it does not
matter whether a whole number is divided by it before or after it becomes a double.

The comparison of doubles is the order of their values.  It is total on the doubles that are numbers,
and among rounded doubles only equal ones lie beyond each other (`Rounded.antisymm`).
-/
namespace StoreMeter
namespace Binary64

/-! ## What a rounding returns -/

theorem ofParts_of_canonical {negative : Bool} {m : Nat} {e : Int} (canonical : Canonical m e) :
    ofParts negative m e = .finite negative m e :=
  ofParts_short canonical.1 canonical.2.2.1

/-- A finite double that comes out of a rounding is canonical. -/
theorem canonical_roundRatio {negative sign : Bool} {num den m : Nat} {e : Int} (below : 0 < den)
    (same : roundRatio negative num den = .finite sign m e) : Canonical m e := by
  unfold roundRatio at same
  split at same
  · cases same
    decide
  · rename_i some_left
    have grid := grid_gridExponent (Nat.pos_of_ne_zero some_left) below
    have nearest := mantissa_nearest num below (gridExponent num den)
    obtain ⟨-, greatest, ⟨short, rfl, rfl⟩ | ⟨-, rfl, rfl⟩⟩ := ofParts_cases same
    · refine ⟨short, grid.least, greatest, ?_⟩
      exact grid.full.elim .inr fun full => .inl (Grid.le_nearest full nearest)
    · -- the mantissa that carried is `2 ^ 52`, the least one with all bits
      have least := grid.least
      exact ⟨by decide, by omega, greatest, .inl le_rfl⟩

theorem Canonical.grid {m : Nat} {e : Int} (canonical : Canonical m e) : Grid (scaled m e) e := by
  obtain ⟨short, least, -, full⟩ := canonical
  have positive : (0 : ℚ) < 2 ^ e := zpow_pos (by norm_num) e
  refine ⟨least, ?_, full.symm.imp_right fun long => ?_⟩
  · rw [show (53 : Int) = (53 : Nat) from rfl, ← scaled_twoPow, scaled, scaled]
    exact mul_lt_mul_of_pos_right (by exact_mod_cast short) positive
  · rw [show (52 : Int) = (52 : Nat) from rfl, ← scaled_twoPow]
    exact scaled_mono long e

/-- A double is rounded to itself, bit for bit. -/
theorem roundRatio_of_canonical {negative : Bool} {num den m : Nat} {e : Int} (below : 0 < den)
    (canonical : Canonical m e) (same : (num : ℚ) / den = scaled m e) :
    roundRatio negative num den = .finite negative m e := by
  -- zero has a double of its own, outside of every grid
  rcases Nat.eq_zero_or_pos num with rfl | above
  · rw [Nat.cast_zero, zero_div, eq_comm, scaled, mul_eq_zero,
      or_iff_left (zpow_ne_zero e (by norm_num))] at same
    obtain rfl : m = 0 := by exact_mod_cast same
    obtain rfl : e = leastExponent := canonical.2.2.2.resolve_left (by decide)
    rfl
  · have nearest : NearestWhole ((num : ℚ) / den / 2 ^ e) m := by
      rw [same, scaled, Int.cast_natCast, mul_div_assoc, div_self (zpow_ne_zero e (by norm_num)),
        mul_one]
      exact nearestWhole_natCast m
    rw [roundRatio_eq above below (same ▸ canonical.grid) nearest, ofParts_of_canonical canonical]

theorem Canonical.unique {m m' : Nat} {e e' : Int} (canonical : Canonical m e)
    (canonical' : Canonical m' e') (same : scaled m e = scaled m' e') : m = m' ∧ e = e' := by
  have both : finite false m e = .finite false m' e' := by
    rw [← roundRatio_of_canonical (twoTo_pos _) canonical (ratio_scaled m e)]
    exact roundRatio_of_canonical (twoTo_pos _) canonical' ((ratio_scaled m e).trans same)
  cases both
  exact ⟨rfl, rfl⟩

/-! ## Division by a power of two -/

theorem scaled_div_twoTo (m : Nat) (e : Int) (k : Nat) :
    scaled m e / twoTo k = scaled m (e - k) := by
  rw [scaled, scaled, twoTo_cast, mul_div_assoc, ← zpow_sub₀ (by norm_num : (2 : ℚ) ≠ 0)]

/-- The exponents of a positive whole number: its fifty-three bits do not reach below the least one,
even after a division by a power of two. -/
theorem Grid.normal {n : Nat} {e : Int} (grid : Grid n e) (above : 0 < n) :
    -52 ≤ e ∧ 2 ^ (52 + e) ≤ (n : ℚ) := by
  have one : (1 : ℚ) ≤ n := by exact_mod_cast above
  have wide : -52 ≤ e := by
    have power : (2 : ℚ) ^ (0 : Int) < 2 ^ (53 + e) := by
      rw [zpow_zero]
      exact one.trans_lt grid.below
    have exponent := (zpow_lt_zpow_iff_right₀ (by norm_num : (1 : ℚ) < 2)).1 power
    omega
  refine ⟨wide, grid.full.resolve_left ?_⟩
  rw [leastExponent]
  omega

theorem ofParts_lower {negative sign : Bool} {n m : Nat} {e e' : Int}
    (same : ofParts negative n e = .finite sign m e') (k : Nat) :
    ofParts negative n (e - k) = .finite sign m (e' - k) := by
  obtain ⟨rfl, greatest, ⟨short, rfl, rfl⟩ | ⟨long, rfl, rfl⟩⟩ := ofParts_cases same
  · exact ofParts_short short (by omega)
  · rw [ofParts_long long (by omega), sub_add_eq_add_sub]

/-- A power of two goes through the rounding of a whole number: the mantissa stays, and the exponent
falls. -/
theorem roundRatio_twoTo {n m k : Nat} {e : Int} (above : 0 < n) (small : k ≤ 53)
    (finite : ofNat n = .finite false m e) :
    roundRatio false n (twoTo k) = .finite false m (e - k) := by
  obtain ⟨g, p, grid, nearest⟩ : ∃ g p, Grid (n : ℚ) g ∧ NearestWhole ((n : ℚ) / 2 ^ g) p := by
    have grid := grid_gridExponent above Nat.one_pos
    have nearest := mantissa_nearest n Nat.one_pos (gridExponent n 1)
    rw [Nat.cast_one, div_one] at grid nearest
    exact ⟨_, _, grid, nearest⟩
  have whole : ofNat n = ofParts false p g := by
    apply roundRatio_eq above Nat.one_pos
    · rwa [Nat.cast_one, div_one]
    · rwa [Nat.cast_one, div_one]
  have positive : (0 : ℚ) < 2 ^ (k : Int) := zpow_pos (by norm_num) _
  -- the grid around the quotient is the grid around the number, `k` exponents lower
  have part : roundRatio false n (twoTo k) = ofParts false p (g - k) := by
    obtain ⟨wide, full⟩ := grid.normal above
    have power (i : Int) : (2 : ℚ) ^ (i + (g - k)) = 2 ^ (i + g) / 2 ^ (k : Int) := by
      rw [← zpow_sub₀ (by norm_num : (2 : ℚ) ≠ 0), add_sub_assoc]
    apply roundRatio_eq above (twoTo_pos k)
    · refine ⟨by rw [leastExponent]; omega, ?_, .inr ?_⟩
      · rw [twoTo_cast, power, div_lt_div_iff_of_pos_right positive]
        exact grid.below
      · rw [twoTo_cast, power, div_le_div_iff_of_pos_right positive]
        exact full
    · rw [twoTo_cast, zpow_sub₀ (by norm_num : (2 : ℚ) ≠ 0), div_div_div_cancel_right₀ positive.ne']
      exact nearest
  rw [whole] at finite
  rw [part, ofParts_lower finite]

/-- It does not matter whether a whole number is divided by a power of two before or after it becomes
a double. -/
theorem div_twoTo {n m k : Nat} {e : Int} (small : k ≤ 53) (finite : ofNat n = .finite false m e) :
    ∃ p f, (ofNat n).div (ofNat (twoTo k)) = .finite false p f ∧
      roundRatio false n (twoTo k) = .finite false p f := by
  obtain ⟨p, g, power, -, -, value⟩ := stores_ofNat (Nat.pow_le_pow_right two_pos small)
  change ofNat (twoTo k) = _ at power
  -- a power of two is a double other than zero
  have some_left : p ≠ 0 := by
    rintro rfl
    rw [scaled_zero] at value
    exact (twoTo_pos k).ne' (by exact_mod_cast value)
  obtain ⟨num, den, below, ratio, same⟩ := div_eq_round m e some_left g
  rw [finite, power, same]
  rcases Nat.eq_zero_or_pos n with rfl | above
  · -- zero has no lower exponent
    cases finite
    rw [scaled_zero, zero_div] at ratio
    refine ⟨0, leastExponent, ?_, rfl⟩
    exact roundRatio_of_canonical below (by decide) (ratio.trans (scaled_zero _).symm)
  · have part := roundRatio_twoTo above small finite
    refine ⟨m, e - k, ?_, part⟩
    refine roundRatio_of_canonical below (canonical_roundRatio (twoTo_pos k) part) ?_
    rw [ratio, ← value]
    exact scaled_div_twoTo m e k

/-- A whole number that is not below zero becomes a finite double, if one. -/
theorem ofIntChecked_cases {n : Int} {x : Binary64} (counted : 0 ≤ n)
    (sized : ofIntChecked n = .ok x) :
    ∃ (k m : Nat) (e : Int), n = k ∧ x = ofNat k ∧ ofNat k = .finite false m e := by
  obtain ⟨k, rfl⟩ := Int.eq_ofNat_of_zero_le counted
  rw [ofIntChecked, ofInt_natCast] at sized
  rcases positive_roundRatio k 1 with endless | ⟨m, e, finite⟩
  · rw [ofNat, endless] at sized
    cases sized
  · change ofNat k = _ at finite
    rw [finite] at sized
    cases sized
    exact ⟨k, m, e, rfl, finite.symm, finite⟩

/-- A whole number that becomes a double has the quotient that the double has. -/
theorem quotientChecked_twoTo {n : Int} {x : Binary64} {k : Nat} (counted : 0 ≤ n) (small : k ≤ 53)
    (sized : ofIntChecked n = .ok x) :
    ∃ p f, x.div (ofNat (twoTo k)) = .finite false p f ∧
      quotientChecked n (twoTo k) = .ok (.finite false p f) := by
  obtain ⟨n, m, e, rfl, rfl, finite⟩ := ofIntChecked_cases counted sized
  obtain ⟨p, f, divided, rounded⟩ := div_twoTo small finite
  refine ⟨p, f, divided, ?_⟩
  rw [quotientChecked, if_neg (Int.natCast_ne_zero.2 (twoTo_pos k).ne'), ofQuotient_natCast, rounded]

/-! ## Rounded quotients -/

/-- What a quotient of natural numbers is rounded to. -/
def Rounded (x : Binary64) : Prop := ∃ num den : Nat, 0 < den ∧ x = roundRatio false num den

theorem rounded_zero : Rounded (zero false) := ⟨0, 1, Nat.one_pos, rfl⟩

section

variable {x y : Binary64}

theorem Rounded.cases (h : Rounded x) :
    x = infinity false ∨ ∃ m e, x = finite false m e ∧ Canonical m e := by
  obtain ⟨num, den, below, rfl⟩ := h
  rcases positive_roundRatio num den with endless | ⟨m, e, finite⟩
  · exact .inl endless
  · exact .inr ⟨m, e, finite, canonical_roundRatio below finite⟩

theorem Rounded.ne_nan (h : Rounded x) : x ≠ nan := by
  obtain rfl | ⟨m, e, rfl, -⟩ := h.cases <;> exact nofun

theorem place?_infinity_ne (negative : Bool) (m : Nat) (e : Int) :
    place? (infinity false) ≠ place? (finite negative m e) := by
  intro same
  have top : ((⊤ : WithTop ℚ) : WithBot (WithTop ℚ)) = _ := Option.some_inj.1 same
  exact WithTop.top_ne_coe (WithBot.coe_injective top)

/-- Rounded doubles that compare as equal are the same, bit for bit. -/
theorem Rounded.antisymm (h : Rounded x) (h' : Rounded y) (below : le x y = true)
    (above : le y x = true) : x = y := by
  rw [le_iff] at below above
  obtain ⟨a, b, hx, hy, below⟩ := below
  obtain ⟨b', a', hy', hx', above⟩ := above
  obtain rfl : a = a' := Option.some_inj.1 (hx.symm.trans hx')
  obtain rfl : b = b' := Option.some_inj.1 (hy.symm.trans hy')
  obtain rfl := le_antisymm below above
  -- of one place are two infinities, or two doubles of one value
  obtain rfl | ⟨m, e, rfl, canonical⟩ := h.cases
  · obtain rfl | ⟨n, f, rfl, -⟩ := h'.cases
    · rfl
    · exact absurd (hx.trans hy.symm) (place?_infinity_ne false n f)
  · obtain rfl | ⟨n, f, rfl, canonical'⟩ := h'.cases
    · exact absurd (hy.trans hx.symm) (place?_infinity_ne false m e)
    · have same : scaled m e = scaled n f := by
        have places := Option.some_inj.1 (hx.trans hy.symm)
        exact WithTop.coe_injective (WithBot.coe_injective places)
      obtain ⟨rfl, rfl⟩ := canonical.unique canonical' same
      rfl

/-- The doubles above zero. -/
theorem cases_of_pos (positive : lt (zero false) y = true) :
    y = infinity false ∨ ∃ n f, n ≠ 0 ∧ y = finite false n f := by
  cases y with
  | nan => cases positive
  | infinity negative =>
    cases negative
    · exact .inl rfl
    · cases positive
  | finite negative n f =>
    rw [lt, beq_iff_eq] at positive
    have above : 0 < signedMantissa negative n := by
      have order : compareScaled 0 leastExponent (signedMantissa negative n) f = .lt :=
        Option.some_inj.1 positive
      rwa [compareScaled_zero, compare_lt_iff_lt] at order
    cases negative
    · refine .inr ⟨n, f, ?_, rfl⟩
      rintro rfl
      exact absurd above (by decide)
    · rw [signedMantissa, if_pos rfl] at above
      omega

/-- The quotient of a double that is not below zero and one above zero. -/
theorem Rounded.div (m : Nat) (e : Int) (positive : lt (zero false) y = true) :
    Rounded ((finite false m e).div y) := by
  obtain rfl | ⟨n, f, some_left, rfl⟩ := cases_of_pos positive
  · exact rounded_zero
  · obtain ⟨num, den, below, -, same⟩ := div_eq_round m e some_left f
    exact ⟨num, den, below, same⟩

end

end Binary64
end StoreMeter
