import StoreMeter.Proofs.Sizes.Grammar
/-
# Proofs.Sizes.Exact — sizes are exact to the byte

A number is rounded to a double, multiplied by the bytes of its unit, which is exact, and added to the
rounding guard, which rounds once more; then the fraction is dropped.  Whole numbers of bytes up to
`2 ^ 53` are doubles in every unit, so neither rounding leads across one, and the guard is far too small
to lead to the next one.  Hence the bytes of a size lie between the whole numbers around its exact
value, and a larger value never comes to fewer bytes, whatever the notation and the unit of each.
-/
namespace StoreMeter
namespace Size

open Binary64 (Stores Rounds IsDouble scaled)

/-- The text is a size, and this is its exact value in bytes: the number times the unit. -/
def Denotes (text : String) (bytes : ℚ) : Prop :=
  ∃ (p : Parts) (value : ℚ) (power : Nat), p.text = text ∧ p.Proper value ∧
    unitPower? (lowered p.unit) = some power ∧ bytes = value * 1024 ^ power

/-- A text has at most one exact value. -/
theorem Denotes.unique {text : String} {bytes bytes' : ℚ} (h : Denotes text bytes)
    (h' : Denotes text bytes') : bytes' = bytes := by
  obtain ⟨p, value, power, same, proper, known, rfl⟩ := h
  obtain ⟨p', value', power', same', proper', known', rfl⟩ := h'
  obtain ⟨written, read, unit, rfl⟩ := ofText?_of_shaped proper.toShaped
  obtain ⟨written', read', unit', rfl⟩ := ofText?_of_shaped proper'.toShaped
  rw [same] at read
  rw [same', read] at read'
  cases read'
  rw [← unit, unit', known'] at known
  cases known
  rfl

/-! ## Units and doubles -/

theorem isDouble_mul_units {q : ℚ} (h : IsDouble q) (power : Nat) : IsDouble (q * 1024 ^ power) := by
  obtain ⟨k, j, short, least, rfl⟩ := h
  exact ⟨k, j + 10 * power, short, by omega, scaled_mul_units k j power⟩

/-- Doubles that are not tiny are doubles in every unit. -/
theorem isDouble_div_units {k : Nat} {j : Int} (short : k ≤ twoTo 53) (least : -1000 ≤ j)
    {power : Nat} (unit : power ≤ 5) : IsDouble (scaled k j / 1024 ^ power) := by
  refine ⟨k, j - 10 * power, short, ?_, ?_⟩
  · rw [Binary64.leastExponent]
    omega
  · rw [← Int.sub_add_cancel j (10 * power), ← scaled_mul_units,
      mul_div_cancel_right₀ _ (by positivity), Int.sub_add_cancel]

theorem natCast_eq_scaled (n : Nat) : (n : ℚ) = scaled n 0 := by
  rw [scaled, zpow_zero, mul_one, Int.cast_natCast]

theorem isDouble_whole_units {n : Nat} (short : n ≤ twoTo 53) {power : Nat} (unit : power ≤ 5) :
    IsDouble (n / 1024 ^ power) := by
  rw [natCast_eq_scaled]
  exact isDouble_div_units short (by decide) unit

section

variable {value q bound : ℚ} {power : Nat}

/-- A number that is at most a double of bytes rounds to at most that. -/
theorem units_le_of_rounds (rounds : Rounds value q) (double : IsDouble (bound / 1024 ^ power))
    (le : value * 1024 ^ power ≤ bound) : q * 1024 ^ power ≤ bound := by
  have positive : (0 : ℚ) < 1024 ^ power := by positivity
  rw [← le_div_iff₀ positive] at le ⊢
  exact rounds.le_of_isDouble double le

/-- A number that is at least a double of bytes rounds to at least that. -/
theorem le_units_of_rounds (rounds : Rounds value q) (double : IsDouble (bound / 1024 ^ power))
    (le : bound ≤ value * 1024 ^ power) : bound ≤ q * 1024 ^ power := by
  have positive : (0 : ℚ) < 1024 ^ power := by positivity
  rw [← div_le_iff₀ positive] at le ⊢
  exact rounds.ge_of_isDouble double le

/-- From half a byte on, a number is rounded as its bytes would be. -/
theorem rounds_mul_units (rounds : Rounds value q) (unit : power ≤ 5)
    (large : 1 / 2 < value * 1024 ^ power) : Rounds (value * 1024 ^ power) (q * 1024 ^ power) := by
  have units : (1024 : ℚ) ^ power = 2 ^ (10 * power) := by
    rw [pow_mul]
    norm_num
  have greatest : (1024 : ℚ) ^ power ≤ 2 ^ 50 := by
    rw [units]
    exact pow_le_pow_right₀ (by norm_num) (by omega)
  have tiny : (2 : ℚ) ^ (52 + Binary64.leastExponent) ≤ 2 ^ (-51 : Int) :=
    zpow_le_zpow_right₀ (by norm_num) (by decide)
  have normal : (2 : ℚ) ^ (-51 : Int) ≤ value := by
    by_contra less
    refine large.not_ge ?_
    calc value * 1024 ^ power ≤ 2 ^ (-51 : Int) * 1024 ^ power :=
          mul_le_mul_of_nonneg_right (not_le.1 less).le (by positivity)
      _ ≤ 2 ^ (-51 : Int) * 2 ^ 50 := mul_le_mul_of_nonneg_left greatest (by positivity)
      _ = 1 / 2 := by norm_num
  rw [units]
  exact rounds.shift (tiny.trans normal) (10 * power)

end

theorem stores_unit {power : Nat} (unit : power ≤ 5) :
    Stores (Binary64.ofNat (twoTo (10 * power))) (1024 ^ power) := by
  refine ⟨twoTo 52, 10 * power - 52, ofNat_unit unit, by decide, ?_, (scaled_unit power).symm⟩
  rw [Binary64.leastExponent]
  omega

/-- The rounding guard is a small double. -/
theorem exists_guard : ∃ γ, Stores roundingGuard γ ∧ γ ≤ 1 / 4 := by
  have small : ((1 : Nat) : ℚ) / (10000 : Nat) ≤ 1 / 4 := by norm_num
  have quarter : IsDouble (1 / 4) := ⟨1, -2, by decide, by decide, by norm_num [scaled]⟩
  obtain ⟨γ, stores, rounds⟩ := Binary64.stores_roundRatio 1 (by decide : 0 < 10000)
    (Binary64.lt_twiceLimit (small.trans (by norm_num)))
  exact ⟨γ, stores, rounds.le_of_isDouble quarter small⟩

/-! ## Rounding by rounding -/

/-- What comes of a number of units: it is rounded, and its sum with the guard is rounded; then the
fraction is dropped. -/
def Comes (γ value : ℚ) (power r : Nat) : Prop :=
  ∃ q z, Rounds value q ∧ Rounds (q * 1024 ^ power + γ) z ∧ r = ⌊z⌋₊

section

variable {γ value value' : ℚ} {power power' r r' : Nat}

/-- The computation does not fail, and comes to just that. -/
theorem inBytes_comes (guard : Stores roundingGuard γ) (small : γ ≤ 1 / 4) (nonneg : 0 ≤ value)
    (unit : power ≤ 5) (range : value * 1024 ^ power ≤ 2 ^ 53) :
    ∃ r, inBytes (nearestDouble value) power = .ok r ∧ Comes γ value power r := by
  have one_le : (1 : ℚ) ≤ 1024 ^ power := one_le_pow₀ (by norm_num)
  have number_range : value ≤ 2 ^ 53 := (le_mul_of_one_le_right nonneg one_le).trans range
  obtain ⟨q, number, rounds⟩ : ∃ q, Stores (nearestDouble value) q ∧ Rounds value q := by
    have stored := Binary64.stores_roundRatio value.num.natAbs value.den_pos
    rw [natAbs_num_div_den nonneg] at stored
    exact stored (Binary64.lt_twiceLimit (number_range.trans (by norm_num)))
  have bound : q * 1024 ^ power ≤ 2 ^ 53 := by
    have limit : scaled (1 : Nat) 53 = 2 ^ 53 := by norm_num [scaled]
    refine units_le_of_rounds rounds ?_ range
    rw [← limit]
    exact isDouble_div_units (by decide) (by decide) unit
  obtain ⟨y, product, exact_⟩ := number.mul (stores_unit unit)
    (Binary64.lt_twiceLimit (bound.trans (by norm_num)))
  -- multiplying by a unit only moves the exponent
  obtain rfl := exact_.eq_of_isDouble (isDouble_mul_units rounds.isDouble power)
  obtain ⟨z, sum, rounds'⟩ := product.add guard (Binary64.lt_twiceLimit (by linarith))
  refine ⟨⌊z⌋₊, ?_, q, z, rounds, rounds', rfl⟩
  rw [inBytes, sum.toInt]
  rfl

theorem Comes.floor_le (h : Comes γ value power r) (guard : 0 ≤ γ) (nonneg : 0 ≤ value)
    (unit : power ≤ 5) (range : value * 1024 ^ power ≤ 2 ^ 53) : ⌊value * 1024 ^ power⌋₊ ≤ r := by
  obtain ⟨q, z, rounds, rounds', rfl⟩ := h
  have below := Nat.floor_le (mul_nonneg nonneg (by positivity : (0 : ℚ) ≤ 1024 ^ power))
  have short : ⌊value * 1024 ^ power⌋₊ ≤ twoTo 53 := by
    have cast : ((⌊value * 1024 ^ power⌋₊ : Nat) : ℚ) ≤ (twoTo 53 : Nat) :=
      below.trans (range.trans_eq (by norm_num [twoTo]))
    exact_mod_cast cast
  have product := le_units_of_rounds rounds (isDouble_whole_units short unit) below
  exact Nat.le_floor (rounds'.ge_of_isDouble (Binary64.isDouble_natCast short) (by linarith))

theorem Comes.le_ceil (h : Comes γ value power r) (small : γ ≤ 1 / 4)
    (unit : power ≤ 5) (range : value * 1024 ^ power ≤ 2 ^ 53) : r ≤ ⌈value * 1024 ^ power⌉₊ := by
  obtain ⟨q, z, rounds, rounds', rfl⟩ := h
  have short : ⌈value * 1024 ^ power⌉₊ ≤ twoTo 53 :=
    Nat.ceil_le.2 (range.trans_eq (by norm_num [twoTo]))
  have product := units_le_of_rounds rounds (isDouble_whole_units short unit) (Nat.le_ceil _)
  generalize ⌈value * 1024 ^ power⌉₊ = c at short product ⊢
  refine Nat.lt_succ_iff.1 ?_
  rw [Nat.floor_lt' c.succ_ne_zero, Nat.cast_succ]
  rcases le_or_gt (q * 1024 ^ power + γ) c with low | high
  · have := rounds'.le_of_isDouble (Binary64.isDouble_natCast short) low
    linarith
  · -- the whole number is a double, and the sum rounds to nothing farther than that
    have near := rounds'.nearest (Binary64.isDouble_natCast short)
    rw [abs_of_neg (sub_neg.2 high)] at near
    have := (abs_le.1 near).2
    linarith

/-- Less than half a byte comes to nothing. -/
theorem Comes.eq_zero (h : Comes γ value power r) (small : γ ≤ 1 / 4) (unit : power ≤ 5)
    (tiny : value * 1024 ^ power ≤ 1 / 2) : r = 0 := by
  obtain ⟨q, z, rounds, rounds', rfl⟩ := h
  have half : (1 / 2 : ℚ) = scaled (1 : Nat) (-1) := by norm_num [scaled]
  have three_quarters : IsDouble (3 / 4) := ⟨3, -2, by decide, by decide, by norm_num [scaled]⟩
  have product : q * 1024 ^ power ≤ 1 / 2 := by
    refine units_le_of_rounds rounds ?_ tiny
    rw [half]
    exact isDouble_div_units (by decide) (by decide) unit
  have sum : z ≤ 3 / 4 := rounds'.le_of_isDouble three_quarters (by linarith)
  exact Nat.floor_eq_zero.2 (by linarith)

/-- A larger value does not come to fewer bytes. -/
theorem Comes.mono (h : Comes γ value power r) (h' : Comes γ value' power' r') (small : γ ≤ 1 / 4)
    (unit : power ≤ 5) (unit' : power' ≤ 5)
    (le : value * 1024 ^ power ≤ value' * 1024 ^ power') : r ≤ r' := by
  rcases le_or_gt (value * 1024 ^ power) (1 / 2) with tiny | large
  · rw [h.eq_zero small unit tiny]
    exact Nat.zero_le _
  · obtain ⟨q, z, rounds, rounds_sum, rfl⟩ := h
    obtain ⟨q', z', rounds', rounds_sum', rfl⟩ := h'
    have product := (rounds_mul_units rounds unit large).mono
      (rounds_mul_units rounds' unit' (large.trans_le le)) le
    exact Nat.floor_mono (rounds_sum.mono rounds_sum' (by linarith))

end

/-! ## Exact to the byte -/

/-- A size of at most `2 ^ 53` bytes is read, and `Comes` says what it comes to. -/
theorem Denotes.comes {γ : ℚ} (guard : Stores roundingGuard γ) (small : γ ≤ 1 / 4) {text : String}
    {bytes : ℚ} (h : Denotes text bytes) (range : bytes ≤ 2 ^ 53) :
    ∃ value power r, bytes = value * 1024 ^ power ∧ 0 ≤ value ∧ power ≤ 5 ∧ parse text = .ok r ∧
      Comes γ value power r := by
  obtain ⟨p, value, power, rfl, proper, known, rfl⟩ := h
  have nonneg := proper.toShaped.value_nonneg
  have unit := unitPower?_le known
  obtain ⟨r, computed, comes⟩ := inBytes_comes guard small nonneg unit range
  refine ⟨value, power, r, rfl, nonneg, unit, ?_, comes⟩
  rw [parse_of_shaped proper.toShaped known, computed]

/-- A size of at most `2 ^ 53` bytes is read, and its bytes are a whole number beside its value. -/
theorem Denotes.read {text : String} {bytes : ℚ} (h : Denotes text bytes) (range : bytes ≤ 2 ^ 53) :
    ∃ r : Nat, parse text = .ok r ∧ ⌊bytes⌋ ≤ r ∧ r ≤ ⌈bytes⌉ := by
  obtain ⟨γ, guard, small⟩ := exists_guard
  obtain ⟨value, power, r, rfl, nonneg, unit, read, comes⟩ := h.comes guard small range
  refine ⟨r, read, ?_, ?_⟩
  · rw [← Int.natCast_floor_eq_floor (mul_nonneg nonneg (by positivity))]
    exact_mod_cast comes.floor_le guard.nonneg nonneg unit range
  · rw [← Int.natCast_ceil_eq_ceil (mul_nonneg nonneg (by positivity))]
    exact_mod_cast comes.le_ceil small unit range

/-- A text that is read is a size. -/
theorem denotes_of_parse {text : String} {r : Nat} (accepted : parse text = .ok r) :
    ∃ bytes, Denotes text bytes := by
  obtain ⟨p, value, rfl, proper⟩ : IsSize text := by
    by_contra other
    obtain ⟨fault, refused, -⟩ := (refused_iff text).2 other
    rw [accepted] at refused
    cases refused
  obtain ⟨power, known⟩ := known_iff.1 proper.known
  exact ⟨_, p, value, power, rfl, proper, known, rfl⟩

/-- Every text that is read has one exact value.  Up to `2 ^ 53` bytes the bytes that are read lie
between the whole numbers around this value, so they are the value itself if it is whole, and a larger
value never comes to fewer bytes. -/
theorem sizes_exact_to_byte :
    (∀ text r, parse text = .ok r → ∃! bytes, Denotes text bytes) ∧
    (∀ text bytes, Denotes text bytes → bytes ≤ 2 ^ 53 →
      ∃ r : Nat, parse text = .ok r ∧ ⌊bytes⌋ ≤ r ∧ r ≤ ⌈bytes⌉ ∧ ∀ n : Int, bytes = n → r = n) ∧
    ∀ text text' bytes bytes', Denotes text bytes → Denotes text' bytes' → bytes ≤ bytes' →
      bytes' ≤ 2 ^ 53 → ∃ r r', parse text = .ok r ∧ parse text' = .ok r' ∧ r ≤ r' := by
  refine ⟨?_, ?_, ?_⟩
  · intro text r accepted
    obtain ⟨bytes, denotes⟩ := denotes_of_parse accepted
    exact ⟨bytes, denotes, fun bytes' denotes' => denotes.unique denotes'⟩
  · intro text bytes denotes range
    obtain ⟨r, read, low, high⟩ := denotes.read range
    refine ⟨r, read, low, high, ?_⟩
    intro n whole
    rw [whole, Int.floor_intCast] at low
    rw [whole, Int.ceil_intCast] at high
    exact le_antisymm high low
  · intro text text' bytes bytes' denotes denotes' le range
    obtain ⟨γ, guard, small⟩ := exists_guard
    obtain ⟨value, power, r, rfl, -, unit, read, comes⟩ := denotes.comes guard small (le.trans range)
    obtain ⟨value', power', r', rfl, -, unit', read', comes'⟩ := denotes'.comes guard small range
    exact ⟨r, r', read, read', comes.mono comes' small unit unit' le⟩

end Size
end StoreMeter
