import Mathlib.Tactic.IntervalCases
import StoreMeter.Proofs.Binary64.Range
import StoreMeter.Size
/-
# Proofs.Sizes — the bytes that a text denotes

A text that denotes a size has an exact value.  The bytes are computed with doubles, so there is one
way in which this can fail although the text is right: the value may lie beyond the doubles.  It does
not fail for a value of at most the greatest double, and it never comes to a number below zero.
-/
namespace StoreMeter
namespace Size

open Binary64 (add mul scaled ofNat roundRatio)

/-! ## What a text denotes -/

/-- The number and the power of 1024 of a size, if the text is one of a size. -/
def denoted? (text : String) : Option (Written × Nat) :=
  (Written.ofText? text).bind fun written =>
    (unitPower? written.unitName).map fun power => (written, power)

/-- The exact number of bytes. -/
def Written.bytes (w : Written) (power : Nat) : ℚ :=
  Text.digitsValue (w.whole ++ w.fraction) / tenTo w.fraction.length * 1024 ^ power

/-- The greatest double. -/
def greatestDouble : ℚ := scaled (twoTo 53 - 1 : Nat) Binary64.greatestExponent

theorem parse_of_denoted {text : String} {written : Written} {power : Nat}
    (h : denoted? text = some (written, power)) : parse text = inBytes written.number power := by
  obtain ⟨w, written_, named⟩ := Option.bind_eq_some_iff.1 h
  obtain ⟨power, known, same⟩ := Option.map_eq_some_iff.1 named
  cases same
  rw [parse, written_]
  dsimp only
  rw [known]

/-- A text that denotes no size is refused. -/
theorem parse_of_not_denoted {text : String} (h : denoted? text = none) :
    ∃ fault, parse text = .error fault ∧ fault.isConfiguration = true := by
  unfold denoted? at h
  unfold parse
  cases read : Written.ofText? text with
  | none => exact ⟨_, rfl, rfl⟩
  | some written =>
    rw [read, Option.bind_some, Option.map_eq_none_iff] at h
    dsimp only
    rw [h]
    exact ⟨_, rfl, rfl⟩

theorem unitPower?_le {unit : String} {power : Nat} (h : unitPower? unit = some power) :
    power ≤ 5 := by
  unfold unitPower? at h
  grind

theorem power_le_of_denoted {text : String} {written : Written} {power : Nat}
    (h : denoted? text = some (written, power)) : power ≤ 5 := by
  obtain ⟨w, -, h⟩ := Option.bind_eq_some_iff.1 h
  obtain ⟨power, known, h⟩ := Option.map_eq_some_iff.1 h
  cases h
  exact unitPower?_le known

/-! ## The computation -/

theorem ofNat_unit {power : Nat} (h : power ≤ 5) :
    ofNat (twoTo (10 * power)) = .finite false (twoTo 52) (10 * power - 52) := by
  interval_cases power <;> decide +kernel

theorem scaled_mul_units (a e : Int) (power : Nat) :
    scaled a e * 1024 ^ power = scaled a (e + 10 * power) := by
  have units : (1024 : ℚ) ^ power = (2 : ℚ) ^ (10 * power : Int) := by
    rw [show (10 * power : Int) = (10 * power : Nat) by push_cast; rfl, zpow_natCast, pow_mul]
    norm_num
  rw [units, scaled, scaled, mul_assoc, ← zpow_add₀ (by norm_num : (2 : ℚ) ≠ 0)]

theorem scaled_unit (power : Nat) : scaled (twoTo 52) (10 * power - 52) = 1024 ^ power := by
  have one : scaled (twoTo 52) (-52) = 1 := by norm_num [scaled, twoTo]
  rw [show (10 * power - 52 : Int) = -52 + 10 * power by ring, ← scaled_mul_units, one, one_mul]

theorem roundingGuard_le :
    ∃ (g : Nat) (h : Int), roundingGuard = .finite false g h ∧ scaled g h ≤ 1 := by
  have small : ((1 : Nat) : ℚ) ≤ scaled (1 : Nat) 0 * (10000 : Nat) := by norm_num [scaled]
  obtain ⟨g, h, same, bound⟩ := Binary64.roundRatio_le (by decide) (by decide) (by decide)
    (by decide) small
  exact ⟨g, h, same, bound.trans (by norm_num [scaled])⟩

/-- What is added does not lead from the greatest double to its limit. -/
theorem guard_room : 2 * (greatestDouble + 1) < Binary64.twiceLimit := by
  have wide : (2 : ℚ) ^ (1 : Int) < 2 ^ Binary64.greatestExponent :=
    zpow_lt_zpow_right₀ (by norm_num) (by decide)
  rw [greatestDouble, Binary64.twiceLimit, scaled, scaled]
  generalize (2 : ℚ) ^ Binary64.greatestExponent = step at wide ⊢
  norm_num [twoTo] at wide ⊢
  linarith

/-- The number of bytes before its fraction is dropped. -/
def guarded (number : Binary64) (power : Nat) : Binary64 :=
  (number.mul (ofNat (twoTo (10 * power)))).add roundingGuard

/-- The computation comes to a number of bytes that is not below zero, or its value is an infinity. -/
theorem inBytes_cases (w : Written) {power : Nat} (unit : power ≤ 5) :
    (∃ n : Nat, inBytes w.number power = .ok n ∧ (guarded w.number power).toInt = .ok (n : Int)) ∨
      guarded w.number power = .infinity false ∧
        inBytes w.number power = .error .infinityToInteger := by
  have positive : Binary64.Positive (guarded w.number power) := by
    obtain ⟨g, h, same, -⟩ := roundingGuard_le
    rw [guarded, ofNat_unit unit, same]
    exact ((Binary64.positive_roundRatio _ _).mul (by decide) _).add g h
  have computed : inBytes w.number power = (guarded w.number power).toInt.map Int.toNat := rfl
  rw [computed]
  obtain large | ⟨m, e, small⟩ := positive
  · rw [large]
    exact .inr ⟨rfl, rfl⟩
  · rw [small]
    exact .inl ⟨Binary64.wholePart m e, rfl, rfl⟩

/-- A size of at most the greatest double is no infinity. -/
theorem inBytes_of_le (w : Written) {power : Nat} (unit : power ≤ 5)
    (range : w.bytes power ≤ greatestDouble) : ∃ n, inBytes w.number power = .ok n := by
  have positive : (0 : ℚ) < tenTo w.fraction.length := by exact_mod_cast tenTo_pos _
  have units : (0 : ℚ) < 1024 ^ power := by positivity
  -- in units, the greatest double is a double as well
  have split : scaled (twoTo 53 - 1 : Nat) (971 - 10 * power) *
      scaled (twoTo 52) (10 * power - 52) = greatestDouble := by
    rw [scaled_unit, scaled_mul_units, Int.sub_add_cancel]
    rfl
  obtain ⟨m, e, number, bound⟩ : ∃ m e, w.number = .finite false m e ∧
      scaled m e ≤ scaled (twoTo 53 - 1 : Nat) (971 - 10 * power) := by
    refine Binary64.roundRatio_le (tenTo_pos _) (by decide) ?_ ?_ ?_
    · rw [Binary64.leastExponent]
      omega
    · rw [Binary64.greatestExponent]
      omega
    · rw [Written.bytes, ← split, scaled_unit, mul_le_mul_iff_of_pos_right units,
        div_le_iff₀ positive] at range
      exact range
  obtain ⟨m', e', product, bound'⟩ : ∃ m' e',
      (Binary64.finite false m e).mul (ofNat (twoTo (10 * power))) = .finite false m' e' ∧
        scaled m' e' ≤ greatestDouble := by
    rw [ofNat_unit unit]
    refine Binary64.mul_le (by decide) (by decide) (by decide) ?_
    rw [← greatestDouble, ← split]
    refine mul_le_mul_of_nonneg_right bound ?_
    rw [scaled_unit]
    exact units.le
  obtain ⟨g, h, guard, small⟩ := roundingGuard_le
  obtain ⟨total, base, sum⟩ : ∃ total base,
      (Binary64.finite false m' e').add roundingGuard = .finite false total base := by
    rw [guard]
    apply Binary64.add_finite
    have room := guard_room
    linarith
  rcases inBytes_cases w unit with ⟨n, computed, -⟩ | ⟨large, -⟩
  · exact ⟨n, computed⟩
  · rw [guarded, number, product, sum] at large
    cases large

end Size
end StoreMeter
