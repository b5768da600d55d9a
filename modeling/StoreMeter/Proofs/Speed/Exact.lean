import Mathlib.Algebra.BigOperators.Ring.List
import Mathlib.Algebra.Order.BigOperators.Group.List
import Mathlib.Tactic.Linarith
import StoreMeter.Proofs.Binary64.Order
import StoreMeter.Proofs.Speed.Sum
import StoreMeter.Speed.Profile
/-
# Proofs.Speed.Exact — the statistics of a phase without rounding

`Profile.unrounded` reads the statistics in rational numbers.  There a sum is the sum in any order, and
every figure of the profile is a figure of the measurements one by one (`Profile.unrounded_eq`).
Nothing else is asked of a measurement than that it was made, and of a finite duration
(`Measurement.regular_of_make`).

The average speed is a weighted mean of the speeds of the measurements that took time, so it is never
below the least speed.  But a measurement that took no time counts with the speed zero while its bytes
count in full, and they can lift the average above the greatest speed
(`average_within_extremes`).  The saturation divides the same bytes by the longest duration instead of
the total, and lies between the average and the average times the number of measurements
(`saturation_within_averages`).
-/
namespace StoreMeter

/-! ## Exact values -/

/-- The value of a finite double; the others count as zero. -/
def Binary64.value : Binary64 → ℚ
  | .finite negative mantissa exponent => scaled (signedMantissa negative mantissa) exponent
  | _ => 0

namespace Scalar

/-- The exact value of a finite number. -/
def value : Scalar → ℚ
  | truth b => b.toNat
  | int n => n
  | real x => x.value

/-- Holds of all numbers but infinities and not a number. -/
def isFinite : Scalar → Bool
  | real x => x.isFinite
  | _ => true

theorem value_nonneg {a : Scalar} (finite : a.isFinite = true) (forward : a.isNegative = false) :
    0 ≤ a.value := by
  cases a with
  | truth b => exact Nat.cast_nonneg _
  | int n =>
    have order : (some (compare n 0) == some Ordering.lt) = false := forward
    have above : ¬ n < 0 := fun below => by
      rw [compare_lt_iff_lt.2 below] at order
      cases order
    exact Int.cast_nonneg (not_lt.1 above)
  | real x =>
    cases x with
    | nan => cases finite
    | infinity negative => cases finite
    | finite negative mantissa exponent =>
      have order : (some (Binary64.compareScaled 0 0 (Binary64.signedMantissa negative mantissa)
          exponent).swap == some Ordering.lt) = false := forward
      rw [Binary64.compareScaled_zero] at order
      have above : ¬ Binary64.signedMantissa negative mantissa < 0 := fun below => by
        rw [compare_gt_iff_gt.2 below] at order
        cases order
      exact Binary64.scaled_nonneg.2 (not_lt.1 above)

end Scalar

namespace Measurement

/-- A measurement of a finite duration and an amount that are not below zero. -/
structure Regular (m : Measurement) : Prop where
  finite : m.duration.isFinite = true
  forward : 0 ≤ m.duration.value
  counted : 0 ≤ m.bytes

/-- A measurement that was made is regular, if its duration is finite. -/
theorem regular_of_make {mode : Mode} {duration : Scalar} {bytes : Int} {m : Measurement}
    (made : make mode duration bytes = .ok m) (finite : duration.isFinite = true) : m.Regular := by
  unfold make at made
  split at made
  · cases made
  · rename_i forward
    split at made
    · cases made
    · rename_i counted
      cases made
      exact ⟨finite, Scalar.value_nonneg finite (Bool.eq_false_of_not_eq_true forward),
        not_lt.1 counted⟩

/-- The exact amount in megabytes. -/
def megabytes (m : Measurement) : ℚ := m.bytes / megabyte

theorem Regular.megabytes_nonneg {m : Measurement} (regular : m.Regular) : 0 ≤ m.megabytes :=
  div_nonneg (Int.cast_nonneg regular.counted) (Nat.cast_nonneg _)

end Measurement

/-- Exact arithmetic. -/
instance : Arithmetic ℚ where
  ofNat n := n
  add x y := x + y
  sub x y := x - y
  mul x y := x * y
  div x y := x / y
  isPositive x := 0 < x
  greater := max
  lesser := min

namespace Speed

/-! ## Exact sums, quotients and extremes -/

theorem nought_eq : (nought : ℚ) = 0 := Nat.cast_zero

theorem sum_eq (xs : List ℚ) : sum xs = xs.sum := by
  have adds : AddsUp (@Eq ℚ) := ⟨nought_eq, fun {_ _ _ _} h h' => by rw [h, h']; rfl⟩
  exact adds.sum (List.forall₂_same.2 fun _ _ => rfl)

/-- Without rounding, the quotient by zero is the zero that replaces it. -/
theorem ratio_eq {y : ℚ} (nonneg : 0 ≤ y) (x : ℚ) : ratio x y = x / y := by
  unfold ratio
  split
  · rfl
  -- division by zero is zero here as well
  · rename_i none_left
    have zero : y = 0 := le_antisymm (not_lt.1 fun above => none_left (decide_eq_true above)) nonneg
    rw [zero, div_zero, nought_eq]

theorem greatest_extreme {xs : List ℚ} (some_left : xs ≠ []) : Extreme (· ≤ ·) (greatest xs) xs := by
  have picks : Picks (fun _ => True) (fun x y : ℚ => x ≤ y) Arithmetic.greater := by
    refine ⟨fun _ => le_rfl, le_trans, fun {x y} _ _ => ?_⟩
    rcases le_total y x with below | above
    · exact .inl ⟨max_eq_left below, below⟩
    · exact .inr ⟨max_eq_right above, above⟩
  exact picks.greatest some_left fun _ _ => trivial

theorem least_extreme {xs : List ℚ} (some_left : xs ≠ []) : Extreme (· ≥ ·) (least xs) xs := by
  have picks : Picks (fun _ => True) (fun x y : ℚ => x ≥ y) Arithmetic.lesser := by
    refine ⟨fun _ => le_rfl, fun h h' => h'.trans h, fun {x y} _ _ => ?_⟩
    rcases le_total x y with below | above
    · exact .inl ⟨min_eq_left below, below⟩
    · exact .inr ⟨min_eq_right above, above⟩
  exact picks.least some_left fun _ _ => trivial

/-! ## Any order -/

section

variable {xs ys : List ℚ}

theorem sum_perm (perm : xs.Perm ys) : sum xs = sum ys := by
  rw [sum_eq, sum_eq, perm.sum_eq]

/-- An extreme of a list does not depend on its order. -/
theorem extreme_perm {r : ℚ → ℚ → Prop} {extreme : List ℚ → ℚ}
    (extremes : ∀ {xs}, xs ≠ [] → Extreme r (extreme xs) xs)
    (antisymm : ∀ {x y}, r x y → r y x → x = y) (perm : xs.Perm ys) : extreme xs = extreme ys := by
  rcases eq_or_ne xs [] with rfl | some_left
  · rw [perm.nil_eq]
  · have some_left' : ys ≠ [] := fun none_left => some_left (none_left ▸ perm).eq_nil
    exact (extremes some_left).eq_of_perm (extremes some_left') perm antisymm

theorem greatest_perm (perm : xs.Perm ys) : greatest xs = greatest ys :=
  extreme_perm greatest_extreme le_antisymm perm

theorem least_perm (perm : xs.Perm ys) : least xs = least ys :=
  extreme_perm least_extreme (fun above below => le_antisymm below above) perm

theorem mean_perm (perm : xs.Perm ys) : mean xs = mean ys := by
  rw [mean, mean, sum_perm perm, perm.length_eq]

theorem varianceOf_perm (perm : xs.Perm ys) : varianceOf xs = varianceOf ys := by
  unfold varianceOf
  rw [mean_perm perm]
  exact mean_perm (perm.map _)

end

/-! ## The exact profile -/

/-- The speed of one measurement, zero if it took no time. -/
def rate (m : Measurement) : ℚ := ratio m.megabytes m.duration.value

namespace Profile

/-- The profile of measurements in exact arithmetic; that of none is zero throughout. -/
def unrounded (points : List Measurement) : Profile ℚ :=
  if points.isEmpty then ⟨0, 0, 0, 0, 0, 0, 0, 0⟩
  else ofLists (points.map (·.duration.value)) (points.map fun m => (m.bytes : ℚ))

/-- The exact profile through the measurements one by one. -/
theorem unrounded_eq (points : List Measurement) :
    unrounded points =
      { totalDuration := (points.map (·.duration.value)).sum
        totalBytes := (points.map fun m => (m.bytes : ℚ)).sum
        maxSpeed := greatest (points.map rate)
        minSpeed := least (points.map rate)
        avgSpeed := ratio (points.map (·.megabytes)).sum (points.map (·.duration.value)).sum
        clusterSpeed :=
          ratio (points.map (·.megabytes)).sum (points.map (·.duration.value)).sum * points.length
        variance := varianceOf (points.map rate)
        saturation :=
          ratio (points.map (·.megabytes)).sum (greatest (points.map (·.duration.value))) } := by
  have amounts : (points.map fun m => (m.bytes : ℚ)).map inMegabytes = points.map (·.megabytes) :=
    List.map_map
  unfold unrounded
  split
  · rename_i none_left
    obtain rfl := List.isEmpty_iff.1 none_left
    have still : mean ([] : List ℚ) = 0 := div_zero _
    simp [greatest, least, nought_eq, ratio_eq, varianceOf, still]
  · have rates : List.zipWith ratio (points.map (·.megabytes)) (points.map (·.duration.value)) =
        points.map rate := by
      rw [List.zipWith_map, List.zipWith_self]
      rfl
    unfold ofLists
    rw [amounts]
    dsimp only
    rw [rates, sum_eq, sum_eq, sum_eq, List.length_map]
    rfl

/-- The order of the measurements does not matter. -/
theorem unrounded_perm {points points' : List Measurement} (perm : points.Perm points') :
    unrounded points = unrounded points' := by
  rw [unrounded_eq, unrounded_eq, (perm.map _).sum_eq, (perm.map fun m => (m.bytes : ℚ)).sum_eq,
    (perm.map (·.megabytes)).sum_eq, greatest_perm (perm.map rate), least_perm (perm.map rate),
    varianceOf_perm (perm.map rate), greatest_perm (perm.map (·.duration.value)), perm.length_eq]

end Profile

/-! ## The average and the extremes -/

section

open Profile

variable {points : List Measurement}

/-- The megabytes of the measurements that took no time. -/
def untimedMegabytes (points : List Measurement) : ℚ :=
  ((points.filter fun m => m.duration.value = 0).map (·.megabytes)).sum

theorem untimedMegabytes_eq (points : List Measurement) : untimedMegabytes points =
    (points.map fun m => if m.duration.value = 0 then m.megabytes else 0).sum := by
  induction points with
  | nil => rfl
  | cons m rest ih =>
    unfold untimedMegabytes at ih ⊢
    rw [List.map_cons, List.sum_cons, ← ih, List.filter_cons]
    by_cases untimed : m.duration.value = 0 <;> simp [untimed]

theorem total_nonneg (regular : ∀ m ∈ points, m.Regular) :
    0 ≤ (points.map (·.duration.value)).sum := by
  apply List.sum_nonneg
  rw [List.forall_mem_map]
  exact fun m member => (regular m member).forward

/-- The megabytes of a measurement are its speed for the time that it took, if it took any. -/
theorem rate_mul {m : Measurement} (regular : m.Regular) :
    rate m * m.duration.value + (if m.duration.value = 0 then m.megabytes else 0) = m.megabytes := by
  rw [rate, ratio_eq regular.forward]
  split
  · rename_i untimed
    rw [untimed, mul_zero, zero_add]
  · rename_i timed
    rw [div_mul_cancel₀ _ timed, add_zero]

theorem rate_of_untimed {m : Measurement} (untimed : m.duration.value = 0) : rate m = 0 := by
  rw [rate, untimed, ratio_eq le_rfl, div_zero]

/-- The time that all took, at the least speed. -/
theorem slowest_le (some_left : points ≠ []) (regular : ∀ m ∈ points, m.Regular) :
    least (points.map rate) * (points.map (·.duration.value)).sum ≤
      (points.map (·.megabytes)).sum := by
  have slowest : Extreme (· ≥ ·) (least (points.map rate)) (points.map rate) :=
    least_extreme (by rwa [Ne, List.map_eq_nil_iff])
  rw [← List.sum_map_mul_left]
  -- measurement by measurement: what took no time adds nothing on the left
  refine List.sum_le_sum fun m member => ?_
  have whole := rate_mul (regular m member)
  have slow : least (points.map rate) * m.duration.value ≤ rate m * m.duration.value :=
    mul_le_mul_of_nonneg_right (slowest.bound _ (List.mem_map_of_mem member))
      (regular m member).forward
  have untimed : 0 ≤ if m.duration.value = 0 then m.megabytes else 0 := by
    split
    · exact (regular m member).megabytes_nonneg
    · exact le_rfl
  linarith

/-- The time that all took, at the greatest speed, and the bytes that took no time. -/
theorem le_fastest (some_left : points ≠ []) (regular : ∀ m ∈ points, m.Regular) :
    (points.map (·.megabytes)).sum ≤
      greatest (points.map rate) * (points.map (·.duration.value)).sum + untimedMegabytes points := by
  have fastest : Extreme (· ≤ ·) (greatest (points.map rate)) (points.map rate) :=
    greatest_extreme (by rwa [Ne, List.map_eq_nil_iff])
  rw [untimedMegabytes_eq, ← List.sum_map_mul_left, ← List.sum_map_add]
  refine List.sum_le_sum fun m member => ?_
  have whole := rate_mul (regular m member)
  have fast : rate m * m.duration.value ≤ greatest (points.map rate) * m.duration.value :=
    mul_le_mul_of_nonneg_right (fastest.bound _ (List.mem_map_of_mem member))
      (regular m member).forward
  linarith

/-- If no time passed at all, every speed is zero. -/
theorem rates_of_untimed (untimed : ∀ m ∈ points, m.duration.value = 0) :
    ∀ x ∈ points.map rate, x = 0 := by
  rw [List.forall_mem_map]
  exact fun m member => rate_of_untimed (untimed m member)

theorem untimed_of_total (regular : ∀ m ∈ points, m.Regular)
    (none_left : (points.map (·.duration.value)).sum = 0) : ∀ m ∈ points, m.duration.value = 0 := by
  intro m member
  refine List.all_zero_of_le_zero_le_of_sum_eq_zero ?_ none_left
    (List.mem_map_of_mem (f := (·.duration.value)) member)
  rw [List.forall_mem_map]
  exact fun m member => (regular m member).forward

theorem untimedMegabytes_of_counted
    (counted : ∀ m ∈ points, m.duration.value = 0 → m.bytes = 0) : untimedMegabytes points = 0 := by
  apply List.sum_eq_zero
  rw [List.forall_mem_map]
  intro m member
  rw [List.mem_filter, decide_eq_true_eq] at member
  rw [Measurement.megabytes, counted m member.1 member.2, Int.cast_zero, zero_div]

/-- The average speed is never below the least, and above the greatest at most by the speed that the
bytes of the measurements without a duration have in the total time. -/
theorem average_within_extremes (some_left : points ≠ []) (regular : ∀ m ∈ points, m.Regular) :
    (unrounded points).minSpeed ≤ (unrounded points).avgSpeed ∧
    (unrounded points).avgSpeed ≤
      (unrounded points).maxSpeed + untimedMegabytes points / (unrounded points).totalDuration ∧
    ((∀ m ∈ points, m.duration.value = 0 → m.bytes = 0) ∨ (∀ m ∈ points, m.duration.value = 0) →
      (unrounded points).avgSpeed ≤ (unrounded points).maxSpeed) := by
  have rates : points.map rate ≠ [] := by rwa [Ne, List.map_eq_nil_iff]
  have total := total_nonneg regular
  have slow := slowest_le some_left regular
  have fast := le_fastest some_left regular
  rw [unrounded_eq]
  dsimp only
  rw [ratio_eq total]
  rcases total.eq_or_lt with none_left | some_time
  · -- no time passed, so all speeds are zero, and the guard makes the average zero, too
    have still := rates_of_untimed (untimed_of_total regular none_left.symm)
    rw [← none_left, div_zero, div_zero, add_zero, still _ (greatest_extreme rates).mem,
      still _ (least_extreme rates).mem]
    exact ⟨le_rfl, le_rfl, fun _ => le_rfl⟩
  · have most : (points.map (·.megabytes)).sum / (points.map (·.duration.value)).sum ≤
        greatest (points.map rate) + untimedMegabytes points / (points.map (·.duration.value)).sum := by
      rw [div_le_iff₀ some_time, add_mul, div_mul_cancel₀ _ some_time.ne']
      exact fast
    refine ⟨(le_div_iff₀ some_time).2 slow, most, ?_⟩
    rintro (counted | untimed)
    · rwa [untimedMegabytes_of_counted counted, zero_div, add_zero] at most
    · exact absurd (List.sum_eq_zero (by rwa [List.forall_mem_map])) some_time.ne'

/-! ### One measurement without a duration and one with -/

/-- An amount written in one second. -/
def inOneSecond (bytes : Int) : Measurement := ⟨.write, .real (.finite false (twoTo 52) (-52)), bytes⟩

/-- An amount written in no time. -/
def inNoTime (bytes : Int) : Measurement := ⟨.write, .real (.zero false), bytes⟩

/-- An amount written in no time, and a megabyte in one second. -/
def besideOneSecond (bytes : Int) : List Measurement := [inNoTime bytes, inOneSecond 1048576]

theorem value_inOneSecond (bytes : Int) : (inOneSecond bytes).duration.value = 1 := by
  have whole : ((twoTo 52 : Nat) : ℚ) * 2 ^ (-52 : Int) = 1 := by norm_num [twoTo]
  exact whole

theorem value_inNoTime (bytes : Int) : (inNoTime bytes).duration.value = 0 := by
  have none_left : ((0 : Int) : ℚ) * 2 ^ (-1074 : Int) = 0 := by norm_num
  exact none_left

theorem regular_besideOneSecond {bytes : Int} (counted : 0 ≤ bytes) :
    ∀ m ∈ besideOneSecond bytes, m.Regular := by
  rw [besideOneSecond, List.forall_mem_cons, List.forall_mem_singleton]
  refine ⟨⟨rfl, ?_, counted⟩, ⟨rfl, ?_, by decide⟩⟩
  · rw [value_inNoTime]
  · rw [value_inOneSecond]
    norm_num

theorem counted_besideOneSecond :
    ∀ m ∈ besideOneSecond 0, m.duration.value = 0 → m.bytes = 0 := by
  rw [besideOneSecond, List.forall_mem_cons, List.forall_mem_singleton, value_inOneSecond]
  exact ⟨fun _ => rfl, fun h => absurd h one_ne_zero⟩

theorem besideOneSecond_within_extremes :
    besideOneSecond 0 ≠ [] ∧ (∀ m ∈ besideOneSecond 0, m.Regular) ∧
    (∀ m ∈ besideOneSecond 0, m.duration.value = 0 → m.bytes = 0) ∧
    (unrounded (besideOneSecond 0)).minSpeed ≤ (unrounded (besideOneSecond 0)).avgSpeed ∧
    (unrounded (besideOneSecond 0)).avgSpeed ≤ (unrounded (besideOneSecond 0)).maxSpeed +
      untimedMegabytes (besideOneSecond 0) / (unrounded (besideOneSecond 0)).totalDuration ∧
    (unrounded (besideOneSecond 0)).avgSpeed ≤ (unrounded (besideOneSecond 0)).maxSpeed := by
  have some_left : besideOneSecond 0 ≠ [] := nofun
  have regular : ∀ m ∈ besideOneSecond 0, m.Regular := regular_besideOneSecond le_rfl
  obtain ⟨low, high, within⟩ := average_within_extremes some_left regular
  exact ⟨some_left, regular, counted_besideOneSecond, low, high, within (.inl counted_besideOneSecond)⟩

/-- Ten megabytes in no time and one in a second are eleven megabytes a second on average. -/
theorem speeds_besideOneSecond :
    (unrounded (besideOneSecond 10485760)).maxSpeed = 1 ∧
    (unrounded (besideOneSecond 10485760)).avgSpeed = 11 := by
  rw [unrounded_eq]
  simp only [besideOneSecond, List.map_cons, List.map_nil, rate, value_inOneSecond, value_inNoTime]
  rw [ratio_eq le_rfl, ratio_eq zero_le_one, ratio_eq (by norm_num)]
  norm_num [Measurement.megabytes, Measurement.megabyte, inNoTime, inOneSecond, greatest,
    Arithmetic.greater]

/-- The bytes of a measurement that took no time lift the average above the greatest speed. -/
theorem untimed_bytes_lift_average : ¬ ∀ points : List Measurement,
    points ≠ [] → (∀ m ∈ points, m.Regular) →
    (unrounded points).minSpeed ≤ (unrounded points).avgSpeed ∧
      (unrounded points).avgSpeed ≤ (unrounded points).maxSpeed := by
  intro between
  have regular : ∀ m ∈ besideOneSecond 10485760, m.Regular := regular_besideOneSecond (by decide)
  have most := (between (besideOneSecond 10485760) nofun regular).2
  rw [speeds_besideOneSecond.1, speeds_besideOneSecond.2] at most
  norm_num at most

/-! ## The saturation and the averages -/

/-- The longest duration is at most the total, and the total at most as many times the longest as there
are measurements. -/
theorem longest_bounds (regular : ∀ m ∈ points, m.Regular) :
    0 ≤ greatest (points.map (·.duration.value)) ∧
    greatest (points.map (·.duration.value)) ≤ (points.map (·.duration.value)).sum ∧
    (points.map (·.duration.value)).sum ≤
      points.length * greatest (points.map (·.duration.value)) := by
  have forward : ∀ x ∈ points.map (·.duration.value), 0 ≤ x := by
    rw [List.forall_mem_map]
    exact fun m member => (regular m member).forward
  rcases eq_or_ne points [] with rfl | some_left
  · simp [greatest, nought_eq]
  · have longest : Extreme (· ≤ ·) (greatest (points.map (·.duration.value)))
        (points.map (·.duration.value)) := greatest_extreme (by rwa [Ne, List.map_eq_nil_iff])
    refine ⟨forward _ longest.mem, List.single_le_sum forward _ longest.mem, ?_⟩
    -- every duration is at most the longest
    have all := List.sum_le_card_nsmul _ _ longest.bound
    rwa [List.length_map, nsmul_eq_mul] at all

/-- The saturation lies between the average and the average times the number of measurements, all three
are zero if no time passed, and the order of the measurements does not matter to any figure. -/
theorem saturation_within_averages (regular : ∀ m ∈ points, m.Regular) :
    (unrounded points).avgSpeed ≤ (unrounded points).saturation ∧
    (unrounded points).saturation ≤ (unrounded points).clusterSpeed ∧
    ((∀ m ∈ points, m.duration.value = 0) → (unrounded points).avgSpeed = 0 ∧
      (unrounded points).saturation = 0 ∧ (unrounded points).clusterSpeed = 0) ∧
    ∀ points', points'.Perm points →
      points'.length = points.length ∧ unrounded points' = unrounded points := by
  have total := total_nonneg regular
  obtain ⟨longest, within, around⟩ := longest_bounds regular
  have amount : 0 ≤ (points.map (·.megabytes)).sum := by
    apply List.sum_nonneg
    rw [List.forall_mem_map]
    exact fun m member => (regular m member).megabytes_nonneg
  have anyOrder : ∀ points', points'.Perm points →
      points'.length = points.length ∧ unrounded points' = unrounded points :=
    fun points' perm => ⟨perm.length_eq, unrounded_perm perm⟩
  rw [← and_assoc, ← and_assoc]
  refine ⟨?_, anyOrder⟩
  rw [unrounded_eq]
  dsimp only
  rw [ratio_eq total, ratio_eq longest]
  rcases total.eq_or_lt with none_left | some_time
  · -- no time passed, and both guards say so
    have short := le_antisymm (within.trans_eq none_left.symm) longest
    rw [← none_left, short, div_zero, zero_mul]
    exact ⟨⟨le_rfl, le_rfl⟩, fun _ => ⟨rfl, rfl, rfl⟩⟩
  · have some_longest : 0 < greatest (points.map (·.duration.value)) := by
      refine longest.lt_of_ne fun none_left => ?_
      rw [← none_left, mul_zero] at around
      exact around.not_gt some_time
    refine ⟨⟨div_le_div_of_nonneg_left amount some_longest within, ?_⟩, fun untimed => ?_⟩
    · rw [div_mul_eq_mul_div, div_le_div_iff₀ some_longest some_time, mul_assoc]
      exact mul_le_mul_of_nonneg_left around amount
    · exact absurd (List.sum_eq_zero (by rwa [List.forall_mem_map])) some_time.ne'

theorem besideOneSecond_saturates :
    (∀ m ∈ besideOneSecond 10485760, m.Regular) ∧
    (unrounded (besideOneSecond 10485760)).avgSpeed ≤
      (unrounded (besideOneSecond 10485760)).saturation ∧
    (unrounded (besideOneSecond 10485760)).saturation ≤
      (unrounded (besideOneSecond 10485760)).clusterSpeed ∧
    (besideOneSecond 10485760).reverse.length = (besideOneSecond 10485760).length ∧
    unrounded (besideOneSecond 10485760).reverse = unrounded (besideOneSecond 10485760) := by
  have regular : ∀ m ∈ besideOneSecond 10485760, m.Regular := regular_besideOneSecond (by decide)
  obtain ⟨low, high, -, anyOrder⟩ := saturation_within_averages regular
  exact ⟨regular, low, high, anyOrder _ (List.reverse_perm _)⟩

end

end Speed
end StoreMeter
