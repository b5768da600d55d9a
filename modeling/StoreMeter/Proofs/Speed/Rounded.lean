import Mathlib.Algebra.BigOperators.Ring.Finset
import Mathlib.Algebra.Order.BigOperators.Group.List
import Mathlib.Tactic.Choose
import StoreMeter.Proofs.Binary64.Canonical
import StoreMeter.Proofs.Speed.Exact
/-
# Proofs.Speed.Rounded — the statistics of a phase in doubles

What the rounding leaves exact.  Whole numbers of at most fifty-three bits are added without an error
in whatever order, so the total of the bytes is exact up to there (`total_bytes_exact`).

The speed of a measurement is computed twice: for the profile the bytes become a double that is
divided by a megabyte, and for the chart the exact quotient is rounded.  A megabyte is a power of two,
and so both are the same double, and the extremes of the profile are those of the chart, bit for bit
(`extremes_agree`).  There is no profile when the sum of the bytes leaves the range of the doubles.
-/
namespace StoreMeter
namespace Speed

open Binary64 (Positive Rounded Stores)

/-! ## A profile in doubles -/

theorem mapM_ok {α β ε : Type} {f : α → Except ε β} {g : α → β} {xs : List α}
    (each : ∀ x ∈ xs, f x = .ok (g x)) : xs.mapM f = .ok (xs.map g) := by
  induction xs with
  | nil => rfl
  | cons x rest ih =>
    rw [List.forall_mem_cons] at each
    rw [List.mapM_cons, each.1, ih each.2]
    rfl

/-- The figures of a report from a profile and the whole bytes. -/
def ofProfile (points : Nat) (profile : Profile Binary64) (totalBytes : Int) : Speed where
  points := points
  totalDuration := profile.totalDuration
  totalBytes := totalBytes
  maxSpeed := profile.maxSpeed
  minSpeed := profile.minSpeed
  avgSpeed := profile.avgSpeed
  clusterSpeed := profile.clusterSpeed
  stdDev := profile.variance.sqrt
  saturation := profile.saturation

section

variable {points : List Measurement} {seconds bytes : Measurement → Binary64}

/-- The figures from the lists of the durations and of the amounts: they are there as soon as the sum of
the bytes has a whole part. -/
theorem ofMeasurements_of_lists {durations amounts : List Binary64} (some_left : points ≠ [])
    (timed : points.mapM (·.duration.toReal) = .ok durations)
    (sized : points.mapM (fun m => Binary64.ofIntChecked m.bytes) = .ok amounts) :
    ofMeasurements points =
      (sum amounts).toInt.map (ofProfile points.length (.ofLists durations amounts)) := by
  rw [ofMeasurements, if_neg (by rwa [List.isEmpty_iff]), timed, sized]
  show (Binary64.toInt (sum amounts) >>= fun total => .ok (ofProfile _ _ total)) = _
  cases Binary64.toInt (sum amounts) <;> rfl

theorem ofMeasurements_eq (some_left : points ≠ [])
    (timed : ∀ m ∈ points, m.duration.toReal = .ok (seconds m))
    (sized : ∀ m ∈ points, Binary64.ofIntChecked m.bytes = .ok (bytes m)) :
    ofMeasurements points = (sum (points.map bytes)).toInt.map
      (ofProfile points.length (.ofLists (points.map seconds) (points.map bytes))) :=
  ofMeasurements_of_lists some_left (mapM_ok timed) (mapM_ok sized)

theorem rates_eq : List.zipWith ratio ((points.map bytes).map inMegabytes) (points.map seconds) =
    points.map fun m => ratio (inMegabytes (bytes m)) (seconds m) := by
  rw [List.map_map, List.zipWith_map, List.zipWith_self]
  rfl

theorem maxSpeed_ofLists : (Profile.ofLists (points.map seconds) (points.map bytes)).maxSpeed =
    greatest (points.map fun m => ratio (inMegabytes (bytes m)) (seconds m)) :=
  congrArg greatest rates_eq

theorem minSpeed_ofLists : (Profile.ofLists (points.map seconds) (points.map bytes)).minSpeed =
    least (points.map fun m => ratio (inMegabytes (bytes m)) (seconds m)) :=
  congrArg least rates_eq

/-! ## The total of the bytes -/

/-- Fewer than eight numbers are added from the left. -/
theorem sum_of_few {xs : List Binary64} (few : xs.length < 8) :
    sum xs = Arithmetic.add (sumFrom nought xs) nought := by
  rw [sum, sumHalves, if_pos (by omega), sumBlock, if_pos few]

/-- Doubles that hold whole numbers add up exactly, as long as fifty-three bits hold the sum. -/
theorem addsUp_whole : AddsUp fun (x : Binary64) (n : Nat) => n ≤ twoTo 53 → Stores x n where
  nought := Binary64.stores_ofNat
  add := by
    intro x y a b left right short
    have small : ((a + b : Nat) : ℚ) ≤ 2 ^ 54 := by
      have cast : ((a + b : Nat) : ℚ) ≤ twoTo 53 := by exact_mod_cast short
      refine cast.trans ?_
      norm_num [twoTo]
    rw [Nat.cast_add] at small
    obtain ⟨z, stores, rounds⟩ := (left (by omega)).add (right (by omega))
      (Binary64.lt_twiceLimit small)
    rw [← Nat.cast_add] at rounds
    -- the sum is a double itself, and so the rounding keeps it
    rwa [rounds.eq_of_isDouble (Binary64.isDouble_natCast short)] at stores

theorem natCast_total (counted : ∀ m ∈ points, 0 ≤ m.bytes) :
    ((points.map (·.bytes.toNat)).sum : Nat) = (points.map (·.bytes)).sum := by
  rw [Nat.cast_list_sum, List.map_map]
  congr 1
  exact List.map_congr_left fun m member => Int.toNat_of_nonneg (counted m member)

/-- The sum of the bytes in doubles holds their total. -/
theorem sum_bytes (short : (points.map (·.bytes.toNat)).sum ≤ twoTo 53) :
    (sum (points.map fun m => Binary64.ofNat m.bytes.toNat)).toInt =
      .ok ((points.map (·.bytes.toNat)).sum : Nat) := by
  have terms : List.Forall₂ (fun (x : Binary64) (n : Nat) => n ≤ twoTo 53 → Stores x n)
      (points.map fun m => Binary64.ofNat m.bytes.toNat) (points.map (·.bytes.toNat)) := by
    rw [List.forall₂_map_left_iff, List.forall₂_map_right_iff, List.forall₂_same]
    exact fun m _ => Binary64.stores_ofNat
  rw [(addsUp_whole.sum terms short).toInt, Nat.floor_natCast]

/-- The total of the bytes is exact, whatever the order of the measurements, if fifty-three bits hold
it. -/
theorem total_bytes_exact {points' : List Measurement} (some_left : points ≠ [])
    (counted : ∀ m ∈ points, 0 ≤ m.bytes) (short : (points.map (·.bytes)).sum ≤ 2 ^ 53)
    (timed : ∀ m ∈ points, ∃ x, m.duration.toReal = .ok x) (perm : points'.Perm points) :
    ∃ speed, ofMeasurements points' = .ok speed ∧
      speed.totalBytes = (points.map (·.bytes)).sum := by
  have some_left' : points' ≠ [] := fun none_left => some_left (none_left ▸ perm).nil_eq.symm
  have counted' : ∀ m ∈ points', 0 ≤ m.bytes := fun m member => counted m (perm.subset member)
  have total := natCast_total counted'
  rw [(perm.map (·.bytes)).sum_eq] at total
  have short' : (points'.map (·.bytes.toNat)).sum ≤ twoTo 53 := by
    rw [← total] at short
    exact_mod_cast short
  have sized : ∀ m ∈ points',
      Binary64.ofIntChecked m.bytes = .ok (Binary64.ofNat m.bytes.toNat) := by
    intro m member
    -- no amount is more than the total
    have least := List.single_le_sum (fun _ _ => Nat.zero_le _) _
      (List.mem_map_of_mem (f := (·.bytes.toNat)) member)
    rw [← Binary64.ofIntChecked_natCast (least.trans short'),
      Int.toNat_of_nonneg (counted' m member)]
  choose! seconds timed using timed
  have figures := ofMeasurements_eq some_left' (fun m member => timed m (perm.subset member)) sized
  rw [sum_bytes short'] at figures
  exact ⟨_, figures, total⟩

/-- Three hundred large amounts, added in lanes and halves, and one more byte. -/
def manyLoads : List Measurement :=
  inNoTime 1 :: List.replicate 300 (inOneSecond (2 ^ 44))

theorem total_of_many_loads : manyLoads ≠ [] ∧ (∀ m ∈ manyLoads, 0 ≤ m.bytes) ∧
    (manyLoads.map (·.bytes)).sum ≤ 2 ^ 53 ∧
    (∀ m ∈ manyLoads, ∃ x, m.duration.toReal = .ok x) ∧
    manyLoads.reverse.Perm manyLoads ∧
    ∃ speed, ofMeasurements manyLoads.reverse = .ok speed ∧
      speed.totalBytes = (manyLoads.map (·.bytes)).sum := by
  have some_left : manyLoads ≠ [] := nofun
  have counted : ∀ m ∈ manyLoads, 0 ≤ m.bytes := by
    rw [manyLoads, List.forall_mem_cons]
    refine ⟨by decide, fun m member => ?_⟩
    rw [List.eq_of_mem_replicate member]
    decide
  have short : (manyLoads.map (·.bytes)).sum ≤ 2 ^ 53 := by
    rw [manyLoads, List.map_cons, List.map_replicate, List.sum_cons, List.sum_replicate]
    decide
  have timed : ∀ m ∈ manyLoads, ∃ x, m.duration.toReal = .ok x := by
    rw [manyLoads, List.forall_mem_cons]
    refine ⟨⟨_, rfl⟩, fun m member => ?_⟩
    rw [List.eq_of_mem_replicate member]
    exact ⟨_, rfl⟩
  have perm := List.reverse_perm manyLoads
  exact ⟨some_left, counted, short, timed, perm,
    total_bytes_exact some_left counted short timed perm⟩

/-! ## The speed of one measurement -/

/-- A measurement has the same speed in the profile as in the chart, and it is a rounded quotient. -/
theorem throughput_eq {m : Measurement} {x b : Binary64} (counted : 0 ≤ m.bytes)
    (timed : m.duration = .real x) (number : x ≠ .nan)
    (sized : Binary64.ofIntChecked m.bytes = .ok b) :
    m.throughput = .ok (ratio (inMegabytes b) x) ∧ Rounded (ratio (inMegabytes b) x) := by
  obtain ⟨p, f, divided, quotient⟩ :=
    Binary64.quotientChecked_twoTo counted (show 20 ≤ 53 by decide) sized
  have amount : inMegabytes b = .finite false p f := divided
  unfold Measurement.throughput ratio
  rw [timed, Binary64.isNonPositive_real number, amount]
  -- both guards ask for the sign of the duration, and a negative zero is none
  cases positive : Binary64.lt (.zero false) x with
  | false =>
    have guard : Arithmetic.isPositive x = false := positive
    rw [guard]
    exact ⟨rfl, Binary64.rounded_zero⟩
  | true =>
    have guard : Arithmetic.isPositive x = true := positive
    have checked : Binary64.divChecked (.finite false p f) x = .ok (Binary64.div (.finite false p f) x) := by
      obtain rfl | ⟨n, g, some_left, rfl⟩ := Binary64.cases_of_pos positive
      · rfl
      · obtain ⟨n, rfl⟩ := Nat.exists_eq_succ_of_ne_zero some_left
        rfl
    rw [guard]
    refine ⟨?_, Rounded.div p f positive⟩
    show (Binary64.quotientChecked m.bytes (twoTo 20 : Nat) >>= fun megabytes =>
      Scalar.divide (.real megabytes) (.real x)) = _
    rw [quotient]
    exact checked

/-! ## The extremes of the speeds -/

theorem isNaN_eq_false {x : Binary64} (number : x ≠ .nan) : x.isNaN = false := by
  cases x with
  | nan => exact absurd rfl number
  | infinity negative => rfl
  | finite negative mantissa exponent => rfl

theorem picks_greater :
    Picks Rounded (fun x y => Binary64.le x y = true) Arithmetic.greater := by
  refine ⟨fun h => Binary64.le_refl h.ne_nan, Binary64.le_trans, fun {x y} hx hy => ?_⟩
  simp only [Arithmetic.greater, isNaN_eq_false hx.ne_nan, isNaN_eq_false hy.ne_nan,
    Bool.false_eq_true, if_false]
  cases less : Binary64.lt x y with
  | false => exact .inl ⟨rfl, Binary64.le_of_not_lt hx.ne_nan hy.ne_nan less⟩
  | true => exact .inr ⟨rfl, Binary64.le_of_lt less⟩

theorem picks_lesser :
    Picks Rounded (fun x y => Binary64.le y x = true) Arithmetic.lesser := by
  refine ⟨fun h => Binary64.le_refl h.ne_nan, fun h h' => Binary64.le_trans h' h,
    fun {x y} hx hy => ?_⟩
  simp only [Arithmetic.lesser, isNaN_eq_false hx.ne_nan, isNaN_eq_false hy.ne_nan,
    Bool.false_eq_true, if_false]
  cases less : Binary64.lt y x with
  | false => exact .inl ⟨rfl, Binary64.le_of_not_lt hy.ne_nan hx.ne_nan less⟩
  | true => exact .inr ⟨rfl, Binary64.le_of_lt less⟩

/-- An extreme of a list of doubles that is the only one, bit for bit. -/
structure SoleExtreme (within : Binary64 → Binary64 → Prop) (x : Binary64)
    (xs : List Binary64) : Prop extends Extreme within x xs where
  sole : ∀ y ∈ xs, within x y → y = x

theorem Extreme.sole {within : Binary64 → Binary64 → Prop} {x : Binary64} {xs : List Binary64}
    (extreme : Extreme within x xs)
    (antisymm : ∀ y ∈ xs, within y x → within x y → y = x) : SoleExtreme within x xs :=
  ⟨extreme, fun y member => antisymm y member (extreme.bound y member)⟩

theorem greatest_sole {xs : List Binary64} (some_left : xs ≠ []) (rounded : ∀ x ∈ xs, Rounded x) :
    SoleExtreme (fun x y => Binary64.le x y = true) (greatest xs) xs := by
  have extreme := picks_greater.greatest some_left rounded
  refine extreme.sole fun y member below above => ?_
  exact (rounded y member).antisymm (rounded _ extreme.mem) below above

theorem least_sole {xs : List Binary64} (some_left : xs ≠ []) (rounded : ∀ x ∈ xs, Rounded x) :
    SoleExtreme (fun x y => Binary64.le y x = true) (least xs) xs := by
  have extreme := picks_lesser.least some_left rounded
  refine extreme.sole fun y member above below => ?_
  exact (rounded y member).antisymm (rounded _ extreme.mem) below above

/-- The sum of the bytes has no minus sign. -/
theorem positive_sum (counted : ∀ m ∈ points, 0 ≤ m.bytes)
    (sized : ∀ m ∈ points, Binary64.ofIntChecked m.bytes = .ok (bytes m)) :
    Positive (sum (points.map bytes)) := by
  apply sum_keeps (.inr ⟨0, Binary64.leastExponent, rfl⟩)
  · rintro x y left (rfl | ⟨n, f, rfl⟩)
    · obtain rfl | ⟨m, e, rfl⟩ := left <;> exact .inl rfl
    · exact left.add n f
  · rw [List.forall_mem_map]
    intro m member
    obtain ⟨k, p, e, -, same, finite⟩ :=
      Binary64.ofIntChecked_cases (counted m member) (sized m member)
    exact .inr ⟨p, e, same.trans finite⟩

/-- The extreme speeds of a profile are the extremes of the speeds of the measurements one by one, bit
for bit, and there is a profile exactly if the sum of the bytes is a finite double. -/
theorem extremes_agree (some_left : points ≠ []) (counted : ∀ m ∈ points, 0 ≤ m.bytes)
    (timed : ∀ m ∈ points, ∃ x, m.duration = .real x ∧ x ≠ .nan)
    (sized : ∀ m ∈ points, ∃ b, Binary64.ofIntChecked m.bytes = .ok b) :
    ∃ rates amounts, points.mapM (·.throughput) = .ok rates ∧
      points.mapM (fun m => Binary64.ofIntChecked m.bytes) = .ok amounts ∧
      ((sum amounts).isFinite = true → ∃ speed, ofMeasurements points = .ok speed ∧
        SoleExtreme (fun x y => Binary64.le x y = true) speed.maxSpeed rates ∧
        SoleExtreme (fun x y => Binary64.le y x = true) speed.minSpeed rates) ∧
      ((sum amounts).isFinite = false →
        ofMeasurements points = .error .infinityToInteger) := by
  choose! seconds timed using timed
  choose! bytes sized using sized
  have each : ∀ m ∈ points,
      m.throughput = .ok (ratio (inMegabytes (bytes m)) (seconds m)) ∧
      Rounded (ratio (inMegabytes (bytes m)) (seconds m)) := fun m member =>
    throughput_eq (counted m member) (timed m member).1 (timed m member).2 (sized m member)
  have figures := ofMeasurements_eq some_left
    (fun m member => congrArg Scalar.toReal (timed m member).1) sized
  refine ⟨_, points.map bytes, mapM_ok fun m member => (each m member).1, mapM_ok sized, ?_⟩
  obtain endless | ⟨m, e, short⟩ := positive_sum counted sized
  · rw [endless] at figures ⊢
    exact ⟨fun finite => Bool.noConfusion finite, fun _ => figures⟩
  · rw [short] at figures ⊢
    have rates : points.map (fun m => ratio (inMegabytes (bytes m)) (seconds m)) ≠ [] := by
      rwa [Ne, List.map_eq_nil_iff]
    have rounded : ∀ x ∈ points.map (fun m => ratio (inMegabytes (bytes m)) (seconds m)),
        Rounded x := by
      rw [List.forall_mem_map]
      exact fun m member => (each m member).2
    refine ⟨fun _ => ⟨_, figures, ?_, ?_⟩, fun endless => Bool.noConfusion endless⟩
    · show SoleExtreme _ (Profile.ofLists _ _).maxSpeed _
      rw [maxSpeed_ofLists]
      exact greatest_sole rates rounded
    · show SoleExtreme _ (Profile.ofLists _ _).minSpeed _
      rw [minSpeed_ofLists]
      exact least_sole rates rounded

/-- Speeds at the border: more bits than a double has, a negative zero for a duration, and the least
duration of all, with which the speed is infinite. -/
def borderline : List Measurement :=
  [⟨.write, .real (.finite false (twoTo 52) (-52)), 2 ^ 60 + 1⟩, ⟨.write, .real (.zero true), 7⟩,
    ⟨.write, .real (.finite false 1 (-1074)), 2 ^ 70⟩]

theorem borderline_agrees : borderline ≠ [] ∧ (∀ m ∈ borderline, 0 ≤ m.bytes) ∧
    (∀ m ∈ borderline, ∃ x, m.duration = .real x ∧ x ≠ .nan) ∧
    (∀ m ∈ borderline, ∃ b, Binary64.ofIntChecked m.bytes = .ok b) ∧
    ∃ rates speed, borderline.mapM (·.throughput) = .ok rates ∧
      ofMeasurements borderline = .ok speed ∧
      SoleExtreme (fun x y => Binary64.le x y = true) speed.maxSpeed rates ∧
      SoleExtreme (fun x y => Binary64.le y x = true) speed.minSpeed rates := by
  have some_left : borderline ≠ [] := nofun
  have counted : ∀ m ∈ borderline, 0 ≤ m.bytes := by decide
  have timed : ∀ m ∈ borderline, ∃ x, m.duration = .real x ∧ x ≠ .nan := by
    simp [borderline, Binary64.zero]
  have sized : ∀ m ∈ borderline, ∃ b, Binary64.ofIntChecked m.bytes = .ok b := by
    simp only [borderline, List.forall_mem_cons]
    exact ⟨⟨.finite false (twoTo 52) 8, by decide +kernel⟩, ⟨_, rfl⟩, ⟨_, rfl⟩, List.forall_mem_nil _⟩
  obtain ⟨rates, amounts, speeds, doubles, finite, -⟩ :=
    extremes_agree some_left counted timed sized
  have amount : borderline.mapM (fun m => Binary64.ofIntChecked m.bytes) = .ok
      [.finite false (twoTo 52) 8, .finite false (7 * twoTo 50) (-50),
        .finite false (twoTo 52) 18] := by
    decide +kernel
  obtain rfl := Except.ok.inj (doubles.symm.trans amount)
  obtain ⟨speed, figures, most, fewest⟩ := finite (by rw [sum_of_few (by decide)]; decide +kernel)
  exact ⟨some_left, counted, timed, sized, rates, speed, speeds, figures, most, fewest⟩

/-- An amount that is a finite double, while twice the amount is not. -/
def overflowing : List Measurement := List.replicate 2 (inOneSecond (twoTo 1023))

theorem amount_overflowing {m : Measurement} (member : m ∈ overflowing) :
    Binary64.ofIntChecked m.bytes = .ok (.finite false (twoTo 52) 971) := by
  rw [List.eq_of_mem_replicate member]
  decide +kernel

theorem ofMeasurements_overflowing : ofMeasurements overflowing = .error .infinityToInteger := by
  have endless : sum (overflowing.map fun _ => Binary64.finite false (twoTo 52) 971) =
      .infinity false := by
    rw [sum_of_few (by decide)]
    decide +kernel
  have figures : ofMeasurements overflowing =
      (sum (overflowing.map fun _ => Binary64.finite false (twoTo 52) 971)).toInt.map _ :=
    ofMeasurements_eq nofun
      (fun m member => congrArg (·.duration.toReal) (List.eq_of_mem_replicate member))
      fun m member => amount_overflowing member
  rw [endless] at figures
  exact figures

/-- Speeds that have extremes, but no profile: the sum of the bytes is infinite. -/
theorem overflowing_total_has_no_profile : ¬ ∀ points : List Measurement,
    points ≠ [] → (∀ m ∈ points, 0 ≤ m.bytes) →
    (∀ m ∈ points, ∃ x, m.duration = .real x ∧ x ≠ .nan) →
    (∀ m ∈ points, ∃ b, Binary64.ofIntChecked m.bytes = .ok b) →
    ∃ rates speed, points.mapM (·.throughput) = .ok rates ∧ ofMeasurements points = .ok speed ∧
      SoleExtreme (fun x y => Binary64.le x y = true) speed.maxSpeed rates ∧
      SoleExtreme (fun x y => Binary64.le y x = true) speed.minSpeed rates := by
  intro agree
  obtain ⟨rates, speed, -, figures, -⟩ := agree overflowing nofun
    (fun m member => by rw [List.eq_of_mem_replicate member]; exact Int.natCast_nonneg _)
    (fun m member => ⟨_, congrArg (·.duration) (List.eq_of_mem_replicate member), nofun⟩)
    fun m member => ⟨_, amount_overflowing member⟩
  rw [ofMeasurements_overflowing] at figures
  cases figures

end

end Speed
end StoreMeter
