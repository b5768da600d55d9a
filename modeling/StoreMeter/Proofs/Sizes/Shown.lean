import StoreMeter.Proofs.Sizes.Exact
/-
# Proofs.Sizes.Shown — sizes as they are shown

An amount of bytes is divided by 1024 until it is below 1024, exactly as long as it has at most
fifty-three bits, and the number of the unit is shown in hundredths, rounded once, a tie to even.  The
text that comes out is a size again, and reading it comes back to the amount but for half a hundredth
of the unit.

The unit is chosen before the number is rounded.  So in the last half hundredth below a power of 1024
the number shown is 1024.00 of a unit and not 1.00 of the next one.
-/
namespace StoreMeter
namespace Size

open Text (isDigit digitValue? digitsValue)
open Binary64 (Stores IsDouble NearestWhole placesText)

/-! ## Digits -/

theorem digitValue?_of_ascii {c : Char} (ascii : c.isDigit = true) :
    digitValue? c = some (c.toNat - '0'.toNat) := by
  have code : 48 ≤ c.toNat ∧ c.toNat ≤ 57 := by
    simpa [Char.isDigit, UInt32.le_iff_toNat_le] using ascii
  -- the zero of ASCII is tried before those of the other scripts
  have first : (Text.zeroCodes.find? fun first => first ≤ c.toNat && c.toNat < first + 10) =
      some 48 := by
    rw [Text.zeroCodes, List.find?_cons_of_pos]
    rw [Bool.and_eq_true, decide_eq_true_eq, decide_eq_true_eq]
    omega
  rw [digitValue?, first]
  rfl

theorem digits_toDigits (n : Nat) : Digits (Nat.toDigits 10 n) := by
  intro c member
  rw [isDigit, digitValue?_of_ascii (Nat.isDigit_of_mem_toDigits (by decide) (by decide) member)]
  rfl

/-- The digits of a number denote that number. -/
theorem digitsValue_toDigits (n : Nat) : digitsValue (Nat.toDigits 10 n) = n := by
  have ascii : ∀ c ∈ Nat.toDigits 10 n, c.isDigit = true := fun c =>
    Nat.isDigit_of_mem_toDigits (by decide) (by decide)
  have same (digits : List Char) (ascii : ∀ c ∈ digits, c.isDigit = true) (start : Nat) :
      digits.foldl (fun value c => 10 * value + (digitValue? c).getD 0) start =
        Nat.ofDigitChars 10 digits start := by
    induction digits generalizing start with
    | nil => rfl
    | cons c rest ih =>
      rw [List.foldl_cons, digitValue?_of_ascii (ascii c List.mem_cons_self),
        ih fun d member => ascii d (List.mem_cons_of_mem _ member)]
      rfl
  rw [digitsValue, same _ ascii, Nat.ofDigitChars_ten_toDigits]

theorem toList_placesText (n places : Nat) :
    (placesText n places).toList = Nat.toDigits 10 (n / 10 ^ places) ++
      '.' :: (List.replicate (places - (Nat.toDigits 10 (n % 10 ^ places)).length) '0' ++
        Nat.toDigits 10 (n % 10 ^ places)) := by
  have shown (m : Nat) : (toString m).toList = Nat.toDigits 10 m := Nat.toList_repr
  have length (m : Nat) : (toString m).length = (Nat.toDigits 10 m).length := by
    rw [← String.length_toList, shown]
  unfold placesText Binary64.zeros
  simp only [String.toList_append, String.toList_ofList, shown, length, List.append_assoc]
  rfl

/-- A number of so many places is shown with its exact value. -/
theorem numeral_placesText (n : Nat) {places : Nat} (given : 0 < places) :
    Numeral (placesText n places).toList (n / 10 ^ places) := by
  have positive : (0 : ℚ) < 10 ^ places := by positivity
  have below : n % 10 ^ places < 10 ^ places := Nat.mod_lt _ (by positivity)
  have length := (Nat.length_toDigits_le_iff (by decide : 1 < 10) given).2 below
  have zero : ∀ c ∈ List.replicate (places - (Nat.toDigits 10 (n % 10 ^ places)).length) '0',
      digitValue? c = some 0 := by
    intro c member
    rw [List.eq_of_mem_replicate member]
    decide
  -- behind the point the places are filled up with zeros
  have behind : Digits (List.replicate (places - (Nat.toDigits 10 (n % 10 ^ places)).length) '0' ++
      Nat.toDigits 10 (n % 10 ^ places)) := by
    intro c member
    obtain member | member := List.mem_append.1 member
    · rw [isDigit, zero c member]
      rfl
    · exact digits_toDigits _ c member
  have numeral := Numeral.pointed Nat.toDigits_ne_nil (digits_toDigits (n / 10 ^ places)) behind
  rw [digitsValue_append, digitsValue_zeros zero, digitsValue_toDigits, digitsValue_toDigits,
    List.length_append, List.length_replicate, Nat.sub_add_cancel length, Nat.zero_mul,
    Nat.zero_add] at numeral
  have value : ((n / 10 ^ places : Nat) : ℚ) + (n % 10 ^ places : Nat) / 10 ^ places =
      n / 10 ^ places := by
    rw [eq_div_iff positive.ne', add_mul, div_mul_cancel₀ _ positive.ne']
    exact_mod_cast Nat.div_add_mod' n (10 ^ places)
  rw [toList_placesText]
  rwa [value] at numeral

/-! ## The unit that is chosen -/

/-- The units that are shown, in the order in which they are tried. -/
def shownUnits : List String := ["B", "KB", "MB", "GB", "TB", "PB"]

/-- A unit that is shown is written in letters and is read as the power of its place. -/
theorem shownUnits_read {power : Nat} {unit : String} (shown : shownUnits[power]? = some unit) :
    (∀ c ∈ unit.toList, IsLetter c) ∧ unitPower? (lowered unit.toList) = some power := by
  obtain ⟨within, rfl⟩ := List.getElem?_eq_some_iff.1 shown
  have every : ∀ i (within : i < shownUnits.length),
      (shownUnits[i].toList.all isUnitLetter) = true ∧
        unitPower? (lowered shownUnits[i].toList) = some i := by decide
  obtain ⟨letters, known⟩ := every power within
  exact ⟨fun c member => isUnitLetter_iff.1 (List.all_eq_true.1 letters c member), known⟩

theorem abs_of_stores {x : Binary64} {v : ℚ} (h : Stores x v) : x.abs = x := by
  obtain ⟨m, e, rfl, -⟩ := h
  rfl

/-- A value is shown with so many places, rounded to the nearest. -/
theorem fixed_of_stores {x : Binary64} {v : ℚ} (h : Stores x v) (places : Nat) :
    ∃ n, NearestWhole (v * 10 ^ places) n ∧ x.fixed places = placesText n places := by
  obtain ⟨m, e, rfl, -, -, rfl⟩ := h
  refine ⟨Binary64.scaledPlaces places m e, ?_, String.empty_append⟩
  have positive : (0 : ℚ) < twoTo (-e).toNat := by exact_mod_cast twoTo_pos _
  have nearest := Binary64.divNearest_nearest (m * twoTo e.toNat * tenTo places)
    (twoTo_pos (-e).toNat)
  rwa [Nat.cast_mul, Binary64.num_scaled, mul_right_comm, mul_div_cancel_right₀ _ positive.ne', tenTo,
    Nat.pow_eq, Nat.cast_pow] at nearest

theorem stores_unitStep : Stores unitStep 1024 := by
  exact_mod_cast Binary64.stores_ofNat (n := 1024) (by decide)

/-- A value is shown in the first unit in which it is below 1024, or in the last one; in every unit but
the first it is at least one.  Only the number is rounded, not what is divided. -/
theorem formatIn_shows {x : Binary64} {v : ℚ} (last : String) (units : List String)
    (stores : Stores x v) (range : v ≤ 2 ^ 54)
    (doubles : ∀ power ≤ units.length, IsDouble (v / 1024 ^ power)) :
    ∃ (power h : Nat) (unit : String), (units ++ [last])[power]? = some unit ∧
      formatIn x last units = placesText h 2 ++ " " ++ unit ∧
      NearestWhole (v / 1024 ^ power * 10 ^ 2) h ∧
      (power < units.length → v / 1024 ^ power < 1024) ∧ (0 < power → 1 ≤ v / 1024 ^ power) := by
  -- along the units; the amount left is the double of the exact quotient
  induction units generalizing x v with
  | nil =>
    obtain ⟨h, nearest, shown⟩ := fixed_of_stores stores 2
    refine ⟨0, h, last, rfl, ?_, ?_, nofun, nofun⟩
    · rw [formatIn, shown]
    · rwa [pow_zero, div_one]
  | cons unit larger ih =>
    rw [formatIn, abs_of_stores stores]
    split
    · rename_i below
      obtain ⟨h, nearest, shown⟩ := fixed_of_stores stores 2
      have below := (stores.lt stores_unitStep).1 below
      refine ⟨0, h, unit, rfl, ?_, ?_, fun _ => ?_, nofun⟩
      · rw [shown]
      · rwa [pow_zero, div_one]
      · rwa [pow_zero, div_one]
    · rename_i above
      have above : 1024 ≤ v := not_lt.1 (mt (stores.lt stores_unitStep).2 above)
      have small : v / 1024 ≤ 2 ^ 54 := (div_le_self stores.nonneg (by norm_num)).trans range
      have next (power : Nat) : v / 1024 / 1024 ^ power = v / 1024 ^ (power + 1) := by
        rw [div_div, pow_succ']
      obtain ⟨w, quotient, rounds⟩ := stores.div stores_unitStep (by norm_num)
        (Binary64.lt_twiceLimit small)
      have exact_ := doubles 1 (by simp)
      rw [pow_one] at exact_
      -- the quotient is a double, so this division does not round
      obtain rfl := rounds.eq_of_isDouble exact_
      obtain ⟨power, h, chosen, listed, shown, nearest, below, least⟩ := ih quotient small (by
        intro power within
        rw [next]
        exact doubles _ (Nat.succ_le_succ within))
      rw [next] at nearest below least
      refine ⟨power + 1, h, chosen, listed, shown, nearest, fun within => ?_, fun _ => ?_⟩
      · exact below (Nat.lt_of_succ_lt_succ within)
      · cases power with
        | zero =>
          rw [zero_add, pow_one]
          linarith
        | succ power => exact least power.succ_pos

/-- A whole number of bytes of at most fifty-three bits is shown in the unit in which it is at least one
and below 1024, where there is such a unit, and the number of the unit is rounded once. -/
theorem format_shows {n : Nat} (range : n ≤ 2 ^ 53) :
    ∃ (power h : Nat) (unit : String), shownUnits[power]? = some unit ∧
      format (.int n) = .ok (placesText h 2 ++ " " ++ unit) ∧
      NearestWhole (n / 1024 ^ power * 10 ^ 2) h ∧
      (power < 5 → (n : ℚ) < 1024 ^ (power + 1)) ∧ (0 < power → (1024 : ℚ) ^ power ≤ n) := by
  have short : n ≤ twoTo 53 := range
  have small : (n : ℚ) ≤ 2 ^ 54 := by
    have cast : (n : ℚ) ≤ 2 ^ 53 := by exact_mod_cast range
    exact cast.trans (by norm_num)
  have stores := Binary64.stores_ofNat short
  obtain ⟨power, h, unit, listed, shown, nearest, below, least⟩ :=
    formatIn_shows "PB" ["B", "KB", "MB", "GB", "TB"] stores small
      (fun power within => isDouble_whole_units short within)
  have step (power : Nat) : (0 : ℚ) < 1024 ^ power := by positivity
  refine ⟨power, h, unit, listed, ?_, nearest, fun within => ?_, fun above => ?_⟩
  · rw [format, Scalar.toReal, Binary64.ofIntChecked_natCast short, ← shown]
    rfl
  · have := below within
    rwa [div_lt_iff₀ (step power), ← pow_succ'] at this
  · have := least above
    rwa [one_le_div (step power)] at this

/-! ## Reading back -/

/-- What is shown is a size. -/
theorem denotes_shown {power : Nat} {unit : String} (listed : shownUnits[power]? = some unit)
    (h : Nat) : Denotes (placesText h 2 ++ " " ++ unit) (h / 10 ^ 2 * 1024 ^ power) := by
  obtain ⟨letters, known⟩ := shownUnits_read listed
  have number : Numeral (placesText h 2).toList (h / 10 ^ 2) := numeral_placesText h two_pos
  refine ⟨⟨[], (placesText h 2).toList, [' '], unit.toList, []⟩, h / 10 ^ 2, power, ?_, ?_, known, rfl⟩
  · rw [Parts.text, ← String.toList_inj]
    simp
  · have space : Blanks [' '] := List.forall_mem_singleton.2 rfl
    have nothing : Blanks [] := List.forall_mem_nil _
    exact ⟨⟨nothing, number, space, letters, nothing⟩, known_iff.2 ⟨power, known⟩⟩

/-- The number shown is within half a hundredth of the number of the unit. -/
theorem shown_near {n power h : Nat} (nearest : NearestWhole (n / 1024 ^ power * 10 ^ 2) h) :
    |(h : ℚ) / 10 ^ 2 * 1024 ^ power - n| ≤ 1024 ^ power / 200 := by
  have positive : (0 : ℚ) < 1024 ^ power := by positivity
  have scaled : (h : ℚ) / 10 ^ 2 * 1024 ^ power - n =
      (h - n / 1024 ^ power * 10 ^ 2) * (1024 ^ power / 10 ^ 2) := by
    field_simp
  rw [scaled, abs_mul, abs_of_pos (by positivity : (0 : ℚ) < 1024 ^ power / 10 ^ 2)]
  have := mul_le_mul_of_nonneg_right nearest.close
    (by positivity : (0 : ℚ) ≤ 1024 ^ power / 10 ^ 2)
  linarith

/-- The number that is shown is below 1024 in every unit but the last, or it is 1024 and the amount lies
in the last half hundredth below the next unit. -/
theorem shown_below {n power h : Nat} (nearest : NearestWhole (n / 1024 ^ power * 10 ^ 2) h)
    (below : (n : ℚ) < 1024 ^ (power + 1)) :
    h ≤ 102400 ∧ (h < 102400 ↔ 200 * n < 204799 * 1024 ^ power) := by
  have positive : (0 : ℚ) < 1024 ^ power := by positivity
  rw [pow_succ', ← div_lt_iff₀ positive] at below
  constructor
  · refine nearest.mono (Binary64.nearestWhole_natCast _) ?_
    norm_num
    linarith
  · rw [nearest.lt_even_iff (by decide), ← Nat.cast_lt (α := ℚ)]
    push_cast
    rw [← lt_div_iff₀ (by norm_num : (0 : ℚ) < 10 ^ 2), div_lt_iff₀ positive]
    constructor <;> intro less <;> linarith

/-- Below 1024 the number that is shown is the amount itself. -/
theorem shown_exact {n power h : Nat} (few : n < 1024)
    (nearest : NearestWhole (n / 1024 ^ power * 10 ^ 2) h)
    (least : 0 < power → (1024 : ℚ) ^ power ≤ n) : (h : ℚ) / 10 ^ 2 * 1024 ^ power = n := by
  obtain rfl : power = 0 := by
    -- in a larger unit there would be at least 1024 bytes
    by_contra above
    have unit_le : (1024 : ℚ) ≤ 1024 ^ power := le_self_pow₀ (by norm_num) above
    have cast : (1024 : ℚ) ≤ n := unit_le.trans (least (Nat.pos_of_ne_zero above))
    exact few.not_ge (by exact_mod_cast cast)
  have hundredths : h = n * 100 := by
    refine nearest.unique ?_
    rw [pow_zero, div_one]
    exact_mod_cast Binary64.nearestWhole_natCast (n * 100)
  rw [hundredths]
  push_cast
  ring

/-- What is shown is not beyond the range of the amounts. -/
theorem shown_le {n power h : Nat} (range : n ≤ 2 ^ 53) (unit : power ≤ 5)
    (nearest : NearestWhole (n / 1024 ^ power * 10 ^ 2) h)
    (below : power < 5 → (n : ℚ) < 1024 ^ (power + 1)) :
    (h : ℚ) / 10 ^ 2 * 1024 ^ power ≤ 2 ^ 53 := by
  -- the last unit has no number 1024 as its bound, but eight is enough there
  rcases unit.lt_or_eq with smaller | rfl
  · have number : (h : ℚ) / 10 ^ 2 ≤ 1024 := by
      rw [div_le_iff₀ (by norm_num)]
      exact_mod_cast (shown_below nearest (below smaller)).1
    have step : (1024 : ℚ) ^ power ≤ 1024 ^ 4 := pow_le_pow_right₀ (by norm_num) (by omega)
    calc (h : ℚ) / 10 ^ 2 * 1024 ^ power ≤ 1024 * 1024 ^ 4 :=
          mul_le_mul number step (by positivity) (by norm_num)
      _ ≤ 2 ^ 53 := by norm_num
  · have most : h ≤ 800 := by
      refine nearest.mono (Binary64.nearestWhole_natCast 800) ?_
      have cast : (n : ℚ) ≤ 2 ^ 53 := by exact_mod_cast range
      calc (n : ℚ) / 1024 ^ 5 * 10 ^ 2 ≤ 2 ^ 53 / 1024 ^ 5 * 10 ^ 2 := by gcongr
        _ = ((800 : Nat) : ℚ) := by norm_num
    have cast : (h : ℚ) ≤ 800 := by exact_mod_cast most
    norm_num
    linarith

/-- Every whole number of bytes of at most fifty-three bits is shown as a size, and reading it comes
back to the number but for half the last digit that is shown and two bytes; below 1024 it comes back to
the number itself. -/
theorem shown_sizes_read_back {n : Nat} (range : n ≤ 2 ^ 53) :
    ∃ (number unit : String) (power r : Nat), format (.int n) = .ok (number ++ " " ++ unit) ∧
      shownUnits[power]? = some unit ∧ unitPower? (lowered unit.toList) = some power ∧
      parse (number ++ " " ++ unit) = .ok r ∧ |(r : ℚ) - n| ≤ 1024 ^ power / 200 + 2 ∧
      (n < 1024 → r = n) := by
  obtain ⟨power, h, unit, listed, shown, nearest, below, least⟩ := format_shows range
  have known := (shownUnits_read listed).2
  have near := shown_near nearest
  obtain ⟨r, read, low, high⟩ := (denotes_shown listed h).read
    (shown_le range (unitPower?_le known) nearest below)
  refine ⟨placesText h 2, unit, power, r, shown, listed, known, read, ?_, ?_⟩
  -- reading rounds once, by less than a byte on either side
  · have low : (h : ℚ) / 10 ^ 2 * 1024 ^ power - 1 < r :=
      (Int.sub_one_lt_floor _).trans_le (by exact_mod_cast low)
    have high : (r : ℚ) < h / 10 ^ 2 * 1024 ^ power + 1 := by
      refine lt_of_le_of_lt ?_ (Int.ceil_lt_add_one _)
      exact_mod_cast high
    rw [abs_le] at near ⊢
    constructor <;> linarith
  · intro few
    rw [shown_exact few nearest least, Int.floor_natCast] at low
    rw [shown_exact few nearest least, Int.ceil_natCast] at high
    exact_mod_cast le_antisymm high low

theorem last_kilobytes_read_back : 1048575 ≤ 2 ^ 53 ∧
    ∃ (number unit : String) (power r : Nat),
      format (.int (1048575 : Nat)) = .ok (number ++ " " ++ unit) ∧
      shownUnits[power]? = some unit ∧ unitPower? (lowered unit.toList) = some power ∧
      parse (number ++ " " ++ unit) = .ok r ∧ |(r : ℚ) - (1048575 : Nat)| ≤ 1024 ^ power / 200 + 2 ∧
      (1048575 < 1024 → r = 1048575) :=
  ⟨by norm_num, shown_sizes_read_back (by norm_num)⟩

/-! ## The fitting unit -/

/-- Every number that is shown fits its unit: it is below 1024 in every unit but the last, and at least
one in every unit but the first. -/
def UnitsFit : Prop :=
  ∀ (n : Nat) (number unit : String) (value : ℚ) (power : Nat), n ≤ 2 ^ 53 →
    format (.int n) = .ok (number ++ " " ++ unit) → Numeral number.toList value →
    shownUnits[power]? = some unit → (power < 5 → value < 1024) ∧ (0 < power → 1 ≤ value)

/-- The amount fits the unit in which it is shown, and the number that is shown is at least one in every
unit but the first.  It is below 1024 in a unit but the last exactly if the amount does not lie in the
last half hundredth below the next unit; there it is 1024. -/
theorem shown_number_fits_iff {n : Nat} (range : n ≤ 2 ^ 53) :
    ∃ (number unit : String) (value : ℚ) (power : Nat),
      format (.int n) = .ok (number ++ " " ++ unit) ∧ Numeral number.toList value ∧
      shownUnits[power]? = some unit ∧ (power < 5 → n < 1024 ^ (power + 1)) ∧
      (0 < power → 1024 ^ power ≤ n ∧ 1 ≤ value) ∧
      (power < 5 → value ≤ 1024 ∧ (value < 1024 ↔ 200 * n < 204799 * 1024 ^ power)) := by
  obtain ⟨power, h, unit, listed, shown, nearest, below, least⟩ := format_shows range
  refine ⟨placesText h 2, unit, h / 10 ^ 2, power, shown, numeral_placesText h two_pos, listed,
    ?_, ?_, ?_⟩
  · intro within
    exact_mod_cast below within
  · intro above
    -- rounding keeps the bound, since 100 hundredths are a whole number
    have enough : 100 ≤ h := by
      refine (Binary64.nearestWhole_natCast 100).mono nearest ?_
      have := (one_le_div (by positivity)).2 (least above)
      norm_num
      linarith
    refine ⟨by exact_mod_cast least above, ?_⟩
    rw [le_div_iff₀ (by norm_num)]
    exact_mod_cast enough
  · intro within
    obtain ⟨most, fits⟩ := shown_below nearest (below within)
    rw [div_le_iff₀ (by norm_num), div_lt_iff₀ (by norm_num), ← fits]
    constructor
    · exact_mod_cast most
    · norm_num

theorem kilobyte_and_half_fits : 1536 ≤ 2 ^ 53 ∧
    ∃ (number unit : String) (value : ℚ) (power : Nat),
      format (.int (1536 : Nat)) = .ok (number ++ " " ++ unit) ∧ Numeral number.toList value ∧
      shownUnits[power]? = some unit ∧ (power < 5 → 1536 < 1024 ^ (power + 1)) ∧
      (0 < power → 1024 ^ power ≤ 1536 ∧ 1 ≤ value) ∧
      (power < 5 → value ≤ 1024 ∧ (value < 1024 ↔ 200 * 1536 < 204799 * 1024 ^ power)) :=
  ⟨by norm_num, shown_number_fits_iff (by norm_num)⟩

/-- The last bytes before a megabyte are shown as 1024 kilobytes. -/
theorem last_kilobytes_misfit : ¬ UnitsFit := by
  intro fit
  have number : Numeral "1024.00".toList 1024 := by
    have digits : placesText 102400 2 = "1024.00" := by decide
    have value : ((102400 : Nat) : ℚ) / 10 ^ 2 = 1024 := by norm_num
    rw [← digits, ← value]
    exact numeral_placesText 102400 two_pos
  have shown : format (.int (1048575 : Nat)) = .ok "1024.00 KB" := by rfl
  have := (fit 1048575 "1024.00" "KB" 1024 1 (by norm_num) shown number rfl).1 (by norm_num)
  exact this.false

end Size
end StoreMeter
