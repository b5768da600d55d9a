import Mathlib.Data.List.Forall2
import Mathlib.Data.List.TakeWhile
import StoreMeter.Proofs.Binary64.Values
import StoreMeter.Proofs.Sizes
/-
# Proofs.Sizes.Grammar — the texts that are sizes

The form of a size, said without the reader: blanks, a number, blanks, the letters of a known unit, and
blanks (`Parts`, `Parts.Proper`).  The reader takes a text apart exactly where the form does, so it
refuses exactly the texts that are not of this form, and what it makes of the others depends on nothing
but the value of the number and the unit in lower-case letters.
-/
namespace StoreMeter
namespace Size

open Text (isBlank isDigit digitValue? digitsValue skipBlanks)

/-! ## The form of a size -/

/-- An ASCII letter. -/
def IsLetter (c : Char) : Prop := ('a' ≤ c ∧ c ≤ 'z') ∨ ('A' ≤ c ∧ c ≤ 'Z')

/-- Nothing but blanks. -/
def Blanks (cs : List Char) : Prop := ∀ c ∈ cs, isBlank c = true

/-- Nothing but decimal digits, of any script. -/
def Digits (cs : List Char) : Prop := ∀ c ∈ cs, isDigit c = true

/-- A number and its exact value.  It is a run of digits, a run of digits and a point with or without
digits behind it, or a point and a run of digits. -/
inductive Numeral : List Char → ℚ → Prop
  | whole {digits : List Char} (given : digits ≠ []) (decimal : Digits digits) :
    Numeral digits (digitsValue digits)
  | pointed {digits places : List Char} (given : digits ≠ []) (decimal : Digits digits)
    (behind : Digits places) :
    Numeral (digits ++ '.' :: places) (digitsValue digits + digitsValue places / 10 ^ places.length)
  | fraction {places : List Char} (given : places ≠ []) (decimal : Digits places) :
    Numeral ('.' :: places) (digitsValue places / 10 ^ places.length)

/-- The units in lower-case letters; no letters at all stand for bytes, too. -/
def knownUnits : List String := ["b", "k", "kb", "m", "mb", "g", "gb", "t", "tb", "p", "pb"]

/-- A unit in lower-case letters. -/
def lowered (unit : List Char) : String := String.ofList (unit.map Char.toLower)

/-- The parts of a text, one after the other. -/
structure Parts where
  before : List Char
  number : List Char
  between : List Char
  unit : List Char
  after : List Char

namespace Parts

/-- The whole text. -/
def text (p : Parts) : String :=
  String.ofList (p.before ++ (p.number ++ (p.between ++ (p.unit ++ p.after))))

/-- The parts are a number of this value and letters, with blanks around each. -/
structure Shaped (p : Parts) (value : ℚ) : Prop where
  before : Blanks p.before
  number : Numeral p.number value
  between : Blanks p.between
  unit : ∀ c ∈ p.unit, IsLetter c
  after : Blanks p.after

/-- The letters are those of a unit, too. -/
structure Proper (p : Parts) (value : ℚ) : Prop extends p.Shaped value where
  known : lowered p.unit = "" ∨ lowered p.unit ∈ knownUnits

end Parts

/-- The text is of the form of a size. -/
def IsSize (text : String) : Prop := ∃ (p : Parts) (value : ℚ), p.text = text ∧ p.Proper value

/-! ## Characters -/

theorem not_digit_of_blank {c : Char} (blank : isBlank c = true) : isDigit c = false := by
  have listed : c.toNat ∈ Text.blankCodes := List.contains_iff_mem.1 blank
  have apart : ∀ code ∈ Text.blankCodes,
      Text.zeroCodes.find? (fun first => first ≤ code && code < first + 10) = none := by decide
  rw [isDigit, digitValue?, apart _ listed]
  rfl

theorem letter_code {c : Char} (letter : IsLetter c) :
    c.toNat < 128 ∧ (65 ≤ c.toNat ∧ c.toNat ≤ 90 ∨ 97 ≤ c.toNat ∧ c.toNat ≤ 122) := by
  obtain ⟨low, high⟩ | ⟨low, high⟩ := letter
  · have low : 97 ≤ c.toNat := low
    have high : c.toNat ≤ 122 := high
    omega
  · have low : 65 ≤ c.toNat := low
    have high : c.toNat ≤ 90 := high
    omega

theorem not_digit_of_letter {c : Char} (letter : IsLetter c) : isDigit c = false := by
  obtain ⟨ascii, code⟩ := letter_code letter
  -- the zeros of the other scripts lie beyond ASCII
  have apart : ∀ code < 128, code < 48 ∨ 58 ≤ code →
      Text.zeroCodes.find? (fun first => first ≤ code && code < first + 10) = none := by decide
  rw [isDigit, digitValue?, apart _ ascii (by omega)]
  rfl

theorem not_blank_of_letter {c : Char} (letter : IsLetter c) : isBlank c = false := by
  obtain ⟨-, code⟩ := letter_code letter
  have apart : ∀ code ∈ Text.blankCodes, ¬(65 ≤ code ∧ code ≤ 90 ∨ 97 ≤ code ∧ code ≤ 122) := by
    decide
  rw [isBlank, ← Bool.not_eq_true, List.contains_iff_mem]
  exact fun listed => apart _ listed code

theorem isUnitLetter_iff {c : Char} : isUnitLetter c = true ↔ IsLetter c := by
  have upper : c.isUpper = true ↔ 'A' ≤ c ∧ c ≤ 'Z' := decide_eq_true_iff
  have lower : c.isLower = true ↔ 'a' ≤ c ∧ c ≤ 'z' := by
    have ends : c.isLower = (decide ('a' ≤ c) && decide (c ≤ 'z')) := rfl
    rw [ends, Bool.and_eq_true, decide_eq_true_eq, decide_eq_true_eq]
  have either : isUnitLetter c = (c.isUpper || c.isLower) := rfl
  rw [either, Bool.or_eq_true, upper, lower, or_comm]
  rfl

theorem not_unitLetter_of_blank {c : Char} (blank : isBlank c = true) : isUnitLetter c = false := by
  rw [← Bool.not_eq_true, isUnitLetter_iff]
  intro letter
  rw [not_blank_of_letter letter] at blank
  cases blank

/-! ## The value of digits -/

theorem digitsValue_append (front back : List Char) :
    digitsValue (front ++ back) = digitsValue front * 10 ^ back.length + digitsValue back := by
  have from_start (start : Nat) (digits : List Char) :
      digits.foldl (fun value c => 10 * value + (digitValue? c).getD 0) start =
        start * 10 ^ digits.length + digitsValue digits := by
    -- the start of the fold changes with each digit
    induction digits generalizing start with
    | nil => simp [digitsValue]
    | cons c rest ih =>
      rw [digitsValue, List.foldl_cons, List.foldl_cons, ih, ih, List.length_cons, pow_succ]
      ring
  rw [digitsValue, List.foldl_append, from_start]
  rfl

theorem digitsValue_cons (c : Char) (rest : List Char) :
    digitsValue (c :: rest) = (digitValue? c).getD 0 * 10 ^ rest.length + digitsValue rest := by
  have first : digitsValue [c] = (digitValue? c).getD 0 := by simp [digitsValue]
  rw [← List.singleton_append, digitsValue_append, first]

/-- The exact value of the number. -/
def Written.value (w : Written) : ℚ :=
  digitsValue (w.whole ++ w.fraction) / tenTo w.fraction.length

theorem Written.value_eq (w : Written) :
    w.value = digitsValue w.whole + digitsValue w.fraction / 10 ^ w.fraction.length := by
  have positive : (0 : ℚ) < 10 ^ w.fraction.length := by positivity
  rw [Written.value, tenTo, Nat.pow_eq, digitsValue_append]
  push_cast
  rw [add_div, mul_div_cancel_right₀ _ positive.ne']

/-! ## Taking a text apart -/

theorem takeWhile_append_of_stop {p : Char → Bool} {front back : List Char}
    (all : ∀ c ∈ front, p c = true) (stop : ∀ c ∈ back.head?, p c = false) :
    (front ++ back).takeWhile p = front := by
  rw [List.takeWhile_append_of_pos all]
  cases back with
  | nil => simp
  | cons c rest => rw [List.takeWhile_cons_of_neg (by simp [stop c rfl]), List.append_nil]

theorem dropWhile_append_of_stop {p : Char → Bool} {front back : List Char}
    (all : ∀ c ∈ front, p c = true) (stop : ∀ c ∈ back.head?, p c = false) :
    (front ++ back).dropWhile p = back := by
  rw [List.dropWhile_append_of_pos all]
  cases back with
  | nil => rfl
  | cons c rest => rw [List.dropWhile_cons_of_neg (by simp [stop c rfl])]

/-- A number does not begin with a blank. -/
theorem Numeral.head_not_blank {number : List Char} {value : ℚ} (h : Numeral number value)
    (rest : List Char) : ∀ c ∈ (number ++ rest).head?, isBlank c = false := by
  have first {digits : List Char} (given : digits ≠ []) (decimal : Digits digits)
      (rest : List Char) : ∀ c ∈ (digits ++ rest).head?, isBlank c = false := by
    obtain ⟨d, more, rfl⟩ := List.exists_cons_of_ne_nil given
    rintro c ⟨⟩
    rw [← Bool.not_eq_true]
    intro blank
    have digit := decimal d List.mem_cons_self
    rw [not_digit_of_blank blank] at digit
    cases digit
  cases h with
  | whole given decimal => exact first given decimal rest
  | pointed given decimal _ =>
    rw [List.append_assoc]
    exact first given decimal _
  | fraction _ _ =>
    rintro c ⟨⟩
    decide

theorem splitNumber?_point {whole : List Char} (decimal : Digits whole) (behind : List Char) :
    splitNumber? (whole ++ '.' :: behind) =
      if whole.isEmpty && (behind.takeWhile isDigit).isEmpty then none
      else some (whole, behind.takeWhile isDigit, behind.dropWhile isDigit) := by
  have stop : ∀ c ∈ ('.' :: behind).head?, isDigit c = false := by
    rintro c ⟨⟩
    decide
  unfold splitNumber?
  rw [takeWhile_append_of_stop decimal stop, dropWhile_append_of_stop decimal stop]
  rfl

theorem splitNumber?_pointless {whole rest : List Char} (given : whole ≠ [])
    (decimal : Digits whole) (stop : ∀ c ∈ rest.head?, isDigit c = false ∧ c ≠ '.') :
    splitNumber? (whole ++ rest) = some (whole, [], rest) := by
  have stop' : ∀ c ∈ rest.head?, isDigit c = false := fun c first => (stop c first).1
  unfold splitNumber?
  rw [takeWhile_append_of_stop decimal stop', dropWhile_append_of_stop decimal stop']
  dsimp only
  split
  · exact absurd rfl (stop '.' rfl).2
  · rw [if_neg (by simpa using given)]

/-- The number of a text is split off, and its value is that of the digits on both sides of the
point. -/
theorem splitNumber?_of_numeral {number rest : List Char} {value : ℚ} (h : Numeral number value)
    (stop : ∀ c ∈ rest.head?, isDigit c = false ∧ c ≠ '.') :
    ∃ whole fraction, splitNumber? (number ++ rest) = some (whole, fraction, rest) ∧
      value = digitsValue whole + digitsValue fraction / 10 ^ fraction.length := by
  have stop' : ∀ c ∈ rest.head?, isDigit c = false := fun c first => (stop c first).1
  cases h with
  | whole given decimal =>
    exact ⟨number, [], splitNumber?_pointless given decimal stop, by simp [digitsValue]⟩
  | @pointed digits places given decimal behind =>
    refine ⟨digits, places, ?_, rfl⟩
    rw [List.append_assoc, List.cons_append, splitNumber?_point decimal,
      takeWhile_append_of_stop behind stop', dropWhile_append_of_stop behind stop',
      if_neg (by simp [given])]
  | @fraction places given decimal =>
    refine ⟨[], places, ?_, by simp [digitsValue]⟩
    have split := splitNumber?_point (nofun : Digits []) (places ++ rest)
    rw [List.nil_append] at split
    rw [List.cons_append, split, takeWhile_append_of_stop decimal stop',
      dropWhile_append_of_stop decimal stop', if_neg (by simp [given])]

theorem numeral_of_splitNumber? {cs whole fraction rest : List Char}
    (h : splitNumber? cs = some (whole, fraction, rest)) :
    ∃ number, cs = number ++ rest ∧
      Numeral number (digitsValue whole + digitsValue fraction / 10 ^ fraction.length) := by
  have parts := List.takeWhile_append_dropWhile (p := isDigit) (l := cs)
  have decimal (cs : List Char) : Digits (cs.takeWhile isDigit) := fun c => List.mem_takeWhile_imp
  unfold splitNumber? at h
  dsimp only at h
  split at h
  · rename_i behind tail
    split at h
    · cases h
    · rename_i given
      cases h
      have places := List.takeWhile_append_dropWhile (p := isDigit) (l := behind)
      -- the digits of one side may be left out, not those of both
      rcases eq_or_ne (cs.takeWhile isDigit) [] with none_before | some_before
      · refine ⟨'.' :: behind.takeWhile isDigit, ?_, ?_⟩
        · rw [List.cons_append, places, ← tail, ← List.nil_append (cs.dropWhile isDigit),
            ← none_before, parts]
        · have some_behind : behind.takeWhile isDigit ≠ [] := by
            intro none_behind
            simp [none_before, none_behind] at given
          have numeral := Numeral.fraction some_behind (decimal behind)
          simpa [none_before, digitsValue] using numeral
      · refine ⟨cs.takeWhile isDigit ++ '.' :: behind.takeWhile isDigit, ?_,
          .pointed some_before (decimal cs) (decimal behind)⟩
        rw [List.append_assoc, List.cons_append, places, ← tail, parts]
  · split at h
    · cases h
    · rename_i given
      cases h
      refine ⟨cs.takeWhile isDigit, parts.symm, ?_⟩
      have numeral := Numeral.whole (by simpa using given) (decimal cs)
      simpa [digitsValue] using numeral

/-- Behind the number, the letters of the unit are what is left between the blanks. -/
theorem letters_between {between unit after : List Char} (blank : Blanks between)
    (letters : ∀ c ∈ unit, IsLetter c) (blank' : Blanks after) :
    (skipBlanks (between ++ (unit ++ after))).takeWhile isUnitLetter = unit ∧
      skipBlanks ((skipBlanks (between ++ (unit ++ after))).dropWhile isUnitLetter) = [] := by
  have skipped {cs : List Char} (blank : Blanks cs) : skipBlanks cs = [] :=
    List.dropWhile_eq_nil_iff.2 blank
  -- without letters the blanks before and after are one run of blanks
  rcases eq_or_ne unit [] with rfl | given
  · have all : Blanks (between ++ ([] ++ after)) := fun c member =>
      (List.mem_append.1 member).elim (blank c) (blank' c)
    rw [skipped all]
    exact ⟨rfl, rfl⟩
  · have start : skipBlanks (between ++ (unit ++ after)) = unit ++ after := by
      obtain ⟨d, more, rfl⟩ := List.exists_cons_of_ne_nil given
      refine dropWhile_append_of_stop blank ?_
      rintro c ⟨⟩
      exact not_blank_of_letter (letters d List.mem_cons_self)
    have inside : ∀ c ∈ unit, isUnitLetter c = true := fun c member =>
      isUnitLetter_iff.2 (letters c member)
    have stop : ∀ c ∈ after.head?, isUnitLetter c = false := fun c first =>
      not_unitLetter_of_blank (blank' c (List.mem_of_mem_head? first))
    rw [start, takeWhile_append_of_stop inside stop, dropWhile_append_of_stop inside stop]
    exact ⟨rfl, skipped blank'⟩

/-- A text of parts is taken apart into these parts. -/
theorem ofText?_of_shaped {p : Parts} {value : ℚ} (shaped : p.Shaped value) :
    ∃ written, Written.ofText? p.text = some written ∧ written.unit = p.unit ∧
      written.value = value := by
  have start : skipBlanks p.text.toList = p.number ++ (p.between ++ (p.unit ++ p.after)) := by
    rw [Parts.text, String.toList_ofList, skipBlanks,
      dropWhile_append_of_stop shaped.before (shaped.number.head_not_blank _)]
  have blank_stops {c : Char} (blank : isBlank c = true) : isDigit c = false ∧ c ≠ '.' := by
    refine ⟨not_digit_of_blank blank, ?_⟩
    rintro rfl
    revert blank
    decide
  -- what follows the number cannot go on with it
  have stop : ∀ c ∈ (p.between ++ (p.unit ++ p.after)).head?, isDigit c = false ∧ c ≠ '.' := by
    intro c first
    have member := List.mem_of_mem_head? first
    simp only [List.mem_append] at member
    obtain blank | letter | blank := member
    · exact blank_stops (shaped.between c blank)
    · refine ⟨not_digit_of_letter (shaped.unit c letter), ?_⟩
      rintro rfl
      have := letter_code (shaped.unit _ letter)
      revert this
      decide
    · exact blank_stops (shaped.after c blank)
  obtain ⟨whole, fraction, split, same⟩ := splitNumber?_of_numeral shaped.number stop
  obtain ⟨letters, nothing⟩ := letters_between shaped.between shaped.unit shaped.after
  refine ⟨⟨whole, fraction, p.unit⟩, ?_, rfl, ?_⟩
  · rw [Written.ofText?, start, split]
    dsimp only [bind, Option.bind]
    rw [letters, nothing]
    rfl
  · rw [Written.value_eq, same]

/-- A text that is taken apart consists of such parts. -/
theorem shaped_of_ofText? {text : String} {written : Written}
    (h : Written.ofText? text = some written) :
    ∃ p : Parts, p.text = text ∧ p.unit = written.unit ∧ p.Shaped written.value := by
  have blanks (cs : List Char) : Blanks (cs.takeWhile isBlank) := fun c => List.mem_takeWhile_imp
  have blank_rest (cs : List Char) : cs.takeWhile isBlank ++ skipBlanks cs = cs :=
    List.takeWhile_append_dropWhile
  unfold Written.ofText? at h
  obtain ⟨⟨whole, fraction, rest⟩, split, h⟩ := Option.bind_eq_some_iff.1 h
  obtain ⟨number, start, numeral⟩ := numeral_of_splitNumber? split
  dsimp only at h
  split at h
  · rename_i nothing
    cases h
    have letters := List.takeWhile_append_dropWhile (p := isUnitLetter) (l := skipBlanks rest)
    refine ⟨⟨text.toList.takeWhile isBlank, number, rest.takeWhile isBlank,
      (skipBlanks rest).takeWhile isUnitLetter, (skipBlanks rest).dropWhile isUnitLetter⟩, ?_, rfl,
      blanks _, ?_, blanks _, fun c member => isUnitLetter_iff.1 (List.mem_takeWhile_imp member),
      List.dropWhile_eq_nil_iff.1 (List.isEmpty_iff.1 nothing)⟩
    · rw [Parts.text]
      dsimp only
      rw [letters, blank_rest rest, ← start, blank_rest, String.ofList_toList]
    · rw [Written.value_eq]
      exact numeral
  · cases h

/-! ## What decides the bytes -/

/-- The double that is nearest to a quantity that is not negative. -/
def nearestDouble (q : ℚ) : Binary64 := Binary64.roundRatio false q.num.natAbs q.den

theorem natAbs_num_div_den {q : ℚ} (nonneg : 0 ≤ q) : (q.num.natAbs : ℚ) / q.den = q := by
  have num : ((q.num.natAbs : Int) : ℚ) = q.num := by
    rw [Int.natAbs_of_nonneg (Rat.num_nonneg.2 nonneg)]
  rw [← Int.cast_natCast, num, Rat.num_div_den]

theorem Written.value_nonneg (w : Written) : 0 ≤ w.value :=
  div_nonneg (Nat.cast_nonneg _) (Nat.cast_nonneg _)

/-- The value of a number decides its double, however it is written. -/
theorem Written.number_eq (w : Written) : w.number = nearestDouble w.value :=
  Binary64.roundRatio_congr (tenTo_pos _) w.value.den_pos
    (natAbs_num_div_den w.value_nonneg).symm

theorem Parts.Shaped.value_nonneg {p : Parts} {value : ℚ} (shaped : p.Shaped value) : 0 ≤ value := by
  obtain ⟨written, -, -, rfl⟩ := ofText?_of_shaped shaped
  exact written.value_nonneg

theorem known_iff {name : String} :
    name = "" ∨ name ∈ knownUnits ↔ ∃ power, unitPower? name = some power := by
  constructor
  · rintro (rfl | member)
    · exact ⟨0, rfl⟩
    · have all : ∀ name ∈ knownUnits, (unitPower? name).isSome = true := by decide
      exact Option.isSome_iff_exists.1 (all name member)
  · rintro ⟨power, known⟩
    -- the branches of the reader are the listed names
    unfold unitPower? at known
    simp only [knownUnits, List.mem_cons, List.not_mem_nil, or_false]
    grind

/-- The bytes of a size depend on the value of its number and the power of its unit. -/
theorem parse_of_shaped {p : Parts} {value : ℚ} {power : Nat} (shaped : p.Shaped value)
    (known : unitPower? (lowered p.unit) = some power) :
    parse p.text = inBytes (nearestDouble value) power := by
  obtain ⟨written, read, unit, rfl⟩ := ofText?_of_shaped shaped
  rw [← unit] at known
  have denoted : denoted? p.text = some (written, power) := by
    rw [denoted?, read, Option.bind_some, Written.unitName, ← lowered, known, Option.map_some]
  rw [parse_of_denoted denoted, written.number_eq]

/-- A text of the form of a size is not refused. -/
theorem not_refused_of_isSize {text : String} (size : IsSize text) {fault : Fault}
    (failed : parse text = .error fault) : fault.isConfiguration = false := by
  obtain ⟨p, value, rfl, proper⟩ := size
  obtain ⟨power, known⟩ := known_iff.1 proper.known
  obtain ⟨written, read, unit, rfl⟩ := ofText?_of_shaped proper.toShaped
  rw [parse_of_shaped proper.toShaped known, ← written.number_eq] at failed
  -- too large an amount fails, too, but not as a setting
  obtain ⟨n, computed, -⟩ | ⟨-, computed⟩ := inBytes_cases written (unitPower?_le known)
  · rw [computed] at failed
    cases failed
  · rw [computed] at failed
    cases failed
    rfl

theorem isSize_of_denoted {text : String} {written : Written} {power : Nat}
    (denoted : denoted? text = some (written, power)) : IsSize text := by
  obtain ⟨w, read, named⟩ := Option.bind_eq_some_iff.1 denoted
  obtain ⟨power, known, same⟩ := Option.map_eq_some_iff.1 named
  cases same
  obtain ⟨p, rfl, unit, shaped⟩ := shaped_of_ofText? read
  refine ⟨p, _, rfl, shaped, known_iff.2 ⟨power, ?_⟩⟩
  rw [unit]
  exact known

/-- Refused are the texts that are not of the form of a size. -/
theorem refused_iff (text : String) :
    (∃ fault, parse text = .error fault ∧ fault.isConfiguration = true) ↔ ¬ IsSize text := by
  constructor
  · rintro ⟨fault, failed, refused⟩ size
    rw [not_refused_of_isSize size failed] at refused
    cases refused
  · intro other
    refine parse_of_not_denoted ?_
    cases denoted : denoted? text with
    | none => rfl
    | some read => exact absurd (isSize_of_denoted denoted) other

/-- Two sizes of one value and one unit come to the same. -/
theorem parse_congr {p q : Parts} {value : ℚ} (proper : p.Proper value) (shaped : q.Shaped value)
    (unit : lowered q.unit = lowered p.unit) : parse q.text = parse p.text := by
  obtain ⟨power, known⟩ := known_iff.1 proper.known
  rw [parse_of_shaped proper.toShaped known, parse_of_shaped shaped (unit ▸ known)]

/-! ## Other ways to write a number -/

theorem digitsValue_zeros {zeros : List Char} (zero : ∀ c ∈ zeros, digitValue? c = some 0) :
    digitsValue zeros = 0 := by
  induction zeros with
  | nil => rfl
  | cons c rest ih =>
    rw [digitsValue_cons, zero c List.mem_cons_self,
      ih fun d member => zero d (List.mem_cons_of_mem _ member)]
    simp

/-- Zeros before a number do not change its value. -/
theorem Numeral.with_zeros {zeros number : List Char} {value : ℚ} (h : Numeral number value)
    (zero : ∀ c ∈ zeros, digitValue? c = some 0) : Numeral (zeros ++ number) value := by
  have decimal {digits : List Char} (h : Digits digits) : Digits (zeros ++ digits) := by
    intro c member
    obtain member | member := List.mem_append.1 member
    · rw [isDigit, zero c member]
      rfl
    · exact h c member
  have same (digits : List Char) : digitsValue (zeros ++ digits) = digitsValue digits := by
    rw [digitsValue_append, digitsValue_zeros zero]
    simp
  cases h with
  | whole given digits =>
    rw [← same]
    exact .whole (by simp [given]) (decimal digits)
  | pointed given digits behind =>
    rw [← List.append_assoc, ← same]
    exact .pointed (by simp [given]) (decimal digits) behind
  | fraction given digits =>
    -- zeros turn a number without a whole part into one with it
    rcases eq_or_ne zeros [] with rfl | some_zeros
    · exact .fraction given digits
    · have only_zeros : Digits zeros := by simpa using decimal (nofun : Digits [])
      have numeral := Numeral.pointed some_zeros only_zeros digits
      rwa [digitsValue_zeros zero, Nat.cast_zero, zero_add] at numeral

/-- The same character, or two digits of one value. -/
def SameDigit (c d : Char) : Prop :=
  c = d ∨ ∃ n, digitValue? c = some n ∧ digitValue? d = some n

theorem SameDigit.digitValue? {c d : Char} (same : SameDigit c d) :
    Text.digitValue? c = Text.digitValue? d := by
  obtain rfl | ⟨n, first, second⟩ := same
  · rfl
  · rw [first, second]

theorem digits_of_same {digits digits' : List Char} (same : List.Forall₂ SameDigit digits' digits)
    (decimal : Digits digits) : Digits digits' ∧ digitsValue digits' = digitsValue digits := by
  induction same with
  | nil => exact ⟨decimal, rfl⟩
  | @cons c d rest rest' first same ih =>
    obtain ⟨decimal', value⟩ := ih fun e member => decimal e (List.mem_cons_of_mem _ member)
    constructor
    · rintro e (_ | ⟨_, member⟩)
      · have digit := decimal d List.mem_cons_self
        rwa [isDigit, ← first.digitValue?] at digit
      · exact decimal' e member
    · rw [digitsValue_cons, digitsValue_cons, first.digitValue?, value, same.length_eq]

/-- Digits of the same values make a number of the same value. -/
theorem Numeral.of_sameDigits {number number' : List Char} {value : ℚ} (h : Numeral number value)
    (same : List.Forall₂ SameDigit number' number) : Numeral number' value := by
  have kept {digits digits' : List Char} (given : digits ≠ [])
      (same : List.Forall₂ SameDigit digits' digits) : digits' ≠ [] := by
    rintro rfl
    exact given (List.forall₂_nil_left_iff.1 same)
  -- the point is no digit, so it stays
  have pointed {places rest : List Char} (same : List.Forall₂ SameDigit rest ('.' :: places)) :
      ∃ places', rest = '.' :: places' ∧ List.Forall₂ SameDigit places' places := by
    obtain ⟨c, places', point, same_places, rfl⟩ := List.forall₂_cons_right_iff.1 same
    obtain rfl | ⟨n, -, digit⟩ := point
    · exact ⟨places', rfl, same_places⟩
    · have none_left : digitValue? '.' = none := by decide
      rw [none_left] at digit
      cases digit
  cases h with
  | whole given decimal =>
    obtain ⟨decimal', value⟩ := digits_of_same same decimal
    rw [← value]
    exact .whole (kept given same) decimal'
  | @pointed digits places given decimal behind =>
    obtain ⟨places', rest, same_places⟩ := pointed (List.forall₂_drop_append _ _ _ same)
    have same_digits := List.forall₂_take_append _ _ _ same
    obtain ⟨decimal', value⟩ := digits_of_same same_digits decimal
    obtain ⟨behind', value'⟩ := digits_of_same same_places behind
    rw [← List.take_append_drop digits.length number', rest, ← value, ← value',
      ← same_places.length_eq]
    exact .pointed (kept given same_digits) decimal' behind'
  | fraction given decimal =>
    obtain ⟨places', rfl, same_places⟩ := pointed same
    obtain ⟨decimal', value⟩ := digits_of_same same_places decimal
    rw [← value, ← same_places.length_eq]
    exact .fraction (kept given same_places) decimal'

/-! ## Exactly the sizes -/

/-- The reader refuses exactly the texts that are not of the form of a size.  What it makes of a size
depends on nothing but the value of the number and the unit in lower-case letters: neither blanks, nor
the case of the letters, nor zeros before the number, nor the script of its digits make a difference. -/
theorem reads_exactly_sizes :
    (∀ text, (∃ fault, parse text = .error fault ∧ fault.isConfiguration = true) ↔ ¬ IsSize text) ∧
    (∀ (p q : Parts) (value : ℚ), p.Proper value → q.Proper value →
      lowered q.unit = lowered p.unit → parse q.text = parse p.text) ∧
    ∀ (p : Parts) (value : ℚ), p.Proper value →
      (∀ before between after, Blanks before → Blanks between → Blanks after →
        parse { p with before, between, after }.text = parse p.text) ∧
      (∀ unit, (∀ c ∈ unit, IsLetter c) → lowered unit = lowered p.unit →
        parse { p with unit }.text = parse p.text) ∧
      (∀ zeros, (∀ c ∈ zeros, digitValue? c = some 0) →
        parse { p with number := zeros ++ p.number }.text = parse p.text) ∧
      ∀ number, List.Forall₂ SameDigit number p.number →
        parse { p with number }.text = parse p.text := by
  refine ⟨refused_iff, fun p q value proper proper' => parse_congr proper proper'.toShaped, ?_⟩
  intro p value proper
  have shaped := proper.toShaped
  refine ⟨?_, ?_, ?_, ?_⟩
  · intro before between after blank blank' blank''
    exact parse_congr proper ⟨blank, shaped.number, blank', shaped.unit, blank''⟩ rfl
  · intro unit letters same
    exact parse_congr proper ⟨shaped.before, shaped.number, shaped.between, letters, shaped.after⟩ same
  · intro zeros zero
    exact parse_congr proper ⟨shaped.before, shaped.number.with_zeros zero, shaped.between,
      shaped.unit, shaped.after⟩ rfl
  · intro number same
    exact parse_congr proper ⟨shaped.before, shaped.number.of_sameDigits same, shaped.between,
      shaped.unit, shaped.after⟩ rfl

end Size
end StoreMeter
