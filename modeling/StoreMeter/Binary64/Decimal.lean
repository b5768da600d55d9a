import StoreMeter.Binary64.Basic
/-
# Binary64.Decimal — doubles as decimal text

Three exact conversions between doubles and decimal numbers.

* `ofDecimal` reads `digits * 10 ^ exponent`, of any length, rounded once.
* `shortest` finds the fewest digits that read back as the same double, and of those the nearest
  to it; `text` writes them, positionally below `10 ^ 16` and from `10 ^ -4` on.
* `fixed` writes a given number of places, rounding the exact value once, a tie to even.
-/
namespace StoreMeter
namespace Binary64

/-! ## Reading -/

/-- The number of decimal digits of a natural number. -/
def digitCount (n : Nat) : Nat := (Nat.toDigits 10 n).length

/-- The double nearest to `± digits * 10 ^ exponent`.  Exponents far outside the range of doubles
are decided by size alone, so that a long exponent costs nothing. -/
def ofDecimal (negative : Bool) (digits : Nat) (exponent : Int) : Binary64 :=
  if digits = 0 then zero negative
  else if 400 < exponent then .infinity negative
  else if exponent + digitCount digits < -400 then zero negative
  else roundRatio negative (digits * tenTo exponent.toNat) (tenTo (-exponent).toNat)

/-! ## The fewest digits that read back -/

/-- The greatest `p` with `10 ^ p ≤ num / den`, for positive `num` and `den`. -/
def floorLog10 (num den : Nat) : Int :=
  let guess := floorLog2 num den * 30103 / 100000
  let reaches (p : Int) : Bool := den * tenTo p.toNat ≤ num * tenTo (-p).toNat
  if reaches (guess + 1) then guess + 1
  else if reaches guess then guess
  else guess - 1

/-- The reals that round to one double, in units of a common denominator: the double itself and
the two midpoints between it and its neighbours.  The midpoints belong to it when its mantissa
is even. -/
structure Cell where
  low : Nat
  value : Nat
  high : Nat
  den : Nat
  closed : Bool

/-- The cell of `mantissa * 2 ^ exponent`.  Below the start of a binade the doubles lie twice as
close. -/
def Cell.ofParts (mantissa : Nat) (exponent : Int) : Cell :=
  let unit := exponent - 2
  let scale := twoTo unit.toNat
  let narrow := mantissa == twoTo 52 && leastExponent < exponent
  { low := (4 * mantissa - if narrow then 1 else 2) * scale
    value := 4 * mantissa * scale
    high := (4 * mantissa + 2) * scale
    den := twoTo (-unit).toNat
    closed := mantissa % 2 == 0 }

/-- Does `digits * 10 ^ exponent` lie in the cell? -/
def Cell.contains (cell : Cell) (digits : Nat) (exponent : Int) : Bool :=
  let point := digits * tenTo exponent.toNat * cell.den
  let scale := tenTo (-exponent).toNat
  if cell.closed then cell.low * scale ≤ point && point ≤ cell.high * scale
  else cell.low * scale < point && point < cell.high * scale

/-- The multiple of `10 ^ exponent` in the cell that is nearest to its double, a tie going to the
even digit; none if no multiple lies in the cell. -/
def Cell.nearest? (cell : Cell) (exponent : Int) : Option Nat :=
  let num := cell.value * tenTo (-exponent).toNat
  let den := cell.den * tenTo exponent.toNat
  let below := num / den
  match cell.contains below exponent, cell.contains (below + 1) exponent with
  | true, true => some (divNearest num den)
  | true, false => some below
  | false, true => some (below + 1)
  | false, false => none

/-- A positive decimal number, `digits * 10 ^ exponent`. -/
structure Decimal where
  digits : Nat
  exponent : Int

/-- The same number without zeros at the end of its digits; `fuel` bounds the zeros removed. -/
def Decimal.trim : Nat → Decimal → Decimal
  | 0, d => d
  | fuel + 1, d =>
    if d.digits ≠ 0 ∧ d.digits % 10 = 0 then trim fuel ⟨d.digits / 10, d.exponent + 1⟩ else d

/-- The shortest decimal number in the cell of a positive double: seventeen digits always reach
into it. -/
def shortest (mantissa : Nat) (exponent : Int) : Decimal :=
  let cell := Cell.ofParts mantissa exponent
  let leading := floorLog10 cell.value cell.den
  let found := (List.range 17).findSome? fun (more : Nat) =>
    let place := leading - (more : Int)
    (cell.nearest? place).map fun digits => Decimal.mk digits place
  match found with
  | some decimal => decimal.trim 20
  | none => ⟨0, 0⟩

/-! ## Writing -/

/-- The least decimal exponent that is written positionally. -/
def leastPositional : Int := -4

/-- From this decimal exponent on a number is written with an exponent. -/
def positionalBound : Int := 16

/-- A run of zeros. -/
def zeros (n : Nat) : String := String.ofList (List.replicate n '0')

/-- A decimal number with a point between its digits, and a zero where a side has no digit. -/
def positionalText (digits : String) (point : Int) : String :=
  if point ≤ 0 then "0." ++ zeros (-point).toNat ++ digits
  else if (digits.length : Int) ≤ point then digits ++ zeros (point.toNat - digits.length) ++ ".0"
  else String.ofList (digits.toList.take point.toNat) ++ "." ++
    String.ofList (digits.toList.drop point.toNat)

/-- A decimal number as one digit, the others after a point, and a signed exponent of two digits
or more. -/
def exponentText (digits : String) (exponent : Int) : String :=
  let first := String.ofList (digits.toList.take 1)
  let others := digits.toList.drop 1
  let written := toString exponent.natAbs
  first ++ (if others.isEmpty then "" else "." ++ String.ofList others) ++
    (if exponent < 0 then "e-" else "e+") ++ zeros (2 - written.length) ++ written

/-- A decimal number in the shorter of its two forms, which the size of its exponent decides. -/
def Decimal.text (d : Decimal) : String :=
  let digits := toString d.digits
  let exponent := d.exponent + digits.length - 1
  if leastPositional ≤ exponent ∧ exponent < positionalBound then
    positionalText digits (exponent + 1)
  else exponentText digits exponent

/-- A minus sign for negative numbers. -/
def signText (negative : Bool) : String := if negative then "-" else ""

/-- A double in the fewest digits that read back. -/
def text : Binary64 → String
  | .nan => "nan"
  | .infinity negative => signText negative ++ "inf"
  | .finite negative mantissa exponent =>
    signText negative ++
      if mantissa = 0 then "0.0" else (shortest mantissa exponent).text

instance : ToString Binary64 := ⟨text⟩

/-- `digits * 10 ^ -places` with exactly that many places, at least one. -/
def placesText (digits places : Nat) : String :=
  let fraction := toString (digits % tenTo places)
  toString (digits / tenTo places) ++ "." ++ zeros (places - fraction.length) ++ fraction

/-- The magnitude of a finite double in units of `10 ^ -places`, rounded once, a tie to even. -/
def scaledPlaces (places mantissa : Nat) (exponent : Int) : Nat :=
  divNearest (mantissa * twoTo exponent.toNat * tenTo places) (twoTo (-exponent).toNat)

/-- A double with a fixed number of places, at least one. -/
def fixed (places : Nat) : Binary64 → String
  | .nan => "nan"
  | .infinity negative => signText negative ++ "inf"
  | .finite negative mantissa exponent =>
    signText negative ++ placesText (scaledPlaces places mantissa exponent) places

end Binary64
end StoreMeter
