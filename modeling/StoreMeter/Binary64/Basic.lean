/-
# Binary64 — double-precision numbers as exact values

A double is not a number, an infinity, or the exact value `± mantissa * 2 ^ exponent`.  Every
operation computes the exact result first, as a quotient of natural numbers or as an integer
times a power of two, and rounds it once, by `roundRatio`.  So each operation inherits what is
true of that one function, and nothing here depends on the machine's own floating point.

`finite` holds the canonical forms only when the value comes out of `roundRatio`: the mantissa
is below `2 ^ 53`, the exponent is between `-1074` and `971`, and the mantissa is at least
`2 ^ 52` unless the exponent is the least one (`Canonical`).
-/
namespace StoreMeter

/-- A double-precision number by its exact value. -/
inductive Binary64 where
  /-- The result of an operation without a value. -/
  | nan
  /-- An infinity, with its sign. -/
  | infinity (negative : Bool)
  /-- The value `mantissa * 2 ^ exponent`, with its sign; zero keeps its sign too. -/
  | finite (negative : Bool) (mantissa : Nat) (exponent : Int)
  deriving DecidableEq, Repr

/-! ## Powers of two and of ten -/

/-- A power of two. -/
def twoTo (n : Nat) : Nat := Nat.pow 2 n

/-- A power of ten. -/
def tenTo (n : Nat) : Nat := Nat.pow 10 n

@[simp]
theorem twoTo_zero : twoTo 0 = 1 := rfl

theorem twoTo_succ (n : Nat) : twoTo (n + 1) = twoTo n * 2 := rfl

theorem twoTo_pos (n : Nat) : 0 < twoTo n := Nat.pow_pos (by decide)

@[simp]
theorem tenTo_zero : tenTo 0 = 1 := rfl

theorem tenTo_pos (n : Nat) : 0 < tenTo n := Nat.pow_pos (by decide)

/-! ## Rounding an exact quotient -/

/-- The integer nearest to `num / den`; a tie goes to the even one. -/
def divNearest (num den : Nat) : Nat :=
  let quotient := num / den
  let rest := num % den
  if 2 * rest < den then quotient
  else if den < 2 * rest then quotient + 1
  else if quotient % 2 = 0 then quotient
  else quotient + 1

/-- The greatest `k` with `2 ^ k ≤ num / den`, for positive `num` and `den`. -/
def floorLog2 (num den : Nat) : Int :=
  let guess : Int := (num.log2 : Int) - (den.log2 : Int)
  if den * twoTo guess.toNat ≤ num * twoTo (-guess).toNat then guess else guess - 1

namespace Binary64

/-- The exponent of the smallest positive double. -/
def leastExponent : Int := -1074

/-- The exponent of the largest finite double. -/
def greatestExponent : Int := 971

/-- The forms that rounding produces: each finite value has exactly one of them. -/
def Canonical (mantissa : Nat) (exponent : Int) : Prop :=
  mantissa < twoTo 53 ∧ leastExponent ≤ exponent ∧ exponent ≤ greatestExponent ∧
    (twoTo 52 ≤ mantissa ∨ exponent = leastExponent)

instance (mantissa : Nat) (exponent : Int) : Decidable (Canonical mantissa exponent) := by
  unfold Canonical; infer_instance

/-- Zero, with its sign. -/
def zero (negative : Bool) : Binary64 := .finite negative 0 leastExponent

instance : Inhabited Binary64 := ⟨zero false⟩

/-- The double with this mantissa and exponent, where the mantissa is at most `2 ^ 53`: the next
binade starts at `2 ^ 53`, and beyond the greatest exponent lies infinity. -/
def ofParts (negative : Bool) (mantissa : Nat) (exponent : Int) : Binary64 :=
  let (mantissa, exponent) :=
    if mantissa < twoTo 53 then (mantissa, exponent) else (twoTo 52, exponent + 1)
  if exponent ≤ greatestExponent then .finite negative mantissa exponent else .infinity negative

/-- The exponent of the doubles around `num / den`: fifty-three significant bits, or as many as
the least exponent leaves. -/
def gridExponent (num den : Nat) : Int := max leastExponent (floorLog2 num den - 52)

/-- The double nearest to `± num / den`, a tie going to the even mantissa; `den` is positive. -/
def roundRatio (negative : Bool) (num den : Nat) : Binary64 :=
  if num = 0 then zero negative
  else
    let exponent := gridExponent num den
    ofParts negative (divNearest (num * twoTo (-exponent).toNat) (den * twoTo exponent.toNat))
      exponent

/-- The double nearest to `± mantissa * 2 ^ exponent`. -/
def roundScaled (negative : Bool) (mantissa : Nat) (exponent : Int) : Binary64 :=
  roundRatio negative (mantissa * twoTo exponent.toNat) (twoTo (-exponent).toNat)

/-! ## Views of a double -/

/-- The integer with the sign and the mantissa of a finite double. -/
def signedMantissa (negative : Bool) (mantissa : Nat) : Int :=
  if negative then -(mantissa : Int) else mantissa

/-- Holds of the finite doubles. -/
def isFinite : Binary64 → Bool
  | .finite .. => true
  | _ => false

/-- Holds of the result of an operation without a value. -/
def isNaN : Binary64 → Bool
  | .nan => true
  | _ => false

/-- The opposite number; the sign of a zero changes too. -/
def neg : Binary64 → Binary64
  | .nan => .nan
  | .infinity negative => .infinity (!negative)
  | .finite negative mantissa exponent => .finite (!negative) mantissa exponent

/-- The magnitude. -/
def abs : Binary64 → Binary64
  | .nan => .nan
  | .infinity _ => .infinity false
  | .finite _ mantissa exponent => .finite false mantissa exponent

/-! ## Comparison of exact values -/

/-- Compares `a * 2 ^ d` and `b * 2 ^ e`. -/
def compareScaled (a : Int) (d : Int) (b : Int) (e : Int) : Ordering :=
  let base := min d e
  compare (a * twoTo (d - base).toNat) (b * twoTo (e - base).toNat)

/-- The order of two doubles by value; not a number is comparable to nothing, and the two zeros
are equal. -/
def compare? : Binary64 → Binary64 → Option Ordering
  | .nan, _ => none
  | _, .nan => none
  | .infinity true, .infinity true => some .eq
  | .infinity false, .infinity false => some .eq
  | .infinity negative, _ => some (if negative then .lt else .gt)
  | _, .infinity negative => some (if negative then .gt else .lt)
  | .finite s m e, .finite t n f =>
    some (compareScaled (signedMantissa s m) e (signedMantissa t n) f)

/-- Less, by value. -/
def lt (x y : Binary64) : Bool := compare? x y == some .lt

/-- Equal, by value: the two zeros are equal, and not a number differs from itself. -/
def eqv (x y : Binary64) : Bool := compare? x y == some .eq

/-! ## Arithmetic -/

/-- Is the sign of this double negative?  Zeros and infinities have a sign too. -/
def isNegative : Binary64 → Bool
  | .nan => false
  | .infinity negative => negative
  | .finite negative _ _ => negative

/-- The sum, rounded once.  An exact zero is negative only if both terms are. -/
def add : Binary64 → Binary64 → Binary64
  | .nan, _ => .nan
  | _, .nan => .nan
  | .infinity s, .infinity t => if s = t then .infinity s else .nan
  | .infinity s, .finite .. => .infinity s
  | .finite .., .infinity t => .infinity t
  | .finite s m e, .finite t n f =>
    let base := min e f
    let total := signedMantissa s m * twoTo (e - base).toNat +
      signedMantissa t n * twoTo (f - base).toNat
    if total = 0 then zero (s && t) else roundScaled (total < 0) total.natAbs base

/-- The difference, rounded once. -/
def sub (x y : Binary64) : Binary64 := add x y.neg

/-- The product, rounded once. -/
def mul : Binary64 → Binary64 → Binary64
  | .nan, _ => .nan
  | _, .nan => .nan
  | .infinity s, .infinity t => .infinity (s != t)
  | .infinity s, .finite t n _ => if n = 0 then .nan else .infinity (s != t)
  | .finite s m _, .infinity t => if m = 0 then .nan else .infinity (s != t)
  | .finite s m e, .finite t n f => roundScaled (s != t) (m * n) (e + f)

/-- The quotient, rounded once.  A positive number divided by zero is an infinity, and zero
divided by zero has no value. -/
def div : Binary64 → Binary64 → Binary64
  | .nan, _ => .nan
  | _, .nan => .nan
  | .infinity _, .infinity _ => .nan
  | .infinity s, .finite t _ _ => .infinity (s != t)
  | .finite s _ _, .infinity t => zero (s != t)
  | .finite s m e, .finite t n f =>
    if n = 0 then if m = 0 then .nan else .infinity (s != t)
    else
      let base := min e f
      roundRatio (s != t) (m * twoTo (e - base).toNat) (n * twoTo (f - base).toNat)

/-- The square root of a natural number, rounded down, for numbers below `4 ^ digits`. -/
def floorSqrtBelow : Nat → Nat → Nat
  | 0, _ => 0
  | digits + 1, n =>
    let root := 2 * floorSqrtBelow digits (n / 4)
    if (root + 1) * (root + 1) ≤ n then root + 1 else root

/-- The square root of a natural number, rounded down. -/
def floorSqrt (n : Nat) : Nat := floorSqrtBelow (n.log2 / 2 + 1) n

/-- The square root, rounded once: the integer root of a mantissa with enough extra bits, and one
more bit that says whether anything is left over. -/
def sqrt : Binary64 → Binary64
  | .nan => .nan
  | .infinity negative => if negative then .nan else .infinity false
  | .finite negative mantissa exponent =>
    if mantissa = 0 then .finite negative mantissa exponent
    else if negative then .nan
    else
      let even := exponent - exponent % 2
      let radicand := mantissa * twoTo (exponent % 2).toNat * twoTo 128
      let root := floorSqrt radicand
      let sticky := if root * root = radicand then 0 else 1
      roundScaled false (2 * root + sticky) (even / 2 - 65)

/-! ## Whole numbers -/

/-- The double nearest to an integer; an infinity if the integer is too large. -/
def ofInt (n : Int) : Binary64 := roundRatio (n < 0) n.natAbs 1

/-- The double nearest to a natural number. -/
def ofNat (n : Nat) : Binary64 := roundRatio false n 1

/-- The quotient of two integers, rounded once from its exact value; the divisor is not zero. -/
def ofQuotient (num den : Int) : Binary64 :=
  roundRatio ((num < 0) != (den < 0)) num.natAbs den.natAbs

/-- The whole part of `mantissa * 2 ^ exponent`. -/
def wholePart (mantissa : Nat) (exponent : Int) : Nat :=
  mantissa * twoTo exponent.toNat / twoTo (-exponent).toNat

/-- The order of an integer and a double by exact value. -/
def compareInt? (n : Int) : Binary64 → Option Ordering
  | .nan => none
  | .infinity negative => some (if negative then .gt else .lt)
  | .finite negative mantissa exponent =>
    some (compareScaled n 0 (signedMantissa negative mantissa) exponent)

end Binary64
end StoreMeter
