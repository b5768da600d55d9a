import StoreMeter.Binary64.Decimal
import StoreMeter.Fault
/-
# Scalar — numbers as they were given

A number stays what it was given as, a truth value, an integer of any size or a double, because it
is shown that way.  Arithmetic on integers is exact until a double is wanted; an integer or a
quotient beyond the doubles is a failure and never an infinity.
-/
namespace StoreMeter

/-- A number as it was given. -/
inductive Scalar where
  /-- A truth value, which counts as zero or one. -/
  | truth (value : Bool)
  /-- An integer. -/
  | int (value : Int)
  /-- A double. -/
  | real (value : Binary64)
  deriving DecidableEq, Repr

namespace Binary64

/-- The whole part of a double; infinities and not a number have none. -/
def toInt : Binary64 → Except Fault Int
  | .nan => .error .nanToInteger
  | .infinity _ => .error .infinityToInteger
  | .finite negative mantissa exponent =>
    .ok (signedMantissa negative (wholePart mantissa exponent))

/-- The double nearest to an integer, if the integer lies in the range of doubles. -/
def ofIntChecked (n : Int) : Except Fault Binary64 :=
  match ofInt n with
  | .infinity _ => .error .integerTooLarge
  | x => .ok x

/-- The quotient of two integers, rounded once. -/
def quotientChecked (num den : Int) : Except Fault Binary64 :=
  if den = 0 then .error .divisionByZero
  else match ofQuotient num den with
    | .infinity _ => .error .quotientTooLarge
    | x => .ok x

/-- The quotient of two doubles, where the divisor is not zero. -/
def divChecked (x y : Binary64) : Except Fault Binary64 :=
  match y with
  | .finite _ 0 _ => .error .realDivisionByZero
  | _ => .ok (div x y)

end Binary64

namespace Scalar

/-- The integer behind a number that is none. -/
def integer? : Scalar → Option Int
  | truth b => some (if b then 1 else 0)
  | int n => some n
  | real _ => none

/-- The number as text. -/
def text : Scalar → String
  | truth b => if b then "True" else "False"
  | int n => toString n
  | real x => x.text

instance : ToString Scalar := ⟨text⟩

/-- The number as a double. -/
def toReal : Scalar → Except Fault Binary64
  | truth b => .ok (Binary64.ofNat b.toNat)
  | int n => Binary64.ofIntChecked n
  | real x => .ok x

/-- The order of two numbers by exact value. -/
def compare? : Scalar → Scalar → Option Ordering
  | real x, real y => Binary64.compare? x y
  | real x, b => do
    let n ← b.integer?
    (Binary64.compareInt? n x).map Ordering.swap
  | a, real y => do
    let n ← a.integer?
    Binary64.compareInt? n y
  | a, b => do
    let m ← a.integer?
    let n ← b.integer?
    some (compare m n)

/-- Equal by value; not a number differs from itself. -/
def eqv (a b : Scalar) : Bool := compare? a b == some .eq

/-- Less than zero. -/
def isNegative (a : Scalar) : Bool := compare? a (int 0) == some .lt

/-- Zero or less. -/
def isNonPositive (a : Scalar) : Bool :=
  compare? a (int 0) == some .lt || compare? a (int 0) == some .eq

/-- The quotient of two numbers: exact before one rounding if both are integers. -/
def divide (a b : Scalar) : Except Fault Binary64 :=
  match a.integer?, b.integer? with
  | some m, some n => Binary64.quotientChecked m n
  | _, _ => do
    let x ← a.toReal
    let y ← b.toReal
    Binary64.divChecked x y

end Scalar
end StoreMeter
