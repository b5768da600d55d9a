import StoreMeter.Binary64.Basic
/-
# Speed.Sum — sums and extremes over any arithmetic

Statistics are written once over the class `Arithmetic`, which doubles implement with rounding and
exact numbers without.  A long list is summed in halves, a list of moderate length in eight
interleaved lanes and a short one from the left, so that rounding errors grow slowly; over exact
numbers all these orders give the same sum.
-/
namespace StoreMeter

/-- The operations that statistics need. -/
class Arithmetic (K : Type) where
  /-- A natural number. -/
  ofNat : Nat → K
  add : K → K → K
  sub : K → K → K
  mul : K → K → K
  div : K → K → K
  /-- Greater than zero. -/
  isPositive : K → Bool
  /-- The greater of two numbers; a number without a value wins. -/
  greater : K → K → K
  /-- The lesser of two numbers; a number without a value wins. -/
  lesser : K → K → K

/-- Doubles, with a rounding in each operation. -/
instance : Arithmetic Binary64 where
  ofNat := Binary64.ofNat
  add := Binary64.add
  sub := Binary64.sub
  mul := Binary64.mul
  div := Binary64.div
  isPositive x := Binary64.lt (Binary64.zero false) x
  greater x y := if x.isNaN then x else if y.isNaN then y else if Binary64.lt x y then y else x
  lesser x y := if x.isNaN then x else if y.isNaN then y else if Binary64.lt y x then y else x

namespace Speed

variable {K : Type} [Arithmetic K]

/-- Zero. -/
def nought : K := Arithmetic.ofNat 0

/-- The sum from the left, starting with a given number. -/
def sumFrom (start : K) (xs : List K) : K := xs.foldl Arithmetic.add start

/-- Adds the list to the lanes, eight numbers at a time, and returns the lanes and the rest of
fewer than eight. -/
def addLanes (lanes : List K) : List K → List K × List K
  | a :: b :: c :: d :: e :: f :: g :: h :: rest =>
    addLanes (List.zipWith Arithmetic.add lanes [a, b, c, d, e, f, g, h]) rest
  | rest => (lanes, rest)

/-- Adds neighbouring lanes until one number is left. -/
def joinLanes : List K → K
  | [a, b, c, d, e, f, g, h] =>
    Arithmetic.add
      (Arithmetic.add (Arithmetic.add a b) (Arithmetic.add c d))
      (Arithmetic.add (Arithmetic.add e f) (Arithmetic.add g h))
  | lanes => sumFrom nought lanes

/-- The sum of at most a hundred and twenty-eight numbers: from the left below eight numbers, else
in eight lanes with the last few numbers behind. -/
def sumBlock (xs : List K) : K :=
  if xs.length < 8 then sumFrom nought xs
  else
    let (lanes, rest) := addLanes (xs.take 8) (xs.drop 8)
    sumFrom (joinLanes lanes) rest

/-- The length of the first half of a long list: a multiple of eight. -/
def firstHalf (n : Nat) : Nat := n / 2 - n / 2 % 8

/-- The sum in halves, down to blocks. -/
def sumHalves (xs : List K) : K :=
  if xs.length ≤ 128 then sumBlock xs
  else
    let half := firstHalf xs.length
    Arithmetic.add (sumHalves (xs.take half)) (sumHalves (xs.drop half))
termination_by xs.length
decreasing_by
  all_goals simp only [List.length_take, List.length_drop, firstHalf]; omega

/-- The sum of a list, which is never a negative zero. -/
def sum (xs : List K) : K := Arithmetic.add (sumHalves xs) nought

/-- The greatest number of a list, or a number without a value if there is one. -/
def greatest : List K → K
  | [] => nought
  | x :: xs => xs.foldl Arithmetic.greater x

/-- The least number of a list, or a number without a value if there is one. -/
def least : List K → K
  | [] => nought
  | x :: xs => xs.foldl Arithmetic.lesser x

end Speed
end StoreMeter
