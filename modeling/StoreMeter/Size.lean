import StoreMeter.Text.Blank
import StoreMeter.Value
/-
# Size — amounts of data as text

A size is written as a number and a unit, with blanks around each: digits of any script with an
optional point, and a unit that is a power of 1024 in letters of either case.  `Written.ofText?`
splits a text into these two parts, `parse` computes the bytes, and `format` shows an amount with
two places in the first unit that keeps the number below 1024.
-/
namespace StoreMeter
namespace Size

/-! ## Units -/

/-- The power of 1024 that a unit in lower-case letters stands for. -/
def unitPower? (unit : String) : Option Nat :=
  if unit = "" ∨ unit = "b" then some 0
  else if unit = "k" ∨ unit = "kb" then some 1
  else if unit = "m" ∨ unit = "mb" then some 2
  else if unit = "g" ∨ unit = "gb" then some 3
  else if unit = "t" ∨ unit = "tb" then some 4
  else if unit = "p" ∨ unit = "pb" then some 5
  else none

/-- Is the character an ASCII letter? -/
def isUnitLetter (c : Char) : Bool := c.isAlpha

/-! ## The written form -/

/-- A size as it is written: the digits on both sides of the point, and the letters of the unit. -/
structure Written where
  whole : List Char
  fraction : List Char
  unit : List Char

/-- Splits the number at the start of a text off: the digits before and after its point, and the
rest.  One of the two runs of digits must not be empty. -/
def splitNumber? (cs : List Char) : Option (List Char × List Char × List Char) :=
  let whole := cs.takeWhile Text.isDigit
  match cs.dropWhile Text.isDigit with
  | '.' :: rest =>
    let fraction := rest.takeWhile Text.isDigit
    if whole.isEmpty && fraction.isEmpty then none
    else some (whole, fraction, rest.dropWhile Text.isDigit)
  | rest => if whole.isEmpty then none else some (whole, [], rest)

/-- Splits a text into a number and a unit, with blanks around each; nothing else may stand in the
text. -/
def Written.ofText? (s : String) : Option Written := do
  let (whole, fraction, rest) ← splitNumber? (Text.skipBlanks s.toList)
  let rest := Text.skipBlanks rest
  let unit := rest.takeWhile isUnitLetter
  if (Text.skipBlanks (rest.dropWhile isUnitLetter)).isEmpty then some ⟨whole, fraction, unit⟩
  else none

/-- The number as a double, rounded once from its exact value. -/
def Written.number (w : Written) : Binary64 :=
  Binary64.roundRatio false (Text.digitsValue (w.whole ++ w.fraction)) (tenTo w.fraction.length)

/-- The unit in lower-case letters. -/
def Written.unitName (w : Written) : String := String.ofList (w.unit.map Char.toLower)

/-! ## Reading -/

/-- A ten-thousandth, added before the fraction of a byte is dropped, so that a number whose exact
value is whole is not taken for the whole number below. -/
def roundingGuard : Binary64 := Binary64.roundRatio false 1 10000

/-- So many units of a power of 1024 in bytes. -/
def inBytes (number : Binary64) (power : Nat) : Except Fault Nat :=
  ((number.mul (Binary64.ofNat (twoTo (10 * power)))).add roundingGuard).toInt.map Int.toNat

/-- The bytes that a text denotes. -/
def parse (s : String) : Except Fault Nat :=
  match Written.ofText? s with
  | none => .error (.configuration s!"Fail to parse {Text.quoted s} to bytes")
  | some written =>
    match unitPower? written.unitName with
    | none =>
      let unit := String.ofList written.unit
      .error (.configuration
        s!"Fail to parse {Text.quoted s} to bytes: unknown unit {Text.quoted unit}")
    | some power => inBytes written.number power

/-- The bytes that a value denotes, which has to be a text. -/
def parseValue : Value → Except Fault Nat
  | .text s => parse s
  | other => .error (.configuration s!"Size must be a string, got {other.typeName}")

/-! ## Showing -/

/-- The number of one unit that makes one of the next. -/
def unitStep : Binary64 := Binary64.ofNat 1024

/-- A number below 1024 in the first of the units that allows it, or in the last unit. -/
def formatIn (x : Binary64) (last : String) : List String → String
  | [] => x.fixed 2 ++ " " ++ last
  | unit :: larger =>
    if x.abs.lt unitStep then x.fixed 2 ++ " " ++ unit
    else formatIn (x.div unitStep) last larger

/-- An amount of bytes with two places and its unit. -/
def format (bytes : Scalar) : Except Fault String := do
  let x ← bytes.toReal
  return formatIn x "PB" ["B", "KB", "MB", "GB", "TB"]

end Size
end StoreMeter
