import StoreMeter.Binary64.Decimal
import StoreMeter.Text.Blank
/-
# Text.Numeral — numbers as people type them

Whole and decimal numbers with blanks around them, a sign, digits of any script, and single
underscores between digits.  A decimal number may have a point with digits on one side, an
exponent, or be one of the words for infinity and for not a number.
-/
namespace StoreMeter.Text

/-- Numbers of more digits than this are refused where a whole number is read. -/
def greatestDigitCount : Nat := 4300

/-- Reads a run of digits with single underscores between them: the values of the digits and the
rest of the text.  An underscore without a digit after it ends the run. -/
def digitRun : List Char → List Char × List Char
  | c :: '_' :: d :: rest =>
    if isDigit c then
      if isDigit d then
        let (digits, left) := digitRun (d :: rest)
        (c :: digits, left)
      else ([c], '_' :: d :: rest)
    else ([], c :: '_' :: d :: rest)
  | c :: rest =>
    if isDigit c then
      let (digits, left) := digitRun rest
      (c :: digits, left)
    else ([], c :: rest)
  | [] => ([], [])

/-- Is the character a blank around a number?  The four separators of the C0 controls are none. -/
def isOuterBlank (c : Char) : Bool := isBlank c && !(0x1c ≤ c.toNat && c.toNat ≤ 0x1f)

/-- A number without the blanks around it. -/
def bareNumber (s : String) : List Char :=
  ((s.toList.dropWhile isOuterBlank).reverse.dropWhile isOuterBlank).reverse

/-- Splits off a sign: whether it is a minus, and the rest. -/
def splitSign : List Char → Bool × List Char
  | '-' :: rest => (true, rest)
  | '+' :: rest => (false, rest)
  | cs => (false, cs)

/-- The whole number that a text denotes. -/
def integer? (s : String) : Option Int :=
  let (negative, body) := splitSign (bareNumber s)
  let (digits, rest) := digitRun body
  if digits.isEmpty || !rest.isEmpty || greatestDigitCount < digits.length then none
  else some (Binary64.signedMantissa negative (digitsValue digits))

/-- The exponent at the end of a decimal number: zero if there is none, and nothing if the text
goes on in another way. -/
def exponentTail? : List Char → Option Int
  | [] => some 0
  | c :: rest =>
    if c = 'e' ∨ c = 'E' then
      let (negative, body) := splitSign rest
      let (digits, left) := digitRun body
      if digits.isEmpty || !left.isEmpty then none
      else some (Binary64.signedMantissa negative (digitsValue digits))
    else none

/-- The digits before a point, the digits after it, and what follows. -/
def pointedDigits (cs : List Char) : List Char × List Char × List Char :=
  let (whole, rest) := digitRun cs
  match rest with
  | '.' :: more =>
    let (fraction, left) := digitRun more
    (whole, fraction, left)
  | _ => (whole, [], rest)

/-- The double nearest to the decimal number that a text denotes. -/
def decimal? (s : String) : Option Binary64 :=
  let (negative, body) := splitSign (bareNumber s)
  let word := String.ofList (body.map Char.toLower)
  if word = "inf" ∨ word = "infinity" then some (.infinity negative)
  else if word = "nan" then some .nan
  else
    let (whole, fraction, rest) := pointedDigits body
    if whole.isEmpty && fraction.isEmpty then none
    else (exponentTail? rest).map fun exponent =>
      Binary64.ofDecimal negative (digitsValue (whole ++ fraction)) (exponent - fraction.length)

end StoreMeter.Text
