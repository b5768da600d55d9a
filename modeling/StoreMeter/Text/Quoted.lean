import StoreMeter.Text.Printable
/-
# Text.Quoted — a text between quotes, with everything invisible escaped

The quotes are single, unless the text holds a single quote and no double one.  The backslash, the
quote in use, the line ends and the tab are escaped by a letter; every other character that is not
printable is written as its code in two, four or eight hexadecimal digits.
-/
namespace StoreMeter.Text

/-- A number in lower-case hexadecimal digits, padded with zeros to a width. -/
def hexPadded (width n : Nat) : String :=
  let digits := Nat.toDigits 16 n
  String.ofList (List.replicate (width - digits.length) '0' ++ digits)

/-- A character that is not printable, by its code. -/
def codeEscape (c : Char) : String :=
  if c.toNat < 0x100 then "\\x" ++ hexPadded 2 c.toNat
  else if c.toNat < 0x10000 then "\\u" ++ hexPadded 4 c.toNat
  else "\\U" ++ hexPadded 8 c.toNat

/-- One character of a quoted text. -/
def quotedChar (quote c : Char) : String :=
  if c = quote ∨ c = '\\' then String.ofList ['\\', c]
  else if c = '\n' then "\\n"
  else if c = '\r' then "\\r"
  else if c = '\t' then "\\t"
  else if isPrintable c then String.singleton c
  else codeEscape c

/-- The quote for a text: single, unless only a double one needs no escape. -/
def quoteFor (s : String) : Char :=
  if s.toList.contains '\'' && !s.toList.contains '"' then '"' else '\''

/-- The text between quotes. -/
def quoted (s : String) : String :=
  let quote := quoteFor s
  String.singleton quote ++ String.join (s.toList.map (quotedChar quote)) ++
    String.singleton quote

end StoreMeter.Text
