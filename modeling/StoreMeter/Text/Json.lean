import StoreMeter.Value
import StoreMeter.Text.Quoted
/-
# Text.Json — values as JSON text

Two layouts.  `Value.json` is one line of ASCII: every other character is escaped by its UTF-16
units.  `Value.jsonIndented` has one item on a line, two spaces for each level, and leaves every
printable character as it is.  Infinities and not a number are written as words.
-/
namespace StoreMeter

namespace Text

/-- A code unit as an escape of four hexadecimal digits. -/
def unitEscape (unit : Nat) : String := "\\u" ++ hexPadded 4 unit

/-- The escapes of the UTF-16 units of a character. -/
def utf16Escapes (c : Char) : String :=
  if c.toNat < 0x10000 then unitEscape c.toNat
  else
    let offset := c.toNat - 0x10000
    unitEscape (0xd800 + offset / 0x400) ++ unitEscape (0xdc00 + offset % 0x400)

/-- The escapes that JSON has letters for. -/
def jsonLetterEscape? (c : Char) : Option String :=
  if c = '"' then some "\\\""
  else if c = '\\' then some "\\\\"
  else if c = '\n' then some "\\n"
  else if c = '\r' then some "\\r"
  else if c = '\t' then some "\\t"
  else if c.toNat = 8 then some "\\b"
  else if c.toNat = 12 then some "\\f"
  else none

/-- One character of a JSON string; with `ascii` only the visible ASCII characters stay. -/
def jsonChar (ascii : Bool) (c : Char) : String :=
  match jsonLetterEscape? c with
  | some escape => escape
  | none =>
    if c.toNat < 0x20 ∨ (ascii ∧ 0x7f ≤ c.toNat) then utf16Escapes c else String.singleton c

/-- A JSON string. -/
def jsonString (ascii : Bool) (s : String) : String :=
  "\"" ++ String.join (s.toList.map (jsonChar ascii)) ++ "\""

end Text

/-- A double as JSON: its shortest text, or a word. -/
def Binary64.json : Binary64 → String
  | .nan => "NaN"
  | .infinity negative => if negative then "-Infinity" else "Infinity"
  | x => x.text

/-- A number as JSON. -/
def Scalar.json : Scalar → String
  | .truth b => if b then "true" else "false"
  | .int n => toString n
  | .real x => x.json

namespace Value

mutual

/-- The value as one line of ASCII JSON. -/
def json : Value → String
  | null => "null"
  | scalar s => s.json
  | text s => Text.jsonString true s
  | list items => "[" ++ ", ".intercalate (jsonItems items) ++ "]"
  | record fields => "\x7b" ++ ", ".intercalate (jsonFields fields) ++ "\x7d"

/-- The items of a list as JSON. -/
def jsonItems : List Value → List String
  | [] => []
  | item :: rest => json item :: jsonItems rest

/-- The fields of a record as JSON. -/
def jsonFields : List (String × Value) → List String
  | [] => []
  | (key, item) :: rest => (Text.jsonString true key ++ ": " ++ json item) :: jsonFields rest

end

/-- The start of a line at a level. -/
def indentation (level : Nat) : String := "\n" ++ String.ofList (List.replicate (2 * level) ' ')

/-- Items between brackets, one on a line; no items leave the brackets together. -/
def bracketed (opening closing : String) (level : Nat) (items : List String) : String :=
  if items.isEmpty then opening ++ closing
  else opening ++ indentation (level + 1) ++
    ("," ++ indentation (level + 1)).intercalate items ++ indentation level ++ closing

mutual

/-- The value as JSON with one item on a line, at a level. -/
def jsonAt (level : Nat) : Value → String
  | null => "null"
  | scalar s => s.json
  | text s => Text.jsonString false s
  | list items => bracketed "[" "]" level (jsonItemsAt (level + 1) items)
  | record fields => bracketed "\x7b" "\x7d" level (jsonFieldsAt (level + 1) fields)

/-- The items of a list as JSON, at a level. -/
def jsonItemsAt (level : Nat) : List Value → List String
  | [] => []
  | item :: rest => jsonAt level item :: jsonItemsAt level rest

/-- The fields of a record as JSON, at a level. -/
def jsonFieldsAt (level : Nat) : List (String × Value) → List String
  | [] => []
  | (key, item) :: rest =>
    (Text.jsonString false key ++ ": " ++ jsonAt level item) :: jsonFieldsAt level rest

end

/-- The value as JSON with one item on a line. -/
def jsonIndented (v : Value) : String := jsonAt 0 v

end Value
end StoreMeter
