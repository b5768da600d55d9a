import StoreMeter.Scalar
/-
# Value — settings and log fields before their type is known

The settings of a run and the fields of a log line come from outside and may hold anything.  A
`Value` keeps what was given; `literal` shows it with texts between quotes, `text` shows a text
bare, and `typeName` says what it is.
-/
namespace StoreMeter

/-- A value of any type. -/
inductive Value where
  | null
  | scalar (value : Scalar)
  | text (value : String)
  | list (items : List Value)
  | record (fields : List (String × Value))
  deriving Inhabited, Repr

namespace Value

/-- An integer. -/
def int (n : Int) : Value := scalar (.int n)

/-- A natural number. -/
def nat (n : Nat) : Value := scalar (.int n)

/-- A truth value. -/
def truth (b : Bool) : Value := scalar (.truth b)

/-- A double. -/
def real (x : Binary64) : Value := scalar (.real x)

/-- The name of the value's type. -/
def typeName : Value → String
  | null => "NoneType"
  | scalar (.truth _) => "bool"
  | scalar (.int _) => "int"
  | scalar (.real _) => "float"
  | text _ => "str"
  | list _ => "list"
  | record _ => "dict"

mutual

/-- The value with every text in it between quotes. -/
def literal : Value → String
  | null => "None"
  | scalar s => s.text
  | text s => Text.quoted s
  | list items => "[" ++ ", ".intercalate (literals items) ++ "]"
  | record fields => "\x7b" ++ ", ".intercalate (fieldLiterals fields) ++ "\x7d"

/-- The items of a list, each as a literal. -/
def literals : List Value → List String
  | [] => []
  | item :: rest => literal item :: literals rest

/-- The fields of a record, each as a key and a literal. -/
def fieldLiterals : List (String × Value) → List String
  | [] => []
  | (key, item) :: rest => (Text.quoted key ++ ": " ++ literal item) :: fieldLiterals rest

end

/-- The value as text: a text as it is, anything else as a literal. -/
def shown : Value → String
  | text s => s
  | other => other.literal

/-- Does the value count as given?  Nothing, zero and the empty containers do not. -/
def isGiven : Value → Bool
  | null => false
  | scalar s => !(s.eqv (.int 0))
  | text s => !s.isEmpty
  | list items => !items.isEmpty
  | record fields => !fields.isEmpty

/-- The value of a key in a record. -/
def field? (v : Value) (key : String) : Option Value :=
  match v with
  | record fields => (fields.find? fun entry => entry.1 == key).map (·.2)
  | _ => none

end Value
end StoreMeter
