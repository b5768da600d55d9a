import StoreMeter.Value
/-
# Log.Entry — what a program tells about its work

An entry has a level, the part of the program that it comes from, an event in words and fields.
-/
namespace StoreMeter
namespace Log

/-- How grave an entry is. -/
inductive Level where
  | debug
  | info
  | warning
  | error
  | critical
  deriving DecidableEq, Repr

/-- The level in log lines. -/
def Level.name : Level → String
  | debug => "debug"
  | info => "info"
  | warning => "warning"
  | error => "error"
  | critical => "critical"

/-- The number of a level: an entry is shown if its number reaches the limit. -/
def Level.number : Level → Nat
  | debug => 10
  | info => 20
  | warning => 30
  | error => 40
  | critical => 50

/-- One entry of a log. -/
structure Entry where
  level : Level
  component : String
  event : String
  fields : List (String × Value)
  /-- Does the entry name the thread that it comes from? -/
  namesThread : Bool := false

end Log
end StoreMeter
