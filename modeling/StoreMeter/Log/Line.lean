import StoreMeter.Log.Entry
import StoreMeter.Text.Json
/-
# Log.Line — log entries as lines of text

A line has two forms.  As JSON it is an object: the name of the logger, its context, the fields of
the entry, the event, the level and the time; a field with the name of an earlier one takes its
place.  For people it begins with the time, the level and the event in columns, then comes the name
of the logger, and the fields follow in the order of their names; a stack and an exception come
below the line, as they are.
-/
namespace StoreMeter
namespace Log

/-! ## Limits -/

/-- The upper-case form of a letter, as far as it can be an ASCII letter. -/
def upperAscii (c : Char) : Char :=
  if c.toNat = 0x131 then 'I' else if c.toNat = 0x17f then 'S' else c.toUpper

/-- The number of the named limit, in letters of either case. -/
def limit? (name : String) : Option Nat :=
  let upper := String.ofList (name.toList.map upperAscii)
  if upper = "CRITICAL" ∨ upper = "FATAL" then some 50
  else if upper = "ERROR" then some 40
  else if upper = "WARNING" ∨ upper = "WARN" then some 30
  else if upper = "INFO" then some 20
  else if upper = "DEBUG" then some 10
  else if upper = "NOTSET" then some 0
  else none

/-- The number of the limit that a value names, where an unknown name is refused. -/
def limitOf : Value → Except Fault Nat
  | .text name =>
    match limit? name with
    | some number => .ok number
    | none => .error (.value s!"Unknown log level: {name}")
  | other => .error (.missingOperation other.typeName "upper")

/-! ## Fields -/

/-- Sets a field: in the place of the one with its name, or behind the others. -/
def setField (fields : List (String × Value)) (name : String) (value : Value) :
    List (String × Value) :=
  if fields.any fun field => field.1 = name then
    fields.map fun field => if field.1 = name then (name, value) else field
  else fields ++ [(name, value)]

/-- Sets fields one after another. -/
def setFields (fields more : List (String × Value)) : List (String × Value) :=
  more.foldl (fun fields field => setField fields field.1 field.2) fields

/-- What a logger says of itself. -/
structure Logger where
  name : String
  context : List (String × Value)

/-- The names of the fields that ask for a failure or for a stack to be shown; they are no part of the
line themselves. -/
def requestNames : List String := ["exc_info", "stack_info"]

/-- The fields of a line in their order. -/
def lineFields (logger : Logger) (entry : Entry) (time : String) : List (String × Value) :=
  let own := setFields (("logger_name", .text logger.name) :: logger.context) entry.fields
  setFields (own.filter fun field => !requestNames.contains field.1)
    [("event", .text entry.event), ("level", .text entry.level.name), ("timestamp", .text time)]

/-! ## Lines -/

/-- A line as JSON. -/
def jsonLine (logger : Logger) (entry : Entry) (time : String) : String :=
  (Value.record (lineFields logger entry time)).json

/-- A text with blanks behind it, up to a width. -/
def padRight (width : Nat) (s : String) : String :=
  s ++ String.ofList (List.replicate (width - s.length) ' ')

/-- Has a text to stand between quotes, because it holds a blank, a quote or an equals sign? -/
def needsQuotes (s : String) : Bool :=
  s.toList.any fun c => [' ', '\t', '=', '\r', '\n', '"', '\''].contains c

/-- A value in a line for people. -/
def plainValue : Value → String
  | .text s => if needsQuotes s then Text.quoted s else s
  | other => other.literal

/-- The names of the fields that have a place of their own in a line for people. -/
def columnNames : List String :=
  ["timestamp", "level", "event", "logger", "logger_name", "stack", "exception"]

/-- A field in brackets, if there is one. -/
def bracketField (fields : List (String × Value)) (name : String) : String :=
  match fields.lookup name with
  | some value => "[" ++ value.shown ++ "]"
  | none => ""

/-- A text without the blanks at its end. -/
def trimRight (s : String) : String :=
  String.ofList (s.toList.reverse.dropWhile (· = ' ')).reverse

/-- The text of a field that is shown below a line, if there is one; a null is none. -/
def textBelow? (fields : List (String × Value)) (name : String) : Except Fault (Option String) :=
  match fields.lookup name with
  | none | some .null => .ok none
  | some (.text s) => .ok (some s)
  | some other =>
    .error (.wrongType s!"can only concatenate str (not \"{other.typeName}\") to str")

/-- What stands below a line: a stack and an exception, with a rule between the two. -/
def below (fields : List (String × Value)) : Except Fault String := do
  let stack ← textBelow? fields "stack"
  let failure ← textBelow? fields "exception"
  let rule := "\n\n" ++ String.ofList (List.replicate 79 '=') ++ "\n"
  return match stack, failure with
    | none, none => ""
    | some stack, none => "\n" ++ stack
    | none, some failure => "\n" ++ failure
    | some stack, some failure => "\n" ++ stack ++ rule ++ "\n" ++ failure

/-- A line for people. -/
def plainLine (logger : Logger) (entry : Entry) (time : String) : Except Fault String := do
  let fields := lineFields logger entry time
  let others := (fields.filter fun field => !columnNames.contains field.1).mergeSort
    fun a b => !(b.1 < a.1)
  let columns := [
    time,
    "[" ++ padRight 9 entry.level.name ++ "]",
    padRight 30 entry.event,
    bracketField fields "logger",
    bracketField fields "logger_name"]
  let parts := columns ++ others.map fun field => field.1 ++ "=" ++ plainValue field.2
  return trimRight (" ".intercalate (parts.filter fun part => !part.isEmpty)) ++ (← below fields)

/-! ## Logs -/

/-- How a log is written: its form, and the least level that is shown. -/
structure Format where
  json : Bool
  limit : Nat

/-- The line of an entry, if its level is shown. -/
def Format.line? (format : Format) (logger : Logger) (entry : Entry) (time : String) :
    Except Fault (Option String) :=
  if entry.level.number < format.limit then .ok none
  else if format.json then .ok (some (jsonLine logger entry time))
  else (plainLine logger entry time).map some

/-- The parts of the program that keep a log of their own, and the names of their loggers. -/
def loggerNames : List (String × String) :=
  [("worker", "iobench.worker"), ("phase", "iobench.phase"), ("bench", "iobench.bench"),
    ("s3", "iobench.native_s3")]

/-- The logger of a part of the program. -/
def loggerOf (component : String) : Logger :=
  ⟨(loggerNames.lookup component).getD component, [("component", .text component)]⟩

/-- The fields of an entry, with the name of its thread if it gives one. -/
def Entry.onThread (entry : Entry) (thread : String) : Entry :=
  if entry.namesThread then
    { entry with fields := entry.fields ++ [("thread", .text thread)] }
  else entry

/-- The line of an entry of this program, whose fields are all fit for a line. -/
def Format.ownLine? (format : Format) (entry : Entry) (thread time : String) : Option String :=
  match format.line? (loggerOf entry.component) (entry.onThread thread) time with
  | .ok line => line
  | .error _ => none

end Log
end StoreMeter
