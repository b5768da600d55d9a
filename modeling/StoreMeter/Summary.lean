import StoreMeter.Speed.Profile
/-
# Summary — what a run came to

For each direction a summary holds the speed over all workers, the messages of the workers that
failed, and the share of the workers that left a measurement.
-/
namespace StoreMeter

/-- What one direction of a run came to. -/
structure PhaseSummary where
  speed : Speed
  errors : List String
  successRate : Binary64

/-- What a run came to. -/
structure Summary where
  settings : Settings
  write : PhaseSummary
  read : PhaseSummary

namespace Summary

/-- The share of the workers that a number of measurements makes up. -/
def successRate (points : Nat) (threads : Value) : Except Fault Binary64 :=
  match threads with
  | .scalar workers => Scalar.divide (.int points) workers
  | other =>
    .error (.wrongType s!"unsupported operand type(s) for /: 'int' and '{other.typeName}'")

/-- What one direction of a tally came to. -/
def ofMode (tally : Tally) (settings : Settings) (mode : Mode) : Except Fault PhaseSummary := do
  let part := tally.forMode mode
  let speed ← Speed.ofMeasurements part.points
  let successRate ← successRate part.points.length settings.threads
  return { speed, errors := part.messages none, successRate }

/-- The summary of a tally. -/
def ofTally (tally : Tally) (settings : Settings) : Except Fault Summary := do
  let write ← ofMode tally settings .write
  let read ← ofMode tally settings .read
  return { settings, write, read }

/-- The part of one direction. -/
def part (summary : Summary) : Mode → PhaseSummary
  | .write => summary.write
  | .read => summary.read

/-- The number of all messages. -/
def errorCount (summary : Summary) : Nat :=
  summary.write.errors.length + summary.read.errors.length

/-- One value for each direction. -/
def byMode (value : Mode → Value) : Value :=
  .record (Mode.all.map fun mode => (mode.name, value mode))

/-- The summary as fields of a report. -/
def fields (summary : Summary) : List (String × Value) :=
  [("parameters", .record summary.settings.fields),
    ("write", .record summary.write.speed.fields),
    ("read", .record summary.read.speed.fields),
    ("errors", byMode fun mode => .list ((summary.part mode).errors.map Value.text)),
    ("success_rate", byMode fun mode => .real (summary.part mode).successRate)]

end Summary
end StoreMeter
