import StoreMeter.Outcome
/-
# Tally — the measurements and errors of one or more phases

A tally keeps the measurements and the errors of its workers, each list in the order in which they
came.  `Tally.ofOutcomes` collects a phase, `merge` puts one tally behind another, and `forMode`
keeps one direction.
-/
namespace StoreMeter

/-- A message about a failure, with the direction in which it happened. -/
structure WorkerError where
  mode : Mode
  message : String
  deriving DecidableEq, Repr

/-- The error as fields of a report. -/
def WorkerError.fields (e : WorkerError) : List (String × Value) :=
  [("mode", .text e.mode.name), ("message", .text e.message)]

/-- The measurements and errors of one or more phases. -/
structure Tally where
  points : List Measurement
  errors : List WorkerError
  deriving DecidableEq, Repr

namespace Tally

/-- The tally of no workers. -/
def empty : Tally := ⟨[], []⟩

/-- The tally with a measurement behind the others. -/
def addPoint (t : Tally) (m : Measurement) : Tally := { t with points := t.points ++ [m] }

/-- The tally with an error behind the others. -/
def addError (t : Tally) (mode : Mode) (message : String) : Tally :=
  { t with errors := t.errors ++ [⟨mode, message⟩] }

/-- Two tallies, one behind the other. -/
def merge (a b : Tally) : Tally := ⟨a.points ++ b.points, a.errors ++ b.errors⟩

@[simp]
theorem empty_merge (t : Tally) : empty.merge t = t := rfl

@[simp]
theorem merge_empty (t : Tally) : t.merge empty = t := by simp [merge, empty]

theorem merge_assoc (a b c : Tally) : (a.merge b).merge c = a.merge (b.merge c) := by
  simp [merge]

/-- Any number of tallies, one behind the other. -/
def mergeAll (ts : List Tally) : Tally := ts.foldl merge empty

/-- The measurements and errors of one direction. -/
def forMode (t : Tally) (mode : Mode) : Tally :=
  ⟨t.points.filter fun m => m.mode = mode, t.errors.filter fun e => e.mode = mode⟩

/-- The messages of one direction, or of both. -/
def messages (t : Tally) : Option Mode → List String
  | none => t.errors.map (·.message)
  | some mode => (t.errors.filter fun e => e.mode = mode).map (·.message)

/-- The tally of one worker. -/
def ofOutcome (o : Outcome) : Tally :=
  ⟨o.measurement.toList, o.errors.map fun message => ⟨o.mode, message⟩⟩

/-- The tally of the workers of a phase. -/
def ofOutcomes (os : List Outcome) : Tally := mergeAll (os.map ofOutcome)

/-- The speeds of all measurements. -/
def throughputs (t : Tally) : Except Fault (List Binary64) := t.points.mapM (·.throughput)

/-- The tally as fields of a report. -/
def fields (t : Tally) : List (String × Value) :=
  [("points", .list (t.points.map fun m => .record m.fields)),
    ("errors", .list (t.errors.map fun e => .record e.fields))]

end Tally
end StoreMeter
