import StoreMeter.Settings
/-
# Outcome — what one worker came to

A worker that did its work leaves a `Measurement`: how many bytes in how many seconds.  A worker
that met a failure leaves messages.  An `Outcome` holds one of the two, or both when the work was
measured and the stream then failed to close; `Outcome.make` refuses an outcome with neither.
-/
namespace StoreMeter

/-- A measurement: a duration in seconds and an amount of data in bytes. -/
structure Measurement where
  mode : Mode
  duration : Scalar
  bytes : Int
  deriving DecidableEq, Repr

namespace Measurement

/-- A measurement, refused if the duration or the amount is negative. -/
def make (mode : Mode) (duration : Scalar) (bytes : Int) : Except Fault Measurement :=
  if duration.isNegative then .error (.value s!"Duration must be non-negative, got {duration}")
  else if bytes < 0 then .error (.value s!"Data size must be non-negative, got {bytes}")
  else .ok ⟨mode, duration, bytes⟩

/-- The bytes of a megabyte. -/
def megabyte : Nat := 1048576

/-- The speed in megabytes a second; a duration of zero gives the speed zero. -/
def throughput (m : Measurement) : Except Fault Binary64 :=
  if m.duration.isNonPositive then .ok (Binary64.zero false)
  else do
    let megabytes ← Binary64.quotientChecked m.bytes megabyte
    Scalar.divide (.real megabytes) m.duration

/-- Equal as reports compare measurements: durations by their value. -/
def eqv (a b : Measurement) : Bool :=
  a.mode == b.mode && a.duration.eqv b.duration && a.bytes == b.bytes

/-- The measurement as fields of a report. -/
def fields (m : Measurement) : List (String × Value) :=
  [("mode", .text m.mode.name), ("duration", .scalar m.duration), ("data_size", .int m.bytes)]

end Measurement

/-- What one worker came to. -/
structure Outcome where
  index : Int
  mode : Mode
  measurement : Option Measurement
  errors : List String
  deriving DecidableEq, Repr

namespace Outcome

/-- An outcome, refused if it has neither a measurement nor an error, or a measurement of the
other direction. -/
def make (index : Int) (mode : Mode) (measurement : Option Measurement) (errors : List String) :
    Except Fault Outcome :=
  match measurement with
  | none =>
    if errors.isEmpty then
      .error (.value s!"Worker {index} outcome has neither a point nor an error")
    else .ok ⟨index, mode, none, errors⟩
  | some m =>
    if m.mode = mode then .ok ⟨index, mode, some m, errors⟩
    else
      let given := m.mode.qualifiedName
      let wanted := mode.qualifiedName
      .error (.value s!"Point mode {given} does not match outcome mode {wanted}")

/-- The outcome of a worker that failed with one message. -/
def failure (index : Int) (mode : Mode) (message : String) : Outcome :=
  ⟨index, mode, none, [message]⟩

/-- Did the worker do its work without an error? -/
def ok (outcome : Outcome) : Bool := outcome.measurement.isSome && outcome.errors.isEmpty

end Outcome
end StoreMeter
