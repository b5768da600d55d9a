import StoreMeter.Size
/-
# Settings — what a run is asked to do

A run has a target path, a number of workers, an amount of data for each and a limit on the time
of a phase.  Everything but the path comes in untyped; `Settings.checked` accepts exactly the
settings of a possible run and returns the bytes for each worker.

Worker `i` works on the object `objectPath i`: the target path with a fixed name and the number of
the worker behind it, without a separator.
-/
namespace StoreMeter

/-- The two directions of a phase. -/
inductive Mode where
  | write
  | read
  deriving DecidableEq, Repr

namespace Mode

/-- The direction in reports. -/
def name : Mode → String
  | write => "write"
  | read => "read"

/-- The direction as a heading. -/
def heading : Mode → String
  | write => "WRITE"
  | read => "READ"

/-- The direction with its family, as messages about a mismatch show it. -/
def qualifiedName (mode : Mode) : String := "IOMode." ++ mode.heading

/-- Both directions, in the order of the phases. -/
def all : List Mode := [write, read]

/-- The direction that a value names. -/
def ofValue : Value → Except Fault Mode
  | .text "write" => .ok write
  | .text "read" => .ok read
  | other => .error (.value s!"{other.literal} is not a valid IOMode")

end Mode

/-! ## Defaults -/

/-- The size of the blocks that a worker writes and reads: one megabyte. -/
def defaultBufferSize : Int := 1048576

/-- The number of workers where none is given. -/
def defaultThreads : Int := 4

/-- The amount of data for each worker where none is given. -/
def defaultSizeText : String := "4G"

/-- The bytes of one part of an object that is stored in parts: eight megabytes. -/
def defaultPartSize : Nat := 8388608

/-- The settings of a run. -/
structure Settings where
  path : String
  threads : Value := .int defaultThreads
  ioSize : Value := .text defaultSizeText
  timeout : Value := .null

namespace Settings

/-- Refuses an empty target path. -/
def checkPath (settings : Settings) : Except Fault Unit :=
  if settings.path.isEmpty then .error (.configuration "Target path must not be empty") else .ok ()

/-- Refuses a number of workers that is no positive integer. -/
def checkThreads (settings : Settings) : Except Fault Unit :=
  match settings.threads with
  | .scalar (.int n) =>
    if n ≤ 0 then .error (.configuration s!"Thread count must be positive, got {n}") else .ok ()
  | other => .error (.configuration s!"Thread count must be an integer, got {other.literal}")

/-- Refuses a limit on the time that is zero or less; no limit at all is accepted, and so is one
that is comparable to nothing. -/
def checkTimeout (settings : Settings) : Except Fault Unit :=
  match settings.timeout with
  | .null => .ok ()
  | .scalar limit =>
    if limit.isNonPositive then .error (.configuration s!"Timeout must be positive, got {limit}")
    else .ok ()
  | other =>
    .error (.wrongType
      s!"'<=' not supported between instances of '{other.typeName}' and 'int'")

/-- The bytes that each worker handles. -/
def sizeInBytes (settings : Settings) : Except Fault Nat := Size.parseValue settings.ioSize

/-- The bytes for each worker, if a run with these settings is possible. -/
def checked (settings : Settings) : Except Fault Nat := do
  settings.checkPath
  settings.checkThreads
  settings.checkTimeout
  settings.sizeInBytes

/-- The number of workers that a phase starts: a negative number counts as none. -/
def workerCount (settings : Settings) : Except Fault Nat :=
  match settings.threads with
  | .scalar (.int n) => .ok n.toNat
  | .scalar (.truth b) => .ok b.toNat
  | other => .error (.wrongType s!"'{other.typeName}' object cannot be interpreted as an integer")

/-- The object of a worker. -/
def objectPath (settings : Settings) (index : Int) : String :=
  settings.path ++ "io-benchmark-" ++ toString index

/-- The objects of all workers, in their order. -/
def objectPaths (settings : Settings) : Except Fault (List String) := do
  let count ← settings.workerCount
  return (List.range count).map fun (index : Nat) => settings.objectPath index

/-- The settings as fields of a report. -/
def fields (settings : Settings) : List (String × Value) :=
  [("path", .text settings.path), ("threads", settings.threads), ("io_size", settings.ioSize),
    ("timeout", settings.timeout)]

end Settings
end StoreMeter
