import Std.Time.Zoned
import StoreMeter.Live.Threads
/-
# Main — the program

The program of the command line with the real outputs, files, clock and threads.  There is no
renderer for pictures here: beside the place of each picture its drawing steps are saved as JSON.
-/
namespace StoreMeter
namespace Live

open Storage.Local (FilePath)

/-- What a call of the program keeps. -/
structure Desk where
  format : IO.Ref (Option Log.Format)
  kind : IO.Ref Cli.StorageKind
  endpoint : IO.Ref (Option String)
  /-- What is left to wait for at the end. -/
  leftover : IO.Ref (BaseIO Unit)

/-- Writes a text to a stream; what cannot be written is dropped. -/
def put (stream : BaseIO IO.FS.Stream) (text : String) : BaseIO Unit := do
  let _ ← ((← stream).putStr text).toBaseIO

/-- The moment of a date and a time. -/
def momentOf (now : Std.Time.PlainDateTime) : Moment :=
  ⟨now.year.toInt.toNat, now.month.toInt.toNat, now.day.toInt.toNat,
    now.hour.toInt.toNat, now.minute.toInt.toNat, now.second.toInt.toNat⟩

/-- The date and the time where the program runs. -/
def moment : BaseIO Moment := do
  match ← (Std.Time.PlainDateTime.now : IO Std.Time.PlainDateTime).toBaseIO with
  | .ok now => return momentOf now
  | .error _ => return ⟨1970, 1, 1, 0, 0, 0⟩

/-- A moment of a time zone without an offset, to the microsecond, as log lines show it. -/
def logTimeOf (m : Moment) (microsecond : Nat) : String :=
  let micros := toString microsecond
  s!"{m.year}-{twoDigits m.month}-{twoDigits m.day}T" ++
    s!"{twoDigits m.hour}:{twoDigits m.minute}:{twoDigits m.second}." ++
    Binary64.zeros (6 - micros.length) ++ micros ++ "Z"

/-- The time of a log line. -/
def logTime : BaseIO String := do
  match ← (Std.Time.Timestamp.now : IO Std.Time.Timestamp).toBaseIO with
  | .ok now =>
    let now := Std.Time.PlainDateTime.ofWallTime (.ofTimestamp now Std.Time.TimeZone.UTC.offset)
    return logTimeOf (momentOf now) (now.nanosecond.toInt.toNat / 1000)
  | .error _ => return ""

namespace Desk

/-- Adds an entry of a thread to the log. -/
def log (desk : Desk) (thread : String) (entry : Log.Entry) : BaseIO Unit := do
  match ← desk.format.get with
  | none => return
  | some format =>
    match format.ownLine? entry thread (← logTime) with
    | some line => put IO.getStderr (line ++ "\n")
    | none => return

/-- Chooses the storage of a path, and tells its name. -/
def openStorage (desk : Desk) (path : Value) (endpoint : Option String) :
    BaseIO (Except Fault String) := do
  match Cli.StorageKind.ofValue path with
  | .error fault => return .error fault
  | .ok kind =>
    desk.kind.set kind
    desk.endpoint.set endpoint
    return .ok kind.name

/-- Makes a whole run on the chosen storage. -/
def run (desk : Desk) (plan : Plan) : BaseIO (Except Fault Tally) := do
  let keys := ["AWS_ACCESS_KEY_ID", "AWS_SECRET_ACCESS_KEY"]
  let environment ← keys.filterMapM fun key => do
    return (← IO.getEnv key).map fun value => (key, value)
  let access := Cli.ServiceAccess.ofEnvironment (← desk.endpoint.get) none none environment
  withBackend (← desk.kind.get) access (desk.log World.mainThread) fun backend => do
    let (result, leftover) ← wholeRun backend desk.log plan
    desk.leftover.set leftover
    return result

/-- The drawing steps of a picture as lines of JSON. -/
def stepLines (steps : List Charts.Step) : String :=
  String.join (steps.map fun step => step.value.json ++ "\n")

/-- Saves the drawing steps of a picture beside its place. -/
def draw (directory : FilePath) (steps : List Charts.Step) : BaseIO Unit := do
  let files := steps.filterMap Charts.Step.savedFile?
  files.forM fun file => do
    let place := (directory.child (file ++ ".steps.json")).text
    let _ ← (IO.FS.writeFile place (stepLines steps)).toBaseIO

/-- The names of the directory that the program runs in. -/
def workDir : BaseIO (List String) := do
  match ← IO.currentDir.toBaseIO with
  | .ok directory => return (FilePath.ofText directory.toString).names
  | .error _ => return []

/-- The answer to a question of the program. -/
def answer (desk : Desk) : (op : Cli.Op) → BaseIO op.Answer
  | .print text => put IO.getStdout text
  | .complain text => put IO.getStderr text
  | .startLog format => desk.format.set (some format)
  | .openStorage path endpoint => desk.openStorage path endpoint
  | .run plan => desk.run plan
  | .now => moment
  | .makeDirectory path => onPath (some path.text) (IO.FS.createDirAll path.text)
  | .save path text => onPath (some path.text) (IO.FS.writeFile path.text text)
  | .draw directory steps => draw directory steps
  | .absolute path => return (path.absolute (← workDir)).text

end Desk

/-- Calls the program. -/
def call (words : List String) : BaseIO UInt32 := do
  let desk : Desk := {
    format := ← IO.mkRef none
    kind := ← IO.mkRef .files
    endpoint := ← IO.mkRef none
    leftover := ← IO.mkRef (pure ()) }
  let logLevel ← IO.getEnv "IOBENCH_LOG_LEVEL"
  let result ← (Cli.call words logLevel).run.runIn desk.answer
  (← desk.leftover.get)
  match result with
  | .ok ending => return ending.code.toUInt32
  | .error fault =>
    put IO.getStderr s!"{fault.name}: {fault.text}\n"
    return 1

end Live
end StoreMeter

/-- The program. -/
def main (words : List String) : IO UInt32 := StoreMeter.Live.call words
