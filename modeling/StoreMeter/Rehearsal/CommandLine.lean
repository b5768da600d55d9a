import StoreMeter.Cli.Program
import StoreMeter.Rehearsal.Steps
/-
# Rehearsal.CommandLine — the program of the command line in a rehearsal

The program runs on a tree of files that starts empty, on a storage that the rehearsal may choose
for it, and at a given date.  What it writes to its two outputs is kept, and its pictures are
counted.
-/
namespace StoreMeter
namespace Rehearsal

open Storage.Local (FilePath Tree)

/-- How clock and pools behave in a rehearsal. -/
structure Script where
  ticks : List Binary64
  hang : List Nat := []
  queued : List Nat := []

/-- A world that follows a script, on a storage. -/
def Script.world (script : Script) (backend : Backend) (store : backend.State) : World backend where
  store := store
  clock := { ticks := script.ticks }
  hang := script.hang
  queued := script.queued

/-- The storage of a run. -/
inductive Target where
  | memory
  | files
  | watched (state : Watched)
  | objectService (partSize : Nat) (client : Client)

/-- The storage for a kind that the program chose itself. -/
def Target.ofKind : Cli.StorageKind → Target
  | .objectService => .objectService defaultPartSize {}
  | .memory => .memory
  | .files => .files

/-- The name of the storage in reports. -/
def Target.name : Target → String
  | memory => Rehearsal.memory.name
  | files => Rehearsal.files.name
  | watched _ => Rehearsal.watched.name
  | objectService partSize _ => (Rehearsal.objectService partSize).name

/-- Makes a whole run of a plan in a world, and returns its result and the world afterwards. -/
def wholeRun {backend : Backend} (world : World backend) (plan : Plan) :
    Except Fault Tally × World backend :=
  let session : Session := { late := world.lates.length }
  let world := { world with lates := world.lates ++ [LateWorkers.nobody] }
  let ((result, _), world) := world.run ((Run.whole plan).run.run session)
  (result, world)

/-- What surrounds a call of the program. -/
structure Desk where
  script : Script
  now : Moment
  tree : Tree
  /-- The storage that the rehearsal chose. -/
  chosen : Option Target := none
  /-- The storage that is open. -/
  target : Option Target := none
  format : Option Log.Format := none
  output : String := ""
  complaints : String := ""
  pictures : Nat := 0

namespace Desk

/-- The time of every log line. -/
def logTime : String := "<ts>"

/-- The thread of every log line. -/
def logThread : String := "MainThread"

/-- The desk with the log entries of a run among the complaints. -/
def showLog (desk : Desk) (journal : Journal) : Desk :=
  match desk.format with
  | none => desk
  | some format =>
    let lines := journal.entries.reverse.filterMap fun entry =>
      format.ownLine? entry logThread logTime
    { desk with complaints := desk.complaints ++ String.join (lines.map (· ++ "\n")) }

/-- Opens the storage that was chosen, or else the one of the path. -/
def openStorage (desk : Desk) (path : Value) : Except Fault String × Desk :=
  let target : Except Fault Target := match desk.chosen with
    | some target => .ok target
    | none => (Cli.StorageKind.ofValue path).map Target.ofKind
  match target with
  | .ok target => (.ok target.name, { desk with target := some target })
  | .error fault => (.error fault, desk)

/-- Makes a whole run on a storage that is kept apart from the files of the desk. -/
def runApart (desk : Desk) (backend : Backend) (store : backend.State) (plan : Plan) :
    Except Fault Tally × Desk :=
  let (result, world) := wholeRun (desk.script.world backend store) plan
  (result, desk.showLog world.journal)

/-- Makes a whole run on the files of the desk. -/
def runOnFiles (desk : Desk) (plan : Plan) : Except Fault Tally × Desk :=
  let (result, world) := wholeRun (desk.script.world Rehearsal.files desk.tree) plan
  (result, { desk with tree := world.store }.showLog world.journal)

/-- Makes a whole run on the storage that is open. -/
def run (desk : Desk) (plan : Plan) : Except Fault Tally × Desk :=
  match desk.target with
  | some .memory => desk.runApart Rehearsal.memory {} plan
  | some (.watched state) => desk.runApart Rehearsal.watched state plan
  | some (.objectService partSize client) =>
    desk.runApart (Rehearsal.objectService partSize) client plan
  | some .files | none => desk.runOnFiles plan

/-- Saves a text among the files of the desk. -/
def save (desk : Desk) (path : FilePath) (text : String) : Except Fault Unit × Desk :=
  match desk.tree.save path text with
  | .ok tree => (.ok (), { desk with tree })
  | .error fault => (.error fault, desk)

/-- The answer to a question of the program. -/
def answer (op : Cli.Op) (desk : Desk) : op.Answer × Desk :=
  match op with
  | .print text => ((), { desk with output := desk.output ++ text })
  | .complain text => ((), { desk with complaints := desk.complaints ++ text })
  | .startLog format => ((), { desk with format := some format })
  | .openStorage path _ => desk.openStorage path
  | .run plan => desk.run plan
  | .now => (desk.now, desk)
  | .makeDirectory path =>
    let (made, tree) := desk.tree.makeDirectories path
    (made, { desk with tree })
  | .save path text => desk.save path text
  | .draw _ steps => ((), { desk with pictures := desk.pictures + Charts.savedCount steps })
  | .absolute path => ((path.absolute desk.tree.workDir).text, desk)

/-- Calls the program at a desk. -/
def call (desk : Desk) (words : List String) (logLevel : Option String) :
    Except Fault Cli.Ending × Desk :=
  (Cli.call words logLevel).run.runWith answer desk

end Desk
end Rehearsal
end StoreMeter
