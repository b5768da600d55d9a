import StoreMeter.Storage.Local.Tree
import StoreMeter.Summary
import StoreMeter.Text.Json
/-
# Report — the results of a run for people and for programs

A report has two forms: a text with a block for each direction, and the raw data as JSON.  Both are
saved under a name with the time of the report.
-/
namespace StoreMeter

/-- A date and a time of day. -/
structure Moment where
  year : Nat
  month : Nat
  day : Nat
  hour : Nat
  minute : Nat
  second : Nat

/-- A number with at least two digits. -/
def twoDigits (n : Nat) : String := Binary64.zeros (2 - (toString n).length) ++ toString n

/-- The moment as it stands in names of files: the date, an underscore and the time. -/
def Moment.stamp (m : Moment) : String :=
  toString m.year ++ twoDigits m.month ++ twoDigits m.day ++ "_" ++
    twoDigits m.hour ++ twoDigits m.minute ++ twoDigits m.second

/-- The results of a run with the place and the time where they come from. -/
structure Report where
  settings : Settings
  tally : Tally
  storageType : String
  summary : Summary
  stamp : String

namespace Report

/-- The report on a tally. -/
def make (settings : Settings) (tally : Tally) (storageType : String) (now : Moment) :
    Except Fault Report := do
  let summary ← Summary.ofTally tally settings
  return { settings, tally, storageType, summary, stamp := now.stamp }

/-! ## The text -/

/-- A line across the page. -/
def rule : String := String.ofList (List.replicate 80 '=')

/-- A text with blanks in front, up to a width. -/
def padLeft (width : Nat) (s : String) : String :=
  String.ofList (List.replicate (width - s.length) ' ') ++ s

/-- A speed in a column of ten characters. -/
def speedColumn (x : Binary64) : String := padLeft 10 (x.fixed 2) ++ " MB/s"

/-- The lines about one direction. -/
def phaseLines (report : Report) (mode : Mode) : Except Fault (List String) := do
  let part := report.summary.part mode
  let speed := part.speed
  let data ← Size.format (.int speed.totalBytes)
  return [
    "\n" ++ rule,
    "PHASE: " ++ mode.heading,
    rule,
    "    Workers OK:       " ++ padLeft 10 (toString speed.points) ++ " / " ++
      report.settings.threads.shown,
    "    Data:             " ++ padLeft 13 data,
    "    Throughput (avg): " ++ speedColumn speed.avgSpeed,
    "    Throughput (min): " ++ speedColumn speed.minSpeed,
    "    Throughput (max): " ++ speedColumn speed.maxSpeed,
    "    Std deviation:    " ++ speedColumn speed.stdDev,
    "    Cluster (avg):    " ++ speedColumn speed.clusterSpeed,
    "    Saturation:       " ++ speedColumn speed.saturation,
    "    Total time:       " ++ padLeft 10 (speed.totalDuration.fixed 2) ++ " sec",
    "    Errors:           " ++ padLeft 10 (toString part.errors.length)] ++
    part.errors.map fun message => "      - " ++ message

/-- The report as text. -/
def text (report : Report) : Except Fault String := do
  let phases ← Mode.all.mapM report.phaseLines
  let heading := [
    rule,
    "STORAGE IO BENCHMARK REPORT",
    rule,
    "Timestamp:   " ++ report.stamp,
    "Storage:     " ++ report.storageType,
    "Path:        " ++ report.settings.path,
    "Threads:     " ++ report.settings.threads.shown,
    "IO size:     " ++ report.settings.ioSize.shown ++ " per thread"]
  return "\n".intercalate (heading ++ phases.flatten ++ ["\n" ++ rule])

/-! ## The raw data -/

/-- Everything in the report, as JSON. -/
def rawText (report : Report) : String :=
  (Value.record [
    ("timestamp", .text report.stamp),
    ("storage_type", .text report.storageType),
    ("parameters", .record report.settings.fields),
    ("result", .record report.tally.fields),
    ("summary", .record report.summary.fields)]).jsonIndented

/-! ## Files -/

open Storage.Local (FilePath Tree)

/-- The file of the text in a directory. -/
def textFile (report : Report) (directory : FilePath) : FilePath :=
  directory.child s!"iobench_report_{report.stamp}.txt"

/-- The file of the raw data in a directory. -/
def rawFile (report : Report) (directory : FilePath) : FilePath :=
  directory.child s!"iobench_raw_{report.stamp}.json"

/-- Saves a text under a path in a directory, which is made if it is not there. -/
def saveIn (tree : Tree) (directory file : FilePath) (text : String) : Except Fault Tree := do
  let (made, tree) := tree.makeDirectories directory
  made
  tree.save file text

/-- Saves the text in a directory. -/
def saveText (report : Report) (tree : Tree) (directory : FilePath) : Except Fault Tree := do
  saveIn tree directory (report.textFile directory) (← report.text)

/-- Saves the raw data in a directory. -/
def saveRaw (report : Report) (tree : Tree) (directory : FilePath) : Except Fault Tree :=
  saveIn tree directory (report.rawFile directory) report.rawText

end Report
end StoreMeter
