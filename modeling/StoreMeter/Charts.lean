import StoreMeter.Report
import StoreMeter.Sorting
/-
# Charts — pictures of a run

Two pictures: the average, least, greatest and saturated speed of both directions side by side, and
the speeds of the single workers in each direction, the fastest first.  A picture is the list of the
drawing steps that make it.
-/
namespace StoreMeter
namespace Charts

/-- One step of drawing. -/
inductive Step where
  /-- A step on the whole picture. -/
  | picture (operation : String) (arguments : List Value)
  /-- Bars at places on an axis, with their heights, their width, a label and a colour. -/
  | bars (axis : Nat) (places heights : List Value) (width : Value) (label : Option String)
      (colour : String)
  /-- Another step on an axis. -/
  | onAxis (axis : Nat) (operation : String) (arguments : List Value)

/-- The step as a list: what it works on, its name and its arguments. -/
def Step.value : Step → Value
  | .picture operation arguments => .list (.text "plt" :: .text operation :: arguments)
  | .bars axis places heights width label colour =>
    let label := match label with
      | some label => Value.text label
      | none => .null
    .list [.text s!"ax{axis}", .text "bar", .list places, .list heights, width, label, .text colour]
  | .onAxis axis operation arguments =>
    .list (.text s!"ax{axis}" :: .text operation :: arguments)

/-- The file that the step saves the picture in, if it saves it. -/
def Step.savedFile? : Step → Option String
  | .picture "savefig" [.text file] => some file
  | _ => none

/-- The colour of a direction. -/
def colour : Mode → String
  | .write => "#e74c3c"
  | .read => "#3498db"

/-- The title of the vertical axes. -/
def speedTitle : String := "Throughput (MB/s)"

/-! ## Speeds of the phases -/

/-- What the bars of the first picture show. -/
def metrics : List String := ["Average", "Min", "Max", "Saturation"]

/-- The width of a bar of the first picture. -/
def barWidth : Binary64 := Binary64.ofDecimal false 35 (-2)

/-- Half of a number. -/
def half (x : Binary64) : Binary64 := x.div (Binary64.ofNat 2)

/-- How far the bars of a direction stand from the middle of their place: half a bar to the left or
to the right. -/
def offset (mode : Mode) : Binary64 :=
  let places := match mode with
    | .write => Binary64.ofDecimal true 5 (-1)
    | .read => Binary64.ofDecimal false 5 (-1)
  barWidth.mul places

/-- The label above a bar, which only a bar of some height has. -/
def barLabel (place height : Binary64) : List Step :=
  if (Binary64.zero false).lt height then
    let left := place.sub (half barWidth)
    [.onAxis 0 "text" [.real (left.add (half barWidth)), .real height, .text (height.fixed 1)]]
  else []

/-- The bars of one direction with their labels. -/
def phaseBars (summary : Summary) (mode : Mode) : List Step :=
  let speed := (summary.part mode).speed
  let places := (List.range metrics.length).map fun i => (Binary64.ofNat i).add (offset mode)
  let heights := [speed.avgSpeed, speed.minSpeed, speed.maxSpeed, speed.saturation]
  .bars 0 (places.map Value.real) (heights.map Value.real) (.real barWidth) (some mode.name)
      (colour mode) ::
    (List.zipWith barLabel places heights).flatten

/-- The picture of the speeds of both directions. -/
def phasePicture (summary : Summary) (file : String) : List Step :=
  [.picture "subplots" [.int 1, .int 1]] ++ Mode.all.flatMap (phaseBars summary) ++
    [.onAxis 0 "set_xlabel" [.text "Metric"],
      .onAxis 0 "set_ylabel" [.text speedTitle],
      .onAxis 0 "set_title"
        [.text s!"Read/Write Throughput ({summary.settings.threads.shown} threads)"],
      .onAxis 0 "set_xticks" [.list ((List.range metrics.length).map Value.nat)],
      .onAxis 0 "set_xticklabels" [.list (metrics.map Value.text)],
      .onAxis 0 "legend" [],
      .onAxis 0 "grid" [],
      .picture "savefig" [.text file],
      .picture "close" []]

/-! ## Speeds of the workers -/

/-- The bars of the workers of one direction with their mean, or a note that there are none. -/
def workerBars (axis : Nat) (mode : Mode) (speeds : List Binary64) : List Step :=
  if speeds.isEmpty then
    let middle := Value.real (Binary64.ofDecimal false 5 (-1))
    [.onAxis axis "text" [middle, middle, .text "no successful workers"]]
  else
    let mean := Speed.mean speeds
    [.bars axis ((List.range speeds.length).map Value.nat) (speeds.map Value.real)
        (.real (Binary64.ofDecimal false 8 (-1))) none (colour mode),
      .onAxis axis "axhline" [.real mean, .text s!"mean {mean.fixed 1}"],
      .onAxis axis "legend" []]

/-- One direction of the picture of the workers. -/
def workerAxis (tally : Tally) (axis : Nat) (mode : Mode) : Except Fault (List Step) := do
  let speeds ← (tally.forMode mode).throughputs
  return workerBars axis mode (Sorting.sortDescending Binary64.lt speeds) ++
    [.onAxis axis "set_title" [.text mode.heading],
      .onAxis axis "set_xlabel" [.text "Worker (sorted)"],
      .onAxis axis "grid" []]

/-- The picture of the speeds of the workers. -/
def workerPicture (tally : Tally) (file : String) : Except Fault (List Step) := do
  let written ← workerAxis tally 0 .write
  let readBack ← workerAxis tally 1 .read
  return [.picture "subplots" [.int 1, .int 2]] ++ written ++ readBack ++
    [.onAxis 0 "set_ylabel" [.text speedTitle],
      .picture "savefig" [.text file],
      .picture "close" []]

/-! ## All pictures -/

/-- The file of the picture of the phases. -/
def phaseFile : String := "01_throughput_summary.png"

/-- The file of the picture of the workers. -/
def workerFile : String := "02_worker_throughput.png"

/-- The files of the pictures. -/
def fileNames : List String := [phaseFile, workerFile]

/-- The steps that draw all pictures. -/
def drawing (summary : Summary) (tally : Tally) : Except Fault (List Step) := do
  let workers ← workerPicture tally workerFile
  return phasePicture summary phaseFile ++ workers

/-- The number of pictures that steps save. -/
def savedCount (steps : List Step) : Nat := steps.countP (·.savedFile?.isSome)

end Charts
end StoreMeter
