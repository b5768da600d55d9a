import StoreMeter.Charts
import StoreMeter.Cli.Options
import StoreMeter.Log.Line
import StoreMeter.Run
/-
# Cli.Program — a run from the command line

The command line is read, the log is set up, the storage is chosen by the scheme of the target
path, and a whole run is made on it.  Then the raw data, the text and the pictures are saved.  The
program ends with a status: zero after a run; one if the target cannot be used; two if a setting is
wrong; three after a run with failed workers, where that was asked for.
-/
namespace StoreMeter
namespace Cli

open Storage.Local (FilePath)

/-! ## The storage -/

/-- The kinds of storage. -/
inductive StorageKind where
  | objectService
  | memory
  | files
  deriving DecidableEq, Repr

/-- The text in front of the first separator of a scheme, if there is one. -/
def schemeOf : List Char → Option (List Char)
  | ':' :: '/' :: '/' :: _ => some []
  | c :: rest => (schemeOf rest).map (c :: ·)
  | [] => none

/-- The kind of storage for a path, by its scheme; a path without a scheme is a path of files. -/
def StorageKind.ofPath (path : String) : Except Fault StorageKind :=
  match (schemeOf path.toList).map String.ofList with
  | none => .ok .files
  | some "s3" => .ok .objectService
  | some "memory" => .ok .memory
  | some "file" => .ok .files
  | some scheme => .error (.configuration s!"Unknown storage scheme: {scheme}")

/-- The kind of storage for a value: only in a text can a scheme be looked for. -/
def StorageKind.ofValue : Value → Except Fault StorageKind
  | .text path => ofPath path
  | other => .error (.missingOperation other.typeName "startswith")

/-- The name of a kind of storage in reports. -/
def StorageKind.name : StorageKind → String
  | objectService => "native_s3"
  | memory => "memory"
  | files => "local"

/-- How an object service is reached. -/
structure ServiceAccess where
  endpoint : Option String
  accessKey : Option String
  secretKey : Option String

/-- A given text, or else the one from the environment; an empty text counts as none. -/
def orFromEnvironment (given fallback : Option String) : Option String :=
  match given with
  | some text => if text.isEmpty then fallback else some text
  | none => fallback

/-- How an object service is reached, where the keys that are not given come from the
environment. -/
def ServiceAccess.ofEnvironment (endpoint accessKey secretKey : Option String)
    (environment : List (String × String)) : ServiceAccess where
  endpoint := endpoint
  accessKey := orFromEnvironment accessKey (environment.lookup "AWS_ACCESS_KEY_ID")
  secretKey := orFromEnvironment secretKey (environment.lookup "AWS_SECRET_ACCESS_KEY")

/-! ## What the program asks -/

/-- What the program asks its surroundings. -/
inductive Op where
  /-- Writes to the output. -/
  | print (text : String)
  /-- Writes to the output for errors. -/
  | complain (text : String)
  /-- Sets the log up. -/
  | startLog (format : Log.Format)
  /-- Opens the storage of a path, and tells its name. -/
  | openStorage (path : Value) (endpoint : Option String)
  /-- Makes a whole run on the storage. -/
  | run (plan : Plan)
  /-- The date and the time. -/
  | now
  | makeDirectory (path : FilePath)
  | save (path : FilePath) (text : String)
  /-- Draws a picture into a directory. -/
  | draw (directory : FilePath) (steps : List Charts.Step)
  /-- The path from the root on. -/
  | absolute (path : FilePath)

/-- What each question answers. -/
def Op.Answer : Op → Type
  | print _ => Unit
  | complain _ => Unit
  | startLog _ => Unit
  | openStorage _ _ => Except Fault String
  | run _ => Except Fault Tally
  | now => Moment
  | makeDirectory _ => Except Fault Unit
  | save _ _ => Except Fault Unit
  | draw _ _ => Unit
  | absolute _ => String

/-- The questions of the program. -/
def effects : Effects := ⟨Op, Op.Answer⟩

/-- A program of the command line that may fail. -/
abbrev Program (α : Type) := ExceptT Fault (Prog effects) α

/-- One question that cannot fail. -/
def ask (op : Op) : Program op.Answer := ExceptT.lift (.perform (E := effects) op)

/-- Writes a line to the output. -/
def printLine (text : String) : Program Unit := ask (.print (text ++ "\n"))

/-- Writes a line to the output for errors. -/
def complainLine (text : String) : Program Unit := ask (.complain (text ++ "\n"))

/-- The result of a question that may fail. -/
def orFail {α : Type} (reply : Except Fault α) : Program α := ExceptT.mk (pure reply)

/-! ## Exit status -/

/-- How a program ends. -/
inductive Status where
  | ok
  | setupError
  | settingsError
  | workerErrors
  deriving DecidableEq, Repr

/-- The number of a status. -/
def Status.code : Status → Nat
  | ok => 0
  | setupError => 1
  | settingsError => 2
  | workerErrors => 3

/-! ## A run -/

/-- The endpoint, if it is a text. -/
def Options.endpointText (options : Options) : Option String := options.endpoint.bind (·.value?)

/-- The settings of the run that the options ask for. -/
def Options.settings (options : Options) : Settings where
  path := options.path.value?.getD ""
  threads := options.threads.toValue .int
  ioSize := options.ioSize.toValue .text
  timeout := match options.timeout with
    | some limit => limit.toValue .real
    | none => .null

/-- The lines that tell what is about to be run. -/
def banner (options : Options) : List String :=
  let endpoint := options.endpointText.getD ""
  [Report.rule,
    "STORAGE IO BENCHMARK",
    Report.rule,
    "Path:         " ++ (options.path.toValue .text).shown,
    "Endpoint:     " ++ if endpoint.isEmpty then "default" else endpoint,
    "Threads:      " ++ options.settings.threads.shown,
    "IO size:      " ++ options.settings.ioSize.shown ++ " per thread",
    "Output:       " ++ (options.outputDir.toValue .text).shown,
    Report.rule,
    ""]

/-- Opens the storage and makes a whole run on it; the result has the name of the storage. -/
def runOn (options : Options) : Prog effects (Except Fault (String × Tally)) := do
  let path := options.path.toValue .text
  let opened ← Prog.perform (E := effects) (.openStorage path options.endpointText)
  match opened with
  | .error fault => pure (.error fault)
  | .ok storageName =>
    let result ← Prog.perform (E := effects) (.run { storageName, settings := options.settings })
    pure (result.map fun tally => (storageName, tally))

/-- Saves a text in a directory, which is made if it is not there. -/
def saveIn (directory file : FilePath) (text : String) : Program Unit := do
  orFail (← ask (.makeDirectory directory))
  orFail (← ask (.save file text))

/-- Saves the raw data and the text of a report and shows the text. -/
def publish (report : Report) (directory : FilePath) : Program Unit := do
  let rawFile := report.rawFile directory
  saveIn directory rawFile report.rawText
  printLine s!"✅ Raw data saved: {rawFile.text}"
  let text ← orFail report.text
  saveIn directory (report.textFile directory) text
  printLine ("\n" ++ text)

/-- Draws the pictures of a report. -/
def drawAll (report : Report) (directory : FilePath) : Program Unit := do
  printLine "\n📊 Generating plots..."
  orFail (← ask (.makeDirectory directory))
  ask (.draw directory (Charts.phasePicture report.summary Charts.phaseFile))
  ask (.draw directory (← orFail (Charts.workerPicture report.tally Charts.workerFile)))
  Charts.fileNames.forM fun file => printLine s!"  ✓ {file}"

/-- The directory for the files of a run. -/
def Options.directory (options : Options) : Except Fault FilePath :=
  match options.outputDir with
  | .value text => .ok (FilePath.ofText text)
  | .blank => .error (.wrongType "expected str, bytes or os.PathLike object, not list")

/-- Saves and shows what a run came to. -/
def conclude (options : Options) (storageName : String) (tally : Tally) : Program Status := do
  let now ← ask .now
  let report ← orFail (Report.make options.settings tally storageName now)
  let directory ← orFail options.directory
  publish report directory
  if !options.noPlots then drawAll report directory
  let place : String ← ask (.absolute directory)
  printLine s!"\nResults saved to: {place}"
  if tally.errors.isEmpty then return .ok
  else
    printLine s!"⚠️  {tally.errors.length} worker error(s), see report above"
    return if options.failOnErrors then .workerErrors else .ok

/-- Makes the run that the options ask for. -/
def execute (options : Options) : Program Status := do
  match Log.limitOf (options.logLevel.toValue .text) with
  | .error fault =>
    if fault.isValue then
      complainLine s!"❌ {fault.text}"
      return .settingsError
    else throw fault
  | .ok limit =>
    ask (.startLog { json := options.logJson, limit })
    (banner options).forM printLine
    match ← ExceptT.lift (runOn options) with
    | .ok (storageName, tally) => conclude options storageName tally
    | .error fault =>
      if fault.isConfiguration then
        complainLine s!"❌ Invalid parameters: {fault.text}"
        return .settingsError
      else if fault.isSetup then
        complainLine s!"❌ Benchmark setup failed: {fault.text}"
        return .setupError
      else throw fault

/-- How a call of the program ends: with the status of a run, or before there was one. -/
inductive Ending where
  | ran (status : Status)
  | showedHelp
  | refusedUsage

/-- The code of an ending for whoever called the program. -/
def Ending.code : Ending → Nat
  | ran status => status.code
  | showedHelp => 0
  | refusedUsage => 2

/-- A call of the program. -/
def call (words : List String) (logLevel : Option String) : Program Ending := do
  match parse words logLevel with
  | .error fault =>
    ask (.complain (usageError fault))
    return .refusedUsage
  | .ok .help =>
    ask (.print helpText)
    return .showedHelp
  | .ok (.options options) => return .ran (← execute options)

end Cli
end StoreMeter
