import StoreMeter.Text.Numeral
import StoreMeter.Value
/-
# Cli.Options — the options of the command line

Options have long names, of which any beginning that fits one name only will do, and a value in the
next word or behind an equals sign.  All words are looked at before any of them is used, so an
ambiguous name is refused wherever it stands; after that the words are used from left to right.

Two dashes are never a value.  Behind an equals sign they leave the option set, but blank, and what
a run makes of a blank option shows only when the option is used.
-/
namespace StoreMeter
namespace Cli

/-- What an option is set to. -/
inductive Setting (α : Type) where
  | value (a : α)
  /-- Set, but to nothing. -/
  | blank

namespace Setting

variable {α : Type}

/-- The value, if there is one. -/
def value? : Setting α → Option α
  | value a => some a
  | blank => none

/-- The setting as a value of any type: a blank one is an empty list. -/
def toValue (form : α → Value) : Setting α → Value
  | value a => form a
  | blank => .list []

end Setting

/-- The options of a run from the command line. -/
structure Options where
  path : Setting String
  threads : Setting Int
  ioSize : Setting String
  timeout : Option (Setting Binary64)
  endpoint : Option (Setting String)
  outputDir : Setting String
  noPlots : Bool
  failOnErrors : Bool
  logLevel : Setting String
  logJson : Bool

/-- The options by what they set. -/
inductive Flag where
  | help
  | path
  | threads
  | ioSize
  | timeout
  | endpoint
  | outputDir
  | noPlots
  | failOnErrors
  | logLevel
  | logJson
  deriving DecidableEq, Repr

/-- The names of all options, in their order. -/
def flagNames : List (String × Flag) :=
  [("-h", .help), ("--help", .help), ("--path", .path), ("--threads", .threads),
    ("--io-size", .ioSize), ("--timeout", .timeout), ("--endpoint", .endpoint),
    ("--output-dir", .outputDir), ("--no-plots", .noPlots), ("--fail-on-errors", .failOnErrors),
    ("--log-level", .logLevel), ("--log-json", .logJson)]

/-- Does the option take a value? -/
def Flag.takesValue : Flag → Bool
  | help | noPlots | failOnErrors | logJson => false
  | _ => true

/-- The option as messages name it. -/
def Flag.label (flag : Flag) : String :=
  "/".intercalate ((flagNames.filter fun entry => entry.2 = flag).map (·.1))

/-! ## Looking at the words -/

/-- What a word of the command line is. -/
inductive Word where
  /-- An option, and the value behind its equals sign. -/
  | option (flag : Flag) (value : Option String)
  /-- The short option for help, and what stands right behind it or behind its equals sign. -/
  | bundle (rest : List Char)
  /-- A word in the form of an option that is none. -/
  | unknown (text : String)
  /-- Any other word. -/
  | plain (text : String)
  /-- Two dashes: no word behind them is an option. -/
  | separator

/-- A text up to the first equals sign, and what stands behind it. -/
def splitEquals (text : String) : String × Option String :=
  let cs := text.toList
  let name := String.ofList (cs.takeWhile (· ≠ '='))
  match cs.dropWhile (· ≠ '=') with
  | [] => (name, none)
  | _ :: value => (name, some (String.ofList value))

/-- Does a text begin with another one? -/
def begins (start text : String) : Bool := start.toList.isPrefixOf text.toList

/-- The options whose names begin with the name in a word, each with what the word would be. -/
def candidates (text : String) : List (String × Word) :=
  if begins "--" text then
    let (name, value) := splitEquals text
    flagNames.filterMap fun (full, flag) =>
      if begins name full then some (full, .option flag value) else none
  else
    flagNames.filterMap fun (full, flag) =>
      if full.toList = text.toList.take 2 then some (full, .bundle (text.toList.drop 2))
      else if begins text full then some (full, .option flag none)
      else none

/-- Is the word a negative number, of digits with at most one point? -/
def isNegativeNumber (text : String) : Bool :=
  match text.toList with
  | '-' :: cs =>
    -- a line feed at the end does not count
    let cs := if cs.getLast? = some '\n' then cs.dropLast else cs
    let whole := cs.takeWhile Text.isDigit
    match cs.dropWhile Text.isDigit with
    | [] => !whole.isEmpty
    | '.' :: fraction => !fraction.isEmpty && fraction.all Text.isDigit
    | _ => false
  | _ => false

/-- A message about a command line that is refused. -/
abbrev UsageFault := String

/-- What a word in the form of an option is. -/
def lookUp (text : String) : Except UsageFault Word :=
  let (name, value) := splitEquals text
  match flagNames.lookup text, value, flagNames.lookup name with
  | some flag, _, _ => .ok (.option flag none)
  | none, some value, some flag =>
    .ok (if begins "--" name then .option flag (some value) else .bundle value.toList)
  | _, _, _ =>
    match candidates text with
    | [(_, word)] => .ok word
    | [] =>
      if isNegativeNumber text || text.toList.contains ' ' then .ok (.plain text)
      else .ok (.unknown text)
    | several =>
      let names := ", ".intercalate (several.map (·.1))
      .error s!"ambiguous option: {text} could match {names}"

/-- What a word is. -/
def Word.ofText (text : String) : Except UsageFault Word :=
  if text.length ≤ 1 || !begins "-" text then .ok (.plain text) else lookUp text

/-- What the words of a command line are. -/
def wordsOf : List String → Except UsageFault (List Word)
  | [] => .ok []
  -- behind two dashes nothing is an option
  | "--" :: rest => .ok (.separator :: rest.map Word.plain)
  | text :: rest => do
    let word ← Word.ofText text
    let others ← wordsOf rest
    return word :: others

/-! ## Using the words -/

/-- The options so far, and the words that nothing was done with. -/
structure Progress where
  path : Option (Setting String) := none
  options : Options
  extras : List String := []

/-- The message about an option. -/
def aboutFlag (flag : Flag) (message : String) : UsageFault :=
  s!"argument {flag.label}: {message}"

/-- Reads what an option is set to: two dashes set it to nothing. -/
def Setting.ofText {α : Type} (read : String → Except UsageFault α) (text : String) :
    Except UsageFault (Setting α) :=
  if text = "--" then .ok .blank else (read text).map .value

/-- Reads a whole number. -/
def readInteger (flag : Flag) (text : String) : Except UsageFault Int :=
  match Text.integer? text with
  | some n => .ok n
  | none => .error (aboutFlag flag s!"invalid int value: {Text.quoted text}")

/-- Reads a decimal number. -/
def readDecimal (flag : Flag) (text : String) : Except UsageFault Binary64 :=
  match Text.decimal? text with
  | some x => .ok x
  | none => .error (aboutFlag flag s!"invalid float value: {Text.quoted text}")

/-- Sets an option to a value. -/
def setValue (progress : Progress) (flag : Flag) (text : String) :
    Except UsageFault Progress := do
  let options := progress.options
  match flag with
  | .path => return { progress with path := some (← Setting.ofText .ok text) }
  | .threads =>
    let threads ← Setting.ofText (readInteger flag) text
    return { progress with options := { options with threads } }
  | .ioSize =>
    let ioSize ← Setting.ofText .ok text
    return { progress with options := { options with ioSize } }
  | .timeout =>
    let timeout ← Setting.ofText (readDecimal flag) text
    return { progress with options := { options with timeout := some timeout } }
  | .endpoint =>
    let endpoint ← Setting.ofText .ok text
    return { progress with options := { options with endpoint := some endpoint } }
  | .outputDir =>
    let outputDir ← Setting.ofText .ok text
    return { progress with options := { options with outputDir } }
  | .logLevel =>
    let logLevel ← Setting.ofText .ok text
    return { progress with options := { options with logLevel } }
  | .noPlots | .failOnErrors | .logJson | .help => return progress

/-- Turns an option without a value on. -/
def turnOn (progress : Progress) (flag : Flag) : Progress :=
  let options := progress.options
  match flag with
  | .noPlots => { progress with options := { options with noPlots := true } }
  | .failOnErrors => { progress with options := { options with failOnErrors := true } }
  | .logJson => { progress with options := { options with logJson := true } }
  | _ => progress

/-- What a command line asks for. -/
inductive Request where
  | help
  | options (options : Options)

/-- The message about a value behind an option that takes none. -/
def ignoredValue (flag : Flag) (value : String) : UsageFault :=
  aboutFlag flag s!"ignored explicit argument {Text.quoted value}"

/-- Refuses what stands right behind the short option for help, unless it is the same option once
more or several times. -/
def checkBundle : List Char → Except UsageFault Unit
  | ['h'] => .ok ()
  | 'h' :: c :: rest => checkBundle (c :: rest)
  | rest => .error (ignoredValue .help (String.ofList rest))

/-- Uses the words from left to right; nothing is returned if help is asked for on the way. -/
def useWords (progress : Progress) : List Word → Except UsageFault (Option Progress)
  | [] => .ok (some progress)
  | .option flag (some value) :: rest =>
    if flag.takesValue then do
      useWords (← setValue progress flag value) rest
    else .error (ignoredValue flag value)
  | .option flag none :: .plain value :: rest =>
    if flag.takesValue then do
      useWords (← setValue progress flag value) rest
    else if flag = .help then .ok none
    else useWords (turnOn progress flag) (.plain value :: rest)
  | .option flag none :: rest =>
    if flag.takesValue then .error (aboutFlag flag "expected one argument")
    else if flag = .help then .ok none
    else useWords (turnOn progress flag) rest
  | .bundle rest :: _ => do
    checkBundle rest
    return none
  | .unknown text :: rest =>
    useWords { progress with extras := progress.extras ++ [text] } rest
  | .plain text :: rest =>
    useWords { progress with extras := progress.extras ++ [text] } rest
  | .separator :: rest =>
    useWords { progress with extras := progress.extras ++ ["--"] } rest

/-- The options of a run where nothing is given. -/
def defaults (logLevel : Option String) : Options where
  path := .blank
  threads := .value 4
  ioSize := .value "4G"
  timeout := none
  endpoint := none
  outputDir := .value "benchmark_results"
  noPlots := false
  failOnErrors := false
  logLevel := .value (logLevel.getD "WARNING")
  logJson := false

/-- What a command line asks for; the log level may come from the environment. -/
def parse (words : List String) (logLevel : Option String) : Except UsageFault Request := do
  let words ← wordsOf words
  match ← useWords { options := defaults logLevel } words with
  | none => return .help
  | some progress =>
    match progress.path with
    | none => throw "the following arguments are required: --path"
    | some path =>
      if progress.extras.isEmpty then return .options { progress.options with path }
      else throw ("unrecognized arguments: " ++ " ".intercalate progress.extras)

/-! ## Usage -/

/-- The name of the program in messages. -/
def programName : String := "iobench"

/-- Lines as one text, each with its end. -/
def textOfLines (lines : List String) : String := String.join (lines.map (· ++ "\n"))

/-- How the program is called. -/
def usage : String :=
  textOfLines [
    "usage: iobench [-h] --path PATH [--threads THREADS] [--io-size IO_SIZE]",
    "               [--timeout TIMEOUT] [--endpoint ENDPOINT]",
    "               [--output-dir OUTPUT_DIR] [--no-plots] [--fail-on-errors]",
    "               [--log-level LOG_LEVEL] [--log-json]"]

/-- What every option is for. -/
def optionsHelp : String :=
  textOfLines [
    "options:",
    "  -h, --help            show this help message and exit",
    "  --path PATH           Target directory (local path, s3://bucket/prefix/ or",
    "                        memory://)",
    "  --threads THREADS     Number of concurrent workers",
    "  --io-size IO_SIZE     Data size per worker, e.g. 512MB, 4G",
    "  --timeout TIMEOUT     Seconds to wait for each phase before giving up on",
    "                        workers",
    "  --endpoint ENDPOINT   S3 endpoint URL (e.g., http://localhost:9000)",
    "  --output-dir OUTPUT_DIR",
    "                        Output directory for results",
    "  --no-plots            Do not draw plots",
    "  --fail-on-errors      Exit with status 3 if any worker failed",
    "  --log-level LOG_LEVEL",
    "                        Log level (DEBUG, INFO, WARNING, ERROR)",
    "  --log-json            Write logs as JSON"]

/-- How the program is used. -/
def examplesHelp : String :=
  textOfLines [
    "Objects are named <path>io-benchmark-<i>: end --path with a separator.",
    "",
    "Examples:",
    "  # Mounted filesystem, 8 threads, 1 GB per thread",
    "  iobench --path /mnt/s3fs/bench/ --threads 8 --io-size 1G",
    "",
    "  # Native S3 API (MinIO)",
    "  iobench --path s3://benchmark/io/ --endpoint http://localhost:9000",
    "",
    "  # Dry run in memory",
    "  iobench --path memory://bench/ --io-size 64MB --no-plots",
    "        "]

/-- The help text. -/
def helpText : String :=
  usage ++ "\nStorage IO Benchmark Tool\n\n" ++ optionsHelp ++ "\n" ++ examplesHelp

/-- The text about a command line that is refused. -/
def usageError (fault : UsageFault) : String :=
  usage ++ programName ++ ": error: " ++ fault ++ "\n"

end Cli
end StoreMeter
