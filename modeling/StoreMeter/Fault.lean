import StoreMeter.Text.Quoted
/-
# Fault — what can go wrong, and how it is told

A failure is a value.  Failures of the system carry an error number, a sentence and the path they
concern; failures of an object service carry the code and the message of its answer; the others
carry a sentence.  `Fault.name` names the kind of a failure and `Fault.text` is the sentence that
reports and messages show.

The phases treat failures by class only: `isSystem` says which ones a storage is expected to show,
`isAbsent` which of those say that the object is not there.
-/
namespace StoreMeter

/-- The kinds of failure: those that a handler of all failures catches.  The exit of the program, an
interrupt by the user and the cancelling of a task pass every such handler, and are not modelled. -/
inductive FaultKind where
  | system | notFound | denied | alreadyExists | notADirectory | isADirectory
  | blocked | brokenPipe | childProcess | connectionAborted | connectionRefused
  | connectionReset | interrupted | processLookup | timedOut
  | setup | configuration | benchmark
  | unsupported
  | value | wrongType | missingKey | missingOperation | runtime | notImplemented | overflow
  | zeroDivision | outOfMemory
  deriving DecidableEq, Repr

namespace FaultKind

/-- The name of a kind in messages. -/
def name : FaultKind → String
  | system => "OSError"
  | notFound => "FileNotFoundError"
  | denied => "PermissionError"
  | alreadyExists => "FileExistsError"
  | notADirectory => "NotADirectoryError"
  | isADirectory => "IsADirectoryError"
  | blocked => "BlockingIOError"
  | brokenPipe => "BrokenPipeError"
  | childProcess => "ChildProcessError"
  | connectionAborted => "ConnectionAbortedError"
  | connectionRefused => "ConnectionRefusedError"
  | connectionReset => "ConnectionResetError"
  | interrupted => "InterruptedError"
  | processLookup => "ProcessLookupError"
  | timedOut => "TimeoutError"
  | setup => "SetupError"
  | configuration => "ConfigurationError"
  | benchmark => "IOBenchError"
  | unsupported => "UnsupportedOperation"
  | value => "ValueError"
  | wrongType => "TypeError"
  | missingKey => "KeyError"
  | missingOperation => "AttributeError"
  | runtime => "RuntimeError"
  | notImplemented => "NotImplementedError"
  | overflow => "OverflowError"
  | zeroDivision => "ZeroDivisionError"
  | outOfMemory => "MemoryError"

/-- The kind of a system failure with this error number. -/
def ofNumber (number : Int) : FaultKind :=
  if number = 2 then notFound
  else if number = 1 ∨ number = 13 then denied
  else if number = 17 then alreadyExists
  else if number = 20 then notADirectory
  else if number = 21 then isADirectory
  else if number = 11 ∨ number = 114 ∨ number = 115 then blocked
  else if number = 32 ∨ number = 108 then brokenPipe
  else if number = 10 then childProcess
  else if number = 103 then connectionAborted
  else if number = 111 then connectionRefused
  else if number = 104 then connectionReset
  else if number = 4 then interrupted
  else if number = 3 then processLookup
  else if number = 110 then timedOut
  else system

/-- Is a failure of this kind a failure of the system? -/
def isSystem : FaultKind → Bool
  | system | notFound | denied | alreadyExists | notADirectory | isADirectory
  | blocked | brokenPipe | childProcess | connectionAborted | connectionRefused
  | connectionReset | interrupted | processLookup | timedOut | setup | unsupported => true
  | configuration | benchmark | value | wrongType | missingKey | missingOperation | runtime
  | notImplemented | overflow | zeroDivision | outOfMemory => false

end FaultKind

/-- What a failure says about itself. -/
inductive Detail where
  /-- Nothing. -/
  | silent
  /-- A sentence. -/
  | message (text : String)
  /-- An error number with its sentence, and the path it concerns. -/
  | numbered (number : Int) (text : String) (path : Option String)
  deriving DecidableEq, Repr

/-- An answer of an object service that refuses a request: the operation, the code and the message
of the answer where it has them, and how often the request was repeated. -/
structure ServiceRefusal where
  operation : String
  code : Option String
  message : Option String
  retries : Option String
  deriving DecidableEq, Repr

/-- The sentence of a refused request. -/
def ServiceRefusal.text (refusal : ServiceRefusal) : String :=
  let retries := match refusal.retries with
    | some count => " (reached max retries: " ++ count ++ ")"
    | none => ""
  "An error occurred (" ++ refusal.code.getD "Unknown" ++ ") when calling the " ++
    refusal.operation ++ " operation" ++ retries ++ ": " ++ refusal.message.getD "Unknown"

/-- A failure. -/
inductive Fault where
  /-- A failure of a kind of its own. -/
  | plain (kind : FaultKind) (detail : Detail)
  /-- A request that an object service refused. -/
  | refused (refusal : ServiceRefusal)
  /-- A request that never reached an object service, with the endpoint if it is known. -/
  | unreachable (endpoint : Option String)
  deriving DecidableEq, Repr

/-- The values in round brackets that a failure of several parts shows. -/
def Detail.parts (number : Int) (text : String) : Option String → String
  | none => s!"({number}, {Text.quoted text})"
  | some path => s!"({number}, {Text.quoted text}, {Text.quoted path})"

namespace Fault

/-- The name of the kind of failure. -/
def name : Fault → String
  | plain kind _ => kind.name
  | refused _ => "ClientError"
  | unreachable none => "BotoCoreError"
  | unreachable (some _) => "EndpointConnectionError"

/-- The sentence of a failure. -/
def text : Fault → String
  | plain _ .silent => ""
  | plain kind (.message text) => if kind = .missingKey then Text.quoted text else text
  | plain kind (.numbered number text path) =>
    if kind.isSystem then
      match path with
      | none => s!"[Errno {number}] {text}"
      | some path => s!"[Errno {number}] {text}: {Text.quoted path}"
    else Detail.parts number text path
  | refused refusal => refusal.text
  | unreachable none => "An unspecified error occurred"
  | unreachable (some endpoint) =>
    "Could not connect to the endpoint URL: \"" ++ endpoint ++ "\""

/-- Is this a failure that a storage is expected to show? -/
def isSystem : Fault → Bool
  | plain kind _ => kind.isSystem
  | _ => false

/-- Does the failure say that an object is not there? -/
def isAbsent : Fault → Bool
  | plain kind _ => kind = .notFound
  | _ => false

/-- Is this a failure of the setup before a phase? -/
def isSetup : Fault → Bool
  | plain kind _ => kind = .setup
  | _ => false

/-- Does the failure say that the settings of a run are wrong? -/
def isConfiguration : Fault → Bool
  | plain kind _ => kind = .configuration
  | _ => false

/-- Does the failure say that a value is not accepted? -/
def isValue : Fault → Bool
  | plain kind _ => kind = .value
  | _ => false

/-- A system failure with an error number. -/
def numbered (number : Int) (text : String) (path : Option String) : Fault :=
  plain (.ofNumber number) (.numbered number text path)

/-- A value that a function does not accept. -/
def value (text : String) : Fault := plain .value (.message text)

/-- Settings that no run can have. -/
def configuration (text : String) : Fault := plain .configuration (.message text)

/-- A target directory that a phase cannot use. -/
def setup (text : String) : Fault := plain .setup (.message text)

/-- A failure of the system told by one sentence. -/
def system (text : String) : Fault := plain .system (.message text)

/-- A step that was asked for at the wrong time. -/
def runtime (text : String) : Fault := plain .runtime (.message text)

/-- An operation on values of the wrong type. -/
def wrongType (text : String) : Fault := plain .wrongType (.message text)

/-- A part of an answer that is not there. -/
def missingKey (key : String) : Fault := plain .missingKey (.message key)

/-- An operation that a stream does not have. -/
def missingOperation (owner operation : String) : Fault :=
  plain .missingOperation (.message s!"'{owner}' object has no attribute '{operation}'")

/-- An operation that a file is not open for. -/
def unsupported (operation : String) : Fault := plain .unsupported (.message operation)

/-! ## Failures of sizes -/

/-- A size that no amount of data in memory can have. -/
def sizeBeyondIndexes : Fault :=
  plain .overflow (.message "cannot fit 'int' into an index-sized integer")

/-- A size that is too large for one block of bytes. -/
def sizeBeyondBytes : Fault := plain .overflow (.message "byte string is too large")

/-- More data than there is memory for. -/
def outOfMemory : Fault := plain .outOfMemory .silent

/-! ## Failures of arithmetic -/

/-- An integer beyond the doubles. -/
def integerTooLarge : Fault := plain .overflow (.message "int too large to convert to float")

/-- A quotient of integers beyond the doubles. -/
def quotientTooLarge : Fault :=
  plain .overflow (.message "integer division result too large for a float")

/-- An infinity where an integer is wanted. -/
def infinityToInteger : Fault :=
  plain .overflow (.message "cannot convert float infinity to integer")

/-- Not a number where an integer is wanted. -/
def nanToInteger : Fault := plain .value (.message "cannot convert float NaN to integer")

/-- An integer divided by zero. -/
def divisionByZero : Fault := plain .zeroDivision (.message "division by zero")

/-- A double divided by zero. -/
def realDivisionByZero : Fault := plain .zeroDivision (.message "float division by zero")

end Fault

/-- Two steps that may fail give a result if the first one does and the second one does with it. -/
theorem bind_eq_ok {α β : Type} {x : Except Fault α} {f : α → Except Fault β} {b : β} :
    (x >>= f) = .ok b ↔ ∃ a, x = .ok a ∧ f a = .ok b := by
  cases x with
  | error fault => exact iff_of_false nofun (by rintro ⟨a, ⟨⟩, -⟩)
  | ok a => exact ⟨fun h => ⟨a, rfl, h⟩, by rintro ⟨_, ⟨⟩, h⟩; exact h⟩

end StoreMeter
