import StoreMeter.Cli.Program
import StoreMeter.Storage.Local
import StoreMeter.Storage.Memory
import StoreMeter.Storage.S3.Objects
/-
# Live.Storage — the storages of a real run

A storage of a real run answers the same operations as a storage of the theory.  Objects in memory
are a store behind a reference.  Files are the files of the system, and what the system refuses
becomes a failure with its number.  An object service needs a client, and this program carries
none: every request to a service ends as a failure to connect.
-/
namespace StoreMeter
namespace Live

/-- A storage of a real run. -/
structure Backend where
  Stream : Type
  answer : (op : Storage.Operation Stream) → BaseIO op.Answer

/-! ## Objects in memory -/

/-- Objects in memory, behind a reference. -/
def memory (store : IO.Ref Storage.Memory.Store) : Backend where
  Stream := Storage.Memory.Stream
  answer op := store.modifyGet (Storage.Memory.answer op)

/-! ## Files -/

/-- The number of a refusal of the system, and its sentence. -/
def refusalOf : IO.Error → Int × String
  | .alreadyExists _ code text | .invalidArgument _ code text | .permissionDenied _ code text
  | .resourceExhausted _ code text | .inappropriateType _ code text | .noSuchThing _ code text
  | .otherError code text | .resourceBusy code text | .resourceVanished code text
  | .unsupportedOperation code text | .hardwareFault code text
  | .unsatisfiedConstraints code text | .illegalOperation code text | .protocolError code text
  | .timeExpired code text | .interrupted _ code text | .noFileOrDirectory _ code text =>
    (code.toNat, text)
  | .unexpectedEof => (5, "unexpected end of file")
  | .userError text => (5, text)

/-- Performs an action on a path; what the system refuses is a failure. -/
def onPath {α : Type} (path : Option String) (action : IO α) : BaseIO (Except Fault α) := do
  match ← action.toBaseIO with
  | .ok a => return .ok a
  | .error refusal =>
    let (number, text) := refusalOf refusal
    return .error (.numbered number text path)

/-- An open file; a closed one has no handle. -/
structure FileStream where
  handle : Option IO.FS.Handle

/-- An action on an open file. -/
def onFile {α : Type} (stream : FileStream) (action : IO.FS.Handle → IO α) :
    BaseIO (FileStream × Except Fault α) := do
  match stream.handle with
  | none => return (stream, .error Storage.Memory.closedFault)
  | some handle => return (stream, ← onPath none (action handle))

/-- Is there a file?  Only a path that leads nowhere has none. -/
def isPresent (path : String) : BaseIO (Except Fault Bool) := do
  match ← onPath (some path) (IO.FS.Handle.mk path .read) with
  | .ok _ => return .ok true
  | .error (.plain .notFound _) | .error (.plain .notADirectory _) => return .ok false
  | .error (.plain .denied _) => return .ok true
  | .error fault => return .error fault

/-- Opens a file. -/
def openFile (path : String) (mode : IO.FS.Mode) : BaseIO (Except Fault FileStream) := do
  let opened ← onPath (some path) (IO.FS.Handle.mk path mode)
  return opened.map fun handle => ⟨some handle⟩

/-- Reads from a file: so many bytes, or all that is left. -/
def readFrom (handle : IO.FS.Handle) : Option Int → IO ByteArray
  | none => handle.readBinToEnd
  | some size => if size < 0 then handle.readBinToEnd else handle.read size.toNat.toUSize

/-- The path of the system for the path of an object. -/
def systemPath (path : String) : String := (Storage.Local.pathOf path).text

/-- The answer of the file system to an operation. -/
def answerFiles : (op : Storage.Operation FileStream) → BaseIO op.Answer
  | .isPresent path => isPresent (systemPath path)
  | .makeDirs path => onPath (some (systemPath path)) (IO.FS.createDirAll (systemPath path))
  | .create path => openFile (systemPath path) .write
  | .openRead path => openFile (systemPath path) .read
  | .delete path => onPath (some (systemPath path)) (IO.FS.removeFile (systemPath path))
  | .write stream data =>
    onFile stream fun handle => do
      handle.write data
      return data.size
  | .flush stream => onFile stream (·.flush)
  | .read stream size => onFile stream (readFrom · size)
  | .close stream => do
    match stream.handle with
    | none => return (stream, .ok ())
    | some handle => return (⟨none⟩, ← onPath none handle.flush)

/-- The files of the system. -/
def files : Backend where
  Stream := FileStream
  answer := answerFiles

/-! ## An object service -/

/-- The answer of a service that cannot be reached. -/
def answerUnreachable (endpoint : Option String) (log : Log.Entry → BaseIO Unit) :
    (op : Storage.S3.Op Unit) → BaseIO op.Answer
  | .request _ => return .error (.unreachable endpoint)
  | .log entry => log entry

/-- An object service that cannot be reached. -/
def objectService (access : Cli.ServiceAccess) (log : Log.Entry → BaseIO Unit) : Backend where
  Stream := Storage.S3.Stream Unit
  answer op :=
    (Storage.S3.perform defaultPartSize op).runIn (answerUnreachable access.endpoint log)

/-- Opens the storage of a kind and uses it. -/
def withBackend {α : Type} (kind : Cli.StorageKind) (access : Cli.ServiceAccess)
    (log : Log.Entry → BaseIO Unit) (use : Backend → BaseIO α) : BaseIO α := do
  match kind with
  | .memory =>
    let store ← IO.mkRef ({} : Storage.Memory.Store)
    use (memory store)
  | .files => use files
  | .objectService => use (objectService access log)

end Live
end StoreMeter
