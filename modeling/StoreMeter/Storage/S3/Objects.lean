import StoreMeter.Storage.Operation
import StoreMeter.Storage.S3.Upload
/-
# Storage.S3.Objects — an object service as a storage

Paths have the form `s3://bucket/key`.  The service has no directories: a directory is there if its
bucket is, if an object of its name is, or if any key begins with its name and a slash; it is made
by an empty object whose key ends in a slash.  Every operation of the storage is a program of
requests (`perform`).
-/
namespace StoreMeter
namespace Storage
namespace S3

/-! ## Paths -/

/-- The start of every path of an object service. -/
def scheme : List Char := ['s', '3', ':', '/', '/']

/-- The bucket and the key of a path; the key may be empty and the bucket may not. -/
def splitPath (path : String) : Except Fault (String × String) :=
  if scheme.isPrefixOf path.toList then
    let rest := path.toList.drop scheme.length
    let bucket := String.ofList (rest.takeWhile (· ≠ '/'))
    let key := String.ofList ((rest.dropWhile (· ≠ '/')).drop 1)
    if bucket.isEmpty then .error (.value s!"S3 path has no bucket: {path}") else .ok (bucket, key)
  else .error (.value s!"Not an S3 path: {path}")

/-- A text without the slashes at its end. -/
def trimSlashes (s : String) : String :=
  String.ofList (s.toList.reverse.dropWhile (· = '/')).reverse

/-- The key of the marker of a directory. -/
def markerKey (key : String) : String := trimSlashes key ++ "/"

/-! ## Streams -/

/-- A stream of the storage: an upload, or the body of an answer. -/
inductive Stream (B : Type) where
  | upload (upload : Upload)
  | download (body : B) (path : String) (closed : Bool)

/-- Is the stream closed? -/
def Stream.isClosed {B : Type} : Stream B → Bool
  | upload u => u.closed
  | download _ _ closed => closed

/-- What a stream for writing is called in messages. -/
def uploadName : String := "S3WriteStream"

/-- What a stream for reading is called in messages. -/
def downloadName : String := "S3ReadStream"

/-! ## Operations -/

variable {B : Type}

/-- The number of items that a value holds. -/
def itemCount : Value → Except Fault Nat
  | .list items => .ok items.length
  | .text s => .ok s.length
  | .record fields => .ok fields.length
  | other => .error (.wrongType s!"object of type '{other.typeName}' has no len()")

/-- Does a listing hold a key?  It says how many there are, or else the keys are counted. -/
def Listing.hasKey (listing : Listing) : Except Fault Bool := do
  let listed ← match listing.contents with
    | none => pure 0
    | some contents => itemCount contents
  match listing.keyCount with
  | none => return 0 < listed
  | some (.scalar count) => return Scalar.compare? count (.int 0) == some .gt
  | some other =>
    throw (.wrongType s!"'>' not supported between instances of '{other.typeName}' and 'int'")

/-- Is there any key under the name of a directory?  A bucket that is not there has none. -/
def anyKeyUnder (path bucket key : String) : Program B (Except Fault Bool) := do
  match ← ask path (.listObjects bucket (markerKey key)) with
  | .ok listing => pure listing.hasKey
  | .error fault => pure (if fault.isAbsent then .ok false else .error fault)

/-- The result of a question for one bucket or object: it is there, or it is not and another
question decides. -/
def orElse (reply : Except Fault Unit) (other : Program B (Except Fault Bool)) :
    Program B (Except Fault Bool) :=
  match reply with
  | .ok () => pure (.ok true)
  | .error fault => if fault.isAbsent then other else pure (.error fault)

/-- Is there an object, or a directory? -/
def isPresent (path : String) : Program B (Except Fault Bool) :=
  match splitPath path with
  | .error fault => pure (.error fault)
  | .ok (bucket, key) => do
    if key.isEmpty then
      orElse (← ask path (.headBucket bucket)) (anyKeyUnder path bucket key)
    else if key.endsWith "/" then anyKeyUnder path bucket key
    else orElse (← ask path (.headObject bucket key)) (anyKeyUnder path bucket key)

/-- Makes the bucket of a path if it is not there. -/
def makeBucket (path bucket : String) : Program B (Except Fault Unit) := do
  match ← ask path (.headBucket bucket) with
  | .ok () => pure (.ok ())
  | .error fault =>
    if fault.isAbsent then
      log .info "Creating bucket" [("bucket", .text bucket)]
      ask path (.createBucket bucket)
    else pure (.error fault)

/-- Makes a directory: its bucket, and a marker unless the key is made of slashes only. -/
def makeDirs (path : String) : Program B (Except Fault Unit) :=
  match splitPath path with
  | .error fault => pure (.error fault)
  | .ok (bucket, key) => do
    match ← makeBucket path bucket with
    | .error fault => pure (.error fault)
    | .ok () =>
      if (trimSlashes key).isEmpty then pure (.ok ())
      else ask path (.putObject bucket (markerKey key) .empty)

/-- Opens an object for reading. -/
def openRead (path : String) : Program B (Except Fault (Stream B)) :=
  match splitPath path with
  | .error fault => pure (.error fault)
  | .ok (bucket, key) => do
    match ← ask path (.getObject bucket key) with
    | .error fault => pure (.error fault)
    | .ok none => pure (.error (.missingKey "Body"))
    | .ok (some body) => pure (.ok (.download body path false))

/-- Deletes an object. -/
def delete (path : String) : Program B (Except Fault Unit) :=
  match splitPath path with
  | .error fault => pure (.error fault)
  | .ok (bucket, key) => ask path (.deleteObject bucket key)

/-- The size of a read, where a negative one asks for everything. -/
def readSize : Option Int → Option Nat
  | none => none
  | some size => if size < 0 then none else some size.toNat

/-- A step of an upload as a step of its stream. -/
def onUpload {α : Type} (step : Program B (Upload × Except Fault α)) :
    Program B (Stream B × Except Fault α) := do
  let (u, result) ← step
  pure (.upload u, result)

/-- Every operation of the storage as a program of requests. -/
def perform (partSize : Nat) : (op : Operation (Stream B)) → Program B op.Answer
  | .isPresent path => isPresent path
  | .makeDirs path => makeDirs path
  | .create path =>
    pure ((splitPath path).map fun (bucket, key) => .upload { bucket, key, partSize })
  | .openRead path => openRead path
  | .delete path => delete path
  | .write (.upload u) data => onUpload (u.write data)
  | .write stream _ => pure (stream, .error (.missingOperation downloadName "write"))
  | .flush (.upload u) => onUpload u.flush
  | .flush stream => pure (stream, .error (.missingOperation downloadName "flush"))
  | .read (.download body path closed) size => do
    let reply ← ask path (.readBody body (readSize size))
    pure (.download body path closed, reply)
  | .read stream _ => pure (stream, .error (.missingOperation uploadName "read"))
  | .close (.upload u) => onUpload u.close
  | .close (.download body path closed) => do
    if closed then pure (.download body path true, .ok ())
    else
      let reply ← ask path (.closeBody body)
      pure (.download body path true, reply)

end S3
end Storage
end StoreMeter
