import StoreMeter.Storage.S3.Request
/-
# Storage.S3.Upload — an object on its way to the service

Data written to an upload waits in a buffer.  Whenever the buffer holds a whole part, the part is
sent, and the first one opens an upload in parts.  `flush` commits the object: without parts the
buffer is put as one object, else the rest of the buffer is sent as the last part and the upload is
completed.  After that nothing can be written; `close` commits if nothing has been committed.

When a request fails with a failure of the system, the upload is aborted and stays failed.  Each
step returns the upload as it is afterwards, whether it failed or not.
-/
namespace StoreMeter
namespace Storage
namespace S3

/-- An object on its way to the service. -/
structure Upload where
  bucket : String
  key : String
  partSize : Nat
  buffer : ByteArray := .empty
  /-- The id of the upload in parts, while there is one. -/
  uploadId : Option Value := none
  /-- The tags of the parts sent, in their order. -/
  tags : List Value := []
  committed : Bool := false
  failed : Bool := false
  closed : Bool := false

namespace Upload

variable {B : Type}

/-- The path of the object. -/
def path (u : Upload) : String := s!"s3://{u.bucket}/{u.key}"

/-- The parts sent, with their numbers from one on. -/
def parts (u : Upload) : List Part := u.tags.zipIdx.map fun entry => ⟨entry.2 + 1, entry.1⟩

/-- The id that an answer gives, where a null is no id. -/
def idOf : Value → Option Value
  | .null => none
  | id => some id

/-! ## Failing -/

/-- Aborts the upload in parts, if there is one; the id is given up first.  A failure of the system
is only told to the log. -/
def abort (u : Upload) : Program B (Upload × Except Fault Unit) :=
  match u.uploadId with
  | none => pure (u, .ok ())
  | some id => do
    let u := { u with uploadId := none }
    match ← ask u.path (.abortUpload u.bucket u.key id) with
    | .ok _ => pure (u, .ok ())
    | .error fault =>
      if fault.isSystem then
        log .warning "Failed to abort multipart upload"
          [("path", .text u.path), ("error", .text fault.text)]
        pure (u, .ok ())
      else pure (u, .error fault)

/-- The end of a step that met a failure: a failure of the system fails the whole upload, which is
aborted; any other failure leaves the upload as it is. -/
def fail {α : Type} (u : Upload) (fault : Fault) : Program B (Upload × Except Fault α) :=
  if fault.isSystem then do
    let (u, aborted) ← abort { u with failed := true }
    match aborted with
    | .ok () => pure (u, .error fault)
    | .error other => pure (u, .error other)
  else pure (u, .error fault)

/-! ## Sending parts -/

/-- Opens the upload in parts, if it is not open; the result is the id to send. -/
def openParts (u : Upload) : Program B (Upload × Except Fault Value) :=
  match u.uploadId with
  | some id => pure (u, .ok id)
  | none => do
    match ← ask u.path (.createUpload u.bucket u.key) with
    | .error fault => pure (u, .error fault)
    | .ok none => pure (u, .error (.missingKey "UploadId"))
    | .ok (some id) => pure ({ u with uploadId := idOf id }, .ok id)

/-- Sends one part and keeps its tag. -/
def addPart (u : Upload) (id : Value) (chunk : ByteArray) : Program B (Upload × Except Fault Unit) := do
  match ← ask u.path (.uploadPart u.bucket u.key id (u.tags.length + 1) chunk) with
  | .error fault => pure (u, .error fault)
  | .ok none => pure (u, .error (.missingKey "ETag"))
  | .ok (some tag) => pure ({ u with tags := u.tags ++ [tag] }, .ok ())

/-- Sends a chunk as the next part. -/
def sendPart (u : Upload) (chunk : ByteArray) : Program B (Upload × Except Fault Unit) := do
  let (u, opened) ← openParts u
  match opened with
  | .error fault => fail u fault
  | .ok id =>
    let (u, added) ← addPart u id chunk
    match added with
    | .error fault => fail u fault
    | .ok () => pure (u, .ok ())

/-- The greatest number of parts without any data that one step sends.  Here the model departs from the
stream: with a part size of zero parts are sent until a request fails, and for ever if none does.  So a step
with such parts is only followed this far; a part size above zero is never bounded by it. -/
def greatestEmptyParts : Nat := 10000

/-- Sends whole parts as long as the buffer holds one; `limit` bounds their number, which is that of
the bytes in the buffer unless parts are empty. -/
def sendWholeParts (u : Upload) : Nat → Program B (Upload × Except Fault Unit)
  | 0 => pure (u, .ok ())
  | limit + 1 =>
    if u.buffer.size < u.partSize then pure (u, .ok ())
    else do
      let chunk := u.buffer.extract 0 u.partSize
      let rest := u.buffer.extract u.partSize u.buffer.size
      let (u, sent) ← sendPart { u with buffer := rest } chunk
      match sent with
      | .error fault => pure (u, .error fault)
      | .ok () => sendWholeParts u limit

/-! ## The operations of the stream -/

/-- Takes data into the buffer and sends the parts that are whole. -/
def write (u : Upload) (data : ByteArray) : Program B (Upload × Except Fault Nat) := do
  if u.closed || u.committed || u.failed then
    pure (u, .error (.value s!"Write to committed or failed S3 object {u.path}"))
  else
    let u := { u with buffer := u.buffer ++ data }
    let limit := if u.partSize = 0 then greatestEmptyParts else u.buffer.size
    let (u, sent) ← sendWholeParts u limit
    pure (u, sent.map fun _ => data.size)

/-- The last request of an upload: puts the buffer as one object, or completes the upload in parts. -/
def publish (u : Upload) : Program B (Upload × Except Fault Unit) := do
  let reply ← match u.uploadId with
    | none => ask u.path (.putObject u.bucket u.key u.buffer)
    | some id => ask u.path (.completeUpload u.bucket u.key id u.parts)
  match reply with
  | .error fault => fail u fault
  | .ok _ => pure ({ u with committed := true, buffer := .empty }, .ok ())

/-- Sends what is left in the buffer as the last part, if there are parts. -/
def sendRest (u : Upload) : Program B (Upload × Except Fault Unit) :=
  if u.uploadId.isSome ∧ u.buffer.size ≠ 0 then sendPart u u.buffer else pure (u, .ok ())

/-- Commits the object. -/
def commit (u : Upload) : Program B (Upload × Except Fault Unit) := do
  let (u, sent) ← sendRest u
  match sent with
  | .error fault => pure (u, .error fault)
  | .ok () => publish u

/-- Commits the object unless it is committed or failed. -/
def flush (u : Upload) : Program B (Upload × Except Fault Unit) :=
  if u.committed || u.failed then pure (u, .ok ()) else commit u

/-- Commits the object unless it is committed or failed, and closes the stream in any case. -/
def close (u : Upload) : Program B (Upload × Except Fault Unit) := do
  if u.closed then pure (u, .ok ())
  else
    let (u, result) ← flush u
    pure ({ u with closed := true, buffer := .empty }, result)

end Upload
end S3
end Storage
end StoreMeter
