import StoreMeter.Log.Entry
import StoreMeter.Prog
/-
# Storage.S3.Request — what an object service can be asked

An object service keeps objects under keys in buckets.  An object is put whole, or in parts under
an upload id: the parts are uploaded one after another, and the upload is completed or aborted.  A
`Request` is one question to the service or to the body of one of its answers; each may be refused.
Of the answers only what the storage uses is kept, and each part of them may be missing.
-/
namespace StoreMeter
namespace Storage
namespace S3

/-- A part of an upload by its number and the tag that the service gave it. -/
structure Part where
  number : Nat
  tag : Value

/-- What the listing of keys answers: how many keys there are, and the keys themselves. -/
structure Listing where
  keyCount : Option Value
  contents : Option Value

/-- One question to the service; bodies of objects are of type `B`. -/
inductive Request (B : Type) where
  | headBucket (bucket : String)
  | headObject (bucket key : String)
  /-- Lists the keys that begin with a text, at most one of them. -/
  | listObjects (bucket start : String)
  | createBucket (bucket : String)
  | putObject (bucket key : String) (body : ByteArray)
  | createUpload (bucket key : String)
  | uploadPart (bucket key : String) (uploadId : Value) (number : Nat) (body : ByteArray)
  | completeUpload (bucket key : String) (uploadId : Value) (parts : List Part)
  | abortUpload (bucket key : String) (uploadId : Value)
  | getObject (bucket key : String)
  | deleteObject (bucket key : String)
  | readBody (body : B) (size : Option Nat)
  | closeBody (body : B)

/-- What each question answers, if it is not refused. -/
def Request.Reply {B : Type} : Request B → Type
  | listObjects _ _ => Listing
  | createUpload _ _ => Option Value
  | uploadPart _ _ _ _ _ => Option Value
  | getObject _ _ => Option B
  | readBody _ _ => ByteArray
  | _ => Unit

/-- What the storage asks: requests to the service, and entries for the log. -/
inductive Op (B : Type) where
  | request (request : Request B)
  | log (entry : Log.Entry)

/-- What each question answers. -/
def Op.Answer {B : Type} : Op B → Type
  | request r => Except Fault r.Reply
  | log _ => Unit

/-- The questions of the storage. -/
def effects (B : Type) : Effects := ⟨Op B, Op.Answer⟩

/-- A program of the storage. -/
abbrev Program (B : Type) (α : Type) := Prog (effects B) α

variable {B : Type}

/-- One request to the service. -/
def send (r : Request B) : Program B (Except Fault r.Reply) := .perform (E := effects B) (.request r)

/-- Adds an entry to the log. -/
def log (level : Log.Level) (event : String) (fields : List (String × Value)) : Program B Unit :=
  .perform (E := effects B) (.log ⟨level, "s3", event, fields, false⟩)

/-! ## Refusals as failures of the system -/

/-- The codes that say that a bucket or an object is not there. -/
def absentCodes : List String := ["404", "NoSuchKey", "NoSuchBucket", "NotFound"]

/-- What a failed request about a path becomes: a refusal is a failure of the system, and says that
the object is not there if its code does.  A failure that is not the service's stays as it is. -/
def asSystemFault (path : String) (fault : Fault) : Fault :=
  let failed := Fault.system s!"S3 request for {path} failed: {fault.text}"
  match fault with
  | .refused refusal =>
    let code := refusal.code.getD ""
    if absentCodes.contains code then .numbered 2 s!"No such S3 object ({code})" (some path)
    else failed
  | .unreachable _ => failed
  | .plain _ _ => fault

/-- A request about a path, with its refusal told as a failure of the system. -/
def ask (path : String) (r : Request B) : Program B (Except Fault r.Reply) := do
  let reply ← send r
  pure (reply.mapError (asSystemFault path))

end S3
end Storage
end StoreMeter
