import StoreMeter.Rehearsal.Journal
import StoreMeter.Storage.S3.Objects
/-
# Rehearsal.Client — an object service that follows a script

For each method of the service the script holds a queue of replies.  When the queue of a method is
empty, the service answers as a healthy one would, without keeping any object.
-/
namespace StoreMeter
namespace Rehearsal

open Storage.S3 (Request Listing)

/-- The body of an answer: its data, how far it is read, and its planned failures. -/
structure Body where
  data : ByteArray
  position : Nat := 0
  mishaps : List Mishap := []

/-- Reads from a body; a size beyond the range of sizes is refused and nothing is read. -/
def Body.read (body : Body) (size : Option Nat) : Except Fault ByteArray × Body :=
  match Storage.checkSize (size.map Int.ofNat) with
  | .error fault => (.error fault, body)
  | .ok () =>
    let stop := match size with
      | none => body.data.size
      | some size => min body.data.size (body.position + size)
    (.ok (body.data.extract body.position stop), { body with position := stop })

/-- A reply of the script: a failure, or an answer with its fields and its body. -/
inductive Reply where
  | raise (raise : Raise)
  | answer (fields : Value) (body : Option Body)

/-- The service: what is left of the script, the uploads opened by default, and the bodies handed
out. -/
structure Client where
  script : List (String × List Reply) := []
  uploads : Nat := 0
  bodies : List Body := []

/-- The method of a request. -/
def methodOf : Request Nat → String
  | .headBucket _ => "head_bucket"
  | .headObject _ _ => "head_object"
  | .listObjects _ _ => "list_objects_v2"
  | .createBucket _ => "create_bucket"
  | .putObject _ _ _ => "put_object"
  | .createUpload _ _ => "create_multipart_upload"
  | .uploadPart _ _ _ _ _ => "upload_part"
  | .completeUpload _ _ _ _ => "complete_multipart_upload"
  | .abortUpload _ _ _ => "abort_multipart_upload"
  | .getObject _ _ => "get_object"
  | .deleteObject _ _ => "delete_object"
  | .readBody _ _ => "read"
  | .closeBody _ => "close"

/-- The key that a request concerns. -/
def keyOf : Request Nat → Option String
  | .headObject _ key => some key
  | .putObject _ key _ => some key
  | .createUpload _ key => some key
  | .uploadPart _ key _ _ _ => some key
  | .completeUpload _ key _ _ => some key
  | .abortUpload _ key _ => some key
  | .getObject _ key => some key
  | .deleteObject _ key => some key
  | _ => none

/-- The name of the operation behind a method: each word with a capital. -/
def operationName (method : String) : String :=
  String.join ((method.splitOn "_").map String.capitalize)

/-- The operation that failures of a body name. -/
def bodyOperation : String := "Op"

/-- A failure of a body, which does not name the method that met it. -/
def bodyRaise (raise : Raise) : Raise := fun _ path => raise bodyOperation path

namespace Client

/-- Takes the next reply of a method from the script. -/
def takeReply (method : String) :
    List (String × List Reply) → Option Reply × List (String × List Reply)
  | [] => (none, [])
  | (name, replies) :: rest =>
    if name = method then
      match replies with
      | [] => (none, (name, []) :: rest)
      | reply :: others => (some reply, (name, others) :: rest)
    else
      let (reply, rest) := takeReply method rest
      (reply, (name, replies) :: rest)

/-- The answer of a healthy service, and whether it opened an upload. -/
def healthy (client : Client) : Request Nat → Value × Option Body
  | .createUpload _ _ => (.record [("UploadId", .text s!"upload-{client.uploads + 1}")], none)
  | .uploadPart _ _ _ number _ => (.record [("ETag", .text s!"etag-{number}")], none)
  | .listObjects _ _ => (.record [("KeyCount", .int 0)], none)
  | .getObject _ _ => (.record [], some ⟨.empty, 0, []⟩)
  | _ => (.record [], none)

/-- The service after a healthy answer. -/
def afterHealthy (client : Client) : Request Nat → Client
  | .createUpload _ _ => { client with uploads := client.uploads + 1 }
  | _ => client

/-- What the storage sees of an answer, and the service with the body of the answer. -/
def deliver (client : Client) (fields : Value) (body : Option Body) :
    (r : Request Nat) → r.Reply × Client
  | .listObjects _ _ => (⟨fields.field? "KeyCount", fields.field? "Contents"⟩, client)
  | .createUpload _ _ => (fields.field? "UploadId", client)
  | .uploadPart _ _ _ _ _ => (fields.field? "ETag", client)
  | .getObject _ _ =>
    match body with
    | none => (none, client)
    | some body =>
      (some client.bodies.length, { client with bodies := client.bodies ++ [body] })
  | .readBody _ _ => (.empty, client)
  | .headBucket _ => ((), client)
  | .headObject _ _ => ((), client)
  | .createBucket _ => ((), client)
  | .putObject _ _ _ => ((), client)
  | .completeUpload _ _ _ _ => ((), client)
  | .abortUpload _ _ _ => ((), client)
  | .deleteObject _ _ => ((), client)
  | .closeBody _ => ((), client)

/-- The answer of the service to a request for which there is a script. -/
def scripted (client : Client) (r : Request Nat) : Except Fault r.Reply × Client :=
  let method := methodOf r
  match takeReply method client.script with
  | (none, _) =>
    let (fields, body) := client.healthy r
    let (reply, client) := (client.afterHealthy r).deliver fields body r
    (.ok reply, client)
  | (some (.raise raise), script) =>
    (.error (raise (operationName method) (keyOf r)), { client with script })
  | (some (.answer fields body), script) =>
    let (reply, client) := { client with script }.deliver fields body r
    (.ok reply, client)

/-- A step on a body that may meet a planned failure. -/
def onBody {α : Type} (client : Client) (index : Nat) (operation : String)
    (step : Body → Except Fault α × Body) : Except Fault α × Client :=
  match client.bodies[index]? with
  | none => (.error (.value "unknown body"), client)
  | some body =>
    let (fault, mishaps) := strike operation "" none body.mishaps
    let body := { body with mishaps }
    match fault with
    | some fault => (.error fault, { client with bodies := client.bodies.set index body })
    | none =>
      let (result, body) := step body
      (result, { client with bodies := client.bodies.set index body })

/-- The answer of the service to a request. -/
def answer (client : Client) : (r : Request Nat) → Except Fault r.Reply × Client
  | .readBody index size =>
    client.onBody index "read" fun body => body.read size
  | .closeBody index => client.onBody index "close" fun body => (.ok (), body)
  | r => client.scripted r

end Client

/-- The answer of the service to a question of the storage, with the call and the entry in the
journal. -/
def answerS3 (op : Storage.S3.Op Nat) (state : Client × Journal) : op.Answer × (Client × Journal) :=
  let (client, journal) := state
  match op with
  | .request r =>
    let (reply, client) := client.answer r
    (reply, client, journal.addCall (.request r))
  | .log entry => ((), client, journal.addEntry entry)

end Rehearsal
end StoreMeter
