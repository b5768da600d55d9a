import Mathlib.Data.List.Forall2
import StoreMeter.Proofs.Surroundings
import StoreMeter.Storage.S3.Upload
/-
# Proofs.Upload.History — the calls on an upload, its requests and what they publish

An upload gets calls, one after another, and sends requests to a service that may answer as it
likes: grant a request, refuse it, fail in any other way, or leave an id or a tag out of its
answer.  A `Round` keeps one call with its requests, their answers and how the call ended, and
`play` makes the rounds of a list of calls.

A request that is granted may publish an object: a put publishes its body, and the completion of an
upload publishes the bodies of the parts that it names (`Publishes`).  An object is whole
(`WholeAt`) if its bytes are all the data written before, and every write before had returned.
-/
namespace StoreMeter
namespace Storage
namespace S3

/-! ## The service -/

/-- A service that answers requests as it likes, with a state of its own.  An upload that it opens
has an id that is no null, if the answer has an id at all. -/
structure Service (B σ : Type) where
  answer : (r : Request B) → σ → Except Fault r.Reply × σ
  id_given : ∀ bucket key s, (answer (.createUpload bucket key) s).1 ≠ .ok (some .null)

variable {B σ : Type}

/-- A request with its answer. -/
structure Exchange (B : Type) where
  request : Request B
  reply : Except Fault request.Reply

/-- Does the exchange give an id that is no null, if it opens an upload at all? -/
def Exchange.Given : Exchange B → Prop
  | ⟨.createUpload _ _, reply⟩ => reply ≠ .ok (some .null)
  | _ => True

/-- Does the exchange grant what was asked for, with an id for an upload and a tag for a part? -/
def Exchange.Granted : Exchange B → Prop
  | ⟨.createUpload _ _, reply⟩ => ∃ id, id ≠ .null ∧ reply = .ok (some id)
  | ⟨.uploadPart _ _ _ _ _, reply⟩ => ∃ tag, reply = .ok (some tag)
  | ⟨_, reply⟩ => reply.isOk

/-- A service that grants every request. -/
def Service.Grants (service : Service B σ) : Prop :=
  ∀ r s, Exchange.Granted ⟨r, (service.answer r s).1⟩

/-- What is granted has the id that was asked for. -/
theorem Exchange.Granted.given {e : Exchange B} (h : e.Granted) : e.Given := by
  obtain ⟨request, reply⟩ := e
  cases request with
  | createUpload bucket key =>
    obtain ⟨id, not_null, rfl⟩ := h
    intro same
    injection same with same
    injection same with same
    exact not_null same
  | _ => trivial

/-- A service gives no id that is a null. -/
theorem Service.given (service : Service B σ) (r : Request B) (s : σ) :
    Exchange.Given ⟨r, (service.answer r s).1⟩ := by
  cases r with
  | createUpload bucket key => exact service.id_given bucket key s
  | _ => trivial

/-- The service behind the questions of an upload, with a record of all exchanges. -/
def Service.recorded (service : Service B σ) :
    (op : Op B) → σ × List (Exchange B) → op.Answer × (σ × List (Exchange B))
  | .request r, (s, seen) =>
    let (reply, s) := service.answer r s
    (reply, s, seen ++ [⟨r, reply⟩])
  | .log _, state => ((), state)

/-! ## Parts and objects -/

/-- The part that the service took in an exchange: the id of the upload, the part as completions
name it, and its body. -/
def Exchange.taken? : Exchange B → Option (Value × Part × ByteArray)
  | ⟨.uploadPart _ _ id number body, .ok (some tag)⟩ => some (id, ⟨number, tag⟩, body)
  | _ => none

/-- All parts that the service took. -/
def taken (seen : List (Exchange B)) : List (Value × Part × ByteArray) :=
  seen.filterMap Exchange.taken?

/-- Blocks of data, one behind another. -/
def joined : List ByteArray → ByteArray
  | [] => .empty
  | block :: rest => block ++ joined rest

/-- The bytes that become visible if a request is granted after these exchanges: the body of a put,
or the bodies of the parts that a completion names, in their order. -/
inductive Publishes (seen : List (Exchange B)) : Request B → ByteArray → Prop
  | put (bucket key : String) (body : ByteArray) : Publishes seen (.putObject bucket key body) body
  | complete (bucket key : String) {id : Value} {parts : List Part} {bodies : List ByteArray}
      (named : parts.Forall₂ (fun part body => (id, part, body) ∈ taken seen) bodies) :
      Publishes seen (.completeUpload bucket key id parts) (joined bodies)

/-- Does a request publish an object if it is granted? -/
def publishing : Request B → Bool
  | .putObject _ _ _ => true
  | .completeUpload _ _ _ _ => true
  | _ => false

/-- Did the exchange publish an object? -/
def Exchange.published (e : Exchange B) : Bool := publishing e.request && e.reply.isOk

/-! ## Calls -/

namespace Upload

/-- A call on an upload. -/
inductive Call where
  | write (data : ByteArray)
  | flush
  | close

/-- What a call does; the count of a write is dropped. -/
def Call.run (u : Upload) : Call → Program B (Upload × Except Fault Unit)
  | write data => do
    let (u, counted) ← u.write data
    pure (u, counted.map fun _ => ())
  | flush => u.flush
  | close => u.close

/-- The data that a call adds to the object. -/
def Call.data : Call → ByteArray
  | write data => data
  | _ => .empty

/-- Is the call a write? -/
def Call.isWrite : Call → Bool
  | write _ => true
  | _ => false

/-- A call with its requests, their answers and its end. -/
structure Round (B : Type) where
  call : Call
  exchanges : List (Exchange B)
  result : Except Fault Unit

/-- All exchanges of some rounds. -/
def exchanges (rounds : List (Round B)) : List (Exchange B) :=
  rounds.flatMap Round.exchanges

/-- The data of all writes of some rounds. -/
def written (rounds : List (Round B)) : ByteArray := joined (rounds.map fun r => r.call.data)

/-- One call on an upload against a service, as a round. -/
def playCall (service : Service B σ) (u : Upload) (s : σ) (call : Call) : Upload × σ × Round B :=
  let ((u, result), (s, seen)) := (call.run u).runWith service.recorded (s, [])
  (u, s, ⟨call, seen, result⟩)

/-- Calls on an upload against a service, one after another, also after calls that failed. -/
def play (service : Service B σ) (u : Upload) (s : σ) :
    List Call → Upload × σ × List (Round B)
  | [] => (u, s, [])
  | call :: rest =>
    let (u, s, round) := playCall service u s call
    let (u, s, rounds) := play service u s rest
    (u, s, round :: rounds)

/-! ## Whole objects -/

/-- A request of a call, after the rounds before it and the exchanges before it in its own round,
publishes exactly the data written so far; every write so far has returned, and the call is none. -/
structure WholeAt (before : List (Round B)) (call : Call) (seen : List (Exchange B))
    (request : Request B) : Prop where
  bytes : ∀ data, Publishes (exchanges before ++ seen) request data ↔ data = written before
  returned : ∀ r ∈ before, r.call.isWrite → r.result.isOk
  settled : call.isWrite = false

/-- Every object that the rounds publish is whole. -/
def Whole (rounds : List (Round B)) : Prop :=
  ∀ before round after seen e rest, rounds = before ++ round :: after →
    round.exchanges = seen ++ e :: rest → e.published → WholeAt before round.call seen e.request

/-- Did the round end in a way that leaves the upload damaged, if it leaves it open for a
publication at all?  A write that fails has lost data, a close that fails drops what waits, and a
flush that fails after a part of it was taken sends that part again. -/
def Round.damages (round : Round B) : Bool :=
  !round.result.isOk &&
    match round.call with
    | .write _ => true
    | .close => true
    | .flush => round.exchanges.any fun e => e.taken?.isSome

/-- May the upload still publish? -/
def live (u : Upload) : Bool := !u.committed && !u.failed

end Upload

end S3
end Storage
end StoreMeter
