import StoreMeter.Rehearsal.Client
import StoreMeter.Storage.Local
import StoreMeter.Storage.Memory
/-
# Rehearsal.Backend — storages for a rehearsal

A backend answers the operations of a storage and writes into the journal what it was asked.  There
are four: objects in memory, objects in memory with planned failures, files, and an object service
that follows a script.

A stream that nobody holds any more is given up.  A stream of a file or of an object in memory is
closed by that, and an upload is left as it is.
-/
namespace StoreMeter
namespace Rehearsal

/-- A storage for a rehearsal. -/
structure Backend where
  Stream : Type
  State : Type
  /-- The name in reports. -/
  name : String
  /-- The name of the kind of storage in messages. -/
  kind : String
  /-- The bytes of a part, for a storage that sends objects in parts. -/
  partSize : Option Nat
  answer : (op : Storage.Operation Stream) → State × Journal → op.Answer × (State × Journal)
  isClosed : Stream → Bool
  /-- The storage after a stream that may still be open is given up. -/
  giveUp : Stream → State → State
  /-- The objects with their sizes, if the storage can list them. -/
  sizes : State → Option (List (String × Nat))
  /-- The files below the working directory, if the storage keeps files. -/
  listing : State → Option (List (String × Option Nat))

/-- The storage as messages show it. -/
def Backend.title (backend : Backend) : String :=
  s!"{backend.kind}(name={Text.quoted backend.name})"

/-- An answer that leaves the journal as it is. -/
def quietly {S σ : Type} (answer : (op : Storage.Operation S) → σ → op.Answer × σ)
    (op : Storage.Operation S) (state : σ × Journal) : op.Answer × (σ × Journal) :=
  let (reply, store) := answer op state.1
  (reply, store, state.2)

/-- Objects in memory. -/
def memory : Backend where
  Stream := Storage.Memory.Stream
  State := Storage.Memory.Store
  name := "memory"
  kind := "MemoryStorage"
  partSize := none
  answer := quietly Storage.Memory.answer
  isClosed stream := stream.closed
  giveUp stream store := (Storage.Memory.answer (.close stream) store).2
  sizes store := some store.sizes
  listing _ := none

/-- Files. -/
def files : Backend where
  Stream := Storage.Local.Stream
  State := Storage.Local.Tree
  name := "local"
  kind := "LocalStorage"
  partSize := none
  answer := quietly Storage.Local.answer
  isClosed := Storage.Local.Stream.isClosed
  giveUp stream tree := (Storage.Local.answer (.close stream) tree).2
  sizes _ := none
  listing tree := some (tree.listing tree.workDir)

/-- An object service that follows a script. -/
def objectService (partSize : Nat) : Backend where
  Stream := Storage.S3.Stream Nat
  State := Client
  name := "native_s3"
  kind := "S3Storage"
  partSize := some partSize
  answer op state := (Storage.S3.perform partSize op).runWith answerS3 state
  isClosed := Storage.S3.Stream.isClosed
  giveUp _ client := client
  sizes _ := none
  listing _ := none

/-! ## Objects in memory with planned failures -/

/-- A stream that knows its path and its direction. -/
structure WatchedStream where
  inner : Storage.Memory.Stream
  path : String
  forWriting : Bool

/-- Objects in memory, the planned failures, and how the storage is crippled. -/
structure Watched where
  store : Storage.Memory.Store := {}
  mishaps : List Mishap := []
  /-- The most bytes that one read returns. -/
  readLimit : Option Int := none
  /-- Are directories forgotten as soon as they are made? -/
  vanishDirs : Bool := false

namespace Watched

/-- Writes a call into the journal and tries the planned failures. -/
def witness (state : Watched × Journal) (operation path : String) (details : List Value) :
    Option Fault × (Watched × Journal) :=
  let (fault, mishaps) := strike operation path (some path) state.1.mishaps
  (fault, { state.1 with mishaps }, state.2.addCall (.storage operation path details))

/-- A call that may meet a planned failure before it reaches the objects. -/
def guarded {α : Type} (state : Watched × Journal) (operation path : String)
    (step : Storage.Memory.Store → Except Fault α × Storage.Memory.Store) :
    Except Fault α × (Watched × Journal) :=
  let (fault, watched, journal) := witness state operation path []
  match fault with
  | some fault => (.error fault, watched, journal)
  | none =>
    let (reply, store) := step watched.store
    (reply, { watched with store }, journal)

/-- A call on a stream that may meet a planned failure before it reaches the stream. -/
def guardedStream {α : Type} (state : Watched × Journal) (stream : WatchedStream)
    (operation : String) (details : List Value)
    (step : Storage.Memory.Store →
      (Storage.Memory.Stream × Except Fault α) × Storage.Memory.Store) :
    (WatchedStream × Except Fault α) × (Watched × Journal) :=
  let (fault, watched, journal) := witness state operation stream.path details
  match fault with
  | some fault => ((stream, .error fault), watched, journal)
  | none =>
    let ((inner, reply), store) := step watched.store
    (({ stream with inner }, reply), { watched with store }, journal)

/-- The size that a read really asks for. -/
def limited (limit : Option Int) (size : Option Int) : Option Int :=
  match limit, size with
  | some limit, some size => if size < 0 then some size else some (min size limit)
  | _, size => size

/-- Opening an object gives a stream that knows its path. -/
def watch (path : String) (forWriting : Bool)
    (reply : Except Fault Storage.Memory.Stream × Storage.Memory.Store) :
    Except Fault WatchedStream × Storage.Memory.Store :=
  (reply.1.map fun inner => ⟨inner, path, forWriting⟩, reply.2)

/-- The answer to an operation: the call is written down first, then a planned failure strikes or
the objects answer.  Only a stream is closed before its call is written down. -/
def answer (op : Storage.Operation WatchedStream) (state : Watched × Journal) :
    op.Answer × (Watched × Journal) :=
  match op with
  | .isPresent path => guarded state "exists" path (Storage.Memory.answer (.isPresent path))
  | .makeDirs path =>
    guarded state "mkdirs" path fun store =>
      if state.1.vanishDirs then (.ok (), store) else Storage.Memory.answer (.makeDirs path) store
  | .create path =>
    guarded state "create" path fun store =>
      watch path true (Storage.Memory.answer (.create path) store)
  | .openRead path =>
    guarded state "open" path fun store =>
      watch path false (Storage.Memory.answer (.openRead path) store)
  | .delete path => guarded state "delete_file" path (Storage.Memory.answer (.delete path))
  | .write stream data =>
    guardedStream state stream "write" [.nat data.size]
      (Storage.Memory.answer (.write stream.inner data))
  | .flush stream =>
    guardedStream state stream "flush" [] (Storage.Memory.answer (.flush stream.inner))
  | .read stream size =>
    guardedStream state stream "read" [.int (size.getD (-1))]
      (Storage.Memory.answer (.read stream.inner (limited state.1.readLimit size)))
  | .close stream =>
    let ((inner, reply), store) := Storage.Memory.answer (.close stream.inner) state.1.store
    let direction := if stream.forWriting then "w" else "r"
    let (fault, state) :=
      witness ({ state.1 with store }, state.2) "close" stream.path [.text direction]
    (({ stream with inner }, match fault with | some fault => .error fault | none => reply), state)

end Watched

/-- Objects in memory with planned failures. -/
def watched : Backend where
  Stream := WatchedStream
  State := Watched
  name := "memory"
  kind := "MemoryStorage"
  partSize := none
  answer := Watched.answer
  isClosed stream := stream.inner.closed
  giveUp stream state :=
    { state with store := (Storage.Memory.answer (.close stream.inner) state.store).2 }
  sizes state := some state.store.sizes
  listing _ := none

end Rehearsal
end StoreMeter
