import StoreMeter.Storage.Local.Tree
import StoreMeter.Storage.Operation
/-
# Storage.Local — files as a storage

Objects are files.  A stream for writing collects data in a block and hands full blocks on; a
stream for reading takes whole blocks in advance.  So what others see of a file changes with the
blocks, and at the latest when the stream is flushed or closed.
-/
namespace StoreMeter
namespace Storage
namespace Local

/-- The bytes of a block. -/
def blockSize : Nat := 4096

/-- An open file: a place in it, and the block at hand. -/
inductive Stream where
  | writer (id position : Nat) (block : ByteArray) (closed : Bool)
  | reader (id position : Nat) (block : ByteArray) (closed : Bool)

/-- Is the stream closed? -/
def Stream.isClosed : Stream → Bool
  | writer _ _ _ closed => closed
  | reader _ _ _ closed => closed

/-- The scheme that a path may begin with. -/
def scheme : List Char := ['f', 'i', 'l', 'e', ':', '/', '/']

/-- The path of an object. -/
def pathOf (text : String) : FilePath :=
  if scheme.isPrefixOf text.toList then
    .ofText (String.ofList (text.toList.drop scheme.length))
  else .ofText text

/-- Is there a file or a directory?  A path that leads nowhere or that no file can have is not
there. -/
def isPresent (tree : Tree) (path : FilePath) : Except Fault Bool :=
  if path.hasNull then .ok false
  else match tree.find path with
    | .ok _ => .ok true
    | .error .nameTooLong => .error (Refusal.nameTooLong.fault path)
    | .error _ => .ok false

/-- The result of an operation on a path, where a name with a null is refused first. -/
def guarded {α : Type} (path : FilePath) (result : Except Refusal α) : Except Fault α :=
  if path.hasNull then .error nullFault else result.mapError (·.fault path)

/-- Hands the block at hand on to the file. -/
def writeBlock (tree : Tree) (id position : Nat) (block : ByteArray) : Tree × Nat :=
  if block.size = 0 then (tree, position)
  else (tree.writeAt id position block, position + block.size)

/-- Writes data: it joins the block at hand if that leaves room, and else the block is handed on
first; more than a block of data goes to the file at once. -/
def write (tree : Tree) (id position : Nat) (block data : ByteArray) : Tree × Stream :=
  if block.size + data.size ≤ blockSize ∧ data.size < blockSize then
    (tree, .writer id position (block ++ data) false)
  else
    let (tree, position) := writeBlock tree id position block
    if blockSize < data.size then
      let (tree, position) := writeBlock tree id position data
      (tree, .writer id position .empty false)
    else (tree, .writer id position data false)

/-- Reads data: what is at hand first, then whole blocks of the file, then a part of a block that is
taken in advance.  Without a size everything is read. -/
def read (tree : Tree) (id position : Nat) (block : ByteArray) (size : Option Int) :
    Stream × ByteArray :=
  let data := tree.content id
  let wanted := match size with
    | none => none
    | some size => if size < 0 then none else some size.toNat
  match wanted with
  | none =>
    (.reader id (max position data.size) .empty false, block ++ data.extract position data.size)
  | some wanted =>
    if wanted ≤ block.size then
      (.reader id position (block.extract wanted block.size) false, block.extract 0 wanted)
    else
      let missing := wanted - block.size
      let whole := missing - missing % blockSize
      let direct := data.extract position (position + whole)
      let position := position + direct.size
      if direct.size < whole then (.reader id position .empty false, block ++ direct)
      else
        let ahead := data.extract position (position + blockSize)
        let part := missing % blockSize
        if part = 0 then (.reader id position .empty false, block ++ direct)
        else
          (.reader id (position + ahead.size) (ahead.extract part ahead.size) false,
            block ++ direct ++ ahead.extract 0 part)

/-- The failure of a read of a size that is none; minus one stands for no size. -/
def badSize : Fault := .value "read length must be non-negative or -1"

/-- The greatest size of one block of bytes. -/
def greatestBlock : Nat := 9223372036854775774

/-- The size from which on there is no memory for the data of a read. -/
def memorySize : Nat := Nat.pow 2 40

/-- Refuses a read of more than the block at hand if there is no room for its data.  The room is set
aside before anything is read, however little there is to read. -/
def checkRoom (block : ByteArray) (size : Option Int) : Except Fault Unit :=
  let wanted := (size.getD 0).toNat
  if wanted ≤ block.size then .ok ()
  else if greatestBlock < wanted then .error .sizeBeyondBytes
  else if memorySize ≤ wanted then .error .outOfMemory
  else .ok ()

/-- Refuses a read that cannot be made, before anything is read. -/
def checkRead (block : ByteArray) (closed : Bool) (size : Option Int) : Except Fault Unit := do
  checkSize size
  if size.any (· < -1) then throw badSize
  if closed then throw (.value "read of closed file")
  checkRoom block size

/-- The answer of the storage to an operation, and the files afterwards. -/
def answer : (op : Operation Stream) → Tree → op.Answer × Tree
  | .isPresent path, tree => (isPresent tree (pathOf path), tree)
  | .makeDirs path, tree => tree.makeDirectories (pathOf path)
  | .create path, tree =>
    match guarded (pathOf path) (tree.openWrite (pathOf path)) with
    | .ok (id, tree) => (.ok (.writer id 0 .empty false), tree)
    | .error fault => (.error fault, tree)
  | .openRead path, tree =>
    match guarded (pathOf path) (tree.openRead (pathOf path)) with
    | .ok id => (.ok (.reader id 0 .empty false), tree)
    | .error fault => (.error fault, tree)
  | .delete path, tree =>
    match guarded (pathOf path) (tree.delete (pathOf path)) with
    | .ok tree => (.ok (), tree)
    | .error fault => (.error fault, tree)
  | .write stream data, tree =>
    match stream with
    | .writer id position block closed =>
      if closed then ((stream, .error (.value "write to closed file")), tree)
      else
        let (tree, stream) := write tree id position block data
        ((stream, .ok data.size), tree)
    | .reader .. => ((stream, .error (.unsupported "write")), tree)
  | .flush stream, tree =>
    match stream with
    | .writer id position block closed =>
      if closed then ((stream, .error (.value "flush of closed file")), tree)
      else
        let (tree, position) := writeBlock tree id position block
        ((.writer id position .empty false, .ok ()), tree)
    | .reader _ _ _ closed =>
      if closed then ((stream, .error (.value "I/O operation on closed file.")), tree)
      else ((stream, .ok ()), tree)
  | .read stream size, tree =>
    match stream with
    | .reader id position block closed =>
      match checkRead block closed size with
      | .error fault => ((stream, .error fault), tree)
      | .ok () =>
        let (stream, data) := read tree id position block size
        ((stream, .ok data), tree)
    | .writer .. => ((stream, .error (.unsupported "read")), tree)
  | .close stream, tree =>
    match stream with
    | .writer id position block closed =>
      if closed then ((stream, .ok ()), tree)
      else
        let (tree, position) := writeBlock tree id position block
        ((.writer id position .empty true, .ok ()), tree)
    | .reader id position block _ => ((.reader id position block true, .ok ()), tree)

end Local
end Storage
end StoreMeter
