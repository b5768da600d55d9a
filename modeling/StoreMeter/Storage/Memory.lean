import StoreMeter.Storage.Operation
/-
# Storage.Memory — objects kept in memory

Objects are kept under their paths and directories by their names.  An object that is written
becomes visible when its stream is flushed or closed, and then as a whole; a stream for reading
keeps the data that the object had when it was opened.
-/
namespace StoreMeter
namespace Storage
namespace Memory

/-- The objects and directories of a storage in memory. -/
structure Store where
  /-- The objects by their paths, each path once. -/
  files : List (String × ByteArray) := []
  dirs : List String := []

/-- Data with a place where the next operation works.  A stream with a target publishes its data
there. -/
structure Stream where
  data : ByteArray
  position : Nat := 0
  closed : Bool := false
  target : Option String := none

namespace Store

/-- The data of an object. -/
def get? (store : Store) (path : String) : Option ByteArray := store.files.lookup path

/-- Replaces the data under a path in a list of objects, or adds it at the end. -/
def insertFile (path : String) (data : ByteArray) :
    List (String × ByteArray) → List (String × ByteArray)
  | [] => [(path, data)]
  | entry :: rest =>
    if entry.1 = path then (path, data) :: rest else entry :: insertFile path data rest

/-- The store with an object under a path. -/
def put (store : Store) (path : String) (data : ByteArray) : Store :=
  { store with files := insertFile path data store.files }

/-- The store without the object under a path. -/
def erase (store : Store) (path : String) : Store :=
  { store with files := store.files.filter fun entry => entry.1 != path }

/-- The name of a directory: its path without slashes at the end, or the root. -/
def dirKey (path : String) : String :=
  let name := String.ofList (path.toList.reverse.dropWhile (· = '/')).reverse
  if name.isEmpty then "/" else name

/-- Is there an object or a directory? -/
def isPresent (store : Store) (path : String) : Bool :=
  (store.get? path).isSome || store.dirs.contains (dirKey path)

/-- The store with a directory. -/
def addDir (store : Store) (path : String) : Store :=
  if store.dirs.contains (dirKey path) then store
  else { store with dirs := store.dirs ++ [dirKey path] }

/-- The sizes of all objects. -/
def sizes (store : Store) : List (String × Nat) :=
  store.files.map fun entry => (entry.1, entry.2.size)

theorem lookup_cons_file (path other : String) (data : ByteArray)
    (files : List (String × ByteArray)) :
    ((path, data) :: files).lookup other =
      if other = path then some data else files.lookup other := by
  by_cases h : other = path
  · simp [h]
  · have different : (other == path) = false := by simpa using h
    simp [List.lookup_cons, different, h]

theorem lookup_insertFile (path other : String) (data : ByteArray)
    (files : List (String × ByteArray)) :
    (insertFile path data files).lookup other =
      if other = path then some data else files.lookup other := by
  induction files with
  | nil => exact lookup_cons_file path other data []
  | cons entry rest ih =>
    obtain ⟨name, old⟩ := entry
    by_cases same : name = path
    · by_cases h : other = path <;> simp [insertFile, same, lookup_cons_file, h]
    · by_cases h : other = name <;> simp [insertFile, same, lookup_cons_file, ih, h]

@[simp]
theorem get?_put (store : Store) (path other : String) (data : ByteArray) :
    (store.put path data).get? other = if other = path then some data else store.get? other :=
  lookup_insertFile path other data store.files

theorem lookup_filter_files (path other : String) (files : List (String × ByteArray)) :
    (files.filter fun entry => entry.1 != path).lookup other =
      if other = path then none else files.lookup other := by
  induction files with
  | nil => simp
  | cons entry rest ih =>
    obtain ⟨name, data⟩ := entry
    by_cases same : name = path
    · by_cases h : other = path <;> simp only [h, same] at ih ⊢ <;>
        simpa [lookup_cons_file, h] using ih
    · by_cases h : other = name <;> simp [same, lookup_cons_file, ih, h]

@[simp]
theorem get?_erase (store : Store) (path other : String) :
    (store.erase path).get? other = if other = path then none else store.get? other :=
  lookup_filter_files path other store.files

@[simp]
theorem get?_addDir (store : Store) (path other : String) :
    (store.addDir path).get? other = store.get? other := by
  unfold addDir
  split <;> rfl

end Store

/-- The failure of an object that is not there. -/
def absent (path : String) : Fault := .numbered 2 "No such object" (some path)

/-- The failure of an operation on a closed stream. -/
def closedFault : Fault := .value "I/O operation on closed file."

namespace Stream

/-- The store with the data of the stream, if the stream has a target. -/
def publish (stream : Stream) (store : Store) : Store :=
  match stream.target with
  | some path => store.put path stream.data
  | none => store

/-- The stream with data written at its place, over what is there. -/
def overwrite (stream : Stream) (data : ByteArray) : Stream :=
  let position := stream.position + data.size
  if stream.position = stream.data.size then
    { stream with data := stream.data ++ data, position }
  else
    { stream with
      data := stream.data.extract 0 stream.position ++ data ++
        stream.data.extract position stream.data.size
      position }

/-- How far a read of a size goes; without a size, or with a negative one, to the end. -/
def readEnd (stream : Stream) : Option Int → Nat
  | none => stream.data.size
  | some size =>
    if size < 0 then stream.data.size else min stream.data.size (stream.position + size.toNat)

end Stream

/-- The answer of the storage to an operation, and the storage afterwards. -/
def answer : (op : Operation Stream) → Store → op.Answer × Store
  | .isPresent path, store => (.ok (store.isPresent path), store)
  | .makeDirs path, store => (.ok (), store.addDir path)
  | .create path, store => (.ok { data := .empty, target := some path }, store)
  | .openRead path, store =>
    match store.get? path with
    | some data => (.ok { data }, store)
    | none => (.error (absent path), store)
  | .delete path, store =>
    match store.get? path with
    | some _ => (.ok (), store.erase path)
    | none => (.error (absent path), store)
  | .write stream data, store =>
    if stream.closed then ((stream, .error closedFault), store)
    else ((stream.overwrite data, .ok data.size), store)
  | .flush stream, store =>
    if stream.closed then ((stream, .error closedFault), store)
    else ((stream, .ok ()), stream.publish store)
  | .read stream size, store =>
    match checkSize size with
    | .error fault => ((stream, .error fault), store)
    | .ok () =>
      if stream.closed then ((stream, .error closedFault), store)
      else
        let stop := stream.readEnd size
        (({ stream with position := stop }, .ok (stream.data.extract stream.position stop)), store)
  | .close stream, store =>
    if stream.closed then ((stream, .ok ()), store)
    else (({ stream with closed := true }, .ok ()), stream.publish store)

end Memory
end Storage
end StoreMeter
