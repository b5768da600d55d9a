import StoreMeter.Fault
import StoreMeter.Storage.Local.Path
/-
# Storage.Local.Tree — a tree of files

Directories and files are found under the list of their names, seen from the root.  A file is a
number, and its data is kept under that number: a file that is deleted while it is open keeps its
data for the streams that hold its number.
-/
namespace StoreMeter
namespace Storage
namespace Local

/-- What stands under a list of names. -/
inductive Node where
  | directory
  | file (id : Nat)
  deriving DecidableEq, Repr

/-- A tree of files, and the directory where relative paths begin. -/
structure Tree where
  nodes : List (List String × Node) := []
  contents : List (Nat × ByteArray) := []
  nextId : Nat := 0
  workDir : List String := []

/-- The reasons why the system refuses an operation on files. -/
inductive Refusal where
  | missing
  | occupied
  | notADirectory
  | isADirectory
  | nameTooLong
  deriving DecidableEq, Repr

/-- The failure of an operation on a path. -/
def Refusal.fault (path : FilePath) : Refusal → Fault
  | missing => .numbered 2 "No such file or directory" (some path.text)
  | occupied => .numbered 17 "File exists" (some path.text)
  | notADirectory => .numbered 20 "Not a directory" (some path.text)
  | isADirectory => .numbered 21 "Is a directory" (some path.text)
  | nameTooLong => .numbered 36 "File name too long" (some path.text)

/-- The failure of a name that holds a null. -/
def nullFault : Fault := .value "embedded null byte"

/-- The greatest number of bytes in a name. -/
def greatestName : Nat := 255

/-- The greatest number of bytes in a path. -/
def greatestPath : Nat := 4095

namespace Tree

/-! ## Looking things up -/

/-- What stands under a list of names; the root is a directory. -/
def node? (tree : Tree) (place : List String) : Option Node :=
  if place.isEmpty then some .directory else tree.nodes.lookup place

/-- The data of a file. -/
def content (tree : Tree) (id : Nat) : ByteArray := (tree.contents.lookup id).getD .empty

/-- Follows names from a place.  Every name but the last has to lead to a directory. -/
def walk (tree : Tree) (place : List String) : List String → Except Refusal (List String)
  | [] => .ok place
  | name :: rest =>
    match tree.node? place with
    | none => .error .missing
    | some (.file _) => .error .notADirectory
    | some .directory =>
      if greatestName < name.utf8ByteSize then .error .nameTooLong
      else if name = ".." then walk tree place.dropLast rest
      else walk tree (place ++ [name]) rest

/-- The place that a path leads to, whether anything stands there or not.  A path that is too long is
not followed at all. -/
def resolve (tree : Tree) (path : FilePath) : Except Refusal (List String) :=
  if greatestPath < path.text.utf8ByteSize then .error .nameTooLong
  else tree.walk (if path.isAbsolute then [] else tree.workDir) path.names

/-- What stands at the end of a path. -/
def find (tree : Tree) (path : FilePath) : Except Refusal Node := do
  match tree.node? (← tree.resolve path) with
  | some node => return node
  | none => throw .missing

/-- Does a path lead to a directory? -/
def isDirectory (tree : Tree) (path : FilePath) : Bool :=
  match tree.find path with
  | .ok .directory => true
  | _ => false

/-! ## Changing the tree -/

/-- The tree with the data of a file replaced. -/
def setContent (tree : Tree) (id : Nat) (data : ByteArray) : Tree :=
  { tree with contents := (id, data) :: tree.contents.filter fun entry => entry.1 != id }

/-- The tree with a new directory. -/
def makeDirectory (tree : Tree) (path : FilePath) : Except Refusal Tree := do
  let place ← tree.resolve path
  match tree.node? place with
  | some _ => throw .occupied
  | none => return { tree with nodes := tree.nodes ++ [(place, .directory)] }

/-- Makes a directory whose parents exist; one that is there already is accepted. -/
def makeOneDirectory (tree : Tree) (path : FilePath) : Except (FilePath × Refusal) Unit × Tree :=
  match tree.makeDirectory path with
  | .ok tree => (.ok (), tree)
  | .error .missing => (.error (path, .missing), tree)
  | .error refusal =>
    if tree.isDirectory path then (.ok (), tree) else (.error (path, refusal), tree)

/-- Makes a directory with its parents; the names are given from the last to the first.  Parents
that are made stay, even if the directory cannot be made. -/
def makeAll (tree : Tree) (root : String) : List String → Except (FilePath × Refusal) Unit × Tree
  | [] => tree.makeOneDirectory ⟨root, []⟩
  | name :: parents =>
    let path : FilePath := ⟨root, (name :: parents).reverse⟩
    match tree.makeDirectory path with
    | .error .missing =>
      match makeAll tree root parents with
      | (.ok (), tree) => tree.makeOneDirectory path
      | (.error refusal, tree) => (.error refusal, tree)
    | _ => tree.makeOneDirectory path

/-- Makes a directory with its parents. -/
def makeDirectories (tree : Tree) (path : FilePath) : Except Fault Unit × Tree :=
  if path.hasNull then (.error nullFault, tree)
  else
    let (result, tree) := tree.makeAll path.root path.names.reverse
    (result.mapError fun refused => refused.2.fault refused.1, tree)

/-- Opens a file for writing: an empty file, new or emptied. -/
def openWrite (tree : Tree) (path : FilePath) : Except Refusal (Nat × Tree) := do
  let place ← tree.resolve path
  match tree.node? place with
  | some .directory => throw .isADirectory
  | some (.file id) => return (id, tree.setContent id .empty)
  | none =>
    let id := tree.nextId
    return (id, { tree with
      nodes := tree.nodes ++ [(place, .file id)]
      contents := (id, .empty) :: tree.contents
      nextId := id + 1 })

/-- Opens a file for reading. -/
def openRead (tree : Tree) (path : FilePath) : Except Refusal Nat := do
  match ← tree.find path with
  | .directory => throw .isADirectory
  | .file id => return id

/-- The tree without a file. -/
def delete (tree : Tree) (path : FilePath) : Except Refusal Tree := do
  let place ← tree.resolve path
  match tree.node? place with
  | some .directory => throw .isADirectory
  | some (.file _) => return { tree with nodes := tree.nodes.filter fun entry => entry.1 != place }
  | none => throw .missing

/-- Data written over other data from a place on, with zeros between the two if they do not
touch. -/
def patch (old : ByteArray) (position : Nat) (data : ByteArray) : ByteArray :=
  if position = old.size then old ++ data
  else
    let gap := ByteArray.mk (Array.replicate (position - old.size) 0)
    old.extract 0 position ++ gap ++ data ++ old.extract (position + data.size) old.size

/-- The tree with data written into a file. -/
def writeAt (tree : Tree) (id position : Nat) (data : ByteArray) : Tree :=
  tree.setContent id (patch (tree.content id) position data)

/-- Saves a text as a file. -/
def save (tree : Tree) (path : FilePath) (text : String) : Except Fault Tree :=
  if path.hasNull then .error nullFault
  else match tree.openWrite path with
    | .ok (id, tree) => .ok (tree.setContent id text.toUTF8)
    | .error refusal => .error (refusal.fault path)

/-! ## Listing -/

/-- The files and directories below a place, by their names from there on: files with their sizes,
directories with a slash behind the name. -/
def listing (tree : Tree) (place : List String) : List (String × Option Nat) :=
  let entries := tree.nodes.filterMap fun (names, node) =>
    if place.isPrefixOf names && place.length < names.length then
      let name := "/".intercalate (names.drop place.length)
      match node with
      | .directory => some (name ++ "/", none)
      | .file id => some (name, some (tree.content id).size)
    else none
  entries.mergeSort fun a b => !(b.1 < a.1)

end Tree
end Local
end Storage
end StoreMeter
