/-
# Storage.Local.Path — names of files and directories

A path is a list of names behind an optional root.  Empty names and the name of the directory
itself are dropped when a path is read; the name of the parent directory stays, because only the
file system knows what it means.
-/
namespace StoreMeter
namespace Storage
namespace Local

/-- A path: its root, which may be empty, and its names. -/
structure FilePath where
  root : String
  names : List String
  deriving DecidableEq, Repr

namespace FilePath

/-- The root of a path as it is written: two slashes are a root of their own, and any other number
of slashes is one. -/
def rootOf (text : String) : String :=
  match (text.toList.takeWhile (· = '/')).length with
  | 0 => ""
  | 2 => "//"
  | _ => "/"

/-- Reads a path. -/
def ofText (text : String) : FilePath :=
  { root := rootOf text
    names := ((text.toList.splitOn '/').map String.ofList).filter fun name =>
      name != "" && name != "." }

/-- The path as text; the empty path is the directory itself. -/
def text (path : FilePath) : String :=
  let whole := path.root ++ "/".intercalate path.names
  if whole.isEmpty then "." else whole

/-- The path of a file in a directory. -/
def child (path : FilePath) (name : String) : FilePath := { path with names := path.names ++ [name] }

/-- Does the path begin at the root? -/
def isAbsolute (path : FilePath) : Bool := path.root != ""

/-- The path from the root on, where a relative path begins in a directory. -/
def absolute (path : FilePath) (directory : List String) : FilePath :=
  if path.isAbsolute then path else ⟨"/", directory ++ path.names⟩

/-- Does a name hold a character that no name may hold? -/
def hasNull (path : FilePath) : Bool := path.names.any fun name => name.toList.contains '\x00'

end FilePath
end Local
end Storage
end StoreMeter
