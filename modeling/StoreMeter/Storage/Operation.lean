import StoreMeter.Prog
import StoreMeter.Fault
/-
# Storage.Operation — what a storage can be asked

A storage holds objects under paths.  It is asked for the presence of an object or a directory, to
make a directory, to open an object for writing or for reading and to delete one; an open object is
a stream.  A stream is a value: an operation on it returns the stream as it is afterwards, whether
the operation failed or not.
-/
namespace StoreMeter
namespace Storage

/-- The operations of a storage with streams of type `S`. -/
inductive Operation (S : Type) where
  | isPresent (path : String)
  | makeDirs (path : String)
  | create (path : String)
  | openRead (path : String)
  | delete (path : String)
  | write (stream : S) (data : ByteArray)
  | flush (stream : S)
  /-- Reads at most so many bytes; all that is left if no size is given or it is negative. -/
  | read (stream : S) (size : Option Int)
  | close (stream : S)

/-- What each operation answers. -/
def Operation.Answer {S : Type} : Operation S → Type
  | isPresent _ => Except Fault Bool
  | makeDirs _ => Except Fault Unit
  | create _ => Except Fault S
  | openRead _ => Except Fault S
  | delete _ => Except Fault Unit
  | write _ _ => S × Except Fault Nat
  | flush _ => S × Except Fault Unit
  | read _ _ => S × Except Fault ByteArray
  | close _ => S × Except Fault Unit

/-! ## Sizes -/

/-- The greatest size that a read can be asked for. -/
def greatestSize : Int := 9223372036854775807

/-- Does the size of a read lie in the range of sizes?  A size below zero asks for everything, but
it lies in the range too. -/
def isSize (size : Int) : Bool := -greatestSize - 1 ≤ size && size ≤ greatestSize

/-- Refuses the size of a read that lies beyond the range of sizes. -/
def checkSize : Option Int → Except Fault Unit
  | none => .ok ()
  | some size => if isSize size then .ok () else .error .sizeBeyondIndexes

/-! ## Programs -/

/-- The operations of a storage as questions of a program. -/
def effects (S : Type) : Effects := ⟨Operation S, Operation.Answer⟩

end Storage
end StoreMeter
