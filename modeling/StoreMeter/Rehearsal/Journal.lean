import StoreMeter.Log.Entry
import StoreMeter.Storage.S3.Request
/-
# Rehearsal.Journal — what happened in a rehearsal

A rehearsal runs a program against surroundings that follow a script.  Its journal holds the calls
that the surroundings got and the log entries of the program, each in its order.
-/
namespace StoreMeter
namespace Rehearsal

/-- A call that the surroundings got. -/
inductive Call where
  /-- An operation of a storage or a stream, with its path and its details. -/
  | storage (operation path : String) (details : List Value)
  /-- A look at the clock. -/
  | clock
  /-- So many random bytes. -/
  | entropy (size : Int)
  /-- A new pool. -/
  | pool (workers : Value) (label : String)
  /-- The end of a pool. -/
  | shutdown (waits cancelsQueued : Bool)
  /-- A request to an object service. -/
  | request (request : Storage.S3.Request Nat)

/-- The calls and the log entries so far, the last one first. -/
structure Journal where
  calls : List Call := []
  entries : List Log.Entry := []

namespace Journal

/-- The journal with one more call. -/
def addCall (journal : Journal) (call : Call) : Journal :=
  { journal with calls := call :: journal.calls }

/-- The journal with one more log entry. -/
def addEntry (journal : Journal) (entry : Log.Entry) : Journal :=
  { journal with entries := entry :: journal.entries }

end Journal

/-! ## Planned failures -/

/-- A failure to be, made from the name of the failing operation and the path that it concerns. -/
abbrev Raise := String → Option String → Fault

/-- A planned failure: it meets one operation on one path or on any, from one call on and for a
number of calls. -/
structure Mishap where
  operation : String
  path : Option String
  first : Int
  count : Option Int
  raise : Raise
  /-- The calls that it met so far. -/
  seen : Int := 0

/-- Does the planned failure meet this call? -/
def Mishap.meets (mishap : Mishap) (operation path : String) : Bool :=
  mishap.operation == operation && (mishap.path.isNone || mishap.path == some path)

/-- Does the planned failure strike at its latest call? -/
def Mishap.strikes (mishap : Mishap) : Bool :=
  mishap.first ≤ mishap.seen &&
    match mishap.count with
    | none => true
    | some count => mishap.seen < mishap.first + count

/-- Tries the planned failures at a call, in their order; the first one that strikes ends the
search. -/
def strike (operation path : String) (shown : Option String) :
    List Mishap → Option Fault × List Mishap
  | [] => (none, [])
  | mishap :: rest =>
    if mishap.meets operation path then
      let mishap := { mishap with seen := mishap.seen + 1 }
      if mishap.strikes then (some (mishap.raise operation shown), mishap :: rest)
      else
        let (fault, rest) := strike operation path shown rest
        (fault, mishap :: rest)
    else
      let (fault, rest) := strike operation path shown rest
      (fault, mishap :: rest)

/-! ## Sample data -/

/-- The byte at a place of the sample data. -/
def sampleByte (i : Nat) : UInt8 := UInt8.ofNat ((i * 31 + 7) % 256)

/-- Sample data of a length. -/
def sample (length : Nat) : ByteArray := ⟨Array.ofFn fun (i : Fin length) => sampleByte i⟩

end Rehearsal
end StoreMeter
