import StoreMeter.Ledger
/-
# Shelf — ledgers that grow in place

A shelf keeps ledgers as lists: a `Slot` says where the list of the records of a ledger stands and
where that of its errors.  A record or an error is added to the list where it stands.  A ledger that
is made from others always comes in lists of its own, even if there is nothing in it, so that what
is added to one ledger later never shows in another.
-/
namespace StoreMeter

/-- Where a shelf keeps a ledger: the places of its records and of its errors. -/
structure Slot where
  records : Nat
  errors : Nat
  deriving DecidableEq, Repr

/-- Lists of records and lists of errors, each at its place. -/
structure Shelf where
  records : List (List Recorded)
  errors : List (List WorkerError)

namespace Shelf

/-- The shelf without ledgers. -/
def bare : Shelf := ⟨[], []⟩

/-- The ledger at a slot. -/
def ledger (shelf : Shelf) (slot : Slot) : Ledger :=
  ⟨shelf.records.getD slot.records [], shelf.errors.getD slot.errors []⟩

/-- Adds a record in place. -/
def addRecord (shelf : Shelf) (slot : Slot) (r : Recorded) : Shelf :=
  { shelf with records := shelf.records.modify slot.records (· ++ [r]) }

/-- Adds an error in place. -/
def addError (shelf : Shelf) (slot : Slot) (mode : Mode) (message : String) : Shelf :=
  { shelf with errors := shelf.errors.modify slot.errors (· ++ [⟨mode, message⟩]) }

/-- Makes a ledger in lists of its own. -/
def make (shelf : Shelf) (l : Ledger) : Slot × Shelf :=
  (⟨shelf.records.length, shelf.errors.length⟩,
    ⟨shelf.records ++ [l.records], shelf.errors ++ [l.errors]⟩)

/-- Makes a ledger of two, one behind the other. -/
def merge (shelf : Shelf) (a b : Slot) : Slot × Shelf :=
  shelf.make ((shelf.ledger a).merge (shelf.ledger b))

/-- Makes a ledger of any number of ledgers, each merge with a ledger of its own. -/
def mergeAll (shelf : Shelf) (slots : List Slot) : Slot × Shelf :=
  slots.foldl (fun (sum, shelf) slot => shelf.merge sum slot) (shelf.make .empty)

/-- Makes a ledger of the records and errors of one direction. -/
def forMode (shelf : Shelf) (slot : Slot) (mode : Mode) : Slot × Shelf :=
  shelf.make ((shelf.ledger slot).forMode mode)

/-- Makes the ledger of one worker: an empty one, to which what the outcome tells is added. -/
def ofOutcome (shelf : Shelf) (number : Nat) (o : Outcome) : Slot × Shelf :=
  let (slot, shelf) := shelf.make .empty
  let measured := match o.measurement with
    | none => shelf
    | some m => shelf.addRecord slot ⟨number, m⟩
  (slot, o.errors.foldl (fun shelf message => shelf.addError slot o.mode message) measured)

/-- Makes a ledger for each worker, with the numbers from a first one on. -/
def ofEach (shelf : Shelf) (first : Nat) : List Outcome → List Slot × Shelf
  | [] => ([], shelf)
  | o :: os =>
    let (slot, shelf) := shelf.ofOutcome first o
    let (slots, shelf) := shelf.ofEach (first + 1) os
    (slot :: slots, shelf)

/-- Makes the ledger of the workers of a phase. -/
def ofOutcomes (shelf : Shelf) (first : Nat) (os : List Outcome) : Slot × Shelf :=
  let (slots, shelf) := shelf.ofEach first os
  shelf.mergeAll slots

/-- What can be done with a shelf. -/
inductive Deed where
  | start
  | addRecord (slot : Slot) (r : Recorded)
  | addError (slot : Slot) (mode : Mode) (message : String)
  | merge (a b : Slot)
  | mergeAll (slots : List Slot)
  | forMode (slot : Slot) (mode : Mode)
  | ofOutcomes (first : Nat) (os : List Outcome)

/-- Does something with the shelf, and says which ledger it made or changed. -/
def perform (shelf : Shelf) : Deed → Slot × Shelf
  | .start => shelf.make .empty
  | .addRecord slot r => (slot, shelf.addRecord slot r)
  | .addError slot mode message => (slot, shelf.addError slot mode message)
  | .merge a b => shelf.merge a b
  | .mergeAll slots => shelf.mergeAll slots
  | .forMode slot mode => shelf.forMode slot mode
  | .ofOutcomes first os => shelf.ofOutcomes first os

/-- The shelf after one deed after the other. -/
def performAll (shelf : Shelf) (deeds : List Deed) : Shelf :=
  deeds.foldl (fun shelf deed => (shelf.perform deed).2) shelf

end Shelf
end StoreMeter
