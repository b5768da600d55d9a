import StoreMeter.Tally
/-
# Ledger — tallies that know their measurements apart

A duration that is not a number differs from itself, so by value alone a tally that holds one would
differ from itself, too.  In a ledger every measurement stands under the number that it got when it
was recorded, and keeps it wherever the measurement is copied to: two ledgers agree where they hold
the same record, and else where they hold equal values.

`Ledger.tally` forgets the numbers, and every operation on ledgers is the one on tallies under it.
-/
namespace StoreMeter

/-- A measurement under the number that it got when it was recorded. -/
structure Recorded where
  number : Nat
  measurement : Measurement

/-- The same record, or equal by value. -/
def Recorded.agrees (a b : Recorded) : Bool :=
  a.number == b.number || a.measurement.eqv b.measurement

/-- The records and errors of one or more phases. -/
structure Ledger where
  records : List Recorded
  errors : List WorkerError

namespace Ledger

/-- The ledger without its numbers. -/
def tally (l : Ledger) : Tally := ⟨l.records.map (·.measurement), l.errors⟩

/-- The ledger of no workers. -/
def empty : Ledger := ⟨[], []⟩

/-- The ledger with a record behind the others. -/
def addRecord (l : Ledger) (r : Recorded) : Ledger := { l with records := l.records ++ [r] }

/-- The ledger with an error behind the others. -/
def addError (l : Ledger) (mode : Mode) (message : String) : Ledger :=
  { l with errors := l.errors ++ [⟨mode, message⟩] }

/-- Two ledgers, one behind the other. -/
def merge (a b : Ledger) : Ledger := ⟨a.records ++ b.records, a.errors ++ b.errors⟩

/-- Any number of ledgers, one behind the other. -/
def mergeAll (ls : List Ledger) : Ledger := ls.foldl merge empty

/-- The records and errors of one direction. -/
def forMode (l : Ledger) (mode : Mode) : Ledger :=
  ⟨l.records.filter fun r => r.measurement.mode = mode, l.errors.filter fun e => e.mode = mode⟩

/-- The ledger of one worker, whose measurement is recorded under a number. -/
def ofOutcome (number : Nat) (o : Outcome) : Ledger :=
  ⟨o.measurement.toList.map (Recorded.mk number), o.errors.map fun message => ⟨o.mode, message⟩⟩

/-- The ledger of the workers of a phase, whose measurements are recorded under the numbers from a
first one on. -/
def ofOutcomes (first : Nat) (os : List Outcome) : Ledger :=
  mergeAll ((os.zipIdx first).map fun entry => ofOutcome entry.2 entry.1)

/-- Do two ledgers agree, record by record and error by error? -/
def agrees (a b : Ledger) : Bool :=
  a.records.length == b.records.length &&
    (a.records.zip b.records).all (fun pair => pair.1.agrees pair.2) && a.errors == b.errors

/-! ## Laws -/

@[simp]
theorem tally_empty : empty.tally = .empty := rfl

@[simp]
theorem tally_addRecord (l : Ledger) (r : Recorded) :
    (l.addRecord r).tally = l.tally.addPoint r.measurement := by
  simp [tally, addRecord, Tally.addPoint]

@[simp]
theorem tally_addError (l : Ledger) (mode : Mode) (message : String) :
    (l.addError mode message).tally = l.tally.addError mode message := rfl

@[simp]
theorem tally_merge (a b : Ledger) : (a.merge b).tally = a.tally.merge b.tally := by
  simp [tally, merge, Tally.merge]

@[simp]
theorem tally_forMode (l : Ledger) (mode : Mode) :
    (l.forMode mode).tally = l.tally.forMode mode := by
  simp [tally, forMode, Tally.forMode, List.filter_map, Function.comp_def]

@[simp]
theorem tally_ofOutcome (number : Nat) (o : Outcome) :
    (ofOutcome number o).tally = Tally.ofOutcome o := by
  cases h : o.measurement <;> simp [tally, ofOutcome, Tally.ofOutcome, h]

theorem tally_mergeAll (ls : List Ledger) : (mergeAll ls).tally = .mergeAll (ls.map tally) := by
  suffices ∀ start : Ledger,
      (ls.foldl merge start).tally = (ls.map tally).foldl Tally.merge start.tally from this empty
  induction ls with
  | nil => exact fun _ => rfl
  | cons l ls ih => exact fun start => by simp [ih]

theorem tally_ofOutcomes (first : Nat) (os : List Outcome) :
    (ofOutcomes first os).tally = .ofOutcomes os := by
  simp only [ofOutcomes, tally_mergeAll, Tally.ofOutcomes, List.map_map, Function.comp_def,
    tally_ofOutcome]
  congr 1
  induction os generalizing first with
  | nil => rfl
  | cons o os ih => simp [List.zipIdx_cons, ih]

end Ledger
end StoreMeter
