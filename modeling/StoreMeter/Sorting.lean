/-
# Sorting — sorting by a comparison that need not be an order

Numbers that are no numbers are comparable to nothing, and where they end up in a sorted list hangs
on which comparisons are made.  So the sort is fixed down to its comparisons: it cuts the list into
runs that are in order already, lengthens short ones, and merges neighbouring runs two at a time.

A merge takes item by item as long as both runs take turns, and in strides when one of them wins many
times in a row.  How many is many is adapted to the list on the way.  Where the comparison is an
order the result is the one stable arrangement.
-/
namespace StoreMeter
namespace Sorting

variable {α : Type}

/-! ## Searching -/

/-- The first place between two bounds where a test does not hold, by halving. -/
def boundary (holds : Nat → Bool) (low high : Nat) : Nat :=
  if low < high then
    let middle := low + (high - low) / 2
    if holds middle then boundary holds (middle + 1) high else boundary holds low middle
  else high
termination_by high - low

/-- The distances 1, 3, 7 and so on up to a limit, as long as a test holds for them: the last one
where it holds, which is zero if it never does, and the one after it. -/
def strides (holds : Nat → Bool) (limit last next : Nat) : Nat × Nat :=
  if next < limit then
    if holds next then strides holds limit next (2 * next + 1) else (last, next)
  else (last, limit)
termination_by limit - next

/-- The first place of a list of some size where a test does not hold: in strides from a place on, up
or down, and then by halving. -/
def gallop (holds : Nat → Bool) (size start : Nat) : Nat :=
  if holds start then
    let (last, next) := strides (fun distance => holds (start + distance)) (size - start) 0 1
    boundary holds (start + last + 1) (start + next)
  else
    let (last, next) := strides (fun distance => !holds (start - distance)) (start + 1) 0 1
    boundary holds (start + 1 - next) (start - last)

/-- A test of the item at a place. -/
def testAt (xs : List α) (test : α → Bool) (place : Nat) : Bool := (xs[place]?).any test

/-! ## Merging -/

/-- The number of wins in a row at which strides are worth while. -/
def longStreak : Nat := 7

/-- How two neighbouring runs are merged.  A merge works from one end and keeps the shorter run
apart; it takes from the longer run if the comparison says so. -/
structure Way (α : Type) where
  /-- Is the item of the longer run taken before the one of the shorter run? -/
  takesLong : α → α → Bool
  /-- The number of items of the shorter run before the next item of the longer run. -/
  countShort : α → List α → Nat
  /-- The number of items of the longer run before the next item of the shorter run. -/
  countLong : α → List α → Nat
  /-- Do strides begin with the shorter run? -/
  shortFirst : Bool

/-- The way from the first items on, where the left run is the shorter one. -/
def Way.forward (lt : α → α → Bool) : Way α where
  takesLong short long := lt long short
  countShort long shorts := gallop (testAt shorts fun x => !lt long x) shorts.length 0
  countLong short longs := gallop (testAt longs fun x => lt x short) longs.length 0
  shortFirst := true

/-- The way from the last items on, where the right run is the shorter one; the runs are given with
their last items first. -/
def Way.backward (lt : α → α → Bool) : Way α where
  takesLong short long := lt short long
  countShort long shorts :=
    let test := testAt shorts.reverse fun x => lt x long
    shorts.length - gallop test shorts.length (shorts.length - 1)
  countLong short longs :=
    let test := testAt longs.reverse fun x => !lt short x
    longs.length - gallop test longs.length (longs.length - 1)
  shortFirst := false

/-- A merge on its way: what is merged, the last item first, and what is left of both runs. -/
structure Merging (α : Type) where
  /-- The number of wins in a row at which strides are tried. -/
  patience : Nat
  merged : List α
  short : List α
  long : List α

namespace Merging

/-- Is the order of what is left known?  The last item of the shorter run goes behind the longer
run. -/
def isDone (m : Merging α) : Bool := m.long.isEmpty || m.short.length ≤ 1

/-- Takes so many items of the shorter run. -/
def takeShort (m : Merging α) (count : Nat) : Merging α :=
  { m with merged := (m.short.take count).reverse ++ m.merged, short := m.short.drop count }

/-- Takes so many items of the longer run. -/
def takeLong (m : Merging α) (count : Nat) : Merging α :=
  { m with merged := (m.long.take count).reverse ++ m.merged, long := m.long.drop count }

/-- Everything in its order. -/
def result (m : Merging α) : List α := m.merged.reverse ++ m.long ++ m.short

/-- Takes item by item until one run has won so many times in a row that strides are tried; `limit`
bounds the number of items. -/
def singly (way : Way α) (fromLong : Bool) (streak : Nat) : Nat → Merging α → Merging α
  | 0, m => m
  | limit + 1, m =>
    match m.short, m.long with
    | short :: _, long :: _ =>
      let wins := way.takesLong short long
      let m := if wins then m.takeLong 1 else m.takeShort 1
      let streak := if wins == fromLong then streak + 1 else 1
      if m.isDone || m.patience ≤ streak then m else singly way wins streak limit m
    | _, _ => m

/-- Takes the items of the shorter run that come before the next item of the longer run, and then
that one; also returns the number of the former. -/
def strideShort (way : Way α) (m : Merging α) : Merging α × Nat :=
  match m.long with
  | [] => (m, 0)
  | long :: _ =>
    let count := way.countShort long m.short
    let m := m.takeShort count
    (if m.isDone then m else m.takeLong 1, count)

/-- Takes the items of the longer run that come before the next item of the shorter run, and then
that one; also returns the number of the former. -/
def strideLong (way : Way α) (m : Merging α) : Merging α × Nat :=
  match m.short with
  | [] => (m, 0)
  | short :: _ =>
    let count := way.countLong short m.long
    let m := m.takeLong count
    (if m.isDone then m else m.takeShort 1, count)

/-- One stride in each run; also returns the greater number of items. -/
def strideBoth (way : Way α) (m : Merging α) : Merging α × Nat :=
  let (m, first) := if way.shortFirst then m.strideShort way else m.strideLong way
  if m.isDone then (m, first)
  else
    let (m, second) := if way.shortFirst then m.strideLong way else m.strideShort way
    (m, max first second)

/-- Takes strides as long as they are long.  Every further round makes strides more likely later on,
and their end makes them less likely. -/
def inStrides (way : Way α) : Nat → Merging α → Merging α
  | 0, m => m
  | limit + 1, m =>
    let (m, count) := strideBoth way { m with patience := max 1 (m.patience - 1) }
    if m.isDone then m
    else if longStreak ≤ count then inStrides way limit m
    else { m with patience := m.patience + 1 }

/-- Merges item by item and in strides by turns. -/
def finish (way : Way α) : Nat → Merging α → Merging α
  | 0, m => m
  | limit + 1, m =>
    if m.isDone then m
    else
      let m := singly way false 0 (m.short.length + m.long.length) m
      if m.isDone then m
      else
        let eager := { m with patience := m.patience + 1 }
        finish way limit (inStrides way (m.short.length + m.long.length) eager)

/-- Merges two runs of which the first item of the longer one comes first; also returns how many
wins in a row now count as many. -/
def run (way : Way α) (patience : Nat) (short long : List α) : List α × Nat :=
  let start : Merging α := { patience, merged := [], short, long }
  let m := finish way (short.length + long.length) (start.takeLong 1)
  (m.result, m.patience)

end Merging

/-- Merges two neighbouring runs, one at least of which is not empty.  The items of the left run up to
the first one of the right run stay where they are, and so do the items of the right run from the
last one of the left run on. -/
def merge (lt : α → α → Bool) (patience : Nat) (left right : List α) : List α × Nat :=
  match right with
  | [] => (left, patience)
  | first :: _ =>
    -- what stands in its place at either end is not merged
    let place := gallop (testAt left fun x => !lt first x) left.length 0
    let front := left.take place
    let left := left.drop place
    match left.getLast? with
    | none => (front ++ right, patience)
    | some last =>
      let place := gallop (testAt right fun x => lt x last) right.length (right.length - 1)
      let back := right.drop place
      let right := right.take place
      if right.isEmpty then (front ++ left ++ back, patience)
      else if left.length ≤ right.length then
        let (middle, patience) := Merging.run (.forward lt) patience left right
        (front ++ middle ++ back, patience)
      else
        let (middle, patience) := Merging.run (.backward lt) patience right.reverse left.reverse
        (front ++ middle.reverse ++ back, patience)

/-! ## Runs -/

/-- Splits the run at the start of a list off, where each item stands to the one before it as the
first two do. -/
def splitRun (lt : α → α → Bool) (falling : Bool) : α → List α → List α × List α
  | _, [] => ([], [])
  | before, x :: rest =>
    if lt x before = falling then
      let (run, rest) := splitRun lt falling x rest
      (x :: run, rest)
    else ([], x :: rest)

/-- Inserts an item into a run, behind its equals. -/
def insert (lt : α → α → Bool) (run : List α) (x : α) : List α :=
  let place := boundary (testAt run fun y => !lt x y) 0 run.length
  run.take place ++ x :: run.drop place

/-- The run at the start of a list and the rest.  A falling run is turned round, and a run that is
shorter than a given length gets further items inserted. -/
def cutRun (lt : α → α → Bool) (length : Nat) : List α → List α × List α
  | x :: y :: rest =>
    -- equals do not fall, so turning a run round does not change their order
    let falling := lt y x
    let (others, rest) := splitRun lt falling x (y :: rest)
    let run := if falling then (x :: others).reverse else x :: others
    let missing := length - run.length
    ((rest.take missing).foldl (insert lt) run, rest.drop missing)
  | xs => (xs, [])

/-- The length of a run in a list: the number of items, halved and rounded up until it is below
sixty-four, where the rounding is made once at the end. -/
def runLength (roundsUp : Bool) (n : Nat) : Nat :=
  if n < 64 then n + roundsUp.toNat else runLength (roundsUp || n % 2 = 1) (n / 2)
termination_by n

/-! ## The order of the merges -/

/-- A run that waits to be merged: its place in the list and its items. -/
structure Run (α : Type) where
  start : Nat
  items : List α
  /-- How deep the border to the run behind it lies. -/
  depth : Nat := 0

/-- The depth of the border between two runs of a list of some size: the first binary place where
the middles of the runs, as fractions of the list, differ. -/
def borderDepth (size start left right : Nat) : Nat :=
  let first := 2 * start + left
  let second := first + left + right
  let differs (place : Nat) : Bool :=
    first * Nat.pow 2 place / (2 * size) != second * Nat.pow 2 place / (2 * size)
  ((List.range (size.log2 + 3)).find? differs).getD 0

/-- Merges the last run with those before it whose borders lie deeper than a given one. -/
def settle (lt : α → α → Bool) (depth patience : Nat) (last : Run α) :
    List (Run α) → List (Run α) × Nat
  | [] => ([{ last with depth }], patience)
  | run :: before =>
    if depth < run.depth then
      let (items, patience) := merge lt patience run.items last.items
      settle lt depth patience { run with items } before
    else ({ last with depth } :: run :: before, patience)

/-- Merges all runs, the last one first. -/
def mergeRuns (lt : α → α → Bool) : Nat → Nat → List (Run α) → List α
  | _, _, [] => []
  | _, _, [run] => run.items
  | 0, _, runs => (runs.reverse.map Run.items).flatten
  | limit + 1, patience, last :: run :: [] =>
    let (items, patience) := merge lt patience run.items last.items
    mergeRuns lt limit patience [{ run with items }]
  | limit + 1, patience, last :: run :: other :: before =>
    if other.items.length < last.items.length then
      let (items, patience) := merge lt patience other.items run.items
      mergeRuns lt limit patience (last :: { other with items } :: before)
    else
      let (items, patience) := merge lt patience run.items last.items
      mergeRuns lt limit patience ({ run with items } :: other :: before)

/-- Cuts a list of some size into runs, the last one first, and merges some of them on the way;
`limit` bounds the number of runs. -/
def collect (lt : α → α → Bool) (size length : Nat) :
    Nat → Nat → List (Run α) → List α → List (Run α) × Nat
  | limit + 1, patience, runs, x :: rest =>
    let (items, rest) := cutRun lt length (x :: rest)
    match runs with
    | [] => collect lt size length limit patience [{ start := 0, items }] rest
    | last :: before =>
      let depth := borderDepth size last.start last.items.length items.length
      let (runs, patience) := settle lt depth patience last before
      let start := last.start + last.items.length
      collect lt size length limit patience ({ start, items } :: runs) rest
  | _, patience, runs, [] => (runs, patience)
  | 0, patience, runs, rest => ({ start := 0, items := rest } :: runs, patience)

/-- The items of a list in ascending order. -/
def sort (lt : α → α → Bool) (xs : List α) : List α :=
  let size := xs.length
  -- the patience that the merges on the way have learned is kept for the last ones
  let (runs, patience) := collect lt size (runLength false size) size longStreak [] xs
  mergeRuns lt runs.length patience runs

/-- The items of a list in descending order; equals keep their order. -/
def sortDescending (lt : α → α → Bool) (xs : List α) : List α := (sort lt xs.reverse).reverse

end Sorting
end StoreMeter
