import StoreMeter.Proofs.Writing
/-
# Proofs.Reading — a read task, from its first call on the storage to its outcome

A reader asks its stream for one block after another and never knows how much it will get: a block
may be shorter than what was asked for, and an empty one is the end.  So how often a reader asks is
up to the stream.  The calls of a read task are kept with their answers, as those of a write task
are, and the whole of it is told by them (`ReadCourse`): it opens its object, reads until all is
counted or a block is empty or a read fails (`Fetched`), and closes the stream.

The facts about the reads of a task are facts about the list of its reads alone: what each of them
asks for (`Thrifty`), how many there are and how many bytes they come to (`delivered`).  Where a
stream has a fixed string of bytes (`Streams`), the count does not depend on the blocks in which it
is delivered.
-/
namespace StoreMeter
namespace Worker

open Storage (Operation)
open Storage.S3 (joined)

variable {S : Type}

/-! ## Blocks -/

namespace Exchange

/-- Is the call a read? -/
def isRead (e : Exchange S) : Bool :=
  match e.op with
  | .read _ _ => true
  | _ => false

/-- The block that a call has read; a call that fails, or reads nothing, has an empty one. -/
def block : Exchange S → ByteArray
  | ⟨.read _ _, (_, .ok block)⟩ => block
  | _ => .empty

/-- A read of so many bytes does not come to more. -/
def Modest : Exchange S → Prop
  | ⟨.read _ (some size), (_, .ok block)⟩ => 0 < size → (block.size : Int) ≤ size
  | _ => True

end Exchange

/-- The reads among some calls. -/
def reads (calls : List (Exchange S)) : List (Exchange S) := calls.filter Exchange.isRead

/-- How many bytes some calls have read. -/
def delivered (calls : List (Exchange S)) : Nat := (calls.map fun e => e.block.size).sum

/-- All bytes that some calls have read, one block behind another. -/
def gathered (calls : List (Exchange S)) : ByteArray := joined (calls.map Exchange.block)

@[simp]
theorem delivered_nil : delivered ([] : List (Exchange S)) = 0 := rfl

@[simp]
theorem delivered_cons (e : Exchange S) (calls : List (Exchange S)) :
    delivered (e :: calls) = e.block.size + delivered calls := rfl

theorem delivered_concat (calls : List (Exchange S)) (e : Exchange S) :
    delivered (calls ++ [e]) = delivered calls + e.block.size := by
  simp [delivered]

theorem size_gathered (calls : List (Exchange S)) : (gathered calls).size = delivered calls := by
  induction calls with
  | nil => rfl
  | cons e calls ih =>
    show (e.block ++ gathered calls).size = e.block.size + delivered calls
    rw [ByteArray.size_append, ih]

/-! ## What the reads of a stream are like -/

/-- Each read asks for what is left of an amount, or for a whole buffer if more is left.  Something
is left, and no read before has failed or come to an empty block. -/
def Thrifty (bufferSize : Int) (size : Nat) (calls : List (Exchange S)) : Prop :=
  ∀ before e after, calls = before ++ e :: after →
    (∃ stream, e.op = .read stream (some (min bufferSize (size - delivered before)))) ∧
      delivered before < size ∧ ∀ earlier ∈ before, earlier.block.size ≠ 0

/-- Reads stop where all of an amount is counted, or with an empty block. -/
def Stops (size : Nat) (calls : List (Exchange S)) : Prop :=
  size ≤ delivered calls ∨ ∃ before e, calls = before ++ [e] ∧ e.block.size = 0

/-- Reads of a stream that has a fixed string of bytes: each of them gets the bytes that come next,
and an empty block only where there are none left. -/
def Streams (data : ByteArray) (calls : List (Exchange S)) : Prop :=
  ∀ before e after, calls = before ++ e :: after →
    ∃ rest, data = gathered before ++ e.block ++ rest ∧ (e.block.size = 0 → rest.size = 0)

/-! ## The reads of a task -/

/-- The reads of a task that has counted so many bytes: one after another, each on the stream that
the one before has left, until all is counted or a block is empty, which comes to a count, or one
fails. -/
inductive Fetched (bufferSize : Int) (size : Nat) :
    Nat → S → List (Exchange S) → S → Except Fault Nat → Prop
  | full {count : Nat} {stream : S} (all : size ≤ count) :
    Fetched bufferSize size count stream [] stream (.ok count)
  | failed {count : Nat} {stream : S} (more : count < size) (after : S) (fault : Fault) :
    Fetched bufferSize size count stream
      [⟨.read stream (some (min bufferSize (size - count))), (after, .error fault)⟩] after
      (.error fault)
  | ended {count : Nat} {stream : S} (more : count < size) (after : S) {block : ByteArray}
      (empty : block.size = 0) :
    Fetched bufferSize size count stream
      [⟨.read stream (some (min bufferSize (size - count))), (after, .ok block)⟩] after (.ok count)
  | further {count : Nat} {stream after last : S} (more : count < size) {block : ByteArray}
      (filled : block.size ≠ 0) {later : List (Exchange S)} {result : Except Fault Nat}
      (onward : Fetched bufferSize size (count + block.size) after later last result) :
    Fetched bufferSize size count stream
      (⟨.read stream (some (min bufferSize (size - count))), (after, .ok block)⟩ :: later) last
      result

namespace Fetched

variable {bufferSize : Int} {size count : Nat} {stream last : S} {calls : List (Exchange S)}
variable {result : Except Fault Nat}

/-- All of these calls are reads. -/
theorem reads_eq (h : Fetched bufferSize size count stream calls last result) :
    reads calls = calls := by
  induction h with
  | full | failed | ended => rfl
  | further _ _ _ ih =>
    show _ :: reads _ = _
    rw [ih]

/-- There are no more reads than bytes that are wanted: all reads but the last come to some. -/
theorem length_le (h : Fetched bufferSize size count stream calls last result) :
    calls.length ≤ size - count := by
  induction h with
  | full => exact Nat.zero_le _
  | failed more | ended more =>
    simp only [List.length_singleton]
    omega
  | further more filled _ ih =>
    simp only [List.length_cons]
    omega

/-- What the reads come to is the sum of their blocks. -/
theorem counts (h : Fetched bufferSize size count stream calls last result) {bytes : Nat}
    (counted : result = .ok bytes) : bytes = count + delivered calls := by
  induction h with
  | full =>
    cases counted
    rfl
  | failed => cases counted
  | ended more after empty =>
    cases counted
    simp [Exchange.block, empty]
  | further _ _ _ ih =>
    rw [ih counted, delivered_cons, Nat.add_assoc]
    rfl

theorem stops (h : Fetched bufferSize size count stream calls last result) {bytes : Nat}
    (counted : result = .ok bytes) :
    size ≤ count + delivered calls ∨ ∃ before e, calls = before ++ [e] ∧ e.block.size = 0 := by
  induction h with
  | full all => exact .inl all
  | failed => cases counted
  | ended more after empty => exact .inr ⟨[], _, rfl, empty⟩
  | further _ _ _ ih =>
    -- the first block counts, and the list of reads is one longer
    refine (ih counted).imp (fun enough => ?_) ?_
    · simpa [Exchange.block, Nat.add_assoc] using enough
    · rintro ⟨before, e, rfl, empty⟩
      exact ⟨_ :: before, e, rfl, empty⟩

theorem thrifty (h : Fetched bufferSize size count stream calls last result) :
    ∀ before e after, calls = before ++ e :: after →
      (∃ stream,
        e.op = .read stream (some (min bufferSize (size - (count + delivered before : Nat)))))
        ∧ count + delivered before < size ∧ ∀ earlier ∈ before, earlier.block.size ≠ 0 := by
  induction h with
  | full =>
    intro before e after split
    simp at split
  | failed more | ended more =>
    intro before e after split
    obtain ⟨rfl, same⟩ := List.singleton_eq_append_iff.1 split |>.resolve_right (by simp)
    obtain ⟨rfl, -⟩ := List.cons_eq_cons.1 same
    exact ⟨⟨_, rfl⟩, more, by simp⟩
  | further more filled _ ih =>
    intro before e after split
    -- the read is the first one, or one of those behind it, which count from the first block on
    cases before with
    | nil =>
      obtain ⟨rfl, -⟩ := List.cons_eq_cons.1 split
      exact ⟨⟨_, rfl⟩, more, by simp⟩
    | cons first before =>
      obtain ⟨rfl, later⟩ := List.cons_eq_cons.1 split
      obtain ⟨asked, left, some_bytes⟩ := ih before e after later
      rw [Nat.add_assoc] at asked left
      exact ⟨asked, left, List.forall_mem_cons.2 ⟨filled, some_bytes⟩⟩

/-- Where no read comes to more than what it asked for, no byte beyond the amount is counted. -/
theorem delivered_le (h : Fetched bufferSize size count stream calls last result)
    (positive : 0 < bufferSize) (modest : ∀ e ∈ calls, e.Modest) (few : count ≤ size) :
    count + delivered calls ≤ size := by
  induction h with
  | full => exact few
  | failed => exact few
  | ended more after empty => simpa [Exchange.block, empty] using few
  | @further count stream after last more block filled later result onward ih =>
    have within : (block.size : Int) ≤ min bufferSize (size - count) :=
      modest _ List.mem_cons_self (by omega)
    have rest := ih (fun e member => modest e (List.mem_cons_of_mem _ member)) (by omega)
    rw [delivered_cons, ← Nat.add_assoc]
    exact rest

end Fetched

/-- A fixed string of bytes has all that was read of it. -/
theorem Streams.delivered_le {calls : List (Exchange S)} {data : ByteArray}
    (streams : Streams data calls) : delivered calls ≤ data.size := by
  rcases List.eq_nil_or_concat' calls with rfl | ⟨before, e, rfl⟩
  · exact Nat.zero_le _
  · obtain ⟨rest, rfl, -⟩ := streams before e [] rfl
    simp only [ByteArray.size_append, size_gathered, delivered_concat]
    omega

/-- What is counted of a fixed string of bytes is the amount, or all of it if it is shorter. -/
theorem Streams.delivered_eq {size : Nat} {calls : List (Exchange S)} {data : ByteArray}
    (streams : Streams data calls) (stops : Stops size calls) (few : delivered calls ≤ size) :
    delivered calls = min size data.size := by
  have most := streams.delivered_le
  rcases stops with enough | ⟨before, e, rfl, empty⟩
  · omega
  · obtain ⟨rest, rfl, last⟩ := streams before e [] rfl
    -- the empty block says that all was read
    have none_left := last empty
    simp only [ByteArray.size_append, size_gathered, delivered_concat, empty, none_left] at few ⊢
    omega

/-! ## The course of a read task -/

/-- What a reader comes to that met a failure, with the messages of its closing: a failure of the
system becomes the first message, and any other ends the reader. -/
def unread (index : Int) (path : String) (fault : Fault) (closing : List String) :
    Except Fault Outcome :=
  if fault.isSystem then
    .ok ⟨index, .read, none, s!"Failed to read {path}: {fault.text}" :: closing⟩
  else .error fault

/-- All calls of a read task with their answers, and what the task comes to.  There is no stream to
close where none was opened; otherwise the last call is the only one that closes the stream.  A
measurement is made if no call before it failed. -/
inductive ReadCourse (index : Int) (path : String) (bufferSize : Int) (size : Nat) :
    List (Exchange S) → Except Fault Outcome → Prop
  | unopened (fault : Fault) :
    ReadCourse index path bufferSize size [⟨.openRead path, .error fault⟩]
      (unread index path fault [])
  | unread {stream last : S} {calls : List (Exchange S)} {fault : Fault}
      (fetched : Fetched bufferSize size 0 stream calls last (.error fault)) (after : S)
      (closed : Except Fault Unit) :
    ReadCourse index path bufferSize size
      (⟨.openRead path, .ok stream⟩ :: (calls ++ [⟨.close last, (after, closed)⟩]))
      (unread index path fault (closingMessages path closed))
  | measured {stream last : S} {calls : List (Exchange S)} {bytes : Nat}
      (fetched : Fetched bufferSize size 0 stream calls last (.ok bytes)) (after : S)
      (closed : Except Fault Unit) {start now : Binary64} (ticks : Binary64.le start now = true) :
    ReadCourse index path bufferSize size
      (⟨.openRead path, .ok stream⟩ :: (calls ++ [⟨.close last, (after, closed)⟩]))
      (.ok ⟨index, .read, some ⟨.read, .real (now.sub start), bytes⟩, closingMessages path closed⟩)

namespace ReadCourse

variable {index : Int} {path : String} {bufferSize : Int} {size : Nat} {seen : List (Exchange S)}
variable {result : Except Fault Outcome}

/-- The reads of a task are those on its stream. -/
theorem reads_of_opened {stream last after : S} {calls : List (Exchange S)}
    {fetched? : Except Fault Nat} {closed : Except Fault Unit}
    (fetched : Fetched bufferSize size 0 stream calls last fetched?) :
    reads (⟨.openRead path, .ok stream⟩ :: (calls ++ [⟨.close last, (after, closed)⟩])) =
      calls := by
  show reads (calls ++ _) = calls
  rw [reads, List.filter_append]
  show reads calls ++ [] = calls
  rw [List.append_nil, fetched.reads_eq]

/-- The reads of a task that has opened its object are fetched one after another. -/
theorem reads_fetched (h : ReadCourse index path bufferSize size seen result) :
    reads seen = [] ∨ ∃ stream last fetched?,
      Fetched bufferSize size 0 stream (reads seen) last fetched? := by
  cases h with
  | unopened => exact .inl rfl
  | unread fetched | measured fetched =>
    rw [reads_of_opened fetched]
    exact .inr ⟨_, _, _, fetched⟩

theorem thrifty (h : ReadCourse index path bufferSize size seen result) :
    Thrifty bufferSize size (reads seen) := by
  intro before e after split
  rcases h.reads_fetched with none_there | ⟨stream, last, fetched?, fetched⟩
  · rw [none_there] at split
    simp at split
  · simpa using fetched.thrifty before e after split

theorem length_reads (h : ReadCourse index path bufferSize size seen result) :
    (reads seen).length ≤ size := by
  rcases h.reads_fetched with none_there | ⟨stream, last, fetched?, fetched⟩
  · simp [none_there]
  · exact fetched.length_le

theorem delivered_le (h : ReadCourse index path bufferSize size seen result)
    (positive : 0 < bufferSize) (modest : ∀ e ∈ reads seen, e.Modest) :
    delivered (reads seen) ≤ size := by
  rcases h.reads_fetched with none_there | ⟨stream, last, fetched?, fetched⟩
  · simp [none_there]
  · simpa using fetched.delivered_le positive modest (Nat.zero_le size)

/-- A measurement counts the bytes of all reads, which have stopped where they should. -/
theorem counted {outcome : Outcome} {m : Measurement}
    (h : ReadCourse index path bufferSize size seen (.ok outcome))
    (measured : outcome.measurement = some m) :
    m.bytes = delivered (reads seen) ∧ Stops size (reads seen) := by
  generalize told : Except.ok outcome = result at h
  cases h with
  | measured fetched =>
    cases told
    cases measured
    rw [reads_of_opened fetched]
    have sum := fetched.counts rfl
    have stops := fetched.stops rfl
    rw [Nat.zero_add] at sum stops
    exact ⟨congrArg Nat.cast sum, stops⟩
  -- without a count there is no measurement
  | unopened fault | unread =>
    unfold Worker.unread at told
    split at told
    · cases told
      cases measured
    · cases told

end ReadCourse

/-! ## Every read task takes this course -/

section
variable {index : Int} {path : String} {bufferSize : Int} {size : Nat}

/-- The calls of a reader on its stream. -/
theorem readBlocks_fetched {stream : S} {r : Record S} :
    (readBlocks bufferSize size stream 0).Ends (recorded S) (fun moved r' => ∃ calls,
      r' = { r with seen := r.seen ++ calls } ∧
        Fetched bufferSize size 0 stream calls moved.1 moved.2) r := by
  -- the reads so far are completed by those that come behind them
  refine readBlocks_ends (fun count after r' => ∃ calls, r' = { r with seen := r.seen ++ calls } ∧
    ∀ later last result, Fetched bufferSize size count after later last result →
      Fetched bufferSize size 0 stream (calls ++ later) last result) ?_ ?_ size rfl
    ⟨[], by simp, fun _ _ _ => id⟩
  · rintro count stream _ more ⟨calls, rfl, onward⟩
    refine ends_storage ?_
    rintro ⟨after, fault | block⟩
    · exact ⟨_, by simp, onward _ _ _ (.failed more after fault)⟩
    · refine ⟨fun empty => ⟨_, by simp, onward _ _ _ (.ended more after empty)⟩, fun filled => ?_⟩
      refine ⟨calls ++ [⟨.read stream (some (min bufferSize (size - count))), (after, .ok block)⟩],
        by simp, fun later last result h => ?_⟩
      rw [List.append_assoc]
      exact onward _ _ _ (.further more filled h)
  · rintro count stream _ enough ⟨calls, rfl, onward⟩
    have all := onward [] stream (.ok count) (.full enough)
    rw [List.append_nil] at all
    exact ⟨calls, rfl, all⟩

theorem conclude_unread (index : Int) (path : String) (fault : Fault) (closing : List String) :
    conclude .read index (attemptMessages .read path (.error fault) ++ closing) (.error fault) =
      unread index path fault closing := by
  have words : s!"{(wording .read).fails} {path}: {fault.text}" =
      s!"Failed to read {path}: {fault.text}" := by
    simp [wording]
    rfl
  rw [conclude_failed, words]
  rfl

theorem readTask_readCourse (time : Option Binary64) :
    (readTask (S := S) index path size bufferSize).Ends (recorded S)
      (fun result r => ReadCourse index path bufferSize size r.seen result) { time } := by
  refine measured_of_quiet recorded_silent (quiet_calls (fun reply => ⟨.openRead path, reply⟩)
    (Fetched bufferSize size 0) (fun {r goal} => @ends_storage S (.openRead path) r goal)
    readBlocks_fetched ?_ ?_ fun fetched => .measured fetched)
  · intro fault
    rw [conclude_unread]
    exact .unopened fault
  · intro stream last calls fault fetched after closed
    rw [conclude_unread]
    exact .unread fetched after closed

end

/-! ## What a read task comes to -/

/-- What is known of a read task when it is over. -/
structure ReadEnds (index : Int) (path : String) (bufferSize : Int) (size : Nat)
    (seen : List (Exchange S)) (result : Except Fault Outcome) : Prop where
  course : ReadCourse index path bufferSize size seen result
  /-- Each read asks for something, and never for bytes beyond the amount. -/
  thrifty : Thrifty bufferSize size (reads seen)
  /-- The stream cannot keep the task from ending. -/
  few : (reads seen).length ≤ size
  /-- No byte beyond the amount is counted. -/
  within : (∀ e ∈ reads seen, e.Modest) → delivered (reads seen) ≤ size
  /-- What is measured is what the reads have come to when they stopped. -/
  counted : ∀ outcome m, result = .ok outcome → outcome.measurement = some m →
    m.bytes = delivered (reads seen) ∧ Stops size (reads seen)
  /-- What is measured of a fixed string of bytes does not depend on the size of the buffer. -/
  fixed : ∀ data outcome m, Streams data (reads seen) → (∀ e ∈ reads seen, e.Modest) →
    result = .ok outcome → outcome.measurement = some m → m.bytes = min size data.size

/-- Whatever its storage answers, call for call, a read task comes to its end and takes its course:
it opens its object, and asks for the next block until all is counted, a block is empty or a read
fails; a stream that was opened is closed once, behind all that; and the outcome is measured unless
one of these calls failed.  Blocks that keep to what was asked for never come to more than the
amount, and what is measured is the sum of them. -/
theorem readTask_course (index : Int) (path : String) {bufferSize : Int} (positive : 0 < bufferSize)
    (size : Nat) (time : Option Binary64) :
    (readTask (S := S) index path size bufferSize).Ends (recorded S)
      (fun result r => ReadEnds index path bufferSize size r.seen result) { time } := by
  refine (readTask_readCourse time).mono fun result r course => ?_
  refine ⟨course, course.thrifty, course.length_reads, course.delivered_le positive, ?_, ?_⟩
  · rintro outcome m rfl measured
    exact course.counted measured
  · rintro data outcome m streams modest rfl measured
    obtain ⟨sum, stops⟩ := course.counted measured
    rw [sum, streams.delivered_eq stops (course.delivered_le positive modest), Nat.cast_min]

/-- Five bytes, of which no read gets more than two, behind a stream that fails to close; a stream
is the place that it has come to. -/
def trickling : (op : Operation Nat) → op.Answer
  | .read place size =>
    let next := place + min 2 (size.getD 0).toNat
    (next, .ok (ByteArray.extract ⟨#[104, 101, 108, 108, 111]⟩ place next))
  | .close place => (place, .error (.runtime "Broken"))
  | .isPresent _ => .ok true
  | .makeDirs _ | .delete _ => .ok ()
  | .create _ | .openRead _ => .ok (0 : Nat)
  | .write place _ => (place, .ok 0)
  | .flush place => (place, .ok ())

/-- What a task in front of such a storage is answered, with a record of its calls. -/
def answeredInDrops : (op : Op Nat) → List (Exchange Nat) → op.Answer × List (Exchange Nat)
  | .storage op, seen => (trickling op, seen ++ [⟨op, trickling op⟩])
  | .clock, seen => (.zero false, seen)
  | .log _, seen => ((), seen)
  | .isLate _ _, seen => (false, seen)

/-- Ten bytes are wanted, three at a time: four reads come to the five that there are, the last of
them to none, and the closing that fails leaves the measurement. -/
theorem readTask_course_in_drops :
    let (result, seen) := (readTask 7 "object" 10 3).runWith answeredInDrops []
    (0 : Int) < 3 ∧ ReadEnds 7 "object" 3 10 seen result ∧
    (reads seen).map (fun e => e.block.size) = [2, 2, 1, 0] ∧
    result = .ok ⟨7, .read, some ⟨.read, .real (.zero false), 5⟩,
      ["Failed to close object: Broken"]⟩ := by
  have ends := readTask_course (S := Nat) 7 "object" (by decide : (0 : Int) < 3) 10
    (some (.zero false))
  let view (seen : List (Exchange Nat)) : Record Nat := ⟨seen, some (.zero false)⟩
  have answers (op : Op Nat) (seen : List (Exchange Nat)) : (recorded Nat).Answers (view seen) op
      (answeredInDrops op seen).1 (view (answeredInDrops op seen).2) := by
    cases op with
    | clock =>
      have shown : Concert.steady (some (.zero false)) (.zero false) = true := by decide
      exact ⟨shown, rfl⟩
    | storage _ | log _ | isLate _ _ => rfl
  have course := ends.runWith (E := effects Nat) answeredInDrops view answers (t := [])
  exact ⟨by decide, course, by decide +kernel, by decide +kernel⟩

end Worker
end StoreMeter
