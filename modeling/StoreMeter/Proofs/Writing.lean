import StoreMeter.Proofs.Concert.Backends
import StoreMeter.Proofs.Contents
import StoreMeter.Proofs.Errands
import StoreMeter.Proofs.Upload.Layout
/-
# Proofs.Writing — a write task, from its first call on the storage to its outcome

A task tells its storage everything it wants in single calls, and the storage may answer each of them
as it likes.  Here every call is kept with its answer (`recorded`), and the whole of a write task is
told by them: it creates its object, writes the blocks of the amount, flushes, and closes the stream
(`Course`).  The first call that fails ends the sequence, except that an open stream is closed in any
case; and the outcome follows from the answers alone.

What a task adds to the log changes nothing of this, so it is taken away first (`quiet`).
-/
namespace StoreMeter
namespace Worker

open Storage (Operation)
open Storage.S3 (joined partCount)

variable {S σ : Type}

/-! ## A task without its log entries -/

/-- The messages of an attempt. -/
def attemptMessages (mode : Mode) (path : String) : Except Fault Measurement → List String
  | .ok _ => []
  | .error fault =>
    if fault.isSystem then [s!"{(wording mode).fails} {path}: {fault.text}"] else []

/-- The messages of a closing. -/
def closingMessages (path : String) : Except Fault Unit → List String
  | .ok () => []
  | .error fault => [s!"Failed to close {path}: {fault.text}"]

/-- The measurement of a transfer that came to a count, or the failure that it met. -/
def timed (mode : Mode) (start : Binary64) :
    Except Fault Nat → Program S (Except Fault Measurement)
  | .error fault => pure (.error fault)
  | .ok bytes => do
    let now ← clock
    pure (Measurement.make mode (.real (now.sub start)) bytes)

/-- The frame of both tasks without its log entries. -/
def quiet (mode : Mode) (index : Int) (path : String) (opened : Program S (Except Fault S))
    (transfer : S → Program S (S × Except Fault Nat)) : Program S (Except Fault Outcome) := do
  let start ← clock
  match ← opened with
  | .error fault => pure (conclude mode index (attemptMessages mode path (.error fault)) (.error fault))
  | .ok stream =>
    let (stream, moved) ← transfer stream
    let result ← timed mode start moved
    let (_, closed) ← close stream
    pure (conclude mode index (attemptMessages mode path result ++ closingMessages path closed) result)

/-- The message of a failed attempt comes before those of the closing. -/
theorem conclude_failed (mode : Mode) (index : Int) (path : String) (fault : Fault)
    (closing : List String) :
    conclude mode index (attemptMessages mode path (.error fault) ++ closing) (.error fault) =
      if fault.isSystem then
        .ok ⟨index, mode, none, s!"{(wording mode).fails} {path}: {fault.text}" :: closing⟩
      else .error fault := by
  unfold conclude attemptMessages
  dsimp only
  split <;> rfl

section
variable {env : Surroundings (effects S) σ} {mode : Mode} {index : Int} {path : String}
variable {opened : Program S (Except Fault S)} {transfer : S → Program S (S × Except Fault Nat)}

theorem attemptErrors_told (silent : Silent env) (result : Except Fault Measurement)
    {goal : List String → σ → Prop} {s : σ} (h : goal (attemptMessages mode path result) s) :
    (attemptErrors (S := S) mode index path result).Ends env goal s := by
  cases result with
  | ok measurement => exact h
  | error fault =>
    unfold attemptMessages at h
    unfold attemptErrors
    dsimp only at h ⊢
    split
    · rename_i system
      rw [if_pos system] at h
      exact (silent.log_ends (P := goal _) _ h).bind fun _ _ h => h
    · rename_i other
      rwa [if_neg other] at h

theorem closeStream_told (silent : Silent env) {stream : S} {goal : List String → σ → Prop} {s : σ}
    (h : (close stream).Ends env (fun closed => goal (closingMessages path closed.2)) s) :
    (closeStream index path stream).Ends env goal s := by
  refine h.bind ?_
  rintro ⟨_, fault | ⟨⟨⟩⟩⟩ s done
  · exact (silent.log_ends (P := goal _) _ done).bind fun _ _ done => done
  · exact done

theorem finish_told (silent : Silent env) {start : Binary64} {bytes : Nat}
    {goal : Except Fault Measurement → σ → Prop} {s : σ}
    (h : (timed mode start (.ok bytes)).Ends env goal s) :
    (finish mode index path start bytes).Ends env goal s := by
  refine Prog.Ends.bind ((Prog.ends_bind clock _ _ _).1 h) fun now s made => ?_
  change goal (Measurement.make mode (.real (now.sub start)) bytes) s at made
  split
  · rename_i fault told
    rwa [told] at made
  · rename_i measurement told
    rw [told] at made
    exact (silent.log_ends (P := goal _) _ made).bind fun _ _ made => made

/-- A task comes to what it comes to without its log entries. -/
theorem measured_of_quiet (silent : Silent env) {size : Int} {goal : Except Fault Outcome → σ → Prop}
    {s : σ} (h : (quiet mode index path opened transfer).Ends env goal s) :
    (measured mode index path size opened transfer).Ends env goal s := by
  refine (silent.log_ends (P := fun s => (quiet mode index path opened transfer).Ends env goal s) _
    h).bind fun _ s h => ?_
  -- where the attempt ends, the messages around it lead to the goal
  have attempted : (attempt mode index path opened transfer).Ends env (fun attempted s =>
      (attemptErrors mode index path attempted.2).Ends env (fun errors s =>
        (closingErrors index path attempted.1).Ends env (fun closing s =>
          goal (conclude mode index (errors ++ closing) attempted.2) s) s) s) s := by
    refine Prog.Ends.bind ((Prog.ends_bind clock _ _ _).1 h) fun start s h => ?_
    refine Prog.Ends.bind ((Prog.ends_bind opened _ _ _).1 h) ?_
    rintro (fault | stream) s done
    · refine attemptErrors_told silent _ ?_
      change goal (conclude mode index (attemptMessages mode path _) _) s at done
      rwa [← List.append_nil (attemptMessages mode path _)] at done
    refine Prog.Ends.bind ((Prog.ends_bind (transfer stream) _ _ _).1 done) ?_
    rintro ⟨stream, moved⟩ s done
    have concludes {result : Except Fault Measurement} {s : σ}
        (h : (close stream).Ends env (fun closed => goal (conclude mode index
          (attemptMessages mode path result ++ closingMessages path closed.2) result)) s) :
        (attemptErrors mode index path result).Ends env (fun errors s =>
          (closingErrors index path (some stream)).Ends env (fun closing s =>
            goal (conclude mode index (errors ++ closing) result) s) s) s :=
      attemptErrors_told silent _ (closeStream_told silent h)
    have measures := (Prog.ends_bind (timed mode start moved) _ _ _).1 done
    cases moved with
    | error fault => exact concludes measures
    | ok bytes =>
      refine Prog.Ends.bind (finish_told silent measures) ?_
      exact fun result s closes => concludes closes
  exact attempted.bind fun attempted s told =>
    told.bind fun errors s told => told.bind fun closing s done => done

end

/-! ## The blocks of an amount -/

/-- The blocks in which an amount is written: each is the start of the payload, and all but the last
are the whole of it. -/
def blocks (payload : ByteArray) (size : Nat) : List ByteArray :=
  (List.range (partCount payload.size size)).map fun i =>
    payload.extract 0 (min payload.size (size - i * payload.size))

section
variable {payload : ByteArray}

theorem blocks_zero (given : payload.size ≠ 0) : blocks payload 0 = [] := by
  have none : partCount payload.size 0 = 0 := Nat.div_eq_of_lt (by omega)
  rw [blocks, none]
  rfl

/-- The first block, and those of what is left. -/
theorem blocks_of_pos (given : payload.size ≠ 0) {size : Nat} (positive : 0 < size) :
    blocks payload size = payload.extract 0 (min size payload.size) ::
      blocks payload (size - min size payload.size) := by
  -- the first block is the last one, or it is a whole one
  rcases Nat.le_total size payload.size with last | more
  · have one : partCount payload.size size = 1 := by
      rw [partCount, Nat.div_eq_iff (by omega)]
      omega
    rw [Nat.min_eq_left last, Nat.sub_self, blocks_zero given, blocks, one]
    simp [Nat.min_eq_right last]
  · have count : partCount payload.size size = partCount payload.size (size - payload.size) + 1 := by
      rw [partCount, partCount, ← Nat.add_div_right _ (by omega)]
      congr 1
      omega
    rw [Nat.min_eq_right more, blocks, count, List.range_succ_eq_map, List.map_cons, List.map_map,
      blocks]
    congr 1
    · simp [Nat.min_eq_left more]
    · refine List.map_congr_left fun i _ => ?_
      rw [Function.comp_apply, Nat.succ_mul, Nat.add_comm, ← Nat.sub_sub]

/-- All blocks together are the payload over and over, up to the amount. -/
theorem joined_blocks (given : payload.size ≠ 0) (size : Nat) :
    Repeats payload (joined (blocks payload size)) size := by
  have start (count : Nat) (few : count ≤ partCount payload.size size) :
      Repeats payload (joined ((List.range count).map fun i =>
        payload.extract 0 (min payload.size (size - i * payload.size))))
        (min size (count * payload.size)) := by
    -- after so many blocks: all of them are whole unless the amount is reached
    induction count with
    | zero => simpa [joined] using repeats_empty payload
    | succ count ih =>
      have whole := ih (Nat.le_of_succ_le few)
      have more : count * payload.size < size := by
        have least : (count + 1) * payload.size ≤ size + payload.size - 1 :=
          (Nat.le_div_iff_mul_le (Nat.pos_of_ne_zero given)).1 few
        rw [Nat.succ_mul] at least
        omega
      rw [Nat.min_eq_right more.le] at whole
      have longer := whole.append (Nat.mul_mod_left _ _)
        (Nat.min_le_left payload.size (size - count * payload.size))
      rw [List.range_succ, List.map_append, List.map_singleton, Storage.S3.joined_concat]
      convert longer using 1
      rw [Nat.succ_mul]
      omega
  have all := start _ (Nat.le_refl _)
  -- the last block reaches the amount
  have enough : size ≤ partCount payload.size size * payload.size := by
    have rest := Nat.div_add_mod (size + payload.size - 1) payload.size
    have short := Nat.mod_lt (size + payload.size - 1) (Nat.pos_of_ne_zero given)
    rw [partCount, Nat.mul_comm]
    omega
  rwa [Nat.min_eq_left enough] at all

end

/-! ## Calls and their answers -/

/-- A call on the storage with its answer. -/
structure Exchange (S : Type) where
  op : Operation S
  reply : op.Answer

/-- What is kept of a task: its calls on the storage with their answers, and the time that the clock
showed last. -/
structure Record (S : Type) where
  seen : List (Exchange S) := []
  time : Option Binary64 := none

/-- A storage that answers as it likes and a clock that does not go back, with a record. -/
def recorded (S : Type) : Surroundings (effects S) (Record S) where
  Allows _ _ := True
  Answers
    | r, .storage op, reply, r' => r' = { r with seen := r.seen ++ [⟨op, reply⟩] }
    | r, .clock, now, r' => Concert.steady r.time now = true ∧ r' = { r with time := some now }
    | r, .log _, _, r' => r' = r
    | r, .isLate _ _, _, r' => r' = r

theorem recorded_silent : Silent (recorded S) := fun _ _ => ⟨trivial, fun _ _ same => same⟩

/-- One call. -/
theorem ends_storage {op : Operation S} {r : Record S} {goal : op.Answer → Record S → Prop}
    (h : ∀ reply, goal reply { r with seen := r.seen ++ [⟨op, reply⟩] }) :
    (Prog.perform (E := effects S) (.storage op)).Ends (recorded S) goal r := by
  refine ⟨trivial, ?_⟩
  rintro reply _ rfl
  exact h reply

/-- The calls of a task, from those on its stream: it opens a stream, closes it if it got one, and
comes to its outcome.  The calls on the stream and what they come to are those of the transfer. -/
theorem quiet_calls {mode : Mode} {index : Int} {path : String}
    {opened : Program S (Except Fault S)} {transfer : S → Program S (S × Except Fault Nat)}
    {time : Option Binary64} {goal : List (Exchange S) → Except Fault Outcome → Prop}
    (call : Except Fault S → Exchange S)
    (Moved : S → List (Exchange S) → S → Except Fault Nat → Prop)
    (opens : ∀ {r : Record S} {goal : Except Fault S → Record S → Prop},
      (∀ reply, goal reply { r with seen := r.seen ++ [call reply] }) →
        opened.Ends (recorded S) goal r)
    (moves : ∀ {stream : S} {r : Record S}, (transfer stream).Ends (recorded S) (fun moved r' =>
      ∃ calls, r' = { r with seen := r.seen ++ calls } ∧ Moved stream calls moved.1 moved.2) r)
    (unopened : ∀ fault, goal [call (.error fault)]
      (conclude mode index (attemptMessages mode path (.error fault) ++ []) (.error fault)))
    (failed : ∀ {stream last : S} {calls : List (Exchange S)} {fault : Fault},
      Moved stream calls last (.error fault) → ∀ after closed,
        goal (call (.ok stream) :: (calls ++ [⟨.close last, (after, closed)⟩]))
          (conclude mode index
            (attemptMessages mode path (.error fault) ++ closingMessages path closed) (.error fault)))
    (counted : ∀ {stream last : S} {calls : List (Exchange S)} {bytes : Nat},
      Moved stream calls last (.ok bytes) → ∀ after closed {start now : Binary64},
        Binary64.le start now = true →
        goal (call (.ok stream) :: (calls ++ [⟨.close last, (after, closed)⟩]))
          (.ok ⟨index, mode, some ⟨mode, .real (now.sub start), bytes⟩,
            closingMessages path closed⟩)) :
    (quiet mode index path opened transfer).Ends (recorded S) (fun result r => goal r.seen result)
      { time } := by
  refine ⟨trivial, ?_⟩
  rintro start _ ⟨-, rfl⟩
  refine (Prog.ends_bind opened _ _ _).2 (opens ?_)
  rintro (fault | stream)
  · have outcome := unopened fault
    rw [List.append_nil] at outcome
    exact outcome
  · refine moves.bind ?_
    rintro ⟨last, fault | bytes⟩ _ ⟨calls, rfl, moved⟩
    · refine (Prog.ends_bind _ _ _ _).2 (ends_storage ?_)
      rintro ⟨after, closed⟩
      exact failed moved after closed
    · -- the clock is asked before the stream is closed
      refine ⟨trivial, ?_⟩
      rintro now _ ⟨ticks, rfl⟩
      refine (Prog.ends_bind _ _ _ _).2 (ends_storage ?_)
      rintro ⟨after, closed⟩
      rw [Concert.measurement_made mode ticks, conclude, Outcome.make, if_pos rfl]
      exact counted moved after closed ticks

/-! ## The course of a write task -/

/-- What a writer wants of its open stream. -/
inductive Step where
  | write (block : ByteArray)
  | flush

/-- The steps that write an amount: its blocks, and a flush. -/
def steps (payload : ByteArray) (size : Nat) : List Step :=
  (blocks payload size).map .write ++ [.flush]

/-- The call for a step on a stream, with the stream that it leaves and its result. -/
inductive Step.Made (stream after : S) : Step → Except Fault Unit → Exchange S → Prop
  | write (block : ByteArray) (reply : Except Fault Nat) :
    Made stream after (.write block) (reply.map fun _ => ())
      ⟨.write stream block, (after, reply)⟩
  | flush (reply : Except Fault Unit) :
    Made stream after .flush reply ⟨.flush stream, (after, reply)⟩

/-- The calls for some steps, each on the stream that the one before has left.  All of them succeed,
or the first one that fails is the last one made. -/
inductive Carried : S → List Step → List (Exchange S) → S → Option Fault → Prop
  | over (stream : S) : Carried stream [] [] stream none
  | failed {stream after : S} {step : Step} {rest : List Step} {fault : Fault} {e : Exchange S}
      (made : step.Made stream after (.error fault) e) :
    Carried stream (step :: rest) [e] after (some fault)
  | further {stream after last : S} {step : Step} {rest : List Step} {fault? : Option Fault}
      {e : Exchange S} {later : List (Exchange S)} (made : step.Made stream after (.ok ()) e)
      (onward : Carried after rest later last fault?) :
    Carried stream (step :: rest) (e :: later) last fault?

/-- What a writer comes to that met a failure, with the messages of its closing: a failure of the
system becomes the first message, and any other ends the writer. -/
def stopped (index : Int) (path : String) (fault : Fault) (closing : List String) :
    Except Fault Outcome :=
  if fault.isSystem then
    .ok ⟨index, .write, none, s!"Failed to write {path}: {fault.text}" :: closing⟩
  else .error fault

/-- All calls of a write task with their answers, and what the task comes to.  There is no stream to
close where none was opened; otherwise the last call is the only one that closes the stream.  A
measurement is made if no call before it failed. -/
inductive Course (index : Int) (path : String) (payload : ByteArray) (size : Nat) :
    List (Exchange S) → Except Fault Outcome → Prop
  | unopened (fault : Fault) :
    Course index path payload size [⟨.create path, .error fault⟩] (stopped index path fault [])
  | stopped {stream last : S} {calls : List (Exchange S)} {fault : Fault}
      (carried : Carried stream (steps payload size) calls last (some fault)) (after : S)
      (closed : Except Fault Unit) :
    Course index path payload size
      (⟨.create path, .ok stream⟩ :: (calls ++ [⟨.close last, (after, closed)⟩]))
      (stopped index path fault (closingMessages path closed))
  | measured {stream last : S} {calls : List (Exchange S)}
      (carried : Carried stream (steps payload size) calls last none) (after : S)
      (closed : Except Fault Unit) {start now : Binary64} (ticks : Binary64.le start now = true) :
    Course index path payload size
      (⟨.create path, .ok stream⟩ :: (calls ++ [⟨.close last, (after, closed)⟩]))
      (.ok ⟨index, .write, some ⟨.write, .real (now.sub start), size⟩, closingMessages path closed⟩)

variable {index : Int} {path : String} {payload : ByteArray} {size : Nat}

/-- An outcome has a measurement or an error. -/
theorem Course.told {calls : List (Exchange S)} {outcome : Outcome}
    (h : Course index path payload size calls (.ok outcome)) :
    outcome.measurement.isSome = true ∨ outcome.errors ≠ [] := by
  generalize told : Except.ok outcome = result at h
  cases h with
  | measured =>
    cases told
    exact .inl rfl
  -- a failure of the system is an error, and any other has no outcome
  | unopened fault | stopped =>
    unfold Worker.stopped at told
    split at told
    · cases told
      exact .inr (List.cons_ne_nil _ _)
    · cases told

/-- The calls of a writer on its stream. -/
theorem writeBlocks_carried (given : payload.size ≠ 0) (remaining : Nat) :
    ∀ {stream : S} {r : Record S}, (writeBlocks payload stream remaining).Ends (recorded S)
      (fun moved r' => ∃ calls, r' = { r with seen := r.seen ++ calls } ∧ ∀ more,
        match moved.2 with
        | .error fault =>
          Carried stream ((blocks payload remaining).map .write ++ more) calls moved.1 (some fault)
        | .ok _ => ∀ later last fault?, Carried moved.1 more later last fault? →
          Carried stream ((blocks payload remaining).map .write ++ more) (calls ++ later) last fault?)
      r := by
  induction remaining using Nat.strongRecOn with
  | ind remaining ih =>
    intro stream r
    unfold writeBlocks
    split
    -- nothing is left, so what comes later is all
    · obtain rfl : remaining = 0 := by omega
      refine ⟨[], by simp, fun more later last fault? h => ?_⟩
      rw [blocks_zero given]
      exact h
    · rename_i some_left
      rw [blocks_of_pos given (by omega)]
      refine (Prog.ends_bind _ _ _ _).2 (ends_storage ?_)
      rintro ⟨after, fault | count⟩
      · exact ⟨_, rfl, fun more => .failed (.write _ (.error fault))⟩
      · refine (ih (remaining - min remaining payload.size) (by omega)).mono ?_
        rintro ⟨last, moved⟩ _ ⟨calls, rfl, told⟩
        refine ⟨⟨.write stream (payload.extract 0 (min remaining payload.size)), (after, .ok count)⟩ ::
          calls, by simp, fun more => ?_⟩
        have told := told more
        cases moved with
        | error fault => exact .further (.write _ (.ok count)) told
        | ok _ =>
          exact fun later last fault? h => .further (.write _ (.ok count)) (told later last fault? h)

/-- The calls of a writer on its stream, with the flush behind the blocks. -/
theorem writeAll_carried (given : payload.size ≠ 0) {stream : S} {r : Record S} :
    (writeAll payload size stream).Ends (recorded S)
      (fun moved r' => ∃ calls, r' = { r with seen := r.seen ++ calls } ∧
        match moved.2 with
        | .error fault => Carried stream (steps payload size) calls moved.1 (some fault)
        | .ok bytes => bytes = size ∧ Carried stream (steps payload size) calls moved.1 none) r := by
  refine (writeBlocks_carried given size).bind ?_
  rintro ⟨last, fault | ⟨⟨⟩⟩⟩ _ ⟨calls, rfl, told⟩
  · exact ⟨calls, rfl, told [.flush]⟩
  · refine (Prog.ends_bind _ _ _ _).2 (ends_storage ?_)
    rintro ⟨after, fault | ⟨⟨⟩⟩⟩
    · exact ⟨_, by simp, told [.flush] _ _ _ (.failed (.flush _))⟩
    · exact ⟨_, by simp, rfl, told [.flush] _ _ _ (.further (.flush _) (.over _))⟩

theorem conclude_stopped (index : Int) (path : String) (fault : Fault) (closing : List String) :
    conclude .write index (attemptMessages .write path (.error fault) ++ closing) (.error fault) =
      stopped index path fault closing := by
  have words : s!"{(wording .write).fails} {path}: {fault.text}" =
      s!"Failed to write {path}: {fault.text}" := by
    simp [wording]
    rfl
  rw [conclude_failed, words]
  rfl

/-- The calls of a write task with a payload. -/
theorem writeTask_calls (given : payload.size ≠ 0) (time : Option Binary64) :
    (writeTask (S := S) index path size payload).Ends (recorded S)
      (fun result r => Course index path payload size r.seen result) { time } := by
  unfold writeTask
  rw [if_neg fun empty => given empty.1]
  refine measured_of_quiet recorded_silent (quiet_calls (fun reply => ⟨.create path, reply⟩)
    (fun stream calls last moved => match moved with
      | .error fault => Carried stream (steps payload size) calls last (some fault)
      | .ok bytes => bytes = size ∧ Carried stream (steps payload size) calls last none)
    (fun {r goal} => @ends_storage S (.create path) r goal) (writeAll_carried given) ?_ ?_ ?_)
  · intro fault
    rw [conclude_stopped]
    exact .unopened fault
  · intro stream last calls fault carried after closed
    rw [conclude_stopped]
    exact .stopped carried after closed
  · rintro stream last calls bytes ⟨rfl, carried⟩ after closed start now ticks
    exact .measured carried after closed ticks

/-- Whatever its storage answers, call for call, a write task with a payload takes its course: it
creates the object, writes the blocks of the amount, whose bytes are the payload over and over up to
the amount, and flushes, until a call fails; a stream that was opened is closed once, behind all
that; and the outcome is measured unless one of these calls failed.  An outcome is never without a
measurement and without an error. -/
theorem writeTask_course (index : Int) (path : String) {payload : ByteArray}
    (given : payload.size ≠ 0) (size : Nat) (time : Option Binary64) :
    Repeats payload (joined (blocks payload size)) size ∧
    (writeTask (S := S) index path size payload).Ends (recorded S) (fun result r =>
      Course index path payload size r.seen result ∧
      ∀ outcome, result = .ok outcome → outcome.measurement.isSome = true ∨ outcome.errors ≠ [])
      { time } := by
  refine ⟨joined_blocks given size, (writeTask_calls given time).mono fun result r course =>
    ⟨course, ?_⟩⟩
  rintro outcome rfl
  exact course.told

/-- A storage that has room for two blocks and fails to close; it counts the calls before. -/
def narrow : (op : Operation Unit) → Nat → op.Answer
  | .write _ _, calls => ((), if calls < 3 then .ok 3 else .error (.system "No space left"))
  | .close _, _ => ((), .error (.runtime "Broken"))
  | .isPresent _, _ => .ok true
  | .makeDirs _, _ | .create _, _ | .openRead _, _ | .delete _, _ => .ok ()
  | .flush _, _ => ((), .ok ())
  | .read _ _, _ => ((), .ok .empty)

/-- What a task in front of such a storage is answered, with a record of its calls. -/
def answeredNarrowly : (op : Op Unit) → List (Exchange Unit) → op.Answer × List (Exchange Unit)
  | .storage op, seen => (narrow op seen.length, seen ++ [⟨op, narrow op seen.length⟩])
  | .clock, seen => (.zero false, seen)
  | .log _, seen => ((), seen)
  | .isLate _ _, seen => (false, seen)

/-- The third block fails, and so does the closing behind it: five calls, and both messages. -/
theorem writeTask_course_narrow :
    let payload : ByteArray := ⟨#[97, 98, 99]⟩
    let (result, seen) := (writeTask 7 "object" 10 payload).runWith answeredNarrowly []
    payload.size ≠ 0 ∧ Repeats payload (joined (blocks payload 10)) 10 ∧
    Course 7 "object" payload 10 seen result ∧ seen.length = 5 ∧
    result = .ok ⟨7, .write, none,
      ["Failed to write object: No space left", "Failed to close object: Broken"]⟩ := by
  have given : ByteArray.size ⟨#[97, 98, 99]⟩ ≠ 0 := by decide
  obtain ⟨repeats, ends⟩ :=
    writeTask_course (S := Unit) 7 "object" given 10 (some (.zero false))
  let view (seen : List (Exchange Unit)) : Record Unit := ⟨seen, some (.zero false)⟩
  have answers (op : Op Unit) (seen : List (Exchange Unit)) : (recorded Unit).Answers (view seen) op
      (answeredNarrowly op seen).1 (view (answeredNarrowly op seen).2) := by
    cases op with
    | clock =>
      have shown : Concert.steady (some (.zero false)) (.zero false) = true := by decide
      exact ⟨shown, rfl⟩
    | storage _ | log _ | isLate _ _ => rfl
  have course := ends.runWith (E := effects Unit) answeredNarrowly view answers (t := [])
  exact ⟨given, repeats, course.1, by decide +kernel, by decide +kernel⟩

end Worker
end StoreMeter
