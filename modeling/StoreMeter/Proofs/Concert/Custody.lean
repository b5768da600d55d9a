import StoreMeter.Phase
import StoreMeter.Proofs.Concert.Backends
import StoreMeter.Proofs.Errands
/-
# Proofs.Concert.Custody — who deletes the object of a writer

The object of a writer may come into being at any time while the writer works, more than once.  In
the end either the main thread deletes it or the writer does.  Which of them is decided when the
writer asks whether it is late: if so it deletes the object itself, and if not it will not publish
any more and leaves the object to the main thread (`Duty`).

A `Mark` is the main thread's side: a writer that the main thread has settled is late or has put its
work down, and after a cleared object only a late writer can bring it back.  `Agrees` ties both
sides together, and `custody_lawful` says that no question of any task breaks what it says.
-/
namespace StoreMeter
namespace Concert

open Storage (Operation)
open Storage.Memory (Stream Store)

/-! ## Both sides -/

/-- What a writer may still do to its object. -/
inductive Duty where
  /-- It may publish the object. -/
  | writes
  /-- It will not publish the object any more, and leaves it where it is. -/
  | leaves
  /-- It has deleted the object. -/
  | cleared
  deriving DecidableEq

/-- What a writer knows: its duty, and the last time that it saw. -/
structure Held where
  duty : Duty := .writes
  since : Option Binary64 := none

/-- How far the main thread is with a writer. -/
inductive Mark where
  /-- The outcome of the writer is not taken yet. -/
  | awaited
  | settled
  /-- The object was deleted by the main thread. -/
  | cleared
  deriving DecidableEq

/-- What a writer knows agrees with what all share. -/
structure Agrees (path : String) (index : Nat) (mark : Mark) (shared : Shared flawed) (l : Held) :
    Prop where
  timely : ∀ time, l.since = some time → Shown shared.clock time
  /-- A writer that is settled and may publish knows that it is late when it asks. -/
  warned : mark ≠ .awaited → l.duty = .writes → shared.isLate 0 index = true
  /-- After the main thread has deleted an object only its writer can bring it back. -/
  gone : mark = .cleared → l.duty ≠ .writes → shared.store.get? path = none
  deleted : l.duty = .cleared → shared.store.get? path = none

/-! ## Surroundings of the tasks -/

/-- A writer works on its own object only, and no longer than its duty lasts. -/
def writerEnv (path : String) (index : Nat) : Surroundings (Worker.effects Stream) Held where
  Allows l
    | .storage (.create other) => other = path ∧ l.duty = .writes
    | .storage (.write stream _) | .storage (.flush stream) | .storage (.close stream) =>
      Writes stream path ∧ l.duty = .writes
    | .storage (.delete other) => other = path
    | .storage (.isPresent _) | .storage (.makeDirs _) | .storage (.openRead _)
    | .storage (.read _ _) => False
    | .clock | .log _ => True
    | .isLate late other => late = 0 ∧ other = index
  Answers l op reply l' :=
    match op, reply with
    | .storage (.create _), reply => l' = l ∧ Opens path reply
    | .storage (.write _ _), (stream, reply) => l' = l ∧ Writes stream path ∧
      ∀ fault, reply = .error fault → fault.isSystem = true
    | .storage (.flush _), (stream, reply) => l' = l ∧ Writes stream path ∧
      ∀ fault, reply = .error fault → fault.isSystem = true
    | .storage (.delete _), reply => l' = { l with duty := .cleared } ∧
      ∀ fault, reply = .error fault → fault.isAbsent = true
    | .clock, time => l' = { l with since := some time } ∧ steady l.since time = true
    | .isLate _ _, late => match (late : Bool) with
      | true => l' = l
      | false => l' = { l with duty := .leaves }
    | _, _ => l' = l

/-- A reader touches no object. -/
def readerEnv : Surroundings (Worker.effects Stream) Held where
  Allows _
    | .storage (.openRead _) => True
    | .storage (.read stream _) | .storage (.close stream) => stream.target = none
    | .storage _ => False
    | .clock | .log _ | .isLate _ _ => True
  Answers l op reply l' :=
    l' = l ∧ match op, reply with
    | .storage (.openRead _), reply => ∀ stream, reply = .ok stream → stream.target = none
    | .storage (.read _ _), (stream, _) => stream.target = none
    | _, _ => True

/-- The contracts of the tasks of a run: the first of them are writers, and each of these has put
its work down at its end. -/
def custody (settings : Settings) (workers : Nat) : Protocol Stream where
  Local := Held
  env k := if k < workers then writerEnv (settings.objectPath k) k else readerEnv
  Goal k _ l := k < workers → l.duty ≠ .writes
  Quiet k l := k < workers → l.duty = .leaves

theorem custody_writer {settings : Settings} {workers k : Nat} (writer : k < workers) :
    (custody settings workers).env k = writerEnv (settings.objectPath k) k := if_pos writer

theorem custody_reader {settings : Settings} {workers k : Nat} (reader : ¬ k < workers) :
    (custody settings workers).env k = readerEnv := if_neg reader

/-- A writer agrees with what all share, by its mark; of a reader nothing is known. -/
def agreement (settings : Settings) (workers : Nat) (marks : Nat → Mark) :
    View flawed (custody settings workers) :=
  fun k shared l => k < workers → Agrees (settings.objectPath k) k (marks k) shared l

/-! ## What a writer does to its own view -/

section
variable {path : String} {index : Nat} {mark : Mark} {shared shared' : Shared flawed} {l : Held}

/-- The clock goes on. -/
theorem Agrees.tick (agrees : Agrees path index mark shared l) {time : Binary64}
    (ticks : steady shared.clock time = true) :
    Agrees path index mark { shared with clock := some time } l where
  timely earlier seen := (agrees.timely earlier seen).later ticks
  warned := agrees.warned
  gone := agrees.gone
  deleted := agrees.deleted

/-- What leaves an object alone leaves the agreement about it. -/
theorem Agrees.frame (agrees : Agrees path index mark shared l) {store : Store}
    (same : store.get? path = shared.store.get? path) :
    Agrees path index mark { shared with store } l where
  timely := agrees.timely
  warned := agrees.warned
  gone cleared duty := same.trans (agrees.gone cleared duty)
  deleted duty := same.trans (agrees.deleted duty)

/-- A writer that may publish may change its object in any way. -/
theorem Agrees.publish (agrees : Agrees path index mark shared l) (duty : l.duty = .writes)
    (store : Store) : Agrees path index mark { shared with store } l where
  timely := agrees.timely
  warned := agrees.warned
  gone _ other := absurd duty other
  deleted cleared := by
    rw [duty] at cleared
    cases cleared

/-- A writer that is not late puts its work down. -/
theorem Agrees.leave (agrees : Agrees path index mark shared l)
    (early : shared.isLate 0 index = false) :
    Agrees path index mark shared { l with duty := .leaves } where
  timely := agrees.timely
  warned _ := nofun
  gone cleared _ := by
    -- after its object was cleared a writer that may publish would have been told that it is late
    refine agrees.gone cleared fun duty => ?_
    rw [agrees.warned (by rw [cleared]; decide) duty] at early
    cases early
  deleted := nofun

/-- A writer deletes its object. -/
theorem Agrees.delete (agrees : Agrees path index mark shared l) {store : Store}
    (gone : store.get? path = none) :
    Agrees path index mark { shared with store } { l with duty := .cleared } where
  timely := agrees.timely
  warned _ := nofun
  gone _ _ := gone
  deleted _ := gone

theorem Agrees.sees (agrees : Agrees path index mark shared l) {time : Binary64}
    (ticks : steady shared.clock time = true) :
    Agrees path index mark { shared with clock := some time } { l with since := some time } where
  timely := by
    intro _ told
    cases told
    exact shown_now ticks
  warned := agrees.warned
  gone := agrees.gone
  deleted := agrees.deleted

theorem Agrees.own (agrees : Agrees path index mark shared l) {op : Worker.Op Stream}
    {reply : op.Answer} {fate : Flaw} {time : Binary64} (allowed : (writerEnv path index).Allows l op)
    (answered : Shared.answer (B := flawed) fate time shared op = some (reply, shared')) :
    ∃ l', (writerEnv path index).Answers l op reply l' ∧ Agrees path index mark shared' l' := by
  cases op with
  | clock =>
    obtain ⟨ticks, rfl, rfl⟩ := Shared.answer_clock.1 answered
    exact ⟨_, ⟨rfl, steady_of_shown agrees.timely ticks⟩, agrees.sees ticks⟩
  | log entry =>
    cases answered
    exact ⟨l, rfl, agrees⟩
  | isLate late other =>
    obtain ⟨rfl, rfl⟩ := allowed
    cases answered
    cases found : shared.isLate 0 (index : Int) with
    | true => exact ⟨l, rfl, agrees⟩
    | false => exact ⟨_, rfl, agrees.leave found⟩
  | storage op =>
    obtain ⟨store, answer, rfl⟩ := Shared.answer_storage.1 answered
    cases op with
    | isPresent other | makeDirs other | openRead other | read stream size => cases allowed
    | create other =>
      obtain ⟨rfl, duty⟩ := allowed
      exact ⟨l, ⟨rfl, flawed_create answer⟩, agrees.publish duty store⟩
    | write stream data =>
      obtain ⟨writes, duty⟩ := allowed
      exact ⟨l, ⟨rfl, flawed_write answer writes⟩, agrees.publish duty store⟩
    | flush stream =>
      obtain ⟨writes, duty⟩ := allowed
      exact ⟨l, ⟨rfl, flawed_flush answer writes⟩, agrees.publish duty store⟩
    -- a close publishes, too, even one that is told as a failure
    | close stream => exact ⟨l, rfl, agrees.publish allowed.2 store⟩
    | delete other =>
      cases allowed
      refine ⟨_, ⟨rfl, ?_⟩, agrees.delete (flawed_delete answer)⟩
      intro fault same
      subst same
      exact flawed_delete_fault answer

/-! ## What the others do -/

/-- A question that touches another object, or none. -/
theorem Agrees.other (agrees : Agrees path index mark shared l) {op : Worker.Op Stream}
    {reply : op.Answer} {fate : Flaw} {time : Binary64}
    (untouched : ∀ question, op = .storage question → question.touched ≠ some path)
    (answered : Shared.answer (B := flawed) fate time shared op = some (reply, shared')) :
    Agrees path index mark shared' l := by
  cases op with
  | clock =>
    obtain ⟨ticks, -, rfl⟩ := Shared.answer_clock.1 answered
    exact agrees.tick ticks
  | log entry | isLate late other =>
    cases answered
    exact agrees
  | storage op =>
    obtain ⟨store, answer, rfl⟩ := Shared.answer_storage.1 answered
    exact agrees.frame (flawed_untouched answer (untouched op rfl))

end

theorem writerEnv_touched {path other : String} {index : Nat} {l : Held} {op : Operation Stream}
    (allowed : (writerEnv path index).Allows l (.storage op)) (different : path ≠ other) :
    op.touched ≠ some other := by
  rintro touched
  cases op with
  | isPresent _ | makeDirs _ | openRead _ | create _ | read _ _ | write _ _ => cases touched
  | flush stream | close stream =>
    have target : stream.target = some path := allowed.1.1
    exact different (Option.some.inj (target.symm.trans touched))
  | delete path =>
    cases allowed
    cases touched
    exact different rfl

theorem readerEnv_touched {other : String} {l : Held} {op : Operation Stream}
    (allowed : readerEnv.Allows l (.storage op)) : op.touched ≠ some other := by
  rintro touched
  cases op with
  | isPresent _ | makeDirs _ | openRead _ | create _ | read _ _ | write _ _ => cases touched
  | flush _ | delete _ => cases allowed
  | close stream =>
    have target : stream.target = none := allowed
    exact Option.some_ne_none other (touched.symm.trans target)

theorem readerEnv_own {shared shared' : Shared flawed} {l : Held} {op : Worker.Op Stream}
    {reply : op.Answer} {fate : Flaw} {time : Binary64} (allowed : readerEnv.Allows l op)
    (answered : Shared.answer (B := flawed) fate time shared op = some (reply, shared')) :
    readerEnv.Answers l op reply l := by
  refine ⟨rfl, ?_⟩
  cases op with
  | clock | log entry | isLate late other => trivial
  | storage op =>
    obtain ⟨store, answer, rfl⟩ := Shared.answer_storage.1 answered
    cases op with
    | isPresent _ | makeDirs _ | create _ | write _ _ | flush _ | delete _ => cases allowed
    | openRead path => exact flawed_openRead answer
    | read stream size => exact (flawed_read answer).trans allowed
    | close stream => trivial

/-- No question of a task breaks the agreement of any task. -/
theorem custody_lawful (settings : Settings) (workers : Nat) (marks : Nat → Mark) :
    Protocol.Lawful (custody settings workers) (agreement settings workers marks) where
  own {k shared shared' l op reply fate time} agrees allowed answered := by
    by_cases writer : k < workers
    · rw [custody_writer writer] at allowed ⊢
      obtain ⟨l', answers, agrees⟩ := (agrees writer).own allowed answered
      exact ⟨l', answers, fun _ => agrees⟩
    · rw [custody_reader writer] at allowed ⊢
      exact ⟨l, readerEnv_own allowed answered, fun below => absurd below writer⟩
  others {k j shared shared' l m op reply fate time} other _ allowed answered agrees writer := by
    refine (agrees writer).other ?_ answered
    intro question same
    subst same
    by_cases also : k < workers
    · rw [custody_writer also] at allowed
      exact writerEnv_touched allowed fun same => other (settings.objectPath_injective same).symm
    · rw [custody_reader also] at allowed
      exact readerEnv_touched allowed

/-! ## The jobs -/

theorem writer_silent (path : String) (index : Nat) : Worker.Silent (writerEnv path index) :=
  fun _ _ => ⟨trivial, fun _ _ same => same⟩

theorem reader_silent : Worker.Silent readerEnv :=
  fun _ _ => ⟨trivial, fun _ _ same => same.1⟩

/-- The loop of a writer keeps the stream a writing one, and its failures are the system's. -/
theorem writeBlocks_custody {path : String} {index : Nat} {payload : ByteArray}
    (given : 0 < payload.size) (P : Held → Prop) (busy : ∀ l, P l → l.duty = .writes) (size : Nat)
    {stream : Stream} {l : Held} (writes : Writes stream path) (h : P l) :
    (Worker.writeBlocks payload stream size).Ends (writerEnv path index)
      (fun moved l => Writes moved.1 path ∧ P l ∧
        ∀ fault, moved.2 = .error fault → fault.isSystem = true) l := by
  -- the invariant of the loop: the stream publishes to the path and is open
  refine Worker.writeBlocks_ends (fun _ stream l => Writes stream path ∧ P l) given ?_ ?_ size
    ⟨writes, h⟩
  · rintro remaining stream l - ⟨writes, h⟩
    refine ⟨⟨writes, busy l h⟩, ?_⟩
    rintro ⟨stream, fault | written⟩ _ ⟨rfl, writes, system⟩
    · refine ⟨writes, h, ?_⟩
      intro _ told
      cases told
      exact system fault rfl
    · exact ⟨writes, h⟩
  · rintro stream l ⟨writes, h⟩
    refine ⟨writes, h, ?_⟩
    intro _ told
    cases told

theorem writeAll_custody {path : String} {index : Nat} {payload : ByteArray}
    (given : 0 < payload.size) (P : Held → Prop) (busy : ∀ l, P l → l.duty = .writes) (size : Nat)
    {stream : Stream} {l : Held} (writes : Writes stream path) (h : P l) :
    (Worker.writeAll payload size stream).Ends (writerEnv path index)
      (fun moved l => Writes moved.1 path ∧ P l ∧
        ∀ fault, moved.2 = .error fault → fault.isSystem = true) l := by
  apply (writeBlocks_custody given P busy size writes h).bind
  rintro ⟨stream, fault | _⟩ l ⟨writes, h, system⟩
  · refine ⟨writes, h, ?_⟩
    intro _ told
    cases told
    exact system fault rfl
  · refine ⟨⟨writes, busy l h⟩, ?_⟩
    rintro ⟨stream, fault | _⟩ _ ⟨rfl, writes, system⟩
    · refine ⟨writes, h, ?_⟩
      intro _ told
      cases told
      exact system fault rfl
    · refine ⟨writes, h, ?_⟩
      intro _ told
      cases told

/-- The contract of a writer's task: it may publish until it is over, and meets failures of the
system only. -/
def writerErrand (path : String) (index : Nat) {payload : ByteArray} (given : 0 < payload.size)
    (size : Nat) : Worker.Errand (writerEnv path index) .write (Worker.create path)
      (Worker.writeAll payload size) where
  Ready l := l.duty = .writes
  Timed start l := l.duty = .writes ∧ Shown l.since start
  Open start stream l := Writes stream path ∧ l.duty = .writes ∧ Shown l.since start
  Moved start stream l := Writes stream path ∧ l.duty = .writes ∧ Shown l.since start
  Over l := l.duty = .writes
  Counts _ := True
  Takes
    | .ok measurement => measurement.mode = .write
    | .error fault => fault.isSystem = true
  Closes _ := True
  silent := writer_silent path index
  begins {l} duty := by
    refine ⟨trivial, ?_⟩
    rintro start _ ⟨rfl, ticks⟩
    exact ⟨duty, shown_now ticks⟩
  opens {start l} h := by
    refine ⟨⟨rfl, h.1⟩, ?_⟩
    rintro (fault | stream) _ ⟨rfl, opened⟩
    · exact ⟨opened, h.1⟩
    · exact ⟨opened, h⟩
  moves {start stream l} h := by
    refine (writeAll_custody given (fun l => l.duty = .writes ∧ Shown l.since start)
      (fun _ h => h.1) size h.1 h.2).mono ?_
    rintro ⟨stream, fault | bytes⟩ l ⟨writes, h, system⟩
    · exact ⟨⟨writes, h⟩, system fault rfl⟩
    · exact ⟨⟨writes, h⟩, trivial⟩
  measures {start stream bytes l} h _ := by
    obtain ⟨writes, duty, began⟩ := h
    refine ⟨trivial, ?_⟩
    rintro now _ ⟨rfl, ticks⟩
    refine ⟨⟨writes, duty, began.later ticks⟩, ?_⟩
    rw [measurement_made _ (began.le ticks)]
  closes {start stream l} h := by
    refine ⟨⟨h.1, h.2.1⟩, ?_⟩
    intro reply _ same
    subst same
    exact ⟨trivial, h.2.1⟩

/-- A task that met failures of the system only comes to an outcome. -/
theorem writerErrand_concluded {path : String} {index : Nat} {payload : ByteArray}
    {given : 0 < payload.size} {size : Nat} {r : Except Fault Outcome}
    (h : (writerErrand path index given size).Concluded index r) : ∃ outcome, r = .ok outcome := by
  obtain ⟨result, errors, closing, takes, count, -, rfl⟩ := h
  cases result with
  | ok measurement =>
    have same : measurement.mode = .write := takes
    exact ⟨_, by rw [Worker.conclude, Outcome.make, if_pos same]⟩
  | error fault =>
    have system : fault.isSystem = true := takes
    rw [Worker.attemptCount, if_pos system] at count
    -- a failure of the system leaves its message, and with it an outcome
    have filled : (errors ++ closing).isEmpty = false := by
      cases errors with
      | nil => cases count
      | cons message rest => rfl
    exact ⟨_, by rw [Worker.conclude, if_pos system, Outcome.make, filled]; rfl⟩

/-- A late writer deletes its object. -/
theorem discardLate_custody {path : String} {index : Nat} (l : Held) :
    (Phase.discardLate (S := Stream) index path).Ends (writerEnv path index)
      (fun _ l => l.duty = .cleared) l := by
  have deleted : (Worker.delete (S := Stream) path).Ends (writerEnv path index)
      (fun reply l => l.duty = .cleared ∧ ∀ fault, reply = .error fault → fault.isAbsent = true) l := by
    refine ⟨rfl, ?_⟩
    rintro reply _ ⟨rfl, absent⟩
    exact ⟨rfl, absent⟩
  have silent := writer_silent path index
  apply deleted.bind
  rintro (fault | _) l ⟨duty, absent⟩
  · dsimp only
    rw [if_pos (absent fault rfl)]
    exact (silent.log_ends _ duty).bind fun _ _ duty => duty
  · exact (silent.log_ends _ duty).bind fun _ _ duty => duty

/-- A writer does not leave its work before it has asked whether it is late. -/
theorem writeJob_custody {settings : Settings} {size index : Nat} {payload : ByteArray}
    (given : 0 < payload.size) {l : Held} (duty : l.duty = .writes) :
    (Phase.writeJob (S := Stream) settings size payload (some 0) index).Ends
      (writerEnv (settings.objectPath index) index) (fun _ l => l.duty ≠ .writes) l := by
  have written : (Worker.writeTask (S := Stream) index (settings.objectPath index) size payload).Ends
      (writerEnv (settings.objectPath index) index)
      (fun r l => (∃ outcome, r = .ok outcome) ∧ l.duty = .writes) l := by
    unfold Worker.writeTask
    rw [if_neg fun none => Nat.ne_of_gt given none.1]
    apply ((writerErrand _ index given size).measured_ends size duty).mono
    exact fun r l h => ⟨writerErrand_concluded h.1, h.2⟩
  apply written.bind
  rintro _ l ⟨⟨outcome, rfl⟩, duty⟩
  refine ⟨⟨rfl, rfl⟩, ?_⟩
  -- the answer settles who deletes the object: the main thread, or the writer right here
  rintro (_ | _) l' answered
  · have left : l'.duty = .leaves := by rw [show l' = { l with duty := .leaves } from answered]
    rintro again
    rw [left] at again
    cases again
  · refine (discardLate_custody l').bind fun _ l' cleared => ?_
    rintro again
    rw [cleared] at again
    cases again

/-- The contract of a reader's task: its stream publishes nothing. -/
def readerErrand (path : String) (size : Nat) (bufferSize : Int) :
    Worker.Errand readerEnv .read (Worker.openRead path)
      (fun stream => Worker.readBlocks bufferSize size stream 0) where
  Ready _ := True
  Timed _ _ := True
  Open _ stream _ := stream.target = none
  Moved _ stream _ := stream.target = none
  Over _ := True
  Counts _ := True
  Takes _ := True
  Closes _ := True
  silent := reader_silent
  begins _ := ⟨trivial, fun _ _ _ => trivial⟩
  opens _ := by
    refine ⟨trivial, ?_⟩
    rintro (fault | stream) _ ⟨-, opened⟩
    · exact ⟨trivial, trivial⟩
    · exact opened stream rfl
  moves {start stream l} h := by
    have kept : (Worker.readBlocks bufferSize size stream 0).Ends readerEnv
        (fun moved _ => moved.1.target = none) l := by
      refine Worker.readBlocks_ends (fun _ stream _ => stream.target = none) ?_ ?_ _ rfl h
      · rintro count stream l - h
        refine ⟨h, ?_⟩
        rintro ⟨stream, fault | block⟩ _ ⟨-, still⟩
        · exact still
        · exact ⟨fun _ => still, fun _ => still⟩
      · exact fun _ _ _ _ h => h
    apply kept.mono
    rintro ⟨stream, fault | bytes⟩ l still <;> exact ⟨still, trivial⟩
  measures h _ := ⟨trivial, fun _ _ _ => ⟨h, trivial⟩⟩
  closes h := ⟨h, fun _ _ _ => ⟨trivial, trivial⟩⟩

/-- A reader publishes nothing, whatever it reads. -/
theorem readJob_custody {settings : Settings} {size bufferSize : Int} {index : Nat} (l : Held) :
    (Phase.readJob (S := Stream) settings size bufferSize (some 0) index).Ends readerEnv
      (fun _ _ => True) l := by
  have asked : (Phase.isLate (S := Stream) (some 0) index).Ends readerEnv (fun _ _ => True) l :=
    ⟨trivial, fun _ _ _ => trivial⟩
  refine asked.bind fun late l _ => ?_
  split
  · trivial
  · exact ((readerErrand _ size.toNat bufferSize).measured_ends size trivial).mono
      fun _ _ _ => trivial

end Concert
end StoreMeter
