import StoreMeter.Proofs.Concert.Custody
/-
# Proofs.Concert.Attendance — a writer and its object, on any storage

The storage here is any one in which an operation changes no object but its own and deleting works
(`Tidy`); its operations may fail in any way.  A task works on one stream (`onStream`), whatever it
is told by the storage, and it ends with an outcome or with a failure that is not the system's.

A writer that comes to an outcome has asked whether it is late, and has deleted its object if it was.
`Attends` ties that to what all share, and `attendance_lawful` says that no question of any task
breaks it.
-/
namespace StoreMeter
namespace Concert

open Storage (Operation)

/-! ## Tidy storages -/

section
variable {S : Type}

/-- The object that an operation may bring about, change or delete, by the paths under which streams
publish. -/
def touchedBy (target : S → Option String) : Operation S → Option String
  | .create path | .delete path => some path
  | .write stream _ | .flush stream | .close stream => target stream
  | .isPresent _ | .makeDirs _ | .openRead _ | .read _ _ => none

/-- A storage in which an operation changes no object but its own, and deleting works.  It may fail
in any other way. -/
structure Tidy (B : Backend S) where
  /-- Is there an object? -/
  Holds : B.State → String → Prop
  /-- The path under which a stream publishes, if it does. -/
  target : S → Option String
  untouched {fate : B.Fate} {op : Operation S} {store : B.State} {path : String} :
    touchedBy target op ≠ some path → (Holds (B.answer fate op store).2 path ↔ Holds store path)
  creates {fate : B.Fate} {path : String} {store : B.State} {stream : S} :
    (B.answer fate (.create path) store).1 = .ok stream → target stream = some path
  opens {fate : B.Fate} {path : String} {store : B.State} {stream : S} :
    (B.answer fate (.openRead path) store).1 = .ok stream → target stream = none
  writes {fate : B.Fate} {stream : S} {data : ByteArray} {store : B.State} :
    target (B.answer fate (.write stream data) store).1.1 = target stream
  flushes {fate : B.Fate} {stream : S} {store : B.State} :
    target (B.answer fate (.flush stream) store).1.1 = target stream
  reads {fate : B.Fate} {stream : S} {size : Option Int} {store : B.State} :
    target (B.answer fate (.read stream size) store).1.1 = target stream
  deletes {fate : B.Fate} {path : String} {store : B.State} :
    ¬ Holds (B.answer fate (.delete path) store).2 path
  /-- Deleting fails only where there is nothing to delete. -/
  misses {fate : B.Fate} {path : String} {store : B.State} {fault : Fault} :
    (B.answer fate (.delete path) store).1 = .error fault → fault.isAbsent = true

end

variable {S : Type} {B : Backend S} (tidy : Tidy B) {settings : Settings} {workers : Nat}

/-! ## One stream, and what a task comes to -/

/-- The surroundings of a task on one stream: it publishes under a given path, or nowhere. -/
def onStream (place : Option String) : Surroundings (Worker.effects S) Unit where
  Allows _
    | .storage (.create path) => place = some path
    | .storage (.openRead _) => place = none
    | .storage (.write stream _) | .storage (.flush stream) | .storage (.close stream)
    | .storage (.read stream _) => tidy.target stream = place
    | .storage (.isPresent _) | .storage (.makeDirs _) | .storage (.delete _) => False
    | .clock | .log _ => True
    | .isLate _ _ => False
  Answers _ op reply _ :=
    match op, reply with
    | .storage (.create _), reply | .storage (.openRead _), reply =>
      ∀ stream, reply = .ok stream → tidy.target stream = place
    | .storage (.write _ _), (stream, _) | .storage (.flush _), (stream, _)
    | .storage (.read _ _), (stream, _) => tidy.target stream = place
    | _, _ => True

/-- A result is an outcome, or a failure that is not the system's. -/
def OwnFailure (result : Except Fault Outcome) : Prop :=
  ∀ fault, result = .error fault → fault.isSystem = false

/-- A failure of the system becomes an outcome, or ends in a failure of another kind. -/
theorem conclude_own (mode : Mode) (index : Int) (errors : List String)
    (result : Except Fault Measurement) :
    OwnFailure (Worker.conclude mode index errors result) := by
  have made (measured : Option Measurement) :
      OwnFailure (Outcome.make index mode measured errors) := by
    intro fault told
    unfold Outcome.make at told
    split at told <;> split at told <;> cases told <;> rfl
  cases result with
  | ok measurement => exact made (some measurement)
  | error fault =>
    unfold Worker.conclude
    dsimp only
    split
    · exact made none
    · rename_i own
      rintro _ ⟨⟩
      simpa using own

theorem onStream_silent (place : Option String) : Worker.Silent (onStream tidy place) :=
  fun _ _ => ⟨trivial, fun _ _ _ => rfl⟩

/-- The contract of a task on one stream, whatever it moves. -/
def streamErrand (place : Option String) (mode : Mode) {opened : Worker.Program S (Except Fault S)}
    {transfer : S → Worker.Program S (S × Except Fault Nat)}
    (opens : opened.Ends (onStream tidy place)
      (fun reply _ => ∀ stream, reply = .ok stream → tidy.target stream = place) ())
    (moves : ∀ stream, tidy.target stream = place → (transfer stream).Ends (onStream tidy place)
      (fun moved _ => tidy.target moved.1 = place) ()) :
    Worker.Errand (onStream tidy place) mode opened transfer where
  Ready _ := True
  Timed _ _ := True
  Open _ stream _ := tidy.target stream = place
  Moved _ stream _ := tidy.target stream = place
  Over _ := True
  Counts _ := True
  Takes _ := True
  Closes _ := True
  silent := onStream_silent tidy place
  begins _ := ⟨trivial, fun _ _ _ => trivial⟩
  opens _ := by
    refine opens.mono ?_
    rintro (fault | stream) _ opened
    · exact ⟨trivial, trivial⟩
    · exact opened stream rfl
  moves h := by
    refine (moves _ h).mono ?_
    rintro ⟨stream, fault | bytes⟩ _ same <;> exact ⟨same, trivial⟩
  measures h _ := ⟨trivial, fun _ _ _ => ⟨h, trivial⟩⟩
  closes h := ⟨h, fun _ _ _ => ⟨trivial, trivial⟩⟩

theorem measured_onStream (place : Option String) (mode : Mode) (index : Int) (path : String)
    (size : Int) {opened : Worker.Program S (Except Fault S)}
    {transfer : S → Worker.Program S (S × Except Fault Nat)}
    (opens : opened.Ends (onStream tidy place)
      (fun reply _ => ∀ stream, reply = .ok stream → tidy.target stream = place) ())
    (moves : ∀ stream, tidy.target stream = place → (transfer stream).Ends (onStream tidy place)
      (fun moved _ => tidy.target moved.1 = place) ()) :
    (Worker.measured mode index path size opened transfer).Ends (onStream tidy place)
      (fun result _ => OwnFailure result) () := by
  refine ((streamErrand tidy place mode opens moves).measured_ends size trivial).mono ?_
  rintro _ _ ⟨⟨result, errors, closing, -, -, -, rfl⟩, -⟩
  exact conclude_own mode index (errors ++ closing) result

/-- The blocks of a writer go to its stream. -/
theorem writeAll_onStream (place : Option String) {payload : ByteArray} {size : Nat}
    (given : payload.size = 0 → size = 0) (stream : S) (h : tidy.target stream = place) :
    (Worker.writeAll payload size stream).Ends (onStream tidy place)
      (fun moved _ => tidy.target moved.1 = place) () := by
  have blocks : (Worker.writeBlocks payload stream size).Ends (onStream tidy place)
      (fun moved _ => tidy.target moved.1 = place) () := by
    by_cases empty : payload.size = 0
    -- without a payload there is nothing to repeat, and nothing is written
    · obtain rfl := given empty
      unfold Worker.writeBlocks
      rw [dif_pos (.inl rfl)]
      exact h
    · refine Worker.writeBlocks_ends (fun _ stream _ => tidy.target stream = place) (by omega) ?_ ?_
        size h
      · rintro remaining stream _ - h
        refine ⟨h, ?_⟩
        rintro ⟨stream, fault | written⟩ _ same <;> exact same
      · exact fun _ _ h => h
  refine blocks.bind ?_
  rintro ⟨stream, fault | _⟩ _ h
  · exact h
  · exact ⟨h, fun _ _ same => same⟩

theorem writeTask_onStream (index : Int) (path : String) (size : Int) (payload : ByteArray) :
    (Worker.writeTask (S := S) index path size payload).Ends (onStream tidy (some path))
      (fun result _ => OwnFailure result) () := by
  unfold Worker.writeTask
  split
  · rintro _ ⟨⟩
    rfl
  · rename_i given
    refine measured_onStream tidy (some path) .write index path size ?_ ?_
    · exact ⟨rfl, fun _ _ opened => opened⟩
    · exact fun stream => writeAll_onStream tidy (some path) (by omega) stream

theorem readTask_onStream (index : Int) (path : String) (size bufferSize : Int) :
    (Worker.readTask (S := S) index path size bufferSize).Ends (onStream tidy none)
      (fun result _ => OwnFailure result) () := by
  refine measured_onStream tidy none .read index path size ?_ ?_
  · exact ⟨rfl, fun _ _ opened => opened⟩
  · intro stream h
    -- the invariant of the loop: the stream publishes nowhere
    refine Worker.readBlocks_ends (fun _ stream _ => tidy.target stream = none) ?_ ?_ _ rfl h
    · rintro count stream _ - h
      refine ⟨h, ?_⟩
      rintro ⟨stream, fault | block⟩ _ same
      · exact same
      · exact ⟨fun _ => same, fun _ => same⟩
    · exact fun _ _ _ _ h => h

/-- A question of a task on one stream touches the object of the stream, or none. -/
theorem onStream_touches {place : Option String} {op : Operation S}
    (allowed : (onStream tidy place).Allows () (.storage op)) :
    touchedBy tidy.target op = none ∨ touchedBy tidy.target op = place := by
  cases op with
  | isPresent _ | makeDirs _ | openRead _ | read _ _ => exact .inl rfl
  | create path =>
    -- only the place of the stream itself may be created
    have same : place = some path := allowed
    exact .inr same.symm
  | delete path => cases allowed
  | write stream data | flush stream | close stream => exact .inr allowed

theorem onStream_answers {place : Option String} {op : Worker.Op S} {reply : op.Answer}
    {fate : B.Fate} {time : Binary64} {shared shared' : Shared B}
    (allowed : (onStream tidy place).Allows () op)
    (answered : shared.answer fate time op = some (reply, shared')) :
    (onStream tidy place).Answers () op reply () := by
  cases op with
  | clock | log entry => trivial
  | isLate late index => cases allowed
  | storage op =>
    obtain ⟨store, answer, -⟩ := Shared.answer_storage.1 answered
    obtain rfl := congrArg Prod.fst answer
    cases op with
    | isPresent _ | makeDirs _ | delete _ => cases allowed
    | create path =>
      have same : place = some path := allowed
      exact fun stream opened => (tidy.creates opened).trans same.symm
    | openRead path =>
      have same : place = none := allowed
      exact fun stream opened => (tidy.opens opened).trans same.symm
    | write stream data => exact tidy.writes.trans allowed
    | flush stream => exact tidy.flushes.trans allowed
    | read stream size => exact tidy.reads.trans allowed
    | close stream => trivial

/-! ## The jobs -/

/-- The surroundings of a writer: it works on one stream, asks whether it is late, and deletes its
object if it is.  A writer that is not late has nothing left to ask. -/
def writerRoom (path : String) (index : Nat) : Surroundings (Worker.effects S) Duty where
  Allows duty
    | .isLate late other => late = 0 ∧ other = index ∧ duty = .writes
    | .storage (.delete other) => other = path ∧ duty ≠ .leaves
    | .log _ => duty ≠ .leaves
    | op => (onStream tidy (some path)).Allows () op ∧ duty = .writes
  Answers duty op reply duty' :=
    match op, reply with
    | .isLate _ _, late => match (late : Bool) with
      | true => duty' = duty
      | false => duty' = .leaves
    | .storage (.delete _), reply =>
      duty' = .cleared ∧ ∀ fault, reply = .error fault → fault.isAbsent = true
    | .log _, _ => duty' = duty
    | op, reply => (onStream tidy (some path)).Answers () op reply () ∧ duty' = duty

/-- The surroundings of a reader, which publishes nothing. -/
def readerRoom : Surroundings (Worker.effects S) Duty where
  Allows _
    | .isLate _ _ => True
    | op => (onStream tidy none).Allows () op
  Answers duty op reply duty' :=
    duty' = duty ∧ match op, reply with
      | .isLate _ _, _ => True
      | op, reply => (onStream tidy none).Answers () op reply ()

/-- The contracts of the tasks of a run.  A writer that comes to an outcome has put its work down. -/
def attendance (settings : Settings) (workers : Nat) : Protocol S where
  Local := Duty
  env k := if k < workers then writerRoom tidy (settings.objectPath k) k else readerRoom tidy
  Goal k result duty :=
    k < workers → OwnFailure result ∧ (∀ outcome, result = .ok outcome → duty ≠ .writes)
  Quiet _ _ := True

theorem attendance_writer {settings : Settings} {workers k : Nat} (writer : k < workers) :
    (attendance tidy settings workers).env k = writerRoom tidy (settings.objectPath k) k :=
  if_pos writer

theorem attendance_reader {settings : Settings} {workers k : Nat} (reader : ¬ k < workers) :
    (attendance tidy settings workers).env k = readerRoom tidy := if_neg reader

/-- A late writer deletes its object. -/
theorem discardLate_attends {path : String} {index : Nat} :
    (Phase.discardLate (S := S) index path).Ends (writerRoom tidy path index)
      (fun result duty => (∀ fault, result ≠ .error fault) ∧ duty = .cleared) .writes := by
  have deleted : (Worker.delete (S := S) path).Ends (writerRoom tidy path index)
      (fun reply duty => duty = .cleared ∧ ∀ fault, reply = .error fault → fault.isAbsent = true)
      .writes := by
    refine ⟨⟨rfl, by decide⟩, ?_⟩
    rintro reply _ ⟨rfl, absent⟩
    exact ⟨rfl, absent⟩
  have logged (entry : Log.Entry) : (Worker.log (S := S) entry).Ends (writerRoom tidy path index)
      (fun _ duty => duty = .cleared) .cleared := by
    refine ⟨by show Duty.cleared ≠ .leaves; decide, ?_⟩
    rintro _ _ same
    exact same
  refine deleted.bind ?_
  rintro (fault | _) _ ⟨rfl, absent⟩
  · dsimp only
    rw [if_pos (absent fault rfl)]
    exact (logged _).bind fun _ _ duty => ⟨fun _ failed => (by cases failed), duty⟩
  · exact (logged _).bind fun _ _ duty => ⟨fun _ failed => (by cases failed), duty⟩

/-- A writer that comes to an outcome has asked whether it is late, and has deleted its object if it
was. -/
theorem writeJob_attends {size : Int} {payload : ByteArray} {index : Nat} :
    (Phase.writeJob (S := S) settings size payload (some 0) index).Ends
      (writerRoom tidy (settings.objectPath index) index)
      (fun result duty => OwnFailure result ∧ (∀ outcome, result = .ok outcome → duty ≠ .writes))
      .writes := by
  have written : (Worker.writeTask (S := S) index (settings.objectPath index) size payload).Ends
      (writerRoom tidy (settings.objectPath index) index)
      (fun result duty => OwnFailure result ∧ duty = .writes) .writes := by
    -- what the writer asks of its stream it asks while it has its work at hand
    have embedded := (writeTask_onStream tidy index (settings.objectPath index) size payload).embed
      (writerRoom tidy (settings.objectPath index) index) (fun _ duty => duty = .writes)
      ?_ ?_ rfl
    · exact embedded.mono fun _ _ ⟨_, done⟩ => done
    · rintro _ _ op rfl allowed
      cases op with
      | clock => exact ⟨trivial, rfl⟩
      | log entry => exact (by decide : Duty.writes ≠ .leaves)
      | isLate late other => cases allowed
      | storage op => cases op <;> first | exact ⟨allowed, rfl⟩ | cases allowed
    · rintro _ _ op reply duty rfl allowed answered
      cases op with
      | clock => exact ⟨(), trivial, answered.2⟩
      | log entry => exact ⟨(), trivial, answered⟩
      | isLate late other => cases allowed
      | storage op => cases op <;> first | exact ⟨(), answered⟩ | cases allowed
  unfold Phase.writeJob
  refine written.bind ?_
  rintro (fault | outcome) _ ⟨own, rfl⟩
  · exact ⟨own, fun _ failed => (by cases failed)⟩
  · refine ⟨⟨rfl, rfl, rfl⟩, ?_⟩
    -- the answer settles who deletes the object: the main thread, or the writer right here
    rintro (_ | _) duty answered
    · obtain rfl : duty = .leaves := answered
      exact ⟨fun _ failed => (by cases failed), fun _ _ => by decide⟩
    · obtain rfl : duty = .writes := answered
      refine (discardLate_attends tidy).bind ?_
      rintro (fault | _) _ ⟨fine, rfl⟩
      · exact absurd rfl (fine fault)
      · exact ⟨fun _ failed => (by cases failed), fun _ _ => by decide⟩

theorem readJob_attends {size bufferSize : Int} {index : Int} (duty : Duty) :
    (Phase.readJob (S := S) settings size bufferSize (some 0) index).Ends (readerRoom tidy)
      (fun _ _ => True) duty := by
  have asked : (Phase.isLate (S := S) (some 0) index).Ends (readerRoom tidy) (fun _ _ => True) duty :=
    ⟨trivial, fun _ _ _ => trivial⟩
  refine asked.bind fun late duty _ => ?_
  split
  · trivial
  · have embedded := (readTask_onStream tidy index (settings.objectPath index) size bufferSize).embed
      (readerRoom tidy) (fun _ _ => True) ?_ ?_ (t := duty) trivial
    · exact embedded.mono fun _ _ _ => trivial
    · rintro _ _ op - allowed
      cases op <;> first | exact allowed | cases allowed
    · rintro _ _ op reply _ - allowed ⟨-, answered⟩
      cases op <;> exact ⟨(), answered, trivial⟩

/-! ## What a writer knows and what all share -/

/-- A writer's duty agrees with what all share, by the mark of the main thread.  A writer is caught if
it was late before it asked. -/
structure Attends (path : String) (index : Nat) (mark : Mark) (caught : Prop) (shared : Shared B)
    (duty : Duty) : Prop where
  warned : mark ≠ .awaited → duty = .writes → shared.isLate 0 index = true
  gone : mark = .cleared → duty ≠ .writes → ¬ tidy.Holds shared.store path
  deleted : duty = .cleared → ¬ tidy.Holds shared.store path
  caught : caught → duty ≠ .leaves ∧ (duty = .writes → shared.isLate 0 index = true)

/-- A writer agrees with what all share; of a reader nothing is known. -/
def attending (settings : Settings) (workers : Nat) (marks : Nat → Mark) (caught : Nat → Prop) :
    View B (attendance tidy settings workers) :=
  fun k shared duty =>
    k < workers → Attends tidy (settings.objectPath k) k (marks k) (caught k) shared duty

variable {tidy}

section
variable {path : String} {index : Nat} {mark : Mark} {caught : Prop} {shared shared' : Shared B}
variable {duty : Duty}

theorem isLate_of_lates (same : shared'.lates = shared.lates) (late : Nat) (index : Int) :
    shared'.isLate late index = shared.isLate late index := by
  rw [Shared.isLate, Shared.isLate, same]

/-- What leaves the object and the late workers alone leaves the agreement. -/
theorem Attends.frame (h : Attends tidy path index mark caught shared duty)
    (lates : shared'.lates = shared.lates)
    (same : tidy.Holds shared'.store path ↔ tidy.Holds shared.store path) :
    Attends tidy path index mark caught shared' duty where
  warned past busy := by
    rw [isLate_of_lates lates]
    exact h.warned past busy
  gone cleared down := by
    rw [same]
    exact h.gone cleared down
  deleted cleared := by
    rw [same]
    exact h.deleted cleared
  caught here := by
    rw [isLate_of_lates lates]
    exact h.caught here

/-- A writer that may publish may change its object in any way. -/
theorem Attends.publish (h : Attends tidy path index mark caught shared .writes)
    (lates : shared'.lates = shared.lates) : Attends tidy path index mark caught shared' .writes where
  warned past busy := by
    rw [isLate_of_lates lates]
    exact h.warned past busy
  gone _ down := absurd rfl down
  deleted := nofun
  caught here := by
    rw [isLate_of_lates lates]
    exact h.caught here

/-- A writer that is told that it is not late puts its work down. -/
theorem Attends.leave (h : Attends tidy path index mark caught shared .writes)
    (early : shared.isLate 0 index = false) :
    Attends tidy path index mark caught shared .leaves where
  warned _ := nofun
  gone cleared _ := by
    -- who was taken down while it writes is late, and this one is not
    have late := h.warned (by rw [cleared]; decide) rfl
    rw [early] at late
    cases late
  deleted := nofun
  caught here := by
    have late := (h.caught here).2 rfl
    rw [early] at late
    cases late

/-- A writer deletes its object. -/
theorem Attends.delete {store : B.State} (gone : ¬ tidy.Holds store path) :
    Attends tidy path index mark caught { shared with store } .cleared where
  warned _ := nofun
  gone _ _ := gone
  deleted _ := gone
  caught _ := ⟨by decide, nofun⟩

/-- What a writer does changes its own view as its surroundings say. -/
theorem Attends.own (h : Attends tidy path index mark caught shared duty) {op : Worker.Op S}
    {reply : op.Answer} {fate : B.Fate} {time : Binary64}
    (allowed : (writerRoom tidy path index).Allows duty op)
    (answered : shared.answer fate time op = some (reply, shared')) :
    ∃ duty', (writerRoom tidy path index).Answers duty op reply duty' ∧
      Attends tidy path index mark caught shared' duty' := by
  have lates := Shared.lates_answer answered
  -- a question to the stream leaves the duty as it is
  have streamed (op : Worker.Op S) (reply : op.Answer)
      (answered : shared.answer fate time op = some (reply, shared'))
      (allowed : (onStream tidy (some path)).Allows () op ∧ duty = .writes) :
      (onStream tidy (some path)).Answers () op reply () ∧
        Attends tidy path index mark caught shared' duty := by
    obtain ⟨asks, rfl⟩ := allowed
    exact ⟨onStream_answers tidy asks answered, h.publish (Shared.lates_answer answered)⟩
  cases op with
  | clock =>
    have ⟨answers, attends⟩ := streamed .clock reply answered allowed
    exact ⟨duty, ⟨answers, rfl⟩, attends⟩
  | log entry =>
    cases answered
    exact ⟨duty, rfl, h⟩
  | isLate late other =>
    obtain ⟨rfl, rfl, rfl⟩ := allowed
    cases answered
    cases found : shared.isLate 0 (index : Int) with
    | true => exact ⟨.writes, rfl, h⟩
    | false => exact ⟨.leaves, rfl, h.leave found⟩
  | storage op =>
    cases op with
    | delete other =>
      obtain ⟨rfl, -⟩ := allowed
      obtain ⟨store, answer, rfl⟩ := Shared.answer_storage.1 answered
      obtain ⟨rfl, rfl⟩ := Prod.mk.inj answer
      exact ⟨.cleared, ⟨rfl, fun fault => tidy.misses⟩, .delete tidy.deletes⟩
    | isPresent other | makeDirs other => cases allowed.1
    | create other | openRead other | write stream data | flush stream | read stream size
    | close stream =>
      have ⟨answers, attends⟩ := streamed _ reply answered allowed
      exact ⟨duty, ⟨answers, rfl⟩, attends⟩

/-- A question of another task that does not touch the object. -/
theorem Attends.other (h : Attends tidy path index mark caught shared duty) {op : Worker.Op S}
    {reply : op.Answer} {fate : B.Fate} {time : Binary64}
    (untouched : ∀ question, op = .storage question → touchedBy tidy.target question ≠ some path)
    (answered : shared.answer fate time op = some (reply, shared')) :
    Attends tidy path index mark caught shared' duty := by
  refine h.frame (Shared.lates_answer answered) ?_
  cases op with
  | clock =>
    obtain ⟨-, -, rfl⟩ := Shared.answer_clock.1 answered
    rfl
  | log entry | isLate late other =>
    cases answered
    rfl
  | storage op =>
    obtain ⟨store, answer, rfl⟩ := Shared.answer_storage.1 answered
    obtain ⟨-, rfl⟩ := Prod.mk.inj answer
    exact tidy.untouched (untouched op rfl)

end

/-- The objects that a task touches are its own. -/
theorem attendance_touches {k : Nat} {duty : Duty} {op : Operation S}
    (allowed : ((attendance tidy settings workers).env k).Allows duty (.storage op)) {j : Nat}
    (other : j ≠ k) : touchedBy tidy.target op ≠ some (settings.objectPath j) := by
  have differs : settings.objectPath k ≠ settings.objectPath j :=
    fun same => other (settings.objectPath_injective same).symm
  by_cases writer : k < workers
  · rw [attendance_writer tidy writer] at allowed
    -- a writer deletes its object besides its stream
    by_cases deletes : ∃ path, op = .delete path
    · obtain ⟨path, rfl⟩ := deletes
      obtain ⟨rfl, -⟩ := allowed
      exact fun same => differs (Option.some.inj same)
    · have streamed : (onStream tidy (some (settings.objectPath k))).Allows () (.storage op) := by
        cases op with
        | delete path => exact absurd ⟨path, rfl⟩ deletes
        | _ => exact allowed.1
      rcases onStream_touches tidy streamed with none_ | own
      · rw [none_]
        exact Option.some_ne_none _ ∘ Eq.symm
      · rw [own]
        exact fun same => differs (Option.some.inj same)
  · rw [attendance_reader tidy writer] at allowed
    have streamed : (onStream tidy none).Allows () (.storage op) := by
      cases op <;> exact allowed
    rcases onStream_touches tidy streamed with none_ | own
    · rw [none_]
      exact Option.some_ne_none _ ∘ Eq.symm
    · rw [own]
      exact Option.some_ne_none _ ∘ Eq.symm

/-- No question of a task breaks the agreement of any task. -/
theorem attendance_lawful (marks : Nat → Mark) (caught : Nat → Prop) :
    Protocol.Lawful (attendance tidy settings workers)
      (attending tidy settings workers marks caught) where
  own {k shared shared' duty op reply fate time} attends allowed answered := by
    by_cases writer : k < workers
    · rw [attendance_writer tidy writer] at allowed ⊢
      obtain ⟨duty', answers, attends⟩ := (attends writer).own allowed answered
      exact ⟨duty', answers, fun _ => attends⟩
    · rw [attendance_reader tidy writer] at allowed ⊢
      refine ⟨duty, ⟨rfl, ?_⟩, fun below => absurd below writer⟩
      cases op with
      | isLate late other => trivial
      | clock | log entry | storage op => exact onStream_answers tidy allowed answered
  others {k j shared shared' duty duty' op reply fate time} other _ allowed answered attends
      writer := by
    refine (attends writer).other ?_ answered
    rintro question rfl
    exact attendance_touches allowed other

end Concert
end StoreMeter
