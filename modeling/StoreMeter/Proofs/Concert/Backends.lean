import StoreMeter.Proofs.Binary64.Order
import StoreMeter.Proofs.Concert.Contracts
import StoreMeter.Proofs.Contents
import StoreMeter.Proofs.Objects
/-
# Proofs.Concert.Backends — storages in memory, with and without flaws

Both backends keep their objects in memory and have a clock that never goes back.  The operations of
the reliable one always work.  Those of the flawed one may fail, in two ways: an operation is
refused and changes nothing, or it is done and told as a failure.  Which failures there may be
depends on the operation (`mayFail`): writers meet failures of the system only, deleting fails only
where there is nothing to delete, and looking and reading may fail in any way.
-/
namespace StoreMeter
namespace Concert

open Storage (Operation)
open Storage.Memory (Stream Store)

/-! ## A clock that never goes back -/

/-- May a clock that never goes back show a time after the one that it showed last? -/
def steady : Option Binary64 → Binary64 → Bool
  | none, time => Binary64.le time time
  | some last, time => Binary64.le last time

/-- The clock has shown this time already. -/
def Shown (clock : Option Binary64) (time : Binary64) : Prop :=
  ∃ now, clock = some now ∧ Binary64.le time now = true

theorem shown_now {clock : Option Binary64} {time : Binary64} (h : steady clock time = true) :
    Shown (some time) time := by
  refine ⟨time, rfl, Binary64.le_refl ?_⟩
  intro same
  subst same
  cases clock with
  | none => cases h
  | some last => cases last <;> cases h

theorem Shown.le {clock : Option Binary64} {earlier time : Binary64} (shown : Shown clock earlier)
    (h : steady clock time = true) : Binary64.le earlier time = true := by
  obtain ⟨now, rfl, before⟩ := shown
  exact Binary64.le_trans before h

theorem Shown.later {clock : Option Binary64} {earlier time : Binary64} (shown : Shown clock earlier)
    (h : steady clock time = true) : Shown (some time) earlier :=
  ⟨time, rfl, shown.le h⟩

/-- What a task sees of such a clock does not go back, either. -/
theorem steady_of_shown {clock since : Option Binary64} {time : Binary64}
    (timely : ∀ earlier, since = some earlier → Shown clock earlier) (h : steady clock time = true) :
    steady since time = true := by
  -- before its first look a task has nothing to compare with
  cases since with
  | none =>
    obtain ⟨_, same, before⟩ := shown_now h
    cases same
    exact before
  | some earlier => exact (timely earlier rfl).le h

/-- Between two times of such a clock a measurement can be made. -/
theorem measurement_made (mode : Mode) {start now : Binary64} (h : Binary64.le start now = true)
    (bytes : Nat) : Measurement.make mode (.real (now.sub start)) bytes =
      .ok ⟨mode, .real (now.sub start), bytes⟩ := by
  rw [Measurement.make, Binary64.not_negative_sub h, if_neg Bool.false_ne_true, if_neg (by omega)]

/-! ## The reliable storage -/

/-- A storage in memory whose operations always work. -/
def reliable : Backend Stream where
  State := Store
  Fate := Unit
  answer _ := Storage.Memory.answer
  ticks := steady

/-- A storage in memory keeps the target of a stream. -/
theorem target_answer (stream : Stream) (store : Store) :
    (∀ data, (Storage.Memory.answer (.write stream data) store).1.1.target = stream.target) ∧
    (Storage.Memory.answer (.flush stream) store).1.1.target = stream.target ∧
    ∀ size, (Storage.Memory.answer (.read stream size) store).1.1.target = stream.target := by
  refine ⟨fun data => ?_, ?_, fun size => ?_⟩
  · simp only [Storage.Memory.answer, Stream.overwrite]
    split
    · rfl
    · split <;> rfl
  · simp only [Storage.Memory.answer]
    split <;> rfl
  · simp only [Storage.Memory.answer]
    split
    · rfl
    · split <;> rfl

/-! ## The flawed storage -/

/-- The fate of an operation on a flawed storage: it works, or it is refused, or it is done and then
told as a failure. -/
inductive Flaw where
  | none
  | refused (fault : Fault)
  | disowned (fault : Fault)

/-- May an operation fail like this? -/
def mayFail (fault : Fault) : Operation Stream → Bool
  | .delete _ => false
  | .create _ | .write _ _ | .flush _ | .close _ => fault.isSystem
  | .isPresent _ | .makeDirs _ | .openRead _ | .read _ _ => true

/-- The answer of an operation that is refused: its stream stays as it is. -/
def refusal (fault : Fault) : (op : Operation Stream) → op.Answer
  | .isPresent _ | .makeDirs _ | .create _ | .openRead _ | .delete _ => .error fault
  | .write stream _ | .flush stream | .close stream => (stream, .error fault)
  | .read stream _ => (stream, .error fault)

/-- The answer of an operation that was done and is told as a failure. -/
def disowned (fault : Fault) : (op : Operation Stream) → op.Answer → op.Answer
  | .isPresent _, _ | .makeDirs _, _ | .create _, _ | .openRead _, _ | .delete _, _ => .error fault
  | .write _ _, (stream, _) | .flush _, (stream, _) | .close _, (stream, _) => (stream, .error fault)
  | .read _ _, (stream, _) => (stream, .error fault)

/-- The answer of a flawed storage to an operation. -/
def flawedAnswer (flaw : Flaw) (op : Operation Stream) (store : Store) : op.Answer × Store :=
  let (reply, after) := Storage.Memory.answer op store
  match flaw with
  | .none => (reply, after)
  | .refused fault => if mayFail fault op then (refusal fault op, store) else (reply, after)
  | .disowned fault => (if mayFail fault op then disowned fault op reply else reply, after)

/-- A storage in memory whose operations may fail. -/
def flawed : Backend Stream where
  State := Store
  Fate := Flaw
  answer := flawedAnswer
  ticks := steady

/-- The ways in which an operation on a flawed storage may go. -/
theorem flawed_cases {flaw : Flaw} {op : Operation Stream} {store after : Store} {reply : op.Answer}
    (h : flawedAnswer flaw op store = (reply, after)) :
    (after = (Storage.Memory.answer op store).2 ∧ (reply = (Storage.Memory.answer op store).1 ∨
      ∃ fault, mayFail fault op = true ∧
        reply = disowned fault op (Storage.Memory.answer op store).1)) ∨
      ∃ fault, mayFail fault op = true ∧ reply = refusal fault op ∧ after = store := by
  unfold flawedAnswer at h
  cases flaw with
  | none =>
    cases h
    exact .inl ⟨rfl, .inl rfl⟩
  | refused fault =>
    by_cases may : mayFail fault op = true
    · simp only [if_pos may] at h
      cases h
      exact .inr ⟨fault, may, rfl, rfl⟩
    · simp only [if_neg may] at h
      cases h
      exact .inl ⟨rfl, .inl rfl⟩
  | disowned fault =>
    by_cases may : mayFail fault op = true
    · simp only [if_pos may] at h
      cases h
      exact .inl ⟨rfl, .inr ⟨fault, may, rfl⟩⟩
    · simp only [if_neg may] at h
      cases h
      exact .inl ⟨rfl, .inl rfl⟩

section
variable {flaw : Flaw} {store after : Store} {path : String} {stream : Stream}

/-- A flawed storage, too, leaves all objects alone but the one that an operation touches. -/
theorem flawed_untouched {op : Operation Stream} {reply : op.Answer}
    (h : flawedAnswer flaw op store = (reply, after)) (untouched : op.touched ≠ some path) :
    after.get? path = store.get? path := by
  rcases flawed_cases h with ⟨rfl, -⟩ | ⟨_, -, -, rfl⟩
  · exact Storage.Memory.get?_answer op store untouched
  · rfl

/-- An object is gone after it was deleted. -/
theorem flawed_delete {reply : Except Fault Unit}
    (h : flawedAnswer flaw (.delete path) store = (reply, after)) : after.get? path = none := by
  rcases flawed_cases h with ⟨rfl, -⟩ | ⟨_, may, -, -⟩
  · exact Storage.Memory.get?_delete path store
  · cases may

/-- Deleting fails only where there is nothing to delete. -/
theorem flawed_delete_fault {fault : Fault}
    (h : flawedAnswer flaw (.delete path) store = (.error fault, after)) :
    fault.isAbsent = true := by
  rcases flawed_cases h with ⟨-, reply | ⟨_, may, -⟩⟩ | ⟨_, may, -⟩
  -- a delete cannot be refused or disowned, so the failure is that of the memory
  · exact Storage.Memory.delete_fault (Prod.ext reply.symm rfl)
  · cases may
  · cases may

/-- A stream that publishes to a path, and is not closed. -/
def Writes (stream : Stream) (path : String) : Prop :=
  stream.target = some path ∧ stream.closed = false

/-- An object is opened for writing, or there is a failure of the system. -/
def Opens (path : String) : Except Fault Stream → Prop
  | .ok stream => Writes stream path
  | .error fault => fault.isSystem = true

theorem flawed_create {reply : Except Fault Stream}
    (h : flawedAnswer flaw (.create path) store = (reply, after)) : Opens path reply := by
  rcases flawed_cases h with ⟨-, rfl | ⟨_, may, rfl⟩⟩ | ⟨_, may, rfl, -⟩
  · exact ⟨rfl, rfl⟩
  · exact may
  · exact may

/-- What comes of an operation on a stream that publishes: the stream, as it is or moved on, and a
failure of the system at most. -/
theorem writes_of_reply {α : Type} {moved : Stream} {reply : Stream × Except Fault α}
    (before : Writes stream path) (after : Writes moved path)
    (h : (∃ a, reply = (moved, .ok a)) ∨ ∃ fault, fault.isSystem = true ∧
      (reply = (moved, .error fault) ∨ reply = (stream, .error fault))) :
    Writes reply.1 path ∧ ∀ fault, reply.2 = .error fault → fault.isSystem = true := by
  rcases h with ⟨a, rfl⟩ | ⟨fault, system, rfl | rfl⟩
  · refine ⟨after, ?_⟩
    intro fault told
    cases told
  · refine ⟨after, ?_⟩
    intro _ told
    cases told
    exact system
  -- a refused operation gives the stream back as it was
  · refine ⟨before, ?_⟩
    intro _ told
    cases told
    exact system

theorem flawed_write {data : ByteArray} {reply : Stream × Except Fault Nat}
    (h : flawedAnswer flaw (.write stream data) store = (reply, after)) (writes : Writes stream path) :
    Writes reply.1 path ∧ ∀ fault, reply.2 = .error fault → fault.isSystem = true := by
  have works := Storage.Memory.answer_write writes.2 data store
  have moved : Writes (stream.overwrite data) path := by
    unfold Storage.Memory.Stream.overwrite
    split <;> exact writes
  apply writes_of_reply writes moved
  rcases flawed_cases h with ⟨-, rfl | ⟨fault, may, rfl⟩⟩ | ⟨fault, may, rfl, -⟩
  · exact .inl ⟨_, congrArg Prod.fst works⟩
  · exact .inr ⟨fault, may, .inl (by rw [works]; rfl)⟩
  · exact .inr ⟨fault, may, .inr rfl⟩

theorem flawed_flush {reply : Stream × Except Fault Unit}
    (h : flawedAnswer flaw (.flush stream) store = (reply, after)) (writes : Writes stream path) :
    Writes reply.1 path ∧ ∀ fault, reply.2 = .error fault → fault.isSystem = true := by
  have works := Storage.Memory.answer_flush writes.2 store
  apply writes_of_reply writes writes
  rcases flawed_cases h with ⟨-, rfl | ⟨fault, may, rfl⟩⟩ | ⟨fault, may, rfl, -⟩
  · exact .inl ⟨_, congrArg Prod.fst works⟩
  · exact .inr ⟨fault, may, .inl (by rw [works]; rfl)⟩
  · exact .inr ⟨fault, may, .inr rfl⟩

theorem flawed_openRead {reply : Except Fault Stream}
    (h : flawedAnswer flaw (.openRead path) store = (reply, after)) :
    ∀ stream, reply = .ok stream → stream.target = none := by
  rintro stream same
  rcases flawed_cases h with ⟨-, found | ⟨_, -, found⟩⟩ | ⟨_, -, found, -⟩
  · rw [same] at found
    simp only [Storage.Memory.answer] at found
    split at found <;> cases found
    rfl
  · rw [same] at found
    cases found
  · rw [same] at found
    cases found

theorem flawed_read {size : Option Int} {reply : Stream × Except Fault ByteArray}
    (h : flawedAnswer flaw (.read stream size) store = (reply, after)) :
    reply.1.target = stream.target := by
  have kept := (target_answer stream store).2.2 size
  rcases flawed_cases h with ⟨-, rfl | ⟨_, -, rfl⟩⟩ | ⟨_, -, rfl, -⟩
  · exact kept
  · exact kept
  · rfl

end

end Concert
end StoreMeter
