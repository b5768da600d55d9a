import StoreMeter.Phase
import StoreMeter.Proofs.Concert.Backends
import StoreMeter.Proofs.Contents
import StoreMeter.Proofs.Errands
/-
# Proofs.Concert.Exact — what the workers do where nothing fails

On a reliable storage a worker that meets nobody at its object comes to one outcome only: a
measurement of its direction over all its bytes.  A writer leaves its object with the payload
repeated up to the size, and a reader finds all of it, in however many blocks.
-/
namespace StoreMeter
namespace Concert

open Storage (Operation)
open Storage.Memory (Stream Store)

/-! ## Surroundings of a worker -/

/-- What a worker knows: its object, and the last time that it saw. -/
structure Own where
  object : Option ByteArray
  since : Option Binary64 := none

/-- The operations of a worker on its own object.  Only a writer publishes. -/
def Concerns (mode : Mode) (path : String) : Operation Stream → Prop
  | .create other | .openRead other => other = path
  | .write _ _ | .read _ _ => True
  | .flush stream | .close stream =>
    stream.target = none ∨ mode = .write ∧ stream.target = some path
  | .isPresent _ | .makeDirs _ | .delete _ => False

/-- A worker among others that leave its object alone, where nobody is late. -/
def aloneEnv (mode : Mode) (path : String) : Surroundings (Worker.effects Stream) Own where
  Allows _
    | .storage op => Concerns mode path op
    | .clock | .log _ | .isLate _ _ => True
  Answers l op reply l' :=
    match op, reply with
    | .storage op, reply => ∃ store after, store.get? path = l.object ∧
      Storage.Memory.answer op store = (reply, after) ∧
        l' = { l with object := after.get? path }
    | .clock, time => l' = { l with since := some time } ∧ steady l.since time = true
    | .log _, _ => l' = l
    | .isLate _ _, late => late = false ∧ l' = l

theorem alone_silent (mode : Mode) (path : String) : Worker.Silent (aloneEnv mode path) :=
  fun _ _ => ⟨trivial, fun _ _ same => same⟩

theorem Concerns.touched {mode : Mode} {path other : String} {op : Operation Stream}
    (h : Concerns mode path op) (touched : op.touched = some other) :
    mode = .write ∧ other = path := by
  cases op with
  | create _ | openRead _ | write _ _ | read _ _ => cases touched
  | isPresent _ | makeDirs _ | delete _ => cases h
  | flush stream | close stream =>
    have target : stream.target = some other := touched
    rcases h with none_there | ⟨writes, there⟩
    · rw [none_there] at target
      cases target
    · rw [there] at target
      cases target
      exact ⟨writes, rfl⟩

theorem Concerns.no_dirs {mode : Mode} {path other : String} {op : Operation Stream}
    (h : Concerns mode path op) : op ≠ .makeDirs other := by
  intro same
  subst same
  cases h

/-! ## Outcomes -/

/-- The outcome of a worker that moved all its bytes. -/
def Exactly (mode : Mode) (index : Int) (size : Nat) (r : Except Fault Outcome) : Prop :=
  ∃ m : Measurement, m.mode = mode ∧ m.bytes = size ∧ r = .ok ⟨index, mode, some m, []⟩

/-- An errand that only takes whole measurements and whose streams close comes to one outcome. -/
theorem exactly_of_concluded {S σ : Type} {env : Surroundings (Worker.effects S) σ} {mode : Mode}
    {opened : Worker.Program S (Except Fault S)}
    {transfer : S → Worker.Program S (S × Except Fault Nat)}
    (errand : Worker.Errand env mode opened transfer) {size : Nat} {index : Int}
    (takes : ∀ r, errand.Takes r → ∃ d, r = .ok ⟨mode, d, size⟩)
    (closes : ∀ fault, ¬ errand.Closes (.error fault)) {r : Except Fault Outcome}
    (h : errand.Concluded index r) : Exactly mode index size r := by
  obtain ⟨result, errors, closing, taken, count, few, rfl⟩ := h
  obtain ⟨d, rfl⟩ := takes result taken
  -- a measurement has no message, and the closing of its stream adds none
  obtain rfl : errors = [] := List.eq_nil_of_length_eq_zero count
  rcases few with rfl | ⟨-, fault, failed⟩
  · refine ⟨⟨mode, d, size⟩, rfl, rfl, ?_⟩
    rw [Worker.conclude, Outcome.make, if_pos rfl]
    rfl
  · exact absurd failed (closes fault)

/-! ## Writers -/

section
variable {path : String} {payload : ByteArray}

theorem writeBlocks_alone (given : 0 < payload.size) (size : Nat) {stream : Stream} {l : Own}
    (h : stream.Filled path payload 0) :
    (Worker.writeBlocks payload stream size).Ends (aloneEnv .write path)
      (fun moved l' => moved.2 = .ok () ∧ moved.1.Filled path payload size ∧ l' = l) l := by
  refine Worker.writeBlocks_whole given size
    (fun count (stream : Stream) l' => stream.Filled path payload count ∧ l' = l) ?_ ⟨h, rfl⟩
  -- the block comes behind whole ones, so the stream stays filled in order
  rintro count more stream _ whole block ⟨filled, rfl⟩
  refine ⟨trivial, ?_⟩
  rintro reply _ ⟨store, after, here, answer, rfl⟩
  rw [Storage.Memory.answer_write filled.unclosed] at answer
  cases answer
  exact ⟨⟨_, rfl⟩, filled.write whole block, by rw [here]⟩

theorem writeAll_alone (given : 0 < payload.size) (size : Nat) {stream : Stream} {l : Own}
    (h : stream.Filled path payload 0) :
    (Worker.writeAll payload size stream).Ends (aloneEnv .write path)
      (fun moved l' => moved.1.Filled path payload size ∧ moved.2 = .ok size ∧
        l' = { l with object := some moved.1.data }) l := by
  apply (writeBlocks_alone given size h).bind
  rintro ⟨stream, _⟩ _ ⟨rfl, filled, rfl⟩
  refine ⟨.inr ⟨rfl, filled.target⟩, ?_⟩
  rintro reply _ ⟨store, after, -, answer, rfl⟩
  rw [Storage.Memory.answer_flush filled.unclosed] at answer
  cases answer
  exact ⟨filled, rfl, by rw [filled.publish]⟩

/-- A writer leaves its object whole. -/
def Holds (payload : ByteArray) (size : Nat) (l : Own) : Prop :=
  ∃ data, l.object = some data ∧ Repeats payload data size

/-- The contract of a writer that nothing disturbs. -/
def exactWriter (path : String) {payload : ByteArray} (given : 0 < payload.size) (size : Nat) :
    Worker.Errand (aloneEnv .write path) .write (Worker.create path)
      (Worker.writeAll payload size) where
  Ready _ := True
  Timed start l := Shown l.since start
  Open start stream l := stream.Filled path payload 0 ∧ Shown l.since start
  Moved start stream l := stream.Filled path payload size ∧ Shown l.since start
  Over l := Holds payload size l
  Counts bytes := bytes = size
  Takes result := ∃ d, result = .ok ⟨.write, d, size⟩
  Closes reply := reply = .ok ()
  silent := alone_silent .write path
  begins _ := by
    refine ⟨trivial, ?_⟩
    rintro start _ ⟨rfl, ticks⟩
    exact shown_now ticks
  opens {start l} began := by
    refine ⟨rfl, ?_⟩
    rintro reply _ ⟨store, after, here, answer, rfl⟩
    cases answer
    exact ⟨⟨rfl, rfl, rfl, repeats_empty payload⟩, began⟩
  moves {start stream l} h := by
    apply (writeAll_alone given size h.1).mono
    rintro ⟨stream, _⟩ _ ⟨filled, rfl, rfl⟩
    exact ⟨⟨filled, h.2⟩, rfl⟩
  measures {start stream bytes l} h counted := by
    refine ⟨trivial, ?_⟩
    rintro now _ ⟨rfl, ticks⟩
    refine ⟨⟨h.1, h.2.later ticks⟩, ?_⟩
    rw [measurement_made _ (h.2.le ticks), counted]
    exact ⟨_, rfl⟩
  closes {start stream l} h := by
    refine ⟨.inr ⟨rfl, h.1.target⟩, ?_⟩
    rintro reply _ ⟨store, after, -, answer, rfl⟩
    rw [Storage.Memory.answer_close h.1.unclosed] at answer
    cases answer
    exact ⟨rfl, stream.data, h.1.publish store, h.1.holds⟩

end

theorem isLate_alone {mode : Mode} {path : String} (late : Option Nat) (index : Int) (l : Own) :
    (Phase.isLate (S := Stream) late index).Ends (aloneEnv mode path)
      (fun told l' => told = false ∧ l' = l) l := by
  cases late with
  | none => exact ⟨rfl, rfl⟩
  | some late => exact ⟨trivial, fun _ _ => id⟩

/-- A writer that comes to its outcome while nobody is late keeps it. -/
theorem writeJob_exactly {S σ : Type} {env : Surroundings (Worker.effects S) σ} {settings : Settings}
    {size : Nat} {index : Int} {payload : ByteArray} {late : Option Nat} {P : σ → Prop} {s : σ}
    (early : ∀ s, (Phase.isLate (S := S) late index).Ends env (fun told s' => told = false ∧ s' = s) s)
    (written : (Worker.writeTask (S := S) index (settings.objectPath index) size payload).Ends env
      (fun r s => Exactly .write index size r ∧ P s) s) :
    (Phase.writeJob (S := S) settings size payload late index).Ends env
      (fun r s => Exactly .write index size r ∧ P s) s := by
  apply written.bind
  rintro _ s ⟨⟨m, mode, bytes, rfl⟩, holds⟩
  apply (early s).bind
  rintro _ _ ⟨rfl, rfl⟩
  exact ⟨⟨m, mode, bytes, rfl⟩, holds⟩

/-- A writer that nothing disturbs writes all its bytes and leaves its object whole. -/
theorem writeJob_alone {settings : Settings} {size : Nat} {index : Int} {payload : ByteArray}
    (given : 0 < payload.size) (late : Option Nat) (l : Own) :
    (Phase.writeJob (S := Stream) settings size payload late index).Ends
      (aloneEnv .write (settings.objectPath index))
      (fun r l => Exactly .write index size r ∧ Holds payload size l) l := by
  refine writeJob_exactly (isLate_alone late index) ?_
  unfold Worker.writeTask
  rw [if_neg fun none => Nat.ne_of_gt given none.1]
  refine ((exactWriter _ given size).measured_ends size trivial).mono fun r l h => ⟨?_, h.2⟩
  refine exactly_of_concluded _ (fun r taken => taken) ?_ h.1
  intro fault told
  cases told

/-! ## Readers -/

/-- What a reader comes to by the object that it finds at its path: it reads all of it, up to the
size, unless there is none or a block is too big to ask for. -/
def Finds (path : String) (size : Nat) (bufferSize : Int) (index : Int) (r : Except Fault Outcome) :
    Option ByteArray → Prop
  | none => r = .ok (Outcome.failure index .read
      s!"Failed to read {path}: {(Storage.Memory.absent path).text}")
  | some data =>
    if min bufferSize size ≤ Storage.greatestSize then Exactly .read index (min size data.size) r
    else r = .error .sizeBeyondIndexes

section
variable {path : String} {data : ByteArray} {bufferSize : Int} {size : Nat}

theorem readBlocks_alone (positive : 0 < bufferSize)
    (fits : min bufferSize size ≤ Storage.greatestSize) {stream : Stream} {l : Own}
    (h : stream.Reads data 0) :
    (Worker.readBlocks bufferSize size stream 0).Ends (aloneEnv .read path)
      (fun moved l' => moved.2 = .ok (min size data.size) ∧
        ∃ count, moved.1.Reads data count ∧ l' = l) l := by
  refine Worker.readBlocks_whole (fun count (stream : Stream) l' => stream.Reads data count ∧ l' = l)
    (fun h => h.1.most) ?_ ⟨h, rfl⟩
  rintro count stream _ more ⟨reads, rfl⟩
  refine ⟨trivial, ?_⟩
  rintro reply _ ⟨store, after, here, answer, rfl⟩
  -- as long as more is wanted a block of at least one byte is asked for
  have asked : (0 : Int) < min bufferSize (size - count) := by omega
  obtain ⟨stream', block, length, further, read⟩ := reads.read asked (by omega) store
  rw [read] at answer
  cases answer
  have most := further.most
  exact ⟨block, rfl, by omega, ⟨further, by rw [here]⟩, fun empty => by omega⟩

theorem readBlocks_beyond (beyond : ¬ min bufferSize size ≤ Storage.greatestSize) {stream : Stream}
    {l : Own} (h : stream.Reads data 0) :
    (Worker.readBlocks bufferSize size stream 0).Ends (aloneEnv .read path)
      (fun moved l' => moved.1.Reads data 0 ∧ moved.2 = .error .sizeBeyondIndexes ∧ l' = l) l := by
  have most : (0 : Int) ≤ Storage.greatestSize := by decide
  -- the first block is refused already
  unfold Worker.readBlocks
  rw [if_neg (by omega)]
  refine ⟨trivial, ?_⟩
  rintro reply _ ⟨store, after, here, answer, rfl⟩
  rw [Storage.Memory.Stream.read_beyond (by omega)] at answer
  cases answer
  exact ⟨h, rfl, by rw [here]⟩

/-- The contract of a reader that finds an object and that nothing disturbs. -/
def finder (path : String) (data : ByteArray) {bufferSize : Int} (positive : 0 < bufferSize)
    (size : Nat) :
    Worker.Errand (aloneEnv .read path) .read (Worker.openRead path)
      (fun stream => Worker.readBlocks bufferSize size stream 0) where
  Ready l := l.object = some data
  Timed start l := l.object = some data ∧ Shown l.since start
  Open start stream l := stream.Reads data 0 ∧ l.object = some data ∧ Shown l.since start
  Moved start stream l := (∃ count, stream.Reads data count) ∧ l.object = some data ∧
    Shown l.since start
  Over l := l.object = some data
  Counts bytes := min bufferSize size ≤ Storage.greatestSize ∧ bytes = min size data.size
  Takes result := if min bufferSize size ≤ Storage.greatestSize then
      ∃ d, result = .ok ⟨.read, d, (min size data.size : Nat)⟩
    else result = .error .sizeBeyondIndexes
  Closes reply := reply = .ok ()
  silent := alone_silent .read path
  begins there := by
    refine ⟨trivial, ?_⟩
    rintro start _ ⟨rfl, ticks⟩
    exact ⟨there, shown_now ticks⟩
  opens {start l} h := by
    refine ⟨rfl, ?_⟩
    rintro reply _ ⟨store, after, here, answer, rfl⟩
    rw [h.1] at here
    simp only [Storage.Memory.answer, here] at answer
    cases answer
    exact ⟨⟨rfl, rfl, rfl, rfl, Nat.zero_le _⟩, here, h.2⟩
  moves {start stream l} h := by
    -- either all blocks can be asked for, or the first of them cannot
    by_cases fits : min bufferSize size ≤ Storage.greatestSize
    · apply (readBlocks_alone positive fits h.1).mono
      rintro ⟨stream, _⟩ _ ⟨rfl, count, reads, rfl⟩
      exact ⟨⟨⟨count, reads⟩, h.2⟩, fits, rfl⟩
    · apply (readBlocks_beyond fits h.1).mono
      rintro ⟨stream, _⟩ _ ⟨reads, rfl, rfl⟩
      refine ⟨⟨⟨0, reads⟩, h.2⟩, ?_⟩
      dsimp only
      rw [if_neg fits]
  measures {start stream bytes l} h counted := by
    refine ⟨trivial, ?_⟩
    rintro now _ ⟨rfl, ticks⟩
    refine ⟨⟨h.1, h.2.1, h.2.2.later ticks⟩, ?_⟩
    rw [measurement_made _ (h.2.2.le ticks), counted.2, if_pos counted.1]
    exact ⟨_, rfl⟩
  closes {start stream l} h := by
    obtain ⟨⟨count, reads⟩, there, -⟩ := h
    refine ⟨.inl reads.target, ?_⟩
    rintro reply _ ⟨store, after, same, answer, rfl⟩
    rw [Storage.Memory.answer_close reads.unclosed, Stream.publish, reads.target] at answer
    cases answer
    exact ⟨rfl, same.trans there⟩

theorem finds_of_concluded {positive : 0 < bufferSize} {index : Int} {r : Except Fault Outcome}
    (h : (finder path data positive size).Concluded index r) :
    Finds path size bufferSize index r (some data) := by
  by_cases fits : min bufferSize size ≤ Storage.greatestSize
  · rw [Finds, if_pos fits]
    refine exactly_of_concluded _ (fun result (taken : ite _ _ _) => ?_) ?_ h
    · rwa [if_pos fits] at taken
    · intro fault told
      cases told
  · rw [Finds, if_neg fits]
    obtain ⟨result, errors, closing, taken, -, -, rfl⟩ := h
    have refused : result = .error .sizeBeyondIndexes := by
      have taken : ite _ _ _ := taken
      rwa [if_neg fits] at taken
    rw [refused]
    rfl

/-- A reader that finds no object says so. -/
theorem readTask_missing {index : Int} {l : Own} (missing : l.object = none) :
    (Worker.readTask (S := Stream) index path size bufferSize).Ends (aloneEnv .read path)
      (fun r l' => Finds path size bufferSize index r none ∧ l'.object = none) l := by
  have silent := alone_silent .read path
  -- the object is not opened, so there is no stream to close
  have attempted : (Worker.attempt (S := Stream) .read index path (Worker.openRead path)
      fun stream => Worker.readBlocks bufferSize size stream 0).Ends (aloneEnv .read path)
      (fun attempted l' => attempted = (none, .error (Storage.Memory.absent path)) ∧
        l'.object = none) l := by
    refine ⟨trivial, ?_⟩
    rintro start _ ⟨rfl, -⟩
    refine ⟨rfl, ?_⟩
    rintro reply _ ⟨store, after, here, answer, rfl⟩
    have none_there : store.get? path = none := here.trans missing
    simp only [Storage.Memory.answer, none_there] at answer
    cases answer
    exact ⟨rfl, none_there⟩
  refine (silent.log_ends _ attempted).bind fun _ _ attempted => attempted.bind ?_
  rintro _ l ⟨rfl, missing⟩
  have system : (Storage.Memory.absent path).isSystem = true := rfl
  have told : (Worker.attemptErrors (S := Stream) .read index path
      (.error (Storage.Memory.absent path))).Ends (aloneEnv .read path)
      (fun errors l' => errors =
        [s!"Failed to read {path}: {(Storage.Memory.absent path).text}"] ∧ l'.object = none) l := by
    unfold Worker.attemptErrors
    dsimp only
    rw [if_pos system]
    exact (silent.log_ends (P := fun l => l.object = none) _ missing).bind
      fun _ _ missing => ⟨rfl, missing⟩
  apply told.bind
  rintro _ l ⟨rfl, missing⟩
  exact ⟨rfl, missing⟩

end

/-- A reader that nothing disturbs comes to what its object says, and leaves it as it is. -/
theorem readJob_finds {settings : Settings} {size : Nat} {bufferSize : Int} {index : Int}
    (positive : 0 < bufferSize) (late : Option Nat) (l : Own) :
    (Phase.readJob (S := Stream) settings size bufferSize late index).Ends
      (aloneEnv .read (settings.objectPath index))
      (fun r l' => Finds (settings.objectPath index) size bufferSize index r l.object ∧
        l'.object = l.object) l := by
  apply (isLate_alone late index l).bind
  rintro _ l' ⟨rfl, same⟩
  rw [same]
  cases there : l.object with
  | none => exact readTask_missing there
  | some data =>
    refine ((finder _ data positive size).measured_ends size there).mono fun r l' h => ?_
    exact ⟨finds_of_concluded h.1, h.2⟩

/-- A reader that nothing disturbs reads all bytes of a whole object. -/
theorem readJob_alone {settings : Settings} {size : Nat} {bufferSize : Int} {index : Int}
    {payload : ByteArray} (positive : 0 < bufferSize)
    (fits : min bufferSize size ≤ Storage.greatestSize) (late : Option Nat) {l : Own}
    (holds : Holds payload size l) :
    (Phase.readJob (S := Stream) settings size bufferSize late index).Ends
      (aloneEnv .read (settings.objectPath index))
      (fun r l => Exactly .read index size r ∧ Holds payload size l) l := by
  obtain ⟨data, there, repeats⟩ := holds
  refine (readJob_finds positive late l).mono fun r l' h => ⟨?_, data, h.2.trans there, repeats⟩
  have finds := h.1
  rwa [there, Finds, if_pos fits, repeats.count, Nat.min_self] at finds

end Concert
end StoreMeter
