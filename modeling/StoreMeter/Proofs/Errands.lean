import StoreMeter.Proofs.Surroundings
import StoreMeter.Worker
/-
# Proofs.Errands — one walk through the frame of both tasks

A task opens an object, moves its data and closes it, and what it comes to depends on what the
storage answers.  An `Errand` says, for one kind of surroundings, what holds while the task waits,
while its stream is open and when it is over, and which results it may meet.  The frame is walked
through once, in `Errand.measured_ends`; the loops that move the data have a rule each.
-/
namespace StoreMeter
namespace Worker

variable {S σ : Type}

/-- A log entry can be added in any state, and changes nothing. -/
def Silent (env : Surroundings (effects S) σ) : Prop :=
  ∀ entry s, env.Allows s (.log entry) ∧ ∀ reply s', env.Answers s (.log entry) reply s' → s' = s

theorem Silent.log_ends {env : Surroundings (effects S) σ} (silent : Silent env)
    (entry : Log.Entry) {P : σ → Prop} {s : σ} (h : P s) :
    (log entry).Ends env (fun _ => P) s := by
  refine ⟨(silent entry s).1, fun reply s' answered => ?_⟩
  obtain rfl := (silent entry s).2 reply s' answered
  exact h

/-- The contract of a task in its surroundings: the assertions along the way, and the answers that
lead from one to the next. -/
structure Errand (env : Surroundings (effects S) σ) (mode : Mode) (opened : Program S (Except Fault S))
    (transfer : S → Program S (S × Except Fault Nat)) where
  Ready : σ → Prop
  /-- The work began at this time. -/
  Timed : Binary64 → σ → Prop
  /-- The stream is open, and nothing was moved yet. -/
  Open : Binary64 → S → σ → Prop
  /-- The transfer is over, and the stream is still open. -/
  Moved : Binary64 → S → σ → Prop
  Over : σ → Prop
  /-- The counts of bytes that a transfer may come to. -/
  Counts : Nat → Prop
  /-- The results that the attempt may come to. -/
  Takes : Except Fault Measurement → Prop
  /-- The answers to the closing of the stream. -/
  Closes : Except Fault Unit → Prop
  silent : Silent env
  begins {s : σ} (h : Ready s) :
    env.Allows s .clock ∧ ∀ start s', env.Answers s .clock start s' → Timed start s'
  opens {start : Binary64} {s : σ} (h : Timed start s) :
    opened.Ends env (fun reply s => match reply with
      | .ok stream => Open start stream s
      | .error fault => Takes (.error fault) ∧ Over s) s
  moves {start : Binary64} {stream : S} {s : σ} (h : Open start stream s) :
    (transfer stream).Ends env (fun moved s => Moved start moved.1 s ∧ match moved.2 with
      | .ok bytes => Counts bytes
      | .error fault => Takes (.error fault)) s
  measures {start : Binary64} {stream : S} {bytes : Nat} {s : σ} (h : Moved start stream s)
    (counted : Counts bytes) :
    env.Allows s .clock ∧ ∀ now s', env.Answers s .clock now s' →
      Moved start stream s' ∧ Takes (Measurement.make mode (.real (now.sub start)) bytes)
  closes {start : Binary64} {stream : S} {s : σ} (h : Moved start stream s) :
    env.Allows s (.storage (.close stream)) ∧
      ∀ reply s', env.Answers s (.storage (.close stream)) reply s' → Closes reply.2 ∧ Over s'

/-- The messages of an attempt that came to a result: one for a failure of the system. -/
def attemptCount : Except Fault Measurement → Nat
  | .ok _ => 0
  | .error fault => if fault.isSystem then 1 else 0

namespace Errand

variable {env : Surroundings (effects S) σ} {mode : Mode} {opened : Program S (Except Fault S)}
variable {transfer : S → Program S (S × Except Fault Nat)} {index : Int} {path : String}

/-- The outcome of the attempt with its own messages and those of the closing. -/
def Concluded (errand : Errand env mode opened transfer) (index : Int)
    (r : Except Fault Outcome) : Prop :=
  ∃ result errors closing, errand.Takes result ∧ errors.length = attemptCount result ∧
    (closing = [] ∨ closing.length = 1 ∧ ∃ fault, errand.Closes (.error fault)) ∧
      r = conclude mode index (errors ++ closing) result

variable (errand : Errand env mode opened transfer)

theorem finish_ends {start : Binary64} {stream : S} {bytes : Nat} {s : σ}
    (h : errand.Moved start stream s) (counted : errand.Counts bytes) :
    (finish mode index path start bytes).Ends env
      (fun result s => errand.Moved start stream s ∧ errand.Takes result) s := by
  have timed : clock.Ends env (fun now s => errand.Moved start stream s ∧
      errand.Takes (Measurement.make mode (.real (now.sub start)) bytes)) s :=
    errand.measures h counted
  apply timed.bind
  rintro now s ⟨still, takes⟩
  cases made : Measurement.make mode (.real (now.sub start)) bytes with
  | error fault =>
    rw [made] at takes
    exact ⟨still, takes⟩
  | ok measurement =>
    rw [made] at takes
    exact (errand.silent.log_ends _ still).bind fun _ _ still => ⟨still, takes⟩

/-- After the attempt the stream is still open, or there is none and the task is over. -/
def Left (start : Binary64) (attempted : Option S × Except Fault Measurement) (s : σ) : Prop :=
  errand.Takes attempted.2 ∧ match attempted.1 with
    | none => errand.Over s
    | some stream => errand.Moved start stream s

theorem attempt_ends {s : σ} (h : errand.Ready s) :
    (attempt mode index path opened transfer).Ends env
      (fun attempted s => ∃ start, errand.Left start attempted s) s := by
  refine ⟨(errand.begins h).1, fun start s' answered => ?_⟩
  apply (errand.opens ((errand.begins h).2 start s' answered)).bind
  rintro (fault | stream) s arrived
  · exact ⟨start, arrived⟩
  · apply (errand.moves arrived).bind
    rintro ⟨stream, fault | bytes⟩ s ⟨still, counted⟩
    · exact ⟨start, counted, still⟩
    · apply (errand.finish_ends still counted).bind
      exact fun result s arrived => ⟨start, arrived.2, arrived.1⟩

theorem attemptErrors_ends (silent : Silent env) (result : Except Fault Measurement)
    {P : σ → Prop} {s : σ} (h : P s) :
    (attemptErrors (S := S) mode index path result).Ends env
      (fun errors s => errors.length = attemptCount result ∧ P s) s := by
  cases result with
  | ok measurement => exact ⟨rfl, h⟩
  | error fault =>
    unfold attemptErrors attemptCount
    dsimp only
    split
    · exact (silent.log_ends _ h).bind fun _ _ still => ⟨rfl, still⟩
    · exact ⟨rfl, h⟩

theorem closingErrors_ends {start : Binary64} {attempted : Option S × Except Fault Measurement}
    {s : σ} (h : errand.Left start attempted s) :
    (closingErrors index path attempted.1).Ends env (fun closing s =>
      (closing = [] ∨ closing.length = 1 ∧ ∃ fault, errand.Closes (.error fault)) ∧ errand.Over s)
      s := by
  obtain ⟨stream | stream, result⟩ := attempted
  · exact ⟨.inl rfl, h.2⟩
  · refine ⟨(errand.closes h.2).1, ?_⟩
    rintro ⟨_, reply⟩ s' answered
    obtain ⟨closes, closed⟩ := (errand.closes h.2).2 _ s' answered
    cases reply with
    | ok _ => exact ⟨.inl rfl, closed⟩
    | error fault =>
      refine (errand.silent.log_ends _ closed).bind fun _ s closed => ?_
      exact ⟨.inr ⟨rfl, fault, closes⟩, closed⟩

/-- The frame of both tasks keeps the contract. -/
theorem measured_ends (size : Int) {s : σ} (h : errand.Ready s) :
    (measured mode index path size opened transfer).Ends env
      (fun r s => errand.Concluded index r ∧ errand.Over s) s := by
  refine (errand.silent.log_ends _ h).bind fun _ s h => ?_
  refine (errand.attempt_ends h).bind ?_
  rintro attempted s ⟨start, left⟩
  -- messages of the attempt come first, whatever the closing says
  apply (attemptErrors_ends errand.silent attempted.2 left).bind
  rintro errors s ⟨count, left⟩
  apply (errand.closingErrors_ends left).bind
  rintro closing s ⟨few, closed⟩
  exact ⟨⟨attempted.2, errors, closing, left.1, count, few, rfl⟩, closed⟩

end Errand

/-! ## Moving the data -/

variable {env : Surroundings (effects S) σ}

/-- The loop of a writer keeps an invariant that knows how much is left. -/
theorem writeBlocks_ends {payload : ByteArray} {goal : S × Except Fault Unit → σ → Prop}
    (inv : Nat → S → σ → Prop) (given : 0 < payload.size)
    (step : ∀ remaining stream s, 0 < remaining → inv remaining stream s →
      (write stream (payload.extract 0 (min remaining payload.size))).Ends env (fun reply s =>
        match reply.2 with
        | .ok _ => inv (remaining - min remaining payload.size) reply.1 s
        | .error fault => goal (reply.1, .error fault) s) s)
    (finished : ∀ stream s, inv 0 stream s → goal (stream, .ok ()) s) (remaining : Nat) :
    ∀ {stream : S} {s : σ}, inv remaining stream s →
      (writeBlocks payload stream remaining).Ends env goal s := by
  induction remaining using Nat.strongRecOn with
  | ind remaining ih =>
    intro stream s h
    unfold writeBlocks
    split
    · rename_i none_left
      obtain rfl : remaining = 0 := by omega
      exact finished stream s h
    -- the next block has at least one byte, as the payload is not empty
    · rename_i some_left
      apply (step remaining stream s (by omega) h).bind
      rintro ⟨stream, fault | written⟩ s arrived
      · exact arrived
      · exact ih _ (by omega) arrived

/-- Blocks are whole until the last one, so a writer takes in all its bytes if it takes in each block
that comes behind whole ones. -/
theorem writeBlocks_whole {payload : ByteArray} (given : 0 < payload.size) (size : Nat)
    (taken : Nat → S → σ → Prop)
    (step : ∀ {count more stream s}, count % payload.size = 0 → more ≤ payload.size →
      taken count stream s → (write stream (payload.extract 0 more)).Ends env
        (fun reply s => (∃ written, reply.2 = .ok written) ∧ taken (count + more) reply.1 s) s)
    {stream : S} {s : σ} (start : taken 0 stream s) :
    (writeBlocks payload stream size).Ends env
      (fun moved s => moved.2 = .ok () ∧ taken size moved.1 s) s := by
  refine writeBlocks_ends (fun remaining stream s => remaining ≤ size ∧
    taken (size - remaining) stream s ∧ (remaining = 0 ∨ (size - remaining) % payload.size = 0))
    given ?_ ?_ size
    ⟨Nat.le_refl size, by rwa [Nat.sub_self], .inr (by rw [Nat.sub_self, Nat.zero_mod])⟩
  · rintro remaining stream s positive ⟨most, so_far, whole⟩
    have whole := whole.resolve_left (Nat.ne_of_gt positive)
    apply (step whole (Nat.min_le_right remaining payload.size) so_far).mono
    rintro ⟨stream, _⟩ s ⟨⟨written, rfl⟩, further⟩
    refine ⟨by omega, ?_, ?_⟩
    · rwa [show size - remaining + min remaining payload.size =
        size - (remaining - min remaining payload.size) by omega] at further
    · rcases Nat.le_total remaining payload.size with last | more
      · exact .inl (by omega)
      · refine .inr ?_
        rw [Nat.min_eq_right more, show size - (remaining - payload.size) =
          size - remaining + payload.size by omega, Nat.add_mod_right]
        exact whole
  · rintro stream s ⟨-, all, -⟩
    exact ⟨rfl, all⟩

/-- The loop of a reader keeps an invariant that knows how much is counted. -/
theorem readBlocks_ends {bufferSize : Int} {size : Nat} {goal : S × Except Fault Nat → σ → Prop}
    (inv : Nat → S → σ → Prop)
    (step : ∀ count stream s, count < size → inv count stream s →
      (read stream (min bufferSize (size - count))).Ends env (fun reply s =>
        match reply.2 with
        | .ok block => (block.size = 0 → goal (reply.1, .ok count) s) ∧
          (block.size ≠ 0 → inv (count + block.size) reply.1 s)
        | .error fault => goal (reply.1, .error fault) s) s)
    (finished : ∀ count stream s, size ≤ count → inv count stream s → goal (stream, .ok count) s)
    (left : Nat) : ∀ {count : Nat} {stream : S} {s : σ}, size - count = left → inv count stream s →
      (readBlocks bufferSize size stream count).Ends env goal s := by
  induction left using Nat.strongRecOn with
  | ind left ih =>
    intro count stream s sum h
    unfold readBlocks
    split
    · rename_i enough
      exact finished count stream s enough h
    · rename_i more
      apply (step count stream s (by omega) h).bind
      rintro ⟨stream, fault | block⟩ s arrived
      · exact arrived
      · dsimp only at arrived ⊢
        split
        · rename_i empty
          exact arrived.1 empty
        -- only a block with bytes brings the count closer to the size
        · rename_i filled
          exact ih _ (by omega) rfl (arrived.2 filled)

/-- If a block is empty at the end only, a reader counts all that there is, up to its size. -/
theorem readBlocks_whole {bufferSize : Int} {size total : Nat} (counted : Nat → S → σ → Prop)
    (most : ∀ {count stream s}, counted count stream s → count ≤ total)
    (step : ∀ {count stream s}, count < size → counted count stream s →
      (read stream (min bufferSize (size - count))).Ends env (fun reply s => ∃ block : ByteArray,
        reply.2 = .ok block ∧ block.size ≤ size - count ∧ counted (count + block.size) reply.1 s ∧
          (block.size = 0 → count = total)) s)
    {stream : S} {s : σ} (start : counted 0 stream s) :
    (readBlocks bufferSize size stream 0).Ends env
      (fun moved s => moved.2 = .ok (min size total) ∧ ∃ count, counted count moved.1 s) s := by
  refine readBlocks_ends (fun count stream s => counted count stream s ∧ count ≤ size) ?_ ?_ _ rfl
    ⟨start, Nat.zero_le size⟩
  · rintro count stream s more ⟨so_far, -⟩
    apply (step more so_far).mono
    rintro ⟨stream, _⟩ s ⟨block, rfl, length, further, last⟩
    refine ⟨fun empty => ⟨?_, _, further⟩, fun _ => ⟨further, by omega⟩⟩
    have all := last empty
    rw [show min size total = count by omega]
  · rintro count stream s enough ⟨all, least⟩
    obtain rfl : count = size := Nat.le_antisymm least enough
    exact ⟨by rw [Nat.min_eq_left (most all)], count, all⟩

/-! ## What a task asks at all -/

/-- Surroundings in which only questions of one kind may be asked, with any answers. -/
def asking (kind : Op S → Prop) : Surroundings (effects S) Unit :=
  ⟨fun _ => kind, fun _ _ _ _ => True⟩

/-- All questions of a program are of one kind, whatever it is answered. -/
def Only {α : Type} (kind : Op S → Prop) (p : Program S α) : Prop :=
  p.Ends (asking kind) (fun _ _ => True) ()

theorem only_perform {kind : Op S → Prop} {op : Op S} (h : kind op) :
    Only kind (Prog.perform (E := effects S) op) := ⟨h, fun _ _ _ => trivial⟩

theorem Only.bind {α β : Type} {kind : Op S → Prop} {p : Program S α} {k : α → Program S β}
    (h : Only kind p) (further : ∀ a, Only kind (k a)) : Only kind (p.bind k) :=
  Prog.Ends.bind h fun a _ _ => further a

/-- A task asks what it asks to open its object and to move the data, and besides that it asks for the
time, closes its stream and adds to the log. -/
theorem measured_only {kind : Op S → Prop} {mode : Mode} {index : Int} {path : String} {size : Int}
    {opened : Program S (Except Fault S)} {transfer : S → Program S (S × Except Fault Nat)}
    (clock : kind .clock) (log : ∀ entry, kind (.log entry))
    (close : ∀ stream, kind (.storage (.close stream))) (opens : Only kind opened)
    (moves : ∀ stream, Only kind (transfer stream)) :
    Only kind (measured mode index path size opened transfer) := by
  let errand : Errand (asking kind) mode opened transfer :=
    { Ready := fun _ => True
      Timed := fun _ _ => True
      Open := fun _ _ _ => True
      Moved := fun _ _ _ => True
      Over := fun _ => True
      Counts := fun _ => True
      Takes := fun _ => True
      Closes := fun _ => True
      silent := fun entry _ => ⟨log entry, fun _ _ _ => rfl⟩
      begins := fun _ => ⟨clock, fun _ _ _ => trivial⟩
      opens := fun _ => opens.mono fun reply _ _ => by cases reply <;> trivial
      moves := fun _ => (moves _).mono fun moved _ _ =>
        ⟨trivial, by obtain ⟨_, fault | bytes⟩ := moved <;> trivial⟩
      measures := fun _ _ => ⟨clock, fun _ _ _ => ⟨trivial, trivial⟩⟩
      closes := fun _ => ⟨close _, fun _ _ _ => ⟨trivial, trivial⟩⟩ }
  exact (errand.measured_ends size trivial).mono fun _ _ _ => trivial

theorem writeAll_only {kind : Op S → Prop} (write : ∀ stream data, kind (.storage (.write stream data)))
    (flush : ∀ stream, kind (.storage (.flush stream))) {payload : ByteArray} {size : Nat}
    (given : payload.size = 0 → size = 0) (stream : S) :
    Only kind (writeAll payload size stream) := by
  have blocks : Only kind (writeBlocks payload stream size) := by
    by_cases empty : payload.size = 0
    · obtain rfl := given empty
      unfold writeBlocks
      rw [dif_pos (.inl rfl)]
      trivial
    · refine writeBlocks_ends (fun _ _ _ => True) (by omega) ?_ (fun _ _ _ => trivial) size trivial
      refine fun remaining stream _ _ _ => ⟨write stream _, ?_⟩
      rintro ⟨_, fault | written⟩ _ _ <;> trivial
  refine blocks.bind ?_
  rintro ⟨stream, fault | _⟩
  · trivial
  · exact ⟨flush stream, fun _ _ _ => trivial⟩

/-- The questions of a writer about the object at a path. -/
def WriterAsks (path : String) : Op S → Prop
  | .storage (.create other) => other = path
  | .storage (.write _ _) | .storage (.flush _) | .storage (.close _) | .clock | .log _ => True
  | _ => False

/-- The questions of a reader about the object at a path. -/
def ReaderAsks (path : String) : Op S → Prop
  | .storage (.openRead other) => other = path
  | .storage (.read _ _) | .storage (.close _) | .clock | .log _ => True
  | _ => False

theorem writeTask_only (index : Int) (path : String) (size : Int) (payload : ByteArray) :
    Only (WriterAsks (S := S) path) (writeTask index path size payload) := by
  unfold writeTask
  split
  · trivial
  · rename_i given
    exact measured_only trivial (fun _ => trivial) (fun _ => trivial) (only_perform rfl)
      (writeAll_only (fun _ _ => trivial) (fun _ => trivial) (by omega))

theorem readTask_only (index : Int) (path : String) (size bufferSize : Int) :
    Only (ReaderAsks (S := S) path) (readTask index path size bufferSize) := by
  refine measured_only trivial (fun _ => trivial) (fun _ => trivial) (only_perform rfl) fun stream =>
    readBlocks_ends (fun _ _ _ => True) ?_ (fun _ _ _ _ _ => trivial) _ rfl trivial
  refine fun count stream _ _ _ => ⟨trivial, ?_⟩
  rintro ⟨_, fault | block⟩ _ _
  · trivial
  · exact ⟨fun _ => trivial, fun _ => trivial⟩

end Worker
end StoreMeter
