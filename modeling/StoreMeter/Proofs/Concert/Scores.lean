import StoreMeter.Proofs.Concert.Diaries
import StoreMeter.Proofs.Concert.Noninterference
import StoreMeter.Proofs.Concert.Scripts
import StoreMeter.Proofs.Couplings
/-
# Proofs.Concert.Scores — a task alone with its path

A task works on one path (`onPath`).  So it can be played alone, question by question, where nothing
depends on anybody else: its storage holds what is at its path, its clock stands still, and whether it
is late was settled beforehand.  A `Score` is such a play, and `Score.next` its next note.

A task among others and its score ask the same questions (`beside`), and what they come to differs in
the times at most (`job_together`).
-/
namespace StoreMeter
namespace Concert

open Storage (Operation)
open Storage.Memory (Stream Store)

/-! ## One path -/

/-- The surroundings of a task that works on one path; `also` are the questions that it may ask
besides. -/
def onPath (path : String) (also : Worker.Op Handle → Prop) :
    Surroundings (Worker.effects Handle) Unit where
  Allows _
    | .storage op => On path op
    | op => also op
  Answers _ op reply _ := match op, reply with
    | .storage op, reply => Stays path op reply
    | _, _ => True

/-- A task may ask for the time, for an entry in the log, and whether its worker is late. -/
def Besides (index : Int) : Worker.Op Handle → Prop
  | .clock | .log _ => True
  | .isLate late other => late = 0 ∧ other = index
  | .storage _ => False

section
variable {path : String} {also : Worker.Op Handle → Prop}

theorem create_onPath :
    (Worker.create path).Ends (onPath path also)
      (fun reply _ => ∀ h : Handle, reply = .ok h → h.path = path) () :=
  ⟨rfl, fun _ _ stays => stays⟩

theorem openRead_onPath :
    (Worker.openRead path).Ends (onPath path also)
      (fun reply _ => ∀ h : Handle, reply = .ok h → h.path = path) () :=
  ⟨rfl, fun _ _ stays => stays⟩

theorem writeAll_onPath {payload : ByteArray} {size : Nat} (given : payload.size = 0 → size = 0)
    {h : Handle} (here : h.path = path) :
    (Worker.writeAll payload size h).Ends (onPath path also)
      (fun moved _ => moved.1.path = path) () := by
  have blocks : (Worker.writeBlocks payload h size).Ends (onPath path also)
      (fun moved _ => moved.1.path = path) () := by
    by_cases empty : payload.size = 0
    -- nothing is to be written, as the payload has nothing to repeat
    · obtain rfl := given empty
      unfold Worker.writeBlocks
      rw [dif_pos (.inl rfl)]
      exact here
    · refine Worker.writeBlocks_ends (fun _ (h : Handle) _ => h.path = path)
        (Nat.pos_of_ne_zero empty) ?_ (fun _ _ here => here) size here
      rintro remaining h _ - here
      refine ⟨here, ?_⟩
      rintro ⟨h, fault | written⟩ _ stays <;> exact stays
  refine blocks.bind ?_
  rintro ⟨h, fault | _⟩ _ here
  · exact here
  · exact ⟨here, fun _ _ stays => stays⟩

theorem readBlocks_onPath {bufferSize : Int} {size count : Nat} {h : Handle} (here : h.path = path) :
    (Worker.readBlocks bufferSize size h count).Ends (onPath path also)
      (fun moved _ => moved.1.path = path) () := by
  refine Worker.readBlocks_ends (fun _ (h : Handle) _ => h.path = path) ?_
    (fun _ _ _ _ here => here) _ rfl here
  rintro count h _ - here
  refine ⟨here, ?_⟩
  rintro ⟨h, fault | block⟩ _ stays
  · exact stays
  · exact ⟨fun _ => stays, fun _ => stays⟩

/-- A program that goes to the log only besides its path. -/
theorem closingErrors_onPath {index : Int} (log : ∀ entry, also (.log entry)) {open? : Option Handle}
    (here : ∀ h, open? = some h → h.path = path) :
    (Worker.closingErrors index path open?).Ends (onPath path also) (fun _ _ => True) () := by
  cases open? with
  | none => trivial
  | some h =>
    refine ⟨here h rfl, ?_⟩
    rintro ⟨h, fault | _⟩ _ -
    · exact ⟨log _, fun _ _ _ => trivial⟩
    · trivial

theorem discardLate_onPath {index : Int} (log : ∀ entry, also (.log entry)) :
    (Phase.discardLate index path).Ends (onPath path also) (fun _ _ => True) () := by
  have deleted : (Worker.delete path).Ends (onPath path also) (fun _ _ => True) () :=
    ⟨rfl, fun _ _ _ => trivial⟩
  unfold Phase.discardLate
  refine deleted.bind ?_
  rintro (fault | _) _ -
  · dsimp only
    split
    · exact ⟨log _, fun _ _ _ => trivial⟩
    · split
      · exact ⟨log _, fun _ _ _ => trivial⟩
      · trivial
  · exact ⟨log _, fun _ _ _ => trivial⟩

/-- The frame of both tasks works on the path that it opens. -/
theorem measured_onPath {mode : Mode} {worker size : Int} {index : Int}
    {opened : Worker.Program Handle (Except Fault Handle)}
    {transfer : Handle → Worker.Program Handle (Handle × Except Fault Nat)}
    (opens : opened.Ends (onPath path (Besides index))
      (fun reply _ => ∀ h, reply = .ok h → h.path = path) ())
    (moves : ∀ h : Handle, h.path = path → (transfer h).Ends (onPath path (Besides index))
      (fun moved _ => moved.1.path = path) ()) :
    (Worker.measured mode worker path size opened transfer).Ends (onPath path (Besides index))
      (fun _ _ => True) () := by
  let errand : Worker.Errand (onPath path (Besides index)) mode opened transfer :=
    { Ready := fun _ => True
      Timed := fun _ _ => True
      Open := fun _ h _ => h.path = path
      Moved := fun _ h _ => h.path = path
      Over := fun _ => True
      Counts := fun _ => True
      Takes := fun _ => True
      Closes := fun _ => True
      silent := fun _ _ => ⟨trivial, fun _ _ _ => rfl⟩
      begins := fun _ => ⟨trivial, fun _ _ _ => trivial⟩
      opens := fun _ => opens.mono fun reply _ own => by
        cases reply with
        | error fault => exact ⟨trivial, trivial⟩
        | ok h => exact own h rfl
      moves := fun here => (moves _ here).mono fun moved _ own =>
        ⟨own, by obtain ⟨_, fault | bytes⟩ := moved <;> trivial⟩
      measures := fun here _ => ⟨trivial, fun _ _ _ => ⟨here, trivial⟩⟩
      closes := fun here => ⟨here, fun _ _ _ => ⟨trivial, trivial⟩⟩ }
  exact (errand.measured_ends size trivial).mono fun _ _ _ => trivial

theorem writeJob_onPath (settings : Settings) (size : Int) (payload : ByteArray) (worker : Int) :
    (Phase.writeJob settings size payload (some 0) worker).Ends
      (onPath (settings.objectPath worker) (Besides worker)) (fun _ _ => True) () := by
  have written : (Worker.writeTask (S := Handle) worker (settings.objectPath worker) size
      payload).Ends (onPath (settings.objectPath worker) (Besides worker)) (fun _ _ => True) () := by
    unfold Worker.writeTask
    split
    · trivial
    · exact measured_onPath create_onPath fun h here => writeAll_onPath (by omega) here
  refine written.bind ?_
  rintro (fault | outcome) _ -
  · trivial
  refine ⟨⟨rfl, rfl⟩, ?_⟩
  rintro (_ | _) _ -
  · trivial
  · refine (discardLate_onPath fun _ => trivial).bind ?_
    rintro (fault | _) _ - <;> trivial

theorem readJob_onPath (settings : Settings) (size bufferSize worker : Int) :
    (Phase.readJob settings size bufferSize (some 0) worker).Ends
      (onPath (settings.objectPath worker) (Besides worker)) (fun _ _ => True) () := by
  refine ⟨⟨rfl, rfl⟩, ?_⟩
  rintro (_ | _) _ -
  · exact measured_onPath openRead_onPath fun h here => readBlocks_onPath here
  · trivial

end

/-! ## Side by side -/

/-- What a task alone with its path has heard: what is at its path, and the last time. -/
structure Heard where
  scene : Scene
  since : Option Binary64 := none

/-- A task among others, and the same task alone with its path.  The storage answers both as it is
written for the path, and both are told the same about being late. -/
def beside (line : Line) (path : String) (index : Int) (late : Bool) :
    Coupling (Worker.effects Handle) Heard where
  Asks _ op op' :=
    match op, op' with
    | .storage op, .storage op' => op' = op ∧ On path op
    | .clock, .clock | .log _, .log _ => True
    | .isLate set other, .isLate set' other' =>
      (set = 0 ∧ other = index) ∧ set' = 0 ∧ other' = index
    | _, _ => False
  Answers s op op' reply reply' s' :=
    match op, op', reply, reply' with
    | .storage op, .storage op', reply, reply' =>
      reply = (Scene.answer (fun _ => line) op s.scene).1 ∧
        reply' = (Scene.answer (fun _ => line) op' s.scene).1 ∧
          s' = { s with scene := (Scene.answer (fun _ => line) op' s.scene).2 }
    | .clock, .clock, time, time' =>
      steady s.since time = true ∧ time' = .zero false ∧ s' = { s with since := some time }
    | .log _, .log _, _, _ => s' = s
    | .isLate _ _, .isLate _ _, told, told' => told = late ∧ told' = late ∧ s' = s
    | _, _, _, _ => False

/-- The log is all that a program asks for besides its path. -/
def Logs : Worker.Op Handle → Prop
  | .log _ => True
  | _ => False

/-- Two attempts at a measurement that differ in the time at most. -/
def AlikeMeasured : Except Fault Measurement → Except Fault Measurement → Prop
  | .ok m, .ok m' => m'.mode = m.mode ∧ m'.bytes = m.bytes
  | .error fault, .error fault' => fault' = fault
  | _, _ => False

/-- Two results that differ in the times at most. -/
def AlikeTimeless (r r' : Except Fault Outcome) : Prop :=
  r.map Outcome.timeless = r'.map Outcome.timeless

theorem conclude_alike {mode : Mode} {index : Int} {errors : List String}
    {r r' : Except Fault Measurement} (alike : AlikeMeasured r r') :
    AlikeTimeless (Worker.conclude mode index errors r) (Worker.conclude mode index errors r') := by
  cases r with
  | error fault =>
    cases r' with
    | error fault' =>
      obtain rfl : fault' = fault := alike
      rfl
    | ok m' => exact alike.elim
  | ok m =>
    cases r' with
    | error fault' => exact alike.elim
    | ok m' =>
      -- whether the measurement fits the outcome is a matter of its mode
      obtain ⟨modes, bytes⟩ := alike
      unfold AlikeTimeless Worker.conclude Outcome.make
      dsimp only
      rw [modes]
      split
      · simp [Except.map, Outcome.timeless, modes, bytes]
      · rfl

section
variable {line : Line} {path : String} {index : Int} {late : Bool} {mode : Mode}

/-- What a program does on its path it does alike alone. -/
theorem same_together {α : Type} {p : Worker.Program Handle α} {goal : α → Prop}
    (h : p.Ends (onPath path Logs) (fun a _ => goal a) ()) (s : Heard) :
    p.Together (beside line path index late)
      (fun a a' s' => a' = a ∧ goal a ∧ s'.since = s.since) p s := by
  refine (h.together (c := beside line path index late) (fun _ s' => s'.since = s.since)
    (fun _ _ op _ allowed => ?_) (fun _ s₁ op reply reply' s' here allowed answered => ?_) rfl).mono
    fun a a' s' reached => ?_
  · cases op with
    | storage op => exact ⟨rfl, allowed⟩
    | log _ => trivial
    | clock | isLate _ _ => cases allowed
  · cases op with
    | storage op =>
      obtain ⟨rfl, rfl, rfl⟩ := answered
      exact ⟨rfl, (), On.stays allowed, here⟩
    | log _ =>
      obtain rfl : s' = s₁ := answered
      exact ⟨rfl, (), trivial, here⟩
    | clock | isLate _ _ => cases allowed
  -- nothing but the log was asked besides the path, so no time has passed
  · obtain ⟨same, -, reached, since⟩ := reached
    exact ⟨same, reached, since⟩

theorem log_together {α α' : Type} {goal : α → α' → Heard → Prop} (entry entry' : Log.Entry)
    {next : Worker.Program Handle α} {next' : Worker.Program Handle α'} {s : Heard}
    (h : next.Together (beside line path index late) goal next' s) :
    ((Worker.log entry).bind fun _ => next).Together (beside line path index late) goal
      ((Worker.log entry').bind fun _ => next') s := by
  refine ⟨trivial, ?_⟩
  rintro _ _ _ rfl
  exact h

theorem clock_together {α α' : Type} {goal : α → α' → Heard → Prop}
    {next : Binary64 → Worker.Program Handle α} {next' : Binary64 → Worker.Program Handle α'}
    {s : Heard} (h : ∀ now, steady s.since now = true →
      (next now).Together (beside line path index late) goal (next' (.zero false))
        { s with since := some now }) :
    (Worker.clock.bind next).Together (beside line path index late) goal (Worker.clock.bind next') s := by
  refine ⟨trivial, ?_⟩
  rintro now _ _ ⟨ticks, rfl, rfl⟩
  exact h now ticks

theorem isLate_together {α α' : Type} {goal : α → α' → Heard → Prop}
    {next : Bool → Worker.Program Handle α} {next' : Bool → Worker.Program Handle α'} {s : Heard}
    (h : (next late).Together (beside line path index late) goal (next' late) s) :
    ((Phase.isLate (some 0) index).bind next).Together (beside line path index late) goal
      ((Phase.isLate (some 0) index).bind next') s := by
  refine ⟨⟨⟨rfl, rfl⟩, rfl, rfl⟩, ?_⟩
  rintro _ _ _ ⟨rfl, rfl, rfl⟩
  exact h

theorem finish_together (worker : Int) (bytes : Nat) {start : Binary64} {s : Heard}
    (since : s.since = some start) :
    (Worker.finish mode worker path start bytes).Together (beside line path index late)
      (fun r r' _ => AlikeMeasured r r') (Worker.finish mode worker path (.zero false) bytes) s := by
  refine clock_together fun now ticks => ?_
  -- alone the clock stands still, and among others it does not go back: both durations are good
  rw [since] at ticks
  have made := measurement_made mode ticks bytes
  have made' : Measurement.make mode (.real (Binary64.sub (.zero false) (.zero false))) bytes =
      .ok ⟨mode, _, bytes⟩ := measurement_made mode rfl bytes
  rw [made, made']
  exact log_together _ _ ⟨rfl, rfl⟩

/-- Two attempts that have the same stream, and results that differ in the time at most. -/
structure AlikeAttempted (path : String) (a a' : Option Handle × Except Fault Measurement) : Prop where
  stream : a'.1 = a.1
  own (h : Handle) : a.1 = some h → h.path = path
  result : AlikeMeasured a.2 a'.2

variable {opened : Worker.Program Handle (Except Fault Handle)}
variable {transfer : Handle → Worker.Program Handle (Handle × Except Fault Nat)}

theorem attempt_together
    (opens : opened.Ends (onPath path Logs) (fun reply _ => ∀ h, reply = .ok h → h.path = path) ())
    (moves : ∀ h : Handle, h.path = path →
      (transfer h).Ends (onPath path Logs) (fun moved _ => moved.1.path = path) ())
    (worker : Int) (s : Heard) :
    (Worker.attempt mode worker path opened transfer).Together (beside line path index late)
      (fun a a' _ => AlikeAttempted path a a') (Worker.attempt mode worker path opened transfer) s := by
  refine clock_together fun start _ => ?_
  refine (same_together opens _).bind ?_
  rintro (fault | h) _ s ⟨rfl, own, since⟩
  · exact ⟨rfl, nofun, rfl⟩
  refine (same_together (moves h (own h rfl)) _).bind ?_
  rintro ⟨h, fault | bytes⟩ _ s' ⟨rfl, own, since'⟩
  · exact ⟨rfl, by rintro _ ⟨⟩; exact own, rfl⟩
  refine (finish_together worker bytes (since'.trans since)).bind ?_
  intro result result' _ alike
  exact ⟨rfl, by rintro _ ⟨⟩; exact own, alike⟩

theorem attemptErrors_together {worker : Int} {r r' : Except Fault Measurement}
    (alike : AlikeMeasured r r') (s : Heard) :
    (Worker.attemptErrors mode worker path r).Together (beside line path index late)
      (fun errors errors' _ => errors' = errors) (Worker.attemptErrors mode worker path r') s := by
  cases r with
  | error fault =>
    cases r' with
    | error fault' =>
      obtain rfl : fault' = fault := alike
      unfold Worker.attemptErrors
      dsimp only
      split
      · exact log_together _ _ rfl
      · rfl
    | ok m' => exact alike.elim
  | ok m =>
    cases r' with
    | error fault' => exact alike.elim
    | ok m' => rfl

/-- The frame of both tasks comes to the same alone, but for the times. -/
theorem measured_together
    (opens : opened.Ends (onPath path Logs) (fun reply _ => ∀ h, reply = .ok h → h.path = path) ())
    (moves : ∀ h : Handle, h.path = path →
      (transfer h).Ends (onPath path Logs) (fun moved _ => moved.1.path = path) ())
    (worker size : Int) (s : Heard) :
    (Worker.measured mode worker path size opened transfer).Together (beside line path index late)
      (fun r r' _ => AlikeTimeless r r')
      (Worker.measured mode worker path size opened transfer) s := by
  refine log_together _ _ ?_
  refine (attempt_together opens moves worker s).bind ?_
  rintro ⟨stream, result⟩ ⟨stream', result'⟩ s ⟨rfl, own, alike⟩
  refine (attemptErrors_together alike s).bind ?_
  rintro errors _ s rfl
  refine (same_together (closingErrors_onPath (fun _ => trivial) own) s).bind ?_
  rintro closing _ s ⟨rfl, -⟩
  exact conclude_alike alike

theorem writeJob_together (settings : Settings) (size : Int) (payload : ByteArray) (worker : Nat)
    (line : Line) (late : Bool) (s : Heard) :
    (Phase.writeJob settings size payload (some 0) worker).Together
      (beside line (settings.objectPath worker) worker late) (fun r r' _ => AlikeTimeless r r')
      (Phase.writeJob settings size payload (some 0) worker) s := by
  have written : (Worker.writeTask (S := Handle) worker (settings.objectPath worker) size
      payload).Together (beside line (settings.objectPath worker) worker late)
        (fun r r' _ => AlikeTimeless r r')
        (Worker.writeTask worker (settings.objectPath worker) size payload) s := by
    unfold Worker.writeTask
    split
    · rfl
    · exact measured_together create_onPath
        (fun h here => writeAll_onPath (by omega) here) worker size s
  refine written.bind ?_
  -- both come to an outcome or both fail
  rintro (fault | outcome) (fault' | outcome') s alike
  · exact alike
  · cases alike
  · cases alike
  refine isLate_together ?_
  cases late with
  | false => exact alike
  | true =>
    refine (same_together (discardLate_onPath fun _ => trivial) s).bind ?_
    rintro (fault | _) _ s ⟨rfl, -⟩
    · rfl
    · exact alike

theorem readJob_together (settings : Settings) (size bufferSize : Int) (worker : Nat)
    (line : Line) (late : Bool) (s : Heard) :
    (Phase.readJob settings size bufferSize (some 0) worker).Together
      (beside line (settings.objectPath worker) worker late) (fun r r' _ => AlikeTimeless r r')
      (Phase.readJob settings size bufferSize (some 0) worker) s := by
  refine isLate_together ?_
  cases late with
  | true => rfl
  | false => exact measured_together openRead_onPath (fun h here => readBlocks_onPath here) worker size s

/-- The job of a worker comes to the same alone, but for the times. -/
theorem job_together (plan : Plan) (size : Nat) (payload : ByteArray) (mode : Mode) (worker : Nat)
    (line : Line) (late : Bool) (s : Heard) :
    (plan.job size payload mode worker).Together
      (beside line (plan.settings.objectPath worker) worker late) (fun r r' _ => AlikeTimeless r r')
      (plan.job size payload mode worker) s := by
  cases mode with
  | write => exact writeJob_together plan.settings size payload worker line late s
  | read => exact readJob_together plan.settings size plan.bufferSize worker line late s

end

/-! ## A task alone -/

/-- What is left of a task that is alone with its path, and what is at its path. -/
structure Score where
  rest : Worker.Job Handle
  scene : Scene

namespace Score

variable {line : Line} {late : Bool} {score : Score}

/-- One question further.  What has come to its end stays so. -/
def next (line : Line) (late : Bool) (score : Score) : Score :=
  match score.rest with
  | .done _ => score
  | .ask (.storage op) further =>
    let (reply, scene) := Scene.answer (fun _ => line) op score.scene
    ⟨further reply, scene⟩
  | .ask .clock further => { score with rest := further (.zero false) }
  | .ask (.log _) further => { score with rest := further () }
  | .ask (.isLate _ _) further => { score with rest := further late }

/-- So many questions further. -/
def after (line : Line) (late : Bool) (score : Score) : Nat → Score
  | 0 => score
  | n + 1 => (score.after line late n).next line late

theorem next_of_done {r : Except Fault Outcome} (ended : score.rest = .done r) :
    score.next line late = score := by
  unfold next
  rw [ended]

/-- What has come to its end stays so. -/
theorem after_of_done {n : Nat} {r : Except Fault Outcome}
    (ended : (score.after line late n).rest = .done r) {m : Nat} (later : n ≤ m) :
    score.after line late m = score.after line late n := by
  induction later with
  | refl => rfl
  | step _ ih =>
    rw [after, ih]
    exact next_of_done ended

/-- It does not matter when it is looked at what has come to its end. -/
theorem after_unique {n m : Nat} {r r' : Except Fault Outcome}
    (ended : (score.after line late n).rest = .done r)
    (ended' : (score.after line late m).rest = .done r') :
    score.after line late n = score.after line late m := by
  rcases Nat.le_total n m with later | later
  · exact (after_of_done ended later).symm
  · exact after_of_done ended' later

end Score

end Concert
end StoreMeter
