import StoreMeter.Proofs.Concert.Diaries
import StoreMeter.Proofs.Writing
/-
# Proofs.Concert.Timeouts — which workers time out, and what that means for their objects

A wait that reaches its limit names the submissions that are not done.  Some of them have begun, and
the others still wait in the queue.  Here the diary of a run is held against both: the outcome of a
writer is a timeout if and only if it was named, the late writers are those that were named and had
begun, and the others are taken back and never call the storage.  A reader looks its writer up once
(`readerBook`): if it is late the reader says so, and otherwise it opens the object.
-/
namespace StoreMeter
namespace Concert

open Storage (Operation)

variable {S : Type} {B : Backend S} {plan : Plan}

/-! ## What the outcomes say -/

/-- A message of a task about its own work. -/
def OwnMessage (message : String) : Prop := message.toList.head? = some 'F'

theorem head?_append {a : String} {c : Char} (h : a.toList.head? = some c) (more : String) :
    (a ++ more).toList.head? = some c := by
  rw [String.toList_append, List.head?_append, h]
  rfl

theorem OwnMessage.append {message : String} (own : OwnMessage message) (more : String) :
    OwnMessage (message ++ more) := head?_append own more

/-- All errors of an outcome are messages of the task itself. -/
def OwnErrors (r : Except Fault Outcome) : Prop :=
  ∀ o, r = .ok o → ∀ message ∈ o.errors, OwnMessage message

theorem conclude_ownErrors {mode : Mode} {index : Int} {errors : List String}
    {result : Except Fault Measurement} (own : ∀ message ∈ errors, OwnMessage message) :
    OwnErrors (Worker.conclude mode index errors result) := by
  intro o made message there
  -- an outcome is made with all messages that were collected, whatever the result is
  have same : o.errors = errors := by
    unfold Worker.conclude Outcome.make at made
    grind
  exact own message (same ▸ there)

theorem attemptMessages_ownMessage {path : String} (result : Except Fault Measurement) :
    ∀ message ∈ Worker.attemptMessages .write path result, OwnMessage message := by
  intro message there
  cases result with
  | ok m => cases there
  | error fault =>
    unfold Worker.attemptMessages at there
    dsimp only at there
    split at there
    · cases List.mem_singleton.1 there
      have fails : OwnMessage (Worker.wording .write).fails := rfl
      exact (((fails.append _).append _).append _).append _
    · cases there

theorem closingMessages_ownMessage {path : String} (closed : Except Fault Unit) :
    ∀ message ∈ Worker.closingMessages path closed, OwnMessage message := by
  intro message there
  cases closed with
  | ok _ => cases there
  | error fault =>
    cases List.mem_singleton.1 there
    have fails : OwnMessage "Failed to close " := rfl
    exact ((fails.append _).append _).append _

/-- Surroundings in which a task may ask what it likes. -/
def anything (σ : Type) : Surroundings (Worker.effects S) σ :=
  ⟨fun _ _ => True, fun s _ _ s' => s' = s⟩

theorem ends_anything {α σ : Type} (p : Worker.Program S α) (s : σ) :
    p.Ends (anything σ) (fun _ _ => True) s := by
  induction p generalizing s with
  | done a => trivial
  | ask op next ih => exact ⟨trivial, fun reply s' _ => ih reply s'⟩

/-- Whatever a writer meets, an outcome of its own has messages of its own only. -/
theorem writeJob_ownErrors (settings : Settings) (size : Int) (payload : ByteArray) (late : Option Nat)
    (index : Int) {σ : Type} (s : σ) :
    (Phase.writeJob (S := S) settings size payload late index).Ends (anything σ)
      (fun r _ => OwnErrors r) s := by
  have written : (Worker.writeTask (S := S) index (settings.objectPath index) size payload).Ends
      (anything σ) (fun r _ => OwnErrors r) s := by
    unfold Worker.writeTask
    split
    · intro _ told
      cases told
    · refine Worker.measured_of_quiet (fun _ _ => ⟨trivial, fun _ _ same => same⟩) ?_
      refine (ends_anything _ _).bind fun start s _ => (ends_anything _ _).bind ?_
      -- without a stream there is the message of the attempt only, else that of its closing may
      -- follow
      rintro (fault | stream) s -
      · exact conclude_ownErrors (attemptMessages_ownMessage _)
      · refine (ends_anything _ _).bind fun moved s _ => (ends_anything _ _).bind fun result s _ => ?_
        refine (ends_anything _ _).bind fun closed s _ => conclude_ownErrors fun message there => ?_
        rcases List.mem_append.1 there with tried | closing
        · exact attemptMessages_ownMessage _ message tried
        · exact closingMessages_ownMessage _ message closing
  refine written.bind ?_
  rintro (fault | outcome) s own
  · intro _ told
    cases told
  · refine (ends_anything _ _).bind fun late s _ => ?_
    split
    · refine (ends_anything _ _).bind fun discarded s _ o kept => ?_
      cases discarded <;> cases kept
      exact own _ rfl
    · exact own

/-- The message of a timeout is none of the task's own. -/
theorem timeoutMessage_not_own (k : Nat) (limit : Value) :
    ¬ OwnMessage (Phase.timeoutMessage k .write limit) := by
  intro own
  -- it starts with the worker, and messages of its own start with what fails
  have worker : "Worker ".toList.head? = some 'W' := rfl
  have head : (Phase.timeoutMessage k .write limit).toList.head? = some 'W' :=
    head?_append (head?_append (head?_append (head?_append (head?_append (head?_append worker _) _) _)
      _) _) _
  rw [OwnMessage, head] at own
  cases own

/-- No outcome of a writer's own is a timeout, and no crash is told as one. -/
theorem endedAs_ne_timeout {k : Nat} {limit : Value} {r : Except Fault Outcome} (own : OwnErrors r) :
    endedAs .write k r ≠ Outcome.failure k .write (Phase.timeoutMessage k .write limit) := by
  intro same
  cases r with
  | ok o =>
    refine timeoutMessage_not_own k limit (own o rfl _ ?_)
    rw [show o = _ from same]
    exact List.mem_singleton_self _
  | error fault =>
    -- both messages start with the worker, and then the words differ
    have messages := congrArg (fun o => o.errors.map String.toList) same
    simp only [endedAs, Outcome.failure, Phase.crashMessage, Phase.timeoutMessage,
      String.toList_append, List.map_cons, List.map_nil, List.cons.injEq, List.append_assoc,
      List.append_cancel_left_eq, and_true] at messages
    have words : some 'f' = some 'd' := congrArg (fun rest => rest[1]?) messages
    cases words

/-! ## What readers do -/

/-- How far a reader is: it has asked nothing, it was told that its writer is late, it was told that its
writer is not, or it has tried to open its object. -/
inductive Reading where
  | fresh
  | skipping
  | opening
  | opened

/-- The surroundings of a reader: first it looks its writer up, then it opens its object, and then it does
as it likes.  If its writer is late, it asks nothing more. -/
def readerBook (path : String) (index : Int) : Surroundings (Worker.effects S) Reading where
  Allows
    | .fresh, op => op = .isLate 0 index
    | .skipping, _ => False
    | .opening, op => op = .storage (.openRead path) ∨ op = .clock ∨ ∃ entry, op = .log entry
    | .opened, _ => True
  Answers
    | .fresh, .isLate _ _, late, l => l = bif late then .skipping else .opening
    | .opening, .storage _, _, l => l = .opened
    | before, _, _, l => l = before

theorem ends_opened {α : Type} {path : String} {index : Int} (p : Worker.Program S α) :
    p.Ends (readerBook path index) (fun _ l => l = .opened) .opened := by
  induction p with
  | done a => rfl
  | ask op next ih =>
    refine ⟨trivial, ?_⟩
    rintro reply _ rfl
    exact ih reply

/-- What a reader comes to: it says that it skipped its object, or it has tried to open it. -/
def Reads (index : Int) (r : Except Fault Outcome) : Reading → Prop
  | .skipping => r = .ok (Outcome.failure index .read (Phase.skippedMessage index))
  | .opened => True
  | .fresh | .opening => False

theorem readJob_booked (settings : Settings) (size bufferSize index : Int) :
    (Phase.readJob (S := S) settings size bufferSize (some 0) index).Ends
      (readerBook (settings.objectPath index) index) (Reads index) .fresh := by
  refine ⟨rfl, ?_⟩
  rintro (_ | _) _ rfl
  · -- the task logs, looks at the clock and opens its object
    refine ⟨.inr (.inr ⟨_, rfl⟩), ?_⟩
    rintro _ _ rfl
    refine ⟨.inr (.inl rfl), ?_⟩
    rintro start _ rfl
    refine ⟨.inl rfl, ?_⟩
    rintro reply _ rfl
    refine (ends_opened _).mono ?_
    rintro r _ rfl
    trivial
  · rfl

/-! ## The tasks of a run -/

/-- The contracts of the tasks of a run: a writer tells of its own work only, and a reader says that it
skipped its object or has tried to open it. -/
def booking (S : Type) (plan : Plan) : Protocol S where
  Local := Reading
  env k :=
    if k < plan.workers then anything Reading
    else readerBook (plan.settings.objectPath ((k - plan.workers : Nat))) ((k - plan.workers : Nat))
  Goal k r l := if k < plan.workers then OwnErrors r else Reads ((k - plan.workers : Nat)) r l
  Quiet _ _ := True

/-- What a reader was told is true, and the call that it has made is among the calls. -/
def inBook (plan : Plan) (calls : List (Caller × Operation S)) : View B (booking S plan) :=
  fun k shared l => plan.workers ≤ k → match (l : Reading) with
    | .fresh => True
    | .skipping => shared.isLate 0 ((k - plan.workers : Nat)) = true
    | .opening => shared.isLate 0 ((k - plan.workers : Nat)) = false
    | .opened => shared.isLate 0 ((k - plan.workers : Nat)) = false ∧
      (.task k, .openRead (plan.settings.objectPath ((k - plan.workers : Nat)))) ∈ calls

section
variable {calls : List (Caller × Operation S)} {shared shared' : Shared B} {l : Reading} {k : Nat}

/-- Nothing that was told becomes wrong where the late workers stay the same. -/
theorem inBook_mono (more : List (Caller × Operation S))
    (same : plan.workers ≤ k → shared'.isLate 0 ((k - plan.workers : Nat)) =
      shared.isLate 0 ((k - plan.workers : Nat)))
    (h : inBook plan calls k shared l) : inBook plan (calls ++ more) k shared' l := by
  intro reader
  have before := h reader
  cases l with
  | fresh => trivial
  | skipping | opening => exact (same reader).trans before
  | opened => exact ⟨(same reader).trans before.1, List.mem_append_left _ before.2⟩

/-- The question of a task changes its own book as its surroundings say. -/
theorem inBook_own (more : List (Caller × Operation S)) {op : Worker.Op S} {reply : op.Answer}
    {fate : B.Fate} {time : Binary64}
    (h : inBook plan calls k shared l) (allowed : ((booking S plan).env k).Allows l op)
    (answered : shared.answer fate time op = some (reply, shared'))
    (called : ∀ asked, op = .storage asked → more = [(.task k, asked)]) :
    ∃ l', ((booking S plan).env k).Answers l op reply l' ∧
      inBook plan (calls ++ more) k shared' l' := by
  have kept : shared'.isLate 0 ((k - plan.workers : Nat)) =
      shared.isLate 0 ((k - plan.workers : Nat)) := by
    rw [Shared.isLate, Shared.lates_answer answered]
    rfl
  have still : inBook plan (calls ++ more) k shared' l := inBook_mono more (fun _ => kept) h
  by_cases writer : k < plan.workers
  · have env : (booking S plan).env k = anything Reading := if_pos writer
    rw [env]
    exact ⟨l, rfl, still⟩
  · have env : (booking S plan).env k = readerBook
        (plan.settings.objectPath ((k - plan.workers : Nat))) ((k - plan.workers : Nat)) :=
      if_neg writer
    have reader := Nat.le_of_not_lt writer
    rw [env] at allowed ⊢
    cases l with
    | fresh =>
      obtain rfl : op = .isLate 0 _ := allowed
      cases answered
      cases told : shared.isLate 0 ((k - plan.workers : Nat)) with
      | true => exact ⟨.skipping, rfl, fun _ => told⟩
      | false => exact ⟨.opening, rfl, fun _ => told⟩
    | skipping => cases allowed
    | opening =>
      rcases allowed with rfl | rfl | ⟨entry, rfl⟩
      · -- this is the call that is looked for
        refine ⟨.opened, rfl, fun _ => ⟨kept.trans (h reader), ?_⟩⟩
        rw [called _ rfl]
        exact List.mem_append_right _ (List.mem_singleton_self _)
      · exact ⟨.opening, rfl, still⟩
      · exact ⟨.opening, rfl, still⟩
    | opened => exact ⟨.opened, rfl, still⟩

end

/-- The contract of a job that is handed out, for the task that it becomes. -/
theorem booking_of_isJob {mode : Mode} {index : Nat} {job : Worker.Job S}
    (isJob : IsJob plan mode index job) (below : index < plan.workers) (shared : Shared B)
    (calls : List (Caller × Operation S)) :
    (booking S plan).Holds (inBook plan calls) (first plan.workers mode + index) shared
      (.queued job) := by
  refine ⟨.fresh, fun _ => trivial, ?_⟩
  cases mode with
  | write =>
    obtain ⟨size, payload, rfl⟩ := isJob
    have own := writeJob_ownErrors (S := S) plan.settings size payload (some 0) index Reading.fresh
    simpa [booking, first, below] using own
  | read =>
    obtain ⟨size, rfl⟩ := isJob
    have booked := readJob_booked (S := S) plan.settings size plan.bufferSize index
    simpa [booking, first] using booked

/-! ## What a diary tells of timeouts -/

/-- All that a diary is held against: it is booked, the tasks keep their books, and objects are opened
by readers that are not late. -/
structure Timely (plan : Plan) (s : State B (Except Fault Tally × Session)) (d : Diary S) : Prop where
  booked : Booked plan s d
  sound : (booking S plan).Sound (inBook plan d.calls) s.world
  opened {caller : Caller} {path : String} (there : (caller, .openRead path) ∈ d.calls) :
    ∃ index : Nat, caller = .task (plan.workers + index) ∧ path = plan.settings.objectPath index ∧
      s.world.shared.isLate 0 index = false

section
variable {s s' : State B (Except Fault Tally × Session)} {d d' : Diary S}

theorem opening_timely (plan : Plan) (checked : ∃ size, Run.check plan = .ok size)
    (store : B.State) : Timely plan (opening plan store) {} where
  booked := opening_booked plan checked store
  sound _ _ none := by cases none
  opened there := nomatch there

theorem not_writing_again {stages : List Stage} (course : Course stages)
    (reading : .readPhase ∈ stages) : stages.getLast? ≠ some .writePhase := by
  cases course <;> revert reading <;> decide

/-- Where there is the task of a reader the write phase is over. -/
theorem Booked.reading (h : Booked plan s d) {k : Nat} (reader : plan.workers ≤ k)
    (there : (s.world.status? k).isSome = true) : ¬ d.minutes.In .write := by
  have count := s.world.status?_isSome.2 there
  rw [h.orderly.minuted.borne.tasks] at count
  have begun := h.orderly.minuted.order.readers (by omega)
  exact not_writing_again h.orderly.minuted.order.course begun

section
variable {op : Conductor.Op S} {next : op.Answer → Conductor.Program S (Except Fault Tally × Session)}
variable {reply : op.Answer} {fate : B.Fate} {random : Except Fault ByteArray}
variable {unfinished : List Nat} {w' : World B}

/-- An answer makes a worker late in the write phase only. -/
theorem Booked.isLate_answer (h : Booked plan s d) (asks : s.main = .ask op next)
    (answered : s.world.answer fate random unfinished op = some (reply, w')) :
    (d.minutes.In .write ∧ w'.tasks = s.world.tasks) ∨
      ∀ i, w'.shared.isLate 0 i = s.world.shared.isLate 0 i := by
  have asking := h.orderly.minuted.asks
  have heeding := h.heeds
  rw [asks] at asking heeding
  have lates := World.lates_answer answered
  cases op with
  | addLate late index =>
    cases answered
    exact .inl ⟨heeding.1.1, rfl⟩
  | newLate =>
    have none : s.world.shared.lates = [] :=
      List.length_eq_zero_iff.1 (h.orderly.minuted.borne.lates.trans asking.1)
    refine .inr fun i => ?_
    rw [Shared.isLate, Shared.isLate, lates, none]
    rfl
  | storage _ | log _ | entropy _ | newPool _ _ | submit _ _ | wait _ _ _ | cancel _ _ | result _ _
    | shutdown _ _ _ | lateIndexes _ | enter _ =>
    refine .inr fun i => ?_
    rw [Shared.isLate, lates]
    rfl

/-- Where there is a reader nobody becomes late any more. -/
theorem Booked.late_stays (h : Booked plan s d) (asks : s.main = .ask op next)
    (answered : s.world.answer fate random unfinished op = some (reply, w')) {k : Nat}
    (reader : plan.workers ≤ k) (there : (s.world.status? k).isSome = true) (i : Int) :
    w'.shared.isLate 0 i = s.world.shared.isLate 0 i := by
  rcases h.isLate_answer asks answered with ⟨writing, -⟩ | same
  · exact absurd writing (h.reading reader there)
  · exact same i

/-- An answer to the main thread keeps the books of the tasks. -/
theorem Timely.sound_answer (h : Timely plan s d) (asks : s.main = .ask op next)
    (answered : s.world.answer fate random unfinished op = some (reply, w'))
    (more : List (Caller × Operation S)) :
    (booking S plan).Sound (inBook plan (d.calls ++ more)) w' := by
  rcases h.booked.isLate_answer asks answered with ⟨writing, tasks⟩ | same
  · -- all tasks belong to writers, whose books do not speak of late workers
    intro k status found
    rw [World.status?, tasks] at found
    refine (h.sound k status found).mono fun l => inBook_mono more fun reader => ?_
    exact absurd writing (h.booked.reading reader (Option.isSome_iff_exists.2 ⟨status, found⟩))
  · have asking := h.booked.orderly.minuted.asks
    rw [asks] at asking
    have noted : (booking S plan).Sound (inBook plan (d.calls ++ more)) s.world :=
      h.sound.mono rfl fun k l => inBook_mono more fun _ => rfl
    have sees (k : Nat) (l : Reading) (agrees : inBook plan (d.calls ++ more) k s.world.shared l) :
        inBook plan (d.calls ++ more) k w'.shared l := by
      simpa using inBook_mono [] (fun _ => same _) agrees
    exact Protocol.Sound.answer noted h.booked.orderly.minuted.borne asking.1 answered sees
      (fun isJob below => booking_of_isJob isJob below _ _) fun _ _ => trivial

end

/-- A call to open an object comes from a reader that was told that its writer is not late. -/
theorem Timely.opens (h : Timely plan s d) {k : Nat} {path : String}
    {next : Operation.Answer (.openRead path : Operation S) → Worker.Job S}
    (found : s.world.status? k = some (.running (.ask (.storage (.openRead path)) next))) :
    ∃ index : Nat, k = plan.workers + index ∧ path = plan.settings.objectPath index ∧
      s.world.shared.isLate 0 index = false := by
  have minuted := h.booked.orderly.minuted
  obtain ⟨-, index, rfl, -, rfl, -⟩ :=
    task_permits minuted.order minuted.borne h.booked.orderly.mannered found
  obtain ⟨l, agrees, asks⟩ := h.sound _ _ found
  refine ⟨index, rfl, rfl, ?_⟩
  have here := agrees (Nat.le_add_right _ _)
  have allowed := asks.1
  simp only [booking, Nat.not_lt.2 (Nat.le_add_right plan.workers index), if_false] at allowed
  rw [Nat.add_sub_cancel_left] at here
  -- a reader that opens its object was told that its writer is not late
  cases l with
  | fresh => cases allowed
  | skipping => cases allowed
  | opening => exact here
  | opened => exact here.1

/-- A task that starts or ends calls nothing. -/
theorem Timely.setStatus (h : Timely plan s d) (booked : Booked plan s' d')
    (calls : d'.calls = d.calls) {k : Nat} {status : Status S}
    (holds : (booking S plan).Holds (inBook plan d.calls) k s.world.shared status)
    (goes : s'.world = s.world.setStatus k status) : Timely plan s' d' where
  booked := booked
  sound := by
    rw [goes, calls]
    exact h.sound.update holds fun _ _ _ => id
  opened there := by
    rw [goes]
    exact h.opened (calls ▸ there)

/-- Every decision keeps this. -/
theorem Timely.move {choice : Choice B} (h : Timely plan s d) (moved : move choice s = some s') :
    Timely plan s' (d.note choice s) := by
  have booked := h.booked.move moved
  have noted := noted_of_move d moved
  generalize d.note choice s = d' at booked noted ⊢
  cases noted with
  | @start k job same here goes =>
    obtain ⟨l, agrees, ends⟩ := h.sound _ _ here
    refine h.setStatus booked rfl ?_ goes
    exact ⟨l, agrees, ends⟩
  | @finish k result same here goes =>
    obtain ⟨l, agrees, ends⟩ := h.sound _ _ here
    refine h.setStatus booked rfl ?_ goes
    exact ⟨l, agrees, ends⟩
  | @work k op next fate time reply shared more same here answered goes called =>
    have kept (i : Int) : shared.isLate 0 i = s.world.shared.isLate 0 i := by
      rw [Shared.isLate, Shared.lates_answer answered]
      rfl
    obtain ⟨l, agrees, asks⟩ := h.sound _ _ here
    obtain ⟨l', answers, agrees'⟩ := inBook_own (more.map (.task k, ·)) agrees asks.1 answered
      (by rintro asked rfl; rw [called]; rfl)
    refine ⟨booked, ?_, fun {caller path} there => ?_⟩
    · rw [goes]
      have noted : (booking S plan).Sound (inBook plan (d.calls ++ more.map (.task k, ·))) s.world :=
        h.sound.mono rfl fun _ _ => inBook_mono _ fun _ => rfl
      refine noted.update ⟨l', agrees', asks.2 _ l' answers⟩ fun j _ m agrees => ?_
      simpa using inBook_mono [] (fun _ => kept _) agrees
    · rw [goes]
      rcases List.mem_append.1 there with before | new
      · obtain ⟨index, from_reader, own, timely⟩ := h.opened before
        exact ⟨index, from_reader, own, (kept index).trans timely⟩
      · cases op with
        | storage asked =>
          subst called
          cases List.mem_singleton.1 new
          obtain ⟨index, rfl, own, timely⟩ := h.opens here
          exact ⟨index, rfl, own, (kept index).trans timely⟩
        | clock | log _ | isLate _ _ =>
          subst called
          cases new
  | @conduct op next reply fate random unfinished more asks goes_on answered called =>
    refine ⟨booked, h.sound_answer asks answered _, fun {caller path} there => ?_⟩
    rcases List.mem_append.1 there with before | new
    · obtain ⟨index, rfl, own, timely⟩ := h.opened before
      -- the reader that opened an object has begun, and where there is one nobody becomes late
      have begun := (h.booked.begun _).1 (h.booked.called before)
      have known := World.isSome_of_hasBegun begun
      exact ⟨index, rfl, own,
        (h.booked.late_stays asks answered (Nat.le_add_right _ _) known _).trans timely⟩
    · -- the main thread opens no object
      have asking := h.booked.orderly.minuted.asks
      rw [asks] at asking
      cases op with
      | storage asked =>
        subst called
        cases List.mem_singleton.1 new
        exact asking.1.elim
      | log _ | entropy _ | newPool _ _ | submit _ _ | wait _ _ _ | cancel _ _ | result _ _
        | shutdown _ _ _ | newLate | addLate _ _ | lateIndexes _ | enter _ =>
        subst called
        cases new

theorem run_timely {size : Nat} (checked : Run.check plan = .ok size) {store : B.State}
    {choices : List (Choice B)} (played : play choices (opening plan store) = some s) :
    Timely plan s (diary choices (opening plan store) {}) :=
  diary_keeps (fun h moved => Timely.move h moved) (opening_timely plan ⟨size, checked⟩ store) played

/-! ## What a timeout means -/

/-- The writers that a wait named after a worker had taken them up. -/
def Diary.writing (plan : Plan) (d : Diary S) : List Nat :=
  (List.range plan.workers).filter fun k => decide (k ∈ d.named ∧ k ∈ d.begun)

/-- What is over calls no storage any more, whatever program the main thread goes on with. -/
theorem silent_of_over {β : Type} {w : World B} {k : Nat} {status : Status S}
    (found : w.status? k = some status) (past : status.isOver = true)
    {main : Conductor.Program S β} {later : List (Choice B)} {t : State B β}
    (played : play later ⟨main, w⟩ = some t) (op : Operation S) :
    (.task k, op) ∉ (diary later ⟨main, w⟩ {}).calls := by
  -- the invariant: the task is still over, and no call of it is told
  let keeps (t : State B β) (d : Diary S) : Prop :=
    t.world.status? k = some status ∧ ∀ op, (.task k, op) ∉ d.calls
  have opens : keeps ⟨main, w⟩ {} := ⟨found, fun _ => List.not_mem_nil⟩
  refine (diary_keeps ?_ opens played).2 op
  rintro choice t t' d ⟨here, silent⟩ moved
  have noted := noted_of_move d moved
  generalize d.note choice t = d' at noted ⊢
  cases noted with
  | @start j job same queued goes =>
    exact ⟨goes ▸ (World.Step.start queued).stays here past, silent⟩
  | @finish j result same running goes =>
    exact ⟨goes ▸ (World.Step.finish running).stays here past, silent⟩
  | @work j op next fate time reply shared more same running answered goes called =>
    refine ⟨goes ▸ (World.Step.answer running answered).stays here past, fun op there => ?_⟩
    · rcases List.mem_append.1 there with before | new
      · exact silent op before
      · obtain ⟨_, -, same⟩ := List.mem_map.1 new
        cases same
        exact World.ne_of_over here past running rfl rfl
  | @conduct op next reply fate random unfinished more asks goes_on answered called =>
    refine ⟨World.over_answer answered here past, fun op there => ?_⟩
    rcases List.mem_append.1 there with before | new
    · exact silent op before
    · obtain ⟨_, -, same⟩ := List.mem_map.1 new
      cases same

/-- What a run keeps to about timeouts.  A writer that a wait named was still running if a worker had
taken it up when the main thread came to take it back, and it was still queued otherwise. -/
structure KeepsTime (plan : Plan) (s : State B (Except Fault Tally × Session)) (d : Diary S) :
    Prop where
  /-- The outcome of a writer is a timeout if and only if a wait named it. -/
  outcome {k : Nat} {taking : Taking} (writer : k < plan.workers)
    (taken : (k, taking) ∈ d.minutes.takings) :
    taking.outcome plan .write k =
        Outcome.failure k .write (Phase.timeoutMessage k .write plan.settings.timeout) ↔ k ∈ d.named
  /-- After the write phase each writer has an outcome. -/
  taken (reading : .readPhase ∈ d.minutes.stages) {k : Nat} (writer : k < plan.workers) :
    ∃ taking, (k, taking) ∈ d.minutes.takings
  /-- A writer that was not named has ended, and its result was taken. -/
  finished (reading : .readPhase ∈ d.minutes.stages) {k : Nat} (writer : k < plan.workers)
    (done : k ∉ d.named) :
    ∃ result, s.world.status? k = some (.ended result) ∧ (k, .ended result) ∈ d.minutes.takings
  /-- From then on the late workers are the writers that were named and had begun, in their order, and
  no reader makes anybody late. -/
  late (reading : .readPhase ∈ d.minutes.stages) :
    (s.world.shared.lates[0]?.getD LateWorkers.nobody).indexes = (d.writing plan).map Nat.cast
  /-- Writers that were named and had not begun are taken back, and have not called the storage. -/
  queued (reading : .readPhase ∈ d.minutes.stages) {k : Nat} (writer : k < plan.workers)
    (named : k ∈ d.named) (waits : k ∉ d.begun) :
    s.world.status? k = some .takenBack ∧ ∀ op, (.task k, op) ∉ d.calls
  /-- Nor will they, whatever program the main thread goes on with. -/
  silent (reading : .readPhase ∈ d.minutes.stages) {k : Nat} (writer : k < plan.workers)
    (named : k ∈ d.named) (waits : k ∉ d.begun) {β : Type} {main : Conductor.Program S β}
    {later : List (Choice B)} {t : State B β} (played : play later ⟨main, s.world⟩ = some t)
    (op : Operation S) : (.task k, op) ∉ (diary later ⟨main, s.world⟩ {}).calls
  /-- No object of a late writer is opened to be read. -/
  unopened {index : Nat} (late : s.world.shared.isLate 0 index = true) (caller : Caller) :
    (caller, .openRead (plan.settings.objectPath index)) ∉ d.calls
  /-- The reader of a late writer's object says that it skipped it. -/
  skipped {index : Nat} {r : Except Fault Outcome} (late : s.world.shared.isLate 0 index = true)
    (ended : s.world.status? (plan.workers + index) = some (.ended r)) :
    r = .ok (Outcome.failure index .read (Phase.skippedMessage index))
  /-- All other readers that have ended have tried to open their objects. -/
  tried {index : Nat} {r : Except Fault Outcome} (timely : s.world.shared.isLate 0 index = false)
    (ended : s.world.status? (plan.workers + index) = some (.ended r)) :
    (.task (plan.workers + index), .openRead (plan.settings.objectPath index)) ∈ d.calls

namespace Timely

variable {k : Nat}

theorem outcome (h : Timely plan s d) {taking : Taking} (writer : k < plan.workers)
    (taken : (k, taking) ∈ d.minutes.takings) :
    taking.outcome plan .write k =
      Outcome.failure k .write (Phase.timeoutMessage k .write plan.settings.timeout) ↔ k ∈ d.named := by
  have dealt := h.booked.dealt taken
  cases taking with
  | ended result =>
    obtain ⟨l, -, own⟩ := h.sound _ _ (h.booked.orderly.minuted.borne.ended taken)
    have own : if k < plan.workers then OwnErrors result
      else Reads ((k - plan.workers : Nat)) result l := own
    rw [if_pos writer] at own
    exact iff_of_false (endedAs_ne_timeout own) dealt
  | takenBack => exact iff_of_true rfl dealt
  | givenUp => exact iff_of_true rfl dealt.1

/-- After the write phase a writer that was named is late, or it was taken back. -/
theorem named_cases (h : Timely plan s d) (reading : .readPhase ∈ d.minutes.stages)
    (writer : k < plan.workers) (named : k ∈ d.named) :
    s.world.shared.isLate 0 k = true ∨ s.world.status? k = some .takenBack := by
  have minuted := h.booked.orderly.minuted
  rcases minuted.order.writersTaken reading k writer with ⟨result, ended⟩ | taken | late
  · exact absurd named (h.booked.dealt ended)
  · exact .inr (minuted.borne.takenBack taken)
  · exact .inl (minuted.borne.late late)

/-- After the write phase something was done about each writer. -/
theorem taken (h : Timely plan s d) (reading : .readPhase ∈ d.minutes.stages)
    (writer : k < plan.workers) : ∃ taking, (k, taking) ∈ d.minutes.takings := by
  have minuted := h.booked.orderly.minuted
  rcases minuted.order.writersTaken reading k writer with ⟨result, ended⟩ | taken | late
  · exact ⟨_, ended⟩
  · exact ⟨_, taken⟩
  · obtain ⟨j, -, same, taken⟩ := h.booked.late (minuted.borne.late late)
    obtain rfl := Int.ofNat_inj.1 same
    exact ⟨_, taken⟩

theorem finished (h : Timely plan s d) (reading : .readPhase ∈ d.minutes.stages)
    (writer : k < plan.workers) (done : k ∉ d.named) :
    ∃ result, s.world.status? k = some (.ended result) ∧
      (k, .ended result) ∈ d.minutes.takings := by
  obtain ⟨taking, taken⟩ := h.taken reading writer
  have dealt := h.booked.dealt taken
  cases taking with
  | ended result => exact ⟨result, h.booked.orderly.minuted.borne.ended taken, taken⟩
  | takenBack => exact absurd dealt done
  | givenUp => exact absurd dealt.1 done

theorem not_begun_of_takenBack (h : Timely plan s d) (taken : s.world.status? k = some .takenBack) :
    k ∉ d.begun := by
  rw [h.booked.begun, World.hasBegun, taken]
  exact Bool.false_ne_true

/-- Who is late was named and had begun. -/
theorem late_named (h : Timely plan s d) {i : Int} (late : s.world.shared.isLate 0 i = true) :
    ∃ k : Nat, k < plan.workers ∧ i = k ∧ k ∈ d.named ∧ k ∈ d.begun := by
  obtain ⟨k, below, same, taken⟩ := h.booked.late late
  exact ⟨k, below, same, h.booked.dealt taken⟩

theorem mem_late (h : Timely plan s d) (reading : .readPhase ∈ d.minutes.stages) (i : Int) :
    s.world.shared.isLate 0 i = true ↔ i ∈ (d.writing plan).map Nat.cast := by
  simp only [Diary.writing, List.mem_map, List.mem_filter, List.mem_range, decide_eq_true_eq]
  constructor
  · intro late
    obtain ⟨k, below, rfl, named, begun⟩ := h.late_named late
    exact ⟨k, ⟨below, named, begun⟩, rfl⟩
  · rintro ⟨k, ⟨below, named, begun⟩, rfl⟩
    -- what was taken back has not begun
    exact (h.named_cases reading below named).resolve_right fun taken =>
      h.not_begun_of_takenBack taken begun

theorem writing_ascending (plan : Plan) (d : Diary S) :
    ((d.writing plan).map (Nat.cast : Nat → Int)).Pairwise (· < ·) := by
  rw [List.pairwise_map]
  exact (List.pairwise_lt_range.filter _).imp fun ordered => Int.ofNat_lt.2 ordered

/-- What a reader that has ended came to. -/
theorem ended_reader (h : Timely plan s d) {index : Nat} {r : Except Fault Outcome}
    (ended : s.world.status? (plan.workers + index) = some (.ended r)) :
    (s.world.shared.isLate 0 index = true ∧
      r = .ok (Outcome.failure index .read (Phase.skippedMessage index))) ∨
    (s.world.shared.isLate 0 index = false ∧
      (.task (plan.workers + index), .openRead (plan.settings.objectPath index)) ∈ d.calls) := by
  obtain ⟨l, agrees, goal⟩ := h.sound _ _ ended
  have here := agrees (Nat.le_add_right _ _)
  have goal : if plan.workers + index < plan.workers then OwnErrors r
    else Reads ((plan.workers + index - plan.workers : Nat)) r l := goal
  rw [if_neg (by omega)] at goal
  rw [Nat.add_sub_cancel_left] at goal here
  cases l with
  | fresh | opening => exact goal.elim
  | skipping => exact .inl ⟨here, goal⟩
  | opened => exact .inr here

end Timely

/-- After every list of decisions the timeouts of a run are told as they were: whatever the storage
answers, whichever writers and readers are done, running or queued when a wait ends, and in whatever
order things happen. -/
theorem run_keeps_time {size : Nat} (checked : Run.check plan = .ok size) {store : B.State}
    {choices : List (Choice B)} (played : play choices (opening plan store) = some s) :
    KeepsTime plan s (diary choices (opening plan store) {}) := by
  have h := run_timely checked played
  generalize diary choices (opening plan store) {} = d at h ⊢
  -- a writer that was named is late or taken back, and who is late has begun
  have back {k : Nat} (reading : .readPhase ∈ d.minutes.stages) (writer : k < plan.workers)
      (named : k ∈ d.named) (waits : k ∉ d.begun) : s.world.status? k = some .takenBack := by
    refine (h.named_cases reading writer named).resolve_left fun late => ?_
    obtain ⟨_, -, same, -, begun⟩ := h.late_named late
    exact waits (Int.ofNat_inj.1 same ▸ begun)
  refine
    { outcome := h.outcome
      taken := fun reading {k} => h.taken reading
      finished := fun reading {k} => h.finished reading
      late := fun reading => ?_
      queued := fun reading {k} writer named waits =>
        ⟨back reading writer named waits, fun op there => waits (h.booked.called there)⟩
      silent := fun reading {k} writer named waits {β main later t} played =>
        silent_of_over (back reading writer named waits) rfl played
      unopened := fun {index} late caller there => ?_
      skipped := fun {index r} late ended => ?_
      tried := fun {index r} timely ended => ?_ }
  -- both lists ascend, so they are the same if they have the same members
  · refine (LateWorkers.indexes_ascending _).eq_of_mem_iff (Timely.writing_ascending plan d) fun i => ?_
    rw [LateWorkers.mem_indexes]
    exact h.mem_late reading i
  · obtain ⟨other, -, own, timely⟩ := h.opened there
    rw [plan.settings.objectPath_injective own] at late
    rw [late] at timely
    cases timely
  · rcases h.ended_reader ended with ⟨-, skipped⟩ | ⟨timely, -⟩
    · exact skipped
    · rw [late] at timely
      cases timely
  · rcases h.ended_reader ended with ⟨late, -⟩ | ⟨-, tried⟩
    · rw [late] at timely
      cases timely
    · exact tried

end

/-- Three workers. -/
def threeWorkers : Plan := { oneByte with settings := { oneByte.settings with threads := .int 3 } }

/-- When the wait for the writers is over, the first has ended, the second is running and the third is
queued.  All readers come to their ends. -/
def oneOfEach : List (Choice (anyStorage Unit)) :=
  let work (n k : Nat) : List (Choice (anyStorage Unit)) :=
    .start k :: List.replicate n (.work k unclosing (.zero false))
  conducts 11 [] ++ work 11 0 ++ work 1 1 ++ conducts 16 [1, 2] ++ work 10 3 ++ work 2 4 ++
    work 10 5 ++ conducts 12 []

theorem one_of_each_keeps_time :
    ∃ s : State (anyStorage Unit) (Except Fault Tally × Session),
      Run.check threeWorkers = .ok 1 ∧ play oneOfEach (opening threeWorkers ()) = some s ∧
        s.isDone = true ∧
        let d := diary oneOfEach (opening threeWorkers ()) {}
        .readPhase ∈ d.minutes.stages ∧ d.named = [1, 2] ∧ d.writing threeWorkers = [1] ∧
          KeepsTime threeWorkers s d := by
  have checked : Run.check threeWorkers = .ok 1 := by decide +kernel
  have facts : ((play oneOfEach (opening threeWorkers ())).any fun s => s.isDone) = true ∧
      .readPhase ∈ (diary oneOfEach (opening threeWorkers ()) {}).minutes.stages ∧
      (diary oneOfEach (opening threeWorkers ()) {}).named = [1, 2] ∧
      (diary oneOfEach (opening threeWorkers ()) {}).writing threeWorkers = [1] := by
    decide +kernel
  obtain ⟨ends, reading, named, writing⟩ := facts
  obtain ⟨s, played, ends⟩ := (Option.any_eq_true _ _).1 ends
  exact ⟨s, checked, played, ends, reading, named, writing, run_keeps_time checked played⟩

end Concert
end StoreMeter
