import StoreMeter.Phase
import StoreMeter.Proofs.Cloud.Failures
import StoreMeter.Proofs.Sessions
import StoreMeter.Storage.Memory
/-
# Proofs.Setup — a phase starts all its workers, or none of them

A phase sees to its target before it does anything else, so a target that it cannot use ends it
before there is a payload or a task (`Went.refused`).  Behind that it hands out one task for each
worker and comes to one outcome for each.

What a refusal is told as depends on the storage: a failure of the system becomes a failure of the
setup, and any other failure comes out as it is (`Phase.targetFault`).  A storage in memory never
fails to see to a target, and that of an object service tells failures of the system on every path
with a bucket; on any other path it does not get as far as a request.
-/
namespace StoreMeter
namespace Phase

variable {S : Type}

/-! ## Questions and their answers -/

/-- A question of the main thread with its answer. -/
structure Asked (S : Type) where
  op : Conductor.Op S
  reply : op.Answer

namespace Asked

/-- Does the question see to the target at a path: does it look for it, make it or log that? -/
def SeesTo (path : String) (asked : Asked S) : Prop :=
  asked.op = .storage (.isPresent path) ∨ asked.op = .storage (.makeDirs path) ∨
    ∃ entry, asked.op = .log entry

/-- Does the question hand out a task? -/
def isSubmission (asked : Asked S) : Bool :=
  match asked.op with
  | .submit _ _ => true
  | _ => false

end Asked

/-- How many tasks were handed out. -/
def submitted (seen : List (Asked S)) : Nat := seen.countP Asked.isSubmission

theorem submitted_concat (seen : List (Asked S)) (asked : Asked S) :
    submitted (seen ++ [asked]) = submitted seen + asked.isSubmission.toNat := by
  rw [submitted, List.countP_append, List.countP_singleton]
  cases asked.isSubmission <;> rfl

/-- The answers that the main thread may get.  A wait ends with the submissions that are unfinished,
unless its limit is one that no wait can have. -/
structure Replies (S : Type) where
  Gives : (op : Conductor.Op S) → op.Answer → Prop
  waits : ∀ {pool submissions limit} {reply : Except Fault (List Nat)},
    Gives (.wait pool submissions limit) reply →
      ∃ unfinished, reply = Conductor.waitResult unfinished limit

/-- The main thread with a record of its questions, of which it may ask any. -/
def listening (replies : Replies S) : Surroundings (Conductor.effects S) (List (Asked S)) where
  Allows _ _ := True
  Answers seen op reply seen' := replies.Gives op reply ∧ seen' = seen ++ [⟨op, reply⟩]

section
variable {replies : Replies S} {seen : List (Asked S)}

/-- A question, with what is known of its answer. -/
theorem ends_asked {op : Conductor.Op S} {goal : op.Answer → List (Asked S) → Prop}
    (answered : ∀ reply, replies.Gives op reply → goal reply (seen ++ [⟨op, reply⟩])) :
    (Prog.perform (E := Conductor.effects S) op).Ends (listening replies) goal seen := by
  refine ⟨trivial, ?_⟩
  rintro reply _ ⟨gives, rfl⟩
  exact answered reply gives

/-! ## The target -/

/-- A target is refused with a failure of the setup, or with a failure of the storage that is none
of the system. -/
def Replies.Refuses (replies : Replies S) (path : String) (fault : Fault) : Prop :=
  fault.isSetup = true ∨ fault.isSystem = false ∧
    (replies.Gives (.storage (.isPresent path)) (.error fault) ∨
      replies.Gives (.storage (.makeDirs path)) (.error fault))

theorem refuses_targetFault {path : String} {fault : Fault}
    (told : replies.Gives (.storage (.isPresent path)) (.error fault) ∨
      replies.Gives (.storage (.makeDirs path)) (.error fault)) :
    replies.Refuses path (targetFault path fault) := by
  unfold targetFault
  split
  · exact .inl rfl
  · rename_i foreign
    exact .inr ⟨eq_false_of_ne_true foreign, told⟩

/-- All questions so far have seen to the target. -/
abbrev OnlySeesTo (path : String) (seen : List (Asked S)) : Prop :=
  ∀ asked ∈ seen, asked.SeesTo path

theorem OnlySeesTo.concat {path : String} (h : OnlySeesTo path seen) (asked : Asked S)
    (sees : asked.SeesTo path) : OnlySeesTo path (seen ++ [asked]) :=
  List.forall_mem_append.2 ⟨h, List.forall_mem_singleton.2 sees⟩

theorem OnlySeesTo.submitted {path : String} (h : OnlySeesTo path seen) : submitted seen = 0 := by
  refine List.countP_eq_zero.2 ?_
  rintro ⟨op, reply⟩ member
  obtain sees := h _ member
  dsimp only [Asked.SeesTo] at sees
  rcases sees with rfl | rfl | ⟨entry, rfl⟩ <;> exact Bool.false_ne_true

/-- Seeing to a target asks for nothing else. -/
theorem prepareTarget_settles (path : String) (mode : Mode) :
    (prepareTarget path mode).Ends (listening replies) (fun result seen => OnlySeesTo path seen ∧
      ∀ fault, result = .error fault → replies.Refuses path fault) [] := by
  have none_yet : OnlySeesTo path ([] : List (Asked S)) := List.forall_mem_nil _
  refine (Prog.ends_bind _ _ _ _).2 (ends_asked fun reply gives => ?_)
  have looked := none_yet.concat ⟨.storage (.isPresent path), reply⟩ (.inl rfl)
  rcases reply with fault | present
  · refine ⟨looked, ?_⟩
    rintro _ ⟨⟩
    exact refuses_targetFault (.inl gives)
  cases mode with
  | read =>
    cases present with
    | true => exact ⟨looked, by simp⟩
    | false =>
      refine ⟨looked, ?_⟩
      rintro _ ⟨⟩
      exact .inl rfl
  | write =>
    cases present with
    | true => exact ⟨looked, by simp [Except.mapError]⟩
    | false =>
      refine (Prog.ends_bind _ _ _ _).2 ((Prog.ends_bind _ _ _ _).2 (ends_asked fun _ _ => ?_))
      have logged := looked.concat
        ⟨.log (entry .debug "Prepare directory" [("path", .text path)]), ()⟩
        (.inr (.inr ⟨_, rfl⟩))
      refine ends_asked fun reply gives => ?_
      refine ⟨logged.concat _ (.inr (.inl rfl)), ?_⟩
      rcases reply with fault | _
      · rintro _ ⟨⟩
        exact refuses_targetFault (.inr gives)
      · simp [Except.mapError]

/-! ## Tasks and outcomes -/

/-- Each job is handed out once. -/
theorem submitAll_submits (pool : Nat) (jobs : List (Worker.Job S)) :
    (submitAll pool jobs).Ends (listening replies) (fun submissions seen' =>
      submissions.length = jobs.length ∧ submitted seen' = submitted seen + jobs.length) seen := by
  refine (Prog.ends_mapM (Conductor.submit (S := S) pool) (fun before submissions _ seen' =>
    submissions.length = before.length ∧ submitted seen' = submitted seen + before.length) ?_ jobs
    seen ⟨rfl, rfl⟩)
  rintro before submissions job rest seen' ⟨length, count⟩
  refine ends_asked fun reply _ => ⟨?_, ?_⟩
  · rw [List.length_append, List.length_append, length]
    rfl
  · rw [submitted_concat, count, List.length_append, Nat.add_assoc]
    rfl

/-- A question that is no submission leaves the number of tasks. -/
theorem ends_counted {α : Type} {op : Conductor.Op S} {next : op.Answer → Conductor.Program S α}
    {goal : α → List (Asked S) → Prop}
    (other : ∀ reply, (⟨op, reply⟩ : Asked S).isSubmission = false)
    (further : ∀ reply seen', replies.Gives op reply → submitted seen' = submitted seen →
      (next reply).Ends (listening replies) goal seen') :
    (Prog.ask (E := Conductor.effects S) op next).Ends (listening replies) goal seen := by
  refine ⟨trivial, ?_⟩
  rintro reply _ ⟨gives, rfl⟩
  refine further reply _ gives ?_
  rw [submitted_concat, other reply]
  rfl

theorem timedOut_collects (pool : Nat) (mode : Mode) (limit : Value) (late : Option Nat)
    (index submission : Nat) :
    (timedOut (S := S) pool mode limit late index submission).Ends (listening replies)
      (fun _ seen' => submitted seen' = submitted seen) seen := by
  refine ends_counted (fun _ => rfl) fun cancelled seen₁ _ same₁ => ?_
  have told {seen₂ : List (Asked S)} (same₂ : submitted seen₂ = submitted seen) :
      (do
        Conductor.log (entry .error "Worker did not complete in time"
          [("worker", .nat index), ("mode", .text mode.name), ("timeout", limit)])
        pure (Outcome.failure index mode (timeoutMessage index mode limit)) :
        Conductor.Program S Outcome).Ends (listening replies)
        (fun _ seen' => submitted seen' = submitted seen) seen₂ :=
    ends_counted (fun _ => rfl) fun _ _ _ same₃ => same₃.trans same₂
  cases late with
  | none => exact told same₁
  | some late =>
    cases cancelled with
    | true => exact told same₁
    | false => exact ends_counted (fun _ => rfl) fun _ _ _ same₂ => told (same₂.trans same₁)

theorem finished_collects (pool : Nat) (mode : Mode) (index submission : Nat) :
    (finished (S := S) pool mode index submission).Ends (listening replies)
      (fun _ seen' => submitted seen' = submitted seen) seen := by
  refine ends_counted (fun _ => rfl) fun result seen₁ _ same₁ => ?_
  rcases result with fault | outcome
  · exact ends_counted (fun _ => rfl) fun _ seen₂ _ same₂ => same₂.trans same₁
  · exact same₁

/-- Collecting asks for no more tasks, and comes to one outcome for each submission. -/
theorem collectFrom_collects (pool : Nat) (mode : Mode) (limit : Value) (late : Option Nat)
    (unfinished submissions : List Nat) :
    (collectFrom (S := S) pool mode limit late unfinished 0 submissions).Ends (listening replies)
      (fun outcomes seen' => outcomes.length = submissions.length ∧
        submitted seen' = submitted seen) seen := by
  refine collectFrom_ends (fun _ seen' => submitted seen' = submitted seen) ?_ ?_ rfl
  · intro outcomes k seen' _ _ kept
    exact (timedOut_collects pool mode limit late _ k).mono fun _ _ same => same.trans kept
  · intro outcomes k seen' _ _ kept
    exact (finished_collects pool mode _ k).mono fun _ _ same => same.trans kept

/-! ## A whole phase -/

/-- How a phase with so many workers went. -/
inductive Went (replies : Replies S) (settings : Settings) (mode : Mode) (bufferSize : Int)
    (count : Nat) : Except Fault (List Outcome) → List (Asked S) → Prop
  /-- The target cannot be used, and nothing else was asked for. -/
  | refused {fault : Fault} {seen : List (Asked S)} (only : OnlySeesTo settings.path seen)
      (told : replies.Refuses settings.path fault) :
    Went replies settings mode bufferSize count (.error fault) seen
  /-- There is no payload, and nothing else was asked for but the target. -/
  | unfilled {fault : Fault} {seen : List (Asked S)} (writes : mode = .write)
      (only : OnlySeesTo settings.path seen)
      (told : replies.Gives (.entropy bufferSize) (.error fault)) :
    Went replies settings mode bufferSize count (.error fault)
      (seen ++ [⟨.entropy bufferSize, .error fault⟩])
  /-- All tasks were handed out, but nobody can wait for them so long. -/
  | overlong {fault : Fault} {seen : List (Asked S)} (all : submitted seen = count)
      (told : Conductor.checkLimit settings.timeout = .error fault) :
    Went replies settings mode bufferSize count (.error fault) seen
  /-- All tasks were handed out, and there is an outcome for each. -/
  | settled {outcomes : List Outcome} {seen : List (Asked S)} (all : submitted seen = count)
      (each : outcomes.length = count) :
    Went replies settings mode bufferSize count (.ok outcomes) seen

/-- A phase starts all its workers, or none of them and fails with a failure of the setup; then it
has asked for nothing but its target. -/
inductive AllOrNothing (path : String) (count : Nat) :
    Except Fault (List Outcome) → List (Asked S) → Prop
  | nothing {fault : Fault} {seen : List (Asked S)} (setup : fault.isSetup = true)
      (only : OnlySeesTo path seen) : AllOrNothing path count (.error fault) seen
  | all {outcomes : List Outcome} {seen : List (Asked S)} (all : submitted seen = count)
      (each : outcomes.length = count) : AllOrNothing path count (.ok outcomes) seen

/-- A storage tells failures of the system only about the target at a path. -/
def Replies.Seeing (replies : Replies S) (path : String) : Prop :=
  ∀ fault, replies.Gives (.storage (.isPresent path)) (.error fault) ∨
    replies.Gives (.storage (.makeDirs path)) (.error fault) → fault.isSystem = true

theorem Went.allOrNothing {settings : Settings} {mode : Mode} {bufferSize : Int} {count : Nat}
    {result : Except Fault (List Outcome)}
    (h : Went replies settings mode bufferSize count result seen)
    (seeing : replies.Seeing settings.path)
    (payload : ∀ fault, ¬ replies.Gives (.entropy bufferSize) (.error fault))
    (limit : Conductor.checkLimit settings.timeout = .ok ()) :
    AllOrNothing settings.path count result seen := by
  cases h with
  | refused only told =>
    rcases told with setup | ⟨foreign, told⟩
    · exact .nothing setup only
    · rw [seeing _ told] at foreign
      cases foreign
  | unfilled writes only told => exact absurd told (payload _)
  | overlong all told =>
    rw [limit] at told
    cases told
  | settled all each => exact .all all each

theorem collect_went {settings : Settings} {mode : Mode} {count : Nat} (bufferSize : Int)
    (pool : Nat) {jobs : List (Worker.Job S)} (counted : jobs.length = count) (late : Option Nat)
    (none_yet : submitted seen = 0) :
    (collect pool mode jobs settings.timeout late).Ends (listening replies)
      (Went replies settings mode bufferSize count) seen := by
  subst counted
  refine (submitAll_submits pool jobs).bind ?_
  rintro submissions seen₁ ⟨length, count⟩
  rw [none_yet, Nat.zero_add] at count
  refine ends_counted (fun _ => rfl) fun reply seen₂ gives same => ?_
  have all : submitted seen₂ = jobs.length := same.trans count
  have collected (unfinished : List Nat) :
      (do
        let outcomes ← collectFrom pool mode settings.timeout late unfinished 0 submissions
        pure (.ok outcomes) : Conductor.Program S (Except Fault (List Outcome))).Ends
        (listening replies) (Went replies settings mode bufferSize jobs.length) seen₂ := by
    refine (collectFrom_collects pool mode settings.timeout late unfinished submissions).bind ?_
    rintro outcomes seen₃ ⟨each, kept⟩
    exact .settled (kept.trans all) (each.trans length)
  obtain ⟨unfinished, rfl⟩ := replies.waits gives
  unfold Conductor.waitResult
  -- a wrong limit shows only where somebody is unfinished
  split
  · exact collected []
  · cases told : Conductor.checkLimit settings.timeout with
    | ok _ => exact collected unfinished
    | error fault => exact .overlong all told

/-- However it is answered, a phase goes one of these ways. -/
theorem run_went {settings : Settings} {count : Nat} (counted : settings.workerCount = .ok count)
    (replies : Replies S) (mode : Mode) (pool : Nat) (size bufferSize : Int) (late : Option Nat) :
    (run settings mode pool size bufferSize late).Ends (listening replies)
      (Went replies settings mode bufferSize count) [] := by
  refine (prepareTarget_settles settings.path mode).bind ?_
  rintro (fault | _) seen ⟨only, refuses⟩
  · exact .refused only (refuses fault rfl)
  -- both modes come to the same from the pool on; only a writer has a payload before that
  have runs (job : Nat → Worker.Job S) {seen : List (Asked S)} (none_yet : submitted seen = 0) :
      (runJobs settings mode pool size late job).Ends (listening replies)
        (Went replies settings mode bufferSize count) seen := by
    refine ends_counted (fun _ => rfl) fun _ seen₁ _ same => ?_
    rw [counted]
    have sized : ((List.range count).map job).length = count := by simp
    refine (collect_went bufferSize pool sized _ (same.trans none_yet)).bind ?_
    rintro (fault | outcomes) seen₂ went
    · exact went
    · cases went with
      | settled all each =>
        exact ends_counted (fun _ => rfl) fun _ _ _ same => .settled (same.trans all) each
  cases mode with
  | read => exact runs _ only.submitted
  | write =>
    refine (Prog.ends_bind _ _ _ _).2 ((Prog.ends_bind _ _ _ _).2 ?_)
    refine ends_asked fun reply gives => ?_
    rcases reply with fault | payload
    · exact .unfilled rfl only gives
    · refine runs _ ?_
      rw [submitted_concat, only.submitted]
      rfl

end

/-! ## Storages -/

/-- The answers of the main thread with a storage, where there are random bytes for a payload. -/
def Replies.ofStorage (gives : (op : Storage.Operation S) → op.Answer → Prop) : Replies S where
  Gives
    | .storage op, reply => gives op reply
    | .entropy _, reply => ∃ payload, reply = .ok payload
    | .wait _ submissions limit, reply => ∃ unfinished, (∀ k ∈ unfinished, k ∈ submissions) ∧
      reply = Conductor.waitResult unfinished limit
    | _, _ => True
  waits := fun ⟨unfinished, _, told⟩ => ⟨unfinished, told⟩

/-- A storage in memory, whatever it holds. -/
def inMemory : Replies Storage.Memory.Stream :=
  .ofStorage fun op reply => ∃ store, reply = (Storage.Memory.answer op store).1

/-- The storage of an object service, whatever its client answers. -/
def atClient (B : Type) (partSize : Nat) : Replies (Storage.S3.Stream B) :=
  .ofStorage fun op reply =>
    ∃ seen, (Storage.S3.perform partSize op).Comes (Storage.S3.client B) [] reply seen

theorem seeing_inMemory (path : String) : inMemory.Seeing path := by
  rintro fault (⟨store, told⟩ | ⟨store, told⟩) <;> cases told

theorem seeing_atClient {B : Type} {partSize : Nat} {path bucket key : String}
    (addressed : Storage.S3.Addressed path bucket key) : (atClient B partSize).Seeing path := by
  rintro fault (⟨seen, comes⟩ | ⟨seen, comes⟩)
  · exact ((Storage.S3.perform_speaks partSize (.isPresent path)
      ⟨bucket, key, addressed⟩).of_comes comes).system fault rfl
  · exact ((Storage.S3.perform_speaks partSize (.makeDirs path)
      ⟨bucket, key, addressed⟩).of_comes comes).system fault rfl

/-- A path without a bucket is not looked for. -/
theorem isPresent_unaddressed {B : Type} {partSize : Nat} {path : String}
    (unaddressed : ¬ ∃ bucket key, Storage.S3.Addressed path bucket key) :
    ∃ text, ∀ reply, (atClient B partSize).Gives (.storage (.isPresent path)) reply →
      reply = .error (.value text) := by
  obtain ⟨text, split⟩ := (Storage.S3.splitPath_cases path).resolve_left unaddressed
  refine ⟨text, ?_⟩
  rintro reply ⟨seen, comes⟩
  dsimp only [Storage.S3.perform, Storage.S3.isPresent] at comes
  rw [split] at comes
  exact comes.1

/-! ## Setting up a phase -/

/-- What is known of the setup of a phase with so many workers. -/
structure SetUp (S : Type) (settings : Settings) (mode : Mode) (pool : Nat) (size bufferSize : Int)
    (late : Option Nat) (count : Nat) : Prop where
  /-- Whatever it is answered, the phase goes one of four ways. -/
  went (replies : Replies S) :
    (run settings mode pool size bufferSize late).Ends (listening replies)
      (Went replies settings mode bufferSize count) []
  /-- Where the storage tells failures of the system only, there is a payload and the limit is one
  that a wait can have, the phase starts all its workers, or none of them. -/
  whole (replies : Replies S) (seeing : replies.Seeing settings.path)
    (payload : ∀ fault, ¬ replies.Gives (.entropy bufferSize) (.error fault))
    (limit : Conductor.checkLimit settings.timeout = .ok ()) :
    (run settings mode pool size bufferSize late).Ends (listening replies)
      (AllOrNothing settings.path count) []
  memory : inMemory.Seeing settings.path
  /-- An object service tells failures of the system on paths with a bucket. -/
  cloud (B : Type) (partSize : Nat) :
    (∃ bucket key, Storage.S3.Addressed settings.path bucket key) →
    (atClient B partSize).Seeing settings.path
  /-- On all other paths it tells of a wrong value, which comes out as it is. -/
  pathless (B : Type) (partSize : Nat) :
    (¬ ∃ bucket key, Storage.S3.Addressed settings.path bucket key) →
    ∃ text, ∀ reply, (atClient B partSize).Gives (.storage (.isPresent settings.path)) reply →
      reply = .error (.value text)

/-- A phase that fails to see to its target has asked for nothing else, and a failure of the system
is told as one of the setup; behind that all tasks are handed out, and there is an outcome for each.
-/
theorem set_up (S : Type) {settings : Settings} {count : Nat}
    (counted : settings.workerCount = .ok count) (mode : Mode) (pool : Nat) (size bufferSize : Int)
    (late : Option Nat) : SetUp S settings mode pool size bufferSize late count where
  went replies := run_went counted replies mode pool size bufferSize late
  whole replies seeing payload limit :=
    (run_went counted replies mode pool size bufferSize late).mono
      fun _ _ went => went.allOrNothing seeing payload limit
  memory := seeing_inMemory settings.path
  cloud _ _ := fun ⟨_, _, addressed⟩ => seeing_atClient addressed
  pathless _ _ := isPresent_unaddressed

/-! ## Runs -/

/-- Answers to the main thread at a storage with these answers, where everything else works. -/
def replyAt (storage : (op : Storage.Operation S) → op.Answer) : (op : Conductor.Op S) → op.Answer
  | .storage op => storage op
  | .entropy _ => .ok .empty
  | .wait _ _ _ => .ok []
  | .result _ _ => .ok (Outcome.failure 0 .write "None")
  | .newPool _ _ | .submit _ _ | .newLate => (0 : Nat)
  | .cancel _ _ => false
  | .lateIndexes _ => []
  | .log _ | .shutdown _ _ _ | .addLate _ _ | .enter _ => ()

/-- A question with its answer, and the record of all of them. -/
def heard (storage : (op : Storage.Operation S) → op.Answer) (op : Conductor.Op S)
    (seen : List (Asked S)) : op.Answer × List (Asked S) :=
  (replyAt storage op, seen ++ [⟨op, replyAt storage op⟩])

theorem heard_listening {gives : (op : Storage.Operation S) → op.Answer → Prop}
    {storage : (op : Storage.Operation S) → op.Answer} (given : ∀ op, gives op (storage op))
    (op : Conductor.Op S) (seen : List (Asked S)) :
    (listening (.ofStorage gives)).Answers seen op (heard storage op seen).1
      (heard storage op seen).2 := by
  refine ⟨?_, rfl⟩
  cases op with
  | storage op => exact given op
  | entropy size => exact ⟨_, rfl⟩
  | wait pool submissions limit => exact ⟨[], by simp, rfl⟩
  | _ => trivial

/-- A run of two workers at a target in memory. -/
def twoInMemory : Settings := { path := "out", threads := .int 2 }

/-- The target is made, and both tasks are handed out. -/
theorem set_up_two :
    let storage (op : Storage.Operation Storage.Memory.Stream) := (Storage.Memory.answer op {}).1
    let (result, seen) := (run twoInMemory .write 0 1 1 none).runWith (heard storage) []
    twoInMemory.workerCount = .ok 2 ∧ AllOrNothing "out" 2 result seen ∧ submitted seen = 2 := by
  have counted : twoInMemory.workerCount = .ok 2 := rfl
  have set := set_up Storage.Memory.Stream counted .write 0 1 1 none
  have whole := (set.whole inMemory set.memory (by rintro _ ⟨_, ⟨⟩⟩) rfl).runWith
    (E := Conductor.effects Storage.Memory.Stream) (heard fun op => (Storage.Memory.answer op {}).1)
    id (heard_listening fun op => ⟨{}, rfl⟩) (t := [])
  exact ⟨counted, whole, rfl⟩

/-- A run of one worker at a path without a bucket. -/
def pathless : Settings := { path := "s3:///x", threads := .int 1 }

/-- A path without a bucket is refused as a wrong value, which is no failure of the setup. -/
theorem pathless_escapes :
    pathless.workerCount = .ok 1 ∧ ¬ (run pathless .write 0 1 1 none).Ends
      (listening (atClient Unit 1)) (AllOrNothing pathless.path 1) [] := by
  refine ⟨rfl, fun ends => ?_⟩
  let storage (op : Storage.Operation (Storage.S3.Stream Unit)) : op.Answer :=
    ((Storage.S3.perform 1 op).runWith Worker.answeredGuarded []).1
  have comes (op : Storage.Operation (Storage.S3.Stream Unit)) : ∃ seen,
      (Storage.S3.perform 1 op).Comes (Storage.S3.client Unit) [] (storage op) seen :=
    ⟨_, Prog.comes_runWith Worker.answeredGuarded id Worker.answeredGuarded_client
      (Storage.S3.perform 1 op) []⟩
  have whole := ends.runWith (E := Conductor.effects (Storage.S3.Stream Unit)) (heard storage) id
    (heard_listening comes) (t := [])
  have told : ((run pathless .write 0 1 1 none).runWith (heard storage) []).1 =
      .error (.value "S3 path has no bucket: s3:///x") := rfl
  rw [told] at whole
  cases whole with
  | nothing setup only => cases setup

end Phase
end StoreMeter
