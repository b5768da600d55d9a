import StoreMeter.Proofs.Upload.Account
import StoreMeter.Settings
import StoreMeter.Storage.S3.Objects
/-
# Proofs.Cloud.Holdings — an object service that is strongly consistent

Such a service keeps, for each key of each bucket, an object or none, the parts of the uploads that
are open there, and the bodies that it streams: a `Stash`.  A request about a key sees and changes
the stash of that key only, and what it does shows in every request after it
(`ConsistentService.serves`).  Nothing else is known of the service.

The steps of an upload and of a download ask about one key only, so what they do is told in the
surroundings of one stash (`stashEnv`); `Ends.onStash` carries it over to the whole service.
-/
namespace StoreMeter
namespace Storage
namespace S3

variable {B α : Type}

/-! ## Requests about a key -/

/-- The bucket and the key that a request is about, where `home` is the object of a body. -/
def Request.place (home : B → String × String) : Request B → Option (String × String)
  | .headBucket _ | .listObjects _ _ | .createBucket _ => none
  | .headObject bucket key | .putObject bucket key _ | .createUpload bucket key
  | .uploadPart bucket key _ _ _ | .completeUpload bucket key _ _ | .abortUpload bucket key _
  | .getObject bucket key | .deleteObject bucket key => some (bucket, key)
  | .readBody body _ | .closeBody body => some (home body)

/-- The direction in which a request moves data, if it moves any. -/
def Request.direction : Request B → Option Mode
  | .putObject _ _ _ | .createUpload _ _ | .uploadPart _ _ _ _ _ | .completeUpload _ _ _ _ =>
    some .write
  | .getObject _ _ | .readBody _ _ | .closeBody _ => some .read
  | _ => none

/-! ## What is kept under a key -/

/-- What a service keeps under one key. -/
structure Stash (B : Type) where
  object : Option ByteArray
  /-- The parts of the open uploads, by the ids of the uploads. -/
  uploads : Value → Option (List (Part × ByteArray))
  /-- What is left to read of the bodies that the service streams. -/
  unread : B → ByteArray

namespace Stash

/-- All uploads but one are as they were. -/
def Besides (stash after : Stash B) (id : Value) : Prop :=
  ∀ other, other ≠ id → after.uploads other = stash.uploads other

/-- The object and the open uploads are as they were. -/
def Same (stash after : Stash B) : Prop :=
  after.object = stash.object ∧ after.uploads = stash.uploads

/-- The answer to a request about the key, and the stash afterwards.  An upload that is completed
with its parts becomes the object, and a body is read piece by piece; a piece is empty at the end
only. -/
def Serves (home : B → String × String) (stash : Stash B) :
    (r : Request B) → Except Fault r.Reply → Stash B → Prop
  | .putObject _ _ body, reply, after =>
    reply = .ok () ∧ after.object = some body ∧ after.uploads = stash.uploads
  | .createUpload _ _, reply, after => after.object = stash.object ∧
    ∃ id, id ≠ .null ∧ reply = .ok (some id) ∧ stash.uploads id = none ∧
      after.uploads id = some [] ∧ stash.Besides after id
  | .uploadPart _ _ id number body, reply, after => after.object = stash.object ∧
    ∀ parts, stash.uploads id = some parts → (∀ part ∈ parts, part.1.number ≠ number) →
      ∃ tag, reply = .ok (some tag) ∧
        after.uploads id = some (parts ++ [(⟨number, tag⟩, body)]) ∧ stash.Besides after id
  | .completeUpload _ _ id named, reply, after =>
    (stash.object.isSome → after.object.isSome) ∧
    ∀ parts, stash.uploads id = some parts → parts ≠ [] → named = parts.map Prod.fst →
      reply = .ok () ∧ after.object = some (joined (parts.map Prod.snd)) ∧
        after.uploads id = none ∧ stash.Besides after id
  | .getObject bucket key, reply, after => stash.Same after ∧
    ∀ data, stash.object = some data → ∃ body, home body = (bucket, key) ∧
      reply = .ok (some body) ∧ after.unread body = data
  | .readBody body size, reply, after => stash.Same after ∧
    ∃ block : ByteArray, reply = .ok block ∧ stash.unread body = block ++ after.unread body ∧
      (∀ most, size = some most → block.size ≤ most) ∧
      (size ≠ some 0 → block.size = 0 → (after.unread body).size = 0)
  | .closeBody _, reply, after => stash.Same after ∧ reply = .ok ()
  | .deleteObject _ _, reply, after =>
    reply = .ok () ∧ after.object = none ∧ after.uploads = stash.uploads
  | _, _, _ => True

/-- What no request of a direction breaks: a reader leaves all as it is, and a writer leaves an
object where there is one. -/
def Kept (mode : Mode) (stash after : Stash B) : Prop :=
  match mode with
  | .write => stash.object.isSome → after.object.isSome
  | .read => stash.Same after

theorem kept_refl (mode : Mode) (stash : Stash B) : Kept mode stash stash := by
  cases mode with
  | write => exact id
  | read => exact ⟨rfl, rfl⟩

theorem Kept.trans {mode : Mode} {first second third : Stash B} (h : Kept mode first second)
    (h' : Kept mode second third) : Kept mode first third := by
  cases mode with
  | write => exact fun there => h' (h there)
  | read => exact ⟨h'.1.trans h.1, h'.2.trans h.2⟩

/-- No object is lost. -/
theorem Kept.object {mode : Mode} {stash after : Stash B} (h : Kept mode stash after)
    (there : stash.object.isSome) : after.object.isSome := by
  cases mode with
  | write => exact h there
  | read => rwa [h.1]

theorem Serves.kept {home : B → String × String} {stash after : Stash B} {r : Request B}
    {reply : Except Fault r.Reply} {mode : Mode} (h : stash.Serves home r reply after)
    (moves : r.direction = some mode) : Kept mode stash after := by
  cases r with
  | putObject bucket key body =>
    cases moves
    intro _
    rw [h.2.1]
    rfl
  -- what is open is no object yet
  | createUpload bucket key | uploadPart bucket key id number body =>
    cases moves
    intro there
    rwa [h.1]
  | completeUpload bucket key id parts =>
    cases moves
    exact h.1
  | getObject bucket key | readBody body size | closeBody body =>
    cases moves
    exact h.1
  | headBucket _ | headObject _ _ | listObjects _ _ | createBucket _ | abortUpload _ _ _
  | deleteObject _ _ => cases moves

end Stash

/-! ## What is kept in all buckets -/

/-- A refusal that says that something is not there. -/
def NotFound (fault : Fault) : Prop :=
  ∃ refusal code, fault = .refused refusal ∧ refusal.code = some code ∧ code ∈ absentCodes

theorem NotFound.isAbsent {fault : Fault} (h : NotFound fault) (path : String) :
    (asSystemFault path fault).isAbsent = true := by
  obtain ⟨refusal, code, rfl, given, absent⟩ := h
  have listed : absentCodes.contains (refusal.code.getD "") = true := by
    rw [given]
    exact List.contains_iff_mem.2 absent
  unfold asSystemFault
  dsimp only
  rw [if_pos listed]
  rfl

/-- The answer to the question for one thing. -/
def Tells (there : Prop) (reply : Except Fault Unit) : Prop :=
  (there → reply = .ok ()) ∧ (¬ there → ∃ fault, reply = .error fault ∧ NotFound fault)

/-- The listing counts keys exactly if there are any. -/
def Listing.Counts (listing : Listing) (any : Prop) : Prop :=
  (∃ count : Int, listing.keyCount = some (.scalar (.int count)) ∧ (0 < count ↔ any)) ∧
    (listing.contents = none ∨ ∃ items, listing.contents = some (.list items))

theorem Listing.Counts.hasKey {listing : Listing} {any : Prop} (h : listing.Counts any) :
    ∃ b, listing.hasKey = .ok b ∧ (b = true ↔ any) := by
  obtain ⟨⟨count, counted, positive⟩, contents⟩ := h
  refine ⟨decide (0 < count), ?_, by rw [decide_eq_true_eq, positive]⟩
  have compared : (Scalar.compare? (.int count) (.int 0) == some .gt) = decide (0 < count) := by
    show (some (compare count 0) == some .gt) = _
    -- the three ways to compare with zero
    rcases Int.lt_trichotomy count 0 with below | rfl | above
    · rw [Int.compare_eq_lt.2 below, decide_eq_false (by omega)]
      rfl
    · rfl
    · rw [Int.compare_eq_gt.2 above, decide_eq_true above]
      rfl
  unfold Listing.hasKey
  rcases contents with none_there | ⟨items, there⟩
  · rw [none_there, counted, ← compared]
    rfl
  · rw [there, counted, ← compared]
    rfl

/-- What a service keeps: which buckets there are, and a stash for each key of each bucket. -/
structure Holdings (B : Type) where
  Has : String → Prop
  stash : String → String → Stash B

namespace Holdings

/-- Only the stash of one key has changed. -/
structure Only (before after : Holdings B) (bucket key : String) : Prop where
  has : after.Has = before.Has
  stash {b k : String} (other : (b, k) ≠ (bucket, key)) : after.stash b k = before.stash b k

/-- There are no open uploads but those of before. -/
def Tidy (before after : Holdings B) : Prop :=
  ∀ bucket key, (after.stash bucket key).uploads = (before.stash bucket key).uploads

section
variable {before after : Holdings B} {mode : Mode} {bucket key b k : String}

theorem Only.trans {third : Holdings B} (h : before.Only after bucket key)
    (h' : after.Only third bucket key) : before.Only third bucket key :=
  ⟨h'.has.trans h.has, fun other => (h'.stash other).trans (h.stash other)⟩

/-- A reader leaves all objects and open uploads. -/
theorem Only.same (h : before.Only after bucket key)
    (kept : Stash.Kept .read (before.stash bucket key) (after.stash bucket key)) :
    (before.stash b k).Same (after.stash b k) := by
  by_cases here : (b, k) = (bucket, key)
  · cases here
    exact kept
  · rw [h.stash here]
    exact ⟨rfl, rfl⟩

/-- Only a writer changes open uploads, and those at its key only. -/
theorem Only.uploads (h : before.Only after bucket key)
    (kept : Stash.Kept mode (before.stash bucket key) (after.stash bucket key))
    (apart : mode = .write → (b, k) ≠ (bucket, key)) :
    (after.stash b k).uploads = (before.stash b k).uploads := by
  cases mode with
  | write => rw [h.stash (apart rfl)]
  | read => exact (h.same kept).2

/-- Where the uploads of the one key have not changed, none have. -/
theorem Only.tidy (h : before.Only after bucket key)
    (uploads : (after.stash bucket key).uploads = (before.stash bucket key).uploads) :
    before.Tidy after := by
  intro b k
  by_cases here : (b, k) = (bucket, key)
  · cases here
    exact uploads
  · rw [h.stash here]

theorem Tidy.trans {first : Holdings B} (h : first.Tidy before) (h' : before.Tidy after) :
    first.Tidy after :=
  fun bucket key => (h' bucket key).trans (h bucket key)

end

/-- Is there an object whose key begins with a text? -/
def AnyUnder (held : Holdings B) (bucket start : String) : Prop :=
  ∃ key, start.toList <+: key.toList ∧ (held.stash bucket key).object.isSome

/-- The answer to a request, and what the service keeps afterwards. -/
def Serves (home : B → String × String) (held : Holdings B) :
    (r : Request B) → Except Fault r.Reply → Holdings B → Prop
  | .headBucket bucket, reply, after => after = held ∧ Tells (held.Has bucket) reply
  | .headObject bucket key, reply, after => after = held ∧
    Tells (held.Has bucket ∧ (held.stash bucket key).object.isSome) reply
  | .listObjects bucket start, reply, after => after = held ∧
    (held.Has bucket →
      ∃ listing, reply = .ok listing ∧ listing.Counts (held.AnyUnder bucket start)) ∧
    (¬ held.Has bucket → ∃ fault, reply = .error fault ∧ NotFound fault)
  | .createBucket bucket, reply, after => ¬ held.Has bucket →
    reply = .ok () ∧ after.Has bucket ∧ (∀ other, held.Has other → after.Has other) ∧
      after.stash = held.stash
  | r, reply, after => ∀ bucket key, r.place home = some (bucket, key) → held.Has bucket →
    held.Only after bucket key ∧
      (held.stash bucket key).Serves home r reply (after.stash bucket key)

/-- A request that moves data is served at its key. -/
theorem Serves.moving {home : B → String × String} {held after : Holdings B} {r : Request B}
    {reply : Except Fault r.Reply} {mode : Mode} {bucket key : String}
    (h : held.Serves home r reply after) (moves : r.direction = some mode)
    (place : r.place home = some (bucket, key)) (there : held.Has bucket) :
    held.Only after bucket key ∧
      (held.stash bucket key).Serves home r reply (after.stash bucket key) := by
  cases r with
  | putObject _ _ _ | createUpload _ _ | uploadPart _ _ _ _ _ | completeUpload _ _ _ _
  | getObject _ _ | readBody _ _ | closeBody _ => exact h bucket key place there
  | headBucket _ | headObject _ _ | listObjects _ _ | createBucket _ | abortUpload _ _ _
  | deleteObject _ _ => cases moves

end Holdings

/-! ## Programs of requests -/

/-- The surroundings of all requests. -/
def holdingsEnv (home : B → String × String) : Surroundings (effects B) (Holdings B) where
  Allows _ _ := True
  Answers
    | held, .request r, reply, after => held.Serves home r reply after
    | held, .log _, _, after => after = held

/-- The surroundings of requests that move data in one direction at one key. -/
def stashEnv (home : B → String × String) (mode : Mode) (bucket key : String) :
    Surroundings (effects B) (Stash B) where
  Allows
    | _, .request r => r.direction = some mode ∧ r.place home = some (bucket, key)
    | _, .log _ => True
  Answers
    | stash, .request r, reply, after => stash.Serves home r reply after
    | stash, .log _, _, after => after = stash

section
variable {home : B → String × String} {mode : Mode} {bucket key : String}

theorem ask_stash {path : String} {r : Request B} {stash : Stash B}
    (moves : r.direction = some mode) (place : r.place home = some (bucket, key)) :
    (ask path r).Ends (stashEnv home mode bucket key) (fun told after => ∃ reply,
      stash.Serves home r reply after ∧ told = reply.mapError (asSystemFault path)) stash :=
  ⟨⟨moves, place⟩, fun reply _ served => ⟨reply, served, rfl⟩⟩

theorem ask_holdings {path : String} {r : Request B} {held : Holdings B} :
    (ask path r).Ends (holdingsEnv home) (fun told after => ∃ reply,
      held.Serves home r reply after ∧ told = reply.mapError (asSystemFault path)) held :=
  ⟨trivial, fun reply _ served => ⟨reply, served, rfl⟩⟩

/-- What happens at one stash leaves all the others. -/
theorem Ends.onStash {p : Program B α} {goal : α → Stash B → Prop} {held : Holdings B}
    (h : p.Ends (stashEnv home mode bucket key) goal (held.stash bucket key))
    (there : held.Has bucket) :
    p.Ends (holdingsEnv home) (fun a after => goal a (after.stash bucket key) ∧
      held.Only after bucket key ∧
        Stash.Kept mode (held.stash bucket key) (after.stash bucket key)) held := by
  -- step by step the stash is that of the key, and the other keys are as they were
  refine (Prog.Ends.embed (holdingsEnv home) (fun stash after => after.stash bucket key = stash ∧
    held.Only after bucket key ∧ Stash.Kept mode (held.stash bucket key) stash) ?_ ?_ h
    ⟨rfl, ⟨rfl, fun _ => rfl⟩, Stash.kept_refl mode _⟩).mono ?_
  · intro _ _ _ _ _
    trivial
  · rintro stash now op reply after ⟨rfl, only, kept⟩ allowed answered
    cases op with
    | request r =>
      have served : now.Serves home r reply after := answered
      have has : now.Has bucket := by rwa [only.has]
      obtain ⟨only', serves⟩ := served.moving allowed.1 allowed.2 has
      exact ⟨after.stash bucket key, serves, rfl, only.trans only',
        kept.trans (serves.kept allowed.1)⟩
    | log entry =>
      obtain rfl : after = now := answered
      exact ⟨_, rfl, rfl, only, kept⟩
  · rintro a after ⟨stash, goal, rfl, only, kept⟩
    exact ⟨goal, only, kept⟩

end

/-! ## The service -/

/-- A strongly consistent object service, with a state of its own. -/
structure ConsistentService where
  Body : Type
  State : Type
  answer : (r : Request Body) → State → Except Fault r.Reply × State
  /-- The bucket and the key of the object that a body streams. -/
  home : Body → String × String
  /-- What the service keeps. -/
  holds : State → Holdings Body
  serves : ∀ r s, (holds s).Serves home r (answer r s).1 (holds (answer r s).2)

namespace ConsistentService

variable (service : ConsistentService)

/-- The answers to the questions of the storage. -/
def answers : (op : Op service.Body) → service.State → op.Answer × service.State
  | .request r, s => service.answer r s
  | .log _, s => ((), s)

/-- A program comes to its goal at the service. -/
theorem performs {p : Program service.Body α} {goal : α → Holdings service.Body → Prop}
    {s after : service.State} {a : α}
    (h : p.Ends (holdingsEnv service.home) goal (service.holds s))
    (ran : p.runWith service.answers s = (a, after)) : goal a (service.holds after) := by
  have reached := Prog.Ends.runWith service.answers service.holds (fun op t => ?_) h
  · rwa [ran] at reached
  · cases op with
    | request r => exact service.serves r t
    | log entry => rfl

end ConsistentService

end S3
end Storage
end StoreMeter
