import StoreMeter.Proofs.Cloud.Targets
import StoreMeter.Proofs.Upload.Lifecycle
import StoreMeter.Proofs.Writing
/-
# Proofs.Cloud.Failures — the failures of an object service, told as those of a system

A client refuses requests, does not reach its service or meets a failure of the system, and every
operation of the storage may meet any of these at any of its requests.  Some failures are spared:
that nothing is there may be the answer itself, and an abort is only an attempt.  Of all others
there is one at most, and it comes out as a failure of the system (`Reported`), which says that
nothing is there exactly if the request was refused so (`isAbsent_asSystemFault`).

So a worker in front of such a storage meets failures of the system only, and comes to an outcome.
-/
namespace StoreMeter

/-- Does a failure of a client say that a bucket or an object is not there? -/
def Fault.saysAbsent : Fault → Bool
  | .refused refusal =>
    refusal.code ∈ [some "404", some "NoSuchKey", some "NoSuchBucket", some "NotFound"]
  | .unreachable _ => false
  | .plain kind _ => kind = .notFound

/-- The failure in a result. -/
def faultOf {α : Type} : Except Fault α → Option Fault
  | .ok _ => none
  | .error fault => some fault

/-- A result is good, or else it is a failure of the system. -/
def OrSystem {α : Type} (good : α → Prop) : Except Fault α → Prop
  | .ok a => good a
  | .error fault => fault.isSystem = true

theorem faultOf_map {α β : Type} (f : α → β) (result : Except Fault α) :
    faultOf (result.map f) = faultOf result := by
  cases result <;> rfl

namespace Storage

/-- The failure that the answer to an operation tells. -/
def Operation.failure? {S : Type} : (op : Operation S) → op.Answer → Option Fault
  | .isPresent _, reply => faultOf reply
  | .makeDirs _, reply | .delete _, reply => faultOf reply
  | .create _, reply | .openRead _, reply => faultOf reply
  | .write _ _, (_, reply) => faultOf reply
  | .flush _, (_, reply) | .close _, (_, reply) => faultOf reply
  | .read _ _, (_, reply) => faultOf reply

namespace S3

variable {B α : Type} {path bucket key : String} {seen : List (Exchange B)}

theorem isAbsent_asSystemFault (path : String) (fault : Fault) :
    (asSystemFault path fault).isAbsent = fault.saysAbsent := by
  cases fault with
  | refused refusal =>
    obtain ⟨operation, code, message, retries⟩ := refusal
    unfold asSystemFault Fault.saysAbsent
    cases code with
    | none => rfl
    | some code =>
      dsimp only [Option.getD_some]
      by_cases absent : code ∈ absentCodes
      · rw [if_pos (List.contains_iff_mem.2 absent),
          decide_eq_true (by simpa [absentCodes] using absent)]
        rfl
      · rw [if_neg (by simpa using absent), decide_eq_false (by simpa [absentCodes] using absent)]
        rfl
  | unreachable endpoint => rfl
  | plain kind detail => rfl

/-! ## Paths -/

/-- A path with its bucket, and with its key if it has one. -/
structure Addressed (path bucket key : String) : Prop where
  spelled : path = "s3://" ++ bucket ++ "/" ++ key ∨ path = "s3://" ++ bucket ∧ key = ""
  named : bucket ≠ ""
  whole : '/' ∉ bucket.toList

theorem Addressed.split (h : Addressed path bucket key) : splitPath path = .ok (bucket, key) := by
  rcases h.spelled with spelled | ⟨spelled, rfl⟩
  · exact Located.split ⟨spelled, h.named, h.whole⟩
  -- the name of the bucket is all there is
  have chars : path.toList = scheme ++ bucket.toList := by
    rw [spelled, String.toList_append]
    rfl
  -- so the name is all that is taken before a slash, and nothing is left behind one
  have no_slash : ∀ c ∈ bucket.toList, decide (c ≠ '/') = true := fun c member =>
    decide_eq_true fun same => h.whole (same ▸ member)
  have some_name : bucket.isEmpty = false := by
    rw [← Bool.not_eq_true, String.isEmpty_iff]
    exact h.named
  unfold splitPath
  rw [chars, if_pos (List.isPrefixOf_iff_prefix.2 (List.prefix_append _ _)), List.drop_left]
  simp only [List.takeWhile_eq_self_iff.2 no_slash, List.dropWhile_eq_nil_iff.2 no_slash,
    List.drop_nil, String.ofList_toList, some_name]
  rfl

/-- Any other path is refused as a value. -/
theorem splitPath_cases (path : String) :
    (∃ bucket key, Addressed path bucket key) ∨ ∃ text, splitPath path = .error (.value text) := by
  unfold splitPath
  split
  · rename_i scheme_there
    obtain ⟨rest, chars⟩ := List.isPrefixOf_iff_prefix.1 scheme_there
    rw [← chars, List.drop_left]
    dsimp only
    split
    · exact .inr ⟨_, rfl⟩
    · rename_i some_name
      refine .inl ⟨String.ofList (rest.takeWhile (· ≠ '/')),
        String.ofList ((rest.dropWhile (· ≠ '/')).drop 1), ?_, ?_, ?_⟩
      · have parts := List.takeWhile_append_dropWhile (p := (· ≠ '/')) (l := rest)
        -- either the name is the whole rest, or a slash and the key come after it
        cases tail : rest.dropWhile (· ≠ '/') with
        | nil =>
          rw [tail, List.append_nil] at parts
          refine .inr ⟨?_, rfl⟩
          rw [parts, ← String.toList_inj, ← chars]
          simp [scheme]
        | cons c more =>
          have slash : c = '/' := by
            have first := List.head?_dropWhile_not (· ≠ '/') rest
            rw [tail] at first
            simpa using first
          subst slash
          rw [tail] at parts
          refine .inl ?_
          rw [← String.toList_inj, ← chars]
          simpa [scheme] using parts.symm
      · intro same
        exact some_name (String.isEmpty_iff.2 same)
      · rw [String.toList_ofList]
        intro slash
        simpa using List.mem_takeWhile_imp slash
  · exact .inr ⟨_, rfl⟩

/-! ## A client -/

/-- A listing whose number of keys is a number, and whose keys are a list, where it has them. -/
structure Listing.Sound (listing : Listing) : Prop where
  counted : listing.keyCount = none ∨ ∃ number, listing.keyCount = some (.scalar number)
  listed : listing.contents = none ∨ ∃ items, listing.contents = some (.list items)

theorem Listing.Sound.hasKey {listing : Listing} (h : listing.Sound) :
    ∃ b, listing.hasKey = .ok b := by
  unfold Listing.hasKey
  rcases h.listed with none_there | ⟨items, there⟩
  · rw [none_there]
    rcases h.counted with uncounted | ⟨number, counted⟩
    · exact ⟨_, by rw [uncounted]; rfl⟩
    · exact ⟨_, by rw [counted]; rfl⟩
  · rw [there]
    rcases h.counted with uncounted | ⟨number, counted⟩
    · exact ⟨_, by rw [uncounted]; rfl⟩
    · exact ⟨_, by rw [counted]; rfl⟩

/-- Does the answer have a body, where an object was asked for, or a listing to read? -/
def Exchange.Complete : Exchange B → Prop
  | ⟨.getObject _ _, reply⟩ => reply ≠ .ok none
  | ⟨.listObjects _ _, reply⟩ => ∀ listing, reply = .ok listing → listing.Sound
  | _ => True

/-- What was asked for is granted and complete, or there is a failure of a client. -/
structure Exchange.Sound (e : Exchange B) : Prop where
  proper : e.Proper
  complete : e.Complete

theorem Exchange.Sound.client {e : Exchange B} {cause : Fault} (h : e.Sound)
    (met : e.fault? = some cause) : cause.isClient = true := by
  obtain ⟨request, reply⟩ := e
  rcases h.proper.cases with ⟨fault, rfl, client⟩ | ⟨-, value, rfl⟩
  · cases met
    exact client
  · cases met

/-- Anything may be asked of a client, which answers soundly and otherwise as it likes. -/
abbrev client (B : Type) : Surroundings (effects B) (List (Exchange B)) :=
  history Exchange.Sound fun _ _ => True

/-- All exchanges with a client are sound. -/
theorem Ends.sound {goal : α → List (Exchange B) → Prop} {p : Program B α}
    (h : p.Ends (client B) goal seen) (before : ∀ e ∈ seen, e.Sound) :
    p.Ends (client B) (fun a seen' => goal a seen' ∧ ∀ e ∈ seen', e.Sound) seen := by
  induction p generalizing seen with
  | done a => exact ⟨h, before⟩
  | ask op next ih =>
    refine ⟨h.1, fun reply seen' answered => ih reply (h.2 reply seen' answered) ?_⟩
    cases op with
    | log entry => exact (show seen' = seen from answered) ▸ before
    | request r =>
      obtain ⟨sound, rfl⟩ := answered
      exact List.forall_mem_append.2 ⟨before, List.forall_mem_singleton.2 sound⟩

/-- What is done behind other requests, seen from its own first request on. -/
theorem Ends.own {goal : α → List (Exchange B) → Prop} {p : Program B α}
    {before : List (Exchange B)} (h : p.Ends (Upload.proper B) goal before) :
    p.Ends (client B) (fun a seen => goal a (before ++ seen)) [] := by
  -- the longer record is the shorter one behind the requests of before
  refine (h.embed (client B) (fun all seen => all = before ++ seen) ?_ ?_
    (List.append_nil before).symm).mono ?_
  · rintro _ seen (r | entry) _ _
    · exact fun _ => trivial
    · trivial
  · rintro _ seen (r | entry) reply seen' rfl _ answered
    · obtain ⟨sound, rfl⟩ := answered
      exact ⟨_, ⟨sound.proper, rfl⟩, List.append_assoc before seen _⟩
    · obtain rfl : seen' = seen := answered
      exact ⟨_, rfl, rfl⟩
  · rintro a seen ⟨_, done, rfl⟩
    exact done

/-! ## What comes out of an operation -/

/-- A failure of the exchange, if there is one, is among those that are spared. -/
def Exchange.Spared (spares : Request B → Fault → Prop) (e : Exchange B) : Prop :=
  ∀ cause, e.fault? = some cause → spares e.request cause

theorem Exchange.spared_of_granted {spares : Request B → Fault → Prop} {e : Exchange B}
    (granted : e.fault? = none) : e.Spared spares := by
  intro cause met
  cases granted.symm.trans met

/-- What an operation about a path tells of its requests: nothing if all failures are spared, else
the only one that is not. -/
inductive Reported (spares : Request B → Fault → Prop) (path : String) :
    List (Exchange B) → Option Fault → Prop
  | clean {seen : List (Exchange B)} (spared : ∀ e ∈ seen, e.Spared spares) :
    Reported spares path seen none
  | failed (before after : List (Exchange B)) {e : Exchange B} {cause : Fault}
      (met : e.fault? = some cause) (counts : ¬ spares e.request cause)
      (spared : ∀ other ∈ before ++ after, other.Spared spares) :
    Reported spares path (before ++ e :: after) (some (asSystemFault path cause))

/-- An operation of one request, whose failure is not spared. -/
theorem Reported.single {spares : Request B → Fault → Prop} {r : Request B}
    (reply : Except Fault r.Reply) (counts : ∀ cause, ¬ spares r cause) :
    Reported spares path [⟨r, reply⟩] (faultOf (reply.mapError (asSystemFault path))) := by
  cases reply with
  | ok value =>
    exact .clean (List.forall_mem_singleton.2 (Exchange.spared_of_granted rfl))
  | error cause =>
    have met : (⟨r, .error cause⟩ : Exchange B).fault? = some cause := rfl
    exact .failed [] [] met (counts cause) (by simp)

/-- The failures that an operation spares: that nothing is there may be what was to be found out, or
what a bucket is created for, and an upload that is given up is aborted if possible. -/
def Spares {S : Type} : Operation S → Request B → Fault → Prop
  | .isPresent _, _, cause => cause.saysAbsent = true
  | .makeDirs _, r, cause => (∃ bucket, r = .headBucket bucket) ∧ cause.saysAbsent = true
  | _, r, _ => ∃ bucket key id, r = .abortUpload bucket key id

/-- Nothing but failures of the system comes out of an operation, and no failure of a request that
counts stays in it. -/
structure Speaks {S : Type} (op : Operation S) (reply : op.Answer) (seen : List (Exchange B)) :
    Prop where
  system : ∀ fault, op.failure? reply = some fault → fault.isSystem = true
  surfaces : ∀ e ∈ seen, ∀ cause, e.fault? = some cause → ¬ Spares op e.request cause →
    ∃ fault, op.failure? reply = some fault ∧ (fault.isAbsent = true ↔ cause.saysAbsent = true)
  caused : (op.failure? reply).isSome = true →
    ∃ e ∈ seen, ∃ cause, e.fault? = some cause ∧ ¬ Spares op e.request cause

theorem Reported.speaks {S : Type} {op : Operation S} {reply : op.Answer}
    (h : Reported (Spares op) path seen (op.failure? reply)) (sound : ∀ e ∈ seen, e.Sound) :
    Speaks op reply seen := by
  generalize told : op.failure? reply = failure at h
  cases h with
  | clean spared =>
    refine ⟨?_, ?_, ?_⟩
    · intro fault same
      cases told.symm.trans same
    · intro e member cause met counts
      exact absurd (spared e member cause met) counts
    · intro some_fault
      rw [told] at some_fault
      cases some_fault
  | @failed before after e cause met counts spared =>
    refine ⟨?_, ?_, fun _ => ⟨e, by simp, cause, met, counts⟩⟩
    · intro fault same
      cases told.symm.trans same
      exact isSystem_asSystemFault path ((sound e (by simp)).client met)
    · intro other member cause' met' counts'
      -- only one failure counts, so any other that does is the same
      have same : other = e := by
        by_contra different
        have rest : other ∈ before ++ after := by
          simp only [List.mem_append, List.mem_cons] at member ⊢
          exact member.imp_right fun there => there.resolve_left different
        exact counts' (spared other rest cause' met')
      subst same
      cases met.symm.trans met'
      exact ⟨_, told, by rw [isAbsent_asSystemFault]⟩

/-! ## Looking for a target -/

/-- A failure that says that nothing is there. -/
abbrev Exchange.Clear (e : Exchange B) : Prop := e.Spared fun _ cause => cause.saysAbsent = true

/-- How looking for a target ends: with a request that is granted, with a listing that has no key or
says that nothing is there, or with any other failure.  All failures before say that nothing is
there. -/
inductive Looks (path : String) : Except Fault Bool → List (Exchange B) → Prop
  | found {before : List (Exchange B)} {e : Exchange B} (clear : ∀ e ∈ before, e.Clear)
      (granted : e.fault? = none) : Looks path (.ok true) (before ++ [e])
  | missing {before : List (Exchange B)} {bucket start : String} {reply : Except Fault Listing}
      (clear : ∀ e ∈ before, e.Clear)
      (empty : (∃ cause, reply = .error cause ∧ cause.saysAbsent = true) ∨
        ∃ listing, reply = .ok listing ∧ listing.hasKey = .ok false) :
    Looks path (.ok false) (before ++ [⟨.listObjects bucket start, reply⟩])
  | failed {before : List (Exchange B)} {e : Exchange B} {cause : Fault}
      (clear : ∀ e ∈ before, e.Clear) (met : e.fault? = some cause)
      (other : cause.saysAbsent = false) :
    Looks path (.error (asSystemFault path cause)) (before ++ [e])

theorem Looks.reported {reply : Except Fault Bool} (h : Looks path reply seen) :
    Reported (fun _ cause => cause.saysAbsent = true) path seen (faultOf reply) := by
  cases h with
  | found clear granted =>
    refine .clean (List.forall_mem_append.2 ⟨clear, List.forall_mem_singleton.2 ?_⟩)
    exact Exchange.spared_of_granted granted
  | missing clear empty =>
    refine .clean (List.forall_mem_append.2 ⟨clear, List.forall_mem_singleton.2 ?_⟩)
    -- there is no key, or a failure says so
    intro cause met
    rcases empty with ⟨absent, rfl, told⟩ | ⟨listing, rfl, -⟩
    · cases met
      exact told
    · cases met
  | failed clear met other => exact .failed _ [] met (by simp [other]) (by simpa using clear)

/-- A question for all keys under a name. -/
theorem anyKeyUnder_looks (clear : ∀ e ∈ seen, e.Clear) :
    (anyKeyUnder path bucket key).Ends (client B) (Looks path) seen := by
  refine (Prog.ends_bind _ _ _ _).2 (ends_ask_service (fun _ => trivial) fun reply sound => ?_)
  cases reply with
  | ok listing =>
    -- a listing that cannot be read does not come from a sound client
    obtain ⟨b, told⟩ := Listing.Sound.hasKey (sound.complete listing rfl)
    show Looks path listing.hasKey _
    rw [told]
    cases b with
    | true => exact .found clear rfl
    | false => exact .missing clear (.inr ⟨listing, rfl, told⟩)
  | error cause =>
    show Looks path (if (asSystemFault path cause).isAbsent then _ else _) _
    rw [isAbsent_asSystemFault]
    cases absent : cause.saysAbsent with
    | true => exact .missing clear (.inl ⟨cause, rfl, absent⟩)
    | false => exact .failed clear rfl absent

/-- A question for one bucket or object, with the one behind it if nothing is there. -/
theorem orElse_looks (reply : Except Fault Unit) {e : Exchange B}
    {other : Program B (Except Fault Bool)} (same : e.fault? = faultOf reply)
    (clear : ∀ e ∈ seen, e.Clear)
    (next : (∀ e' ∈ seen ++ [e], e'.Clear) → other.Ends (client B) (Looks path) (seen ++ [e])) :
    (orElse (reply.mapError (asSystemFault path)) other).Ends (client B) (Looks path)
      (seen ++ [e]) := by
  cases reply with
  | ok _ => exact .found clear same
  | error cause =>
    show Prog.Ends _ _ (if (asSystemFault path cause).isAbsent then _ else _) _
    rw [isAbsent_asSystemFault]
    cases absent : cause.saysAbsent with
    | false => exact .failed clear same absent
    | true =>
      -- the answer was that nothing is there, so the next question is asked behind a clear record
      refine next (List.forall_mem_append.2 ⟨clear, List.forall_mem_singleton.2 ?_⟩)
      intro cause' met
      cases same.symm.trans met
      exact absent

theorem isPresent_looks (h : Addressed path bucket key) :
    (isPresent path).Ends (client B) (Looks path) [] := by
  have clear : ∀ e ∈ ([] : List (Exchange B)), e.Clear := by simp
  unfold isPresent
  rw [h.split]
  -- a bucket, a name with a slash at its end, and any other name are looked for differently
  refine Prog.ends_ite (fun _ => ?_) fun _ => Prog.ends_ite (fun _ => ?_) fun _ => ?_
  · refine (Prog.ends_bind _ _ _ _).2 (ends_ask_service (fun _ => trivial) fun reply _ => ?_)
    exact orElse_looks reply (by cases reply <;> rfl) clear anyKeyUnder_looks
  · exact anyKeyUnder_looks clear
  · refine (Prog.ends_bind _ _ _ _).2 (ends_ask_service (fun _ => trivial) fun reply _ => ?_)
    exact orElse_looks reply (by cases reply <;> rfl) clear anyKeyUnder_looks

/-! ## Making a target -/

/-- The requests that see to a bucket: it is there, or it is said not to be there and is created. -/
inductive Ensures (bucket : String) : List (Exchange B) → Prop
  | there : Ensures bucket [⟨.headBucket bucket, .ok ()⟩]
  | created {cause : Fault} (absent : cause.saysAbsent = true) :
    Ensures bucket [⟨.headBucket bucket, .error cause⟩, ⟨.createBucket bucket, .ok ()⟩]

/-- How making a target ends: its bucket cannot be asked for, or it is not there and cannot be
created, or it is seen to; and then the marker is put, if there is one. -/
inductive Makes (path bucket key : String) : Except Fault Unit → List (Exchange B) → Prop
  | refused {cause : Fault} (other : cause.saysAbsent = false) :
    Makes path bucket key (.error (asSystemFault path cause)) [⟨.headBucket bucket, .error cause⟩]
  | uncreated {missing cause : Fault} (absent : missing.saysAbsent = true) :
    Makes path bucket key (.error (asSystemFault path cause))
      [⟨.headBucket bucket, .error missing⟩, ⟨.createBucket bucket, .error cause⟩]
  | bare {seen : List (Exchange B)} (bucket_there : Ensures bucket seen)
      (slashes : trimSlashes key = "") : Makes path bucket key (.ok ()) seen
  | marked {seen : List (Exchange B)} (bucket_there : Ensures bucket seen)
      (named : trimSlashes key ≠ "") (reply : Except Fault Unit) :
    Makes path bucket key (reply.mapError (asSystemFault path))
      (seen ++ [⟨.putObject bucket (markerKey key) .empty, reply⟩])

theorem Ensures.spared {S : Type} (path : String) (h : Ensures bucket seen) :
    ∀ e ∈ seen, e.Spared (Spares (.makeDirs path : Operation S)) := by
  cases h with
  | there => exact List.forall_mem_singleton.2 (Exchange.spared_of_granted rfl)
  | created absent =>
    refine List.forall_mem_cons.2
      ⟨?_, List.forall_mem_singleton.2 (Exchange.spared_of_granted rfl)⟩
    rintro _ ⟨⟩
    exact ⟨⟨bucket, rfl⟩, absent⟩

theorem Makes.reported {S : Type} {reply : Except Fault Unit}
    (h : Makes path bucket key reply seen) :
    Reported (Spares (.makeDirs path : Operation S)) path seen (faultOf reply) := by
  cases h with
  | refused other =>
    exact .failed [] [] rfl (by simp [Spares, other]) (by simp)
  | uncreated absent =>
    refine .failed [_] [] rfl (by simp [Spares]) (List.forall_mem_singleton.2 ?_)
    rintro _ ⟨⟩
    exact ⟨⟨bucket, rfl⟩, absent⟩
  | bare bucket_there => exact .clean (bucket_there.spared path)
  | marked bucket_there named reply =>
    cases reply with
    | ok _ =>
      refine .clean (List.forall_mem_append.2
        ⟨bucket_there.spared path, List.forall_mem_singleton.2 ?_⟩)
      exact Exchange.spared_of_granted rfl
    | error cause =>
      exact .failed _ [] rfl (by simp [Spares]) (by simpa using bucket_there.spared path)

theorem makeBucket_makes (path bucket key : String) :
    (makeBucket path bucket).Ends (client B) (fun reply seen => match reply with
      | .ok _ => Ensures bucket seen
      | .error _ => Makes path bucket key reply seen) [] := by
  refine (Prog.ends_bind _ _ _ _).2 (ends_ask_service (fun _ => trivial) fun reply _ => ?_)
  cases reply with
  | ok _ => exact .there
  | error missing =>
    dsimp only [Except.mapError]
    rw [isAbsent_asSystemFault]
    cases absent : missing.saysAbsent with
    | false => exact .refused absent
    -- a bucket that is said not to be there is created
    | true =>
      refine (Prog.ends_bind _ _ _ _).2 (ends_log ?_)
      refine ends_ask_service (fun _ => trivial) fun reply _ => ?_
      cases reply with
      | ok _ => exact .created absent
      | error cause => exact .uncreated absent

theorem makeDirs_makes (h : Addressed path bucket key) :
    (makeDirs path).Ends (client B) (Makes path bucket key) [] := by
  unfold makeDirs
  rw [h.split]
  dsimp only
  -- whether there is a marker is not computed here
  generalize slashed : (trimSlashes key).isEmpty = slashes
  refine (makeBucket_makes path bucket key).bind ?_
  rintro (fault | _) seen arrived
  · exact arrived
  cases slashes with
  | true => exact .bare arrived (String.isEmpty_iff.1 slashed)
  | false =>
    refine ends_ask_service (fun _ => trivial) fun reply _ => ?_
    have named : trimSlashes key ≠ "" := fun same => by simp [same] at slashed
    exact .marked arrived named reply

/-! ## Streams -/

/-- Can the stream be written to: is it an upload that is not committed, failed or closed? -/
def Stream.Writable : Stream B → Prop
  | .upload u => u.closed = false ∧ u.live = true
  | .download _ _ _ => False

/-- Can the stream be read from? -/
def Stream.Readable : Stream B → Prop
  | .upload _ => False
  | .download _ _ _ => True

namespace Upload

/-- The failures that an upload spares. -/
abbrev SparesAborts : Request B → Fault → Prop :=
  fun r _ => ∃ bucket key id, r = .abortUpload bucket key id

/-- Requests that have led to an upload as it is. -/
def born (u : Upload) : List (Exchange B) :=
  match u.uploadId with
  | none => []
  | some id => [⟨.createUpload u.bucket u.key, .ok (some id)⟩]

theorem underway_born (u : Upload) : Underway (u.born : List (Exchange B)) u.uploadId := by
  unfold born
  cases u.uploadId with
  | none => exact .fresh
  | some id => exact Underway.fresh.opened id

theorem fault?_of_granted (granted : failure? seen = none) : ∀ e ∈ seen, e.fault? = none :=
  List.findSome?_eq_none_iff.1 granted

/-- The first failure of an upload under way is what a step tells, if it tells any. -/
theorem Proceeds.reported {u : Upload} {well : Upload → List (Exchange B) → Prop}
    {r : Upload × Except Fault α} {before : List (Exchange B)} (fresh : failure? before = none)
    (granted : ∀ v seen, well v seen → failure? seen = none)
    (h : u.Proceeds well r (before ++ seen)) :
    Reported SparesAborts u.path seen (faultOf r.2) := by
  obtain ⟨v, result⟩ := r
  cases result with
  | ok _ =>
    exact .clean fun e member => Exchange.spared_of_granted
      (fault?_of_granted (granted v _ h) e (List.mem_append_right before member))
  | error fault =>
    have gave_up : u.GaveUp v (before ++ seen) fault := h
    obtain ⟨earlier, e, after, id, split, underway, met, no_abort, -, aborts⟩ := gave_up.trace
    obtain ⟨cause, met⟩ := Option.isSome_iff_exists.1 met
    -- what is told is the failure of the first request that failed
    have tells := gave_up.tells
    rw [Tells, split, failure?_of_first underway.granted met, Option.map_some] at tells
    cases tells
    -- the request that failed is one of this step
    obtain ⟨more, rfl, rfl⟩ : ∃ more, earlier = before ++ more ∧ seen = more ++ e :: after := by
      rcases List.append_eq_append_iff.1 split with ⟨more, same, rest⟩ | ⟨more, same, rest⟩
      · exact ⟨more, same, rest⟩
      · cases more with
        | nil => exact ⟨[], by simpa using same.symm, by simpa using rest.symm⟩
        | cons first more =>
          obtain ⟨rfl, -⟩ := List.cons_eq_cons.1 rest
          have none_there := fault?_of_granted fresh e (by simp [same])
          cases none_there.symm.trans met
    refine .failed more after met ?_ fun other member => ?_
    · rintro ⟨bucket, key, id, aborted⟩
      rw [Exchange.isAbort, aborted] at no_abort
      cases no_abort
    · rcases List.mem_append.1 member with there | there
      · exact Exchange.spared_of_granted
          (fault?_of_granted underway.granted other (List.mem_append_right before there))
      · obtain ⟨id, reply, rfl⟩ := aborts_of_map aborts other there
        exact fun _ _ => ⟨_, _, id, rfl⟩

/-- What a step of an upload tells, whatever was asked before. -/
theorem Ends.reported {u : Upload} {well : Upload → List (Exchange B) → Prop}
    (step : Program B (Upload × Except Fault α))
    (granted : ∀ v seen, well v seen → failure? seen = none)
    (h : step.Ends (proper B) (fun r => u.Proceeds well (r.1, r.2.map fun _ => ())) u.born) :
    step.Ends (client B) (fun r seen => Reported SparesAborts u.path seen (faultOf r.2) ∧
      ∀ a, r.2 = .ok a → well r.1 (u.born ++ seen)) [] := by
  refine (Ends.own h).mono ?_
  rintro ⟨v, result⟩ seen proceeds
  have reported := Proceeds.reported (underway_born u).granted granted proceeds
  rw [faultOf_map] at reported
  refine ⟨reported, ?_⟩
  rintro a same
  obtain rfl : result = .ok a := same
  exact proceeds

end Upload

section
variable {partSize : Nat} {u : Upload}

theorem write_reports (h : (.upload u : Stream B).Writable) (data : ByteArray) :
    (perform partSize (.write (.upload u) data)).Ends (client B) (fun reply seen =>
      Reported Upload.SparesAborts u.path seen (faultOf reply.2) ∧
        ∀ count, reply.2 = .ok count → reply.1.Writable) [] := by
  have proceeds := Upload.write_proceeds h.2 h.1 (Upload.underway_born (B := B) u) data
  have reports := Upload.Ends.reported (u.write data)
    (fun _ _ done => done.trace.granted) ((Prog.ends_bind _ _ _ _).1 proceeds)
  refine reports.bind ?_
  rintro ⟨v, result⟩ seen ⟨reported, well⟩
  refine ⟨reported, fun count same => ?_⟩
  have goes_on := well count same
  exact ⟨goes_on.place.closed.trans h.1, goes_on.live.trans h.2⟩

theorem flush_reports (h : (.upload u : Stream B).Writable) :
    u.flush.Ends (client B) (fun r seen =>
      Reported Upload.SparesAborts u.path seen (faultOf r.2)) [] := by
  rw [Upload.flush_live h.2]
  have proceeds : u.commit.Ends (Upload.proper B)
      (fun r => u.Proceeds u.IsCommitted (r.1, r.2.map fun _ => ())) u.born := by
    refine (Upload.commit_proceeds (Upload.underway_born u)).mono ?_
    rintro ⟨v, result⟩ seen proceeds
    cases result <;> exact proceeds
  exact (Upload.Ends.reported u.commit (fun _ _ done => done.trace.granted) proceeds).mono
    fun _ _ told => told.1

/-- What comes out of an operation on a stream for writing. -/
theorem stream_reports {stream : Stream B} (h : stream.Writable) :
    (perform partSize (.flush stream)).Ends (client B) (fun reply seen =>
      ∃ path, Reported Upload.SparesAborts path seen (faultOf reply.2)) [] ∧
    (perform partSize (.close stream)).Ends (client B) (fun reply seen =>
      ∃ path, Reported Upload.SparesAborts path seen (faultOf reply.2)) [] := by
  cases stream with
  | download body path closed => exact h.elim
  | upload u =>
    refine ⟨(flush_reports h).bind fun r seen reported => ⟨u.path, reported⟩, ?_⟩
    have opened := h.1
    dsimp only [perform]
    unfold onUpload Upload.close
    rw [if_neg (by simp [opened])]
    simp only [Prog.bind_eq_bind, Prog.bind_assoc]
    exact (flush_reports h).bind fun r seen reported => ⟨u.path, reported⟩

end

/-! ## All operations -/

/-- Is the operation one on a path in a bucket, or one that its stream is open for? -/
def Fit : Operation (Stream B) → Prop
  | .isPresent path | .makeDirs path | .create path | .openRead path | .delete path =>
    ∃ bucket key, Addressed path bucket key
  | .write stream _ | .flush stream => stream.Writable
  | .read stream _ => stream.Readable
  | .close stream => stream.Writable ∨ stream.Readable

/-- Every operation reports what its requests met. -/
theorem perform_reports (partSize : Nat) {op : Operation (Stream B)} (fit : Fit op) :
    (perform partSize op).Ends (client B)
      (fun reply seen => ∃ path, Reported (Spares op) path seen (op.failure? reply)) [] := by
  cases op with
  | isPresent path =>
    obtain ⟨bucket, key, addressed⟩ := fit
    exact (isPresent_looks addressed).mono fun _ _ looks => ⟨path, looks.reported⟩
  | makeDirs path =>
    obtain ⟨bucket, key, addressed⟩ := fit
    exact (makeDirs_makes addressed).mono fun _ _ makes => ⟨path, makes.reported⟩
  | create path =>
    obtain ⟨bucket, key, addressed⟩ := fit
    dsimp only [perform]
    rw [addressed.split]
    exact ⟨path, .clean (by simp)⟩
  | openRead path =>
    obtain ⟨bucket, key, addressed⟩ := fit
    dsimp only [perform]
    unfold openRead
    rw [addressed.split]
    refine (Prog.ends_bind _ _ _ _).2 (ends_ask_service (fun _ => trivial) fun reply sound => ?_)
    have reported : Reported (Spares (.openRead path : Operation (Stream B))) path
        [⟨.getObject bucket key, reply⟩] (faultOf (reply.mapError (asSystemFault path))) :=
      .single reply (by simp [Spares])
    rcases reply with cause | none | body
    · exact ⟨path, reported⟩
    -- an object is granted with its body
    · exact absurd rfl sound.complete
    · exact ⟨path, reported⟩
  | delete path =>
    obtain ⟨bucket, key, addressed⟩ := fit
    dsimp only [perform]
    unfold delete
    rw [addressed.split]
    exact ends_ask_service (fun _ => trivial) fun reply _ =>
      ⟨path, .single reply (by simp [Spares])⟩
  | write stream data =>
    cases stream with
    | download body path closed => exact fit.elim
    | upload u => exact (write_reports fit data).mono fun _ _ told => ⟨u.path, told.1⟩
  | flush stream => exact (stream_reports fit).1
  | read stream size =>
    cases stream with
    | upload u => exact fit.elim
    | download body path closed =>
      exact (Prog.ends_bind _ _ _ _).2 (ends_ask_service (fun _ => trivial) fun reply _ =>
        ⟨path, .single reply (by simp [Spares])⟩)
  | close stream =>
    cases stream with
    | upload u => exact (stream_reports (fit.resolve_right id)).2
    | download body path closed =>
      dsimp only [perform]
      refine Prog.ends_ite (fun _ => ⟨path, .clean (by simp)⟩) fun _ => ?_
      exact (Prog.ends_bind _ _ _ _).2 (ends_ask_service (fun _ => trivial) fun reply _ =>
        ⟨path, .single reply (by simp [Spares])⟩)

theorem perform_speaks (partSize : Nat) (op : Operation (Stream B)) (fit : Fit op) :
    (perform partSize op).Ends (client B) (fun reply seen => Speaks op reply seen) [] :=
  (Ends.sound (perform_reports partSize fit) (by simp)).mono
    fun _ _ ⟨⟨_, reported⟩, sound⟩ => reported.speaks sound

/-- A stream that was written to can be written to again, or there is a failure of the system. -/
theorem write_goes_on {partSize : Nat} {stream : Stream B} (h : stream.Writable)
    (data : ByteArray) :
    (perform partSize (.write stream data)).Ends (client B)
      (fun reply _ => OrSystem (fun _ => reply.1.Writable) reply.2) [] := by
  cases stream with
  | download body path closed => exact h.elim
  | upload u =>
    refine (Prog.Ends.and (fun _ _ _ _ => id) (write_reports h data)
      (perform_speaks partSize (.write (.upload u) data) h)).mono ?_
    -- whether it is a failure of the system is what the operation tells of its requests
    rintro ⟨stream, fault | count⟩ seen ⟨⟨-, writable⟩, speaks⟩
    · exact speaks.system fault rfl
    · exact writable count rfl

/-- A stream that was opened for reading can be read from, or there is a failure of the system. -/
theorem openRead_opens {partSize : Nat} (h : Addressed path bucket key) :
    (perform (B := B) partSize (.openRead path)).Ends (client B)
      (fun reply _ => OrSystem Stream.Readable reply) [] := by
  have opens : (perform (B := B) partSize (.openRead path)).Ends (client B)
      (fun reply _ => ∀ stream, reply = .ok stream → stream.Readable) [] := by
    dsimp only [perform]
    unfold openRead
    rw [h.split]
    refine (Prog.ends_bind _ _ _ _).2 (ends_ask_service (fun _ => trivial) fun reply _ => ?_)
    rcases reply with cause | none | body
    · exact nofun
    · exact nofun
    · rintro _ ⟨⟩
      trivial
  refine (Prog.Ends.and (fun _ _ _ _ => id) opens
    (perform_speaks partSize (.openRead path) ⟨bucket, key, h⟩)).mono ?_
  rintro (fault | stream) seen ⟨readable, speaks⟩
  · exact speaks.system fault rfl
  · exact readable stream rfl

/-- A stream that was read from can be read from again, or there is a failure of the system. -/
theorem read_goes_on {partSize : Nat} {stream : Stream B} (h : stream.Readable)
    (size : Option Int) :
    (perform partSize (.read stream size)).Ends (client B)
      (fun reply _ => OrSystem (fun _ => reply.1.Readable) reply.2) [] := by
  cases stream with
  | upload u => exact h.elim
  | download body path closed =>
    have stays : (perform partSize (.read (.download body path closed) size)).Ends (client B)
        (fun reply _ => reply.1.Readable) [] :=
      (Prog.ends_bind _ _ _ _).2 (ends_ask_service (fun _ => trivial) fun _ _ => trivial)
    refine (Prog.Ends.and (fun _ _ _ _ => id) stays
      (perform_speaks partSize (.read (.download body path closed) size) h)).mono ?_
    rintro ⟨stream, fault | block⟩ seen ⟨readable, speaks⟩
    · exact speaks.system fault rfl
    · exact readable

end S3
end Storage

namespace Worker

open Storage (Operation)
open Storage.S3 (Addressed client perform)

variable {B : Type} {partSize : Nat}

/-! ## Workers in front of a client -/

/-- The storage of an object service at a client, and a clock that does not go back; an operation
comes to what its requests come to. -/
def atClient (B : Type) (partSize : Nat) :
    Surroundings (effects (Storage.S3.Stream B)) (Option Binary64) where
  Allows _ _ := True
  Answers
    | time, .storage op, reply, time' =>
      (∃ seen, (perform partSize op).Comes (client B) [] reply seen) ∧ time' = time
    | time, .clock, now, time' => Concert.steady time now = true ∧ time' = some now
    | time, .log _, _, time' => time' = time
    | time, .isLate _ _, _, time' => time' = time

theorem atClient_silent : Silent (atClient B partSize) := fun _ _ => ⟨trivial, fun _ _ same => same⟩

/-- An operation, with what is known of its requests. -/
theorem ends_operation {op : Operation (Storage.S3.Stream B)} {time : Option Binary64}
    {goal : op.Answer → Option Binary64 → Prop}
    (h : (perform partSize op).Ends (client B) (fun reply _ => goal reply time) []) :
    (Prog.perform (E := effects (Storage.S3.Stream B)) (.storage op)).Ends (atClient B partSize)
      goal time := by
  refine ⟨trivial, ?_⟩
  rintro reply _ ⟨⟨seen, comes⟩, rfl⟩
  exact h.of_comes comes

/-- A task comes to an outcome if what it met was a failure of the system at most. -/
theorem conclude_returns {mode : Mode} {index : Int} {path : String} {closing : List String}
    {result : Except Fault Measurement} (told : OrSystem (fun m => m.mode = mode) result) :
    ∃ outcome, conclude mode index (attemptMessages mode path result ++ closing) result =
      .ok outcome := by
  cases result with
  | ok m => exact ⟨_, if_pos told⟩
  | error fault =>
    have system : fault.isSystem = true := told
    rw [conclude_failed, if_pos system]
    exact ⟨_, rfl⟩

/-- A task comes to an outcome if the object is opened and its data is moved with failures of the
system at most. -/
theorem measured_returns {mode : Mode} {index : Int} {path : String} {size : Int}
    {opened : Program (Storage.S3.Stream B) (Except Fault (Storage.S3.Stream B))}
    {transfer : Storage.S3.Stream B →
      Program (Storage.S3.Stream B) (Storage.S3.Stream B × Except Fault Nat)}
    (Open : Storage.S3.Stream B → Prop)
    (opens : ∀ time, opened.Ends (atClient B partSize)
      (fun reply time' => time' = time ∧ OrSystem Open reply) time)
    (moves : ∀ stream time, Open stream → (transfer stream).Ends (atClient B partSize)
      (fun moved time' => time' = time ∧ OrSystem (fun _ => True) moved.2) time)
    (time : Option Binary64) :
    (measured mode index path size opened transfer).Ends (atClient B partSize)
      (fun result _ => ∃ outcome, result = .ok outcome) time := by
  refine measured_of_quiet atClient_silent ⟨trivial, ?_⟩
  rintro start _ ⟨began, rfl⟩
  refine (opens (some start)).bind ?_
  rintro (fault | stream) _ ⟨rfl, arrived⟩
  · -- there is no stream to close, and no message of a closing
    have returns : ∃ outcome, conclude mode index
        (attemptMessages mode path (.error fault) ++ []) (.error fault) = .ok outcome :=
      conclude_returns arrived
    rwa [List.append_nil] at returns
  refine (moves stream (some start) arrived).bind ?_
  rintro ⟨last, fault | bytes⟩ _ ⟨rfl, system⟩
  · exact ⟨trivial, fun closed _ _ => conclude_returns system⟩
  · refine ⟨trivial, ?_⟩
    rintro now _ ⟨ticks, rfl⟩
    refine ⟨trivial, fun closed _ _ => ?_⟩
    -- the clock did not go back, so the measurement can be made
    rw [Concert.measurement_made mode ticks]
    exact conclude_returns rfl

/-- The blocks of a writer are taken in, or there is a failure of the system. -/
theorem writeBlocks_goes_on {payload : ByteArray} (given : payload.size ≠ 0) {size : Nat}
    {stream : Storage.S3.Stream B} (writable : stream.Writable) {time : Option Binary64} :
    (writeBlocks payload stream size).Ends (atClient B partSize)
      (fun moved time' => time' = time ∧ OrSystem (fun _ => moved.1.Writable) moved.2) time := by
  -- the invariant of the loop: the stream can be written to, and no time has passed
  refine writeBlocks_ends (fun _ stream time' => time' = time ∧ stream.Writable) (by omega)
    ?_ ?_ size ⟨rfl, writable⟩
  · rintro remaining stream _ some_left ⟨rfl, writable⟩
    refine ends_operation ((Storage.S3.write_goes_on writable _).mono ?_)
    rintro ⟨stream, fault | count⟩ _ arrived <;> exact ⟨rfl, arrived⟩
  · rintro stream _ ⟨rfl, writable⟩
    exact ⟨rfl, writable⟩

/-- A stream for writing is flushed, or there is a failure of the system. -/
theorem flush_goes_on {stream : Storage.S3.Stream B} (writable : stream.Writable)
    {time : Option Binary64} :
    (flush stream).Ends (atClient B partSize)
      (fun reply time' => time' = time ∧ OrSystem (fun _ => True) reply.2) time := by
  refine ends_operation ((Storage.S3.perform_speaks partSize (.flush stream) writable).mono ?_)
  rintro ⟨stream, fault | _⟩ seen speaks
  · exact ⟨rfl, speaks.system fault rfl⟩
  · exact ⟨rfl, trivial⟩

/-- A writer with a payload comes to an outcome, whatever the client answers. -/
theorem writeTask_returns {path bucket key : String} (addressed : Addressed path bucket key)
    (index size : Int) {payload : ByteArray} (given : payload.size ≠ 0) (time : Option Binary64) :
    (writeTask index path size payload).Ends (atClient B partSize)
      (fun result _ => ∃ outcome, result = .ok outcome) time := by
  unfold writeTask
  rw [if_neg fun empty => given empty.1]
  refine measured_returns Storage.S3.Stream.Writable (fun time => ends_operation ?_) ?_ time
  -- creating an object asks nothing yet
  · dsimp only [perform]
    rw [addressed.split]
    exact ⟨rfl, rfl, rfl⟩
  · intro stream time writable
    refine (writeBlocks_goes_on given writable).bind ?_
    rintro ⟨stream, fault | _⟩ now ⟨rfl, arrived⟩
    · exact ⟨rfl, arrived⟩
    · refine (flush_goes_on arrived).bind ?_
      rintro ⟨stream, fault | _⟩ _ ⟨rfl, system⟩ <;> exact ⟨rfl, system⟩

/-- A reader comes to an outcome, whatever the client answers. -/
theorem readTask_returns {path bucket key : String} (addressed : Addressed path bucket key)
    (index size bufferSize : Int) (time : Option Binary64) :
    (readTask index path size bufferSize).Ends (atClient B partSize)
      (fun result _ => ∃ outcome, result = .ok outcome) time := by
  refine measured_returns Storage.S3.Stream.Readable (fun time => ends_operation ?_) ?_ time
  · exact (Storage.S3.openRead_opens addressed).mono fun _ _ arrived => ⟨rfl, arrived⟩
  · intro stream time readable
    -- the invariant of the loop: the stream can be read from
    refine readBlocks_ends (fun _ stream time' => time' = time ∧ stream.Readable) ?_ ?_ _ rfl
      ⟨rfl, readable⟩
    · rintro count stream _ more ⟨rfl, readable⟩
      refine ends_operation ((Storage.S3.read_goes_on readable _).mono ?_)
      rintro ⟨stream, fault | block⟩ _ arrived
      · exact ⟨rfl, arrived⟩
      · exact ⟨fun _ => ⟨rfl, trivial⟩, fun _ => ⟨rfl, arrived⟩⟩
    · rintro count stream _ _ ⟨rfl, -⟩
      exact ⟨rfl, trivial⟩

/-! ## The storage as a whole -/

/-- How the storage of an object service fails, whatever its client refuses. -/
structure FailsAsSystem (B : Type) (partSize : Nat) : Prop where
  /-- Nothing but failures of the system comes out of an operation, and every request that failed
  comes out of it unless its failure is spared. -/
  speaks : ∀ op : Operation (Storage.S3.Stream B), Storage.S3.Fit op →
    (perform partSize op).Ends (client B) (fun reply seen => Storage.S3.Speaks op reply seen) []
  /-- Only a failure that says so tells that a target is not there. -/
  looks : ∀ path bucket key, Addressed path bucket key →
    (perform partSize (.isPresent path)).Ends (client B) (Storage.S3.Looks path) []
  /-- A bucket that is said not to be there is created, and nothing else comes of that. -/
  makes : ∀ path bucket key, Addressed path bucket key →
    (perform partSize (.makeDirs path)).Ends (client B) (Storage.S3.Makes path bucket key) []
  /-- A writer with a payload comes to an outcome. -/
  writes : ∀ path bucket key, Addressed path bucket key →
    ∀ (index size : Int) (payload : ByteArray), payload.size ≠ 0 →
    ∀ time, (writeTask index path size payload).Ends (atClient B partSize)
      (fun result _ => ∃ outcome, result = .ok outcome) time
  /-- A reader comes to an outcome. -/
  reads : ∀ path bucket key, Addressed path bucket key →
    ∀ (index size bufferSize : Int) time,
    (readTask index path size bufferSize).Ends (atClient B partSize)
      (fun result _ => ∃ outcome, result = .ok outcome) time

/-- The storage of an object service fails as a system does: every operation on a path in a bucket
or on a stream that is open for it comes to its end, and tells failures of the system only.  So
workers always come to an outcome. -/
theorem fails_as_system (B : Type) (partSize : Nat) : FailsAsSystem B partSize where
  speaks op fit := Storage.S3.perform_speaks partSize op fit
  looks _ _ _ addressed := Storage.S3.isPresent_looks addressed
  makes _ _ _ addressed := Storage.S3.makeDirs_makes addressed
  writes _ _ _ addressed index size _ given time :=
    writeTask_returns addressed index size given time
  reads _ _ _ addressed index size bufferSize time :=
    readTask_returns addressed index size bufferSize time

/-- A client that lets nobody in, and says of single objects that they are not there. -/
def guarded (r : Storage.S3.Request Unit) : Except Fault r.Reply :=
  let code := match r with
    | .headObject _ _ => "404"
    | _ => "AccessDenied"
  .error (.refused ⟨"Any", some code, none, none⟩)

/-- What the storage is answered by this client, with a record of its requests. -/
def answeredGuarded : (op : Storage.S3.Op Unit) → List (Storage.S3.Exchange Unit) →
    op.Answer × List (Storage.S3.Exchange Unit)
  | .request r, seen => (guarded r, seen ++ [⟨r, guarded r⟩])
  | .log _, seen => ((), seen)

theorem answeredGuarded_client (op : Storage.S3.Op Unit) (seen : List (Storage.S3.Exchange Unit)) :
    (client Unit).Answers seen op (answeredGuarded op seen).1 (answeredGuarded op seen).2 := by
  cases op with
  | log entry => rfl
  | request r =>
    refine ⟨⟨.inr ⟨_, rfl, rfl⟩, ?_⟩, rfl⟩
    cases r <;> first | trivial | exact nofun

/-- What a worker in front of this client is answered. -/
def answeredAtGuard : (op : Op (Storage.S3.Stream Unit)) → Unit → op.Answer × Unit
  | .storage op, _ => (((perform 4 op).runWith answeredGuarded []).1, ())
  | .clock, _ => (.zero false, ())
  | .log _, _ => ((), ())
  | .isLate _ _, _ => (false, ())

theorem answeredAtGuard_client (op : Op (Storage.S3.Stream Unit)) :
    (atClient Unit 4).Answers (some (.zero false)) op (answeredAtGuard op ()).1
      (some (.zero false)) := by
  cases op with
  | clock =>
    have shown : Concert.steady (some (.zero false)) (.zero false) = true := by decide
    exact ⟨shown, rfl⟩
  | log _ | isLate _ _ => rfl
  | storage op =>
    have comes := Prog.comes_runWith answeredGuarded id answeredGuarded_client (perform 4 op) []
    exact ⟨⟨_, comes⟩, rfl⟩

/-- An object that is not there is looked for under its name, too, and that is denied: so looking
for it fails.  A writer comes to an outcome with one message. -/
theorem fails_as_system_guarded :
    let (present, seen) := (Storage.S3.isPresent "s3://b/k").runWith answeredGuarded []
    let result := ((writeTask 1 "s3://b/k" 4 ⟨#[97]⟩).runWith answeredAtGuard ()).1
    Storage.S3.Looks "s3://b/k" present seen ∧ seen.length = 2 ∧
      present = .error (.system ("S3 request for s3://b/k failed: " ++
        "An error occurred (AccessDenied) when calling the Any operation: Unknown")) ∧
      ∃ outcome, result = .ok outcome ∧ outcome.errors.length = 1 := by
  have addressed : Addressed "s3://b/k" "b" "k" := ⟨.inl rfl, by decide, by decide⟩
  have fails := fails_as_system Unit 4
  have looks := (fails.looks "s3://b/k" "b" "k" addressed).runWith answeredGuarded id
    answeredGuarded_client (t := [])
  let view (_ : Unit) : Option Binary64 := some (.zero false)
  have writes := fails.writes "s3://b/k" "b" "k" addressed 1 4 ⟨#[97]⟩ (by decide) (view ())
  obtain ⟨outcome, returned⟩ := writes.runWith (E := effects (Storage.S3.Stream Unit))
    answeredAtGuard view (fun op _ => answeredAtGuard_client op)
  have one_message : ((writeTask 1 "s3://b/k" 4 ⟨#[97]⟩).runWith answeredAtGuard ()).1.toOption.map
    (fun outcome => outcome.errors.length) = some 1 := by decide +kernel
  rw [returned] at one_message
  exact ⟨looks, by decide +kernel, by decide +kernel, outcome, returned,
    Option.some.inj one_message⟩

end Worker
end StoreMeter
