import StoreMeter.Proofs.Upload.WholeObjects
/-
# Proofs.Upload.Course — the course of an upload, by its requests

A client either grants a request or fails in a way that the storage knows: a refusal, a request that
never arrived, or a failure of the system.  Against such a client the requests of an upload have one
of three shapes (`Course`).  While it is under way all of them were granted, and they opened it at
most once.  A commit ends it with one more request that was granted.  And the first failure ends it
with an abort, if there was an id to abort, whatever becomes of the abort.

Each step of an upload under way either goes on with it or gives it up (`Proceeds`).
-/
namespace StoreMeter

/-- Is this a failure of a client: a refusal, a request that never arrived, or a failure of the
system? -/
def Fault.isClient (fault : Fault) : Bool :=
  match fault with
  | .refused _ | .unreachable _ => true
  | .plain _ _ => fault.isSystem

namespace Storage
namespace S3

variable {B σ α : Type}

/-- A failure of a client is told as a failure of the system. -/
theorem isSystem_asSystemFault (path : String) {fault : Fault} (h : fault.isClient = true) :
    (asSystemFault path fault).isSystem = true := by
  cases fault with
  | refused refusal =>
    unfold asSystemFault
    dsimp only
    split <;> rfl
  | unreachable endpoint => rfl
  | plain kind detail => exact h

/-! ## Exchanges -/

/-- The failure that an exchange met. -/
def Exchange.fault? (e : Exchange B) : Option Fault :=
  match e.reply with
  | .ok _ => none
  | .error fault => some fault

/-- The first failure among some exchanges. -/
def failure? (seen : List (Exchange B)) : Option Fault := seen.findSome? Exchange.fault?

/-- Does the exchange ask for an upload in parts? -/
def Exchange.isCreation (e : Exchange B) : Bool :=
  match e.request with
  | .createUpload _ _ => true
  | _ => false

/-- Does the exchange ask to abort an upload in parts? -/
def Exchange.isAbort (e : Exchange B) : Bool :=
  match e.request with
  | .abortUpload _ _ _ => true
  | _ => false

/-- The id that an exchange obtained. -/
def Exchange.opened? : Exchange B → Option Value
  | ⟨.createUpload _ _, .ok (some id)⟩ => some id
  | _ => none

/-- The ids that were obtained. -/
def obtained (seen : List (Exchange B)) : List Value := seen.filterMap Exchange.opened?

/-- What was asked for is granted, or there is a failure of a client. -/
def Exchange.Proper (e : Exchange B) : Prop :=
  e.Granted ∨ ∃ fault, e.fault? = some fault ∧ fault.isClient = true

/-- A client whose answers are complete and whose failures are those of a client. -/
def Service.Proper (service : Service B σ) : Prop :=
  ∀ r s, Exchange.Proper ⟨r, (service.answer r s).1⟩

/-- A reply is a failure of a client, or it grants the request. -/
theorem Exchange.Proper.cases {r : Request B} {reply : Except Fault r.Reply}
    (h : Exchange.Proper ⟨r, reply⟩) :
    (∃ fault, reply = .error fault ∧ fault.isClient = true) ∨
      Exchange.Granted ⟨r, reply⟩ ∧ ∃ value, reply = .ok value := by
  cases reply with
  | error fault =>
    rcases h with granted | ⟨cause, met, client⟩
    -- no request is granted by a failure
    · exfalso
      cases r with
      | createUpload bucket key =>
        obtain ⟨id, -, told⟩ := granted
        cases told
      | uploadPart bucket key id number body =>
        obtain ⟨tag, told⟩ := granted
        cases told
      | _ => cases granted
    · cases met
      exact .inl ⟨fault, rfl, client⟩
  | ok value =>
    rcases h with granted | ⟨cause, met, -⟩
    · exact .inr ⟨granted, value, rfl⟩
    · cases met

theorem failure?_append (seen more : List (Exchange B)) :
    failure? (seen ++ more) = (failure? seen).or (failure? more) := by
  simp [failure?, List.findSome?_append]

theorem obtained_append (seen more : List (Exchange B)) :
    obtained (seen ++ more) = obtained seen ++ obtained more := by
  simp [obtained]

/-- The first failure is that of the exchange behind which there was none. -/
theorem failure?_of_first {before after : List (Exchange B)} {e : Exchange B} {cause : Fault}
    (none_yet : failure? before = none) (met : e.fault? = some cause) :
    failure? (before ++ e :: after) = some cause := by
  -- nothing before failed, so the search gets to `e`
  rw [failure?_append, none_yet, Option.none_or, failure?, List.findSome?_cons, met]

/-- An exchange that failed is not among exchanges that were all granted. -/
theorem nothing_between {before more after after' : List (Exchange B)} {e e' : Exchange B}
    (rest : e :: after = more ++ e' :: after') (none_yet : failure? (before ++ more) = none)
    (met : e.fault?.isSome = true) : more = [] := by
  cases more with
  | nil => rfl
  | cons first more =>
    obtain ⟨rfl, -⟩ := List.cons_eq_cons.1 rest
    rw [failure?, List.findSome?_eq_none_iff] at none_yet
    rw [none_yet e (by simp)] at met
    cases met

/-- Only one exchange can be the first that failed. -/
theorem first_unique {before after before' after' : List (Exchange B)} {e e' : Exchange B}
    (split : before ++ e :: after = before' ++ e' :: after') (none_yet : failure? before = none)
    (met : e.fault?.isSome = true) (none_yet' : failure? before' = none)
    (met' : e'.fault?.isSome = true) : before = before' ∧ e = e' ∧ after = after' := by
  -- one of the two beginnings goes on as the other, and what it has more is nothing
  rcases List.append_eq_append_iff.1 split with ⟨more, rfl, rest⟩ | ⟨more, rfl, rest⟩
  · obtain rfl := nothing_between rest none_yet' met
    obtain ⟨rfl, rfl⟩ := List.cons_eq_cons.1 rest
    exact ⟨(List.append_nil _).symm, rfl, rfl⟩
  · obtain rfl := nothing_between rest none_yet met'
    obtain ⟨rfl, rfl⟩ := List.cons_eq_cons.1 rest
    exact ⟨List.append_nil _, rfl, rfl⟩

namespace Upload

/-! ## The shapes of a history -/

/-- The requests of an upload that is neither committed nor failed: all were granted, none of them
published or aborted anything, and the upload was opened once if it has an id. -/
structure Underway (seen : List (Exchange B)) (id : Option Value) : Prop where
  granted : failure? seen = none
  unpublished : ∀ e ∈ seen, publishing e.request = false
  unaborted : ∀ e ∈ seen, e.isAbort = false
  obtained : S3.obtained seen = id.toList
  creations : seen.countP Exchange.isCreation = id.toList.length

/-- The request that commits an upload: a put, or the completion under its id. -/
def Commits (bucket key : String) : Option Value → Request B → Prop
  | none, r => ∃ body, r = .putObject bucket key body
  | some id, r => ∃ parts, r = .completeUpload bucket key id parts

/-- The requests of an upload that is committed: the last one commits it. -/
def Committed (bucket key : String) (seen : List (Exchange B)) : Prop :=
  ∃ before e id, seen = before ++ [e] ∧ Underway before id ∧ Commits bucket key id e.request ∧
    e.fault? = none

/-- The requests of an upload that has failed: one of them failed, and after it the upload was
aborted if it had an id. -/
def Stopped (bucket key : String) (seen : List (Exchange B)) : Prop :=
  ∃ before e after id, seen = before ++ e :: after ∧ Underway before id ∧ e.fault?.isSome = true ∧
    e.isAbort = false ∧ (e.isCreation = true → id = none) ∧
    after.map Exchange.request = id.toList.map (.abortUpload bucket key)

/-- How far an upload is, by its requests. -/
inductive Course (u : Upload) (seen : List (Exchange B)) : Prop
  | underway (live : u.live = true) (trace : Underway seen u.uploadId)
  | committed (done : u.committed = true) (trace : Committed u.bucket u.key seen)
  | failed (dead : u.failed = true) (trace : Stopped u.bucket u.key seen)

/-- A step that fails tells the first failure of all, as a failure of the system. -/
def Tells (path : String) (seen : List (Exchange B)) (fault : Fault) : Prop :=
  (failure? seen).map (asSystemFault path) = some fault

section
variable {seen : List (Exchange B)} {bucket key : String}

theorem Underway.fresh : Underway ([] : List (Exchange B)) none :=
  ⟨rfl, by simp, by simp, rfl, rfl⟩

/-- One more request that is granted and neither publishes nor aborts anything. -/
theorem Underway.concat {before now : Option Value} {e : Exchange B} (h : Underway seen before)
    (good : e.fault? = none) (unpublished : publishing e.request = false)
    (unaborted : e.isAbort = false) (ids : before.toList ++ e.opened?.toList = now.toList)
    (count : before.toList.length + [e].countP Exchange.isCreation = now.toList.length) :
    Underway (seen ++ [e]) now where
  granted := by
    rw [failure?_append, h.granted, Option.none_or, failure?, List.findSome?_singleton, good]
  unpublished := List.forall_mem_append.2 ⟨h.unpublished, List.forall_mem_singleton.2 unpublished⟩
  unaborted := List.forall_mem_append.2 ⟨h.unaborted, List.forall_mem_singleton.2 unaborted⟩
  obtained := by
    have last : S3.obtained [e] = e.opened?.toList := by
      unfold S3.obtained
      cases opened : e.opened? <;> simp [opened]
    rw [obtained_append, h.obtained, last, ids]
  creations := by rw [List.countP_append, h.creations, count]

/-- The upload is opened. -/
theorem Underway.opened (h : Underway seen none) (id : Value) :
    Underway (seen ++ [⟨.createUpload bucket key, .ok (some id)⟩]) (some id) :=
  h.concat rfl rfl rfl rfl rfl

/-- One more part is sent. -/
theorem Underway.sent {opened : Option Value} (h : Underway seen opened) (id tag : Value)
    (number : Nat) (body : ByteArray) :
    Underway (seen ++ [⟨.uploadPart bucket key id number body, .ok (some tag)⟩]) opened :=
  h.concat rfl rfl rfl (List.append_nil _) rfl

/-- The first request that failed, right after those that were granted. -/
structure Broken (path : String) (id : Option Value) (seen : List (Exchange B)) (fault : Fault) :
    Prop where
  trace : ∃ before e, seen = before ++ [e] ∧ Underway before id ∧ e.fault?.isSome = true ∧
    e.isAbort = false ∧ (e.isCreation = true → id = none)
  tells : Tells path seen fault
  system : fault.isSystem = true

theorem Underway.broken {id : Option Value} (h : Underway seen id) (path : String) {r : Request B}
    {cause : Fault} (client : cause.isClient = true)
    (no_abort : Exchange.isAbort ⟨r, .error cause⟩ = false)
    (first : Exchange.isCreation ⟨r, .error cause⟩ = true → id = none) :
    Broken path id (seen ++ [⟨r, .error cause⟩]) (asSystemFault path cause) where
  trace := ⟨seen, _, rfl, h, rfl, no_abort, first⟩
  tells := by
    have met : (⟨r, .error cause⟩ : Exchange B).fault? = some cause := rfl
    rw [Tells, failure?_of_first h.granted met, Option.map_some]
  system := isSystem_asSystemFault path client

end

/-- The upload of the same object, which is closed if it was. -/
structure SamePlace (u u' : Upload) : Prop where
  bucket : u'.bucket = u.bucket
  key : u'.key = u.key
  closed : u'.closed = u.closed

theorem SamePlace.refl (u : Upload) : u.SamePlace u := ⟨rfl, rfl, rfl⟩

theorem SamePlace.trans {u u' u'' : Upload} (h : u.SamePlace u') (h' : u'.SamePlace u'') :
    u.SamePlace u'' :=
  ⟨h'.bucket.trans h.bucket, h'.key.trans h.key, h'.closed.trans h.closed⟩

theorem SamePlace.path {u u' : Upload} (h : u.SamePlace u') : u'.path = u.path := by
  rw [Upload.path, Upload.path, h.bucket, h.key]

/-! ## Steps -/

variable {u : Upload} {seen : List (Exchange B)}

/-- Anything may be asked of a client that answers properly. -/
abbrev proper (B : Type) : Surroundings (effects B) (List (Exchange B)) :=
  history Exchange.Proper fun _ _ => True

/-- A request, which is granted or meets a failure of a client. -/
theorem ends_ask_proper {path : String} {r : Request B}
    {goal : Except Fault r.Reply → List (Exchange B) → Prop}
    (fails : ∀ cause, cause.isClient = true →
      goal (.error (asSystemFault path cause)) (seen ++ [⟨r, .error cause⟩]))
    (succeeds : ∀ value, Exchange.Granted ⟨r, .ok value⟩ →
      goal (.ok value) (seen ++ [⟨r, .ok value⟩])) :
    (ask path r).Ends (proper B) goal seen := by
  apply ends_ask_service
  · intro _
    trivial
  · intro reply answered
    rcases answered.cases with ⟨cause, rfl, client⟩ | ⟨granted, value, rfl⟩
    · exact fails cause client
    · exact succeeds value granted

/-- An upload that gave up with a failure: it stays failed, and its requests ended there. -/
structure GaveUp (u u' : Upload) (seen' : List (Exchange B)) (fault : Fault) : Prop where
  place : u.SamePlace u'
  dead : u'.failed = true
  trace : Stopped u.bucket u.key seen'
  tells : Tells u.path seen' fault

/-- How a step of an upload under way ends: it succeeds, or the upload gives up. -/
def Proceeds (u : Upload) (well : Upload → List (Exchange B) → Prop)
    (r : Upload × Except Fault α) (seen' : List (Exchange B)) : Prop :=
  match r.2 with
  | .ok _ => well r.1 seen'
  | .error fault => u.GaveUp r.1 seen' fault

/-- The upload is still under way. -/
structure GoesOnUnderway (u u' : Upload) (seen' : List (Exchange B)) : Prop where
  place : u.SamePlace u'
  live : u'.live = u.live
  trace : Underway seen' u'.uploadId

/-- The upload is committed. -/
structure IsCommitted (u u' : Upload) (seen' : List (Exchange B)) : Prop where
  place : u.SamePlace u'
  done : u'.committed = true
  trace : Committed u.bucket u.key seen'

theorem GaveUp.of_place {u u' u'' : Upload} {seen' : List (Exchange B)} {fault : Fault}
    (same : u.SamePlace u') (h : u'.GaveUp u'' seen' fault) : u.GaveUp u'' seen' fault where
  place := same.trans h.place
  dead := h.dead
  trace := by
    rw [← same.bucket, ← same.key]
    exact h.trace
  tells := by
    rw [← same.path]
    exact h.tells

/-- A step of the upload of the same object is a step of the upload. -/
theorem Proceeds.of_place {u u' : Upload} {well well' : Upload → List (Exchange B) → Prop}
    (same : u.SamePlace u') (succeeds : ∀ v seen', well v seen' → well' v seen')
    {r : Upload × Except Fault α} {seen' : List (Exchange B)} (h : u'.Proceeds well r seen') :
    u.Proceeds well' r seen' := by
  obtain ⟨v, result⟩ := r
  cases result with
  | ok _ => exact succeeds v seen' h
  | error fault => exact GaveUp.of_place same h

theorem GoesOnUnderway.of_place {u u' v : Upload} {seen' : List (Exchange B)}
    (same : u.GoesOnUnderway u' seen) (h : u'.GoesOnUnderway v seen') :
    u.GoesOnUnderway v seen' :=
  ⟨same.place.trans h.place, h.live.trans same.live, h.trace⟩

theorem IsCommitted.of_place {u u' v : Upload} {seen' : List (Exchange B)} (same : u.SamePlace u')
    (h : u'.IsCommitted v seen') : u.IsCommitted v seen' where
  place := same.trans h.place
  done := h.done
  trace := by
    rw [← same.bucket, ← same.key]
    exact h.trace

/-- The abort of an upload under an id is one request, and its own failure is not told. -/
theorem abort_request (u : Upload) (seen : List (Exchange B)) :
    (abort u).Ends (proper B)
      (fun r seen' => r = ({ u with uploadId := none }, .ok ()) ∧
        ∃ after, seen' = seen ++ after ∧
          after.map Exchange.request = u.uploadId.toList.map (.abortUpload u.bucket u.key)) seen := by
  unfold abort
  cases opened : u.uploadId with
  | none =>
    refine ⟨?_, [], by simp, rfl⟩
    rw [← opened]
  | some id =>
    refine (Prog.ends_bind _ _ _ _).2 (ends_ask_proper ?_ ?_)
    · intro cause client
      -- a failed abort is one entry in the log, and the step ends well
      dsimp only
      rw [if_pos (isSystem_asSystemFault _ client)]
      exact (Prog.ends_bind _ _ _ _).2 (ends_log ⟨rfl, _, rfl, rfl⟩)
    · intro value _
      exact ⟨rfl, _, rfl, rfl⟩

/-- A step that met the first failure gives the upload up, with an abort. -/
theorem fail_gives_up {start : Upload} {well : Upload → List (Exchange B) → Prop} {fault : Fault}
    (same : start.SamePlace u) (h : Broken u.path u.uploadId seen fault) :
    (fail (α := α) u fault).Ends (proper B) (start.Proceeds well) seen := by
  unfold fail
  rw [if_pos h.system]
  refine (abort_request { u with failed := true } seen).bind fun r seen' done => ?_
  obtain ⟨rfl, after, rfl, aborts⟩ := done
  obtain ⟨before, e, rfl, underway, met, first⟩ := h.trace
  refine GaveUp.of_place same ⟨⟨rfl, rfl, rfl⟩, rfl,
    ⟨before, e, after, u.uploadId, by simp, underway, met, first.1, first.2, aborts⟩, ?_⟩
  -- the abort comes behind the failure, so the first failure stays the one that is told
  have told := h.tells
  rw [Tells, failure?_append, underway.granted, Option.none_or] at told
  rw [Tells, failure?_append, failure?_append, underway.granted, Option.none_or]
  cases cause : failure? [e] with
  | none =>
    rw [cause] at told
    cases told
  | some cause' =>
    rw [cause] at told
    exact told

/-! ## Sending parts -/

/-- The upload in parts is opened once, or the first failure is met. -/
theorem openParts_proceeds (underway : Underway seen u.uploadId) :
    (openParts u).Ends (proper B) (fun r seen' =>
      match r.2 with
      | .ok id => r.1 = { u with uploadId := some id } ∧ Underway seen' (some id)
      | .error fault => r.1 = u ∧ Broken u.path u.uploadId seen' fault) seen := by
  unfold openParts
  cases opened : u.uploadId with
  | some id =>
    rw [opened] at underway
    refine ⟨?_, underway⟩
    rw [← opened]
  | none =>
    rw [opened] at underway
    refine (Prog.ends_bind _ _ _ _).2 (ends_ask_proper ?_ ?_)
    · intro cause client
      exact ⟨rfl, underway.broken u.path client rfl fun _ => rfl⟩
    · rintro value ⟨id, not_null, told⟩
      cases told
      dsimp only
      rw [idOf_of_given not_null]
      exact ⟨rfl, underway.opened id⟩

/-- A part is sent, or the first failure is met. -/
theorem addPart_proceeds {opened : Option Value} (underway : Underway seen opened) (id : Value)
    (chunk : ByteArray) :
    (addPart u id chunk).Ends (proper B) (fun r seen' =>
      match r.2 with
      | .ok _ => r.1 = { u with tags := r.1.tags } ∧ Underway seen' opened
      | .error fault => r.1 = u ∧ Broken u.path opened seen' fault) seen := by
  unfold addPart
  refine (Prog.ends_bind _ _ _ _).2 (ends_ask_proper ?_ ?_)
  · intro cause client
    exact ⟨rfl, underway.broken u.path client rfl nofun⟩
  · rintro value ⟨tag, told⟩
    cases told
    exact ⟨rfl, underway.sent id tag _ chunk⟩

/-- A chunk is sent as a part, or the upload gives up. -/
theorem sendPart_proceeds (underway : Underway seen u.uploadId) (chunk : ByteArray) :
    (sendPart u chunk).Ends (proper B) (u.Proceeds u.GoesOnUnderway) seen := by
  unfold sendPart
  refine (openParts_proceeds underway).bind fun r seen h => ?_
  obtain ⟨u₁, opened⟩ := r
  cases opened with
  | error fault =>
    obtain ⟨rfl, broken⟩ := h
    -- no id was obtained, so there is nothing to abort
    exact fail_gives_up (.refl _) broken
  | ok id =>
    obtain ⟨rfl, underway⟩ := h
    refine (addPart_proceeds underway id chunk).bind fun r seen h => ?_
    obtain ⟨u₂, added⟩ := r
    cases added with
    | error fault =>
      obtain ⟨rfl, broken⟩ := h
      exact fail_gives_up ⟨rfl, rfl, rfl⟩ broken
    | ok _ =>
      obtain ⟨tagged, underway⟩ := h
      dsimp only at tagged
      rw [tagged]
      exact ⟨⟨rfl, rfl, rfl⟩, rfl, underway⟩

/-- Whole parts are sent, or the upload gives up. -/
theorem sendWholeParts_proceeds (limit : Nat) (underway : Underway seen u.uploadId) :
    (sendWholeParts u limit).Ends (proper B) (u.Proceeds u.GoesOnUnderway) seen := by
  induction limit generalizing u seen with
  | zero => exact ⟨.refl u, rfl, underway⟩
  | succ limit ih =>
    unfold sendWholeParts
    split
    · exact ⟨.refl u, rfl, underway⟩
    · have shrunk : u.SamePlace { u with buffer := u.buffer.extract u.partSize u.buffer.size } :=
        ⟨rfl, rfl, rfl⟩
      refine (sendPart_proceeds (u := { u with buffer := u.buffer.extract u.partSize u.buffer.size })
        underway _).bind fun r seen h => ?_
      obtain ⟨u', sent⟩ := r
      cases sent with
      | error fault => exact GaveUp.of_place shrunk h
      | ok _ =>
        -- the rest of the parts are sent by the upload as it is now, which is still the same upload
        have goes_on : u.GoesOnUnderway u' seen := ⟨shrunk.trans h.place, h.live, h.trace⟩
        apply (ih h.trace).mono
        exact fun _ _ => Proceeds.of_place goes_on.place fun _ _ => goes_on.of_place

/-! ## Committing -/

/-- The rest is sent if there are parts, or the upload gives up. -/
theorem sendRest_proceeds (underway : Underway seen u.uploadId) :
    (sendRest u).Ends (proper B) (u.Proceeds u.GoesOnUnderway) seen := by
  unfold sendRest
  split
  · exact sendPart_proceeds underway u.buffer
  · exact ⟨.refl u, rfl, underway⟩

/-- The last request commits the upload, or the upload gives up. -/
theorem publish_proceeds (underway : Underway seen u.uploadId) :
    (publish u).Ends (proper B) (u.Proceeds u.IsCommitted) seen := by
  unfold publish
  cases opened : u.uploadId with
  | none =>
    rw [opened] at underway
    refine (Prog.ends_bind _ _ _ _).2 (ends_ask_proper ?_ ?_)
    · intro cause client
      refine fail_gives_up (.refl _) ?_
      rw [opened]
      exact underway.broken u.path client rfl nofun
    · intro value _
      exact ⟨⟨rfl, rfl, rfl⟩, rfl, seen, _, none, rfl, underway, ⟨u.buffer, rfl⟩, rfl⟩
  | some id =>
    rw [opened] at underway
    refine (Prog.ends_bind _ _ _ _).2 (ends_ask_proper ?_ ?_)
    · intro cause client
      refine fail_gives_up (.refl _) ?_
      rw [opened]
      exact underway.broken u.path client rfl nofun
    · intro value _
      exact ⟨⟨rfl, rfl, rfl⟩, rfl, seen, _, some id, rfl, underway, ⟨u.parts, rfl⟩, rfl⟩

/-- A commit commits the upload, or the upload gives up. -/
theorem commit_proceeds (underway : Underway seen u.uploadId) :
    (commit u).Ends (proper B) (u.Proceeds u.IsCommitted) seen := by
  unfold commit
  refine (sendRest_proceeds underway).bind fun r seen h => ?_
  obtain ⟨u', sent⟩ := r
  cases sent with
  | error fault => exact h
  | ok _ =>
    apply (publish_proceeds h.trace).mono
    exact fun _ _ => Proceeds.of_place h.place fun _ _ => IsCommitted.of_place h.place

end Upload
end S3
end Storage
end StoreMeter
