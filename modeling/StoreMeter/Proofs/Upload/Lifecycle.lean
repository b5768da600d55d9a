import StoreMeter.Proofs.Upload.Course
/-
# Proofs.Upload.Lifecycle — the life of an upload, from its opening to its end

Any calls may be made on an upload, also after a failure, after a commit and after the close.  Each
of them keeps the course of the upload (`Kept`), so the requests of all calls together have the shape
of one life.  `lifecycle` reads off what that means: one commit at most, one opening at most, an
abort after the first failure and nothing else, and no upload left open by a close.
-/
namespace StoreMeter
namespace Storage
namespace S3
namespace Upload

variable {B σ α : Type} {u : Upload} {seen : List (Exchange B)}

/-! ## One call -/

theorem Committed.granted {bucket key : String} (h : Committed bucket key seen) :
    failure? seen = none := by
  obtain ⟨before, e, id, rfl, underway, -, good⟩ := h
  rw [failure?_append, underway.granted, Option.none_or, failure?, List.findSome?_singleton, good]

theorem Course.place {u' : Upload} (same : u'.bucket = u.bucket ∧ u'.key = u.key)
    (flags : u'.committed = u.committed ∧ u'.failed = u.failed) (id : u'.uploadId = u.uploadId)
    (h : u.Course seen) : u'.Course seen := by
  cases h with
  | underway live trace =>
    refine .underway ?_ (id ▸ trace)
    rw [Upload.live, flags.1, flags.2]
    exact live
  | committed done trace => exact .committed (flags.1.trans done) (by rwa [same.1, same.2])
  | failed dead trace => exact .failed (flags.2.trans dead) (by rwa [same.1, same.2])

/-- What the requests of an upload say about it: its course, and that nothing can be committed any
more once it is closed. -/
structure Kept (bucket key : String) (u : Upload) (seen : List (Exchange B)) : Prop where
  bucket : u.bucket = bucket
  key : u.key = key
  course : u.Course seen
  shut : u.closed = true → u.live = false

/-- How a round ends: it returns if all was granted, it tells the first failure that it met, or it is
a write that is refused before anything is asked. -/
inductive Told (path : String) (round : Round B) : Prop
  | returned (granted : failure? round.exchanges = none) (result : round.result = .ok ())
  | failed (cause : Fault) (met : failure? round.exchanges = some cause)
      (result : round.result = .error (asSystemFault path cause))
  | refused (write : round.call.isWrite = true) (silent : round.exchanges = [])
      (result : round.result = .error (.value s!"Write to committed or failed S3 object {path}"))

/-- What a call adds to the requests, and what it leaves of the upload. -/
structure Adds (bucket key : String) (u : Upload) (seen : List (Exchange B)) (call : Call)
    (r : Upload × Except Fault Unit) (seen' : List (Exchange B)) : Prop where
  kept : Kept bucket key r.1 seen'
  closed : (u.closed = true ∨ call = .close) → r.1.closed = true
  told : ∃ own, seen' = seen ++ own ∧ Told s!"s3://{bucket}/{key}" ⟨call, own, r.2⟩ ∧
    (u.closed = true → own = [])

section
variable {bucket key : String}

/-- A call that asks nothing and leaves the upload as it is. -/
theorem Adds.quiet (kept : Kept bucket key u seen) {call : Call} {result : Except Fault Unit}
    (closed : call = .close → u.closed = true)
    (told : Told s!"s3://{bucket}/{key}" (⟨call, [], result⟩ : Round B)) :
    Adds bucket key u seen call (u, result) seen where
  kept := kept
  closed := fun h => h.elim id closed
  told := ⟨[], (List.append_nil seen).symm, told, fun _ => rfl⟩

/-- What a step of an upload under way tells, against the requests before. -/
theorem Proceeds.told {well : Upload → List (Exchange B) → Prop} {own : List (Exchange B)}
    {r : Upload × Except Fault Unit} {call : Call} (fresh : failure? seen = none)
    (granted : ∀ v seen', well v seen' → failure? seen' = none)
    (h : u.Proceeds well r (seen ++ own)) : Told u.path (⟨call, own, r.2⟩ : Round B) := by
  obtain ⟨v, result⟩ := r
  cases result with
  | ok _ =>
    -- `own` are the exchanges of this call alone: what came before them met no failure
    have all := granted v _ h
    rw [failure?_append, fresh, Option.none_or] at all
    exact .returned all rfl
  | error fault =>
    have tells : Tells u.path (seen ++ own) fault := GaveUp.tells h
    rw [Tells, failure?_append, fresh, Option.none_or] at tells
    obtain ⟨cause, met, same⟩ := Option.map_eq_some_iff.1 tells
    exact .failed cause met (congrArg Except.error same.symm)

theorem GaveUp.kept {u' : Upload} {fault : Fault} (place : u.bucket = bucket ∧ u.key = key)
    (h : u.GaveUp u' seen fault) : Kept bucket key u' seen where
  bucket := h.place.bucket.trans place.1
  key := h.place.key.trans place.2
  course := .failed h.dead (by rw [h.place.bucket, h.place.key]; exact h.trace)
  shut := fun _ => by simp [Upload.live, h.dead]

/-- A write to an upload under way. -/
theorem write_proceeds (live : u.live = true) (opened : u.closed = false)
    (underway : Underway seen u.uploadId) (data : ByteArray) :
    ((Call.write data).run u).Ends (proper B) (u.Proceeds u.GoesOnUnderway) seen := by
  rw [run_write live opened]
  have filled : u.SamePlace { u with buffer := u.buffer ++ data } := ⟨rfl, rfl, rfl⟩
  apply (sendWholeParts_proceeds (u := { u with buffer := u.buffer ++ data }) _ underway).mono
  exact fun _ _ => Proceeds.of_place filled fun _ _ h => ⟨filled.trans h.place, h.live, h.trace⟩

theorem write_adds (kept : Kept bucket key u seen) (data : ByteArray) :
    ((Call.write data).run u).Ends (proper B) (Adds bucket key u seen (.write data)) seen := by
  by_cases shut : u.live = false ∨ u.closed = true
  · rw [run_write_shut shut]
    refine Adds.quiet kept (fun close => by cases close) (.refused rfl rfl ?_)
    rw [← kept.bucket, ← kept.key]
    rfl
  · obtain ⟨live, opened⟩ := not_or.1 shut
    simp only [Bool.not_eq_false, Bool.not_eq_true] at live opened
    cases kept.course with
    | committed done _ => simp [Upload.live, done] at live
    | failed dead _ => simp [Upload.live, dead] at live
    | underway _ trace =>
      refine (Ends.grows (write_proceeds live opened trace data)).mono fun r seen' h => ?_
      obtain ⟨h, own, rfl⟩ := h
      have told : Told u.path ⟨.write data, own, r.2⟩ :=
        Proceeds.told trace.granted (fun _ _ done => done.trace.granted) h
      rw [Upload.path, kept.bucket, kept.key] at told
      refine ⟨?_, by simp [opened], own, rfl, told, by simp [opened]⟩
      obtain ⟨u', result⟩ := r
      cases result with
      | error fault => exact GaveUp.kept ⟨kept.bucket, kept.key⟩ h
      | ok _ =>
        refine ⟨h.place.bucket.trans kept.bucket, h.place.key.trans kept.key,
          .underway (h.live.trans live) h.trace, fun closed => ?_⟩
        rw [h.place.closed, opened] at closed
        cases closed

/-- A flush, or the commit in a close, after which nothing can be committed any more. -/
theorem flush_settles (kept : Kept bucket key u seen) (call : Call) :
    (flush u).Ends (proper B) (fun r seen' =>
      Kept bucket key r.1 seen' ∧ r.1.live = false ∧ r.1.closed = u.closed ∧
        ∃ own, seen' = seen ++ own ∧ Told s!"s3://{bucket}/{key}" ⟨call, own, r.2⟩ ∧
          (u.live = false → own = [])) seen := by
  cases alive : u.live with
  | false =>
    rw [flush_quiet alive]
    exact ⟨kept, alive, rfl, [], (List.append_nil seen).symm, .returned rfl rfl, fun _ => rfl⟩
  | true =>
    -- a live upload is under way, by its flags
    cases kept.course with
    | committed done _ => simp [Upload.live, done] at alive
    | failed dead _ => simp [Upload.live, dead] at alive
    | underway _ trace =>
      rw [flush_live alive]
      refine (Ends.grows (commit_proceeds trace)).mono fun r seen' h => ?_
      obtain ⟨h, own, rfl⟩ := h
      have told : Told u.path ⟨call, own, r.2⟩ :=
        Proceeds.told trace.granted (fun _ _ done => done.trace.granted) h
      rw [Upload.path, kept.bucket, kept.key] at told
      obtain ⟨u', result⟩ := r
      cases result with
      | error fault =>
        have gave_up : u.GaveUp u' (seen ++ own) fault := h
        exact ⟨gave_up.kept ⟨kept.bucket, kept.key⟩, by simp [Upload.live, gave_up.dead],
          gave_up.place.closed, own, rfl, told, fun quiet => absurd quiet (by decide)⟩
      | ok _ =>
        obtain ⟨place, done, committed⟩ := h
        dsimp only at place done
        have dead : u'.live = false := by simp [Upload.live, done]
        have course : u'.Course (seen ++ own) := by
          refine .committed done ?_
          rw [place.bucket, place.key]
          exact committed
        exact ⟨⟨place.bucket.trans kept.bucket, place.key.trans kept.key, course, fun _ => dead⟩,
          dead, place.closed, own, rfl, told, fun quiet => absurd quiet (by decide)⟩

theorem flush_adds (kept : Kept bucket key u seen) :
    (Call.flush.run u).Ends (proper B) (Adds bucket key u seen .flush) seen := by
  refine (flush_settles kept .flush).mono fun r seen' h => ?_
  obtain ⟨kept', -, closed, own, same, told, silent⟩ := h
  exact ⟨kept', fun h => closed.trans (h.resolve_right nofun), own, same, told,
    fun shut => silent (kept.shut shut)⟩

theorem close_adds (kept : Kept bucket key u seen) :
    (Call.close.run u).Ends (proper B) (Adds bucket key u seen .close) seen := by
  dsimp only [Call.run, close]
  split
  · rename_i closed
    exact Adds.quiet kept (fun _ => closed) (.returned rfl rfl)
  · rename_i opened
    refine (flush_settles kept .close).bind fun r seen' h => ?_
    obtain ⟨kept', dead, -, own, same, told, -⟩ := h
    refine ⟨⟨kept'.bucket, kept'.key, ?_, fun _ => dead⟩, fun _ => rfl, own, same, told,
      fun closed => absurd closed opened⟩
    exact Course.place (u := r.1) ⟨rfl, rfl⟩ ⟨rfl, rfl⟩ rfl kept'.course

/-- Every call keeps the course of the upload. -/
theorem call_adds (kept : Kept bucket key u seen) (call : Call) :
    (call.run u).Ends (proper B) (Adds bucket key u seen call) seen := by
  cases call with
  | write data => exact write_adds kept data
  | flush => exact flush_adds kept
  | close => exact close_adds kept

/-! ## All calls -/

/-- The requests of an upload that has come to its end. -/
def Ended (bucket key : String) (seen : List (Exchange B)) : Prop :=
  Committed bucket key seen ∨ Stopped bucket key seen

theorem Kept.ended (kept : Kept bucket key u seen) (closed : u.closed = true) :
    Ended bucket key seen := by
  obtain ⟨rfl, rfl, course, shut⟩ := kept
  cases course with
  | underway live _ =>
    rw [shut closed] at live
    cases live
  | committed _ trace => exact .inl trace
  | failed _ trace => exact .inr trace

/-- The calls keep the course of the upload; each of them tells what it met, the upload has come to
its end when it is closed, and a closed upload asks nothing. -/
theorem play_keeps (service : Service B σ) (complete : service.Proper) (calls : List Call) :
    ∀ (u : Upload) (s : σ) (past : List (Round B)), Kept bucket key u (exchanges past) →
      ∃ u' s' rounds, play service u s calls = (u', s', rounds) ∧
        Kept bucket key u' (exchanges (past ++ rounds)) ∧
        (u.closed = true → exchanges rounds = []) ∧
        ∀ before round after, rounds = before ++ round :: after →
          Told s!"s3://{bucket}/{key}" round ∧
          (round.call = .close →
            Ended bucket key (exchanges (past ++ before ++ [round])) ∧ exchanges after = []) := by
  -- on the calls, for every upload that keeps its course so far
  induction calls with
  | nil =>
    intro u s past kept
    refine ⟨u, s, [], rfl, by simpa using kept, fun _ => rfl, ?_⟩
    intro before round after split
    simp at split
  | cons call calls ih =>
    intro u s past kept
    obtain ⟨u₁, s₁, own, result, played, adds, -⟩ :=
      playCall_holds service complete (s := s) (call_adds kept call)
    -- what the call added to the record is what its round keeps
    obtain ⟨own', same, told, silent⟩ := adds.told
    rw [exchanges_concat, List.append_cancel_left_eq] at same
    obtain rfl : own = own' := same
    obtain ⟨u₂, s₂, rounds, later, kept', quiet, each⟩ := ih u₁ s₁ _ adds.kept
    refine ⟨u₂, s₂, ⟨call, own, result⟩ :: rounds, ?_, by simpa using kept', ?_, ?_⟩
    · rw [play, played]
      dsimp only
      rw [later]
    · intro closed
      have none_now : own = [] := silent closed
      have none_later : exchanges rounds = [] := quiet (adds.closed (.inl closed))
      simpa [exchanges, none_now] using none_later
    · intro before round after split
      -- the round is that of the first call, or one of the later ones
      cases before with
      | nil =>
        obtain ⟨rfl, rfl⟩ := List.cons_eq_cons.1 split
        refine ⟨told, fun is_close => ?_⟩
        have closed : u₁.closed = true := adds.closed (.inr is_close)
        rw [List.append_nil]
        exact ⟨adds.kept.ended closed, quiet closed⟩
      | cons first before =>
        obtain ⟨rfl, later_split⟩ := List.cons_eq_cons.1 split
        have found := each before round after later_split
        rw [List.append_assoc past, List.singleton_append] at found
        exact found

end

/-! ## What the course says -/

section
variable {bucket key : String} {e : Exchange B}

/-- A request that failed has published nothing. -/
theorem published_of_fault (met : e.fault?.isSome = true) : e.published = false := by
  obtain ⟨request, reply⟩ := e
  cases reply with
  | error fault => exact Bool.and_false _
  | ok value => cases met

/-- A request that failed has obtained no id. -/
theorem opened_of_fault (met : e.fault?.isSome = true) : e.opened? = none := by
  obtain ⟨request, reply⟩ := e
  cases reply with
  | error fault => cases request <;> rfl
  | ok value => cases met

/-- The requests behind a failure are aborts. -/
theorem aborts_of_map {after : List (Exchange B)} {ids : List Value}
    (h : after.map Exchange.request = ids.map (.abortUpload bucket key)) :
    ∀ a ∈ after, ∃ id reply, a = ⟨.abortUpload bucket key id, reply⟩ := by
  rintro ⟨request, reply⟩ member
  have mapped : request ∈ ids.map (.abortUpload bucket key) := h ▸ List.mem_map.2 ⟨_, member, rfl⟩
  obtain ⟨id, -, rfl⟩ := List.mem_map.1 mapped
  exact ⟨id, reply, rfl⟩

/-- The request of a commit opens and aborts nothing. -/
theorem Commits.cases {id : Option Value} (h : Commits bucket key id e.request) :
    e.isCreation = false ∧ e.isAbort = false ∧ e.opened? = none ∧ publishing e.request = true := by
  obtain ⟨request, reply⟩ := e
  cases id with
  | none =>
    obtain ⟨body, rfl⟩ := h
    exact ⟨rfl, rfl, rfl, rfl⟩
  | some id =>
    obtain ⟨parts, rfl⟩ := h
    exact ⟨rfl, rfl, rfl, rfl⟩

theorem Underway.unshown {id : Option Value} (h : Underway seen id) :
    ∀ e ∈ seen, e.published = false := by
  intro e member
  rw [Exchange.published, h.unpublished e member, Bool.false_and]

theorem Stopped.unshown (h : Stopped bucket key seen) : ∀ e ∈ seen, e.published = false := by
  obtain ⟨before, failed, after, id, rfl, underway, met, -, -, aborts⟩ := h
  intro e member
  rcases List.mem_append.1 member with there | there
  · exact underway.unshown e there
  · rcases List.mem_cons.1 there with rfl | there
    · exact published_of_fault met
    · obtain ⟨id, reply, rfl⟩ := aborts_of_map aborts e there
      rfl

/-- Either nothing was published, or the last request of all has published. -/
theorem Kept.published (kept : Kept bucket key u seen) :
    (∀ e ∈ seen, e.published = false) ∨
      ∃ before e, seen = before ++ [e] ∧ ∀ e' ∈ before, e'.published = false := by
  cases kept.course with
  | underway _ trace => exact .inl trace.unshown
  | failed _ trace => exact .inl trace.unshown
  | committed _ trace =>
    obtain ⟨before, e, id, rfl, underway, -, -⟩ := trace
    exact .inr ⟨before, e, rfl, underway.unshown⟩

theorem countP_none {p : Exchange B → Bool} {l : List (Exchange B)} (h : ∀ e ∈ l, p e = false) :
    l.countP p = 0 := by
  rw [List.countP_eq_zero]
  intro e member
  simp [h e member]

theorem Kept.commits (kept : Kept bucket key u seen) : seen.countP Exchange.published ≤ 1 := by
  rcases kept.published with unshown | ⟨before, e, rfl, unshown⟩
  · rw [countP_none unshown]
    exact Nat.zero_le 1
  · rw [List.countP_append, countP_none unshown, Nat.zero_add]
    exact List.countP_le_length

theorem Kept.last (kept : Kept bucket key u seen) {before after : List (Exchange B)}
    (split : seen = before ++ e :: after) (shown : e.published = true) : after = [] := by
  subst split
  rcases kept.published with unshown | ⟨before', e', same, unshown⟩
  · rw [unshown e (by simp)] at shown
    cases shown
  · rcases List.eq_nil_or_concat after with rfl | ⟨more, final, rfl⟩
    · rfl
    -- an exchange behind `e` would be the last one, and `e` one of those that published nothing
    · have same : (before ++ e :: more) ++ [final] = before' ++ [e'] := by simpa using same
      obtain ⟨rfl, -⟩ := List.append_inj' same rfl
      rw [unshown e (by simp)] at shown
      cases shown

theorem toList_le_one (id : Option Value) : id.toList.length ≤ 1 := by
  cases id <;> simp

theorem Kept.creations (kept : Kept bucket key u seen) : seen.countP Exchange.isCreation ≤ 1 := by
  cases kept.course with
  | underway _ trace =>
    rw [trace.creations]
    exact toList_le_one _
  | committed _ trace =>
    obtain ⟨before, e, id, rfl, underway, commits, -⟩ := trace
    have last : [e].countP Exchange.isCreation = 0 := by simp [commits.cases.1]
    rw [List.countP_append, underway.creations, last]
    exact toList_le_one id
  | failed _ trace =>
    obtain ⟨before, e, after, id, rfl, underway, -, -, first, aborts⟩ := trace
    have no_more : after.countP Exchange.isCreation = 0 := by
      refine countP_none fun a member => ?_
      obtain ⟨id, reply, rfl⟩ := aborts_of_map aborts a member
      rfl
    rw [List.countP_append, underway.creations, List.countP_cons, no_more]
    -- the request that failed may be the opening itself, and then there was none before
    cases creates : e.isCreation with
    | true => simp [first creates]
    | false => simp [toList_le_one id]

theorem Kept.aborts (kept : Kept bucket key u seen) : seen.countP Exchange.isAbort ≤ 1 := by
  cases kept.course with
  | underway _ trace =>
    rw [countP_none trace.unaborted]
    exact Nat.zero_le 1
  | committed _ trace =>
    obtain ⟨before, e, id, rfl, underway, commits, -⟩ := trace
    have last : [e].countP Exchange.isAbort = 0 := by simp [commits.cases.2.1]
    rw [List.countP_append, countP_none underway.unaborted, last]
    exact Nat.zero_le 1
  | failed _ trace =>
    obtain ⟨before, e, after, id, rfl, underway, -, no_abort, -, aborts⟩ := trace
    have lengths := congrArg List.length aborts
    rw [List.length_map, List.length_map] at lengths
    have bound : after.countP Exchange.isAbort ≤ 1 :=
      Nat.le_trans List.countP_le_length (lengths ▸ toList_le_one id)
    rw [List.countP_append, countP_none underway.unaborted, List.countP_cons, no_abort]
    simpa using bound

theorem Kept.stops (kept : Kept bucket key u seen) {before after : List (Exchange B)}
    (split : seen = before ++ e :: after) (none_yet : failure? before = none)
    (met : e.fault?.isSome = true) :
    after.map Exchange.request = (S3.obtained before).map (.abortUpload bucket key) := by
  have failed : failure? seen ≠ none := by
    obtain ⟨cause, met⟩ := Option.isSome_iff_exists.1 met
    rw [split, failure?_of_first none_yet met]
    exact Option.some_ne_none cause
  obtain ⟨rfl, rfl, course, -⟩ := kept
  -- only a course that has failed holds a failure, and its first one is this one
  cases course with
  | underway _ trace => exact absurd trace.granted failed
  | committed _ trace => exact absurd trace.granted failed
  | failed _ trace =>
    obtain ⟨before', e', after', id, rfl, underway, met', -, -, aborts⟩ := trace
    obtain ⟨rfl, rfl, rfl⟩ := first_unique split underway.granted met' none_yet met
    rw [underway.obtained]
    exact aborts

/-- Did the exchange complete the upload under an id? -/
def Completes (bucket key : String) (id : Value) (e : Exchange B) : Prop :=
  e.published = true ∧ ∃ parts, e.request = .completeUpload bucket key id parts

/-- Is this an abort of the upload under an id? -/
def Abandons (bucket key : String) (id : Value) (e : Exchange B) : Prop :=
  e.request = .abortUpload bucket key id

theorem Ended.settled (h : Ended bucket key seen) {id : Value} (member : id ∈ S3.obtained seen) :
    (∃ e ∈ seen, Completes bucket key id e) ↔ ¬ ∃ e ∈ seen, Abandons bucket key id e := by
  rcases h with committed | stopped
  · obtain ⟨before, e, opened, rfl, underway, commits, good⟩ := committed
    have facts := commits.cases
    -- a commit obtains no id, so the id is the one that the upload was opened under
    have same : opened = some id := by
      have nothing : S3.obtained [e] = [] := by simp [S3.obtained, facts.2.2.1]
      rw [obtained_append, underway.obtained, nothing, List.append_nil] at member
      exact Option.mem_toList.1 member
    subst same
    have ok : e.reply.isOk = true := by
      obtain ⟨request, reply⟩ := e
      cases reply with
      | ok _ => rfl
      | error fault => cases good
    have shown : e.published = true := by rw [Exchange.published, facts.2.2.2, ok, Bool.and_true]
    refine iff_of_true ⟨e, by simp, shown, commits⟩ ?_
    rintro ⟨a, there, abandons⟩
    have is_abort : a.isAbort = true := by rw [Exchange.isAbort, show a.request = _ from abandons]
    rcases List.mem_append.1 there with there | there
    · rw [underway.unaborted a there] at is_abort
      cases is_abort
    · obtain rfl := List.mem_singleton.1 there
      rw [facts.2.1] at is_abort
      cases is_abort
  · refine iff_of_false ?_ ?_
    · rintro ⟨e, there, shown, -⟩
      rw [stopped.unshown e there] at shown
      cases shown
    · obtain ⟨before, e, after, opened, rfl, underway, met, -, -, aborts⟩ := stopped
      -- neither the request that failed nor an abort behind it obtains an id
      have same : opened = some id := by
        have nothing : S3.obtained (e :: after) = [] := by
          refine List.filterMap_eq_nil_iff.2 fun a there => ?_
          rcases List.mem_cons.1 there with rfl | there
          · exact opened_of_fault met
          · obtain ⟨id, reply, rfl⟩ := aborts_of_map aborts a there
            rfl
        rw [obtained_append, underway.obtained, nothing, List.append_nil] at member
        exact Option.mem_toList.1 member
      subst same
      obtain ⟨a, rfl, abandons⟩ := List.map_eq_singleton_iff.1 aborts
      exact not_not_intro ⟨a, by simp, abandons⟩

end

/-- The life of an upload. -/
structure Lifecycle (bucket key : String) (rounds : List (Round B)) : Prop where
  /-- At most one commit is granted. -/
  commits : (exchanges rounds).countP Exchange.published ≤ 1
  /-- Nothing is asked after it. -/
  last : ∀ before e after, exchanges rounds = before ++ e :: after → e.published = true → after = []
  /-- At most one upload in parts is asked for. -/
  creations : (exchanges rounds).countP Exchange.isCreation ≤ 1
  /-- After the first failure an abort follows for the id that was obtained, and nothing else. -/
  stops : ∀ before e after, exchanges rounds = before ++ e :: after → failure? before = none →
    e.fault?.isSome = true →
    after.map Exchange.request = (obtained before).map (.abortUpload bucket key)
  /-- There is no more than one abort. -/
  aborts : (exchanges rounds).countP Exchange.isAbort ≤ 1
  /-- A call that meets a failure tells the first one, and no other call fails but a refused write. -/
  told : ∀ round ∈ rounds, Told s!"s3://{bucket}/{key}" round
  /-- When the upload is closed, each id that was obtained is completed or sent to abort, and not
  both; and nothing is asked from then on. -/
  settled : ∀ before round after, rounds = before ++ round :: after → round.call = .close →
    (∀ id ∈ obtained (exchanges (before ++ [round])),
      ((∃ e ∈ exchanges (before ++ [round]), Completes bucket key id e) ↔
        ¬ ∃ e ∈ exchanges (before ++ [round]), Abandons bucket key id e)) ∧
    exchanges after = []

/-- Against a client that answers completely and fails as a client fails, the calls on an upload make
a life: one commit at most, one creation at most, an abort after the first failure and nothing else,
the first failure told, and nothing open or asked for after the close. -/
theorem lifecycle (service : Service B σ) (complete : service.Proper) (s : σ) (bucket key : String)
    (partSize : Nat) (calls : List Call) :
    Lifecycle bucket key (play service { bucket, key, partSize } s calls).2.2 := by
  have fresh : Kept bucket key { bucket, key, partSize } (exchanges ([] : List (Round B))) :=
    ⟨rfl, rfl, .underway rfl .fresh, nofun⟩
  obtain ⟨u, s', rounds, played, kept, -, each⟩ := play_keeps service complete calls _ s [] fresh
  rw [List.nil_append] at kept
  rw [played]
  refine ⟨kept.commits, fun _ _ _ => kept.last, kept.creations, fun _ _ _ => kept.stops, kept.aborts,
    ?_, ?_⟩
  · intro round member
    obtain ⟨before, after, split⟩ := List.append_of_mem member
    exact (each before round after split).1
  · intro before round after split is_close
    obtain ⟨ended, quiet⟩ := (each before round after split).2 is_close
    rw [List.nil_append] at ended
    exact ⟨fun id member => ended.settled member, quiet⟩

/-! ## A client that fails -/

/-- A client that follows a script: where it says so a request does not arrive, any other request is
granted. -/
def scripted : Service Unit (List Bool) where
  answer
    | _, true :: rest => (.error (.unreachable "http://localhost"), rest)
    | r, script => (((tagging (some (.text "tag"))).answer r ()).1, script.tail)
  id_given := by
    intro bucket key script h
    match script with
    | true :: rest => cases h
    | [] => exact (tagging (some (.text "tag"))).id_given bucket key () h
    | false :: rest => exact (tagging (some (.text "tag"))).id_given bucket key () h

theorem scripted_proper : scripted.Proper := by
  intro r script
  match script with
  | true :: rest => exact .inr ⟨_, rfl, rfl⟩
  | [] => exact .inl (tagging_grants _ r ())
  | false :: rest => exact .inl (tagging_grants _ r ())

/-- The rounds of a write of one whole part, a close whose completion fails as well as the abort
behind it, and a write after that. -/
def twiceFailing : List (Round Unit) :=
  (play scripted { bucket := "b", key := "k", partSize := 4 } [false, false, true, true]
    [.write fourBytes, .close, .write fourBytes]).2.2

/-- The upload was opened under an id, and the abort is the fourth request and the last one. -/
theorem lifecycle_twice_failing :
    scripted.Proper ∧ Lifecycle "b" "k" twiceFailing ∧
      obtained (exchanges twiceFailing) = [.text "upload"] ∧
      (exchanges twiceFailing).map Exchange.isAbort = [false, false, false, true] ∧
      twiceFailing.map (fun round => round.result.isOk) = [true, false, false] :=
  ⟨scripted_proper, lifecycle scripted scripted_proper [false, false, true, true] "b" "k" 4
    [.write fourBytes, .close, .write fourBytes], rfl, rfl, rfl⟩

end Upload
end S3
end Storage
end StoreMeter
