import StoreMeter.Proofs.Upload.Account
/-
# Proofs.Upload.Steps — the account after each step of an upload

One statement for each function of an upload, from the abort of an upload in parts to the call that
commits it.  All of them hold for every answer of the service.  They share their form: either the
upload has failed, or its account is told, with the bodies sent and the buffer that is left.
-/
namespace StoreMeter
namespace Storage
namespace S3
namespace Upload

variable {B : Type} {admitted : Exchange B → Prop} {due : List (Exchange B) → Request B → Prop}
variable {u : Upload} {seen : List (Exchange B)} {bodies : List ByteArray}

/-! ## Failing -/

/-- How a step of an upload ends: it succeeds, or a failure is told and the upload has failed for
good, or a failure is told and the upload goes on. -/
def Comes {α : Type} (well otherwise : Upload → List (Exchange B) → Prop)
    (r : Upload × Except Fault α) (seen' : List (Exchange B)) : Prop :=
  match r.2 with
  | .ok _ => well r.1 seen'
  | .error _ => r.1.failed = true ∨ otherwise r.1 seen'

theorem Comes.mono {α : Type} {well otherwise well' otherwise' : Upload → List (Exchange B) → Prop}
    (succeeds : ∀ u s, well u s → well' u s) (fails : ∀ u s, otherwise u s → otherwise' u s)
    {r : Upload × Except Fault α} {seen' : List (Exchange B)} (h : Comes well otherwise r seen') :
    Comes well' otherwise' r seen' := by
  obtain ⟨u, result⟩ := r
  cases result with
  | ok a => exact succeeds u seen' h
  | error fault => exact h.imp id (fails u seen')

/-- An abort leaves the flags of the upload as they are, whatever the service answers. -/
theorem abort_ends (u : Upload) (seen : List (Exchange B)) :
    (abort u).Ends (history admitted due) (fun r _ => r.1.failed = u.failed) seen := by
  unfold abort
  split
  · rfl
  · refine (Prog.ends_bind _ _ _ _).2 (ends_ask_service nofun fun reply _ => ?_)
    cases reply with
    | ok _ => rfl
    | error fault =>
      dsimp only [Except.mapError]
      split
      · exact (Prog.ends_bind _ _ _ _).2 (ends_log rfl)
      · rfl

/-- A failure of the system fails the upload; any other failure leaves it as it is. -/
theorem fail_ends {α : Type} {well otherwise : Upload → List (Exchange B) → Prop}
    (h : otherwise u seen) (fault : Fault) :
    (fail (α := α) u fault).Ends (history admitted due) (Comes well otherwise) seen := by
  unfold fail
  split
  · refine (abort_ends { u with failed := true } seen).bind fun r seen dead => ?_
    obtain ⟨u', aborted⟩ := r
    cases aborted <;> exact .inl dead
  · exact .inr h

/-! ## Sending parts -/

/-- The upload in parts is open afterwards, or nothing has changed. -/
theorem openParts_ends (given : ∀ e : Exchange B, admitted e → e.Given)
    (account : u.Account seen bodies) :
    (openParts u).Ends (history admitted due) (fun r seen' =>
      match r.2 with
      | .ok id => r.1 = { u with uploadId := some id } ∧ r.1.Account seen' bodies
      | .error _ => r.1 = u ∧ u.Account seen' bodies) seen := by
  unfold openParts
  split
  · rename_i id opened
    refine ⟨?_, account⟩
    rw [← opened]
  · rename_i unopened
    refine (Prog.ends_bind _ _ _ _).2 (ends_ask_service nofun fun reply admits => ?_)
    have same : u.Account (seen ++ [⟨.createUpload u.bucket u.key, reply⟩]) bodies :=
      account.of_taken (taken_concat_none rfl)
    match reply with
    | .error fault => exact ⟨rfl, same⟩
    | .ok none => exact ⟨rfl, same⟩
    | .ok (some id) =>
      have not_null : id ≠ .null := fun null => given _ admits (by rw [null])
      dsimp only [Except.mapError]
      rw [idOf_of_given not_null]
      exact ⟨rfl, same.opened unopened id⟩

/-- A part is taken with its body, or nothing has changed. -/
theorem addPart_ends (account : u.Account seen bodies) {id : Value} (opened : u.uploadId = some id)
    (chunk : ByteArray) :
    (addPart u id chunk).Ends (history admitted due) (fun r seen' =>
      match r.2 with
      | .ok () => r.1 = { u with tags := r.1.tags } ∧ r.1.Account seen' (bodies ++ [chunk])
      | .error _ => r.1 = u ∧ u.Account seen' bodies) seen := by
  unfold addPart
  refine (Prog.ends_bind _ _ _ _).2 (ends_ask_service nofun fun reply _ => ?_)
  match reply with
  | .error fault => exact ⟨rfl, account.of_taken (taken_concat_none rfl)⟩
  | .ok none => exact ⟨rfl, account.of_taken (taken_concat_none rfl)⟩
  | .ok (some tag) => exact ⟨rfl, account.concat opened tag chunk⟩

/-- A chunk is sent as a part, or only the id of the upload may have changed. -/
theorem sendPart_ends (given : ∀ e : Exchange B, admitted e → e.Given)
    (account : u.Account seen bodies) (chunk : ByteArray) :
    (sendPart u chunk).Ends (history admitted due)
      (Comes
        (fun u' seen' =>
          u.SentFrom u' ∧ u'.uploadId.isSome = true ∧ u'.Account seen' (bodies ++ [chunk]))
        (fun u' seen' => u.SentFrom u' ∧ u'.Account seen' bodies)) seen := by
  unfold sendPart
  refine (openParts_ends given account).bind fun r seen h => ?_
  obtain ⟨u₁, opened⟩ := r
  cases opened with
  | error fault =>
    obtain ⟨rfl, account⟩ := h
    exact fail_ends ⟨rfl, account⟩ fault
  | ok id =>
    obtain ⟨rfl, account⟩ := h
    refine (addPart_ends account rfl chunk).bind fun r seen h => ?_
    obtain ⟨u₂, added⟩ := r
    cases added with
    | error fault =>
      -- the id that was opened stays, although the part was not taken
      obtain ⟨rfl, account⟩ := h
      exact fail_ends ⟨rfl, account⟩ fault
    | ok _ =>
      obtain ⟨tagged, account⟩ := h
      dsimp only at tagged account
      refine ⟨?_, ?_, account⟩
      · rw [SentFrom, tagged]
      · rw [tagged]
        rfl

/-! ## Writing -/

/-- The flags of an upload are those of before. -/
structure SameFlags (u u' : Upload) : Prop where
  committed : u'.committed = u.committed
  failed : u'.failed = u.failed
  closed : u'.closed = u.closed

theorem SentFrom.sameFlags {u u' : Upload} (h : u.SentFrom u') : u.SameFlags u' := by
  rw [h]
  exact ⟨rfl, rfl, rfl⟩

theorem SentFrom.buffer {u u' : Upload} (h : u.SentFrom u') : u'.buffer = u.buffer := by
  rw [h]

theorem SameFlags.trans {u u' u'' : Upload} (h : u.SameFlags u') (h' : u'.SameFlags u'') :
    u.SameFlags u'' :=
  ⟨h'.committed.trans h.committed, h'.failed.trans h.failed, h'.closed.trans h.closed⟩

/-- The next publication of the upload shows these data more than before. -/
def Grown (u : Upload) (bodies : List ByteArray) (data : ByteArray) (u' : Upload)
    (seen' : List (Exchange B)) : Prop :=
  u.SameFlags u' ∧ ∃ bodies', u'.Account seen' bodies' ∧
    u'.pending bodies' = u.pending bodies ++ data

/-- The upload goes on, and what its next publication shows is not told. -/
def GoesOn (u u' : Upload) (seen' : List (Exchange B)) : Prop :=
  u.SameFlags u' ∧ ∃ bodies', u'.Account seen' bodies'

/-- Whole parts move from the buffer to the parts sent. -/
theorem sendWholeParts_ends (given : ∀ e : Exchange B, admitted e → e.Given) (limit : Nat)
    (account : u.Account seen bodies) :
    (sendWholeParts u limit).Ends (history admitted due)
      (Comes (u.Grown bodies .empty) u.GoesOn) seen := by
  -- the limit only bounds the recursion: however many parts are sent, what is pending stays the same
  induction limit generalizing u seen bodies with
  | zero => exact ⟨⟨rfl, rfl, rfl⟩, bodies, account, by simp⟩
  | succ limit ih =>
    unfold sendWholeParts
    split
    · exact ⟨⟨rfl, rfl, rfl⟩, bodies, account, by simp⟩
    · rename_i enough
      have shrunk : ({ u with buffer := u.buffer.extract u.partSize u.buffer.size } :
          Upload).Account seen bodies := ⟨account.length, account.taken, account.unopened⟩
      -- what is sent and what stays are the buffer of before
      have cut := extract_append_rest (Nat.le_of_not_lt enough)
      refine (sendPart_ends given shrunk (u.buffer.extract 0 u.partSize)).bind fun r seen h => ?_
      obtain ⟨u', sent⟩ := r
      cases sent with
      | error fault =>
        refine h.imp id fun ⟨sent_from, account⟩ => ?_
        have flags := sent_from.sameFlags
        exact ⟨⟨flags.committed, flags.failed, flags.closed⟩, bodies, account⟩
      | ok _ =>
        obtain ⟨sent_from, -, account⟩ := h
        have flags := sent_from.sameFlags
        have start : u.SameFlags u' := ⟨flags.committed, flags.failed, flags.closed⟩
        have same : u'.pending (bodies ++ [u.buffer.extract 0 u.partSize]) = u.pending bodies := by
          rw [pending, pending, joined_concat, sent_from.buffer, ByteArray.append_assoc, cut]
        refine (ih account).mono fun r seen h => h.mono ?_ ?_
        · rintro u'' seen ⟨flags, bodies', account', grown⟩
          exact ⟨start.trans flags, bodies', account', by rw [grown, same]⟩
        · rintro u'' seen ⟨flags, goes_on⟩
          exact ⟨start.trans flags, goes_on⟩

/-- A write on an open and live upload: its data join the buffer, and whole parts are sent. -/
theorem run_write (live : u.live = true) (opened : u.closed = false) (data : ByteArray) :
    (Call.write data).run (B := B) u =
      sendWholeParts { u with buffer := u.buffer ++ data }
        (if u.partSize = 0 then greatestEmptyParts else (u.buffer ++ data).size) := by
  simp only [Upload.live, Bool.and_eq_true, Bool.not_eq_true'] at live
  dsimp only [Call.run, write]
  rw [if_neg (by simp [live, opened])]
  simp only [Prog.bind_eq_bind, Prog.bind_assoc]
  -- the count that a write returns is dropped again by the call
  refine (congrArg _ (funext fun r => ?_)).trans (Prog.bind_done _)
  obtain ⟨u', sent⟩ := r
  cases sent <;> rfl

/-- A write on an upload that is closed or not live is refused. -/
theorem run_write_shut (shut : u.live = false ∨ u.closed = true) (data : ByteArray) :
    (Call.write data).run (B := B) u =
      pure (u, .error (.value s!"Write to committed or failed S3 object {u.path}")) := by
  have refused : (u.closed || u.committed || u.failed) = true := by
    cases closed : u.closed <;> cases committed : u.committed <;> cases failed : u.failed <;>
      simp_all [Upload.live]
  dsimp only [Call.run, write]
  rw [if_pos refused]
  rfl

/-- A write on an open and live upload takes its data in. -/
theorem write_ends (given : ∀ e : Exchange B, admitted e → e.Given) (live : u.live = true)
    (opened : u.closed = false) (account : u.Account seen bodies) (data : ByteArray) :
    ((Call.write data).run u).Ends (history admitted due)
      (Comes (u.Grown bodies data) u.GoesOn) seen := by
  rw [run_write live opened]
  have filled : ({ u with buffer := u.buffer ++ data } : Upload).Account seen bodies :=
    ⟨account.length, account.taken, account.unopened⟩
  refine (sendWholeParts_ends given _ filled).mono fun r seen h => h.mono ?_ ?_
  · rintro u' seen ⟨flags, bodies', account', grown⟩
    refine ⟨⟨flags.committed, flags.failed, flags.closed⟩, bodies', account', ?_⟩
    simpa [pending, ByteArray.append_assoc] using grown
  · rintro u' seen ⟨flags, goes_on⟩
    exact ⟨⟨flags.committed, flags.failed, flags.closed⟩, goes_on⟩

/-- A write that is refused changes nothing and asks nothing. -/
theorem write_refused (shut : u.live = false ∨ u.closed = true) (data : ByteArray) :
    ((Call.write data).run u).Ends (history admitted due)
      (fun r seen' => r.1 = u ∧ r.2.isOk = false ∧ seen' = seen) seen := by
  rw [run_write_shut shut]
  exact ⟨rfl, rfl, rfl⟩

/-! ## Committing -/

/-- A flush of a live upload commits it. -/
theorem flush_live (live : u.live = true) : flush (B := B) u = commit u := by
  simp only [Upload.live, Bool.and_eq_true, Bool.not_eq_true'] at live
  unfold flush
  rw [if_neg (by simp [live])]

/-- A flush of an upload that is not live does nothing. -/
theorem flush_quiet (dead : u.live = false) : flush (B := B) u = pure (u, .ok ()) := by
  unfold flush
  rw [if_pos]
  cases committed : u.committed <;> simp_all [Upload.live]

/-- An upload in parts of which nothing has to be sent has nothing in its buffer. -/
theorem drained_of_no_rest (opened : u.uploadId.isSome = true)
    (no_rest : ¬ (u.uploadId.isSome ∧ u.buffer.size ≠ 0)) : u.buffer = .empty := by
  rw [← ByteArray.size_eq_zero_iff]
  by_contra waits
  exact no_rest ⟨opened, waits⟩

/-- What a commit leaves of an upload that goes on after a failure: nothing is sent, or the buffer
is sent as the last part and still waits. -/
def Retains (u : Upload) (bodies : List ByteArray) (u' : Upload) (seen' : List (Exchange B)) :
    Prop :=
  u.SentFrom u' ∧ ∃ bodies', u'.Account seen' bodies' ∧
    (bodies' = bodies ∨ bodies' = bodies ++ [u.buffer] ∧ u.buffer.size ≠ 0)

/-- The upload is ready for its last request: what the parts or the buffer hold is all. -/
def Ready (u : Upload) (bodies : List ByteArray) (total : ByteArray) : Prop :=
  if u.uploadId.isSome then joined bodies = total else u.buffer = total

/-- The rest is sent if there are parts, and then the upload is ready. -/
theorem sendRest_ends (given : ∀ e : Exchange B, admitted e → e.Given)
    (account : u.Account seen bodies) :
    (sendRest u).Ends (history admitted due)
      (Comes
        (fun u' seen' => u.SentFrom u' ∧ ∃ bodies', u'.Account seen' bodies' ∧
          (bodies' = bodies ∨ bodies' = bodies ++ [u.buffer] ∧ u.buffer.size ≠ 0) ∧
          u'.Ready bodies' (u.pending bodies))
        (fun u' seen' => u.SentFrom u' ∧ u'.Account seen' bodies)) seen := by
  unfold sendRest
  split
  -- the rest becomes one more body, so the bodies are all that was pending
  · rename_i rest
    refine (sendPart_ends given account u.buffer).mono fun r seen h => h.mono ?_ fun _ _ => id
    rintro u' seen ⟨sent_from, opened, account⟩
    refine ⟨sent_from, _, account, .inr ⟨rfl, rest.2⟩, ?_⟩
    rw [Ready, if_pos opened, joined_concat, pending]
  · rename_i no_rest
    refine ⟨rfl, bodies, account, .inl rfl, ?_⟩
    unfold Ready pending
    split
    -- with parts and nothing to send, the parts are all
    · rename_i opened
      rw [drained_of_no_rest opened no_rest, ByteArray.append_empty]
    -- without parts, the buffer is all
    · rename_i unopened
      have no_tags := account.unopened (by simpa using unopened)
      have no_bodies : bodies = [] := by simpa [no_tags] using account.length
      simp [no_bodies, joined]

/-- The last request is asked where it shows all of the object; if it is granted, the upload is
committed. -/
theorem publish_ends {total : ByteArray}
    (is_due : ∀ seen r, (∀ data, Publishes seen r data ↔ data = total) → due seen r)
    (account : u.Account seen bodies) (ready : u.Ready bodies total) :
    (publish u).Ends (history admitted due)
      (Comes
        (fun u' seen' => u'.committed = true ∧ ∃ e, seen' = seen ++ [e] ∧ e.published = true)
        (fun u' seen' => u' = u ∧ u.Account seen' bodies)) seen := by
  unfold publish
  rw [Ready] at ready
  cases opened : u.uploadId with
  | none =>
    -- without parts the buffer is put as it is
    rw [opened, if_neg (by simp)] at ready
    have shows (data : ByteArray) :
        Publishes seen (.putObject u.bucket u.key u.buffer) data ↔ data = total := by
      rw [← ready]
      exact ⟨fun | .put _ _ _ => rfl, fun same => same ▸ .put _ _ _⟩
    refine (Prog.ends_bind _ _ _ _).2
      (ends_ask_service (fun _ => is_due _ _ shows) fun reply _ => ?_)
    cases reply with
    | error fault => exact fail_ends ⟨rfl, account.of_taken (taken_concat_none rfl)⟩ _
    | ok _ => exact ⟨rfl, _, rfl, rfl⟩
  | some id =>
    -- with parts the completion names them all, and their bodies are what it shows
    rw [opened, if_pos (by simp)] at ready
    have shows (data : ByteArray) :
        Publishes seen (.completeUpload u.bucket u.key id u.parts) data ↔ data = total := by
      rw [← ready]
      exact account.publishes_complete opened _ _ data
    refine (Prog.ends_bind _ _ _ _).2
      (ends_ask_service (fun _ => is_due _ _ shows) fun reply _ => ?_)
    cases reply with
    | error fault => exact fail_ends ⟨rfl, account.of_taken (taken_concat_none rfl)⟩ _
    | ok _ => exact ⟨rfl, _, rfl, rfl⟩

/-- A commit shows all that is pending, once, or tells a failure. -/
theorem commit_ends (given : ∀ e : Exchange B, admitted e → e.Given)
    (is_due : ∀ seen r, (∀ data, Publishes seen r data ↔ data = u.pending bodies) → due seen r)
    (account : u.Account seen bodies) :
    (commit u).Ends (history admitted due)
      (Comes
        (fun u' seen' => u'.committed = true ∧
          ∃ before e, seen' = seen ++ before ++ [e] ∧ e.published = true)
        (u.Retains bodies)) seen := by
  unfold commit
  refine (Ends.grows (sendRest_ends given account)).bind fun r seen' h => ?_
  obtain ⟨h, before, rfl⟩ := h
  -- `before` are the exchanges that sent the rest; the last request comes behind them
  obtain ⟨u', sent⟩ := r
  cases sent with
  | error fault => exact h.imp id fun ⟨sent_from, account⟩ => ⟨sent_from, _, account, .inl rfl⟩
  | ok _ =>
    obtain ⟨sent_from, bodies', account, rest, ready⟩ := h
    refine (publish_ends is_due account ready).mono fun r seen h => h.mono ?_ ?_
    · rintro u' seen ⟨committed, e, rfl, published⟩
      exact ⟨committed, before, e, rfl, published⟩
    · rintro u' seen ⟨rfl, account⟩
      exact ⟨sent_from, bodies', account, rest⟩

/-! ## A service that grants every request -/

theorem sendPart_granted (u : Upload) (chunk : ByteArray) (seen : List (Exchange B)) :
    (sendPart u chunk).Ends (history Exchange.Granted due) (fun r _ => r.2.isOk = true) seen := by
  have opens : (openParts u).Ends (history Exchange.Granted due) (fun r _ => r.2.isOk = true)
      seen := by
    unfold openParts
    split
    · rfl
    · refine (Prog.ends_bind _ _ _ _).2 (ends_ask_service nofun fun reply granted => ?_)
      obtain ⟨id, -, rfl⟩ := granted
      rfl
  unfold sendPart
  refine opens.bind fun r seen good => ?_
  obtain ⟨u₁, opened⟩ := r
  cases opened with
  | error fault => cases good
  | ok id =>
    simp only [Prog.bind_eq_bind, addPart, Prog.bind_assoc]
    refine (Prog.ends_bind _ _ _ _).2 (ends_ask_service nofun fun reply granted => ?_)
    obtain ⟨tag, rfl⟩ := granted
    rfl

theorem sendWholeParts_granted (limit : Nat) (u : Upload) (seen : List (Exchange B)) :
    (sendWholeParts u limit).Ends (history Exchange.Granted due) (fun r _ => r.2.isOk = true)
      seen := by
  induction limit generalizing u seen with
  | zero => rfl
  | succ limit ih =>
    unfold sendWholeParts
    split
    · rfl
    · refine (sendPart_granted _ _ seen).bind fun r seen good => ?_
      obtain ⟨u', sent⟩ := r
      cases sent with
      | error fault => cases good
      | ok _ => exact ih u' seen

theorem write_granted (live : u.live = true) (opened : u.closed = false) (data : ByteArray)
    (seen : List (Exchange B)) :
    ((Call.write data).run u).Ends (history Exchange.Granted due) (fun r _ => r.2.isOk = true)
      seen := by
  rw [run_write live opened]
  exact sendWholeParts_granted _ _ seen

theorem commit_granted (u : Upload) (seen : List (Exchange B)) :
    (commit u).Ends (history Exchange.Granted fun _ _ => True) (fun r _ => r.2.isOk = true)
      seen := by
  have rests : (sendRest u).Ends (history Exchange.Granted fun _ _ => True)
      (fun r _ => r.2.isOk = true) seen := by
    unfold sendRest
    split
    · exact sendPart_granted u u.buffer seen
    · rfl
  unfold commit
  refine rests.bind fun r seen good => ?_
  obtain ⟨u', sent⟩ := r
  cases sent with
  | error fault => cases good
  | ok _ =>
    dsimp only [publish]
    split <;>
    · refine (Prog.ends_bind _ _ _ _).2 (ends_ask_service (fun _ => trivial) fun reply good => ?_)
      cases reply with
      | error fault => cases good
      | ok _ => rfl

end Upload
end S3
end Storage
end StoreMeter
