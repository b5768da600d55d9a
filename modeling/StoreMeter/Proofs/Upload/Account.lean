import StoreMeter.Proofs.Upload.History
/-
# Proofs.Upload.Account — what each step of an upload sends

The account of an upload (`Account`) ties the parts that it remembers to the parts that the service
took: one body for each tag, in the same order.  While an upload is live, the bodies and the buffer
together are what its next publication shows, so each step is told by what it does to these two.

Every step is taken against a service that may answer anything (`history`).  A failure of the
system ends in a failed upload, which no later call publishes; after any other failure the upload
stays live, and the account says what it would publish then.
-/
namespace StoreMeter
namespace Storage
namespace S3

variable {B : Type}

/-! ## Surroundings that keep the exchanges -/

/-- The exchanges of a program with a service.  Each of them is `admitted`, and a request that
publishes is asked only where it is `due`. -/
def history (admitted : Exchange B → Prop) (due : List (Exchange B) → Request B → Prop) :
    Surroundings (effects B) (List (Exchange B)) where
  Allows
    | seen, .request r => publishing r = true → due seen r
    | _, .log _ => True
  Answers
    | seen, .request r, reply, seen' => admitted ⟨r, reply⟩ ∧ seen' = seen ++ [⟨r, reply⟩]
    | seen, .log _, _, seen' => seen' = seen

section
variable {admitted : Exchange B → Prop} {due : List (Exchange B) → Request B → Prop}
variable {α σ : Type} {seen : List (Exchange B)}

theorem ends_ask_service {path : String} {r : Request B}
    {goal : Except Fault r.Reply → List (Exchange B) → Prop}
    (allowed : publishing r = true → due seen r)
    (answered : ∀ reply, admitted ⟨r, reply⟩ →
      goal (reply.mapError (asSystemFault path)) (seen ++ [⟨r, reply⟩])) :
    (S3.ask path r).Ends (history admitted due) goal seen := by
  refine ⟨allowed, ?_⟩
  rintro reply seen' ⟨admits, rfl⟩
  exact answered reply admits

theorem ends_log {level : Log.Level} {event : String} {fields : List (String × Value)}
    {goal : Unit → List (Exchange B) → Prop} (h : goal () seen) :
    (S3.log (B := B) level event fields).Ends (history admitted due) goal seen := by
  refine ⟨trivial, ?_⟩
  intro _ seen' same
  subst same
  exact h

/-- The exchanges only grow. -/
theorem Ends.grows {goal : α → List (Exchange B) → Prop} {p : Program B α}
    (h : p.Ends (history admitted due) goal seen) :
    p.Ends (history admitted due) (fun a seen' => goal a seen' ∧ seen <+: seen') seen := by
  induction p generalizing seen with
  | done a => exact ⟨h, List.prefix_rfl⟩
  | ask op next ih =>
    refine ⟨h.1, fun reply seen' answered => ?_⟩
    have longer : seen <+: seen' := by
      cases op with
      | request r => exact answered.2 ▸ List.prefix_append _ _
      | log entry => exact (show seen' = seen from answered) ▸ List.prefix_rfl
    exact (ih reply (h.2 reply seen' answered)).mono fun _ _ done => ⟨done.1, longer.trans done.2⟩

/-- A run against a recorded service: it comes to the goal, and every exchange that published was
due where it was asked. -/
theorem Ends.recorded (service : Service B σ)
    (admits : ∀ r s, admitted ⟨r, (service.answer r s).1⟩)
    {goal : α → List (Exchange B) → Prop} {base : List (Exchange B)} {p : Program B α} :
    ∀ {s : σ} {own : List (Exchange B)}, p.Ends (history admitted due) goal (base ++ own) →
      ∃ more, (p.runWith service.recorded (s, own)).2.2 = own ++ more ∧
        goal (p.runWith service.recorded (s, own)).1 (base ++ own ++ more) ∧
        ∀ before e after, more = before ++ e :: after → publishing e.request = true →
          due (base ++ own ++ before) e.request := by
  induction p with
  | done a =>
    intro s own h
    have done : goal a (base ++ own ++ []) := by simpa using h
    exact ⟨[], (List.append_nil own).symm, done, by simp⟩
  | ask op next ih =>
    intro s own h
    cases op with
    | log entry => exact ih () (h.2 () _ rfl)
    | request r =>
      have next_ends := h.2 (service.answer r s).1 _ ⟨admits r s, rfl⟩
      rw [List.append_assoc] at next_ends
      obtain ⟨more, same, done, dues⟩ := ih _ (s := (service.answer r s).2) next_ends
      refine ⟨⟨r, (service.answer r s).1⟩ :: more, same.trans (by simp), ?_, ?_⟩
      · rw [List.append_assoc, ← List.append_cons, ← List.append_assoc base] at done
        exact done
      · intro before e after split publishes
        -- an exchange is the first one here, or one of the rest
        cases before with
        | nil =>
          obtain ⟨rfl, -⟩ := List.cons_eq_cons.1 split
          simpa using h.1 publishes
        | cons first before =>
          obtain ⟨rfl, rest⟩ := List.cons_eq_cons.1 split
          simpa using dues before e after rest publishes

end

/-! ## Parts and bodies -/

theorem taken_append (seen more : List (Exchange B)) :
    taken (seen ++ more) = taken seen ++ taken more := List.filterMap_append

theorem taken_concat_none {seen : List (Exchange B)} {e : Exchange B} (h : e.taken? = none) :
    taken (seen ++ [e]) = taken seen := by
  simp [taken, h]

theorem joined_append (a b : List ByteArray) : joined (a ++ b) = joined a ++ joined b := by
  induction a with
  | nil => simp [joined]
  | cons block rest ih => simp [joined, ih, ByteArray.append_assoc]

theorem joined_concat (a : List ByteArray) (block : ByteArray) :
    joined (a ++ [block]) = joined a ++ block := by
  simp [joined_append, joined]

/-- Data are what is cut off their front and the rest behind it. -/
theorem extract_append_rest {data : ByteArray} {size : Nat} (enough : size ≤ data.size) :
    data.extract 0 size ++ data.extract size data.size = data := by
  rw [ByteArray.extract_append_extract]
  simp [Nat.max_eq_right enough]

namespace Upload

/-- An id that is no null is kept as it is. -/
theorem idOf_of_given {id : Value} (not_null : id ≠ .null) : idOf id = some id := by
  cases id with
  | null => exact absurd rfl not_null
  | _ => rfl

/-- The parts that an upload remembers are the parts that the service took under its id, each with
its body; without an id there are none. -/
structure Account (u : Upload) (seen : List (Exchange B)) (bodies : List ByteArray) : Prop where
  length : bodies.length = u.tags.length
  taken : taken seen =
    (u.parts.zip bodies).map fun entry => (u.uploadId.getD .null, entry.1, entry.2)
  unopened : u.uploadId = none → u.tags = []

/-- What the next publication of a live upload shows: the parts sent, and the buffer behind them. -/
def pending (u : Upload) (bodies : List ByteArray) : ByteArray := joined bodies ++ u.buffer

/-- The upload with parts sent: only the id and the tags differ. -/
def SentFrom (u u' : Upload) : Prop := u' = { u with uploadId := u'.uploadId, tags := u'.tags }

theorem length_parts (u : Upload) : u.parts.length = u.tags.length := by simp [parts]

theorem parts_concat (u : Upload) (tag : Value) :
    ({ u with tags := u.tags ++ [tag] } : Upload).parts = u.parts ++ [⟨u.tags.length + 1, tag⟩] := by
  simp [parts, List.zipIdx_append]

theorem getElem_parts (u : Upload) (i : Nat) (h : i < u.parts.length) :
    u.parts[i].number = i + 1 := by
  simp [parts]

theorem Account.length_taken {u : Upload} {seen : List (Exchange B)} {bodies : List ByteArray}
    (h : u.Account seen bodies) : (S3.taken seen).length = bodies.length := by
  have same : u.parts.length = bodies.length := by rw [length_parts, h.length]
  simp [h.taken, same]

/-- Exchanges in which the service takes no part leave the account as it is. -/
theorem Account.of_taken {u : Upload} {seen seen' : List (Exchange B)} {bodies : List ByteArray}
    (h : u.Account seen bodies) (same : S3.taken seen' = S3.taken seen) : u.Account seen' bodies :=
  ⟨h.length, same.trans h.taken, h.unopened⟩

/-- An upload in parts that is opened has the empty account of before. -/
theorem Account.opened {u : Upload} {seen : List (Exchange B)} {bodies : List ByteArray}
    (h : u.Account seen bodies) (none_yet : u.uploadId = none) (id : Value) :
    ({ u with uploadId := some id } : Upload).Account seen bodies := by
  have no_tags := h.unopened none_yet
  have no_parts : u.parts = [] := by simp [parts, no_tags]
  refine ⟨h.length, ?_, by simp⟩
  rw [h.taken]
  simp [parts, no_tags]

/-- One more part. -/
theorem Account.concat {u : Upload} {seen : List (Exchange B)} {bodies : List ByteArray}
    (h : u.Account seen bodies) {id : Value} (given : u.uploadId = some id) {bucket key : String}
    (tag : Value) (chunk : ByteArray) :
    ({ u with tags := u.tags ++ [tag] } : Upload).Account
      (seen ++ [⟨.uploadPart bucket key id (u.tags.length + 1) chunk, .ok (some tag)⟩])
      (bodies ++ [chunk]) := by
  refine ⟨by simp [h.length], ?_, by simp [given]⟩
  have same : u.parts.length = bodies.length := by rw [length_parts, h.length]
  rw [taken_append, h.taken, parts_concat, List.zip_append same]
  simp [S3.taken, Exchange.taken?, given]

/-- A completion that names all parts publishes their bodies, and nothing else. -/
theorem Account.publishes_complete {u : Upload} {seen : List (Exchange B)}
    {bodies : List ByteArray} (h : u.Account seen bodies) {id : Value}
    (given : u.uploadId = some id) (bucket key : String) (data : ByteArray) :
    Publishes seen (.completeUpload bucket key id u.parts) data ↔ data = joined bodies := by
  have same : u.parts.length = bodies.length := by rw [length_parts, h.length]
  have ledger : S3.taken seen = (u.parts.zip bodies).map fun entry => (id, entry.1, entry.2) := by
    simpa [given] using h.taken
  constructor
  · rintro ⟨⟩
    rename_i found named
    congr 1
    -- a part is found by its number, which is its place
    refine List.ext_getElem (by rw [← named.length_eq, same]) fun i hi hi' => ?_
    have place : i < u.parts.length := by omega
    have member := named.get place hi
    rw [ledger] at member
    simp only [List.mem_map, List.get_eq_getElem] at member
    obtain ⟨⟨part, body⟩, listed, equal⟩ := member
    obtain ⟨j, hj, here⟩ := List.mem_iff_getElem.1 listed
    simp only [List.getElem_zip, Prod.mk.injEq] at here equal
    have number := congrArg Part.number (here.1.trans equal.2.1)
    rw [getElem_parts, getElem_parts] at number
    obtain rfl : j = i := by omega
    exact equal.2.2.symm.trans here.2.symm
  · intro same
    subst same
    refine .complete bucket key ?_
    rw [List.forall₂_iff_get]
    refine ⟨same, fun i hi hi' => ?_⟩
    rw [ledger]
    exact List.mem_map.2 ⟨(u.parts[i], bodies[i]),
      List.mem_iff_getElem.2 ⟨i, by simp [List.length_zip]; omega, by simp⟩, rfl⟩

end Upload
end S3
end Storage
end StoreMeter
