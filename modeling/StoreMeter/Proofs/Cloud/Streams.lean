import StoreMeter.Proofs.Cloud.Holdings
/-
# Proofs.Cloud.Streams — uploads and downloads at one stash

At a consistent service an upload that has taken in some data holds it in two places: in the parts
that the service has for it, and in its buffer (`Sends`).  Writes keep both together, whatever the
sizes of the blocks and of the parts are, and a flush makes the object of it and closes the upload
at the service.  A download reads what is left of its body, piece by piece.
-/
namespace StoreMeter
namespace Storage
namespace S3

variable {B : Type} {home : B → String × String}

/-- Open uploads at a key: the parts of each of them, by its id. -/
abbrev OpenUploads := Value → Option (List (Part × ByteArray))

/-! ## Uploads -/

namespace Upload

/-- The service has the parts that the upload remembers, with these bodies, and the uploads of
before besides; as long as there is no id there are no parts. -/
structure Stored (u : Upload) (opened : OpenUploads) (bodies : List ByteArray) (stash : Stash B) :
    Prop where
  length : bodies.length = u.tags.length
  there : match u.uploadId with
    | none => u.tags = [] ∧ stash.uploads = opened
    | some id => u.tags ≠ [] ∧ opened id = none ∧ stash.uploads id = some (u.parts.zip bodies) ∧
      ∀ other, other ≠ id → stash.uploads other = opened other

/-- An upload to a key that has taken in this data and was not flushed yet. -/
structure Sends (bucket key : String) (opened : OpenUploads) (data : ByteArray) (u : Upload)
    (stash : Stash B) : Prop where
  bucket : u.bucket = bucket
  key : u.key = key
  parted : 0 < u.partSize
  uncommitted : u.committed = false
  unfailed : u.failed = false
  unclosed : u.closed = false
  stored : ∃ bodies, u.Stored opened bodies stash ∧ u.pending bodies = data

/-- An upload to a key that was flushed, and the object that it has become. -/
structure Sent (opened : OpenUploads) (data : ByteArray) (u : Upload) (stash : Stash B) : Prop where
  committed : u.committed = true
  unclosed : u.closed = false
  object : stash.object = some data
  uploads : stash.uploads = opened

variable {u : Upload} {bucket key : String} {opened : OpenUploads} {bodies : List ByteArray}
variable {stash : Stash B} {data : ByteArray}

theorem idOf_of_ne {id : Value} (given : id ≠ .null) : idOf id = some id := by
  cases id with
  | null => exact absurd rfl given
  | scalar _ | text _ | list _ | record _ => rfl

/-- Without an id nothing was sent. -/
theorem Stored.no_bodies (h : u.Stored opened bodies stash) (unopened : u.uploadId = none) :
    bodies = [] := by
  obtain ⟨length, there⟩ := h
  rw [unopened] at there
  exact List.eq_nil_of_length_eq_zero (by rw [length, there.1]; rfl)

/-- No part so far has the number of the next one. -/
theorem number_ne_of_mem {part : Part × ByteArray} (member : part ∈ u.parts.zip bodies) :
    part.1.number ≠ u.tags.length + 1 := by
  obtain ⟨i, short, here⟩ := List.mem_iff_getElem.1 (List.of_mem_zip member).1
  rw [← here, getElem_parts]
  rw [length_parts] at short
  omega

/-- One more part is with the service. -/
theorem addPart_stores {id : Value} (length : bodies.length = u.tags.length)
    (there : stash.uploads id = some (u.parts.zip bodies)) (chunk : ByteArray) :
    (u.addPart id chunk).Ends (stashEnv home .write u.bucket u.key) (fun r after => ∃ tag,
      r = ({ u with tags := u.tags ++ [tag] }, .ok ()) ∧ stash.Besides after id ∧
        after.uploads id = some
          (({ u with tags := u.tags ++ [tag] } : Upload).parts.zip (bodies ++ [chunk]))) stash := by
  refine (ask_stash rfl rfl).bind ?_
  rintro _ after ⟨reply, served, rfl⟩
  obtain ⟨tag, rfl, uploads, besides⟩ := served.2 _ there fun part => number_ne_of_mem
  refine ⟨tag, rfl, besides, ?_⟩
  -- the parts and their bodies are zipped, so both have to be of one length
  have same : u.parts.length = bodies.length := by rw [length_parts, length]
  rw [uploads, parts_concat, List.zip_append same]
  rfl

/-- The upload is open at the service, with the parts that were sent. -/
theorem openParts_stores (h : u.Stored opened bodies stash) :
    (u.openParts).Ends (stashEnv home .write u.bucket u.key) (fun r after => ∃ id,
      r = ({ u with uploadId := some id }, .ok id) ∧ opened id = none ∧
        after.uploads id = some (u.parts.zip bodies) ∧
        ∀ other, other ≠ id → after.uploads other = opened other) stash := by
  have there := h.there
  unfold openParts
  cases given : u.uploadId with
  | some id =>
    rw [given] at there
    exact ⟨id, by rw [← given], there.2⟩
  | none =>
    rw [given] at there
    obtain ⟨-, same⟩ := there
    refine (ask_stash rfl rfl).bind ?_
    rintro _ after ⟨reply, served, rfl⟩
    obtain ⟨-, id, not_null, rfl, fresh, empty, besides⟩ := served
    refine ⟨id, ?_, same ▸ fresh, ?_, fun other differs => by rw [besides other differs, same]⟩
    · rw [← idOf_of_ne not_null]
    · rw [empty, h.no_bodies given, List.zip_nil_right]

/-- A chunk is sent as the next part. -/
theorem sendPart_stores (h : u.Stored opened bodies stash) (chunk : ByteArray) :
    (u.sendPart chunk).Ends (stashEnv home .write u.bucket u.key) (fun r after => ∃ id tag,
      r = ({ u with uploadId := some id, tags := u.tags ++ [tag] }, .ok ()) ∧
        r.1.Stored opened (bodies ++ [chunk]) after) stash := by
  refine (openParts_stores h).bind ?_
  rintro _ before ⟨id, rfl, fresh, here, others⟩
  refine (addPart_stores (u := { u with uploadId := some id }) h.length here chunk).bind ?_
  rintro _ after ⟨tag, rfl, besides, uploads⟩
  refine ⟨id, tag, rfl, ?_, List.concat_ne_nil _ _, fresh, uploads, fun other differs => ?_⟩
  · show (bodies ++ [chunk]).length = (u.tags ++ [tag]).length
    rw [List.length_append, List.length_append, h.length]
    rfl
  · rw [besides other differs, others other differs]

/-- Whole parts move from the buffer to the service. -/
theorem sendWholeParts_stores (limit : Nat) (h : u.Sends bucket key opened data stash) :
    (u.sendWholeParts limit).Ends (stashEnv home .write bucket key)
      (fun r after => r.1.Sends bucket key opened data after ∧ r.2 = .ok ()) stash := by
  induction limit generalizing u stash with
  | zero => exact ⟨h, rfl⟩
  | succ limit ih =>
    unfold sendWholeParts
    split
    · exact ⟨h, rfl⟩
    · rename_i enough
      obtain ⟨bodies, stored, all⟩ := h.stored
      have shrunk : ({ u with buffer := u.buffer.extract u.partSize u.buffer.size } :
          Upload).Stored opened bodies stash := ⟨stored.length, stored.there⟩
      have cut : u.buffer.extract 0 u.partSize ++ u.buffer.extract u.partSize u.buffer.size =
          u.buffer := by
        rw [ByteArray.extract_append_extract]
        simp [Nat.max_eq_right (Nat.le_of_not_lt enough)]
      have place : stashEnv home .write bucket key = stashEnv home .write u.bucket u.key := by
        rw [h.bucket, h.key]
      rw [place]
      refine (sendPart_stores shrunk _).bind ?_
      rintro _ after ⟨id, tag, rfl, stored'⟩
      rw [← place]
      refine ih ⟨h.bucket, h.key, h.parted, h.uncommitted, h.unfailed, h.unclosed, _, stored', ?_⟩
      -- what is sent and what stays are the buffer of before
      rw [pending, joined_concat, ByteArray.append_assoc, cut]
      exact all

/-- A write takes its data in. -/
theorem write_stores (h : u.Sends bucket key opened data stash) (block : ByteArray) :
    (u.write block).Ends (stashEnv home .write bucket key)
      (fun r after => r.1.Sends bucket key opened (data ++ block) after ∧ r.2 = .ok block.size)
      stash := by
  obtain ⟨bodies, stored, all⟩ := h.stored
  -- first the block is taken into the buffer
  have filled : ({ u with buffer := u.buffer ++ block } : Upload).Sends bucket key opened
      (data ++ block) stash := by
    refine ⟨h.bucket, h.key, h.parted, h.uncommitted, h.unfailed, h.unclosed, bodies,
      ⟨stored.length, stored.there⟩, ?_⟩
    rw [← all, pending, pending, ByteArray.append_assoc]
  unfold write
  rw [if_neg (by simp [h.unclosed, h.uncommitted, h.unfailed])]
  apply (sendWholeParts_stores _ filled).bind
  rintro ⟨u', _⟩ after ⟨sends, rfl⟩
  exact ⟨sends, rfl⟩

/-- The last request makes the object of the parts, or of the buffer if there are none. -/
theorem publish_stores (h : u.Stored opened bodies stash)
    (ready : u.uploadId = none → u.buffer = data)
    (ready' : u.uploadId ≠ none → joined bodies = data)
    (unclosed : u.closed = false) :
    (u.publish).Ends (stashEnv home .write u.bucket u.key)
      (fun r after => r.1.Sent opened data after ∧ r.2 = .ok ()) stash := by
  obtain ⟨length, there⟩ := h
  unfold publish
  cases given : u.uploadId with
  | none =>
    rw [given] at there
    refine (ask_stash rfl rfl).bind ?_
    rintro _ after ⟨reply, served, rfl⟩
    obtain ⟨rfl, object, uploads⟩ := served
    exact ⟨⟨rfl, unclosed, by rw [object, ready given], uploads.trans there.2⟩, rfl⟩
  | some id =>
    rw [given] at there
    obtain ⟨some_sent, fresh, here, others⟩ := there
    have same : u.parts.length = bodies.length := by rw [length_parts, length]
    have named : u.parts = (u.parts.zip bodies).map Prod.fst :=
      (List.map_fst_zip (Nat.le_of_eq same)).symm
    have some_parts : u.parts.zip bodies ≠ [] := by
      intro none_there
      have short := congrArg List.length none_there
      rw [List.length_zip, ← same, Nat.min_self, length_parts] at short
      exact some_sent (List.eq_nil_of_length_eq_zero short)
    refine (ask_stash rfl rfl).bind ?_
    rintro _ after ⟨reply, served, rfl⟩
    obtain ⟨rfl, object, gone, besides⟩ := served.2 _ here some_parts named
    rw [List.map_snd_zip (Nat.le_of_eq same.symm), ready' (by rw [given]; nofun)] at object
    refine ⟨⟨rfl, unclosed, object, funext fun other => ?_⟩, rfl⟩
    -- the id was fresh before, and it is gone again
    by_cases same : other = id
    · rw [same, gone, fresh]
    · rw [besides other same, others other same]

/-- A flush makes the object. -/
theorem flush_stores (h : u.Sends bucket key opened data stash) :
    (u.flush).Ends (stashEnv home .write bucket key)
      (fun r after => r.1.Sent opened data after ∧ r.2 = .ok ()) stash := by
  obtain ⟨bodies, stored, all⟩ := h.stored
  unfold flush commit sendRest
  rw [if_neg (by simp [h.uncommitted, h.unfailed]), ← h.bucket, ← h.key]
  by_cases rest : u.uploadId.isSome ∧ u.buffer.size ≠ 0
  · rw [if_pos rest]
    refine (sendPart_stores stored _).bind ?_
    rintro _ after ⟨id, tag, rfl, stored'⟩
    refine publish_stores stored' nofun (fun _ => ?_) h.unclosed
    rw [joined_concat]
    exact all
  · rw [if_neg rest]
    refine publish_stores stored (fun unopened => ?_) (fun given => ?_) h.unclosed
    · -- without an id there are no parts, so the buffer is all
      rw [← all, pending, stored.no_bodies unopened, joined, ByteArray.empty_append]
    · have empty : u.buffer = .empty := by
        refine ByteArray.size_eq_zero_iff.1 (Classical.not_not.1 fun some_left => ?_)
        exact rest ⟨Option.isSome_iff_ne_none.2 given, some_left⟩
      rw [← all, pending, empty, ByteArray.append_empty]

/-- Closing a flushed upload asks nothing. -/
theorem close_stores (h : u.Sent opened data stash) :
    (u.close).Ends (stashEnv home .write bucket key)
      (fun r after => r.2 = .ok () ∧ after = stash) stash := by
  unfold close flush
  rw [if_neg (by simp [h.unclosed]), if_pos (by simp [h.committed])]
  exact ⟨rfl, rfl⟩

end Upload

/-- A new upload has taken in nothing. -/
theorem create_sends {path bucket key : String} {partSize : Nat}
    (split : splitPath path = .ok (bucket, key)) (parted : 0 < partSize) :
    ∃ u : Upload, perform (B := B) partSize (.create path) = .done (.ok (.upload u)) ∧
      ∀ stash : Stash B, u.Sends bucket key stash.uploads .empty stash := by
  have created := congrArg (fun reply => Prog.done (E := effects B) (reply.map
    fun (place : String × String) =>
      Stream.upload (B := B) { bucket := place.1, key := place.2, partSize })) split
  exact ⟨_, created, fun stash => ⟨rfl, rfl, parted, rfl, rfl, rfl, [], ⟨rfl, rfl, rfl⟩, rfl⟩⟩

/-! ## Downloads -/

variable {bucket key : String} {stash : Stash B} {body : B} {path : String} {closed : Bool}
variable {partSize : Nat}

/-- Opening an object for reading gives a body with all of its data. -/
theorem openRead_streams {data : ByteArray} (split : splitPath path = .ok (bucket, key))
    (there : stash.object = some data) :
    (openRead path).Ends (stashEnv home .read bucket key) (fun reply after =>
      stash.Same after ∧ ∃ body, home body = (bucket, key) ∧
        reply = .ok (.download body path false) ∧ after.unread body = data) stash := by
  unfold openRead
  rw [split]
  refine (ask_stash rfl rfl).bind ?_
  rintro _ after ⟨reply, served, rfl⟩
  obtain ⟨same, gives⟩ := served
  obtain ⟨body, streams, rfl, unread⟩ := gives data there
  exact ⟨same, body, streams, rfl, unread⟩

/-- A read gets something as long as there is something left. -/
theorem read_streams (streams : home body = (bucket, key)) {size : Int} (positive : 0 < size) :
    (perform partSize (.read (.download body path closed) (some size))).Ends
      (stashEnv home .read bucket key) (fun reply after => stash.Same after ∧ ∃ block,
        reply = (.download body path closed, .ok block) ∧ block.size ≤ size.toNat ∧
          (stash.unread body).size = block.size + (after.unread body).size ∧
          (block.size = 0 → (after.unread body).size = 0)) stash := by
  have sized : readSize (some size) = some size.toNat := if_neg (by omega)
  refine (ask_stash (r := .readBody body _) rfl (congrArg some streams)).bind ?_
  rintro _ after ⟨reply, served, rfl⟩
  obtain ⟨same, block, rfl, split, most, last⟩ := served
  rw [sized] at most last
  refine ⟨same, block, rfl, most _ rfl, ?_, last ?_⟩
  · rw [split, ByteArray.size_append]
  · intro none_asked
    have zero := Option.some.inj none_asked
    omega

/-- Closing a body leaves all that is kept. -/
theorem close_streams (streams : home body = (bucket, key)) :
    (perform partSize (.close (.download body path false))).Ends (stashEnv home .read bucket key)
      (fun reply after => stash.Same after ∧ reply = (.download body path true, .ok ())) stash := by
  refine (ask_stash (r := .closeBody body) rfl (congrArg some streams)).bind ?_
  rintro _ after ⟨reply, served, rfl⟩
  obtain ⟨same, rfl⟩ := served
  exact ⟨same, rfl⟩

end S3
end Storage
end StoreMeter
