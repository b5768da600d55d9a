import StoreMeter.Proofs.Upload.WholeObjects
/-
# Proofs.Upload.Layout — how the data of an object are divided among the requests

A service that grants every request gets an object in one of two layouts (`Layout`).  Data shorter
than a part are put as one object.  Longer data are sent in parts, the consecutive slices of the
data (`slices`), between the request that opens the upload and the one that completes it.

The blocks in which the data were written leave no trace.  An upload that gathers data has sent whole
parts, and what is left in its buffer after a write is shorter than a part (`Gathers`); so the parts
are slices of all the data so far, wherever the blocks ended.
-/
namespace StoreMeter
namespace Storage
namespace S3

variable {B σ : Type}

/-! ## Slices -/

/-- How many parts so many bytes make; the last part may be short. -/
def partCount (partSize length : Nat) : Nat := (length + partSize - 1) / partSize

/-- The consecutive slices of some data, each of the size of a part; only the last one may be
shorter. -/
def slices (partSize : Nat) (data : ByteArray) : List ByteArray :=
  (List.range (partCount partSize data.size)).map fun i =>
    data.extract (i * partSize) ((i + 1) * partSize)

section
variable {partSize : Nat} {data : ByteArray}

theorem length_slices : (slices partSize data).length = partCount partSize data.size := by
  simp [slices]

theorem slices_empty (parted : 0 < partSize) : slices partSize .empty = [] := by
  have none : partCount partSize 0 = 0 := Nat.div_eq_of_lt (by omega)
  rw [slices, ByteArray.size_empty, none]
  rfl

/-- Data that fit in a part are one slice. -/
theorem slices_of_le (some_data : 0 < data.size) (fits : data.size ≤ partSize) :
    slices partSize data = [data] := by
  have one : partCount partSize data.size = 1 := by
    rw [partCount, Nat.div_eq_iff (by omega)]
    omega
  have all : data.extract 0 partSize = data := by
    refine ByteArray.ext (Array.ext_getElem? fun i => ?_)
    have size : data.data.size = data.size := rfl
    rw [ByteArray.data_extract, Array.getElem?_extract]
    split
    · rw [Nat.zero_add]
    · rw [Array.getElem?_eq_none (by omega)]
  rw [slices, one]
  simp [all]

/-- A slice that is as long as a part is the first one. -/
theorem slices_append {body : ByteArray} (parted : 0 < partSize) (whole : body.size = partSize) :
    slices partSize (body ++ data) = body :: slices partSize data := by
  have more : partCount partSize (body ++ data).size = partCount partSize data.size + 1 := by
    rw [partCount, partCount, ByteArray.size_append, whole, ← Nat.add_div_right _ parted]
    congr 1
    omega
  rw [slices, more, List.range_succ_eq_map, List.map_cons, List.map_map]
  congr 1
  · rw [Nat.zero_mul, Nat.zero_add, Nat.one_mul, ByteArray.extract_append_eq_left whole.symm]
  · refine List.map_congr_left fun i _ => ?_
    -- behind a whole first part the places of all slices move on by one part
    have shift (k : Nat) : (k + 1) * partSize = body.size + k * partSize := by
      rw [whole, Nat.succ_mul, Nat.add_comm]
    exact (congrArg₂ (body ++ data).extract (shift i) (shift (i + 1))).trans
      ByteArray.extract_append_size_add

/-- Bodies that are whole parts, and the slices of what comes behind them. -/
theorem slices_joined (parted : 0 < partSize) {bodies : List ByteArray}
    (whole : ∀ body ∈ bodies, body.size = partSize) :
    slices partSize (joined bodies ++ data) = bodies ++ slices partSize data := by
  induction bodies with
  | nil => simp [joined]
  | cons body rest ih =>
    rw [joined, ByteArray.append_assoc, slices_append parted (whole body (by simp)),
      ih fun other member => whole other (by simp [member]), List.cons_append]

/-- Bodies that make some data up: all but the last are as long as a part, and none is empty. -/
structure Cut (partSize : Nat) (data : ByteArray) (bodies : List ByteArray) : Prop where
  joined : joined bodies = data
  whole : ∀ body ∈ bodies.dropLast, body.size = partSize
  bounded : ∀ body ∈ bodies, 1 ≤ body.size ∧ body.size ≤ partSize

/-- Some data are cut into their slices. -/
theorem slices_cut (parted : 0 < partSize) (data : ByteArray) :
    Cut partSize data (slices partSize data) := by
  induction bound : data.size using Nat.strongRecOn generalizing data with
  | _ size ih =>
    -- data that fit in a part are one slice; of others the first slice is whole, and fewer are left
    by_cases fits : data.size ≤ partSize
    · by_cases no_data : data.size = 0
      · rw [ByteArray.size_eq_zero_iff.1 no_data, slices_empty parted]
        exact ⟨rfl, by simp, by simp⟩
      · rw [slices_of_le (Nat.pos_of_ne_zero no_data) fits]
        refine ⟨by simp [S3.joined], by simp, ?_⟩
        rintro _ (_ | _)
        · exact ⟨Nat.pos_of_ne_zero no_data, fits⟩
        · contradiction
    · have first : (data.extract 0 partSize).size = partSize := by
        rw [ByteArray.size_extract]
        omega
      have rest : (data.extract partSize data.size).size = data.size - partSize := by
        rw [ByteArray.size_extract]
        omega
      have split := extract_append_rest (Nat.le_of_not_le fits)
      have cut := ih _ (by omega) (data.extract partSize data.size) rfl
      -- so the first slice is not the last one
      have more : slices partSize (data.extract partSize data.size) ≠ [] := by
        intro none
        have empty := cut.joined
        rw [none, S3.joined] at empty
        rw [← empty, ByteArray.size_empty] at rest
        omega
      rw [← split, slices_append parted first]
      refine ⟨?_, ?_, ?_⟩
      · rw [S3.joined, cut.joined]
      · rw [List.dropLast_cons_of_ne_nil more]
        exact List.forall_mem_cons.2 ⟨first, cut.whole⟩
      · exact List.forall_mem_cons.2 ⟨⟨by omega, by omega⟩, cut.bounded⟩

end

/-! ## Layouts -/

/-- Tags with the numbers of their parts, from one on. -/
def numbered (tags : List Value) : List Part := tags.zipIdx.map fun entry => ⟨entry.2 + 1, entry.1⟩

/-- Bodies that were sent as parts of an upload, numbered from one on, with the tags they got. -/
def sentParts (bucket key : String) (id : Value) (bodies : List ByteArray) (tags : List Value) :
    List (Exchange B) :=
  (bodies.zip tags).zipIdx.map fun entry =>
    ⟨.uploadPart bucket key id (entry.2 + 1) entry.1.1, .ok (some entry.1.2)⟩

/-- All exchanges that make an object of some data: one put if the data are shorter than a part, and
else the upload of their slices, which is opened before and completed behind them. -/
inductive Layout (bucket key : String) (partSize : Nat) (data : ByteArray) :
    List (Exchange B) → Prop
  | whole (short : data.size < partSize) :
    Layout bucket key partSize data [⟨.putObject bucket key data, .ok ()⟩]
  | parts (long : partSize ≤ data.size) (id : Value) (tags : List Value)
      (tagged : tags.length = partCount partSize data.size) :
    Layout bucket key partSize data
      (⟨.createUpload bucket key, .ok (some id)⟩ ::
        (sentParts bucket key id (slices partSize data) tags ++
          [⟨.completeUpload bucket key id (numbered tags), .ok ()⟩]))

theorem sentParts_concat {bucket key : String} {id : Value} {bodies : List ByteArray}
    {tags : List Value} (length : bodies.length = tags.length) (body : ByteArray) (tag : Value) :
    sentParts (B := B) bucket key id (bodies ++ [body]) (tags ++ [tag]) =
      sentParts bucket key id bodies tags ++
        [⟨.uploadPart bucket key id (tags.length + 1) body, .ok (some tag)⟩] := by
  rw [sentParts, List.zip_append length, List.zipIdx_append]
  simp [sentParts, length]

namespace Upload

/-! ## Gathering data -/

/-- A service that grants every request, with a record of the exchanges. -/
abbrev granting (B : Type) : Surroundings (effects B) (List (Exchange B)) :=
  history Exchange.Granted fun _ _ => True

theorem ends_ask_granted {path : String} {r : Request B} {seen : List (Exchange B)}
    {goal : Except Fault r.Reply → List (Exchange B) → Prop}
    (granted : ∀ reply, Exchange.Granted ⟨r, reply⟩ →
      goal (reply.mapError (asSystemFault path)) (seen ++ [⟨r, reply⟩])) :
    (ask path r).Ends (granting B) goal seen :=
  ends_ask_service (fun _ => trivial) granted

/-- The exchanges of an upload in parts up to now. -/
def soFar (u : Upload) (id : Value) (bodies : List ByteArray) : List (Exchange B) :=
  ⟨.createUpload u.bucket u.key, .ok (some id)⟩ :: sentParts u.bucket u.key id bodies u.tags

/-- The exchanges so far are those that sent some bodies as parts, each of which has its tag; the
upload in parts is opened with the first of them. -/
structure Tracks (u : Upload) (seen : List (Exchange B)) (bodies : List ByteArray) : Prop where
  length : bodies.length = u.tags.length
  opened : u.uploadId = none ↔ bodies = []
  unopened : u.uploadId = none → seen = []
  told : ∀ id, u.uploadId = some id → seen = u.soFar id bodies

/-- An upload to a key that is open and live and has taken in some data: whole parts of it are sent,
and the rest of it waits. -/
structure Gathers (bucket key : String) (partSize : Nat) (data : ByteArray) (u : Upload)
    (seen : List (Exchange B)) : Prop where
  bucket : u.bucket = bucket
  key : u.key = key
  parted : u.partSize = partSize
  live : u.live = true
  unclosed : u.closed = false
  sent : ∃ bodies, u.Tracks seen bodies ∧ (∀ body ∈ bodies, body.size = partSize) ∧
    u.pending bodies = data

variable {u : Upload} {seen : List (Exchange B)} {bodies : List ByteArray}
variable {bucket key : String} {partSize : Nat} {data : ByteArray}

theorem Gathers.fresh (bucket key : String) (partSize : Nat) :
    Gathers (B := B) bucket key partSize .empty { bucket, key, partSize } [] where
  bucket := rfl
  key := rfl
  parted := rfl
  live := rfl
  unclosed := rfl
  sent := ⟨[], ⟨rfl, by simp, fun _ => rfl, nofun⟩, by simp, by simp [pending, joined]⟩

/-- The upload in parts is open afterwards. -/
theorem openParts_tracks (h : u.Tracks seen bodies) :
    (openParts u).Ends (granting B) (fun r seen' =>
      ∃ id, r = ({ u with uploadId := some id }, .ok id) ∧ seen' = u.soFar id bodies) seen := by
  unfold openParts
  split
  · rename_i id opened
    refine ⟨id, ?_, h.told id opened⟩
    rw [← opened]
  · rename_i unopened
    refine (Prog.ends_bind _ _ _ _).2 (ends_ask_granted ?_)
    rintro reply ⟨id, not_null, rfl⟩
    dsimp only [Except.mapError]
    rw [idOf_of_given not_null, h.unopened unopened, h.opened.1 unopened]
    exact ⟨id, rfl, rfl⟩

/-- A chunk is sent as the next part. -/
theorem sendPart_tracks (h : u.Tracks seen bodies) (chunk : ByteArray) :
    (sendPart u chunk).Ends (granting B) (fun r seen' =>
      r.2 = .ok () ∧ u.SentFrom r.1 ∧ r.1.Tracks seen' (bodies ++ [chunk])) seen := by
  unfold sendPart
  refine (openParts_tracks h).bind ?_
  rintro _ _ ⟨id, rfl, rfl⟩
  dsimp only [addPart]
  simp only [Prog.bind_eq_bind, Prog.bind_assoc]
  refine (Prog.ends_bind _ _ _ _).2 (ends_ask_granted ?_)
  rintro reply ⟨tag, rfl⟩
  refine ⟨rfl, rfl, ?_, by simp, nofun, ?_⟩
  · simp [h.length]
  · rintro _ ⟨⟩
    simp only [soFar, sentParts_concat h.length, List.cons_append]

/-- Parts are sent until less than a part is left. -/
theorem sendWholeParts_gathers (positive : 0 < partSize) (limit : Nat)
    (enough : u.buffer.size ≤ limit) (h : Gathers bucket key partSize data u seen) :
    (sendWholeParts u limit).Ends (granting B) (fun r seen' =>
      r.2 = .ok () ∧ Gathers bucket key partSize data r.1 seen' ∧ r.1.buffer.size < partSize)
      seen := by
  -- the limit is enough: the buffer has no more bytes than that, and each part takes some of them
  induction limit generalizing u seen with
  | zero => exact ⟨rfl, h, Nat.lt_of_le_of_lt enough positive⟩
  | succ limit ih =>
    unfold sendWholeParts
    split
    · rename_i short
      exact ⟨rfl, h, h.parted ▸ short⟩
    · rename_i long
      obtain rfl := h.parted
      obtain ⟨bodies, tracks, whole, gathered⟩ := h.sent
      have shrunk : ({ u with buffer := u.buffer.extract u.partSize u.buffer.size } :
          Upload).Tracks seen bodies := ⟨tracks.length, tracks.opened, tracks.unopened, tracks.told⟩
      -- what is sent and what stays are the buffer of before
      have cut := extract_append_rest (Nat.le_of_not_lt long)
      refine (sendPart_tracks shrunk (u.buffer.extract 0 u.partSize)).bind ?_
      rintro ⟨u', result⟩ seen' ⟨rfl, sent, tracks'⟩
      have left : u'.buffer = u.buffer.extract u.partSize u.buffer.size := sent.buffer
      have flags := sent.sameFlags
      refine ih ?_ ⟨?_, ?_, ?_, ?_, flags.closed.trans h.unclosed, _, tracks', ?_, ?_⟩
      · rw [left, ByteArray.size_extract]
        omega
      · rw [show u' = _ from sent]
        exact h.bucket
      · rw [show u' = _ from sent]
        exact h.key
      · rw [show u' = _ from sent]
      · rw [Upload.live, flags.committed, flags.failed]
        exact h.live
      · intro body member
        rcases List.mem_append.1 member with before | here
        · exact whole body before
        · obtain rfl := List.mem_singleton.1 here
          rw [ByteArray.size_extract]
          omega
      · rw [pending, joined_concat, left, ByteArray.append_assoc, cut]
        exact gathered

/-- A write takes a block in. -/
theorem write_gathers (positive : 0 < partSize) (h : Gathers bucket key partSize data u seen)
    (block : ByteArray) :
    ((Call.write block).run u).Ends (granting B) (fun r seen' =>
      r.2 = .ok () ∧ Gathers bucket key partSize (data ++ block) r.1 seen' ∧
        r.1.buffer.size < partSize) seen := by
  rw [run_write h.live h.unclosed, if_neg (by rw [h.parted]; omega)]
  obtain ⟨bodies, tracks, whole, gathered⟩ := h.sent
  have filled : Gathers bucket key partSize (data ++ block)
      { u with buffer := u.buffer ++ block } seen :=
    ⟨h.bucket, h.key, h.parted, h.live, h.unclosed, bodies,
      ⟨tracks.length, tracks.opened, tracks.unopened, tracks.told⟩, whole, by
        rw [← gathered, pending, pending, ByteArray.append_assoc]⟩
  exact sendWholeParts_gathers positive _ (Nat.le_refl _) filled

/-! ## Committing -/

/-- An upload that is ready for its last request: the buffer holds all the data, or all their slices
are sent. -/
structure Arranged (bucket key : String) (partSize : Nat) (data : ByteArray) (u : Upload)
    (seen : List (Exchange B)) : Prop where
  bucket : u.bucket = bucket
  key : u.key = key
  unclosed : u.closed = false
  whole : u.uploadId = none → data.size < partSize ∧ u.buffer = data ∧ seen = []
  parts : ∀ id, u.uploadId = some id → partSize ≤ data.size ∧
    u.tags.length = partCount partSize data.size ∧ seen = u.soFar id (slices partSize data)

/-- What is tracked is arranged, if the bodies are all the slices of long data. -/
theorem Tracks.arranged (h : u.Tracks seen bodies) (unclosed : u.closed = false)
    (some_sent : bodies ≠ []) (all : slices partSize data = bodies)
    (long : partSize ≤ data.size) :
    Arranged u.bucket u.key partSize data u seen where
  bucket := rfl
  key := rfl
  unclosed := unclosed
  whole := fun unopened => absurd (h.opened.1 unopened) some_sent
  parts := fun id opened =>
    ⟨long, by rw [← h.length, ← all, length_slices], by rw [all]; exact h.told id opened⟩

/-- Where parts were sent there are data for one part at least. -/
theorem long_of_sent (whole : ∀ body ∈ bodies, body.size = u.partSize) (some_sent : bodies ≠ []) :
    u.partSize ≤ (u.pending bodies).size := by
  obtain ⟨body, rest, rfl⟩ := List.exists_cons_of_ne_nil some_sent
  have first := whole body (by simp)
  rw [pending, joined, ByteArray.size_append, ByteArray.size_append]
  omega

/-- The rest of the data is sent as the last slice, if parts were sent before. -/
theorem sendRest_arranges (positive : 0 < partSize)
    (h : Gathers bucket key partSize data u seen) (short : u.buffer.size < partSize) :
    (sendRest u).Ends (granting B) (fun r seen' =>
      r.2 = .ok () ∧ Arranged bucket key partSize data r.1 seen') seen := by
  obtain ⟨rfl, rfl, rfl, -, unclosed, bodies, tracks, whole, rfl⟩ := h
  unfold sendRest
  split
  · rename_i rest
    have some_sent : bodies ≠ [] := by
      rw [ne_eq, ← tracks.opened]
      exact Option.isSome_iff_ne_none.1 rest.1
    have last : slices u.partSize (u.pending bodies) = bodies ++ [u.buffer] := by
      rw [pending, slices_joined positive whole, slices_of_le (Nat.pos_of_ne_zero rest.2)
        (Nat.le_of_lt short)]
    refine (sendPart_tracks tracks u.buffer).mono ?_
    rintro ⟨u', result⟩ seen' ⟨rfl, sent, tracks'⟩
    have arranged := tracks'.arranged (sent.sameFlags.closed.trans unclosed) (by simp) last
      (long_of_sent whole some_sent)
    rw [show u' = _ from sent] at arranged ⊢
    exact ⟨rfl, arranged⟩
  · rename_i no_rest
    refine ⟨rfl, ?_⟩
    cases opened : u.uploadId with
    | none =>
      -- nothing was sent: all the data are in the buffer, and they are shorter than a part
      obtain rfl := tracks.opened.1 opened
      have all : u.pending [] = u.buffer := by simp [pending, joined]
      rw [all]
      refine ⟨rfl, rfl, unclosed, fun _ => ⟨short, rfl, tracks.unopened opened⟩, ?_⟩
      intro id told
      rw [opened] at told
      cases told
    | some id =>
      -- the data end where a part ends, so the parts sent are all the slices
      have some_sent : bodies ≠ [] := by
        rw [ne_eq, ← tracks.opened, opened]
        exact Option.some_ne_none id
      have drained := drained_of_no_rest (by rw [opened]; rfl) no_rest
      refine tracks.arranged unclosed some_sent ?_ (long_of_sent whole some_sent)
      rw [pending, slices_joined positive whole, drained, slices_empty positive, List.append_nil]

/-- An upload that is committed, with all exchanges that made its object. -/
structure Settled (bucket key : String) (partSize : Nat) (data : ByteArray) (u : Upload)
    (seen : List (Exchange B)) : Prop where
  committed : u.committed = true
  layout : Layout bucket key partSize data seen

/-- The last request commits the upload. -/
theorem publish_settles (h : Arranged bucket key partSize data u seen) :
    (publish u).Ends (granting B) (fun r seen' =>
      r.2 = .ok () ∧ Settled bucket key partSize data r.1 seen') seen := by
  obtain ⟨rfl, rfl, -, whole, parts⟩ := h
  unfold publish
  cases opened : u.uploadId with
  | none =>
    obtain ⟨short, rfl, rfl⟩ := whole opened
    refine (Prog.ends_bind _ _ _ _).2 (ends_ask_granted ?_)
    rintro (fault | ⟨⟨⟩⟩) granted
    · cases granted
    · exact ⟨rfl, rfl, .whole short⟩
  | some id =>
    obtain ⟨long, tagged, rfl⟩ := parts id opened
    refine (Prog.ends_bind _ _ _ _).2 (ends_ask_granted ?_)
    rintro (fault | ⟨⟨⟩⟩) granted
    · cases granted
    · exact ⟨rfl, rfl, .parts long id u.tags tagged⟩

/-- A flush or a close commits what is gathered. -/
theorem commit_settles (positive : 0 < partSize) (h : Gathers bucket key partSize data u seen)
    (short : u.buffer.size < partSize) {call : Call} (settles : call.isWrite = false) :
    (call.run u).Ends (granting B) (fun r seen' =>
      r.2 = .ok () ∧ Settled bucket key partSize data r.1 seen') seen := by
  have flushes : (flush u).Ends (granting B) (fun r seen' =>
      r.2 = .ok () ∧ Settled bucket key partSize data r.1 seen') seen := by
    rw [flush_live h.live, commit]
    refine (sendRest_arranges positive h short).bind ?_
    rintro ⟨u', result⟩ seen' ⟨rfl, arranged⟩
    exact publish_settles arranged
  cases call with
  | write block => cases settles
  | flush => exact flushes
  | close =>
    dsimp only [Call.run, close]
    rw [if_neg (by simp [h.unclosed])]
    refine flushes.bind ?_
    rintro ⟨u', result⟩ seen' ⟨rfl, settled⟩
    exact ⟨rfl, settled.committed, settled.layout⟩

/-- A flush or a close of what is committed asks nothing. -/
theorem settled_again (h : Settled bucket key partSize data u seen) {call : Call}
    (settles : call.isWrite = false) :
    (call.run u).Ends (granting B) (fun r seen' =>
      r.2 = .ok () ∧ Settled bucket key partSize data r.1 seen') seen := by
  have dead : u.live = false := by simp [Upload.live, h.committed]
  cases call with
  | write block => cases settles
  | flush =>
    rw [Call.run, flush_quiet dead]
    exact ⟨rfl, h⟩
  | close =>
    dsimp only [Call.run, close]
    split
    · exact ⟨rfl, h⟩
    · rw [flush_quiet dead]
      exact ⟨rfl, h.committed, h.layout⟩

/-! ## All calls -/

/-- The calls that are still to come make an object of all the data: the rest of them is written and
then committed, or all of it is committed already. -/
inductive Heads (bucket key : String) (partSize : Nat) (total : ByteArray) (calls : List Call)
    (u : Upload) (seen : List (Exchange B)) : Prop
  | writing (data : ByteArray) (blocks : List ByteArray) (settling : List Call)
      (gathers : Gathers bucket key partSize data u seen) (short : u.buffer.size < partSize)
      (all : data ++ joined blocks = total) (some_left : settling ≠ [])
      (settles : ∀ call ∈ settling, call.isWrite = false)
      (left : calls = blocks.map .write ++ settling)
  | settling (settled : Settled bucket key partSize total u seen)
      (settles : ∀ call ∈ calls, call.isWrite = false)

/-- One call of those that are to come. -/
theorem Heads.step (positive : 0 < partSize) {total : ByteArray} {call : Call} {rest : List Call}
    (h : Heads bucket key partSize total (call :: rest) u seen) :
    (call.run u).Ends (granting B) (fun r seen' =>
      r.2 = .ok () ∧ Heads bucket key partSize total rest r.1 seen') seen := by
  cases h with
  | writing data blocks settling gathers short all some_left settles left =>
    cases blocks with
    | nil =>
      -- all blocks are written, and the first call behind them commits
      obtain rfl : call :: rest = settling := left
      rw [joined, ByteArray.append_empty] at all
      subst all
      refine (commit_settles positive gathers short (settles call (by simp))).mono ?_
      exact fun _ _ done => ⟨done.1, .settling done.2 fun c later => settles c (by simp [later])⟩
    | cons block blocks =>
      obtain ⟨rfl, rfl⟩ := List.cons_eq_cons.1 left
      refine (write_gathers positive gathers block).mono ?_
      rintro r seen' ⟨good, gathers, short⟩
      refine ⟨good, .writing _ blocks settling gathers short ?_ some_left settles rfl⟩
      rw [ByteArray.append_assoc, ← all, joined]
  | settling settled settles =>
    refine (settled_again settled (settles call (by simp))).mono ?_
    exact fun _ _ done => ⟨done.1, .settling done.2 fun c later => settles c (by simp [later])⟩

/-- All calls, one after another. -/
theorem play_heads (service : Service B σ) (grants : service.Grants) (positive : 0 < partSize)
    {total : ByteArray} (calls : List Call) :
    ∀ {u : Upload} {s : σ} {past : List (Round B)},
      Heads bucket key partSize total calls u (exchanges past) →
      (∀ round ∈ (play service u s calls).2.2, round.result = .ok ()) ∧
      Heads bucket key partSize total [] (play service u s calls).1
        (exchanges (past ++ (play service u s calls).2.2)) := by
  induction calls with
  | nil =>
    intro u s past h
    exact ⟨by simp [play], by simpa [play] using h⟩
  | cons call calls ih =>
    intro u s past h
    obtain ⟨u', s', own, result, played, ⟨good, heads⟩, -⟩ :=
      playCall_holds service grants (s := s) (h.step positive)
    have later := ih (s := s') heads
    simp only [play, played]
    rw [List.append_assoc] at later
    exact ⟨List.forall_mem_cons.2 ⟨good, later.1⟩, later.2⟩

/-! ## The same service, other blocks -/

end Upload

/-- A service makes these exchanges, one after another, and comes to a state. -/
def Service.Makes (service : Service B σ) : σ → List (Exchange B) → σ → Prop
  | s, [], s' => s' = s
  | s, e :: rest, s' => (service.answer e.request s).1 = e.reply ∧
    service.Makes (service.answer e.request s).2 rest s'

theorem Service.Makes.append {service : Service B σ} {seen more : List (Exchange B)} :
    ∀ {s s' s'' : σ}, service.Makes s seen s' → service.Makes s' more s'' →
      service.Makes s (seen ++ more) s'' := by
  induction seen with
  | nil =>
    rintro s s' s'' rfl later
    exact later
  | cons e rest ih => exact fun first later => ⟨first.1, ih first.2 later⟩

/-- What a program against a service adds to the record are exchanges that the service made. -/
theorem recorded_makes (service : Service B σ) {α : Type} (p : Program B α) :
    ∀ (s : σ) (seen : List (Exchange B)), ∃ own,
      (p.runWith service.recorded (s, seen)).2.2 = seen ++ own ∧
        service.Makes s own (p.runWith service.recorded (s, seen)).2.1 := by
  induction p with
  | done a => exact fun s seen => ⟨[], (List.append_nil seen).symm, rfl⟩
  | ask op next ih =>
    intro s seen
    cases op with
    | log entry => exact ih () s seen
    | request r =>
      obtain ⟨own, told, makes⟩ := ih (service.answer r s).1 (service.answer r s).2
        (seen ++ [⟨r, (service.answer r s).1⟩])
      exact ⟨⟨r, (service.answer r s).1⟩ :: own, told.trans (by simp), rfl, makes⟩

/-- The same service in the same state gives parts with the same bodies the same tags. -/
theorem sentParts_unique {service : Service B σ} {bucket key : String} {id : Value}
    {bodies : List ByteArray} {tail tail' : List (Exchange B)} :
    ∀ {s t t' : σ} {first : Nat} {tags tags' : List Value}, tags.length = bodies.length →
      tags'.length = bodies.length →
      service.Makes s (((bodies.zip tags).zipIdx first).map (fun entry =>
        ⟨.uploadPart bucket key id (entry.2 + 1) entry.1.1, .ok (some entry.1.2)⟩) ++ tail) t →
      service.Makes s (((bodies.zip tags').zipIdx first).map (fun entry =>
        ⟨.uploadPart bucket key id (entry.2 + 1) entry.1.1, .ok (some entry.1.2)⟩) ++ tail') t' →
      tags = tags' := by
  induction bodies with
  | nil =>
    intro s t t' first tags tags' length length' _ _
    rw [List.eq_nil_of_length_eq_zero length, List.eq_nil_of_length_eq_zero length']
  | cons body rest ih =>
    intro s t t' first tags tags' length length' makes makes'
    obtain ⟨tag, tags, rfl⟩ := List.exists_cons_of_length_eq_add_one length
    obtain ⟨tag', tags', rfl⟩ := List.exists_cons_of_length_eq_add_one length'
    -- both runs are in the same state, so the first parts get the same answer
    have same : (Except.ok (some tag) : Except Fault (Option Value)) = .ok (some tag') :=
      makes.1.symm.trans makes'.1
    injection same with same
    injection same with same
    subst same
    rw [ih (Nat.succ.inj length) (Nat.succ.inj length') makes.2 makes'.2]

/-- The same service in the same state gives the same data the same layout. -/
theorem Layout.unique {service : Service B σ} {bucket key : String} {partSize : Nat}
    {data : ByteArray} {seen seen' : List (Exchange B)} {s t t' : σ}
    (h : Layout bucket key partSize data seen) (h' : Layout bucket key partSize data seen')
    (makes : service.Makes s seen t) (makes' : service.Makes s seen' t') : seen = seen' := by
  cases h with
  | whole short =>
    cases h' with
    | whole _ => rfl
    | parts long => omega
  | parts long id tags tagged =>
    cases h' with
    | whole short => omega
    | parts _ id' tags' tagged' =>
      have same : (Except.ok (some id) : Except Fault (Option Value)) = .ok (some id') :=
        makes.1.symm.trans makes'.1
      injection same with same
      injection same with same
      subst same
      rw [sentParts_unique (tagged.trans length_slices.symm) (tagged'.trans length_slices.symm)
        makes.2 makes'.2]

namespace Upload

theorem play_makes (service : Service B σ) (calls : List Call) :
    ∀ (u : Upload) (s : σ),
      service.Makes s (exchanges (play service u s calls).2.2) (play service u s calls).2.1 := by
  induction calls with
  | nil => exact fun u s => rfl
  | cons call calls ih =>
    intro u s
    obtain ⟨own, told, makes⟩ := recorded_makes service (call.run u) s []
    exact Service.Makes.append (told ▸ makes) (ih _ _)

/-- A service that grants every request gets the data of an upload in a layout that only the data
and the size of a part decide: one put of data that are shorter than a part, and else the slices of
the data as parts from one on, between the opening of the upload and its completion with all the
tags.  In which blocks the data were written, and which of a flush and a close settled them, makes no
difference, and no call fails. -/
theorem layout_of_data (service : Service B σ) (grants : service.Grants) (s : σ)
    (bucket key : String) {partSize : Nat} (parted : 1 ≤ partSize) (blocks : List ByteArray)
    {settling : List Call} (settles : ∀ call ∈ settling, call.isWrite = false)
    (some_settling : settling ≠ []) :
    let rounds (blocks : List ByteArray) (settling : List Call) :=
      (play service { bucket, key, partSize } s (blocks.map .write ++ settling)).2.2
    (∀ round ∈ rounds blocks settling, round.result = .ok ()) ∧
    Layout bucket key partSize (joined blocks) (exchanges (rounds blocks settling)) ∧
    Cut partSize (joined blocks) (slices partSize (joined blocks)) ∧
    ∀ (blocks' : List ByteArray) (settling' : List Call), joined blocks' = joined blocks →
      (∀ call ∈ settling', call.isWrite = false) → settling' ≠ [] →
      exchanges (rounds blocks' settling') = exchanges (rounds blocks settling) := by
  have laid (blocks : List ByteArray) (settling : List Call)
      (settles : ∀ call ∈ settling, call.isWrite = false) (some_settling : settling ≠ []) :
      let rounds := (play service { bucket, key, partSize } s (blocks.map .write ++ settling)).2.2
      (∀ round ∈ rounds, round.result = .ok ()) ∧
        Layout bucket key partSize (joined blocks) (exchanges rounds) := by
    have start : Heads (B := B) bucket key partSize (joined blocks) (blocks.map .write ++ settling)
        { bucket, key, partSize } (exchanges []) :=
      .writing .empty blocks settling (.fresh bucket key partSize) parted (by simp) some_settling
        settles rfl
    obtain ⟨good, heads⟩ := play_heads service grants parted _ (s := s) start
    refine ⟨good, ?_⟩
    -- no call is left, so the upload is past its first commit
    cases heads with
    | writing data more rest _ _ _ some_left _ left => exact absurd (List.append_eq_nil_iff.1 left.symm).2 some_left
    | settling settled _ => exact settled.layout
  obtain ⟨good, layout⟩ := laid blocks settling settles some_settling
  refine ⟨good, layout, slices_cut parted _, ?_⟩
  intro blocks' settling' same settles' some_settling'
  obtain ⟨-, layout'⟩ := laid blocks' settling' settles' some_settling'
  rw [same] at layout'
  exact layout'.unique layout (play_makes service _ _ s) (play_makes service _ _ s)

/-- Nine bytes. -/
def nineBytes : ByteArray := ⟨#[97, 98, 99, 100, 101, 97, 98, 99, 100]⟩

/-- The exchanges that put some blocks in parts of four bytes. -/
def inFours (blocks : List ByteArray) (settling : List Call) : List (Exchange Unit) :=
  exchanges (play (tagging (some (.text "tag"))) { bucket := "b", key := "k", partSize := 4 } ()
    (blocks.map .write ++ settling)).2.2

/-- Nine bytes make three parts of four bytes, the last one short, in uneven blocks as in one. -/
theorem layout_of_nine_bytes :
    (tagging (some (.text "tag"))).Grants ∧ 1 ≤ 4 ∧
    (∀ call ∈ [Call.flush, Call.close], call.isWrite = false) ∧ [Call.flush, Call.close] ≠ [] ∧
    Layout "b" "k" 4 nineBytes (inFours [fourBytes, .empty, ⟨#[101]⟩, fourBytes] [.flush, .close]) ∧
    slices 4 nineBytes = [fourBytes, ⟨#[101, 97, 98, 99]⟩, ⟨#[100]⟩] ∧
    inFours [nineBytes] [.close] =
      inFours [fourBytes, .empty, ⟨#[101]⟩, fourBytes] [.flush, .close] := by
  have grants := tagging_grants (.text "tag")
  have settles : ∀ call ∈ [Call.flush, Call.close], call.isWrite = false := by simp [Call.isWrite]
  obtain ⟨-, layout, -, alike⟩ := layout_of_data (tagging (some (.text "tag"))) grants () "b" "k"
    (by decide : 1 ≤ 4) [fourBytes, .empty, ⟨#[101]⟩, fourBytes] settles (by simp)
  have all : joined [fourBytes, .empty, ⟨#[101]⟩, fourBytes] = nineBytes := by decide +kernel
  rw [all] at layout alike
  refine ⟨grants, by decide, settles, by simp, layout, by decide +kernel, ?_⟩
  exact alike [nineBytes] [.close] (by decide +kernel) (by simp [Call.isWrite]) (by simp)

end Upload
end S3
end Storage
end StoreMeter
