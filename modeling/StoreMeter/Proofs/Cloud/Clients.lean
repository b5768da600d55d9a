import StoreMeter.Proofs.Cloud.Streams
import StoreMeter.Proofs.Cloud.Targets
import StoreMeter.Proofs.Concert.Exact
/-
# Proofs.Cloud.Clients — what the workers do at a consistent service

A question of a worker to its storage is a whole program of requests, and a worker that has its key
to itself knows what is kept there: a `Client` is the stash of the key and the last time that the
worker saw.  As at a reliable storage in memory, such a worker comes to one outcome only.  A writer
leaves its object with the payload repeated up to the size and no upload of its own, and a reader
finds all of an object.
-/
namespace StoreMeter
namespace Concert

open Storage (Operation)
open Storage.S3 (ConsistentService Located OpenUploads Stash Upload perform stashEnv)

/-- The storage of an object service. -/
def cloud (service : ConsistentService) (partSize : Nat) :
    Backend (Storage.S3.Stream service.Body) where
  State := service.State
  Fate := Unit
  answer _ op s := (perform partSize op).runWith service.answers s
  ticks := steady

variable {B : Type} {home : B → String × String} {partSize : Nat} {bucket key : String}

/-! ## Surroundings of a worker -/

/-- What a worker knows: what is kept under its key, and the last time that it saw. -/
structure Client (B : Type) where
  stash : Stash B
  since : Option Binary64 := none

/-- A worker among others that leave its key alone, where nobody is late.  An operation comes to
what its requests come to. -/
def clientEnv (home : B → String × String) (mode : Mode) (partSize : Nat) (bucket key : String) :
    Surroundings (Worker.effects (Storage.S3.Stream B)) (Client B) where
  Allows l
    | .storage op => (perform partSize op).Ends (stashEnv home mode bucket key)
      (fun _ _ => True) l.stash
    | .clock | .log _ | .isLate _ _ => True
  Answers l op reply l' :=
    match op, reply with
    | .storage op, reply => ∃ stash,
      (perform partSize op).Comes (stashEnv home mode bucket key) l.stash reply stash ∧
        l' = { l with stash }
    | .clock, time => l' = { l with since := some time } ∧ steady l.since time = true
    | .log _, _ => l' = l
    | .isLate _ _, late => late = false ∧ l' = l

theorem client_silent (home : B → String × String) (mode : Mode) (partSize : Nat)
    (bucket key : String) : Worker.Silent (clientEnv home mode partSize bucket key) :=
  fun _ _ => ⟨trivial, fun _ _ same => same⟩

section
variable {mode : Mode} {l : Client B}

/-- A question to the storage comes to what its program comes to at the stash. -/
theorem Client.asks {op : Operation (Storage.S3.Stream B)} {goal : op.Answer → Client B → Prop}
    (h : (perform partSize op).Ends (stashEnv home mode bucket key)
      (fun reply stash => goal reply { l with stash }) l.stash) :
    (Prog.perform (E := Worker.effects (Storage.S3.Stream B)) (.storage op)).Ends
      (clientEnv home mode partSize bucket key) goal l := by
  refine ⟨h.mono fun _ _ _ => trivial, ?_⟩
  rintro reply _ ⟨stash, comes, rfl⟩
  exact h.of_comes comes

theorem isLate_client (late : Option Nat) (index : Int) (l : Client B) :
    (Phase.isLate (S := Storage.S3.Stream B) late index).Ends
      (clientEnv home mode partSize bucket key) (fun told l' => told = false ∧ l' = l) l := by
  cases late with
  | none => exact ⟨rfl, rfl⟩
  | some late => exact ⟨trivial, fun _ _ => id⟩

end

/-! ## Writers -/

/-- The stream of an upload that has taken in so many bytes of a payload. -/
def Uploads (bucket key : String) (opened : OpenUploads) (payload : ByteArray) (count : Nat)
    (stream : Storage.S3.Stream B) (stash : Stash B) : Prop :=
  ∃ u data, stream = .upload u ∧ u.Sends bucket key opened data stash ∧ Repeats payload data count

/-- The stream of an upload that was flushed with so many bytes of a payload. -/
def Uploaded (opened : OpenUploads) (payload : ByteArray) (count : Nat)
    (stream : Storage.S3.Stream B) (stash : Stash B) : Prop :=
  ∃ u data, stream = .upload u ∧ u.Sent opened data stash ∧ Repeats payload data count

/-- A key has its object whole, and no uploads but those of before. -/
def HoldsWhole (opened : OpenUploads) (payload : ByteArray) (size : Nat) (stash : Stash B) : Prop :=
  (∃ data, stash.object = some data ∧ Repeats payload data size) ∧ stash.uploads = opened

theorem HoldsWhole.same {opened : OpenUploads} {payload : ByteArray} {size : Nat}
    {stash after : Stash B} (h : HoldsWhole opened payload size stash) (same : stash.Same after) :
    HoldsWhole opened payload size after :=
  ⟨same.1 ▸ h.1, same.2.trans h.2⟩

section
variable {path : String} {payload : ByteArray} {opened : OpenUploads} {size : Nat}
variable {stream : Storage.S3.Stream B} {l : Client B}

theorem writeBlocks_client (given : 0 < payload.size) (size : Nat)
    (h : Uploads bucket key opened payload 0 stream l.stash) :
    (Worker.writeBlocks payload stream size).Ends (clientEnv home .write partSize bucket key)
      (fun moved l' => moved.2 = .ok () ∧
        Uploads bucket key opened payload size moved.1 l'.stash ∧ l'.since = l.since) l := by
  refine Worker.writeBlocks_whole given size (fun count stream (l' : Client B) =>
    Uploads bucket key opened payload count stream l'.stash ∧ l'.since = l.since) ?_ ⟨h, rfl⟩
  rintro count more _ l' whole block ⟨⟨u, data, rfl, sends, repeats⟩, same⟩
  refine Client.asks ((Upload.write_stores sends _).bind ?_)
  rintro ⟨u, _⟩ stash ⟨sends, rfl⟩
  exact ⟨⟨_, rfl⟩, ⟨u, _, rfl, sends, repeats.append whole block⟩, same⟩

theorem writeAll_client (given : 0 < payload.size) (size : Nat)
    (h : Uploads bucket key opened payload 0 stream l.stash) :
    (Worker.writeAll payload size stream).Ends (clientEnv home .write partSize bucket key)
      (fun moved l' => moved.2 = .ok size ∧ Uploaded opened payload size moved.1 l'.stash ∧
        l'.since = l.since) l := by
  apply (writeBlocks_client given size h).bind
  rintro ⟨_, _⟩ l' ⟨rfl, ⟨u, data, rfl, sends, repeats⟩, same⟩
  have flushed : (Worker.flush (.upload u)).Ends (clientEnv home .write partSize bucket key)
      (fun reply l' => reply.2 = .ok () ∧ Uploaded opened payload size reply.1 l'.stash ∧
        l'.since = l.since) l' := by
    refine Client.asks ((Upload.flush_stores sends).bind ?_)
    rintro ⟨u, _⟩ stash ⟨sent, rfl⟩
    exact ⟨rfl, ⟨u, data, rfl, sent, repeats⟩, same⟩
  apply flushed.bind
  rintro ⟨stream, _⟩ l' ⟨rfl, sent, same⟩
  exact ⟨rfl, sent, same⟩

/-- The contract of a writer that nothing disturbs. -/
def clientWriter (split : Storage.S3.splitPath path = .ok (bucket, key)) (parted : 0 < partSize)
    (given : 0 < payload.size) (opened : OpenUploads) (size : Nat) :
    Worker.Errand (clientEnv home .write partSize bucket key) .write (Worker.create path)
      (Worker.writeAll payload size) where
  Ready l := l.stash.uploads = opened
  Timed start l := l.stash.uploads = opened ∧ Shown l.since start
  Open start stream l := Uploads bucket key opened payload 0 stream l.stash ∧ Shown l.since start
  Moved start stream l := Uploaded opened payload size stream l.stash ∧ Shown l.since start
  Over l := HoldsWhole opened payload size l.stash
  Counts bytes := bytes = size
  Takes result := ∃ d, result = .ok ⟨.write, d, size⟩
  Closes reply := reply = .ok ()
  silent := client_silent home .write partSize bucket key
  begins same := by
    refine ⟨trivial, ?_⟩
    rintro start _ ⟨rfl, ticks⟩
    exact ⟨same, shown_now ticks⟩
  opens {start l} began := by
    obtain ⟨u, created, sends⟩ := Storage.S3.create_sends (B := B) split parted
    refine Client.asks ?_
    rw [created]
    exact ⟨⟨u, .empty, rfl, began.1 ▸ sends l.stash, repeats_empty payload⟩, began.2⟩
  moves {start stream l} h := by
    apply (writeAll_client given size h.1).mono
    rintro ⟨stream, _⟩ l' ⟨rfl, sent, same⟩
    exact ⟨⟨sent, same ▸ h.2⟩, rfl⟩
  measures {start stream bytes l} h counted := by
    refine ⟨trivial, ?_⟩
    rintro now _ ⟨rfl, ticks⟩
    refine ⟨⟨h.1, h.2.later ticks⟩, ?_⟩
    rw [measurement_made _ (h.2.le ticks), counted]
    exact ⟨_, rfl⟩
  closes {start stream l} h := by
    obtain ⟨⟨u, data, rfl, sent, repeats⟩, -⟩ := h
    have closed : (Worker.close (.upload u)).Ends (clientEnv home .write partSize bucket key)
        (fun reply l' => reply.2 = .ok () ∧ HoldsWhole opened payload size l'.stash) l := by
      refine Client.asks ((Upload.close_stores sent).bind ?_)
      rintro ⟨u, _⟩ _ ⟨rfl, rfl⟩
      exact ⟨rfl, ⟨data, sent.object, repeats⟩, sent.uploads⟩
    exact closed

/-- A writer that nothing disturbs uploads all its bytes and leaves its object whole. -/
theorem writeJob_client {settings : Settings} {index : Int}
    (split : Storage.S3.splitPath (settings.objectPath index) = .ok (bucket, key))
    (parted : 0 < partSize) (given : 0 < payload.size) (late : Option Nat) (size : Nat)
    (l : Client B) :
    (Phase.writeJob (S := Storage.S3.Stream B) settings size payload late index).Ends
      (clientEnv home .write partSize bucket key) (fun r l' => Exactly .write index size r ∧
        HoldsWhole l.stash.uploads payload size l'.stash) l := by
  refine writeJob_exactly (isLate_client late index) ?_
  unfold Worker.writeTask
  -- the payload has bytes, so the writer starts
  rw [if_neg fun none => Nat.ne_of_gt given none.1]
  refine ((clientWriter split parted given _ size).measured_ends size rfl).mono
    fun r l h => ⟨?_, h.2⟩
  refine exactly_of_concluded _ (fun r taken => taken) ?_ h.1
  intro fault told
  cases told

end

/-! ## Readers -/

/-- The stream of a download of which so many bytes were read. -/
def Downloads (home : B → String × String) (bucket key : String) (data : ByteArray) (count : Nat)
    (stream : Storage.S3.Stream B) (stash : Stash B) : Prop :=
  ∃ body path, home body = (bucket, key) ∧ stream = .download body path false ∧
    count + (stash.unread body).size = data.size

section
variable {path : String} {data : ByteArray} {bufferSize : Int} {size : Nat}
variable {stream : Storage.S3.Stream B} {l : Client B}

theorem readBlocks_client (positive : 0 < bufferSize)
    (h : Downloads home bucket key data 0 stream l.stash) :
    (Worker.readBlocks bufferSize size stream 0).Ends (clientEnv home .read partSize bucket key)
      (fun moved l' => moved.2 = .ok (min size data.size) ∧ ∃ count,
        Downloads home bucket key data count moved.1 l'.stash ∧ l'.since = l.since) l := by
  refine Worker.readBlocks_whole (fun count stream (l' : Client B) =>
    Downloads home bucket key data count stream l'.stash ∧ l'.since = l.since) ?_ ?_ ⟨h, rfl⟩
  · rintro count stream l' ⟨⟨body, path, -, -, left⟩, -⟩
    omega
  · rintro count _ l' more ⟨⟨body, path, streams, rfl, left⟩, same⟩
    have asked : 0 < min bufferSize (size - count) := by omega
    refine Client.asks ((Storage.S3.read_streams streams asked).mono ?_)
    rintro _ stash ⟨-, block, rfl, most, split, last⟩
    -- what was read and what is left make up the object
    have further : count + block.size + (stash.unread body).size = data.size := by omega
    refine ⟨block, rfl, by omega, ⟨⟨body, path, streams, rfl, further⟩, same⟩, fun empty => ?_⟩
    have none_left := last empty
    omega

/-- The contract of a reader that finds an object and that nothing disturbs. -/
def clientReader (split : Storage.S3.splitPath path = .ok (bucket, key)) (data : ByteArray)
    {bufferSize : Int} (positive : 0 < bufferSize) (size : Nat) :
    Worker.Errand (clientEnv home .read partSize bucket key) .read (Worker.openRead path)
      (fun stream => Worker.readBlocks bufferSize size stream 0) where
  Ready l := l.stash.object = some data
  Timed start l := l.stash.object = some data ∧ Shown l.since start
  Open start stream l := Downloads home bucket key data 0 stream l.stash ∧ Shown l.since start
  Moved start stream l := (∃ count, Downloads home bucket key data count stream l.stash) ∧
    Shown l.since start
  Over _ := True
  Counts bytes := bytes = min size data.size
  Takes result := ∃ d, result = .ok ⟨.read, d, (min size data.size : Nat)⟩
  Closes reply := reply = .ok ()
  silent := client_silent home .read partSize bucket key
  begins there := by
    refine ⟨trivial, ?_⟩
    rintro start _ ⟨rfl, ticks⟩
    exact ⟨there, shown_now ticks⟩
  opens {start l} h := by
    refine Client.asks ((Storage.S3.openRead_streams split h.1).mono ?_)
    rintro _ stash ⟨-, body, streams, rfl, unread⟩
    exact ⟨⟨body, path, streams, rfl, by rw [unread, Nat.zero_add]⟩, h.2⟩
  moves {start stream l} h := by
    apply (readBlocks_client positive h.1).mono
    rintro ⟨stream, _⟩ l' ⟨rfl, count, downloads, same⟩
    exact ⟨⟨⟨count, downloads⟩, same ▸ h.2⟩, rfl⟩
  measures {start stream bytes l} h counted := by
    refine ⟨trivial, ?_⟩
    rintro now _ ⟨rfl, ticks⟩
    refine ⟨⟨h.1, h.2.later ticks⟩, ?_⟩
    rw [measurement_made _ (h.2.le ticks), counted]
    exact ⟨_, rfl⟩
  closes {start stream l} h := by
    obtain ⟨⟨count, body, path, streams, rfl, -⟩, -⟩ := h
    have closed : (Worker.close (.download body path false)).Ends
        (clientEnv home .read partSize bucket key) (fun reply _ => reply.2 = .ok () ∧ True) l := by
      refine Client.asks ((Storage.S3.close_streams streams).mono ?_)
      rintro _ stash ⟨-, rfl⟩
      exact ⟨rfl, trivial⟩
    exact closed

/-- A reader that nothing disturbs reads all bytes of a whole object. -/
theorem readJob_client {settings : Settings} {index : Int}
    (split : Storage.S3.splitPath (settings.objectPath index) = .ok (bucket, key))
    (positive : 0 < bufferSize) (late : Option Nat) (there : l.stash.object = some data)
    (count : data.size = size) :
    (Phase.readJob (S := Storage.S3.Stream B) settings size bufferSize late index).Ends
      (clientEnv home .read partSize bucket key) (fun r _ => Exactly .read index size r) l := by
  apply (isLate_client late index l).bind
  rintro _ _ ⟨rfl, rfl⟩
  refine ((clientReader split data positive size).measured_ends size there).mono fun r l' h => ?_
  refine exactly_of_concluded _ (fun r taken => ?_) ?_ h.1
  -- the object is as long as what the reader asks for
  · obtain ⟨d, rfl⟩ := taken
    exact ⟨d, by rw [count, Nat.min_self]⟩
  · intro fault told
    cases told

end

end Concert
end StoreMeter
