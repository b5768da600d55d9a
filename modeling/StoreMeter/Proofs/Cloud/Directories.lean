import StoreMeter.Phase
import StoreMeter.Proofs.Cloud.Failures
/-
# Proofs.Cloud.Directories — whether a target that was made is found again

A target is made by a marker, and the marker is found by those who look for keys under the name of
the target.  There is no marker for a key that is made of slashes: making it sees to the bucket and
leaves the rest.  But only for the empty key looking for it is content with the bucket.  So for a
key of slashes alone, the target that was made is there only if some key of the bucket begins with a
slash (`made_found`).

Nothing is assumed of the service but that what it grants is done and that its answers tell what
there is; it may refuse to create a bucket or to put an object.
-/
namespace StoreMeter
namespace Storage
namespace S3

variable {B : Type} {path bucket key : String} {inventory : Inventory}

/-! ## A service whose answers tell what there is -/

/-- The answer to a request, and what there is afterwards.  What is granted is done. -/
def Inventory.Serves (inventory : Inventory) :
    (r : Request B) → Except Fault r.Reply → Inventory → Prop
  | .headBucket bucket, reply, after => after = inventory ∧ Tells (inventory.Has bucket) reply
  | .headObject bucket key, reply, after =>
    after = inventory ∧ Tells (inventory.Has bucket ∧ inventory.Holds bucket key) reply
  | .listObjects bucket start, reply, after => after = inventory ∧
    (inventory.Has bucket →
      ∃ listing, reply = .ok listing ∧ listing.Counts (inventory.AnyUnder bucket start)) ∧
    (¬ inventory.Has bucket → ∃ fault, reply = .error fault ∧ NotFound fault)
  | .createBucket bucket, reply, after => reply = .ok () → after.Has bucket
  | .putObject bucket key _, reply, after =>
    reply = .ok () → after.Has bucket ∧ after.Holds bucket key
  | _, _, _ => True

/-- Anything may be asked of such a service. -/
def inventoryEnv (B : Type) : Surroundings (effects B) Inventory where
  Allows _ _ := True
  Answers
    | inventory, .request r, reply, after => inventory.Serves r reply after
    | inventory, .log _, _, after => after = inventory

theorem informed_inventory : Informed (inventoryEnv B) id where
  allows _ _ := trivial
  headBucket answered := answered
  headObject answered := answered
  listObjects answered := answered

/-! ## Making a target -/

/-- Is the target there by its bucket or by a marker: is its key empty, or has it a character that
is no slash? -/
def Marked (key : String) : Prop := key = "" ∨ ∃ c ∈ key.toList, c ≠ '/'

theorem trimSlashes_ne_empty : trimSlashes key ≠ "" ↔ ∃ c ∈ key.toList, c ≠ '/' := by
  rw [ne_eq, trimSlashes_eq_empty]
  simp only [not_forall, exists_prop]

/-- The key of a marker, where nothing but slashes is left. -/
theorem markerKey_of_slashes (slashes : trimSlashes key = "") : markerKey key = "/" := by
  rw [markerKey, slashes]
  rfl

/-- A target that is there would be there after it was made. -/
theorem Inventory.There.marked (h : inventory.There bucket key) :
    Marked key ∨ inventory.AnyUnder bucket "/" := by
  by_cases slashes : trimSlashes key = ""
  · obtain ⟨-, root | ⟨-, object⟩ | under⟩ := h
    · exact .inl (.inl root)
    · -- a key of slashes begins with a slash itself
      cases chars : key.toList with
      | nil => exact .inl (.inl (String.toList_eq_nil_iff.1 chars))
      | cons c rest =>
        have first := trimSlashes_eq_empty.1 slashes c (chars ▸ List.mem_cons_self)
        refine .inr ⟨key, ?_, object⟩
        rw [chars, first]
        exact List.prefix_append ['/'] rest
    · rw [markerKey_of_slashes slashes] at under
      exact .inr under
  · exact .inl (.inr (trimSlashes_ne_empty.1 slashes))

/-- What there is of a target after it was made. -/
structure Inventory.Made (inventory : Inventory) (bucket key : String) : Prop where
  has : inventory.Has bucket
  marker : trimSlashes key ≠ "" → inventory.Holds bucket (markerKey key)

theorem Inventory.Made.there (h : inventory.Made bucket key) :
    inventory.There bucket key ↔ Marked key ∨ inventory.AnyUnder bucket "/" := by
  refine ⟨Inventory.There.marked, ?_⟩
  by_cases slashes : trimSlashes key = ""
  · rintro ((root | named) | under)
    · exact ⟨h.has, .inl root⟩
    · exact absurd slashes (trimSlashes_ne_empty.2 named)
    · rw [← markerKey_of_slashes slashes] at under
      exact ⟨h.has, .inr (.inr under)⟩
  · exact fun _ => ⟨h.has, .inr (.inr ⟨markerKey key, List.prefix_rfl, h.marker slashes⟩)⟩

theorem makeBucket_granted :
    (makeBucket path bucket).Ends (inventoryEnv B)
      (fun reply after => reply = .ok () → after.Has bucket) inventory := by
  refine ⟨trivial, ?_⟩
  rintro reply _ ⟨rfl, tells⟩
  rename_i after
  by_cases there : after.Has bucket
  · exact (tells.1 there).symm ▸ fun _ => there
  · obtain ⟨fault, rfl, not_found⟩ := tells.2 there
    -- the bucket is created, since the refusal says that it is missing
    refine Prog.ends_ite (fun _ => ⟨trivial, ?_⟩) fun present =>
      absurd (not_found.isAbsent path) present
    rintro _ _ rfl
    refine ⟨trivial, fun reply made created told => created ?_⟩
    cases reply with
    | ok _ => rfl
    | error fault => cases told

/-- A target that was made has its bucket, and its marker unless its key is made of slashes. -/
theorem makeDirs_made (h : Addressed path bucket key) :
    (makeDirs path).Ends (inventoryEnv B)
      (fun reply after => reply = .ok () → after.Made bucket key) inventory := by
  unfold makeDirs
  rw [h.split]
  dsimp only
  -- whether there is a marker is not computed here
  generalize slashed : (trimSlashes key).isEmpty = slashes
  refine makeBucket_granted.bind ?_
  rintro (fault | _) made has
  · exact nofun
  have has := has rfl
  cases slashes with
  | true => exact fun _ => ⟨has, fun named => absurd (String.isEmpty_iff.1 slashed) named⟩
  | false =>
    refine ⟨trivial, fun reply after put told => ?_⟩
    have granted : reply = .ok () := by
      cases reply with
      | ok _ => rfl
      | error fault => cases told
    exact ⟨(put granted).1, fun _ => (put granted).2⟩

/-- Making a target, and looking for it right afterwards. -/
def makeAndLook (path : String) : Program B (Except Fault Unit × Except Fault Bool) := do
  let made ← makeDirs path
  let found ← isPresent path
  pure (made, found)

end S3
end Storage

namespace Phase

open Storage (Operation)
open Storage.S3 (Addressed Inventory Marked inventoryEnv informed_inventory isPresent_told
  makeDirs_made makeAndLook perform)

variable {B : Type} {partSize : Nat} {path bucket key : String} {inventory : Inventory}

/-! ## The targets of phases -/

/-- The main thread at such a service, while it sees to a target. -/
def atInventory (B : Type) (partSize : Nat) :
    Surroundings (Conductor.effects (Storage.S3.Stream B)) Inventory where
  Allows
    | _, .storage _ | _, .log _ => True
    | _, _ => False
  Answers
    | inventory, .storage op, reply, after =>
      (perform partSize op).Comes (inventoryEnv B) inventory reply after
    | inventory, .log _, _, after => after = inventory
    | _, _, _, _ => True

/-- An operation, with what is known of its requests. -/
theorem ends_operation {op : Operation (Storage.S3.Stream B)}
    {goal : op.Answer → Inventory → Prop}
    (h : (perform partSize op).Ends (inventoryEnv B) goal inventory) :
    (Prog.perform (E := Conductor.effects (Storage.S3.Stream B)) (.storage op)).Ends
      (atInventory B partSize) goal inventory :=
  ⟨trivial, fun _ _ comes => h.of_comes comes⟩

/-- For reading a target is accepted if it is there. -/
theorem prepareTarget_read (h : Addressed path bucket key) :
    (prepareTarget path .read).Ends (atInventory B partSize) (fun accepted after =>
      after = inventory ∧ (accepted = .ok () ↔ inventory.There bucket key)) inventory := by
  refine (ends_operation (isPresent_told informed_inventory h.split)).bind ?_
  rintro _ after ⟨rfl, b, rfl, there⟩
  cases b with
  | true => exact ⟨rfl, iff_of_true rfl (there.1 rfl)⟩
  | false => exact ⟨rfl, iff_of_false nofun fun is_there => Bool.false_ne_true (there.2 is_there)⟩

/-- What was accepted for writing is there, unless its key is made of slashes and no key of the
bucket begins with one. -/
theorem prepareTarget_write (h : Addressed path bucket key) :
    (prepareTarget path .write).Ends (atInventory B partSize) (fun accepted after =>
      accepted = .ok () →
        (after.There bucket key ↔ Marked key ∨ after.AnyUnder bucket "/")) inventory := by
  refine (ends_operation (isPresent_told informed_inventory h.split)).bind ?_
  rintro _ after ⟨rfl, b, rfl, there⟩
  -- only what was not found is made
  cases b with
  | true => exact fun _ => iff_of_true (there.1 rfl) (there.1 rfl).marked
  | false =>
    refine ⟨trivial, ?_⟩
    rintro _ _ rfl
    refine (ends_operation (makeDirs_made h)).bind fun made now marker told => ?_
    cases made with
    | ok _ => exact (marker rfl).there
    | error fault => cases told

/-- Seeing to a target for writing, and for reading right afterwards. -/
def writeAndRead {S : Type} (path : String) :
    Conductor.Program S (Except Fault Unit × Except Fault Unit) := do
  let accepted ← prepareTarget path .write
  let found ← prepareTarget path .read
  pure (accepted, found)

/-- At a service that does what it grants and tells what there is, a target that was made is found
again, exactly if its key is empty or has a character that is no slash, or else if some key of the
bucket begins with a slash; and so a target that was accepted for writing is accepted for reading.
-/
theorem made_found (B : Type) (partSize : Nat) (inventory : Inventory)
    (h : Addressed path bucket key) :
    (makeAndLook path).Ends (inventoryEnv B) (fun r after => r.1 = .ok () →
      ∃ b, r.2 = .ok b ∧ (b = true ↔ Marked key ∨ after.AnyUnder bucket "/")) inventory ∧
    (writeAndRead path).Ends (atInventory B partSize) (fun r after => r.1 = .ok () →
      (r.2 = .ok () ↔ Marked key ∨ after.AnyUnder bucket "/")) inventory := by
  constructor
  · refine (makeDirs_made h).bind fun made now marker => ?_
    refine (isPresent_told informed_inventory h.split).bind ?_
    rintro _ after ⟨rfl, b, rfl, there⟩ told
    exact ⟨b, rfl, there.trans (marker told).there⟩
  · refine (prepareTarget_write h).bind fun accepted now kept => ?_
    refine (prepareTarget_read h).bind ?_
    rintro found after ⟨rfl, there⟩ told
    exact there.trans (kept told)

/-! ## A target of slashes -/

/-- One bucket, with nothing in it. -/
def emptyBucket : Inventory := ⟨(· = "b"), fun _ _ => False⟩

/-- A refusal that says that something is not there. -/
def missing : Fault := .refused ⟨"Any", some "404", none, none⟩

/-- The answers of a service with an empty bucket, which takes nothing in. -/
def emptyReply : (r : Storage.S3.Request Unit) → Except Fault r.Reply
  | .headBucket bucket => if bucket = "b" then .ok () else .error missing
  | .listObjects bucket _ => if bucket = "b" then .ok ⟨some (.nat 0), none⟩ else .error missing
  | _ => .error missing

/-- What the storage is answered by this service. -/
def answeredEmpty : (op : Storage.S3.Op Unit) → Unit → op.Answer × Unit
  | .request r, _ => (emptyReply r, ())
  | .log _, _ => ((), ())

theorem answeredEmpty_inventory (op : Storage.S3.Op Unit) :
    (inventoryEnv Unit).Answers emptyBucket op (answeredEmpty op ()).1 emptyBucket := by
  have not_found : Storage.S3.NotFound missing := ⟨_, "404", rfl, rfl, by decide⟩
  cases op with
  | log entry => rfl
  | request r =>
    cases r with
    | headBucket bucket =>
      exact ⟨rfl, fun there => if_pos there, fun other => ⟨_, if_neg other, not_found⟩⟩
    | headObject bucket key => exact ⟨rfl, fun there => there.2.elim, fun _ => ⟨_, rfl, not_found⟩⟩
    | listObjects bucket start =>
      refine ⟨rfl, fun there => ⟨_, if_pos there, ⟨0, rfl, ?_⟩, .inl rfl⟩,
        fun other => ⟨_, if_neg other, not_found⟩⟩
      exact iff_of_false (by decide) fun any => any.elim fun _ found => found.2
    | createBucket bucket | putObject bucket key body => exact nofun
    | _ => trivial

/-- What the main thread is answered. -/
def answeredAtEmpty : (op : Conductor.Op (Storage.S3.Stream Unit)) → Unit → op.Answer × Unit
  | .storage op, _ => (((perform 1 op).runWith answeredEmpty ()).1, ())
  | .entropy _, _ | .wait _ _ _, _ | .result _ _, _ => (.error missing, ())
  | .newPool _ _, _ | .submit _ _, _ | .newLate, _ => ((0 : Nat), ())
  | .cancel _ _, _ => (false, ())
  | .lateIndexes _, _ => ([], ())
  | .log _, _ | .shutdown _ _ _, _ | .addLate _ _, _ | .enter _, _ => ((), ())

theorem answeredAtEmpty_inventory (op : Conductor.Op (Storage.S3.Stream Unit)) :
    (atInventory Unit 1).Answers emptyBucket op (answeredAtEmpty op ()).1 emptyBucket := by
  cases op with
  | storage op =>
    exact Prog.comes_runWith answeredEmpty (fun _ => emptyBucket)
      (fun op _ => answeredEmpty_inventory op) (perform 1 op) ()
  | log entry => rfl
  | _ => trivial

/-- A bucket is a target that is found again. -/
theorem made_found_bucket :
    Addressed "s3://b" "b" "" ∧
    ((makeAndLook "s3://b").runWith answeredEmpty ()).1 = (.ok (), .ok true) ∧
    ((writeAndRead "s3://b").runWith answeredAtEmpty ()).1 = (.ok (), .ok ()) ∧
    (Marked "" ∨ emptyBucket.AnyUnder "b" "/") := by
  have addressed : Addressed "s3://b" "b" "" := ⟨.inr ⟨rfl, rfl⟩, by decide, by decide⟩
  have accepts := (made_found Unit 1 emptyBucket addressed).2.runWith
    (E := Conductor.effects (Storage.S3.Stream Unit)) (t := ()) answeredAtEmpty
    (fun _ => emptyBucket) fun op _ => answeredAtEmpty_inventory op
  have accepted : ((writeAndRead "s3://b").runWith answeredAtEmpty ()).1 = (.ok (), .ok ()) := rfl
  rw [accepted] at accepts
  exact ⟨addressed, rfl, accepted, (accepts rfl).1 rfl⟩

/-- A target of slashes is made, but it is not found; it is accepted for writing, but not for
reading. -/
theorem slashes_lost :
    Addressed "s3://b//" "b" "/" ∧
    ¬ (makeAndLook "s3://b//").Ends (inventoryEnv Unit)
      (fun r _ => r.1 = .ok () → r.2 = .ok true) emptyBucket ∧
    ¬ (writeAndRead "s3://b//").Ends (atInventory Unit 1)
      (fun r _ => r.1 = .ok () → r.2 = .ok ()) emptyBucket := by
  refine ⟨⟨.inl rfl, by decide, by decide⟩, fun looks => ?_, fun accepts => ?_⟩
  · have made : ((makeAndLook "s3://b//").runWith answeredEmpty ()).1 = (.ok (), .ok false) := by
      decide +kernel
    have found := looks.runWith (t := ()) answeredEmpty (fun _ => emptyBucket)
      fun op _ => answeredEmpty_inventory op
    rw [made] at found
    cases found rfl
  · have made : ((writeAndRead "s3://b//").runWith answeredAtEmpty ()).1 =
        (.ok (), .error (.setup "The target directory s3://b// does not exist!")) := by
      decide +kernel
    have accepted := accepts.runWith (E := Conductor.effects (Storage.S3.Stream Unit)) (t := ())
      answeredAtEmpty (fun _ => emptyBucket) fun op _ => answeredAtEmpty_inventory op
    rw [made] at accepted
    cases accepted rfl

end Phase
end StoreMeter
