import Mathlib.Data.Finmap
import StoreMeter.Proofs.Cloud.Holdings
/-
# Proofs.Cloud.Keeper — a consistent service on finite maps

A service that keeps its objects, the parts of its open uploads and what is left of its bodies in
finite maps.  It numbers uploads and bodies as they come.  Every request is answered as a strongly
consistent service answers it, and what a request is not about stays as it is (`Keeper.serves`).
-/
namespace StoreMeter
namespace Storage
namespace S3

/-- A place for an object: a bucket and a key. -/
abbrev Place := String × String

/-- What the service keeps. -/
structure Keeper where
  buckets : List String
  objects : Finmap fun _ : Place => ByteArray
  /-- The parts of the open uploads, by their places and numbers. -/
  uploads : Finmap fun _ : Place × Int => List (Part × ByteArray)
  /-- What is left to read of the bodies, by their places and numbers. -/
  bodies : Finmap fun _ : Place × Int => ByteArray
  /-- The number of the next upload or body. -/
  next : Int
  numbered {place : Place} {n : Int} (member : (place, n) ∈ uploads) : n < next

namespace Keeper

/-- A service with these buckets and nothing in them. -/
def new (buckets : List String) : Keeper where
  buckets
  objects := ∅
  uploads := ∅
  bodies := ∅
  next := 0
  numbered member := absurd member Finmap.notMem_empty

/-- The number of an upload by its id. -/
def numberOf : Value → Option Int
  | .scalar (.int n) => some n
  | _ => none

/-- An open upload with its number. -/
def upload? (s : Keeper) (place : Place) (id : Value) : Option (Int × List (Part × ByteArray)) := do
  let n ← numberOf id
  let parts ← s.uploads.lookup (place, n)
  return (n, parts)

/-! ## Changes -/

/-- An object is stored. -/
def put (s : Keeper) (place : Place) (data : ByteArray) : Keeper :=
  { s with objects := s.objects.insert place data }

/-- An object is removed. -/
def remove (s : Keeper) (place : Place) : Keeper := { s with objects := s.objects.erase place }

/-- An upload has these parts, and is opened if it was not. -/
def keep (s : Keeper) (place : Place) (n : Int) (parts : List (Part × ByteArray)) : Keeper where
  buckets := s.buckets
  objects := s.objects
  uploads := s.uploads.insert (place, n) parts
  bodies := s.bodies
  next := max s.next (n + 1)
  numbered {_ m} member := by
    rcases Finmap.mem_insert.1 member with same | old
    · have number : m = n := congrArg Prod.snd same
      omega
    · have below := s.numbered old
      omega

/-- An upload is closed. -/
def drop (s : Keeper) (place : Place) (n : Int) : Keeper where
  buckets := s.buckets
  objects := s.objects
  uploads := s.uploads.erase (place, n)
  bodies := s.bodies
  next := s.next
  numbered member := s.numbered (Finmap.mem_erase.1 member).2

/-- So much is left of a body. -/
def leave (s : Keeper) (body : Place × Int) (data : ByteArray) : Keeper where
  buckets := s.buckets
  objects := s.objects
  uploads := s.uploads
  bodies := s.bodies.insert body data
  next := s.next + 1
  numbered member := by
    have below := s.numbered member
    omega

/-! ## Answers -/

/-- The refusal that says that something is not there. -/
def missing : Fault := .refused ⟨"Request", some "404", some "Not Found", none⟩

/-- The answer to the question for one thing. -/
def told (there : Prop) [Decidable there] : Except Fault Unit :=
  if there then .ok () else .error missing

/-- The places in a bucket whose keys begin with a text. -/
def listed (s : Keeper) (bucket start : String) : Finset Place :=
  s.objects.keys.filter fun place => place.1 = bucket ∧ start.toList <+: place.2.toList

/-- An open upload gets one more part. -/
def addPart (s : Keeper) (place : Place) (id : Value) (number : Nat) (body : ByteArray) :
    Except Fault (Option Value) × Keeper :=
  match s.upload? place id with
  | none => (.error missing, s)
  | some (n, parts) =>
    (.ok (some (.nat number)), s.keep place n (parts ++ [(⟨number, .nat number⟩, body)]))

/-- The object of an open upload is published. -/
def complete (s : Keeper) (place : Place) (id : Value) : Except Fault Unit × Keeper :=
  match s.upload? place id with
  | none => (.error missing, s)
  | some (n, parts) => (.ok (), (s.put place (joined (parts.map Prod.snd))).drop place n)

/-- An open upload is given up. -/
def abort (s : Keeper) (place : Place) (id : Value) : Except Fault Unit × Keeper :=
  match s.upload? place id with
  | none => (.error missing, s)
  | some (n, _) => (.ok (), s.drop place n)

/-- A new body streams an object. -/
def stream (s : Keeper) (place : Place) : Except Fault (Option (Place × Int)) × Keeper :=
  match s.objects.lookup place with
  | none => (.error missing, s)
  | some data => (.ok (some (place, s.next)), s.leave (place, s.next) data)

/-- How much of some data a read takes. -/
def stop (data : ByteArray) : Option Nat → Nat
  | none => data.size
  | some most => min most data.size

/-- The answer of the service to a request, and what it keeps afterwards. -/
def answer : (r : Request (Place × Int)) → Keeper → Except Fault r.Reply × Keeper
  | .headBucket bucket, s => (told (bucket ∈ s.buckets), s)
  | .headObject bucket key, s => (told (bucket ∈ s.buckets ∧ (bucket, key) ∈ s.objects), s)
  | .listObjects bucket start, s =>
    (if bucket ∈ s.buckets then .ok ⟨some (.nat (s.listed bucket start).card), none⟩
      else .error missing, s)
  | .createBucket bucket, s => (.ok (), { s with buckets := bucket :: s.buckets })
  | .putObject bucket key body, s => (.ok (), s.put (bucket, key) body)
  | .createUpload bucket key, s => (.ok (some (.int s.next)), s.keep (bucket, key) s.next [])
  | .uploadPart bucket key id number body, s => s.addPart (bucket, key) id number body
  | .completeUpload bucket key id _, s => s.complete (bucket, key) id
  | .abortUpload bucket key id, s => s.abort (bucket, key) id
  | .getObject bucket key, s => s.stream (bucket, key)
  | .deleteObject bucket key, s => (.ok (), s.remove (bucket, key))
  | .readBody body size, s =>
    let data := (s.bodies.lookup body).getD .empty
    (.ok (data.extract 0 (stop data size)), s.leave body (data.extract (stop data size) data.size))
  | .closeBody _, s => (.ok (), s)

/-! ## What the service keeps -/

/-- What is kept under a key. -/
def stash (s : Keeper) (bucket key : String) : Stash (Place × Int) where
  object := s.objects.lookup (bucket, key)
  uploads id := (s.upload? (bucket, key) id).map Prod.snd
  unread body := if body.1 = (bucket, key) then (s.bodies.lookup body).getD .empty else .empty

/-- What is kept in all buckets. -/
def holds (s : Keeper) : Holdings (Place × Int) := ⟨(· ∈ s.buckets), s.stash⟩

theorem upload?_eq_some {s : Keeper} {place : Place} {id : Value} {n : Int}
    {parts : List (Part × ByteArray)} :
    s.upload? place id = some (n, parts) ↔
      id = .int n ∧ s.uploads.lookup (place, n) = some parts := by
  constructor
  · intro found
    obtain ⟨m, number, found⟩ := Option.bind_eq_some_iff.1 found
    obtain ⟨parts', there, same⟩ := Option.bind_eq_some_iff.1 found
    cases same
    refine ⟨?_, there⟩
    unfold numberOf at number
    split at number
    · cases number
      rfl
    · cases number
  · rintro ⟨rfl, there⟩
    have found : ((s.uploads.lookup (place, n)).bind fun parts => some (n, parts)) =
        some (n, parts) := by
      rw [there]
      rfl
    exact found

/-- The uploads of a key are those that are open there. -/
theorem stash_uploads {s : Keeper} {bucket key : String} {id : Value}
    {upload : Option (Int × List (Part × ByteArray))} (found : s.upload? (bucket, key) id = upload) :
    (s.stash bucket key).uploads id = upload.map Prod.snd := congrArg (Option.map Prod.snd) found

/-- Where only one upload of a place has changed, the others there have not. -/
theorem besides {s s' : Keeper} {place : Place} {n : Int}
    (others : ∀ m, m ≠ n → s'.uploads.lookup (place, m) = s.uploads.lookup (place, m)) :
    (s.stash place.1 place.2).Besides (s'.stash place.1 place.2) (.int n) := by
  obtain ⟨bucket, key⟩ := place
  intro other differs
  refine congrArg (Option.map Prod.snd) (Option.ext fun ⟨m, parts⟩ => ?_)
  rw [upload?_eq_some, upload?_eq_some]
  refine and_congr_right fun id => ?_
  rw [others m fun same => differs (by rw [id, same])]

/-- What is kept under one key only has changed. -/
theorem only {s s' : Keeper} {place : Place} (buckets : s'.buckets = s.buckets)
    (objects : ∀ other, other ≠ place → s'.objects.lookup other = s.objects.lookup other)
    (uploads : ∀ other n, other ≠ place →
      s'.uploads.lookup (other, n) = s.uploads.lookup (other, n))
    (bodies : ∀ other n, other ≠ place →
      s'.bodies.lookup (other, n) = s.bodies.lookup (other, n)) :
    s.holds.Only s'.holds place.1 place.2 where
  has := funext fun bucket => congrArg (bucket ∈ ·) buckets
  stash {b k} other := by
    show s'.stash b k = s.stash b k
    unfold stash upload?
    simp only [objects _ other, uploads _ _ other]
    congr 1
    funext ⟨home, n⟩
    -- a body belongs to the key of its object, whichever it is
    split
    · rename_i here
      cases here
      rw [bodies _ _ other]
    · rfl

section
variable (s : Keeper) (place : Place)

theorem only_self : s.holds.Only s.holds place.1 place.2 := ⟨rfl, fun _ => rfl⟩

theorem put_only (data : ByteArray) : s.holds.Only (s.put place data).holds place.1 place.2 :=
  only rfl (fun _ other => Finmap.lookup_insert_of_ne _ other) (fun _ _ _ => rfl) fun _ _ _ => rfl

theorem remove_only : s.holds.Only (s.remove place).holds place.1 place.2 :=
  only rfl (fun _ other => Finmap.lookup_erase_ne other) (fun _ _ _ => rfl) fun _ _ _ => rfl

theorem keep_only (n : Int) (parts : List (Part × ByteArray)) :
    s.holds.Only (s.keep place n parts).holds place.1 place.2 :=
  only rfl (fun _ _ => rfl)
    (fun _ _ other => Finmap.lookup_insert_of_ne _ fun same => other (congrArg Prod.fst same))
    fun _ _ _ => rfl

theorem drop_only (n : Int) : s.holds.Only (s.drop place n).holds place.1 place.2 :=
  only rfl (fun _ _ => rfl)
    (fun _ _ other => Finmap.lookup_erase_ne fun same => other (congrArg Prod.fst same))
    fun _ _ _ => rfl

theorem leave_only (n : Int) (data : ByteArray) :
    s.holds.Only (s.leave (place, n) data).holds place.1 place.2 :=
  only rfl (fun _ _ => rfl) (fun _ _ _ => rfl)
    fun _ _ other => Finmap.lookup_insert_of_ne _ fun same => other (congrArg Prod.fst same)

end

/-! ## Every request is answered consistently -/

theorem missing_notFound : NotFound missing := ⟨_, "404", rfl, rfl, by decide⟩

theorem told_tells {there known : Prop} [Decidable known] (same : known ↔ there) :
    Tells there (told known) :=
  ⟨fun holds => if_pos (same.2 holds),
    fun fails => ⟨missing, if_neg (mt same.1 fails), missing_notFound⟩⟩

theorem listed_any (s : Keeper) (bucket start : String) :
    0 < (s.listed bucket start).card ↔ s.holds.AnyUnder bucket start := by
  rw [Finset.card_pos]
  constructor
  · rintro ⟨⟨_, key⟩, member⟩
    obtain ⟨there, rfl, under⟩ := Finset.mem_filter.1 member
    exact ⟨key, under, Finmap.lookup_isSome.2 (Finmap.mem_keys.1 there)⟩
  · rintro ⟨key, under, there⟩
    exact ⟨(bucket, key), Finset.mem_filter.2
      ⟨Finmap.mem_keys.2 (Finmap.lookup_isSome.1 there), rfl, under⟩⟩

/-- An upload that is kept has its parts. -/
theorem upload?_keep (s : Keeper) (place : Place) (n : Int) (parts : List (Part × ByteArray)) :
    ((s.keep place n parts).stash place.1 place.2).uploads (.int n) = some parts :=
  stash_uploads (upload?_eq_some.2 ⟨rfl, Finmap.lookup_insert _⟩)

theorem keep_besides (s : Keeper) (place : Place) (n : Int) (parts : List (Part × ByteArray)) :
    (s.stash place.1 place.2).Besides ((s.keep place n parts).stash place.1 place.2) (.int n) :=
  besides fun _ other => Finmap.lookup_insert_of_ne _ fun same => other (congrArg Prod.snd same)

theorem drop_besides (s : Keeper) (place : Place) (n : Int) :
    (s.stash place.1 place.2).Besides ((s.drop place n).stash place.1 place.2) (.int n) :=
  besides fun _ other => Finmap.lookup_erase_ne fun same => other (congrArg Prod.snd same)

/-- The next number belongs to no upload yet. -/
theorem upload?_next (s : Keeper) (place : Place) : s.upload? place (.int s.next) = none := by
  refine Option.eq_none_iff_forall_ne_some.2 fun ⟨n, parts⟩ found => ?_
  obtain ⟨same, there⟩ := upload?_eq_some.1 found
  have below := s.numbered (Finmap.mem_of_lookup_eq_some there)
  -- every upload is numbered below the next one
  cases same
  exact Int.lt_irrefl _ below

theorem drop_gone (s : Keeper) (place : Place) (n : Int) :
    ((s.drop place n).stash place.1 place.2).uploads (.int n) = none := by
  refine Option.map_eq_none_iff.2 (Option.eq_none_iff_forall_ne_some.2 fun ⟨m, parts⟩ found => ?_)
  obtain ⟨same, there⟩ := upload?_eq_some.1 found
  cases same
  have gone : (s.uploads.erase (place, n)).lookup (place, n) = none := Finmap.lookup_erase _ _
  have there : (s.uploads.erase (place, n)).lookup (place, n) = some parts := there
  rw [gone] at there
  cases there

section
variable (s : Keeper) (bucket key : String)

theorem addPart_serves (id : Value) (number : Nat) (body : ByteArray) :
    s.holds.Serves Prod.fst (.uploadPart bucket key id number body)
      (s.addPart (bucket, key) id number body).1
      (s.addPart (bucket, key) id number body).2.holds := by
  rintro _ _ ⟨⟩ -
  cases found : s.upload? (bucket, key) id with
  | none =>
    rw [addPart, found]
    refine ⟨only_self s (bucket, key), rfl, fun parts there => ?_⟩
    cases (stash_uploads found).symm.trans there
  | some upload =>
    obtain ⟨n, parts⟩ := upload
    obtain ⟨rfl, -⟩ := upload?_eq_some.1 found
    rw [addPart, found]
    refine ⟨keep_only s (bucket, key) n _, rfl, fun parts' there _ => ?_⟩
    cases (stash_uploads found).symm.trans there
    -- a part is added behind those before it, under the same number
    exact ⟨_, rfl, upload?_keep s (bucket, key) n _, keep_besides s (bucket, key) n _⟩

theorem complete_serves (id : Value) (named : List Part) :
    s.holds.Serves Prod.fst (.completeUpload bucket key id named) (s.complete (bucket, key) id).1
      (s.complete (bucket, key) id).2.holds := by
  rintro _ _ ⟨⟩ -
  cases found : s.upload? (bucket, key) id with
  | none =>
    rw [complete, found]
    refine ⟨only_self s (bucket, key), fun there => there, fun parts there => ?_⟩
    cases (stash_uploads found).symm.trans there
  | some upload =>
    obtain ⟨n, parts⟩ := upload
    obtain ⟨rfl, -⟩ := upload?_eq_some.1 found
    rw [complete, found]
    have object : ((s.put (bucket, key) (joined (parts.map Prod.snd))).stash bucket key).object =
        some (joined (parts.map Prod.snd)) := Finmap.lookup_insert _
    refine ⟨?_, fun _ => Option.isSome_iff_exists.2 ⟨_, object⟩, fun parts' there _ _ => ?_⟩
    -- two changes at one key: the object is put there, then the upload is dropped
    · exact (put_only s (bucket, key) _).trans (drop_only _ (bucket, key) n)
    · cases (stash_uploads found).symm.trans there
      exact ⟨rfl, object, drop_gone _ (bucket, key) n, drop_besides _ (bucket, key) n⟩

theorem abort_serves (id : Value) :
    s.holds.Serves Prod.fst (.abortUpload bucket key id) (s.abort (bucket, key) id).1
      (s.abort (bucket, key) id).2.holds := by
  rintro _ _ ⟨⟩ -
  refine ⟨?_, trivial⟩
  unfold abort
  split
  · exact only_self s (bucket, key)
  · exact drop_only s (bucket, key) _

theorem stream_serves :
    s.holds.Serves Prod.fst (.getObject bucket key) (s.stream (bucket, key)).1
      (s.stream (bucket, key)).2.holds := by
  rintro _ _ ⟨⟩ -
  cases found : s.objects.lookup (bucket, key) with
  | none =>
    rw [stream, found]
    refine ⟨only_self s (bucket, key), ⟨rfl, rfl⟩, fun data there => ?_⟩
    have there : s.objects.lookup (bucket, key) = some data := there
    rw [found] at there
    cases there
  | some data =>
    rw [stream, found]
    refine ⟨leave_only s (bucket, key) _ _, ⟨rfl, rfl⟩, fun data' there => ?_⟩
    have there : s.objects.lookup (bucket, key) = some data' := there
    rw [found] at there
    cases there
    refine ⟨_, rfl, rfl, (if_pos rfl).trans ?_⟩
    exact congrArg (Option.getD · ByteArray.empty) (Finmap.lookup_insert s.bodies)

end

theorem stop_le (data : ByteArray) (size : Option Nat) : stop data size ≤ data.size := by
  cases size with
  | none => exact Nat.le_refl _
  | some most => exact Nat.min_le_right _ _

/-- A read of a body gets what is asked for, or what is left. -/
theorem read_serves (s : Keeper) (body : Place × Int) (size : Option Nat) :
    s.holds.Serves Prod.fst (.readBody body size) (answer (.readBody body size) s).1
      (answer (.readBody body size) s).2.holds := by
  obtain ⟨⟨bucket, key⟩, n⟩ := body
  rintro _ _ ⟨⟩ -
  obtain ⟨data, here⟩ : ∃ data, (s.bodies.lookup ((bucket, key), n)).getD .empty = data := ⟨_, rfl⟩
  have unread : (s.stash bucket key).unread ((bucket, key), n) = data := (if_pos rfl).trans here
  have within := stop_le data size
  rw [answer, here]
  have left : ((s.leave ((bucket, key), n) (data.extract (stop data size) data.size)).stash
      bucket key).unread ((bucket, key), n) = data.extract (stop data size) data.size :=
    (if_pos rfl).trans (congrArg (Option.getD · ByteArray.empty) (Finmap.lookup_insert s.bodies))
  have taken : (data.extract 0 (stop data size)).size = stop data size := by
    rw [ByteArray.size_extract]
    omega
  refine ⟨leave_only s (bucket, key) n _, ⟨rfl, rfl⟩, data.extract 0 (stop data size), rfl,
    ?_, ?_, ?_⟩
  · refine unread.trans (Eq.trans ?_ (congrArg _ left.symm))
    rw [ByteArray.extract_append_extract]
    simp [Nat.max_eq_right within]
  · intro most asked
    rw [taken, asked]
    exact Nat.min_le_left _ _
  · intro some_asked empty
    refine (congrArg ByteArray.size left).trans ?_
    rw [taken] at empty
    rw [ByteArray.size_extract, empty]
    -- a read that asks for something takes nothing only where there is nothing
    cases size with
    | none =>
      have none_there : data.size = 0 := empty
      omega
    | some most =>
      have none_there : min most data.size = 0 := empty
      have asked : most ≠ 0 := fun zero => some_asked (congrArg some zero)
      omega

/-- Every request is answered as a strongly consistent service answers it. -/
theorem serves (r : Request (Place × Int)) (s : Keeper) :
    s.holds.Serves Prod.fst r (answer r s).1 (answer r s).2.holds := by
  cases r with
  | headBucket bucket => exact ⟨rfl, told_tells Iff.rfl⟩
  | headObject bucket key =>
    exact ⟨rfl, told_tells (and_congr_right fun _ => Finmap.lookup_isSome.symm)⟩
  | listObjects bucket start =>
    refine ⟨rfl, fun there => ⟨_, if_pos there, ⟨_, rfl, ?_⟩, .inl rfl⟩, fun gone =>
      ⟨missing, if_neg gone, missing_notFound⟩⟩
    rw [← listed_any]
    exact Int.natCast_pos
  | createBucket bucket =>
    exact fun _ => ⟨rfl, List.mem_cons_self, fun _ old => List.mem_cons_of_mem _ old, rfl⟩
  | putObject bucket key body =>
    rintro _ _ ⟨⟩ -
    exact ⟨put_only s (bucket, key) body, rfl, Finmap.lookup_insert _, rfl⟩
  | createUpload bucket key =>
    rintro _ _ ⟨⟩ -
    exact ⟨keep_only s (bucket, key) s.next [], rfl, .int s.next, nofun, rfl,
      stash_uploads (upload?_next s (bucket, key)),
      upload?_keep s (bucket, key) s.next [], keep_besides s (bucket, key) s.next []⟩
  | uploadPart bucket key id number body => exact addPart_serves s bucket key id number body
  | completeUpload bucket key id named => exact complete_serves s bucket key id named
  | abortUpload bucket key id => exact abort_serves s bucket key id
  | getObject bucket key => exact stream_serves s bucket key
  | deleteObject bucket key =>
    rintro _ _ ⟨⟩ -
    exact ⟨remove_only s (bucket, key), rfl, Finmap.lookup_erase _ _, rfl⟩
  | readBody body size => exact read_serves s body size
  | closeBody body =>
    obtain ⟨⟨bucket, key⟩, n⟩ := body
    rintro _ _ ⟨⟩ -
    exact ⟨only_self s (bucket, key), ⟨rfl, rfl⟩, rfl⟩

/-- The service on finite maps. -/
def service : ConsistentService where
  Body := Place × Int
  State := Keeper
  answer := answer
  home := Prod.fst
  holds := holds
  serves := serves

end Keeper

end S3
end Storage
end StoreMeter
