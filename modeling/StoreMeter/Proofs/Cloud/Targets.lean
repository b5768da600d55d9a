import Mathlib.Data.List.TakeWhile
import StoreMeter.Proofs.Cloud.Looking
import StoreMeter.Proofs.Objects
/-
# Proofs.Cloud.Targets — targets of runs at a consistent service

A service has no directories, so whether the target of a run is there depends on the shape of its
key: its bucket is asked for if the key is empty, an object of its name unless it ends in a slash,
and any key under its name.  A target that was made is there (`Prepared.there`): by its bucket, by
its marker, or, where its key is made of slashes only and so has no marker, by the objects of the
workers, whose keys begin with the key of the target.
-/
namespace StoreMeter
namespace Storage
namespace S3

variable {B : Type} {home : B → String × String}

/-! ## Paths -/

/-- A path in a bucket, with this key behind the name of the bucket. -/
structure Located (path bucket key : String) : Prop where
  spelled : path = "s3://" ++ bucket ++ "/" ++ key
  named : bucket ≠ ""
  whole : '/' ∉ bucket.toList

theorem Located.split {path bucket key : String} (h : Located path bucket key) :
    splitPath path = .ok (bucket, key) := by
  have chars : path.toList = scheme ++ (bucket.toList ++ '/' :: key.toList) := by
    rw [h.spelled, String.toList_append, String.toList_append, String.toList_append]
    simp [scheme]
  have no_slash : ∀ c ∈ bucket.toList, decide (c ≠ '/') = true := fun c member =>
    decide_eq_true fun same => h.whole (same ▸ member)
  have some_name : bucket.isEmpty = false := by
    rw [← Bool.not_eq_true, String.isEmpty_iff]
    exact h.named
  have name : (bucket.toList ++ '/' :: key.toList).takeWhile (· ≠ '/') = bucket.toList := by
    rw [List.takeWhile_append_of_pos no_slash, List.takeWhile_cons_of_neg (by simp),
      List.append_nil]
  have rest : (bucket.toList ++ '/' :: key.toList).dropWhile (· ≠ '/') = '/' :: key.toList := by
    rw [List.dropWhile_append_of_pos no_slash, List.dropWhile_cons_of_neg (by simp)]
  unfold splitPath
  rw [chars, if_pos (List.isPrefixOf_iff_prefix.2 (List.prefix_append _ _)), List.drop_left]
  simp only [name, rest, List.drop_one, List.tail_cons, String.ofList_toList, some_name]
  rfl

/-- The key of the object of a worker, where the target has this key. -/
def objectKey (key : String) (index : Nat) : String := Settings.objectPath { path := key } index

theorem objectKey_injective {key : String} {index other : Nat}
    (same : objectKey key index = objectKey key other) : index = other :=
  Settings.objectPath_injective _ same

/-- The object of a worker lies where the target does. -/
theorem Located.object {settings : Settings} {bucket key : String}
    (h : Located settings.path bucket key) (index : Nat) :
    Located (settings.objectPath index) bucket (objectKey key index) where
  spelled := by
    rw [objectKey, Settings.objectPath, Settings.objectPath, h.spelled]
    simp only [String.append_assoc]
  named := h.named
  whole := h.whole

/-! ## Is the target there? -/

namespace Holdings

/-- A target is there. -/
def There (held : Holdings B) (bucket key : String) : Prop :=
  held.Has bucket ∧ (key = "" ∨
    (key.endsWith "/" = false ∧ (held.stash bucket key).object.isSome) ∨
      held.AnyUnder bucket (markerKey key))

/-- No bucket and no object is lost. -/
structure Grows (before after : Holdings B) : Prop where
  has {bucket : String} (there : before.Has bucket) : after.Has bucket
  object {bucket key : String} (there : (before.stash bucket key).object.isSome) :
    (after.stash bucket key).object.isSome

theorem Only.grows {before after : Holdings B} {mode : Mode} {bucket key : String}
    (h : before.Only after bucket key)
    (kept : Stash.Kept mode (before.stash bucket key) (after.stash bucket key)) :
    before.Grows after where
  has there := h.has ▸ there
  object {b k} there := by
    by_cases here : (b, k) = (bucket, key)
    · cases here
      exact kept.object there
    · rwa [h.stash here]

theorem There.grows {before after : Holdings B} {bucket key : String} (h : before.There bucket key)
    (grows : before.Grows after) : after.There bucket key := by
  refine ⟨grows.has h.1, ?_⟩
  rcases h.2 with root | ⟨name, object⟩ | ⟨under, start, object⟩
  · exact .inl root
  · exact .inr (.inl ⟨name, grows.object object⟩)
  · exact .inr (.inr ⟨under, start, grows.object object⟩)

/-- A target was seen to: it is there, or its key is made of slashes only. -/
structure Prepared (held : Holdings B) (bucket key : String) : Prop where
  has : held.Has bucket
  target : held.There bucket key ∨ trimSlashes key = ""

theorem Prepared.grows {before after : Holdings B} {bucket key : String}
    (h : before.Prepared bucket key) (grows : before.Grows after) : after.Prepared bucket key :=
  ⟨grows.has h.has, h.target.imp_left (·.grows grows)⟩

/-- With an object of a worker a target that was seen to is there. -/
theorem Prepared.there {held : Holdings B} {bucket key : String} (h : held.Prepared bucket key)
    (index : Nat) (object : (held.stash bucket (objectKey key index)).object.isSome) :
    held.There bucket key := by
  rcases h.target with there | slashes
  · exact there
  refine ⟨h.has, ?_⟩
  -- such a key is empty, or it begins with a slash as all keys behind it do
  have marker : (markerKey key).toList = ['/'] := by
    rw [markerKey, slashes]
    rfl
  have only := trimSlashes_eq_empty.1 slashes
  cases chars : key.toList with
  | nil => exact .inl (String.toList_eq_nil_iff.1 chars)
  | cons c rest =>
    refine .inr (.inr ⟨objectKey key index, ?_, object⟩)
    rw [marker, objectKey, Settings.toList_objectPath, chars,
      only c (chars ▸ List.mem_cons_self)]
    exact List.prefix_append ['/'] _

end Holdings

/-! ## Operations on targets and objects -/

section
variable {path bucket key : String} {held : Holdings B}

/-- What there is, of all that a service keeps. -/
def Holdings.inventory (held : Holdings B) : Inventory :=
  ⟨held.Has, fun bucket key => (held.stash bucket key).object.isSome⟩

theorem informed_holdings : Informed (holdingsEnv home) Holdings.inventory where
  allows _ _ := trivial
  headBucket answered := answered
  headObject answered := answered
  listObjects answered := answered

/-- Looking for a target tells whether it is there. -/
theorem isPresent_tells (split : splitPath path = .ok (bucket, key)) :
    (isPresent path).Ends (holdingsEnv home) (fun reply after => after = held ∧
      ∃ b, reply = .ok b ∧ (b = true ↔ held.There bucket key)) held :=
  isPresent_told informed_holdings split

theorem makeBucket_has :
    (makeBucket path bucket).Ends (holdingsEnv home) (fun reply after => reply = .ok () ∧
      after.Has bucket ∧ held.Grows after ∧ after.stash = held.stash) held := by
  refine ask_holdings.bind ?_
  rintro _ after ⟨reply, ⟨rfl, tells⟩, rfl⟩
  by_cases there : after.Has bucket
  · rw [tells.1 there]
    exact ⟨rfl, there, ⟨id, id⟩, rfl⟩
  · obtain ⟨fault, rfl, not_found⟩ := tells.2 there
    dsimp only [Except.mapError]
    refine Prog.ends_ite (fun _ => ⟨trivial, ?_⟩) fun present =>
      absurd (not_found.isAbsent path) present
    rintro _ _ rfl
    refine ask_holdings.mono ?_
    rintro _ made ⟨reply, created, rfl⟩
    obtain ⟨rfl, has, others, stashes⟩ := created there
    exact ⟨rfl, has, ⟨others _, fun object => by rwa [stashes]⟩, stashes⟩

/-- Making a target prepares it, and opens no upload. -/
theorem makeDirs_prepares (split : splitPath path = .ok (bucket, key)) :
    (makeDirs path).Ends (holdingsEnv home) (fun reply after => reply = .ok () ∧
      after.Prepared bucket key ∧ held.Tidy after) held := by
  unfold makeDirs
  rw [split]
  dsimp only
  -- whether there is a marker is not computed here
  generalize slashed : (trimSlashes key).isEmpty = slashes
  refine makeBucket_has.bind ?_
  rintro _ made ⟨rfl, has, -, stashes⟩
  cases slashes with
  | true => exact ⟨rfl, ⟨has, .inr (String.isEmpty_iff.1 slashed)⟩, fun b k => by rw [stashes]⟩
  | false =>
    refine ask_holdings.mono ?_
    rintro _ after ⟨reply, served, rfl⟩
    obtain ⟨only, rfl, object, uploads⟩ := served bucket (markerKey key) rfl has
    have has' : after.Has bucket := by rwa [only.has]
    have marker : after.AnyUnder bucket (markerKey key) :=
      ⟨markerKey key, List.prefix_rfl, by rw [object]; rfl⟩
    have tidy : made.Tidy after := only.tidy uploads
    exact ⟨rfl, ⟨has', .inl ⟨has', .inr (.inr marker)⟩⟩, fun b k => by rw [tidy, stashes]⟩

/-- Deleting an object leaves everything else. -/
theorem delete_clears (split : splitPath path = .ok (bucket, key)) (has : held.Has bucket) :
    (delete path).Ends (holdingsEnv home) (fun reply after => reply = .ok () ∧
      held.Only after bucket key ∧ held.Tidy after ∧ (after.stash bucket key).object = none)
      held := by
  unfold delete
  rw [split]
  refine ask_holdings.mono ?_
  rintro _ after ⟨reply, served, rfl⟩
  obtain ⟨only, rfl, object, uploads⟩ := served bucket key rfl has
  exact ⟨rfl, only, only.tidy uploads, object⟩

end

end S3
end Storage
end StoreMeter
