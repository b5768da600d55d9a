import Mathlib.Data.List.TakeWhile
import StoreMeter.Proofs.Cloud.Holdings
/-
# Proofs.Cloud.Looking — looking for a target where answers tell what there is

Looking for a target asks for its bucket, for an object of its name or for any key under its name.
What comes of it rests on the answers to these three questions alone: if they tell what there is
(`Informed`), looking tells whether the target is there, whatever else the service does.
-/
namespace StoreMeter
namespace Storage
namespace S3

variable {B σ : Type}

/-- What there is: buckets, and objects by their keys. -/
structure Inventory where
  Has : String → Prop
  Holds : String → String → Prop

namespace Inventory

/-- Is there an object whose key begins with a text? -/
def AnyUnder (inventory : Inventory) (bucket start : String) : Prop :=
  ∃ key, start.toList <+: key.toList ∧ inventory.Holds bucket key

/-- A target is there. -/
def There (inventory : Inventory) (bucket key : String) : Prop :=
  inventory.Has bucket ∧ (key = "" ∨
    (key.endsWith "/" = false ∧ inventory.Holds bucket key) ∨
      inventory.AnyUnder bucket (markerKey key))

end Inventory

/-- Surroundings where the questions for a bucket, for an object and for keys may be asked, change
nothing and are answered by what there is. -/
structure Informed (env : Surroundings (effects B) σ) (view : σ → Inventory) : Prop where
  allows : ∀ s op, env.Allows s op
  headBucket : ∀ {s bucket reply after}, env.Answers s (.request (.headBucket bucket)) reply after →
    after = s ∧ Tells ((view s).Has bucket) reply
  headObject : ∀ {s bucket key reply after},
    env.Answers s (.request (.headObject bucket key)) reply after →
      after = s ∧ Tells ((view s).Has bucket ∧ (view s).Holds bucket key) reply
  listObjects : ∀ {s bucket start} {reply : Except Fault Listing} {after},
    env.Answers s (.request (.listObjects bucket start)) reply after → after = s ∧
      ((view s).Has bucket →
        ∃ listing, reply = .ok listing ∧ listing.Counts ((view s).AnyUnder bucket start)) ∧
      (¬ (view s).Has bucket → ∃ fault, reply = .error fault ∧ NotFound fault)

section
variable {env : Surroundings (effects B) σ} {view : σ → Inventory} {s : σ}
variable {path bucket key : String}

theorem anyKeyUnder_told (informed : Informed env view) :
    (anyKeyUnder path bucket key).Ends env (fun reply after => after = s ∧ ∃ b, reply = .ok b ∧
      (b = true ↔ (view s).Has bucket ∧ (view s).AnyUnder bucket (markerKey key))) s := by
  refine ⟨informed.allows s _, fun reply after answered => ?_⟩
  obtain ⟨rfl, present, missing⟩ := informed.listObjects answered
  -- a bucket that is missing is told as no key
  by_cases there : (view after).Has bucket
  · obtain ⟨listing, rfl, counts⟩ := present there
    obtain ⟨b, listed, any⟩ := counts.hasKey
    exact ⟨rfl, b, listed, any.trans (iff_and_self.2 fun _ => there)⟩
  · obtain ⟨fault, rfl, not_found⟩ := missing there
    refine ⟨rfl, false, if_pos (not_found.isAbsent path), ?_⟩
    exact ⟨nofun, fun h => absurd h.1 there⟩

/-- The answer to the first of two questions, or to both of them. -/
theorem orElse_told {there any : Prop} {reply : Except Fault Unit}
    {other : Program B (Except Fault Bool)} (tells : Tells there reply)
    (tells' : other.Ends env
      (fun reply after => after = s ∧ ∃ b, reply = .ok b ∧ (b = true ↔ any)) s) :
    (orElse (reply.mapError (asSystemFault path)) other).Ends env
      (fun reply after => after = s ∧ ∃ b, reply = .ok b ∧ (b = true ↔ there ∨ any)) s := by
  by_cases h : there
  · rw [tells.1 h]
    exact ⟨rfl, true, rfl, iff_of_true rfl (.inl h)⟩
  -- the second question is asked only after a refusal of this kind
  · obtain ⟨fault, rfl, not_found⟩ := tells.2 h
    unfold orElse
    dsimp only [Except.mapError]
    rw [if_pos (not_found.isAbsent path)]
    refine tells'.mono fun reply after ⟨same, b, told, iff⟩ => ⟨same, b, told, ?_⟩
    rw [iff, or_iff_right h]

/-- Looking for a target tells whether it is there. -/
theorem isPresent_told (informed : Informed env view) (split : splitPath path = .ok (bucket, key)) :
    (isPresent path).Ends env (fun reply after => after = s ∧
      ∃ b, reply = .ok b ∧ (b = true ↔ (view s).There bucket key)) s := by
  unfold isPresent
  rw [split]
  dsimp only
  -- an empty key asks for its bucket, a key with a slash at its end for a listing only
  by_cases empty : key.isEmpty = true
  · rw [if_pos empty]
    refine ⟨informed.allows s _, fun reply after answered => ?_⟩
    obtain ⟨rfl, tells⟩ := informed.headBucket answered
    refine (orElse_told tells (anyKeyUnder_told informed)).mono
      fun reply now ⟨same, b, told, iff⟩ => ⟨same, b, told, iff.trans ?_⟩
    have root : key = "" := String.isEmpty_iff.1 empty
    exact ⟨fun h => ⟨h.elim id And.left, .inl root⟩, fun h => .inl h.1⟩
  · have named : key ≠ "" := fun same => empty (String.isEmpty_iff.2 same)
    rw [if_neg empty]
    by_cases slash : key.endsWith "/" = true
    · rw [if_pos slash]
      refine (anyKeyUnder_told informed).mono fun reply now ⟨same, b, told, iff⟩ =>
        ⟨same, b, told, iff.trans (and_congr_right fun _ => ?_)⟩
      exact ⟨fun any => .inr (.inr any), fun h => (h.resolve_left named).resolve_left fun object =>
        Bool.false_ne_true (object.1.symm.trans slash)⟩
    · rw [if_neg slash]
      have name : key.endsWith "/" = false := eq_false_of_ne_true slash
      refine ⟨informed.allows s _, fun reply after answered => ?_⟩
      obtain ⟨rfl, tells⟩ := informed.headObject answered
      refine (orElse_told tells (anyKeyUnder_told informed)).mono
        fun reply now ⟨same, b, told, iff⟩ => ⟨same, b, told, iff.trans ?_⟩
      constructor
      · rintro (⟨has, object⟩ | ⟨has, any⟩)
        · exact ⟨has, .inr (.inl ⟨name, object⟩)⟩
        · exact ⟨has, .inr (.inr any)⟩
      · rintro ⟨has, root | ⟨-, object⟩ | any⟩
        · exact absurd root named
        · exact .inl ⟨has, object⟩
        · exact .inr ⟨has, any⟩

end

/-! ## Slashes -/

/-- Nothing is left of a text without the slashes at its end exactly if it has no other character.
-/
theorem trimSlashes_eq_empty {s : String} : trimSlashes s = "" ↔ ∀ c ∈ s.toList, c = '/' := by
  rw [trimSlashes, ← String.toList_inj, String.toList_ofList, String.toList_empty,
    List.reverse_eq_nil_iff, List.dropWhile_eq_nil_iff]
  simp only [List.mem_reverse, decide_eq_true_eq]

end S3
end Storage
end StoreMeter
