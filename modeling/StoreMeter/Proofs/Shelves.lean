import Mathlib.Data.List.GetD
import StoreMeter.Shelf
/-
# Proofs.Shelves — what a shelf keeps apart

Whatever is made on a shelf comes in new lists behind the old ones (`Makes`), and its content is
what the operation on ledgers gives, and so what the operation on tallies gives (`tally_mergeAll`,
`tally_ofOutcomes`).

A ledger on a shelf also has a future.  A deed changes the lists that it adds to and no others, so a
ledger stays as it is through any number of deeds, as long as none of them adds to it
(`Holds.lasts`).  Operands and results have no list in common, and so nothing that happens to the
one later shows in the other (`merge_leaves_operands`).
-/
namespace StoreMeter

/-- The two slots have no list in common. -/
structure Slot.Apart (a b : Slot) : Prop where
  records : a.records ≠ b.records
  errors : a.errors ≠ b.errors

namespace Shelf

variable {shelf before after : Shelf} {slot : Slot} {l : Ledger}

/-! ## Lists that stay where they are -/

/-- The shelf has a list at both places of the slot. -/
structure Holds (shelf : Shelf) (slot : Slot) : Prop where
  records : slot.records < shelf.records.length
  errors : slot.errors < shelf.errors.length

/-- All lists of one shelf stand on the other as they are, each at its place. -/
structure Within (before after : Shelf) : Prop where
  records : before.records <+: after.records
  errors : before.errors <+: after.errors

namespace Within

theorem refl (shelf : Shelf) : shelf.Within shelf := ⟨List.prefix_rfl, List.prefix_rfl⟩

theorem trans {first second third : Shelf} (h : first.Within second) (h' : second.Within third) :
    first.Within third :=
  ⟨h.records.trans h'.records, h.errors.trans h'.errors⟩

theorem holds (h : before.Within after) (held : before.Holds slot) : after.Holds slot :=
  ⟨Nat.lt_of_lt_of_le held.records h.records.length_le,
    Nat.lt_of_lt_of_le held.errors h.errors.length_le⟩

theorem ledger (h : before.Within after) (held : before.Holds slot) :
    after.ledger slot = before.ledger slot := by
  obtain ⟨⟨records, h⟩, ⟨errors, h'⟩⟩ := h
  rw [Shelf.ledger, ← h, ← h', List.getD_append _ _ _ _ held.records,
    List.getD_append _ _ _ _ held.errors]
  rfl

end Within

/-! ## Lists that grow in place -/

section

variable {α : Type} {xs ys : List α} {i j : Nat} {f : α → α} {d : α}

theorem getD_modify_self (inside : i < xs.length) : (xs.modify i f).getD i d = f (xs.getD i d) := by
  rw [List.getD_eq_getElem?_getD, List.getD_eq_getElem?_getD, List.getElem?_modify_eq,
    List.getElem?_eq_getElem inside]
  rfl

theorem getD_modify_ne (other : i ≠ j) : (xs.modify i f).getD j d = xs.getD j d := by
  rw [List.getD_eq_getElem?_getD, List.getD_eq_getElem?_getD, List.getElem?_modify_ne _ _ other]

/-- A change behind the old lists leaves them where they are. -/
theorem prefix_modify (h : xs <+: ys) (behind : xs.length ≤ i) : xs <+: ys.modify i f := by
  rw [List.prefix_iff_getElem?] at h ⊢
  intro j inside
  rw [List.getElem?_modify_ne _ _ (by omega)]
  exact h j inside

end

/-! ## What is made -/

/-- A ledger has been made in lists of its own, behind those that were there. -/
structure Makes (before : Shelf) (l : Ledger) (made : Slot × Shelf) : Prop where
  within : before.Within made.2
  holds : made.2.Holds made.1
  records_new : before.records.length ≤ made.1.records
  errors_new : before.errors.length ≤ made.1.errors
  ledger : made.2.ledger made.1 = l

theorem make_makes (shelf : Shelf) (l : Ledger) : shelf.Makes l (shelf.make l) where
  within := ⟨List.prefix_append _ _, List.prefix_append _ _⟩
  holds := by
    constructor <;> simp [make]
  records_new := Nat.le_refl _
  errors_new := Nat.le_refl _
  ledger := by simp [make, Shelf.ledger]

theorem merge_makes (shelf : Shelf) (a b : Slot) :
    shelf.Makes ((shelf.ledger a).merge (shelf.ledger b)) (shelf.merge a b) :=
  shelf.make_makes _

theorem forMode_makes (shelf : Shelf) (slot : Slot) (mode : Mode) :
    shelf.Makes ((shelf.ledger slot).forMode mode) (shelf.forMode slot mode) :=
  shelf.make_makes _

namespace Makes

/-- What was made later was made on the earlier shelf, too. -/
theorem of_within {made : Slot × Shelf} (h : before.Within after) (makes : after.Makes l made) :
    before.Makes l made where
  within := h.trans makes.within
  holds := makes.holds
  records_new := Nat.le_trans h.records.length_le makes.records_new
  errors_new := Nat.le_trans h.errors.length_le makes.errors_new
  ledger := makes.ledger

/-- The new ledger has no list in common with one that was there. -/
theorem apart {made : Slot × Shelf} (makes : before.Makes l made) (held : before.Holds slot) :
    made.1.Apart slot := by
  have := makes.records_new
  have := makes.errors_new
  have := held.records
  have := held.errors
  constructor <;> omega

theorem addRecord (makes : before.Makes l (slot, after)) (r : Recorded) :
    before.Makes (l.addRecord r) (slot, after.addRecord slot r) where
  within := ⟨prefix_modify makes.within.records makes.records_new, makes.within.errors⟩
  holds := ⟨by rw [Shelf.addRecord, List.length_modify]; exact makes.holds.records,
    makes.holds.errors⟩
  records_new := makes.records_new
  errors_new := makes.errors_new
  ledger := by
    rw [← makes.ledger, Ledger.addRecord, Shelf.ledger, Shelf.addRecord]
    dsimp only
    rw [getD_modify_self makes.holds.records]
    rfl

theorem addError (makes : before.Makes l (slot, after)) (mode : Mode) (message : String) :
    before.Makes (l.addError mode message) (slot, after.addError slot mode message) where
  within := ⟨makes.within.records, prefix_modify makes.within.errors makes.errors_new⟩
  holds := ⟨makes.holds.records,
    by rw [Shelf.addError, List.length_modify]; exact makes.holds.errors⟩
  records_new := makes.records_new
  errors_new := makes.errors_new
  ledger := by
    rw [← makes.ledger, Ledger.addError, Shelf.ledger, Shelf.addError]
    dsimp only
    rw [getD_modify_self makes.holds.errors]
    rfl

/-- Adding one error after the other adds them all. -/
theorem addErrors (makes : before.Makes l (slot, after)) (mode : Mode) (messages : List String) :
    before.Makes ⟨l.records, l.errors ++ messages.map (WorkerError.mk mode)⟩
      (slot, messages.foldl (fun shelf message => shelf.addError slot mode message) after) := by
  induction messages generalizing l after with
  | nil =>
    rw [List.map_nil, List.append_nil]
    exact makes
  | cons message rest ih =>
    have added := ih (makes.addError mode message)
    rw [Ledger.addError, List.append_assoc] at added
    exact added

/-- Merging one ledger after the other makes a new one each time; its content is the fold, if the
ledgers were there at the beginning. -/
theorem merges {made : Slot × Shelf} (makes : before.Makes l made) (slots : List Slot) :
    ∃ l', before.Makes l' (slots.foldl (fun (sum, shelf) slot => shelf.merge sum slot) made) ∧
      ((∀ slot ∈ slots, before.Holds slot) →
        l' = (slots.map before.ledger).foldl Ledger.merge l) := by
  induction slots generalizing made l with
  | nil => exact ⟨l, makes, fun _ => rfl⟩
  | cons slot rest ih =>
    obtain ⟨sum, shelf⟩ := made
    -- the sum so far is a ledger of its own, and the ledgers to come are still as they were
    have merged := (shelf.merge_makes sum slot).of_within makes.within
    obtain ⟨l', makes', content⟩ := ih merged
    refine ⟨l', makes', fun held => ?_⟩
    rw [List.forall_mem_cons] at held
    have same : shelf.ledger slot = before.ledger slot := makes.within.ledger held.1
    rw [content held.2, List.map_cons, List.foldl_cons, makes.ledger, same]

end Makes

theorem mergeAll_makes {slots : List Slot} (held : ∀ slot ∈ slots, shelf.Holds slot) :
    shelf.Makes (.mergeAll (slots.map shelf.ledger)) (shelf.mergeAll slots) := by
  obtain ⟨l, makes, content⟩ := (shelf.make_makes .empty).merges slots
  rw [content held] at makes
  exact makes

theorem tally_mergeAll {slots : List Slot} (held : ∀ slot ∈ slots, shelf.Holds slot) :
    ((shelf.mergeAll slots).2.ledger (shelf.mergeAll slots).1).tally =
      .mergeAll (slots.map fun slot => (shelf.ledger slot).tally) := by
  rw [(mergeAll_makes held).ledger, Ledger.tally_mergeAll, List.map_map]
  rfl

theorem ofOutcome_makes (shelf : Shelf) (number : Nat) (o : Outcome) :
    shelf.Makes (.ofOutcome number o) (shelf.ofOutcome number o) := by
  have started := shelf.make_makes .empty
  unfold ofOutcome Ledger.ofOutcome
  cases o.measurement with
  | none => exact started.addErrors o.mode o.errors
  | some m => exact (started.addRecord ⟨number, m⟩).addErrors o.mode o.errors

/-- The ledgers of the workers stand side by side, each with what its outcome tells. -/
theorem ofEach_makes (shelf : Shelf) (first : Nat) (os : List Outcome) :
    shelf.Within (shelf.ofEach first os).2 ∧
      (∀ slot ∈ (shelf.ofEach first os).1, (shelf.ofEach first os).2.Holds slot) ∧
      (shelf.ofEach first os).1.map (shelf.ofEach first os).2.ledger =
        (os.zipIdx first).map fun entry => Ledger.ofOutcome entry.2 entry.1 := by
  induction os generalizing shelf first with
  | nil => exact ⟨.refl shelf, List.forall_mem_nil _, rfl⟩
  | cons o os ih =>
    have head := shelf.ofOutcome_makes first o
    obtain ⟨within, held, content⟩ := ih (shelf.ofOutcome first o).2 (first + 1)
    rw [ofEach]
    -- the first ledger stays as it is while the others are made
    refine ⟨head.within.trans within, ?_, ?_⟩
    · rw [List.forall_mem_cons]
      exact ⟨within.holds head.holds, held⟩
    · rw [List.map_cons, content, within.ledger head.holds, head.ledger]
      rfl

/-- The ledger of a phase, made in place, holds what the outcomes tell. -/
theorem ofOutcomes_makes (shelf : Shelf) (first : Nat) (os : List Outcome) :
    shelf.Makes (.ofOutcomes first os) (shelf.ofOutcomes first os) := by
  obtain ⟨within, held, content⟩ := shelf.ofEach_makes first os
  have merged := (mergeAll_makes held).of_within within
  rw [content] at merged
  exact merged

theorem tally_ofOutcomes (shelf : Shelf) (first : Nat) (os : List Outcome) :
    ((shelf.ofOutcomes first os).2.ledger (shelf.ofOutcomes first os).1).tally =
      .ofOutcomes os := by
  rw [(shelf.ofOutcomes_makes first os).ledger, Ledger.tally_ofOutcomes]

/-! ## What lasts -/

/-- The deed adds nothing to the lists of the slot. -/
def Deed.Spares (slot : Slot) : Deed → Prop
  | .addRecord other _ => other.records ≠ slot.records
  | .addError other _ _ => other.errors ≠ slot.errors
  | _ => True

/-- A deed that spares a ledger keeps it: what makes a ledger leaves all lists as they are, and what
adds to a ledger changes one list. -/
theorem perform_keeps {deed : Deed} (spares : deed.Spares slot) (held : shelf.Holds slot) :
    (shelf.perform deed).2.Holds slot ∧ (shelf.perform deed).2.ledger slot = shelf.ledger slot := by
  -- what makes a ledger leaves all lists where they are
  have within {made : Slot × Shelf} {l : Ledger} (makes : shelf.Makes l made) :
      made.2.Holds slot ∧ made.2.ledger slot = shelf.ledger slot :=
    ⟨makes.within.holds held, makes.within.ledger held⟩
  cases deed with
  | start => exact within (shelf.make_makes .empty)
  | addRecord other r =>
    refine ⟨⟨?_, held.errors⟩, ?_⟩
    · rw [perform, addRecord, List.length_modify]
      exact held.records
    · rw [perform, addRecord, ledger, getD_modify_ne spares]
      rfl
  | addError other mode message =>
    refine ⟨⟨held.records, ?_⟩, ?_⟩
    · rw [perform, addError, List.length_modify]
      exact held.errors
    · rw [perform, addError, ledger, getD_modify_ne spares]
      rfl
  | merge a b => exact within (shelf.merge_makes a b)
  | mergeAll slots =>
    obtain ⟨l, makes, -⟩ := (shelf.make_makes .empty).merges slots
    exact within makes
  | forMode other mode => exact within (shelf.forMode_makes other mode)
  | ofOutcomes first os => exact within (shelf.ofOutcomes_makes first os)

/-- Whatever is done to the shelf, a ledger stays as it is until something is added to it. -/
def Lasts (shelf : Shelf) (slot : Slot) : Prop :=
  ∀ deeds : List Deed, (∀ deed ∈ deeds, deed.Spares slot) →
    (shelf.performAll deeds).ledger slot = shelf.ledger slot

theorem Holds.lasts (held : shelf.Holds slot) : shelf.Lasts slot := by
  intro deeds
  induction deeds generalizing shelf with
  | nil => exact fun _ => rfl
  | cons deed rest ih =>
    intro spared
    rw [List.forall_mem_cons] at spared
    obtain ⟨held', same⟩ := perform_keeps spared.1 held
    exact (ih held' spared.2).trans same

/-- A merge leaves its operands, and whatever else is on the shelf, as they are, and no later deed
carries anything from the merged ledger into them or back. -/
theorem merge_leaves_operands (shelf : Shelf) (a b : Slot) :
    ((shelf.merge a b).2.ledger (shelf.merge a b).1).tally =
      (shelf.ledger a).tally.merge (shelf.ledger b).tally ∧
    (shelf.merge a b).2.Lasts (shelf.merge a b).1 ∧
    ∀ slot, shelf.Holds slot → (shelf.merge a b).1.Apart slot ∧
      (shelf.merge a b).2.ledger slot = shelf.ledger slot ∧ (shelf.merge a b).2.Lasts slot := by
  have makes := shelf.merge_makes a b
  refine ⟨?_, makes.holds.lasts, fun slot held => ⟨makes.apart held, ?_, ?_⟩⟩
  · rw [makes.ledger, Ledger.tally_merge]
  · exact makes.within.ledger held
  · exact (makes.within.holds held).lasts

end Shelf
end StoreMeter
