import Mathlib.Data.List.Perm.Basic
import StoreMeter.Proofs.Shelves
import StoreMeter.Proofs.Speed.Rounded
import StoreMeter.Proofs.Tallies
/-
# Proofs.Aggregation — from the outcomes of workers to the numbers of a summary

On the way from outcomes to a summary nothing is lost and nothing counted twice.  The tallies of
consecutive groups of workers merge into the tally of all workers, in their order; groups in another
order leave the same measurements and errors in another order; and a tally is made up of its two
directions, each of which keeps its order (`mergeAll_ofOutcomes`, `mergeAll_perm`, `merge_forMode`).

A summary then counts every measurement and every error of its tally once, in one of the two
directions.  But not every tally has a summary: its figures are doubles, and so the durations, the
amounts and the sum of the amounts have to be such (`Speed.InRange`, `Summary.exists_ofTally_iff`).
-/
namespace StoreMeter

/-! ## Merging and splitting -/

namespace Tally

/-- The same measurements and the same errors, each as often, in whatever order. -/
structure SameContent (a b : Tally) : Prop where
  points : a.points.Perm b.points
  errors : a.errors.Perm b.errors

/-- A part of a tally, in the order of the whole. -/
structure InOrderOf (part whole : Tally) : Prop where
  points : part.points.Sublist whole.points
  errors : part.errors.Sublist whole.errors

/-- Groups of workers that follow each other make up the tally of all of them. -/
theorem mergeAll_ofOutcomes (groups : List (List Outcome)) :
    mergeAll (groups.map ofOutcomes) = ofOutcomes groups.flatten := by
  induction groups with
  | nil => rfl
  | cons group rest ih =>
    rw [List.map_cons, mergeAll_cons, ih, List.flatten_cons, ofOutcomes_append]

theorem mergeAll_perm {ts ts' : List Tally} (perm : ts.Perm ts') :
    SameContent (mergeAll ts) (mergeAll ts') := by
  rw [mergeAll_eq, mergeAll_eq]
  exact ⟨perm.flatMap_right _, perm.flatMap_right _⟩

theorem forMode_inOrder (t : Tally) (mode : Mode) : (t.forMode mode).InOrderOf t :=
  ⟨List.filter_sublist, List.filter_sublist⟩

theorem forMode_of (t : Tally) (mode : Mode) : (t.forMode mode).Of mode :=
  ⟨fun _ member => of_decide_eq_true (List.mem_filter.1 member).2,
    fun _ member => of_decide_eq_true (List.mem_filter.1 member).2⟩

/-- The two directions make up the tally. -/
theorem merge_forMode (t : Tally) :
    SameContent ((t.forMode .write).merge (t.forMode .read)) t := by
  -- what is no write is a read, so the filters complement each other
  have other (mode : Mode) : decide (mode = .read) = !decide (mode = .write) := by
    cases mode <;> rfl
  unfold forMode merge
  simp only [other]
  exact ⟨List.filter_append_perm _ _, List.filter_append_perm _ _⟩

end Tally

/-! ## Figures in the range of doubles -/

/-- A double has a whole part exactly if it is finite. -/
theorem Binary64.exists_toInt_iff {x : Binary64} : (∃ n, x.toInt = .ok n) ↔ x.isFinite = true := by
  cases x with
  | nan => exact ⟨by rintro ⟨n, ⟨⟩⟩, nofun⟩
  | infinity negative => exact ⟨by rintro ⟨n, ⟨⟩⟩, nofun⟩
  | finite negative mantissa exponent => exact ⟨fun _ => rfl, fun _ => ⟨_, rfl⟩⟩

namespace Speed

variable {points : List Measurement} {speed : Speed}

/-- The durations and the amounts of the measurements are doubles, and so is the sum of the
amounts. -/
structure InRange (points : List Measurement) : Prop where
  timed : ∃ durations, points.mapM (·.duration.toReal) = .ok durations
  sized : ∃ amounts, points.mapM (fun m => Binary64.ofIntChecked m.bytes) = .ok amounts ∧
    (sum amounts).isFinite = true

theorem inRange_nil : InRange [] := by
  refine ⟨⟨[], rfl⟩, ⟨[], rfl, ?_⟩⟩
  rw [sum_of_few (by decide)]
  rfl

/-- What the statistics of some measurements are made of. -/
theorem ofMeasurements_eq_ok (some_left : points ≠ []) : ofMeasurements points = .ok speed ↔
    ∃ durations amounts total, points.mapM (·.duration.toReal) = .ok durations ∧
      points.mapM (fun m => Binary64.ofIntChecked m.bytes) = .ok amounts ∧
      (sum amounts).toInt = .ok total ∧
      speed = ofProfile points.length (.ofLists durations amounts) total := by
  rw [ofMeasurements, if_neg (by rwa [List.isEmpty_iff])]
  simp only [bind_eq_ok]
  constructor
  · rintro ⟨durations, timed, amounts, sized, total, whole, ⟨⟩⟩
    exact ⟨durations, amounts, total, timed, sized, whole, rfl⟩
  · rintro ⟨durations, amounts, total, timed, sized, whole, rfl⟩
    exact ⟨durations, timed, amounts, sized, total, whole, rfl⟩

theorem points_ofMeasurements (made : ofMeasurements points = .ok speed) :
    speed.points = points.length := by
  rcases eq_or_ne points [] with rfl | some_left
  · cases made
    rfl
  · obtain ⟨durations, amounts, total, -, -, -, rfl⟩ := (ofMeasurements_eq_ok some_left).1 made
    rfl

/-- Measurements have statistics exactly if their figures are in the range of doubles. -/
theorem exists_ofMeasurements_iff :
    (∃ speed, ofMeasurements points = .ok speed) ↔ InRange points := by
  rcases eq_or_ne points [] with rfl | some_left
  · exact ⟨fun _ => inRange_nil, fun _ => ⟨idle, rfl⟩⟩
  · constructor
    · rintro ⟨speed, made⟩
      obtain ⟨durations, amounts, total, timed, sized, whole, -⟩ :=
        (ofMeasurements_eq_ok some_left).1 made
      exact ⟨⟨durations, timed⟩, ⟨amounts, sized, Binary64.exists_toInt_iff.1 ⟨total, whole⟩⟩⟩
    · rintro ⟨⟨durations, timed⟩, ⟨amounts, sized, finite⟩⟩
      obtain ⟨total, whole⟩ := Binary64.exists_toInt_iff.2 finite
      exact ⟨_, (ofMeasurements_eq_ok some_left).2
        ⟨durations, amounts, total, timed, sized, whole, rfl⟩⟩

end Speed

/-! ## What a summary counts -/

namespace Summary

variable {tally : Tally} {settings : Settings} {summary : Summary}

/-- A tally has a summary exactly if the figures of both directions are in range, and their rates
can be told. -/
theorem exists_ofTally_iff : (∃ summary, ofTally tally settings = .ok summary) ↔
    ∀ mode, Speed.InRange (tally.forMode mode).points ∧
      ∃ rate, successRate (tally.forMode mode).points.length settings.threads = .ok rate := by
  have part (mode : Mode) : (∃ found, ofMode tally settings mode = .ok found) ↔
      Speed.InRange (tally.forMode mode).points ∧
        ∃ rate, successRate (tally.forMode mode).points.length settings.threads = .ok rate := by
    rw [← Speed.exists_ofMeasurements_iff]
    constructor
    · rintro ⟨found, made⟩
      obtain ⟨speed, rate, measured, rated, -⟩ := ofMode_eq_ok.1 made
      exact ⟨⟨speed, measured⟩, ⟨rate, rated⟩⟩
    · rintro ⟨⟨speed, measured⟩, ⟨rate, rated⟩⟩
      exact ⟨_, ofMode_eq_ok.2 ⟨speed, rate, measured, rated, rfl⟩⟩
  constructor
  · rintro ⟨summary, made⟩ mode
    exact (part mode).1 ⟨_, (ofTally_eq_ok.1 made).1 mode⟩
  · intro each
    obtain ⟨write, written⟩ := (part .write).2 (each .write)
    obtain ⟨read, readBack⟩ := (part .read).2 (each .read)
    refine ⟨⟨settings, write, read⟩, ofTally_eq_ok.2 ⟨fun mode => ?_, rfl⟩⟩
    cases mode with
    | write => exact written
    | read => exact readBack

/-- A part of a summary counts the measurements and the errors of its direction. -/
theorem part_counts (made : ofTally tally settings = .ok summary) (mode : Mode) :
    (summary.part mode).speed.points = (tally.forMode mode).points.length ∧
      (summary.part mode).errors.length = (tally.forMode mode).errors.length := by
  obtain ⟨speed, rate, measured, -, shown⟩ := ofMode_eq_ok.1 ((ofTally_eq_ok.1 made).1 mode)
  rw [shown]
  exact ⟨Speed.points_ofMeasurements measured, List.length_map _⟩

/-- The counts of the two directions add up to all that the tally holds. -/
theorem counts (made : ofTally tally settings = .ok summary) :
    summary.write.speed.points + summary.read.speed.points = tally.points.length ∧
      summary.errorCount = tally.errors.length := by
  obtain ⟨points, errors⟩ := tally.merge_forMode
  have measured := points.length_eq
  have failed := errors.length_eq
  rw [Tally.merge, List.length_append] at measured failed
  have written := part_counts made .write
  have readBack := part_counts made .read
  rw [← measured, ← failed, ← written.1, ← written.2, ← readBack.1, ← readBack.2]
  exact ⟨rfl, rfl⟩

/-- Any number of workers above zero gives a rate. -/
theorem successRate_of_pos {points : Nat} {n : Int} (positive : 0 < n) (few : points ≤ 2 ^ 54) :
    ∃ rate, successRate points (.scalar (.int n)) = .ok rate := by
  obtain ⟨workers, rfl⟩ := Int.eq_ofNat_of_zero_le positive.le
  have one : (1 : ℚ) ≤ workers := by exact_mod_cast positive
  -- a count of measurements is far from the limit of the doubles
  have range : 2 * (points : ℚ) < Binary64.twiceLimit * workers := by
    have far : 2 * (points : ℚ) < Binary64.twiceLimit :=
      Binary64.lt_twiceLimit (by exact_mod_cast few)
    have above : 0 ≤ Binary64.twiceLimit := by
      linarith [(Nat.cast_nonneg points : (0 : ℚ) ≤ points)]
    exact far.trans_le (le_mul_of_one_le_right above one)
  obtain ⟨m, e, finite⟩ : ∃ m e, Binary64.roundRatio false points workers = .finite false m e :=
    Binary64.roundRatio_finite (by omega) range
  refine ⟨.finite false m e, ?_⟩
  show Binary64.quotientChecked points workers = _
  rw [Binary64.quotientChecked, if_neg positive.ne', Binary64.ofQuotient_natCast, finite]

end Summary

/-! ## Aggregation as a whole -/

namespace Tally

/-- Aggregation loses nothing and counts nothing twice.  Groups of outcomes make up the tally of
them all; their order changes no more than the order; directions go through a merge, and the two of
them make up a tally; a merge leaves its operands as they are, whatever comes later; and a summary
counts all that its tally holds.  It is there exactly if the figures of the tally are in the range
of doubles. -/
theorem aggregation_lossless :
    (∀ groups : List (List Outcome),
      mergeAll (groups.map ofOutcomes) = ofOutcomes groups.flatten) ∧
    (∀ groups groups' : List (List Outcome), groups.Perm groups' →
      SameContent (mergeAll (groups.map ofOutcomes)) (mergeAll (groups'.map ofOutcomes))) ∧
    (∀ (a b : Tally) (mode : Mode),
      (a.merge b).forMode mode = (a.forMode mode).merge (b.forMode mode)) ∧
    (∀ t : Tally, SameContent ((t.forMode .write).merge (t.forMode .read)) t ∧
      ∀ mode, (t.forMode mode).Of mode ∧ (t.forMode mode).InOrderOf t) ∧
    (∀ (shelf : Shelf) (a b : Slot),
      ((shelf.merge a b).2.ledger (shelf.merge a b).1).tally =
        (shelf.ledger a).tally.merge (shelf.ledger b).tally ∧
      (shelf.merge a b).2.Lasts (shelf.merge a b).1 ∧
      ∀ slot, shelf.Holds slot → (shelf.merge a b).1.Apart slot ∧
        (shelf.merge a b).2.ledger slot = shelf.ledger slot ∧ (shelf.merge a b).2.Lasts slot) ∧
    (∀ (t : Tally) (settings : Settings),
      ((∃ summary, Summary.ofTally t settings = .ok summary) ↔
        ∀ mode, Speed.InRange (t.forMode mode).points ∧ ∃ rate,
          Summary.successRate (t.forMode mode).points.length settings.threads = .ok rate) ∧
      ∀ summary, Summary.ofTally t settings = .ok summary →
        (∀ mode, (summary.part mode).speed.points = (t.forMode mode).points.length ∧
          (summary.part mode).errors.length = (t.forMode mode).errors.length) ∧
        summary.write.speed.points + summary.read.speed.points = t.points.length ∧
        summary.errorCount = t.errors.length) := by
  refine ⟨mergeAll_ofOutcomes, fun groups groups' perm => mergeAll_perm (perm.map ofOutcomes),
    forMode_merge, fun t => ⟨t.merge_forMode, fun mode => ?_⟩, Shelf.merge_leaves_operands,
    fun t settings => ⟨Summary.exists_ofTally_iff, fun summary made => ?_⟩⟩
  · exact ⟨t.forMode_of mode, t.forMode_inOrder mode⟩
  · exact ⟨Summary.part_counts made, Summary.counts made⟩

/-! ### Outcomes of all kinds, in three groups -/

/-- A measurement, two errors, a group without workers, and a measurement whose stream did not
close. -/
def threeGroups : List (List Outcome) :=
  [[⟨0, .write, some (Speed.inOneSecond 8), []⟩, ⟨1, .write, none, ["no room", "not closed"]⟩], [],
    [⟨0, .read, some ⟨.read, .int 2, 5⟩, ["not closed"]⟩]]

/-- Two ledgers on a shelf, side by side. -/
def twoLedgers : Shelf := ((Shelf.bare.ofOutcomes 0 threeGroups.flatten).2.make .empty).2

theorem inRange_threeGroups (mode : Mode) :
    Speed.InRange ((ofOutcomes threeGroups.flatten).forMode mode).points := by
  cases mode <;>
  · refine ⟨⟨_, rfl⟩, ⟨_, rfl, ?_⟩⟩
    rw [Speed.sum_of_few (by decide)]
    decide +kernel

theorem threeGroups_lossless :
    threeGroups.Perm threeGroups.reverse ∧
    SameContent (ofOutcomes threeGroups.flatten) (mergeAll (threeGroups.reverse.map ofOutcomes)) ∧
    twoLedgers.Holds ⟨0, 0⟩ ∧
    (∀ r, ((twoLedgers.merge ⟨0, 0⟩ ⟨1, 1⟩).2.addRecord
      (twoLedgers.merge ⟨0, 0⟩ ⟨1, 1⟩).1 r).ledger ⟨0, 0⟩ = twoLedgers.ledger ⟨0, 0⟩) ∧
    ∃ summary,
      Summary.ofTally (ofOutcomes threeGroups.flatten) { path := "/bench/" } = .ok summary ∧
      summary.write.speed.points + summary.read.speed.points = 2 ∧ summary.errorCount = 3 := by
  obtain ⟨whole, reordered, -, -, shelves, summaries⟩ := aggregation_lossless
  have perm := (List.reverse_perm threeGroups).symm
  have held : twoLedgers.Holds ⟨0, 0⟩ := ⟨by decide, by decide⟩
  refine ⟨perm, ?_, held, fun r => ?_, ?_⟩
  · rw [← whole]
    exact reordered _ _ perm
  · obtain ⟨apart, same, lasts⟩ := (shelves twoLedgers ⟨0, 0⟩ ⟨1, 1⟩).2.2 _ held
    rw [← same]
    refine lasts [.addRecord _ r] ?_
    rw [List.forall_mem_singleton]
    exact apart.records
  · obtain ⟨there, counted⟩ := summaries (ofOutcomes threeGroups.flatten) { path := "/bench/" }
    obtain ⟨summary, made⟩ := there.2 fun mode =>
      ⟨inRange_threeGroups mode, Summary.successRate_of_pos (by decide) (by cases mode <;> decide)⟩
    exact ⟨summary, made, (counted summary made).2⟩

/-- Two amounts whose sum is beyond the doubles can be merged and split, but they have no summary,
and so there are no counts that could add up. -/
theorem overflowing_total_has_no_summary : ¬ ∀ t : Tally, ∃ summary,
    Summary.ofTally t { path := "/bench/" } = .ok summary ∧
      summary.write.speed.points + summary.read.speed.points = t.points.length ∧
      summary.errorCount = t.errors.length := by
  intro counted
  obtain ⟨summary, made, -⟩ := counted ⟨Speed.overflowing, []⟩
  have part := (Summary.ofTally_eq_ok.1 made).1 .write
  obtain ⟨speed, rate, measured, -⟩ := Summary.ofMode_eq_ok.1 part
  -- the part for writing has to add up the two amounts
  have written : (Tally.forMode ⟨Speed.overflowing, []⟩ .write).points = Speed.overflowing := rfl
  rw [written, Speed.ofMeasurements_overflowing] at measured
  cases measured

end Tally
end StoreMeter
