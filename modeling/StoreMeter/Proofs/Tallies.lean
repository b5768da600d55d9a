import StoreMeter.Proofs.Binary64.Shares
import StoreMeter.Summary
/-
# Proofs.Tallies — what the tally of a phase counts

An outcome accounts for a worker if it bears the worker's number and direction and tells what became
of it, by a measurement or by an error.  A tally of such outcomes holds all that they tell, in the
order of the workers and under one direction.  So no worker is missing from it and none is counted
twice, and the share of the workers that left a measurement lies between zero and one.

A summary has a part for each direction, and there is one if the speeds and the rates of both can be
told (`Summary.ofTally_eq_ok`, `Summary.ofMode_eq_ok`).
-/
namespace StoreMeter

namespace Outcome

/-- The outcome of one worker of a phase: it has the worker's number and direction, and a
measurement, or an error, or a measurement and an error of the closing. -/
structure Accounts (index : Int) (mode : Mode) (o : Outcome) : Prop where
  numbered : o.index = index
  directed : o.mode = mode
  told : o.measurement.isSome = true ∨ o.errors ≠ []
  measured : ∀ m ∈ o.measurement, m.mode = mode
  few : o.errors.length ≤ 2
  closing : o.measurement.isSome = true → o.errors.length ≤ 1

theorem failure_accounts (index : Int) (mode : Mode) (message : String) :
    (failure index mode message).Accounts index mode where
  numbered := rfl
  directed := rfl
  told := .inr (List.cons_ne_nil _ _)
  measured := by
    intro m told
    cases told
  few := by simp [failure]
  closing := by
    rintro ⟨⟩

end Outcome

namespace Tally

/-! ## Tallies as lists -/

theorem mergeAll_eq (ts : List Tally) :
    mergeAll ts = ⟨ts.flatMap points, ts.flatMap errors⟩ := by
  -- the fold is generalised over its start, as the induction changes it
  suffices ∀ start : Tally, ts.foldl merge start =
      start.merge ⟨ts.flatMap points, ts.flatMap errors⟩ from this empty
  induction ts with
  | nil => exact fun start => (merge_empty start).symm
  | cons t ts ih =>
    intro start
    rw [List.foldl_cons, ih (start.merge t), merge_assoc]
    rfl

theorem points_ofOutcomes (os : List Outcome) :
    (ofOutcomes os).points = os.flatMap fun o => o.measurement.toList := by
  simp only [ofOutcomes, mergeAll_eq, List.flatMap_map]
  rfl

theorem errors_ofOutcomes (os : List Outcome) :
    (ofOutcomes os).errors = os.flatMap fun o => o.errors.map (WorkerError.mk o.mode) := by
  simp only [ofOutcomes, mergeAll_eq, List.flatMap_map]
  rfl

theorem mergeAll_cons (t : Tally) (ts : List Tally) :
    mergeAll (t :: ts) = t.merge (mergeAll ts) := by
  simp only [mergeAll_eq, List.flatMap_cons, merge]

@[simp]
theorem ofOutcomes_nil : ofOutcomes [] = empty := rfl

@[simp]
theorem ofOutcomes_cons (o : Outcome) (os : List Outcome) :
    ofOutcomes (o :: os) = (ofOutcome o).merge (ofOutcomes os) :=
  mergeAll_cons (ofOutcome o) (os.map ofOutcome)

theorem ofOutcomes_append (os more : List Outcome) :
    ofOutcomes (os ++ more) = (ofOutcomes os).merge (ofOutcomes more) := by
  simp only [ofOutcomes, List.map_append, mergeAll_eq, List.flatMap_append, merge]

/-- Outcomes that tell what became of their workers leave no error if and only if all are fine. -/
theorem errors_ofOutcomes_eq_nil {os : List Outcome}
    (told : ∀ o ∈ os, o.measurement.isSome = true ∨ o.errors ≠ []) :
    (ofOutcomes os).errors = [] ↔ ∀ o ∈ os, o.ok = true := by
  rw [errors_ofOutcomes, List.flatMap_eq_nil_iff]
  refine forall₂_congr fun o there => ?_
  rw [List.map_eq_nil_iff, Outcome.ok, Bool.and_eq_true, List.isEmpty_iff]
  exact ⟨fun silent => ⟨(told o there).resolve_right (absurd silent), silent⟩, And.right⟩

/-- Workers that each left a measurement and no error leave just their measurements. -/
theorem ofOutcomes_of_whole {os : List Outcome}
    (whole : ∀ o ∈ os, ∃ m, o.measurement = some m ∧ o.errors = []) :
    ∃ points, ofOutcomes os = ⟨points, []⟩ ∧ os.map (·.measurement) = points.map some := by
  induction os with
  | nil => exact ⟨[], rfl, rfl⟩
  | cons o os ih =>
    obtain ⟨m, measured, silent⟩ := whole o List.mem_cons_self
    obtain ⟨points, tally, same⟩ := ih fun other there => whole other (List.mem_cons_of_mem _ there)
    refine ⟨m :: points, ?_, ?_⟩
    · rw [ofOutcomes_cons, tally, ofOutcome, measured, silent]
      rfl
    · rw [List.map_cons, List.map_cons, measured, same]

/-! ## One direction -/

/-- Everything in the tally is of one direction. -/
def Of (mode : Mode) (t : Tally) : Prop :=
  (∀ m ∈ t.points, m.mode = mode) ∧ ∀ e ∈ t.errors, e.mode = mode

theorem Of.forMode {mode : Mode} {t : Tally} (h : t.Of mode) : t.forMode mode = t := by
  rw [Tally.forMode, List.filter_eq_self.2, List.filter_eq_self.2]
  · exact fun e member => decide_eq_true (h.2 e member)
  · exact fun m member => decide_eq_true (h.1 m member)

theorem Of.forMode_other {mode other : Mode} (different : other ≠ mode) {t : Tally}
    (h : t.Of mode) : t.forMode other = empty := by
  rw [Tally.forMode, List.filter_eq_nil_iff.2, List.filter_eq_nil_iff.2, empty]
  · rintro e member here
    exact different ((of_decide_eq_true here).symm.trans (h.2 e member))
  · rintro m member here
    exact different ((of_decide_eq_true here).symm.trans (h.1 m member))

theorem forMode_merge (a b : Tally) (mode : Mode) :
    (a.merge b).forMode mode = (a.forMode mode).merge (b.forMode mode) := by
  simp only [forMode, merge, List.filter_append]

/-- The tally of one direction behind that of the other keeps them apart. -/
theorem forMode_of_merge {written readBack : Tally} (hw : written.Of .write)
    (hr : readBack.Of .read) :
    (written.merge readBack).forMode .write = written ∧
      (written.merge readBack).forMode .read = readBack := by
  constructor
  · rw [forMode_merge, hw.forMode, hr.forMode_other (by decide), merge_empty]
  · rw [forMode_merge, hr.forMode, hw.forMode_other (by decide), empty_merge]

/-! ## Tallies of workers that are accounted for -/

/-- Each outcome accounts for the worker of its place. -/
def Accounted (mode : Mode) (os : List Outcome) : Prop :=
  ∀ index (h : index < os.length), (os[index]).Accounts index mode

theorem Accounted.of_mem {mode : Mode} {os : List Outcome} (h : Accounted mode os) :
    ∀ o ∈ os, ∃ index, o.Accounts index mode := by
  intro o member
  obtain ⟨index, below, rfl⟩ := List.mem_iff_getElem.1 member
  exact ⟨index, h index below⟩

theorem ofOutcomes_of {mode : Mode} {os : List Outcome}
    (h : ∀ o ∈ os, ∃ index, o.Accounts index mode) : (ofOutcomes os).Of mode := by
  constructor
  · intro m member
    rw [points_ofOutcomes, List.mem_flatMap] at member
    obtain ⟨o, there, here⟩ := member
    obtain ⟨index, accounts⟩ := h o there
    exact accounts.measured m (Option.mem_toList.1 here)
  · intro e member
    rw [errors_ofOutcomes, List.mem_flatMap] at member
    obtain ⟨o, there, here⟩ := member
    obtain ⟨message, -, rfl⟩ := List.mem_map.1 here
    obtain ⟨index, accounts⟩ := h o there
    exact accounts.directed

/-- The measurements and errors of one worker. -/
theorem ofOutcome_counts {index : Int} {mode : Mode} {o : Outcome} (h : o.Accounts index mode) :
    (ofOutcome o).points.length ≤ 1 ∧ 1 ≤ (ofOutcome o).points.length + (ofOutcome o).errors.length ∧
      (ofOutcome o).points.length + (ofOutcome o).errors.length ≤ 2 := by
  have few := h.few
  have told := h.told
  have closing := h.closing
  cases measured : o.measurement with
  | none =>
    have some_error : 0 < o.errors.length :=
      List.length_pos_iff.2 (told.resolve_left (by simp [measured]))
    simp only [ofOutcome, measured, Option.toList_none, List.length_nil, List.length_map]
    omega
  | some m =>
    have at_most_one := closing (by simp [measured])
    simp only [ofOutcome, measured, Option.toList_some, List.length_singleton, List.length_map]
    omega

/-- No worker is missing from a tally, and none is counted twice. -/
theorem ofOutcomes_counts {mode : Mode} {os : List Outcome}
    (h : ∀ o ∈ os, ∃ index, o.Accounts index mode) :
    (ofOutcomes os).points.length ≤ os.length ∧
      os.length ≤ (ofOutcomes os).points.length + (ofOutcomes os).errors.length ∧
        (ofOutcomes os).points.length + (ofOutcomes os).errors.length ≤ 2 * os.length := by
  induction os with
  | nil => simp [empty]
  | cons o os ih =>
    obtain ⟨index, accounts⟩ := h o List.mem_cons_self
    have one := ofOutcome_counts accounts
    have rest := ih fun other member => h other (List.mem_cons_of_mem o member)
    simp only [ofOutcomes_cons, merge, List.length_append, List.length_cons]
    omega

end Tally

/-! ## Shares -/

namespace Summary

/-- A rate is a share: a double between zero and one. -/
def IsShare (rate : Binary64) : Prop :=
  Binary64.le (.zero false) rate = true ∧ Binary64.le rate (.ofNat 1) = true

/-- The share of the workers that left a measurement, where no more did than there are. -/
theorem successRate_share {points : Nat} {threads : Value} {n : Int}
    (given : threads = .scalar (.int n)) (positive : 0 < n) (few : points ≤ n.toNat) :
    ∃ rate, successRate points threads = .ok rate ∧ IsShare rate := by
  have workers : 0 < n.toNat := by omega
  obtain ⟨rate, same, low, high⟩ := Binary64.quotientChecked_share workers few
  rw [Int.toNat_of_nonneg (by omega)] at same
  refine ⟨rate, ?_, low, high⟩
  rw [given]
  exact same

/-! ## Parts of a summary -/

variable {tally : Tally} {settings : Settings} {mode : Mode} {found : PhaseSummary}
  {summary : Summary}

/-- A direction has its part of a summary if its speeds and its rate can be told. -/
theorem ofMode_eq_ok : ofMode tally settings mode = .ok found ↔
    ∃ speed rate, Speed.ofMeasurements (tally.forMode mode).points = .ok speed ∧
      successRate (tally.forMode mode).points.length settings.threads = .ok rate ∧
      found = ⟨speed, (tally.forMode mode).messages none, rate⟩ := by
  unfold ofMode
  dsimp only
  simp only [bind_eq_ok]
  constructor
  · rintro ⟨speed, measured, rate, rated, ⟨⟩⟩
    exact ⟨speed, rate, measured, rated, rfl⟩
  · rintro ⟨speed, rate, measured, rated, rfl⟩
    exact ⟨speed, measured, rate, rated, rfl⟩

/-- A summary is its two parts. -/
theorem ofTally_eq_ok : ofTally tally settings = .ok summary ↔
    (∀ mode, ofMode tally settings mode = .ok (summary.part mode)) ∧
      summary.settings = settings := by
  unfold ofTally
  simp only [bind_eq_ok]
  constructor
  · rintro ⟨write, writes, read, reads, ⟨⟩⟩
    refine ⟨fun mode => ?_, rfl⟩
    cases mode with
    | write => exact writes
    | read => exact reads
  · rintro ⟨parts, rfl⟩
    exact ⟨_, parts .write, _, parts .read, rfl⟩

/-- A part of a summary shows the share of its direction. -/
theorem successRate_part (h : ofTally tally settings = .ok summary) (mode : Mode) :
    successRate (tally.forMode mode).points.length settings.threads =
      .ok (summary.part mode).successRate := by
  obtain ⟨speed, rate, -, rated, shown⟩ := ofMode_eq_ok.1 ((ofTally_eq_ok.1 h).1 mode)
  rw [rated, shown]

end Summary
end StoreMeter
