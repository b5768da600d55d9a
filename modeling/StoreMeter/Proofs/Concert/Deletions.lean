import StoreMeter.Proofs.Concert.Accounting
import StoreMeter.Proofs.Concert.Chronicle
/-
# Proofs.Concert.Deletions — what failing deletions cost

A run deletes the objects of all workers after both phases, when all that it has measured is known.
Failures of the system and objects that are not there cost nothing: every object is tried once, in the
order of the workers, and the report is the tally of both phases.  A failure of any other kind escapes.
It leaves the objects behind it untried, and the run loses its report.
-/
namespace StoreMeter
namespace Concert

open Run (Cleared Escaped Tolerated leftBehind)

/-- Cleaning up tries every object once, in the order of the workers, and returns those whose deletion
failed for another reason than that there was no object; only a failure that escapes ends it before.
A run that has come to it returns the report on both phases, unless such a failure escapes. -/
theorem report_survives_deletions {plan : Plan} {size : Nat} (valid : plan.Valid size) :
    (∀ {S : Type} (session : Session) (m : Minutes S),
      Run.Settles (minuted fun _ _ => True)
        (fun fault m' => ∃ deletions, Escaped plan.objectPaths fault deletions ∧
          m' = (m.enter .cleanup).delete deletions)
        (fun failed session' m' => session' = session ∧ ∃ deletions,
          Cleared plan.objectPaths deletions ∧ failed = leftBehind deletions ∧
            m' = (m.enter .cleanup).delete deletions)
        (Run.cleanup plan) session m) ∧
    ∀ {S : Type} {B : Backend S} {store : B.State} {choices : List (Choice B)}
      {s : State B (Except Fault Tally × Session)} {r : Except Fault Tally} {session : Session},
      play choices (opening plan store) = some s → s.main = .done (r, session) →
      .cleanup ∈ (minutes choices (opening plan store) {}).stages →
      let m := minutes choices (opening plan store) {}
      (Cleared plan.objectPaths m.deletions ∧ s.world.stage = .done ∧
        r = .ok (Tally.ofOutcomes (m.outcomes plan))) ∨
      ∃ fault, Escaped plan.objectPaths fault m.deletions ∧ s.world.stage = .cleanup ∧
        r = .error fault := by
  refine ⟨fun session m => ?_, ?_⟩
  · exact Run.cleanup_settles valid (fun _ _ => trivial) trivial fun _ _ => trivial
  · intro S B store choices s r session played done cleaning
    have run := run_minuted played
    have stage := run.borne.stage
    generalize minutes choices (opening plan store) {} = m at *
    cases run.ending done with
    | refused failed =>
      rw [Run.check_eq_ok.2 valid] at failed
      cases failed
    | broken _ stages =>
      rcases stages with stages | stages <;> rw [stages] at cleaning <;> simp at cleaning
    | uncleaned _ stages _ _ escaped =>
      refine .inr ⟨_, escaped, ?_, rfl⟩
      rw [stage, Minutes.stage, stages]
      rfl
    | reported _ stages _ _ _ cleared merged =>
      refine .inl ⟨cleared, ?_, congrArg _ merged⟩
      rw [stage, Minutes.stage, stages]
      rfl

/-! ## A deletion that is denied, and one that escapes -/

/-- The answers of a storage whose deletions fail. -/
def undeleting (fault : Fault) : (op : Storage.Operation Unit) → op.Answer
  | .delete _ => .error fault
  | op => unclosing op

/-- A run up to its only deletion, which fails like this, and the rest of its main thread. -/
def failingDeletion (fault : Fault) (rest : Nat) : List (Choice (anyStorage Unit)) :=
  conducts 9 [] ++ .start 0 :: List.replicate 11 (.work 0 unclosing (.zero false)) ++
    conducts 8 [] ++ .start 1 :: conducts 6 [1] ++
    List.replicate (rest + 1) (.conduct (undeleting fault) (.ok .empty) [])

/-- A run whose only deletion is denied. -/
def denied : List (Choice (anyStorage Unit)) :=
  failingDeletion (.numbered 13 "Permission denied" none) 3

/-- A deletion is denied and the object stays behind, but the report is there. -/
theorem denied_deletion_keeps_report :
    oneByte.Valid 1 ∧ ∃ (s : State (anyStorage Unit) (Except Fault Tally × Session))
      (session : Session), play denied (opening oneByte ()) = some s ∧
        leftBehind (minutes denied (opening oneByte ()) {}).deletions = ["target/io-benchmark-0"] ∧
        s.main = .done (.ok (Tally.ofOutcomes ((minutes denied (opening oneByte ()) {}).outcomes
          oneByte)), session) := by
  have valid : oneByte.Valid 1 := Run.check_eq_ok.1 (by decide +kernel)
  have ended : ((play denied (opening oneByte ())).any State.isDone) = true := by decide +kernel
  obtain ⟨s, played, ended⟩ := (Option.any_eq_true _ _).1 ended
  obtain ⟨r, session, done⟩ := State.exists_of_isDone ended
  have cleaning : .cleanup ∈ (minutes denied (opening oneByte ()) {}).stages := by decide +kernel
  have tolerated : Tolerated (minutes denied (opening oneByte ()) {}).deletions := by
    unfold Tolerated
    decide +kernel
  rcases (report_survives_deletions valid).2 played done cleaning with ⟨-, -, rfl⟩ | ⟨_, escaped, -⟩
  · exact ⟨valid, s, session, played, by decide +kernel, done⟩
  · exact absurd tolerated escaped.not_tolerated

/-- Every run that has come to its cleaning up returns a report. -/
def AlwaysReports : Prop :=
  ∀ {plan : Plan} {S : Type} {B : Backend S} {store : B.State} {choices : List (Choice B)}
    {s : State B (Except Fault Tally × Session)}, play choices (opening plan store) = some s →
    s.isDone = true → .cleanup ∈ (minutes choices (opening plan store) {}).stages →
    s.report?.isSome = true

/-- A deletion that fails in a way that is not the system's takes the report of the run along. -/
theorem escaping_deletion_loses_report : ¬ AlwaysReports := by
  intro always
  have facts : ((play (failingDeletion (.runtime "driver") 0) (opening oneByte ())).any fun s =>
      s.isDone && !s.report?.isSome) = true := by decide +kernel
  obtain ⟨s, played, facts⟩ := (Option.any_eq_true _ _).1 facts
  obtain ⟨ended, lost⟩ := Bool.and_eq_true_iff.1 facts
  rw [always played ended (by decide +kernel)] at lost
  cases lost

end Concert
end StoreMeter
