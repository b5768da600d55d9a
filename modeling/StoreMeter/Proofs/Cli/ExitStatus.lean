import StoreMeter.Proofs.Cli.Deeds
import StoreMeter.Rehearsal.CommandLine
/-
# Proofs.Cli.ExitStatus — the exit status tells the truth

A call of the program that returns has a status, and the status says what the call has done
(`Truthful`).  Without a run, or with one that was refused, nothing was made or saved.  Where the target
could not be used no output was made or saved either, but the storage may be left with the target and with
objects of the writers (`InVain`).  Otherwise the report was saved, and the status tells whether all
workers did their work, if that was asked for.
-/
namespace StoreMeter
namespace Cli

open Concert (Backend Caller InVain Performance Reports)
open Storage.Local (FilePath)

variable {S : Type} {B : Backend S}

/-! ## What a status says -/

/-- The raw data and the text of the report on a tally were saved, and no other file. -/
def Published (options : Options) (tally : Tally) (deeds : Deeds B) : Prop :=
  ∃ storageName now report directory text,
    Report.make options.settings tally storageName now = .ok report ∧
      options.directory = .ok directory ∧ report.text = .ok text ∧
        deeds.saved = [(report.rawFile directory, report.rawText), (report.textFile directory, text)]

/-- What a status says of the deeds of a call. -/
inductive Truthful (options : Options) : Status → Deeds B → Prop
  /-- Nothing was done, as there is no such log level. -/
  | unknownLevel {fault : Fault} (refused : Log.limitOf (options.logLevel.toValue .text) = .error fault)
    (unknown : fault.isValue = true) : Truthful options .settingsError {}
  /-- Nothing was done, as there is no storage of this scheme. -/
  | unknownScheme {fault : Fault}
    (refused : StorageKind.ofValue (options.path.toValue .text) = .error fault)
    (unknown : fault.isConfiguration = true) : Truthful options .settingsError {}
  /-- The run was refused for its settings: it called no storage, and nothing else was done. -/
  | wrongSettings (p : Performance B) {fault : Fault} (asked : p.plan.settings = options.settings)
    (refused : Run.check p.plan = .error fault) (wrong : fault.isConfiguration = true)
    (failed : p.result = .error fault) (silent : p.calls = []) :
    Truthful options .settingsError { performance := some p }
  /-- The run failed as its target could not be used, and nothing was done for the output.  The storage
  was only called for the target, and for the objects of the writers if it was the read phase that could not
  use it; what these calls have made may be left. -/
  | unusableTarget (p : Performance B) {fault : Fault} (asked : p.plan.settings = options.settings)
    (failed : p.result = .error fault) (unusable : fault.isSetup = true)
    (called : ∀ (caller : Caller) (op : Storage.Operation S), (caller, op) ∈ p.calls →
      InVain p.plan p.minutes caller op) :
    Truthful options .setupError { performance := some p }
  /-- The run came to a report, which was saved.  A worker that failed shows in the status if that was
  asked for. -/
  | reported (p : Performance B) {status : Status} {deeds : Deeds B} {tally : Tally}
    (asked : p.plan.settings = options.settings) (ran : deeds.performance = some p)
    (came : p.result = .ok tally) (reports : Reports p.plan p.minutes tally)
    (published : Published options tally deeds)
    (failing : status = .workerErrors ↔
      options.failOnErrors = true ∧ ∃ o ∈ p.outcomes, o.ok = false)
    (fine : status = .ok ↔ options.failOnErrors = false ∨ ∀ o ∈ p.outcomes, o.ok = true) :
    Truthful options status deeds

/-! ## The run -/

/-- What opening the storage and making the run come to. -/
inductive RanOn (options : Options) : Except Fault (String × Tally) → Deeds B → Prop
  | unknown {fault : Fault}
    (refused : StorageKind.ofValue (options.path.toValue .text) = .error fault) :
    RanOn options (.error fault) {}
  | unopened {fault : Fault} (innocent : fault.isConfiguration = false ∧ fault.isSetup = false) :
    RanOn options (.error fault) {}
  | failed (p : Performance B) {fault : Fault} (asked : p.plan.settings = options.settings)
    (failed : p.result = .error fault) : RanOn options (.error fault) { performance := some p }
  | reported (p : Performance B) {storageName : String} {tally : Tally}
    (asked : p.plan.settings = options.settings) (came : p.result = .ok tally) :
    RanOn options (.ok (storageName, tally)) { performance := some p }

theorem runOn_ends (options : Options) : (runOn options).Ends (desk B) (RanOn options) {} := by
  unfold runOn
  refine ⟨trivial, ?_⟩
  rintro opened _ ⟨opens, rfl⟩
  cases opened with
  | error fault =>
    unfold Opens at opens
    split at opens
    · rename_i refusal refused
      cases opens
      exact .unknown refused
    · obtain opens | ⟨_, same, innocent⟩ := opens
      · cases opens
      · cases same
        exact .unopened innocent
  | ok storageName =>
    refine ⟨trivial, ?_⟩
    rintro result _ ⟨p, plan, came, rfl⟩
    have asked : p.plan.settings = options.settings := congrArg Plan.settings plan
    cases result with
    | error fault => exact .failed p asked came
    | ok tally => exact .reported p asked came

/-! ## Saving the report -/

theorem publish_reaches (report : Report) (directory : FilePath) (deeds : Deeds B) :
    Reaches (desk B) (fun _ deeds' => ∃ text, report.text = .ok text ∧
      deeds'.performance = deeds.performance ∧ deeds'.saved = deeds.saved ++
        [(report.rawFile directory, report.rawText), (report.textFile directory, text)])
      (publish report directory) deeds := by
  unfold publish
  refine (saveIn_reaches _ _ _ _).bind ?_
  rintro _ _ rfl
  refine reaches_printLine_bind (reaches_orFail_bind fun text made => ?_)
  refine (saveIn_reaches _ _ _ _).bind ?_
  rintro _ _ rfl
  refine ⟨trivial, ?_⟩
  rintro _ _ rfl _ -
  exact ⟨text, made, rfl, by simp⟩

/-- Pictures leave the files that were saved. -/
theorem drawAll_reaches (report : Report) (directory : FilePath) (deeds : Deeds B) :
    Reaches (desk B) (fun _ deeds' => deeds'.performance = deeds.performance ∧
      deeds'.saved = deeds.saved) (drawAll report directory) deeds := by
  unfold drawAll
  refine reaches_printLine_bind (reaches_ask_bind trivial ?_)
  rintro _ _ ⟨rfl, rfl⟩
  refine reaches_orFail_bind fun _ _ => reaches_ask_bind trivial ?_
  rintro _ _ rfl
  refine reaches_orFail_bind fun _ _ => reaches_ask_bind trivial ?_
  rintro _ _ rfl
  refine reaches_forM ?_ ⟨rfl, rfl⟩
  rintro text deeds' kept
  refine ⟨trivial, ?_⟩
  rintro _ _ rfl _ -
  exact kept

/-- The status after a report tells whether all workers did their work. -/
theorem truthful_of_report {options : Options} (p : Performance B) {deeds : Deeds B} {tally : Tally}
    (asked : p.plan.settings = options.settings) (ran : deeds.performance = some p)
    (came : p.result = .ok tally) (published : Published options tally deeds) {status : Status}
    (told : status = if tally.errors.isEmpty then .ok
      else if options.failOnErrors then .workerErrors else .ok) : Truthful options status deeds := by
  have reports := p.reports came
  -- the tally is without errors exactly if all outcomes are good
  have silent : tally.errors.isEmpty = true ↔ ∀ o ∈ p.outcomes, o.ok = true := by
    rw [List.isEmpty_iff]
    exact reports.silent
  have failed : tally.errors.isEmpty = false ↔ ∃ o ∈ p.outcomes, o.ok = false := by
    rw [← Bool.not_eq_true, silent]
    simp
  refine .reported p asked ran came reports published ?_ ?_
  · rw [told, ← failed]
    cases tally.errors.isEmpty <;> cases options.failOnErrors <;> decide
  · rw [told, ← silent]
    cases tally.errors.isEmpty <;> cases options.failOnErrors <;> decide

/-- A run that came to a report is concluded with a status that tells the truth. -/
theorem conclude_reaches (options : Options) (storageName : String) {tally : Tally}
    (p : Performance B) (asked : p.plan.settings = options.settings) (came : p.result = .ok tally) :
    Reaches (desk B) (Truthful options) (conclude options storageName tally)
      { performance := some p } := by
  unfold conclude
  refine reaches_ask_bind trivial ?_
  rintro now _ rfl
  refine reaches_orFail_bind fun report made => reaches_orFail_bind fun directory found => ?_
  refine (publish_reaches report directory _).bind ?_
  rintro _ deeds ⟨text, written, ran, saved⟩
  refine reaches_when_bind
    (fun deeds' => deeds'.performance = deeds.performance ∧ deeds'.saved = deeds.saved)
    (fun _ => drawAll_reaches report directory deeds) ⟨rfl, rfl⟩ ?_
  rintro deeds' ⟨same, kept⟩
  -- what is drawn after that changes nothing that was saved
  have published : Published options tally deeds' :=
    ⟨storageName, now, report, directory, text, made, found, written, kept.trans saved⟩
  refine reaches_ask_bind trivial ?_
  rintro place _ rfl
  refine reaches_printLine_bind ?_
  split
  · rename_i none
    exact reaches_pure
      (truthful_of_report p asked (same.trans ran) came published (by rw [if_pos none]))
  · rename_i some_error
    refine reaches_printLine_bind (reaches_pure ?_)
    exact truthful_of_report p asked (same.trans ran) came published (by rw [if_neg some_error])

/-- A scheme is unknown, or there is none to look for; a target has nothing to do with it. -/
theorem ofValue_isSetup {path : Value} {fault : Fault}
    (refused : StorageKind.ofValue path = .error fault) : fault.isSetup = false := by
  unfold StorageKind.ofValue StorageKind.ofPath at refused
  grind [Fault.isSetup, Fault.configuration, Fault.missingOperation]

/-- A call with options ends with a status that tells the truth. -/
theorem execute_reaches (storage : B.Impartial) (options : Options) :
    Reaches (desk B) (Truthful options) (execute options) {} := by
  unfold execute
  split
  · rename_i fault refused
    split
    · rename_i unknown
      exact reaches_complainLine_bind (reaches_pure (.unknownLevel refused unknown))
    · exact reaches_throw fault
  · refine reaches_ask_bind trivial ?_
    rintro _ _ rfl
    refine reaches_printLines_bind ?_
    refine reaches_lift_bind (runOn_ends options) ?_
    rintro result deeds ran
    -- a status is only returned for these failures; any other one is thrown
    cases ran with
    | reported p asked came => exact conclude_reaches options _ p asked came
    | unknown refused =>
      dsimp only
      split
      · rename_i unknown
        exact reaches_complainLine_bind (reaches_pure (.unknownScheme refused unknown))
      · rw [if_neg (by simp [ofValue_isSetup refused])]
        exact reaches_throw _
    | unopened innocent =>
      dsimp only
      rw [if_neg (by simp [innocent.1]), if_neg (by simp [innocent.2])]
      exact reaches_throw _
    | failed p asked failed =>
      dsimp only
      split
      · rename_i wrong
        obtain ⟨refused, silent⟩ := p.refused storage failed wrong
        exact reaches_complainLine_bind
          (reaches_pure (.wrongSettings p asked refused wrong failed silent))
      · split
        · rename_i unusable
          exact reaches_complainLine_bind (reaches_pure (.unusableTarget p asked failed unusable
            fun _ _ => p.inVain failed unusable))
        · exact reaches_throw _

/-- Wherever a call with options returns, its status tells the truth: whatever the storage answers but
that the settings are wrong, and as long as the output can be written. -/
theorem status_tells_the_truth {words : List String} {logLevel : Option String} {options : Options}
    (storage : B.Impartial) (accepted : parse words logLevel = .ok (.options options)) :
    Reaches (desk B) (fun ending deeds => ∃ status, ending = .ran status ∧
      Truthful options status deeds) (call words logLevel) {} := by
  unfold call
  rw [accepted]
  exact (execute_reaches storage options).bind fun status _ truthful =>
    reaches_pure ⟨status, rfl, truthful⟩

/-! ## A target that cannot be used -/

/-- The answers of a storage that is down. -/
def down : (op : Storage.Operation Unit) → op.Answer
  | .isPresent _ | .makeDirs _ | .create _ | .openRead _ | .delete _ => .error (.system "down")
  | .write _ _ | .flush _ | .read _ _ | .close _ => ((), .error (.system "down"))

/-- A storage that is down. -/
def deadStorage : Backend Unit where
  State := Unit
  Fate := Unit
  answer _ op _ := (down op, ())
  ticks _ _ := true

theorem deadStorage_impartial : deadStorage.Impartial := by
  rintro fate op store fault told
  cases op <;> cases List.mem_singleton.1 told <;> rfl

/-- The options of a small run in memory. -/
def small : Options := { defaults none with
  path := .value "memory://b/", threads := .value 1, ioSize := .value "1" }

/-- The words for a small run in memory. -/
def smallWords : List String := ["--path", "memory://b/", "--threads", "1", "--io-size", "1"]

/-- Has the run failed since its target cannot be used? -/
def foundUnusable (s : Concert.State deadStorage (Except Fault Tally × Session)) : Bool :=
  match s.main with
  | .done (.error fault, _) => !fault.isConfiguration && fault.isSetup
  | _ => false

/-- The run on a storage that is down fails before any worker starts. -/
theorem exists_performance : ∃ p : Performance deadStorage,
    p.plan = { storageName := "memory", settings := small.settings } ∧
      ∃ fault, p.result = .error fault ∧ fault.isConfiguration = false ∧ fault.isSetup = true := by
  let choices : List (Concert.Choice deadStorage) := List.replicate 7 (.conduct () (.ok .empty) [])
  let plan : Plan := { storageName := "memory", settings := small.settings }
  have facts : ((Concert.play choices (Concert.opening plan ())).any foundUnusable) = true := by
    decide +kernel
  obtain ⟨s, played, facts⟩ := (Option.any_eq_true _ _).1 facts
  unfold foundUnusable at facts
  split at facts
  · rename_i fault session done
    obtain ⟨innocent, unusable⟩ := Bool.and_eq_true_iff.1 facts
    have impartial : ∀ choice ∈ choices, choice.Impartial := by
      intro choice there
      rw [List.eq_of_mem_replicate there]
      exact List.forall_mem_nil _
    exact ⟨⟨plan, (), choices, s, .error fault, session, played, done, impartial⟩, rfl, fault, rfl,
      by simpa using innocent, unusable⟩
  · cases facts

theorem unusable_target_told :
    parse smallWords none = .ok (.options small) ∧ deadStorage.Impartial ∧
      ∃ deeds : Deeds deadStorage,
        (call smallWords none).run.Comes (desk deadStorage) {} (.ok (.ran .setupError)) deeds ∧
          Truthful small .setupError deeds := by
  have accepted : parse smallWords none = .ok (.options small) := rfl
  obtain ⟨p, plan, fault, failed, innocent, unusable⟩ := exists_performance
  have ran : (runOn small).Comes (desk deadStorage) {} (.error fault) { performance := some p } := by
    refine ⟨.ok "memory", {}, ⟨.inl rfl, rfl⟩, .error fault, _, ⟨p, plan, failed, rfl⟩, rfl, rfl⟩
  have level : Log.limitOf (small.logLevel.toValue .text) = .ok 30 := rfl
  -- the log is started, the run is made, and its failure is told in a line
  have executed : (execute small).run.Comes (desk deadStorage) {} (.ok .setupError)
      { performance := some p } := by
    have started (format : Log.Format) : (ask (.startLog format)).run.Comes (desk deadStorage) {}
        (.ok ()) {} := ⟨(), {}, rfl, rfl, rfl⟩
    unfold execute
    rw [level]
    refine comes_bind (started _) (comes_bind (comes_printLines _ _) ?_)
    refine comes_bind (comes_lift ran) ?_
    dsimp only
    rw [if_neg (by simp [innocent]), if_pos unusable]
    exact ⟨(), _, rfl, rfl, rfl⟩
  have comes : (call smallWords none).run.Comes (desk deadStorage) {} (.ok (.ran .setupError))
      { performance := some p } := by
    unfold call
    rw [accepted]
    exact comes_bind executed ⟨rfl, rfl⟩
  -- the words are not parsed again
  generalize smallWords = words at accepted comes ⊢
  obtain ⟨status, same, truthful⟩ :=
    (status_tells_the_truth deadStorage_impartial accepted).of_comes comes
  cases same
  exact ⟨accepted, deadStorage_impartial, _, comes, truthful⟩

/-! ## A target within the output -/

/-- A call that ends with a setup error leaves no new directory where the output would have gone. -/
def LeavesOutput : Prop :=
  ∀ {desk : Rehearsal.Desk} {words : List String} {logLevel : Option String} {options : Options}
    {directory : FilePath}, parse words logLevel = .ok (.options options) →
    options.directory = .ok directory → (desk.call words logLevel).1 = .ok (.ran .setupError) →
    ∀ name, (desk.call words logLevel).2.tree.isDirectory (directory.child name) = true →
      desk.tree.isDirectory (directory.child name) = true

/-- A desk with one file. -/
def withFile : Rehearsal.Desk where
  script := { ticks := [] }
  now := ⟨2000, 1, 1, 0, 0, 0⟩
  tree := { nodes := [(["f"], .file 0)] }

/-- The way to the target leads through the directory of the output to the file. -/
def blocked : Options := { small with path := .value "out/a/../../f/x/", outputDir := .value "out" }

/-- The storage makes directories on the way to a target that cannot be made, and the way may lead
through the directory of the output. -/
theorem target_within_output : ¬ LeavesOutput := by
  intro leaves
  let words : List String :=
    ["--path", "out/a/../../f/x/", "--threads", "1", "--io-size", "1", "--output-dir", "out"]
  have accepted : parse words none = .ok (.options blocked) := rfl
  have found : blocked.directory = .ok ⟨"", ["out"]⟩ := rfl
  have failed : (withFile.call words none).1 = .ok (.ran .setupError) := rfl
  -- the directory was made on the way before the file stopped it
  have made : (withFile.call words none).2.tree.isDirectory ⟨"", ["out", "a"]⟩ = true := by
    decide +kernel
  cases leaves accepted found failed "a" made

end Cli
end StoreMeter
