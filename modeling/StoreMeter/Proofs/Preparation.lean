import StoreMeter.Proofs.Checks
import StoreMeter.Proofs.Minutes
import StoreMeter.Proofs.Sizes
/-
# Proofs.Preparation — which runs are let in

The preparation of a run asks nothing of the storage: it enters its stage, makes the set of late
workers and checks the plan.  What a plan has to meet is `Plan.Meets`, and a plan that does not meet it
is refused as a wrong configuration.  Two things slip through.  A limit that is no number is not found
to be too low, so it is let in; and a size beyond the doubles fails as an overflow, which is no refusal.
-/
namespace StoreMeter

open Size (Written)

/-- What a plan has to meet, with the size that its text denotes.  A limit that is no number meets it
too. -/
structure Plan.Meets (plan : Plan) (written : Written) (power : Nat) : Prop where
  buffer : 0 < plan.bufferSize
  pool : ∀ n, plan.poolSize = some n → 0 < n
  path : plan.settings.path ≠ ""
  threads : ∃ n : Int, plan.settings.threads = .scalar (.int n) ∧ 0 < n
  timeout : plan.settings.timeout = .null ∨ ∃ limit : Scalar, plan.settings.timeout = .scalar limit ∧
    (limit.compare? (.int 0) = some .gt ∨ limit = .real .nan)
  size : ∃ text, plan.settings.ioSize = .text text ∧ Size.denoted? text = some (written, power)

/-! ## Refusals -/

/-- The check finds fault with the configuration. -/
def Refuses {α : Type} (checked : Except Fault α) : Prop :=
  ∃ fault, checked = .error fault ∧ fault.isConfiguration = true

theorem isNonPositive_eq_false (limit : Scalar) : limit.isNonPositive = false ↔
    limit.compare? (.int 0) = some .gt ∨ limit = .real .nan := by
  -- only what is no number has no place before or behind zero
  have unordered : limit.compare? (.int 0) = none ↔ limit = .real .nan := by
    rcases limit with _ | _ | x <;> try simp [Scalar.compare?, Scalar.integer?]
    cases x <;> simp [Binary64.compareInt?]
  rw [← unordered, Scalar.isNonPositive]
  cases limit.compare? (.int 0) with
  | none => simp
  | some order => cases order <;> simp

namespace Settings

variable {settings : Settings}

theorem checkPath_cases : settings.checkPath = .ok () ∨ Refuses settings.checkPath := by
  unfold checkPath
  split
  · exact .inr ⟨_, rfl, rfl⟩
  · exact .inl rfl

theorem checkThreads_cases : settings.checkThreads = .ok () ∨ Refuses settings.checkThreads := by
  unfold checkThreads
  split
  · split
    · exact .inr ⟨_, rfl, rfl⟩
    · exact .inl rfl
  · exact .inr ⟨_, rfl, rfl⟩

theorem checkTimeout_cases (typed : settings.timeout = .null ∨
    ∃ limit, settings.timeout = .scalar limit) :
    settings.checkTimeout = .ok () ∨ Refuses settings.checkTimeout := by
  unfold checkTimeout
  obtain none_given | ⟨limit, given⟩ := typed
  · exact .inl (by rw [none_given])
  · rw [given]
    dsimp only
    split
    · exact .inr ⟨_, rfl, rfl⟩
    · exact .inl rfl

/-- The size is computed if there is one, and refused otherwise. -/
theorem sizeInBytes_cases :
    (∃ text written power, settings.ioSize = .text text ∧
      Size.denoted? text = some (written, power) ∧
        settings.sizeInBytes = Size.inBytes written.number power) ∨
    (∀ text, settings.ioSize = .text text → Size.denoted? text = none) ∧
      Refuses settings.sizeInBytes := by
  unfold sizeInBytes Size.parseValue
  split
  · rename_i text given
    cases denoted : Size.denoted? text with
    | some size =>
      exact .inl ⟨text, size.1, size.2, given, denoted, Size.parse_of_denoted denoted⟩
    | none =>
      refine .inr ⟨?_, Size.parse_of_not_denoted denoted⟩
      rintro _ given'
      rw [given] at given'
      cases given'
      exact denoted
  · rename_i other
    exact .inr ⟨fun text given => absurd given (other text), _, rfl, rfl⟩

/-- Behind the other checks, the size decides. -/
theorem checked_of_checks (path : settings.checkPath = .ok ())
    (threads : settings.checkThreads = .ok ()) (timeout : settings.checkTimeout = .ok ()) :
    settings.checked = settings.sizeInBytes := by
  rw [checked, path, threads, timeout]
  rfl

theorem checked_cases (typed : settings.timeout = .null ∨
    ∃ limit, settings.timeout = .scalar limit) :
    (settings.checkPath = .ok () ∧ settings.checkThreads = .ok () ∧
      settings.checkTimeout = .ok ()) ∨
    ¬ (settings.checkPath = .ok () ∧ settings.checkThreads = .ok () ∧
      settings.checkTimeout = .ok ()) ∧ Refuses settings.checked := by
  unfold checked
  obtain path | ⟨fault, path, refused⟩ := settings.checkPath_cases
  -- the first check that fails is the one that is told
  · obtain threads | ⟨fault, threads, refused⟩ := settings.checkThreads_cases
    · obtain timeout | ⟨fault, timeout, refused⟩ := checkTimeout_cases typed
      · exact .inl ⟨path, threads, timeout⟩
      · refine .inr ⟨fun ok => ?_, fault, by rw [path, threads, timeout]; rfl, refused⟩
        cases timeout.symm.trans ok.2.2
    · refine .inr ⟨fun ok => ?_, fault, by rw [path, threads]; rfl, refused⟩
      cases threads.symm.trans ok.2.1
  · refine .inr ⟨fun ok => ?_, fault, by rw [path]; rfl, refused⟩
    cases path.symm.trans ok.1

end Settings

/-- The limit of a plan is none or a number. -/
def Plan.Typed (plan : Plan) : Prop :=
  plan.settings.timeout = .null ∨ ∃ limit, plan.settings.timeout = .scalar limit

/-- The other conditions are those that the checks in front of the size look at. -/
theorem Plan.Meets.checks {plan : Plan} {written : Written} {power : Nat}
    (meets : plan.Meets written power) : plan.settings.checkPath = .ok () ∧
      plan.settings.checkThreads = .ok () ∧ plan.settings.checkTimeout = .ok () := by
  refine ⟨Settings.checkPath_eq_ok.2 meets.path, Settings.checkThreads_eq_ok.2 meets.threads,
    Settings.checkTimeout_eq_ok.2 (meets.timeout.imp_right ?_)⟩
  rintro ⟨limit, given, high⟩
  exact ⟨limit, given, (isNonPositive_eq_false limit).2 high⟩

/-- A plan that meets what it has to comes to the size of its text, and any other is refused. -/
theorem Run.check_cases {plan : Plan} (typed : plan.Typed) :
    (∃ written power, plan.Meets written power ∧
      Run.check plan = Size.inBytes written.number power) ∨
    (∀ written power, ¬ plan.Meets written power) ∧ Refuses (Run.check plan) := by
  -- the sizes of the buffer and of the pool are looked at before the settings
  rcases Int.lt_or_le 0 plan.bufferSize with buffer | low
  swap
  · exact .inr ⟨fun _ _ meets => absurd meets.buffer (by omega), _, Run.check_of_low_buffer low, rfl⟩
  by_cases pool : ∀ n, plan.poolSize = some n → 0 < n
  swap
  · obtain ⟨n, given, low⟩ : ∃ n, plan.poolSize = some n ∧ n ≤ 0 := by simpa using pool
    exact .inr ⟨fun _ _ meets => pool meets.pool, _, Run.check_of_low_pool buffer given low, rfl⟩
  rw [Run.check_of_sizes buffer pool]
  obtain ⟨path, threads, timeout⟩ | ⟨failed, refused⟩ := Settings.checked_cases typed
  swap
  · exact .inr ⟨fun _ _ meets => failed meets.checks, refused⟩
  rw [Settings.checked_of_checks path threads timeout]
  obtain ⟨text, written, power, given, denoted, sized⟩ | ⟨none_denoted, refused⟩ :=
    plan.settings.sizeInBytes_cases
  · refine .inl ⟨written, power, ⟨buffer, pool, Settings.checkPath_eq_ok.1 path,
      Settings.checkThreads_eq_ok.1 threads, ?_, text, given, denoted⟩, sized⟩
    refine (Settings.checkTimeout_eq_ok.1 timeout).imp_right ?_
    rintro ⟨limit, given, high⟩
    exact ⟨limit, given, (isNonPositive_eq_false limit).1 high⟩
  · refine .inr ⟨fun written power meets => ?_, refused⟩
    obtain ⟨text, given, denoted⟩ := meets.size
    rw [none_denoted text given] at denoted
    cases denoted

/-! ## Preparing -/

section
variable {S : Type} {plan : Plan} {session : Session}

/-- The preparation goes as the check does. -/
theorem Run.prepare_settles {fits : Minutes S → Conductor.Op S → Prop}
    (enters : fits {} (.enter .prepare)) (late : fits { stages := [.prepare] } .newLate)
    (fails : fits .prepared (.enter .failed)) (logs : ∀ m entry, fits m (.log entry)) :
    Run.Settles (minuted fits)
      (fun fault m => Run.check plan = .error fault ∧ m = .unprepared fault)
      (fun _ session' m => ∃ size, Run.check plan = .ok size ∧
        session' = { session with late := 0, size := some size } ∧ m = .prepared)
      (Run.prepare plan) session {} := by
  unfold Run.prepare
  refine settles_minuted enters fun _ _ => settles_minuted late ?_
  rintro set (rfl : set = (0 : Nat))
  refine Run.settles_modify ?_
  cases Run.check plan with
  | ok size => exact ⟨size, rfl, rfl, rfl⟩
  | error fault =>
    dsimp only
    split
    · rename_i configuration
      refine settles_minuted fails fun _ _ => settles_minuted (logs _ _) fun _ _ =>
        Run.settles_throw ⟨rfl, ?_⟩
      rw [Minutes.unprepared, if_pos configuration]
      rfl
    · rename_i other
      refine Run.settles_throw ⟨rfl, ?_⟩
      rw [Minutes.unprepared, if_neg other]
      rfl

/-- The questions of a preparation: it only tells what it does, and makes a set. -/
def Tells (_ : Minutes S) : Conductor.Op S → Prop
  | .enter _ | .newLate | .log _ => True
  | _ => False

/-- A run whose check fails ends in its preparation with the same failure. -/
theorem Run.whole_refused {fault : Fault} (failed : Run.check plan = .error fault) :
    Run.Settles (S := S) (minuted Tells) (fun fault' m => fault' = fault ∧ m = .unprepared fault)
      (fun _ _ _ => False) (Run.whole plan) session {} := by
  have stopped : Run.Settles (S := S) (minuted Tells)
      (fun fault' m => fault' = fault ∧ m = .unprepared fault) (fun _ _ _ => False)
      (Run.prepare plan) session {} := by
    refine (Run.prepare_settles trivial trivial trivial fun _ _ => trivial).mono ?_ ?_
    · rintro _ session' m ⟨size, checked, -⟩
      rw [failed] at checked
      cases checked
    · rintro fault' m ⟨failed', rfl⟩
      obtain rfl : fault = fault' := by simpa [failed] using failed'
      exact ⟨rfl, rfl⟩
  exact stopped.bind fun _ _ _ => False.elim

/-- A run is let in: the plan meets what it has to, and the bytes of its size are kept. -/
def LetIn (plan : Plan) (session : Session) (m : Minutes S) : Prop :=
  m.stages = [.prepare] ∧ ∃ written power, plan.Meets written power ∧
    ∃ size : Nat, session.size = some size ∧
      (Size.guarded written.number power).toInt = .ok (size : Int)

/-- A run is kept out: its plan does not meet what it has to and is refused, or the size is beyond the
doubles. -/
def KeptOut (plan : Plan) (fault : Fault) (m : Minutes S) : Prop :=
  (∀ written power, ¬ plan.Meets written power) ∧ fault.isConfiguration = true ∧
    m.stages = [.prepare, .failed] ∨
  (∃ written power, plan.Meets written power ∧ Size.greatestDouble < written.bytes power) ∧
    fault = .infinityToInteger ∧ m.stages = [.prepare]

theorem Plan.Meets.power_le {written : Written} {power : Nat} (meets : plan.Meets written power) :
    power ≤ 5 := by
  obtain ⟨text, -, denoted⟩ := meets.size
  exact Size.power_le_of_denoted denoted

/-- What keeps a run out when the check fails. -/
theorem keptOut_of_check (typed : plan.Typed) {fault : Fault}
    (failed : Run.check plan = .error fault) : KeptOut plan fault (.unprepared fault : Minutes S) := by
  obtain ⟨written, power, meets, same⟩ | ⟨fails, fault', told, configuration⟩ :=
    Run.check_cases typed
  · rw [same] at failed
    obtain ⟨n, computed, -⟩ | ⟨-, large⟩ := Size.inBytes_cases written meets.power_le
    · rw [computed] at failed
      cases failed
    -- nothing but a size beyond the doubles overflows
    · obtain rfl : Fault.infinityToInteger = fault := by simpa [large] using failed
      refine .inr ⟨⟨written, power, meets, ?_⟩, rfl, rfl⟩
      by_contra range
      obtain ⟨n, computed⟩ := Size.inBytes_of_le written meets.power_le (not_lt.1 range)
      rw [computed] at large
      cases large
  · obtain rfl : fault' = fault := by simpa [told] using failed
    refine .inl ⟨fails, configuration, ?_⟩
    rw [Minutes.unprepared, if_pos configuration]

/-- What is known of a run when the check goes well. -/
theorem letIn_of_check (typed : plan.Typed) {size : Nat} (checked : Run.check plan = .ok size)
    {session : Session} (kept : session.size = some size) :
    LetIn plan session (.prepared : Minutes S) := by
  obtain ⟨written, power, meets, same⟩ | ⟨-, fault, told, -⟩ := Run.check_cases typed
  · obtain ⟨n, computed, exact_⟩ | ⟨-, large⟩ := Size.inBytes_cases written meets.power_le
    · obtain rfl : n = size := by simpa [same, computed] using checked
      exact ⟨rfl, written, power, meets, n, kept, exact_⟩
    · rw [same, large] at checked
      cases checked
  · rw [told] at checked
    cases checked

/-- A preparation asks nothing of the storage and hands no job out.  It lets the run in or keeps it out,
and if it keeps it out, the whole run ends there with the same failure. -/
theorem preparation_lets_in_or_keeps_out (typed : plan.Typed) :
    Run.Settles (S := S) (minuted Tells) (KeptOut plan) (fun _ => LetIn plan) (Run.prepare plan)
      session {} ∧
    ∀ fault, Run.check plan = .error fault →
      Run.Settles (S := S) (minuted Tells) (fun fault' m => fault' = fault ∧ KeptOut plan fault' m)
        (fun _ _ _ => False) (Run.whole plan) session {} := by
  constructor
  · refine (Run.prepare_settles trivial trivial trivial fun _ _ => trivial).mono ?_ ?_
    · rintro _ session' m ⟨size, checked, rfl, rfl⟩
      exact letIn_of_check typed checked rfl
    · rintro fault m ⟨failed, rfl⟩
      exact keptOut_of_check typed failed
  · intro fault failed
    refine (Run.whole_refused failed).mono (fun _ _ _ => False.elim) ?_
    rintro _ m ⟨rfl, rfl⟩
    exact ⟨rfl, keptOut_of_check typed failed⟩

end

/-! ## What slips through -/

/-- A plan of one worker with a size and a limit. -/
def ofSizeAndLimit (ioSize : String) (timeout : Value) : Plan where
  storageName := "memory"
  settings := { path := "target/", threads := .int 1, ioSize := .text ioSize, timeout }

/-- A number with four hundred digits. -/
def oversized : String := String.ofList (List.replicate 400 '9')

theorem check_oversized :
    Run.check (ofSizeAndLimit oversized .null) = .error .infinityToInteger := by
  have split : Size.splitNumber? (Text.skipBlanks oversized.toList) =
      some (List.replicate 400 '9', [], []) := by
    have characters : oversized.toList = List.replicate 400 '9' := String.toList_ofList
    rw [characters]
    decide +kernel
  have denoted : Size.denoted? oversized = some (⟨List.replicate 400 '9', [], []⟩, 0) := by
    unfold Size.denoted? Size.Written.ofText?
    rw [split]
    rfl
  have parsed : Size.parse oversized = .error .infinityToInteger := by
    rw [Size.parse_of_denoted denoted]
    decide +kernel
  rw [Run.check_of_sizes (by decide) (fun _ given => by cases given),
    Settings.checked_of_checks (by decide) (by decide) rfl]
  exact parsed

/-- A size beyond the doubles is an overflow, and the run does not get beyond its preparation. -/
theorem oversized_kept_out :
    (ofSizeAndLimit oversized .null).Typed ∧
      Run.Settles (S := Unit) (minuted Tells) (fun fault m => fault = .infinityToInteger ∧
        KeptOut (ofSizeAndLimit oversized .null) fault m) (fun _ _ _ => False)
        (Run.whole (ofSizeAndLimit oversized .null)) { late := 0 } {} := by
  have typed : (ofSizeAndLimit oversized .null).Typed := .inl rfl
  exact ⟨typed, (preparation_lets_in_or_keeps_out typed).2 _ check_oversized⟩

/-- A preparation lets in no limit but a positive one, and it only fails as a refusal. -/
def PreparesExactly : Prop :=
  ∀ (plan : Plan) (session : Session), plan.Typed → Run.Settles (S := Unit) (minuted Tells)
    (fun fault m => fault.isConfiguration = true ∧ m.stages = [.prepare, .failed])
    (fun _ _ _ => plan.settings.timeout = .null ∨
      ∃ limit : Scalar, plan.settings.timeout = .scalar limit ∧ limit.compare? (.int 0) = some .gt)
    (Run.prepare plan) session {}

/-- A limit that is no number is let in. -/
theorem limit_without_number_let_in : ¬ PreparesExactly := by
  intro exactly
  have prepared := exactly (ofSizeAndLimit "1" (.scalar (.real .nan))) { late := 0 } (.inr ⟨_, rfl⟩)
  have checked : Run.check (ofSizeAndLimit "1" (.scalar (.real .nan))) = .ok 1 := by decide +kernel
  unfold Run.prepare at prepared
  rw [checked] at prepared
  -- two answers lead the preparation to its end, where the limit is let in
  have reached := (prepared.2 () _ ⟨trivial, rfl⟩).2 (0 : Nat) _ ⟨rfl, rfl⟩
  obtain none_given | ⟨limit, given, positive⟩ : _ ∨ _ := reached
  · cases none_given
  · cases given
    cases positive

end StoreMeter
