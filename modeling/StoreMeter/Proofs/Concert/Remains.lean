import StoreMeter.Proofs.Concert.Refusals
/-
# Proofs.Concert.Remains — what a run leaves that cannot use its target

A run calls its storage for its target and for the objects of its workers only, and a worker calls only
after its job was handed out (`CallsFor`).  A failure of the setup comes before the jobs of its phase.  So
a run that ends with one has called for its target, and where the target was missing when the objects were
to be read, its writers have called for their objects before (`InVain`).  Nobody cleans up after it: what
these calls have made is left, and nothing else is.
-/
namespace StoreMeter
namespace Concert

open Storage (Operation)

variable {S : Type} {B : Backend S} {plan : Plan} {m m' : Minutes S}

/-! ## Minutes grow -/

/-- Stages and jobs are only added to the minutes. -/
structure Grows (m m' : Minutes S) : Prop where
  stages : m.stages <+: m'.stages
  jobs : m.jobs <+: m'.jobs

theorem Grows.refl (m : Minutes S) : Grows m m := ⟨List.prefix_rfl, List.prefix_rfl⟩

theorem Grows.trans {last : Minutes S} (h : Grows m m') (h' : Grows m' last) : Grows m last :=
  ⟨h.stages.trans h'.stages, h.jobs.trans h'.jobs⟩

theorem grows_note (m : Minutes S) (op : Conductor.Op S) (reply : op.Answer) :
    Grows m (m.note op reply) := by
  cases op with
  | enter stage => exact ⟨List.prefix_append _ _, List.prefix_rfl⟩
  | submit pool job => exact ⟨List.prefix_rfl, List.prefix_append _ _⟩
  | storage op => cases op <;> exact ⟨List.prefix_rfl, List.prefix_rfl⟩
  | log _ | entropy _ | newPool _ _ | wait _ _ _ | cancel _ _ | result _ _ | shutdown _ _ _ | newLate
    | addLate _ _ | lateIndexes _ => exact ⟨List.prefix_rfl, List.prefix_rfl⟩

theorem grows_heard {α : Type} {choice : Choice B} {s s' : State B α} (m : Minutes S)
    (moved : move choice s = some s') : Grows m (heard choice s m) := by
  rcases move_heard m moved with ⟨-, same, -⟩ | ⟨op, next, reply, _, _, _, -, -, -, told, -⟩
  · rw [same]
    exact .refl m
  · rw [told]
    exact grows_note m op reply

theorem grows_minutes {α : Type} (choices : List (Choice B)) (s : State B α) (m : Minutes S) :
    Grows m (minutes choices s m) := by
  induction choices generalizing s m with
  | nil => exact .refl m
  | cons choice rest ih =>
    rw [minutes]
    cases moved : move choice s with
    | none => exact .refl m
    | some s' => exact (grows_heard m moved).trans (ih s' _)

/-! ## What a run calls for -/

/-- The calls of a writer for its object, which it deletes again if it is late. -/
def WriterCalls (path : String) (op : Operation S) : Prop :=
  Worker.WriterAsks path (.storage op) ∨ op = .delete path

/-- What a run calls its storage for, by its minutes. -/
inductive CallsFor (plan : Plan) (m : Minutes S) : Caller → Operation S → Prop
  /-- The main thread looks at the target. -/
  | look : CallsFor plan m .main (.isPresent plan.settings.path)
  /-- The main thread makes the target. -/
  | make : CallsFor plan m .main (.makeDirs plan.settings.path)
  /-- The main thread deletes the objects when it cleans up. -/
  | clean {index : Nat} (cleaning : .cleanup ∈ m.stages) (below : index < plan.workers) :
    CallsFor plan m .main (.delete (plan.settings.objectPath index))
  /-- A writer that was handed out works on its object. -/
  | write {k : Nat} {op : Operation S} (placed : k < m.jobs.length) (writer : k < plan.workers)
    (own : WriterCalls (plan.settings.objectPath k) op) : CallsFor plan m (.task k) op
  /-- A reader that was handed out works on its object. -/
  | read {k : Nat} {op : Operation S} (placed : k < m.jobs.length) (reader : plan.workers ≤ k)
    (own : Worker.ReaderAsks (plan.settings.objectPath ((k - plan.workers : Nat))) (.storage op)) :
    CallsFor plan m (.task k) op

theorem CallsFor.later {caller : Caller} {op : Operation S} (h : CallsFor plan m caller op)
    (grows : Grows m m') : CallsFor plan m' caller op := by
  have jobs := grows.jobs.length_le
  cases h with
  | look => exact .look
  | make => exact .make
  | clean cleaning below => exact .clean (grows.stages.subset cleaning) below
  | write placed writer own => exact .write (placed.trans_le jobs) writer own
  | read placed reader own => exact .read (placed.trans_le jobs) reader own

/-- A call of the main thread is one of those that fit. -/
theorem callsFor_of_fits {op : Operation S} (fits : Fits plan m (.storage op)) :
    CallsFor plan m .main op := by
  cases op with
  | isPresent path =>
    obtain ⟨rfl, -⟩ := fits
    exact .look
  | makeDirs path =>
    obtain ⟨rfl, -⟩ := fits
    exact .make
  | delete path =>
    obtain ⟨last, -, below, rfl⟩ := fits
    exact .clean (List.mem_of_getLast? last) below
  | create _ | openRead _ | write _ _ | read _ _ | flush _ | close _ => cases fits

/-- A call of a task is about the object of its worker. -/
theorem callsFor_of_task {w : World B} (order : InOrder plan m) (borne : w.BearsOut m)
    (sound : Mannered plan w) {k : Nat} {op : Operation S} {next : op.Answer → Worker.Job S}
    (found : w.status? k = some (.running (.ask (.storage op) next))) :
    CallsFor plan m (.task k) op := by
  obtain ⟨placed, -⟩ := phase_of_running order borne found
  obtain ⟨known, -, asks⟩ := sound k _ found
  have allowed := asks.1
  by_cases writer : k < plan.workers
  · rw [manners_writer writer] at allowed
    refine .write placed writer ?_
    cases op with
    | delete path =>
      obtain ⟨rfl, -⟩ := allowed
      exact .inr rfl
    | isPresent _ | makeDirs _ | create _ | openRead _ | write _ _ | read _ _ | flush _ | close _ =>
      exact .inl allowed
  · rw [manners_reader writer] at allowed
    exact .read placed (Nat.le_of_not_lt writer) allowed

theorem Orderly.callsFor {choice : Choice B} {s : State B (Except Fault Tally × Session)}
    (h : Orderly plan s m) {caller : Caller} {op : Operation S}
    (called : call? choice s = some (caller, op)) : CallsFor plan m caller op := by
  rcases call?_cases called with ⟨rfl, next, asks⟩ | ⟨k, next, rfl, found⟩
  · have asking := h.minuted.asks
    rw [asks] at asking
    exact callsFor_of_fits asking.1
  · exact callsFor_of_task h.minuted.order h.minuted.borne h.mannered found

/-- Every call that a list of decisions lets happen is for the target or for an object. -/
theorem callsFor_of_calls {choices : List (Choice B)} {s : State B (Except Fault Tally × Session)}
    (h : Orderly plan s m) {caller : Caller} {op : Operation S}
    (there : (caller, op) ∈ calls choices s) :
    CallsFor plan (minutes choices s m) caller op := by
  induction choices generalizing s m with
  | nil => cases there
  | cons choice rest ih =>
    rw [calls] at there
    rw [minutes]
    cases moved : move choice s with
    | none =>
      rw [moved] at there
      cases there
    | some s' =>
      rw [moved] at there
      rcases List.mem_append.1 there with now | later
      -- what was called for before a decision is called for in the minutes of all that follow
      · refine (h.callsFor (Option.mem_toList.1 now)).later ?_
        exact (grows_heard m moved).trans (grows_minutes rest s' _)
      · exact ih (h.move moved) later

/-! ## Runs that cannot use their target -/

/-- A call of a run that cannot use its target: the main thread looks at the target and may make it, and if
the run has come to its read phase, the writers have worked on their objects. -/
inductive InVain (plan : Plan) (m : Minutes S) : Caller → Operation S → Prop
  | look : InVain plan m .main (.isPresent plan.settings.path)
  | make : InVain plan m .main (.makeDirs plan.settings.path)
  | write {k : Nat} {op : Operation S} (reading : .readPhase ∈ m.stages) (writer : k < plan.workers)
    (own : WriterCalls (plan.settings.objectPath k) op) : InVain plan m (.task k) op

/-- The path at which a call may make something. -/
def madeAt? : Operation S → Option String
  | .makeDirs path | .create path => some path
  | .isPresent _ | .openRead _ | .delete _ | .write _ _ | .flush _ | .read _ _ | .close _ => none

/-- Nothing is made but the target and the objects of writers. -/
theorem InVain.madeAt {caller : Caller} {op : Operation S} (h : InVain plan m caller op)
    {path : String} (made : madeAt? op = some path) :
    path = plan.settings.path ∨ .readPhase ∈ m.stages ∧ path ∈ plan.objectPaths := by
  cases h with
  | look => cases made
  | make =>
    cases made
    exact .inl rfl
  | @write k op reading writer own =>
    rcases own with asks | rfl
    · cases op with
      | create other =>
        cases made
        obtain rfl : path = plan.settings.objectPath k := asks
        exact .inr ⟨reading, List.mem_map.2 ⟨k, List.mem_range.2 writer, rfl⟩⟩
      | makeDirs _ => cases asks
      | isPresent _ | openRead _ | delete _ | write _ _ | flush _ | read _ _ | close _ => cases made
    · cases made

/-- A failure of the setup is one of the system. -/
theorem isSystem_of_isSetup {fault : Fault} (setup : fault.isSetup = true) :
    fault.isSystem = true := by
  cases fault with
  | plain kind detail =>
    obtain rfl : kind = .setup := by simpa [Fault.isSetup] using setup
    rfl
  | refused _ | unreachable _ => cases setup

/-- A run that ends with a failure of the setup has only called for its target, and for the objects of its
writers if it has come to its read phase. -/
theorem inVain_of_setup {store : B.State} {choices : List (Choice B)}
    {s : State B (Except Fault Tally × Session)}
    (played : play choices (opening plan store) = some s) {fault : Fault} {session : Session}
    (done : s.main = .done (.error fault, session)) (setup : fault.isSetup = true) {caller : Caller}
    {op : Operation S} (there : (caller, op) ∈ calls choices (opening plan store)) :
    InVain plan (minutes choices (opening plan store) {}) caller op := by
  have opens : Orderly plan (opening plan store) ({} : Minutes S) :=
    ⟨opening_minuted plan store, fun _ _ none => by cases none⟩
  have callsFor := callsFor_of_calls opens there
  have ending := (run_minuted played).ending done
  generalize minutes choices (opening plan store) {} = m at *
  cases ending with
  | refused failed =>
    rw [no_calls_of_refused failed store choices] at there
    cases there
  | uncleaned _ _ _ _ escaped =>
    -- what escapes from the cleanup is no failure of the system
    obtain ⟨_, _, _, -, -, escapes, -⟩ := escaped
    simp [Run.escapes, isSystem_of_isSetup setup] at escapes
  | broken _ stages _ _ _ _ unplaced =>
    obtain ⟨few, reading⟩ := unplaced setup
    cases callsFor with
    | look => exact .look
    | make => exact .make
    | clean cleaning _ =>
      rcases stages with stages | stages <;> simp [stages] at cleaning
    | write placed writer own =>
      exact .write (reading (List.ne_nil_of_length_pos (Nat.zero_lt_of_lt placed))) writer own
    | read placed reader _ => omega

/-- A storage whose target is there when it is looked at for the first time, and never again. -/
def fleeting : Backend Unit where
  State := Bool
  Fate := Unit
  answer _ op seen :=
    match op with
    | .isPresent _ => (.ok !seen, true)
    | .makeDirs _ | .create _ | .openRead _ | .delete _ => (.ok (), seen)
    | .write _ data => (((), .ok data.size), seen)
    | .read _ _ => (((), .ok .empty), seen)
    | .flush _ | .close _ => (((), .ok ()), seen)
  ticks _ _ := true

/-- The writer finishes, and then the target is gone. -/
def targetGone : List (Choice fleeting) :=
  List.replicate 9 (.conduct () (.ok ⟨#[7]⟩) []) ++ .start 0 ::
    List.replicate 10 (.work 0 () (.zero false)) ++ List.replicate 7 (.conduct () (.ok ⟨#[7]⟩) [])

/-- The object is left then: it was made, and nobody asks for it to be deleted. -/
theorem object_left_without_target :
    ((play targetGone (opening oneByte false)).any fun s => s.isDone && s.report?.isNone) = true ∧
      (calls targetGone (opening oneByte false)).filterMap (fun call => madeAt? call.2) =
        ["target/io-benchmark-0"] ∧
      (calls targetGone (opening oneByte false)).all (fun call => !(call.2 matches .delete _)) = true :=
  ⟨by decide +kernel, by decide +kernel, by decide +kernel⟩

end Concert
end StoreMeter
