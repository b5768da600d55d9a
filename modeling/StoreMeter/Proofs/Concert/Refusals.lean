import StoreMeter.Proofs.Concert.Stages
import StoreMeter.Proofs.Preparation
/-
# Proofs.Concert.Refusals — a run that is refused leaves its storage alone

Only the check of the plan finds fault with the settings of a run.  A storage does not know them, so
unless it claims otherwise (`Backend.Impartial`), a run that fails with wrong settings has not got
beyond its preparation, and it has not called the storage (`no_calls_of_refused`).
-/
namespace StoreMeter
namespace Concert

open Storage (Operation)

variable {S : Type} {B : Backend S} {plan : Plan}

/-! ## The calls of a run -/

/-- The calls to the storage that a list of decisions lets happen, in their order. -/
def calls {α : Type} : List (Choice B) → State B α → List (Caller × Operation S)
  | [], _ => []
  | choice :: rest, s =>
    match move choice s with
    | some s' => (call? choice s).toList ++ calls rest s'
    | none => []

/-- No call is made where what every decision keeps leaves no room for one. -/
theorem calls_eq_nil {α : Type} {keeps : State B α → Minutes S → Prop}
    (step : ∀ {choice s s' m}, keeps s m → move choice s = some s' → keeps s' (heard choice s m))
    (silent : ∀ {choice s m}, keeps s m → call? choice s = none) (choices : List (Choice B))
    {s : State B α} {m : Minutes S} (h : keeps s m) : calls choices s = [] := by
  induction choices generalizing s m with
  | nil => rfl
  | cons choice rest ih =>
    rw [calls]
    cases moved : move choice s with
    | none => rfl
    | some s' =>
      dsimp only
      rw [silent h, ih (step h moved)]
      rfl

theorem World.not_moves_of_no_tasks {w w' : World B} (alone : w.tasks = []) : ¬ w.Moves w' := by
  intro moves
  obtain ⟨k, old, _, there, -⟩ := moves.step.tasks
  simp [World.status?, alone] at there

/-- A run that only tells what it does, and has nobody to work for it. -/
structure Quiet (plan : Plan) (s : State B (Except Fault Tally × Session)) (m : Minutes S) : Prop where
  minuted : Minuted plan s m
  tells : s.main.Ends (StoreMeter.minuted Tells) (fun _ _ => True) m
  alone : s.world.tasks = []

theorem Quiet.move {choice : Choice B} {s s' : State B (Except Fault Tally × Session)}
    {m : Minutes S} (h : Quiet plan s m) (moved : move choice s = some s') :
    Quiet plan s' (heard choice s m) := by
  rcases move_heard m moved with ⟨-, -, moves⟩ |
    ⟨op, next, reply, fate, random, unfinished, -, asks, goes_on, told, answered⟩
  · exact absurd moves (World.not_moves_of_no_tasks h.alone)
  · have fits := h.minuted.asks
    have tells := h.tells
    rw [asks] at fits tells
    obtain ⟨honest, -⟩ := h.minuted.borne.answer fits.1 answered
    refine ⟨h.minuted.move moved, ?_, ?_⟩
    · rw [told, goes_on]
      exact tells.2 reply _ ⟨honest, rfl⟩
    have allowed := tells.1
    generalize s'.world = w' at answered ⊢
    cases op with
    | enter _ | newLate | log _ =>
      cases answered
      exact h.alone
    | storage _ | entropy _ | newPool _ _ | submit _ _ | wait _ _ _ | cancel _ _ | result _ _
      | shutdown _ _ _ | addLate _ _ | lateIndexes _ => exact allowed.elim

theorem Quiet.silent {choice : Choice B} {s : State B (Except Fault Tally × Session)}
    {m : Minutes S} (h : Quiet plan s m) : call? choice s = none := by
  rw [Option.eq_none_iff_forall_ne_some]
  rintro ⟨caller, op⟩ called
  rcases call?_cases called with ⟨-, next, asks⟩ | ⟨k, next, -, found⟩
  · have tells := h.tells
    rw [asks] at tells
    exact tells.1
  · simp [World.status?, h.alone] at found

/-- A run that is refused calls nothing. -/
theorem no_calls_of_refused {fault : Fault} (failed : Run.check plan = .error fault)
    (store : B.State) (choices : List (Choice B)) : calls choices (opening plan store) = [] := by
  have quiet : Quiet plan (opening plan store) ({} : Minutes S) :=
    ⟨opening_minuted plan store, Prog.Ends.mono (fun _ _ _ => trivial) (Run.whole_refused failed),
      rfl⟩
  exact calls_eq_nil (fun {choice s s' m} (h : Quiet plan s m) moved => h.move moved)
    (fun {choice s m} (h : Quiet plan s m) => h.silent) choices quiet

/-! ## Who finds fault with the settings -/

/-- The failures of an answer of the storage. -/
def failuresOf : (op : Operation S) → op.Answer → List Fault
  | .isPresent _, reply | .makeDirs _, reply | .create _, reply | .openRead _, reply
  | .delete _, reply => failureOf reply
  | .write _ _, (_, reply) | .flush _, (_, reply) | .read _ _, (_, reply) | .close _, (_, reply) =>
    failureOf reply

/-- A storage that never says that the settings of a run are wrong. -/
def Backend.Impartial (B : Backend S) : Prop :=
  ∀ fate op store, ∀ fault ∈ failuresOf op (B.answer fate op store).1, fault.isConfiguration = false

/-- Where random bytes cannot be had, the settings of the run are not to blame. -/
def Choice.Impartial : Choice B → Prop
  | .conduct _ random _ => ∀ fault ∈ failureOf random, fault.isConfiguration = false
  | .start _ | .work _ _ _ => True

/-- Nothing in the minutes says that the settings of the run are wrong. -/
structure Impartial (m : Minutes S) : Prop where
  failures : ∀ fault ∈ m.failures, fault.isConfiguration = false
  deletions : ∀ deletion ∈ m.deletions, ∀ fault ∈ failureOf deletion.2,
    fault.isConfiguration = false

section
variable {m : Minutes S}

theorem Impartial.hear {α : Type} (h : Impartial m) {reply : Except Fault α}
    (impartial : ∀ fault ∈ failureOf reply, fault.isConfiguration = false) :
    Impartial (m.hear reply) :=
  ⟨fun fault told => (List.mem_append.1 told).elim (h.failures fault) (impartial fault), h.deletions⟩

theorem Impartial.seeTarget (h : Impartial m) {reply : Except Fault Bool}
    (impartial : ∀ fault ∈ failureOf reply, fault.isConfiguration = false) :
    Impartial (m.seeTarget reply) :=
  ⟨fun fault told => (List.mem_append.1 told).elim (h.failures fault) (impartial fault), h.deletions⟩

theorem Impartial.delete (h : Impartial m) {path : String} {reply : Except Fault Unit}
    (impartial : ∀ fault ∈ failureOf reply, fault.isConfiguration = false) :
    Impartial (m.delete [(path, reply)]) := by
  refine ⟨h.failures, fun deletion there => ?_⟩
  rcases List.mem_append.1 there with before | new
  · exact h.deletions deletion before
  · cases List.mem_singleton.1 new
    exact impartial

theorem failureOf_map {α β : Type} (f : α → β) (reply : Except Fault α) :
    failureOf (reply.map f) = failureOf reply := by
  cases reply <;> rfl

/-- A limit that no wait can have is not found fault with as a setting. -/
theorem waitResult_impartial (unfinished : List Nat) (limit : Value) :
    ∀ fault ∈ failureOf (Conductor.waitResult unfinished limit), fault.isConfiguration = false := by
  intro fault told
  cases result : Conductor.waitResult unfinished limit with
  | ok unfinished =>
    rw [result] at told
    cases told
  | error other =>
    rw [result] at told
    obtain rfl := List.mem_singleton.1 told
    exact (innocent_of_wait result).1

theorem Impartial.note (h : Impartial m) {w w' : World B} {fate : B.Fate}
    {random : Except Fault ByteArray} {unfinished : List Nat} {op : Conductor.Op S}
    {reply : op.Answer} (storage : B.Impartial)
    (entropy : ∀ fault ∈ failureOf random, fault.isConfiguration = false)
    (answered : w.answer fate random unfinished op = some (reply, w')) :
    Impartial (m.note op reply) := by
  cases op with
  | storage op =>
    cases answered
    have impartial := storage fate op w.shared.store
    cases op with
    | isPresent path => exact h.seeTarget impartial
    | makeDirs path =>
      have same := failureOf_map (fun (_ : Unit) => true)
        (B.answer fate (.makeDirs path) w.shared.store).1
      exact h.seeTarget (same ▸ impartial)
    | delete path => exact h.delete impartial
    | create _ | openRead _ | write _ _ | flush _ | read _ _ | close _ => exact h
  | entropy size =>
    obtain ⟨rfl, -⟩ := World.answer_entropy.1 answered
    exact h.hear entropy
  | wait pool submissions limit =>
    obtain ⟨-, rfl, -⟩ := World.answer_wait.1 answered
    exact h.hear (waitResult_impartial unfinished limit)
  | log _ | newPool _ _ | submit _ _ | cancel _ _ | result _ _ | shutdown _ _ _ | newLate
    | addLate _ _ | lateIndexes _ | enter _ => exact ⟨h.failures, h.deletions⟩

end

/-- If nobody else says so, a run that fails with wrong settings was refused by the check of its plan,
and it has not called the storage. -/
theorem refused_of_configuration (storage : B.Impartial) {store : B.State}
    {choices : List (Choice B)} (entropy : ∀ choice ∈ choices, choice.Impartial)
    {s : State B (Except Fault Tally × Session)} (played : play choices (opening plan store) = some s)
    {fault : Fault} {session : Session} (done : s.main = .done (.error fault, session))
    (configuration : fault.isConfiguration = true) :
    Run.check plan = .error fault ∧ calls choices (opening plan store) = [] := by
  have impartial : Impartial (minutes choices (opening plan store) {}) := by
    have opens : Impartial ({} : Minutes S) := ⟨List.forall_mem_nil _, List.forall_mem_nil _⟩
    refine play_keeps (fun choice there {s s' m} (h : Impartial m) moved => ?_) opens played
    rcases move_heard m moved with ⟨-, same, -⟩ |
      ⟨op, next, reply, fate, random, unfinished, rfl, -, -, told, answered⟩
    · rw [same]
      exact h
    · rw [told]
      exact h.note storage (entropy _ there) answered
  suffices failed : Run.check plan = .error fault from
    ⟨failed, no_calls_of_refused failed store choices⟩
  have ending := (run_minuted played).ending done
  generalize minutes choices (opening plan store) {} = m at *
  cases ending with
  | refused failed => exact failed
  | broken _ _ _ _ _ told =>
    rw [impartial.failures fault (told configuration)] at configuration
    cases configuration
  | uncleaned _ _ _ _ escaped =>
    obtain ⟨cleared, path, rest, -, -, -, deletions⟩ := escaped
    have judged := impartial.deletions (path, .error fault) (by simp [deletions]) fault
      (List.mem_singleton_self fault)
    rw [judged] at configuration
    cases configuration

end Concert
end StoreMeter
