import StoreMeter.Cli.Program
import StoreMeter.Proofs.Concert.Outcomes
import StoreMeter.Proofs.Concert.Remains
/-
# Proofs.Cli.Deeds — what a call of the program has done

A call of the program asks for a whole run, and later for directories, files and pictures.  `Deeds` keep
what it was given: the run is a `Performance`, a list of decisions that leads a plan to its result among
its workers.  `desk` are surroundings in which the output can be written, while the run may come to
whatever its storage and its workers lead to.

`Reaches` is the contract of a program that may fail: it says what holds wherever the program returns.
-/
namespace StoreMeter

namespace Concert

variable {S : Type} {B : Backend S}

/-- A whole run on a storage that has come to its end. -/
structure Performance (B : Backend S) where
  plan : Plan
  store : B.State
  choices : List (Choice B)
  last : State B (Except Fault Tally × Session)
  result : Except Fault Tally
  session : Session
  played : play choices (opening plan store) = some last
  done : last.main = .done (result, session)
  /-- Random bytes may be missing, but nobody finds fault with the settings then. -/
  impartial : ∀ choice ∈ choices, choice.Impartial

namespace Performance

/-- The minutes of the run. -/
def minutes (p : Performance B) : Minutes S := Concert.minutes p.choices (opening p.plan p.store) {}

/-- What the workers of both phases came to, first the writers. -/
def outcomes (p : Performance B) : List Outcome := p.minutes.outcomes p.plan

/-- The calls of the run to its storage. -/
def calls (p : Performance B) : List (Caller × Storage.Operation S) :=
  Concert.calls p.choices (opening p.plan p.store)

theorem refused (p : Performance B) (storage : B.Impartial) {fault : Fault}
    (failed : p.result = .error fault) (configuration : fault.isConfiguration = true) :
    Run.check p.plan = .error fault ∧ p.calls = [] := by
  have done := p.done
  rw [failed] at done
  exact refused_of_configuration storage p.impartial p.played done configuration

theorem inVain (p : Performance B) {fault : Fault} (failed : p.result = .error fault)
    (setup : fault.isSetup = true) {caller : Caller} {op : Storage.Operation S}
    (there : (caller, op) ∈ p.calls) : InVain p.plan p.minutes caller op := by
  have done := p.done
  rw [failed] at done
  exact inVain_of_setup p.played done setup there

theorem reports (p : Performance B) {report : Tally} (came : p.result = .ok report) :
    Reports p.plan p.minutes report := by
  have done := p.done
  rw [came] at done
  exact reports_of_done p.played done

end Performance

end Concert

namespace Cli

open Concert (Backend Performance)
open Storage.Local (FilePath)

/-! ## Programs that may fail -/

section
variable {σ α β : Type} {env : Surroundings effects σ} {s : σ}

/-- Wherever the program returns, the goal is reached. -/
def Reaches (env : Surroundings effects σ) (goal : α → σ → Prop) (program : Program α) (s : σ) :
    Prop :=
  Prog.Ends env (fun r s => ∀ a, r = .ok a → goal a s) program.run s

theorem reaches_pure {goal : α → σ → Prop} {a : α} (h : goal a s) :
    Reaches env goal (pure a) s := by
  rintro _ ⟨⟩
  exact h

theorem reaches_throw {goal : α → σ → Prop} (fault : Fault) :
    Reaches env goal (throw fault : Program α) s := by
  rintro _ ⟨⟩

/-- One program after another. -/
theorem Reaches.bind {mid : α → σ → Prop} {goal : β → σ → Prop} {program : Program α}
    {next : α → Program β} (h : Reaches env mid program s)
    (further : ∀ a s, mid a s → Reaches env goal (next a) s) :
    Reaches env goal (program >>= next) s := by
  apply Prog.Ends.bind h
  rintro (fault | a) s reached
  · rintro _ ⟨⟩
  · exact further a s (reached a rfl)

/-- A program that cannot fail, and one after it. -/
theorem reaches_lift_bind {mid : α → σ → Prop} {goal : β → σ → Prop} {program : Prog effects α}
    {next : α → Program β} (h : program.Ends env mid s)
    (further : ∀ a s, mid a s → Reaches env goal (next a) s) :
    Reaches env goal (ExceptT.lift program >>= next) s := by
  have lifted : Reaches env mid (ExceptT.lift program) s := by
    refine Prog.Ends.bind h fun a s reached => ?_
    rintro _ ⟨⟩
    exact reached
  exact lifted.bind further

/-- A question, and a program after it. -/
theorem reaches_ask_bind {op : Op} {goal : β → σ → Prop} {next : op.Answer → Program β}
    (allowed : env.Allows s op)
    (further : ∀ reply s', env.Answers s op reply s' → Reaches env goal (next reply) s') :
    Reaches env goal (ask op >>= next) s := by
  have asked : (Prog.perform (E := effects) op).Ends env
      (fun reply s' => env.Answers s op reply s') s := ⟨allowed, fun _ _ answered => answered⟩
  exact reaches_lift_bind asked further

/-- A result that may be a failure, and a program after it. -/
theorem reaches_orFail_bind {reply : Except Fault α} {goal : β → σ → Prop} {next : α → Program β}
    (further : ∀ a, reply = .ok a → Reaches env goal (next a) s) :
    Reaches env goal (orFail reply >>= next) s := by
  cases reply with
  | error fault =>
    rintro _ ⟨⟩
  | ok a => exact further a rfl

/-- A program that is only called under a condition, and one after it. -/
theorem reaches_when_bind {c : Prop} [Decidable c] (holds : σ → Prop) {goal : β → σ → Prop}
    {program : Program Unit} {next : Unit → Program β}
    (called : c → Reaches env (fun _ s' => holds s') program s) (h : holds s)
    (further : ∀ s', holds s' → Reaches env goal (next ()) s') :
    Reaches env goal (if c then program >>= next else next ()) s := by
  split
  · rename_i holds
    exact (called holds).bind fun _ => further
  · exact further s h

/-- The same program over a list keeps what each of its rounds keeps. -/
theorem reaches_forM {items : List α} {each : α → Program PUnit} {holds : σ → Prop}
    (round : ∀ a s, holds s → Reaches env (fun _ s' => holds s') (each a) s) (h : holds s) :
    Reaches env (fun _ s' => holds s') (items.forM each) s := by
  induction items generalizing s with
  | nil => exact reaches_pure h
  | cons a rest ih =>
    exact (round a s h).bind fun _ s h => ih h

theorem Reaches.of_comes {goal : α → σ → Prop} {program : Program α} (h : Reaches env goal program s)
    {a : α} {after : σ} (comes : program.run.Comes env s (.ok a) after) : goal a after :=
  Prog.Ends.of_comes h comes a rfl

/-- A way through one program and then through another one. -/
theorem comes_bind {program : Program α} {next : α → Program β} {mid after : σ} {a : α}
    {r : Except Fault β} (first : program.run.Comes env s (.ok a) mid)
    (second : (next a).run.Comes env mid r after) : (program >>= next).run.Comes env s r after :=
  first.bind second

theorem comes_lift {program : Prog effects α} {mid : σ} {a : α} (h : program.Comes env s a mid) :
    (ExceptT.lift program : Program α).run.Comes env s (.ok a) mid :=
  h.bind ⟨rfl, rfl⟩

end

/-! ## Deeds -/

variable {S : Type} {B : Backend S}

/-- What a call of the program has done. -/
structure Deeds (B : Backend S) where
  /-- The whole run, if there was one. -/
  performance : Option (Performance B) := none
  /-- The directories that were made for the output. -/
  directories : List FilePath := []
  /-- The files that were saved, with their texts. -/
  saved : List (FilePath × String) := []
  /-- The directories into which pictures were drawn. -/
  drawn : List FilePath := []

/-- What comes of opening the storage of a path.  A storage that cannot be opened does not find fault
with the settings, and there is no phase yet that could find fault with its target. -/
def Opens (path : Value) (reply : Except Fault String) : Prop :=
  match StorageKind.ofValue path with
  | .error fault => reply = .error fault
  | .ok kind => reply = .ok kind.name ∨
    ∃ fault, reply = .error fault ∧ fault.isConfiguration = false ∧ fault.isSetup = false

/-- Surroundings where the output can be written, and a run is a run on this storage. -/
def desk (B : Backend S) : Surroundings effects (Deeds B) where
  Allows _ _ := True
  Answers deeds op reply deeds' :=
    match op, reply with
    | .openStorage path _, reply => Opens path reply ∧ deeds' = deeds
    | .run plan, reply => ∃ p : Performance B, p.plan = plan ∧ p.result = reply ∧
      deeds' = { deeds with performance := some p }
    | .makeDirectory path, reply => reply = .ok () ∧
      deeds' = { deeds with directories := deeds.directories ++ [path] }
    | .save path text, reply => reply = .ok () ∧
      deeds' = { deeds with saved := deeds.saved ++ [(path, text)] }
    | .draw directory _, _ => deeds' = { deeds with drawn := deeds.drawn ++ [directory] }
    | .print _, _ | .complain _, _ | .startLog _, _ | .now, _ | .absolute _, _ => deeds' = deeds

section
variable {β : Type} {deeds : Deeds B} {goal : β → Deeds B → Prop}

/-- A line that is printed changes nothing else. -/
theorem reaches_printLine_bind {text : String} {next : Unit → Program β}
    (h : Reaches (desk B) goal (next ()) deeds) :
    Reaches (desk B) goal (printLine text >>= next) deeds := by
  refine reaches_ask_bind trivial ?_
  rintro _ _ rfl
  exact h

theorem reaches_complainLine_bind {text : String} {next : Unit → Program β}
    (h : Reaches (desk B) goal (next ()) deeds) :
    Reaches (desk B) goal (complainLine text >>= next) deeds := by
  refine reaches_ask_bind trivial ?_
  rintro _ _ rfl
  exact h

theorem reaches_printLines_bind {lines : List String} {next : PUnit → Program β}
    (h : Reaches (desk B) goal (next ()) deeds) :
    Reaches (desk B) goal (lines.forM printLine >>= next) deeds := by
  have printed : Reaches (desk B) (fun _ deeds' => deeds' = deeds) (lines.forM printLine) deeds := by
    refine reaches_forM ?_ rfl
    rintro text _ rfl
    refine ⟨trivial, ?_⟩
    rintro _ _ rfl _ _
    rfl
  apply printed.bind
  rintro _ _ rfl
  exact h

/-- Lines can always be printed. -/
theorem comes_printLines (lines : List String) (deeds : Deeds B) :
    (lines.forM printLine).run.Comes (desk B) deeds (.ok ()) deeds := by
  induction lines with
  | nil => exact ⟨rfl, rfl⟩
  | cons line rest ih =>
    have printed : (printLine line).run.Comes (desk B) deeds (.ok ()) deeds :=
      ⟨(), deeds, rfl, rfl, rfl⟩
    exact comes_bind printed ih

end

/-- A text is saved in its directory. -/
theorem saveIn_reaches (directory file : FilePath) (text : String) (deeds : Deeds B) :
    Reaches (desk B)
      (fun _ deeds' => deeds' = { deeds with
        directories := deeds.directories ++ [directory]
        saved := deeds.saved ++ [(file, text)] })
      (saveIn directory file text) deeds := by
  unfold saveIn
  refine reaches_ask_bind trivial ?_
  rintro _ _ ⟨rfl, rfl⟩
  refine reaches_orFail_bind fun _ _ => reaches_ask_bind trivial ?_
  rintro _ _ ⟨rfl, rfl⟩
  rintro _ -
  rfl

end Cli
end StoreMeter
