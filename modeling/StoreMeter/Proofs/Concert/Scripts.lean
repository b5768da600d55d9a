import StoreMeter.Proofs.Concert.Latecomers
/-
# Proofs.Concert.Scripts — storages whose failures are written down beforehand

A script has a line for each path.  The line says of each call on the path whether it works, is refused
or is disowned, by the calls that were made on the path before.  So two storages can differ in the
failures at one path and agree in all others.  Looking at the target, making it and deleting always work.

A stream knows its path here (`Handle`), so that reading from it is a call on the path, too.  What an
operation answers, and what it leaves at its path, depends on the object and the calls at that path
only (`SameAt.answer`), and other paths do not notice it (`scene_beside`).
-/
namespace StoreMeter
namespace Concert

open Storage (Operation)
open Storage.Memory (Stream Store)

/-! ## Streams that know their paths -/

/-- An open object with its path.  If it is open for writing, it is published under the path. -/
structure Handle where
  path : String
  writes : Bool
  data : ByteArray
  position : Nat := 0
  closed : Bool := false

namespace Handle

/-- The stream of an open object. -/
def stream (h : Handle) : Stream where
  data := h.data
  position := h.position
  closed := h.closed
  target := if h.writes then some h.path else none

/-- The open object when its stream has moved on. -/
def moved (h : Handle) (stream : Stream) : Handle :=
  { h with data := stream.data, position := stream.position, closed := stream.closed }

/-- An object that was just opened. -/
def opened (path : String) (writes : Bool) (stream : Stream) : Handle :=
  { path, writes, data := stream.data, position := stream.position, closed := stream.closed }

end Handle

/-- The operation on the streams of open objects. -/
def plain : Operation Handle → Operation Stream
  | .isPresent path => .isPresent path
  | .makeDirs path => .makeDirs path
  | .create path => .create path
  | .openRead path => .openRead path
  | .delete path => .delete path
  | .write h data => .write h.stream data
  | .flush h => .flush h.stream
  | .read h size => .read h.stream size
  | .close h => .close h.stream

/-- The answer with open objects in place of their streams. -/
def handled : (op : Operation Handle) → (plain op).Answer → op.Answer
  | .isPresent _, reply | .makeDirs _, reply | .delete _, reply => reply
  | .create path, reply => Except.map (Handle.opened path true) reply
  | .openRead path, reply => Except.map (Handle.opened path false) reply
  | .write h _, (stream, reply) => (h.moved stream, reply)
  | .flush h, (stream, reply) => (h.moved stream, reply)
  | .read h _, (stream, reply) => (h.moved stream, reply)
  | .close h, (stream, reply) => (h.moved stream, reply)

/-! ## Scripts -/

/-- The kinds of calls that may fail. -/
inductive Call where
  | create | openRead | write | flush | read | close
  deriving DecidableEq

/-- The call that an operation makes, and its path. -/
def callOf : Operation Handle → Option (String × Call)
  | .create path => some (path, .create)
  | .openRead path => some (path, .openRead)
  | .write h _ => some (h.path, .write)
  | .flush h => some (h.path, .flush)
  | .read h _ => some (h.path, .read)
  | .close h => some (h.path, .close)
  | .isPresent _ | .makeDirs _ | .delete _ => none

/-- How the next call on a path goes, by the calls that were made there before. -/
abbrev Line := List Call → Call → Flaw

/-- A line for each path. -/
abbrev Script := String → Line

/-- A storage with the calls that were made on each path so far. -/
structure Scene where
  store : Store
  calls : String → List Call := fun _ => []

namespace Scene

/-- How an operation goes. -/
def flaw (scene : Scene) (script : Script) (op : Operation Handle) : Flaw :=
  match callOf op with
  | some (path, call) => script path (scene.calls path) call
  | none => .none

/-- The calls after an operation. -/
def called (scene : Scene) (op : Operation Handle) (path : String) : List Call :=
  scene.calls path ++ (callOf op).toList.filterMap fun (other, call) =>
    if other = path then some call else none

/-- The answer to an operation, and the scene after it. -/
def answer (script : Script) (op : Operation Handle) (scene : Scene) : op.Answer × Scene :=
  let (reply, store) := unrulyAnswer (scene.flaw script op) (plain op) scene.store
  (handled op reply, ⟨store, scene.called op⟩)

end Scene

/-- A storage in memory that fails as it is written. -/
def scripted (script : Script) : Backend Handle where
  State := Scene
  Fate := Unit
  answer _ := Scene.answer script
  ticks := steady

/-! ## One path at a time -/

/-- The operation is about the object at a path. -/
def On (path : String) : Operation Handle → Prop
  | .create other | .openRead other | .delete other => other = path
  | .write h _ | .flush h | .read h _ | .close h => h.path = path
  | .isPresent _ | .makeDirs _ => False

/-- Two scenes are the same at a path. -/
structure SameAt (path : String) (a b : Scene) : Prop where
  object : a.store.get? path = b.store.get? path
  calls : a.calls path = b.calls path

theorem SameAt.refl (path : String) (a : Scene) : SameAt path a a := ⟨rfl, rfl⟩

theorem SameAt.symm {path : String} {a b : Scene} (h : SameAt path a b) : SameAt path b a :=
  ⟨h.object.symm, h.calls.symm⟩

theorem SameAt.trans {path : String} {a b c : Scene} (h : SameAt path a b) (h' : SameAt path b c) :
    SameAt path a c :=
  ⟨h.object.trans h'.object, h.calls.trans h'.calls⟩

section
variable {path : String} {op : Operation Handle} {script script' : Script} {a b : Scene}

/-- An operation on a path publishes and deletes nowhere else. -/
theorem On.touched {other : String} (own : On path op) (touched : (plain op).touched = some other) :
    other = path := by
  cases op with
  | isPresent _ | makeDirs _ => cases own
  | create _ | openRead _ | write _ _ | read _ _ => cases touched
  | delete _ =>
    cases touched
    exact own
  | flush h | close h =>
    simp only [plain, Operation.touched, Handle.stream] at touched
    split at touched
    · cases touched
      exact own
    · cases touched

/-- What an operation answers and leaves at its path depends on the object at the path only. -/
theorem On.reads {a b : Store} (own : On path op) (same : a.get? path = b.get? path) :
    (Storage.Memory.answer (plain op) a).1 = (Storage.Memory.answer (plain op) b).1 ∧
      (Storage.Memory.answer (plain op) a).2.get? path =
        (Storage.Memory.answer (plain op) b).2.get? path := by
  -- what is published does not depend on the object that was there before
  have published (stream : Stream) : (stream.publish a).get? path = (stream.publish b).get? path := by
    unfold Storage.Memory.Stream.publish
    split
    · rw [Store.get?_put, Store.get?_put, same]
    · exact same
  cases op with
  | isPresent _ | makeDirs _ => cases own
  | create _ => exact ⟨rfl, same⟩
  | openRead other | delete other =>
    obtain rfl : other = path := own
    cases there : b.get? other with
    | none =>
      rw [there] at same
      simp only [plain, Storage.Memory.answer, same, there]
      exact ⟨rfl, trivial⟩
    | some data =>
      rw [there] at same
      simp only [plain, Storage.Memory.answer, same, there]
      exact ⟨rfl, by simp⟩
  | write h data =>
    simp only [plain, Storage.Memory.answer]
    split <;> exact ⟨rfl, same⟩
  | flush h | close h =>
    simp only [plain, Storage.Memory.answer]
    split
    · exact ⟨rfl, same⟩
    · exact ⟨rfl, published _⟩
  | read h size =>
    simp only [plain, Storage.Memory.answer]
    split
    · exact ⟨rfl, same⟩
    · split <;> exact ⟨rfl, same⟩

theorem On.callOf (own : On path op) {other : String} {call : Call}
    (made : Concert.callOf op = some (other, call)) : other = path := by
  cases op with
  | isPresent _ | makeDirs _ | delete _ => cases made
  | create _ | openRead _ | write _ _ | flush _ | read _ _ | close _ =>
    cases made
    exact own

/-- An operation on a path is answered alike in scenes that are the same there, by scripts that agree
there, and leaves them the same there. -/
theorem SameAt.answer (same : SameAt path a b) (own : On path op) (agree : script path = script' path) :
    (Scene.answer script op a).1 = (Scene.answer script' op b).1 ∧
      SameAt path (Scene.answer script op a).2 (Scene.answer script' op b).2 := by
  -- how the operation goes is written in the line of its path, by the calls that were made there
  have flaws : a.flaw script op = b.flaw script' op := by
    unfold Scene.flaw
    split
    · rename_i other call made
      rw [own.callOf made, agree, same.calls]
    · rfl
  have calls : a.called op path = b.called op path := by
    rw [Scene.called, Scene.called, same.calls]
  obtain ⟨replies, objects⟩ := own.reads same.object
  have both : (unrulyAnswer (a.flaw script op) (plain op) a.store).1 =
        (unrulyAnswer (b.flaw script' op) (plain op) b.store).1 ∧
      (unrulyAnswer (a.flaw script op) (plain op) a.store).2.get? path =
        (unrulyAnswer (b.flaw script' op) (plain op) b.store).2.get? path := by
    rw [flaws]
    unfold unrulyAnswer
    cases b.flaw script' op with
    | none => exact ⟨replies, objects⟩
    | refused fault =>
      dsimp only
      split
      · exact ⟨replies, objects⟩
      · exact ⟨rfl, same.object⟩
    | disowned fault =>
      dsimp only
      rw [replies]
      exact ⟨rfl, objects⟩
  exact ⟨congrArg (handled op) both.1, both.2, calls⟩

/-- An operation that is not about a path leaves the path alone. -/
theorem scene_beside (untouched : (plain op).touched ≠ some path)
    (silent : ∀ call, callOf op ≠ some (path, call)) :
    SameAt path (Scene.answer script op a).2 a where
  object := by
    refine unruly_elim (plain op) (P := fun r => r.2.get? path = a.store.get? path) ?_ ?_ ?_ _
    · exact Storage.Memory.get?_answer _ _ untouched
    · exact fun _ _ => rfl
    · exact fun _ _ => Storage.Memory.get?_answer _ _ untouched
  calls := by
    show a.called op path = a.calls path
    rw [Scene.called]
    -- the call, if there is one, is written down for its own path
    cases made : callOf op with
    | none => exact List.append_nil _
    | some made_at =>
      obtain ⟨other, call⟩ := made_at
      have apart : other ≠ path := by
        rintro rfl
        exact silent call made
      simp [apart]

/-- An operation on one path leaves all others alone. -/
theorem On.beside {other : String} (own : On path op) (apart : other ≠ path) :
    SameAt other (Scene.answer script op a).2 a := by
  refine scene_beside (fun touched => apart (own.touched touched)) fun call made => ?_
  exact apart (own.callOf made)

/-- An operation on a path makes no directory. -/
theorem On.dirs (own : On path op) : (Scene.answer script op a).2.store.dirs = a.store.dirs := by
  have kept : (Storage.Memory.answer (plain op) a.store).2.dirs = a.store.dirs := by
    -- only making directories changes the storage besides the object
    have rest : Store.without (Storage.Memory.answer (plain op) a.store).2 [path] =
        a.store.without [path] := by
      refine Storage.Memory.without_answer
        (fun other touched => List.mem_singleton.2 (own.touched touched)) fun other same => ?_
      cases op with
      | makeDirs _ => cases own
      | _ => cases same
    exact Store.dirs_of_rest rest
  exact unruly_elim (plain op) (P := fun r => r.2.dirs = a.store.dirs) kept (fun _ _ => rfl)
    (fun _ _ => kept) _

/-- Streams stay with their path. -/
def Stays (path : String) : (op : Operation Handle) → op.Answer → Prop
  | .create _, reply | .openRead _, reply => ∀ h : Handle, reply = .ok h → h.path = path
  | .write _ _, (h, _) | .flush _, (h, _) | .read _ _, (h, _) | .close _, (h, _) => h.path = path
  | .isPresent _, _ | .makeDirs _, _ | .delete _, _ => True

theorem On.stays (own : On path op) : Stays path op (Scene.answer script op a).1 := by
  have opened {path : String} {writes : Bool} {reply : Except Fault Stream} {h : Handle}
      (opens : reply.map (Handle.opened path writes) = .ok h) : h.path = path := by
    cases reply <;> cases opens
    rfl
  cases op with
  | isPresent _ | makeDirs _ | delete _ => trivial
  | create other | openRead other =>
    obtain rfl : other = path := own
    exact fun h => opened
  | write h data | flush h | read h size | close h => exact own

end

end Concert
end StoreMeter
