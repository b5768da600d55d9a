import StoreMeter.Proofs.Minutes
/-
# Proofs.Cleanup — the objects are deleted one after another

After both phases a run deletes the objects of all workers in their order.  A storage may answer each
of these deletions as it likes.  Answers that the object is not there and failures of the system are
told in the log, and the next object is tried; any other failure escapes, and the objects behind it
are not tried (`cleanup_settles`).
-/
namespace StoreMeter
namespace Run

variable {S : Type} {plan : Plan} {session : Session} {m : Minutes S}
variable {fits : Minutes S → Conductor.Op S → Prop}

/-- Is the answer to a deletion a failure that ends the cleaning up? -/
def escapes : Except Fault Unit → Bool
  | .ok _ => false
  | .error fault => !fault.isAbsent && !fault.isSystem

/-- Did the deletion fail for another reason than that there was no object? -/
def leaves : Except Fault Unit → Bool
  | .ok _ => false
  | .error fault => !fault.isAbsent

/-- The paths whose deletion failed for another reason than that there was no object. -/
def leftBehind (deletions : List (String × Except Fault Unit)) : List String :=
  (deletions.filter fun deletion => leaves deletion.2).map Prod.fst

/-- One object is tried, and what is returned and what escapes depends on the answer. -/
theorem deleteObject_settles (logs : ∀ m entry, fits m (.log entry)) {path : String}
    (here : fits m (.storage (.delete path))) :
    Settles (minuted fits)
      (fun fault m' => escapes (.error fault) = true ∧ m' = m.delete [(path, .error fault)])
      (fun failed session' m' => session' = session ∧ ∃ reply, escapes reply = false ∧
        failed = leftBehind [(path, reply)] ∧ m' = m.delete [(path, reply)])
      (deleteObject path) session m := by
  unfold deleteObject
  refine settles_minuted here ?_
  rintro (fault | _) -
  · have logged {entry : Log.Entry} {failed : List String}
        (tolerated : escapes (.error fault) = false)
        (told : failed = leftBehind [(path, .error fault)]) :
        Settles (minuted fits)
          (fun fault m' => escapes (.error fault) = true ∧ m' = m.delete [(path, .error fault)])
          (fun failed session' m' => session' = session ∧ ∃ reply, escapes reply = false ∧
            failed = leftBehind [(path, reply)] ∧ m' = m.delete [(path, reply)])
          (do lift (Conductor.log entry); return failed) session
          (m.delete [(path, .error fault)]) :=
      settles_minuted (logs _ _) fun _ _ => settles_pure ⟨rfl, _, tolerated, told, rfl⟩
    dsimp only
    split
    · rename_i absent
      exact logged (by simp [escapes, absent]) (by simp [leftBehind, leaves, absent])
    · rename_i present
      split
      · rename_i system
        exact logged (by simp [escapes, system]) (by simp [leftBehind, leaves, present])
      · rename_i foreign
        exact settles_throw ⟨by simp [escapes, present, foreign], rfl⟩
  · exact settles_pure ⟨rfl, .ok (), rfl, rfl, rfl⟩

/-- No answer of these deletions escapes. -/
def Tolerated (deletions : List (String × Except Fault Unit)) : Prop :=
  ∀ deletion ∈ deletions, escapes deletion.2 = false

/-- Some objects were tried in their order, and then there was a failure that escapes. -/
def Escaped (paths : List String) (fault : Fault) (deletions : List (String × Except Fault Unit)) :
    Prop :=
  ∃ cleared path rest, paths = cleared.map Prod.fst ++ path :: rest ∧ Tolerated cleared ∧
    escapes (.error fault) = true ∧ deletions = cleared ++ [(path, .error fault)]

theorem Escaped.not_tolerated {paths : List String} {fault : Fault}
    {deletions : List (String × Except Fault Unit)} (escaped : Escaped paths fault deletions) :
    ¬ Tolerated deletions := by
  obtain ⟨cleared, path, rest, -, -, escapes, rfl⟩ := escaped
  intro tolerated
  rw [tolerated (path, .error fault) (by simp)] at escapes
  cases escapes

/-- All objects were tried in their order, and none of the failures escapes. -/
def Cleared (paths : List String) (deletions : List (String × Except Fault Unit)) : Prop :=
  deletions.map Prod.fst = paths ∧ Tolerated deletions

/-- The objects behind an answer that does not escape are tried as well. -/
theorem deleteAll_settles (logs : ∀ m entry, fits m (.log entry)) (paths : List String) :
    ∀ {m : Minutes S} {session : Session},
      (∀ cleared path rest, paths = cleared.map Prod.fst ++ path :: rest →
        fits (m.delete cleared) (.storage (.delete path))) →
      Settles (minuted fits)
        (fun fault m' => ∃ deletions, Escaped paths fault deletions ∧ m' = m.delete deletions)
        (fun failed session' m' => session' = session ∧ ∃ deletions, Cleared paths deletions ∧
          failed.flatten = leftBehind deletions ∧ m' = m.delete deletions)
        (paths.mapM deleteObject) session m := by
  induction paths with
  | nil =>
    intro m session _
    refine settles_pure ⟨rfl, [], ⟨rfl, List.forall_mem_nil _⟩, rfl, ?_⟩
    simp [Minutes.delete]
  | cons path rest ih =>
    intro m session fit
    have here : fits m (.storage (.delete path)) := by
      simpa [Minutes.delete] using fit [] path rest rfl
    rw [List.mapM_cons]
    refine Settles.bind ((deleteObject_settles logs here).mono (fun _ _ _ h => h) ?_) ?_
    · rintro fault _ ⟨escaped, rfl⟩
      exact ⟨_, ⟨[], path, rest, rfl, List.forall_mem_nil _, escaped, rfl⟩, rfl⟩
    rintro failed session _ ⟨rfl, reply, tolerated, rfl, rfl⟩
    have others (cleared : List (String × Except Fault Unit)) (next : String) (after : List String)
        (split : rest = cleared.map Prod.fst ++ next :: after) :
        fits ((m.delete [(path, reply)]).delete cleared) (.storage (.delete next)) := by
      simpa [Minutes.delete] using fit ((path, reply) :: cleared) next after (by simp [split])
    have one : Tolerated [(path, reply)] := by simpa [Tolerated] using tolerated
    refine Settles.bind ((ih others).mono (fun _ _ _ h => h) ?_) ?_
    · rintro fault _ ⟨_, ⟨cleared, next, after, split, before, escaped, rfl⟩, rfl⟩
      refine ⟨_, ⟨(path, reply) :: cleared, next, after, by simp [split], ?_, escaped, rfl⟩, ?_⟩
      · simpa [Tolerated, tolerated] using before
      · simp [Minutes.delete]
    · rintro more session _ ⟨rfl, deletions, ⟨all, before⟩, told, rfl⟩
      refine settles_pure ⟨rfl, (path, reply) :: deletions, ⟨by simp [all], ?_⟩, ?_, ?_⟩
      · simpa [Tolerated, tolerated] using before
      · simp only [List.flatten_cons, told, leftBehind]
        rw [← List.map_append, ← List.filter_append, List.singleton_append]
      · simp [Minutes.delete]

/-- Cleaning up tries all objects in their order and returns what is left, or a failure escapes. -/
theorem cleanup_settles {size : Nat} (valid : plan.Valid size)
    (logs : ∀ m entry, fits m (.log entry)) (enters : fits m (.enter .cleanup))
    (deletes : ∀ (cleared : List (String × Except Fault Unit)), cleared.length < plan.workers →
      fits ((m.enter .cleanup).delete cleared)
        (.storage (.delete (plan.settings.objectPath cleared.length)))) :
    Settles (minuted fits)
      (fun fault m' => ∃ deletions, Escaped plan.objectPaths fault deletions ∧
        m' = (m.enter .cleanup).delete deletions)
      (fun failed session' m' => session' = session ∧ ∃ deletions,
        Cleared plan.objectPaths deletions ∧ failed = leftBehind deletions ∧
          m' = (m.enter .cleanup).delete deletions)
      (cleanup plan) session m := by
  unfold cleanup
  refine settles_minuted enters fun _ _ => ?_
  rw [Plan.objectPaths_eq valid]
  show Settles _ _ _ (do
    let failed ← plan.objectPaths.mapM deleteObject
    return failed.flatten) _ (m.enter .cleanup)
  refine Settles.bind (deleteAll_settles logs plan.objectPaths ?_) ?_
  · intro cleared path rest split
    have below : cleared.length < plan.workers := by
      have := congrArg List.length split
      simp [Plan.objectPaths] at this
      omega
    have turn : plan.settings.objectPath cleared.length = path := by
      have := congrArg (fun paths => paths[cleared.length]?) split
      simpa [Plan.objectPaths, List.getElem?_range below] using this
    exact turn ▸ deletes cleared below
  · rintro failed session _ ⟨rfl, deletions, cleared, told, rfl⟩
    exact settles_pure ⟨rfl, deletions, cleared, told, rfl⟩

end Run
end StoreMeter
