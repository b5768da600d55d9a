import StoreMeter.Proofs.Concert.Timeouts
/-
# Proofs.Concert.Borders — a run up to the borders of its stages

At the border of a stage nobody looks at a run but who is curious about the objects in between.
`borders` lists the stages that a run enters, each with the world at its border, and each of these worlds
is one that the run comes to on its way (`exists_of_mem_borders`).

What a diary tells there it tells also at the end: it only grows, and tasks that rest when they have been
named have made all their steps (`Diary.Later`).
-/
namespace StoreMeter
namespace Concert

open Storage (Operation)

variable {S : Type} {B : Backend S} {α : Type} {plan : Plan}

/-! ## Decisions one after another -/

theorem diary_append {before after : List (Choice B)} {s t : State B α} {d : Diary S}
    (played : play before s = some t) :
    diary (before ++ after) s d = diary after t (diary before s d) := by
  induction before generalizing s d with
  | nil =>
    cases played
    rfl
  | cons choice rest ih =>
    obtain ⟨s₁, moved, played⟩ := Option.bind_eq_some_iff.1 played
    rw [List.cons_append, diary, diary, moved]
    exact ih played

/-! ## Borders -/

/-- The stage that a decision lets a run enter, and the world at the border. -/
def crosses : Choice B → State B α → List (Stage × World B)
  | .conduct _ _ _, ⟨.ask (.enter stage) _, w⟩ => [(stage, w)]
  | _, _ => []

/-- The stages that a list of decisions lets a run enter, each with the world at its border. -/
def borders : List (Choice B) → State B α → List (Stage × World B)
  | [], _ => []
  | choice :: rest, s =>
    match move choice s with
    | some s' => crosses choice s ++ borders rest s'
    | none => []

/-- The main thread is about to enter a stage. -/
def State.AtBorder (s : State B α) (stage : Stage) : Prop :=
  ∃ next : Unit → Conductor.Program S α, s.main = .ask (.enter stage) next

theorem mem_crosses {choice : Choice B} {s : State B α} {stage : Stage} {w : World B}
    (there : (stage, w) ∈ crosses choice s) : s.AtBorder stage ∧ s.world = w := by
  unfold crosses at there
  split at there
  · cases List.mem_singleton.1 there
    exact ⟨⟨_, rfl⟩, rfl⟩
  · cases there

/-- A run has come to each of its borders. -/
theorem exists_of_mem_borders {choices : List (Choice B)} {s : State B α} {stage : Stage}
    {w : World B} (there : (stage, w) ∈ borders choices s) : ∃ before after t,
      choices = before ++ after ∧ play before s = some t ∧ t.AtBorder stage ∧ t.world = w := by
  induction choices generalizing s with
  | nil => cases there
  | cons choice rest ih =>
    unfold borders at there
    split at there
    · rename_i s' moved
      rcases List.mem_append.1 there with here | later
      · obtain ⟨at_border, same⟩ := mem_crosses here
        exact ⟨[], choice :: rest, s, rfl, rfl, at_border, same⟩
      · obtain ⟨before, after, t, rfl, played, at_border, same⟩ := ih later
        refine ⟨choice :: before, after, t, rfl, ?_, at_border, same⟩
        rw [play, moved]
        exact played
    · cases there

theorem note_stages (m : Minutes S) (op : Conductor.Op S) (reply : op.Answer) :
    (m.note op reply).stages = m.stages ++ match op with | .enter stage => [stage] | _ => [] := by
  cases op with
  | storage op => cases op <;> exact (List.append_nil _).symm
  | enter _ => rfl
  | log _ | entropy _ | newPool _ _ | submit _ _ | wait _ _ _ | cancel _ _ | result _ _
    | shutdown _ _ _ | newLate | addLate _ _ | lateIndexes _ => exact (List.append_nil _).symm

theorem stages_crosses {choice : Choice B} {s s' : State B α} (m : Minutes S)
    (moved : move choice s = some s') :
    (heard choice s m).stages = m.stages ++ (crosses choice s).map Prod.fst := by
  obtain ⟨main, w⟩ := s
  cases decided_of_move moved with
  | start | work => exact (List.append_nil _).symm
  | @conduct fate random unfinished op next reply asks goes_on answered =>
    rw [heard_of_answer asks answered]
    obtain rfl : main = .ask op next := asks
    refine (note_stages m op reply).trans (congrArg (m.stages ++ ·) ?_)
    cases op <;> rfl

/-- The borders are those of the stages that the diary tells. -/
theorem stages_borders {choices : List (Choice B)} {s : State B α} {d : Diary S} :
    (diary choices s d).minutes.stages = d.minutes.stages ++ (borders choices s).map Prod.fst := by
  induction choices generalizing s d with
  | nil => exact (List.append_nil _).symm
  | cons choice rest ih =>
    unfold diary borders
    cases moved : move choice s with
    | none => exact (List.append_nil _).symm
    | some s' =>
      dsimp only
      rw [ih, List.map_append, ← List.append_assoc]
      exact congrArg (· ++ _) (stages_crosses d.minutes moved)

/-! ## Later in a run -/

namespace Diary

/-- What a diary is that has gone on: it tells more, and of a task that was named before, and has rested
since then, it tells the same steps. -/
structure Later (d d' : Diary S) : Prop where
  takings : d.minutes.takings ⊆ d'.minutes.takings
  named : d.named ⊆ d'.named
  restless : d.restless ⊆ d'.restless
  worked {k : Nat} (named : k ∈ d.named) (rests : k ∉ d'.restless) :
    d'.worked.count k = d.worked.count k

theorem Later.refl (d : Diary S) : d.Later d :=
  ⟨List.Subset.refl _, List.Subset.refl _, List.Subset.refl _, fun _ _ => rfl⟩

theorem Later.trans {d d' d'' : Diary S} (h : d.Later d') (h' : d'.Later d'') : d.Later d'' where
  takings := List.Subset.trans h.takings h'.takings
  named := List.Subset.trans h.named h'.named
  restless := List.Subset.trans h.restless h'.restless
  worked named rests := (h'.worked (h.named named) rests).trans
    (h.worked named fun there => rests (h'.restless there))

theorem later_note (d : Diary S) (choice : Choice B) (s : State B α) : d.Later (d.note choice s) where
  takings := by
    show d.minutes.takings ⊆ (heard choice s d.minutes).takings
    unfold heard
    split
    · split
      · rename_i reply _ _
        exact note_takings d.minutes _ reply ▸ List.subset_append_left _ _
      · exact List.Subset.refl _
    · exact List.Subset.refl _
  named := List.subset_append_left _ _
  restless := List.subset_append_left _ _
  worked {k} named rests := by
    -- a step of a named task would be restless
    have idle : k ∉ works choice := fun there =>
      rests (List.mem_append_right _ (List.mem_filter.2 ⟨there, by simpa using named⟩))
    show (d.worked ++ works choice).count k = d.worked.count k
    rw [List.count_append, List.count_eq_zero.2 idle, Nat.add_zero]

theorem later_diary (d : Diary S) (choices : List (Choice B)) (s : State B α) :
    d.Later (diary choices s d) := by
  induction choices generalizing s d with
  | nil => exact .refl d
  | cons choice rest ih =>
    unfold diary
    split
    · exact (d.later_note choice s).trans (ih _ _)
    · exact .refl d

theorem later_append {before : List (Choice B)} (after : List (Choice B)) {s t : State B α}
    {d : Diary S} (played : play before s = some t) :
    (diary before s d).Later (diary (before ++ after) s d) := by
  rw [diary_append played]
  exact later_diary _ after t

end Diary

/-! ## Random bytes -/

/-- The terms on which these random bytes can be drawn, and a wait may name whomever it likes. -/
def drawing (payload : ByteArray) : Terms B where
  permits random _ := random = .ok payload
  Fine _ _ := True

instance (payload : ByteArray) : DecidablePred ((drawing payload).Admits : Choice B → Prop)
  | .conduct _ random _ => inferInstanceAs (Decidable (random = .ok payload))
  | .start _ | .work _ _ _ => .isTrue trivial

/-- A decision draws nothing but these bytes. -/
theorem drawn_of_move {payload : ByteArray} {choice : Choice B} {s s' : State B α}
    (admitted : (drawing payload).Admits choice) (fresh : ∀ bytes ∈ s.world.drawn, bytes = payload)
    (moved : move choice s = some s') : ∀ bytes ∈ s'.world.drawn, bytes = payload := by
  rcases move_heard {} moved with ⟨-, -, moves⟩ |
    ⟨op, next, reply, fate, random, unfinished, rfl, -, -, -, answered⟩
  · rw [moves.step.drawn]
    exact fresh
  · obtain rfl : random = .ok payload := admitted
    intro bytes drawn
    rw [drawn_of_answer answered] at drawn
    rcases List.mem_append.1 drawn with before | new
    · exact fresh bytes before
    · cases op with
      | entropy size =>
        obtain ⟨rfl, -⟩ := World.answer_entropy.1 answered
        exact List.mem_singleton.1 new
      | storage _ | log _ | newPool _ _ | submit _ _ | wait _ _ _ | cancel _ _ | result _ _
        | shutdown _ _ _ | newLate | addLate _ _ | lateIndexes _ | enter _ => cases new

/-- What is drawn are these bytes. -/
theorem drawn_of_play {payload : ByteArray} {choices : List (Choice B)} {s s' : State B α}
    (admitted : ∀ choice ∈ choices, (drawing payload).Admits choice)
    (fresh : ∀ bytes ∈ s.world.drawn, bytes = payload) (played : play choices s = some s') :
    ∀ bytes ∈ s'.world.drawn, bytes = payload :=
  keeps_of_play (fun s => ∀ bytes ∈ s.world.drawn, bytes = payload)
    (fun choice there _ _ fresh moved => drawn_of_move (admitted choice there) fresh moved)
    fresh played

end Concert
end StoreMeter
