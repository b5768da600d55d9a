import StoreMeter.Charts
import StoreMeter.Sorting.Lemmas
/-
# Proofs.Charts — the picture of the workers leaves nobody out

The picture of the workers has an axis for each direction.  The bars on it stand side by side, and their
heights are the speeds of all measurements of that direction, each of them once: the sort that puts the
fastest first only moves them (`workerPicture_shows`).
-/
namespace StoreMeter
namespace Charts

/-! ## Bars -/

/-- The bars that a step draws on an axis, each with its place and its height. -/
def Step.barsOn (axis : Nat) : Step → List (Value × Value)
  | .bars other places heights _ _ _ => if other = axis then places.zip heights else []
  | .picture _ _ | .onAxis _ _ _ => []

/-- The bars that all steps draw on an axis. -/
def barsOn (axis : Nat) (steps : List Step) : List (Value × Value) :=
  steps.flatMap (Step.barsOn axis)

theorem barsOn_append (axis : Nat) (steps more : List Step) :
    barsOn axis (steps ++ more) = barsOn axis steps ++ barsOn axis more :=
  List.flatMap_append

/-- The bars stand side by side, and their heights are these speeds in some order. -/
structure Shows (bars : List (Value × Value)) (speeds : List Binary64) : Prop where
  places : bars.map Prod.fst = (List.range speeds.length).map Value.nat
  heights : (bars.map Prod.snd).Perm (speeds.map Value.real)

theorem Shows.perm {bars : List (Value × Value)} {speeds speeds' : List Binary64}
    (h : Shows bars speeds) (same : speeds.Perm speeds') : Shows bars speeds' where
  places := same.length_eq ▸ h.places
  heights := h.heights.trans (same.map Value.real)

/-! ## The picture of the workers -/

theorem workerBars_shows (axis : Nat) (mode : Mode) (speeds : List Binary64) :
    Shows (barsOn axis (workerBars axis mode speeds)) speeds := by
  unfold workerBars
  split
  · -- where there are no workers there is only a note
    rename_i nobody
    rw [List.isEmpty_iff.1 nobody]
    exact ⟨rfl, .refl _⟩
  · have bars (mean label : List Value) : barsOn axis [.bars axis
          ((List.range speeds.length).map Value.nat) (speeds.map Value.real)
          (.real (Binary64.ofDecimal false 8 (-1))) none (colour mode),
        .onAxis axis "axhline" mean, .onAxis axis "legend" label] =
        ((List.range speeds.length).map Value.nat).zip (speeds.map Value.real) := by
      simp [barsOn, Step.barsOn]
    have lengths : ((List.range speeds.length).map Value.nat).length =
        (speeds.map Value.real).length := by simp
    dsimp only
    rw [bars]
    exact ⟨List.map_fst_zip (Nat.le_of_eq lengths), .of_eq (List.map_snd_zip (Nat.le_of_eq lengths.symm))⟩

/-- The bars of a direction are on its axis only. -/
theorem workerBars_elsewhere {axis other : Nat} (apart : axis ≠ other) (mode : Mode)
    (speeds : List Binary64) : barsOn other (workerBars axis mode speeds) = [] := by
  unfold workerBars
  split <;> simp [barsOn, Step.barsOn, apart]

/-- One direction of the picture shows all speeds of the direction on its axis, and nothing elsewhere. -/
theorem workerAxis_shows {tally : Tally} {axis : Nat} {mode : Mode} {steps : List Step}
    (drawn : workerAxis tally axis mode = .ok steps) :
    ∃ speeds, (tally.forMode mode).throughputs = .ok speeds ∧ Shows (barsOn axis steps) speeds ∧
      ∀ other, axis ≠ other → barsOn other steps = [] := by
  obtain ⟨speeds, told, drawn⟩ := bind_eq_ok.1 drawn
  cases drawn
  have nothing (other : Nat) : barsOn other [.onAxis axis "set_title" [.text mode.heading],
      .onAxis axis "set_xlabel" [.text "Worker (sorted)"], .onAxis axis "grid" []] = [] := rfl
  refine ⟨speeds, told, ?_, fun other apart => ?_⟩
  · rw [barsOn_append, nothing, List.append_nil]
    exact (workerBars_shows axis mode _).perm (Sorting.sortDescending_perm _ _)
  · rw [barsOn_append, nothing, workerBars_elsewhere apart]
    rfl

/-- The axis of a direction. -/
def axisOf : Mode → Nat
  | .write => 0
  | .read => 1

/-- The picture of the workers shows the speed of every measurement once, on the axis of its direction. -/
theorem workerPicture_shows {tally : Tally} {file : String} {steps : List Step}
    (drawn : workerPicture tally file = .ok steps) (mode : Mode) :
    ∃ speeds, (tally.forMode mode).throughputs = .ok speeds ∧
      Shows (barsOn (axisOf mode) steps) speeds := by
  obtain ⟨written, drawnWrites, drawn⟩ := bind_eq_ok.1 drawn
  obtain ⟨readBack, drawnReads, drawn⟩ := bind_eq_ok.1 drawn
  cases drawn
  obtain ⟨writes, toldWrites, shownWrites, apart⟩ := workerAxis_shows drawnWrites
  obtain ⟨reads, toldReads, shownReads, apart'⟩ := workerAxis_shows drawnReads
  -- the steps around both axes draw no bars
  have before (axis : Nat) : barsOn axis [.picture "subplots" [.int 1, .int 2]] = [] := rfl
  have after (axis : Nat) : barsOn axis [.onAxis 0 "set_ylabel" [.text speedTitle],
      .picture "savefig" [.text file], .picture "close" []] = [] := rfl
  cases mode with
  | write =>
    refine ⟨writes, toldWrites, ?_⟩
    rwa [axisOf, barsOn_append, barsOn_append, barsOn_append, before, after,
      apart' 0 (by decide), List.nil_append, List.append_nil, List.append_nil]
  | read =>
    refine ⟨reads, toldReads, ?_⟩
    rwa [axisOf, barsOn_append, barsOn_append, barsOn_append, before, after,
      apart 1 (by decide), List.nil_append, List.append_nil, List.nil_append]

end Charts
end StoreMeter
