import StoreMeter.Sorting
/-
# Sorting.Lemmas — a sort loses nothing

Whatever the comparison is, and even if it calls nothing ordered, sorting only moves items.  Each
part of the sort moves them and keeps them all, from one step of a merge (`Merging.takeShort_perm`)
over a merge of two runs (`merge_perm`) to the whole list (`sort_perm`).
-/
namespace StoreMeter
namespace Sorting

variable {α : Type}

/-! ## Merging -/

namespace Merging

/-- Everything in a merge, in no particular order. -/
def items (m : Merging α) : List α := m.merged ++ (m.short ++ m.long)

theorem result_perm (m : Merging α) : m.result.Perm m.items := by
  rw [result, items, List.append_assoc]
  exact (List.reverse_perm _).append List.perm_append_comm

theorem takeShort_perm (m : Merging α) (count : Nat) : (m.takeShort count).items.Perm m.items := by
  have taken := (List.reverse_perm (m.short.take count)).append_right m.merged
  calc (m.takeShort count).items
    _ = ((m.short.take count).reverse ++ m.merged) ++ (m.short.drop count ++ m.long) := rfl
    _ |>.Perm ((m.merged ++ m.short.take count) ++ (m.short.drop count ++ m.long)) :=
      (taken.trans List.perm_append_comm).append_right _
    _ = m.items := by
      rw [items, List.append_assoc, ← List.append_assoc (m.short.take count),
        List.take_append_drop]

theorem takeLong_perm (m : Merging α) (count : Nat) : (m.takeLong count).items.Perm m.items := by
  let swapped : Merging α := { m with short := m.long, long := m.short }
  have same (m : Merging α) :
      m.items.Perm ({ m with short := m.long, long := m.short } : Merging α).items :=
    List.perm_append_comm.append_left _
  exact (same _).trans ((takeShort_perm swapped count).trans (same swapped))

theorem singly_perm (way : Way α) (fromLong : Bool) (streak limit : Nat) (m : Merging α) :
    (singly way fromLong streak limit m).items.Perm m.items := by
  induction limit generalizing fromLong streak m with
  | zero => exact .refl _
  | succ limit ih =>
    unfold singly
    split
    · rename_i short _ long _ _ _
      have step : (if way.takesLong short long then m.takeLong 1 else m.takeShort 1).items.Perm
          m.items := by
        split
        · exact takeLong_perm m 1
        · exact takeShort_perm m 1
      dsimp only
      generalize (if way.takesLong short long then m.takeLong 1 else m.takeShort 1) = next at step
      generalize (if way.takesLong short long == fromLong then streak + 1 else 1) = streak
      split
      · exact step
      · exact (ih _ _ _).trans step
    · exact .refl _

theorem strideShort_perm (way : Way α) (m : Merging α) :
    (m.strideShort way).1.items.Perm m.items := by
  unfold strideShort
  split
  · exact .refl _
  · dsimp only
    split
    · exact takeShort_perm m _
    · exact (takeLong_perm _ 1).trans (takeShort_perm m _)

theorem strideLong_perm (way : Way α) (m : Merging α) :
    (m.strideLong way).1.items.Perm m.items := by
  unfold strideLong
  split
  · exact .refl _
  · dsimp only
    split
    · exact takeLong_perm m _
    · exact (takeShort_perm _ 1).trans (takeLong_perm m _)

theorem strideBoth_perm (way : Way α) (m : Merging α) :
    (m.strideBoth way).1.items.Perm m.items := by
  have first : (if way.shortFirst then m.strideShort way else m.strideLong way).1.items.Perm
      m.items := by
    split
    · exact strideShort_perm way m
    · exact strideLong_perm way m
  unfold strideBoth
  generalize (if way.shortFirst then m.strideShort way else m.strideLong way) = start at first
  dsimp only
  split
  · exact first
  · split
    · exact (strideLong_perm way _).trans first
    · exact (strideShort_perm way _).trans first

theorem inStrides_perm (way : Way α) (limit : Nat) (m : Merging α) :
    (inStrides way limit m).items.Perm m.items := by
  induction limit generalizing m with
  | zero => exact .refl _
  | succ limit ih =>
    have step := strideBoth_perm way { m with patience := max 1 (m.patience - 1) }
    unfold inStrides
    dsimp only
    split
    · exact step
    · split
      · exact (ih _).trans step
      · exact step

theorem finish_perm (way : Way α) (limit : Nat) (m : Merging α) :
    (finish way limit m).items.Perm m.items := by
  induction limit generalizing m with
  | zero => exact .refl _
  | succ limit ih =>
    have step := singly_perm way false 0 (m.short.length + m.long.length) m
    unfold finish
    split
    · exact .refl _
    · dsimp only
      split
      · exact step
      · exact (ih _).trans ((inStrides_perm way _ _).trans step)

theorem run_perm (way : Way α) (patience : Nat) (short long : List α) :
    (run way patience short long).1.Perm (short ++ long) :=
  (result_perm _).trans ((finish_perm way _ _).trans (takeLong_perm _ 1))

end Merging

theorem merge_perm (lt : α → α → Bool) (patience : Nat) (left right : List α) :
    (merge lt patience left right).1.Perm (left ++ right) := by
  unfold merge
  split
  · simp
  · rename_i first rest
    dsimp only
    generalize gallop (testAt left fun x => !lt first x) left.length 0 = place
    have whole : left ++ first :: rest = left.take place ++ (left.drop place ++ first :: rest) := by
      rw [← List.append_assoc, List.take_append_drop]
    rw [whole]
    split
    · rename_i h
      rw [List.getLast?_eq_none_iff.1 h, List.nil_append]
    · rename_i last _
      generalize gallop _ _ _ = reached
      generalize left.drop place = left'
      have parts : left' ++ first :: rest =
          left' ++ (first :: rest).take reached ++ (first :: rest).drop reached := by
        rw [List.append_assoc, List.take_append_drop]
      rw [parts]
      generalize (first :: rest).take reached = right'
      generalize (first :: rest).drop reached = back
      split
      · rename_i h
        simp [List.isEmpty_iff.1 h]
      · split
        · rw [List.append_assoc]
          exact ((Merging.run_perm _ _ _ _).append_right back).append_left _
        · rw [List.append_assoc]
          have turned := (List.reverse_perm right').append (List.reverse_perm left')
          have merged := (Merging.run_perm (.backward lt) patience right'.reverse left'.reverse).trans
            (turned.trans List.perm_append_comm)
          exact (((List.reverse_perm _).trans merged).append_right back).append_left _

/-! ## Runs -/

theorem splitRun_append (lt : α → α → Bool) (falling : Bool) (before : α) (xs : List α) :
    (splitRun lt falling before xs).1 ++ (splitRun lt falling before xs).2 = xs := by
  induction xs generalizing before with
  | nil => rfl
  | cons x xs ih =>
    unfold splitRun
    split
    · simp [ih]
    · rfl

theorem insert_perm (lt : α → α → Bool) (run : List α) (x : α) :
    (insert lt run x).Perm (x :: run) := by
  unfold insert
  refine List.perm_middle.trans (.cons x ?_)
  rw [List.take_append_drop]

theorem foldl_insert_perm (lt : α → α → Bool) (xs run : List α) :
    (xs.foldl (insert lt) run).Perm (run ++ xs) := by
  induction xs generalizing run with
  | nil => simp
  | cons x xs ih =>
    exact (ih _).trans (((insert_perm lt run x).append_right xs).trans List.perm_middle.symm)

theorem cutRun_perm (lt : α → α → Bool) (length : Nat) (xs : List α) :
    ((cutRun lt length xs).1 ++ (cutRun lt length xs).2).Perm xs := by
  unfold cutRun
  split
  · rename_i x y rest
    dsimp only
    have whole := splitRun_append lt (lt y x) x (y :: rest)
    generalize splitRun lt (lt y x) x (y :: rest) = parts at whole
    obtain ⟨others, rest'⟩ := parts
    dsimp only at whole ⊢
    rw [← whole]
    have turned : (if lt y x then (x :: others).reverse else x :: others).Perm (x :: others) := by
      split
      · exact List.reverse_perm _
      · exact .refl _
    generalize (if lt y x then (x :: others).reverse else x :: others) = run at turned
    refine ((foldl_insert_perm lt _ run).append_right _).trans ?_
    rw [List.append_assoc, List.take_append_drop]
    exact turned.append_right rest'
  · simp

/-! ## The order of the merges -/

/-- The items of several runs, in no particular order. -/
def allItems (runs : List (Run α)) : List α := (runs.map Run.items).flatten

theorem settle_perm (lt : α → α → Bool) (depth patience : Nat) (last : Run α)
    (before : List (Run α)) :
    (allItems (settle lt depth patience last before).1).Perm (last.items ++ allItems before) := by
  induction before generalizing patience last with
  | nil => simp [settle, allItems]
  | cons run before ih =>
    have merged := (merge_perm lt patience run.items last.items).trans List.perm_append_comm
    unfold settle
    generalize merge lt patience run.items last.items = both at merged
    split
    · refine (ih _ _).trans ?_
      simpa [allItems] using merged.append_right (allItems before)
    · exact .refl _

theorem mergeRuns_perm (lt : α → α → Bool) (limit patience : Nat) (runs : List (Run α)) :
    (mergeRuns lt limit patience runs).Perm (allItems runs) := by
  fun_induction mergeRuns lt limit patience runs with
  | case1 => exact .refl _
  | case2 => simp [allItems]
  | case3 _ runs =>
    exact ((List.reverse_perm runs).map Run.items).flatten
  | case4 limit patience last run items patience' h ih =>
    have merged := merge_perm lt patience run.items last.items
    rw [h] at merged
    refine ih.trans ?_
    simpa [allItems] using merged.trans List.perm_append_comm
  | case5 limit patience last run other before _ items patience' h ih =>
    have merged := merge_perm lt patience other.items run.items
    rw [h] at merged
    refine ih.trans ?_
    simpa [allItems] using
      ((merged.trans List.perm_append_comm).append_right (allItems before)).append_left last.items
  | case6 limit patience last run other before _ items patience' h ih =>
    have merged := merge_perm lt patience run.items last.items
    rw [h] at merged
    refine ih.trans ?_
    simpa [allItems] using (merged.trans List.perm_append_comm).append_right _

theorem collect_perm (lt : α → α → Bool) (size length limit patience : Nat) (runs : List (Run α))
    (xs : List α) :
    (allItems (collect lt size length limit patience runs xs).1).Perm (allItems runs ++ xs) := by
  induction limit generalizing patience runs xs with
  | zero =>
    cases xs with
    | nil => simp [collect]
    | cons x rest => exact List.perm_append_comm
  | succ limit ih =>
    cases xs with
    | nil => simp [collect]
    | cons x rest =>
      have cut := cutRun_perm lt length (x :: rest)
      unfold collect
      dsimp only
      split
      · refine (ih _ _ _).trans ?_
        simpa [allItems] using cut
      · rename_i last before
        generalize borderDepth size last.start last.items.length _ = depth
        have settled := settle_perm lt depth patience last before
        generalize settle lt depth patience last before = others at settled
        generalize cutRun lt length (x :: rest) = parts at cut
        refine (ih _ _ _).trans ?_
        calc parts.1 ++ allItems others.1 ++ parts.2
          _ |>.Perm (allItems others.1 ++ parts.1 ++ parts.2) := List.perm_append_comm.append_right _
          _ = allItems others.1 ++ (parts.1 ++ parts.2) := List.append_assoc ..
          _ |>.Perm (allItems (last :: before) ++ x :: rest) := settled.append cut

/-- A sorted list holds the items of the list. -/
theorem sort_perm (lt : α → α → Bool) (xs : List α) : (sort lt xs).Perm xs := by
  refine (mergeRuns_perm lt _ _ _).trans ?_
  simpa [allItems] using collect_perm lt xs.length (runLength false xs.length) xs.length
    longStreak [] xs

theorem sortDescending_perm (lt : α → α → Bool) (xs : List α) : (sortDescending lt xs).Perm xs :=
  (List.reverse_perm _).trans ((sort_perm lt _).trans (List.reverse_perm _))

end Sorting
end StoreMeter
