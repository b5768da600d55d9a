import StoreMeter.Settings
import StoreMeter.Storage.Memory
/-
# Proofs.Objects — whose object is touched

The workers of a run never meet at an object: their paths differ from each other and from the
target, and an operation on a storage in memory touches at most one object, the one that it deletes
or that its stream publishes.
-/
namespace StoreMeter

/-! ## Paths -/

namespace Settings

theorem toList_objectPath (settings : Settings) (index : Nat) :
    (settings.objectPath index).toList =
      settings.path.toList ++ ("io-benchmark-".toList ++ Nat.toDigits 10 index) := by
  have digits : (toString (index : Int)).toList = Nat.toDigits 10 index := Nat.toList_repr
  rw [objectPath, String.toList_append, String.toList_append, digits, List.append_assoc]

/-- Different workers have different objects. -/
theorem objectPath_injective (settings : Settings) {index other : Nat}
    (h : settings.objectPath index = settings.objectPath other) : index = other := by
  have same := congrArg String.toList h
  rw [toList_objectPath, toList_objectPath, List.append_right_inj, List.append_right_inj] at same
  rw [← Nat.ofDigitChars_ten_toDigits (n := index), same, Nat.ofDigitChars_ten_toDigits]

/-- No object of a worker is the target itself. -/
theorem objectPath_ne_path (settings : Settings) (index : Nat) :
    settings.objectPath index ≠ settings.path := by
  intro h
  have same := congrArg (fun path => path.toList.length) h
  -- the path of an object is longer than that of the target
  simp only [toList_objectPath, List.length_append] at same
  have : "io-benchmark-".toList.length = 13 := rfl
  omega

/-- The objects of so many workers. -/
def objects (settings : Settings) (workers : Nat) : List String :=
  (List.range workers).map fun (index : Nat) => settings.objectPath index

theorem objectPath_mem {settings : Settings} {workers index : Nat} (below : index < workers) :
    settings.objectPath index ∈ settings.objects workers :=
  List.mem_map.2 ⟨index, List.mem_range.2 below, rfl⟩

theorem path_not_mem (settings : Settings) (workers : Nat) :
    settings.path ∉ settings.objects workers := by
  intro member
  obtain ⟨index, -, same⟩ := List.mem_map.1 member
  exact settings.objectPath_ne_path index same

theorem objectPaths_of_count {settings : Settings} {workers : Nat}
    (counted : settings.workerCount = .ok workers) :
    settings.objectPaths = .ok (settings.objects workers) := by
  rw [objectPaths, counted]
  rfl

end Settings

namespace Storage
namespace Memory

/-! ## The rest of a store -/

/-- The store without the objects under some paths. -/
def Store.without (store : Store) (paths : List String) : Store :=
  { store with files := store.files.filter fun entry => !paths.contains entry.1 }

theorem Store.without_eq_self {store : Store} {paths : List String}
    (gone : ∀ path ∈ paths, store.get? path = none) : store.without paths = store := by
  have kept : store.files.filter (fun entry => !paths.contains entry.1) = store.files := by
    refine List.filter_eq_self.2 fun entry member => ?_
    rw [Bool.not_eq_true', ← Bool.not_eq_true, List.contains_iff_mem]
    intro there
    -- an entry under such a path would have been found
    have missing := List.lookup_eq_none_iff.1 (gone entry.1 there) entry member
    simp at missing
  rw [Store.without, kept]

theorem Store.get?_without (store : Store) {paths : List String} {path : String}
    (other : path ∉ paths) : (store.without paths).get? path = store.get? path := by
  unfold get? without
  dsimp only
  induction store.files with
  | nil => rfl
  | cons entry rest ih =>
    obtain ⟨name, data⟩ := entry
    -- the first entry under the name decides, and it is not filtered out
    by_cases same : path = name
    · subst same
      rw [List.filter_cons_of_pos (by simpa using other), lookup_cons_file, lookup_cons_file,
        if_pos rfl, if_pos rfl]
    · rw [List.filter_cons]
      split
      · rw [lookup_cons_file, lookup_cons_file, if_neg same, if_neg same, ih]
      · rw [lookup_cons_file, if_neg same, ih]

/-- Stores with the same rest hold the same beside it. -/
theorem Store.get?_of_rest {store other : Store} {paths : List String}
    (rest : store.without paths = other.without paths) {path : String} (beside : path ∉ paths) :
    store.get? path = other.get? path := by
  rw [← store.get?_without beside, rest, other.get?_without beside]

theorem Store.dirs_of_rest {store other : Store} {paths : List String}
    (rest : store.without paths = other.without paths) : store.dirs = other.dirs := by
  have same := congrArg Store.dirs rest
  exact same

theorem Store.isPresent_without (store : Store) {paths : List String} {path : String}
    (other : path ∉ paths) : (store.without paths).isPresent path = store.isPresent path := by
  rw [isPresent, isPresent, store.get?_without other]
  rfl

theorem filter_insertFile {paths : List String} {path : String} (member : path ∈ paths)
    (data : ByteArray) (files : List (String × ByteArray)) :
    (Store.insertFile path data files).filter (fun entry => !paths.contains entry.1) =
      files.filter fun entry => !paths.contains entry.1 := by
  induction files with
  | nil => simp [Store.insertFile, member]
  | cons entry rest ih =>
    unfold Store.insertFile
    split
    · rename_i same
      rw [List.filter_cons_of_neg (by simpa using member),
        List.filter_cons_of_neg (by simpa [same] using member)]
    · rw [List.filter_cons, List.filter_cons, ih]

theorem Store.without_put {store : Store} {paths : List String} {path : String}
    (member : path ∈ paths) (data : ByteArray) :
    (store.put path data).without paths = store.without paths := by
  rw [without, without, put, filter_insertFile member]

theorem Store.without_erase {store : Store} {paths : List String} {path : String}
    (member : path ∈ paths) : (store.erase path).without paths = store.without paths := by
  have kept : (store.files.filter fun entry => entry.1 != path).filter
      (fun entry => !paths.contains entry.1) =
        store.files.filter fun entry => !paths.contains entry.1 := by
    rw [List.filter_filter]
    refine List.filter_congr fun entry _ => ?_
    by_cases same : entry.1 = path
    · simp [same, member]
    · simp [same]
  rw [without, without, erase, kept]

/-- The store with a target, which is made where it is not there. -/
def Store.withTarget (store : Store) (path : String) : Store :=
  if store.isPresent path then store else store.addDir path

theorem Store.isPresent_addDir (store : Store) (path : String) :
    (store.addDir path).isPresent path = true := by
  rw [isPresent, addDir]
  split
  · rename_i there
    rw [there, Bool.or_true]
  · simp

theorem Store.isPresent_withTarget (store : Store) (path : String) :
    (store.withTarget path).isPresent path = true := by
  unfold withTarget
  split
  · assumption
  · exact store.isPresent_addDir path

/-- Only a target that was not there is one more directory. -/
theorem Store.dirs_withTarget (store : Store) (path : String) :
    (store.withTarget path).dirs =
      if store.isPresent path then store.dirs else store.dirs ++ [dirKey path] := by
  unfold withTarget
  split
  · rfl
  · rename_i missing
    have other : ¬ store.dirs.contains (dirKey path) = true := by
      intro there
      exact missing (by rw [isPresent, there, Bool.or_true])
    rw [addDir, if_neg other]

theorem Store.files_withTarget (store : Store) (path : String) :
    (store.withTarget path).files = store.files := by
  unfold withTarget addDir
  split
  · rfl
  · split <;> rfl

/-! ## Operations -/

end Memory

/-- The object that an operation may change. -/
def Operation.touched : Operation Memory.Stream → Option String
  | .delete path => some path
  | .flush stream | .close stream => stream.target
  | _ => none

namespace Memory

theorem Stream.without_publish {stream : Stream} {paths : List String}
    (touches : ∀ path, stream.target = some path → path ∈ paths) (store : Store) :
    (stream.publish store).without paths = store.without paths := by
  unfold publish
  split
  · rename_i target found
    exact Store.without_put (touches target found) _
  · rfl

/-- An operation leaves everything but the object that it touches, if it makes no directory. -/
theorem without_answer {op : Operation Stream} {store : Store} {paths : List String}
    (touches : ∀ path, op.touched = some path → path ∈ paths)
    (no_dirs : ∀ path, op ≠ .makeDirs path) :
    (answer op store).2.without paths = store.without paths := by
  cases op with
  | isPresent other | create other => rfl
  | makeDirs other => exact absurd rfl (no_dirs other)
  | openRead other =>
    simp only [answer]
    split <;> rfl
  | delete other =>
    simp only [answer]
    split
    · exact Store.without_erase (touches other rfl)
    · rfl
  | write stream data =>
    simp only [answer]
    split <;> rfl
  | flush stream =>
    simp only [answer]
    split
    · rfl
    · exact Stream.without_publish touches store
  | read stream size =>
    simp only [answer]
    split
    · rfl
    · split <;> rfl
  | close stream =>
    simp only [answer]
    split
    · rfl
    · exact Stream.without_publish touches store

/-- An operation leaves all objects alone but the one that it touches. -/
theorem get?_answer (op : Operation Stream) (store : Store) {path : String}
    (untouched : op.touched ≠ some path) : (answer op store).2.get? path = store.get? path := by
  by_cases dirs : ∃ other, op = .makeDirs other
  · obtain ⟨other, rfl⟩ := dirs
    exact store.get?_addDir other path
  -- an object that is not touched belongs to the rest of the store
  · have other : path ∉ op.touched.toList := fun member => untouched (Option.mem_toList.1 member)
    have same : (answer op store).2.without op.touched.toList = store.without op.touched.toList :=
      without_answer (fun touched found => Option.mem_toList.2 found)
        fun made found => dirs ⟨made, found⟩
    exact Store.get?_of_rest same other

/-- Deleting fails only where there is nothing to delete. -/
theorem delete_fault {path : String} {store after : Store} {fault : Fault}
    (h : answer (.delete path) store = (.error fault, after)) : fault.isAbsent = true := by
  simp only [answer] at h
  split at h
  · cases h
  · cases h
    rfl

/-- A deleted object is gone, whether it was there or not. -/
theorem get?_delete (path : String) (store : Store) :
    (answer (.delete path) store).2.get? path = none := by
  simp only [answer]
  split
  · rw [Store.get?_erase, if_pos rfl]
  · assumption

end Memory
end Storage
end StoreMeter
