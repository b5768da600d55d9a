import StoreMeter.Run
/-
# Proofs.Checks — which plans can be run

A run checks its plan before it asks its storage for anything.  `Plan.Valid` lists what has to hold,
and `check_eq_ok` says that the check lets exactly these plans through, with the bytes that the size
denotes.
-/
namespace StoreMeter

/-- A plan that a run accepts, with the bytes for each worker. -/
structure Plan.Valid (plan : Plan) (size : Nat) : Prop where
  buffer : 0 < plan.bufferSize
  pool : ∀ n, plan.poolSize = some n → 0 < n
  path : plan.settings.path ≠ ""
  threads : ∃ n : Int, plan.settings.threads = .scalar (.int n) ∧ 0 < n
  timeout : plan.settings.timeout = .null ∨
    ∃ limit, plan.settings.timeout = .scalar limit ∧ limit.isNonPositive = false
  size : Size.parseValue plan.settings.ioSize = .ok size

namespace Settings

variable {settings : Settings}

theorem checkPath_eq_ok : settings.checkPath = .ok () ↔ settings.path ≠ "" := by
  unfold checkPath
  split
  · rename_i empty
    simpa using empty
  · rename_i present
    simpa using present

theorem checkThreads_eq_ok :
    settings.checkThreads = .ok () ↔ ∃ n : Int, settings.threads = .scalar (.int n) ∧ 0 < n := by
  unfold checkThreads
  split
  · rename_i n given
    split
    · simp [given]
      omega
    · simp [given]
      omega
  · rename_i other
    apply iff_of_false nofun
    rintro ⟨n, given, -⟩
    exact other n given

theorem checkTimeout_eq_ok : settings.checkTimeout = .ok () ↔ settings.timeout = .null ∨
    ∃ limit, settings.timeout = .scalar limit ∧ limit.isNonPositive = false := by
  unfold checkTimeout
  split
  · rename_i given
    simp [given]
  · rename_i limit given
    split
    · rename_i low
      simp [given, low]
    · rename_i high
      simp [given, high]
  · rename_i none_given no_scalar
    apply iff_of_false nofun
    rintro (given | ⟨limit, given, -⟩)
    · exact none_given given
    · exact no_scalar limit given

theorem checked_eq_ok {size : Nat} : settings.checked = .ok size ↔
    settings.checkPath = .ok () ∧ settings.checkThreads = .ok () ∧ settings.checkTimeout = .ok () ∧
      settings.sizeInBytes = .ok size := by
  simp only [checked, bind_eq_ok]
  constructor
  · rintro ⟨_, path, _, threads, _, timeout, sized⟩
    exact ⟨path, threads, timeout, sized⟩
  · rintro ⟨path, threads, timeout, sized⟩
    exact ⟨(), path, (), threads, (), timeout, sized⟩

/-- A number of threads is the number of workers. -/
theorem workerCount_of_threads {n : Int} (h : settings.threads = .scalar (.int n)) :
    settings.workerCount = .ok n.toNat := by
  rw [workerCount, h]

end Settings

namespace Run

theorem check_of_low_buffer {plan : Plan} (low : plan.bufferSize ≤ 0) :
    check plan =
      .error (.configuration s!"Buffer size must be positive, got {plan.bufferSize}") := by
  simp [check, low]
  rfl

theorem check_of_low_pool {plan : Plan} (buffer : 0 < plan.bufferSize) {n : Int}
    (given : plan.poolSize = some n) (low : n ≤ 0) :
    check plan = .error (.configuration s!"Pool size must be positive, got {n}") := by
  have high : ¬ plan.bufferSize ≤ 0 := by omega
  simp [check, high, given, low]
  rfl

/-- With a buffer and a pool, the settings decide. -/
theorem check_of_sizes {plan : Plan} (buffer : 0 < plan.bufferSize)
    (pool : ∀ n, plan.poolSize = some n → 0 < n) : check plan = plan.settings.checked := by
  have high : ¬ plan.bufferSize ≤ 0 := by omega
  cases given : plan.poolSize with
  | none => simp [check, high, given]
  | some n =>
    have positive : ¬ n ≤ 0 := by
      have := pool n given
      omega
    simp [check, high, given, positive]

/-- The check lets exactly the valid plans through. -/
theorem check_eq_ok {plan : Plan} {size : Nat} : check plan = .ok size ↔ plan.Valid size := by
  have settled : plan.settings.checked = .ok size ↔ plan.settings.path ≠ "" ∧
      (∃ n : Int, plan.settings.threads = .scalar (.int n) ∧ 0 < n) ∧
      (plan.settings.timeout = .null ∨
        ∃ limit, plan.settings.timeout = .scalar limit ∧ limit.isNonPositive = false) ∧
      Size.parseValue plan.settings.ioSize = .ok size := by
    rw [Settings.checked_eq_ok, Settings.checkPath_eq_ok, Settings.checkThreads_eq_ok,
      Settings.checkTimeout_eq_ok]
    rfl
  constructor
  · intro checked
    -- a plan that passes has passed the checks in their order, so each of them is undone in turn
    have buffer : 0 < plan.bufferSize := by
      rcases Int.lt_or_le 0 plan.bufferSize with positive | low
      · exact positive
      · rw [check_of_low_buffer low] at checked
        cases checked
    have pool (n : Int) (given : plan.poolSize = some n) : 0 < n := by
      rcases Int.lt_or_le 0 n with positive | low
      · exact positive
      · rw [check_of_low_pool buffer given low] at checked
        cases checked
    rw [check_of_sizes buffer pool] at checked
    obtain ⟨path, threads, timeout, sized⟩ := settled.1 checked
    exact ⟨buffer, pool, path, threads, timeout, sized⟩
  · intro valid
    rw [check_of_sizes valid.buffer valid.pool]
    exact settled.2 ⟨valid.path, valid.threads, valid.timeout, valid.size⟩

end Run
end StoreMeter
