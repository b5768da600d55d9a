import StoreMeter.Proofs.Upload.Steps
/-
# Proofs.Upload.WholeObjects — when an upload publishes whole objects

A failure of the system ends an upload: it is aborted and nothing of it is published later.  Any
other failure leaves it live, and three such failures leave it damaged.  A write that failed has
lost a part of its data; a close that failed has dropped the buffer; and a flush that failed after
its last part was taken has sent what still waits in the buffer.

`whole_until_damaged` says that these three are all: whatever the service answers and whatever is
called, an object that is published before any of them is whole.  And after any of them a live
upload needs nothing but requests that succeed to publish an object that is not.
-/
namespace StoreMeter
namespace Storage
namespace S3
namespace Upload

variable {B σ : Type}

/-! ## Rounds, one by one -/

/-- A round has left the upload damaged. -/
def Damaged (rounds : List (Round B)) : Prop := ∃ r ∈ rounds, r.damages = true

/-- Every write has returned. -/
def Returned (rounds : List (Round B)) : Prop :=
  ∀ r ∈ rounds, r.call.isWrite = true → r.result.isOk = true

theorem exchanges_concat (rounds : List (Round B)) (round : Round B) :
    exchanges (rounds ++ [round]) = exchanges rounds ++ round.exchanges := by
  simp [exchanges]

theorem written_concat (rounds : List (Round B)) (round : Round B) :
    written (rounds ++ [round]) = written rounds ++ round.call.data := by
  simp [written, joined_concat]

theorem damaged_concat (rounds : List (Round B)) (round : Round B) :
    Damaged (rounds ++ [round]) ↔ Damaged rounds ∨ round.damages = true := by
  simp [Damaged, or_and_right, exists_or]

theorem returned_concat (rounds : List (Round B)) (round : Round B) :
    Returned (rounds ++ [round]) ↔
      Returned rounds ∧ (round.call.isWrite = true → round.result.isOk = true) := by
  simp [Returned, or_imp, forall_and]

theorem damages_of_ok {round : Round B} (h : round.result.isOk = true) :
    round.damages = false := by
  simp [Round.damages, h]

/-- A write that fails damages the upload. -/
theorem returned_of_undamaged {rounds : List (Round B)} (h : ¬ Damaged rounds) :
    Returned rounds := by
  intro r member write
  by_contra bad
  refine h ⟨r, member, ?_⟩
  obtain ⟨call, seen, result⟩ := r
  cases call with
  | write data => simpa [Round.damages] using bad
  | flush => cases write
  | close => cases write

/-! ## The balance of a live upload -/

/-- What the rounds so far say about a live upload: unless they left it damaged, its next
publication shows what was written; and if they left it damaged although every write returned and
it is still open, its next publication shows more. -/
structure Balance (u : Upload) (rounds : List (Round B)) (bodies : List ByteArray) : Prop where
  account : u.Account (exchanges rounds) bodies
  shut : u.closed = true → Damaged rounds
  whole : ¬ Damaged rounds → u.pending bodies = written rounds
  doubled : u.closed = false → Returned rounds → Damaged rounds →
    (written rounds).size < (u.pending bodies).size

/-- An upload that may still publish has a balance. -/
def Standing (u : Upload) (rounds : List (Round B)) : Prop :=
  u.live = true → ∃ bodies, u.Balance rounds bodies

/-- An upload that has failed or is committed needs no balance. -/
theorem Standing.of_failed {u : Upload} {rounds : List (Round B)} (h : u.failed = true) :
    u.Standing rounds := by
  intro live
  simp [Upload.live, h] at live

theorem Standing.of_committed {u : Upload} {rounds : List (Round B)} (h : u.committed = true) :
    u.Standing rounds := by
  intro live
  simp [Upload.live, h] at live

theorem SameFlags.live {u u' : Upload} (h : u.SameFlags u') : u'.live = u.live := by
  simp [Upload.live, h.committed, h.failed]

/-- A fresh upload. -/
theorem Standing.fresh (bucket key : String) (partSize : Nat) :
    ({ bucket, key, partSize } : Upload).Standing ([] : List (Round B)) := by
  intro _
  refine ⟨[], ⟨⟨rfl, rfl, fun _ => rfl⟩, nofun, fun _ => rfl, ?_⟩⟩
  rintro - - ⟨r, member, -⟩
  cases member

theorem Balance.standing {u : Upload} {rounds : List (Round B)} {bodies : List ByteArray}
    (h : u.Balance rounds bodies) : u.Standing rounds := fun _ => ⟨bodies, h⟩

/-! ## One call -/

section
variable {u u' : Upload} {before : List (Round B)} {bodies : List ByteArray}
variable {own : List (Exchange B)} {result : Except Fault Unit}

/-- A call without exchanges that leaves the upload as it was. -/
theorem Balance.quiet (h : u.Balance before bodies) {call : Call}
    (undamaged : (⟨call, [], result⟩ : Round B).damages = false) (no_write : call.data = .empty) :
    u.Balance (before ++ [⟨call, [], result⟩]) bodies where
  account := by simpa [exchanges_concat] using h.account
  shut closed := (damaged_concat _ _).2 (.inl (h.shut closed))
  whole intact := by
    rw [written_concat, no_write, ByteArray.append_empty]
    exact h.whole fun damaged => intact ((damaged_concat _ _).2 (.inl damaged))
  doubled opened returned damaged := by
    rw [written_concat, no_write, ByteArray.append_empty]
    rw [damaged_concat, undamaged] at damaged
    exact h.doubled opened ((returned_concat _ _).1 returned).1 (by simpa using damaged)

/-- An upload that goes on after a call that damaged it, where no write can be to blame less. -/
theorem Balance.spoilt {round : Round B} (account : u'.Account (exchanges (before ++ [round])) bodies)
    (damages : round.damages = true) (blame : u'.closed = true ∨ ¬ Returned (before ++ [round])) :
    u'.Balance (before ++ [round]) bodies where
  account := account
  shut _ := (damaged_concat _ _).2 (.inr damages)
  whole intact := absurd ((damaged_concat _ _).2 (.inr damages)) intact
  doubled opened returned _ := by
    rcases blame with closed | unreturned
    · rw [closed] at opened
      cases opened
    · exact absurd returned unreturned

/-- A write either takes its data in, or fails and damages the upload. -/
theorem standing_of_write (balance : u.Balance before bodies) (opened : u.closed = false)
    {data : ByteArray}
    (h : Comes (u.Grown bodies data) u.GoesOn (u', result)
      (exchanges (before ++ [⟨.write data, own, result⟩]))) :
    u'.Standing (before ++ [⟨.write data, own, result⟩]) := by
  cases result with
  | ok _ =>
    obtain ⟨flags, bodies', account, grown⟩ := h
    have undamaged : (⟨.write data, own, .ok ()⟩ : Round B).damages = false := damages_of_ok rfl
    refine fun _ => ⟨bodies', account, ?_, fun intact => ?_, ?_⟩
    · intro closed
      rw [flags.closed, opened] at closed
      cases closed
    · rw [grown, written_concat, balance.whole fun damaged =>
        intact ((damaged_concat _ _).2 (.inl damaged))]
      rfl
    -- damage of before is still there, and both sides grow by the same data
    · intro _ returned damaged
      rw [damaged_concat, undamaged] at damaged
      have more := balance.doubled opened ((returned_concat _ _).1 returned).1 (by simpa using damaged)
      rw [grown, written_concat]
      simpa [Call.data] using more
  | error fault =>
    rcases h with dead | ⟨flags, bodies', account⟩
    · exact .of_failed dead
    -- a write that failed has not returned, so nothing is said of what is shown next
    · refine Balance.standing (Balance.spoilt account rfl (.inr fun returned => ?_))
      cases ((returned_concat _ _).1 returned).2 rfl

/-- The service took no part in exchanges that leave as many bodies as before. -/
theorem taken_none (account : u.Account (exchanges before) bodies) {bodies' : List ByteArray}
    (account' : u'.Account (exchanges before ++ own) bodies') (same : bodies'.length = bodies.length) :
    (own.any fun e => e.taken?.isSome) = false := by
  have counted := account'.length_taken
  rw [taken_append, List.length_append, account.length_taken, same] at counted
  have none_taken : taken own = [] := List.length_eq_zero_iff.1 (by omega)
  rw [taken, List.filterMap_eq_nil_iff] at none_taken
  simpa [List.any_eq_false] using none_taken

/-- One more body means that the service took a part. -/
theorem taken_some (account : u.Account (exchanges before) bodies) {bodies' : List ByteArray}
    (account' : u'.Account (exchanges before ++ own) bodies')
    (more : bodies'.length = bodies.length + 1) :
    (own.any fun e => e.taken?.isSome) = true := by
  by_contra none_taken
  have empty : taken own = [] := by
    rw [taken, List.filterMap_eq_nil_iff]
    simpa [List.any_eq_false] using none_taken
  have counted := account'.length_taken
  rw [taken_append, empty, List.append_nil, account.length_taken] at counted
  omega

/-- A flush commits the upload or fails it, or it fails and damages the upload if its last part was
taken. -/
theorem standing_of_flush (balance : u.Balance before bodies)
    {committed : List (Exchange B) → Prop}
    (h : Comes (fun u' seen' => u'.committed = true ∧ committed seen') (u.Retains bodies)
      (u', result) (exchanges (before ++ [⟨.flush, own, result⟩]))) :
    u'.Standing (before ++ [⟨.flush, own, result⟩]) := by
  cases result with
  | ok _ => exact .of_committed h.1
  | error fault =>
    rcases h with dead | ⟨sent_from, bodies', account, rest⟩
    · exact .of_failed dead
    have account' := account
    rw [exchanges_concat] at account'
    have flags := sent_from.sameFlags
    have silent : written (before ++ [⟨.flush, own, .error fault⟩]) = written before := by
      rw [written_concat]
      exact ByteArray.append_empty
    rcases rest with rfl | ⟨rfl, waits⟩
    · -- nothing was sent, so the balance is that of before
      have undamaged : (⟨.flush, own, .error fault⟩ : Round B).damages = false :=
        taken_none balance.account account' rfl
      have same : u'.pending bodies' = u.pending bodies' := by
        rw [pending, pending, sent_from.buffer]
      refine fun _ => ⟨bodies', account, ?_, ?_, ?_⟩
      · intro closed
        exact (damaged_concat _ _).2 (.inl (balance.shut (flags.closed ▸ closed)))
      · intro intact
        rw [same, silent]
        exact balance.whole fun damaged => intact ((damaged_concat _ _).2 (.inl damaged))
      · intro opened returned damaged
        rw [damaged_concat, undamaged] at damaged
        rw [same, silent]
        exact balance.doubled (flags.closed ▸ opened) ((returned_concat _ _).1 returned).1
          (by simpa using damaged)
    · -- the rest was sent and still waits, so the next publication shows it twice
      have damages : (⟨.flush, own, .error fault⟩ : Round B).damages = true :=
        taken_some balance.account account' (by simp)
      have longer : (u'.pending (bodies ++ [u.buffer])).size =
          (u.pending bodies).size + u.buffer.size := by
        rw [pending, pending, sent_from.buffer, joined_concat]
        simp only [ByteArray.size_append]
      refine fun _ => ⟨bodies ++ [u.buffer], account, ?_, ?_, ?_⟩
      · exact fun _ => (damaged_concat _ _).2 (.inr damages)
      · exact fun intact => absurd ((damaged_concat _ _).2 (.inr damages)) intact
      · intro opened returned _
        rw [silent, longer]
        have returned_before := ((returned_concat _ _).1 returned).1
        by_cases damaged : Damaged before
        · have := balance.doubled (flags.closed ▸ opened) returned_before damaged
          omega
        · rw [← balance.whole damaged]
          omega

/-- A close commits the upload or fails it, or it fails and damages the upload. -/
theorem standing_of_close {committed : List (Exchange B) → Prop}
    (h : Comes (fun u' seen' => u'.committed = true ∧ committed seen') (u.Retains bodies)
      (u', result) (exchanges (before ++ [⟨.close, own, result⟩]))) :
    ({ u' with closed := true, buffer := .empty } : Upload).Standing
      (before ++ [⟨.close, own, result⟩]) := by
  cases result with
  | ok _ => exact .of_committed h.1
  | error fault =>
    rcases h with dead | ⟨-, bodies', account, -⟩
    · exact .of_failed dead
    -- the buffer is dropped, and the account does not look at it
    · have kept : ({ u' with closed := true, buffer := .empty } : Upload).Account
          (exchanges (before ++ [⟨.close, own, .error fault⟩])) bodies' :=
        ⟨account.length, account.taken, account.unopened⟩
      exact (Balance.spoilt kept rfl (.inl rfl)).standing

end

/-! ## A round against a service -/

theorem playCall_eq {service : Service B σ} {u : Upload} {s : σ} {call : Call}
    {own : List (Exchange B)} (same : ((call.run u).runWith service.recorded (s, [])).2.2 = own) :
    playCall service u s call =
      (((call.run u).runWith service.recorded (s, [])).1.1,
        ((call.run u).runWith service.recorded (s, [])).2.1,
        ⟨call, own, ((call.run u).runWith service.recorded (s, [])).1.2⟩) := by
  rw [← same]
  rfl

/-- What a call comes to against the exchanges of the rounds before is what its round keeps. -/
theorem playCall_holds {admitted : Exchange B → Prop}
    {due : List (Exchange B) → Request B → Prop} (service : Service B σ)
    (admits : ∀ r s, admitted ⟨r, (service.answer r s).1⟩) {u : Upload} {s : σ} {call : Call}
    {before : List (Round B)} {goal : Upload × Except Fault Unit → List (Exchange B) → Prop}
    (h : (call.run u).Ends (history admitted due) goal (exchanges before)) :
    ∃ u' s' own result, playCall service u s call = (u', s', ⟨call, own, result⟩) ∧
      goal (u', result) (exchanges (before ++ [⟨call, own, result⟩])) ∧
      ∀ seen e rest, own = seen ++ e :: rest → e.published = true →
        due (exchanges before ++ seen) e.request := by
  -- a call starts its own record, behind the exchanges of the rounds before
  rw [← List.append_nil (exchanges before)] at h
  obtain ⟨own, same, done, dues⟩ := Ends.recorded service admits (s := s) h
  refine ⟨_, _, own, _, playCall_eq same, ?_, ?_⟩
  · rw [exchanges_concat]
    simpa using done
  · intro seen e rest split published
    rw [Exchange.published, Bool.and_eq_true] at published
    simpa using dues seen e rest split published.1

/-! ## Any call on any upload -/

section
variable {u : Upload} {before : List (Round B)}

/-- The publication that a call may ask for: it shows what is pending, and the call is no write. -/
def Due (u : Upload) (before : List (Round B)) (call : Call) (seen : List (Exchange B))
    (r : Request B) : Prop :=
  call.isWrite = false ∧ ∃ bodies, u.Balance before bodies ∧
    ∀ data, Publishes seen r data ↔ data = u.pending bodies

/-- An upload stands after a call if it does with the exchanges of the call. -/
def StandsAfter (before : List (Round B)) (call : Call) (r : Upload × Except Fault Unit)
    (seen' : List (Exchange B)) : Prop :=
  ∀ own, seen' = exchanges (before ++ [⟨call, own, r.2⟩]) →
    r.1.Standing (before ++ [⟨call, own, r.2⟩])

theorem no_exchanges {call : Call} {own : List (Exchange B)} {result : Except Fault Unit}
    (h : exchanges before = exchanges (before ++ [⟨call, own, result⟩])) : own = [] := by
  rw [exchanges_concat] at h
  simpa using h

theorem write_stands (standing : u.Standing before) (data : ByteArray) :
    ((Call.write data).run u).Ends (history Exchange.Given (u.Due before (.write data)))
      (StandsAfter before (.write data)) (exchanges before) := by
  by_cases shut : u.live = false ∨ u.closed = true
  · apply (write_refused shut data).mono
    rintro ⟨u', result⟩ seen' ⟨rfl, failed, rfl⟩ own same live
    obtain rfl := no_exchanges same
    -- a live upload refuses a write only because it is closed
    have closed := shut.resolve_left (by simp [show u'.live = true from live])
    obtain ⟨bodies, balance⟩ := standing live
    refine ⟨bodies, .spoilt ?_ (by simpa [Round.damages] using failed) (.inl closed)⟩
    rw [← same]
    exact balance.account
  · obtain ⟨live, opened⟩ := not_or.1 shut
    simp only [Bool.not_eq_false, Bool.not_eq_true] at live opened
    obtain ⟨bodies, balance⟩ := standing live
    apply (write_ends (fun _ => id) live opened balance.account data).mono
    rintro ⟨u', result⟩ seen' done own rfl
    exact standing_of_write balance opened done

/-- A flush of a live upload, and so the commit in a close, shows what is pending. -/
theorem flush_ends {admitted : Exchange B → Prop} (given : ∀ e : Exchange B, admitted e → e.Given)
    (live : u.live = true) {bodies : List ByteArray} (balance : u.Balance before bodies)
    {call : Call} (settles : call.isWrite = false) :
    (flush u).Ends (history admitted (u.Due before call))
      (Comes
        (fun u' seen' => u'.committed = true ∧
          ∃ more e, seen' = exchanges before ++ more ++ [e] ∧ e.published = true)
        (u.Retains bodies)) (exchanges before) := by
  rw [flush_live live]
  exact commit_ends given (fun seen r shows => ⟨settles, bodies, balance, shows⟩)
    balance.account

theorem flush_stands (standing : u.Standing before) :
    (Call.flush.run u).Ends (history Exchange.Given (u.Due before .flush))
      (StandsAfter before .flush) (exchanges before) := by
  cases alive : u.live with
  | false =>
    rw [Call.run, flush_quiet alive]
    intro own same live
    rw [alive] at live
    cases live
  | true =>
    obtain ⟨bodies, balance⟩ := standing alive
    apply (flush_ends (fun _ => id) alive balance rfl).mono
    rintro ⟨u', result⟩ seen' done own rfl
    exact standing_of_flush balance done

theorem close_stands (standing : u.Standing before) :
    (Call.close.run u).Ends (history Exchange.Given (u.Due before .close))
      (StandsAfter before .close) (exchanges before) := by
  dsimp only [Call.run, close]
  split
  · intro own same live
    obtain rfl := no_exchanges same
    obtain ⟨bodies, balance⟩ := standing live
    exact (balance.quiet rfl rfl).standing live
  · cases alive : u.live with
    | false =>
      rw [flush_quiet alive]
      intro own same live
      rw [show Upload.live { u with closed := true, buffer := .empty } = u.live from rfl, alive] at live
      cases live
    | true =>
      obtain ⟨bodies, balance⟩ := standing alive
      apply (flush_ends (fun _ => id) alive balance rfl).bind
      rintro ⟨u', result⟩ seen' done own rfl
      exact standing_of_close done

/-- A call leaves an upload standing, and every publication in it was due. -/
theorem playCall_stands (service : Service B σ) (s : σ) (call : Call)
    (standing : u.Standing before) :
    ∃ u' s' own result, playCall service u s call = (u', s', ⟨call, own, result⟩) ∧
      u'.Standing (before ++ [⟨call, own, result⟩]) ∧
      ∀ seen e rest, own = seen ++ e :: rest → e.published = true →
        u.Due before call (exchanges before ++ seen) e.request := by
  have stands : (call.run u).Ends (history Exchange.Given (u.Due before call))
      (StandsAfter before call) (exchanges before) := by
    cases call with
    | write data => exact write_stands standing data
    | flush => exact flush_stands standing
    | close => exact close_stands standing
  obtain ⟨u', s', own, result, played, done, dues⟩ := playCall_holds service service.given stands
  exact ⟨u', s', own, result, played, done own rfl, dues⟩

end

/-! ## All calls -/

/-- What a balance says of a publication before any damage. -/
theorem Due.wholeAt {u : Upload} {before : List (Round B)} {call : Call}
    {seen : List (Exchange B)} {r : Request B}
    (due : u.Due before call (exchanges before ++ seen) r) (undamaged : ¬ Damaged before) :
    WholeAt before call seen r := by
  obtain ⟨settled, bodies, balance, shows⟩ := due
  rw [balance.whole undamaged] at shows
  exact ⟨shows, returned_of_undamaged undamaged, settled⟩

/-- Calls on a standing upload: it stands afterwards, and what they publish is whole as long as no
round before has left the upload damaged. -/
theorem play_stands (service : Service B σ) (calls : List Call) :
    ∀ (u : Upload) (s : σ) (past : List (Round B)), u.Standing past →
      (play service u s calls).1.Standing (past ++ (play service u s calls).2.2) ∧
      ∀ before round after seen e rest,
        (play service u s calls).2.2 = before ++ round :: after →
        round.exchanges = seen ++ e :: rest → e.published = true → ¬ Damaged (past ++ before) →
        WholeAt (past ++ before) round.call seen e.request := by
  induction calls with
  | nil =>
    intro u s past standing
    refine ⟨by simpa [play] using standing, ?_⟩
    intro before round after seen e rest split
    simp [play] at split
  | cons call calls ih =>
    intro u s past standing
    obtain ⟨u', s', own, result, played, stands, dues⟩ := playCall_stands service s call standing
    have later := ih u' s' _ stands
    have unfolded : play service u s (call :: calls) =
        ((play service u' s' calls).1, (play service u' s' calls).2.1,
          ⟨call, own, result⟩ :: (play service u' s' calls).2.2) := by
      rw [play, played]
    rw [unfolded]
    refine ⟨by simpa using later.1, ?_⟩
    intro before round after seen e rest split here published undamaged
    -- the round is that of the first call, or one of the later ones
    cases before with
    | nil =>
      obtain ⟨rfl, -⟩ := List.cons_eq_cons.1 split
      rw [List.append_nil] at undamaged ⊢
      exact (dues seen e rest here published).wholeAt undamaged
    | cons first before =>
      obtain ⟨rfl, later_split⟩ := List.cons_eq_cons.1 split
      have found := later.2 before round after seen e rest later_split here published
      rw [List.append_assoc, List.singleton_append] at found
      exact found undamaged

/-! ## After damage -/

section
variable {u : Upload} {past : List (Round B)}

/-- A write that the service grants in full leaves a live upload live, and returns only if the
upload is open. -/
theorem write_alive (live : u.live = true) {bodies : List ByteArray}
    (balance : u.Balance past bodies) (data : ByteArray) :
    ((Call.write data).run u).Ends (history Exchange.Granted fun _ _ => True)
      (fun r _ => r.1.live = true ∧ (r.2.isOk = true → r.1.closed = false)) (exchanges past) := by
  cases closed : u.closed with
  | true =>
    apply (write_refused (.inr closed) data).mono
    rintro ⟨u', result⟩ _ ⟨rfl, failed, -⟩
    exact ⟨live, fun good => by simp [failed] at good⟩
  | false =>
    have taken_in : ((Call.write data).run u).Ends (history Exchange.Granted fun _ _ => True)
        (Comes (u.Grown bodies data) u.GoesOn) (exchanges past) :=
      write_ends (fun _ => Exchange.Granted.given) live closed balance.account data
    apply (taken_in.and (fun _ _ _ _ => id) (write_granted live closed data _)).mono
    rintro ⟨u', result⟩ seen' ⟨comes, good⟩
    cases result with
    | error fault => cases good
    | ok _ => exact ⟨comes.1.live.trans live, fun _ => comes.1.closed.trans closed⟩

/-- A flush that the service grants in full publishes what is pending. -/
theorem flush_granted (live : u.live = true) {bodies : List ByteArray}
    (balance : u.Balance past bodies) :
    (Call.flush.run u).Ends (history Exchange.Granted (u.Due past .flush))
      (fun _ seen' => ∃ more e, seen' = exchanges past ++ more ++ [e] ∧ e.published = true)
      (exchanges past) := by
  have commits : (flush (B := B) u).Ends (history Exchange.Granted fun _ _ => True)
      (fun r _ => r.2.isOk = true) (exchanges past) := by
    rw [flush_live live]
    exact commit_granted u _
  refine ((flush_ends (fun _ => Exchange.Granted.given) live balance rfl).and ?_ commits).mono ?_
  · intro seen op reply seen' answered
    cases op with
    | request r => exact answered
    | log entry => exact answered
  · rintro ⟨u', result⟩ seen' ⟨comes, good⟩
    cases result with
    | error fault => cases good
    | ok _ => exact comes.2

/-- A live upload that is left damaged publishes an object that is not whole, if it is written and
flushed once more and the service grants every request. -/
theorem not_whole_of_damaged (granting : Service B σ) (grants : granting.Grants) (t : σ)
    (standing : u.Standing past) (live : u.live = true) (damaged : Damaged past) :
    ¬ Whole (past ++ (play granting u t [.write .empty, .flush]).2.2) := by
  obtain ⟨bodies, balance⟩ := standing live
  obtain ⟨u₁, t₁, own₁, result₁, played₁, ⟨live₁, opened₁⟩, -⟩ :=
    playCall_holds granting grants (s := t) (write_alive live balance .empty)
  obtain ⟨_, _, _, _, played, standing₁, -⟩ := playCall_stands granting t (.write .empty) standing
  rw [played₁] at played
  cases played
  obtain ⟨bodies₁, balance₁⟩ := standing₁ live₁
  obtain ⟨u₂, t₂, own₂, result₂, played₂, ⟨more, e, own_eq, published⟩, dues⟩ :=
    playCall_holds granting grants (s := t₁) (flush_granted live₁ balance₁)
  rw [exchanges_concat, List.append_assoc, List.append_cancel_left_eq] at own_eq
  obtain ⟨-, pending₁, same₁, shows⟩ := dues more e [] own_eq published
  intro whole
  simp only [play, played₁, played₂] at whole
  have last := whole (past ++ [⟨.write .empty, own₁, result₁⟩]) ⟨.flush, own₂, result₂⟩ []
    more e [] (by simp) own_eq published
  -- the write has returned, so the upload is open, and what it shows is more than was written
  have returned : Returned (past ++ [⟨.write .empty, own₁, result₁⟩]) := last.returned
  have opened := opened₁ (((returned_concat _ _).1 returned).2 rfl)
  have longer := same₁.doubled opened returned ((damaged_concat _ _).2 (.inl damaged))
  rw [(last.bytes _).1 ((shows _).2 rfl)] at longer
  exact Nat.lt_irrefl _ longer

end

/-- Whatever the service answers and whatever is called, an object that an upload publishes is
whole, unless a write or a close has failed before, or a flush after a part of it was taken, and
the upload was live still.  And such a failure is never made good: an upload that is live after it
publishes an object that is not whole as soon as it is written to and flushed with success. -/
theorem whole_until_damaged (service : Service B σ) (s : σ) (bucket key : String) (partSize : Nat)
    (calls : List Call) :
    let (u, _, rounds) := play service { bucket, key, partSize } s calls
    (∀ before round after seen e rest, rounds = before ++ round :: after →
      round.exchanges = seen ++ e :: rest → e.published = true → ¬ Damaged before →
      WholeAt before round.call seen e.request) ∧
    (u.live = true → Damaged rounds → ∀ (τ : Type) (granting : Service B τ) (t : τ),
      granting.Grants → ¬ Whole (rounds ++ (play granting u t [.write .empty, .flush]).2.2)) := by
  obtain ⟨standing, whole⟩ :=
    play_stands service calls _ s [] (Standing.fresh bucket key partSize)
  rw [List.nil_append] at standing
  refine ⟨by simpa using whole, ?_⟩
  intro live damaged τ granting t grants
  exact not_whole_of_damaged granting grants t standing live damaged

/-! ## A service that leaves tags out -/

/-- A service that grants every request and gives each part the same tag, or none. -/
def tagging (tag : Option Value) : Service Unit Unit where
  answer
    | .listObjects _ _, s => (.ok ⟨none, none⟩, s)
    | .createUpload _ _, s => (.ok (some (.text "upload")), s)
    | .uploadPart _ _ _ _ _, s => (.ok tag, s)
    | .getObject _ _, s => (.ok none, s)
    | .readBody _ _, s => (.ok .empty, s)
    | .headBucket _, s | .headObject _ _, s | .createBucket _, s | .putObject _ _ _, s
    | .completeUpload _ _ _ _, s | .abortUpload _ _ _, s | .deleteObject _ _, s
    | .closeBody _, s => (.ok (), s)
  id_given := by
    intro bucket key s h
    injection h with h
    injection h with h
    cases h

theorem tagging_grants (tag : Value) : (tagging (some tag)).Grants := by
  intro r s
  cases r with
  | createUpload bucket key => exact ⟨.text "upload", nofun, rfl⟩
  | uploadPart bucket key id number body => exact ⟨tag, rfl⟩
  | _ => rfl

/-- Four bytes, as many as the parts below hold. -/
def fourBytes : ByteArray := ⟨#[97, 98, 99, 100]⟩

/-- The rounds of a write of one whole part and the calls behind it. -/
def afterPart (tag : Option Value) (rest : List Call) : Upload × Unit × List (Round Unit) :=
  play (tagging tag) { bucket := "b", key := "k", partSize := 4 } ()
    (.write fourBytes :: rest)

/-- With a tag the close publishes the part.  Without a tag the upload is live and damaged, and goes
on to publish an object that is not whole. -/
theorem whole_with_tag_until_damaged :
    (∃ before round after seen e rest,
      (afterPart (some (.text "tag")) [.close]).2.2 = before ++ round :: after ∧
      round.exchanges = seen ++ e :: rest ∧ e.published = true ∧ ¬ Damaged before ∧
      WholeAt before round.call seen e.request) ∧
    ((afterPart none []).1.live = true ∧ Damaged (afterPart none []).2.2 ∧
      (tagging (some (.text "tag"))).Grants ∧
      ¬ Whole ((afterPart none []).2.2 ++
        (play (tagging (some (.text "tag"))) (afterPart none []).1 () [.write .empty, .flush]).2.2)) := by
  constructor
  · have undamaged : ¬ Damaged (afterPart (some (.text "tag")) []).2.2 := by
      rintro ⟨r, member, damages⟩
      obtain rfl : r = _ := by simpa [afterPart, play] using member
      cases damages
    exact ⟨_, _, [], [], _, [], rfl, rfl, rfl, undamaged,
      (whole_until_damaged (tagging (some (.text "tag"))) () "b" "k" 4
        [.write fourBytes, .close]).1 _ _ [] [] _ [] rfl rfl rfl undamaged⟩
  · have damaged : Damaged (afterPart none []).2.2 := ⟨_, List.mem_cons_self, rfl⟩
    exact ⟨rfl, damaged, tagging_grants _,
      (whole_until_damaged (tagging none) () "b" "k" 4 [.write fourBytes]).2 rfl damaged
        Unit _ () (tagging_grants _)⟩

/-- A part without a tag makes its write fail; the close behind it still completes the upload, and
an empty object is published. -/
theorem truncated_object_published : ¬ Whole (afterPart none [.close]).2.2 := by
  intro whole
  have close := whole [_] _ [] [] _ [] rfl rfl rfl
  have empty := (close.bytes .empty).1 (.complete _ _ .nil)
  exact absurd (congrArg ByteArray.size empty) (by decide +kernel)

end Upload
end S3
end Storage
end StoreMeter
