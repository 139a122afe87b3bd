import InfraOps.Queue.Machine

/-!
# Row locks

What one step of the queue does, and what holds of every row that a transaction has locked:
no other transaction writes it, so it still is what the transaction looked for when it
locked it.
-/

namespace InfraOps

namespace QueueState

/-! ## The steps -/

/-- One step of the queue, with the guards that let it happen. -/
inductive Step (timeout : Int) (s : QueueState) : QueueAction → QueueState → Prop
  | ticked (seconds : Nat) :
      Step timeout s (.tick seconds) { s with clock := s.clock + seconds }
  | submitted {job : ProvisioningJob} (hqueued : job.status = .queued)
      (hclock : job.queuedAt = s.clock) :
      Step timeout s (.submit job) { s with rows := s.rows ++ [{ job, updatedAt := s.clock }] }
  | wrote {j : Nat} {row : QueueRow} {job : ProvisioningJob} (hrow : s.rows[j]? = some row)
      (hfree : s.lockedBy j = none) (hadmissible : admissible s.clock row.job job = true) :
      Step timeout s (.other j job)
        (s.modify j fun row => { row with job, updatedAt := s.clock })
  | claimBegan {w : WorkerId} {slots : Nat} (hidle : s.claimer w = .idle) :
      Step timeout s (.claimBegin w slots) (s.setClaimer w (.locking s.clock slots []))
  | claimLocked {w : WorkerId} {j slots : Nat} {now : Timestamp} {held : List Nat}
      {row : QueueRow} (hphase : s.claimer w = .locking now slots held)
      (hrow : s.rows[j]? = some row) (hfree : s.lockedBy j = none)
      (hdue : JobRepository.due row.job now = true) :
      Step timeout s (.claimLock w j)
        ((s.lock j (.claimer w)).setClaimer w (.locking now slots (j :: held)))
  | claimed {w : WorkerId} {slots : Nat} {now : Timestamp} {held : List Nat}
      (hphase : s.claimer w = .locking now slots held) :
      Step timeout s (.claimCommit w)
        (((s.claimRows w now held).unlock (.claimer w)).setClaimer w .idle)
  | beatBegan {t : Nat} {w : WorkerId} {j : Nat} (hidle : s.beat t = .idle) :
      Step timeout s (.beatBegin t w j) (s.setBeat t (.began w j s.clock))
  | beatLocked {t : Nat} {w : WorkerId} {j : Nat} {now : Timestamp} {row : QueueRow}
      (hphase : s.beat t = .began w j now) (hfree : s.lockedBy j = none)
      (hrow : s.rows[j]? = some row) (hrunning : row.job.status = .running) :
      Step timeout s (.beatUpdate t) ((s.lock j (.beat t)).setBeat t (.holding j now))
  | beatMissed {t : Nat} {w : WorkerId} {j : Nat} {now : Timestamp}
      (hphase : s.beat t = .began w j now) :
      Step timeout s (.beatUpdate t) (s.setBeat t .idle)
  | beaten {t : Nat} {j : Nat} {now : Timestamp} (hphase : s.beat t = .holding j now) :
      Step timeout s (.beatCommit t)
        (((s.modify j (·.beat now s.clock)).unlock (.beat t)).setBeat t .idle)
  | reapBegan {w : WorkerId} {excluded : List Nat} (hidle : s.reaper w = .idle) :
      Step timeout s (.reapBegin w excluded)
        (s.setReaper w (.began (s.clock - timeout) excluded))
  | reapRead {w : WorkerId} {staleBefore : Timestamp} {excluded order : List Nat}
      (hphase : s.reaper w = .began staleBefore excluded)
      (hreads : s.reads staleBefore excluded order = true) :
      Step timeout s (.reapRead w order) (s.setReaper w (.scanning staleBefore excluded order))
  | reapLocked {w : WorkerId} {staleBefore : Timestamp} {excluded rest : List Nat} {j : Nat}
      (hphase : s.reaper w = .scanning staleBefore excluded (j :: rest))
      (hfree : s.lockedBy j = none) (hreapable : s.reapable staleBefore excluded j = true) :
      Step timeout s (.reapNext w) ((s.lock j (.reaper w)).setReaper w (.holding j))
  | reapSkipped {w : WorkerId} {staleBefore : Timestamp} {excluded rest : List Nat} {j : Nat}
      (hphase : s.reaper w = .scanning staleBefore excluded (j :: rest))
      (hskip : ¬(s.lockedBy j = none ∧ s.reapable staleBefore excluded j = true)) :
      Step timeout s (.reapNext w) (s.setReaper w (.scanning staleBefore excluded rest))
  | reapEnded {w : WorkerId} {staleBefore : Timestamp} {excluded : List Nat}
      (hphase : s.reaper w = .scanning staleBefore excluded []) :
      Step timeout s (.reapNext w) (s.setReaper w .idle)
  | reaped {w : WorkerId} {j : Nat} (hphase : s.reaper w = .holding j) :
      Step timeout s (.reapCommit w)
        (((s.modify j (·.interrupted s.clock)).unlock (.reaper w)).setReaper w .idle)
  | aborted (h : Holder) : Step timeout s (.abort h) (s.abort h)

variable {timeout : Int} {s s' : QueueState}

/-- **Every step of the machine is one of these.** -/
theorem step_of_step {e : QueueAction} (h : (queue timeout).step s e = some s') :
    Step timeout s e s' := by
  change s.step timeout e = some s' at h
  cases e with
  | tick seconds =>
    cases h
    exact .ticked seconds
  | submit job =>
    simp only [step] at h
    split at h
    · rename_i hjob
      cases h
      exact .submitted hjob.1 hjob.2
    · cases h
  | other j job =>
    simp only [step, other] at h
    split at h
    · rename_i row hrow
      split at h
      · rename_i hguard
        cases h
        exact .wrote hrow hguard.1 hguard.2
      · cases h
    · cases h
  | claimBegin w slots =>
    simp only [step, claimBegin] at h
    split at h
    · rename_i hguard
      cases h
      exact .claimBegan hguard.1
    · cases h
  | claimLock w j =>
    simp only [step, claimLock] at h
    split at h
    · rename_i now slots held row hphase hrow
      split at h
      · rename_i hguard
        cases h
        exact .claimLocked hphase hrow hguard.2.1 hguard.2.2
      · cases h
    · cases h
  | claimCommit w =>
    simp only [step, claimCommit] at h
    split at h
    · rename_i now slots held hphase
      cases h
      exact .claimed hphase
    · cases h
  | beatBegin t w j =>
    simp only [step, beatBegin] at h
    split at h
    · rename_i hidle
      cases h
      exact .beatBegan hidle
    · cases h
  | beatUpdate t =>
    simp only [step, beatUpdate] at h
    split at h
    · rename_i w j now hphase
      split at h
      · rename_i hfree
        split at h
        · rename_i row hrow
          split at h
          · rename_i hguard
            cases h
            exact .beatLocked hphase hfree hrow hguard.2
          -- the row is not this worker's any more: the update matches none
          · cases h
            exact .beatMissed hphase
        · cases h
          exact .beatMissed hphase
      · cases h
    · cases h
  | beatCommit t =>
    simp only [step, beatCommit] at h
    split at h
    · rename_i j now hphase
      cases h
      exact .beaten hphase
    · cases h
  | reapBegin w excluded =>
    simp only [step, reapBegin] at h
    split at h
    · rename_i hidle
      cases h
      exact .reapBegan hidle
    · cases h
  | reapRead w order =>
    simp only [step, QueueState.reapRead] at h
    split at h
    · rename_i staleBefore excluded hphase
      split at h
      · rename_i hreads
        cases h
        exact .reapRead hphase hreads
      · cases h
    · cases h
  | reapNext w =>
    simp only [step, reapNext] at h
    split at h
    · rename_i staleBefore excluded j rest hphase
      split at h
      · rename_i hguard
        cases h
        exact .reapLocked hphase hguard.1 hguard.2
      · rename_i hguard
        cases h
        exact .reapSkipped hphase hguard
    · rename_i staleBefore excluded hphase
      cases h
      exact .reapEnded hphase
    · cases h
  | reapCommit w =>
    simp only [step, reapCommit] at h
    split at h
    · rename_i j hphase
      cases h
      exact .reaped hphase
    · cases h
  | abort holder =>
    cases h
    exact .aborted holder

/-! ## What the parts of a step change -/

section

variable (s : QueueState) (h : Holder) (j k : Nat)

@[simp] theorem held_setReaper (w : WorkerId) (p : ReapPhase) :
    (s.setReaper w p).held h = if h = .reaper w then p.held else s.held h := by
  cases h with
  | reaper w' =>
    by_cases hw : w' = w
    · subst hw
      simp [held, setReaper]
    · simp [held, setReaper, hw]
  | claimer w' => rfl
  | beat t => rfl

@[simp] theorem held_setClaimer (w : WorkerId) (p : ClaimPhase) :
    (s.setClaimer w p).held h = if h = .claimer w then p.held else s.held h := by
  cases h with
  | reaper w' => rfl
  | claimer w' =>
    by_cases hw : w' = w
    · subst hw
      simp [held, setClaimer]
    · simp [held, setClaimer, hw]
  | beat t => rfl

@[simp] theorem held_setBeat (t : Nat) (p : BeatPhase) :
    (s.setBeat t p).held h = if h = .beat t then p.held else s.held h := by
  cases h with
  | reaper w => rfl
  | claimer w => rfl
  | beat t' =>
    by_cases ht : t' = t
    · subst ht
      simp [held, setBeat]
    · simp [held, setBeat, ht]

@[simp] theorem held_modify (f : QueueRow → QueueRow) : (s.modify j f).held h = s.held h := by
  cases h <;> rfl

@[simp] theorem held_unlock (h' : Holder) : (s.unlock h').held h = s.held h := by
  cases h <;> rfl

@[simp] theorem held_lock (h' : Holder) : (s.lock j h').held h = s.held h := by
  cases h <;> rfl

@[simp] theorem held_claimRows (w : WorkerId) (now : Timestamp) (js : List Nat) :
    (s.claimRows w now js).held h = s.held h := by
  cases h <;> rfl

theorem reaper_setReaper (w w' : WorkerId) (p : ReapPhase) :
    (s.setReaper w p).reaper w' = if w' = w then p else s.reaper w' := by
  simp [setReaper, Function.update_apply]

theorem getElem?_modify (f : QueueRow → QueueRow) :
    (s.modify j f).rows[k]? = if j = k then s.rows[k]?.map f else s.rows[k]? := by
  simp only [modify, List.getElem?_modify]
  split <;> simp

theorem getElem?_claimRows (w : WorkerId) (now : Timestamp) (js : List Nat) :
    (s.claimRows w now js).rows[k]? =
      s.rows[k]?.map fun row => if k ∈ js then row.claimedBy w now s.clock else row := by
  simp [claimRows, List.getElem?_mapIdx]

end

/-! ## The locks -/

/-- What a transaction has found in a row it has locked. -/
def Found (timeout : Int) (s : QueueState) : Holder → QueueRow → Prop
  | .reaper _, row => row.stale (s.clock - timeout) = true
  | .claimer _, row => row.job.status = .queued
  | .beat _, row => row.job.status = .running

structure LockInv (timeout : Int) (s : QueueState) : Prop where
  /-- The lock table is what the transactions hold. -/
  locks : ∀ j h, s.lockedBy j = some h ↔ j ∈ s.held h
  /-- A locked row is still what its holder has found. -/
  found : ∀ h j, j ∈ s.held h → ∃ row, s.rows[j]? = some row ∧ Found timeout s h row
  began : ∀ w staleBefore excluded, s.reaper w = .began staleBefore excluded →
    staleBefore ≤ s.clock - timeout
  scanning : ∀ w staleBefore excluded rest,
    s.reaper w = .scanning staleBefore excluded rest → staleBefore ≤ s.clock - timeout

theorem Found.mono {h : Holder} {row : QueueRow} (hfound : Found timeout s h row)
    (hclock : s.clock ≤ s'.clock) : Found timeout s' h row := by
  cases h with
  | reaper w =>
    simp only [Found, QueueRow.stale, Bool.and_eq_true, decide_eq_true_eq] at hfound ⊢
    exact ⟨hfound.1, Int.lt_of_lt_of_le hfound.2 (Int.sub_le_sub_right hclock timeout)⟩
  | claimer w => exact hfound
  | beat t => exact hfound

namespace LockInv

/-- A job is locked by one transaction at most. -/
theorem holder_unique (hs : LockInv timeout s) {h h' : Holder} {j : Nat} (hj : j ∈ s.held h)
    (hj' : j ∈ s.held h') : h = h' := by
  have hlocked := (hs.locks j h).mpr hj
  rw [(hs.locks j h').mpr hj'] at hlocked
  exact (Option.some.inj hlocked).symm

theorem not_held (hs : LockInv timeout s) {j : Nat} (hfree : s.lockedBy j = none) (h : Holder) :
    j ∉ s.held h := by
  intro hj
  rw [(hs.locks j h).mpr hj] at hfree
  cases hfree

/-- What is held was held before, and its row is as it was. -/
theorem found_of_kept (hs : LockInv timeout s) (hclock : s.clock ≤ s'.clock)
    (hkept : ∀ h j, j ∈ s'.held h → j ∈ s.held h ∧ s'.rows[j]? = s.rows[j]?) :
    ∀ h j, j ∈ s'.held h → ∃ row, s'.rows[j]? = some row ∧ Found timeout s' h row := by
  intro h j hj
  obtain ⟨hold, hrow⟩ := hkept h j hj
  obtain ⟨row, hsome, hfound⟩ := hs.found h j hold
  exact ⟨row, by rw [hrow, hsome], hfound.mono hclock⟩

/-- A transaction locks one more row. -/
theorem locks_lock (hs : LockInv timeout s) {h : Holder} {j : Nat} (hfree : s.lockedBy j = none)
    (hlocked : s'.lockedBy = Function.update s.lockedBy j (some h))
    (hheld : ∀ h', s'.held h' = if h' = h then j :: s.held h else s.held h') :
    ∀ k h', s'.lockedBy k = some h' ↔ k ∈ s'.held h' := by
  intro k h'
  rw [hlocked, hheld, Function.update_apply]
  have hnot := hs.not_held hfree
  by_cases hk : k = j
  · subst hk
    by_cases hh : h' = h
    · simp [hh]
    · simp [hh, Ne.symm hh, hnot h']
  · by_cases hh : h' = h
    · simp [hk, hh, hs.locks]
    · simp [hk, hh, hs.locks]

theorem found_lock (hs : LockInv timeout s) (hclock : s'.clock = s.clock)
    (hrows : s'.rows = s.rows) {h : Holder} {j : Nat}
    (hheld : ∀ h', s'.held h' = if h' = h then j :: s.held h else s.held h')
    {row : QueueRow} (hrow : s.rows[j]? = some row) (hfound : Found timeout s h row) :
    ∀ h j, j ∈ s'.held h → ∃ row, s'.rows[j]? = some row ∧ Found timeout s' h row := by
  intro h' k hk
  have hle : s.clock ≤ s'.clock := hclock.ge
  rw [hrows]
  rw [hheld] at hk
  split at hk
  · rename_i hh
    subst hh
    rcases List.mem_cons.mp hk with rfl | hk
    · exact ⟨row, hrow, hfound.mono hle⟩
    · obtain ⟨row', hrow', hfound'⟩ := hs.found h' k hk
      exact ⟨row', hrow', hfound'.mono hle⟩
  · obtain ⟨row', hrow', hfound'⟩ := hs.found h' k hk
    exact ⟨row', hrow', hfound'.mono hle⟩

/-- A transaction ends: it releases what it held. -/
theorem locks_unlock (hs : LockInv timeout s) {h : Holder}
    (hlocked : s'.lockedBy = fun j => if s.lockedBy j = some h then none else s.lockedBy j)
    (hheld : ∀ h', s'.held h' = if h' = h then [] else s.held h') :
    ∀ k h', s'.lockedBy k = some h' ↔ k ∈ s'.held h' := by
  intro k h'
  rw [hlocked, hheld]
  by_cases hh : h' = h
  · subst hh
    by_cases hk : s.lockedBy k = some h'
    · simp [hk]
    · simp [hk]
  · by_cases hk : s.lockedBy k = some h
    · have hnot : k ∉ s.held h' := by
        intro hmem
        exact hh (hs.holder_unique hmem ((hs.locks k h).mp hk))
      simp [hk, hh, hnot]
    · simp [hk, hh, hs.locks]

/-- What ends a transaction writes only rows that it holds. -/
theorem found_unlock (hs : LockInv timeout s) (hclock : s'.clock = s.clock) {h : Holder}
    (hheld : ∀ h', s'.held h' = if h' = h then [] else s.held h')
    (hrows : ∀ k, k ∉ s.held h → s'.rows[k]? = s.rows[k]?) :
    ∀ h j, j ∈ s'.held h → ∃ row, s'.rows[j]? = some row ∧ Found timeout s' h row := by
  refine hs.found_of_kept hclock.ge fun h' k hk => ?_
  rw [hheld] at hk
  split at hk
  · cases hk
  · rename_i hh
    exact ⟨hk, hrows k fun hmem => hh (hs.holder_unique hk hmem)⟩

theorem init (h : s.Fresh) : LockInv timeout s := by
  have hheld : ∀ h', s.held h' = [] := by
    intro h'
    cases h' with
    | reaper w => simp [held, h.reaper w, ReapPhase.held]
    | claimer w => simp [held, h.claimer w, ClaimPhase.held]
    | beat t => simp [held, h.beat t, BeatPhase.held]
  refine ⟨fun j h' => ?_, fun h' j hj => ?_, fun w _ _ hw => ?_, fun w _ _ _ hw => ?_⟩
  · simp [hheld, h.lockedBy j]
  · simp [hheld] at hj
  · rw [h.reaper w] at hw
    cases hw
  · rw [h.reaper w] at hw
    cases hw

/-- A step that neither locks nor unlocks, and writes no locked row. -/
theorem of_kept (hs : LockInv timeout s) (hclock : s.clock ≤ s'.clock)
    (hlocked : s'.lockedBy = s.lockedBy) (hheld : ∀ h, s'.held h = s.held h)
    (hrows : ∀ k, s.lockedBy k ≠ none → s'.rows[k]? = s.rows[k]?)
    (hreaper : s'.reaper = s.reaper) : LockInv timeout s' := by
  have hle := Int.sub_le_sub_right hclock timeout
  refine ⟨fun j h => ?_, hs.found_of_kept hclock fun h j hj => ?_, ?_, ?_⟩
  · rw [hlocked, hheld]
    exact hs.locks j h
  · rw [hheld] at hj
    refine ⟨hj, hrows j ?_⟩
    rw [(hs.locks j h).mpr hj]
    exact Option.some_ne_none h
  · rw [hreaper]
    exact fun w _ _ hw => (hs.began w _ _ hw).trans hle
  · rw [hreaper]
    exact fun w _ _ _ hw => (hs.scanning w _ _ _ hw).trans hle

/-- A reaper that is at work reads the table with a cut-off that has passed. -/
theorem of_reaper (hs : LockInv timeout s) (hclock : s'.clock = s.clock)
    (hlocks : ∀ k h, s'.lockedBy k = some h ↔ k ∈ s'.held h)
    (hfound : ∀ h j, j ∈ s'.held h → ∃ row, s'.rows[j]? = some row ∧ Found timeout s' h row)
    {w : WorkerId} {p : ReapPhase} (hreaper : s'.reaper = Function.update s.reaper w p)
    (hbegan : ∀ staleBefore excluded, p = .began staleBefore excluded →
      staleBefore ≤ s.clock - timeout)
    (hscanning : ∀ staleBefore excluded rest, p = .scanning staleBefore excluded rest →
      staleBefore ≤ s.clock - timeout) : LockInv timeout s' := by
  refine ⟨hlocks, hfound, fun w' c ex hw => ?_, fun w' c ex rest hw => ?_⟩
  · rw [hreaper, Function.update_apply] at hw
    rw [hclock]
    split at hw
    · exact hbegan c ex hw
    · exact hs.began w' c ex hw
  · rw [hreaper, Function.update_apply] at hw
    rw [hclock]
    split at hw
    · exact hscanning c ex rest hw
    · exact hs.scanning w' c ex rest hw

/-- A row that a reaper may take is older than the timeout: its cut-off has passed. -/
theorem found_of_reapable (hs : LockInv timeout s) {w : WorkerId} {staleBefore : Timestamp}
    {excluded rest : List Nat} {j : Nat} (hphase : s.reaper w = .scanning staleBefore excluded rest)
    (hreapable : s.reapable staleBefore excluded j = true) :
    ∃ row, s.rows[j]? = some row ∧ Found timeout s (.reaper w) row := by
  simp only [reapable, Bool.and_eq_true, Option.any_eq_true] at hreapable
  obtain ⟨⟨row, hrow, hstale⟩, -⟩ := hreapable
  refine ⟨row, hrow, ?_⟩
  simp only [QueueRow.stale, Bool.and_eq_true, decide_eq_true_eq] at hstale
  simp only [Found, QueueRow.stale, Bool.and_eq_true, decide_eq_true_eq]
  exact ⟨hstale.1, Int.lt_of_lt_of_le hstale.2 (hs.scanning _ _ _ _ hphase)⟩

/-- A reaper goes on without locking a row. -/
theorem setReaper (hs : LockInv timeout s) {w : WorkerId} {p : ReapPhase}
    (hp : p.held = []) (hw : (s.reaper w).held = [])
    (hbegan : ∀ staleBefore excluded, p = .began staleBefore excluded →
      staleBefore ≤ s.clock - timeout)
    (hscanning : ∀ staleBefore excluded rest, p = .scanning staleBefore excluded rest →
      staleBefore ≤ s.clock - timeout) : LockInv timeout (s.setReaper w p) := by
  have hheld : ∀ h, (s.setReaper w p).held h = s.held h := by
    intro h
    rw [held_setReaper]
    split
    · rename_i hh
      rw [hp, hh]
      exact hw.symm
    · rfl
  refine hs.of_reaper rfl (fun j h => ?_) (hs.found_of_kept (le_refl s.clock) fun h j hj => ?_)
    rfl hbegan hscanning
  · rw [hheld]
    exact hs.locks j h
  · rw [hheld] at hj
    exact ⟨hj, rfl⟩

/-- Another transaction goes on without locking a row. -/
theorem setClaimer (hs : LockInv timeout s) {w : WorkerId} {p : ClaimPhase}
    (hp : p.held = (s.claimer w).held) : LockInv timeout (s.setClaimer w p) := by
  refine hs.of_kept (le_refl s.clock) rfl (fun h => ?_) (fun _ _ => rfl) rfl
  rw [held_setClaimer]
  split
  · rename_i hh
    rw [hp, hh]
    rfl
  · rfl

theorem setBeat (hs : LockInv timeout s) {t : Nat} {p : BeatPhase}
    (hp : p.held = (s.beat t).held) : LockInv timeout (s.setBeat t p) := by
  refine hs.of_kept (le_refl s.clock) rfl (fun h => ?_) (fun _ _ => rfl) rfl
  rw [held_setBeat]
  split
  · rename_i hh
    rw [hp, hh]
    rfl
  · rfl

theorem step {e : QueueAction} (hs : LockInv timeout s) (h : Step timeout s e s') :
    LockInv timeout s' := by
  cases h with
  | ticked seconds =>
    exact hs.of_kept (Int.le_add_of_nonneg_right (Int.natCast_nonneg _)) rfl
      (fun h => by cases h <;> rfl) (fun _ _ => rfl) rfl
  -- the new row stands behind every locked one
  | submitted hqueued hclock =>
    refine hs.of_kept (le_refl s.clock) rfl (fun h => by cases h <;> rfl) (fun k hk => ?_) rfl
    obtain ⟨h, hh⟩ := Option.ne_none_iff_exists'.mp hk
    obtain ⟨row, hrow, -⟩ := hs.found h k ((hs.locks k h).mp hh)
    exact List.getElem?_append_left (List.getElem?_eq_some_iff.mp hrow).1
  -- a locked row is written by its holder alone
  | @wrote j row job hrow hfree hadmissible =>
    refine hs.of_kept (le_refl s.clock) rfl (fun h => by cases h <;> rfl) (fun k hk => ?_) rfl
    have hne : j ≠ k := by
      rintro rfl
      exact hk hfree
    rw [getElem?_modify, if_neg hne]
  | claimBegan hidle => exact hs.setClaimer (by rw [hidle]; rfl)
  | @claimLocked w j slots now held row hphase hrow hfree hdue =>
    have hheld : ∀ h,
        ((s.lock j (.claimer w)).setClaimer w (.locking now slots (j :: held))).held h =
          if h = .claimer w then j :: s.held (.claimer w) else s.held h := by
      intro h
      have hbefore : s.held (.claimer w) = held := by
        simp [QueueState.held, hphase, ClaimPhase.held]
      simp [hbefore, ClaimPhase.held]
    have hqueued : row.job.status = .queued := by
      simp only [JobRepository.due, Bool.and_eq_true, beq_iff_eq] at hdue
      exact hdue.1
    exact ⟨hs.locks_lock hfree rfl hheld, hs.found_lock rfl rfl hheld hrow hqueued, hs.began,
      hs.scanning⟩
  | @claimed w slots now held hphase =>
    have hheld : ∀ h, (((s.claimRows w now held).unlock (.claimer w)).setClaimer w .idle).held h =
        if h = .claimer w then [] else s.held h := by
      intro h
      simp [ClaimPhase.held]
    refine ⟨hs.locks_unlock rfl hheld, hs.found_unlock rfl hheld fun k hk => ?_, hs.began,
      hs.scanning⟩
    have hk : k ∉ held := by simpa [QueueState.held, hphase, ClaimPhase.held] using hk
    refine (getElem?_claimRows s k w now held).trans ?_
    simp [hk]
  | beatBegan hidle => exact hs.setBeat (by rw [hidle]; rfl)
  | @beatLocked t w j now row hphase hfree hrow hrunning =>
    have hheld : ∀ h, ((s.lock j (.beat t)).setBeat t (.holding j now)).held h =
        if h = .beat t then j :: s.held (.beat t) else s.held h := by
      intro h
      have hbefore : s.held (.beat t) = [] := by simp [QueueState.held, hphase, BeatPhase.held]
      simp [hbefore, BeatPhase.held]
    exact ⟨hs.locks_lock hfree rfl hheld, hs.found_lock rfl rfl hheld hrow hrunning, hs.began,
      hs.scanning⟩
  | beatMissed hphase => exact hs.setBeat (by rw [hphase]; rfl)
  | @beaten t j now hphase =>
    have hheld : ∀ h,
        (((s.modify j (·.beat now s.clock)).unlock (.beat t)).setBeat t .idle).held h =
          if h = .beat t then [] else s.held h := by
      intro h
      simp [BeatPhase.held]
    refine ⟨hs.locks_unlock rfl hheld, hs.found_unlock rfl hheld fun k hk => ?_, hs.began,
      hs.scanning⟩
    have hne : j ≠ k := by
      rintro rfl
      simp [QueueState.held, hphase, BeatPhase.held] at hk
    exact (getElem?_modify s j k _).trans (if_neg hne)
  | reapBegan hidle =>
    refine hs.setReaper rfl (by rw [hidle]; rfl) (fun c ex hp => ?_) (fun c ex rest hp => ?_)
    · cases hp
      exact le_refl _
    · cases hp
  | reapRead hphase hreads =>
    refine hs.setReaper rfl (by rw [hphase]; rfl) (fun c ex hp => ?_) (fun c ex rest hp => ?_)
    · cases hp
    · cases hp
      exact hs.began _ _ _ hphase
  | @reapLocked w staleBefore excluded rest j hphase hfree hreapable =>
    have hheld : ∀ h, ((s.lock j (.reaper w)).setReaper w (.holding j)).held h =
        if h = .reaper w then j :: s.held (.reaper w) else s.held h := by
      intro h
      have hbefore : s.held (.reaper w) = [] := by simp [QueueState.held, hphase, ReapPhase.held]
      simp [hbefore, ReapPhase.held]
    obtain ⟨row, hrow, hfound⟩ := hs.found_of_reapable hphase hreapable
    refine hs.of_reaper rfl (hs.locks_lock hfree rfl hheld)
      (hs.found_lock rfl rfl hheld hrow hfound) rfl (fun c ex hp => ?_) (fun c ex rest hp => ?_)
    · cases hp
    · cases hp
  | reapSkipped hphase hskip =>
    refine hs.setReaper rfl (by rw [hphase]; rfl) (fun c ex hp => ?_) (fun c ex rest hp => ?_)
    · cases hp
    · cases hp
      exact hs.scanning _ _ _ _ hphase
  | reapEnded hphase =>
    refine hs.setReaper rfl (by rw [hphase]; rfl) (fun c ex hp => ?_) (fun c ex rest hp => ?_)
    · cases hp
    · cases hp
  | @reaped w j hphase =>
    have hheld : ∀ h, (((s.modify j (·.interrupted s.clock)).unlock (.reaper w)).setReaper w
        .idle).held h = if h = .reaper w then [] else s.held h := by
      intro h
      simp [ReapPhase.held]
    have hrows : ∀ k, k ∉ s.held (.reaper w) →
        (s.modify j (·.interrupted s.clock)).rows[k]? = s.rows[k]? := by
      intro k hk
      have hne : j ≠ k := by
        rintro rfl
        simp [QueueState.held, hphase, ReapPhase.held] at hk
      exact (getElem?_modify s j k _).trans (if_neg hne)
    refine hs.of_reaper rfl (hs.locks_unlock rfl hheld) (hs.found_unlock rfl hheld hrows) rfl
      (fun c ex hp => ?_) (fun c ex rest hp => ?_)
    · cases hp
    · cases hp
  -- a roll-back frees what its transaction has locked and writes nothing
  | aborted h =>
    cases h with
    | reaper w =>
      have hheld : ∀ h, (s.abort (.reaper w)).held h = if h = .reaper w then [] else s.held h := by
        intro h
        simp [QueueState.abort, ReapPhase.held]
      refine hs.of_reaper rfl (hs.locks_unlock rfl hheld) (hs.found_unlock rfl hheld fun _ _ => rfl)
        rfl (fun c ex hp => ?_) (fun c ex rest hp => ?_)
      · cases hp
      · cases hp
    | claimer w =>
      have hheld : ∀ h,
          (s.abort (.claimer w)).held h = if h = .claimer w then [] else s.held h := by
        intro h
        simp [QueueState.abort, ClaimPhase.held]
      exact ⟨hs.locks_unlock rfl hheld, hs.found_unlock rfl hheld fun _ _ => rfl, hs.began,
        hs.scanning⟩
    | beat t =>
      have hheld : ∀ h, (s.abort (.beat t)).held h = if h = .beat t then [] else s.held h := by
        intro h
        simp [QueueState.abort, BeatPhase.held]
      exact ⟨hs.locks_unlock rfl hheld, hs.found_unlock rfl hheld fun _ _ => rfl, hs.began,
        hs.scanning⟩

end LockInv

end QueueState

end InfraOps
