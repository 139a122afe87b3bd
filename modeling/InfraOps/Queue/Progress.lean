import InfraOps.Queue.Reaping

/-!
# Every stale job is reaped

An endless run in which some reaper keeps at work, and a job that has gone stale and that
nobody else looks after. Each transaction of the reaper takes the first stale job of the
queue that it can lock, and the jobs before the given one run out.
-/

namespace InfraOps

namespace QueueState

/-! ## Reading the table -/

theorem reapable_of_row {s : QueueState} {staleBefore : Timestamp} {excluded : List Nat} {j : Nat}
    {row : QueueRow} (hrow : s.rows[j]? = some row) (hstale : row.stale staleBefore = true)
    (hj : j ∉ excluded) : s.reapable staleBefore excluded j = true := by
  simp [reapable, hrow, hstale, hj]

/-- A job that the statement looks for stands in the order it reads, and what stands before
it is ahead of it. -/
theorem reads_split {s : QueueState} {staleBefore : Timestamp} {excluded order : List Nat} {j : Nat}
    {row : QueueRow} (h : s.reads staleBefore excluded order = true)
    (hrow : s.rows[j]? = some row) (hj : s.reapable staleBefore excluded j = true) :
    ∃ before after, order = before ++ j :: after ∧
      ∀ k ∈ before, s.ahead row.job.queuedAt k = true := by
  simp only [reads, Bool.and_eq_true, List.all_eq_true, List.mem_range, beq_iff_eq,
    decide_eq_true_eq] at h
  obtain ⟨⟨hcomplete, hrows⟩, hsorted⟩ := h
  have hlt : j < s.rows.length := (List.getElem?_eq_some_iff.mp hrow).1
  have hmem : j ∈ order := by
    have hread := hcomplete j hlt
    rw [hj] at hread
    simpa using hread.symm
  obtain ⟨before, after, rfl⟩ := List.append_of_mem hmem
  refine ⟨before, after, rfl, fun k hk => ?_⟩
  have hlek : s.queuedAt k ≤ s.queuedAt j :=
    (List.pairwise_append.mp hsorted).2.2 k hk j List.mem_cons_self
  have hklt := hrows k (List.mem_append_left _ hk)
  have hread := hcomplete k hklt
  have hreapable : s.reapable staleBefore excluded k = true := by
    rw [hread]
    simp [hk]
  simp only [reapable, Bool.and_eq_true, Option.any_eq_true] at hreapable
  obtain ⟨⟨row', hrow', hstale⟩, -⟩ := hreapable
  simp only [QueueRow.stale, Bool.and_eq_true, beq_iff_eq] at hstale
  refine ahead_of_row hrow' (.inr hstale.1) ?_
  simpa [queuedAt, hrow, hrow'] using hlek

variable {timeout : Int} {s s' : QueueState}

theorem clock_of_step {e : QueueAction} (h : Step timeout s e s') : s.clock ≤ s'.clock := by
  cases h with
  | ticked seconds => exact Int.le_add_of_nonneg_right (Int.natCast_nonneg _)
  | aborted holder => cases holder <;> exact le_refl s.clock
  | _ => exact le_refl s.clock

/-- Only a reaper, another transaction or a heartbeat writes a running job. -/
theorem row_of_step {e : QueueAction} {j : Nat} {row : QueueRow} (hl : LockInv timeout s)
    (h : Step timeout s e s') (hrow : s.rows[j]? = some row)
    (hrunning : row.job.status = .running) (hother : ∀ job, e ≠ .other j job)
    (hbeat : ∀ t, s.lockedBy j ≠ some (.beat t))
    (hreap : ∀ w, e = .reapCommit w → s.reaper w ≠ .holding j) : s'.rows[j]? = some row := by
  cases h with
  | submitted hqueued hclock =>
    exact (List.getElem?_append_left (List.getElem?_eq_some_iff.mp hrow).1).trans hrow
  | @wrote k old job hold hfree hadmissible =>
    have hne : k ≠ j := by
      rintro rfl
      exact hother job rfl
    rw [getElem?_modify, if_neg hne]
    exact hrow
  -- a claim has locked queued rows, and this one is running
  | @claimed w slots now js hphase =>
    have hnot : j ∉ js := by
      intro hj
      obtain ⟨row', hrow', hdue⟩ :=
        hl.found (.claimer w) j (by simpa [held, hphase, ClaimPhase.held] using hj)
      rw [hrow] at hrow'
      cases hrow'
      simp only [Found, hrunning] at hdue
      cases hdue
    refine (getElem?_claimRows s j w now js).trans ?_
    simp [hrow, hnot]
  | @beaten t k now hphase =>
    have hne : k ≠ j := by
      rintro rfl
      exact hbeat t ((hl.locks k (.beat t)).mpr (by simp [held, hphase, BeatPhase.held]))
    exact ((getElem?_modify s k j _).trans (if_neg hne)).trans hrow
  | @reaped w k hphase =>
    have hne : k ≠ j := by
      rintro rfl
      exact hreap w rfl hphase
    exact ((getElem?_modify s k j _).trans (if_neg hne)).trans hrow
  | aborted holder => cases holder <;> exact hrow
  | _ => exact hrow

/-! ## One transaction of a reaper -/

/-- How far the transaction is that will take `row`, the row of `j`, or one of the jobs that
were ahead of it in `s₀`. -/
def OnItsWay (s₀ : QueueState) (j : Nat) (row : QueueRow) : ReapPhase → Prop
  | .began staleBefore excluded => row.stale staleBefore = true ∧ j ∉ excluded
  | .scanning staleBefore excluded rest =>
    row.stale staleBefore = true ∧ j ∉ excluded ∧
      ∃ before after, rest = before ++ j :: after ∧
        ∀ k ∈ before, s₀.ahead row.job.queuedAt k = true
  | .holding k => s₀.ahead row.job.queuedAt k = true
  | .idle => False

/-- **The transaction goes on, or takes out a job that was ahead.** It cannot lock the job
itself: nobody does. -/
theorem onItsWay_step {s₀ : QueueState} {e : QueueAction} {w : WorkerId} {j : Nat}
    {row : QueueRow} (h : Step timeout s e s') (hrow : s.rows[j]? = some row)
    (hfree : s.lockedBy j = none) (hfree' : s'.lockedBy j = none)
    (hahead : ∀ k, s.ahead row.job.queuedAt k = true → s₀.ahead row.job.queuedAt k = true)
    (hcomplete : e ≠ .abort (.reaper w)) (hway : OnItsWay s₀ j row (s.reaper w)) :
    OnItsWay s₀ j row (s'.reaper w) ∨
      ∃ k, s₀.ahead row.job.queuedAt k = true ∧ s'.ahead row.job.queuedAt k = false := by
  have hstep := h
  cases h with
  | @reapBegan w' excluded hidle =>
    left
    rw [reaper_setReaper]
    split
    · rename_i hw
      rw [hw, hidle] at hway
      cases hway
    · exact hway
  -- the read returns the row behind those that are ahead of it
  | @reapRead w' staleBefore excluded order hphase hreads =>
    left
    rw [reaper_setReaper]
    split
    · rename_i hw
      rw [hw, hphase] at hway
      obtain ⟨hstale, hincluded⟩ := hway
      obtain ⟨before, after, horder, hbefore⟩ :=
        reads_split hreads hrow (reapable_of_row hrow hstale hincluded)
      exact ⟨hstale, hincluded, before, after, horder, fun k hk => hahead k (hbefore k hk)⟩
    · exact hway
  | @reapLocked w' staleBefore excluded rest i hphase hi hreapable =>
    left
    rw [reaper_setReaper]
    split
    · rename_i hw
      rw [hw, hphase] at hway
      obtain ⟨-, -, before, after, hsplit, hbefore⟩ := hway
      cases before with
      | nil =>
        -- the job itself would be locked
        cases hsplit
        simp [setReaper, lock] at hfree'
      | cons k before =>
        cases hsplit
        exact hbefore i List.mem_cons_self
    · exact hway
  | @reapSkipped w' staleBefore excluded rest i hphase hskip =>
    left
    rw [reaper_setReaper]
    split
    · rename_i hw
      rw [hw, hphase] at hway
      obtain ⟨hstale, hincluded, before, after, hsplit, hbefore⟩ := hway
      cases before with
      | nil =>
        cases hsplit
        -- a free, stale row is not skipped
        exact absurd ⟨hfree, reapable_of_row hrow hstale hincluded⟩ hskip
      | cons k before =>
        cases hsplit
        exact ⟨hstale, hincluded, before, after, rfl, fun k hk =>
          hbefore k (List.mem_cons_of_mem _ hk)⟩
    · exact hway
  | @reapEnded w' staleBefore excluded hphase =>
    left
    rw [reaper_setReaper]
    split
    · rename_i hw
      rw [hw, hphase] at hway
      obtain ⟨-, -, before, after, hsplit, -⟩ := hway
      cases before <;> cases hsplit
    · exact hway
  | @reaped w' k hphase =>
    by_cases hw : w = w'
    · subst hw
      rw [hphase] at hway
      exact .inr ⟨k, hway, not_ahead_of_reaped hstep hphase⟩
    · left
      rw [reaper_setReaper, if_neg hw]
      exact hway
  | aborted holder =>
    left
    cases holder with
    | reaper w' =>
      have hw : w ≠ w' := by
        rintro rfl
        exact hcomplete rfl
      simp only [QueueState.abort]
      rw [reaper_setReaper, if_neg hw]
      exact hway
    | claimer w' => exact hway
    | beat t => exact hway
  | _ => exact .inl hway

end QueueState

open QueueState

variable {timeout : Int} (ρ : (queue timeout).Trace)

/-! ## The run -/

/-- At moment `n`, a reaper commits to the job. -/
def Reaps (j n : Nat) : Prop :=
  ∃ w, ρ.event n = .reapCommit w ∧ (ρ.state n).reaper w = .holding j

/-- At moment `n`, the job is stale. -/
def StaleAt (j n : Nat) : Prop :=
  ∃ row, (ρ.state n).rows[j]? = some row ∧ row.stale ((ρ.state n).clock - timeout) = true

/-- At moment `n`, no other transaction writes the job, and no heartbeat is about to. -/
structure Unattended (j n : Nat) : Prop where
  other : ∀ job, ρ.event n ≠ .other j job
  beat : ∀ t, (ρ.state n).lockedBy j ≠ some (.beat t)

/-- From moment `N` on, the reaper of `w`, which does not execute the job, keeps at work: its
transactions begin again and again, none is rolled back, and whoever has locked the job
commits. -/
structure Tended (w : WorkerId) (j N : Nat) : Prop where
  begins : ∀ n, ∃ k, n ≤ k ∧ ∃ excluded, ρ.event k = .reapBegin w excluded
  included : ∀ n, N ≤ n → ∀ excluded, ρ.event n = .reapBegin w excluded → j ∉ excluded
  completes : ∀ n, N ≤ n → ρ.event n ≠ .abort (.reaper w)
  commits : ∀ n, N ≤ n → ∀ w', (ρ.state n).reaper w' = .holding j → ∃ k, n ≤ k ∧ Reaps ρ j k
  time : ∀ t : Timestamp, ∃ n, N ≤ n ∧ t < (ρ.state n).clock

theorem lockInv_at (n : Nat) : LockInv timeout (ρ.state n) := (queueInv (ρ.reachable n)).1

theorem step_at (n : Nat) : QueueState.Step timeout (ρ.state n) (ρ.event n) (ρ.state (n + 1)) :=
  step_of_step (ρ.next n)

variable {ρ}

theorem clock_le {n k : Nat} (h : n ≤ k) : (ρ.state n).clock ≤ (ρ.state k).clock :=
  Machine.Trace.holds_from (P := fun k => (ρ.state n).clock ≤ (ρ.state k).clock) (le_refl _)
    (fun k _ hk => hk.trans (clock_of_step (step_at ρ k))) h

/-- A stale job that no reaper takes, from moment `N` on. -/
structure Abandoned (ρ : (queue timeout).Trace) (j N : Nat) (row : QueueRow) : Prop where
  rows : ∀ n, N ≤ n → (ρ.state n).rows[j]? = some row
  stale : ∀ n, N ≤ n → row.stale ((ρ.state n).clock - timeout) = true
  free : ∀ n, N ≤ n → (ρ.state n).lockedBy j = none

theorem abandoned {w : WorkerId} {j N : Nat} {row : QueueRow} (htended : Tended ρ w j N)
    (hunattended : ∀ n, N ≤ n → Unattended ρ j n) (hnone : ∀ n, N ≤ n → ¬Reaps ρ j n)
    (hrow : (ρ.state N).rows[j]? = some row)
    (hstale : row.stale ((ρ.state N).clock - timeout) = true) : Abandoned ρ j N row := by
  have hrunning : row.job.status = .running := by
    simp only [QueueRow.stale, Bool.and_eq_true, beq_iff_eq] at hstale
    exact hstale.1
  have hrows : ∀ n, N ≤ n → (ρ.state n).rows[j]? = some row := by
    intro n hn
    refine Machine.Trace.holds_from (P := fun n => (ρ.state n).rows[j]? = some row) hrow
      (fun n hn hrow => ?_) hn
    exact row_of_step (lockInv_at ρ n) (step_at ρ n) hrow hrunning (hunattended n hn).other
      (hunattended n hn).beat fun w' hevent hphase => hnone n hn ⟨w', hevent, hphase⟩
  refine ⟨hrows, fun n hn => ?_, fun n hn => ?_⟩
  · simp only [QueueRow.stale, Bool.and_eq_true, decide_eq_true_eq] at hstale ⊢
    exact ⟨hstale.1, Int.lt_of_lt_of_le hstale.2 (Int.sub_le_sub_right (clock_le hn) timeout)⟩
  · by_contra hlocked
    obtain ⟨holder, hholder⟩ := Option.ne_none_iff_exists'.mp hlocked
    have hheld := ((lockInv_at ρ n).locks j holder).mp hholder
    cases holder with
    -- a reaper that has locked it commits, which is excluded
    | reaper w' =>
      have hphase : (ρ.state n).reaper w' = .holding j := by
        cases hp : (ρ.state n).reaper w' <;>
          simp_all [QueueState.held, ReapPhase.held]
      obtain ⟨k, hk, hreaps⟩ := htended.commits n hn w' hphase
      exact hnone k (hn.trans hk) hreaps
    -- a claim locks queued rows only
    | claimer w' =>
      obtain ⟨row', hrow', hqueued⟩ := (lockInv_at ρ n).found _ j hheld
      rw [hrows n hn] at hrow'
      cases hrow'
      simp only [Found, hrunning] at hqueued
      cases hqueued
    | beat t => exact (hunattended n hn).beat t hholder

/-- The jobs ahead of the queue position `q`. -/
def aheadSet (s : QueueState) (q : Timestamp) : Finset Nat :=
  (Finset.range s.rows.length).filter fun k => s.ahead q k = true

theorem mem_aheadSet {s : QueueState} {q : Timestamp} {k : Nat} :
    k ∈ aheadSet s q ↔ s.ahead q k = true := by
  simp only [aheadSet, Finset.mem_filter, Finset.mem_range, and_iff_right_iff_imp]
  intro h
  obtain ⟨row, hrow, -⟩ := row_of_ahead h
  exact (List.getElem?_eq_some_iff.mp hrow).1

/-- Each transaction of the reaper leaves fewer jobs ahead. -/
theorem aheadSet_drops {w : WorkerId} {j N : Nat} {row : QueueRow} (htended : Tended ρ w j N)
    (habandoned : Abandoned ρ j N row) {M : Nat} (hM : N ≤ M)
    (hpast : row.job.queuedAt < (ρ.state M).clock) {n : Nat} (hn : M ≤ n) :
    ∃ k, n ≤ k ∧
      aheadSet (ρ.state k) row.job.queuedAt ⊂ aheadSet (ρ.state n) row.job.queuedAt := by
  have hclock : ∀ m, M ≤ m → row.job.queuedAt < (ρ.state m).clock :=
    fun m hm => Int.lt_of_lt_of_le hpast (clock_le hm)
  have hanti : ∀ m, M ≤ m → ∀ i, m ≤ i → ∀ k, (ρ.state i).ahead row.job.queuedAt k = true →
      (ρ.state m).ahead row.job.queuedAt k = true := by
    intro m hm i hi
    refine Machine.Trace.holds_from (P := fun i => ∀ k,
      (ρ.state i).ahead row.job.queuedAt k = true →
        (ρ.state m).ahead row.job.queuedAt k = true) (fun k hk => hk) (fun i hi ih k hk => ?_) hi
    exact ih k (ahead_of_step (lockInv_at ρ i) (step_at ρ i) (hclock i (hm.trans hi)) hk)
  -- a transaction that begins, and the next one
  obtain ⟨b, hnb, excluded, hbegin⟩ := htended.begins n
  obtain ⟨b', hbb', excluded', hbegin'⟩ := htended.begins (b + 1)
  have hMb : M ≤ b := hn.trans hnb
  have hb : N ≤ b := hM.trans hMb
  by_contra hnever
  have hmissing : ∀ m, b ≤ m → ∀ k, (ρ.state b).ahead row.job.queuedAt k = true →
      (ρ.state m).ahead row.job.queuedAt k ≠ false := by
    intro m hm k hk hgone
    refine hnever ⟨m, hnb.trans hm, ?_⟩
    refine Finset.ssubset_iff_of_subset (fun i hi => ?_) |>.mpr ⟨k, ?_, ?_⟩
    · exact mem_aheadSet.mpr (hanti n hn m (hnb.trans hm) i (mem_aheadSet.mp hi))
    · exact mem_aheadSet.mpr (hanti n hn b hnb k hk)
    · rw [mem_aheadSet, hgone]
      exact Bool.false_ne_true
  have hway : ∀ m, b + 1 ≤ m → OnItsWay (ρ.state b) j row ((ρ.state m).reaper w) := by
    intro m hm
    refine Machine.Trace.holds_from
      (P := fun m => OnItsWay (ρ.state b) j row ((ρ.state m).reaper w))
      ?_ (fun m hm ih => ?_) hm
    · have hstep := step_at ρ b
      rw [hbegin] at hstep
      generalize ρ.state (b + 1) = s' at hstep
      cases hstep with
      | reapBegan hidle =>
        rw [reaper_setReaper, if_pos rfl]
        exact ⟨habandoned.stale b hb, htended.included b hb excluded hbegin⟩
    · have hbm : b ≤ m := (Nat.le_succ b).trans hm
      have hNm : N ≤ m := hb.trans hbm
      rcases onItsWay_step (step_at ρ m) (habandoned.rows m hNm) (habandoned.free m hNm)
          (habandoned.free (m + 1) (hNm.trans (Nat.le_succ m))) (hanti b hMb m hbm)
          (htended.completes m hNm) ih with hgoes | ⟨k, hahead, hgone⟩
      · exact hgoes
      · exact absurd hgone (hmissing (m + 1) (hbm.trans (Nat.le_succ m)) k hahead)
  -- but the next transaction begins when this one has ended
  have hidle := hway b' hbb'
  have hstep := step_at ρ b'
  rw [hbegin'] at hstep
  generalize ρ.state (b' + 1) = s' at hstep
  cases hstep with
  | reapBegan hphase =>
    rw [hphase] at hidle
    exact hidle

/-- **Every job that has gone stale, and that nobody else looks after, is reaped.** -/
theorem reaps_of_stale {w : WorkerId} {j N : Nat} (hstale : StaleAt ρ j N)
    (htended : Tended ρ w j N)
    (hunattended : ∀ n, N ≤ n → (∀ k, N ≤ k → k < n → ¬Reaps ρ j k) → Unattended ρ j n) :
    ∃ n, N ≤ n ∧ Reaps ρ j n := by
  by_contra hnever
  have hnone : ∀ n, N ≤ n → ¬Reaps ρ j n := fun n hn hreaps => hnever ⟨n, hn, hreaps⟩
  obtain ⟨row, hrow, hold⟩ := hstale
  have habandoned := abandoned htended
    (fun n hn => hunattended n hn fun k hk _ => hnone k hk) hnone hrow hold
  obtain ⟨M, hM, hpast⟩ := htended.time row.job.queuedAt
  exact no_endless_descent (C := fun n => aheadSet (ρ.state n) row.job.queuedAt)
    fun n hn => aheadSet_drops htended habandoned hM hpast hn

/-- **The reaper is safe and live.** It commits to stale jobs only, and to each at most once
until the job is claimed again, with one audit entry and one notification of the requester;
and it does so to every job that has gone stale and that nobody else looks after. -/
theorem reaper_correct (timeout : Int) :
    (∀ s s' w, (queue timeout).Reachable s → (queue timeout).step s (.reapCommit w) = some s' →
      ∃ j row row' i, s.reaper w = .holding j ∧ s.rows[j]? = some row ∧
        row.stale (s.clock - timeout) = true ∧ s'.rows[j]? = some row' ∧
        row'.job.status = .interrupted ∧ row'.reaped = [i] ∧ i.RecordedOnce) ∧
    (∀ s, (queue timeout).Reachable s → ∀ row ∈ s.rows, row.reaped.length ≤ 1) ∧
    ∀ (ρ : (queue timeout).Trace) (w : WorkerId) (j N : Nat), StaleAt ρ j N → Tended ρ w j N →
      (∀ n, N ≤ n → (∀ k, N ≤ k → k < n → ¬Reaps ρ j k) → Unattended ρ j n) →
      ∃ n, N ≤ n ∧ Reaps ρ j n := by
  refine ⟨fun s s' w hs hstep => ?_, fun s hs row hrow => ?_, fun ρ w j N => reaps_of_stale⟩
  · obtain ⟨hlocks, hhistory⟩ := queueInv hs
    obtain ⟨j, row, hphase, hrow, hstale, hrow'⟩ := reapCommit_spec hlocks (step_of_step hstep)
    have hrunning : row.job.status = .running := by
      simp only [QueueRow.stale, Bool.and_eq_true, beq_iff_eq] at hstale
      exact hstale.1
    have honce := (hhistory j row hrow).interrupted hrunning s.clock
    have hreaped : row.reaped = [] := (hhistory j row hrow).running hrunning
    refine ⟨j, row, row.interrupted s.clock, _, hphase, hrow, hstale, hrow', rfl, ?_,
      honce.recorded _ List.mem_cons_self⟩
    simp only [QueueRow.interrupted, hreaped]
  · obtain ⟨k, hk⟩ := List.mem_iff_getElem?.mp hrow
    exact ((queueInv hs).2 k row hk).once

/-! ## Replays -/

def queuedJob : ProvisioningJob where
  id := "j1"
  vmName := "web01"
  queuedAt := 0

def queuedTable : QueueState where
  clock := 0
  rows := [{ job := queuedJob, updatedAt := 0 }]

theorem queuedTable_fresh : queuedTable.Fresh where
  reaped := by decide
  lockedBy _ := rfl
  reaper _ := rfl
  claimer _ := rfl
  beat _ := rfl

def claimsAs (w : WorkerId) : List QueueAction := [.claimBegin w 1, .claimLock w 0, .claimCommit w]

/-- Worker 1 claims the job and does not come back for 121 seconds. -/
def goesStale : List QueueAction := claimsAs 1 ++ [.tick 121]

/-- Its next heartbeat comes before any reaper; the job fails, is retried and claimed again. -/
def comesBack : List QueueAction :=
  [.beatBegin 0 1 0, .beatUpdate 0, .beatCommit 0,
    .other 0 { queuedJob with status := .failed, workerId := some 1 },
    .other 0 { queuedJob with queuedAt := 121 }] ++ claimsAs 2

def QueueAction.isReapCommit : QueueAction → Bool
  | .reapCommit _ => true
  | _ => false

/-- A stale job that no reaper interrupts before it is claimed again. -/
theorem stale_job_not_reaped : ∃ s s', (queue 120).Reachable s ∧
    (s.rows[0]?.any (·.stale (s.clock - 120))) = true ∧
    (queue 120).run s comesBack = some s' ∧ comesBack.any QueueAction.isReapCommit = false ∧
    (s'.rows[0]?.any fun row => row.job.workerId == some 2 && row.reaped.isEmpty) = true := by
  obtain ⟨s, hs, hp⟩ := Machine.exists_reachable_of_run (m := queue 120) queuedTable_fresh
    (t := goesStale) (p := fun s => s.rows[0]?.any (·.stale (s.clock - 120)) &&
      ((queue 120).run s comesBack).any fun s' =>
        s'.rows[0]?.any fun row => row.job.workerId == some 2 && row.reaped.isEmpty)
    (by decide +kernel)
  obtain ⟨hstale, hreplay⟩ := (Bool.and_eq_true _ _).mp hp
  obtain ⟨s', hrun, hend⟩ := (Option.any_eq_true _ _).mp hreplay
  exact ⟨s, s', hs, hstale, hrun, by decide, hend⟩

/-- The reaper of worker 2 takes the stale job, and goes on looking for more. -/
def reapForever (n : Nat) : QueueAction :=
  match n % 4 with
  | 0 => .reapBegin 2 []
  | 1 => if n = 1 then .reapRead 2 [0] else .reapRead 2 []
  | 2 => .reapNext 2
  | _ => if n = 3 then .reapCommit 2 else .tick 1

def staleTable : QueueState := ((queue 120).run queuedTable goesStale).getD queuedTable

def reaping (n : Nat) : QueueState :=
  Nat.rec staleTable (fun n s => ((queue 120).step s (reapForever n)).getD s) n

/-- From moment 4 on there is nothing to take. -/
structure Quiet (n : Nat) (s : QueueState) : Prop where
  clock : s.clock = 120 + (n / 4 : Nat)
  free : s.lockedBy 0 = none
  rows : ∀ row ∈ s.rows, row.job.status ≠ .running
  reaper : s.reaper 2 =
    match n % 4 with
    | 1 => .began (s.clock - 120) []
    | 2 => .scanning (s.clock - 120) [] []
    | _ => .idle

theorem reads_nil {s : QueueState} (h : ∀ row ∈ s.rows, row.job.status ≠ .running)
    (staleBefore : Timestamp) : s.reads staleBefore [] [] = true := by
  simp only [reads, Bool.and_eq_true, List.all_eq_true, beq_iff_eq]
  refine ⟨⟨fun j hj => ?_, fun j hj => by cases hj⟩, decide_eq_true List.Pairwise.nil⟩
  rw [List.contains_nil, Bool.eq_false_iff]
  intro hreapable
  simp only [reapable, Bool.and_eq_true, Option.any_eq_true] at hreapable
  obtain ⟨⟨row, hrow, hstale⟩, -⟩ := hreapable
  simp only [QueueRow.stale, Bool.and_eq_true, beq_iff_eq] at hstale
  exact h row (List.mem_of_getElem? hrow) hstale.1

theorem quiet_step {n : Nat} {s : QueueState} (hn : 4 ≤ n) (h : Quiet n s) :
    ∃ s', (queue 120).step s (reapForever n) = some s' ∧ Quiet (n + 1) s' := by
  have hreaper := h.reaper
  have hclock := h.clock
  have hround : n % 4 = 0 ∨ n % 4 = 1 ∨ n % 4 = 2 ∨ n % 4 = 3 := by omega
  rcases hround with hr | hr | hr | hr
  · have hnext : (n + 1) % 4 = 1 := by omega
    have hsame : (n + 1) / 4 = n / 4 := by omega
    rw [hr] at hreaper
    refine ⟨s.setReaper 2 (.began (s.clock - 120) []), ?_, ?_, h.free, h.rows, ?_⟩
    · show s.step 120 (reapForever n) = _
      simp [reapForever, hr, QueueState.step, QueueState.reapBegin, hreaper]
    · rw [hsame]
      exact hclock
    · simp [hnext, setReaper]
  · have hnext : (n + 1) % 4 = 2 := by omega
    have hsame : (n + 1) / 4 = n / 4 := by omega
    have hne : n ≠ 1 := by omega
    rw [hr] at hreaper
    refine ⟨s.setReaper 2 (.scanning (s.clock - 120) [] []), ?_, ?_, h.free, h.rows, ?_⟩
    · show s.step 120 (reapForever n) = _
      simp [reapForever, hr, hne, QueueState.step, QueueState.reapRead, hreaper,
        reads_nil h.rows]
    · rw [hsame]
      exact hclock
    · simp [hnext, setReaper]
  · have hnext : (n + 1) % 4 = 3 := by omega
    have hsame : (n + 1) / 4 = n / 4 := by omega
    rw [hr] at hreaper
    refine ⟨s.setReaper 2 .idle, ?_, ?_, h.free, h.rows, ?_⟩
    · show s.step 120 (reapForever n) = _
      simp [reapForever, hr, QueueState.step, QueueState.reapNext, hreaper]
    · rw [hsame]
      exact hclock
    · simp [hnext, setReaper]
  · have hnext : (n + 1) % 4 = 0 := by omega
    have hlater : (n + 1) / 4 = n / 4 + 1 := by omega
    have hne : n ≠ 3 := by omega
    rw [hr] at hreaper
    refine ⟨{ s with clock := s.clock + 1 }, ?_, ?_, h.free, h.rows, ?_⟩
    · show s.step 120 (reapForever n) = _
      simp [reapForever, hr, hne, QueueState.step]
    · show s.clock + 1 = _
      rw [hlater, hclock]
      exact Int.add_assoc 120 _ 1
    · rw [hnext]
      exact hreaper

theorem quiet_reaping {n : Nat} (hn : 4 ≤ n) : Quiet n (reaping n) := by
  induction n, hn using Nat.le_induction with
  | base =>
    refine ⟨by decide +kernel, by decide +kernel, ?_, by decide +kernel⟩
    have hall : ((reaping 4).rows.all fun row => row.job.status != .running) = true := by
      decide +kernel
    intro row hrow
    simpa using List.all_eq_true.mp hall row hrow
  | succ n hn ih =>
    obtain ⟨s', hstep, hquiet⟩ := quiet_step hn ih
    have hnext : reaping (n + 1) =
        ((queue 120).step (reaping n) (reapForever n)).getD (reaping n) := rfl
    rw [hnext, hstep]
    exact hquiet

def reapingTrace : (queue 120).Trace where
  state := reaping
  event := reapForever
  start := by
    have hrun : ((queue 120).run queuedTable goesStale).isSome = true := by decide +kernel
    obtain ⟨s, hs⟩ := Option.isSome_iff_exists.mp hrun
    show (queue 120).Reachable staleTable
    rw [staleTable, hs]
    exact Machine.reachable_of_run queuedTable_fresh hs
  next n := by
    have henabled : ((queue 120).step (reaping n) (reapForever n)).isSome = true := by
      rcases lt_or_ge n 4 with hn | hn
      · have hfirst : ∀ n < 4, ((queue 120).step (reaping n) (reapForever n)).isSome = true := by
          decide +kernel
        exact hfirst n hn
      · obtain ⟨s', hstep, -⟩ := quiet_step hn (quiet_reaping hn)
        rw [hstep]
        rfl
    obtain ⟨s', hs'⟩ := Option.isSome_iff_exists.mp henabled
    have hnext : reaping (n + 1) =
        ((queue 120).step (reaping n) (reapForever n)).getD (reaping n) := rfl
    rw [hnext, hs']
    rfl

theorem reapForever_spec (n : Nat) :
    reapForever n = .reapBegin 2 [] ∨ (∃ order, reapForever n = .reapRead 2 order) ∨
      reapForever n = .reapNext 2 ∨ reapForever n = .reapCommit 2 ∨ reapForever n = .tick 1 := by
  unfold reapForever
  split
  · exact .inl rfl
  · split
    · exact .inr (.inl ⟨[0], rfl⟩)
    · exact .inr (.inl ⟨[], rfl⟩)
  · exact .inr (.inr (.inl rfl))
  · split
    · exact .inr (.inr (.inr (.inl rfl)))
    · exact .inr (.inr (.inr (.inr rfl)))

theorem reapingTrace_tended : Tended reapingTrace 2 0 0 where
  begins n := ⟨4 * n, by omega, [], by simp [reapingTrace, reapForever]⟩
  included n _ excluded hevent := by
    have hevent : reapForever n = .reapBegin 2 excluded := hevent
    rcases reapForever_spec n with h | ⟨order, h⟩ | h | h | h <;> rw [h] at hevent <;> cases hevent
    exact List.not_mem_nil
  completes n _ hevent := by
    have hevent : reapForever n = .abort (.reaper 2) := hevent
    rcases reapForever_spec n with h | ⟨order, h⟩ | h | h | h <;> rw [h] at hevent <;> cases hevent
  commits n _ w' hphase := by
    rcases lt_or_ge n 4 with hn | hn
    · exact ⟨3, by omega, 2, rfl, by decide +kernel⟩
    · have hlocked := ((lockInv_at reapingTrace n).locks 0 (.reaper w')).mpr
        (by simp [QueueState.held, hphase, ReapPhase.held])
      exact absurd (hlocked.symm.trans (quiet_reaping hn).free) (Option.some_ne_none _)
  time t := by
    refine ⟨4 * (t.toNat + 1), Nat.zero_le _, ?_⟩
    have hclock := (quiet_reaping (n := 4 * (t.toNat + 1)) (by omega)).clock
    show t < (reaping (4 * (t.toNat + 1))).clock
    rw [hclock, Nat.mul_div_cancel_left _ (by decide)]
    have hlt : (t.toNat : Int) < 120 + ((t.toNat + 1 : Nat) : Int) := by omega
    exact Int.lt_of_le_of_lt (Int.self_le_toNat t) hlt

/-- The reaper of worker 2 finds the job of worker 1 stale, and interrupts it. -/
theorem reaper_correct_reaping : ∃ n, Reaps reapingTrace 0 n := by
  have hstale : StaleAt reapingTrace 0 0 := by
    have hrow : ((reaping 0).rows[0]?.any (·.stale ((reaping 0).clock - 120))) = true := by
      decide +kernel
    exact (Option.any_eq_true _ _).mp hrow
  obtain ⟨n, -, hreaps⟩ := (reaper_correct 120).2.2 reapingTrace 2 0 0 hstale reapingTrace_tended
    fun n _ _ => by
      refine ⟨fun job hevent => ?_, fun t hlocked => ?_⟩
      · have hevent : reapForever n = .other 0 job := hevent
        rcases reapForever_spec n with h | ⟨order, h⟩ | h | h | h <;> rw [h] at hevent <;>
          cases hevent
      · rcases lt_or_ge n 4 with hn | hn
        · have hfirst : ∀ n < 4, ((reaping n).lockedBy 0).all (· == .reaper 2) = true := by
            decide +kernel
          have hall := hfirst n hn
          rw [show (reaping n).lockedBy 0 = some (.beat t) from hlocked] at hall
          cases hall
        · exact absurd (hlocked.symm.trans (quiet_reaping hn).free) (Option.some_ne_none _)
  exact ⟨n, hreaps⟩

end InfraOps
