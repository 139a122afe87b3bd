import InfraOps.Queue.Locks
import InfraOps.Support.Trace

/-!
# Reaping

A reaper interrupts a job that is stale, once until the job is claimed again, and with one
audit entry. The jobs of the queue before a given one get fewer: nobody gets ahead of it any
more, and every reaper that commits takes one out.
-/

namespace InfraOps

/-! ## What an interruption records -/

namespace Record

def isInterruption : Record → Bool
  | .audit entry => entry.action == .jobInterrupted
  | _ => false

def isNotification : Record → Bool
  | .notification .. => true
  | _ => false

end Record

/-- One audit entry, and one notification if there is a requester. -/
structure Interruption.RecordedOnce (i : Interruption) : Prop where
  audit : i.records.countP Record.isInterruption = 1
  notification : i.records.countP Record.isNotification =
    if i.job.requestedByUserId.isSome then 1 else 0

theorem countP_requester (job : ProvisioningJob) (kind : NotificationKind)
    (text : String × String) :
    (notifyRequester job kind text).countP Record.isInterruption = 0 ∧
      (notifyRequester job kind text).countP Record.isNotification =
        if job.requestedByUserId.isSome then 1 else 0 := by
  unfold notifyRequester
  cases job.requestedByUserId <;> exact ⟨rfl, rfl⟩

theorem recordedOnce_interrupt (reason : String) (clock : Timestamp) (d : Deployment)
    (hempty : d.records = []) :
    Interruption.RecordedOnce ⟨d.job, (interrupt reason clock d).records⟩ := by
  obtain ⟨haudit, hnotification⟩ :=
    countP_requester (interrupt reason clock d).job .jobFailed
      (interruptedMessage (interrupt reason clock d).job reason)
  have hrequester :
      (interrupt reason clock d).job.requestedByUserId = d.job.requestedByUserId := rfl
  have hrecords : (interrupt reason clock d).records =
      .jobsTotal JobStatus.interrupted.value ::
        notifyRequester (interrupt reason clock d).job .jobFailed
          (interruptedMessage (interrupt reason clock d).job reason) ++
        [.audit {
          action := .jobInterrupted
          resourceName := d.job.vmName
          result := "interrupted"
          detailText := some reason }] := by
    rw [interrupt, hempty]
    rfl
  refine ⟨?_, ?_⟩
  · rw [hrecords, List.countP_append, List.countP_cons, haudit]
    rfl
  · rw [hrecords, List.countP_append, List.countP_cons, hnotification, hrequester]
    rfl

/-! ## Once until the next claim -/

structure QueueRow.Once (row : QueueRow) : Prop where
  running : row.job.status = .running → row.reaped = []
  once : row.reaped.length ≤ 1
  recorded : ∀ i ∈ row.reaped, i.RecordedOnce

namespace QueueRow.Once

theorem of_nil {row : QueueRow} (h : row.reaped = []) : row.Once :=
  ⟨fun _ => h, by simp [h], by simp [h]⟩

theorem interrupted {row : QueueRow} (h : row.Once) (hrunning : row.job.status = .running)
    (clock : Timestamp) : (row.interrupted clock).Once := by
  have hreaped := h.running hrunning
  refine ⟨fun hstatus => ?_, ?_, fun i hi => ?_⟩
  · cases hstatus
  · simp [QueueRow.interrupted, hreaped]
  · simp only [QueueRow.interrupted, hreaped, List.mem_singleton] at hi
    rw [hi]
    exact recordedOnce_interrupt _ clock ⟨row.job, { activeName := "" }, []⟩ rfl

end QueueRow.Once

namespace QueueState

variable {timeout : Int} {s s' : QueueState}

/-- A write of another transaction keeps a running job as it is. -/
theorem running_of_admissible {clock : Timestamp} {old new : ProvisioningJob}
    (h : admissible clock old new = true) (hnew : new.status = .running) :
    old.status = .running := by
  unfold admissible at h
  split at h
  · rename_i hsame
    rw [← hnew]
    exact (eq_of_beq hsame).symm
  · simp [hnew] at h

def HistoryInv (s : QueueState) : Prop :=
  ∀ (k : Nat) (row : QueueRow), s.rows[k]? = some row → row.Once

theorem HistoryInv.modify (hs : HistoryInv s) {j : Nat} {f : QueueRow → QueueRow}
    (hf : ∀ row, s.rows[j]? = some row → (f row).Once) : HistoryInv (s.modify j f) := by
  intro k row hrow
  rw [getElem?_modify] at hrow
  split at hrow
  · rename_i hk
    subst hk
    obtain ⟨old, hold, rfl⟩ := Option.map_eq_some_iff.mp hrow
    exact hf old hold
  · exact hs k row hrow

theorem HistoryInv.step {e : QueueAction} (hs : HistoryInv s) (hl : LockInv timeout s)
    (h : Step timeout s e s') : HistoryInv s' := by
  cases h with
  | submitted hqueued hclock =>
    intro k row hrow
    rcases List.mem_append.mp (List.mem_of_getElem? hrow) with hmem | hmem
    · obtain ⟨k, hk⟩ := List.mem_iff_getElem?.mp hmem
      exact hs k row hk
    · rw [List.mem_singleton.mp hmem]
      exact .of_nil rfl
  | @wrote j row job hrow hfree hadmissible =>
    refine hs.modify fun old hold => ?_
    rw [hrow] at hold
    cases hold
    have honce := hs j row hrow
    exact ⟨fun hrunning => honce.running (running_of_admissible hadmissible hrunning), honce.once,
      honce.recorded⟩
  | @claimed w slots now held hphase =>
    intro k row hrow
    have hrow := (getElem?_claimRows s k w now held).symm.trans hrow
    obtain ⟨old, hold, rfl⟩ := Option.map_eq_some_iff.mp hrow
    split
    · exact .of_nil rfl
    · exact hs k old hold
  | @beaten t j now hphase =>
    refine HistoryInv.modify hs fun old hold => ?_
    have honce := hs j old hold
    exact ⟨honce.running, honce.once, honce.recorded⟩
  | @reaped w j hphase =>
    refine HistoryInv.modify hs fun old hold => ?_
    obtain ⟨row, hrow, hfound⟩ := hl.found (.reaper w) j (by simp [held, hphase, ReapPhase.held])
    rw [hrow] at hold
    cases hold
    simp only [Found, QueueRow.stale, Bool.and_eq_true, beq_iff_eq] at hfound
    exact (hs j _ hrow).interrupted hfound.1 s.clock
  | aborted holder => cases holder <;> exact hs
  | _ => exact hs

theorem HistoryInv.init (h : s.Fresh) : HistoryInv s :=
  fun _ row hrow => .of_nil (h.reaped row (List.mem_of_getElem? hrow))

theorem queueInv (hs : (queue timeout).Reachable s) : LockInv timeout s ∧ HistoryInv s :=
  hs.invariant (I := fun s => LockInv timeout s ∧ HistoryInv s)
    (fun _ h0 => ⟨.init h0, .init h0⟩) fun _ _ _ _ hi _ hstep =>
    ⟨hi.1.step (step_of_step hstep), hi.2.step hi.1 (step_of_step hstep)⟩

/-- A reaper commits to a job that is stale, and whose row it leaves `INTERRUPTED`. -/
theorem reapCommit_spec {w : WorkerId} (hs : LockInv timeout s)
    (h : Step timeout s (.reapCommit w) s') :
    ∃ j row, s.reaper w = .holding j ∧ s.rows[j]? = some row ∧
      row.stale (s.clock - timeout) = true ∧ s'.rows[j]? = some (row.interrupted s.clock) := by
  cases h with
  | @reaped w j hphase =>
    obtain ⟨row, hrow, hfound⟩ := hs.found (.reaper w) j (by simp [held, hphase, ReapPhase.held])
    refine ⟨j, row, hphase, hrow, hfound, ?_⟩
    refine (getElem?_modify s j j _).trans ?_
    rw [if_pos rfl, hrow]
    rfl

/-! ## The jobs before a given one -/

/-- The job waits or runs, and has not been queued after `q`. -/
def ahead (s : QueueState) (q : Timestamp) (k : Nat) : Bool :=
  s.rows[k]?.any fun row =>
    (row.job.status == .queued || row.job.status == .running) && decide (row.job.queuedAt ≤ q)

theorem ahead_of_row {q : Timestamp} {k : Nat} {row : QueueRow} (hrow : s.rows[k]? = some row)
    (hstatus : row.job.status = .queued ∨ row.job.status = .running)
    (hqueued : row.job.queuedAt ≤ q) : s.ahead q k = true := by
  simp only [ahead, hrow, Option.any_some, Bool.and_eq_true, Bool.or_eq_true, beq_iff_eq,
    decide_eq_true_eq]
  exact ⟨hstatus, hqueued⟩

theorem row_of_ahead {q : Timestamp} {k : Nat} (h : s.ahead q k = true) :
    ∃ row, s.rows[k]? = some row ∧
      (row.job.status = .queued ∨ row.job.status = .running) ∧ row.job.queuedAt ≤ q := by
  simp only [ahead, Option.any_eq_true, Bool.and_eq_true, Bool.or_eq_true, beq_iff_eq,
    decide_eq_true_eq] at h
  exact h

/-- **Once its time has passed, nobody gets ahead of a job any more.** -/
theorem ahead_of_step {e : QueueAction} {q : Timestamp} {k : Nat} (hl : LockInv timeout s)
    (h : Step timeout s e s') (hq : q < s.clock) (hk : s'.ahead q k = true) :
    s.ahead q k = true := by
  obtain ⟨row, hrow, hstatus, hqueued⟩ := row_of_ahead hk
  cases h with
  | @submitted job hnew hclock =>
    rcases lt_or_ge k s.rows.length with hlt | hge
    · have hold := (List.getElem?_append_left hlt).symm.trans hrow
      exact ahead_of_row hold hstatus hqueued
    · have hmem := (List.getElem?_append_right hge).symm.trans hrow
      rw [List.mem_singleton.mp (List.mem_of_getElem? hmem), hclock] at hqueued
      exact absurd hqueued (Int.not_le.mpr hq)
  | @wrote j old job hold hfree hadmissible =>
    rw [getElem?_modify] at hrow
    split at hrow
    · rename_i hjk
      subst hjk
      rw [hold] at hrow
      cases hrow
      unfold admissible at hadmissible
      split at hadmissible
      · rename_i hsame
        simp only [Bool.and_eq_true, beq_iff_eq] at hsame hadmissible
        refine ahead_of_row hold ?_ ?_
        · rw [← hsame]
          exact hstatus
        · rw [← hadmissible.2]
          exact hqueued
      · simp only [Bool.and_eq_true, bne_iff_ne, Bool.or_eq_true, beq_iff_eq] at hadmissible
        obtain ⟨⟨hrunning, -⟩, hlast⟩ := hadmissible
        rcases hstatus with hnew | hnew
        · rcases hlast with hlast | hlast
          · exact absurd hnew hlast
          · exact absurd (hlast ▸ hqueued) (Int.not_le.mpr hq)
        · exact absurd hnew hrunning
    · exact ahead_of_row hrow hstatus hqueued
  | @claimed w slots now js hphase =>
    have hrow := (getElem?_claimRows s k w now js).symm.trans hrow
    obtain ⟨old, hold, rfl⟩ := Option.map_eq_some_iff.mp hrow
    split at hqueued
    · rename_i hk
      obtain ⟨row, hfound, hdue⟩ :=
        hl.found (.claimer w) k (by simpa [held, hphase, ClaimPhase.held] using hk)
      rw [hold] at hfound
      cases hfound
      exact ahead_of_row hold (.inl hdue) hqueued
    · rename_i hk
      rw [if_neg hk] at hstatus
      exact ahead_of_row hold hstatus hqueued
  | @beaten t j now hphase =>
    have hrow := (getElem?_modify s j k _).symm.trans hrow
    split at hrow
    · obtain ⟨old, hold, rfl⟩ := Option.map_eq_some_iff.mp hrow
      exact ahead_of_row hold hstatus hqueued
    · exact ahead_of_row hrow hstatus hqueued
  | @reaped w j hphase =>
    have hrow := (getElem?_modify s j k _).symm.trans hrow
    split at hrow
    · obtain ⟨old, hold, rfl⟩ := Option.map_eq_some_iff.mp hrow
      rcases hstatus with hstatus | hstatus <;> cases hstatus
    · exact ahead_of_row hrow hstatus hqueued
  | aborted holder => cases holder <;> exact hk
  | _ => exact hk

/-- A reaper that commits takes its job out of the queue. -/
theorem not_ahead_of_reaped {w : WorkerId} {q : Timestamp} {k : Nat}
    (h : Step timeout s (.reapCommit w) s') (hphase : s.reaper w = .holding k) :
    s'.ahead q k = false := by
  cases h with
  | @reaped w j hj =>
    rw [hphase] at hj
    cases hj
    by_contra hahead
    obtain ⟨row, hrow, hstatus, -⟩ := row_of_ahead (by simpa using hahead)
    have hrow := (getElem?_modify s k k _).symm.trans hrow
    rw [if_pos rfl] at hrow
    obtain ⟨old, -, rfl⟩ := Option.map_eq_some_iff.mp hrow
    rcases hstatus with hstatus | hstatus <;> cases hstatus

end QueueState

end InfraOps
