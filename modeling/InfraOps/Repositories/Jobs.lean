import InfraOps.Models.Jobs

/-!
# The job repository

The queue operations and the retry and cancel bookkeeping of `JobRepository`, on one job
row. `progress` is left out (no decision reads it).
-/

namespace InfraOps
namespace JobRepository

/-! ## Queue operations -/

/-- The `WHERE` clause of `claim_due_jobs`. -/
def due (job : ProvisioningJob) (now : Timestamp) : Bool :=
  job.status == .queued && decide (job.queuedAt ≤ now)

/-- What `claim_due_jobs` writes to a row it has locked. -/
def claim (job : ProvisioningJob) (worker : WorkerId) (now : Timestamp) : ProvisioningJob :=
  { job with
    status := .running
    workerId := some worker
    heartbeatAt := some now
    startedAt := job.startedAt.or (some now) }

/-- `ensure_steps`: the missing rows are created, `PENDING`. -/
def ensureSteps (job : ProvisioningJob) : ProvisioningJob :=
  { job with steps := fun k => (job.steps k).or (some { retryable := k.retryable }) }

/-! ## Retry -/

/-- The statuses `reset_for_retry` resets. `RUNNING` is resumable only when the worker
executing the stage is known to be gone. -/
def resettable (jobStatus : JobStatus) : StepStatus → Bool
  | .failed | .cancelled => true
  | .running => jobStatus == .interrupted
  | _ => false

/-- The row of `k` is one that `reset_for_retry` resets. -/
def resets (job : ProvisioningJob) (stageKeys : Option (List Stage)) (k : Stage) : Bool :=
  ((job.steps k).any fun step => resettable job.status step.status) &&
    (stageKeys.all fun keys => keys.contains k)

/-- `reset_for_retry`: the job it commits, and the stages it reset, in order. -/
def resetForRetry (job : ProvisioningJob) (stageKeys : Option (List Stage)) (now : Timestamp) :
    ProvisioningJob × List Stage :=
  let reset := orderedStages.filter fun k => resets job stageKeys k
  if reset.isEmpty then (job, reset)
  else
    ({ job with
        steps := fun k => (job.steps k).map fun step =>
          if resets job stageKeys k then { step with status := .pending } else step
        status := .queued
        cancelRequested := false
        workerId := none
        heartbeatAt := none
        errorSummary := none
        errorDetail := none
        finishedAt := none
        queuedAt := now },
      reset)

/-! ## Cancellation -/

/-- Temporary answer media may still be attached to the VM. -/
def mayHoldUnattendedMedia (job : ProvisioningJob) : Bool :=
  let artifacts := job.stepArtifacts .prepareUnattendedInstall
  artifacts.has .datastorePath && !artifacts.has .mediaRemoved &&
    job.stepStatus .cleanupUnattendedMedia != some .succeeded

/-- `CANCELLED` replaces `PENDING` and `RUNNING`. -/
def cancelStep (step : Step) : Step :=
  match step.status with
  | .pending | .running => { step with status := .cancelled }
  | _ => step

/-- `request_cancel`: no worker executes a `QUEUED` or `INTERRUPTED` job, so these are
finalised at once; otherwise the flag is left for the worker. -/
def requestCancel (job : ProvisioningJob) (now : Timestamp) : ProvisioningJob :=
  let job := { job with cancelRequested := true }
  match job.status with
  | .queued | .interrupted =>
    { job.mapSteps cancelStep with status := .cancelled, finishedAt := some now }
  | _ => job

/-! ## Step statuses after each operation -/

@[simp] theorem claim_steps (job : ProvisioningJob) (worker : WorkerId) (now : Timestamp) :
    (claim job worker now).steps = job.steps := rfl

@[simp] theorem claim_status (job : ProvisioningJob) (worker : WorkerId) (now : Timestamp) :
    (claim job worker now).status = .running := rfl

@[simp] theorem ensureSteps_status (job : ProvisioningJob) :
    (ensureSteps job).status = job.status := rfl

theorem ensureSteps_steps (job : ProvisioningJob) (k : Stage) :
    (ensureSteps job).steps k = (job.steps k).or (some { retryable := k.retryable }) := rfl

theorem ensureSteps_hasRows (job : ProvisioningJob) : (ensureSteps job).HasRows := by
  intro k
  rw [ensureSteps_steps]
  cases job.steps k <;> rfl

theorem ensureSteps_stepStatus (job : ProvisioningJob) (k : Stage) :
    (ensureSteps job).stepStatus k = some ((job.stepStatus k).getD .pending) := by
  simp only [ProvisioningJob.stepStatus, ensureSteps_steps]
  cases job.steps k <;> rfl

@[simp] theorem ensureSteps_stepArtifacts (job : ProvisioningJob) (k : Stage) :
    (ensureSteps job).stepArtifacts k = job.stepArtifacts k := by
  simp only [ProvisioningJob.stepArtifacts, ensureSteps_steps]
  cases job.steps k <;> rfl

theorem cancelStep_status (step : Step) :
    (cancelStep step).status =
      match step.status with
      | .pending | .running => .cancelled
      | st => st := by
  unfold cancelStep
  cases h : step.status <;> simp [h]

@[simp] theorem cancelStep_artifacts (step : Step) :
    (cancelStep step).artifacts = step.artifacts := by
  unfold cancelStep
  split <;> rfl

@[simp] theorem cancelStep_done (step : Step) :
    (cancelStep step).status.done = step.status.done := by
  rw [cancelStep_status]
  cases step.status <;> rfl

/-- A retry that resets nothing changes nothing. -/
theorem resetForRetry_of_empty {job : ProvisioningJob} {stageKeys : Option (List Stage)}
    {now : Timestamp} (h : (resetForRetry job stageKeys now).2 = []) :
    (resetForRetry job stageKeys now).1 = job := by
  unfold resetForRetry at h ⊢
  dsimp only at h ⊢
  split
  · rfl
  · rename_i hne
    rw [if_neg hne] at h
    exact absurd (List.isEmpty_iff.mpr h) hne

/-- **What a retry that resets something commits.** -/
theorem resetForRetry_of_ne {job : ProvisioningJob} {stageKeys : Option (List Stage)}
    {now : Timestamp} (h : (resetForRetry job stageKeys now).2 ≠ []) :
    let job' := (resetForRetry job stageKeys now).1
    job'.status = .queued ∧ job'.cancelRequested = false ∧
      ∀ k, job'.steps k = (job.steps k).map fun step =>
        if resets job stageKeys k then { step with status := .pending } else step := by
  unfold resetForRetry at h ⊢
  dsimp only at h ⊢
  split
  · rename_i he
    rw [if_pos he] at h
    exact absurd (List.isEmpty_iff.mp he) h
  · exact ⟨rfl, rfl, fun _ => rfl⟩

theorem resetForRetry_ne_nil_iff {job : ProvisioningJob} {stageKeys : Option (List Stage)}
    {now : Timestamp} :
    (resetForRetry job stageKeys now).2 ≠ [] ↔ ∃ k, resets job stageKeys k = true := by
  have hreset : (resetForRetry job stageKeys now).2 =
      orderedStages.filter fun k => resets job stageKeys k := by
    unfold resetForRetry
    dsimp only
    split <;> rfl
  rw [hreset, ne_eq, List.filter_eq_nil_iff]
  simp

theorem not_done_of_resets {job : ProvisioningJob} {stageKeys : Option (List Stage)}
    {k : Stage} (h : resets job stageKeys k = true) : job.stepDone k = false := by
  simp only [resets, Bool.and_eq_true, Option.any_eq_true] at h
  obtain ⟨⟨step, hstep, hr⟩, -⟩ := h
  simp only [ProvisioningJob.stepDone, hstep, Option.any_some]
  cases hs : step.status <;> simp_all [resettable, StepStatus.done]

/-- `cancelStep` on statuses. -/
def cancelStatus : StepStatus → StepStatus
  | .pending | .running => .cancelled
  | st => st

@[simp] theorem cancelStatus_done (st : StepStatus) : (cancelStatus st).done = st.done := by
  cases st <;> rfl

theorem cancelStatus_settled (st : StepStatus) :
    cancelStatus st ≠ .pending ∧ cancelStatus st ≠ .running := by
  cases st <;> simp [cancelStatus]

theorem cancelStep_stepStatus (job : ProvisioningJob) (k : Stage) :
    (job.mapSteps cancelStep).stepStatus k = (job.stepStatus k).map cancelStatus := by
  refine ProvisioningJob.stepStatus_mapSteps (fun step => ?_) k
  rw [cancelStep_status]
  cases step.status <;> rfl

/-- **`request_cancel`** finalises a job that no worker executes, and only flags another. -/
theorem requestCancel_cases (job : ProvisioningJob) (now : Timestamp) :
    ((job.status = .queued ∨ job.status = .interrupted) ∧
        (requestCancel job now).status = .cancelled ∧
        ∀ k, (requestCancel job now).stepStatus k = (job.stepStatus k).map cancelStatus) ∨
      (job.status ≠ .queued ∧ job.status ≠ .interrupted ∧
        requestCancel job now = { job with cancelRequested := true }) := by
  by_cases h : job.status = .queued ∨ job.status = .interrupted
  · refine .inl ⟨h, ?_⟩
    unfold requestCancel
    rcases h with h | h <;> simp only [h]
    · exact ⟨trivial, fun k => cancelStep_stepStatus _ k⟩
    · exact ⟨trivial, fun k => cancelStep_stepStatus _ k⟩
  · rw [not_or] at h
    refine .inr ⟨h.1, h.2, ?_⟩
    unfold requestCancel
    dsimp only
    split
    · exact absurd ‹_› h.1
    · exact absurd ‹_› h.2
    · rfl

theorem requestCancel_stepArtifacts (job : ProvisioningJob) (now : Timestamp) (k : Stage) :
    (requestCancel job now).stepArtifacts k = job.stepArtifacts k := by
  have hmap : (job.mapSteps cancelStep).stepArtifacts k = job.stepArtifacts k :=
    ProvisioningJob.stepArtifacts_mapSteps cancelStep_artifacts k
  unfold requestCancel
  dsimp only
  split
  · exact hmap
  · exact hmap
  · rfl

/-- What a retry does to the statuses: the reset rows are `PENDING`, the rest is kept. -/
theorem resetForRetry_stepStatus {job : ProvisioningJob} {stageKeys : Option (List Stage)}
    {now : Timestamp} (h : (resetForRetry job stageKeys now).2 ≠ []) (k : Stage) :
    (resetForRetry job stageKeys now).1.stepStatus k =
      if resets job stageKeys k then some .pending else job.stepStatus k := by
  have hsteps := (resetForRetry_of_ne h).2.2 k
  simp only [ProvisioningJob.stepStatus, hsteps]
  split
  · rename_i hr
    simp only [resets, Bool.and_eq_true, Option.any_eq_true] at hr
    obtain ⟨⟨step, hstep, -⟩, -⟩ := hr
    simp [hstep]
  · simp

theorem resetForRetry_stepArtifacts (job : ProvisioningJob) (stageKeys : Option (List Stage))
    (now : Timestamp) (k : Stage) :
    (resetForRetry job stageKeys now).1.stepArtifacts k = job.stepArtifacts k := by
  by_cases h : (resetForRetry job stageKeys now).2 = []
  · rw [resetForRetry_of_empty h]
  · have hsteps := (resetForRetry_of_ne h).2.2 k
    simp only [ProvisioningJob.stepArtifacts, hsteps, Option.map_map]
    refine congrArg (fun o => Option.getD o ∅) (congrArg (Option.map · (job.steps k)) ?_)
    funext step
    simp only [Function.comp_apply]
    split <;> rfl

theorem resetForRetry_stepDone {job : ProvisioningJob} {stageKeys : Option (List Stage)}
    {now : Timestamp} (h : (resetForRetry job stageKeys now).2 ≠ []) (k : Stage) :
    (resetForRetry job stageKeys now).1.stepDone k = job.stepDone k := by
  rw [ProvisioningJob.stepDone_eq, resetForRetry_stepStatus h]
  split
  · rename_i hr
    rw [not_done_of_resets hr]
    rfl
  · exact (ProvisioningJob.stepDone_eq job k).symm

end JobRepository
end InfraOps
