import InfraOps.Core.Errors
import InfraOps.Repositories.Jobs

/-!
# Retry and cancellation requests

`retry_stages` and `cancel_job` of the provisioning service. Both act on the job row they
were given; a request that is refused leaves it unchanged (`Except.error`).
-/

namespace InfraOps

/-- Another job row, as far as the reservation checks read it. -/
structure OtherJob where
  vmName : String
  status : JobStatus
  reservedIpv4 : Option String := none
  deriving DecidableEq

/-- The unique constraints of `provisioning_jobs`. -/
inductive UniqueConstraint
  | activeVmName
  | reservedIpv4
  | idempotencyKey
  deriving DecidableEq, Repr

def UniqueConstraint.name : UniqueConstraint → String
  | activeVmName => "uq_provisioning_jobs_active_vm_name"
  | reservedIpv4 => "uq_provisioning_jobs_reserved_ipv4"
  | idempotencyKey => "uq_provisioning_jobs_idempotency_key"

def activeVmNameError (vmName : String) : AppError :=
  .conflict s!"An active provisioning job for '{vmName}' already exists." [("vm_name", vmName)]

def reservedIpv4Error (vmName : String) : AppError :=
  .conflict "Another active provisioning job has already reserved this IPv4 address."
    [("vm_name", vmName)]

/-- `reservation_conflict`. -/
def reservationConflict (violated : UniqueConstraint) (vmName : String) : Option AppError :=
  match violated with
  | .activeVmName => some (activeVmNameError vmName)
  | .reservedIpv4 => some (reservedIpv4Error vmName)
  | .idempotencyKey => none

/-- `has_active_job_for_vm`, among the rows other than the job itself. -/
def hasActiveJobForVm (others : List OtherJob) (vmName : String) : Bool :=
  others.any fun other => other.vmName.toLower == vmName.toLower && other.status.active

/-- `has_ipv4_reservation`. -/
def hasIpv4Reservation (others : List OtherJob) (address : String) : Bool :=
  others.any fun other => other.reservedIpv4 == some address && other.status.active

/-- The reservation index that a commit making this row active violates. -/
def violatedReservation (others : List OtherJob) (vmName : String) (ipv4 : Option String) :
    Option UniqueConstraint :=
  if hasActiveJobForVm others vmName then some .activeVmName
  else if ipv4.any fun address => hasIpv4Reservation others address then some .reservedIpv4
  else none

/-! ## `retry_stages` -/

def notRetriableError (status : JobStatus) : AppError :=
  .domainValidation s!"Jobs in status '{status.value}' cannot be retried."
    [("status", status.value)]

def legacyRequestError : AppError :=
  .domainValidation
    ("This job was created by a provisioning workflow that no longer exists, so it can " ++
      "only be viewed. Submit a new request to create the VM.")
    [("reason", "legacy_request")]

def otherActiveJobError (vmName : String) : AppError :=
  .conflict s!"Another active provisioning job for '{vmName}' exists; it must finish first."
    [("vm_name", vmName)]

def noFailedStagesError : AppError :=
  .domainValidation "No failed stages were found to retry." []

/-- The checks on an explicit `stage_key`; `stage_keys` of the reset. -/
def selectStage (job : ProvisioningJob) (stageKey : String) : Except AppError (List Stage) :=
  match stageByKey? stageKey with
  | none => .error (.notFound s!"Unknown stage '{stageKey}' for this job.")
  | some k =>
    match job.steps k with
    | none => .error (.notFound s!"Unknown stage '{stageKey}' for this job.")
    | some step =>
      if !(k.retryable && step.retryable) then
        .error (.domainValidation s!"Stage '{stageKey}' is not retryable." [])
      else if step.status != .failed && step.status != .cancelled then
        .error (.domainValidation
          (s!"Stage '{stageKey}' is '{step.status.value}' — only failed stages can be " ++
            "retried.") [])
      else .ok [k]

/-- `stage_keys` as `retry_stages` computes it; `none` selects every stage. -/
def selectStages (job : ProvisioningJob) (stageKey : Option String) :
    Except AppError (Option (List Stage)) :=
  match stageKey with
  | none => .ok none
  | some key =>
    match selectStage job key with
    | .ok keys => .ok (some keys)
    | .error error => .error error

/-- What `retry_stages` raises. -/
inductive RetryError
  | app (error : AppError)
  /-- A violated constraint, raised again. -/
  | integrity (violated : UniqueConstraint)
  /-- An expired attribute is read outside an awaited call. -/
  | missingGreenlet
  deriving DecidableEq

/-- `retry_stages`: the committed job and the list it returns. `parses`: the stored request
parses with the current contract; `others`, `othersAtCommit`: the other rows when the name is
checked and when the reset is committed. A violation rolls the session back, and what
translates it reads the expired job. -/
def retryStages (job : ProvisioningJob) (stageKey : Option String) (parses : Bool)
    (others othersAtCommit : List OtherJob) (now : Timestamp) :
    Except RetryError (ProvisioningJob × List Stage) :=
  if !job.status.retriable then .error (.app (notRetriableError job.status))
  else if !parses then .error (.app legacyRequestError)
  else match selectStages job stageKey with
    | .error error => .error (.app error)
    | .ok stageKeys =>
      if hasActiveJobForVm others job.vmName then
        .error (.app (otherActiveJobError job.vmName))
      else
        let (job', reset) := JobRepository.resetForRetry job stageKeys now
        if reset.isEmpty then .error (.app noFailedStagesError)
        else
          match violatedReservation othersAtCommit job.vmName job.reservedIpv4 with
          | some _ => .error .missingGreenlet
          | none => .ok (job', reset)

/-! ## `cancel_job` -/

def alreadyFinishedError (status : JobStatus) : AppError :=
  .conflict s!"Job is already '{status.value}' and cannot be cancelled."
    [("status", status.value)]

/-- The hand-over of an interrupted job to a worker, which applies the cancellation. The
row already is in both partial indexes, so its commit cannot violate them. -/
def handOver (job : ProvisioningJob) (now : Timestamp) : ProvisioningJob :=
  { job with cancelRequested := true, status := .queued, queuedAt := now }

/-- `cancel_job`. -/
def cancelJob (job : ProvisioningJob) (now : Timestamp) : Except AppError ProvisioningJob :=
  if job.status == .interrupted && JobRepository.mayHoldUnattendedMedia job then
    .ok (handOver job now)
  else if job.status.terminal then .error (alreadyFinishedError job.status)
  else .ok (JobRepository.requestCancel job now)

/-! ## What an accepted request did -/

/-- **An accepted retry** comes from a retriable status and commits a non-empty reset. -/
theorem retryStages_ok {job job' : ProvisioningJob} {stageKey : Option String} {parses : Bool}
    {others othersAtCommit : List OtherJob} {now : Timestamp} {reset : List Stage}
    (h : retryStages job stageKey parses others othersAtCommit now = .ok (job', reset)) :
    job.status.retriable = true ∧ ∃ stageKeys, reset ≠ [] ∧
      JobRepository.resetForRetry job stageKeys now = (job', reset) := by
  unfold retryStages at h
  by_cases hstatus : job.status.retriable = true
  · by_cases hparses : parses = true
    · simp only [hstatus, hparses, Bool.not_true, Bool.false_eq_true, if_false] at h
      split at h
      · cases h
      · rename_i stageKeys _
        split at h
        · cases h
        · split at h
          · cases h
          · rename_i hne
            split at h
            · cases h
            · cases h
              refine ⟨hstatus, stageKeys, ?_, rfl⟩
              intro hnil
              exact hne (List.isEmpty_iff.mpr hnil)
    · simp [hstatus, hparses] at h
  · simp [hstatus] at h

/-- What an accepted retry commits: the rows it resets are `PENDING`, nothing else of the
step table changes, and the job is `QUEUED`. -/
structure Requeued (job : ProvisioningJob) (stageKeys : Option (List Stage))
    (job' : ProvisioningJob) : Prop where
  reset : ∃ k, JobRepository.resets job stageKeys k = true
  status : job'.status = .queued
  cancelRequested : job'.cancelRequested = false
  steps : ∀ k, job'.steps k = (job.steps k).map fun step =>
    if JobRepository.resets job stageKeys k then { step with status := .pending } else step
  stepStatus : ∀ k, job'.stepStatus k =
    if JobRepository.resets job stageKeys k then some .pending else job.stepStatus k
  stepArtifacts : ∀ k, job'.stepArtifacts k = job.stepArtifacts k
  stepDone : ∀ k, job'.stepDone k = job.stepDone k

theorem retryStages_requeued {job job' : ProvisioningJob} {stageKey : Option String}
    {parses : Bool} {others othersAtCommit : List OtherJob} {now : Timestamp}
    {reset : List Stage}
    (h : retryStages job stageKey parses others othersAtCommit now = .ok (job', reset)) :
    job.status.retriable = true ∧ ∃ stageKeys, Requeued job stageKeys job' := by
  obtain ⟨hstatus, stageKeys, hne, hreset⟩ := retryStages_ok h
  have hjob : job' = (JobRepository.resetForRetry job stageKeys now).1 := by rw [hreset]
  have hne : (JobRepository.resetForRetry job stageKeys now).2 ≠ [] := by
    rw [hreset]
    exact hne
  obtain ⟨hqueued, hcancel, hsteps⟩ := JobRepository.resetForRetry_of_ne hne
  refine ⟨hstatus, stageKeys, ?_⟩
  rw [hjob]
  exact ⟨JobRepository.resetForRetry_ne_nil_iff.mp hne, hqueued, hcancel, hsteps,
    JobRepository.resetForRetry_stepStatus hne, JobRepository.resetForRetry_stepArtifacts _ _ _,
    JobRepository.resetForRetry_stepDone hne⟩

/-- **A whole-job retry** of a stopped job whose name and address are free is decided by
whether it resets a step. -/
theorem retryStages_all {job : ProvisioningJob} {others othersAtCommit : List OtherJob}
    {now : Timestamp} (hstatus : job.status.retriable = true)
    (hname : hasActiveJobForVm others job.vmName = false)
    (hfree : violatedReservation othersAtCommit job.vmName job.reservedIpv4 = none) :
    retryStages job none true others othersAtCommit now =
      if (JobRepository.resetForRetry job none now).2 = [] then
        .error (.app noFailedStagesError)
      else .ok (JobRepository.resetForRetry job none now) := by
  unfold retryStages
  simp [hstatus, hname, hfree, selectStages]

/-- An accepted cancellation is a hand-over or a `request_cancel`. -/
theorem cancelJob_ok {job job' : ProvisioningJob} {now : Timestamp}
    (h : cancelJob job now = .ok job') :
    (job.status = .interrupted ∧ JobRepository.mayHoldUnattendedMedia job = true ∧
        job' = handOver job now) ∨
      (job.status.terminal = false ∧
        ¬(job.status = .interrupted ∧ JobRepository.mayHoldUnattendedMedia job = true) ∧
        job' = JobRepository.requestCancel job now) := by
  unfold cancelJob at h
  split at h
  · rename_i hmay
    rw [Bool.and_eq_true, beq_iff_eq] at hmay
    cases h
    exact .inl ⟨hmay.1, hmay.2, rfl⟩
  · rename_i hmay
    rw [Bool.and_eq_true, beq_iff_eq] at hmay
    split at h
    · cases h
    · rename_i hterminal
      cases h
      exact .inr ⟨by simpa using hterminal, hmay, rfl⟩

/-- **The three ways a cancellation is accepted**: the job is handed to a worker, finalised
at once, or flagged for the worker that executes it. -/
theorem cancelJob_cases {job job' : ProvisioningJob} {now : Timestamp}
    (h : cancelJob job now = .ok job') :
    (job.status = .interrupted ∧ JobRepository.mayHoldUnattendedMedia job = true ∧
        job' = handOver job now) ∨
      ((job.status = .queued ∨
          (job.status = .interrupted ∧ JobRepository.mayHoldUnattendedMedia job = false)) ∧
        job'.status = .cancelled ∧
        ∀ k, job'.stepStatus k = (job.stepStatus k).map JobRepository.cancelStatus) ∨
      (job.status = .running ∧ job' = { job with cancelRequested := true }) := by
  rcases cancelJob_ok h with hover | ⟨hterminal, hnot, rfl⟩
  · exact .inl hover
  · rcases JobRepository.requestCancel_cases job now with
      ⟨hstatus, hcancelled, hsteps⟩ | ⟨hqueued, hinterrupted, hsame⟩
    · refine .inr (.inl ⟨?_, hcancelled, hsteps⟩)
      rcases hstatus with hq | hi
      · exact .inl hq
      · exact .inr ⟨hi, by simpa [hi] using hnot⟩
    · refine .inr (.inr ⟨?_, hsame⟩)
      cases hs : job.status <;> simp_all [JobStatus.terminal]

end InfraOps
