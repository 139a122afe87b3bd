import InfraOps.Workers.StateMachine
import Mathlib.Data.List.AList

/-!
# Jobs and their steps

The rows of `provisioning_jobs` and `provisioning_job_steps`, with the columns the job
machinery reads or writes. A step row is unique per `(job_id, stage_key)`, so the steps of
a job are a partial map from stages to rows; iteration follows the registry order, which
is the `sequence` column.

Left out: `progress` and `duration_seconds` (floats shown to the user; no decision reads
them), and the display columns of a step (`name`, `sequence`), which the stage determines.
-/

namespace InfraOps

abbrev JobId := String

/-- `hostname:pid:uuid`; only compared for equality. -/
abbrev WorkerId := Nat

/-- A point in time, in microseconds. -/
abbrev Timestamp := Int

inductive JobStatus
  | queued
  | running
  | completed
  | partiallyCompleted
  | failed
  | cancelled
  | interrupted
  deriving DecidableEq, Repr

def JobStatus.value : JobStatus → String
  | queued => "QUEUED"
  | running => "RUNNING"
  | completed => "COMPLETED"
  | partiallyCompleted => "PARTIALLY_COMPLETED"
  | failed => "FAILED"
  | cancelled => "CANCELLED"
  | interrupted => "INTERRUPTED"

/-- `TERMINAL_JOB_STATUSES`. -/
def JobStatus.terminal : JobStatus → Bool
  | completed | partiallyCompleted | failed | cancelled => true
  | _ => false

/-- `ACTIVE_JOB_STATUSES` (and `IP_RESERVING_JOB_STATUSES`): the job holds its VM name and
its static IPv4 address. -/
def JobStatus.active : JobStatus → Bool
  | queued | running | interrupted => true
  | _ => false

/-- The statuses `retry_stages` accepts. -/
def JobStatus.retriable : JobStatus → Bool
  | failed | partiallyCompleted | cancelled | interrupted => true
  | _ => false

inductive StepStatus
  | pending
  | running
  | succeeded
  | failed
  | skipped
  | warning
  | notApplicable
  | cancelled
  deriving DecidableEq, Repr

def StepStatus.value : StepStatus → String
  | pending => "PENDING"
  | running => "RUNNING"
  | succeeded => "SUCCEEDED"
  | failed => "FAILED"
  | skipped => "SKIPPED"
  | warning => "WARNING"
  | notApplicable => "NOT_APPLICABLE"
  | cancelled => "CANCELLED"

/-- The statuses the pipeline does not run again. -/
def StepStatus.done : StepStatus → Bool
  | succeeded | skipped | warning | notApplicable => true
  | _ => false

inductive InfrastructureStatus
  | pending | creating | ready | failed
  deriving DecidableEq

inductive GuestOsStatus
  | unknown | notPresent | installationRequired | installationInProgress | ready | error
  deriving DecidableEq

inductive VMwareToolsStatus
  | unknown | notApplicableYet | notInstalled | installing | running | notRunning | outdated
  | error
  deriving DecidableEq

inductive GuestProvisioningStatus
  | pending | waitingForOs | waitingForTools | inProgress | completed | notRequested | failed
  deriving DecidableEq

/-- The four lifecycle columns of a job, which its stages set. -/
structure Lifecycle where
  infrastructureStatus : InfrastructureStatus := .pending
  guestOsStatus : GuestOsStatus := .unknown
  vmwareToolsStatus : VMwareToolsStatus := .unknown
  guestProvisioningStatus : GuestProvisioningStatus := .pending
  deriving DecidableEq

/-! ## Step artifacts -/

/-- A JSON value. -/
inductive Json
  | null
  | bool (b : Bool)
  | num (n : Int)
  | str (s : String)
  | arr (items : List Json)
  | obj (fields : List (String × Json))

/-- Python truth of a decoded JSON value. -/
def Json.truthy : Json → Bool
  | null => false
  | bool b => b
  | num n => n != 0
  | str s => s != ""
  | arr items => !items.isEmpty
  | obj fields => !fields.isEmpty

/-- The artifact keys the modelled stages write. -/
inductive ArtifactKey
  | vmId
  | vmName
  | ownerJobId
  | datastoreId
  | datastore
  | datastorePath
  | mediaRemoved
  | mediaRemovedReason
  | consoleScreenshot
  | hostname
  | computerName
  | requestedFqdn
  | joined
  | rebootRequired
  | bootTime
  | other (name : String)
  deriving DecidableEq

/-- The JSON object of a step. -/
abbrev Artifacts := AList fun _ : ArtifactKey => Json

namespace Artifacts

/-- `artifacts.get(key)` as a truth value: absent and falsy values read the same. -/
def has (a : Artifacts) (key : ArtifactKey) : Bool := (a.lookup key).any Json.truthy

/-- `artifacts.get(key)` where a string is stored. -/
def str? (a : Artifacts) (key : ArtifactKey) : Option String :=
  match a.lookup key with
  | some (.str s) => some s
  | _ => none

/-- `merged = dict(old); merged.update(new)`. -/
def update (old new : Artifacts) : Artifacts := new ∪ old

@[simp] theorem has_empty (key : ArtifactKey) : has ∅ key = false := by
  simp [has]

@[simp] theorem has_insert (a : Artifacts) (key key' : ArtifactKey) (v : Json) :
    has (a.insert key v) key' = if key' = key then v.truthy else a.has key' := by
  by_cases h : key' = key
  · subst h; simp [has]
  · simp [has, AList.lookup_insert_ne h, h]

@[simp] theorem str?_empty (key : ArtifactKey) : str? ∅ key = none := rfl

@[simp] theorem str?_insert_self (a : Artifacts) (key : ArtifactKey) (s : String) :
    str? (a.insert key (.str s)) key = some s := by
  simp [str?]

theorem str?_insert_ne (a : Artifacts) {key key' : ArtifactKey} (v : Json)
    (h : key' ≠ key) : str? (a.insert key v) key' = str? a key' := by
  simp [str?, AList.lookup_insert_ne h]

theorem lookup_update (old new : Artifacts) (key : ArtifactKey) :
    (old.update new).lookup key = (new.lookup key).or (old.lookup key) := by
  cases h : new.lookup key with
  | none => simpa [update] using AList.lookup_union_right (AList.lookup_eq_none.mp h)
  | some v =>
    have hmem : key ∈ new := AList.lookup_isSome.mp (by simp [h])
    rw [update, AList.lookup_union_left hmem, h]
    rfl

end Artifacts

/-! ## Rows -/

/-- A step row; the stage key is its index in `StepTable`. -/
structure Step where
  status : StepStatus := .pending
  attempt : Nat := 0
  retryable : Bool := true
  startedAt : Option Timestamp := none
  finishedAt : Option Timestamp := none
  output : Option String := none
  errorHuman : Option String := none
  errorTechnical : Option String := none
  artifacts : Artifacts := ∅

/-- The step rows of a job, unique per stage. -/
abbrev StepTable := Stage → Option Step

/-- A job row with its steps. -/
structure ProvisioningJob where
  id : JobId
  vmName : String
  status : JobStatus := .queued
  requestedByUserId : Option String := none
  currentStage : Option Stage := none
  lifecycle : Lifecycle := {}
  errorSummary : Option String := none
  errorDetail : Option String := none
  cancelRequested : Bool := false
  queuedAt : Timestamp
  startedAt : Option Timestamp := none
  finishedAt : Option Timestamp := none
  idempotencyKey : Option String := none
  requestFingerprint : Option String := none
  reservedIpv4 : Option String := none
  workerId : Option WorkerId := none
  heartbeatAt : Option Timestamp := none
  steps : StepTable := fun _ => none

namespace ProvisioningJob

/-- The status of the step row of `k`, when there is one. -/
def stepStatus (job : ProvisioningJob) (k : Stage) : Option StepStatus :=
  (job.steps k).map Step.status

/-- The row of `k` is in a status the pipeline skips. -/
def stepDone (job : ProvisioningJob) (k : Stage) : Bool :=
  (job.steps k).any fun step => step.status.done

/-- `step.artifacts or {}` of the row of `k`; empty without a row. -/
def stepArtifacts (job : ProvisioningJob) (k : Stage) : Artifacts :=
  ((job.steps k).map Step.artifacts).getD ∅

/-- Assign to the row of `k` (nothing without a row). -/
def setStep (job : ProvisioningJob) (k : Stage) (f : Step → Step) : ProvisioningJob :=
  { job with steps := Function.update job.steps k ((job.steps k).map f) }

/-- Assign to every row. -/
def mapSteps (job : ProvisioningJob) (f : Step → Step) : ProvisioningJob :=
  { job with steps := fun k => (job.steps k).map f }

/-- Every stage has its row. -/
def HasRows (job : ProvisioningJob) : Prop := ∀ k, (job.steps k).isSome

@[simp] theorem setStep_steps_self (job : ProvisioningJob) (k : Stage) (f : Step → Step) :
    (job.setStep k f).steps k = (job.steps k).map f := by
  simp [setStep]

theorem setStep_steps_ne (job : ProvisioningJob) {k k' : Stage} (f : Step → Step)
    (h : k' ≠ k) : (job.setStep k f).steps k' = job.steps k' := by
  simp [setStep, h]

@[simp] theorem mapSteps_steps (job : ProvisioningJob) (k : Stage) (f : Step → Step) :
    (job.mapSteps f).steps k = (job.steps k).map f := rfl

/-- The attempt counter of the row of `k`. -/
def attempt (job : ProvisioningJob) (k : Stage) : Nat :=
  ((job.steps k).map Step.attempt).getD 0

/-! ## One row changed, every row changed

An assignment is described by what it does to the status, the artifacts and the attempt
counter of a row; these lemmas turn that into what it does to the table. -/

theorem stepStatus_setStep {job : ProvisioningJob} {k : Stage} {f : Step → Step}
    {st : StepStatus} (hf : ∀ step, (f step).status = st) (k' : Stage) :
    (job.setStep k f).stepStatus k' =
      if k' = k then (job.stepStatus k).map fun _ => st else job.stepStatus k' := by
  by_cases h : k' = k
  · subst h
    simp [stepStatus, hf, Function.comp_def]
  · simp [stepStatus, setStep_steps_ne _ _ h, h]

theorem stepStatus_mapSteps {job : ProvisioningJob} {f : Step → Step}
    {g : StepStatus → StepStatus} (hf : ∀ step, (f step).status = g step.status) (k : Stage) :
    (job.mapSteps f).stepStatus k = (job.stepStatus k).map g := by
  simp [stepStatus, hf, Function.comp_def]

theorem stepArtifacts_setStep {job : ProvisioningJob} {k : Stage} {f : Step → Step}
    (hf : ∀ step, (f step).artifacts = step.artifacts) (k' : Stage) :
    (job.setStep k f).stepArtifacts k' = job.stepArtifacts k' := by
  by_cases h : k' = k
  · subst h
    simp [stepArtifacts, hf, Function.comp_def]
  · simp [stepArtifacts, setStep_steps_ne _ _ h]

theorem stepArtifacts_setStep_ne {job : ProvisioningJob} {k k' : Stage} (f : Step → Step)
    (h : k' ≠ k) : (job.setStep k f).stepArtifacts k' = job.stepArtifacts k' := by
  simp [stepArtifacts, setStep_steps_ne _ _ h]

theorem stepArtifacts_setStep_self {job : ProvisioningJob} {k : Stage} {f : Step → Step}
    {g : Artifacts → Artifacts} (hf : ∀ step, (f step).artifacts = g step.artifacts)
    (hrow : (job.steps k).isSome) :
    (job.setStep k f).stepArtifacts k = g (job.stepArtifacts k) := by
  obtain ⟨step, hstep⟩ := Option.isSome_iff_exists.mp hrow
  simp [stepArtifacts, hstep, hf]

theorem stepArtifacts_mapSteps {job : ProvisioningJob} {f : Step → Step}
    (hf : ∀ step, (f step).artifacts = step.artifacts) (k : Stage) :
    (job.mapSteps f).stepArtifacts k = job.stepArtifacts k := by
  simp [stepArtifacts, hf, Function.comp_def]

theorem attempt_setStep {job : ProvisioningJob} {k : Stage} {f : Step → Step}
    (hf : ∀ step, (f step).attempt = step.attempt) (k' : Stage) :
    (job.setStep k f).attempt k' = job.attempt k' := by
  by_cases h : k' = k
  · subst h
    simp [attempt, hf, Function.comp_def]
  · simp [attempt, setStep_steps_ne _ _ h]

theorem attempt_mapSteps {job : ProvisioningJob} {f : Step → Step}
    (hf : ∀ step, (f step).attempt = step.attempt) (k : Stage) :
    (job.mapSteps f).attempt k = job.attempt k := by
  simp [attempt, hf, Function.comp_def]

theorem stepDone_eq (job : ProvisioningJob) (k : Stage) :
    job.stepDone k = (job.stepStatus k).any StepStatus.done := by
  simp [stepDone, stepStatus, Option.any_map]

end ProvisioningJob

end InfraOps
