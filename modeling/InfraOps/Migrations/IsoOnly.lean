import InfraOps.Models.Jobs
import InfraOps.Support.Codec
import InfraOps.Support.Update

/-!
# The ISO-only migration

`upgrade` of `0009_iso_only_unattended.py`: its statements in their order, each on the tables
the one before has left. The whole runs in one transaction, so `now()` is one time, and a
statement that fails takes everything back.

Left out: dropping the two old indexes and the column `action_required`, which the types of
the two releases say, and the columns no statement reads or sets.
-/

namespace InfraOps.IsoOnly

/-! ## The previous release -/

inductive PreviousJobStatus
  | queued
  | running
  | completed
  | partiallyCompleted
  | failed
  | cancelled
  | interrupted
  | actionRequired
  deriving DecidableEq, Repr

inductive PreviousStepStatus
  | pending
  | running
  | succeeded
  | failed
  | skipped
  | warning
  | notApplicable
  | cancelled
  | waitingForPrerequisite
  deriving DecidableEq, Repr

namespace PreviousJobStatus

/-- `_ACTIVE`. -/
def active : PreviousJobStatus → Bool
  | queued | running | interrupted => true
  | _ => false

/-- `_PREVIOUS_IP_RESERVING`; the statuses in which a job could still run. -/
def ipReserving : PreviousJobStatus → Bool
  | queued | running | interrupted | actionRequired => true
  | _ => false

/-- `status::text::job_status`. -/
def current : PreviousJobStatus → Option JobStatus
  | queued => some .queued
  | running => some .running
  | completed => some .completed
  | partiallyCompleted => some .partiallyCompleted
  | failed => some .failed
  | cancelled => some .cancelled
  | interrupted => some .interrupted
  | actionRequired => none

end PreviousJobStatus

/-- `status::text::step_status`. -/
def PreviousStepStatus.current : PreviousStepStatus → Option StepStatus
  | pending => some .pending
  | running => some .running
  | succeeded => some .succeeded
  | failed => some .failed
  | skipped => some .skipped
  | warning => some .warning
  | notApplicable => some .notApplicable
  | cancelled => some .cancelled
  | waitingForPrerequisite => none

/-! ## Rows -/

/-- A row of `provisioning_jobs`, under the `job_status` of its release. -/
structure JobRow (σ : Type) where
  id : JobId
  status : σ
  vmName : String
  currentStage : Option String
  reservedIpv4 : Option String
  finishedAt : Option Timestamp
  errorSummary : Option String
  errorDetail : Option String

structure PreviousJobRow extends JobRow PreviousJobStatus where
  actionRequired : Option String

/-- A row of `provisioning_job_steps`, under the `step_status` of its release. -/
structure StepRow (σ : Type) where
  jobId : JobId
  stageKey : String
  name : String
  sequence : Int
  status : σ
  finishedAt : Option Timestamp
  errorHuman : Option String

/-- A row of `vm_provisioning_requests`. -/
structure RequestRow where
  jobId : JobId
  payload : JsonDocument

/-- A row of `notifications`. -/
structure NotificationRow where
  kind : String

/-- A row of `platform_settings`. -/
structure SettingRow where
  key : String
  value : JsonDocument

structure Tables (κ σ : Type) where
  jobs : List κ
  steps : List (StepRow σ)
  requests : List RequestRow
  notifications : List NotificationRow
  settings : List SettingRow

abbrev PreviousTables := Tables PreviousJobRow PreviousStepStatus

abbrev CurrentTables := Tables (JobRow JobStatus) StepStatus

variable {κ σ : Type}

/-- What `uq_job_step_stage` is about. -/
def StepRow.key (step : StepRow σ) : JobId × String := (step.jobId, step.stageKey)

/-- A database content of the previous release: its keys are unique, its references lead
somewhere, and its two partial unique indexes hold. -/
structure PreviousRelease (lower : String → String) extends PreviousTables where
  jobIds : (jobs.map (·.id)).Nodup
  stepKeys : (steps.map StepRow.key).Nodup
  stepJobs : ∀ step ∈ steps, ∃ job ∈ jobs, job.id = step.jobId
  requestJobIds : (requests.map (·.jobId)).Nodup
  requestJobs : ∀ request ∈ requests, ∃ job ∈ jobs, job.id = request.jobId
  settingKeys : (settings.map (·.key)).Nodup
  activeVmName : ((jobs.filter (·.status.active)).map fun job => lower job.vmName).Nodup
  reservedIpv4 : ((jobs.filter (·.status.ipReserving)).filterMap (·.reservedIpv4)).Nodup

inductive UpgradeError
  | duplicateKey (constraint : String)
  | invalidEnumValue (type : String)
  deriving DecidableEq, Repr

/-! ## The values the statements use -/

def STAGES : List String :=
  ["validate_request", "connect_vcenter", "validate_infrastructure", "create_vm",
    "configure_hardware", "attach_network_adapter", "prepare_unattended_install", "power_on",
    "wait_for_guest_os", "wait_for_tools", "cleanup_unattended_media", "add_data_disks",
    "initialize_data_disks", "configure_guest_network", "validate_network", "configure_hostname",
    "join_domain", "reboot_guest", "wait_guest_ready", "install_root_certificates",
    "install_intermediate_certificates", "validate_certificates", "resolve_dependencies",
    "install_applications", "validate_applications", "final_validation"]

/-- `RENAMED_STEPS`: the stage and its current name. -/
def RENAMED_STEPS : List (String × String) :=
  [("power_on", "Power on and start Windows Setup"),
    ("wait_for_guest_os", "Install Windows"),
    ("cleanup_unattended_media", "Remove installation media")]

def REMOVED_WORKFLOW : String :=
  "This job was created by a provisioning workflow that no longer exists, so it was closed during the upgrade. Submit a new request to create the VM."

def MANUAL_STEP_REMOVED : String :=
  "This job was waiting for a manual step that no longer exists. Retry the failed stage to continue unattended."

/-! ## Conditions -/

/-- `->` on a JSON value. -/
def field (j : JsonDocument) (key : String) : Option JsonDocument :=
  match j with
  | .object fields => fields.lookup key
  | _ => none

/-- `coalesce(payload -> 'guest' ->> 'iso_id', '') = ''`. What is neither a text nor null has
some JSON text. -/
def namesNoIso (payload : JsonDocument) : Bool :=
  match (field payload "guest").bind (field · "iso_id") with
  | none | some .null => true
  | some (.text cs) => cs.isEmpty
  | some _ => false

/-- `_REMOVED_WORKFLOW_JOBS` has the job. -/
def removedWorkflow (requests : List RequestRow) (id : JobId) : Bool :=
  requests.any fun request => request.jobId == id && namesNoIso request.payload

/-- `job_id IN (SELECT id FROM provisioning_jobs WHERE status IN ...)`. -/
def hasJob (jobs : List PreviousJobRow) (among : PreviousJobStatus → Bool) (id : JobId) : Bool :=
  jobs.any fun job => job.id == id && among job.status

/-- `_vm_created`. -/
def vmCreated (steps : List (StepRow PreviousStepStatus)) (id : JobId) : Bool :=
  steps.any fun step =>
    step.jobId == id && step.stageKey == "create_vm" &&
      (step.status == .succeeded || step.status == .skipped)

/-! ## The statements -/

def renameStep (step : StepRow σ) : StepRow σ :=
  if step.stageKey == "clone_vm" then { step with stageKey := "create_vm" } else step

/-- Stage `clone_vm` is now `create_vm`. -/
def renameStage (db : PreviousTables) : Except UpgradeError PreviousTables :=
  let steps := db.steps.map renameStep
  if (steps.map StepRow.key).Nodup then
    .ok { db with
      steps
      jobs := updateWhere (·.currentStage == some "clone_vm")
        (fun job => { job with currentStage := some "create_vm" }) db.jobs }
  else .error (.duplicateKey "uq_job_step_stage")

def failStep (now : Timestamp) (message : String) (step : StepRow PreviousStepStatus) :
    StepRow PreviousStepStatus :=
  { step with status := .failed, finishedAt := some now, errorHuman := some message }

/-- A job whose VM exists ends `PARTIALLY_COMPLETED`, as the pipeline does. -/
def closeJob (now : Timestamp) (message : String) (created : Bool) (job : PreviousJobRow) :
    PreviousJobRow :=
  { job with
    status := if created then .partiallyCompleted else .failed
    finishedAt := job.finishedAt.or (some now)
    errorSummary := some message
    errorDetail := job.actionRequired.or job.errorDetail }

/-- Close jobs of the removed workflows that could still run: first their steps. -/
def failRemovedSteps (now : Timestamp) (db : PreviousTables) : PreviousTables :=
  { db with
    steps := updateWhere
      (fun step => (step.status == .running || step.status == .waitingForPrerequisite) &&
        hasJob db.jobs (·.ipReserving) step.jobId && removedWorkflow db.requests step.jobId)
      (failStep now REMOVED_WORKFLOW) db.steps }

def closeRemovedJobs (now : Timestamp) (db : PreviousTables) : PreviousTables :=
  { db with
    jobs := updateWhere
      (fun job => job.status.ipReserving && removedWorkflow db.requests job.id)
      (fun job => closeJob now REMOVED_WORKFLOW (vmCreated db.steps job.id) job) db.jobs }

/-- Paused jobs: the waiting stage fails so it can be retried unattended. -/
def failPausedSteps (now : Timestamp) (db : PreviousTables) : PreviousTables :=
  { db with
    steps := updateWhere
      (fun step => step.status == .waitingForPrerequisite &&
        hasJob db.jobs (· == .actionRequired) step.jobId)
      (failStep now MANUAL_STEP_REMOVED) db.steps }

def closePausedJobs (now : Timestamp) (db : PreviousTables) : PreviousTables :=
  { db with
    jobs := updateWhere (·.status == .actionRequired)
      (fun job => closeJob now MANUAL_STEP_REMOVED (vmCreated db.steps job.id) job) db.jobs }

/-- A step that still waits, joined with its job. -/
def finishStep (now : Timestamp) (jobs : List PreviousJobRow) (step : StepRow PreviousStepStatus) :
    StepRow PreviousStepStatus :=
  match jobs.find? (·.id == step.jobId) with
  | none => step
  | some job =>
    { step with
      status := if job.status == .cancelled then .cancelled else .failed
      finishedAt := step.finishedAt.or (some now)
      errorHuman := step.errorHuman.or (some MANUAL_STEP_REMOVED) }

def finishWaitingSteps (now : Timestamp) (db : PreviousTables) : PreviousTables :=
  { db with
    steps := updateWhere (·.status == .waitingForPrerequisite) (finishStep now db.jobs) db.steps }

def renameNotifications (db : PreviousTables) : PreviousTables :=
  { db with
    notifications := updateWhere (·.kind == "JOB_ACTION_REQUIRED")
      (fun row => { row with kind := "JOB_FAILED" }) db.notifications }

def renumberStep (stages : List String) (step : StepRow σ) : StepRow σ :=
  match stages.idxOf? step.stageKey with
  | some position => { step with sequence := position }
  | none => step

/-- `_renumber`. -/
def renumber (stages : List String) (db : PreviousTables) : PreviousTables :=
  { db with steps := db.steps.map (renumberStep stages) }

def nameSteps (renamed : List (String × String)) (db : PreviousTables) : PreviousTables :=
  { db with
    steps := renamed.foldl (fun steps entry =>
      updateWhere (fun step => step.stageKey == entry.1 && !removedWorkflow db.requests step.jobId)
        (fun step => { step with name := entry.2 }) steps) db.steps }

/-- The value of `default_timeouts` with one of its fields under another name. -/
def renameTimeoutValue (old new : String) (value : JsonDocument) : JsonDocument :=
  match value, field value "value" with
  | .object fields, some (.object timeouts) =>
    match timeouts.lookup old with
    | some minutes =>
      let kept := timeouts.filter fun f => f.1 != old && f.1 != new
      .object (updateWhere (·.1 == "value")
        (fun f => (f.1, .object (kept ++ [(new, minutes)]))) fields)
    | none => value
  | _, _ => value

/-- `_rename_timeout`. -/
def renameTimeout (old new : String) (db : PreviousTables) : PreviousTables :=
  { db with
    settings := updateWhere (·.key == "default_timeouts")
      (fun row => { row with value := renameTimeoutValue old new row.value }) db.settings }

/-! ## The new types and indexes -/

def rebuildJob (job : PreviousJobRow) : Except UpgradeError (JobRow JobStatus) :=
  match job.status.current with
  | some status => .ok { job.toJobRow with status }
  | none => .error (.invalidEnumValue "job_status")

def rebuildStep (step : StepRow PreviousStepStatus) : Except UpgradeError (StepRow StepStatus) :=
  match step.status.current with
  | some status => .ok { step with status }
  | none => .error (.invalidEnumValue "step_status")

/-- `_rebuild_enum` of both status columns. -/
def rebuildEnums (db : PreviousTables) : Except UpgradeError CurrentTables := do
  let jobs ← db.jobs.mapM rebuildJob
  let steps ← db.steps.mapM rebuildStep
  return { db with jobs, steps }

/-- The lower-cased names of the active jobs. -/
def activeVmNames (lower : String → String) (jobs : List (JobRow JobStatus)) : List String :=
  (jobs.filter (·.status.active)).map fun job => lower job.vmName

/-- The addresses the active jobs hold. -/
def activeIpv4 (jobs : List (JobRow JobStatus)) : List String :=
  (jobs.filter (·.status.active)).filterMap (·.reservedIpv4)

def createIndexes (lower : String → String) (db : CurrentTables) :
    Except UpgradeError CurrentTables :=
  if ¬ (activeVmNames lower db.jobs).Nodup then
    .error (.duplicateKey "uq_provisioning_jobs_active_vm_name")
  else if ¬ (activeIpv4 db.jobs).Nodup then
    .error (.duplicateKey "uq_provisioning_jobs_reserved_ipv4")
  else .ok db

/-- The statements that close jobs and end their steps. -/
def closeJobs (now : Timestamp) (db : PreviousTables) : PreviousTables :=
  finishWaitingSteps now
    (closePausedJobs now (failPausedSteps now (closeRemovedJobs now (failRemovedSteps now db))))

/-- The tables when the types are rebuilt. -/
def updateTables (now : Timestamp) (db : PreviousTables) : PreviousTables :=
  renameTimeout "clone_minutes" "create_vm_minutes"
    (nameSteps RENAMED_STEPS (renumber STAGES (renameNotifications (closeJobs now db))))

/-- `upgrade`. -/
def upgrade (lower : String → String) (now : Timestamp) (db : PreviousTables) :
    Except UpgradeError CurrentTables := do
  let db ← renameStage db
  let db ← rebuildEnums (updateTables now db)
  createIndexes lower db

end InfraOps.IsoOnly
