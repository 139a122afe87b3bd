import InfraOps.Auth.Permissions
import InfraOps.JobRun.Shown
import Mathlib.Data.List.Sort

/-!
# What users read about jobs

The serializers of the job endpoints, of the event stream, of the operational log and of the
notifications. `ILIKE` and `casefold` are the database's and Python's and left open; rows that
tie in the order of a query stay in the order of the table.
-/

namespace InfraOps

/-! ## Jobs and steps -/

structure JobOut where
  id : JobId
  jobType : String
  status : JobStatus
  vmName : String
  datacenterId : Option String
  datacenterName : Option String
  requestedByUsername : Option String
  currentStage : Option String
  progress : Nat
  lifecycle : Lifecycle
  errorSummary : Option String
  cancelRequested : Bool
  queuedAt : Timestamp
  startedAt : Option Timestamp
  finishedAt : Option Timestamp
  duration : Option Int

def jobOut (s : ShownJob) : JobOut where
  id := s.job.id
  jobType := s.facts.jobType
  status := s.job.status
  vmName := s.job.vmName
  datacenterId := s.datacenterId
  datacenterName := s.datacenterName
  requestedByUsername := s.facts.requestedByUsername
  currentStage := currentKey s.job
  progress := s.progress
  lifecycle := s.job.lifecycle
  errorSummary := s.job.errorSummary
  cancelRequested := s.job.cancelRequested
  queuedAt := s.job.queuedAt
  startedAt := s.job.startedAt
  finishedAt := s.job.finishedAt
  duration := s.duration

structure JobStepOut where
  id : String
  jobId : JobId
  stageKey : String
  name : String
  sequence : Nat
  status : StepStatus
  attempt : Nat
  maxAttempts : Nat
  retryable : Bool
  startedAt : Option Timestamp
  finishedAt : Option Timestamp
  output : Option String
  errorHuman : Option String
  errorTechnical : Option String
  artifacts : Artifacts

/-- `_step_out`. -/
def stepOut (includeTechnical : Bool) (s : ShownJob) (k : Stage) (step : Step) : JobStepOut where
  id := s.facts.stepId k
  jobId := s.job.id
  stageKey := k.key
  name := k.name
  sequence := stageIndex k
  status := step.status
  attempt := step.attempt
  maxAttempts := s.facts.maxAttempts k
  retryable := step.retryable
  startedAt := step.startedAt
  finishedAt := step.finishedAt
  output := step.output
  errorHuman := step.errorHuman
  errorTechnical := if includeTechnical then step.errorTechnical else none
  artifacts := step.artifacts

/-- The step rows of a job, in the order of their sequence. -/
def stepsOut (includeTechnical : Bool) (s : ShownJob) : List JobStepOut :=
  orderedStages.filterMap fun k => (s.job.steps k).map (stepOut includeTechnical s k)

structure JobDetailOut where
  job : JobOut
  steps : List JobStepOut
  requestPayload : Option Json
  legacyRequest : Bool

def detailOut (includeTechnical : Bool) (s : ShownJob) : JobDetailOut where
  job := jobOut s
  steps := stepsOut includeTechnical s
  requestPayload := s.facts.requestPayload
  legacyRequest := s.facts.legacyRequest

/-- What a stream shows: the snapshot, and the events that follow on the channel. -/
structure StreamOut where
  job : JobOut
  steps : List JobStepOut
  updates : List LiveEvent

def streamOut (includeTechnical : Bool) (s : ShownJob) : StreamOut where
  job := jobOut s
  steps := stepsOut includeTechnical s
  updates := s.published

/-! ## The list of jobs -/

/-- What the queries leave to PostgreSQL and Python. -/
structure TextMatching where
  ilike : String → String → Bool
  casefold : String → String

variable (matching : TextMatching)

/-- `.offset((page - 1) * page_size).limit(page_size)`. -/
def pageOf {α : Type} (page pageSize : Nat) (rows : List α) : List α :=
  (rows.drop ((page - 1) * pageSize)).take pageSize

structure JobQuery where
  page : Nat
  pageSize : Nat
  status : Option JobStatus
  vmNameContains : Option String

/-- A filter that is set and not empty is a condition on the rows. -/
def whenSet (filter : Option String) (condition : String → Bool) : Bool :=
  match filter with
  | none => true
  | some text => text = "" || condition text

def contains (text column : String) : Bool := matching.ilike s!"%{text}%" column

def JobQuery.selects (q : JobQuery) (s : ShownJob) : Bool :=
  q.status.all (· = s.job.status) &&
    whenSet q.vmNameContains fun text => contains matching text s.job.vmName

/-- `list_jobs`: the page and the total. -/
def listJobs (q : JobQuery) (jobs : List ShownJob) : List JobOut × Nat :=
  let rows := jobs.filter (q.selects matching)
  let sorted := rows.insertionSort fun s s' => s'.job.queuedAt ≤ s.job.queuedAt
  ((pageOf q.page q.pageSize sorted).map jobOut, rows.length)

/-! ## The operational log -/

inductive LogSeverity
  | debug | info | warning | error | critical
  deriving DecidableEq

def severityForStatus : StepStatus → LogSeverity
  | .failed => .error
  | .cancelled | .warning => .warning
  | .skipped | .notApplicable => .debug
  | _ => .info

/-- `LOGGABLE_STEP_STATUSES`: rows that are `PENDING` describe no event. -/
def StepStatus.loggable : StepStatus → Bool
  | .pending => false
  | _ => true

/-- The statuses that a severity selects; no status is critical. -/
def LogSeverity.selects : LogSeverity → StepStatus → Bool
  | .error, .failed | .warning, .cancelled | .warning, .warning | .debug, .skipped
  | .debug, .notApplicable | .info, .running | .info, .succeeded => true
  | _, _ => false

/-- `" ".join(text.split())`. -/
def joinWords (text : String) : String :=
  " ".intercalate (((text.toList.splitOnP pySpace).filter (· ≠ [])).map String.ofList)

/-- `_concise`. -/
def concise (value : String) : String :=
  let normalized := joinWords ((outputLines value).head?.getD "")
  if normalized.length ≤ 240 then normalized
  else rstrip pySpace (firstChars 237 normalized) ++ "..."

/-- `status.value.replace("_", " ").title()`. -/
def statusTitle : StepStatus → String
  | .pending => "Pending"
  | .running => "Running"
  | .succeeded => "Succeeded"
  | .failed => "Failed"
  | .skipped => "Skipped"
  | .warning => "Warning"
  | .notApplicable => "Not Applicable"
  | .cancelled => "Cancelled"

/-- A step row with its job and its stage. -/
structure LogRow where
  shown : ShownJob
  stage : Stage
  step : Step

def logRows (jobs : List ShownJob) : List LogRow :=
  jobs.flatMap fun s => orderedStages.filterMap fun k =>
    (s.job.steps k).map fun step => ⟨s, k, step⟩

namespace LogRow

variable (row : LogRow)

/-- `message_for_step`; an empty text counts as absent. -/
def message : String :=
  let human := row.step.errorHuman.getD ""
  let output := row.step.output.getD ""
  if row.step.status = .failed ∧ human ≠ "" then concise human
  else if output ≠ "" then concise output
  else s!"{row.stage.name}: {statusTitle row.step.status}"

/-- `coalesce(finished_at, started_at, queued_at)`. -/
def timestamp : Timestamp :=
  (row.step.finishedAt.or row.step.startedAt).getD row.shown.job.queuedAt

end LogRow

/-- `details_for_step`. -/
structure LogDetails where
  stage : String
  status : String
  attempt : Nat
  /-- The datacenter's id, the artifacts and a technical error that is not empty. -/
  technical : Option (Option String × Artifacts × Option String)

def detailsForStep (includeTechnical : Bool) (row : LogRow) : LogDetails where
  stage := row.stage.key
  status := row.step.status.value
  attempt := row.step.attempt
  technical :=
    if includeTechnical then
      some (row.shown.datacenterId, row.step.artifacts, row.step.errorTechnical.filter (· ≠ ""))
    else none

structure LogEventOut where
  id : String
  timestamp : Timestamp
  severity : LogSeverity
  component : String
  message : String
  resourceName : String
  datacenterName : Option String
  jobId : JobId
  details : LogDetails

def logEventOut (includeTechnical : Bool) (row : LogRow) : LogEventOut where
  id := row.shown.facts.stepId row.stage
  timestamp := row.timestamp
  severity := severityForStatus row.step.status
  component := s!"provisioning.{row.stage.key}"
  message := row.message
  resourceName := row.shown.job.vmName
  datacenterName := row.shown.datacenterName
  jobId := row.shown.job.id
  details := detailsForStep includeTechnical row

structure LogQuery where
  page : Nat
  pageSize : Nat
  severity : Option LogSeverity
  component : Option String
  datacenter : Option String
  jobId : Option JobId
  search : Option String
  sinceTime : Option Timestamp
  untilTime : Option Timestamp

/-- The stage key that a component names: `component.casefold().removeprefix("provisioning.")`,
stripped and with underscores. -/
def componentKey (component : String) : String :=
  let folded := (matching.casefold component).toList
  let start := "provisioning.".toList
  let stage := pyStrip (if start.isPrefixOf folded then folded.drop start.length else folded)
  String.ofList (stage.map fun c => if c = ' ' then '_' else c)

/-- The conditions of a search. A column without a value matches no pattern. -/
def LogQuery.selects (q : LogQuery) (row : LogRow) : Bool :=
  row.step.status.loggable &&
    q.severity.all (·.selects row.step.status) &&
    whenSet q.component (fun component =>
      let key := componentKey matching component
      key = "" || key = "provisioning" || contains matching key row.stage.key) &&
    whenSet q.datacenter (fun datacenter =>
      row.shown.datacenterName.any (contains matching datacenter) ||
        row.shown.datacenterId = some datacenter) &&
    q.jobId.all (· = row.shown.job.id) &&
    whenSet q.search (fun text =>
      contains matching text row.stage.name || row.step.output.any (contains matching text) ||
        row.step.errorHuman.any (contains matching text) ||
        contains matching text row.shown.job.vmName) &&
    q.sinceTime.all (· ≤ row.timestamp) &&
    q.untilTime.all (row.timestamp ≤ ·)

/-- The latest events first, and the later stage first among those of one moment. -/
def LogRow.before (row other : LogRow) : Prop :=
  other.timestamp < row.timestamp ∨
    other.timestamp = row.timestamp ∧ stageIndex other.stage ≤ stageIndex row.stage

instance : DecidableRel LogRow.before := fun _ _ => inferInstanceAs (Decidable (_ ∨ _))

/-- `LogRepository.search`: the page and the total. -/
def searchLogs (includeTechnical : Bool) (q : LogQuery) (jobs : List ShownJob) :
    List LogEventOut × Nat :=
  let rows := (logRows jobs).filter (q.selects matching)
  let sorted := rows.insertionSort LogRow.before
  ((pageOf q.page q.pageSize sorted).map (logEventOut includeTechnical), rows.length)

/-! ## Notifications -/

structure NotificationOut where
  kind : NotificationKind
  title : String
  message : String
  jobId : JobId

/-- The notifications of a job for a user, in the order in which they were queued. -/
def notificationsOut (userId : String) (s : ShownJob) : List NotificationOut :=
  if s.job.requestedByUserId = some userId then
    s.records.filterMap fun record =>
      match record with
      | .notification kind title message => some ⟨kind, title, message, s.job.id⟩
      | _ => none
  else []

/-! ## Readers -/

structure Viewer where
  userId : String
  roles : List String

inductive Refusal
  | forbidden
  | notFound
  deriving DecidableEq

/-- Everything that a user can ask for about the jobs. -/
structure Readings where
  jobs : JobQuery → Except Refusal (List JobOut × Nat)
  detail : JobId → Except Refusal JobDetailOut
  steps : JobId → Except Refusal (List JobStepOut)
  stream : JobId → Except Refusal StreamOut
  logs : LogQuery → Except Refusal (List LogEventOut × Nat)
  notifications : List NotificationOut

section Readers

variable (viewer : Viewer)

/-- `require(Permission.JOBS_READ)`. -/
def requireJobsRead {α : Type} (answer : Except Refusal α) : Except Refusal α :=
  if rolesGrant viewer.roles .jobsRead then answer else .error .forbidden

/-- `_get_job`, and what an endpoint makes of the job. -/
def readJob {α : Type} (jobs : List ShownJob) (jobId : JobId) (out : ShownJob → α) :
    Except Refusal α :=
  match jobs.find? fun s => s.job.id = jobId with
  | none => .error .notFound
  | some s => .ok (out s)

def readings (jobs : List ShownJob) : Readings :=
  let includeTechnical := rolesGrant viewer.roles .adminSettings
  { jobs := fun q => requireJobsRead viewer (.ok (listJobs matching q jobs))
    detail := fun id => requireJobsRead viewer (readJob jobs id (detailOut includeTechnical))
    steps := fun id => requireJobsRead viewer (readJob jobs id (stepsOut includeTechnical))
    stream := fun id => requireJobsRead viewer (readJob jobs id (streamOut includeTechnical))
    logs := fun q => requireJobsRead viewer (.ok (searchLogs matching includeTechnical q jobs))
    notifications := jobs.flatMap (notificationsOut viewer.userId) }

end Readers

end InfraOps
