import InfraOps.JobRun.Machine

/-!
# What a run shows

On top of the machine of one job: the columns that only readers use, what a running handler
writes for them, and the live events of `publish_stage`. The percentage of `compute_progress`
is in doubles and left open.
-/

namespace InfraOps

/-- An event on the job's channel. -/
structure LiveEvent where
  stage : Option String
  status : String
  progress : Nat
  message : String
  deriving DecidableEq

/-- What readers see that no run changes: the name of the requester, the stored request as
`_request_view` gives it, and two columns of the step rows. -/
structure JobFacts where
  jobType : String := "vm_provisioning"
  requestedByUsername : Option String := none
  requestPayload : Option Json := none
  legacyRequest : Bool := false
  stepId : Stage → String
  maxAttempts : Stage → Nat := fun _ => 3

/-- A duration is in microseconds. -/
structure ShownJob extends RunState where
  facts : JobFacts
  datacenterId : Option String := none
  datacenterName : Option String := none
  progress : Nat := 0
  duration : Option Int := none
  published : List LiveEvent := []

/-- What the handler of a running stage writes before it ends. -/
inductive HandlerWrite
  | liveStatus (text updatedAt : String)
  | liveStatusRemoved
  | datacenter (id name : Option String)

inductive Moment
  | event (e : Event)
  | write (w : HandlerWrite)

/-! ## Columns -/

section Percentage

variable (percent : Nat → Nat → Nat → Nat)

/-- `compute_progress`: `percent` is of the numbers of finished, running and all stages. -/
def computeProgress (job : ProvisioningJob) : Nat :=
  let actionable := (orderedStages.filterMap job.stepStatus).filter fun st =>
    st ≠ .skipped && st ≠ .notApplicable
  if actionable = [] then 0
  else
    let done := actionable.countP fun st => st = .succeeded || st = .warning || st = .cancelled
    let running := actionable.countP fun st => st = .running
    min 100 (percent done running actionable.length)

/-- `duration_seconds`: unchanged unless the job has been started. -/
def elapsed (job : ProvisioningJob) (now : Timestamp) (before : Option Int) : Option Int :=
  match job.startedAt with
  | some started => some (now - started)
  | none => before

def currentKey (job : ProvisioningJob) : Option String := job.currentStage.map Stage.key

/-- `text.splitlines()[0][:200]`. -/
def firstLine (text : String) : String :=
  firstChars 200 (String.ofList (text.toList.takeWhile fun c => !isLineBreak c))

/-! ## What a step shows -/

/-- The columns after a step, and the event it publishes. -/
structure Notice where
  progress : Nat
  duration : Option Int
  event : LiveEvent

namespace ShownJob

variable (s : ShownJob)

/-- After the first commit of `_run_stage`. -/
def started (k : Stage) (job : ProvisioningJob) : Notice where
  progress := computeProgress percent job
  duration := s.duration
  event :=
    { stage := some k.key
      status := "RUNNING"
      progress := computeProgress percent job
      message := s!"Started: {k.name}" }

/-- After the last commit of `_run_stage`. -/
def finished (k : Stage) (outcome : StageOutcome) (job : ProvisioningJob) : Notice where
  progress := computeProgress percent job
  duration := s.duration
  event :=
    { stage := currentKey job
      status := outcome.status.toStep.value
      progress := computeProgress percent job
      message := if outcome.output = "" then k.name else firstLine outcome.output }

/-- `_handle_failure`: the progress is computed before the release. -/
def failed (k : Stage) (f : InfraOperationError) (screenshot : Option String) (now : Timestamp)
    (job : ProvisioningJob) : Notice :=
  let progress := computeProgress percent (failJob k f screenshot now job)
  { progress
    duration := elapsed job now s.duration
    event :=
      { stage := some k.key
        status := "FAILED"
        progress
        message := f.humanMessage } }

/-- `_apply_cancellation`. -/
def cancelled (now : Timestamp) (job : ProvisioningJob) : Notice where
  progress := computeProgress percent job
  duration := elapsed job now s.duration
  event :=
    { stage := currentKey job
      status := "CANCELLED"
      progress := computeProgress percent job
      message := "Provisioning cancelled by user request." }

/-- `_finalize_success`. -/
def completed (ctx : JobRunContext) (now : Timestamp) (job : ProvisioningJob) : Notice where
  progress := 100
  duration := elapsed job now s.duration
  event :=
    let address := (summaryOf (job.stepArtifacts .finalValidation)).ipAddress
    { stage := some Stage.finalValidation.key
      status := "COMPLETED"
      progress := 100
      message := s!"Successfully provisioned {ctx.request.vmName}" ++
        (if address = "" then "" else s!" ({address})") }

/-- `_fail_before_pipeline`. -/
def failedBefore (error : StartError) (now : Timestamp) : Notice where
  progress := s.progress
  duration := elapsed s.job now s.duration
  event :=
    { stage := none
      status := JobStatus.failed.value
      progress := s.progress
      message := error.human }

/-- `_interrupt`. -/
def interruptedFor (reason : String) (now : Timestamp) (job : ProvisioningJob) : Notice where
  progress := computeProgress percent job
  duration := elapsed job now s.duration
  event :=
    { stage := currentKey job
      status := JobStatus.interrupted.value
      progress := computeProgress percent job
      message := reason }

/-- `retry_stages`, after the reset. -/
def retried (reset : List Stage) (job : ProvisioningJob) : Notice where
  progress := computeProgress percent job
  duration := none
  event :=
    { stage := none
      status := JobStatus.queued.value
      progress := computeProgress percent job
      message := "Retrying stage(s): " ++ ", ".intercalate (reset.map Stage.key) }

/-- `cancel_job`. -/
def cancelling (job : ProvisioningJob) : Notice where
  progress := s.progress
  duration := s.duration
  event :=
    { stage := currentKey job
      status := "CANCELLING"
      progress := s.progress
      message := "Cancellation requested." }

/-- The notice of one iteration of the stage loop that led to `s'`. -/
def nextNotice (now : Timestamp) (s' : RunState) : Option Notice :=
  match s.exec, s'.exec with
  | .loop [] ctx, _ => some (s.completed ctx now s'.job)
  | .loop (k :: _) _, .stage _ _ _ => some (s.started percent k s'.job)
  | .loop (_ :: _) _, .idle => some (s.cancelled percent now s'.job)
  | _, _ => none

/-- The notice of a handler that ends by itself. -/
def finishNotice (answers : StageAnswers) (screenshot : Option String) (now : Timestamp)
    (s' : RunState) : Option Notice :=
  match s.exec with
  | .stage k _ ctx =>
    (runHandler k ctx s.job s.world answers).map fun run =>
      match run.result with
      | .ok outcome => s.finished percent k outcome s'.job
      | .error raised => s.failed percent k (raised.failure k) screenshot now (s.ranTo run).job
  | _ => none

/-- The notice of a stage timeout. -/
def timeOutNotice (answers : StageAnswers) (cut : Cut) (seconds : Nat)
    (screenshot : Option String) (now : Timestamp) : Option Notice :=
  match s.exec with
  | .stage k _ ctx =>
    (runHandler k ctx s.job s.world answers).map fun run =>
      s.failed percent k (timeoutFailure k seconds) screenshot now (s.cutAt run cut).job
  | _ => none

/-- What the step from `s` to `s'` shows; a claim, a heartbeat or a clean-up shows nothing. -/
def notice (e : Event) (s' : RunState) : Option Notice :=
  match e.action with
  | .next _ => s.nextNotice percent e.now s'
  | .finish answers _ screenshot => s.finishNotice percent answers screenshot e.now s'
  | .timeOut answers cut seconds _ screenshot =>
    s.timeOutNotice percent answers cut seconds screenshot e.now
  | .stageCancelled _ _ _ => some (s.cancelled percent e.now s'.job)
  | .startFails error =>
    if s.job.status = .running then some (s.failedBefore error e.now) else none
  | .crash _ => some (s.failedBefore pipelineCrashed e.now)
  | .interrupt reason _ =>
    if s.job.status = .running then some (s.interruptedFor percent reason e.now s'.job) else none
  | .retry stageKey parses others othersAtCommit =>
    match retryStages s.job stageKey parses others othersAtCommit e.now with
    | .ok (_, reset) => some (retried percent reset s'.job)
    | .error _ => none
  | .cancel => some (s.cancelling s'.job)
  | .claim _ | .start | .heartbeat | .cleanUp _ _ | .land _ => none

/-- The shown job after a step to `s'`. -/
def noticed (s' : RunState) : Option Notice → ShownJob
  | none => { s with toRunState := s' }
  | some notice =>
    { s with
      toRunState := s'
      progress := notice.progress
      duration := notice.duration
      published := s.published ++ [notice.event] }

/-! ## The machine -/

/-- `report_live_status` on the row of the running stage. -/
def reportedStep (text updatedAt : String) (step : Step) : Step :=
  { step with
    output := some text
    artifacts := step.artifacts.insert (.other "live_status")
      (.obj [("text", .str text), ("updated_at", .str updatedAt)]) }

def withoutLiveStatus (step : Step) : Step :=
  { step with artifacts := step.artifacts.erase (.other "live_status") }

/-- Only the installation reports what it sees, and only the validation names the
datacenter. -/
def written (w : HandlerWrite) : Option ShownJob :=
  match w, s.exec with
  | .liveStatus text updatedAt, .stage .waitForGuestOs _ _ =>
    some { s with
      job := s.job.setStep .waitForGuestOs (reportedStep text updatedAt)
      published := s.published ++
        [{ stage := some Stage.waitForGuestOs.key
           status := "RUNNING"
           progress := s.progress
           message := text }] }
  | .liveStatusRemoved, .stage .waitForGuestOs _ _ =>
    some { s with job := s.job.setStep .waitForGuestOs withoutLiveStatus }
  | .datacenter id name, .stage .validateInfrastructure _ _ =>
    some { s with datacenterId := id, datacenterName := name }
  | _, _ => none

def step : Moment → Option ShownJob
  | .event e => (s.toRunState.step e).map fun s' => s.noticed s' (s.notice percent e s')
  | .write w => s.written w

end ShownJob

/-- The machine of one job with what it shows. -/
def shownRun : Machine ShownJob Moment where
  init s := s.Submitted
  step s := s.step percent

end Percentage

end InfraOps
