import InfraOps.Services.Provisioning
import InfraOps.Workers.Pipeline

/-!
# The engine

The parts of `JobEngine` that write to a job: the start of a run, a failure outside the
stages, and an interruption with its clean-up.
-/

namespace InfraOps

/-- An exception, as `_fail_before_pipeline` reads it. -/
structure StartError where
  typeName : String
  text : String

/-- `str(exc) or type(exc).__name__`. -/
def StartError.human (e : StartError) : String := if e.text = "" then e.typeName else e.text

/-- The exception `_execute_job` reports for a crashed pipeline. -/
def pipelineCrashed : StartError := ⟨"RuntimeError", "Pipeline crashed unexpectedly"⟩

/-- `_execute_job` up to the `JOB_STARTED` commit. -/
def startRun (r : ProvisioningRequest) (d : Deployment) : Deployment :=
  { d with
    job := JobRepository.ensureSteps d.job
    records := d.records ++ [.jobsTotal "STARTED", .audit {
      action := .jobStarted
      resourceName := r.vmName
      result := "running" }] }

/-- `_fail_before_pipeline`. No answer media is released here. -/
def failBeforePipeline (e : StartError) (now : Timestamp) (d : Deployment) : Deployment :=
  let job := { d.job.mapSteps JobRepository.cancelStep with
    status := .failed
    errorSummary := some (firstChars 500 e.human)
    errorDetail := some (firstChars 4000 s!"{e.human}\n\n{e.typeName}: {e.text}")
    finishedAt := some now
    workerId := none }
  { d with
    job := job
    records := d.records ++ (.jobsTotal JobStatus.failed.value ::
      notifyRequester job .jobFailed (failedMessage job "Start provisioning" e.human) ++
      [.audit {
        action := .jobFailed
        resourceName := job.vmName
        result := "failure"
        detailText := some e.human }]) }

theorem failBeforePipeline_stepStatus (e : StartError) (now : Timestamp) (d : Deployment)
    (k : Stage) : (failBeforePipeline e now d).job.stepStatus k =
      (d.job.stepStatus k).map JobRepository.cancelStatus :=
  JobRepository.cancelStep_stepStatus d.job k

theorem failBeforePipeline_stepArtifacts (e : StartError) (now : Timestamp) (d : Deployment)
    (k : Stage) : (failBeforePipeline e now d).job.stepArtifacts k = d.job.stepArtifacts k :=
  ProvisioningJob.stepArtifacts_mapSteps JobRepository.cancelStep_artifacts k

/-! ## Interruption -/

def workerStopped : String := "The worker executing this job stopped responding."

def workerShutDown : String := "The worker shut down before the job finished."

def interruptedText (reason : String) : String :=
  s!"{reason}\n\nReason:\nThe worker executing this stage stopped.\n\n" ++
    "Recommended action:\nRetry the job; completed stages are not repeated."

/-- A stage that was running failed with its worker, and may be retried. -/
def interruptStep (reason : String) (now : Timestamp) (step : Step) : Step :=
  match step.status with
  | .running => { step with
      status := .failed
      finishedAt := some now
      retryable := true
      errorHuman := some (interruptedText reason) }
  | _ => step

/-- `_interrupt` up to its commit. -/
def interrupt (reason : String) (now : Timestamp) (d : Deployment) : Deployment :=
  let job := { d.job.mapSteps (interruptStep reason now) with
    status := .interrupted
    errorSummary := some reason
    workerId := none
    heartbeatAt := none
    finishedAt := some now }
  { d with
    job := job
    records := d.records ++ (.jobsTotal JobStatus.interrupted.value ::
      notifyRequester job .jobFailed (interruptedMessage job reason) ++
      [.audit {
        action := .jobInterrupted
        resourceName := job.vmName
        result := "interrupted"
        detailText := some reason }]) }

/-- `interruptStep` on statuses. -/
def interruptStatus : StepStatus → StepStatus
  | .running => .failed
  | st => st

theorem interruptStep_status (reason : String) (now : Timestamp) (step : Step) :
    (interruptStep reason now step).status = interruptStatus step.status := by
  unfold interruptStep
  cases h : step.status <;> simp [interruptStatus, h]

theorem interrupt_stepStatus (reason : String) (now : Timestamp) (d : Deployment) (k : Stage) :
    (interrupt reason now d).job.stepStatus k = (d.job.stepStatus k).map interruptStatus :=
  ProvisioningJob.stepStatus_mapSteps (interruptStep_status reason now) k

theorem interrupt_stepArtifacts (reason : String) (now : Timestamp) (d : Deployment)
    (k : Stage) : (interrupt reason now d).job.stepArtifacts k = d.job.stepArtifacts k := by
  refine ProvisioningJob.stepArtifacts_mapSteps (fun step => ?_) k
  unfold interruptStep
  split <;> rfl

/-- The clean-up of `_interrupt`, after its commit, in a context of its own (`contextBuilt`:
`_build_context` did not raise). Its commit is skipped when nothing was removed. -/
def cleanUp (r : ProvisioningRequest) (contextBuilt : Bool) (removal : RemovalAnswers)
    (d : Deployment) : Deployment :=
  if contextBuilt then (releaseUnattendedMedia { request := r } "job interrupted" removal d).1
  else d

end InfraOps
