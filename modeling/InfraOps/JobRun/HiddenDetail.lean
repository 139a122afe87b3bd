import InfraOps.JobRun.Shown
import InfraOps.Workers.HiddenErrors

/-!
# Technical details

What the technical details of errors are in the state of a job, and that no step of its run
reads them: a step leads to the same state but for them, from states that are the same but for
them and with errors that are the same but for theirs.
-/

namespace InfraOps

/-! ## Taking them out -/

def Step.hide (step : Step) : Step := { step with errorTechnical := none }

def ProvisioningJob.hide (job : ProvisioningJob) : ProvisioningJob :=
  { job.mapSteps Step.hide with errorDetail := none }

def Deployment.hide (d : Deployment) : Deployment := { d with job := d.job.hide }

def RunState.hide (s : RunState) : RunState := { s with job := s.job.hide }

/-! ## Reading a job -/

namespace ProvisioningJob

variable (job : ProvisioningJob) (k : Stage)

@[simp] theorem hide_steps : job.hide.steps k = (job.steps k).map Step.hide := rfl

@[simp] theorem hide_stepStatus : job.hide.stepStatus k = job.stepStatus k := by
  rw [stepStatus, hide_steps, Option.map_map]
  rfl

@[simp] theorem hide_stepArtifacts : job.hide.stepArtifacts k = job.stepArtifacts k := by
  rw [stepArtifacts, hide_steps, Option.map_map]
  rfl

@[simp] theorem hide_attempt : job.hide.attempt k = job.attempt k := by
  rw [attempt, hide_steps, Option.map_map]
  rfl

@[simp] theorem hide_hide : job.hide.hide = job.hide := by
  have hsteps : job.hide.hide.steps = job.hide.steps := by
    funext k
    rw [hide_steps, hide_steps, Option.map_map]
    rfl
  show { job.hide with steps := job.hide.hide.steps } = job.hide
  rw [hsteps]

theorem hide_setStep {f g : Step → Step} (h : ∀ step, (f step.hide).hide = (g step).hide) :
    (job.hide.setStep k f).hide = (job.setStep k g).hide := by
  have hsteps : (job.hide.setStep k f).hide.steps = (job.setStep k g).hide.steps := by
    funext k'
    rw [hide_steps, hide_steps]
    by_cases hk : k' = k
    · subst hk
      rw [setStep_steps_self, setStep_steps_self, hide_steps, Option.map_map, Option.map_map,
        Option.map_map]
      exact congrArg (Option.map · (job.steps k')) (funext h)
    · rw [setStep_steps_ne _ _ hk, setStep_steps_ne _ _ hk, hide_steps, Option.map_map]
      rfl
  show { job.hide with steps := (job.hide.setStep k f).hide.steps } = _
  rw [hsteps]
  rfl

theorem hide_mapSteps {f g : Step → Step} (h : ∀ step, (f step.hide).hide = (g step).hide) :
    (job.hide.mapSteps f).hide = (job.mapSteps g).hide := by
  have hsteps : (job.hide.mapSteps f).hide.steps = (job.mapSteps g).hide.steps := by
    funext k
    rw [hide_steps, hide_steps, mapSteps_steps, mapSteps_steps, hide_steps, Option.map_map,
      Option.map_map, Option.map_map]
    exact congrArg (Option.map · (job.steps k)) (funext h)
  show { job.hide with steps := (job.hide.mapSteps f).hide.steps } = _
  rw [hsteps]
  rfl

end ProvisioningJob

theorem requireVmId_hide (ctx : JobRunContext) (job : ProvisioningJob) :
    requireVmId ctx job.hide = requireVmId ctx job := by
  rw [requireVmId, requireVmId, job.hide_stepArtifacts]

theorem booted_hide (job : ProvisioningJob) : booted job.hide = booted job := by
  simp only [booted, job.hide_stepStatus]

theorem vmCreated_hide (job : ProvisioningJob) : vmCreated job.hide = vmCreated job := by
  simp only [vmCreated, job.hide_stepStatus]

theorem mayHoldUnattendedMedia_hide (job : ProvisioningJob) :
    JobRepository.mayHoldUnattendedMedia job.hide = JobRepository.mayHoldUnattendedMedia job := by
  rw [JobRepository.mayHoldUnattendedMedia, JobRepository.mayHoldUnattendedMedia,
    job.hide_stepArtifacts, job.hide_stepStatus]

/-! ## Writing to a job -/

theorem applyJob_hide (job : ProvisioningJob) (a : Assignment) :
    (a.applyJob job.hide).hide = (a.applyJob job).hide := by
  cases a with
  | mediaRemoved => exact job.hide_setStep _ (f := markMediaRemoved) fun _ => rfl
  | infrastructureStatus status =>
    exact congrArg (fun job' : ProvisioningJob =>
      { job' with lifecycle := { job.lifecycle with infrastructureStatus := status } })
        job.hide_hide
  | lifecycle columns =>
    exact congrArg (fun job' : ProvisioningJob => { job' with lifecycle := columns }) job.hide_hide
  | vmRef ref => exact job.hide_hide
  | hostnameChanged => exact job.hide_hide
  | rebootRequired value => exact job.hide_hide

theorem applyAssignments_hide (as : List Assignment) (job : ProvisioningJob) :
    (applyAssignments job.hide as).hide = (applyAssignments job as).hide := by
  induction as generalizing job with
  | nil => exact job.hide_hide
  | cons a as ih =>
    have hstep := applyJob_hide job a
    calc (applyAssignments (a.applyJob job.hide) as).hide
      _ = (applyAssignments (a.applyJob job.hide).hide as).hide := (ih _).symm
      _ = (applyAssignments (a.applyJob job).hide as).hide := by rw [hstep]
      _ = (applyAssignments (a.applyJob job) as).hide := ih _

theorem startStage_hide (k : Stage) (now : Timestamp) (job : ProvisioningJob) :
    (startStage k now job.hide).hide = (startStage k now job).hide := by
  have hstep :
      (job.hide.setStep k (startedStep now)).hide = (job.setStep k (startedStep now)).hide :=
    job.hide_setStep k fun _ => rfl
  exact congrArg (fun job' : ProvisioningJob => { job' with currentStage := some k }) hstep

theorem finishStage_hide (k : Stage) (outcome : StageOutcome) (now : Timestamp)
    (job : ProvisioningJob) :
    (finishStage k outcome now job.hide).hide = (finishStage k outcome now job).hide :=
  job.hide_setStep k fun _ => rfl

theorem errorHumanText_hide (f : InfraOperationError) :
    errorHumanText f.hide = errorHumanText f := by
  rw [errorHumanText, errorHumanText]
  rfl

/-- The path of a screenshot is shown, the detail that it is appended to is not. -/
theorem attachScreenshot_hide (screenshot : Option String) {step step' : Step}
    (h : step.hide = step'.hide) :
    (attachScreenshot screenshot step).hide = (attachScreenshot screenshot step').hide := by
  cases screenshot with
  | none => exact h
  | some path =>
    exact congrArg (fun step : Step => { step with
      artifacts := step.artifacts.insert .consoleScreenshot (.str path) }) h

theorem failedStep_hide (k : Stage) (f : InfraOperationError) (screenshot : Option String)
    (now : Timestamp) (step : Step) :
    (failedStep k f.hide screenshot now step.hide).hide =
      (failedStep k f screenshot now step).hide := by
  refine attachScreenshot_hide screenshot ?_
  unfold Step.hide
  dsimp only
  rw [errorHumanText_hide]
  rfl

theorem failJob_hide (k : Stage) (f : InfraOperationError) (screenshot : Option String)
    (now : Timestamp) (job : ProvisioningJob) :
    (failJob k f.hide screenshot now job.hide).hide = (failJob k f screenshot now job).hide := by
  let mark : Step → Step := fun step => { step with status := .failed }
  have hmark := job.hide_setStep k (f := mark) (g := mark) fun _ => rfl
  have hcreated : vmCreated (job.hide.setStep k mark) = vmCreated (job.setStep k mark) := by
    rw [← vmCreated_hide, hmark, vmCreated_hide]
  have hfailed (shown : Option String) :
      (job.hide.setStep k (failedStep k f.hide shown now)).hide =
        (job.setStep k (failedStep k f shown now)).hide :=
    job.hide_setStep k fun step => failedStep_hide k f shown now step
  unfold failJob
  dsimp only
  rw [show vmCreated (job.hide.setStep k fun step => { step with status := .failed }) =
    vmCreated (job.setStep k fun step => { step with status := .failed }) from hcreated]
  exact congrArg (fun job' : ProvisioningJob =>
    { job' with
      status := if vmCreated (job.setStep k mark) then .partiallyCompleted else .failed
      lifecycle := failLifecycle k job.lifecycle
      errorSummary := some f.humanMessage
      currentStage := some k
      finishedAt := some now }) (hfailed _)

/-! ## The queue and its requests -/

theorem ensureSteps_hide (job : ProvisioningJob) :
    (JobRepository.ensureSteps job.hide).hide = (JobRepository.ensureSteps job).hide := by
  have hsteps : (JobRepository.ensureSteps job.hide).hide.steps =
      (JobRepository.ensureSteps job).hide.steps := by
    funext k
    simp only [ProvisioningJob.hide_steps, JobRepository.ensureSteps_steps]
    cases job.steps k with
    | none => rfl
    | some step => rfl
  exact congrArg (fun steps => { job.hide with steps }) hsteps

theorem cancelStep_hide (step : Step) :
    (JobRepository.cancelStep step.hide).hide = (JobRepository.cancelStep step).hide := by
  unfold JobRepository.cancelStep Step.hide
  dsimp only
  split <;> rfl

theorem requestCancel_hide (job : ProvisioningJob) (now : Timestamp) :
    (JobRepository.requestCancel job.hide now).hide =
      (JobRepository.requestCancel job now).hide := by
  have hflag : job.hide.hide = job.hide := job.hide_hide
  have hsteps : (job.hide.mapSteps JobRepository.cancelStep).hide =
      (job.mapSteps JobRepository.cancelStep).hide := job.hide_mapSteps cancelStep_hide
  have hstatus : job.hide.status = job.status := rfl
  unfold JobRepository.requestCancel
  dsimp only
  rw [hstatus]
  split
  · exact congrArg (fun job' : ProvisioningJob => { job' with
      cancelRequested := true, status := .cancelled, finishedAt := some now }) hsteps
  · exact congrArg (fun job' : ProvisioningJob => { job' with
      cancelRequested := true, status := .cancelled, finishedAt := some now }) hsteps
  · exact congrArg (fun job' : ProvisioningJob => { job' with cancelRequested := true }) hflag

theorem cancelJob_hide (job : ProvisioningJob) (now : Timestamp) :
    (cancelJob job.hide now).map ProvisioningJob.hide =
      (cancelJob job now).map ProvisioningJob.hide := by
  have hover : (handOver job.hide now).hide = (handOver job now).hide :=
    congrArg (fun job' : ProvisioningJob => handOver job' now) job.hide_hide
  have hstatus : job.hide.status = job.status := rfl
  rw [cancelJob, cancelJob, mayHoldUnattendedMedia_hide, hstatus]
  split
  · exact congrArg Except.ok hover
  · split
    · rfl
    · exact congrArg Except.ok (requestCancel_hide job now)

theorem resets_hide (job : ProvisioningJob) (stageKeys : Option (List Stage)) (k : Stage) :
    JobRepository.resets job.hide stageKeys k = JobRepository.resets job stageKeys k := by
  rw [JobRepository.resets, JobRepository.resets, ProvisioningJob.hide_steps, Option.any_map]
  rfl

theorem resetForRetry_hide (job : ProvisioningJob) (stageKeys : Option (List Stage))
    (now : Timestamp) :
    (JobRepository.resetForRetry job.hide stageKeys now).1.hide =
        (JobRepository.resetForRetry job stageKeys now).1.hide ∧
      (JobRepository.resetForRetry job.hide stageKeys now).2 =
        (JobRepository.resetForRetry job stageKeys now).2 := by
  have hresets : (fun k => JobRepository.resets job.hide stageKeys k) =
      fun k => JobRepository.resets job stageKeys k := funext (resets_hide job stageKeys)
  have hsteps : (fun k => ((job.hide.steps k).map fun step =>
      if JobRepository.resets job.hide stageKeys k then { step with status := .pending }
        else step).map Step.hide) =
      fun k => ((job.steps k).map fun step =>
        if JobRepository.resets job stageKeys k then { step with status := .pending }
          else step).map Step.hide := by
    funext k
    rw [resets_hide, ProvisioningJob.hide_steps, Option.map_map, Option.map_map, Option.map_map]
    refine congrArg (Option.map · (job.steps k)) (funext fun step => ?_)
    cases JobRepository.resets job stageKeys k <;> rfl
  unfold JobRepository.resetForRetry
  dsimp only
  rw [hresets]
  split
  · exact ⟨job.hide_hide, rfl⟩
  · refine ⟨?_, rfl⟩
    exact congrArg (fun steps : StepTable => { job with
      steps, status := .queued, cancelRequested := false, workerId := none, heartbeatAt := none
      errorSummary := none, errorDetail := none, finishedAt := none, queuedAt := now }) hsteps

theorem selectStages_hide (job : ProvisioningJob) (stageKey : Option String) :
    selectStages job.hide stageKey = selectStages job stageKey := by
  have hstage (key : String) : selectStage job.hide key = selectStage job key := by
    rw [selectStage, selectStage]
    cases stageByKey? key with
    | none => rfl
    | some k =>
      dsimp only
      rw [ProvisioningJob.hide_steps]
      cases job.steps k with
      | none => rfl
      | some step => rfl
  cases stageKey with
  | none => rfl
  | some key => rw [selectStages, selectStages, hstage]

theorem retryStages_hide (job : ProvisioningJob) (stageKey : Option String) (parses : Bool)
    (others othersAtCommit : List OtherJob) (now : Timestamp) :
    (retryStages job.hide stageKey parses others othersAtCommit now).map
        (Prod.map ProvisioningJob.hide id) =
      (retryStages job stageKey parses others othersAtCommit now).map
        (Prod.map ProvisioningJob.hide id) := by
  have hstatus : job.hide.status = job.status := rfl
  have hname : job.hide.vmName = job.vmName := rfl
  have haddress : job.hide.reservedIpv4 = job.reservedIpv4 := rfl
  unfold retryStages
  rw [selectStages_hide, hstatus, hname, haddress]
  split
  · rfl
  · split
    · rfl
    · cases selectStages job stageKey with
      | error error => rfl
      | ok stageKeys =>
        dsimp only
        split
        · rfl
        · obtain ⟨hjob, hkeys⟩ := resetForRetry_hide job stageKeys now
          rw [hkeys]
          split
          · rfl
          · cases violatedReservation othersAtCommit job.vmName job.reservedIpv4 with
            | some violated => rfl
            | none => exact congrArg Except.ok (Prod.ext hjob rfl)

/-! ## What a session commits -/

namespace Deployment

variable {d d' : Deployment}

@[simp] theorem hide_hide (d : Deployment) : d.hide.hide = d.hide :=
  congrArg (fun job => { d with job }) d.job.hide_hide

theorem hide_eq_iff :
    d.hide = d'.hide ↔ d.job.hide = d'.job.hide ∧ d.world = d'.world ∧ d.records = d'.records :=
  Deployment.mk.injEq _ _ _ _ _ _ ▸ Iff.rfl

end Deployment

theorem removeAnswerMedia_hide (path : String) (a : RemovalAnswers) :
    removeAnswerMedia path a.hide =
      Prod.map id (Option.map InfraOperationError.hide) (removeAnswerMedia path a) := by
  cases a <;> rfl

theorem releasedStep_hide (b : Bool) (reason : String) (step : Step) :
    (releasedStep b reason step.hide).hide = (releasedStep b reason step).hide := by
  unfold releasedStep Step.hide
  dsimp only
  split <;> rfl

theorem releaseUnattendedMedia_answers (ctx : JobRunContext) (reason : String)
    (a : RemovalAnswers) (d : Deployment) :
    releaseUnattendedMedia ctx reason a.hide d = releaseUnattendedMedia ctx reason a d := by
  unfold releaseUnattendedMedia
  simp only [removeAnswerMedia_hide]
  cases a <;> rfl

theorem releaseUnattendedMedia_hide (ctx : JobRunContext) (reason : String) (a : RemovalAnswers)
    (d : Deployment) :
    (releaseUnattendedMedia ctx reason a d.hide).1.hide =
      (releaseUnattendedMedia ctx reason a d).1.hide := by
  have hjob : d.hide.job = d.job.hide := rfl
  have hstep : (d.job.hide.setStep .prepareUnattendedInstall
      (releasedStep (booted d.job) reason)).hide = (d.job.setStep .prepareUnattendedInstall
      (releasedStep (booted d.job) reason)).hide :=
    d.job.hide_setStep _ (releasedStep_hide (booted d.job) reason)
  unfold releaseUnattendedMedia
  simp only [hjob, ProvisioningJob.hide_stepArtifacts, ProvisioningJob.hide_stepStatus,
    requireVmId_hide, booted_hide]
  split
  · exact d.hide_hide
  · split
    · exact d.hide_hide
    · cases requireVmId ctx d.job with
      | error error => exact d.hide_hide
      | ok vmId =>
        dsimp only
        cases removeAnswerMedia _ a with
        | mk effects failure =>
          cases failure with
          | some error =>
            exact congrArg (fun job => { d with job, world := d.world.applyAll effects })
              d.job.hide_hide
          | none =>
            exact congrArg (Deployment.mk · _ _) hstep

/-- What reads nothing that is hidden. -/
theorem eq_of_hide {β : Type} (R : ProvisioningJob → β) (hR : ∀ job, R job.hide = R job)
    {job job' : ProvisioningJob} (h : job.hide = job'.hide) : R job = R job' := by
  rw [← hR job, h, hR job']

theorem attempt_of_hide {job job' : ProvisioningJob} (h : job.hide = job'.hide) (k : Stage) :
    job.attempt k = job'.attempt k :=
  eq_of_hide (·.attempt k) (fun job => job.hide_attempt k) h

theorem stepStatus_of_hide {job job' : ProvisioningJob} (h : job.hide = job'.hide) (k : Stage) :
    job.stepStatus k = job'.stepStatus k :=
  eq_of_hide (·.stepStatus k) (fun job => job.hide_stepStatus k) h

theorem status_of_hide {job job' : ProvisioningJob} (h : job.hide = job'.hide) :
    job.status = job'.status := eq_of_hide ProvisioningJob.status (fun _ => rfl) h

theorem vmName_of_hide {job job' : ProvisioningJob} (h : job.hide = job'.hide) :
    job.vmName = job'.vmName := eq_of_hide ProvisioningJob.vmName (fun _ => rfl) h

theorem notifyRequester_of_hide {job job' : ProvisioningJob} (h : job.hide = job'.hide)
    (kind : NotificationKind) (text : ProvisioningJob → String × String)
    (htext : ∀ job, text job.hide = text job) :
    notifyRequester job kind (text job) = notifyRequester job' kind (text job') := by
  refine eq_of_hide (fun job => notifyRequester job kind (text job)) (fun job => ?_) h
  rw [htext]
  rfl

/-- What `_handle_failure` leaves before the release. -/
def recordFailure (k : Stage) (job : ProvisioningJob) (d : Deployment) : Deployment :=
  { d with job, records := d.records ++ [.stageFailures k, .jobsTotal job.status.value] }

/-- What `_handle_failure` records after the release. -/
def notifyFailure (k : Stage) (f : InfraOperationError) (d : Deployment) : Deployment :=
  { d with records := d.records ++
      (notifyRequester d.job .jobFailed (failedMessage d.job k.name
        s!"{f.humanMessage} {f.reason}") ++
      [.audit {
        action := .jobStageFailed
        resourceName := k.name
        result := "failure"
        details := [("stage", k.key), ("attempt", toString (d.job.attempt k))]
        detailText := some f.summary }]) }

theorem handleFailure_parts (ctx : JobRunContext) (k : Stage) (f : InfraOperationError)
    (screenshot : Option String) (removal : RemovalAnswers) (now : Timestamp) (d : Deployment) :
    handleFailure ctx k f screenshot removal now d =
      notifyFailure k f (releaseUnattendedMedia ctx s!"stage '{k.key}' failed" removal
        (recordFailure k (failJob k f screenshot now d.job) d)).1 := rfl

theorem recordFailure_hide (k : Stage) {job job' : ProvisioningJob} (hjob : job.hide = job'.hide)
    (d : Deployment) : (recordFailure k job d.hide).hide = (recordFailure k job' d).hide := by
  refine Deployment.hide_eq_iff.mpr ⟨hjob, rfl, ?_⟩
  show d.records ++ [.stageFailures k, .jobsTotal job.status.value] = _
  rw [status_of_hide hjob]
  rfl

theorem notifyFailure_hide (k : Stage) (f : InfraOperationError) {d d' : Deployment}
    (h : d.hide = d'.hide) : (notifyFailure k f.hide d).hide = (notifyFailure k f d').hide := by
  obtain ⟨hjob, hworld, hrecords⟩ := Deployment.hide_eq_iff.mp h
  refine Deployment.hide_eq_iff.mpr ⟨hjob, hworld, ?_⟩
  have hnotify := notifyRequester_of_hide hjob .jobFailed
    (failedMessage · k.name s!"{f.humanMessage} {f.reason}") fun _ => rfl
  unfold notifyFailure
  dsimp only [InfraOperationError.hide]
  rw [hrecords, hnotify, attempt_of_hide hjob k]
  rfl

theorem handleFailure_hide (ctx : JobRunContext) (k : Stage) (f : InfraOperationError)
    (screenshot : Option String) (removal : RemovalAnswers) (now : Timestamp) (d : Deployment) :
    (handleFailure ctx k f.hide screenshot removal.hide now d.hide).hide =
      (handleFailure ctx k f screenshot removal now d).hide := by
  have hjob := failJob_hide k f screenshot now d.job
  have hrecorded := recordFailure_hide k hjob d
  rw [handleFailure_parts, handleFailure_parts, releaseUnattendedMedia_answers]
  refine notifyFailure_hide k f ?_
  rw [← releaseUnattendedMedia_hide]
  show (releaseUnattendedMedia ctx _ removal
    (recordFailure k (failJob k f.hide screenshot now d.job.hide) d.hide).hide).1.hide = _
  rw [hrecorded, releaseUnattendedMedia_hide]

theorem cancelRunStep_hide (now : Timestamp) (step : Step) :
    (cancelRunStep now step.hide).hide = (cancelRunStep now step).hide := by
  unfold cancelRunStep Step.hide
  dsimp only
  split <;> rfl

theorem interruptStep_hide (reason : String) (now : Timestamp) (step : Step) :
    (interruptStep reason now step.hide).hide = (interruptStep reason now step).hide := by
  unfold interruptStep Step.hide
  dsimp only
  split <;> rfl

theorem mapSteps_of_hide {job job' : ProvisioningJob} {f : Step → Step}
    (hf : ∀ step, (f step.hide).hide = (f step).hide) (h : job.hide = job'.hide) :
    (job.mapSteps f).hide = (job'.mapSteps f).hide := by
  rw [← job.hide_mapSteps hf, h, job'.hide_mapSteps hf]

section Released

variable {a a' : RemovalAnswers} (hr : a.hide = a'.hide) {d d' : Deployment} (h : d.hide = d'.hide)
include hr h

theorem releaseUnattendedMedia_of_hide (ctx : JobRunContext) (reason : String) :
    (releaseUnattendedMedia ctx reason a d).1.hide =
      (releaseUnattendedMedia ctx reason a' d').1.hide := by
  rw [← releaseUnattendedMedia_answers, hr, releaseUnattendedMedia_answers,
    ← releaseUnattendedMedia_hide, h, releaseUnattendedMedia_hide]

theorem applyCancellation_of_hide (ctx : JobRunContext) (now : Timestamp) :
    (applyCancellation ctx a now d).hide = (applyCancellation ctx a' now d').hide := by
  have hreleased := releaseUnattendedMedia_of_hide hr h ctx "job cancelled"
  obtain ⟨hjob, hworld, hrecords⟩ := Deployment.hide_eq_iff.mp hreleased
  have hsteps := mapSteps_of_hide (cancelRunStep_hide now) hjob
  refine Deployment.hide_eq_iff.mpr ⟨?_, hworld, ?_⟩
  · exact congrArg (fun job : ProvisioningJob =>
      { job with status := .cancelled, finishedAt := some now }) hsteps
  · exact congrArg (· ++ _) hrecords

theorem cancelStage_of_hide (ctx : JobRunContext) (k : Stage) (now : Timestamp) :
    (cancelStage ctx k a now d).hide = (cancelStage ctx k a' now d').hide := by
  obtain ⟨hjob, hworld, hrecords⟩ := Deployment.hide_eq_iff.mp h
  have hstep : ∀ step, (cancelledStep now step.hide).hide = (cancelledStep now step).hide :=
    fun _ => rfl
  have hcancelled : ({ d with job := d.job.setStep k (cancelledStep now) } : Deployment).hide =
      ({ d' with job := d'.job.setStep k (cancelledStep now) } : Deployment).hide := by
    refine Deployment.hide_eq_iff.mpr ⟨?_, hworld, hrecords⟩
    show (d.job.setStep k (cancelledStep now)).hide = (d'.job.setStep k (cancelledStep now)).hide
    rw [← d.job.hide_setStep k hstep, hjob, d'.job.hide_setStep k hstep]
  exact applyCancellation_of_hide hr hcancelled ctx now

theorem cleanUp_of_hide (r : ProvisioningRequest) (contextBuilt : Bool) :
    (cleanUp r contextBuilt a d).hide = (cleanUp r contextBuilt a' d').hide := by
  rw [cleanUp, cleanUp]
  cases contextBuilt with
  | false => exact h
  | true => exact releaseUnattendedMedia_of_hide hr h _ _

end Released

/-- What `_finalize_success` records of the finished job. -/
def completionRecords (ctx : JobRunContext) (job : ProvisioningJob) : List Record :=
  let summary := summaryOf (job.stepArtifacts .finalValidation)
  notifyRequester job .jobCompleted (completedMessage job summary) ++
    [.jobsTotal JobStatus.completed.value, .audit {
      action := .jobCompleted
      resourceName := ctx.request.vmName
      result := "success"
      details := [("computer_name", summary.computerName), ("fqdn", summary.fqdn)]
      detailText := some (if summary.fqdn = ""
        then s!"Provisioned '{ctx.request.vmName}' successfully."
        else s!"Provisioned '{summary.fqdn}' successfully.") }]

theorem completionRecords_hide (ctx : JobRunContext) (job : ProvisioningJob) :
    completionRecords ctx job.hide = completionRecords ctx job := by
  rw [completionRecords, completionRecords, job.hide_stepArtifacts]
  rfl

theorem finalizeSuccess_of_hide (ctx : JobRunContext) (now : Timestamp) {d d' : Deployment}
    (h : d.hide = d'.hide) :
    (finalizeSuccess ctx now d).hide = (finalizeSuccess ctx now d').hide := by
  obtain ⟨hjob, hworld, hrecords⟩ := Deployment.hide_eq_iff.mp h
  have hfinished : (finalizeSuccess ctx now d).job.hide = (finalizeSuccess ctx now d').job.hide :=
    congrArg (fun job : ProvisioningJob => { job with
      status := .completed
      errorSummary := none
      finishedAt := some now
      currentStage := some .finalValidation }) hjob
  have hnew := eq_of_hide (completionRecords ctx) (completionRecords_hide ctx) hfinished
  exact Deployment.hide_eq_iff.mpr ⟨hfinished, hworld, congrArg₂ (· ++ ·) hrecords hnew⟩

theorem startRun_hide (r : ProvisioningRequest) (d : Deployment) :
    (startRun r d.hide).hide = (startRun r d).hide :=
  Deployment.hide_eq_iff.mpr ⟨ensureSteps_hide d.job, rfl, rfl⟩

theorem failBeforePipeline_of_hide (e : StartError) (now : Timestamp) {d d' : Deployment}
    (h : d.hide = d'.hide) :
    (failBeforePipeline e now d).hide = (failBeforePipeline e now d').hide := by
  obtain ⟨hjob, hworld, hrecords⟩ := Deployment.hide_eq_iff.mp h
  have hsteps := mapSteps_of_hide cancelStep_hide hjob
  have hfailed : (failBeforePipeline e now d).job.hide = (failBeforePipeline e now d').job.hide :=
    congrArg (fun job : ProvisioningJob => { job with
      status := .failed
      errorSummary := some (firstChars 500 e.human)
      finishedAt := some now
      workerId := none }) hsteps
  have hnotify := notifyRequester_of_hide hfailed .jobFailed
    (failedMessage · "Start provisioning" e.human) fun _ => rfl
  refine Deployment.hide_eq_iff.mpr ⟨hfailed, hworld, ?_⟩
  show d.records ++ (_ :: notifyRequester (failBeforePipeline e now d).job .jobFailed
    (failedMessage (failBeforePipeline e now d).job "Start provisioning" e.human) ++
      [.audit ⟨_, (failBeforePipeline e now d).job.vmName, _, _, _⟩]) = _
  rw [hrecords, hnotify, vmName_of_hide hfailed]
  rfl

theorem interrupt_of_hide (reason : String) (now : Timestamp) {d d' : Deployment}
    (h : d.hide = d'.hide) : (interrupt reason now d).hide = (interrupt reason now d').hide := by
  obtain ⟨hjob, hworld, hrecords⟩ := Deployment.hide_eq_iff.mp h
  have hsteps := mapSteps_of_hide (interruptStep_hide reason now) hjob
  have hparked : (interrupt reason now d).job.hide = (interrupt reason now d').job.hide :=
    congrArg (fun job : ProvisioningJob => { job with
      status := .interrupted
      errorSummary := some reason
      workerId := none
      heartbeatAt := none
      finishedAt := some now }) hsteps
  have hnotify := notifyRequester_of_hide hparked .jobFailed
    (interruptedMessage · reason) fun _ => rfl
  refine Deployment.hide_eq_iff.mpr ⟨hparked, hworld, ?_⟩
  show d.records ++ (_ :: notifyRequester (interrupt reason now d).job .jobFailed
    (interruptedMessage (interrupt reason now d).job reason) ++
      [.audit ⟨_, (interrupt reason now d).job.vmName, _, _, _⟩]) = _
  rw [hrecords, hnotify, vmName_of_hide hparked]
  rfl

end InfraOps
