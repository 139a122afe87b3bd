import InfraOps.Repositories.Jobs
import InfraOps.Workers.Stages

/-!
# The pipeline

`ProvisioningPipeline`: starting a stage, its four ends, and the two terminal transitions
that are not a stage failure. Every function acts on a `Deployment`, which is what the
session commits together with what has happened outside.
-/

namespace InfraOps

/-- The job row, the world and what has been recorded so far. -/
structure Deployment where
  job : ProvisioningJob
  world : World
  records : List Record := []

/-! ## `release_unattended_media` -/

/-- Windows has booted from the media. -/
def booted (job : ProvisioningJob) : Bool :=
  job.stepStatus .powerOn == some .succeeded || job.stepStatus .powerOn == some .skipped

/-- What the release writes to the preparation step: unless Windows has booted, the stage
is reset so that a retry regenerates the media. -/
def releasedStep (booted : Bool) (reason : String) (step : Step) : Step :=
  let artifacts := (step.artifacts.insert .mediaRemoved (.bool true)).insert
    .mediaRemovedReason (.str reason)
  if step.status = .succeeded ∧ booted = false then
    { step with
      artifacts := artifacts
      status := .pending
      output := some "Answer media removed after the job stopped; it is regenerated on retry." }
  else { step with artifacts := artifacts }

/-- `release_unattended_media`; the result tells whether media was removed. -/
def releaseUnattendedMedia (ctx : JobRunContext) (reason : String) (a : RemovalAnswers)
    (d : Deployment) : Deployment × Bool :=
  let artifacts := d.job.stepArtifacts .prepareUnattendedInstall
  if !artifacts.has .datastorePath || artifacts.has .mediaRemoved then (d, false)
  else if d.job.stepStatus .cleanupUnattendedMedia = some .succeeded then (d, false)
  else match requireVmId ctx d.job with
    | .error _ => (d, false)
    | .ok _ =>
      let path := (artifacts.str? .datastorePath).getD ""
      let removal := removeAnswerMedia path a
      let world := d.world.applyAll removal.1
      match removal.2 with
      | some _ => ({ d with world }, false)
      | none =>
        ({ job := d.job.setStep .prepareUnattendedInstall (releasedStep (booted d.job) reason)
           world
           records := d.records ++ [.audit {
             action := .unattendedMediaRemoved
             resourceName := ctx.request.vmName
             result := "success"
             details := [("reason", reason)] }] },
          true)

/-- The path that the release works on. -/
def recordedPath (job : ProvisioningJob) : String :=
  ((job.stepArtifacts .prepareUnattendedInstall).str? .datastorePath).getD ""

/-- **The release** either leaves the job alone, whatever it removed, or removes the media
and says so in the preparation step. -/
theorem releaseUnattendedMedia_cases (ctx : JobRunContext) (reason : String)
    (a : RemovalAnswers) (d : Deployment) :
    ((releaseUnattendedMedia ctx reason a d).1.job = d.job ∧
        ∃ es, (releaseUnattendedMedia ctx reason a d).1.world = d.world.applyAll es ∧
          ∀ e ∈ es, e = .detach (recordedPath d.job) ∨ e = .delete (recordedPath d.job)) ∨
      (JobRepository.mayHoldUnattendedMedia d.job = true ∧
        (releaseUnattendedMedia ctx reason a d).1.job =
          d.job.setStep .prepareUnattendedInstall (releasedStep (booted d.job) reason) ∧
        (releaseUnattendedMedia ctx reason a d).1.world =
          d.world.applyAll [.detach (recordedPath d.job), .delete (recordedPath d.job)]) := by
  unfold releaseUnattendedMedia
  dsimp only
  split
  · exact .inl ⟨rfl, [], rfl, by simp⟩
  · rename_i hguard
    split
    · exact .inl ⟨rfl, [], rfl, by simp⟩
    · rename_i hcleanup
      have hmay : JobRepository.mayHoldUnattendedMedia d.job = true := by
        simp_all [JobRepository.mayHoldUnattendedMedia]
      split
      · exact .inl ⟨rfl, [], rfl, by simp⟩
      · cases a with
        | unreachable error => exact .inl ⟨rfl, [], rfl, by simp⟩
        | detachFails error => exact .inl ⟨rfl, [], rfl, by simp⟩
        | deleteFails error => exact .inl ⟨rfl, [.detach (recordedPath d.job)], rfl, by simp⟩
        | removes => exact .inr ⟨hmay, rfl, rfl⟩

/-- A release that is called with media to remove, a VM to remove them from and a vCenter
that obeys, removes them. -/
theorem releaseUnattendedMedia_of_succeeds {ctx : JobRunContext} {reason vmId : String}
    {a : RemovalAnswers} {d : Deployment}
    (hmay : JobRepository.mayHoldUnattendedMedia d.job = true) (ha : a.succeeds = true)
    (hvm : requireVmId ctx d.job = .ok vmId) :
    (releaseUnattendedMedia ctx reason a d).1.job =
      d.job.setStep .prepareUnattendedInstall (releasedStep (booted d.job) reason) := by
  simp only [JobRepository.mayHoldUnattendedMedia, Bool.and_eq_true, Bool.not_eq_eq_eq_not,
    Bool.not_true, bne_iff_ne, ne_eq] at hmay
  obtain ⟨⟨hpath, hremoved⟩, hcleanup⟩ := hmay
  unfold releaseUnattendedMedia
  simp [hpath, hremoved, hcleanup, hvm, removeAnswerMedia_of_succeeds ha]

/-- Without media to remove, the release does nothing. -/
theorem releaseUnattendedMedia_of_not_mayHold {d : Deployment}
    (h : JobRepository.mayHoldUnattendedMedia d.job = false) (ctx : JobRunContext)
    (reason : String) (a : RemovalAnswers) :
    releaseUnattendedMedia ctx reason a d = (d, false) := by
  unfold releaseUnattendedMedia
  dsimp only
  split
  · rfl
  · rename_i hguard
    split
    · rfl
    · simp_all [JobRepository.mayHoldUnattendedMedia]

/-- A release whose removal fails leaves the job alone. -/
theorem releaseUnattendedMedia_of_fails {a : RemovalAnswers} (h : a.succeeds = false)
    (ctx : JobRunContext) (reason : String) (d : Deployment) :
    (releaseUnattendedMedia ctx reason a d).1.job = d.job := by
  unfold releaseUnattendedMedia
  dsimp only
  split
  · rfl
  · split
    · rfl
    · split
      · rfl
      · cases a with
        | removes => cases h
        | _ => rfl

@[simp] theorem releasedStep_artifacts (b : Bool) (reason : String) (step : Step) :
    (releasedStep b reason step).artifacts =
      (step.artifacts.insert .mediaRemoved (.bool true)).insert .mediaRemovedReason
        (.str reason) := by
  unfold releasedStep
  dsimp only
  split <;> rfl

@[simp] theorem releasedStep_attempt (b : Bool) (reason : String) (step : Step) :
    (releasedStep b reason step).attempt = step.attempt := by
  unfold releasedStep
  dsimp only
  split <;> rfl

theorem releasedStep_status (b : Bool) (reason : String) (step : Step) :
    (releasedStep b reason step).status =
      if step.status = .succeeded ∧ b = false then .pending else step.status := by
  unfold releasedStep
  dsimp only
  split <;> rfl

section Release

variable (ctx : JobRunContext) (reason : String) (a : RemovalAnswers) (d : Deployment)

/-- Only the step table of the job changes. -/
theorem release_job : (releaseUnattendedMedia ctx reason a d).1.job =
    { d.job with steps := (releaseUnattendedMedia ctx reason a d).1.job.steps } := by
  rcases releaseUnattendedMedia_cases ctx reason a d with ⟨h, -⟩ | ⟨-, h, -⟩
  · rw [h]
  · rw [h]; rfl

@[simp] theorem release_status :
    (releaseUnattendedMedia ctx reason a d).1.job.status = d.job.status := by
  rw [release_job]

@[simp] theorem release_cancelRequested :
    (releaseUnattendedMedia ctx reason a d).1.job.cancelRequested = d.job.cancelRequested := by
  rw [release_job]

/-- The only status a release writes: a preparation that Windows has not booted from is
`PENDING` again. -/
theorem release_stepStatus (k : Stage) :
    (releaseUnattendedMedia ctx reason a d).1.job.stepStatus k = d.job.stepStatus k ∨
      (k = .prepareUnattendedInstall ∧ booted d.job = false ∧
        d.job.stepStatus k = some .succeeded ∧
        (releaseUnattendedMedia ctx reason a d).1.job.stepStatus k = some .pending) := by
  rcases releaseUnattendedMedia_cases ctx reason a d with ⟨h, -⟩ | ⟨-, h, -⟩
  · exact .inl (by rw [h])
  · rw [h]
    by_cases hk : k = .prepareUnattendedInstall
    · subst hk
      simp only [ProvisioningJob.stepStatus, ProvisioningJob.setStep_steps_self]
      cases hstep : d.job.steps .prepareUnattendedInstall with
      | none => exact .inl rfl
      | some step =>
        by_cases hreset : step.status = .succeeded ∧ booted d.job = false
        · refine .inr ⟨trivial, hreset.2, ?_, ?_⟩
          · simp [hreset.1]
          · simp [releasedStep_status, hreset]
        · exact .inl (by simp [releasedStep_status, hreset])
    · exact .inl (by simp [ProvisioningJob.stepStatus, ProvisioningJob.setStep_steps_ne _ _ hk])

theorem release_stepStatus_ne {k : Stage} (hk : k ≠ .prepareUnattendedInstall) :
    (releaseUnattendedMedia ctx reason a d).1.job.stepStatus k = d.job.stepStatus k := by
  rcases release_stepStatus ctx reason a d k with h | ⟨h, -⟩
  · exact h
  · exact absurd h hk

theorem release_stepArtifacts_ne {k : Stage} (hk : k ≠ .prepareUnattendedInstall) :
    (releaseUnattendedMedia ctx reason a d).1.job.stepArtifacts k = d.job.stepArtifacts k := by
  rcases releaseUnattendedMedia_cases ctx reason a d with ⟨h, -⟩ | ⟨-, h, -⟩
  · rw [h]
  · rw [h, ProvisioningJob.stepArtifacts_setStep_ne _ hk]

theorem release_attempt (k : Stage) :
    (releaseUnattendedMedia ctx reason a d).1.job.attempt k = d.job.attempt k := by
  rcases releaseUnattendedMedia_cases ctx reason a d with ⟨h, -⟩ | ⟨-, h, -⟩
  · rw [h]
  · rw [h, ProvisioningJob.attempt_setStep (releasedStep_attempt _ _)]

end Release

/-! ## Running a stage -/

def startedStep (now : Timestamp) (step : Step) : Step :=
  { step with
    status := .running
    attempt := step.attempt + 1
    startedAt := some now
    errorHuman := none
    errorTechnical := none }

/-- The first commit of `_run_stage`. -/
def startStage (k : Stage) (now : Timestamp) (job : ProvisioningJob) : ProvisioningJob :=
  { job.setStep k (startedStep now) with currentStage := some k }

/-- The artifacts of the outcome are MERGED into the ones the row already has. -/
def finishedStep (outcome : StageOutcome) (now : Timestamp) (step : Step) : Step :=
  { step with
    status := outcome.status.toStep
    finishedAt := some now
    output := some (firstChars 8000 outcome.output)
    artifacts := step.artifacts.update outcome.artifacts }

/-- The last commit of `_run_stage`, when the handler returned an outcome. -/
def finishStage (k : Stage) (outcome : StageOutcome) (now : Timestamp) (job : ProvisioningJob) :
    ProvisioningJob :=
  job.setStep k (finishedStep outcome now)

@[simp] theorem startStage_status (k : Stage) (now : Timestamp) (job : ProvisioningJob) :
    (startStage k now job).status = job.status := rfl

@[simp] theorem finishStage_status (k : Stage) (outcome : StageOutcome) (now : Timestamp)
    (job : ProvisioningJob) : (finishStage k outcome now job).status = job.status := rfl

theorem startStage_stepStatus (k : Stage) (now : Timestamp) (job : ProvisioningJob)
    (k' : Stage) : (startStage k now job).stepStatus k' =
      if k' = k then (job.stepStatus k).map fun _ => .running else job.stepStatus k' :=
  ProvisioningJob.stepStatus_setStep (f := startedStep now) (fun _ => rfl) k'

theorem startStage_stepArtifacts (k : Stage) (now : Timestamp) (job : ProvisioningJob)
    (k' : Stage) : (startStage k now job).stepArtifacts k' = job.stepArtifacts k' :=
  ProvisioningJob.stepArtifacts_setStep (f := startedStep now) (fun _ => rfl) k'

theorem startStage_attempt_ne {k k' : Stage} (h : k' ≠ k) (now : Timestamp)
    (job : ProvisioningJob) : (startStage k now job).attempt k' = job.attempt k' := by
  have hsteps : (startStage k now job).steps k' = job.steps k' :=
    ProvisioningJob.setStep_steps_ne _ _ h
  simp only [ProvisioningJob.attempt, hsteps]

theorem startStage_attempt_self {k : Stage} (now : Timestamp) {job : ProvisioningJob}
    (h : (job.steps k).isSome) : (startStage k now job).attempt k = job.attempt k + 1 := by
  obtain ⟨step, hstep⟩ := Option.isSome_iff_exists.mp h
  have hsteps : (startStage k now job).steps k = (job.steps k).map (startedStep now) :=
    ProvisioningJob.setStep_steps_self _ _ _
  simp [ProvisioningJob.attempt, hsteps, hstep, startedStep]

theorem finishStage_stepStatus (k : Stage) (outcome : StageOutcome) (now : Timestamp)
    (job : ProvisioningJob) (k' : Stage) : (finishStage k outcome now job).stepStatus k' =
      if k' = k then (job.stepStatus k).map fun _ => outcome.status.toStep
      else job.stepStatus k' :=
  ProvisioningJob.stepStatus_setStep (f := finishedStep outcome now) (fun _ => rfl) k'

theorem finishStage_stepArtifacts_ne {k k' : Stage} (h : k' ≠ k) (outcome : StageOutcome)
    (now : Timestamp) (job : ProvisioningJob) :
    (finishStage k outcome now job).stepArtifacts k' = job.stepArtifacts k' :=
  ProvisioningJob.stepArtifacts_setStep_ne _ h

theorem finishStage_stepArtifacts_self {k : Stage} (outcome : StageOutcome) (now : Timestamp)
    {job : ProvisioningJob} (h : (job.steps k).isSome) :
    (finishStage k outcome now job).stepArtifacts k =
      (job.stepArtifacts k).update outcome.artifacts :=
  ProvisioningJob.stepArtifacts_setStep_self (f := finishedStep outcome now)
    (g := fun artifacts => artifacts.update outcome.artifacts) (fun _ => rfl) h

theorem finishStage_attempt (k : Stage) (outcome : StageOutcome) (now : Timestamp)
    (job : ProvisioningJob) (k' : Stage) :
    (finishStage k outcome now job).attempt k' = job.attempt k' :=
  ProvisioningJob.attempt_setStep (f := finishedStep outcome now) (fun _ => rfl) k'

/-! ## `_handle_failure` -/

def timeoutFailure (k : Stage) (seconds : Nat) : InfraOperationError where
  humanMessage := s!"'{k.name}' exceeded its {seconds} second timeout."
  reason := "The operation did not complete within the configured time limit."
  recommendedAction := s!"Retry the '{k.name}' stage; increase the timeout in Settings if needed."
  technicalDetail := s!"timeout_seconds={seconds}.0"

def unexpectedFailure (k : Stage) (traceback : String) : InfraOperationError where
  humanMessage := s!"'{k.name}' failed unexpectedly."
  reason := "An unexpected internal error interrupted the stage."
  recommendedAction := "Review the technical details and retry the stage."
  technicalDetail := lastChars 4000 traceback

def Raised.failure (k : Stage) : Raised → InfraOperationError
  | .infra error => error
  | .other traceback => unexpectedFailure k traceback

/-- The VM exists: `create_vm` succeeded or found the job's own VM. -/
def vmCreated (job : ProvisioningJob) : Bool :=
  job.stepStatus .createVm == some .succeeded || job.stepStatus .createVm == some .skipped

/-- The lifecycle columns that a failure of `k` sets. -/
def failLifecycle (k : Stage) (columns : Lifecycle) : Lifecycle :=
  match k with
  | .createVm | .configureHardware | .attachNetworkAdapter =>
    { columns with infrastructureStatus := .failed }
  | .waitForGuestOs =>
    { columns with guestOsStatus := .error, guestProvisioningStatus := .failed }
  | .waitForTools =>
    { columns with vmwareToolsStatus := .error, guestProvisioningStatus := .failed }
  | .addDataDisks | .initializeDataDisks | .configureGuestNetwork | .validateNetwork
  | .configureHostname | .joinDomain | .rebootGuest | .waitGuestReady =>
    { columns with guestProvisioningStatus := .failed }
  | _ => columns

/-- `_attach_console_screenshot`; without a path nothing is kept. -/
def attachScreenshot (path : Option String) (step : Step) : Step :=
  match path with
  | none => step
  | some path => { step with
      artifacts := step.artifacts.insert .consoleScreenshot (.str path)
      errorTechnical := some (strip (step.errorTechnical.getD "" ++
        s!"\n\nConsole screenshot at failure: {path}")) }

def errorHumanText (f : InfraOperationError) : String :=
  s!"{f.humanMessage}\n\nReason:\n{f.reason}\n\nRecommended action:\n{f.recommendedAction}"

/-- What `_handle_failure` writes to the step. -/
def failedStep (k : Stage) (f : InfraOperationError) (screenshot : Option String)
    (now : Timestamp) (step : Step) : Step :=
  attachScreenshot screenshot { step with
    status := .failed
    finishedAt := some now
    retryable := f.retryable && k.retryable
    errorHuman := some (errorHumanText f)
    errorTechnical := some f.technicalDetail }

/-- `_handle_failure` before the release. -/
def failJob (k : Stage) (f : InfraOperationError) (screenshot : Option String) (now : Timestamp)
    (job : ProvisioningJob) : ProvisioningJob :=
  let created := vmCreated (job.setStep k fun step => { step with status := .failed })
  let shown := if created && k.console then screenshot else none
  let failed := job.setStep k (failedStep k f shown now)
  let technical := ((failed.steps k).bind Step.errorTechnical).getD ""
  { failed with
    status := if created then .partiallyCompleted else .failed
    lifecycle := failLifecycle k job.lifecycle
    errorSummary := some f.humanMessage
    errorDetail := some (firstChars 6000 (s!"{f.humanMessage}\nReason: {f.reason}\n" ++
      s!"Recommended action: {f.recommendedAction}\n\nTechnical detail:\n{technical}"))
    currentStage := some k
    finishedAt := some now }

/-- `_handle_failure`. -/
def handleFailure (ctx : JobRunContext) (k : Stage) (f : InfraOperationError)
    (screenshot : Option String) (removal : RemovalAnswers) (now : Timestamp) (d : Deployment) :
    Deployment :=
  let job := failJob k f screenshot now d.job
  let d := (releaseUnattendedMedia ctx s!"stage '{k.key}' failed" removal { d with
    job := job
    records := d.records ++ [.stageFailures k, .jobsTotal job.status.value] }).1
  { d with records := d.records ++
      (notifyRequester d.job .jobFailed (failedMessage d.job k.name
        s!"{f.humanMessage} {f.reason}") ++
      [.audit {
        action := .jobStageFailed
        resourceName := k.name
        result := "failure"
        details := [("stage", k.key), ("attempt", toString (d.job.attempt k))]
        detailText := some f.summary }]) }

@[simp] theorem failedStep_status (k : Stage) (f : InfraOperationError)
    (screenshot : Option String) (now : Timestamp) (step : Step) :
    (failedStep k f screenshot now step).status = .failed := by
  cases screenshot <;> rfl

@[simp] theorem failedStep_attempt (k : Stage) (f : InfraOperationError)
    (screenshot : Option String) (now : Timestamp) (step : Step) :
    (failedStep k f screenshot now step).attempt = step.attempt := by
  cases screenshot <;> rfl

theorem failJob_steps (k : Stage) (f : InfraOperationError) (screenshot : Option String)
    (now : Timestamp) (job : ProvisioningJob) : ∃ shown, (k.console = false → shown = none) ∧
      (failJob k f screenshot now job).steps =
        (job.setStep k (failedStep k f shown now)).steps := by
  unfold failJob
  dsimp only
  refine ⟨_, ?_, rfl⟩
  intro hk
  simp [hk]

theorem failJob_stepStatus (k : Stage) (f : InfraOperationError) (screenshot : Option String)
    (now : Timestamp) (job : ProvisioningJob) (k' : Stage) :
    (failJob k f screenshot now job).stepStatus k' =
      if k' = k then (job.stepStatus k).map fun _ => .failed else job.stepStatus k' := by
  obtain ⟨shown, -, hsteps⟩ := failJob_steps k f screenshot now job
  rw [← ProvisioningJob.stepStatus_setStep (failedStep_status k f shown now)]
  simp only [ProvisioningJob.stepStatus, hsteps]

/-- A screenshot is kept for the console stages only. -/
theorem failJob_stepArtifacts {k' : Stage} (hk : k'.console = false) (k : Stage)
    (f : InfraOperationError) (screenshot : Option String) (now : Timestamp)
    (job : ProvisioningJob) :
    (failJob k f screenshot now job).stepArtifacts k' = job.stepArtifacts k' := by
  obtain ⟨shown, hshown, hsteps⟩ := failJob_steps k f screenshot now job
  have hset : (job.setStep k (failedStep k f shown now)).stepArtifacts k' =
      job.stepArtifacts k' := by
    by_cases h : k' = k
    · subst h
      rw [hshown hk]
      exact ProvisioningJob.stepArtifacts_setStep (f := failedStep k' f none now)
        (fun _ => rfl) k'
    · exact ProvisioningJob.stepArtifacts_setStep_ne _ h
  rw [← hset]
  simp only [ProvisioningJob.stepArtifacts, hsteps]

theorem failJob_attempt (k : Stage) (f : InfraOperationError) (screenshot : Option String)
    (now : Timestamp) (job : ProvisioningJob) (k' : Stage) :
    (failJob k f screenshot now job).attempt k' = job.attempt k' := by
  obtain ⟨shown, -, hsteps⟩ := failJob_steps k f screenshot now job
  have hset : (job.setStep k (failedStep k f shown now)).attempt k' = job.attempt k' :=
    ProvisioningJob.attempt_setStep (failedStep_attempt k f shown now) k'
  rw [← hset]
  simp only [ProvisioningJob.attempt, hsteps]

theorem failJob_status (k : Stage) (f : InfraOperationError) (screenshot : Option String)
    (now : Timestamp) (job : ProvisioningJob) :
    (failJob k f screenshot now job).status = .failed ∨
      (failJob k f screenshot now job).status = .partiallyCompleted := by
  unfold failJob
  dsimp only
  split
  · exact .inr rfl
  · exact .inl rfl

/-- A stage failure is the failed job, released. -/
theorem handleFailure_eq (ctx : JobRunContext) (k : Stage) (f : InfraOperationError)
    (screenshot : Option String) (removal : RemovalAnswers) (now : Timestamp) (d : Deployment) :
    ∃ records, let d' := (releaseUnattendedMedia ctx s!"stage '{k.key}' failed" removal
        { d with job := failJob k f screenshot now d.job, records }).1
      (handleFailure ctx k f screenshot removal now d).job = d'.job ∧
        (handleFailure ctx k f screenshot removal now d).world = d'.world :=
  ⟨_, rfl, rfl⟩

/-! ## `_apply_cancellation` -/

def cancelRunStep (now : Timestamp) (step : Step) : Step :=
  match step.status with
  | .pending | .running => { step with status := .cancelled, finishedAt := some now }
  | _ => step

/-- `_apply_cancellation`. -/
def applyCancellation (ctx : JobRunContext) (removal : RemovalAnswers) (now : Timestamp)
    (d : Deployment) : Deployment :=
  let d := (releaseUnattendedMedia ctx "job cancelled" removal d).1
  { d with
    job := { d.job.mapSteps (cancelRunStep now) with
      status := .cancelled
      finishedAt := some now }
    records := d.records ++ [.jobsTotal JobStatus.cancelled.value, .audit {
      action := .jobCancelled
      resourceName := ctx.request.vmName
      result := "cancelled" }] }

/-- What `_run_stage` writes to a stage that the user cancelled while it ran. -/
def cancelledStep (now : Timestamp) (step : Step) : Step :=
  { step with
    status := .cancelled
    finishedAt := some now
    output := some "Cancelled by user request while running." }

/-- The `_StageCancelled` branch of `_run_stage`. -/
def cancelStage (ctx : JobRunContext) (k : Stage) (removal : RemovalAnswers) (now : Timestamp)
    (d : Deployment) : Deployment :=
  applyCancellation ctx removal now { d with job := d.job.setStep k (cancelledStep now) }

theorem cancelRunStep_status (now : Timestamp) (step : Step) :
    (cancelRunStep now step).status = JobRepository.cancelStatus step.status := by
  unfold cancelRunStep
  cases h : step.status <;> simp [JobRepository.cancelStatus, h]

@[simp] theorem cancelRunStep_artifacts (now : Timestamp) (step : Step) :
    (cancelRunStep now step).artifacts = step.artifacts := by
  unfold cancelRunStep
  split <;> rfl

@[simp] theorem cancelRunStep_attempt (now : Timestamp) (step : Step) :
    (cancelRunStep now step).attempt = step.attempt := by
  unfold cancelRunStep
  split <;> rfl

section Cancellation

variable (ctx : JobRunContext) (removal : RemovalAnswers) (now : Timestamp) (d : Deployment)

theorem applyCancellation_stepStatus (k : Stage) :
    (applyCancellation ctx removal now d).job.stepStatus k =
      ((releaseUnattendedMedia ctx "job cancelled" removal d).1.job.stepStatus k).map
        JobRepository.cancelStatus :=
  ProvisioningJob.stepStatus_mapSteps (cancelRunStep_status now) k

theorem applyCancellation_stepArtifacts (k : Stage) :
    (applyCancellation ctx removal now d).job.stepArtifacts k =
      (releaseUnattendedMedia ctx "job cancelled" removal d).1.job.stepArtifacts k :=
  ProvisioningJob.stepArtifacts_mapSteps (cancelRunStep_artifacts now) k

theorem applyCancellation_attempt (k : Stage) :
    (applyCancellation ctx removal now d).job.attempt k = d.job.attempt k :=
  (ProvisioningJob.attempt_mapSteps (cancelRunStep_attempt now) k).trans
    (release_attempt ctx "job cancelled" removal d k)

@[simp] theorem applyCancellation_status :
    (applyCancellation ctx removal now d).job.status = .cancelled := rfl

@[simp] theorem applyCancellation_cancelRequested :
    (applyCancellation ctx removal now d).job.cancelRequested = d.job.cancelRequested :=
  release_cancelRequested ctx "job cancelled" removal d

theorem applyCancellation_world : (applyCancellation ctx removal now d).world =
    (releaseUnattendedMedia ctx "job cancelled" removal d).1.world := rfl

end Cancellation

theorem cancelledStep_stepStatus (k : Stage) (now : Timestamp) (job : ProvisioningJob)
    (k' : Stage) : (job.setStep k (cancelledStep now)).stepStatus k' =
      if k' = k then (job.stepStatus k).map fun _ => .cancelled else job.stepStatus k' :=
  ProvisioningJob.stepStatus_setStep (f := cancelledStep now) (fun _ => rfl) k'

/-! ## `_finalize_success` -/

/-- `dict.get(key)` on a JSON object, as a string. -/
def Json.field (value : Json) (key : String) : String :=
  match value with
  | .obj fields =>
    match fields.lookup key with
    | some (.str text) => text
    | _ => ""
  | _ => ""

def passedChecks : Json → Nat
  | .arr items => items.countP fun item => item.field "status" == "PASS"
  | _ => 0

/-- `summary_artifact` and `checks_passed`. -/
def summaryOf (artifacts : Artifacts) : Summary :=
  let summary := (artifacts.lookup (.other "summary")).getD .null
  { fqdn := summary.field "fqdn"
    computerName := summary.field "computer_name"
    ipAddress := summary.field "ip_address"
    checksPassed := passedChecks ((artifacts.lookup (.other "checklist")).getD .null) }

/-- `_finalize_success`. -/
def finalizeSuccess (ctx : JobRunContext) (now : Timestamp) (d : Deployment) : Deployment :=
  let job := { d.job with
    status := .completed
    errorSummary := none
    errorDetail := none
    finishedAt := some now
    currentStage := some .finalValidation }
  let summary := summaryOf (job.stepArtifacts .finalValidation)
  { d with
    job := job
    records := d.records ++
      (notifyRequester job .jobCompleted (completedMessage job summary) ++
      [.jobsTotal JobStatus.completed.value, .audit {
        action := .jobCompleted
        resourceName := ctx.request.vmName
        result := "success"
        details := [("computer_name", summary.computerName), ("fqdn", summary.fqdn)]
        detailText := some (if summary.fqdn = ""
          then s!"Provisioned '{ctx.request.vmName}' successfully."
          else s!"Provisioned '{summary.fqdn}' successfully.") }]) }

end InfraOps
