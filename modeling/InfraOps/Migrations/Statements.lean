import InfraOps.Migrations.IsoOnly
import InfraOps.Support.Keyed

/-!
# What each statement does

Every statement is followed on the columns that matter: the status of a step under its job and
its stage, and the status of a job with the two values it reserves.
-/

namespace InfraOps.IsoOnly

variable {σ τ : Type}

/-! ## The columns that matter -/

@[ext] structure JobView (σ : Type) where
  id : JobId
  vmName : String
  reservedIpv4 : Option String
  status : σ

@[ext] structure StepView (σ : Type) where
  jobId : JobId
  stageKey : String
  status : σ

def JobRow.view (job : JobRow σ) : JobView σ := ⟨job.id, job.vmName, job.reservedIpv4, job.status⟩

def StepRow.view (step : StepRow σ) : StepView σ := ⟨step.jobId, step.stageKey, step.status⟩

def JobView.onStatus (f : JobId → σ → τ) (job : JobView σ) : JobView τ :=
  ⟨job.id, job.vmName, job.reservedIpv4, f job.id job.status⟩

def StepView.onStatus (f : JobId → σ → τ) (step : StepView σ) : StepView τ :=
  ⟨step.jobId, step.stageKey, f step.jobId step.status⟩

/-! ## What becomes of a status -/

def closedStatus (created : Bool) : PreviousJobStatus :=
  if created then .partiallyCompleted else .failed

def closeRemoved (removed created : Bool) (status : PreviousJobStatus) : PreviousJobStatus :=
  if status.ipReserving && removed then closedStatus created else status

def closePaused (created : Bool) (status : PreviousJobStatus) : PreviousJobStatus :=
  if status == .actionRequired then closedStatus created else status

/-- A job that is open under a removed workflow, or paused, is closed. -/
def jobAfter (removed created : Bool) (status : PreviousJobStatus) : PreviousJobStatus :=
  closePaused created (closeRemoved removed created status)

/-- A step that runs or waits ends with its job. -/
def stepAfter (removed : Bool) (job : PreviousJobStatus) : PreviousStepStatus → PreviousStepStatus
  | .running => if job.ipReserving && removed then .failed else .running
  | .waitingForPrerequisite => if job = .cancelled then .cancelled else .failed
  | status => status

theorem closedStatus_ne_actionRequired (created : Bool) :
    (closedStatus created == .actionRequired) = false := by
  cases created <;> rfl

theorem jobAfter_eq (removed created : Bool) (status : PreviousJobStatus) :
    jobAfter removed created status =
      if status.ipReserving && removed || status == .actionRequired then closedStatus created
      else status := by
  rw [jobAfter, closePaused, closeRemoved]
  by_cases h : (status.ipReserving && removed) = true
  · rw [if_pos h, closedStatus_ne_actionRequired]
    simp [h]
  · simp [h]

/-! ## Jobs and their steps -/

theorem hasJob_of_mem {jobs : List PreviousJobRow} (hids : (jobs.map (·.id)).Nodup)
    {job : PreviousJobRow} (hjob : job ∈ jobs) (among : PreviousJobStatus → Bool) :
    hasJob jobs among job.id = among job.status := by
  rw [Bool.eq_iff_iff, hasJob, List.any_eq_true]
  constructor
  · rintro ⟨other, hother, hand⟩
    obtain ⟨hid, hamong⟩ := Bool.and_eq_true_iff.mp hand
    have hsame : other = job := List.inj_on_of_nodup_map hids hother hjob (eq_of_beq hid)
    exact hsame ▸ hamong
  · intro hamong
    exact ⟨job, hjob, by simp [hamong]⟩

/-- The statements end steps that do not tell that the VM exists, as failed or cancelled. -/
theorem vmCreated_updateWhere {p : StepRow PreviousStepStatus → Bool}
    {f : StepRow PreviousStepStatus → StepRow PreviousStepStatus}
    (hp : ∀ step, p step = true → step.status ≠ .succeeded ∧ step.status ≠ .skipped)
    (hf : ∀ step, p step = true → (f step).status ≠ .succeeded ∧ (f step).status ≠ .skipped)
    (steps : List (StepRow PreviousStepStatus)) (id : JobId) :
    vmCreated (updateWhere p f steps) id = vmCreated steps id := by
  refine any_updateWhere (fun step h => ?_) steps
  have hbefore := hp step h
  have hafter := hf step h
  rw [beq_false_of_ne hbefore.1, beq_false_of_ne hbefore.2, beq_false_of_ne hafter.1,
    beq_false_of_ne hafter.2]
  simp only [Bool.or_self, Bool.and_false]

/-! ## One statement after another -/

def failRemoved (db : PreviousTables) (id : JobId) (status : PreviousStepStatus) :
    PreviousStepStatus :=
  if (status == .running || status == .waitingForPrerequisite) &&
      hasJob db.jobs (·.ipReserving) id && removedWorkflow db.requests id then .failed else status

def failPaused (db : PreviousTables) (id : JobId) (status : PreviousStepStatus) :
    PreviousStepStatus :=
  if status == .waitingForPrerequisite && hasJob db.jobs (· == .actionRequired) id then .failed
  else status

def finishWaiting (db : PreviousTables) (id : JobId) (status : PreviousStepStatus) :
    PreviousStepStatus :=
  if status == .waitingForPrerequisite then
    match db.jobs.find? (·.id == id) with
    | none => status
    | some job => if job.status == .cancelled then .cancelled else .failed
  else status

section Statements

variable (now : Timestamp) (db : PreviousTables)

theorem steps_failRemovedSteps :
    (failRemovedSteps now db).steps.map (·.view) =
      (db.steps.map (·.view)).map (StepView.onStatus (failRemoved db)) := by
  refine map_updateWhere_of (fun step => ?_) db.steps
  split
  · next h => exact StepView.ext rfl rfl (if_pos h).symm
  · next h => exact StepView.ext rfl rfl (if_neg h).symm

theorem steps_failPausedSteps :
    (failPausedSteps now db).steps.map (·.view) =
      (db.steps.map (·.view)).map (StepView.onStatus (failPaused db)) := by
  refine map_updateWhere_of (fun step => ?_) db.steps
  split
  · next h => exact StepView.ext rfl rfl (if_pos h).symm
  · next h => exact StepView.ext rfl rfl (if_neg h).symm

theorem steps_finishWaitingSteps :
    (finishWaitingSteps now db).steps.map (·.view) =
      (db.steps.map (·.view)).map (StepView.onStatus (finishWaiting db)) := by
  refine map_updateWhere_of (fun step => ?_) db.steps
  split
  · next h =>
    have hview : (finishStep now db.jobs step).view =
        ⟨step.jobId, step.stageKey, match db.jobs.find? (·.id == step.jobId) with
          | none => step.status
          | some job => if job.status == .cancelled then .cancelled else .failed⟩ := by
      rw [finishStep]
      cases db.jobs.find? (·.id == step.jobId) <;> rfl
    exact hview.trans (StepView.ext rfl rfl (if_pos h).symm)
  · next h => exact StepView.ext rfl rfl (if_neg h).symm

theorem jobs_closeRemovedJobs :
    (closeRemovedJobs now db).jobs.map (·.view) =
      (db.jobs.map (·.view)).map (JobView.onStatus fun id =>
        closeRemoved (removedWorkflow db.requests id) (vmCreated db.steps id)) := by
  refine map_updateWhere_of (fun job => ?_) db.jobs
  split
  · next h => exact JobView.ext rfl rfl rfl (if_pos h).symm
  · next h => exact JobView.ext rfl rfl rfl (if_neg h).symm

theorem jobs_closePausedJobs :
    (closePausedJobs now db).jobs.map (·.view) =
      (db.jobs.map (·.view)).map (JobView.onStatus fun id =>
        closePaused (vmCreated db.steps id)) := by
  refine map_updateWhere_of (fun job => ?_) db.jobs
  split
  · next h => exact JobView.ext rfl rfl rfl (if_pos h).symm
  · next h => exact JobView.ext rfl rfl rfl (if_neg h).symm

theorem vmCreated_failRemovedSteps (id : JobId) :
    vmCreated (failRemovedSteps now db).steps id = vmCreated db.steps id := by
  refine vmCreated_updateWhere (fun step h => ?_) (fun step _ => by simp [failStep]) db.steps id
  have hstatus : step.status = .running ∨ step.status = .waitingForPrerequisite := by
    simpa using (Bool.and_eq_true_iff.mp (Bool.and_eq_true_iff.mp h).1).1
  rcases hstatus with hs | hs <;> rw [hs] <;> exact ⟨nofun, nofun⟩

theorem vmCreated_failPausedSteps (id : JobId) :
    vmCreated (failPausedSteps now db).steps id = vmCreated db.steps id := by
  refine vmCreated_updateWhere (fun step h => ?_) (fun step _ => by simp [failStep]) db.steps id
  have hs : step.status = .waitingForPrerequisite := by
    simpa using (Bool.and_eq_true_iff.mp h).1
  rw [hs]
  exact ⟨nofun, nofun⟩

theorem steps_renumber (stages : List String) :
    (renumber stages db).steps.map (·.view) = db.steps.map (·.view) := by
  rw [renumber, List.map_map]
  refine List.map_congr_left fun step _ => ?_
  show (renumberStep stages step).view = step.view
  rw [renumberStep]
  split <;> rfl

theorem steps_nameSteps (renamed : List (String × String)) :
    (nameSteps renamed db).steps.map (·.view) = db.steps.map (·.view) := by
  induction renamed generalizing db with
  | nil => rfl
  | cons entry renamed ih =>
    refine (ih (nameSteps [entry] db)).trans ?_
    refine map_updateWhere (fun step => ?_) db.steps
    rfl

/-- The other statements set neither a status nor what a status is found by. -/
theorem steps_updateTables :
    (updateTables now db).steps.map (·.view) = (closeJobs now db).steps.map (·.view) :=
  (steps_nameSteps (renumber STAGES (renameNotifications (closeJobs now db))) RENAMED_STEPS).trans
    (steps_renumber (renameNotifications (closeJobs now db)) STAGES)

/-! ## All statements together -/

theorem jobs_closeJobs :
    (closeJobs now db).jobs.map (·.view) = (db.jobs.map (·.view)).map (JobView.onStatus fun id =>
      jobAfter (removedWorkflow db.requests id) (vmCreated db.steps id)) := by
  let failed := failRemovedSteps now db
  let closed := closeRemovedJobs now failed
  have hcreated (id : JobId) : vmCreated (failPausedSteps now closed).steps id =
      vmCreated db.steps id :=
    (vmCreated_failPausedSteps now closed id).trans (vmCreated_failRemovedSteps now db id)
  have hpaused := jobs_closePausedJobs now (failPausedSteps now closed)
  have hremoved := jobs_closeRemovedJobs now failed
  simp only [hcreated] at hpaused
  simp only [failed, vmCreated_failRemovedSteps now db] at hremoved
  refine hpaused.trans ?_
  refine (congrArg _ hremoved).trans ?_
  rw [List.map_map]
  rfl

end Statements

/-! ## The status of a step under its job -/

theorem ids_of_view {jobs jobs' : List PreviousJobRow} {f : JobId → PreviousJobStatus →
    PreviousJobStatus} (h : jobs'.map (·.view) = (jobs.map (·.view)).map (JobView.onStatus f)) :
    jobs'.map (·.id) = jobs.map (·.id) := by
  have hids := congrArg (List.map JobView.id) h
  simp only [List.map_map] at hids
  exact hids

theorem hasJob_of_view {jobs jobs' : List PreviousJobRow} {f : JobId → PreviousJobStatus →
    PreviousJobStatus} (h : jobs'.map (·.view) = (jobs.map (·.view)).map (JobView.onStatus f))
    (hids : (jobs.map (·.id)).Nodup) {job : PreviousJobRow} (hjob : job ∈ jobs)
    (among : PreviousJobStatus → Bool) :
    hasJob jobs' among job.id = among (f job.id job.status) := by
  obtain ⟨job', hjob', hview⟩ := exists_row_after h hjob
  have hid : job'.id = job.id := congrArg JobView.id hview
  have hstatus : job'.status = f job.id job.status := congrArg JobView.status hview
  rw [← hstatus, ← hid]
  exact hasJob_of_mem (ids_of_view h ▸ hids) hjob' among

theorem find?_of_view {jobs jobs' : List PreviousJobRow} {f : JobId → PreviousJobStatus →
    PreviousJobStatus} (h : jobs'.map (·.view) = (jobs.map (·.view)).map (JobView.onStatus f))
    (hids : (jobs.map (·.id)).Nodup) {job : PreviousJobRow} (hjob : job ∈ jobs) :
    ∃ job', jobs'.find? (·.id == job.id) = some job' ∧ job'.status = f job.id job.status := by
  obtain ⟨job', hjob', hview⟩ := exists_row_after h hjob
  have hid : job'.id = job.id := congrArg JobView.id hview
  refine ⟨job', ?_, congrArg JobView.status hview⟩
  rw [← hid]
  exact find?_key (fun job : PreviousJobRow => job.id) (ids_of_view h ▸ hids) hjob'

/-- What the three statements on steps make of a status, given its job. -/
theorem stepAfter_eq (removed created : Bool) (job : PreviousJobStatus)
    (status : PreviousStepStatus) :
    (let ended := if (status == .running || status == .waitingForPrerequisite) &&
        job.ipReserving && removed then .failed else status
      let paused := if ended == .waitingForPrerequisite &&
        closeRemoved removed created job == .actionRequired then .failed else ended
      if paused == .waitingForPrerequisite then
        if jobAfter removed created job == .cancelled then PreviousStepStatus.cancelled else .failed
      else paused) = stepAfter removed job status := by
  cases status with
  | running => cases removed <;> cases job <;> rfl
  | waitingForPrerequisite => cases removed <;> cases job <;> cases created <;> rfl
  | _ => rfl

theorem steps_closeJobs (now : Timestamp) (db : PreviousTables) :
    ∃ f, (closeJobs now db).steps.map (·.view) = (db.steps.map (·.view)).map (StepView.onStatus f) ∧
      ((db.jobs.map (·.id)).Nodup → ∀ job ∈ db.jobs, ∀ status,
        f job.id status = stepAfter (removedWorkflow db.requests job.id) job.status status) := by
  let db₁ := failRemovedSteps now db
  let db₂ := closeRemovedJobs now db₁
  let db₃ := failPausedSteps now db₂
  let db₄ := closePausedJobs now db₃
  refine ⟨fun id status => finishWaiting db₄ id (failPaused db₂ id (failRemoved db id status)),
    ?_, ?_⟩
  · have h₁ := steps_failRemovedSteps now db
    have h₃ := steps_failPausedSteps now db₂
    have h₅ := steps_finishWaitingSteps now db₄
    refine h₅.trans ((congrArg _ h₃).trans ((congrArg _ (congrArg _ h₁)).trans ?_))
    simp only [List.map_map]
    rfl
  · intro hids job hjob status
    have hremoved := jobs_closeRemovedJobs now db₁
    have hpaused := hasJob_of_view hremoved hids hjob (· == .actionRequired)
    rw [vmCreated_failRemovedSteps] at hpaused
    obtain ⟨job', hfind, hstatus⟩ := find?_of_view (jobs_closeJobs now db) hids hjob
    have hfinish (ended : PreviousStepStatus) : finishWaiting db₄ job.id ended =
        if ended == .waitingForPrerequisite then
          if job'.status == .cancelled then .cancelled else .failed
        else ended := by
      have hfind : db₄.jobs.find? (·.id == job.id) = some job' := hfind
      rw [finishWaiting, hfind]
    show finishWaiting db₄ job.id (failPaused db₂ job.id (failRemoved db job.id status)) = _
    rw [hfinish, hstatus, failPaused, hpaused, failRemoved, hasJob_of_mem hids hjob]
    exact stepAfter_eq _ (vmCreated db.steps job.id) job.status status

end InfraOps.IsoOnly
