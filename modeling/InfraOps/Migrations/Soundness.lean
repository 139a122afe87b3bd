import InfraOps.Migrations.Statements
import InfraOps.Support.Except

/-!
# What the upgrade leaves

The upgrade of a database of the previous release fails exactly if a job has a step under both
keys of the renamed stage. Otherwise no status is lost on the way to the new types, the two new
indexes can be built, and every job has been closed or kept as its request and its status say.
-/

namespace InfraOps.IsoOnly

variable {σ τ : Type}

/-! ## The renamed stage -/

/-- A job has a step under the old key of the stage and one under its new key. -/
def StagesCollide (db : PreviousTables) : Prop :=
  ∃ step ∈ db.steps, ∃ other ∈ db.steps,
    step.jobId = other.jobId ∧ step.stageKey = "clone_vm" ∧ other.stageKey = "create_vm"

def renamedKey (stageKey : String) : String :=
  if stageKey == "clone_vm" then "create_vm" else stageKey

theorem key_renameStep (step : StepRow σ) :
    (renameStep step).key = (step.jobId, renamedKey step.stageKey) := by
  rw [renameStep, renamedKey]
  split <;> rfl

theorem renamedKey_inj {k k' : String} (h : renamedKey k = renamedKey k') :
    k = k' ∨ k = "clone_vm" ∧ k' = "create_vm" ∨ k = "create_vm" ∧ k' = "clone_vm" := by
  rw [renamedKey, renamedKey] at h
  split at h <;> split at h <;> simp_all

theorem renamed_nodup_iff (db : PreviousTables) (hkeys : (db.steps.map StepRow.key).Nodup) :
    ((db.steps.map renameStep).map StepRow.key).Nodup ↔ ¬StagesCollide db := by
  have hmap : (db.steps.map renameStep).map StepRow.key =
      (db.steps.map StepRow.key).map fun key => (key.1, renamedKey key.2) := by
    rw [List.map_map, List.map_map]
    exact List.map_congr_left fun step _ => key_renameStep step
  rw [hmap, List.nodup_map_iff_inj_on hkeys]
  constructor
  · rintro hinj ⟨step, hstep, other, hother, hjob, hold, hnew⟩
    have hsame := hinj _ (List.mem_map_of_mem hstep) _ (List.mem_map_of_mem hother)
      (by simp [StepRow.key, hjob, hold, hnew, renamedKey])
    have hkey := congrArg Prod.snd hsame
    simp [StepRow.key, hold, hnew] at hkey
  · intro hcollide key hkey key' hkey' hsame
    obtain ⟨step, hstep, rfl⟩ := List.mem_map.mp hkey
    obtain ⟨other, hother, rfl⟩ := List.mem_map.mp hkey'
    obtain ⟨hjob, hrenamed⟩ := Prod.ext_iff.mp hsame
    have hjob : step.jobId = other.jobId := hjob
    rcases renamedKey_inj hrenamed with heq | ⟨hold, hnew⟩ | ⟨hnew, hold⟩
    · exact Prod.ext hjob heq
    · exact absurd ⟨step, hstep, other, hother, hjob, hold, hnew⟩ hcollide
    · exact absurd ⟨other, hother, step, hstep, hjob.symm, hold, hnew⟩ hcollide

theorem renameStage_eq (db : PreviousTables) (hkeys : (db.steps.map StepRow.key).Nodup)
    (hcollide : StagesCollide db) :
    renameStage db = .error (.duplicateKey "uq_job_step_stage") :=
  if_neg ((renamed_nodup_iff db hkeys).not.mpr (not_not.mpr hcollide))

/-- The tables after the rename, where it succeeds. -/
def renamed (db : PreviousTables) : PreviousTables :=
  { db with
    steps := db.steps.map renameStep
    jobs := updateWhere (·.currentStage == some "clone_vm")
      (fun job => { job with currentStage := some "create_vm" }) db.jobs }

theorem renameStage_eq_ok (db : PreviousTables) (hkeys : (db.steps.map StepRow.key).Nodup)
    (hcollide : ¬StagesCollide db) : renameStage db = .ok (renamed db) :=
  if_pos ((renamed_nodup_iff db hkeys).mpr hcollide)

theorem jobs_renamed (db : PreviousTables) :
    (renamed db).jobs.map (·.view) = db.jobs.map (·.view) := by
  refine map_updateWhere (fun job => ?_) db.jobs
  rfl

theorem steps_renamed (db : PreviousTables) :
    (renamed db).steps.map (·.view) =
      (db.steps.map (·.view)).map fun v => ⟨v.jobId, renamedKey v.stageKey, v.status⟩ := by
  rw [List.map_map]
  show (db.steps.map renameStep).map (·.view) = _
  rw [List.map_map]
  refine List.map_congr_left fun step _ => ?_
  show (renameStep step).view = ⟨step.jobId, renamedKey step.stageKey, step.status⟩
  rw [renameStep, renamedKey]
  split <;> rfl

/-! ## The new types -/

/-- A status under the new type; `ACTION_REQUIRED` is not one, and a paused job is closed. -/
def keptJobStatus (status : PreviousJobStatus) : JobStatus := status.current.getD .failed

/-- A step that waits fails. -/
def keptStepStatus (status : PreviousStepStatus) : StepStatus := status.current.getD .failed

theorem rebuildJob_eq {job : PreviousJobRow} (h : job.status ≠ .actionRequired) :
    rebuildJob job = .ok { job.toJobRow with status := keptJobStatus job.status } := by
  rw [rebuildJob, keptJobStatus]
  cases hstatus : job.status with
  | actionRequired => exact absurd hstatus h
  | _ => rfl

theorem rebuildStep_eq {step : StepRow PreviousStepStatus}
    (h : step.status ≠ .waitingForPrerequisite) :
    rebuildStep step = .ok { step with status := keptStepStatus step.status } := by
  rw [rebuildStep, keptStepStatus]
  cases hstatus : step.status with
  | waitingForPrerequisite => exact absurd hstatus h
  | _ => rfl

theorem rebuildEnums_eq {db : PreviousTables}
    (hjobs : ∀ job ∈ db.jobs, job.status ≠ .actionRequired)
    (hsteps : ∀ step ∈ db.steps, step.status ≠ .waitingForPrerequisite) :
    rebuildEnums db = .ok { db with
      jobs := db.jobs.map fun job => { job.toJobRow with status := keptJobStatus job.status }
      steps := db.steps.map fun step =>
        { step with status := keptStepStatus step.status } } := by
  rw [rebuildEnums, mapM_eq_ok fun job hjob => rebuildJob_eq (hjobs job hjob), ok_bind,
    mapM_eq_ok fun step hstep => rebuildStep_eq (hsteps step hstep)]
  rfl

theorem jobAfter_ne_actionRequired (removed created : Bool) (status : PreviousJobStatus) :
    jobAfter removed created status ≠ .actionRequired := by
  rw [jobAfter_eq]
  split
  · cases created <;> exact nofun
  · next h =>
    rintro rfl
    simp at h

theorem stepAfter_ne_waiting (removed : Bool) (job : PreviousJobStatus)
    (status : PreviousStepStatus) : stepAfter removed job status ≠ .waitingForPrerequisite := by
  cases status with
  | running =>
    rw [stepAfter]
    split <;> exact nofun
  | waitingForPrerequisite =>
    rw [stepAfter]
    split <;> exact nofun
  | _ => exact nofun

/-! ## The upgraded tables -/

/-- The steps of a job: their stages and their statuses. -/
def stepsOf (steps : List (StepRow σ)) (id : JobId) : List (String × σ) :=
  (steps.filter (·.jobId == id)).map fun step => (step.stageKey, step.status)

theorem stepsOf_eq (steps : List (StepRow σ)) (id : JobId) :
    stepsOf steps id =
      ((steps.map (·.view)).filter (·.jobId == id)).map fun v => (v.stageKey, v.status) := by
  rw [List.filter_map, List.map_map]
  rfl

theorem stepsOf_of_view {steps : List (StepRow σ)} {steps' : List (StepRow τ)}
    {g : StepView σ → StepView τ} {e : String × σ → String × τ} {id : JobId}
    (h : steps'.map (·.view) = (steps.map (·.view)).map g) (hjob : ∀ v, (g v).jobId = v.jobId)
    (he : ∀ v, v.jobId = id → ((g v).stageKey, (g v).status) = e (v.stageKey, v.status)) :
    stepsOf steps' id = (stepsOf steps id).map e := by
  rw [stepsOf_eq, stepsOf_eq, h, List.filter_map, List.map_map, List.map_map]
  have hsame : ((fun v : StepView τ => v.jobId == id) ∘ g) = fun v => v.jobId == id :=
    funext fun v => congrArg (· == id) (hjob v)
  rw [hsame]
  refine List.map_congr_left fun v hv => he v ?_
  exact eq_of_beq (List.mem_filter.mp hv).2

def upgraded (now : Timestamp) (db : PreviousTables) : CurrentTables :=
  { updateTables now (renamed db) with
    jobs := (updateTables now (renamed db)).jobs.map fun job =>
      { job.toJobRow with status := keptJobStatus job.status }
    steps := (updateTables now (renamed db)).steps.map fun step =>
      { step with status := keptStepStatus step.status } }

section Upgraded

variable {lower : String → String} (now : Timestamp) (db : PreviousRelease lower)

theorem ids_renamed (db : PreviousTables) : (renamed db).jobs.map (·.id) = db.jobs.map (·.id) := by
  have hids := congrArg (List.map JobView.id) (jobs_renamed db)
  simp only [List.map_map] at hids
  exact hids

theorem jobs_updateTables (db : PreviousTables) :
    (updateTables now (renamed db)).jobs.map (·.view) =
      (db.jobs.map (·.view)).map (JobView.onStatus fun id =>
        jobAfter (removedWorkflow db.requests id) (vmCreated (renamed db).steps id)) := by
  rw [← jobs_renamed db]
  exact jobs_closeJobs now (renamed db)

theorem jobs_upgraded (db : PreviousTables) :
    (upgraded now db).jobs.map (·.view) =
      (db.jobs.map (·.view)).map (JobView.onStatus fun id status =>
        keptJobStatus (jobAfter (removedWorkflow db.requests id)
          (vmCreated (renamed db).steps id) status)) := by
  have h := congrArg (List.map (JobView.onStatus fun _ => keptJobStatus)) (jobs_updateTables now db)
  simp only [upgraded, List.map_map] at h ⊢
  exact h

/-- Where a job's row has stayed, under its changed status. -/
theorem exists_job_renamed {db : PreviousTables} {job : PreviousJobRow} (hjob : job ∈ db.jobs) :
    ∃ job' ∈ (renamed db).jobs, job'.id = job.id ∧ job'.status = job.status := by
  have hview : (renamed db).jobs.map (·.view) = (db.jobs.map (·.view)).map fun v => v := by
    rw [jobs_renamed, List.map_id']
  obtain ⟨job', hjob', heq⟩ := exists_row_after hview hjob
  exact ⟨job', hjob', congrArg JobView.id heq, congrArg JobView.status heq⟩

theorem steps_updateTables_renamed (db : PreviousTables) (hids : (db.jobs.map (·.id)).Nodup) :
    ∃ f : JobId → PreviousStepStatus → PreviousStepStatus,
      (updateTables now (renamed db)).steps.map (·.view) =
        (db.steps.map (·.view)).map
          (fun v => ⟨v.jobId, renamedKey v.stageKey, f v.jobId v.status⟩) ∧
      ∀ job ∈ db.jobs, ∀ status,
        f job.id status = stepAfter (removedWorkflow db.requests job.id) job.status status := by
  obtain ⟨f, hview, hf⟩ := steps_closeJobs now (renamed db)
  refine ⟨f, ?_, ?_⟩
  · rw [steps_updateTables, hview, steps_renamed, List.map_map]
    rfl
  · intro job hjob status
    obtain ⟨job', hjob', hid, hstatus⟩ := exists_job_renamed hjob
    rw [← hid, ← hstatus]
    exact hf (ids_renamed db ▸ hids) job' hjob' status

theorem stepsOf_upgraded {job : PreviousJobRow} (hjob : job ∈ db.jobs) :
    stepsOf (upgraded now db.toTables).steps job.id =
      (stepsOf db.steps job.id).map fun e => (renamedKey e.1,
        keptStepStatus (stepAfter (removedWorkflow db.requests job.id) job.status e.2)) := by
  obtain ⟨f, hview, hf⟩ := steps_updateTables_renamed now db.toTables db.jobIds
  have hmap : (upgraded now db.toTables).steps.map (·.view) = (db.steps.map (·.view)).map
      fun v => ⟨v.jobId, renamedKey v.stageKey, keptStepStatus (f v.jobId v.status)⟩ := by
    have h := congrArg (List.map (StepView.onStatus fun _ => keptStepStatus)) hview
    simp only [upgraded, List.map_map] at h ⊢
    exact h
  refine stepsOf_of_view hmap (fun _ => rfl) fun v hv => ?_
  show (renamedKey v.stageKey, keptStepStatus (f v.jobId v.status)) = _
  rw [hv, hf job hjob]

theorem rebuildEnums_updateTables :
    rebuildEnums (updateTables now (renamed db.toTables)) = .ok (upgraded now db.toTables) := by
  refine rebuildEnums_eq (fun job' hjob' => ?_) (fun step' hstep' => ?_)
  · obtain ⟨job, _, heq⟩ := exists_row_before (jobs_updateTables now db.toTables) hjob'
    rw [show job'.status = _ from congrArg JobView.status heq]
    exact jobAfter_ne_actionRequired _ _ _
  · obtain ⟨f, hview, hf⟩ := steps_updateTables_renamed now db.toTables db.jobIds
    obtain ⟨step, hstep, heq⟩ := exists_row_before hview hstep'
    obtain ⟨job, hjob, hid⟩ := db.stepJobs step hstep
    have hstatus : step'.status = f step.jobId step.status := congrArg StepView.status heq
    rw [hstatus, ← hid, hf job hjob]
    exact stepAfter_ne_waiting _ _ _

end Upgraded

/-! ## Closed or kept -/

/-- No stored request of the job says that it names no installation ISO. -/
def Survives (requests : List RequestRow) (id : JobId) : Prop :=
  ∀ request ∈ requests, request.jobId = id → namesNoIso request.payload = false

/-- The step that creates the VM is done. -/
def vmExists (steps : List (String × StepStatus)) : Bool :=
  steps.any fun step => step.1 == "create_vm" && (step.2 == .succeeded || step.2 == .skipped)

theorem removedWorkflow_eq_false_iff {requests : List RequestRow} {id : JobId} :
    removedWorkflow requests id = false ↔ Survives requests id := by
  rw [removedWorkflow, List.any_eq_false, Survives]
  refine forall_congr' fun request => forall_congr' fun _ => ?_
  rw [Bool.and_eq_true_iff, not_and, beq_iff_eq, Bool.not_eq_true]

theorem active_jobAfter {removed created : Bool} {status : PreviousJobStatus}
    (h : (keptJobStatus (jobAfter removed created status)).active = true) :
    status.active = true ∧ removed = false := by
  cases status <;> cases removed <;> cases created <;> revert h <;> decide

/-- A job that could still run and cannot any more was closed. -/
theorem closed_jobAfter {removed created : Bool} {status : PreviousJobStatus}
    (hopen : status.ipReserving = true)
    (h : (keptJobStatus (jobAfter removed created status)).active = false) :
    keptJobStatus (jobAfter removed created status) =
      if created then .partiallyCompleted else .failed := by
  cases status <;> cases removed <;> cases created <;> revert hopen h <;> decide

theorem kept_jobAfter {created : Bool} {status : PreviousJobStatus} (h : status.active = true) :
    status.current = some (keptJobStatus (jobAfter false created status)) := by
  cases status <;> revert h <;> cases created <;> decide

theorem stepAfter_ne_running {job : PreviousJobStatus} (hopen : job.ipReserving = true)
    (status : PreviousStepStatus) : keptStepStatus (stepAfter true job status) ≠ .running := by
  cases status <;> cases job <;> revert hopen <;> decide

theorem kept_stepAfter {job : PreviousJobStatus} (h : job.active = true)
    (status : PreviousStepStatus) :
    keptStepStatus (stepAfter false job status) = keptStepStatus status := by
  cases status <;> cases job <;> revert h <;> decide

/-- Ending a step neither makes a VM nor hides one. -/
theorem succeeded_stepAfter (removed : Bool) (job : PreviousJobStatus)
    (status : PreviousStepStatus) :
    (keptStepStatus (stepAfter removed job status) == .succeeded ||
        keptStepStatus (stepAfter removed job status) == .skipped) =
      (status == .succeeded || status == .skipped) := by
  cases status <;> cases removed <;> cases job <;> rfl

section Outcome

variable {lower : String → String} (now : Timestamp) (db : PreviousRelease lower)

/-! ## The new indexes -/

/-- Whoever is active after the upgrade has been active before, under the same name. -/
theorem activeVmNames_upgraded : (activeVmNames lower (upgraded now db.toTables).jobs).Nodup := by
  have hbefore : (((db.jobs.map (·.view)).filter (·.status.active)).map
      fun job => lower job.vmName).Nodup := by
    have h := db.activeVmName
    rw [List.filter_map, List.map_map]
    exact h
  have hafter : activeVmNames lower (upgraded now db.toTables).jobs =
      (((upgraded now db.toTables).jobs.map (·.view)).filter (·.status.active)).map
        fun job => lower job.vmName := by
    rw [List.filter_map, List.map_map]
    rfl
  rw [hafter, jobs_upgraded, List.filter_map, List.map_map]
  refine hbefore.sublist ?_
  refine (List.monotone_filter_right _ fun job h => ?_).map _
  exact (active_jobAfter h).1

theorem ipReserving_of_active {status : PreviousJobStatus} (h : status.active = true) :
    status.ipReserving = true := by
  cases status <;> revert h <;> decide

theorem activeIpv4_upgraded : (activeIpv4 (upgraded now db.toTables).jobs).Nodup := by
  have hbefore : (((db.jobs.map (·.view)).filter (·.status.ipReserving)).filterMap
      (·.reservedIpv4)).Nodup := by
    have h := db.reservedIpv4
    rw [List.filter_map, List.filterMap_map]
    exact h
  have hafter : activeIpv4 (upgraded now db.toTables).jobs =
      (((upgraded now db.toTables).jobs.map (·.view)).filter (·.status.active)).filterMap
        (·.reservedIpv4) := by
    rw [List.filter_map, List.filterMap_map]
    rfl
  rw [hafter, jobs_upgraded, List.filter_map, List.filterMap_map]
  refine hbefore.sublist ?_
  refine (List.monotone_filter_right _ fun job h => ?_).filterMap _
  exact ipReserving_of_active (active_jobAfter h).1

theorem upgrade_eq (hcollide : ¬StagesCollide db.toTables) :
    upgrade lower now db.toTables = .ok (upgraded now db.toTables) := by
  rw [upgrade, renameStage_eq_ok _ db.stepKeys hcollide, ok_bind,
    rebuildEnums_updateTables, ok_bind, createIndexes]
  rw [if_neg (not_not.mpr (activeVmNames_upgraded now db)),
    if_neg (not_not.mpr (activeIpv4_upgraded now db))]

/-! ## What holds of the upgraded tables -/

/-- The row of a job, before and after. -/
theorem status_upgraded {job : PreviousJobRow} (hjob : job ∈ db.jobs) {job' : JobRow JobStatus}
    (hjob' : job' ∈ (upgraded now db.toTables).jobs) (hid : job'.id = job.id) :
    job'.status = keptJobStatus (jobAfter (removedWorkflow db.requests job.id)
      (vmCreated (renamed db.toTables).steps job.id) job.status) := by
  obtain ⟨before, hbefore, hview⟩ := exists_row_before (jobs_upgraded now db.toTables) hjob'
  have hsame : before = job :=
    List.inj_on_of_nodup_map db.jobIds hbefore hjob ((congrArg JobView.id hview).symm.trans hid)
  subst hsame
  exact congrArg JobView.status hview

theorem vmExists_upgraded {job : PreviousJobRow} (hjob : job ∈ db.jobs) :
    vmExists (stepsOf (upgraded now db.toTables).steps job.id) =
      vmCreated (renamed db.toTables).steps job.id := by
  have hrenamed : stepsOf (renamed db.toTables).steps job.id =
      (stepsOf db.steps job.id).map fun e => (renamedKey e.1, e.2) :=
    stepsOf_of_view (steps_renamed db.toTables) (fun _ => rfl) fun _ _ => rfl
  have hcreated : vmCreated (renamed db.toTables).steps job.id =
      (stepsOf (renamed db.toTables).steps job.id).any fun step =>
        step.1 == "create_vm" && (step.2 == .succeeded || step.2 == .skipped) := by
    rw [stepsOf, List.any_map, List.any_filter, vmCreated]
    simp only [Bool.and_assoc, Function.comp_def]
  rw [hcreated, hrenamed, vmExists, stepsOf_upgraded now db hjob, List.any_map, List.any_map]
  refine congrArg (List.any _) (funext fun step => ?_)
  exact congrArg (_ && ·) (succeeded_stepAfter _ _ _)

/-- What the migration promises of the tables it leaves. -/
structure Sound (lower : String → String) (db : PreviousTables) (db' : CurrentTables) : Prop where
  jobIds : db'.jobs.map (·.id) = db.jobs.map (·.id)
  requests : db'.requests = db.requests
  activeVmName : (activeVmNames lower db'.jobs).Nodup
  reservedIpv4 : (activeIpv4 db'.jobs).Nodup
  media : ∀ job ∈ db'.jobs, job.status.active = true → Survives db'.requests job.id
  closed : ∀ job ∈ db.jobs, ∀ job' ∈ db'.jobs, job'.id = job.id →
    job.status.ipReserving = true → job'.status.active = false →
    job'.status = (if vmExists (stepsOf db'.steps job.id) then .partiallyCompleted else .failed) ∧
      (¬Survives db.requests job.id → ∀ step ∈ stepsOf db'.steps job.id, step.2 ≠ .running)
  kept : ∀ job ∈ db.jobs, ∀ job' ∈ db'.jobs, job'.id = job.id →
    job.status.active = true → Survives db.requests job.id →
    job.status.current = some job'.status ∧
      stepsOf db'.steps job.id =
        (stepsOf db.steps job.id).map fun step => (renamedKey step.1, keptStepStatus step.2)

theorem sound_upgraded : Sound lower db.toTables (upgraded now db.toTables) where
  jobIds := by
    have hids := congrArg (List.map JobView.id) (jobs_upgraded now db.toTables)
    simp only [List.map_map] at hids
    exact hids
  requests := rfl
  activeVmName := activeVmNames_upgraded now db
  reservedIpv4 := activeIpv4_upgraded now db
  media := by
    intro job' hjob' hactive
    obtain ⟨job, _, hview⟩ := exists_row_before (jobs_upgraded now db.toTables) hjob'
    have hid : job'.id = job.id := congrArg JobView.id hview
    rw [show job'.status = _ from congrArg JobView.status hview] at hactive
    rw [hid]
    exact removedWorkflow_eq_false_iff.mp (active_jobAfter hactive).2
  closed := by
    intro job hjob job' hjob' hid hopen hclosed
    have hstatus := status_upgraded now db hjob hjob' hid
    refine ⟨?_, ?_⟩
    · rw [vmExists_upgraded now db hjob, hstatus]
      exact closed_jobAfter hopen (hstatus ▸ hclosed)
    · intro hremoved step hstep
      rw [← removedWorkflow_eq_false_iff, Bool.not_eq_false] at hremoved
      rw [stepsOf_upgraded now db hjob, hremoved] at hstep
      obtain ⟨before, _, rfl⟩ := List.mem_map.mp hstep
      exact stepAfter_ne_running hopen before.2
  kept := by
    intro job hjob job' hjob' hid hactive hsurvives
    have hremoved := removedWorkflow_eq_false_iff.mpr hsurvives
    refine ⟨?_, ?_⟩
    · rw [status_upgraded now db hjob hjob' hid, hremoved]
      exact kept_jobAfter hactive
    · rw [stepsOf_upgraded now db hjob, hremoved]
      simp only [kept_stepAfter hactive]

/-- The upgrade fails exactly if a job has a step under both keys of the renamed stage, and
what it leaves otherwise is sound. -/
theorem upgrade_outcome :
    (StagesCollide db.toTables ∧
      upgrade lower now db.toTables = .error (.duplicateKey "uq_job_step_stage")) ∨
    (¬StagesCollide db.toTables ∧
      ∃ db', upgrade lower now db.toTables = .ok db' ∧ Sound lower db.toTables db') := by
  by_cases hcollide : StagesCollide db.toTables
  · left
    refine ⟨hcollide, ?_⟩
    rw [upgrade, renameStage_eq _ db.stepKeys hcollide]
    rfl
  · right
    exact ⟨hcollide, upgraded now db.toTables, upgrade_eq now db hcollide, sound_upgraded now db⟩

end Outcome

/-! ## What the constraints of the previous release admit -/

/-- One job of the surviving workflow. -/
def oneJob (status : PreviousJobStatus) (steps : List (String × PreviousStepStatus))
    (hkeys : (steps.map Prod.fst).Nodup) : PreviousRelease id where
  jobs := [⟨⟨"j1", status, "web01", none, none, none, none, none⟩, none⟩]
  steps := steps.map fun step => ⟨"j1", step.1, "", 0, step.2, none, none⟩
  requests := [⟨"j1", .object [("guest", .object [("iso_id", .text ['7'])])]⟩]
  notifications := []
  settings := []
  jobIds := List.nodup_singleton _
  stepKeys := by
    have hmap := hkeys.map (f := fun key => ("j1", key)) fun _ _ h => congrArg Prod.snd h
    rw [List.map_map] at hmap ⊢
    exact hmap
  stepJobs := by
    intro step hstep
    obtain ⟨_, _, rfl⟩ := List.mem_map.mp hstep
    exact ⟨_, List.mem_singleton_self _, rfl⟩
  requestJobIds := List.nodup_singleton _
  requestJobs := by simp
  settingKeys := List.nodup_nil
  activeVmName := by cases status <;> decide
  reservedIpv4 := by cases status <;> decide

def clonedAndCreated : PreviousRelease id :=
  oneJob .queued [("clone_vm", .succeeded), ("create_vm", .pending)] (by decide)

def pausedWhileRunning : PreviousRelease id :=
  oneJob .actionRequired [("power_on", .running)] (by decide)

def runningAndWaiting : PreviousRelease id :=
  oneJob .running [("power_on", .waitingForPrerequisite)] (by decide)

/-- Statuses of the jobs and of the steps, where the upgrade succeeds. -/
def statusesAfter (db : PreviousTables) : Option (List JobStatus × List StepStatus) :=
  (upgrade id 0 db).toOption.map fun db' => (db'.jobs.map (·.status), db'.steps.map (·.status))

/-- The upgrade need not succeed, a job that it closes may keep a running step, and the steps
of a running job with an ISO may change. -/
theorem upgrade_unsound :
    statusesAfter clonedAndCreated.toTables = none ∧
    statusesAfter pausedWhileRunning.toTables = some ([.failed], [.running]) ∧
    statusesAfter runningAndWaiting.toTables = some ([.running], [.failed]) := by
  refine ⟨?_, ?_, ?_⟩ <;> decide +kernel

end InfraOps.IsoOnly
