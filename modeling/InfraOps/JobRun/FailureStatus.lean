import InfraOps.JobRun.Retryable

/-!
# What a failure status says about the VM

`_handle_failure` chooses between `FAILED` and `PARTIALLY_COMPLETED` by the step of
`create_vm`; `_fail_before_pipeline` always writes `FAILED`, also when an earlier run, or
the crashed one, has created the VM.
-/

namespace InfraOps

open JobRepository RunState

/-- A failure outside the stages meets a job without a VM. -/
def failsWithoutVm (s : RunState) (e : Event) : Bool :=
  match e.action with
  | .startFails _ | .crash _ => !vmCreated s.job
  | _ => true

/-- `FAILED` means that no VM was created, `PARTIALLY_COMPLETED` that one was. -/
structure StatusTellsVm (job : ProvisioningJob) : Prop where
  failed : job.status = .failed → vmCreated job = false
  partially : job.status = .partiallyCompleted → vmCreated job = true

theorem vmCreated_congr {job job' : ProvisioningJob}
    (h : job'.stepStatus .createVm = job.stepStatus .createVm) :
    vmCreated job' = vmCreated job := by
  unfold vmCreated
  rw [h]

namespace StatusTellsVm

theorem of_other {job : ProvisioningJob} (hfailed : job.status ≠ .failed)
    (hpartially : job.status ≠ .partiallyCompleted) : StatusTellsVm job :=
  ⟨fun h => absurd h hfailed, fun h => absurd h hpartially⟩

/-- **A stage failure** tells the truth. -/
theorem handleFailure (ctx : JobRunContext) (k : Stage) (f : InfraOperationError)
    (screenshot : Option String) (removal : RemovalAnswers) (now : Timestamp) (d : Deployment) :
    StatusTellsVm (handleFailure ctx k f screenshot removal now d).job := by
  obtain ⟨records, hjob, -⟩ := handleFailure_eq ctx k f screenshot removal now d
  have hcreated : vmCreated (InfraOps.handleFailure ctx k f screenshot removal now d).job =
      vmCreated (d.job.setStep k fun step => { step with status := .failed }) := by
    refine vmCreated_congr ?_
    rw [hjob]
    refine (release_stepStatus_ne ctx _ removal _ (by decide)).trans ?_
    exact (failJob_stepStatus k f screenshot now d.job .createVm).trans
      (ProvisioningJob.stepStatus_setStep (f := fun step => { step with status := .failed })
        (fun _ => rfl) .createVm).symm
  have hstatus : (InfraOps.handleFailure ctx k f screenshot removal now d).job.status =
      if vmCreated (d.job.setStep k fun step => { step with status := .failed }) then
        .partiallyCompleted else .failed := by
    rw [hjob, release_status]
    rfl
  constructor
  · intro hfailed
    rw [hstatus] at hfailed
    rw [hcreated]
    split at hfailed
    · cases hfailed
    · rename_i hnot
      exact Bool.not_eq_true _ ▸ hnot
  · intro hpartially
    rw [hstatus] at hpartially
    rw [hcreated]
    split at hpartially
    · assumption
    · cases hpartially

theorem failBeforePipeline {d : Deployment} (h : vmCreated d.job = false) (e : StartError)
    (now : Timestamp) : StatusTellsVm (failBeforePipeline e now d).job := by
  refine ⟨fun _ => ?_, fun hp => by cases hp⟩
  -- a step that is cancelled with the job was neither succeeded nor skipped
  unfold vmCreated at h ⊢
  rw [failBeforePipeline_stepStatus]
  cases hst : d.job.stepStatus .createVm with
  | none => rfl
  | some st => rw [hst] at h; cases st <;> simp_all [cancelStatus]

end StatusTellsVm

/-- While anything executes the job, its status is not that of a failure. -/
structure StatusInv (s : RunState) : Prop where
  tells : StatusTellsVm s.job
  executing : s.exec ≠ .idle → s.job.status ≠ .failed ∧ s.job.status ≠ .partiallyCompleted

theorem StatusInv.of_other {s : RunState} (hfailed : s.job.status ≠ .failed)
    (hpartially : s.job.status ≠ .partiallyCompleted) : StatusInv s :=
  ⟨.of_other hfailed hpartially, fun _ => ⟨hfailed, hpartially⟩⟩

theorem StatusInv.step {s s' : RunState} {e : Event} (hrow : StageRow s) (hs : StatusInv s)
    (hc : failsWithoutVm s e = true) (h : Transition s e s') : StatusInv s' := by
  cases h with
  | claimed hexec hdue => exact .of_other (by simp) (by simp)
  | started hexec hstatus =>
    exact .of_other (by simp [startRun, hstatus]) (by simp [startRun, hstatus])
  | startFailed hexec hstatus =>
    refine ⟨.failBeforePipeline ?_ _ _, fun hne => absurd rfl hne⟩
    have hc : vmCreated s.job = false := by simpa [failsWithoutVm] using hc
    -- a row that `ensure_steps` creates is `PENDING`
    unfold vmCreated at hc ⊢
    rw [ensureSteps_stepStatus]
    cases hst : s.job.stepStatus .createVm with
    | none => rfl
    | some st => rw [hst] at hc; exact hc
  | notOwned haction hexec hstatus =>
    obtain ⟨hf, hp⟩ := hs.executing (by rw [hexec]; simp)
    exact .of_other hf hp
  | beatLoop hexec hstatus => exact .of_other (by simp [hstatus]) (by simp [hstatus])
  | beatStage hexec hstatus => exact .of_other (by simp [hstatus]) (by simp [hstatus])
  | finalized hexec => exact .of_other (by simp [finalizeSuccess]) (by simp [finalizeSuccess])
  | skipped hexec hskip =>
    obtain ⟨hf, hp⟩ := hs.executing (by rw [hexec]; simp)
    exact .of_other hf hp
  | cancelledBetween hexec hrow' hdone hcancel => exact .of_other (by simp) (by simp)
  | startedStage hexec hrow' hdone hcancel =>
    obtain ⟨hf, hp⟩ := hs.executing (by rw [hexec]; simp)
    exact .of_other hf hp
  | @returned now answers removal screenshot k rest ctx run outcome hexec hrun hresult =>
    obtain ⟨hf, hp⟩ := hs.executing (by rw [hexec]; simp)
    have hstatus := applyAssignments_status s.job run.assignments
    exact .of_other (fun h => hf (hstatus.symm.trans h)) (fun h => hp (hstatus.symm.trans h))
  | raised hexec hrun hresult =>
    refine ⟨.handleFailure _ _ _ _ _ _ (s.ranTo _), fun hne => absurd (afterStage_of_failed ?_) hne⟩
    exact handleFailure_stepStatus_self (row_applyAssignments (hrow _ _ _ hexec).1 _) _ _ _ _ _
  | timedOut hexec hrun =>
    refine ⟨.handleFailure _ _ _ _ _ _ (s.cutAt _ _), fun hne => ?_⟩
    refine absurd (afterStage_of_failed ?_) hne
    exact handleFailure_stepStatus_self (row_applyAssignments (hrow _ _ _ hexec).1 _) _ _ _ _ _
  | cancelledWithin hexec hevent hrun =>
    exact .of_other (by simp [cancelStage, RunState.endStage])
      (by simp [cancelStage, RunState.endStage])
  | crashed hexec hclaimed habort =>
    refine ⟨.failBeforePipeline ?_ _ _, fun hne => absurd rfl hne⟩
    rw [(aborted_spec habort).1]
    simpa [failsWithoutVm] using hc
  | interrupted habort hstatus =>
    exact .of_other (by simp [InfraOps.interrupt]) (by simp [InfraOps.interrupt])
  | abandoned habort hstatus =>
    have hlive := (aborted_spec habort).2.2.2.2.2
    obtain ⟨hf, hp⟩ := hs.executing (by rintro hidle; rw [hidle] at hlive; cases hlive)
    rw [← (aborted_spec habort).1] at hf hp
    exact .of_other hf hp
  | @cleanedUp now contextBuilt removal hexec =>
    obtain ⟨hf, hp⟩ := hs.executing (by rw [hexec]; simp)
    have hstatus : (InfraOps.cleanUp s.request contextBuilt removal s.toDeployment).job.status =
        s.job.status := by
      cases contextBuilt with
      | true => exact release_status _ _ _ _
      | false => rfl
    exact .of_other (fun h => hf (hstatus.symm.trans h)) (fun h => hp (hstatus.symm.trans h))
  | landed hflight => exact ⟨hs.tells, hs.executing⟩
  | cancelled hjob =>
    rcases cancelJob_cases hjob with ⟨-, -, rfl⟩ | ⟨-, hstatus, -⟩ | ⟨hrunning, rfl⟩
    · exact .of_other (by simp [handOver]) (by simp [handOver])
    · exact .of_other (by simp [hstatus]) (by simp [hstatus])
    · exact .of_other (by simp [hrunning]) (by simp [hrunning])
  | retried hjob =>
    obtain ⟨-, stageKeys, hrequeued⟩ := retryStages_requeued hjob
    exact .of_other (by simp [hrequeued.status]) (by simp [hrequeued.status])

/-- **The failure status tells whether a VM exists**, in every state of every run whose
failures outside the stages meet a job without a VM. -/
theorem failure_status_tells_vm {s : RunState}
    (hs : jobRun.ReachableUnder (fun s e => failsWithoutVm s e = true) s) :
    StatusTellsVm s.job := by
  have hinv : StatusInv s := by
    refine hs.invariant (I := StatusInv) (fun s h0 => ?_) fun s e s' hr hi hc hstep => ?_
    · exact .of_other (by simp [h0.status]) (by simp [h0.status])
    · exact hi.step (mediaInv hr).row hc (transition_of_step hstep)
  exact hinv.tells

/-- The VM is created, a later stage fails, and the retry fails before its first stage. -/
theorem failed_job_has_vm : ∃ s, jobRun.Reachable s ∧ s.job.status = .failed ∧
    s.job.stepStatus .createVm = some .succeeded ∧ ¬StatusTellsVm s.job := by
  obtain ⟨s, hs, hp⟩ := Machine.exists_reachable_of_run (m := jobRun)
    (p := fun s => s.job.status == .failed && s.job.stepStatus .createVm == some .succeeded)
    (RunState.submitted_spec "j1" { vmName := "web01" })
    (show ((jobRun.run _ (runsStages 0 (orderedStages.take 4) ++ failsNext ++
      [retryAll, ⟨0, .claim 1⟩, ⟨0, .startFails ⟨"OperationalError", "connection lost"⟩⟩])).any
        _) = true by decide +kernel)
  rw [Bool.and_eq_true, beq_iff_eq, beq_iff_eq] at hp
  refine ⟨s, hs, hp.1, hp.2, fun htells => ?_⟩
  have hcreated := htells.failed hp.1
  rw [vmCreated, hp.2] at hcreated
  cases hcreated

/-- A run that fails before its first stage, and a retry that fails after the VM exists. -/
theorem failure_status_tells_vm_retried : ∃ s, jobRun.Reachable s ∧
    s.job.status = .partiallyCompleted ∧ StatusTellsVm s.job := by
  obtain ⟨s, hs, hp⟩ := Machine.exists_reachableUnder_of_run (m := jobRun) (c := failsWithoutVm)
    (p := fun s => s.job.status == .partiallyCompleted)
    (RunState.submitted_spec "j1" { vmName := "web01" })
    (show ((jobRun.runUnder _ _ ([⟨0, .claim 1⟩,
      ⟨0, .startFails ⟨"OperationalError", "connection lost"⟩⟩, retryAll] ++
      runsStages 0 (orderedStages.take 4) ++ failsNext)).any _) = true by decide +kernel)
  rw [beq_iff_eq] at hp
  exact ⟨s, hs.reachable, hp, failure_status_tells_vm hs⟩

end InfraOps
