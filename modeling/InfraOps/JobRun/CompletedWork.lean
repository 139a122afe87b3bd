import InfraOps.JobRun.OneEnd
import InfraOps.JobRun.Statuses

/-!
# Completed work is not repeated

The pipeline starts a stage only when its step is not done, so a completed stage can only
run again after a write that undoes its step. One write does: a release, of a preparation
that Windows has not booted from.
-/

namespace InfraOps

open JobRepository RunState

/-- The step calls `release_unattended_media`, which resets the preparation because
`power_on` has not succeeded. -/
structure ResetByRelease (s : RunState) (e : Event) (s' : RunState) : Prop where
  step : jobRun.step s e = some s'
  succeeded : s.job.stepStatus .prepareUnattendedInstall = some .succeeded
  notBooted : booted s.job = false
  released : ∃ ctx reason removal d, d.job.stepDone .prepareUnattendedInstall = true ∧
    booted d.job = false ∧
    (releaseUnattendedMedia ctx reason removal d).1.job.stepStatus .prepareUnattendedInstall =
      some .pending
  notDone : s'.job.stepDone .prepareUnattendedInstall = false

/-! ## What undoes a step -/

/-- A release that was called on `d` undid the step of `k`. -/
structure Undone (d : Deployment) (k : Stage) : Prop where
  stage : k = .prepareUnattendedInstall
  succeeded : d.job.stepStatus k = some .succeeded
  notBooted : booted d.job = false
  released : ∃ ctx reason removal,
    (releaseUnattendedMedia ctx reason removal d).1.job.stepStatus k = some .pending

theorem undone_of_release {ctx : JobRunContext} {reason : String} {a : RemovalAnswers}
    {d : Deployment} {k : Stage} (hd : d.job.stepDone k = true)
    (hnot : (releaseUnattendedMedia ctx reason a d).1.job.stepDone k = false) : Undone d k := by
  rcases release_stepStatus ctx reason a d k with hsame | ⟨hk, hboot, hsucceeded, hpending⟩
  · rw [stepDone_setStatus hsame, hd] at hnot
    cases hnot
  · exact ⟨hk, hsucceeded, hboot, ctx, reason, a, hpending⟩

theorem undone_of_handleFailure {k k' : Stage} {ctx : JobRunContext} {f : InfraOperationError}
    {screenshot : Option String} {removal : RemovalAnswers} {now : Timestamp} {d : Deployment}
    (hk : d.job.stepDone k = false) (hd : d.job.stepDone k' = true)
    (hnot : (handleFailure ctx k f screenshot removal now d).job.stepDone k' = false) :
    ∃ records, Undone { d with job := failJob k f screenshot now d.job, records } k' := by
  obtain ⟨records, hjob, -⟩ := handleFailure_eq ctx k f screenshot removal now d
  rw [hjob] at hnot
  refine ⟨records, undone_of_release ?_ hnot⟩
  rw [(KeepsDone.failJob hk f screenshot now).done]
  exact hd

theorem undone_of_applyCancellation {k : Stage} {ctx : JobRunContext} {removal : RemovalAnswers}
    {now : Timestamp} {d : Deployment} (hd : d.job.stepDone k = true)
    (hnot : (applyCancellation ctx removal now d).job.stepDone k = false) : Undone d k := by
  rw [stepDone_map cancelStatus_done (applyCancellation_stepStatus ctx removal now d k)] at hnot
  exact undone_of_release hd hnot

/-- The deployment that the release was called on agrees with the state before the step on
what decides the reset. -/
theorem Undone.resetByRelease {s s' : RunState} {e : Event} {d : Deployment} {k : Stage}
    (h : Undone d k) (hstep : jobRun.step s e = some s') (hkept : KeepsDone s.job d.job)
    (hnot : s'.job.stepDone k = false) : k = .prepareUnattendedInstall ∧ ResetByRelease s e s' := by
  obtain ⟨rfl, hsucceeded, hboot, ctx, reason, removal, hpending⟩ := h
  have hdone : d.job.stepDone .prepareUnattendedInstall = true := by
    rw [ProvisioningJob.stepDone_eq, hsucceeded]
    rfl
  refine ⟨rfl, hstep, ?_, ?_, ⟨ctx, reason, removal, d, hdone, hboot, hpending⟩, hnot⟩
  · rw [← hsucceeded]
    exact (hkept.kept _ ((hkept.done _).symm.trans hdone)).symm
  · -- a boot that was done before the step still is when the release looks
    rw [← Bool.not_eq_true]
    intro hbooted
    have hpower : s.job.stepDone .powerOn = true := by
      rw [ProvisioningJob.stepDone_eq]
      simp only [booted, Bool.or_eq_true, beq_iff_eq] at hbooted
      rcases hbooted with hp | hp <;> rw [hp] <;> rfl
    have hsame := hkept.kept _ hpower
    unfold booted at hbooted hboot
    rw [hsame, hbooted] at hboot
    cases hboot

/-- **Only a release undoes a step.** -/
theorem Transition.undone {s s' : RunState} {e : Event} (hrow : StageRow s)
    (hstep : jobRun.step s e = some s') {k : Stage} (hd : s.job.stepDone k = true)
    (hnot : s'.job.stepDone k = false) : k = .prepareUnattendedInstall ∧ ResetByRelease s e s' := by
  have habsurd : s'.job.stepDone k = s.job.stepDone k →
      k = .prepareUnattendedInstall ∧ ResetByRelease s e s' := by
    intro hsame
    rw [hsame, hd] at hnot
    cases hnot
  have hassigned : ∀ as, KeepsDone s.job (applyAssignments s.job as) := .assignments s.job
  cases transition_of_step hstep with
  | started hexec hstatus => exact habsurd (ensureSteps_stepDone s.job k)
  | @startFailed now error hexec hstatus =>
    refine habsurd ?_
    rw [(KeepsDone.failBeforePipeline error now
      { s.toDeployment with job := ensureSteps s.job }).done]
    exact ensureSteps_stepDone s.job k
  | cancelledBetween hexec hrow' hdone hcancel =>
    exact (undone_of_applyCancellation hd hnot).resetByRelease hstep (.refl _) hnot
  | startedStage hexec hrow' hdone hcancel =>
    exact habsurd ((KeepsDone.startStage hdone _).done k)
  -- the stage that ends was not done, so it is not the one undone
  | @returned now answers removal screenshot k' rest ctx run outcome hexec hrun hresult =>
    have hne : k ≠ k' := by
      rintro rfl
      rw [(hrow k rest ctx hexec).2] at hd
      cases hd
    refine habsurd (Eq.trans ?_ ((hassigned run.assignments).done k))
    refine stepDone_setStatus ?_
    exact (finishStage_stepStatus k' outcome now _ k).trans (if_neg hne)
  -- the release of a failure sees the row with its step failed
  | @raised now answers removal screenshot k' rest ctx run raised hexec hrun hresult =>
    have hk' : (s.ranTo run).job.stepDone k' = false :=
      ((hassigned run.assignments).done k').trans (hrow k' rest ctx hexec).2
    obtain ⟨records, hundone⟩ := undone_of_handleFailure (d := s.ranTo run) hk'
      (((hassigned run.assignments).done k).trans hd) hnot
    exact hundone.resetByRelease hstep ((hassigned run.assignments).trans (.failJob hk' _ _ _)) hnot
  | @timedOut now answers cut seconds removal screenshot k' rest ctx run hexec hrun =>
    have hcut := hassigned (run.assignmentsBefore cut)
    have hk' : (s.cutAt run cut).job.stepDone k' = false :=
      (hcut.done k').trans (hrow k' rest ctx hexec).2
    obtain ⟨records, hundone⟩ := undone_of_handleFailure (d := s.cutAt run cut) hk'
      ((hcut.done k).trans hd) hnot
    exact hundone.resetByRelease hstep (hcut.trans (.failJob hk' _ _ _)) hnot
  | @cancelledWithin now answers cut removal k' rest ctx run hexec hevent hrun =>
    have hcut := hassigned (run.assignmentsBefore cut)
    have hk' : (s.cutAt run cut).job.stepDone k' = false :=
      (hcut.done k').trans (hrow k' rest ctx hexec).2
    have hset := hcut.trans (.cancelledStep hk' now)
    exact (undone_of_applyCancellation (d := { s.cutAt run cut with
      job := (s.cutAt run cut).job.setStep k' (cancelledStep now) })
      ((hset.done k).trans hd) hnot).resetByRelease hstep hset hnot
  | @crashed now abort s₁ hexec hclaimed habort =>
    refine habsurd ?_
    rw [(KeepsDone.failBeforePipeline pipelineCrashed now s₁.toDeployment).done,
      (aborted_spec habort).1]
  | @interrupted now reason abort s₁ habort hstatus =>
    refine habsurd ?_
    rw [(KeepsDone.interrupt reason now s₁.toDeployment).done, (aborted_spec habort).1]
  | abandoned habort hstatus =>
    refine habsurd ?_
    rw [(aborted_spec habort).1]
  -- the clean-up releases media only with a context to do it in
  | @cleanedUp now contextBuilt removal hexec =>
    cases contextBuilt with
    | true =>
      have hundone := undone_of_release (d := s.toDeployment) hd hnot
      exact hundone.resetByRelease hstep (.refl _) hnot
    | false => exact habsurd rfl
  | cancelled hjob => exact habsurd ((KeepsDone.cancelJob hjob).done k)
  | retried hjob => exact habsurd ((KeepsDone.retryStages hjob).done k)
  | _ => exact habsurd rfl

/-! ## Whole histories -/

end InfraOps
