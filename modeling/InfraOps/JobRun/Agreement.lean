import InfraOps.JobRun.Phases

/-!
# Job and step statuses agree

The pipeline goes on after a cancellation inside a stage: after the last stage it finalises
the job as `COMPLETED`, and after any other it starts the next stage unless it finds the
cancellation still on the row. The clean-up of an interruption resets the preparation
without looking at the job again. These are the three steps that break the agreement.
-/

namespace InfraOps

open JobRepository RunState

/-- What the status columns promise together. -/
structure StatusesAgree (job : ProvisioningJob) : Prop where
  completed : job.status = .completed → ∀ k st, job.stepStatus k = some st → st.done = true
  cancelled : job.status = .cancelled → NoneLive job
  quiet : job.status ≠ .running → NoneRunning job

/-- The end of the loop finalises the job only while the row is `RUNNING`. -/
def finalizesOwned (s : RunState) (e : Event) : Bool :=
  match s.exec, e.action with
  | .loop [] _, .next _ => s.job.status == .running
  | _, _ => true

/-- The clean-up of an interruption removes media, before Windows has booted from them, in
a job that has been cancelled since. -/
def resetsCancelled (s : RunState) (e : Event) : Bool :=
  match s.exec, e.action with
  | .releasing, .cleanUp true removal =>
    removal.succeeds && s.job.status == .cancelled && mayHoldUnattendedMedia s.job &&
      !booted s.job
  | _, _ => false

/-- The step keeps the statuses in agreement. -/
def keepsAgreement (s : RunState) (e : Event) : Bool :=
  startsOwned s e && finalizesOwned s e && !resetsCancelled s e

/-- The part of the agreement that the phases do not already give. -/
structure EndInv (job : ProvisioningJob) : Prop where
  completed : job.status = .completed → ∀ k, job.stepDone k = true
  cancelled : job.status = .cancelled → NoneLive job

namespace EndInv

theorem of_other {job : ProvisioningJob} (h₁ : job.status ≠ .completed)
    (h₂ : job.status ≠ .cancelled) : EndInv job :=
  ⟨fun h => absurd h h₁, fun h => absurd h h₂⟩

/-- Every live step has been cancelled. -/
theorem of_cancelled {job job' : ProvisioningJob} (hstatus : job'.status ≠ .completed)
    (hsteps : ∀ k, job'.stepStatus k = (job.stepStatus k).map cancelStatus) : EndInv job' := by
  refine ⟨fun h => absurd h hstatus, fun _ k => ?_⟩
  rw [hsteps]
  cases job.stepStatus k with
  | none => simp
  | some st => simpa using cancelStatus_settled st

theorem handleFailure (ctx : JobRunContext) (k : Stage) (f : InfraOperationError)
    (screenshot : Option String) (removal : RemovalAnswers) (now : Timestamp) (d : Deployment) :
    EndInv (handleFailure ctx k f screenshot removal now d).job := by
  obtain ⟨records, hjob, -⟩ := handleFailure_eq ctx k f screenshot removal now d
  have hstatus := failJob_status k f screenshot now d.job
  rw [hjob]
  refine of_other ?_ ?_
  all_goals
    rw [release_status]
    rcases hstatus with h | h <;> simp [h]

theorem applyCancellation (ctx : JobRunContext) (removal : RemovalAnswers) (now : Timestamp)
    (d : Deployment) : EndInv (applyCancellation ctx removal now d).job :=
  of_cancelled (by simp) (applyCancellation_stepStatus ctx removal now d)

theorem cancelJob {job job' : ProvisioningJob} {now : Timestamp}
    (h : cancelJob job now = .ok job') : EndInv job' := by
  rcases cancelJob_cases h with ⟨-, -, rfl⟩ | ⟨-, hstatus, hsteps⟩ | ⟨hrunning, rfl⟩
  · exact of_other (by simp [handOver]) (by simp [handOver])
  · exact of_cancelled (by simp [hstatus]) hsteps
  · exact of_other (by simp [hrunning]) (by simp [hrunning])

/-- A release that rewrites no status keeps the agreement. -/
theorem of_statuses {job job' : ProvisioningJob} (h : EndInv job)
    (hs : ∀ k, job'.stepStatus k = job.stepStatus k) (hstatus : job'.status = job.status) :
    EndInv job' where
  completed hc k := (stepDone_setStatus (hs k)).trans (h.completed (hstatus ▸ hc) k)
  cancelled hc k := by rw [hs]; exact h.cancelled (hstatus ▸ hc) k

/-- The clean-up of a completed job finds Windows booted, and that of a cancelled job, with
nothing to reset, rewrites no status. -/
theorem cleanUp {s : RunState} (h : EndInv s.job) (ht : StepTableInv s.job)
    {now : Timestamp} {contextBuilt : Bool} {removal : RemovalAnswers}
    (hexec : s.exec = .releasing)
    (hreset : resetsCancelled s ⟨now, .cleanUp contextBuilt removal⟩ = false) :
    EndInv (InfraOps.cleanUp s.request contextBuilt removal s.toDeployment).job := by
  unfold InfraOps.cleanUp
  split
  · rename_i hbuilt
    subst hbuilt
    have hstatus := release_status { request := s.request } "job interrupted" removal
      s.toDeployment
    have hdone := release_stepDone { request := s.request } "job interrupted" removal
      s.toDeployment
    refine ⟨fun hc k => ?_, fun hc => ?_⟩
    · rw [hstatus] at hc
      exact (hdone k).2 (ht.booted (h.completed hc .powerOn)) (h.completed hc k)
    · rw [hstatus] at hc
      have hsame : ∀ k, (releaseUnattendedMedia { request := s.request } "job interrupted" removal
          s.toDeployment).1.job.stepStatus k = s.job.stepStatus k := by
        cases hsucceeds : removal.succeeds with
        | false => rw [releaseUnattendedMedia_of_fails hsucceeds]; simp
        | true =>
          simp only [resetsCancelled, hexec, hsucceeds, hc, beq_self_eq_true, Bool.and_self,
            Bool.true_and, Bool.and_eq_false_iff, Bool.not_eq_eq_eq_not, Bool.not_false] at hreset
          intro k
          rcases hreset with hnot | hbooted
          · rw [releaseUnattendedMedia_of_not_mayHold hnot]
          · rcases release_stepStatus { request := s.request } "job interrupted" removal
              s.toDeployment k with hk | ⟨-, hnot, -⟩
            · exact hk
            · rw [hbooted] at hnot
              cases hnot
      exact fun k => by rw [hsame]; exact h.cancelled hc k
  · exact h

end EndInv

theorem EndInv.step {s s' : RunState} {e : Event} (hi : RunInv s) (hs : EndInv s.job)
    (hc : keepsAgreement s e = true) (h : Transition s e s') : EndInv s'.job := by
  simp only [keepsAgreement, Bool.and_eq_true, Bool.not_eq_eq_eq_not, Bool.not_true] at hc
  obtain ⟨⟨howned, hfinalizes⟩, hreset⟩ := hc
  cases h with
  | claimed hexec hdue => exact .of_other (by simp) (by simp)
  | started hexec hstatus =>
    exact .of_other (by simp [startRun, hstatus]) (by simp [startRun, hstatus])
  | startFailed hexec hstatus =>
    exact .of_other (by simp [failBeforePipeline]) (by simp [failBeforePipeline])
  | notOwned haction hexec hstatus => exact hs
  | beatLoop hexec hstatus => exact .of_other (by simp [hstatus]) (by simp [hstatus])
  | beatStage hexec hstatus => exact .of_other (by simp [hstatus]) (by simp [hstatus])
  -- the loop has passed every stage, as the row is still running
  | finalized hexec =>
    have hrunning : s.job.status = .running := by
      simpa [finalizesOwned, hexec] using hfinalizes
    exact ⟨fun _ k => (hi.loop hexec).passed hrunning k (by simp),
      fun hc => by simp [finalizeSuccess] at hc⟩
  | skipped hexec hskip => exact hs
  | cancelledBetween hexec hrow hdone hcancel => exact .applyCancellation _ _ _ _
  | startedStage hexec hrow hdone hcancel =>
    have hrunning : s.job.status = .running := by
      simpa [startsOwned, hexec, hdone, hcancel] using howned
    exact .of_other (by simp [startStage_status, hrunning]) (by simp [startStage_status, hrunning])
  | returned hexec hrun hresult =>
    have hrunning := ((hi.stage hexec).assignments (HandlerRun.assignments ‹_›)).status
    exact .of_other (by simp [endStage, returnedWith, ranTo, finishStage_status, hrunning])
      (by simp [endStage, returnedWith, ranTo, finishStage_status, hrunning])
  | raised hexec hrun hresult => exact .handleFailure _ _ _ _ _ _ _
  | timedOut hexec hrun => exact .handleFailure _ _ _ _ _ _ _
  | cancelledWithin hexec hevent hrun => exact .applyCancellation _ _ _ _
  | crashed hexec hclaimed habort =>
    exact .of_other (by simp [failBeforePipeline]) (by simp [failBeforePipeline])
  | interrupted habort hstatus =>
    exact .of_other (by simp [InfraOps.interrupt]) (by simp [InfraOps.interrupt])
  | abandoned habort hstatus => rw [(aborted_spec habort).1]; exact hs
  | cleanedUp hexec => exact hs.cleanUp hi.table hexec hreset
  | landed hflight => exact hs
  | cancelled hjob => exact .cancelJob hjob
  | retried hjob =>
    have hqueued := (retryStages_status hjob).2
    exact .of_other (by simp [hqueued]) (by simp [hqueued])

section Runs

variable {s : RunState} (hs : jobRun.ReachableUnder (fun s e => keepsAgreement s e = true) s)
include hs

theorem runInv_of_keepsAgreement : RunInv s :=
  runInv (fun s e hc => by simp_all [keepsAgreement]) hs

theorem endInv : EndInv s.job := by
  refine hs.invariant (I := fun s => EndInv s.job) (fun s h0 => ?_) fun s e s' hr hi hc hstep =>
    hi.step (runInv_of_keepsAgreement hr) hc (transition_of_step hstep)
  exact .of_other (by simp [h0.status]) (by simp [h0.status])

theorem agree_of_keepsAgreement : StatusesAgree s.job := by
  have hrun := runInv_of_keepsAgreement hs
  have hend := endInv hs
  refine ⟨fun hc k st hst => ?_, hend.cancelled, hrun.quiet⟩
  have hdone := hend.completed hc k
  rw [ProvisioningJob.stepDone_eq, hst] at hdone
  exact hdone

/-- A stage started on a row that is not `RUNNING` is `RUNNING` in a job that is not. -/
theorem disagree_of_start {s' : RunState} {e : Event} (h : jobRun.step s e = some s')
    (howned : startsOwned s e = false) : ¬StatusesAgree s'.job := by
  have hrun := runInv_of_keepsAgreement hs
  unfold startsOwned at howned
  split at howned
  · rename_i k rest ctx removal hexec haction
    simp only [Bool.or_eq_false_iff, beq_eq_false_iff_ne, ne_eq] at howned
    obtain ⟨⟨hdone, hcancel⟩, hstatus⟩ := howned
    have hin := hrun.loop hexec
    intro hagree
    cases transition_of_step h with
    | finalized hexec' => rw [hexec] at hexec'; cases hexec'
    | skipped hexec' hskip =>
      rw [hexec] at hexec'
      cases hexec'
      rcases hskip with hnone | hdone'
      · have hrow := hin.rows k
        rw [← isSome_steps_iff, hnone] at hrow
        cases hrow
      · rw [hdone] at hdone'; cases hdone'
    | cancelledBetween hexec' hrow hdone' hcancel' => rw [hcancel] at hcancel'; cases hcancel'
    | @startedStage now removal k' rest' ctx' hexec' hrow hdone' hcancel' =>
      rw [hexec] at hexec'
      cases hexec'
      refine hagree.quiet (by simpa using hstatus) k ?_
      obtain ⟨st, hst⟩ := Option.isSome_iff_exists.mp (hin.rows k)
      rw [startStage_stepStatus, if_pos rfl, hst]
      rfl
    | notOwned hstart _ _ =>
      rcases hstart with h | ⟨error, h⟩ <;> rw [h] at haction <;> cases haction
    | _ => cases haction
  · cases howned

/-- A loop that ends on a row that is not `RUNNING` was cancelled in its last stage. -/
theorem disagree_of_finalize {s' : RunState} {e : Event} (h : jobRun.step s e = some s')
    (howned : finalizesOwned s e = false) : ¬StatusesAgree s'.job := by
  have hrun := runInv_of_keepsAgreement hs
  unfold finalizesOwned at howned
  split at howned
  · rename_i ctx removal hexec haction
    simp only [beq_eq_false_iff_ne, ne_eq] at howned
    have hin := hrun.loop hexec
    intro hagree
    cases transition_of_step h with
    | finalized hexec' =>
      -- the last stage was cancelled, and finalising does not look at it
      have hnot := (hin.halted howned).2 rfl .finalValidation
      obtain ⟨st, hst⟩ := Option.isSome_iff_exists.mp (hin.rows .finalValidation)
      have hdone : st.done = true := hagree.completed rfl .finalValidation st hst
      rw [ProvisioningJob.stepDone_eq, hst] at hnot
      simp [hdone] at hnot
    | skipped hexec' _ => rw [hexec] at hexec'; cases hexec'
    | cancelledBetween hexec' _ _ _ => rw [hexec] at hexec'; cases hexec'
    | startedStage hexec' _ _ _ => rw [hexec] at hexec'; cases hexec'
    | notOwned hstart _ _ =>
      rcases hstart with h | ⟨error, h⟩ <;> rw [h] at haction <;> cases haction
    | _ => cases haction
  · cases howned

/-- A clean-up that removes the media of a cancelled job leaves its preparation `PENDING`. -/
theorem disagree_of_reset {s' : RunState} {e : Event} (h : jobRun.step s e = some s')
    (hreset : resetsCancelled s e = true) : ¬StatusesAgree s'.job := by
  unfold resetsCancelled at hreset
  split at hreset
  · rename_i removal hexec haction
    simp only [Bool.and_eq_true, beq_iff_eq, Bool.not_eq_eq_eq_not, Bool.not_true] at hreset
    obtain ⟨⟨⟨hsucceeds, hstatus⟩, hmay⟩, hbooted⟩ := hreset
    intro hagree
    cases transition_of_step h with
    | @cleanedUp now contextBuilt removal' hexec' =>
      cases haction
      have hvm := vmRecorded_of_mayHold (fun s e hc => by simp_all [keepsAgreement]) hs hmay
      obtain ⟨vmId, hvm⟩ := hvm.requireVmId { request := s.request }
      have hjob : (releaseUnattendedMedia { request := s.request } "job interrupted" removal
          s.toDeployment).1.job = _ := releaseUnattendedMedia_of_succeeds hmay hsucceeds hvm
      have hprepared := (mediaInv hs).prepared hmay
      have hpending : (s.job.setStep .prepareUnattendedInstall
          (releasedStep (booted s.job) "job interrupted")).stepStatus .prepareUnattendedInstall =
          some .pending := by
        obtain ⟨step, hstep, hsucceeded⟩ := Option.map_eq_some_iff.mp hprepared
        simp [ProvisioningJob.stepStatus, hstep, releasedStep_status, hsucceeded, hbooted]
      refine (hagree.cancelled ?_ .prepareUnattendedInstall).1 ?_
      · show (releaseUnattendedMedia _ _ removal _).1.job.status = _
        rw [release_status]
        exact hstatus
      · show (releaseUnattendedMedia _ _ removal _).1.job.stepStatus _ = _
        rw [hjob]
        exact hpending
    | notOwned hstart _ _ =>
      rcases hstart with h | ⟨error, h⟩ <;> rw [h] at haction <;> cases haction
    | _ => cases haction
  · cases hreset

/-- **Job and step statuses agree** in every state of every run whose stages are started,
and whose job is finalised, while the row is `RUNNING`, and in which no clean-up resets a
cancelled job; the first step that is otherwise breaks the agreement. -/
theorem statuses_agree_iff : StatusesAgree s.job ∧ ∀ e s', jobRun.step s e = some s' →
    (StatusesAgree s'.job ↔ keepsAgreement s e = true) := by
  refine ⟨agree_of_keepsAgreement hs, fun e s' h => ⟨fun hagree => ?_, fun hc =>
    agree_of_keepsAgreement (.step hs hc h)⟩⟩
  simp only [keepsAgreement, Bool.and_eq_true, Bool.not_eq_eq_eq_not, Bool.not_true]
  refine ⟨⟨?_, ?_⟩, ?_⟩
  · rw [← Bool.not_eq_false]
    exact fun hnot => disagree_of_start hs h hnot hagree
  · rw [← Bool.not_eq_false]
    exact fun hnot => disagree_of_finalize hs h hnot hagree
  · rw [← Bool.not_eq_true]
    exact fun hreset => disagree_of_reset hs h hreset hagree

end Runs

/-- A user cancels while the last stage runs. -/
def cancelsFinalValidation : List Event :=
  runsStages 0 (orderedStages.take 25) ++
    [⟨0, .next .removes⟩, ⟨0, .cancel⟩, ⟨0, .heartbeat⟩,
      ⟨0, .stageCancelled (.other {}) {} .removes⟩]

/-- The pipeline applies the cancellation and then finalises the job: it is `COMPLETED`
with a `CANCELLED` step. -/
theorem cancelled_final_validation_completes : ∃ s, jobRun.Reachable s ∧
    s.job.status = .completed ∧ s.job.stepStatus .finalValidation = some .cancelled ∧
    ¬StatusesAgree s.job := by
  obtain ⟨s, hs, hp⟩ := Machine.exists_reachable_of_run (m := jobRun)
    (p := fun s => s.job.status == .completed &&
      s.job.stepStatus .finalValidation == some .cancelled)
    (RunState.submitted_spec "j1" { vmName := "web01" })
    (show ((jobRun.run _ (cancelsFinalValidation ++ [⟨0, .next .removes⟩])).any _) = true by
      decide +kernel)
  simp only [Bool.and_eq_true, beq_iff_eq] at hp
  obtain ⟨hstatus, hstep⟩ := hp
  exact ⟨s, hs, hstatus, hstep, fun h => by cases h.completed hstatus _ _ hstep⟩

/-- A job that is cancelled while its VM is created, and retried, run to its end. -/
theorem statuses_agree_iff_retried : ∃ s, jobRun.Reachable s ∧ s.job.status = .completed ∧
    StatusesAgree s.job := by
  obtain ⟨s, hs, hp⟩ := Machine.exists_reachableUnder_of_run (m := jobRun) (c := keepsAgreement)
    (p := fun s => s.job.status == .completed)
    (RunState.submitted_spec "j1" { vmName := "web01" })
    (show ((jobRun.runUnder _ _ (runsStages 0 (orderedStages.take 3) ++
      [⟨0, .next .removes⟩, ⟨0, .cancel⟩, ⟨0, .heartbeat⟩,
        ⟨0, .stageCancelled (.createVm (.createFails (.other ""))) {} .removes⟩,
        ⟨0, .next .removes⟩, retryAll] ++
      runsStages 3 (orderedStages.drop 3) ++ [⟨0, .next .removes⟩])).any _) = true by
      decide +kernel)
  rw [beq_iff_eq] at hp
  exact ⟨s, hs.reachable, hp, (statuses_agree_iff hs).1⟩

end InfraOps
