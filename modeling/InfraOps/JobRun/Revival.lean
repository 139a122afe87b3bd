import InfraOps.JobRun.Phases

/-!
# Retrying a stopped job

A retry queues a job only if it resets a step, so a job is revived exactly if the way it
stopped left one `FAILED` or `CANCELLED`. A stage failure and an applied cancellation do;
an interruption, a crash and a direct cancellation do only if some step was in a status
that they rewrite.
-/

namespace InfraOps

open JobRepository RunState

/-- The stored request parses, and no other job holds the name or the address, when the
name is checked and when the reset is committed: then a whole-job retry queues the job. -/
def Revives (job : ProvisioningJob) : Prop :=
  ∀ others othersAtCommit now, hasActiveJobForVm others job.vmName = false →
    violatedReservation othersAtCommit job.vmName job.reservedIpv4 = none →
    ∃ job' reset, retryStages job none true others othersAtCommit now = .ok (job', reset) ∧
      job'.status = .queued

/-- Some step row has a status with `p`. -/
def hasStep (job : ProvisioningJob) (p : StepStatus → Bool) : Bool :=
  orderedStages.any fun k => (job.stepStatus k).any p

/-- What an interruption leaves `FAILED` or `CANCELLED`. -/
def StepStatus.resumable : StepStatus → Bool
  | .running | .failed | .cancelled => true
  | _ => false

/-- What a cancellation of every live step leaves `FAILED` or `CANCELLED`. -/
def StepStatus.unfinished (st : StepStatus) : Bool := !st.done

/-- The step leaves something to reset in a job that it stops. -/
def leavesResumable (s : RunState) (e : Event) : Bool :=
  match e.action with
  | .interrupt _ _ => s.job.status != .running || hasStep s.job StepStatus.resumable
  | .crash _ => hasStep s.job StepStatus.unfinished
  | .cancel => s.job.status != .queued || hasStep s.job StepStatus.unfinished
  | _ => true

/-- The step keeps stopped jobs revivable. -/
def keepsRevivable (s : RunState) (e : Event) : Bool := startsOwned s e && leavesResumable s e

/-! ## When a retry resets something -/

/-- The statuses that a retry resets in a job without a `RUNNING` step. -/
def StepStatus.stopped : StepStatus → Bool
  | .failed | .cancelled => true
  | _ => false

theorem hasStep_iff {job : ProvisioningJob} {p : StepStatus → Bool} :
    hasStep job p = true ↔ ∃ k st, job.stepStatus k = some st ∧ p st = true := by
  simp [hasStep, Option.any_eq_true]

/-- A rewrite of every row. -/
theorem hasStep_map {job job' : ProvisioningJob} {g : StepStatus → StepStatus}
    (h : ∀ k, job'.stepStatus k = (job.stepStatus k).map g) (p : StepStatus → Bool) :
    hasStep job' p = hasStep job (fun st => p (g st)) := by
  simp only [hasStep, h, Option.any_map]

theorem resets_iff {job : ProvisioningJob} (hquiet : NoneRunning job) :
    (∃ k, resets job none k = true) ↔ hasStep job StepStatus.stopped = true := by
  rw [hasStep_iff]
  refine exists_congr fun k => ?_
  have hk := hquiet k
  simp only [resets, Option.all_none, Bool.and_true, ProvisioningJob.stepStatus,
    Option.any_eq_true, Option.map_eq_some_iff] at hk ⊢
  constructor
  · rintro ⟨step, hstep, hr⟩
    refine ⟨step.status, ⟨step, hstep, rfl⟩, ?_⟩
    cases hs : step.status <;> simp_all [resettable, StepStatus.stopped]
  · rintro ⟨_, ⟨step, hstep, rfl⟩, hr⟩
    refine ⟨step, hstep, ?_⟩
    cases hs : step.status <;> simp_all [resettable, StepStatus.stopped]

theorem revives_iff {job : ProvisioningJob} (hstatus : job.status.retriable = true)
    (hquiet : NoneRunning job) : Revives job ↔ hasStep job StepStatus.stopped = true := by
  rw [← resets_iff hquiet]
  constructor
  · intro h
    obtain ⟨job', reset, hretry, -⟩ := h [] [] 0 rfl (by simp [violatedReservation,
      hasActiveJobForVm, hasIpv4Reservation])
    rw [retryStages_all hstatus rfl (by simp [violatedReservation, hasActiveJobForVm,
      hasIpv4Reservation])] at hretry
    split at hretry
    · cases hretry
    · rename_i hne
      exact resetForRetry_ne_nil_iff.mp hne
  · intro hreset others othersAtCommit now hname hfree
    have hne : (resetForRetry job none now).2 ≠ [] := resetForRetry_ne_nil_iff.mpr hreset
    refine ⟨_, (resetForRetry job none now).2, ?_, (resetForRetry_of_ne hne).1⟩
    rw [retryStages_all hstatus hname hfree, if_neg hne]

/-! ## What a stopping path leaves -/

theorem hasStep_unfinished {job : ProvisioningJob} :
    hasStep job StepStatus.unfinished = true ↔
      ∃ k, (job.stepStatus k).isSome = true ∧ job.stepDone k = false := by
  rw [hasStep_iff]
  refine exists_congr fun k => ?_
  rw [ProvisioningJob.stepDone_eq]
  cases job.stepStatus k <;> simp [StepStatus.unfinished]

theorem hasStep_of_cancelled {job job' : ProvisioningJob}
    (h : ∀ k, job'.stepStatus k = (job.stepStatus k).map cancelStatus) :
    hasStep job' StepStatus.stopped = hasStep job StepStatus.unfinished := by
  rw [hasStep_map h]
  refine congrArg (hasStep job) (funext fun st => ?_)
  cases st <;> rfl

theorem hasStep_of_interrupted {job job' : ProvisioningJob}
    (h : ∀ k, job'.stepStatus k = (job.stepStatus k).map interruptStatus) :
    hasStep job' StepStatus.stopped = hasStep job StepStatus.resumable := by
  rw [hasStep_map h]
  refine congrArg (hasStep job) (funext fun st => ?_)
  cases st <;> rfl

theorem hasStep_release {d : Deployment} (h : hasStep d.job StepStatus.stopped = true)
    (ctx : JobRunContext) (reason : String) (a : RemovalAnswers) :
    hasStep (releaseUnattendedMedia ctx reason a d).1.job StepStatus.stopped = true := by
  rw [hasStep_iff] at h ⊢
  obtain ⟨k, st, hst, hstopped⟩ := h
  refine ⟨k, st, ?_, hstopped⟩
  rcases release_stepStatus ctx reason a d k with hk | ⟨-, -, hsucceeded, -⟩
  · exact hk.trans hst
  · rw [hst] at hsucceeded
    cases hsucceeded
    cases hstopped

theorem hasStep_applyCancellation {d : Deployment} {k : Stage}
    (hrow : (d.job.steps k).isSome = true) (hdone : d.job.stepDone k = false)
    (ctx : JobRunContext) (removal : RemovalAnswers) (now : Timestamp) :
    hasStep (applyCancellation ctx removal now d).job StepStatus.stopped = true := by
  rw [hasStep_of_cancelled (applyCancellation_stepStatus ctx removal now d), hasStep_unfinished]
  exact ⟨k, by rw [release_row, ← isSome_steps_iff]; exact hrow,
    (release_stepDone ctx "job cancelled" removal d k).1 hdone⟩

theorem afterStage_ne_claimed (k : Stage) (rest : List Stage) (ctx : JobRunContext)
    (d : Deployment) : afterStage k rest ctx d ≠ .claimed := by
  unfold afterStage
  split <;> simp

theorem handleFailure_notQueued (ctx : JobRunContext) (k : Stage) (f : InfraOperationError)
    (screenshot : Option String) (removal : RemovalAnswers) (now : Timestamp) (d : Deployment) :
    (handleFailure ctx k f screenshot removal now d).job.status ≠ .queued := by
  obtain ⟨records, hjob, -⟩ := handleFailure_eq ctx k f screenshot removal now d
  rw [hjob, release_status]
  rcases failJob_status k f screenshot now d.job with h | h <;> simp [h]

/-- Stopped jobs have something to reset, and waiting jobs have something to do. -/
structure ReviveInv (s : RunState) : Prop where
  stopped : s.job.status.retriable = true → hasStep s.job StepStatus.stopped = true
  waiting : s.job.status = .queued ∨ s.exec = .claimed → ∃ k, s.job.stepDone k = false

namespace ReviveInv

theorem of_active {s : RunState} (hstatus : s.job.status = .running ∨ s.job.status = .completed)
    (hexec : s.exec ≠ .claimed) : ReviveInv s := by
  refine ⟨fun h => ?_, fun h => ?_⟩
  · rcases hstatus with hs | hs <;> simp [hs, JobStatus.retriable] at h
  · rcases hstatus with hs | hs <;> simp [hs, hexec] at h

theorem of_stopped {s : RunState} (h : hasStep s.job StepStatus.stopped = true)
    (hqueued : s.job.status ≠ .queued) (hexec : s.exec ≠ .claimed) : ReviveInv s := by
  refine ⟨fun _ => h, fun h => ?_⟩
  simp [hqueued, hexec] at h

theorem of_waiting {s : RunState} (hstatus : s.job.status = .queued ∨ s.job.status = .running)
    (h : ∃ k, s.job.stepDone k = false) : ReviveInv s := by
  refine ⟨fun hr => ?_, fun _ => h⟩
  rcases hstatus with hs | hs <;> simp [hs, JobStatus.retriable] at hr

/-- A stopped job that waits again has something to do. -/
theorem notDone {s : RunState} (hs : ReviveInv s) (h : s.job.status.retriable = true) :
    ∃ k, s.job.stepDone k = false := by
  obtain ⟨k, st, hst, hstopped⟩ := hasStep_iff.mp (hs.stopped h)
  refine ⟨k, ?_⟩
  rw [ProvisioningJob.stepDone_eq, hst]
  cases st <;> simp_all [StepStatus.stopped, StepStatus.done]

theorem cancel {s : RunState} {job : ProvisioningJob} {now : Timestamp} (hs : ReviveInv s)
    (hc : leavesResumable s ⟨now, .cancel⟩ = true) (hjob : cancelJob s.job now = .ok job) :
    ReviveInv { s with job } := by
  have hdone := (KeepsDone.cancelJob hjob).done
  rcases cancelJob_cases hjob with ⟨hstatus, -, rfl⟩ | ⟨hstatus, hcancelled, hsteps⟩ |
    ⟨hrunning, rfl⟩
  · exact of_waiting (.inl rfl) (hs.notDone (by rw [hstatus]; rfl))
  · refine ⟨fun _ => ?_, fun h => ?_⟩
    · show hasStep job StepStatus.stopped = true
      rw [hasStep_of_cancelled hsteps]
      rcases hstatus with hqueued | ⟨hinterrupted, -⟩
      · simpa [leavesResumable, hqueued] using hc
      · obtain ⟨k, st, hst, hstopped⟩ := hasStep_iff.mp (hs.stopped (by rw [hinterrupted]; rfl))
        refine hasStep_iff.mpr ⟨k, st, hst, ?_⟩
        cases st <;> simp_all [StepStatus.stopped, StepStatus.unfinished, StepStatus.done]
    · have hwait : s.job.status = .queued ∨ s.exec = .claimed := by
        rcases h with h | h
        · have h : job.status = .queued := h
          rw [hcancelled] at h
          cases h
        · exact .inr h
      obtain ⟨k, hk⟩ := hs.waiting hwait
      exact ⟨k, (hdone k).trans hk⟩
  · exact ⟨fun h => by simp [hrunning, JobStatus.retriable] at h, fun h => hs.waiting h⟩

theorem retry {s : RunState} {job : ProvisioningJob} {stageKey : Option String} {parses : Bool}
    {others othersAtCommit : List OtherJob} {now : Timestamp} {reset : List Stage}
    (hjob : retryStages s.job stageKey parses others othersAtCommit now = .ok (job, reset)) :
    ReviveInv { s with job } := by
  have hdone := (KeepsDone.retryStages hjob).done
  obtain ⟨-, stageKeys, hrequeued⟩ := retryStages_requeued hjob
  obtain ⟨k, hk⟩ := hrequeued.reset
  refine of_waiting (.inl hrequeued.status) ⟨k, ?_⟩
  rw [hdone]
  exact not_done_of_resets hk

theorem cleanUp {s : RunState} (hs : ReviveInv s) (contextBuilt : Bool)
    (removal : RemovalAnswers) : ReviveInv { s with
      toDeployment := InfraOps.cleanUp s.request contextBuilt removal s.toDeployment
      exec := .idle
      cleanedUp := contextBuilt } := by
  have hsame : (InfraOps.cleanUp s.request contextBuilt removal s.toDeployment).job.status =
      s.job.status := by
    unfold InfraOps.cleanUp
    split <;> simp
  refine ⟨fun h => ?_, fun h => ?_⟩
  · have hstopped := hs.stopped (hsame ▸ h)
    show hasStep (InfraOps.cleanUp s.request contextBuilt removal s.toDeployment).job _ = true
    unfold InfraOps.cleanUp
    split
    · exact hasStep_release hstopped _ _ _
    · exact hstopped
  · rw [hsame] at h
    obtain ⟨k, hk⟩ := hs.waiting (.inl (by simpa using h))
    refine ⟨k, ?_⟩
    show (InfraOps.cleanUp s.request contextBuilt removal s.toDeployment).job.stepDone k = false
    unfold InfraOps.cleanUp
    split
    · exact (release_stepDone _ _ _ _ k).1 hk
    · exact hk

theorem step {s s' : RunState} {e : Event} (hi : RunInv s) (hs : ReviveInv s)
    (hc : keepsRevivable s e = true) (h : Transition s e s') : ReviveInv s' := by
  simp only [keepsRevivable, Bool.and_eq_true] at hc
  obtain ⟨howned, hleaves⟩ := hc
  cases h with
  | claimed hexec hdue =>
    have hqueued : s.job.status = .queued := by
      simp only [due, Bool.and_eq_true, beq_iff_eq] at hdue
      exact hdue.1
    exact of_waiting (.inr rfl) (hs.waiting (.inl hqueued))
  | started hexec hstatus => exact of_active (.inl hstatus) (by simp)
  -- the step that is not done is cancelled, and a retry resets it
  | @startFailed now error hexec hstatus =>
    obtain ⟨k, hk⟩ := hs.waiting (.inr hexec)
    refine of_stopped ?_ (by simp [failBeforePipeline]) (by simp)
    show hasStep (failBeforePipeline error now _).job _ = true
    rw [hasStep_of_cancelled (failBeforePipeline_stepStatus error now
      { s.toDeployment with job := ensureSteps s.job }), hasStep_unfinished]
    exact ⟨k, by rw [ensureSteps_stepStatus]; rfl, (ensureSteps_stepDone s.job k).trans hk⟩
  | notOwned haction hexec hstatus =>
    have hphase := hi.phase
    rw [hexec] at hphase
    exact absurd hphase.1 hstatus
  | beatLoop hexec hstatus => exact of_active (.inl hstatus) (by simp)
  | beatStage hexec hstatus => exact of_active (.inl hstatus) (by simp)
  | finalized hexec => exact of_active (.inr rfl) (by simp)
  | skipped hexec hskip => exact ⟨hs.stopped, fun h => hs.waiting (.inl (by simpa using h))⟩
  | cancelledBetween hexec hrow hdone hcancel =>
    exact of_stopped (hasStep_applyCancellation hrow hdone _ _ _) (by simp) (by simp)
  | startedStage hexec hrow hdone hcancel =>
    have hrunning : s.job.status = .running := by
      simpa [startsOwned, hexec, hdone, hcancel] using howned
    exact of_active (.inl hrunning) (by simp)
  | @returned now answers removal screenshot k rest ctx run outcome hexec hrun hresult =>
    have hin := (hi.stage hexec).assignments run.assignments
    refine of_active (.inl hin.status) ?_
    show afterStage k rest _ _ ≠ .claimed
    rw [returned_exec hin outcome now _ rfl]
    simp
  | @raised now answers removal screenshot k rest ctx run raised hexec hrun hresult =>
    have hfailed := InStage.handleFailure (d := s.ranTo run)
      ((hi.stage hexec).assignments run.assignments) (assignContext ctx run.assignments)
      (raised.failure k) screenshot removal now
    exact of_stopped (hasStep_iff.mpr ⟨k, _, hfailed.2, rfl⟩)
      (handleFailure_notQueued _ _ _ _ _ _ _) (afterStage_ne_claimed _ _ _ _)
  | @timedOut now answers cut seconds removal screenshot k rest ctx run hexec hrun =>
    have hfailed := InStage.handleFailure (d := s.cutAt run cut)
      ((hi.stage hexec).assignments (run.assignmentsBefore cut))
      (assignContext ctx (run.assignmentsBefore cut)) (timeoutFailure k seconds) screenshot
      removal now
    exact of_stopped (hasStep_iff.mpr ⟨k, _, hfailed.2, rfl⟩)
      (handleFailure_notQueued _ _ _ _ _ _ _) (afterStage_ne_claimed _ _ _ _)
  | @cancelledWithin now answers cut removal k rest ctx run hexec hevent hrun =>
    have hcancelled := InStage.cancelStage_stepStatus (d := s.cutAt run cut)
      ((hi.stage hexec).assignments (run.assignmentsBefore cut))
      (assignContext ctx (run.assignmentsBefore cut)) removal now
    refine of_stopped (hasStep_iff.mpr ⟨k, _, hcancelled, rfl⟩) (by simp [endStage, cancelStage]) ?_
    exact afterStage_ne_claimed _ _ _ _
  | @crashed now abort s₁ hexec hclaimed habort =>
    refine of_stopped ?_ (by simp [failBeforePipeline]) (by simp)
    show hasStep (failBeforePipeline pipelineCrashed now s₁.toDeployment).job _ = true
    rw [hasStep_of_cancelled (failBeforePipeline_stepStatus pipelineCrashed now s₁.toDeployment),
      (aborted_spec habort).1]
    exact hleaves
  -- an interruption rewrites running steps only: the condition provides one
  | @interrupted now reason abort s₁ habort hstatus =>
    refine of_stopped ?_ (by simp [InfraOps.interrupt]) (by simp)
    show hasStep (InfraOps.interrupt reason now s₁.toDeployment).job _ = true
    rw [hasStep_of_interrupted (interrupt_stepStatus reason now s₁.toDeployment),
      (aborted_spec habort).1]
    simpa [leavesResumable, hstatus] using hleaves
  | abandoned habort hstatus =>
    have hjob := (aborted_spec habort).1
    refine ⟨fun h => ?_, fun h => ?_⟩
    · rw [hjob] at h ⊢; exact hs.stopped h
    · rw [hjob] at h ⊢; exact hs.waiting (.inl (by simpa using h))
  | cleanedUp hexec => exact hs.cleanUp _ _
  | landed hflight => exact ⟨hs.stopped, hs.waiting⟩
  | cancelled hjob => exact hs.cancel hleaves hjob
  | retried hjob => exact .retry hjob

end ReviveInv

/-! ## Every run -/

section Runs

variable {s : RunState} (hs : jobRun.ReachableUnder (fun s e => keepsRevivable s e = true) s)
include hs

theorem runInv_of_keepsRevivable : RunInv s :=
  runInv (fun s e hc => by simp_all [keepsRevivable]) hs

theorem reviveInv : ReviveInv s := by
  refine hs.invariant (fun s h0 => ?_) fun s e s' hr hi hc hstep =>
    hi.step (runInv_of_keepsRevivable hr) hc (transition_of_step hstep)
  exact .of_waiting (.inl h0.status)
    ⟨.validateRequest, by simp [ProvisioningJob.stepDone, h0.steps]⟩

theorem revives_of_keepsRevivable (hstatus : s.job.status.retriable = true) : Revives s.job := by
  have hi := runInv_of_keepsRevivable hs
  have hquiet := hi.quiet (fun hrunning => by rw [hrunning] at hstatus; cases hstatus)
  exact (revives_iff hstatus hquiet).mpr ((reviveInv hs).stopped hstatus)

end Runs

theorem not_revives {job : ProvisioningJob} (hstatus : job.status.retriable = true)
    (hquiet : NoneRunning job) (h : hasStep job StepStatus.stopped = false) : ¬Revives job := by
  rw [revives_iff hstatus hquiet, h]
  simp

/-- An interruption, a crash or a cancellation that leaves nothing to reset ends in a job
that no retry revives. -/
theorem not_revives_of_leaves {s s' : RunState} {e : Event} (h : jobRun.step s e = some s')
    (hleaves : leavesResumable s e = false) :
    s'.job.status.retriable = true ∧ ¬Revives s'.job := by
  have htrans := transition_of_step h
  unfold leavesResumable at hleaves
  split at hleaves
  · rename_i reason abort haction
    simp only [Bool.or_eq_false_iff, bne_eq_false_iff_eq] at hleaves
    cases htrans with
    | @interrupted now reason abort s₁ habort hstatus =>
      refine ⟨rfl, not_revives rfl (.interrupt reason now s₁.toDeployment) ?_⟩
      show hasStep (InfraOps.interrupt reason now s₁.toDeployment).job _ = false
      rw [hasStep_of_interrupted (interrupt_stepStatus reason now s₁.toDeployment),
        (aborted_spec habort).1]
      exact hleaves.2
    | abandoned habort hstatus => exact absurd hleaves.1 hstatus
    | notOwned hstart _ _ =>
      rcases hstart with h | ⟨error, h⟩ <;> rw [h] at haction <;> cases haction
    | _ => cases haction
  · rename_i abort haction
    cases htrans with
    | @crashed now abort s₁ hexec hclaimed habort =>
      refine ⟨rfl, not_revives rfl (.failBeforePipeline pipelineCrashed now s₁.toDeployment) ?_⟩
      show hasStep (failBeforePipeline pipelineCrashed now s₁.toDeployment).job _ = false
      rw [hasStep_of_cancelled (failBeforePipeline_stepStatus pipelineCrashed now
        s₁.toDeployment), (aborted_spec habort).1]
      exact hleaves
    | notOwned hstart _ _ =>
      rcases hstart with h | ⟨error, h⟩ <;> rw [h] at haction <;> cases haction
    | _ => cases haction
  · rename_i haction
    simp only [Bool.or_eq_false_iff, bne_eq_false_iff_eq] at hleaves
    cases htrans with
    | @cancelled now job hjob =>
      rcases cancelJob_cases hjob with ⟨hi, -, -⟩ | ⟨-, hcancelled, hsteps⟩ | ⟨hr, -⟩
      · rw [hleaves.1] at hi; cases hi
      · have hstatus : job.status.retriable = true := by rw [hcancelled]; rfl
        refine ⟨hstatus, not_revives hstatus
          (.of_map hsteps fun st => (cancelStatus_settled st).2) ?_⟩
        rw [hasStep_of_cancelled hsteps]
        exact hleaves.2
      · rw [hleaves.1] at hr; cases hr
    | notOwned hstart _ _ =>
      rcases hstart with h | ⟨error, h⟩ <;> rw [h] at haction <;> cases haction
    | _ => cases haction
  · cases hleaves

/-- **Every stopped job can be retried** in every run whose stages are started on a
`RUNNING` row, whose interruptions find a step `RUNNING`, `FAILED` or `CANCELLED`, and whose
crashes and cancellations of queued jobs find a step that is not done. An interruption,
crash or cancellation that finds none leaves a job that no retry revives. -/
theorem stopped_job_revives {s : RunState}
    (hs : jobRun.ReachableUnder (fun s e => keepsRevivable s e = true) s) :
    (s.job.status.retriable = true → Revives s.job) ∧
      ∀ e s', jobRun.step s e = some s' → leavesResumable s e = false →
        s'.job.status.retriable = true ∧ ¬Revives s'.job :=
  ⟨revives_of_keepsRevivable hs, fun _ _ h hleaves => not_revives_of_leaves h hleaves⟩

/-- A worker stops between two stages of a first run: nothing has failed, so nothing is
reset, and the job stays `INTERRUPTED`. -/
theorem interrupted_between_stages_is_stuck : ∃ s, jobRun.Reachable s ∧
    s.job.status = .interrupted ∧ ¬Revives s.job := by
  obtain ⟨s, hs, hp⟩ := Machine.exists_reachable_of_run (m := jobRun)
    (p := fun s => s.job.status == .interrupted &&
      (s.retry none true [] [] 0).isNone)
    (RunState.submitted_spec "j1" { vmName := "web01" })
    (show ((jobRun.run _ (runsStages 0 (orderedStages.take 2) ++
      [⟨0, .interrupt workerStopped {}⟩])).any _) = true by decide +kernel)
  simp only [Bool.and_eq_true, beq_iff_eq, Option.isNone_iff_eq_none] at hp
  refine ⟨s, hs, hp.1, fun h => ?_⟩
  obtain ⟨job', reset, hretry, -⟩ := h [] [] 0 rfl (by simp [violatedReservation,
    hasActiveJobForVm, hasIpv4Reservation])
  have hnone := hp.2
  rw [RunState.retry, hretry] at hnone
  cases hnone

/-- A failed run, retried and then interrupted inside a stage. -/
theorem stopped_job_revives_interrupted : ∃ s, jobRun.Reachable s ∧
    s.job.status = .interrupted ∧ Revives s.job := by
  obtain ⟨s, hs, hp⟩ := Machine.exists_reachableUnder_of_run (m := jobRun) (c := keepsRevivable)
    (p := fun s => s.job.status == .interrupted)
    (RunState.submitted_spec "j1" { vmName := "web01" })
    (show ((jobRun.runUnder _ _ (runsStages 0 (orderedStages.take 2) ++ failsNext ++ [retryAll] ++
      runsStages 2 ((orderedStages.drop 2).take 3) ++
      [⟨0, .next .removes⟩, ⟨0, .interrupt workerStopped {}⟩])).any _) = true by decide +kernel)
  rw [beq_iff_eq] at hp
  exact ⟨s, hs.reachable, hp, (stopped_job_revives hs).1 (by rw [hp]; rfl)⟩

end InfraOps
