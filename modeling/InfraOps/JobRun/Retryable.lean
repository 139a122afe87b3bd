import InfraOps.JobRun.OneEnd

/-!
# Steps marked not retryable

`_handle_failure` marks a step whose failure is not retryable, and the retry of one stage
refuses a marked step. The reset behind a retry looks at the statuses only, and the loop of
`execute` runs whatever is not done: a retry of the whole job, or of another stage, starts
the marked stage again.
-/

namespace InfraOps

open JobRepository RunState

/-- No step is marked not retryable. -/
def AllRetryable (job : ProvisioningJob) : Prop :=
  ∀ k step, job.steps k = some step → step.retryable = true

/-- The step of `k` is marked not retryable. -/
def notRetryable (job : ProvisioningJob) (k : Stage) : Bool :=
  (job.steps k).any fun step => !step.retryable

/-- A retry is accepted only while no step is marked not retryable. -/
def retriesRetryable (s : RunState) (e : Event) : Bool :=
  match e.action with
  | .retry _ _ _ _ => orderedStages.all fun k => !notRetryable s.job k
  | _ => true

theorem allRetryable_iff {job : ProvisioningJob} :
    AllRetryable job ↔ ∀ k, notRetryable job k = false := by
  refine forall_congr' fun k => ?_
  cases hstep : job.steps k <;> simp [notRetryable, hstep]

namespace AllRetryable

variable {job job' : ProvisioningJob}

theorem of_steps (h : AllRetryable job) (hsteps : job'.steps = job.steps) : AllRetryable job' := by
  intro k step hstep
  rw [hsteps] at hstep
  exact h k step hstep

theorem of_map (h : AllRetryable job) {f : Stage → Step → Step}
    (hsteps : ∀ k, job'.steps k = (job.steps k).map (f k))
    (hf : ∀ k step, step.retryable = true → (f k step).retryable = true) : AllRetryable job' := by
  intro k step hstep
  rw [hsteps] at hstep
  obtain ⟨old, hold, rfl⟩ := Option.map_eq_some_iff.mp hstep
  exact hf k old (h k old hold)

theorem setStep (h : AllRetryable job) (k : Stage) {f : Step → Step}
    (hf : ∀ step, step.retryable = true → (f step).retryable = true) :
    AllRetryable (job.setStep k f) := by
  intro k' step hstep
  by_cases hk : k' = k
  · subst hk
    rw [ProvisioningJob.setStep_steps_self] at hstep
    obtain ⟨old, hold, rfl⟩ := Option.map_eq_some_iff.mp hstep
    exact hf old (h k' old hold)
  · rw [ProvisioningJob.setStep_steps_ne _ _ hk] at hstep
    exact h k' step hstep

theorem mapSteps (h : AllRetryable job) {f : Step → Step}
    (hf : ∀ step, step.retryable = true → (f step).retryable = true) :
    AllRetryable (job.mapSteps f) :=
  h.of_map (f := fun _ => f) (fun _ => rfl) fun _ => hf

theorem ensureSteps (h : AllRetryable job) : AllRetryable (ensureSteps job) := by
  intro k step hstep
  rw [ensureSteps_steps] at hstep
  cases hold : job.steps k with
  | none =>
    -- no entry of the registry is registered as not retryable
    rw [hold] at hstep
    cases hstep
    rfl
  | some old =>
    rw [hold] at hstep
    cases hstep
    exact h k step hold

theorem assignments (h : AllRetryable job) (as : List Assignment) :
    AllRetryable (applyAssignments job as) := by
  refine applyAssignments_induction (P := AllRetryable) (fun job a _ hj => ?_) h
  cases a with
  | mediaRemoved => exact hj.setStep _ fun _ => id
  | _ => exact hj.of_steps rfl

theorem release {d : Deployment} (h : AllRetryable d.job) (ctx : JobRunContext)
    (reason : String) (a : RemovalAnswers) :
    AllRetryable (releaseUnattendedMedia ctx reason a d).1.job := by
  rcases releaseUnattendedMedia_cases ctx reason a d with ⟨hjob, -⟩ | ⟨-, hjob, -⟩
  · rw [hjob]; exact h
  · rw [hjob]
    refine h.setStep _ fun step hstep => ?_
    unfold releasedStep
    dsimp only
    split <;> exact hstep

theorem cancelStep (step : Step) (h : step.retryable = true) :
    (cancelStep step).retryable = true := by
  unfold JobRepository.cancelStep
  split <;> exact h

theorem applyCancellation {d : Deployment} (h : AllRetryable d.job) (ctx : JobRunContext)
    (removal : RemovalAnswers) (now : Timestamp) :
    AllRetryable (applyCancellation ctx removal now d).job := by
  refine (h.release ctx "job cancelled" removal).mapSteps (f := cancelRunStep now) ?_
  intro step hstep
  unfold cancelRunStep
  split <;> exact hstep

theorem interrupt {d : Deployment} (h : AllRetryable d.job) (reason : String)
    (now : Timestamp) : AllRetryable (interrupt reason now d).job := by
  refine h.mapSteps (f := interruptStep reason now) fun step hstep => ?_
  unfold interruptStep
  split
  · rfl
  · exact hstep

theorem cancelJob (h : AllRetryable job) {now : Timestamp}
    (hjob : cancelJob job now = .ok job') : AllRetryable job' := by
  rcases cancelJob_ok hjob with ⟨-, -, rfl⟩ | ⟨-, -, rfl⟩
  · exact h.of_steps rfl
  · unfold requestCancel
    dsimp only
    split
    · exact h.mapSteps cancelStep
    · exact h.mapSteps cancelStep
    · exact h.of_steps rfl

theorem retryStages (h : AllRetryable job) {stageKey : Option String} {parses : Bool}
    {others othersAtCommit : List OtherJob} {now : Timestamp} {reset : List Stage}
    (hjob : retryStages job stageKey parses others othersAtCommit now = .ok (job', reset)) :
    AllRetryable job' := by
  obtain ⟨-, stageKeys, hrequeued⟩ := retryStages_requeued hjob
  refine h.of_map hrequeued.steps fun k step hstep => ?_
  split <;> exact hstep

end AllRetryable

/-! ## Every run -/

/-- The job is over with a failure. -/
def FailedIdle (s : RunState) : Prop :=
  s.exec = .idle ∧ (s.job.status = .failed ∨ s.job.status = .partiallyCompleted)

theorem failedIdle_of_failure {s : RunState} {k : Stage} {rest : List Stage}
    {ctx : JobRunContext} {d : Deployment} {f : InfraOperationError}
    {screenshot : Option String} {removal : RemovalAnswers} {now : Timestamp}
    (hrow : (d.job.steps k).isSome = true) :
    FailedIdle (s.endStage k rest ctx (handleFailure ctx k f screenshot removal now d)) := by
  refine ⟨afterStage_of_failed (handleFailure_stepStatus_self hrow _ _ _ _ _), ?_⟩
  obtain ⟨records, hjob, -⟩ := handleFailure_eq ctx k f screenshot removal now d
  show (handleFailure ctx k f screenshot removal now d).job.status = .failed ∨
    (handleFailure ctx k f screenshot removal now d).job.status = .partiallyCompleted
  rw [hjob, release_status]
  exact failJob_status k f screenshot now d.job

/-- Only the end of a run by a failure leaves a marked step behind. -/
def RetryableInv (s : RunState) : Prop := AllRetryable s.job ∨ FailedIdle s

theorem AllRetryable.step {s s' : RunState} {e : Event} (hrow : StageRow s)
    (hs : AllRetryable s.job) (h : Transition s e s') : RetryableInv s' := by
  cases h with
  | claimed hexec hdue => exact .inl (hs.of_steps rfl)
  | started hexec hstatus => exact .inl hs.ensureSteps
  | startFailed hexec hstatus => exact .inl (hs.ensureSteps.mapSteps cancelStep)
  | beatLoop hexec hstatus => exact .inl (hs.of_steps rfl)
  | beatStage hexec hstatus => exact .inl (hs.of_steps rfl)
  | finalized hexec => exact .inl (hs.of_steps rfl)
  | cancelledBetween hexec hrow' hdone hcancel =>
    exact .inl (hs.applyCancellation (d := s.toDeployment) _ _ _)
  | startedStage hexec hrow' hdone hcancel => exact .inl (hs.setStep _ fun _ => id)
  | returned hexec hrun hresult => exact .inl ((hs.assignments _).setStep _ fun _ => id)
  -- the only steps that mark a row also end the run
  | raised hexec hrun hresult =>
    exact .inr (failedIdle_of_failure (row_applyAssignments (hrow _ _ _ hexec).1 _))
  | timedOut hexec hrun =>
    exact .inr (failedIdle_of_failure (s := s) (row_applyAssignments (hrow _ _ _ hexec).1 _))
  | @cancelledWithin now answers cut removal k rest ctx run hexec hevent hrun =>
    exact .inl (AllRetryable.applyCancellation (d := { s.cutAt run cut with
      job := (s.cutAt run cut).job.setStep k (cancelledStep now) })
      ((hs.assignments _).setStep _ fun _ => id) _ _ _)
  | crashed hexec hclaimed habort =>
    rw [← (aborted_spec habort).1] at hs
    exact .inl (hs.mapSteps cancelStep)
  | interrupted habort hstatus =>
    rw [← (aborted_spec habort).1] at hs
    exact .inl (hs.interrupt (d := _) _ _)
  | abandoned habort hstatus =>
    rw [← (aborted_spec habort).1] at hs
    exact .inl hs
  | @cleanedUp now contextBuilt removal hexec =>
    cases contextBuilt with
    | true => exact .inl (hs.release (d := s.toDeployment) _ _ _)
    | false => exact .inl hs
  | cancelled hjob => exact .inl (hs.cancelJob hjob)
  | retried hjob => exact .inl (hs.retryStages hjob)
  | _ => exact .inl hs

/-- A failed job is left only by a retry. -/
theorem FailedIdle.step {s s' : RunState} {e : Event} (hs : FailedIdle s)
    (hc : retriesRetryable s e = true) (h : Transition s e s') : RetryableInv s' := by
  obtain ⟨hidle, hfailed⟩ := hs
  cases h with
  -- a failed job is neither queued nor cancellable
  | claimed hexec hdue =>
    simp only [due, Bool.and_eq_true, beq_iff_eq] at hdue
    rcases hfailed with hf | hf <;> rw [hf] at hdue <;> cases hdue.1
  | cancelled hjob =>
    rcases cancelJob_ok hjob with ⟨hi, -⟩ | ⟨hterminal, -⟩
    · rcases hfailed with hf | hf <;> rw [hf] at hi <;> cases hi
    · rcases hfailed with hf | hf <;> rw [hf] at hterminal <;> cases hterminal
  | retried hjob =>
    have hall : AllRetryable s.job := by
      rw [allRetryable_iff]
      intro k
      have hk := List.all_eq_true.mp hc k (mem_orderedStages k)
      simpa using hk
    exact .inl (hall.retryStages hjob)
  | landed hflight => exact .inr ⟨hidle, hfailed⟩
  | started hexec | startFailed hexec | notOwned _ hexec | beatLoop hexec | beatStage hexec
  | finalized hexec | skipped hexec | cancelledBetween hexec | startedStage hexec
  | returned hexec | raised hexec | timedOut hexec | cancelledWithin hexec | cleanedUp hexec =>
    rw [hidle] at hexec
    cases hexec
  | crashed hexec => rw [hidle] at hexec; cases hexec
  | interrupted habort | abandoned habort =>
    have hlive := (aborted_spec habort).2.2.2.2.2
    rw [hidle] at hlive
    cases hlive

end InfraOps
