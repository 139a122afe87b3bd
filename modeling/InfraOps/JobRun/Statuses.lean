import InfraOps.JobRun.Media

/-!
# Job status, step statuses and execution

How the status columns agree with what executes the job. The stages that are done form a
prefix of the registry (`StepTableInv`), and each phase of the execution fixes the job
status and which step may be `RUNNING` (`ExecInv`).

A pipeline that was cancelled inside a stage stays in its loop; it ends when it next looks
at the row. A retry accepted before that hands the row to the queue while the pipeline goes
on (`startsOwned` excludes the stage it would then start).
-/

namespace InfraOps

open JobRepository RunState

/-- The next iteration of a loop starts a stage only while the row is `RUNNING`. -/
def startsOwned (s : RunState) (e : Event) : Bool :=
  match s.exec, e.action with
  | .loop (k :: _) _, .next _ =>
    s.job.stepDone k || s.job.cancelRequested || s.job.status == .running
  | _, _ => true

/-- No step is `RUNNING`. -/
def NoneRunning (job : ProvisioningJob) : Prop := ∀ k, job.stepStatus k ≠ some .running

/-- No step is `PENDING` or `RUNNING`. -/
def NoneLive (job : ProvisioningJob) : Prop :=
  ∀ k, job.stepStatus k ≠ some .pending ∧ job.stepStatus k ≠ some .running

/-! ## Writes that keep what is done -/

structure KeepsDone (job job' : ProvisioningJob) : Prop where
  row : ∀ k, (job'.stepStatus k).isSome = (job.stepStatus k).isSome
  done : ∀ k, job'.stepDone k = job.stepDone k
  kept : ∀ k, job.stepDone k = true → job'.stepStatus k = job.stepStatus k

namespace KeepsDone

theorem refl (job : ProvisioningJob) : KeepsDone job job :=
  ⟨fun _ => rfl, fun _ => rfl, fun _ _ => rfl⟩

theorem trans {a b c : ProvisioningJob} (h₁ : KeepsDone a b) (h₂ : KeepsDone b c) :
    KeepsDone a c where
  row k := (h₂.row k).trans (h₁.row k)
  done k := (h₂.done k).trans (h₁.done k)
  kept k hk := (h₂.kept k ((h₁.done k).trans hk)).trans (h₁.kept k hk)

theorem of_statuses {job job' : ProvisioningJob} (h : ∀ k, job'.stepStatus k = job.stepStatus k) :
    KeepsDone job job' :=
  ⟨fun k => by rw [h], fun k => stepDone_setStatus (h k), fun k _ => h k⟩

theorem of_map {job job' : ProvisioningJob} {g : StepStatus → StepStatus}
    (h : ∀ k, job'.stepStatus k = (job.stepStatus k).map g)
    (hg : ∀ st, (st.done = true → g st = st) ∧ (g st).done = st.done) : KeepsDone job job' where
  row k := by rw [h, Option.isSome_map]
  done k := stepDone_map (fun st => (hg st).2) (h k)
  kept k hk := by
    rw [h]
    rw [ProvisioningJob.stepDone_eq] at hk
    cases hs : job.stepStatus k with
    | none => rfl
    | some st =>
      rw [hs] at hk
      rw [Option.map_some, (hg st).1 hk]

theorem of_set {job job' : ProvisioningJob} {k : Stage} {st : StepStatus}
    (h : ∀ k', job'.stepStatus k' =
      if k' = k then (job.stepStatus k).map fun _ => st else job.stepStatus k')
    (hk : job.stepDone k = false) (hst : st.done = false) : KeepsDone job job' := by
  have hself : ∀ k', (job'.stepStatus k').isSome = (job.stepStatus k').isSome := by
    intro k'
    rw [h]
    split
    · rename_i heq
      rw [heq, Option.isSome_map]
    · rfl
  refine ⟨hself, fun k' => ?_, fun k' hk' => ?_⟩
  · by_cases heq : k' = k
    · subst heq
      rw [hk, ProvisioningJob.stepDone_eq, h, if_pos rfl]
      cases job.stepStatus k' <;> simp [hst]
    · exact stepDone_setStatus (by rw [h, if_neg heq])
  · rw [h, if_neg]
    intro heq
    rw [heq, hk] at hk'
    cases hk'

end KeepsDone

theorem cancelStatus_kept (st : StepStatus) :
    (st.done = true → cancelStatus st = st) ∧ (cancelStatus st).done = st.done := by
  cases st <;> simp [cancelStatus, StepStatus.done]

theorem interruptStatus_kept (st : StepStatus) :
    (st.done = true → interruptStatus st = st) ∧ (interruptStatus st).done = st.done := by
  cases st <;> simp [interruptStatus, StepStatus.done]

namespace KeepsDone

theorem of_steps {job job' : ProvisioningJob} (h : job'.steps = job.steps) : KeepsDone job job' :=
  of_statuses fun k => by simp only [ProvisioningJob.stepStatus, h]

theorem assignments (job : ProvisioningJob) (as : List Assignment) :
    KeepsDone job (applyAssignments job as) :=
  of_statuses (applyAssignments_stepStatus job as)

theorem startStage {k : Stage} {job : ProvisioningJob} (hk : job.stepDone k = false)
    (now : Timestamp) : KeepsDone job (startStage k now job) :=
  of_set (startStage_stepStatus k now job) hk rfl

theorem failJob {k : Stage} {job : ProvisioningJob} (hk : job.stepDone k = false)
    (f : InfraOperationError) (screenshot : Option String) (now : Timestamp) :
    KeepsDone job (failJob k f screenshot now job) :=
  of_set (failJob_stepStatus k f screenshot now job) hk rfl

theorem cancelledStep {k : Stage} {job : ProvisioningJob} (hk : job.stepDone k = false)
    (now : Timestamp) : KeepsDone job (job.setStep k (cancelledStep now)) :=
  of_set (cancelledStep_stepStatus k now job) hk rfl

theorem failBeforePipeline (e : StartError) (now : Timestamp) (d : Deployment) :
    KeepsDone d.job (failBeforePipeline e now d).job :=
  of_map (failBeforePipeline_stepStatus e now d) cancelStatus_kept

theorem interrupt (reason : String) (now : Timestamp) (d : Deployment) :
    KeepsDone d.job (interrupt reason now d).job :=
  of_map (interrupt_stepStatus reason now d) interruptStatus_kept

theorem cancelJob {job job' : ProvisioningJob} {now : Timestamp}
    (h : cancelJob job now = .ok job') : KeepsDone job job' := by
  rcases cancelJob_ok h with ⟨-, -, rfl⟩ | ⟨-, -, rfl⟩
  · exact of_steps rfl
  · rcases requestCancel_cases job now with ⟨-, -, hstatus⟩ | ⟨-, -, h⟩
    · exact of_map hstatus cancelStatus_kept
    · rw [h]
      exact of_steps rfl

theorem retryStages {job job' : ProvisioningJob} {stageKey : Option String} {parses : Bool}
    {others othersAtCommit : List OtherJob} {now : Timestamp} {reset : List Stage}
    (h : retryStages job stageKey parses others othersAtCommit now = .ok (job', reset)) :
    KeepsDone job job' := by
  have hsteps := retryStages_steps h
  obtain ⟨-, stageKeys, hrequeued⟩ := retryStages_requeued h
  refine ⟨fun k => ?_, fun k => (hsteps k).2, fun k hk => ?_⟩
  · rw [← isSome_steps_iff, ← isSome_steps_iff, (hsteps k).1]
  · rw [hrequeued.stepStatus, if_neg]
    intro hr
    rw [not_done_of_resets hr] at hk
    cases hk

end KeepsDone

/-! ## The step table -/

structure StepTableInv (job : ProvisioningJob) : Prop where
  rows : (∀ k, job.stepStatus k = none) ∨ ∀ k, (job.stepStatus k).isSome = true
  ordered : ∀ k k', stageIndex k < stageIndex k' → job.stepDone k' = true → job.stepDone k = true
  booted : job.stepDone .powerOn = true → booted job = true

theorem StepTableInv.of_keepsDone {job job' : ProvisioningJob} (h : StepTableInv job)
    (hk : KeepsDone job job') : StepTableInv job' where
  rows := by
    rcases h.rows with hrows | hrows
    · refine .inl fun k => ?_
      have hrow := hk.row k
      rw [hrows k] at hrow
      simpa using hrow
    · exact .inr fun k => by rw [hk.row, hrows k]
  ordered k k' hlt hdone := by
    rw [hk.done] at hdone ⊢
    exact h.ordered k k' hlt hdone
  booted hdone := by
    rw [hk.done] at hdone
    have hb := h.booted hdone
    unfold InfraOps.booted at hb ⊢
    rw [hk.kept _ hdone]
    exact hb

theorem ensureSteps_stepDone (job : ProvisioningJob) (k : Stage) :
    (ensureSteps job).stepDone k = job.stepDone k := by
  rw [ProvisioningJob.stepDone_eq, ProvisioningJob.stepDone_eq, ensureSteps_stepStatus]
  cases job.stepStatus k <;> rfl

theorem StepTableInv.ensureSteps {job : ProvisioningJob} (h : StepTableInv job) :
    StepTableInv (ensureSteps job) := by
  have hdone := ensureSteps_stepDone job
  refine ⟨.inr fun k => by rw [ensureSteps_stepStatus]; rfl, fun k k' hlt hd => ?_, fun hd => ?_⟩
  · rw [hdone] at hd ⊢
    exact h.ordered k k' hlt hd
  · rw [hdone] at hd
    have hb := h.booted hd
    have hrow : job.stepStatus .powerOn = some ((job.stepStatus .powerOn).getD .pending) := by
      rw [ProvisioningJob.stepDone_eq] at hd
      cases hs : job.stepStatus .powerOn with
      | none => rw [hs] at hd; cases hd
      | some st => rfl
    unfold InfraOps.booted at hb ⊢
    rw [ensureSteps_stepStatus, ← hrow]
    exact hb

/-- **A release keeps the table in order**: it resets the preparation only while Windows has
not booted, and then nothing after it is done. -/
theorem StepTableInv.release {d : Deployment} (h : StepTableInv d.job) (ctx : JobRunContext)
    (reason : String) (a : RemovalAnswers) :
    StepTableInv (releaseUnattendedMedia ctx reason a d).1.job := by
  rcases release_stepStatus ctx reason a d .prepareUnattendedInstall with hsame |
    ⟨-, hnot, hsucceeded, hpending⟩
  · refine h.of_keepsDone (.of_statuses fun k => ?_)
    by_cases hk : k = .prepareUnattendedInstall
    · rw [hk, hsame]
    · exact release_stepStatus_ne ctx reason a d hk
  · have hother : ∀ k, k ≠ .prepareUnattendedInstall →
        (releaseUnattendedMedia ctx reason a d).1.job.stepStatus k = d.job.stepStatus k :=
      fun k hk => release_stepStatus_ne ctx reason a d hk
    -- a reset happens before the boot only, so nothing behind the boot is done
    have hpower : d.job.stepDone .powerOn = false := by
      rw [← Bool.not_eq_true]
      intro hd
      rw [h.booted hd] at hnot
      cases hnot
    refine ⟨?_, fun k k' hlt hd => ?_, fun hd => ?_⟩
    · rcases h.rows with hrows | hrows
      · rw [hrows] at hsucceeded
        cases hsucceeded
      · refine .inr fun k => ?_
        by_cases hk : k = .prepareUnattendedInstall
        · rw [hk, hpending]; rfl
        · rw [hother k hk]; exact hrows k
    · have hk' : k' ≠ .prepareUnattendedInstall := by
        rintro rfl
        rw [ProvisioningJob.stepDone_eq, hpending] at hd
        cases hd
      rw [stepDone_setStatus (hother k' hk')] at hd
      by_cases hk : k = .prepareUnattendedInstall
      · -- a later stage that is done would have `power_on` done before it
        subst hk
        have hle : k' = .powerOn ∨ stageIndex .powerOn < stageIndex k' := by
          have hidx : stageIndex .prepareUnattendedInstall + 1 = stageIndex .powerOn := by decide
          by_cases heq : stageIndex k' = stageIndex .powerOn
          · exact .inl (stageIndex_inj heq)
          · exact .inr (by omega)
        rcases hle with rfl | hlt'
        · rw [hpower] at hd; cases hd
        · rw [h.ordered _ _ hlt' hd] at hpower; cases hpower
      · rw [stepDone_setStatus (hother k hk)]
        exact h.ordered k k' hlt hd
    · rw [stepDone_setStatus (hother _ (by decide)), hpower] at hd
      cases hd

theorem StepTableInv.handleFailure {k : Stage} {d : Deployment} (h : StepTableInv d.job)
    (hk : d.job.stepDone k = false) (ctx : JobRunContext) (f : InfraOperationError)
    (screenshot : Option String) (removal : RemovalAnswers) (now : Timestamp) :
    StepTableInv (handleFailure ctx k f screenshot removal now d).job := by
  obtain ⟨records, hjob, -⟩ := handleFailure_eq ctx k f screenshot removal now d
  rw [hjob]
  exact StepTableInv.release (d := { d with job := failJob k f screenshot now d.job, records })
    (h.of_keepsDone (.failJob hk f screenshot now)) ctx _ removal

theorem StepTableInv.applyCancellation {d : Deployment} (h : StepTableInv d.job)
    (ctx : JobRunContext) (removal : RemovalAnswers) (now : Timestamp) :
    StepTableInv (applyCancellation ctx removal now d).job :=
  (h.release ctx "job cancelled" removal).of_keepsDone
    (.of_map (applyCancellation_stepStatus ctx removal now d) cancelStatus_kept)

theorem StepTableInv.cleanUp {d : Deployment} (h : StepTableInv d.job) (r : ProvisioningRequest)
    (contextBuilt : Bool) (removal : RemovalAnswers) :
    StepTableInv (cleanUp r contextBuilt removal d).job := by
  unfold InfraOps.cleanUp
  split
  · exact h.release _ _ _
  · exact h

/-- A stage that ends well extends the prefix of what is done. -/
theorem StepTableInv.finishStage {k : Stage} {job : ProvisioningJob} (h : StepTableInv job)
    (hk : job.stepDone k = false) (hbefore : ∀ k', stageIndex k' < stageIndex k →
      job.stepDone k' = true) (outcome : StageOutcome) (now : Timestamp)
    (hpower : k = .powerOn → outcome.status = .succeeded) :
    StepTableInv (finishStage k outcome now job) := by
  have hself : ∀ k', (InfraOps.finishStage k outcome now job).stepDone k' = true →
      k' = k ∨ job.stepDone k' = true := by
    intro k' hd
    by_cases heq : k' = k
    · exact .inl heq
    · have hsame : (InfraOps.finishStage k outcome now job).stepStatus k' = job.stepStatus k' := by
        rw [finishStage_stepStatus, if_neg heq]
      rw [stepDone_setStatus hsame] at hd
      exact .inr hd
  have hkept : ∀ k', job.stepDone k' = true →
      (InfraOps.finishStage k outcome now job).stepStatus k' = job.stepStatus k' := by
    intro k' hd
    rw [finishStage_stepStatus, if_neg]
    rintro rfl
    rw [hk] at hd
    cases hd
  refine ⟨?_, fun k₁ k₂ hlt hd => ?_, fun hd => ?_⟩
  · rcases h.rows with hrows | hrows
    · refine .inl fun k' => ?_
      rw [finishStage_stepStatus, hrows, hrows]
      exact ite_self _
    · refine .inr fun k' => ?_
      rw [finishStage_stepStatus]
      split
      · rw [Option.isSome_map]; exact hrows k
      · exact hrows k'
  -- the stages before the one that ends were done before it
  · have hd₁ : job.stepDone k₁ = true := by
      rcases hself k₂ hd with rfl | hd
      · exact hbefore k₁ hlt
      · exact h.ordered k₁ k₂ hlt hd
    rw [stepDone_setStatus (hkept k₁ hd₁)]
    exact hd₁
  · rcases hself _ hd with rfl | hd'
    · unfold InfraOps.booted
      rw [ProvisioningJob.stepDone_eq] at hd
      rw [finishStage_stepStatus, if_pos rfl, hpower rfl] at hd ⊢
      cases hrow : job.stepStatus .powerOn with
      | none => rw [hrow] at hd; cases hd
      | some st => rfl
    · have hb := h.booted hd'
      unfold InfraOps.booted at hb ⊢
      rw [hkept _ hd']
      exact hb

end InfraOps
