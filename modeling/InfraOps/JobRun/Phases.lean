import InfraOps.JobRun.Statuses

/-!
# What each phase of an execution knows

`ExecInv` fixes, for each phase, the job status and which step may be `RUNNING`; together
with the step table it is the invariant of all runs in which a stage is only started while
the row is `RUNNING` (`runInv`).
-/

namespace InfraOps

open JobRepository RunState

/-- Before the stages of `rest`: what precedes them is done, unless the pipeline was
cancelled inside the last of them and has not looked at the row since. -/
structure InLoop (job : ProvisioningJob) (rest : List Stage) : Prop where
  rows : ∀ k, (job.stepStatus k).isSome = true
  suffix : ∃ m, rest = orderedStages.drop m
  quiet : NoneRunning job
  notCompleted : job.status ≠ .completed
  passed : job.status = .running → ∀ k, k ∉ rest → job.stepDone k = true
  halted : job.status ≠ .running → (∀ k ∈ rest, job.stepDone k = false) ∧
    (rest = [] → ∀ k, job.stepDone k = !(k == .finalValidation))

/-- While the handler of `k` runs. -/
structure InStage (job : ProvisioningJob) (k : Stage) (rest : List Stage) : Prop where
  rows : ∀ k', (job.stepStatus k').isSome = true
  suffix : rest = orderedStages.drop (stageIndex k + 1)
  status : job.status = .running
  running : job.stepStatus k = some .running
  others : ∀ k', k' ≠ k → job.stepStatus k' ≠ some .running
  before : ∀ k', stageIndex k' < stageIndex k → job.stepDone k' = true

/-- While nothing of a pipeline is left. -/
structure Stopped (job : ProvisioningJob) : Prop where
  status : job.status ≠ .running
  quiet : NoneRunning job
  completed : job.status = .completed → ∀ k, k ≠ .finalValidation → job.stepDone k = true

def ExecInv (job : ProvisioningJob) : Exec → Prop
  | .idle => Stopped job
  | .claimed => job.status = .running ∧ NoneRunning job
  | .loop rest _ => InLoop job rest
  | .stage k rest _ => InStage job k rest
  | .releasing => Stopped job

structure RunInv (s : RunState) : Prop where
  table : StepTableInv s.job
  phase : ExecInv s.job s.exec

/-! ## Who is `RUNNING` after a write -/

namespace NoneRunning

theorem of_statuses {job job' : ProvisioningJob} (h : NoneRunning job)
    (hs : ∀ k, job'.stepStatus k = job.stepStatus k) : NoneRunning job' :=
  fun k => by rw [hs]; exact h k

theorem of_map {job job' : ProvisioningJob} {g : StepStatus → StepStatus}
    (hs : ∀ k, job'.stepStatus k = (job.stepStatus k).map g) (hg : ∀ st, g st ≠ .running) :
    NoneRunning job' := by
  intro k
  rw [hs]
  cases job.stepStatus k <;> simp [hg]

theorem ensureSteps {job : ProvisioningJob} (h : NoneRunning job) :
    NoneRunning (ensureSteps job) := by
  intro k
  have hk := h k
  rw [ensureSteps_stepStatus]
  cases hs : job.stepStatus k with
  | none => simp
  | some st => simpa [hs] using hk

theorem release {d : Deployment} (h : NoneRunning d.job) (ctx : JobRunContext)
    (reason : String) (a : RemovalAnswers) :
    NoneRunning (releaseUnattendedMedia ctx reason a d).1.job := by
  intro k
  rcases release_stepStatus ctx reason a d k with hk | ⟨-, -, -, hk⟩
  · rw [hk]; exact h k
  · rw [hk]; simp

theorem applyCancellation (ctx : JobRunContext) (removal : RemovalAnswers) (now : Timestamp)
    (d : Deployment) : NoneRunning (applyCancellation ctx removal now d).job :=
  of_map (applyCancellation_stepStatus ctx removal now d) fun st => (cancelStatus_settled st).2

theorem failBeforePipeline (e : StartError) (now : Timestamp) (d : Deployment) :
    NoneRunning (failBeforePipeline e now d).job :=
  of_map (failBeforePipeline_stepStatus e now d) fun st => (cancelStatus_settled st).2

theorem interrupt (reason : String) (now : Timestamp) (d : Deployment) :
    NoneRunning (interrupt reason now d).job :=
  of_map (interrupt_stepStatus reason now d) fun st => by cases st <;> simp [interruptStatus]

theorem cleanUp {d : Deployment} (h : NoneRunning d.job) (r : ProvisioningRequest)
    (contextBuilt : Bool) (removal : RemovalAnswers) :
    NoneRunning (cleanUp r contextBuilt removal d).job := by
  unfold InfraOps.cleanUp
  split
  · exact h.release _ _ _
  · exact h

/-- A request makes no step `RUNNING`. -/
theorem cancelJob {job job' : ProvisioningJob} {now : Timestamp} (h : NoneRunning job)
    (hjob : cancelJob job now = .ok job') : NoneRunning job' := by
  rcases cancelJob_cases hjob with ⟨-, -, rfl⟩ | ⟨-, -, hsteps⟩ | ⟨-, rfl⟩
  · exact h
  · exact of_map hsteps fun st => (cancelStatus_settled st).2
  · exact h

theorem retryStages {job job' : ProvisioningJob} {stageKey : Option String} {parses : Bool}
    {others othersAtCommit : List OtherJob} {now : Timestamp} {reset : List Stage}
    (h : NoneRunning job)
    (hjob : retryStages job stageKey parses others othersAtCommit now = .ok (job', reset)) :
    NoneRunning job' := by
  obtain ⟨-, stageKeys, hrequeued⟩ := retryStages_requeued hjob
  intro k
  rw [hrequeued.stepStatus]
  split
  · simp
  · exact h k

end NoneRunning

theorem InStage.notDone {job : ProvisioningJob} {k : Stage} {rest : List Stage}
    (h : InStage job k rest) : job.stepDone k = false := by
  rw [ProvisioningJob.stepDone_eq, h.running]
  rfl

/-- A write to the running row alone ends the only `RUNNING`. -/
theorem InStage.quiet_of_set {job job' : ProvisioningJob} {k : Stage} {rest : List Stage}
    {st : StepStatus} (h : InStage job k rest) (hst : st ≠ .running)
    (hs : ∀ k', job'.stepStatus k' =
      if k' = k then (job.stepStatus k).map fun _ => st else job.stepStatus k') :
    NoneRunning job' := by
  intro k'
  rw [hs]
  split
  · rw [h.running]
    simpa using hst
  · exact h.others k' ‹_›

theorem InStage.of_statuses {job job' : ProvisioningJob} {k : Stage} {rest : List Stage}
    (h : InStage job k rest) (hs : ∀ k', job'.stepStatus k' = job.stepStatus k')
    (hstatus : job'.status = job.status) : InStage job' k rest where
  rows k' := by rw [hs]; exact h.rows k'
  suffix := h.suffix
  status := hstatus.trans h.status
  running := by rw [hs]; exact h.running
  others k' hk' := by rw [hs]; exact h.others k' hk'
  before k' hlt := by rw [stepDone_setStatus (hs k')]; exact h.before k' hlt

theorem InLoop.of_statuses {job job' : ProvisioningJob} {rest : List Stage}
    (h : InLoop job rest) (hs : ∀ k, job'.stepStatus k = job.stepStatus k)
    (hstatus : job'.status = job.status) : InLoop job' rest where
  rows k := by rw [hs]; exact h.rows k
  suffix := h.suffix
  quiet := h.quiet.of_statuses hs
  notCompleted := by rw [hstatus]; exact h.notCompleted
  passed hr k hk := by
    rw [stepDone_setStatus (hs k)]
    exact h.passed (hstatus ▸ hr) k hk
  halted hr := by
    obtain ⟨hrest, hlast⟩ := h.halted (hstatus ▸ hr)
    exact ⟨fun k hk => (stepDone_setStatus (hs k)).trans (hrest k hk),
      fun hnil k => (stepDone_setStatus (hs k)).trans (hlast hnil k)⟩

/-- A request that stops the row leaves the pipeline in its loop, halted. -/
theorem InLoop.of_keepsDone {job job' : ProvisioningJob} {rest : List Stage}
    (h : InLoop job rest) (hk : KeepsDone job job') (hquiet : NoneRunning job')
    (hbefore : job.status ≠ .running) (hafter : job'.status ≠ .running)
    (hcompleted : job'.status ≠ .completed) : InLoop job' rest where
  rows k := by rw [hk.row]; exact h.rows k
  suffix := h.suffix
  quiet := hquiet
  notCompleted := hcompleted
  passed hr := absurd hr hafter
  halted _ := by
    obtain ⟨hrest, hlast⟩ := h.halted hbefore
    exact ⟨fun k hmem => (hk.done k).trans (hrest k hmem),
      fun hnil k => (hk.done k).trans (hlast hnil k)⟩

/-! ## The ends of a stage -/

theorem InStage.assignments {job : ProvisioningJob} {k : Stage} {rest : List Stage}
    (h : InStage job k rest) (as : List Assignment) : InStage (applyAssignments job as) k rest :=
  h.of_statuses (applyAssignments_stepStatus job as)
    (applyAssignments_induction (P := fun j => j.status = job.status)
      (fun j a _ hj => (a.applyJob_status j).trans hj) rfl)

/-- A failure leaves a stopped job whose step of `k` has failed. -/
theorem InStage.handleFailure {d : Deployment} {k : Stage} {rest : List Stage}
    (h : InStage d.job k rest) (ctx : JobRunContext) (f : InfraOperationError)
    (screenshot : Option String) (removal : RemovalAnswers) (now : Timestamp) :
    Stopped (handleFailure ctx k f screenshot removal now d).job ∧
      (handleFailure ctx k f screenshot removal now d).job.stepStatus k = some .failed := by
  obtain ⟨records, hjob, -⟩ := handleFailure_eq ctx k f screenshot removal now d
  rw [hjob]
  have hsteps := failJob_stepStatus k f screenshot now d.job
  have hfailed : (failJob k f screenshot now d.job).stepStatus k = some .failed := by
    rw [hsteps, if_pos rfl, h.running]
    rfl
  have hstatus := failJob_status k f screenshot now d.job
  refine ⟨⟨?_, ?_, ?_⟩, ?_⟩
  · rw [release_status]
    rcases hstatus with h | h <;> simp [h]
  · exact NoneRunning.release (d := { d with job := failJob k f screenshot now d.job, records })
      (h.quiet_of_set (by simp) hsteps) ctx _ removal
  · intro hc
    rw [release_status] at hc
    rcases hstatus with h | h <;> simp [h] at hc
  · rcases release_stepStatus ctx s!"stage '{k.key}' failed" removal
      { d with job := failJob k f screenshot now d.job, records } k with hk | ⟨-, -, hsucceeded, -⟩
    · exact hk.trans hfailed
    · rw [hfailed] at hsucceeded
      cases hsucceeded

/-- A stage that ends well moves the loop past it. -/
theorem InStage.finishStage {job : ProvisioningJob} {k : Stage} {rest : List Stage}
    (h : InStage job k rest) (outcome : StageOutcome) (now : Timestamp) :
    InLoop (finishStage k outcome now job) rest := by
  have hsteps := finishStage_stepStatus k outcome now job
  have hother : ∀ k', k' ≠ k → (InfraOps.finishStage k outcome now job).stepStatus k' =
      job.stepStatus k' := fun k' hk' => by rw [hsteps, if_neg hk']
  have hself : (InfraOps.finishStage k outcome now job).stepStatus k =
      some outcome.status.toStep := by
    rw [hsteps, if_pos rfl, h.running]
    rfl
  have hstatus : (InfraOps.finishStage k outcome now job).status = .running := h.status
  refine ⟨fun k' => ?_, ⟨_, h.suffix⟩, h.quiet_of_set ?_ hsteps, by simp [h.status], ?_, ?_⟩
  · by_cases hk' : k' = k
    · rw [hk', hself]; rfl
    · rw [hother k' hk']; exact h.rows k'
  · cases outcome.status <;> simp [OutcomeStatus.toStep]
  · intro _ k' hk'
    rw [h.suffix, mem_drop_orderedStages] at hk'
    by_cases heq : k' = k
    · rw [ProvisioningJob.stepDone_eq, heq, hself]
      simp
    · have hne : stageIndex k' ≠ stageIndex k := fun hidx => heq (stageIndex_inj hidx)
      rw [stepDone_setStatus (hother k' heq)]
      exact h.before k' (by omega)
  · intro hr
    exact absurd hstatus hr

/-- The release never makes a step done, and undoes none once Windows has booted. -/
theorem release_stepDone (ctx : JobRunContext) (reason : String) (a : RemovalAnswers)
    (d : Deployment) (k : Stage) :
    (d.job.stepDone k = false →
        (releaseUnattendedMedia ctx reason a d).1.job.stepDone k = false) ∧
      (booted d.job = true → d.job.stepDone k = true →
        (releaseUnattendedMedia ctx reason a d).1.job.stepDone k = true) := by
  rcases release_stepStatus ctx reason a d k with h | ⟨-, hnot, -, h⟩
  · rw [stepDone_setStatus h]
    exact ⟨id, fun _ => id⟩
  · refine ⟨fun _ => by rw [ProvisioningJob.stepDone_eq, h]; rfl, fun hb => ?_⟩
    rw [hb] at hnot
    cases hnot

@[simp] theorem release_row (ctx : JobRunContext) (reason : String) (a : RemovalAnswers)
    (d : Deployment) (k : Stage) :
    ((releaseUnattendedMedia ctx reason a d).1.job.stepStatus k).isSome =
      (d.job.stepStatus k).isSome := by
  rcases release_stepStatus ctx reason a d k with h | ⟨-, -, hsucceeded, h⟩
  · rw [h]
  · rw [h, hsucceeded]
    rfl

theorem done_of_release {ctx : JobRunContext} {reason : String} {a : RemovalAnswers}
    {d : Deployment} {k : Stage}
    (h : (releaseUnattendedMedia ctx reason a d).1.job.stepDone k = true) :
    d.job.stepDone k = true := by
  rw [← Bool.not_eq_false] at h ⊢
  exact fun hnot => h ((release_stepDone ctx reason a d k).1 hnot)

theorem InStage.cancelStage_stepStatus {d : Deployment} {k : Stage} {rest : List Stage}
    (h : InStage d.job k rest) (ctx : JobRunContext) (removal : RemovalAnswers)
    (now : Timestamp) :
    (cancelStage ctx k removal now d).job.stepStatus k = some .cancelled := by
  have hcancelled : (d.job.setStep k (cancelledStep now)).stepStatus k = some .cancelled := by
    rw [cancelledStep_stepStatus, if_pos rfl, h.running]
    rfl
  rw [cancelStage, applyCancellation_stepStatus]
  rcases release_stepStatus ctx "job cancelled" removal
    { d with job := d.job.setStep k (cancelledStep now) } k with hk | ⟨-, -, hsucceeded, -⟩
  · rw [hk, hcancelled]
    rfl
  · rw [hcancelled] at hsucceeded
    cases hsucceeded

/-- A stage that ends well is followed by the rest of the loop. -/
theorem returned_exec {job : ProvisioningJob} {k : Stage} {rest : List Stage}
    (h : InStage job k rest) (outcome : StageOutcome) (now : Timestamp) (ctx : JobRunContext)
    {d : Deployment} (hd : d.job = finishStage k outcome now job) :
    afterStage k rest ctx d = .loop rest ctx := by
  rw [afterStage, if_neg]
  rw [hd, finishStage_stepStatus, if_pos rfl, h.running]
  cases outcome.status <;> simp [OutcomeStatus.toStep]

/-- **A cancelled stage halts the loop**: nothing after it is done, and if nothing comes
after it, it was the last. -/
theorem InStage.cancelStage {d : Deployment} {k : Stage} {rest : List Stage}
    (h : InStage d.job k rest) (ht : StepTableInv d.job) (ctx : JobRunContext)
    (removal : RemovalAnswers) (now : Timestamp) :
    InLoop (cancelStage ctx k removal now d).job rest := by
  have hkept := KeepsDone.cancelledStep h.notDone now
  have htable := ht.of_keepsDone hkept
  have hsteps := applyCancellation_stepStatus ctx removal now
    { d with job := d.job.setStep k (cancelledStep now) }
  have hdone : ∀ k', (InfraOps.cancelStage ctx k removal now d).job.stepDone k' =
      (releaseUnattendedMedia ctx "job cancelled" removal
        { d with job := d.job.setStep k (cancelledStep now) }).1.job.stepDone k' :=
    fun k' => stepDone_map cancelStatus_done (hsteps k')
  have hrelease := release_stepDone ctx "job cancelled" removal
    { d with job := d.job.setStep k (cancelledStep now) }
  refine ⟨fun k' => ?_, ⟨_, h.suffix⟩, NoneRunning.applyCancellation ctx removal now _,
    by simp [InfraOps.cancelStage], fun hr => by simp [InfraOps.cancelStage] at hr, fun _ =>
      ⟨fun k' hk' => ?_, fun hnil k' => ?_⟩⟩
  · have hrow := hsteps k'
    show ((applyCancellation ctx removal now _).job.stepStatus k').isSome = true
    rw [hrow, Option.isSome_map, release_row, hkept.row]
    exact h.rows k'
  · rw [h.suffix, mem_drop_orderedStages] at hk'
    rw [hdone]
    refine (hrelease k').1 ((hkept.done k').trans ?_)
    rw [← Bool.not_eq_true]
    intro hd
    have hprev := ht.ordered k k' (by omega) hd
    rw [h.notDone] at hprev
    cases hprev
  · rw [h.suffix] at hnil
    have hfinal := eq_final_of_drop_eq_nil hnil
    have hbefore : ∀ k', k' ≠ .finalValidation → d.job.stepDone k' = true := by
      intro k' hk'
      have hle := stageIndex_le_final k'
      have hne : stageIndex k' ≠ stageIndex .finalValidation :=
        fun hidx => hk' (stageIndex_inj hidx)
      refine h.before k' ?_
      rw [hfinal]
      omega
    rw [hdone]
    by_cases hk' : k' = .finalValidation
    · subst hk'
      exact (hrelease _).1 ((hkept.done _).trans (hfinal ▸ h.notDone))
    · rw [beq_false_of_ne hk']
      refine (hrelease k').2 (htable.booted ?_) ((hkept.done k').trans (hbefore k' hk'))
      exact (hkept.done _).trans (hbefore .powerOn (by decide))

/-! ## One step -/

theorem StepTableInv.of_steps {job job' : ProvisioningJob} (h : StepTableInv job)
    (hs : job'.steps = job.steps) : StepTableInv job' :=
  h.of_keepsDone (.of_steps hs)

theorem RunInv.stage {s : RunState} (hs : RunInv s) {k : Stage} {rest : List Stage}
    {ctx : JobRunContext} (hexec : s.exec = .stage k rest ctx) : InStage s.job k rest := by
  have hphase := hs.phase
  rw [hexec] at hphase
  exact hphase

theorem RunInv.loop {s : RunState} (hs : RunInv s) {rest : List Stage}
    {ctx : JobRunContext} (hexec : s.exec = .loop rest ctx) : InLoop s.job rest := by
  have hphase := hs.phase
  rw [hexec] at hphase
  exact hphase

theorem RunInv.stopped {s : RunState} (hs : RunInv s) (hexec : s.exec.stopped = true) :
    Stopped s.job := by
  have hphase := hs.phase
  cases h : s.exec <;> simp_all [Exec.stopped, ExecInv]

/-- A job that is not `RUNNING` has no `RUNNING` step. -/
theorem RunInv.quiet {s : RunState} (hs : RunInv s) (hstatus : s.job.status ≠ .running) :
    NoneRunning s.job := by
  have hphase := hs.phase
  cases hexec : s.exec with
  | idle => rw [hexec] at hphase; exact hphase.quiet
  | releasing => rw [hexec] at hphase; exact hphase.quiet
  | claimed => rw [hexec] at hphase; exact hphase.2
  | loop rest ctx => exact (hs.loop hexec).quiet
  | stage k rest ctx => exact absurd (hs.stage hexec).status hstatus

theorem StepTableInv.step {s s' : RunState} {e : Event} (hs : RunInv s) (h : Transition s e s') :
    StepTableInv s'.job := by
  have ht := hs.table
  cases h with
  | started hexec hstatus => exact ht.ensureSteps
  | @startFailed now error hexec hstatus =>
    exact ht.ensureSteps.of_keepsDone
      (.failBeforePipeline error now { s.toDeployment with job := JobRepository.ensureSteps s.job })
  | cancelledBetween hexec hrow hdone hcancel => exact ht.applyCancellation _ _ _
  | startedStage hexec hrow hdone hcancel => exact ht.of_keepsDone (.startStage hdone _)
  | @returned now answers removal screenshot k rest ctx run outcome hexec hrun hresult =>
    have hin := (hs.stage hexec).assignments run.assignments
    refine (ht.of_keepsDone (.assignments s.job run.assignments)).finishStage hin.notDone
      hin.before outcome now ?_
    rintro rfl
    exact (runHandler_runOf hrun).powerOn_ok hresult
  | raised hexec hrun hresult =>
    exact StepTableInv.handleFailure (d := s.ranTo _) (ht.of_keepsDone (.assignments s.job _))
      ((hs.stage hexec).assignments _).notDone _ _ _ _ _
  | timedOut hexec hrun =>
    exact StepTableInv.handleFailure (d := s.cutAt _ _) (ht.of_keepsDone (.assignments s.job _))
      ((hs.stage hexec).assignments _).notDone _ _ _ _ _
  | cancelledWithin hexec hevent hrun =>
    exact StepTableInv.applyCancellation
      ((ht.of_keepsDone (.assignments s.job _)).of_keepsDone
        (.cancelledStep ((hs.stage hexec).assignments _).notDone _)) _ _ _
  | crashed hexec hclaimed habort =>
    exact (ht.of_steps (by rw [(aborted_spec habort).1])).of_keepsDone
      (.failBeforePipeline pipelineCrashed _ _)
  | interrupted habort hstatus =>
    exact (ht.of_steps (by rw [(aborted_spec habort).1])).of_keepsDone (.interrupt _ _ _)
  | abandoned habort hstatus => exact ht.of_steps (by rw [(aborted_spec habort).1])
  | cleanedUp hexec => exact ht.cleanUp _ _ _
  | cancelled hjob => exact ht.of_keepsDone (.cancelJob hjob)
  | retried hjob => exact ht.of_keepsDone (.retryStages hjob)
  | _ => exact ht.of_steps rfl

/-- A retry is accepted for stopped jobs only, and queues them. -/
theorem retryStages_status {job job' : ProvisioningJob} {stageKey : Option String}
    {parses : Bool} {others othersAtCommit : List OtherJob} {now : Timestamp}
    {reset : List Stage}
    (h : retryStages job stageKey parses others othersAtCommit now = .ok (job', reset)) :
    job.status ≠ .running ∧ job'.status = .queued := by
  obtain ⟨hstatus, stageKeys, hrequeued⟩ := retryStages_requeued h
  refine ⟨fun hrunning => ?_, hrequeued.status⟩
  rw [hrunning] at hstatus
  cases hstatus

theorem Stopped.cleanUp {d : Deployment} (h : Stopped d.job) (ht : StepTableInv d.job)
    (r : ProvisioningRequest) (contextBuilt : Bool) (removal : RemovalAnswers) :
    Stopped (cleanUp r contextBuilt removal d).job := by
  unfold InfraOps.cleanUp
  split
  · refine ⟨by simpa using h.status, h.quiet.release _ _ _, fun hc k hk => ?_⟩
    rw [release_status] at hc
    exact (release_stepDone _ _ _ d k).2 (ht.booted (h.completed hc .powerOn (by decide)))
      (h.completed hc k hk)
  · exact h

theorem Stopped.cancelJob {job job' : ProvisioningJob} {now : Timestamp} (h : Stopped job)
    (hjob : cancelJob job now = .ok job') : Stopped job' := by
  have hquiet := h.quiet.cancelJob hjob
  rcases cancelJob_cases hjob with ⟨-, -, rfl⟩ | ⟨-, hstatus, -⟩ | ⟨hrunning, -⟩
  · exact ⟨by simp [handOver], hquiet, by simp [handOver]⟩
  · exact ⟨by simp [hstatus], hquiet, by simp [hstatus]⟩
  · exact absurd hrunning h.status

theorem ExecInv.cancelJob {job job' : ProvisioningJob} {now : Timestamp} {x : Exec}
    (h : ExecInv job x) (hjob : cancelJob job now = .ok job') : ExecInv job' x := by
  have hkept := KeepsDone.cancelJob hjob
  have hflag : job.status = .running → job' = { job with cancelRequested := true } := by
    intro hrunning
    rcases cancelJob_cases hjob with ⟨hi, -, -⟩ | ⟨hq, -, -⟩ | ⟨-, h⟩
    · rw [hi] at hrunning; cases hrunning
    · simp [hrunning] at hq
    · exact h
  cases x with
  | idle => exact Stopped.cancelJob h hjob
  | releasing => exact Stopped.cancelJob h hjob
  | claimed =>
    rw [hflag h.1]
    exact h
  | loop rest ctx =>
    have hin : InLoop job rest := h
    by_cases hrunning : job.status = .running
    · rw [hflag hrunning]
      exact hin.of_statuses (fun _ => rfl) rfl
    · have hquiet := hin.quiet.cancelJob hjob
      rcases cancelJob_cases hjob with ⟨-, -, rfl⟩ | ⟨-, hstatus, -⟩ | ⟨hr, -⟩
      · exact hin.of_keepsDone hkept hquiet hrunning (by simp [handOver]) (by simp [handOver])
      · exact hin.of_keepsDone hkept hquiet hrunning (by simp [hstatus]) (by simp [hstatus])
      · exact absurd hr hrunning
  | stage k rest ctx =>
    have hin : InStage job k rest := h
    rw [hflag hin.status]
    exact hin.of_statuses (fun _ => rfl) rfl

theorem ExecInv.retryStages {job job' : ProvisioningJob} {stageKey : Option String}
    {parses : Bool} {others othersAtCommit : List OtherJob} {now : Timestamp}
    {reset : List Stage} {x : Exec} (h : ExecInv job x)
    (hjob : retryStages job stageKey parses others othersAtCommit now = .ok (job', reset)) :
    ExecInv job' x := by
  obtain ⟨hbefore, hafter⟩ := retryStages_status hjob
  cases x with
  | idle => exact ⟨by simp [hafter], NoneRunning.retryStages h.quiet hjob, by simp [hafter]⟩
  | releasing => exact ⟨by simp [hafter], NoneRunning.retryStages h.quiet hjob, by simp [hafter]⟩
  | claimed => exact absurd h.1 hbefore
  | loop rest ctx =>
    have hin : InLoop job rest := h
    exact hin.of_keepsDone (.retryStages hjob) (hin.quiet.retryStages hjob) hbefore
      (by simp [hafter]) (by simp [hafter])
  | stage k rest ctx => exact absurd (InStage.status h) hbefore

/-- The execution that an abort ends: the job was either running or halted in its loop. -/
theorem RunInv.aborted {s s₁ : RunState} {abort : Abort} (hs : RunInv s)
    (h : s.aborted abort = some s₁) (hstatus : s.job.status ≠ .running) :
    ∃ rest ctx, s.exec = .loop rest ctx := by
  have hlive := (aborted_spec h).2.2.2.2.2
  cases hexec : s.exec with
  | loop rest ctx => exact ⟨rest, ctx, rfl⟩
  | claimed =>
    have hphase := hs.phase
    rw [hexec] at hphase
    exact absurd hphase.1 hstatus
  | stage k rest ctx => exact absurd (hs.stage hexec).status hstatus
  | idle => rw [hexec] at hlive; cases hlive
  | releasing => rw [hexec] at hlive; cases hlive

theorem ExecInv.step {s s' : RunState} {e : Event} (hs : RunInv s)
    (howned : startsOwned s e = true) (h : Transition s e s') : ExecInv s'.job s'.exec := by
  have hphase := hs.phase
  cases h with
  | claimed hexec hdue =>
    rw [hexec] at hphase
    exact ⟨rfl, hphase.quiet⟩
  | started hexec hstatus =>
    rw [hexec] at hphase
    refine ⟨fun k => by rw [startRun, ensureSteps_stepStatus]; rfl, ⟨0, rfl⟩,
      hphase.2.ensureSteps, ?_, fun _ k hk => absurd (mem_orderedStages k) hk, ?_⟩
    · show s.job.status ≠ .completed
      simp [hstatus]
    · intro hr
      exact absurd hstatus hr
  | startFailed hexec hstatus =>
    exact ⟨by simp [failBeforePipeline], NoneRunning.failBeforePipeline _ _ _,
      by simp [failBeforePipeline]⟩
  -- nobody takes a claimed job from its worker
  | notOwned haction hexec hstatus =>
    rw [hexec] at hphase
    exact absurd hphase.1 hstatus
  | beatLoop hexec hstatus => exact (hs.loop hexec).of_statuses (fun _ => rfl) rfl
  | beatStage hexec hstatus => exact (hs.stage hexec).of_statuses (fun _ => rfl) rfl
  -- a halted job gets here too: then its last stage is the one that was cancelled
  | finalized hexec =>
    have hin := hs.loop hexec
    refine ⟨by simp [finalizeSuccess], hin.quiet, fun _ k hk => ?_⟩
    by_cases hrunning : s.job.status = .running
    · exact hin.passed hrunning k (by simp)
    · exact ((hin.halted hrunning).2 rfl k).trans (by simp [hk])
  | @skipped now removal k rest ctx hexec hskip =>
    have hin := hs.loop hexec
    have hdone : s.job.stepDone k = true := by
      rcases hskip with hnone | hdone
      · have hrow := hin.rows k
        rw [← isSome_steps_iff, hnone] at hrow
        cases hrow
      · exact hdone
    obtain ⟨m, hm⟩ := hin.suffix
    refine ⟨hin.rows, ⟨m + 1, (stageIndex_of_drop hm.symm).2.symm⟩, hin.quiet, hin.notCompleted,
      fun hr k' hk' => ?_, fun hr => ?_⟩
    · by_cases heq : k' = k
      · rw [heq]; exact hdone
      · exact hin.passed hr k' (by simp [heq, hk'])
    -- behind a cancelled stage nothing is done, so nothing is skipped
    · have hnot := (hin.halted hr).1 k (by simp)
      rw [hdone] at hnot
      cases hnot
  | cancelledBetween hexec hrow hdone hcancel =>
    exact ⟨by simp, NoneRunning.applyCancellation _ _ _ _, by simp⟩
  -- on a running row, all before the stage is done
  | @startedStage now removal k rest ctx hexec hrow hdone hcancel =>
    have hin := hs.loop hexec
    have hstatus : s.job.status = .running := by
      simpa [startsOwned, hexec, hdone, hcancel] using howned
    obtain ⟨m, hm⟩ := hin.suffix
    obtain ⟨hidx, hdrop⟩ := stageIndex_of_drop hm.symm
    have hsteps := startStage_stepStatus k now s.job
    refine ⟨fun k' => ?_, by rw [hidx, hdrop], hstatus, ?_, fun k' hk' => ?_, fun k' hlt => ?_⟩
    · rw [(KeepsDone.startStage hdone now).row]
      exact hin.rows k'
    · obtain ⟨st, hst⟩ := Option.isSome_iff_exists.mp (hin.rows k)
      rw [hsteps, if_pos rfl, hst]
      rfl
    · rw [hsteps, if_neg hk']
      exact hin.quiet k'
    · rw [(KeepsDone.startStage hdone now).done]
      refine hin.passed hstatus k' ?_
      rw [hm, mem_drop_orderedStages]
      omega
  | @returned now answers removal screenshot k rest ctx run outcome hexec hrun hresult =>
    have hin := (hs.stage hexec).assignments run.assignments
    have hloop := hin.finishStage outcome now
    show ExecInv _ (afterStage k rest _ _)
    rw [returned_exec hin outcome now _ rfl]
    exact hloop
  | @raised now answers removal screenshot k rest ctx run raised hexec hrun hresult =>
    obtain ⟨hstopped, hfailed⟩ := InStage.handleFailure (d := s.ranTo run)
      ((hs.stage hexec).assignments run.assignments) (assignContext ctx run.assignments)
      (raised.failure k) screenshot removal now
    show ExecInv _ (afterStage k rest _ _)
    rw [afterStage, if_pos hfailed]
    exact hstopped
  | @timedOut now answers cut seconds removal screenshot k rest ctx run hexec hrun =>
    obtain ⟨hstopped, hfailed⟩ := InStage.handleFailure (d := s.cutAt run cut)
      ((hs.stage hexec).assignments (run.assignmentsBefore cut))
      (assignContext ctx (run.assignmentsBefore cut)) (timeoutFailure k seconds) screenshot
      removal now
    show ExecInv _ (afterStage k rest _ _)
    rw [afterStage, if_pos hfailed]
    exact hstopped
  | @cancelledWithin now answers cut removal k rest ctx run hexec hevent hrun =>
    have hin := (hs.stage hexec).assignments (run.assignmentsBefore cut)
    have hloop := InStage.cancelStage (d := s.cutAt run cut) hin
      (hs.table.of_keepsDone (.assignments s.job _))
      (assignContext ctx (run.assignmentsBefore cut)) removal now
    show ExecInv _ (afterStage k rest _ _)
    rw [afterStage, if_neg]
    · exact hloop
    · rw [InStage.cancelStage_stepStatus (d := s.cutAt run cut) hin]
      simp
  | crashed hexec hclaimed habort =>
    exact ⟨by simp [failBeforePipeline], NoneRunning.failBeforePipeline _ _ _,
      by simp [failBeforePipeline]⟩
  | interrupted habort hstatus =>
    exact ⟨by simp [InfraOps.interrupt], NoneRunning.interrupt _ _ _, by simp [InfraOps.interrupt]⟩
  -- only a job that a cancelled stage has halted is found not running
  | abandoned habort hstatus =>
    obtain ⟨rest, ctx, hexec⟩ := hs.aborted habort hstatus
    have hin := hs.loop hexec
    show Stopped _
    rw [(aborted_spec habort).1]
    exact ⟨hstatus, hin.quiet, fun hc => absurd hc hin.notCompleted⟩
  | @cleanedUp now contextBuilt removal hexec =>
    rw [hexec] at hphase
    exact Stopped.cleanUp (d := s.toDeployment) hphase hs.table s.request contextBuilt removal
  | landed hflight => exact hphase
  | cancelled hjob => exact hphase.cancelJob hjob
  | retried hjob => exact hphase.retryStages hjob

/-! ## Every run -/

theorem RunInv.init {s : RunState} (h : s.Submitted) : RunInv s := by
  have hnone : ∀ k, s.job.stepStatus k = none := fun k => by
    simp [ProvisioningJob.stepStatus, h.steps]
  have hdone : ∀ k, s.job.stepDone k = false := fun k => by
    simp [ProvisioningJob.stepDone, h.steps]
  refine ⟨⟨.inl hnone, fun k k' _ hd => ?_, fun hd => ?_⟩, ?_⟩
  · rw [hdone] at hd; cases hd
  · rw [hdone] at hd; cases hd
  · rw [h.idle]
    exact ⟨by simp [h.status], fun k => by simp [hnone], by simp [h.status]⟩

/-- **Status and execution agree** in every run whose stages are started while the row is
`RUNNING`. -/
theorem runInv {C : RunState → Event → Prop} (howned : ∀ s e, C s e → startsOwned s e = true)
    {s : RunState} (hs : jobRun.ReachableUnder C s) : RunInv s := by
  refine hs.invariant (fun _ h0 => .init h0) fun s e s' _ hi hc hstep => ?_
  have htrans := transition_of_step hstep
  exact ⟨.step hi htrans, .step hi (howned s e hc) htrans⟩

/-! ## What becomes done -/

/-- The handler of `k` returned. -/
structure Returned (s : RunState) (e : Event) (k : Stage) (s' : RunState) : Prop where
  action : ∃ answers removal screenshot, e.action = .finish answers removal screenshot
  exec : ∃ rest ctx run outcome now, s.exec = .stage k rest ctx ∧
    RunOf k ctx s.job s.world run ∧ run.result = .ok outcome ∧
    s'.exec = .loop rest (assignContext ctx run.assignments) ∧
    s'.job = finishStage k outcome now (applyAssignments s.job run.assignments) ∧
    s'.world = s.world.applyAll run.effects
  inFlight : s'.inFlight = s.inFlight
  request : s'.request = s.request

theorem done_of_handleFailure {k k' : Stage} {d : Deployment} (hk : d.job.stepDone k = false)
    {ctx : JobRunContext} {f : InfraOperationError} {screenshot : Option String}
    {removal : RemovalAnswers} {now : Timestamp}
    (hd : (handleFailure ctx k f screenshot removal now d).job.stepDone k' = true) :
    d.job.stepDone k' = true := by
  obtain ⟨records, hjob, -⟩ := handleFailure_eq ctx k f screenshot removal now d
  rw [hjob] at hd
  rw [← (KeepsDone.failJob hk f screenshot now).done]
  exact done_of_release hd

theorem done_of_applyCancellation {k : Stage} {ctx : JobRunContext} {removal : RemovalAnswers}
    {now : Timestamp} {d : Deployment}
    (hd : (applyCancellation ctx removal now d).job.stepDone k = true) :
    d.job.stepDone k = true := by
  rw [stepDone_map cancelStatus_done (applyCancellation_stepStatus ctx removal now d k)] at hd
  exact done_of_release hd

/-- **Only a handler that returns makes a step done.** -/
theorem Transition.done {s s' : RunState} {e : Event} (hs : RunInv s) (h : Transition s e s')
    {k : Stage} (hd : s'.job.stepDone k = true) : s.job.stepDone k = true ∨ Returned s e k s' := by
  have hassigned : ∀ as, (applyAssignments s.job as).stepDone k = s.job.stepDone k :=
    fun as => (applyAssignments_steps s.job as k).2
  cases h with
  | started hexec hstatus => exact .inl ((ensureSteps_stepDone s.job k).symm.trans hd)
  | @startFailed now error hexec hstatus =>
    rw [(KeepsDone.failBeforePipeline error now
      { s.toDeployment with job := JobRepository.ensureSteps s.job }).done] at hd
    exact .inl ((ensureSteps_stepDone s.job k).symm.trans hd)
  | cancelledBetween hexec hrow hdone hcancel => exact .inl (done_of_applyCancellation hd)
  | @startedStage now removal k' rest ctx hexec hrow hdone hcancel =>
    exact .inl (((KeepsDone.startStage hdone now).done k).symm.trans hd)
  -- the stage that has just ended well is the only new one
  | @returned now answers removal screenshot k' rest ctx run outcome hexec hrun hresult =>
    by_cases heq : k = k'
    · subst heq
      have hin := (hs.stage hexec).assignments run.assignments
      refine .inr ⟨⟨answers, removal, screenshot, rfl⟩, ?_, rfl, rfl⟩
      exact ⟨rest, ctx, run, outcome, now, hexec, runHandler_runOf hrun, hresult,
        returned_exec hin outcome now _ rfl, rfl, rfl⟩
    · refine .inl ((hassigned run.assignments).symm.trans ?_)
      have hsame :
          (finishStage k' outcome now (applyAssignments s.job run.assignments)).stepStatus k =
            (applyAssignments s.job run.assignments).stepStatus k := by
        rw [finishStage_stepStatus, if_neg heq]
      exact (stepDone_setStatus hsame).symm.trans hd
  | @raised now answers removal screenshot k' rest ctx run raised hexec hrun hresult =>
    have hnot := ((hs.stage hexec).assignments run.assignments).notDone
    exact .inl ((hassigned _).symm.trans (done_of_handleFailure (d := s.ranTo run) hnot hd))
  | @timedOut now answers cut seconds removal screenshot k' rest ctx run hexec hrun =>
    have hnot := ((hs.stage hexec).assignments (run.assignmentsBefore cut)).notDone
    exact .inl ((hassigned _).symm.trans (done_of_handleFailure (d := s.cutAt run cut) hnot hd))
  | @cancelledWithin now answers cut removal k' rest ctx run hexec hevent hrun =>
    have hnot := ((hs.stage hexec).assignments (run.assignmentsBefore cut)).notDone
    have hd := done_of_applyCancellation hd
    have hkept := (KeepsDone.cancelledStep hnot now).done k
    exact .inl ((hassigned _).symm.trans (hkept.symm.trans hd))
  | @crashed now abort s₁ hexec hclaimed habort =>
    rw [(KeepsDone.failBeforePipeline pipelineCrashed now s₁.toDeployment).done,
      (aborted_spec habort).1] at hd
    exact .inl hd
  | @interrupted now reason abort s₁ habort hstatus =>
    rw [(KeepsDone.interrupt reason now s₁.toDeployment).done, (aborted_spec habort).1] at hd
    exact .inl hd
  | abandoned habort hstatus =>
    rw [(aborted_spec habort).1] at hd
    exact .inl hd
  | cleanedUp hexec =>
    refine .inl ?_
    simp only [InfraOps.cleanUp] at hd
    split at hd
    · exact done_of_release hd
    · exact hd
  | cancelled hjob => exact .inl (((KeepsDone.cancelJob hjob).done k).symm.trans hd)
  | retried hjob => exact .inl (((KeepsDone.retryStages hjob).done k).symm.trans hd)
  | _ => exact .inl hd

/-- A created VM stays recorded. -/
theorem vmRecorded {C : RunState → Event → Prop}
    (howned : ∀ s e, C s e → startsOwned s e = true) {s : RunState}
    (hs : jobRun.ReachableUnder C s) : s.job.stepDone .createVm = true → VmRecorded s.job := by
  refine hs.invariant (I := fun s => s.job.stepDone .createVm = true → VmRecorded s.job)
    (fun s h0 hd => ?_) fun s e s' hr hi hc hstep hd => ?_
  · simp [ProvisioningJob.stepDone, h0.steps] at hd
  · have htrans := transition_of_step hstep
    have hinv := runInv howned hr
    rcases htrans.done hinv hd with hd | hret
    · rcases htrans.keepsMedia (mediaInv hr).row with ⟨hkept, -⟩ | ⟨path, hprepared⟩
      · exact hkept.vm (hi hd)
      · obtain ⟨id, hid, hne⟩ := hi hd
        exact ⟨id, by rw [(hprepared.others .createVm (by decide)).2]; exact hid, hne⟩
    · obtain ⟨rest, ctx, run, outcome, now, hexec, hrun, hresult, -, hjob, -⟩ := hret.exec
      have hin := (hinv.stage hexec).assignments run.assignments
      rw [hjob]
      refine vmRecorded_of_finish ?_ now ?_
      · rw [isSome_steps_iff]
        exact hin.rows .createVm
      · cases hrun with
        | createVm hk a => exact stageCreateVm_ok hresult
        | other hk a ha => exact absurd rfl hk.1
        | _ hk => cases hk

/-- Media that is held was prepared on a VM that is recorded. -/
theorem vmRecorded_of_mayHold {C : RunState → Event → Prop}
    (howned : ∀ s e, C s e → startsOwned s e = true) {s : RunState}
    (hs : jobRun.ReachableUnder C s) (hmay : mayHoldUnattendedMedia s.job = true) :
    VmRecorded s.job := by
  refine vmRecorded howned hs ((runInv howned hs).table.ordered .createVm
    .prepareUnattendedInstall (by decide) ?_)
  rw [ProvisioningJob.stepDone_eq, (mediaInv hs).prepared hmay]
  rfl

end InfraOps
