import InfraOps.JobRun.TwoRuns

/-!
# What two runs show

Two runs of a job in which the same happens but for technical details publish the same live
events, and leave the same columns for readers.
-/

namespace InfraOps

variable (percent : Nat → Nat → Nat → Nat)

def ShownJob.hide (s : ShownJob) : ShownJob := { s with toRunState := s.toRunState.hide }

inductive Moment.Alike : Moment → Moment → Prop
  | event {e e' : Event} (h : e.Alike e') : Alike (.event e) (.event e')
  | write (w : HandlerWrite) : Alike (.write w) (.write w)

/-! ## Columns -/

theorem computeProgress_of_hide {job job' : ProvisioningJob} (h : job.hide = job'.hide) :
    computeProgress percent job = computeProgress percent job' := by
  have hstatus : job.stepStatus = job'.stepStatus := funext (stepStatus_of_hide h)
  rw [computeProgress, computeProgress, hstatus]

theorem elapsed_of_hide {job job' : ProvisioningJob} (h : job.hide = job'.hide) (now : Timestamp)
    (before : Option Int) : elapsed job now before = elapsed job' now before :=
  eq_of_hide (elapsed · now before) (fun _ => rfl) h

theorem currentKey_of_hide {job job' : ProvisioningJob} (h : job.hide = job'.hide) :
    currentKey job = currentKey job' := eq_of_hide currentKey (fun _ => rfl) h

namespace ShownJob

variable {s s' : ShownJob}

/-- Two shown jobs that are the same but for what is hidden differ in their jobs only. -/
theorem exists_job (h : s.hide = s'.hide) : ∃ job, s.job.hide = job.hide ∧ s' = { s with job } := by
  obtain ⟨run, facts, datacenterId, datacenterName, progress, duration, published⟩ := s
  obtain ⟨run', facts', datacenterId', datacenterName', progress', duration', published'⟩ := s'
  obtain ⟨hrun, rfl, rfl, rfl, rfl, rfl, rfl⟩ := ShownJob.mk.inj h
  obtain ⟨job, hjob, rfl⟩ := RunState.exists_job hrun
  exact ⟨job, hjob, rfl⟩

theorem noticed_of_hide (h : s.hide = s'.hide) {t t' : RunState} (ht : t.hide = t'.hide)
    (n : Option Notice) : (s.noticed t n).hide = (s'.noticed t' n).hide := by
  obtain ⟨job, hjob, rfl⟩ := exists_job h
  cases n with
  | none => exact congrArg (fun t => { s with toRunState := t }) ht
  | some notice =>
    exact congrArg (fun t => { s with
      toRunState := t
      progress := notice.progress
      duration := notice.duration
      published := s.published ++ [notice.event] }) ht

/-! ## Notices -/

section Notices

variable {job job' : ProvisioningJob} (h : job.hide = job'.hide)
include h

theorem started_of_hide (k : Stage) :
    s.started percent k job = s.started percent k job' := by
  rw [started, started, computeProgress_of_hide percent h]

theorem finished_of_hide (k : Stage) (outcome : StageOutcome) :
    s.finished percent k outcome job = s.finished percent k outcome job' := by
  rw [finished, finished, computeProgress_of_hide percent h, currentKey_of_hide h]

theorem cancelled_of_hide (now : Timestamp) :
    s.cancelled percent now job = s.cancelled percent now job' := by
  rw [cancelled, cancelled, computeProgress_of_hide percent h, elapsed_of_hide h,
    currentKey_of_hide h]

theorem interruptedFor_of_hide (reason : String) (now : Timestamp) :
    s.interruptedFor percent reason now job = s.interruptedFor percent reason now job' := by
  rw [interruptedFor, interruptedFor, computeProgress_of_hide percent h, elapsed_of_hide h,
    currentKey_of_hide h]

theorem retried_of_hide (reset : List Stage) :
    retried percent reset job = retried percent reset job' := by
  rw [retried, retried, computeProgress_of_hide percent h]

theorem cancelling_of_hide : s.cancelling job = s.cancelling job' := by
  rw [cancelling, cancelling, currentKey_of_hide h]

theorem completed_of_hide (ctx : JobRunContext) (now : Timestamp) :
    s.completed ctx now job = s.completed ctx now job' := by
  have hartifacts : job.stepArtifacts .finalValidation = job'.stepArtifacts .finalValidation :=
    eq_of_hide (·.stepArtifacts .finalValidation) (fun job => job.hide_stepArtifacts _) h
  rw [completed, completed, hartifacts, elapsed_of_hide h]

/-- The event of a failure has the message, not the technical detail. -/
theorem failed_of_hide (k : Stage) {f f' : InfraOperationError} (hf : f.hide = f'.hide)
    (screenshot : Option String) (now : Timestamp) :
    s.failed percent k f screenshot now job = s.failed percent k f' screenshot now job' := by
  have hfailed :
      (failJob k f screenshot now job).hide = (failJob k f' screenshot now job').hide := by
    rw [← failJob_hide, hf, h, failJob_hide]
  have hmessage : f.humanMessage = f'.humanMessage := by
    show f.hide.humanMessage = f'.hide.humanMessage
    rw [hf]
  rw [failed, failed, computeProgress_of_hide percent hfailed, elapsed_of_hide h, hmessage]

end Notices

theorem failedBefore_of_hide (h : s.hide = s'.hide) (error : StartError) (now : Timestamp) :
    s.failedBefore error now = s'.failedBefore error now := by
  obtain ⟨job, hjob, rfl⟩ := exists_job h
  rw [failedBefore, failedBefore, elapsed_of_hide hjob]

theorem nextNotice_of_hide (h : s.hide = s'.hide) {t t' : RunState} (ht : t.hide = t'.hide)
    (now : Timestamp) : s.nextNotice percent now t = s'.nextNotice percent now t' := by
  obtain ⟨job, hjob, rfl⟩ := exists_job h
  obtain ⟨tjob, htjob, rfl⟩ := RunState.exists_job ht
  unfold nextNotice
  dsimp only
  split
  · exact congrArg some (completed_of_hide htjob _ now)
  · exact congrArg some (started_of_hide percent htjob _)
  · exact congrArg some (cancelled_of_hide percent htjob now)
  · rfl

theorem finishNotice_of_hide (h : s.hide = s'.hide) {answers answers' : StageAnswers}
    (ha : answers.Alike answers') (screenshot : Option String) (now : Timestamp)
    {t t' : RunState} (ht : t.hide = t'.hide) :
    s.finishNotice percent answers screenshot now t =
      s'.finishNotice percent answers' screenshot now t' := by
  obtain ⟨job, hjob, rfl⟩ := exists_job h
  obtain ⟨tjob, htjob, rfl⟩ := RunState.exists_job ht
  unfold finishNotice
  cases s.exec with
  | stage k rest ctx =>
    refine map_runHandler_ends ha hjob k ctx s.world (fun calls outcome => ?_)
      fun calls e e' he => ?_
    · exact finished_of_hide percent htjob k outcome
    · have hran := RunState.ranTo_of_hide hjob calls (.error e) (.error e')
      exact failed_of_hide percent (Deployment.hide_eq_iff.mp hran).1 k (failure_of_hide k he)
        screenshot now
  | _ => rfl

theorem timeOutNotice_of_hide (h : s.hide = s'.hide) {answers answers' : StageAnswers}
    (ha : answers.Alike answers') (cut : Cut) (seconds : Nat) (screenshot : Option String)
    (now : Timestamp) :
    s.timeOutNotice percent answers cut seconds screenshot now =
      s'.timeOutNotice percent answers' cut seconds screenshot now := by
  obtain ⟨job, hjob, rfl⟩ := exists_job h
  unfold timeOutNotice
  cases s.exec with
  | stage k rest ctx =>
    refine map_runHandler ha hjob k ctx s.world fun calls result result' _ => ?_
    have hcut := RunState.cutAt_of_hide hjob calls result result' cut
    exact failed_of_hide percent (Deployment.hide_eq_iff.mp hcut).1 k rfl screenshot now
  | _ => rfl

theorem retryNotice_of_hide (h : s.hide = s'.hide) {t t' : RunState} (ht : t.hide = t'.hide)
    (stageKey : Option String) (parses : Bool) (others othersAtCommit : List OtherJob)
    (now : Timestamp) :
    s.notice percent ⟨now, .retry stageKey parses others othersAtCommit⟩ t =
      s'.notice percent ⟨now, .retry stageKey parses others othersAtCommit⟩ t' := by
  obtain ⟨job, hjob, rfl⟩ := exists_job h
  obtain ⟨tjob, htjob, rfl⟩ := RunState.exists_job ht
  unfold notice
  dsimp only
  obtain ⟨e, hs, hs'⟩ | ⟨⟨job₁, keys₁⟩, ⟨job₂, keys₂⟩, hs, hs', hreset⟩ :=
    error_or_ok_of_map (RunState.retryStages_of_hide hjob stageKey parses others othersAtCommit now)
  · rw [hs, hs']
  · rw [hs, hs', show keys₁ = keys₂ from (Prod.mk.inj hreset).2]
    exact congrArg some (retried_of_hide percent htjob keys₂)

theorem notice_of_hide (h : s.hide = s'.hide) {e e' : Event} (he : e.Alike e') {t t' : RunState}
    (ht : t.hide = t'.hide) : s.notice percent e t = s'.notice percent e' t' := by
  obtain ⟨job, hjob, hs'⟩ := exists_job h
  obtain ⟨tjob, htjob, ht'⟩ := RunState.exists_job ht
  have hstatus : s.job.status = s'.job.status := by
    rw [hs']
    exact status_of_hide hjob
  have htjobs : t.job.hide = t'.job.hide := by
    rw [ht']
    exact htjob
  have hcancelled (now : Timestamp) :
      some (s.cancelled percent now t.job) = some (s'.cancelled percent now t'.job) := by
    rw [cancelled_of_hide percent htjobs, hs']
    rfl
  have hfailed (error : StartError) (now : Timestamp) :
      some (s.failedBefore error now) = some (s'.failedBefore error now) := by
    rw [failedBefore_of_hide h]
  have hinterrupted (reason : String) (now : Timestamp) :
      (if s.job.status = .running then some (s.interruptedFor percent reason now t.job) else none) =
        if s'.job.status = .running then some (s'.interruptedFor percent reason now t'.job)
          else none := by
    rw [hstatus, interruptedFor_of_hide percent htjobs, hs']
    rfl
  obtain ⟨now, action⟩ := e
  obtain ⟨now', action'⟩ := e'
  obtain ⟨hnow, haction⟩ := he
  cases hnow
  cases haction with
  | same =>
    cases action with
    | next removal => exact nextNotice_of_hide percent h ht now
    | finish answers removal screenshot =>
      exact finishNotice_of_hide percent h (.answers rfl) screenshot now ht
    | timeOut answers cut seconds removal screenshot =>
      exact timeOutNotice_of_hide percent h (.answers rfl) cut seconds screenshot now
    | stageCancelled answers cut removal => exact hcancelled now
    | startFails error =>
      show (if s.job.status = .running then some (s.failedBefore error now) else none) =
        if s'.job.status = .running then some (s'.failedBefore error now) else none
      rw [hstatus, failedBefore_of_hide h]
    | crash abort => exact hfailed pipelineCrashed now
    | interrupt reason abort => exact hinterrupted reason now
    | retry stageKey parses others othersAtCommit =>
      exact retryNotice_of_hide percent h ht stageKey parses others othersAtCommit now
    | cancel =>
      show some (s.cancelling t.job) = some (s'.cancelling t'.job)
      rw [cancelling_of_hide htjobs, hs']
      rfl
    | _ => rfl
  | next hr => exact nextNotice_of_hide percent h ht now
  | finish ha hr screenshot => exact finishNotice_of_hide percent h ha screenshot now ht
  | timeOut ha cut seconds hr screenshot =>
    exact timeOutNotice_of_hide percent h ha cut seconds screenshot now
  | stageCancelled ha cut hr => exact hcancelled now
  | crash ha => exact hfailed pipelineCrashed now
  | interrupt reason ha => exact hinterrupted reason now
  | cleanUp contextBuilt hr => rfl

/-! ## The machine -/

theorem written_of_hide (h : s.hide = s'.hide) (w : HandlerWrite) :
    (s.written w).map hide = (s'.written w).map hide := by
  obtain ⟨job, hjob, rfl⟩ := exists_job h
  have hset (f : Step → Step) (hf : ∀ step, (f step.hide).hide = (f step).hide) :
      (s.job.setStep .waitForGuestOs f).hide = (job.setStep .waitForGuestOs f).hide := by
    rw [← s.job.hide_setStep _ hf, hjob, job.hide_setStep _ hf]
  unfold written
  dsimp only
  split
  · rename_i text updatedAt rest ctx hexec
    have hreported := hset (reportedStep text updatedAt) fun _ => rfl
    let event : LiveEvent :=
      { stage := some Stage.waitForGuestOs.key
        status := "RUNNING"
        progress := s.progress
        message := text }
    exact congrArg (fun job =>
      some ({ s with job, published := s.published ++ [event] } : ShownJob)) hreported
  · have hremoved := hset withoutLiveStatus fun _ => rfl
    exact congrArg (fun job => some ({ s with job } : ShownJob)) hremoved
  · rename_i id name rest ctx hexec
    exact congrArg (fun job =>
      some ({ s with job, datacenterId := id, datacenterName := name } : ShownJob)) hjob
  · rfl

theorem step_of_hide (h : s.hide = s'.hide) {m m' : Moment} (hm : m.Alike m') :
    (s.step percent m).map hide = (s'.step percent m').map hide := by
  cases hm with
  | write w => exact written_of_hide h w
  | @event e e' he =>
    have hrun : s.toRunState.hide = s'.toRunState.hide := (ShownJob.mk.inj h).1
    unfold step
    dsimp only
    obtain ⟨hnone, hnone'⟩ | ⟨t, t', hstep, hstep', ht⟩ :=
      none_or_some_of_map (RunState.step_of_hide hrun he)
    · rw [hnone, hnone']
      rfl
    · rw [hstep, hstep', Option.map_some, Option.map_some, notice_of_hide percent h he ht]
      exact congrArg some (noticed_of_hide h ht _)

end ShownJob

/-- **No step of a job reads a technical detail**, and no live event shows one. -/
theorem shownRun_blind : (shownRun percent).Blind ShownJob.hide Moment.Alike :=
  fun _ _ _ _ hs hm => ShownJob.step_of_hide percent hs hm

end InfraOps
