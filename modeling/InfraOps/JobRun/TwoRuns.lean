import InfraOps.JobRun.HiddenDetail
import InfraOps.Support.TwoRuns

/-!
# Runs that differ in technical details

Two runs of a job in which the same happens, except that the errors that are raised may have
other technical details: they lead to the same state but for the hidden columns, and publish the
same events.
-/

namespace InfraOps

/-! ## Events that differ in technical details -/

/-- The answers are the same but for the technical details of errors; or whatever stage they
answer, the handler makes the same calls and ends in the same way, with errors that may differ
in theirs (other outputs of a failed script, for example, are other technical details). -/
inductive StageAnswers.Alike (a a' : StageAnswers) : Prop
  | answers (h : a.hide = a'.hide) : Alike a a'
  | runs (h : ∀ k ctx job w, (runHandler k ctx job w a).map HandlerRun.hide =
      (runHandler k ctx job w a').map HandlerRun.hide) : Alike a a'

theorem StageAnswers.Alike.run_hide {a a' : StageAnswers} (h : a.Alike a') (k : Stage)
    (ctx : JobRunContext) (job : ProvisioningJob) (w : World) :
    (runHandler k ctx job w a).map HandlerRun.hide =
      (runHandler k ctx job w a').map HandlerRun.hide := by
  cases h with
  | answers h => rw [← runHandler_hideAnswers, h, runHandler_hideAnswers]
  | runs h => exact h k ctx job w

structure Abort.Alike (a a' : Abort) : Prop where
  answers : a.answers.Alike a'.answers
  cut : a.cut = a'.cut
  removal : a.removal.map RemovalAnswers.hide = a'.removal.map RemovalAnswers.hide

inductive Action.Alike : Action → Action → Prop
  | same (a : Action) : Alike a a
  | next {removal removal' : RemovalAnswers} (h : removal.hide = removal'.hide) :
      Alike (.next removal) (.next removal')
  | finish {answers answers' : StageAnswers} {removal removal' : RemovalAnswers}
      (ha : answers.Alike answers') (hr : removal.hide = removal'.hide)
      (screenshot : Option String) :
      Alike (.finish answers removal screenshot) (.finish answers' removal' screenshot)
  | timeOut {answers answers' : StageAnswers} {removal removal' : RemovalAnswers}
      (ha : answers.Alike answers') (cut : Cut) (seconds : Nat)
      (hr : removal.hide = removal'.hide) (screenshot : Option String) :
      Alike (.timeOut answers cut seconds removal screenshot)
        (.timeOut answers' cut seconds removal' screenshot)
  | stageCancelled {answers answers' : StageAnswers} {removal removal' : RemovalAnswers}
      (ha : answers.Alike answers') (cut : Cut) (hr : removal.hide = removal'.hide) :
      Alike (.stageCancelled answers cut removal) (.stageCancelled answers' cut removal')
  | crash {abort abort' : Abort} (h : abort.Alike abort') : Alike (.crash abort) (.crash abort')
  | interrupt (reason : String) {abort abort' : Abort} (h : abort.Alike abort') :
      Alike (.interrupt reason abort) (.interrupt reason abort')
  | cleanUp (contextBuilt : Bool) {removal removal' : RemovalAnswers}
      (h : removal.hide = removal'.hide) :
      Alike (.cleanUp contextBuilt removal) (.cleanUp contextBuilt removal')

structure Event.Alike (e e' : Event) : Prop where
  now : e.now = e'.now
  action : e.action.Alike e'.action

theorem InfraOperationError.hide_hide (e : InfraOperationError) : e.hide.hide = e.hide := rfl

theorem failure_of_hide (k : Stage) {raised raised' : Raised} (h : raised.hide = raised'.hide) :
    (raised.failure k).hide = (raised'.failure k).hide := by
  have hshown : ∀ raised : Raised, (raised.hide.failure k).hide = (raised.failure k).hide := by
    intro raised
    cases raised with
    | infra error => rfl
    | other traceback => simp only [Raised.hide, Raised.failure, unexpectedFailure,
        InfraOperationError.hide]
  rw [← hshown, h, hshown]

/-! ## Handlers -/

theorem runHandler_hideJob (k : Stage) (ctx : JobRunContext) (job : ProvisioningJob) (w : World)
    (answers : StageAnswers) :
    runHandler k ctx job.hide w answers = runHandler k ctx job w answers := by
  have hid : job.hide.id = job.id := rfl
  have hcreate (a : CreateVmAnswers) : stageCreateVm ctx job.hide a = stageCreateVm ctx job a := by
    cases a <;> simp only [stageCreateVm, hid]
  have hprepare (a : PrepareAnswers) : stagePrepareUnattendedInstall ctx job.hide w a =
      stagePrepareUnattendedInstall ctx job w a := by
    rw [stagePrepareUnattendedInstall, stagePrepareUnattendedInstall, requireVmId_hide,
      job.hide_attempt, hid]
  have hcleanup (a : CleanupAnswers) : stageCleanupUnattendedMedia ctx job.hide a =
      stageCleanupUnattendedMedia ctx job a := by
    rw [stageCleanupUnattendedMedia, stageCleanupUnattendedMedia, requireVmId_hide,
      job.hide_stepArtifacts]
  have hreboot (a : RebootAnswers) :
      stageRebootGuest ctx job.hide a = stageRebootGuest ctx job a := by
    rw [stageRebootGuest, stageRebootGuest, joinedRequiresReboot, joinedRequiresReboot,
      job.hide_stepArtifacts]
  unfold runHandler
  simp only [hcreate, hprepare, hcleanup, hreboot]

/-- What is made of the runs of alike answers is the same, in states that are the same but for
what is hidden. -/
theorem map_runHandler {answers answers' : StageAnswers} (ha : answers.Alike answers')
    {job job' : ProvisioningJob} (hjob : job.hide = job'.hide) (k : Stage) (ctx : JobRunContext)
    (w : World) {β : Type} {f g : HandlerRun → β}
    (hfg : ∀ calls result result', Except.mapError Raised.hide result =
      Except.mapError Raised.hide result' → f ⟨calls, result⟩ = g ⟨calls, result'⟩) :
    (runHandler k ctx job w answers).map f = (runHandler k ctx job' w answers').map g := by
  have hruns := ha.run_hide k ctx job w
  have hsame : runHandler k ctx job' w answers' = runHandler k ctx job w answers' := by
    rw [← runHandler_hideJob, ← hjob, runHandler_hideJob]
  rw [hsame]
  obtain ⟨hnone, hnone'⟩ | ⟨⟨calls, result⟩, ⟨calls', result'⟩, hrun, hrun', hhide⟩ :=
    none_or_some_of_map hruns
  · rw [hnone, hnone']
    rfl
  · rw [hrun, hrun']
    obtain ⟨hcalls, hresult⟩ := HandlerRun.mk.inj hhide
    cases hcalls
    exact congrArg some (hfg calls result result' hresult)

/-- A case for each way in which a run ends. -/
theorem map_runHandler_ends {answers answers' : StageAnswers} (ha : answers.Alike answers')
    {job job' : ProvisioningJob} (hjob : job.hide = job'.hide) (k : Stage) (ctx : JobRunContext)
    (w : World) {β : Type} {f g : HandlerRun → β}
    (returned : ∀ calls outcome, f ⟨calls, .ok outcome⟩ = g ⟨calls, .ok outcome⟩)
    (raised : ∀ calls (e e' : Raised), e.hide = e'.hide →
      f ⟨calls, .error e⟩ = g ⟨calls, .error e'⟩) :
    (runHandler k ctx job w answers).map f = (runHandler k ctx job' w answers').map g := by
  refine map_runHandler ha hjob k ctx w fun calls result result' hresult => ?_
  cases result with
  | ok outcome =>
    cases result' with
    | ok outcome' =>
      cases hresult
      exact returned calls outcome
    | error e' => cases hresult
  | error e =>
    cases result' with
    | ok outcome' => cases hresult
    | error e' => exact raised calls e e' (Except.error.inj hresult)

/-! ## Steps -/

theorem handleFailure_of_hide (ctx : JobRunContext) (k : Stage) {f f' : InfraOperationError}
    (hf : f.hide = f'.hide) (screenshot : Option String) {removal removal' : RemovalAnswers}
    (hr : removal.hide = removal'.hide) (now : Timestamp) {d d' : Deployment}
    (h : d.hide = d'.hide) :
    (handleFailure ctx k f screenshot removal now d).hide =
      (handleFailure ctx k f' screenshot removal' now d').hide := by
  rw [← handleFailure_hide, hf, hr, h, handleFailure_hide]

theorem assigned_of_hide (as : List Assignment) {job job' : ProvisioningJob}
    (h : job.hide = job'.hide) :
    (applyAssignments job as).hide = (applyAssignments job' as).hide := by
  rw [← applyAssignments_hide, h, applyAssignments_hide]

namespace RunState

variable {s s' : RunState}

/-- Two states that are the same but for what is hidden differ in their jobs only. -/
theorem exists_job (h : s.hide = s'.hide) : ∃ job, s.job.hide = job.hide ∧ s' = { s with job } := by
  obtain ⟨⟨job, w, records⟩, request, exec, inFlight, answerIso, cleanedUp⟩ := s
  obtain ⟨⟨job', w', records'⟩, request', exec', inFlight', answerIso', cleanedUp'⟩ := s'
  obtain ⟨hd, rfl, rfl, rfl, rfl, rfl⟩ := RunState.mk.inj h
  obtain ⟨hjob, rfl, rfl⟩ := Deployment.mk.inj hd
  exact ⟨job', hjob, rfl⟩

/-- The same is committed but for what is hidden, and the same executes the job. -/
theorem committed_of_hide {d d' : Deployment} (hd : d.hide = d'.hide) (exec : Exec) :
    { s with toDeployment := d, exec }.hide = { s with toDeployment := d', exec }.hide :=
  congrArg (fun d => { s with toDeployment := d, exec }) hd

theorem deployed_of_hide {job : ProvisioningJob} (hjob : s.job.hide = job.hide) :
    s.toDeployment.hide = ({ s.toDeployment with job } : Deployment).hide :=
  congrArg (fun job => ({ s.toDeployment with job } : Deployment)) hjob

theorem claim_of_hide (h : s.hide = s'.hide) (worker : WorkerId) (now : Timestamp) :
    (s.claim worker now).map hide = (s'.claim worker now).map hide := by
  obtain ⟨job, hjob, rfl⟩ := exists_job h
  have hdue : JobRepository.due s.job now = JobRepository.due job now :=
    eq_of_hide (JobRepository.due · now) (fun _ => rfl) hjob
  have hclaimed : (JobRepository.claim s.job worker now).hide =
      (JobRepository.claim job worker now).hide :=
    congrArg (JobRepository.claim · worker now) hjob
  unfold claim
  rw [hdue]
  cases s.exec with
  | idle =>
    dsimp only
    split
    · exact congrArg (fun job => some { s with job, exec := .claimed }) hclaimed
    · rfl
  | _ => rfl

theorem start_of_hide (h : s.hide = s'.hide) : s.start.map hide = s'.start.map hide := by
  obtain ⟨job, hjob, rfl⟩ := exists_job h
  have hrun : (startRun s.request s.toDeployment).hide =
      (startRun s.request { s.toDeployment with job }).hide := by
    rw [← startRun_hide, deployed_of_hide hjob, startRun_hide]
  unfold start
  rw [status_of_hide hjob]
  cases s.exec with
  | claimed =>
    dsimp only
    split
    · exact congrArg some (committed_of_hide hrun _)
    · exact congrArg some (committed_of_hide (deployed_of_hide hjob) .idle)
  | _ => rfl

theorem startFails_of_hide (h : s.hide = s'.hide) (error : StartError) (now : Timestamp) :
    (s.startFails error now).map hide = (s'.startFails error now).map hide := by
  obtain ⟨job, hjob, rfl⟩ := exists_job h
  have hrows : (JobRepository.ensureSteps s.job).hide = (JobRepository.ensureSteps job).hide := by
    rw [← ensureSteps_hide, hjob, ensureSteps_hide]
  have hcreated :
      ({ s.toDeployment with job := JobRepository.ensureSteps s.job } : Deployment).hide =
      ({ s.toDeployment with job := JobRepository.ensureSteps job } : Deployment).hide :=
    congrArg (fun job => ({ s.toDeployment with job } : Deployment)) hrows
  have hfailed := failBeforePipeline_of_hide error now hcreated
  unfold startFails
  rw [status_of_hide hjob]
  cases s.exec with
  | claimed =>
    dsimp only
    split
    · exact congrArg some (committed_of_hide hfailed .idle)
    · exact congrArg some (committed_of_hide (deployed_of_hide hjob) .idle)
  | _ => rfl

theorem heartbeat_of_hide (h : s.hide = s'.hide) (now : Timestamp) :
    (s.heartbeat now).map hide = (s'.heartbeat now).map hide := by
  obtain ⟨job, hjob, rfl⟩ := exists_job h
  have hbeat : ({ s.job with heartbeatAt := some now } : ProvisioningJob).hide =
      { job with heartbeatAt := some now }.hide :=
    congrArg (fun job : ProvisioningJob => { job with heartbeatAt := some now }) hjob
  have hcancel : s.job.cancelRequested = job.cancelRequested :=
    eq_of_hide ProvisioningJob.cancelRequested (fun _ => rfl) hjob
  let beat (ctx : JobRunContext) (requested : Bool) : JobRunContext :=
    { ctx with cancelEvent := ctx.cancelEvent || requested }
  by_cases hrunning : job.status = .running
  · rw [heartbeat, heartbeat, if_pos ((status_of_hide hjob).trans hrunning), if_pos hrunning]
    cases s.exec with
    | loop rest ctx =>
      exact congrArg₂
        (fun job requested => some { s with job, exec := .loop rest (beat ctx requested) })
        hbeat hcancel
    | stage k rest ctx =>
      exact congrArg₂
        (fun job requested => some { s with job, exec := .stage k rest (beat ctx requested) })
        hbeat hcancel
    | _ => rfl
  · rw [heartbeat, heartbeat, if_neg fun h => hrunning ((status_of_hide hjob).symm.trans h),
      if_neg hrunning]

theorem next_of_hide (h : s.hide = s'.hide) {removal removal' : RemovalAnswers}
    (hr : removal.hide = removal'.hide) (now : Timestamp) :
    (s.next removal now).map hide = (s'.next removal' now).map hide := by
  obtain ⟨job, hjob, rfl⟩ := exists_job h
  have hcancel : s.job.cancelRequested = job.cancelRequested :=
    eq_of_hide ProvisioningJob.cancelRequested (fun _ => rfl) hjob
  unfold next
  cases s.exec with
  | loop rest ctx =>
    cases rest with
    | nil =>
      exact congrArg some (committed_of_hide
        (finalizeSuccess_of_hide ctx now (deployed_of_hide hjob)) .idle)
    | cons k rest =>
      have hrow : (s.job.steps k).map Step.hide = (job.steps k).map Step.hide := by
        rw [← ProvisioningJob.hide_steps, hjob, ProvisioningJob.hide_steps]
      have hskipped := congrArg some (committed_of_hide (s := s) (deployed_of_hide hjob)
        (.loop rest ctx))
      dsimp only
      obtain ⟨hnone, hnone'⟩ | ⟨step, step', hstep, hstep', hhide⟩ := none_or_some_of_map hrow
      · rw [hnone, hnone']
        exact hskipped
      · have hstatus : step.status = step'.status := by
          show step.hide.status = step'.hide.status
          rw [hhide]
        rw [hstep, hstep', hcancel]
        dsimp only
        rw [hstatus]
        split
        · exact hskipped
        · split
          · exact congrArg some (committed_of_hide
              (applyCancellation_of_hide hr (deployed_of_hide hjob) ctx now) .idle)
          · have hstarted : (startStage k now s.job).hide = (startStage k now job).hide := by
              rw [← startStage_hide, hjob, startStage_hide]
            exact congrArg (fun job => some { s with job, exec := .stage k rest ctx }) hstarted
  | _ => rfl

/-- `_run_stage` commits the same, and the loop goes on or ends alike. -/
theorem endStage_of_hide (k : Stage) (rest : List Stage) (ctx : JobRunContext)
    {d d' : Deployment} (hd : d.hide = d'.hide) (job : ProvisioningJob) :
    (s.endStage k rest ctx d).hide = ({ s with job }.endStage k rest ctx d').hide := by
  have hafter : afterStage k rest ctx d = afterStage k rest ctx d' := by
    rw [afterStage, afterStage, stepStatus_of_hide (Deployment.hide_eq_iff.mp hd).1]
  unfold endStage
  rw [hafter]
  exact committed_of_hide hd _

theorem ranTo_of_hide {job : ProvisioningJob} (hjob : s.job.hide = job.hide) (calls : List Call)
    (result result' : Except Raised StageOutcome) :
    (s.ranTo ⟨calls, result⟩).hide = ({ s with job }.ranTo ⟨calls, result'⟩).hide :=
  congrArg (Deployment.mk · _ _) (assigned_of_hide _ hjob)

theorem cutAt_of_hide {job : ProvisioningJob} (hjob : s.job.hide = job.hide) (calls : List Call)
    (result result' : Except Raised StageOutcome) (cut : Cut) :
    (s.cutAt ⟨calls, result⟩ cut).hide = ({ s with job }.cutAt ⟨calls, result'⟩ cut).hide :=
  congrArg (Deployment.mk · _ _) (assigned_of_hide _ hjob)

theorem finish_of_hide (h : s.hide = s'.hide) {answers answers' : StageAnswers}
    (ha : answers.Alike answers') {removal removal' : RemovalAnswers}
    (hr : removal.hide = removal'.hide) (screenshot : Option String) (now : Timestamp) :
    (s.finish answers removal screenshot now).map hide =
      (s'.finish answers' removal' screenshot now).map hide := by
  obtain ⟨job, hjob, rfl⟩ := exists_job h
  unfold finish
  cases s.exec with
  | stage k rest ctx =>
    dsimp only
    rw [Option.map_map, Option.map_map]
    refine map_runHandler_ends ha hjob k ctx s.world (fun calls outcome => ?_)
      fun calls e e' he => ?_
    · have hran := ranTo_of_hide hjob calls (.ok outcome) (.ok outcome)
      obtain ⟨hranJob, hworld, hrecords⟩ := Deployment.hide_eq_iff.mp hran
      have hfinished : (finishStage k outcome now (s.ranTo ⟨calls, .ok outcome⟩).job).hide =
          (finishStage k outcome now ({ s with job }.ranTo ⟨calls, .ok outcome⟩).job).hide := by
        rw [← finishStage_hide, hranJob, finishStage_hide]
      have hreturned : (s.returnedWith k ⟨calls, .ok outcome⟩ outcome now).hide =
          ({ s with job }.returnedWith k ⟨calls, .ok outcome⟩ outcome now).hide :=
        Deployment.hide_eq_iff.mpr ⟨hfinished, hworld, hrecords⟩
      have hiso : s.attachedIso k outcome = { s with job }.attachedIso k outcome := by
        rw [attachedIso, attachedIso, attempt_of_hide hjob k]
      let ctx' := assignContext ctx (HandlerRun.assignments ⟨calls, .ok outcome⟩)
      have hended := endStage_of_hide (s := s) k rest ctx' hreturned job
      exact congrArg₂ (fun s answerIso => { s with answerIso }) hended hiso
    · let ctx' := assignContext ctx (HandlerRun.assignments ⟨calls, .error e⟩)
      have hran := ranTo_of_hide hjob calls (.error e) (.error e')
      have hhandled := handleFailure_of_hide ctx' k (failure_of_hide k he) screenshot hr now hran
      exact endStage_of_hide (s := s) k rest ctx' hhandled job
  | _ => rfl

theorem timeOut_of_hide (h : s.hide = s'.hide) {answers answers' : StageAnswers}
    (ha : answers.Alike answers') (cut : Cut) (seconds : Nat) {removal removal' : RemovalAnswers}
    (hr : removal.hide = removal'.hide) (screenshot : Option String) (now : Timestamp) :
    (s.timeOut answers cut seconds removal screenshot now).map hide =
      (s'.timeOut answers' cut seconds removal' screenshot now).map hide := by
  obtain ⟨job, hjob, rfl⟩ := exists_job h
  unfold timeOut
  cases s.exec with
  | stage k rest ctx =>
    dsimp only
    rw [Option.map_map, Option.map_map]
    refine map_runHandler ha hjob k ctx s.world fun calls result result' _ => ?_
    let ctx' := assignContext ctx (HandlerRun.assignmentsBefore ⟨calls, result⟩ cut)
    have hcut := cutAt_of_hide hjob calls result result' cut
    have hhandled := handleFailure_of_hide ctx' k (f := timeoutFailure k seconds) rfl screenshot hr
      now hcut
    have hended := endStage_of_hide (s := s) k rest ctx' hhandled job
    exact congrArg (fun s' => { s' with inFlight := s.inFlight ++
      [HandlerRun.effectsAfter ⟨calls, result⟩ cut] }) hended
  | _ => rfl

theorem stageCancelled_of_hide (h : s.hide = s'.hide) {answers answers' : StageAnswers}
    (ha : answers.Alike answers') (cut : Cut) {removal removal' : RemovalAnswers}
    (hr : removal.hide = removal'.hide) (now : Timestamp) :
    (s.stageCancelled answers cut removal now).map hide =
      (s'.stageCancelled answers' cut removal' now).map hide := by
  obtain ⟨job, hjob, rfl⟩ := exists_job h
  unfold stageCancelled
  cases s.exec with
  | stage k rest ctx =>
    dsimp only
    split
    · rw [Option.map_map, Option.map_map]
      refine map_runHandler ha hjob k ctx s.world fun calls result result' _ => ?_
      let ctx' := assignContext ctx (HandlerRun.assignmentsBefore ⟨calls, result⟩ cut)
      have hcut := cutAt_of_hide hjob calls result result' cut
      have hcancelled := cancelStage_of_hide hr hcut ctx' k now
      have hended := endStage_of_hide (s := s) k rest ctx' hcancelled job
      exact congrArg (fun s' => { s' with inFlight := s.inFlight ++
        [HandlerRun.effectsAfter ⟨calls, result⟩ cut] }) hended
    · rfl
  | _ => rfl

/-! ## Ends from outside -/

theorem releasing_of_hide {d d' : Deployment} (hd : d.hide = d'.hide) (ctx : JobRunContext)
    {removal removal' : Option RemovalAnswers}
    (hr : removal.map RemovalAnswers.hide = removal'.map RemovalAnswers.hide) :
    releasing d ctx removal = releasing d' ctx removal' := by
  obtain ⟨rfl, rfl⟩ | ⟨a, a', rfl, rfl, ha⟩ := none_or_some_of_map hr
  · exact (Deployment.hide_eq_iff.mp hd).2.1
  · have hreleased := releaseUnattendedMedia_of_hide ha hd ctx ""
    exact (Deployment.hide_eq_iff.mp hreleased).2.1

theorem aborted_of_hide (h : s.hide = s'.hide) {abort abort' : Abort} (ha : abort.Alike abort') :
    (s.aborted abort).map hide = (s'.aborted abort').map hide := by
  obtain ⟨job, hjob, rfl⟩ := exists_job h
  obtain ⟨answers, cut, removal⟩ := abort
  obtain ⟨answers', cut', removal'⟩ := abort'
  obtain ⟨hanswers, hcut, hremoval⟩ := ha
  cases hcut
  unfold aborted
  cases hexec : s.exec with
  | claimed =>
    have hclaimed : s.hide = { s with job, exec := .claimed }.hide := by
      rw [← hexec]
      exact h
    exact congrArg some hclaimed
  | loop rest ctx =>
    have hworld := releasing_of_hide (deployed_of_hide hjob) ctx hremoval
    exact congrArg₂ (fun job world => some { s with job, world, exec := .loop rest ctx })
      hjob hworld
  | stage k rest ctx =>
    dsimp only
    rw [Option.map_map, Option.map_map]
    refine map_runHandler hanswers hjob k ctx s.world fun calls result result' _ => ?_
    have hworld := releasing_of_hide (cutAt_of_hide hjob calls result result' cut) ctx hremoval
    exact congrArg₂ (fun job world => { s with
      job, world, exec := .stage k rest ctx
      inFlight := s.inFlight ++ [HandlerRun.effectsAfter ⟨calls, result⟩ cut] }) hjob hworld
  | _ => rfl

/-- What is made of what an abort leaves. -/
theorem map_aborted (h : s.hide = s'.hide) {abort abort' : Abort} (ha : abort.Alike abort')
    {f g : RunState → RunState} (hfg : ∀ t t', t.hide = t'.hide → (f t).hide = (g t').hide) :
    ((s.aborted abort).map f).map hide = ((s'.aborted abort').map g).map hide := by
  obtain ⟨hnone, hnone'⟩ | ⟨t, t', hleft, hleft', ht⟩ := none_or_some_of_map (aborted_of_hide h ha)
  · rw [hnone, hnone']
    rfl
  · rw [hleft, hleft']
    exact congrArg some (hfg t t' ht)

theorem crash_of_hide (h : s.hide = s'.hide) {abort abort' : Abort} (ha : abort.Alike abort')
    (now : Timestamp) : (s.crash abort now).map hide = (s'.crash abort' now).map hide := by
  let failed (t : RunState) : RunState := { t with
    toDeployment := failBeforePipeline pipelineCrashed now t.toDeployment
    exec := .idle }
  have hfailed : ∀ t t', t.hide = t'.hide → (failed t).hide = (failed t').hide := by
    intro t t' ht
    obtain ⟨job, hjob, rfl⟩ := exists_job ht
    have hfailed := failBeforePipeline_of_hide pipelineCrashed now (deployed_of_hide hjob)
    exact committed_of_hide hfailed _
  have hcrashed := map_aborted h ha hfailed
  have hexec : s'.exec = s.exec := by
    obtain ⟨job, _, rfl⟩ := exists_job h
    rfl
  unfold crash
  rw [hexec]
  cases s.exec with
  | loop rest ctx => exact hcrashed
  | stage k rest ctx => exact hcrashed
  | _ => rfl

theorem interrupted_of_hide (h : s.hide = s'.hide) (reason : String) {abort abort' : Abort}
    (ha : abort.Alike abort') (now : Timestamp) :
    (s.interrupted reason abort now).map hide = (s'.interrupted reason abort' now).map hide := by
  refine map_aborted h ha fun t t' ht => ?_
  obtain ⟨job, hjob, rfl⟩ := exists_job ht
  dsimp only
  rw [status_of_hide hjob]
  split
  · have hparked := interrupt_of_hide reason now (deployed_of_hide hjob)
    exact congrArg (fun d => { t with toDeployment := d, exec := .releasing, cleanedUp := false })
      hparked
  · exact committed_of_hide (deployed_of_hide hjob) .idle

theorem cleanUp_of_hide (h : s.hide = s'.hide) (contextBuilt : Bool)
    {removal removal' : RemovalAnswers} (hr : removal.hide = removal'.hide) :
    (s.cleanUp contextBuilt removal).map hide = (s'.cleanUp contextBuilt removal').map hide := by
  obtain ⟨job, hjob, rfl⟩ := exists_job h
  have hcleaned := InfraOps.cleanUp_of_hide hr (deployed_of_hide hjob) s.request contextBuilt
  unfold cleanUp
  cases s.exec with
  | releasing =>
    exact congrArg (fun d => some { s with
      toDeployment := d, exec := .idle, cleanedUp := contextBuilt }) hcleaned
  | _ => rfl

theorem land_of_hide (h : s.hide = s'.hide) (thread : Nat) :
    (s.land thread).map hide = (s'.land thread).map hide := by
  obtain ⟨job, hjob, rfl⟩ := exists_job h
  unfold land
  dsimp only
  split
  · rename_i e es _
    exact congrArg (fun job => some { s with
      job, world := s.world.apply e, inFlight := s.inFlight.set thread es }) hjob
  · rfl

/-! ## Requests -/

theorem cancel_of_hide (h : s.hide = s'.hide) (now : Timestamp) :
    (s.cancel now).map hide = (s'.cancel now).map hide := by
  obtain ⟨job, hjob, rfl⟩ := exists_job h
  have hcancel : (cancelJob s.job now).map ProvisioningJob.hide =
      (cancelJob job now).map ProvisioningJob.hide := by
    rw [← cancelJob_hide, hjob, cancelJob_hide]
  unfold cancel
  dsimp only
  obtain ⟨e, hs, hs'⟩ | ⟨job₁, job₂, hs, hs', hcancelled⟩ := error_or_ok_of_map hcancel
  · rw [hs, hs']
  · rw [hs, hs']
    exact congrArg (fun job => some { s with job }) hcancelled

theorem retryStages_of_hide {job job' : ProvisioningJob} (h : job.hide = job'.hide)
    (stageKey : Option String) (parses : Bool) (others othersAtCommit : List OtherJob)
    (now : Timestamp) :
    (retryStages job stageKey parses others othersAtCommit now).map
        (Prod.map ProvisioningJob.hide id) =
      (retryStages job' stageKey parses others othersAtCommit now).map
        (Prod.map ProvisioningJob.hide id) := by
  rw [← retryStages_hide, h, retryStages_hide]

theorem retry_of_hide (h : s.hide = s'.hide) (stageKey : Option String) (parses : Bool)
    (others othersAtCommit : List OtherJob) (now : Timestamp) :
    (s.retry stageKey parses others othersAtCommit now).map hide =
      (s'.retry stageKey parses others othersAtCommit now).map hide := by
  obtain ⟨job, hjob, rfl⟩ := exists_job h
  unfold retry
  dsimp only
  obtain ⟨e, hs, hs'⟩ | ⟨⟨job₁, keys₁⟩, ⟨job₂, keys₂⟩, hs, hs', hreset⟩ :=
    error_or_ok_of_map (retryStages_of_hide hjob stageKey parses others othersAtCommit now)
  · rw [hs, hs']
  · rw [hs, hs']
    exact congrArg (fun job => some { s with job }) (Prod.mk.inj hreset).1

/-! ## The machine -/

theorem step_of_hide (h : s.hide = s'.hide) {e e' : Event} (he : e.Alike e') :
    (s.step e).map hide = (s'.step e').map hide := by
  obtain ⟨now, action⟩ := e
  obtain ⟨now', action'⟩ := e'
  obtain ⟨hnow, haction⟩ := he
  cases hnow
  cases haction with
  | same =>
    cases action with
    | claim worker => exact claim_of_hide h worker now
    | start => exact start_of_hide h
    | startFails error => exact startFails_of_hide h error now
    | heartbeat => exact heartbeat_of_hide h now
    | next removal => exact next_of_hide h rfl now
    | finish answers removal screenshot => exact finish_of_hide h (.answers rfl) rfl screenshot now
    | timeOut answers cut seconds removal screenshot =>
      exact timeOut_of_hide h (.answers rfl) cut seconds rfl screenshot now
    | stageCancelled answers cut removal =>
      exact stageCancelled_of_hide h (.answers rfl) cut rfl now
    | crash abort => exact crash_of_hide h ⟨.answers rfl, rfl, rfl⟩ now
    | interrupt reason abort => exact interrupted_of_hide h reason ⟨.answers rfl, rfl, rfl⟩ now
    | cleanUp contextBuilt removal => exact cleanUp_of_hide h contextBuilt rfl
    | land thread => exact land_of_hide h thread
    | cancel => exact cancel_of_hide h now
    | retry stageKey parses others othersAtCommit =>
      exact retry_of_hide h stageKey parses others othersAtCommit now
  | next hr => exact next_of_hide h hr now
  | finish ha hr screenshot => exact finish_of_hide h ha hr screenshot now
  | timeOut ha cut seconds hr screenshot => exact timeOut_of_hide h ha cut seconds hr screenshot now
  | stageCancelled ha cut hr => exact stageCancelled_of_hide h ha cut hr now
  | crash ha => exact crash_of_hide h ha now
  | interrupt reason ha => exact interrupted_of_hide h reason ha now
  | cleanUp contextBuilt hr => exact cleanUp_of_hide h contextBuilt hr

end RunState

end InfraOps
