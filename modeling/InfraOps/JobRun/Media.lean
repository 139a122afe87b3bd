import InfraOps.JobRun.Transition
import InfraOps.Workers.HandlerSpecs

/-!
# The media bookkeeping of a job

What the columns say about the answer media, over every step: only a successful preparation
makes `may_hold_unattended_media` true, and it stays true only while the preparation step
is `SUCCEEDED`. `KeepsMedia` is the relation that every other write to the row satisfies;
it composes, so each operation is looked at once.
-/

namespace InfraOps

open JobRepository RunState

/-- The VM identifier has been recorded. -/
def VmRecorded (job : ProvisioningJob) : Prop :=
  ∃ id, (job.stepArtifacts .createVm).str? .vmId = some id ∧ id ≠ ""

theorem VmRecorded.requireVmId {job : ProvisioningJob} (h : VmRecorded job)
    (ctx : JobRunContext) : ∃ vmId, InfraOps.requireVmId ctx job = .ok vmId := by
  obtain ⟨id, hid, hne⟩ := h
  exact requireVmId_of_stored hid hne

/-- A creation that ends with an identifier records it. -/
theorem vmRecorded_of_finish {job : ProvisioningJob} {outcome : StageOutcome}
    (hrow : (job.steps .createVm).isSome) (now : Timestamp)
    (h : ∃ id, outcome.artifacts.str? .vmId = some id ∧ id ≠ "") :
    VmRecorded (finishStage .createVm outcome now job) := by
  obtain ⟨id, hid, hne⟩ := h
  refine ⟨id, ?_, hne⟩
  rw [finishStage_stepArtifacts_self outcome now hrow]
  unfold Artifacts.str? at hid ⊢
  rw [Artifacts.lookup_update]
  split at hid
  · rename_i s hs
    cases hid
    simp [hs]
  · cases hid

theorem mayHold_iff {job : ProvisioningJob} : mayHoldUnattendedMedia job = true ↔
    (job.stepArtifacts .prepareUnattendedInstall).has .datastorePath = true ∧
      (job.stepArtifacts .prepareUnattendedInstall).has .mediaRemoved = false ∧
      job.stepStatus .cleanupUnattendedMedia ≠ some .succeeded := by
  simp [mayHoldUnattendedMedia, and_assoc]

/-- A write that does not make the job hold media, and does not move the media it holds. -/
structure KeepsMedia (job job' : ProvisioningJob) : Prop where
  held : mayHoldUnattendedMedia job' = true → mayHoldUnattendedMedia job = true
  succeeded : mayHoldUnattendedMedia job' = true →
    job.stepStatus .prepareUnattendedInstall = some .succeeded →
      job'.stepStatus .prepareUnattendedInstall = some .succeeded
  path : mayHoldUnattendedMedia job' = true → recordedPath job' = recordedPath job
  vm : VmRecorded job → VmRecorded job'

namespace KeepsMedia

theorem refl (job : ProvisioningJob) : KeepsMedia job job :=
  ⟨id, fun _ => id, fun _ => rfl, id⟩

theorem trans {a b c : ProvisioningJob} (h₁ : KeepsMedia a b) (h₂ : KeepsMedia b c) :
    KeepsMedia a c where
  held h := h₁.held (h₂.held h)
  succeeded h hs := h₂.succeeded h (h₁.succeeded (h₂.held h) hs)
  path h := (h₂.path h).trans (h₁.path (h₂.held h))
  vm h := h₂.vm (h₁.vm h)

/-- A write that keeps the media keeps that there is none. -/
theorem not_mayHold {job job' : ProvisioningJob} (h : KeepsMedia job job')
    (hnot : mayHoldUnattendedMedia job = false) : mayHoldUnattendedMedia job' = false := by
  rw [← Bool.not_eq_true] at hnot ⊢
  exact fun hmay => hnot (h.held hmay)

/-- A write that leaves the artifacts of the two steps and every `SUCCEEDED` alone. -/
theorem of_same {job job' : ProvisioningJob}
    (hprepare : job'.stepArtifacts .prepareUnattendedInstall =
      job.stepArtifacts .prepareUnattendedInstall)
    (hcreate : job'.stepArtifacts .createVm = job.stepArtifacts .createVm)
    (hsucceeded : ∀ k, job.stepStatus k = some .succeeded → job'.stepStatus k = some .succeeded) :
    KeepsMedia job job' where
  held h := by
    rw [mayHold_iff, hprepare] at h
    exact mayHold_iff.mpr ⟨h.1, h.2.1, fun hc => h.2.2 (hsucceeded _ hc)⟩
  succeeded _ := hsucceeded _
  path _ := by rw [recordedPath, recordedPath, hprepare]
  vm := by
    rintro ⟨id, hid⟩
    exact ⟨id, by rw [hcreate]; exact hid⟩

/-- A write outside the step table. -/
theorem of_steps {job job' : ProvisioningJob} (h : job'.steps = job.steps) :
    KeepsMedia job job' := by
  refine of_same ?_ ?_ fun k hk => ?_
  · simp only [ProvisioningJob.stepArtifacts, h]
  · simp only [ProvisioningJob.stepArtifacts, h]
  · simpa only [ProvisioningJob.stepStatus, h] using hk

/-- A write of a new status to every row that fixes `SUCCEEDED`. -/
theorem of_map {job job' : ProvisioningJob} {g : StepStatus → StepStatus}
    (hart : ∀ k, job'.stepArtifacts k = job.stepArtifacts k)
    (hstatus : ∀ k, job'.stepStatus k = (job.stepStatus k).map g)
    (hg : g .succeeded = .succeeded) : KeepsMedia job job' :=
  of_same (hart _) (hart _) fun k hk => by rw [hstatus, hk, Option.map_some, hg]

/-- A write of a new status to one row that was not `SUCCEEDED`. -/
theorem of_set {job job' : ProvisioningJob} {k : Stage} {st : StepStatus}
    (hart : ∀ k', k'.console = false → job'.stepArtifacts k' = job.stepArtifacts k')
    (hstatus : ∀ k', job'.stepStatus k' =
      if k' = k then (job.stepStatus k).map fun _ => st else job.stepStatus k')
    (hk : job.stepDone k = false) : KeepsMedia job job' := by
  refine of_same (hart _ rfl) (hart _ rfl) fun k' hk' => ?_
  rw [hstatus]
  split
  · rename_i heq
    subst heq
    rw [ProvisioningJob.stepDone_eq, hk'] at hk
    cases hk
  · exact hk'

/-! ### The operations -/

theorem ensureSteps (job : ProvisioningJob) : KeepsMedia job (ensureSteps job) :=
  of_same (ensureSteps_stepArtifacts job _) (ensureSteps_stepArtifacts job _) fun k hk => by
    rw [ensureSteps_stepStatus, hk, Option.getD_some]

theorem startStage {k : Stage} {job : ProvisioningJob} (hk : job.stepDone k = false)
    (now : Timestamp) : KeepsMedia job (startStage k now job) :=
  of_set (fun k' _ => startStage_stepArtifacts k now job k') (startStage_stepStatus k now job) hk

theorem failJob {k : Stage} {job : ProvisioningJob} (hk : job.stepDone k = false)
    (f : InfraOperationError) (screenshot : Option String) (now : Timestamp) :
    KeepsMedia job (failJob k f screenshot now job) :=
  of_set (fun _ hk' => failJob_stepArtifacts hk' k f screenshot now job)
    (failJob_stepStatus k f screenshot now job) hk

theorem cancelledStep {k : Stage} {job : ProvisioningJob} (hk : job.stepDone k = false)
    (now : Timestamp) : KeepsMedia job (job.setStep k (cancelledStep now)) :=
  of_set (fun k' _ => ProvisioningJob.stepArtifacts_setStep (f := InfraOps.cancelledStep now)
    (fun _ => rfl) k') (cancelledStep_stepStatus k now job) hk

theorem assignment (job : ProvisioningJob) (a : Assignment) :
    KeepsMedia job (a.applyJob job) := by
  cases a with
  | mediaRemoved =>
    show KeepsMedia job (job.setStep .prepareUnattendedInstall markMediaRemoved)
    by_cases hrow : (job.steps .prepareUnattendedInstall).isSome
    · have hart := ProvisioningJob.stepArtifacts_setStep_self (f := markMediaRemoved)
        (g := fun artifacts => artifacts.insert .mediaRemoved (.bool true)) (fun _ => rfl) hrow
      have hnot : mayHoldUnattendedMedia
          (job.setStep .prepareUnattendedInstall markMediaRemoved) = false := by
        simp [mayHoldUnattendedMedia, hart, Json.truthy]
      refine ⟨fun h => ?_, fun h => ?_, fun h => ?_, ?_⟩
      · rw [hnot] at h; cases h
      · rw [hnot] at h; cases h
      · rw [hnot] at h; cases h
      · rintro ⟨id, hid⟩
        exact ⟨id, by rw [ProvisioningJob.stepArtifacts_setStep_ne _ (by decide)]; exact hid⟩
    · have hsame : (job.setStep .prepareUnattendedInstall markMediaRemoved).steps = job.steps := by
        funext k
        by_cases hk : k = .prepareUnattendedInstall
        · subst hk
          simp only [Option.not_isSome_iff_eq_none] at hrow
          simp [hrow]
        · exact ProvisioningJob.setStep_steps_ne _ _ hk
      exact of_steps hsame
  | _ => exact of_steps rfl

theorem assignments (job : ProvisioningJob) (as : List Assignment) :
    KeepsMedia job (applyAssignments job as) :=
  applyAssignments_induction (P := KeepsMedia job) (fun j a _ hj => hj.trans (assignment j a))
    (refl job)

theorem release (ctx : JobRunContext) (reason : String) (a : RemovalAnswers) (d : Deployment) :
    KeepsMedia d.job (releaseUnattendedMedia ctx reason a d).1.job := by
  rcases releaseUnattendedMedia_cases ctx reason a d with ⟨h, -⟩ | ⟨hmay, h, -⟩
  · rw [h]
    exact refl _
  · have hrow : (d.job.steps .prepareUnattendedInstall).isSome := by
      cases hs : d.job.steps .prepareUnattendedInstall with
      | some step => rfl
      | none => simp [mayHoldUnattendedMedia, ProvisioningJob.stepArtifacts, hs] at hmay
    have hart := ProvisioningJob.stepArtifacts_setStep_self
      (f := releasedStep (booted d.job) reason)
      (g := fun artifacts => (artifacts.insert .mediaRemoved (.bool true)).insert
        .mediaRemovedReason (.str reason)) (releasedStep_artifacts _ _) hrow
    have hnot : mayHoldUnattendedMedia (releaseUnattendedMedia ctx reason a d).1.job = false := by
      rw [h]
      simp [mayHoldUnattendedMedia, hart, Json.truthy]
    refine ⟨fun hm => ?_, fun hm => ?_, fun hm => ?_, ?_⟩
    · rw [hnot] at hm; cases hm
    · rw [hnot] at hm; cases hm
    · rw [hnot] at hm; cases hm
    · rintro ⟨id, hid⟩
      refine ⟨id, ?_⟩
      rw [release_stepArtifacts_ne ctx reason a d (by decide)]
      exact hid

theorem finishStage {k : Stage} {job : ProvisioningJob} (hk : job.stepDone k = false)
    (hne : k ≠ .prepareUnattendedInstall) (outcome : StageOutcome) (now : Timestamp)
    (hvm : k = .createVm → ∃ id, outcome.artifacts.str? .vmId = some id ∧ id ≠ "")
    (hrow : (job.steps k).isSome) : KeepsMedia job (finishStage k outcome now job) := by
  have hprepare : (InfraOps.finishStage k outcome now job).stepArtifacts
      .prepareUnattendedInstall = job.stepArtifacts .prepareUnattendedInstall :=
    finishStage_stepArtifacts_ne (Ne.symm hne) outcome now job
  have hsucceeded : ∀ k', job.stepStatus k' = some .succeeded →
      (InfraOps.finishStage k outcome now job).stepStatus k' = some .succeeded := by
    intro k' hk'
    rw [finishStage_stepStatus]
    split
    · rename_i heq
      subst heq
      rw [ProvisioningJob.stepDone_eq, hk'] at hk
      cases hk
    · exact hk'
  refine ⟨fun h => ?_, fun _ => hsucceeded _, fun _ => ?_, fun hrec => ?_⟩
  · rw [mayHold_iff, hprepare] at h
    exact mayHold_iff.mpr ⟨h.1, h.2.1, fun hc => h.2.2 (hsucceeded _ hc)⟩
  · rw [recordedPath, recordedPath, hprepare]
  · by_cases hcreate : k = .createVm
    · subst hcreate
      exact vmRecorded_of_finish hrow now (hvm rfl)
    · obtain ⟨id, hid⟩ := hrec
      refine ⟨id, ?_⟩
      rw [finishStage_stepArtifacts_ne (Ne.symm hcreate)]
      exact hid

theorem failBeforePipeline (e : StartError) (now : Timestamp) (d : Deployment) :
    KeepsMedia d.job (failBeforePipeline e now d).job :=
  of_map (failBeforePipeline_stepArtifacts e now d) (failBeforePipeline_stepStatus e now d) rfl

theorem interrupt (reason : String) (now : Timestamp) (d : Deployment) :
    KeepsMedia d.job (interrupt reason now d).job :=
  of_map (interrupt_stepArtifacts reason now d) (interrupt_stepStatus reason now d) rfl

theorem handleFailure {k : Stage} {d : Deployment} (hk : d.job.stepDone k = false)
    (ctx : JobRunContext) (f : InfraOperationError) (screenshot : Option String)
    (removal : RemovalAnswers) (now : Timestamp) :
    KeepsMedia d.job (handleFailure ctx k f screenshot removal now d).job := by
  obtain ⟨records, hjob, -⟩ := handleFailure_eq ctx k f screenshot removal now d
  rw [hjob]
  exact (failJob hk f screenshot now).trans
    (release ctx _ removal { d with job := InfraOps.failJob k f screenshot now d.job, records })

theorem applyCancellation (ctx : JobRunContext) (removal : RemovalAnswers) (now : Timestamp)
    (d : Deployment) : KeepsMedia d.job (applyCancellation ctx removal now d).job :=
  (release ctx "job cancelled" removal d).trans
    (of_map (applyCancellation_stepArtifacts ctx removal now d)
      (applyCancellation_stepStatus ctx removal now d) rfl)

theorem cancelStage {k : Stage} {d : Deployment} (hk : d.job.stepDone k = false)
    (ctx : JobRunContext) (removal : RemovalAnswers) (now : Timestamp) :
    KeepsMedia d.job (cancelStage ctx k removal now d).job :=
  (cancelledStep hk now).trans
    (applyCancellation ctx removal now
      { d with job := d.job.setStep k (InfraOps.cancelledStep now) })

theorem cleanUp (r : ProvisioningRequest) (contextBuilt : Bool) (removal : RemovalAnswers)
    (d : Deployment) : KeepsMedia d.job (cleanUp r contextBuilt removal d).job := by
  unfold InfraOps.cleanUp
  split
  · exact release _ _ _ _
  · exact refl _

theorem requestCancel (job : ProvisioningJob) (now : Timestamp) :
    KeepsMedia job (requestCancel job now) := by
  rcases requestCancel_cases job now with ⟨-, -, hstatus⟩ | ⟨-, -, h⟩
  · exact of_map (requestCancel_stepArtifacts job now) hstatus rfl
  · rw [h]
    exact of_steps rfl

theorem cancelJob {job job' : ProvisioningJob} {now : Timestamp}
    (h : cancelJob job now = .ok job') : KeepsMedia job job' := by
  rcases cancelJob_ok h with ⟨-, -, rfl⟩ | ⟨-, -, rfl⟩
  · exact of_steps rfl
  · exact requestCancel job now

theorem retryStages {job job' : ProvisioningJob} {stageKey : Option String} {parses : Bool}
    {others othersAtCommit : List OtherJob} {now : Timestamp} {reset : List Stage}
    (h : retryStages job stageKey parses others othersAtCommit now = .ok (job', reset)) :
    KeepsMedia job job' := by
  obtain ⟨-, stageKeys, hrequeued⟩ := retryStages_requeued h
  refine of_same (hrequeued.stepArtifacts _) (hrequeued.stepArtifacts _) fun k hk => ?_
  rw [hrequeued.stepStatus]
  split
  · rename_i hr
    have hdone := not_done_of_resets hr
    rw [ProvisioningJob.stepDone_eq, hk] at hdone
    cases hdone
  · exact hk

end KeepsMedia

/-! ## The step of the running stage -/

/-- The stage whose handler is running has its row, and is not done. -/
def StageRow (s : RunState) : Prop :=
  ∀ k rest ctx, s.exec = .stage k rest ctx →
    (s.job.steps k).isSome = true ∧ s.job.stepDone k = false

theorem stepDone_setStatus {job job' : ProvisioningJob} {k : Stage}
    (h : job'.stepStatus k = job.stepStatus k) : job'.stepDone k = job.stepDone k := by
  rw [ProvisioningJob.stepDone_eq, ProvisioningJob.stepDone_eq, h]

/-- A status rewrite that respects being done. -/
theorem stepDone_map {job job' : ProvisioningJob} {k : Stage} {g : StepStatus → StepStatus}
    (hg : ∀ st, (g st).done = st.done) (h : job'.stepStatus k = (job.stepStatus k).map g) :
    job'.stepDone k = job.stepDone k := by
  rw [ProvisioningJob.stepDone_eq, ProvisioningJob.stepDone_eq, h]
  cases job.stepStatus k <;> simp [hg]

theorem isSome_steps_iff {job : ProvisioningJob} {k : Stage} :
    (job.steps k).isSome = (job.stepStatus k).isSome := by
  simp [ProvisioningJob.stepStatus]

/-- **A request** neither removes a row nor changes whether a step is done. -/
theorem cancelJob_steps {job job' : ProvisioningJob} {now : Timestamp}
    (h : cancelJob job now = .ok job') (k : Stage) :
    (job'.steps k).isSome = (job.steps k).isSome ∧ job'.stepDone k = job.stepDone k := by
  rcases cancelJob_ok h with ⟨-, -, rfl⟩ | ⟨-, -, rfl⟩
  · exact ⟨rfl, rfl⟩
  · rcases requestCancel_cases job now with ⟨-, -, hstatus⟩ | ⟨-, -, h⟩
    · refine ⟨?_, stepDone_map cancelStatus_done (hstatus k)⟩
      rw [isSome_steps_iff, isSome_steps_iff, hstatus k, Option.isSome_map]
    · rw [h]
      exact ⟨rfl, rfl⟩

theorem retryStages_steps {job job' : ProvisioningJob} {stageKey : Option String}
    {parses : Bool} {others othersAtCommit : List OtherJob} {now : Timestamp}
    {reset : List Stage}
    (h : retryStages job stageKey parses others othersAtCommit now = .ok (job', reset))
    (k : Stage) : (job'.steps k).isSome = (job.steps k).isSome ∧
      job'.stepDone k = job.stepDone k := by
  obtain ⟨-, stageKeys, hrequeued⟩ := retryStages_requeued h
  exact ⟨by rw [hrequeued.steps, Option.isSome_map], hrequeued.stepDone k⟩

/-- `execute` never leaves a stage for another running one without its first commit. -/
theorem afterStage_ne_stage (k : Stage) (rest : List Stage) (ctx : JobRunContext)
    (d : Deployment) (k' : Stage) (rest' : List Stage) (ctx' : JobRunContext) :
    afterStage k rest ctx d ≠ .stage k' rest' ctx' := by
  unfold afterStage
  split <;> simp

theorem StageRow.step {s s' : RunState} {e : Event} (hs : StageRow s) (h : Transition s e s') :
    StageRow s' := by
  intro k rest ctx hexec'
  cases h with
  | startedStage hexec hrow hdone hcancel =>
    cases hexec'
    have hstatus := startStage_stepStatus k ‹_› s.job k
    rw [if_pos rfl] at hstatus
    refine ⟨?_, ?_⟩
    · rw [isSome_steps_iff, hstatus, Option.isSome_map, ← isSome_steps_iff]
      exact hrow
    · rw [ProvisioningJob.stepDone_eq, hstatus]
      cases s.job.stepStatus k <;> rfl
  | beatStage hexec hstatus =>
    cases hexec'
    exact hs k rest _ hexec
  | landed hflight => exact hs k rest ctx hexec'
  | cancelled hjob =>
    have hkept := cancelJob_steps hjob k
    rw [hkept.1, hkept.2]
    exact hs k rest ctx hexec'
  | retried hjob =>
    have hkept := retryStages_steps hjob k
    rw [hkept.1, hkept.2]
    exact hs k rest ctx hexec'
  | returned hexec hrun hresult => exact absurd hexec' (afterStage_ne_stage _ _ _ _ _ _ _)
  | raised hexec hrun hresult => exact absurd hexec' (afterStage_ne_stage _ _ _ _ _ _ _)
  | timedOut hexec hrun => exact absurd hexec' (afterStage_ne_stage _ _ _ _ _ _ _)
  | cancelledWithin hexec hevent hrun => exact absurd hexec' (afterStage_ne_stage _ _ _ _ _ _ _)
  | _ => cases hexec'

/-! ## One step -/

/-- What the assignments of a handler leave of the row of any stage. -/
theorem applyAssignments_steps (job : ProvisioningJob) (as : List Assignment) (k : Stage) :
    ((applyAssignments job as).steps k).isSome = (job.steps k).isSome ∧
      (applyAssignments job as).stepDone k = job.stepDone k := by
  have h := applyAssignments_stepStatus job as k
  exact ⟨by rw [isSome_steps_iff, isSome_steps_iff, h], stepDone_setStatus h⟩

/-- A successful end of the preparation. -/
structure Prepared (s : RunState) (e : Event) (s' : RunState) (path : String) : Prop where
  finish : ∃ rest ctx answers removal screenshot run outcome,
    s.exec = .stage .prepareUnattendedInstall rest ctx ∧
      e.action = .finish answers removal screenshot ∧
      runHandler .prepareUnattendedInstall ctx s.job s.world answers = some run ∧
      run.result = .ok outcome
  ne : path ≠ ""
  jobStatus : s'.job.status = s.job.status
  inFlight : s'.inFlight = s.inFlight
  status : s'.job.stepStatus .prepareUnattendedInstall = some .succeeded
  artifacts : s'.job.stepArtifacts .prepareUnattendedInstall =
    (s.job.stepArtifacts .prepareUnattendedInstall).insert .datastorePath (.str path)
  others : ∀ k, k ≠ .prepareUnattendedInstall →
    s'.job.stepStatus k = s.job.stepStatus k ∧ s'.job.stepArtifacts k = s.job.stepArtifacts k
  iso : s'.answerIso = some ⟨path, s.job.attempt .prepareUnattendedInstall⟩
  world : s'.world = s.world.applyAll
    [.upload path (s.job.attempt .prepareUnattendedInstall),
      .attach path (s.job.attempt .prepareUnattendedInstall)]

theorem update_single (old : Artifacts) (key : ArtifactKey) (v : Json) :
    old.update ((∅ : Artifacts).insert key v) = old.insert key v := by
  have h := @AList.insert_union ArtifactKey (fun _ => Json) _ key v ∅ old
  rw [AList.empty_union] at h
  exact h

/-- A preparation that returns has uploaded and attached an ISO, and its row records it. -/
theorem prepared_of_returned {s : RunState} {rest : List Stage} {ctx : JobRunContext}
    {answers : StageAnswers} {run : HandlerRun} {outcome : StageOutcome}
    (hexec : s.exec = .stage .prepareUnattendedInstall rest ctx)
    (hrow : (s.job.steps .prepareUnattendedInstall).isSome)
    (hrun : runHandler .prepareUnattendedInstall ctx s.job s.world answers = some run)
    (hresult : run.result = .ok outcome) (removal : RemovalAnswers)
    (screenshot : Option String) (now : Timestamp) :
    ∃ path, Prepared s ⟨now, .finish answers removal screenshot⟩
      { s.endStage .prepareUnattendedInstall rest (assignContext ctx run.assignments)
          (s.returnedWith .prepareUnattendedInstall run outcome now) with
        answerIso := s.attachedIso .prepareUnattendedInstall outcome } path := by
  cases runHandler_runOf hrun with
  | prepare hk a =>
    obtain ⟨path, hne, heffects, hsucceeded, hartifacts⟩ := stagePrepare_ok hresult
    -- the handler itself assigns nothing: the row is written by the end of the stage alone
    have hjob : (s.ranTo (stagePrepareUnattendedInstall ctx s.job s.world a)).job = s.job := by
      show applyAssignments s.job _ = s.job
      rw [stagePrepare_assignments]
      rfl
    obtain ⟨step, hstep⟩ := Option.isSome_iff_exists.mp hrow
    refine ⟨path, ⟨⟨rest, ctx, answers, removal, screenshot, _, outcome, hexec, rfl, hrun,
      hresult⟩, hne, ?_, rfl, ?_, ?_, fun k hk => ⟨?_, ?_⟩, ?_, ?_⟩⟩
    · show (s.ranTo _).job.status = _
      rw [hjob]
    · show (InfraOps.finishStage _ outcome now _).stepStatus _ = _
      rw [finishStage_stepStatus, if_pos rfl, hjob, hsucceeded]
      simp [ProvisioningJob.stepStatus, hstep, OutcomeStatus.toStep]
    · show (InfraOps.finishStage _ outcome now _).stepArtifacts _ = _
      rw [hjob, finishStage_stepArtifacts_self outcome now hrow, hartifacts, update_single]
    · show (InfraOps.finishStage _ outcome now _).stepStatus k = _
      rw [finishStage_stepStatus, if_neg hk, hjob]
    · show (InfraOps.finishStage _ outcome now _).stepArtifacts k = _
      rw [finishStage_stepArtifacts_ne hk, hjob]
    · show s.attachedIso .prepareUnattendedInstall outcome = _
      rw [attachedIso, if_pos rfl, hartifacts, Artifacts.str?_insert_self]
      rfl
    · show s.world.applyAll _ = _
      rw [heffects]
  | other hk a ha => exact absurd rfl hk.2.1
  | _ hk => cases hk

/-- **One step, as the media bookkeeping sees it**: a successful preparation, or a write
that keeps the media and the ISO on record. -/
theorem Transition.keepsMedia {s s' : RunState} {e : Event} (hs : StageRow s)
    (h : Transition s e s') :
    (KeepsMedia s.job s'.job ∧ s'.answerIso = s.answerIso) ∨ ∃ path, Prepared s e s' path := by
  cases h with
  | claimed hexec hdue => exact .inl ⟨.of_steps rfl, rfl⟩
  | started hexec hstatus => exact .inl ⟨.ensureSteps s.job, rfl⟩
  | @startFailed now error hexec hstatus =>
    exact .inl ⟨(KeepsMedia.ensureSteps s.job).trans
      (.failBeforePipeline error now { s.toDeployment with job := ensureSteps s.job }), rfl⟩
  | notOwned haction hexec hstatus => exact .inl ⟨.refl _, rfl⟩
  | beatLoop hexec hstatus => exact .inl ⟨.of_steps rfl, rfl⟩
  | beatStage hexec hstatus => exact .inl ⟨.of_steps rfl, rfl⟩
  | finalized hexec => exact .inl ⟨.of_steps rfl, rfl⟩
  | skipped hexec hskip => exact .inl ⟨.refl _, rfl⟩
  | cancelledBetween hexec hrow hdone hcancel => exact .inl ⟨.applyCancellation _ _ _ _, rfl⟩
  | startedStage hexec hrow hdone hcancel => exact .inl ⟨.startStage hdone _, rfl⟩
  | @returned now answers removal screenshot k rest ctx run outcome hexec hrun hresult =>
    obtain ⟨hrow, hdone⟩ := hs _ _ _ hexec
    have hassigned := applyAssignments_steps s.job run.assignments k
    have hrow' : ((s.ranTo run).job.steps k).isSome := hassigned.1.trans hrow
    have hdone' : (s.ranTo run).job.stepDone k = false := hassigned.2.trans hdone
    by_cases hk : k = .prepareUnattendedInstall
    · subst hk
      exact .inr (prepared_of_returned hexec hrow hrun hresult removal screenshot now)
    · refine .inl ⟨(KeepsMedia.assignments s.job run.assignments).trans
        (.finishStage hdone' hk outcome now ?_ hrow'), if_neg hk⟩
      intro hcreate
      subst hcreate
      cases runHandler_runOf hrun with
      | createVm hk a => exact stageCreateVm_ok hresult
      | other hk a ha => exact absurd rfl hk.1
      | _ hk => cases hk
  | @raised now answers removal screenshot k rest ctx run raised hexec hrun hresult =>
    have hdone : (s.ranTo run).job.stepDone k = false :=
      (applyAssignments_steps s.job run.assignments k).2.trans (hs _ _ _ hexec).2
    exact .inl ⟨(KeepsMedia.assignments s.job run.assignments).trans
      (.handleFailure hdone _ _ _ _ _), rfl⟩
  | @timedOut now answers cut seconds removal screenshot k rest ctx run hexec hrun =>
    have hdone : (s.cutAt run cut).job.stepDone k = false :=
      (applyAssignments_steps s.job (run.assignmentsBefore cut) k).2.trans (hs _ _ _ hexec).2
    exact .inl ⟨(KeepsMedia.assignments s.job (run.assignmentsBefore cut)).trans
      (.handleFailure hdone _ _ _ _ _), rfl⟩
  | @cancelledWithin now answers cut removal k rest ctx run hexec hevent hrun =>
    have hdone : (s.cutAt run cut).job.stepDone k = false :=
      (applyAssignments_steps s.job (run.assignmentsBefore cut) k).2.trans (hs _ _ _ hexec).2
    exact .inl ⟨(KeepsMedia.assignments s.job (run.assignmentsBefore cut)).trans
      (.cancelStage hdone _ _ _), rfl⟩
  | crashed hexec hclaimed habort =>
    have hkept := KeepsMedia.failBeforePipeline pipelineCrashed ‹_› (RunState.toDeployment ‹_›)
    rw [(aborted_spec habort).1] at hkept
    exact .inl ⟨hkept, (aborted_spec habort).2.2.2.1⟩
  | interrupted habort hstatus =>
    have hkept := KeepsMedia.interrupt ‹_› ‹_› (RunState.toDeployment ‹_›)
    rw [(aborted_spec habort).1] at hkept
    exact .inl ⟨hkept, (aborted_spec habort).2.2.2.1⟩
  | abandoned habort hstatus =>
    exact .inl ⟨by rw [(aborted_spec habort).1]; exact .refl _, (aborted_spec habort).2.2.2.1⟩
  | cleanedUp hexec => exact .inl ⟨.cleanUp _ _ _ _, rfl⟩
  | landed hflight => exact .inl ⟨.refl _, rfl⟩
  | cancelled hjob => exact .inl ⟨.cancelJob hjob, rfl⟩
  | retried hjob => exact .inl ⟨.retryStages hjob, rfl⟩

/-! ## Every reachable state -/

/-- Media is recorded as held only while the preparation step is `SUCCEEDED`. -/
structure MediaInv (s : RunState) : Prop where
  row : StageRow s
  prepared : mayHoldUnattendedMedia s.job = true →
    s.job.stepStatus .prepareUnattendedInstall = some .succeeded

theorem MediaInv.step {s s' : RunState} {e : Event} (hs : MediaInv s) (h : Transition s e s') :
    MediaInv s' := by
  refine ⟨hs.row.step h, fun hmay => ?_⟩
  rcases h.keepsMedia hs.row with ⟨hkept, -⟩ | ⟨path, hprepared⟩
  · exact hkept.succeeded hmay (hs.prepared (hkept.held hmay))
  · exact hprepared.status

theorem MediaInv.init {s : RunState} (h : s.Submitted) : MediaInv s := by
  refine ⟨fun k rest ctx hexec => ?_, fun hmay => ?_⟩
  · rw [h.idle] at hexec
    cases hexec
  · simp [mayHoldUnattendedMedia, ProvisioningJob.stepArtifacts, h.steps] at hmay

theorem mediaInv {C : RunState → Event → Prop} {s : RunState} (hs : jobRun.ReachableUnder C s) :
    MediaInv s :=
  hs.invariant (fun _ h0 => .init h0) fun _ _ _ _ hi _ hstep => hi.step (transition_of_step hstep)

end InfraOps
