import InfraOps.JobRun.Attempts
import InfraOps.JobRun.Phases

/-!
# Answer media and stopped jobs

`release_unattended_media` works from what the preparation step records: its path, and
whether the media has been removed. Below, the record is compared with the world: as long
as it is right, an ISO that is still somewhere is one the job may hold (`MediaTracked`), and
a job that stops by a release holds none.

The record goes wrong when a preparation succeeds again after a release: its outcome is
merged into the old artifacts, which keep `media_removed`. And a start that fails, a crash
and a cancellation of a queued job stop the job without a release.
-/

namespace InfraOps

open JobRepository RunState

/-! ## The ISO in the world -/

/-- The ISO is on the datastore, or its drive is attached. -/
def AnswerIso.Present (iso : AnswerIso) (w : World) : Prop :=
  w.stored iso.path = some iso.attempt ∨ w.drive iso.path = some iso.attempt

/-- Nothing is stored or attached at the path. -/
def World.Clear (path : String) (w : World) : Prop := w.stored path = none ∧ w.drive path = none

theorem AnswerIso.not_present_of_clear {iso : AnswerIso} {w : World} (h : w.Clear iso.path) :
    ¬iso.Present w := by
  rintro (hstored | hdrive)
  · rw [h.1] at hstored; cases hstored
  · rw [h.2] at hdrive; cases hdrive

/-- Only the effects of its own attempt bring an ISO back. -/
theorem AnswerIso.present_of_apply {iso : AnswerIso} {w : World} {e : Effect}
    (he : ¬e.prepares iso.attempt) (h : iso.Present (w.apply e)) : iso.Present w := by
  cases e with
  | upload path n =>
    have hn : n ≠ iso.attempt := fun heq => he ⟨path, .inl (by rw [heq])⟩
    rcases h with h | h
    · by_cases hp : iso.path = path
      · simp [World.apply, hp, hn] at h
      · exact .inl (by simpa [World.apply, hp] using h)
    · exact .inr h
  | attach path n =>
    have hn : n ≠ iso.attempt := fun heq => he ⟨path, .inr (by rw [heq])⟩
    rcases h with h | h
    · exact .inl h
    · by_cases hp : iso.path = path
      · simp [World.apply, hp, hn] at h
      · exact .inr (by simpa [World.apply, hp] using h)
  | detach path =>
    rcases h with h | h
    · exact .inl h
    · by_cases hp : iso.path = path
      · simp [World.apply, hp] at h
      · exact .inr (by simpa [World.apply, hp] using h)
  | delete path =>
    rcases h with h | h
    · by_cases hp : iso.path = path
      · simp [World.apply, hp] at h
      · exact .inl (by simpa [World.apply, hp] using h)
    · exact .inr h
  | rename name =>
    unfold World.apply at h
    dsimp only at h
    split at h <;> exact h
  | restart => exact h

theorem AnswerIso.present_of_applyAll {iso : AnswerIso} {w : World} {es : List Effect}
    (hes : ∀ e ∈ es, ¬e.prepares iso.attempt) (h : iso.Present (w.applyAll es)) :
    iso.Present w := by
  induction es generalizing w with
  | nil => exact h
  | cons e es ih =>
    exact present_of_apply (hes e (by simp)) (ih (fun e' he' => hes e' (by simp [he'])) h)

theorem World.Clear.apply {path : String} {w : World} {e : Effect} (hw : w.Clear path)
    (he : ∀ n, ¬e.prepares n) : (w.apply e).Clear path := by
  cases e with
  | upload p n => exact absurd ⟨p, .inl rfl⟩ (he n)
  | attach p n => exact absurd ⟨p, .inr rfl⟩ (he n)
  | detach p =>
    refine ⟨hw.1, ?_⟩
    by_cases hp : path = p
    · simp [World.apply, hp]
    · simpa [World.apply, hp] using hw.2
  | delete p =>
    refine ⟨?_, hw.2⟩
    by_cases hp : path = p
    · simp [World.apply, hp]
    · simpa [World.apply, hp] using hw.1
  | rename name =>
    unfold World.apply
    dsimp only
    split <;> exact hw
  | restart => exact hw

theorem World.Clear.applyAll {path : String} {w : World} {es : List Effect} (hw : w.Clear path)
    (hes : ∀ e ∈ es, ∀ n, ¬e.prepares n) : (w.applyAll es).Clear path :=
  World.applyAll_induction (P := World.Clear path) (fun _ e he hw => hw.apply (hes e he)) hw

theorem World.clear_of_removed (w : World) (path : String) :
    (w.applyAll [.detach path, .delete path]).Clear path := by
  simp [World.applyAll, World.apply, World.Clear]

theorem Effect.not_prepares_of_removes {e : Effect} {path : String} (h : e.removes path)
    (n : Nat) : ¬e.prepares n := by
  rintro ⟨p, rfl | rfl⟩ <;> rcases h with h | h <;> cases h

/-- An effect belongs to one attempt. -/
theorem Effect.prepares_unique {e : Effect} {n m : Nat} (hn : e.prepares n) (hm : e.prepares m) :
    n = m := by
  obtain ⟨p, rfl | rfl⟩ := hn <;> obtain ⟨q, h | h⟩ := hm <;> cases h <;> rfl

/-! ## The record of the preparation -/

/-- The job may hold media at the path. -/
def Holds (job : ProvisioningJob) (path : String) : Prop :=
  mayHoldUnattendedMedia job = true ∧
    (job.stepArtifacts .prepareUnattendedInstall).str? .datastorePath = some path

/-- A write that changes neither the record nor the clean-up stage to `SUCCEEDED`. -/
structure SameMedia (job job' : ProvisioningJob) : Prop where
  artifacts : job'.stepArtifacts .prepareUnattendedInstall =
    job.stepArtifacts .prepareUnattendedInstall
  cleanup : job'.stepStatus .cleanupUnattendedMedia = some .succeeded →
    job.stepStatus .cleanupUnattendedMedia = some .succeeded

namespace SameMedia

theorem refl (job : ProvisioningJob) : SameMedia job job := ⟨rfl, id⟩

theorem trans {a b c : ProvisioningJob} (h₁ : SameMedia a b) (h₂ : SameMedia b c) :
    SameMedia a c :=
  ⟨h₂.artifacts.trans h₁.artifacts, fun h => h₁.cleanup (h₂.cleanup h)⟩

theorem holds {job job' : ProvisioningJob} (h : SameMedia job job') {path : String}
    (hp : Holds job path) : Holds job' path := by
  obtain ⟨hmay, hpath⟩ := hp
  rw [mayHold_iff] at hmay
  refine ⟨mayHold_iff.mpr ?_, by rw [h.artifacts]; exact hpath⟩
  rw [h.artifacts]
  exact ⟨hmay.1, hmay.2.1, fun hc => hmay.2.2 (h.cleanup hc)⟩

theorem of_steps {job job' : ProvisioningJob} (h : job'.steps = job.steps) :
    SameMedia job job' := by
  refine ⟨?_, fun hc => ?_⟩
  · simp only [ProvisioningJob.stepArtifacts, h]
  · simpa only [ProvisioningJob.stepStatus, h] using hc

theorem of_map {job job' : ProvisioningJob} {g : StepStatus → StepStatus}
    (hart : ∀ k, job'.stepArtifacts k = job.stepArtifacts k)
    (hstatus : ∀ k, job'.stepStatus k = (job.stepStatus k).map g)
    (hg : ∀ st, g st = .succeeded → st = .succeeded) : SameMedia job job' := by
  refine ⟨hart _, fun hc => ?_⟩
  rw [hstatus] at hc
  obtain ⟨st, hst, heq⟩ := Option.map_eq_some_iff.mp hc
  rw [hst, hg st heq]

theorem of_set {job job' : ProvisioningJob} {k : Stage} {st : StepStatus}
    (hart : job'.stepArtifacts .prepareUnattendedInstall =
      job.stepArtifacts .prepareUnattendedInstall)
    (hstatus : ∀ k', job'.stepStatus k' =
      if k' = k then (job.stepStatus k).map fun _ => st else job.stepStatus k')
    (hst : k = .cleanupUnattendedMedia → st ≠ .succeeded) : SameMedia job job' := by
  refine ⟨hart, fun hc => ?_⟩
  rw [hstatus] at hc
  split at hc
  · rename_i heq
    obtain ⟨_, -, hsucceeded⟩ := Option.map_eq_some_iff.mp hc
    exact absurd hsucceeded (hst heq.symm)
  · exact hc

theorem cancelStatus_succeeded (st : StepStatus) (h : cancelStatus st = .succeeded) :
    st = .succeeded := by
  cases st <;> simp_all [cancelStatus]

theorem ensureSteps (job : ProvisioningJob) : SameMedia job (ensureSteps job) := by
  refine ⟨ensureSteps_stepArtifacts job _, fun hc => ?_⟩
  rw [ensureSteps_stepStatus] at hc
  cases hs : job.stepStatus .cleanupUnattendedMedia with
  | none => simp [hs] at hc
  | some st => simpa [hs] using hc

theorem startStage (k : Stage) (now : Timestamp) (job : ProvisioningJob) :
    SameMedia job (startStage k now job) :=
  of_set (startStage_stepArtifacts k now job _) (startStage_stepStatus k now job) (by simp)

theorem failJob (k : Stage) (f : InfraOperationError) (screenshot : Option String)
    (now : Timestamp) (job : ProvisioningJob) : SameMedia job (failJob k f screenshot now job) :=
  of_set (failJob_stepArtifacts rfl k f screenshot now job)
    (failJob_stepStatus k f screenshot now job) (by simp)

theorem cancelledStep (k : Stage) (now : Timestamp) (job : ProvisioningJob) :
    SameMedia job (job.setStep k (cancelledStep now)) :=
  of_set (ProvisioningJob.stepArtifacts_setStep (f := InfraOps.cancelledStep now)
    (fun _ => rfl) _) (cancelledStep_stepStatus k now job) (by simp)

theorem finishStage {k : Stage} (hk : k ≠ .prepareUnattendedInstall)
    (outcome : StageOutcome) (now : Timestamp) (job : ProvisioningJob)
    (hst : k = .cleanupUnattendedMedia → outcome.status.toStep ≠ .succeeded) :
    SameMedia job (finishStage k outcome now job) :=
  of_set (finishStage_stepArtifacts_ne (Ne.symm hk) outcome now job)
    (finishStage_stepStatus k outcome now job) hst

theorem failBeforePipeline (e : StartError) (now : Timestamp) (d : Deployment) :
    SameMedia d.job (failBeforePipeline e now d).job :=
  of_map (failBeforePipeline_stepArtifacts e now d) (failBeforePipeline_stepStatus e now d)
    cancelStatus_succeeded

theorem interrupt (reason : String) (now : Timestamp) (d : Deployment) :
    SameMedia d.job (interrupt reason now d).job :=
  of_map (interrupt_stepArtifacts reason now d) (interrupt_stepStatus reason now d)
    fun st h => by cases st <;> simp_all [interruptStatus]

theorem cancelJob {job job' : ProvisioningJob} {now : Timestamp}
    (h : cancelJob job now = .ok job') : SameMedia job job' := by
  rcases cancelJob_ok h with ⟨-, -, rfl⟩ | ⟨-, -, rfl⟩
  · exact of_steps rfl
  · rcases requestCancel_cases job now with ⟨-, -, hstatus⟩ | ⟨-, -, h⟩
    · exact of_map (requestCancel_stepArtifacts job now) hstatus cancelStatus_succeeded
    · rw [h]
      exact of_steps rfl

theorem retryStages {job job' : ProvisioningJob} {stageKey : Option String} {parses : Bool}
    {others othersAtCommit : List OtherJob} {now : Timestamp} {reset : List Stage}
    (h : retryStages job stageKey parses others othersAtCommit now = .ok (job', reset)) :
    SameMedia job job' := by
  obtain ⟨-, stageKeys, hrequeued⟩ := retryStages_requeued h
  refine ⟨hrequeued.stepArtifacts _, fun hc => ?_⟩
  rw [hrequeued.stepStatus] at hc
  split at hc
  · cases hc
  · exact hc

theorem assignments {as : List Assignment} (h : .mediaRemoved ∉ as) (job : ProvisioningJob) :
    SameMedia job (applyAssignments job as) := by
  refine applyAssignments_induction (P := SameMedia job) (fun j a ha hj => hj.trans ?_) (refl job)
  cases a with
  | mediaRemoved => exact absurd ha h
  | _ => exact of_steps rfl

end SameMedia

/-! ## Record and world together -/

/-- The media at the path are on record, or gone. -/
def Tracked (path : String) (d : Deployment) : Prop := Holds d.job path ∨ d.world.Clear path

namespace Tracked

variable {path : String} {d d' : Deployment}

/-- A step that keeps the record and brings nothing back. -/
theorem of_same (h : Tracked path d) (hjob : SameMedia d.job d'.job) {es : List Effect}
    (hworld : d'.world = d.world.applyAll es) (hes : ∀ e ∈ es, ∀ n, ¬e.prepares n) :
    Tracked path d' := by
  rcases h with h | h
  · exact .inl (hjob.holds h)
  · exact .inr (by rw [hworld]; exact h.applyAll hes)

theorem of_job (h : Tracked path d) (hjob : SameMedia d.job d'.job) (hworld : d'.world = d.world) :
    Tracked path d' := by
  rcases h with h | h
  · exact .inl (hjob.holds h)
  · exact .inr (by rw [hworld]; exact h)

/-- A release forgets only what it has removed. -/
theorem release (h : Tracked path d) (ctx : JobRunContext) (reason : String)
    (a : RemovalAnswers) : Tracked path (releaseUnattendedMedia ctx reason a d).1 := by
  rcases releaseUnattendedMedia_cases ctx reason a d with ⟨hjob, es, hworld, hes⟩ |
    ⟨-, hjob, hworld⟩
  · exact h.of_same (by rw [hjob]; exact .refl _) hworld
      fun e he n => Effect.not_prepares_of_removes (hes e he) n
  · refine .inr ?_
    rcases h with ⟨-, hpath⟩ | hclear
    · have hrecorded : recordedPath d.job = path := by rw [recordedPath, hpath]; rfl
      rw [hworld, hrecorded]
      exact World.clear_of_removed _ _
    · rw [hworld]
      refine hclear.applyAll fun e he => ?_
      have hremoves : e.removes (recordedPath d.job) := by simpa [Effect.removes] using he
      exact Effect.not_prepares_of_removes hremoves

theorem handleFailure (h : Tracked path d) (ctx : JobRunContext) (k : Stage)
    (f : InfraOperationError) (screenshot : Option String) (removal : RemovalAnswers)
    (now : Timestamp) : Tracked path (handleFailure ctx k f screenshot removal now d) := by
  obtain ⟨records, hjob, hworld⟩ := handleFailure_eq ctx k f screenshot removal now d
  have hfailed : Tracked path { d with job := failJob k f screenshot now d.job, records } :=
    h.of_job (.failJob k f screenshot now d.job) rfl
  have hreleased := hfailed.release ctx s!"stage '{k.key}' failed" removal
  rw [Tracked, ← hjob, ← hworld] at hreleased
  exact hreleased

theorem applyCancellation (h : Tracked path d) (ctx : JobRunContext)
    (removal : RemovalAnswers) (now : Timestamp) :
    Tracked path (applyCancellation ctx removal now d) :=
  (h.release ctx "job cancelled" removal).of_job
    (.of_map (applyCancellation_stepArtifacts ctx removal now d)
      (applyCancellation_stepStatus ctx removal now d) SameMedia.cancelStatus_succeeded)
    (applyCancellation_world ctx removal now d)

theorem cancelStage (h : Tracked path d) (ctx : JobRunContext) (k : Stage)
    (removal : RemovalAnswers) (now : Timestamp) : Tracked path (cancelStage ctx k removal now d) :=
  applyCancellation (d := { d with job := d.job.setStep k (cancelledStep now) })
    (h.of_job (.cancelledStep k now d.job) rfl) ctx removal now

theorem cleanUp (h : Tracked path d) (r : ProvisioningRequest) (contextBuilt : Bool)
    (removal : RemovalAnswers) : Tracked path (cleanUp r contextBuilt removal d) := by
  unfold InfraOps.cleanUp
  split
  · exact h.release _ _ _
  · exact h

/-- A run that removed first has cleared what was on record. -/
theorem of_removed {run : HandlerRun} {p : String} (h : Tracked path d)
    (hremoved : RemovedFirst d.job run p) {es : List Effect}
    (hworld : d'.world = d.world.applyAll ([.detach p, .delete p] ++ es))
    (hes : ∀ e ∈ es, e = .restart) : Tracked path d' := by
  refine .inr ?_
  have hrestart : ∀ e ∈ es, ∀ n, ¬e.prepares n := by
    rintro e he n ⟨q, h | h⟩ <;> rw [hes e he] at h <;> cases h
  rw [hworld, World.applyAll_append]
  refine World.Clear.applyAll ?_ hrestart
  rcases h with ⟨-, hpath⟩ | hclear
  · rw [hremoved.recorded] at hpath
    cases hpath
    exact World.clear_of_removed _ _
  · refine hclear.applyAll fun e he => ?_
    have hremoves : e.removes p := by simpa [Effect.removes] using he
    exact Effect.not_prepares_of_removes hremoves

end Tracked

section Handlers

variable {s : RunState} {k : Stage} {ctx : JobRunContext} {run : HandlerRun} {path : String}

/-- A handler other than the preparation, run to its end. -/
theorem Tracked.ranTo (hp : Holds s.job path) (hrun : RunOf k ctx s.job s.world run)
    (hk : k ≠ .prepareUnattendedInstall) : Tracked path (s.ranTo run) := by
  have htracked : Tracked path s.toDeployment := .inl hp
  by_cases hx : .mediaRemoved ∈ run.assignments
  · obtain ⟨p, hremoved⟩ := hrun.removedFirst hx
    obtain ⟨es, heffects, hes⟩ := hremoved.effects.1
    exact htracked.of_removed hremoved (by rw [← heffects]; rfl) hes
  · exact htracked.of_same (.assignments hx s.job) rfl fun e he n => hrun.not_prepares hk he n

/-- The same for a handler that is cut. -/
theorem Tracked.cutAt (hp : Holds s.job path) (hrun : RunOf k ctx s.job s.world run)
    (hk : k ≠ .prepareUnattendedInstall) (cut : Cut) : Tracked path (s.cutAt run cut) := by
  have htracked : Tracked path s.toDeployment := .inl hp
  by_cases hx : .mediaRemoved ∈ run.assignmentsBefore cut
  · obtain ⟨p, hremoved⟩ := hrun.removedFirst (HandlerRun.mem_assignmentsBefore hx)
    rcases hremoved.effects.2 cut with hnone | ⟨es, heffects, hes⟩
    · rw [hnone] at hx; cases hx
    · exact htracked.of_removed hremoved (by rw [← heffects]; rfl) hes
  · exact htracked.of_same (.assignments hx s.job) rfl
      fun e he n => hrun.not_prepares hk (HandlerRun.mem_effectsBefore he) n

end Handlers

/-- **Nothing that is on record is forgotten before it is removed.** -/
theorem Transition.tracked {s s' : RunState} {e : Event} (hm : MediaInv s)
    (h : Transition s e s') {path : String} (hp : Holds s.job path) :
    Tracked path s'.toDeployment := by
  have htracked : Tracked path s.toDeployment := .inl hp
  -- media on record are those of a preparation that is not running
  have hne : ∀ {k rest ctx}, s.exec = .stage k rest ctx → k ≠ .prepareUnattendedInstall := by
    rintro k rest ctx hexec rfl
    have hnot := (hm.row _ _ _ hexec).2
    rw [ProvisioningJob.stepDone_eq, hm.prepared hp.1] at hnot
    cases hnot
  cases h with
  | claimed hexec hdue => exact .inl ((SameMedia.of_steps rfl).holds hp)
  | started hexec hstatus => exact .inl ((SameMedia.ensureSteps s.job).holds hp)
  | @startFailed now error hexec hstatus =>
    exact .inl (((SameMedia.ensureSteps s.job).trans (.failBeforePipeline error now
      { s.toDeployment with job := ensureSteps s.job })).holds hp)
  | notOwned haction hexec hstatus => exact htracked
  | beatLoop hexec hstatus => exact .inl ((SameMedia.of_steps rfl).holds hp)
  | beatStage hexec hstatus => exact .inl ((SameMedia.of_steps rfl).holds hp)
  | finalized hexec => exact .inl ((SameMedia.of_steps rfl).holds hp)
  | skipped hexec hskip => exact htracked
  | cancelledBetween hexec hrow hdone hcancel => exact htracked.applyCancellation _ _ _
  | startedStage hexec hrow hdone hcancel => exact .inl ((SameMedia.startStage _ _ s.job).holds hp)
  | @returned now answers removal screenshot k rest ctx run outcome hexec hrun hresult =>
    have hof := runHandler_runOf hrun
    by_cases hk : k = .cleanupUnattendedMedia
    · subst hk
      rcases hof.cleanup_ok hresult with hnone | ⟨p, hremoved⟩
      · rw [hp.2] at hnone; cases hnone
      · obtain ⟨es, heffects, hes⟩ := hremoved.effects.1
        exact htracked.of_removed hremoved (by rw [← heffects]; rfl) hes
    · exact (Tracked.ranTo hp hof (hne hexec)).of_job
        (.finishStage (hne hexec) outcome now _ fun h => absurd h hk) rfl
  | raised hexec hrun hresult =>
    exact (Tracked.ranTo hp (runHandler_runOf hrun) (hne hexec)).handleFailure _ _ _ _ _ _
  | timedOut hexec hrun =>
    exact (Tracked.cutAt hp (runHandler_runOf hrun) (hne hexec) _).handleFailure _ _ _ _ _ _
  | cancelledWithin hexec hevent hrun =>
    exact (Tracked.cutAt hp (runHandler_runOf hrun) (hne hexec) _).cancelStage _ _ _ _
  | @crashed now abort s₁ hexec hclaimed habort =>
    have hkept := SameMedia.failBeforePipeline pipelineCrashed now s₁.toDeployment
    rw [(aborted_spec habort).1] at hkept
    exact .inl (hkept.holds hp)
  | @interrupted now reason abort s₁ habort hstatus =>
    have hkept := SameMedia.interrupt reason now s₁.toDeployment
    rw [(aborted_spec habort).1] at hkept
    exact .inl (hkept.holds hp)
  | abandoned habort hstatus => exact .inl (by rw [(aborted_spec habort).1]; exact hp)
  | cleanedUp hexec => exact htracked.cleanUp _ _ _
  | landed hflight => exact .inl hp
  | cancelled hjob => exact .inl ((SameMedia.cancelJob hjob).holds hp)
  | retried hjob => exact .inl ((SameMedia.retryStages hjob).holds hp)

/-! ## Runs that track their media -/

/-- The removals that the step's release would make succeed. -/
def removalsSucceed (_ : RunState) (e : Event) : Bool :=
  match e.action with
  | .next removal | .finish _ removal _ | .timeOut _ _ _ removal _ | .stageCancelled _ _ removal
  | .cleanUp _ removal => removal.succeeds
  | _ => true

def HandlerRun.succeeds (run : HandlerRun) : Bool :=
  match run.result with
  | .ok _ => true
  | .error _ => false

/-- The preparation ends well although its artifacts say that the media was removed. -/
def preparesReleased (s : RunState) (answers : StageAnswers) : Bool :=
  match s.exec with
  | .stage .prepareUnattendedInstall _ ctx =>
    (s.job.stepArtifacts .prepareUnattendedInstall).has .mediaRemoved &&
      (runHandler .prepareUnattendedInstall ctx s.job s.world answers).any HandlerRun.succeeds
  | _ => false

/-- The step does not stop a job that may hold media without a release, and does not
prepare media under an old `media_removed`. -/
def tracksMedia (s : RunState) (e : Event) : Bool :=
  match e.action with
  | .startFails _ | .crash _ => !mayHoldUnattendedMedia s.job
  | .cancel => s.job.status != .queued || !mayHoldUnattendedMedia s.job
  | .finish answers _ _ => !preparesReleased s answers
  | _ => true

def keepsTrack (s : RunState) (e : Event) : Bool :=
  removalsSucceed s e && startsOwned s e && tracksMedia s e

/-- The job has stopped: an interruption counts once its clean-up called the release. -/
def RunState.hasStopped (s : RunState) : Bool :=
  match s.job.status with
  | .failed | .partiallyCompleted | .cancelled => true
  | .interrupted => s.cleanedUp && match s.exec with
    | .releasing => false
    | _ => true
  | _ => false

structure MediaTracked (s : RunState) : Prop where
  held : ∀ iso, s.answerIso = some iso → iso.Present s.world → Holds s.job iso.path
  inFlight : ∀ iso, s.answerIso = some iso → ∀ es ∈ s.inFlight, ∀ e ∈ es, ¬e.prepares iso.attempt
  stopped : s.hasStopped = true → mayHoldUnattendedMedia s.job = false

/-- **Every effect of a step leaves the last attached ISO where it is**, or removes it. -/
theorem Effect.From.not_prepares {s : RunState} {e : Effect} (h : e.From s) (ha : AttemptInv s)
    (ht : MediaTracked s) {iso : AnswerIso} (hiso : s.answerIso = some iso) :
    ¬e.prepares iso.attempt := by
  cases h with
  | @handler k rest ctx run hexec hrun he =>
    by_cases hk : k = .prepareUnattendedInstall
    · subst hk
      cases hrun with
      | prepare hk a =>
        have hle := ha.iso iso hiso
        have hpos := ha.running _ _ hexec
        rw [lastClosed_of_running hexec] at hle
        intro hprepares
        have heq : iso.attempt = attempts s.job :=
          Effect.prepares_unique hprepares (stagePrepare_effects he)
        omega
      | other hk a ha => exact absurd rfl hk.2.1
      | _ hk => cases hk
    · exact hrun.not_prepares hk he _
  | release he => exact Effect.not_prepares_of_removes he _
  | thread hes he => exact ht.inFlight iso hiso _ hes _ he

/-- What the preparation attached is on record. -/
theorem Prepared.holds {s s' : RunState} {e : Event} {path : String} (hi : RunInv s)
    (h : Prepared s e s' path) (ht : tracksMedia s e = true) : Holds s'.job path := by
  obtain ⟨rest, ctx, answers, removal, screenshot, run, outcome, hexec, haction, hrun, hresult⟩ :=
    h.finish
  have hremoved : (s.job.stepArtifacts .prepareUnattendedInstall).has .mediaRemoved = false := by
    simpa [tracksMedia, haction, preparesReleased, hexec, hrun, HandlerRun.succeeds, hresult]
      using ht
  refine ⟨mayHold_iff.mpr ⟨?_, ?_, fun hc => ?_⟩, ?_⟩
  · rw [h.artifacts, Artifacts.has_insert, if_pos rfl]
    simp [Json.truthy, h.ne]
  · rw [h.artifacts, Artifacts.has_insert, if_neg (by decide)]
    exact hremoved
  · have hdone : s.job.stepDone .cleanupUnattendedMedia = true := by
      rw [ProvisioningJob.stepDone_eq, ← (h.others _ (by decide)).1, hc]
      rfl
    have hbefore := hi.table.ordered .prepareUnattendedInstall .cleanupUnattendedMedia (by decide)
      hdone
    rw [(hi.stage hexec).notDone] at hbefore
    cases hbefore
  · rw [h.artifacts, Artifacts.str?_insert_self]

/-! ### Steps that stop the job -/

/-- A release that reaches vCenter leaves no media on record. -/
theorem release_silent {d : Deployment} {a : RemovalAnswers} (ha : a.succeeds = true)
    (hvm : mayHoldUnattendedMedia d.job = true → VmRecorded d.job) (ctx : JobRunContext)
    (reason : String) :
    mayHoldUnattendedMedia (releaseUnattendedMedia ctx reason a d).1.job = false := by
  cases hmay : mayHoldUnattendedMedia d.job with
  | false => rw [releaseUnattendedMedia_of_not_mayHold hmay]; exact hmay
  | true =>
    obtain ⟨vmId, hid⟩ := (hvm hmay).requireVmId ctx
    have hrow : (d.job.steps .prepareUnattendedInstall).isSome := by
      cases hs : d.job.steps .prepareUnattendedInstall with
      | some step => rfl
      | none => simp [mayHoldUnattendedMedia, ProvisioningJob.stepArtifacts, hs] at hmay
    rw [releaseUnattendedMedia_of_succeeds hmay ha hid, ← Bool.not_eq_true, mayHold_iff,
      ProvisioningJob.stepArtifacts_setStep_self
        (f := releasedStep (booted d.job) reason) (g := fun artifacts =>
          (artifacts.insert .mediaRemoved (.bool true)).insert .mediaRemovedReason (.str reason))
        (releasedStep_artifacts _ _) hrow]
    simp [Json.truthy]

/-- What a write that keeps the media does to the condition of the release. -/
theorem KeepsMedia.vmRecorded {job job' : ProvisioningJob} (h : KeepsMedia job job')
    (hvm : mayHoldUnattendedMedia job = true → VmRecorded job) :
    mayHoldUnattendedMedia job' = true → VmRecorded job' :=
  fun hmay => h.vm (hvm (h.held hmay))

section Stops

variable {d : Deployment} {removal : RemovalAnswers} (ha : removal.succeeds = true)
  (hvm : mayHoldUnattendedMedia d.job = true → VmRecorded d.job)
include ha hvm

theorem handleFailure_silent {k : Stage} (hk : d.job.stepDone k = false) (ctx : JobRunContext)
    (f : InfraOperationError) (screenshot : Option String) (now : Timestamp) :
    mayHoldUnattendedMedia (handleFailure ctx k f screenshot removal now d).job = false := by
  obtain ⟨records, hjob, -⟩ := handleFailure_eq ctx k f screenshot removal now d
  rw [hjob]
  exact release_silent (d := { d with job := failJob k f screenshot now d.job, records }) ha
    ((KeepsMedia.failJob hk f screenshot now).vmRecorded hvm) ctx _

theorem applyCancellation_silent (ctx : JobRunContext) (now : Timestamp) :
    mayHoldUnattendedMedia (applyCancellation ctx removal now d).job = false := by
  have hkept : KeepsMedia (releaseUnattendedMedia ctx "job cancelled" removal d).1.job
      (applyCancellation ctx removal now d).job :=
    .of_map (applyCancellation_stepArtifacts ctx removal now d)
      (applyCancellation_stepStatus ctx removal now d) rfl
  exact hkept.not_mayHold (release_silent ha hvm ctx _)

theorem cancelStage_silent {k : Stage} (hk : d.job.stepDone k = false) (ctx : JobRunContext)
    (now : Timestamp) : mayHoldUnattendedMedia (cancelStage ctx k removal now d).job = false :=
  applyCancellation_silent (d := { d with job := d.job.setStep k (cancelledStep now) }) ha
    ((KeepsMedia.cancelledStep hk now).vmRecorded hvm) ctx now

end Stops

theorem hasStopped_of_running {s : RunState}
    (h : s.job.status = .running ∨ s.job.status = .queued ∨ s.job.status = .completed) :
    s.hasStopped = false := by
  rcases h with h | h | h <;> simp [RunState.hasStopped, h]

/-- A job that stops without a release had nothing on record. -/
theorem silent_of_kept {s : RunState} {job' : ProvisioningJob} (h : KeepsMedia s.job job')
    (hnot : (!mayHoldUnattendedMedia s.job) = true) : mayHoldUnattendedMedia job' = false :=
  h.not_mayHold (by simpa using hnot)

theorem MediaTracked.stopped_step {s s' : RunState} {e : Event} (hi : RunInv s)
    (ht : MediaTracked s) (hvm : mayHoldUnattendedMedia s.job = true → VmRecorded s.job)
    (hc : keepsTrack s e = true) (h : Transition s e s') (hstopped : s'.hasStopped = true) :
    mayHoldUnattendedMedia s'.job = false := by
  simp only [keepsTrack, Bool.and_eq_true] at hc
  obtain ⟨⟨hremovals, howned⟩, htracks⟩ := hc
  have hnot : ∀ {k rest ctx} as, s.exec = .stage k rest ctx →
      (applyAssignments s.job as).stepDone k = false :=
    fun as hexec => ((hi.stage hexec).assignments as).notDone
  have hassigned : ∀ as, mayHoldUnattendedMedia (applyAssignments s.job as) = true →
      VmRecorded (applyAssignments s.job as) :=
    fun as => (KeepsMedia.assignments s.job as).vmRecorded hvm
  have hactive : ∀ {x : RunState}, x.hasStopped = true →
      (x.job.status = .running ∨ x.job.status = .queued ∨ x.job.status = .completed) → False := by
    intro x hx hstatus
    rw [hasStopped_of_running hstatus] at hx
    cases hx
  cases h with
  | claimed hexec hdue => exact (hactive hstopped (.inl rfl)).elim
  | started hexec hstatus => exact (hactive hstopped (.inl hstatus)).elim
  -- no release here: the condition asks that nothing is on record
  | @startFailed now error hexec hstatus =>
    exact silent_of_kept ((KeepsMedia.ensureSteps s.job).trans (.failBeforePipeline error now
      { s.toDeployment with job := ensureSteps s.job })) htracks
  | notOwned haction hexec hstatus =>
    have hphase := hi.phase
    rw [hexec] at hphase
    exact absurd hphase.1 hstatus
  | beatLoop hexec hstatus => exact (hactive hstopped (.inl hstatus)).elim
  | beatStage hexec hstatus => exact (hactive hstopped (.inl hstatus)).elim
  | finalized hexec => exact (hactive hstopped (.inr (.inr rfl))).elim
  | skipped hexec hskip =>
    refine ht.stopped ?_
    simpa [RunState.hasStopped, hexec] using hstopped
  | cancelledBetween hexec hrow hdone hcancel => exact applyCancellation_silent hremovals hvm _ _
  | startedStage hexec hrow hdone hcancel =>
    have hrunning : s.job.status = .running := by
      simpa [startsOwned, hexec, hdone, hcancel] using howned
    exact (hactive hstopped (.inl hrunning)).elim
  | @returned now answers removal screenshot k rest ctx run outcome hexec hrun hresult =>
    exact (hactive hstopped (.inl ((hi.stage hexec).assignments run.assignments).status)).elim
  | @raised now answers removal screenshot k rest ctx run raised hexec hrun hresult =>
    exact handleFailure_silent (d := s.ranTo run) hremovals (hassigned _) (hnot _ hexec) _ _ _ _
  | @timedOut now answers cut seconds removal screenshot k rest ctx run hexec hrun =>
    exact handleFailure_silent (d := s.cutAt run cut) hremovals (hassigned _) (hnot _ hexec) _ _ _ _
  | @cancelledWithin now answers cut removal k rest ctx run hexec hevent hrun =>
    exact cancelStage_silent (d := s.cutAt run cut) hremovals (hassigned _) (hnot _ hexec) _ _
  | @crashed now abort s₁ hexec hclaimed habort =>
    have hkept := KeepsMedia.failBeforePipeline pipelineCrashed now s₁.toDeployment
    rw [(aborted_spec habort).1] at hkept
    exact silent_of_kept hkept htracks
  -- its clean-up is still to come
  | interrupted habort hstatus => simp [RunState.hasStopped, InfraOps.interrupt] at hstopped
  -- the mid-stage cancellation has stopped the job before
  | abandoned habort hstatus =>
    obtain ⟨rest, ctx, hexec⟩ := hi.aborted habort hstatus
    obtain ⟨hjob, -, -, -, hcleaned, -⟩ := aborted_spec habort
    rw [hjob]
    refine ht.stopped ?_
    simpa [RunState.hasStopped, hexec, hjob, hcleaned] using hstopped
  | @cleanedUp now contextBuilt removal hexec =>
    cases contextBuilt with
    | true => exact release_silent hremovals hvm _ _
    | false =>
      refine ht.stopped ?_
      have hsame : InfraOps.cleanUp s.request false removal s.toDeployment = s.toDeployment := rfl
      rw [hsame] at hstopped
      cases hs : s.job.status <;> simp_all [RunState.hasStopped]
  | landed hflight => exact ht.stopped hstopped
  | cancelled hjob =>
    have hkept := KeepsMedia.cancelJob hjob
    rcases cancelJob_cases hjob with ⟨-, -, rfl⟩ | ⟨hstatus, -, -⟩ | ⟨hrunning, rfl⟩
    · exact (hactive hstopped (.inr (.inl rfl))).elim
    -- an interrupted job that may hold media is handed to a worker instead
    · rcases hstatus with hqueued | ⟨-, hnot⟩
      · exact silent_of_kept hkept (by simpa [tracksMedia, hqueued] using htracks)
      · exact hkept.not_mayHold hnot
    · exact (hactive hstopped (.inl hrunning)).elim
  | retried hjob => exact (hactive hstopped (.inr (.inl (retryStages_status hjob).2))).elim

theorem MediaTracked.step {s s' : RunState} {e : Event} (hm : MediaInv s) (ha : AttemptInv s)
    (hi : RunInv s) (ht : MediaTracked s)
    (hvm : mayHoldUnattendedMedia s.job = true → VmRecorded s.job)
    (hc : keepsTrack s e = true) (h : Transition s e s') : MediaTracked s' := by
  have htracks : tracksMedia s e = true := by
    simp only [keepsTrack, Bool.and_eq_true] at hc
    exact hc.2
  obtain ⟨⟨es, hworld, hes⟩, hflight⟩ := h.outside
  refine ⟨fun iso hiso hpresent => ?_, fun iso hiso => ?_, ht.stopped_step hi hvm hc h⟩
  · rcases h.keepsMedia hm.row with ⟨-, hsame⟩ | ⟨path, hprepared⟩
    · rw [hsame] at hiso
      rw [hworld] at hpresent
      have hbefore := AnswerIso.present_of_applyAll
        (fun e he => (hes e he).not_prepares ha ht hiso) hpresent
      rcases h.tracked hm (ht.held iso hiso hbefore) with hholds | hclear
      · exact hholds
      · rw [← hworld] at hpresent
        exact absurd hpresent (AnswerIso.not_present_of_clear hclear)
    · rw [hprepared.iso] at hiso
      cases hiso
      exact hprepared.holds hi htracks
  · rcases h.keepsMedia hm.row with ⟨-, hsame⟩ | ⟨path, hprepared⟩
    · rw [hsame] at hiso
      exact fun es hes e he => (hflight es hes e he).not_prepares ha ht hiso
    · -- what is still in flight belongs to earlier attempts
      rw [hprepared.iso] at hiso
      cases hiso
      obtain ⟨rest, ctx, -, -, -, -, -, hexec, -⟩ := hprepared.finish
      rw [hprepared.inFlight]
      intro es hes e he hprepares
      have hupto := ha.inFlight es hes e he
      have hpos := ha.running _ _ hexec
      rw [lastClosed_of_running hexec] at hupto
      obtain ⟨p, rfl | rfl⟩ := hprepares
      · exact absurd (show attempts s.job ≤ attempts s.job - 1 from hupto) (by omega)
      · exact absurd (show attempts s.job ≤ attempts s.job - 1 from hupto) (by omega)

/-! ## Every run -/

theorem startsOwned_of_keepsTrack (s : RunState) (e : Event) (h : keepsTrack s e = true) :
    startsOwned s e = true := by
  simp only [keepsTrack, Bool.and_eq_true] at h
  exact h.1.2

theorem mediaTracked {s : RunState}
    (hs : jobRun.ReachableUnder (fun s e => keepsTrack s e = true) s) : MediaTracked s := by
  refine hs.invariant (fun s h0 => ?_) fun s e s' hr hi hc hstep =>
    hi.step (mediaInv hr) (attemptInv hr) (runInv startsOwned_of_keepsTrack hr)
      (vmRecorded_of_mayHold startsOwned_of_keepsTrack hr) hc (transition_of_step hstep)
  refine ⟨fun iso hiso => ?_, fun iso hiso => ?_, fun hstopped => ?_⟩
  · rw [h0.answerIso] at hiso; cases hiso
  · rw [h0.answerIso] at hiso; cases hiso
  · simp [RunState.hasStopped, h0.status] at hstopped

/-- **No answer media outlives a stopped job** in the runs whose removals succeed, whose
stages are started on a `RUNNING` row, in which a start that fails, a crash and a cancellation
of a queued job find no media on record, and in which no preparation succeeds under an old
`media_removed`. -/
theorem stopped_job_holds_no_media {s : RunState}
    (hs : jobRun.ReachableUnder (fun s e => keepsTrack s e = true) s)
    (hstopped : s.hasStopped = true) {iso : AnswerIso} (hiso : s.answerIso = some iso) :
    s.world.stored iso.path ≠ some iso.attempt ∧ s.world.drive iso.path ≠ some iso.attempt := by
  have ht := mediaTracked hs
  have hnot : ¬iso.Present s.world := by
    intro hpresent
    have hmay := (ht.held iso hiso hpresent).1
    rw [ht.stopped hstopped] at hmay
    cases hmay
  exact ⟨fun h => hnot (.inl h), fun h => hnot (.inr h)⟩

/-- The stage after the preparation fails; the release resets the preparation; the retry
prepares again, and the same stage fails again. -/
def preparesTwice : List Event :=
  runsStages 0 (orderedStages.take 7) ++ failsNext ++ [retryAll] ++
    runsStages 6 [.prepareUnattendedInstall] ++ failsNext

/-- The merged artifacts still say `media_removed`, so the second release is skipped: the
job stops with the second ISO on the datastore and in the drive. -/
theorem stopped_job_holds_media : ∃ s iso,
    jobRun.ReachableUnder (fun s e => removalsSucceed s e = true) s ∧
    s.job.status = .partiallyCompleted ∧ s.hasStopped = true ∧ s.answerIso = some iso ∧
    s.world.stored iso.path = some iso.attempt ∧ s.world.drive iso.path = some iso.attempt := by
  obtain ⟨s, hs, hp⟩ := Machine.exists_reachableUnder_of_run (m := jobRun) (c := removalsSucceed)
    (p := fun s => s.job.status == .partiallyCompleted && s.hasStopped &&
      s.answerIso.any fun iso => s.world.stored iso.path == some iso.attempt &&
        s.world.drive iso.path == some iso.attempt)
    (RunState.submitted_spec "j1" { vmName := "web01" })
    (show ((jobRun.runUnder _ _ preparesTwice).any _) = true by decide +kernel)
  simp only [Bool.and_eq_true, Option.any_eq_true, beq_iff_eq] at hp
  obtain ⟨⟨hstatus, hstopped⟩, iso, hiso, hstored, hdrive⟩ := hp
  exact ⟨s, iso, hs, hstatus, hstopped, hiso, hstored, hdrive⟩

/-- The first of those failures: its release finds the media. -/
theorem stopped_job_holds_no_media_failed : ∃ s iso, jobRun.Reachable s ∧
    s.job.status = .partiallyCompleted ∧ s.answerIso = some iso ∧
    s.world.stored iso.path ≠ some iso.attempt ∧ s.world.drive iso.path ≠ some iso.attempt := by
  obtain ⟨s, hs, hp⟩ := Machine.exists_reachableUnder_of_run (m := jobRun) (c := keepsTrack)
    (p := fun s => s.job.status == .partiallyCompleted && s.hasStopped && s.answerIso.isSome)
    (RunState.submitted_spec "j1" { vmName := "web01" })
    (show ((jobRun.runUnder _ _ (runsStages 0 (orderedStages.take 7) ++ failsNext)).any _) = true by
      decide +kernel)
  simp only [Bool.and_eq_true, beq_iff_eq] at hp
  obtain ⟨iso, hiso⟩ := Option.isSome_iff_exists.mp hp.2
  exact ⟨s, iso, hs.reachable, hp.1.1, hiso, stopped_job_holds_no_media hs hp.1.2 hiso⟩

end InfraOps
