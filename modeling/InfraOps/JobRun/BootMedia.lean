import InfraOps.JobRun.CompletedWork
import InfraOps.JobRun.Release

/-!
# Setup and its answer file

`power_on` is started behind a preparation that is done; below, that the ISO the
preparation attached is still attached then. A release is two vCenter effects and a write to
the row: if the drive is detached and the write is not made, because the file could not be
deleted or because the transaction was lost, the preparation stays `SUCCEEDED` and a retry
powers on without the ISO.

`deleteFails` stands for every removal that fails after the drive is gone.
-/

namespace InfraOps

open JobRepository RunState

/-- The recorded ISO is on the datastore, in the drive of the VM. -/
def IsoAttached (d : Deployment) : Prop :=
  ∃ path, (d.job.stepArtifacts .prepareUnattendedInstall).str? .datastorePath = some path ∧
    (d.world.stored path).isSome = true ∧ (d.world.drive path).isSome = true

/-- The drive is detached. -/
def RemovalAnswers.detaches : RemovalAnswers → Bool
  | deleteFails _ | removes => true
  | _ => false

/-- The drive is detached, and the call fails. -/
def RemovalAnswers.detachesOnly (a : RemovalAnswers) : Bool := a.detaches && !a.succeeds

/-- The step detaches the drive of a job that Windows has not booted, and leaves a row that
does not say so. -/
def losesMedia (s : RunState) (e : Event) : Bool :=
  mayHoldUnattendedMedia s.job && !booted s.job && match e.action with
    | .next a | .finish _ a _ | .timeOut _ _ _ a _ | .stageCancelled _ _ a =>
      (marks s e).any Mark.terminal && a.detachesOnly
    | .cleanUp contextBuilt a => contextBuilt && a.detachesOnly
    | .crash abort | .interrupt _ abort => abort.removal.any RemovalAnswers.detaches
    | _ => false

def bootsPrepared (s : RunState) (e : Event) : Bool := startsOwned s e && !losesMedia s e

/-! ## The ISO in the world -/

/-- Nothing but a removal takes an ISO or a drive away. -/
theorem World.isSome_apply {w : World} {e : Effect} {path : String} (he : ∀ p, ¬e.removes p)
    (hstored : (w.stored path).isSome = true) (hdrive : (w.drive path).isSome = true) :
    ((w.apply e).stored path).isSome = true ∧ ((w.apply e).drive path).isSome = true := by
  cases e with
  | upload p n =>
    refine ⟨?_, hdrive⟩
    by_cases hp : path = p
    · simp [World.apply, hp]
    · simpa [World.apply, hp] using hstored
  | attach p n =>
    refine ⟨hstored, ?_⟩
    by_cases hp : path = p
    · simp [World.apply, hp]
    · simpa [World.apply, hp] using hdrive
  | detach p => exact absurd (.inl rfl) (he p)
  | delete p => exact absurd (.inr rfl) (he p)
  | rename name =>
    unfold World.apply
    dsimp only
    split <;> exact ⟨hstored, hdrive⟩
  | restart => exact ⟨hstored, hdrive⟩

theorem World.isSome_applyAll {w : World} {es : List Effect} {path : String}
    (hes : ∀ e ∈ es, ∀ p, ¬e.removes p) (hstored : (w.stored path).isSome = true)
    (hdrive : (w.drive path).isSome = true) :
    ((w.applyAll es).stored path).isSome = true ∧ ((w.applyAll es).drive path).isSome = true :=
  World.applyAll_induction
    (P := fun w => (w.stored path).isSome = true ∧ (w.drive path).isSome = true)
    (fun _ e he hw => isSome_apply (hes e he) hw.1 hw.2) ⟨hstored, hdrive⟩

/-- Only the clean-up stage removes media. -/
theorem RunOf.not_removes {k : Stage} {ctx : JobRunContext} {job : ProvisioningJob} {w : World}
    {run : HandlerRun} (h : RunOf k ctx job w run) (hk : k ≠ .cleanupUnattendedMedia)
    {e : Effect} (he : e ∈ run.effects) (path : String) : ¬e.removes path := by
  intro hr
  have hmedia : e.media = true := by rcases hr with rfl | rfl <;> rfl
  rcases h.media he hmedia with ⟨-, p, hp⟩ | ⟨hcleanup, -⟩
  · rcases hr with rfl | rfl <;> rcases hp with hp | hp <;> cases hp
  · exact hk hcleanup

namespace IsoAttached

variable {d d' : Deployment}

theorem of_same (h : IsoAttached d)
    (hart : d'.job.stepArtifacts .prepareUnattendedInstall =
      d.job.stepArtifacts .prepareUnattendedInstall) (hworld : d'.world = d.world) :
    IsoAttached d' := by
  obtain ⟨path, hpath, hiso⟩ := h
  exact ⟨path, by rw [hart]; exact hpath, by rw [hworld]; exact hiso⟩

/-- A step that keeps the record and removes nothing. -/
theorem of_effects (h : IsoAttached d)
    (hart : d'.job.stepArtifacts .prepareUnattendedInstall =
      d.job.stepArtifacts .prepareUnattendedInstall) {t : List Effect}
    (hworld : d'.world = d.world.applyAll t) (hes : ∀ e ∈ t, ∀ p, ¬e.removes p) :
    IsoAttached d' := by
  obtain ⟨path, hpath, hstored, hdrive⟩ := h
  refine ⟨path, by rw [hart]; exact hpath, ?_⟩
  rw [hworld]
  exact World.isSome_applyAll hes hstored hdrive

end IsoAttached

/-! ## Releases -/

/-- A release that does not reach the drive leaves everything as it is. -/
theorem release_of_not_detaches {a : RemovalAnswers} (ha : a.detaches = false)
    (ctx : JobRunContext) (reason : String) (d : Deployment) :
    (releaseUnattendedMedia ctx reason a d).1 = d := by
  unfold releaseUnattendedMedia
  dsimp only
  split
  · rfl
  · split
    · rfl
    · split
      · rfl
      · cases a with
        | unreachable error => rfl
        | detachFails error => rfl
        | deleteFails error => cases ha
        | removes => cases ha

/-- A release whose removal is whole leaves everything as it is, or says what it did. -/
theorem release_of_not_detachesOnly {a : RemovalAnswers} (ha : a.detachesOnly = false)
    (ctx : JobRunContext) (reason : String) (d : Deployment) :
    (releaseUnattendedMedia ctx reason a d).1 = d ∨
      mayHoldUnattendedMedia d.job = true ∧ (releaseUnattendedMedia ctx reason a d).1.job =
        d.job.setStep .prepareUnattendedInstall (releasedStep (booted d.job) reason) := by
  cases a with
  | unreachable error => exact .inl (release_of_not_detaches rfl ctx reason d)
  | detachFails error => exact .inl (release_of_not_detaches rfl ctx reason d)
  | deleteFails error => cases ha
  | removes =>
    cases hmay : mayHoldUnattendedMedia d.job with
    | false => exact .inl (by rw [releaseUnattendedMedia_of_not_mayHold hmay])
    | true =>
      cases hvm : requireVmId ctx d.job with
      | ok vmId => exact .inr ⟨rfl, releaseUnattendedMedia_of_succeeds hmay rfl hvm⟩
      | error error =>
        refine .inl ?_
        unfold releaseUnattendedMedia
        dsimp only
        split
        · rfl
        · split
          · rfl
          · rw [hvm]

/-- Windows has not booted from the media that the job may hold. -/
structure BeforeBoot (job : ProvisioningJob) : Prop where
  waiting : job.stepDone .powerOn = false
  prepared : mayHoldUnattendedMedia job = true →
    job.stepStatus .prepareUnattendedInstall = some .succeeded

theorem BeforeBoot.not_booted {job : ProvisioningJob} (h : BeforeBoot job) :
    booted job = false := by
  have hwaiting := h.waiting
  rw [ProvisioningJob.stepDone_eq] at hwaiting
  unfold booted
  cases hst : job.stepStatus .powerOn with
  | none => rfl
  | some st => cases st <;> simp_all [StepStatus.done]

theorem BeforeBoot.of_kept {job job' : ProvisioningJob} (h : BeforeBoot job)
    (hdone : KeepsDone job job') (hmedia : KeepsMedia job job') : BeforeBoot job' where
  waiting := (hdone.done _).trans h.waiting
  prepared hmay := hmedia.succeeded hmay (h.prepared (hmedia.held hmay))

section Release

variable {d : Deployment} {a : RemovalAnswers} (h : IsoAttached d) (hb : BeforeBoot d.job)
  (ha : mayHoldUnattendedMedia d.job = true → a.detachesOnly = false)
include h hb ha

/-- **A release that leaves the preparation done leaves the ISO attached.** -/
theorem IsoAttached.release (ctx : JobRunContext) (reason : String)
    (hdone : (releaseUnattendedMedia ctx reason a d).1.job.stepDone .prepareUnattendedInstall =
      true) : IsoAttached (releaseUnattendedMedia ctx reason a d).1 := by
  cases hmay : mayHoldUnattendedMedia d.job with
  | false =>
    rw [releaseUnattendedMedia_of_not_mayHold hmay]
    exact h
  | true =>
    rcases release_of_not_detachesOnly (ha hmay) ctx reason d with hsame | ⟨-, hjob⟩
    · rw [hsame]
      exact h
    · -- the preparation has been reset
      have hreset : (releaseUnattendedMedia ctx reason a d).1.job.stepStatus
          .prepareUnattendedInstall = some .pending := by
        have hsucceeded := hb.prepared hmay
        obtain ⟨step, hstep, hstatus⟩ := Option.map_eq_some_iff.mp hsucceeded
        rw [hjob]
        simp [ProvisioningJob.stepStatus, hstep, releasedStep_status, hstatus, hb.not_booted]
      rw [ProvisioningJob.stepDone_eq, hreset] at hdone
      cases hdone

theorem IsoAttached.handleFailure {k : Stage} (hk : d.job.stepDone k = false) (ctx : JobRunContext)
    (f : InfraOperationError) (screenshot : Option String) (now : Timestamp)
    (hdone : (handleFailure ctx k f screenshot a now d).job.stepDone .prepareUnattendedInstall =
      true) : IsoAttached (handleFailure ctx k f screenshot a now d) := by
  obtain ⟨records, hjob, hworld⟩ := handleFailure_eq ctx k f screenshot a now d
  have hmedia := KeepsMedia.failJob hk f screenshot now
  have hfailed : IsoAttached { d with job := failJob k f screenshot now d.job, records } :=
    h.of_same (failJob_stepArtifacts rfl k f screenshot now d.job) rfl
  rw [hjob] at hdone
  have hreleased := hfailed.release (hb.of_kept (.failJob hk f screenshot now) hmedia)
    (fun hmay => ha (hmedia.held hmay)) ctx _ hdone
  exact hreleased.of_same (by rw [hjob]) hworld

theorem IsoAttached.applyCancellation (ctx : JobRunContext) (now : Timestamp)
    (hdone : (applyCancellation ctx a now d).job.stepDone .prepareUnattendedInstall = true) :
    IsoAttached (applyCancellation ctx a now d) := by
  rw [stepDone_map cancelStatus_done (applyCancellation_stepStatus ctx a now d _)] at hdone
  exact (h.release hb ha ctx "job cancelled" hdone).of_same
    (applyCancellation_stepArtifacts ctx a now d _) (applyCancellation_world ctx a now d)

theorem IsoAttached.cancelStage {k : Stage} (hk : d.job.stepDone k = false) (ctx : JobRunContext)
    (now : Timestamp)
    (hdone : (cancelStage ctx k a now d).job.stepDone .prepareUnattendedInstall = true) :
    IsoAttached (cancelStage ctx k a now d) := by
  have hmedia := KeepsMedia.cancelledStep hk now
  exact IsoAttached.applyCancellation (d := { d with job := d.job.setStep k (cancelledStep now) })
    (h.of_same (SameMedia.cancelledStep k now d.job).artifacts rfl)
    (hb.of_kept (.cancelledStep hk now) hmedia) (fun hmay => ha (hmedia.held hmay)) ctx now hdone

end Release

/-- A release whose transaction is lost, and that did not reach the drive. -/
theorem releasing_of_not_detaches {d : Deployment} {removal : Option RemovalAnswers}
    (h : mayHoldUnattendedMedia d.job = true → removal.any RemovalAnswers.detaches = false)
    (ctx : JobRunContext) : releasing d ctx removal = d.world := by
  cases removal with
  | none => rfl
  | some a =>
    show (releaseUnattendedMedia ctx "" a d).1.world = d.world
    cases hmay : mayHoldUnattendedMedia d.job with
    | false => rw [releaseUnattendedMedia_of_not_mayHold hmay]
    | true => rw [release_of_not_detaches (h hmay)]

/-! ## One step -/

/-- What is known of the media before Windows boots: they are attached once the preparation
is done, and no abandoned thread takes them away. -/
structure BootInv (s : RunState) : Prop where
  attached : s.job.stepDone .prepareUnattendedInstall = true → s.job.stepDone .powerOn = false →
    IsoAttached s.toDeployment
  inFlight : s.job.stepDone .powerOn = false → ∀ es ∈ s.inFlight, ∀ e ∈ es, ∀ p, ¬e.removes p

/-- Whatever is in flight was, or belongs to the handler that the step cut. -/
theorem Transition.inFlight {s s' : RunState} {ev : Event} (h : Transition s ev s')
    {es : List Effect} (hes : es ∈ s'.inFlight) {e : Effect} (he : e ∈ es) :
    (∃ fs ∈ s.inFlight, e ∈ fs) ∨ ∃ k rest ctx run, s.exec = .stage k rest ctx ∧
      RunOf k ctx s.job s.world run ∧ e ∈ run.effects := by
  have hcut : ∀ {k rest ctx answers run cut}, s.exec = .stage k rest ctx →
      runHandler k ctx s.job s.world answers = some run →
      es ∈ s.inFlight ++ [run.effectsAfter cut] →
      (∃ fs ∈ s.inFlight, e ∈ fs) ∨ ∃ k rest ctx run, s.exec = .stage k rest ctx ∧
        RunOf k ctx s.job s.world run ∧ e ∈ run.effects := by
    intro k rest ctx answers run cut hexec hrun hes
    rcases List.mem_append.mp hes with hes | hes
    · exact .inl ⟨es, hes, he⟩
    · rw [List.mem_singleton.mp hes] at he
      exact .inr ⟨k, rest, ctx, run, hexec, runHandler_runOf hrun, HandlerRun.mem_effectsAfter he⟩
  have haborted : ∀ {abort s₁}, s.aborted abort = some s₁ → es ∈ s₁.inFlight →
      (∃ fs ∈ s.inFlight, e ∈ fs) ∨ ∃ k rest ctx run, s.exec = .stage k rest ctx ∧
        RunOf k ctx s.job s.world run ∧ e ∈ run.effects := by
    intro abort s₁ habort hes
    unfold aborted at habort
    split at habort
    · cases habort
      exact .inl ⟨es, hes, he⟩
    · cases habort
      exact .inl ⟨es, hes, he⟩
    · rename_i k rest ctx hexec
      obtain ⟨run, hrun, rfl⟩ := Option.map_eq_some_iff.mp habort
      exact hcut hexec hrun hes
    · cases habort
  cases h with
  | timedOut hexec hrun => exact hcut hexec hrun hes
  | cancelledWithin hexec hevent hrun => exact hcut hexec hrun hes
  | crashed hexec hclaimed habort => exact haborted habort hes
  | interrupted habort hstatus => exact haborted habort hes
  | abandoned habort hstatus => exact haborted habort hes
  | landed hflight =>
    rcases List.mem_or_eq_of_mem_set hes with hes | rfl
    · exact .inl ⟨es, hes, he⟩
    · exact .inl ⟨_, List.mem_of_getElem? hflight, by simp [he]⟩
  | _ => exact .inl ⟨es, hes, he⟩

/-- A handler that runs before Windows boots is not the clean-up stage. -/
theorem RunInv.ne_cleanup {s : RunState} (hi : RunInv s) {k : Stage} {rest : List Stage}
    {ctx : JobRunContext} (hexec : s.exec = .stage k rest ctx)
    (hpower : s.job.stepDone .powerOn = false) : k ≠ .cleanupUnattendedMedia := by
  rintro rfl
  have hbefore := (hi.stage hexec).before .powerOn (by decide)
  rw [hpower] at hbefore
  cases hbefore

section Step

variable {s s' : RunState} {e : Event} (hi : RunInv s)
  (hpower : s.job.stepDone .powerOn = false)
include hi hpower

/-- A handler that starts or goes on while the ISO is attached leaves it attached. -/
theorem IsoAttached.of_handler (h : IsoAttached s.toDeployment) {k : Stage} {rest : List Stage}
    {ctx : JobRunContext} {run : HandlerRun} (hexec : s.exec = .stage k rest ctx)
    (hrun : RunOf k ctx s.job s.world run) {as : List Assignment}
    (has : ∀ a ∈ as, a ∈ run.assignments) {es : List Effect} (hes : ∀ e ∈ es, e ∈ run.effects)
    {d : Deployment} (hjob : d.job = applyAssignments s.job as)
    (hworld : d.world = s.world.applyAll es) : IsoAttached d := by
  have hk := hi.ne_cleanup hexec hpower
  refine h.of_effects ?_ hworld fun e he p => hrun.not_removes hk (hes e he) p
  rw [hjob]
  exact (SameMedia.assignments (fun hx => hk (hrun.mediaRemoved (has _ hx))) s.job).artifacts

/-- What is left of an aborted run. -/
theorem IsoAttached.aborted (h : IsoAttached s.toDeployment) {abort : Abort} {s₁ : RunState}
    (habort : s.aborted abort = some s₁)
    (ha : mayHoldUnattendedMedia s.job = true →
      abort.removal.any RemovalAnswers.detaches = false) : IsoAttached s₁.toDeployment := by
  unfold RunState.aborted at habort
  split at habort
  · cases habort
    exact h
  · rename_i rest ctx hexec
    cases habort
    exact h.of_same rfl (releasing_of_not_detaches ha ctx)
  · rename_i k rest ctx hexec
    obtain ⟨run, hrun, rfl⟩ := Option.map_eq_some_iff.mp habort
    have hcut : IsoAttached (s.cutAt run abort.cut) :=
      h.of_handler hi hpower hexec (runHandler_runOf hrun)
        (fun _ => HandlerRun.mem_assignmentsBefore) (fun _ => HandlerRun.mem_effectsBefore) rfl rfl
    have hheld : mayHoldUnattendedMedia (s.cutAt run abort.cut).job = true →
        abort.removal.any RemovalAnswers.detaches = false :=
      fun hmay => ha ((KeepsMedia.assignments s.job _).held hmay)
    refine hcut.of_effects (t := []) ?_ (releasing_of_not_detaches hheld ctx) (by simp)
    have hk := hi.ne_cleanup hexec hpower
    exact ((SameMedia.assignments (fun hx => hk ((runHandler_runOf hrun).mediaRemoved
      (HandlerRun.mem_assignmentsBefore hx))) s.job).artifacts).symm
  · cases habort

/-- **A step that leaves the preparation done leaves the ISO attached.** -/
theorem IsoAttached.step (hm : MediaInv s) (hb : BootInv s) (hc : losesMedia s e = false)
    (h : Transition s e s')
    (hprepared : s.job.stepDone .prepareUnattendedInstall = true)
    (hdone : s'.job.stepDone .prepareUnattendedInstall = true) : IsoAttached s'.toDeployment := by
  have ha := hb.attached hprepared hpower
  have hbefore : BeforeBoot s.job := ⟨hpower, hm.prepared⟩
  have hbooted := hbefore.not_booted
  have hassigned : ∀ as, BeforeBoot (applyAssignments s.job as) :=
    fun as => hbefore.of_kept (.assignments s.job as) (.assignments s.job as)
  have hheld : ∀ as, mayHoldUnattendedMedia (applyAssignments s.job as) = true →
      mayHoldUnattendedMedia s.job = true := fun as => (KeepsMedia.assignments s.job as).held
  cases h with
  | started hexec hstatus => exact ha.of_same (SameMedia.ensureSteps s.job).artifacts rfl
  | @startFailed now error hexec hstatus =>
    exact ha.of_same ((SameMedia.ensureSteps s.job).trans (.failBeforePipeline error now
      { s.toDeployment with job := ensureSteps s.job })).artifacts rfl
  | cancelledBetween hexec hrow hnot hcancel =>
    refine ha.applyCancellation hbefore (fun hmay => ?_) _ _ hdone
    simpa [losesMedia, marks, hexec, hmay, hbooted, Option.isNone_eq_false_iff.mpr hrow, hnot,
      hcancel, Mark.terminal] using hc
  | startedStage hexec hrow hnot hcancel =>
    exact ha.of_same (SameMedia.startStage _ _ s.job).artifacts rfl
  | @returned now answers removal screenshot k rest ctx run outcome hexec hrun hresult =>
    -- the preparation is done, so the running stage is another one
    have hne : k ≠ .prepareUnattendedInstall := by
      rintro rfl
      rw [(hi.stage hexec).notDone] at hprepared
      cases hprepared
    have hran : IsoAttached (s.ranTo run) := ha.of_handler hi hpower hexec
      (runHandler_runOf hrun) (fun _ => id) (fun _ => id) rfl rfl
    exact hran.of_same (finishStage_stepArtifacts_ne (Ne.symm hne) outcome now _) rfl
  | @raised now answers removal screenshot k rest ctx run raised hexec hrun hresult =>
    have hran : IsoAttached (s.ranTo run) := ha.of_handler hi hpower hexec
      (runHandler_runOf hrun) (fun _ => id) (fun _ => id) rfl rfl
    refine hran.handleFailure (hassigned _) (fun hmay => ?_)
      ((hi.stage hexec).assignments run.assignments).notDone _ _ _ _ hdone
    simpa [losesMedia, marks, hexec, hrun, hresult, hheld _ hmay, hbooted, Mark.terminal] using hc
  | @timedOut now answers cut seconds removal screenshot k rest ctx run hexec hrun =>
    have hcut : IsoAttached (s.cutAt run cut) := ha.of_handler hi hpower hexec
      (runHandler_runOf hrun) (fun _ => HandlerRun.mem_assignmentsBefore)
      (fun _ => HandlerRun.mem_effectsBefore) rfl rfl
    refine hcut.handleFailure (hassigned _) (fun hmay => ?_)
      ((hi.stage hexec).assignments (run.assignmentsBefore cut)).notDone _ _ _ _ hdone
    simpa [losesMedia, marks, hexec, hheld _ hmay, hbooted, Mark.terminal] using hc
  | @cancelledWithin now answers cut removal k rest ctx run hexec hevent hrun =>
    have hcut : IsoAttached (s.cutAt run cut) := ha.of_handler hi hpower hexec
      (runHandler_runOf hrun) (fun _ => HandlerRun.mem_assignmentsBefore)
      (fun _ => HandlerRun.mem_effectsBefore) rfl rfl
    refine hcut.cancelStage (hassigned _) (fun hmay => ?_)
      ((hi.stage hexec).assignments (run.assignmentsBefore cut)).notDone _ _ hdone
    simpa [losesMedia, marks, hexec, hheld _ hmay, hbooted, Mark.terminal] using hc
  | @crashed now abort s₁ hexec hclaimed habort =>
    have haborted := ha.aborted hi hpower habort fun hmay => by
      simpa [losesMedia, hmay, hbooted] using hc
    exact haborted.of_same (SameMedia.failBeforePipeline pipelineCrashed now _).artifacts rfl
  | @interrupted now reason abort s₁ habort hstatus =>
    have haborted := ha.aborted hi hpower habort fun hmay => by
      simpa [losesMedia, hmay, hbooted] using hc
    exact haborted.of_same (SameMedia.interrupt reason now _).artifacts rfl
  | @abandoned now reason abort s₁ habort hstatus =>
    have haborted := ha.aborted hi hpower habort fun hmay => by
      simpa [losesMedia, hmay, hbooted] using hc
    exact haborted.of_same rfl rfl
  | @cleanedUp now contextBuilt removal hexec =>
    cases contextBuilt with
    | true =>
      exact ha.release hbefore (fun hmay => by simpa [losesMedia, hmay, hbooted] using hc) _ _ hdone
    | false => exact ha
  -- a thread left over from before the boot removes nothing
  | @landed now thread e es hflight =>
    have hstays := hb.inFlight hpower _ (List.mem_of_getElem? hflight) e (by simp)
    exact ha.of_effects (t := [e]) rfl rfl (by simpa using hstays)
  | cancelled hjob => exact ha.of_same (SameMedia.cancelJob hjob).artifacts rfl
  | retried hjob => exact ha.of_same (SameMedia.retryStages hjob).artifacts rfl
  | _ => exact ha.of_same rfl rfl

end Step

/-! ## Every run -/

theorem BootInv.step {s s' : RunState} {e : Event} (hi : RunInv s) (hm : MediaInv s)
    (hb : BootInv s) (hc : losesMedia s e = false) (hstep : jobRun.step s e = some s') :
    BootInv s' := by
  have htrans := transition_of_step hstep
  -- a boot is never undone
  have hwaiting : s'.job.stepDone .powerOn = false → s.job.stepDone .powerOn = false := by
    intro hnot
    rw [← Bool.not_eq_true]
    intro hdone
    cases (Transition.undone hm.row hstep hdone hnot).1
  refine ⟨fun hdone hnot => ?_, fun hnot es hes e' he p => ?_⟩
  · rcases htrans.done hi hdone with hprepared | hreturned
    · exact IsoAttached.step hi (hwaiting hnot) hm hb hc htrans hprepared hdone
    -- the preparation has just ended well: it has uploaded and attached its ISO
    · obtain ⟨rest, ctx, run, outcome, now, hexec, hrun, hresult, -, hjob, hworld⟩ := hreturned.exec
      cases hrun with
      | prepare hk a =>
        obtain ⟨path, -, heffects, -, hart⟩ := stagePrepare_ok hresult
        have hrow := row_applyAssignments (hm.row _ _ _ hexec).1
        refine ⟨path, ?_, ?_, ?_⟩
        · rw [hjob, finishStage_stepArtifacts_self outcome now (hrow _), hart, update_single,
            Artifacts.str?_insert_self]
        · simp [hworld, heffects, World.apply]
        · simp [hworld, heffects, World.apply]
      | other hk a ha => exact absurd rfl hk.2.1
      | _ hk => cases hk
  · rcases htrans.inFlight hes he with ⟨fs, hfs, he⟩ | ⟨k, rest, ctx, run, hexec, hrun, he⟩
    · exact hb.inFlight (hwaiting hnot) fs hfs e' he p
    · exact hrun.not_removes (hi.ne_cleanup hexec (hwaiting hnot)) he p

theorem startsOwned_of_bootsPrepared (s : RunState) (e : Event) (h : bootsPrepared s e = true) :
    startsOwned s e = true := by
  rw [bootsPrepared, Bool.and_eq_true] at h
  exact h.1

theorem bootInv {s : RunState}
    (hs : jobRun.ReachableUnder (fun s e => bootsPrepared s e = true) s) : BootInv s := by
  refine hs.invariant (fun s h0 => ?_) fun s e s' hr hb hc hstep => ?_
  · refine ⟨fun hdone => ?_, fun _ es hes => ?_⟩
    · simp [ProvisioningJob.stepDone, h0.steps] at hdone
    · rw [h0.inFlight] at hes
      cases hes
  · rw [bootsPrepared, Bool.and_eq_true, Bool.not_eq_eq_eq_not, Bool.not_true] at hc
    exact hb.step (runInv startsOwned_of_bootsPrepared hr) (mediaInv hr) hc.2 hstep

/-- A stage is started behind the stages before it. -/
theorem done_before_handler {s : RunState} (hi : RunInv s) {e : Event} {k k' : Stage}
    (howned : startsOwned s e = true) (h : marks s e = [.handler k])
    (hlt : stageIndex k' < stageIndex k) : s.job.stepDone k' = true := by
  obtain ⟨⟨rest, ctx, hexec⟩, hnot, hcancel, removal, haction⟩ := startsHandler_of_marks h
  have hstatus : s.job.status = .running := by
    simpa [startsOwned, hexec, haction, hnot, hcancel] using howned
  have hin := hi.loop hexec
  obtain ⟨m, hm⟩ := hin.suffix
  obtain ⟨hidx, -⟩ := stageIndex_of_drop hm.symm
  refine hin.passed hstatus k' ?_
  rw [hm, mem_drop_orderedStages]
  omega

/-- **Setup never boots without its answer file**, in the runs in which a stage is started
only while the row is `RUNNING` and no release of a job that has not booted detaches the
drive without a row that says so. -/
theorem boots_with_answer_iso {s : RunState}
    (hs : jobRun.ReachableUnder (fun s e => bootsPrepared s e = true) s) {e : Event}
    (hc : bootsPrepared s e = true) (hstart : marks s e = [.handler .powerOn]) :
    IsoAttached s.toDeployment :=
  (bootInv hs).attached
    (done_before_handler (runInv startsOwned_of_bootsPrepared hs)
      (startsOwned_of_bootsPrepared s e hc) hstart (by decide))
    (startsHandler_of_marks hstart).notDone

/-- `power_on` fails, the removal detaches the drive and cannot delete the file. -/
def failsDetached : List Event :=
  [⟨0, .next .removes⟩,
    ⟨0, .finish (.other { result := .error (.other "boom") })
      (.deleteFails { humanMessage := "", reason := "", recommendedAction := "" }) none⟩]

/-- The retry powers on without the ISO. -/
theorem boots_without_answer_iso : ∃ s e, jobRun.Reachable s ∧ marks s e = [.handler .powerOn] ∧
    ¬IsoAttached s.toDeployment := by
  obtain ⟨s, hs, hp⟩ := Machine.exists_reachable_of_run (m := jobRun)
    (p := fun s => marks s ⟨0, .next .removes⟩ == [.handler .powerOn] &&
      ((s.job.stepArtifacts .prepareUnattendedInstall).str? .datastorePath).all fun path =>
        (s.world.drive path).isNone)
    (RunState.submitted_spec "j1" { vmName := "web01" })
    (show ((jobRun.run _ (runsStages 0 (orderedStages.take 7) ++ failsDetached ++ retryAll ::
      runsStages 7 [])).any _) = true by decide +kernel)
  rw [Bool.and_eq_true, beq_iff_eq] at hp
  refine ⟨s, _, hs, hp.1, ?_⟩
  rintro ⟨path, hpath, -, hdrive⟩
  rw [hpath] at hp
  simp only [Option.all_some, Option.isNone_iff_eq_none] at hp
  simp [hp.2] at hdrive

/-- `power_on` fails, the removal is whole, and the retry prepares anew. -/
theorem boots_with_answer_iso_retried : ∃ s e, jobRun.Reachable s ∧
    marks s e = [.handler .powerOn] ∧ s.job.attempt .prepareUnattendedInstall = 2 ∧
    IsoAttached s.toDeployment := by
  obtain ⟨s, hs, hp⟩ := Machine.exists_reachableUnder_of_run (m := jobRun) (c := bootsPrepared)
    (p := fun s => marks s ⟨0, .next .removes⟩ == [.handler .powerOn] &&
      s.job.attempt .prepareUnattendedInstall == 2 && bootsPrepared s ⟨0, .next .removes⟩)
    (RunState.submitted_spec "j1" { vmName := "web01" })
    (show ((jobRun.runUnder _ _ (runsStages 0 (orderedStages.take 7) ++ failsNext ++ retryAll ::
      runsStages 6 [.prepareUnattendedInstall])).any _) = true by decide +kernel)
  simp only [Bool.and_eq_true, beq_iff_eq] at hp
  exact ⟨s, _, hs.reachable, hp.1.1, hp.1.2, boots_with_answer_iso hs hp.2 hp.1.1⟩

end InfraOps
