import InfraOps.JobRun.Rename

/-!
# The restart after a domain join

`join_domain` keeps the restart that it needs in the artifacts of its step, where
`configure_hostname` keeps it in the context of the run. No interruption loses it: a `COMPLETED`
job with a domain join runs under its requested name, as long as `join_domain` is told the name
that Windows has.
-/

namespace InfraOps

open JobRepository RunState

/-! ## The artifacts of a finished step -/

section Artifacts

variable {k : Stage}

theorem applyAssignments_stepArtifacts (hk : k ≠ .prepareUnattendedInstall)
    (job : ProvisioningJob) (as : List Assignment) :
    (applyAssignments job as).stepArtifacts k = job.stepArtifacts k := by
  refine applyAssignments_induction (P := fun j => j.stepArtifacts k = job.stepArtifacts k) ?_ rfl
  intro j a _ hj
  cases a with
  | mediaRemoved => exact (ProvisioningJob.stepArtifacts_setStep_ne _ hk).trans hj
  | _ => exact hj

theorem handleFailure_stepArtifacts (hk : k ≠ .prepareUnattendedInstall)
    (hconsole : k.console = false) (ctx : JobRunContext) (k' : Stage) (f : InfraOperationError)
    (screenshot : Option String) (removal : RemovalAnswers) (now : Timestamp) (d : Deployment) :
    (handleFailure ctx k' f screenshot removal now d).job.stepArtifacts k =
      d.job.stepArtifacts k := by
  obtain ⟨records, hjob, -⟩ := handleFailure_eq ctx k' f screenshot removal now d
  rw [hjob, release_stepArtifacts_ne _ _ _ _ hk]
  exact failJob_stepArtifacts hconsole k' f screenshot now d.job

theorem cancelled_stepArtifacts (hk : k ≠ .prepareUnattendedInstall) (ctx : JobRunContext)
    (removal : RemovalAnswers) (now : Timestamp) (d : Deployment) :
    (applyCancellation ctx removal now d).job.stepArtifacts k = d.job.stepArtifacts k := by
  rw [applyCancellation_stepArtifacts, release_stepArtifacts_ne _ _ _ _ hk]

theorem cancelJob_stepArtifacts {job job' : ProvisioningJob} {now : Timestamp}
    (h : cancelJob job now = .ok job') (k : Stage) :
    job'.stepArtifacts k = job.stepArtifacts k := by
  rcases cancelJob_ok h with ⟨-, -, rfl⟩ | ⟨-, -, rfl⟩
  · rfl
  · exact requestCancel_stepArtifacts job now k

/-- **A finished step keeps its artifacts**, whatever happens to the job. -/
theorem Transition.keepsArtifacts {s s' : RunState} {e : Event} (hs : RunInv s)
    (h : Transition s e s') (hk : k ≠ .prepareUnattendedInstall) (hconsole : k.console = false)
    (hd : s.job.stepDone k = true) : s'.job.stepArtifacts k = s.job.stepArtifacts k := by
  have hassigned := applyAssignments_stepArtifacts hk s.job
  cases h with
  | started => exact ensureSteps_stepArtifacts s.job k
  | startFailed =>
    rw [failBeforePipeline_stepArtifacts]
    exact ensureSteps_stepArtifacts s.job k
  | cancelledBetween => exact cancelled_stepArtifacts hk _ _ _ s.toDeployment
  | startedStage => exact startStage_stepArtifacts _ _ s.job k
  | @returned now answers removal screenshot k' rest ctx run outcome hexec hrun hresult =>
    -- the running stage is not done
    have hne : k ≠ k' := by
      rintro rfl
      have hrunning := (hs.stage hexec).running
      rw [ProvisioningJob.stepDone_eq, hrunning] at hd
      cases hd
    exact (finishStage_stepArtifacts_ne hne outcome now _).trans (hassigned run.assignments)
  | raised =>
    exact (handleFailure_stepArtifacts hk hconsole _ _ _ _ _ _ _).trans (hassigned _)
  | timedOut =>
    exact (handleFailure_stepArtifacts hk hconsole _ _ _ _ _ _ _).trans (hassigned _)
  | @cancelledWithin now answers cut removal k' rest ctx run =>
    refine (cancelled_stepArtifacts hk _ removal now _).trans ?_
    exact (ProvisioningJob.stepArtifacts_setStep (f := cancelledStep now) (fun _ => rfl) k).trans
      (hassigned _)
  | crashed hexec hclaimed habort =>
    rw [failBeforePipeline_stepArtifacts, (aborted_spec habort).1]
  | interrupted habort hstatus =>
    rw [interrupt_stepArtifacts, (aborted_spec habort).1]
  | abandoned habort hstatus => rw [(aborted_spec habort).1]
  | cleanedUp hexec =>
    unfold InfraOps.cleanUp
    split
    · exact release_stepArtifacts_ne _ _ _ _ hk
    · rfl
  | cancelled hjob => exact cancelJob_stepArtifacts hjob k
  | retried hjob =>
    obtain ⟨-, stageKeys, hrequeued⟩ := retryStages_requeued hjob
    exact hrequeued.stepArtifacts k
  | _ => rfl

end Artifacts

/-! ## The name of a computer -/

/-- Windows does not tell names apart by case. -/
def World.RunsAs (w : World) (name : String) : Prop := w.activeName.toLower = name.toLower

/-- No other name than `name` is taken at the next start. -/
def World.MayTake (w : World) (name : String) : Prop :=
  w.pendingName = none ∨ w.pendingName = some name

section Names

variable {name : String} {w : World} {e : Effect} {es : List Effect}

theorem World.MayTake.apply (hw : w.MayTake name) (he : e.namesOnly name) :
    (w.apply e).MayTake name := by
  cases e with
  | rename other =>
    obtain rfl := he other rfl
    by_cases hname : other = w.activeName
    · simpa [World.MayTake, World.apply, hname] using hw
    · exact .inr (by simp [World.apply, hname])
  | restart => exact .inl rfl
  | _ => exact hw

theorem World.RunsAs.apply (h : w.RunsAs name) (hw : w.MayTake name) (he : e.namesOnly name) :
    (w.apply e).RunsAs name := by
  cases e with
  | rename other =>
    by_cases hname : other = w.activeName
    · simpa [World.RunsAs, World.apply, hname] using h
    · simpa [World.RunsAs, World.apply, hname] using h
  | restart =>
    rcases hw with hnone | hsome
    · simpa [World.RunsAs, World.apply, hnone] using h
    · simp [World.RunsAs, World.apply, hsome]
  | _ => exact h

theorem World.RunsAs.applyAll (h : w.RunsAs name) (hw : w.MayTake name)
    (hes : ∀ e ∈ es, e.namesOnly name) : (w.applyAll es).RunsAs name :=
  (World.applyAll_induction (P := fun w => w.MayTake name ∧ w.RunsAs name)
    (fun _ e he hw => ⟨hw.1.apply (hes e he), hw.2.apply hw.1 (hes e he)⟩) ⟨hw, h⟩).2

/-- A name that is to be taken is taken by a restart, if not kept. -/
theorem World.takes_applyAll (h : w.pendingName = some name)
    (hes : ∀ e ∈ es, e.namesOnly name) :
    (w.applyAll es).RunsAs name ∨ (w.applyAll es).pendingName = some name := by
  refine (World.applyAll_induction (P := fun w => w.MayTake name ∧
    (w.RunsAs name ∨ w.pendingName = some name)) ?_ ⟨.inr h, .inr h⟩).2
  rintro w e he ⟨hw, hruns | hpending⟩
  · exact ⟨hw.apply (hes e he), .inl (hruns.apply hw (hes e he))⟩
  · refine ⟨hw.apply (hes e he), ?_⟩
    have hnames := hes e he
    cases e with
    | rename other =>
      obtain rfl := hnames other rfl
      by_cases hname : other = w.activeName
      · exact .inr (by simpa [World.apply, hname] using hpending)
      · exact .inr (by simp [World.apply, hname])
    | restart => exact .inl (by simp [World.RunsAs, World.apply, hpending])
    | _ => exact .inr hpending

end Names

/-! ## The two stages -/

/-- The artifacts of an accepted join, or of an identity that Windows already has. -/
theorem stageJoinDomain_ok {ctx : JobRunContext} {a : JoinAnswers} {outcome : StageOutcome}
    (hjoin : ctx.request.domainJoin.isSome = true)
    (h : (stageJoinDomain ctx a).result = .ok outcome) :
    ∃ st, a.identity = .ok st ∧
      (st.name.toLower = ctx.request.effectiveComputerName.toUpper.toLower ∧
          (stageJoinDomain ctx a).effects = [] ∨
        (stageJoinDomain ctx a).effects = [.rename ctx.request.effectiveComputerName.toUpper] ∧
          outcome.artifacts.lookup .joined = some (.bool true) ∧
          outcome.artifacts.lookup .rebootRequired = some (.bool true)) := by
  obtain ⟨join, hjoin⟩ := Option.isSome_iff_exists.mp hjoin
  unfold stageJoinDomain at h ⊢
  simp only [hjoin] at h ⊢
  split at h
  · cases h
  · cases h
  rename_i st _ hidentity
  refine ⟨st, hidentity, ?_⟩
  split at h
  · cases h
  rename_i hpending
  rw [if_neg hpending]
  split at h
  · -- the identity is the requested one, and so is its name
    rename_i hmatches
    rw [if_pos hmatches]
    simp only [WindowsIdentityState.isFor, Bool.and_eq_true, beq_iff_eq] at hmatches
    exact .inl ⟨hmatches.1.1.1.2, rfl⟩
  rename_i hmatches
  rw [if_neg hmatches]
  split at h
  · cases h
  rename_i hmember
  rw [if_neg hmember]
  split at h
  · cases h
  unfold addComputer at h ⊢
  dsimp only at h ⊢
  split at h
  · cases h
  · cases h
  · rename_i stdout hsucceeds
    cases h
    simp only [hsucceeds]
    by_cases hname : st.name.toLower = ctx.request.effectiveComputerName.toUpper.toLower
    · exact .inl ⟨hname, by simp [HandlerRun.effects, hname]⟩
    · refine .inr ⟨by simp [HandlerRun.effects, hname, ScriptAnswer.effects], ?_, ?_⟩
      · exact AList.lookup_insert _
      · simp [joinedArtifacts, AList.lookup_insert_ne]

/-- A due restart counts like a rename in this run. -/
theorem stageRebootGuest_restarts {ctx : JobRunContext} {job : ProvisioningJob}
    {a : RebootAnswers} {outcome : StageOutcome} (hrequired : joinedRequiresReboot job = true)
    (h : (stageRebootGuest ctx job a).result = .ok outcome) :
    (stageRebootGuest ctx job a).effects = [.restart] := by
  have hrenamed : stageRebootGuest ctx job a =
      stageRebootGuest { ctx with hostnameChanged := true } job a := by
    simp only [stageRebootGuest, hrequired, Bool.or_true]
  rw [hrenamed] at h ⊢
  exact stageRebootGuest_ok rfl h

/-- A join that was accepted by a step is due a restart once the step is finished. -/
theorem joinedRequiresReboot_of_finished {job job' : ProvisioningJob} {artifacts : Artifacts}
    (hjob : job'.stepArtifacts .joinDomain = (job.stepArtifacts .joinDomain).update artifacts)
    (hjoined : artifacts.lookup .joined = some (.bool true))
    (hreboot : artifacts.lookup .rebootRequired = some (.bool true)) :
    joinedRequiresReboot job' = true := by
  unfold joinedRequiresReboot
  rw [hjob]
  simp [Artifacts.has, Artifacts.lookup_update, hjoined, hreboot, Json.truthy]

/-! ## One step -/

/-- `join_domain` ends only after it has been told the name that Windows has. -/
def readsName (s : RunState) (e : Event) : Bool :=
  match s.exec, e.action with
  | .stage .joinDomain _ _, .finish (.join a) _ _ =>
    match a.identity with
    | .ok st => st.name == s.world.activeName
    | .error _ => true
  | _, _ => true

def keepsName (s : RunState) (e : Event) : Bool := startsOwned s e && readsName s e

structure MemberInv (s : RunState) : Prop where
  ctx : CtxInv s
  takes : s.world.MayTake s.computerName
  inFlight : ∀ es ∈ s.inFlight, ∀ e ∈ es, e.namesOnly s.computerName
  joined : s.job.stepDone .joinDomain = true → s.world.RunsAs s.computerName ∨
    s.world.pendingName = some s.computerName ∧ joinedRequiresReboot s.job = true
  restarted : s.job.stepDone .rebootGuest = true → s.world.RunsAs s.computerName

theorem MemberInv.namesOnly {s : RunState} (hs : MemberInv s) {e : Effect} (h : e.From s) :
    e.namesOnly s.computerName := by
  intro other he
  subst he
  cases h with
  | @handler k rest ctx run hexec hrun he =>
    rw [hrun.rename he, hs.ctx ctx (by rw [hexec]; rfl)]
    rfl
  | release he => rcases he with h | h <;> cases h
  | thread hes he => exact hs.inFlight _ hes _ he _ rfl

/-- A step that finishes `join_domain` is the end of its handler. -/
theorem Transition.joined {s s' : RunState} {e : Event} (hi : RunInv s) (h : Transition s e s')
    (hnot : s.job.stepDone .joinDomain = false) (hd : s'.job.stepDone .joinDomain = true) :
    ∃ rest ctx a removal screenshot outcome now, s.exec = .stage .joinDomain rest ctx ∧
      e.action = .finish (.join a) removal screenshot ∧
      (stageJoinDomain ctx a).result = .ok outcome ∧
      s'.job = finishStage .joinDomain outcome now
        (applyAssignments s.job (stageJoinDomain ctx a).assignments) ∧
      s'.world = s.world.applyAll (stageJoinDomain ctx a).effects := by
  rcases h.done hi hd with hdone | hret
  · rw [hnot] at hdone
    cases hdone
  obtain ⟨answers, removal, screenshot, haction⟩ := hret.action
  obtain ⟨rest, ctx, -, -, -, hexec, -, -, -, -, -⟩ := hret.exec
  cases h with
  | @returned now answers' removal' screenshot' k rest' ctx' run outcome hexec' hrun hresult =>
    obtain ⟨rfl, rfl, rfl⟩ : Stage.joinDomain = k ∧ rest = rest' ∧ ctx = ctx' := by
      have heq := hexec.symm.trans hexec'
      cases heq
      exact ⟨rfl, rfl, rfl⟩
    cases answers' with
    | join a =>
      obtain rfl : stageJoinDomain ctx a = run := Option.some.inj hrun
      exact ⟨rest, ctx, a, removal', screenshot', outcome, now, hexec, rfl, hresult, rfl, rfl⟩
    | _ => cases hrun
  | @raised now answers' removal' screenshot' k rest' ctx' run raised hexec' hrun hresult =>
    obtain rfl : Stage.joinDomain = k := by
      have heq := hexec.symm.trans hexec'
      cases heq
      rfl
    have hran : (s.ranTo run).job.stepDone .joinDomain = false :=
      ((applyAssignments_steps s.job run.assignments .joinDomain).2).trans hnot
    have hdone := done_of_handleFailure hran hd
    rw [hran] at hdone
    cases hdone
  | notOwned haction' =>
    rcases haction' with hstart | ⟨error, hfails⟩
    · cases haction.symm.trans hstart
    · cases haction.symm.trans hfails
  | _ => cases haction

/-- A `join_domain` that ends well leaves the name there or to be taken, and then it is due a
restart. -/
theorem MemberInv.joined_of_finished {s s' : RunState} {e : Event} (hi : RunInv s)
    (hs : MemberInv s) (hjoin : s.request.domainJoin.isSome = true)
    (hc : readsName s e = true) (h : Transition s e s')
    (hnot : s.job.stepDone .joinDomain = false) (hd : s'.job.stepDone .joinDomain = true) :
    s'.world.RunsAs s.computerName ∨
      s'.world.pendingName = some s.computerName ∧ joinedRequiresReboot s'.job = true := by
  obtain ⟨rest, ctx, a, removal, screenshot, outcome, now, hexec, haction, hresult, hjob, hworld⟩ :=
    h.joined hi hnot hd
  have hrequest := hs.ctx ctx (by rw [hexec]; rfl)
  obtain ⟨st, hidentity, hend⟩ := stageJoinDomain_ok (hrequest ▸ hjoin) hresult
  rw [hrequest] at hend
  have hname : st.name = s.world.activeName := by
    simpa [readsName, hexec, haction, hidentity] using hc
  rcases hend with ⟨hsame, heffects⟩ | ⟨heffects, hjoined, hreboot⟩
  · rw [hworld, heffects]
    rw [hname] at hsame
    exact .inl hsame
  · rw [hworld, heffects, World.applyAll_cons, World.applyAll_nil]
    by_cases hactive : s.computerName = s.world.activeName
    · refine .inl ?_
      simp only [RunState.computerName] at hactive ⊢
      simp [World.RunsAs, World.apply, hactive]
    · refine .inr ⟨?_, ?_⟩
      · simp only [RunState.computerName] at hactive ⊢
        simp [World.apply, hactive]
      · have hrow : ((applyAssignments s.job
            (stageJoinDomain ctx a).assignments).steps .joinDomain).isSome = true := by
          rw [(applyAssignments_steps s.job _ .joinDomain).1]
          exact isSome_steps_iff.trans ((hi.stage hexec).rows .joinDomain)
        rw [hjob]
        exact joinedRequiresReboot_of_finished
          (finishStage_stepArtifacts_self outcome now hrow) hjoined hreboot

/-- A `reboot_guest` that ends well leaves the name there. -/
theorem MemberInv.restarted_of_finished {s : RunState} (hs : MemberInv s)
    {rest : List Stage} {ctx : JobRunContext} {run : HandlerRun} {outcome : StageOutcome}
    (hexec : s.exec = .stage .rebootGuest rest ctx)
    (hdone : s.job.stepDone .joinDomain = true)
    (hrun : RunOf .rebootGuest ctx s.job s.world run) (hresult : run.result = .ok outcome) :
    (s.world.applyAll run.effects).RunsAs s.computerName := by
  have hnames : ∀ e ∈ run.effects, e.namesOnly s.computerName := fun e he =>
    hs.namesOnly (.handler hexec hrun he)
  rcases hs.joined hdone with hruns | ⟨hpending, hrequired⟩
  · exact hruns.applyAll hs.takes hnames
  · cases hrun with
    | reboot hk a =>
      rw [stageRebootGuest_restarts hrequired hresult, World.applyAll_cons, World.applyAll_nil]
      simp [World.RunsAs, World.apply, hpending]
    | other hk a ha => exact absurd rfl hk.2.2.2.2.2
    | _ hk => cases hk

theorem MemberInv.step {s s' : RunState} {e : Event} (hi : RunInv s) (hs : MemberInv s)
    (hjoin : s.request.domainJoin.isSome = true) (hc : readsName s e = true)
    (h : Transition s e s') : MemberInv s' := by
  have hname : s'.computerName = s.computerName := by
    rw [RunState.computerName, h.request]
    rfl
  obtain ⟨⟨es, hworld, hes⟩, hflight⟩ := h.outside
  have hnames : ∀ e ∈ es, e.namesOnly s.computerName := fun e he => hs.namesOnly (hes e he)
  refine ⟨hs.ctx.step h, ?_, ?_, fun hd => ?_, fun hd => ?_⟩
  all_goals rw [hname]
  · rw [hworld]
    exact World.applyAll_induction (P := fun w => w.MayTake s.computerName)
      (fun _ e he hw => hw.apply (hnames e he)) hs.takes
  · exact fun es hes e he => hs.namesOnly (hflight es hes e he)
  · by_cases hdone : s.job.stepDone .joinDomain = true
    · have hkept : joinedRequiresReboot s'.job = joinedRequiresReboot s.job := by
        unfold joinedRequiresReboot
        rw [h.keepsArtifacts hi (by decide) rfl hdone]
      rw [hworld, hkept]
      rcases hs.joined hdone with hruns | ⟨hpending, hrequired⟩
      · exact .inl (hruns.applyAll hs.takes hnames)
      · exact (World.takes_applyAll hpending hnames).imp_right fun h => ⟨h, hrequired⟩
    · exact hs.joined_of_finished hi hjoin hc h (by simpa using hdone) hd
  · rcases h.done hi hd with hdone | hret
    · rw [hworld]
      exact (hs.restarted hdone).applyAll hs.takes hnames
    · obtain ⟨rest, ctx, run, outcome, now, hexec, hrun, hresult, -, -, hworld'⟩ := hret.exec
      rw [hworld']
      exact hs.restarted_of_finished hexec ((hi.stage hexec).before .joinDomain (by decide))
        hrun hresult

/-! ## Every run -/

theorem memberInv {s : RunState}
    (hs : jobRun.ReachableUnder (fun s e => keepsName s e = true) s)
    (hjoin : s.request.domainJoin.isSome = true) : MemberInv s := by
  refine hs.invariant (I := fun s => s.request.domainJoin.isSome = true → MemberInv s)
    (fun s h0 _ => ?_) (fun s e s' hr hi hc hstep hjoin => ?_) hjoin
  · have hdone : ∀ k, s.job.stepDone k = false := fun k => by
      simp [ProvisioningJob.stepDone, h0.steps]
    refine ⟨fun ctx hctx => ?_, .inl h0.pendingName, by simp [h0.inFlight], fun hd => ?_,
      fun hd => ?_⟩
    · rw [h0.idle] at hctx
      cases hctx
    · rw [hdone] at hd
      cases hd
    · rw [hdone] at hd
      cases hd
  · have htrans := transition_of_step hstep
    rw [htrans.request] at hjoin
    simp only [keepsName, Bool.and_eq_true] at hc
    exact .step (runInv (fun s e hc => by simp_all [keepsName]) hr) (hi hjoin) hjoin hc.2 htrans

/-- **A domain member runs under its name.** A `COMPLETED` job with a domain join has a computer
that runs under the requested name, in every run in which stages are started on a `RUNNING` row
and `join_domain` is told the name that Windows has: no interruption, retry, timeout or late
thread loses the restart. -/
theorem completed_member_has_restarted {s : RunState}
    (hs : jobRun.ReachableUnder (fun s e => keepsName s e = true) s)
    (hjoin : s.request.domainJoin.isSome = true) (hstatus : s.job.status = .completed) :
    s.world.RunsAs s.computerName := by
  have hi : RunInv s := runInv (fun s e hc => by simp_all [keepsName]) hs
  have hphase := hi.phase
  refine (memberInv hs hjoin).restarted ?_
  cases hexec : s.exec with
  | idle =>
    rw [hexec] at hphase
    exact hphase.completed hstatus _ (by decide)
  | releasing =>
    rw [hexec] at hphase
    exact hphase.completed hstatus _ (by decide)
  | claimed =>
    rw [hexec] at hphase
    rw [hphase.1] at hstatus
    cases hstatus
  | loop rest ctx => exact absurd hstatus (hi.loop hexec).notCompleted
  | stage k rest ctx =>
    rw [(hi.stage hexec).status] at hstatus
    cases hstatus

/-- The worker stops in `reboot_guest`, after `join_domain` was accepted. -/
def interruptedAfterJoin : List Event :=
  runsStages 0 (orderedStages.take 16) ++
    [⟨0, .next .removes⟩,
      ⟨0, .finish (.join { identity := .ok ⟨"WIN-SETUP", "WORKGROUP", false, "WIN-SETUP",
        "WIN-SETUP", false⟩ }) .removes none⟩,
      ⟨0, .next .removes⟩,
      ⟨0, .interrupt workerStopped { answers := .reboot { bootTime := .succeeds "2024-01-02" } }⟩,
      ⟨0, .cleanUp true .removes⟩, retryAll]

/-- The retried run does not join again, and restarts the guest. -/
theorem completed_member_has_restarted_retried : ∃ s, jobRun.Reachable s ∧
    s.job.status = .completed ∧ s.job.attempt .joinDomain = 1 ∧
    s.world.RunsAs s.computerName := by
  obtain ⟨s, hs, hp⟩ := Machine.exists_reachableUnder_of_run (m := jobRun) (c := keepsName)
    (p := fun s => s.request.domainJoin.isSome && s.job.status == .completed &&
      s.job.attempt .joinDomain == 1)
    (RunState.submitted_spec "j1"
      { vmName := "web01", domainJoin := some { domain := "corp.example.com" } })
    (show ((jobRun.runUnder _ _ (interruptedAfterJoin ++ runsStages 17 (orderedStages.drop 17) ++
      [⟨0, .next .removes⟩])).any _) = true by decide +kernel)
  simp only [Bool.and_eq_true, beq_iff_eq] at hp
  obtain ⟨⟨hjoin, hstatus⟩, hattempt⟩ := hp
  exact ⟨s, hs.reachable, hstatus, hattempt, completed_member_has_restarted hs hjoin hstatus⟩

end InfraOps
