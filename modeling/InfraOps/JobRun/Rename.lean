import InfraOps.JobRun.Attempts
import InfraOps.JobRun.Phases

/-!
# The restart after a rename

`configure_hostname` renames the computer and remembers it in the run context;
`reboot_guest` restarts the guest if the context remembers a rename. Here is what a
`COMPLETED` job owes to that flag: without a domain join, no rename is left pending as long
as whichever run executes `reboot_guest` under a pending rename still remembers it.
-/

namespace InfraOps

open JobRepository RunState

/-! ## The computer name under the effects of a job -/

/-- The effect renames the computer to nothing but `name`. -/
def Effect.namesOnly (name : String) (e : Effect) : Prop :=
  ∀ other, e = .rename other → other = name

/-- What renames to one `name` and restarts leave: a pending name is `name`, and a computer
that has it has no name pending. -/
structure NameInv (name : String) (w : World) : Prop where
  pending : w.pendingName = none ∨ w.pendingName = some name
  settled : w.activeName = name → w.pendingName = none

/-- The computer has the name, or takes it at its next start. -/
def RenamedTo (name : String) (w : World) : Prop := w.activeName = name ∨ w.pendingName = some name

section Names

variable {name : String} {w : World} {e : Effect}

theorem NameInv.apply (hw : NameInv name w) (he : e.namesOnly name) : NameInv name (w.apply e) := by
  cases e with
  | rename other =>
    have heq := he other rfl
    subst heq
    by_cases hname : other = w.activeName
    · simpa [World.apply, hname] using hw
    · refine ⟨.inr (by simp [World.apply, hname]), fun hactive => ?_⟩
      simp only [World.apply, hname, if_false] at hactive
      exact absurd hactive.symm hname
  | restart => exact ⟨.inl rfl, fun _ => rfl⟩
  | _ => exact ⟨hw.pending, hw.settled⟩

theorem RenamedTo.apply (h : RenamedTo name w) (hw : NameInv name w) (he : e.namesOnly name) :
    RenamedTo name (w.apply e) := by
  cases e with
  | rename other =>
    have heq := he other rfl
    subst heq
    by_cases hname : other = w.activeName
    · simpa [World.apply, hname] using h
    · exact .inr (by simp [World.apply, hname])
  | restart =>
    rcases h with hactive | hpending
    · exact .inl (by simp [World.apply, hw.settled hactive, hactive])
    · exact .inl (by simp [World.apply, hpending])
  | _ => exact h

/-- A computer that has the name keeps it. -/
theorem activeName_apply (h : w.activeName = name) (hw : NameInv name w)
    (he : e.namesOnly name) : (w.apply e).activeName = name := by
  cases e with
  | rename other =>
    have heq := he other rfl
    subst heq
    simp [World.apply, h]
  | restart => simp [World.apply, hw.settled h, h]
  | _ => exact h

end Names

section Names

variable {name : String} {w : World} {es : List Effect}

theorem NameInv.applyAll (hw : NameInv name w) (hes : ∀ e ∈ es, e.namesOnly name) :
    NameInv name (w.applyAll es) :=
  World.applyAll_induction (P := NameInv name) (fun _ e he hw => hw.apply (hes e he)) hw

theorem RenamedTo.applyAll (h : RenamedTo name w) (hw : NameInv name w)
    (hes : ∀ e ∈ es, e.namesOnly name) : RenamedTo name (w.applyAll es) :=
  (World.applyAll_induction (P := fun w => NameInv name w ∧ RenamedTo name w)
    (fun _ e he hw => ⟨hw.1.apply (hes e he), hw.2.apply hw.1 (hes e he)⟩) ⟨hw, h⟩).2

theorem activeName_applyAll (h : w.activeName = name) (hw : NameInv name w)
    (hes : ∀ e ∈ es, e.namesOnly name) : (w.applyAll es).activeName = name :=
  (World.applyAll_induction (P := fun w => NameInv name w ∧ w.activeName = name)
    (fun _ e he hw => ⟨hw.1.apply (hes e he), activeName_apply hw.2 hw.1 (hes e he)⟩) ⟨hw, h⟩).2

end Names

/-! ## The request of a run -/

/-- The name that the request gives the computer. -/
def RunState.computerName (s : RunState) : String := s.request.effectiveComputerName.toUpper

/-- The context of the run, while there is one. -/
def Exec.context? : Exec → Option JobRunContext
  | .loop _ ctx | .stage _ _ ctx => some ctx
  | _ => none

/-- The context of a run carries the request of its job. -/
def CtxInv (s : RunState) : Prop := ∀ ctx, s.exec.context? = some ctx → ctx.request = s.request

@[simp] theorem assignContext_request (ctx : JobRunContext) (as : List Assignment) :
    (assignContext ctx as).request = ctx.request := by
  unfold assignContext
  induction as generalizing ctx with
  | nil => rfl
  | cons a as ih =>
    rw [List.foldl_cons, ih]
    cases a <;> rfl

theorem Transition.request {s s' : RunState} {e : Event} (h : Transition s e s') :
    s'.request = s.request := by
  cases h with
  | crashed hexec hclaimed habort => exact (aborted_spec habort).2.2.1
  | interrupted habort hstatus => exact (aborted_spec habort).2.2.1
  | abandoned habort hstatus => exact (aborted_spec habort).2.2.1
  | _ => rfl

theorem afterStage_context {k : Stage} {rest : List Stage} {ctx ctx' : JobRunContext}
    {d : Deployment} (h : (afterStage k rest ctx d).context? = some ctx') : ctx' = ctx := by
  unfold afterStage at h
  split at h
  · cases h
  · cases h
    rfl

theorem CtxInv.step {s s' : RunState} {e : Event} (hs : CtxInv s) (h : Transition s e s') :
    CtxInv s' := by
  have hstage : ∀ {k rest ctx as}, s.exec = .stage k rest ctx →
      (assignContext ctx as).request = s.request := by
    intro k rest ctx as hexec
    rw [assignContext_request]
    exact hs ctx (by rw [hexec]; rfl)
  intro ctx' hctx
  cases h with
  | started hexec hstatus =>
    cases hctx
    rfl
  | @beatLoop now rest ctx hexec hstatus =>
    cases hctx
    exact hs ctx (by rw [hexec]; rfl)
  | @beatStage now k rest ctx hexec hstatus =>
    cases hctx
    exact hs ctx (by rw [hexec]; rfl)
  | skipped hexec hskip =>
    cases hctx
    exact hs _ (by rw [hexec]; rfl)
  | startedStage hexec hrow hdone hcancel =>
    cases hctx
    exact hs _ (by rw [hexec]; rfl)
  | returned hexec hrun hresult => exact afterStage_context hctx ▸ hstage hexec
  | raised hexec hrun hresult => exact afterStage_context hctx ▸ hstage hexec
  | timedOut hexec hrun => exact afterStage_context hctx ▸ hstage hexec
  | cancelledWithin hexec hevent hrun => exact afterStage_context hctx ▸ hstage hexec
  | landed hflight => exact hs ctx' hctx
  | cancelled hjob => exact hs ctx' hctx
  | retried hjob => exact hs ctx' hctx
  | _ => cases hctx

/-! ## One step -/

/-- `reboot_guest` ends only in a run that remembers the rename, if one is pending. -/
def rebootSeesRename (s : RunState) (e : Event) : Bool :=
  match s.exec, e.action with
  | .stage .rebootGuest _ ctx, .finish _ _ _ => s.world.pendingName.isNone || ctx.hostnameChanged
  | _, _ => true

def keepsRename (s : RunState) (e : Event) : Bool := startsOwned s e && rebootSeesRename s e

structure RenameInv (s : RunState) : Prop where
  ctx : CtxInv s
  names : NameInv s.computerName s.world
  inFlight : ∀ es ∈ s.inFlight, ∀ e ∈ es, e.namesOnly s.computerName
  renamed : s.job.stepDone .configureHostname = true → RenamedTo s.computerName s.world
  restarted : s.job.stepDone .rebootGuest = true → s.world.activeName = s.computerName

theorem RenameInv.namesOnly {s : RunState} (hs : RenameInv s) {e : Effect} (h : e.From s) :
    e.namesOnly s.computerName := by
  intro other he
  subst he
  cases h with
  | @handler k rest ctx run hexec hrun he =>
    rw [hrun.rename he, hs.ctx ctx (by rw [hexec]; rfl)]
    rfl
  | release he => rcases he with h | h <;> cases h
  | thread hes he => exact hs.inFlight _ hes _ he _ rfl

/-- A `configure_hostname` that ends well leaves the computer renamed. -/
theorem renamedTo_of_configured {ctx : JobRunContext} {job : ProvisioningJob} {w : World}
    {run : HandlerRun} {outcome : StageOutcome} (hrun : RunOf .configureHostname ctx job w run)
    (hjoin : ctx.request.domainJoin = none) (hresult : run.result = .ok outcome) :
    RenamedTo ctx.request.effectiveComputerName.toUpper (w.applyAll run.effects) := by
  cases hrun with
  | hostname hk a =>
    rcases stageConfigureHostname_ok hjoin hresult with ⟨hname, heffects, -⟩ | ⟨heffects, -⟩
    · rw [heffects]
      exact .inl hname
    · rw [heffects, World.applyAll_cons, World.applyAll_nil]
      -- renaming to the running name leaves nothing pending
      by_cases hname : ctx.request.effectiveComputerName.toUpper = w.activeName
      · exact .inl (by simp [World.apply, hname])
      · exact .inr (by simp [World.apply, hname])
  | other hk a ha => exact absurd rfl hk.2.2.2.1
  | _ hk => cases hk

/-- A `reboot_guest` that ends well only restarts, and does so when its run renamed. -/
theorem restarted_of_rebooted {ctx : JobRunContext} {job : ProvisioningJob} {w : World}
    {run : HandlerRun} {outcome : StageOutcome} (hrun : RunOf .rebootGuest ctx job w run)
    (hresult : run.result = .ok outcome) {name : String} (hw : NameInv name w)
    (hrenamed : RenamedTo name w) (hsees : w.pendingName = none ∨ ctx.hostnameChanged = true) :
    (w.applyAll run.effects).activeName = name := by
  cases hrun with
  | reboot hk a =>
    rcases hsees with hnone | hchanged
    · have hactive : w.activeName = name := by
        rcases hrenamed with h | h
        · exact h
        · rw [hnone] at h; cases h
      refine activeName_applyAll hactive hw fun e he other heq => ?_
      rw [heq] at he
      cases stageRebootGuest_effects he
    · rw [stageRebootGuest_ok hchanged hresult, World.applyAll_cons, World.applyAll_nil]
      rcases hrenamed with h | h
      · simp [World.apply, hw.settled h, h]
      · simp [World.apply, h]
  | other hk a ha => exact absurd rfl hk.2.2.2.2.2
  | _ hk => cases hk

theorem RenameInv.step {s s' : RunState} {e : Event} (hi : RunInv s) (hs : RenameInv s)
    (hjoin : s.request.domainJoin = none) (hc : keepsRename s e = true)
    (h : Transition s e s') : RenameInv s' := by
  have hname : s'.computerName = s.computerName := by
    rw [RunState.computerName, h.request]
    rfl
  obtain ⟨⟨es, hworld, hes⟩, hflight⟩ := h.outside
  have hnames : ∀ e ∈ es, e.namesOnly s.computerName := fun e he => hs.namesOnly (hes e he)
  refine ⟨hs.ctx.step h, ?_, ?_, fun hd => ?_, fun hd => ?_⟩
  all_goals rw [hname]
  · rw [hworld]
    exact hs.names.applyAll hnames
  · exact fun es hes e he => hs.namesOnly (hflight es hes e he)
  -- a step that is done was done before, or its stage has just ended well
  · rcases h.done hi hd with hd | hret
    · rw [hworld]
      exact (hs.renamed hd).applyAll hs.names hnames
    · obtain ⟨rest, ctx, run, outcome, now, hexec, hrun, hresult, -, -, hworld'⟩ := hret.exec
      have hrequest := hs.ctx ctx (by rw [hexec]; rfl)
      rw [hworld', RunState.computerName, ← hrequest]
      exact renamedTo_of_configured hrun (by rw [hrequest]; exact hjoin) hresult
  · rcases h.done hi hd with hd | hret
    · rw [hworld]
      exact activeName_applyAll (hs.restarted hd) hs.names hnames
    · obtain ⟨rest, ctx, run, outcome, now, hexec, hrun, hresult, -, -, hworld'⟩ := hret.exec
      obtain ⟨answers, removal, screenshot, haction⟩ := hret.action
      have hsees : s.world.pendingName = none ∨ ctx.hostnameChanged = true := by
        simpa [keepsRename, rebootSeesRename, hexec, haction, startsOwned] using hc
      rw [hworld']
      exact restarted_of_rebooted hrun hresult hs.names
        (hs.renamed ((hi.stage hexec).before .configureHostname (by decide))) hsees

/-! ## Every run -/

theorem renameInv {s : RunState}
    (hs : jobRun.ReachableUnder (fun s e => keepsRename s e = true) s)
    (hjoin : s.request.domainJoin = none) : RenameInv s := by
  refine hs.invariant (I := fun s => s.request.domainJoin = none → RenameInv s)
    (fun s h0 _ => ?_) (fun s e s' hr hi hc hstep hjoin => ?_) hjoin
  · have hdone : ∀ k, s.job.stepDone k = false := fun k => by
      simp [ProvisioningJob.stepDone, h0.steps]
    refine ⟨fun ctx hctx => ?_, ⟨.inl h0.pendingName, fun _ => h0.pendingName⟩,
      by simp [h0.inFlight], fun hd => ?_, fun hd => ?_⟩
    · rw [h0.idle] at hctx; cases hctx
    · rw [hdone] at hd; cases hd
    · rw [hdone] at hd; cases hd
  · have htrans := transition_of_step hstep
    rw [htrans.request] at hjoin
    exact .step (runInv (fun s e hc => by simp_all [keepsRename]) hr) (hi hjoin) hjoin hc htrans

/-- **No rename is left pending**: without a domain join, a `COMPLETED` job has a computer
that runs under its requested name, in every run in which stages are started on a `RUNNING`
row and `reboot_guest` never ends, while a rename is pending, in a run that has forgotten
it. -/
theorem completed_job_has_restarted {s : RunState}
    (hs : jobRun.ReachableUnder (fun s e => keepsRename s e = true) s)
    (hjoin : s.request.domainJoin = none) (hstatus : s.job.status = .completed) :
    s.world.pendingName = none ∧ s.world.activeName = s.computerName := by
  have hi : RunInv s := runInv (fun s e hc => by simp_all [keepsRename]) hs
  have hinv := renameInv hs hjoin
  have hphase := hi.phase
  have hdone : s.job.stepDone .rebootGuest = true := by
    cases hexec : s.exec with
    | idle => rw [hexec] at hphase; exact hphase.completed hstatus _ (by decide)
    | releasing => rw [hexec] at hphase; exact hphase.completed hstatus _ (by decide)
    | claimed => rw [hexec] at hphase; rw [hphase.1] at hstatus; cases hstatus
    | loop rest ctx => exact absurd hstatus (hi.loop hexec).notCompleted
    | stage k rest ctx => rw [(hi.stage hexec).status] at hstatus; cases hstatus
  have hactive := hinv.restarted hdone
  exact ⟨hinv.names.settled hactive, hactive⟩

/-- The worker stops in `join_domain`, after `configure_hostname` renamed the computer. -/
def interruptedAfterRename : List Event :=
  runsStages 0 (orderedStages.take 16) ++
    [⟨0, .next .removes⟩,
      ⟨0, .interrupt workerStopped { answers := .join { identity := .error (.other "") } }⟩,
      ⟨0, .cleanUp true .removes⟩, retryAll]

/-- The retried run skips the rename, skips the restart and completes: the server is
delivered under the name of its installation. -/
theorem completed_job_keeps_pending_name : ∃ s, jobRun.Reachable s ∧
    s.request.domainJoin = none ∧ s.job.status = .completed ∧
    s.job.stepStatus .rebootGuest = some .skipped ∧ s.world.activeName = "WIN-SETUP" ∧
    s.world.pendingName = some s.computerName := by
  obtain ⟨s, hs, hp⟩ := Machine.exists_reachable_of_run (m := jobRun)
    (p := fun s => s.request.domainJoin.isNone && s.job.status == .completed &&
      s.job.stepStatus .rebootGuest == some .skipped && s.world.activeName == "WIN-SETUP" &&
      s.world.pendingName == some s.computerName)
    (RunState.submitted_spec "j1" { vmName := "web01" })
    (show ((jobRun.run _ (interruptedAfterRename ++ runsStages 16 (orderedStages.drop 16) ++
      [⟨0, .next .removes⟩])).any _) = true by decide +kernel)
  simp only [Bool.and_eq_true, beq_iff_eq, Option.isNone_iff_eq_none] at hp
  obtain ⟨⟨⟨⟨hjoin, hstatus⟩, hstep⟩, hactive⟩, hpending⟩ := hp
  exact ⟨s, hs, hjoin, hstatus, hstep, hactive, hpending⟩

/-- A run that fails before the rename, and whose retry renames and restarts. -/
theorem completed_job_has_restarted_retried : ∃ s, jobRun.Reachable s ∧
    s.job.status = .completed ∧ s.world.pendingName = none ∧
    s.world.activeName = s.computerName := by
  obtain ⟨s, hs, hp⟩ := Machine.exists_reachableUnder_of_run (m := jobRun) (c := keepsRename)
    (p := fun s => s.request.domainJoin.isNone && s.job.status == .completed)
    (RunState.submitted_spec "j1" { vmName := "web01" })
    (show ((jobRun.runUnder _ _ (runsStages 0 (orderedStages.take 14) ++ failsNext ++ [retryAll] ++
      runsStages 14 (orderedStages.drop 14) ++ [⟨0, .next .removes⟩])).any _) = true by
      decide +kernel)
  simp only [Bool.and_eq_true, beq_iff_eq, Option.isNone_iff_eq_none] at hp
  exact ⟨s, hs.reachable, hp.2, completed_job_has_restarted hs hp.1 hp.2⟩

end InfraOps
