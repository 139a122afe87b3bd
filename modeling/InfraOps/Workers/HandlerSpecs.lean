import InfraOps.Repositories.Jobs
import InfraOps.Workers.Stages

/-!
# What the handlers do

For each handler, what it does outside and to its context: which effects and assignments
occur in it, under any answers, and what a successful end implies.
-/

namespace InfraOps

/-! ## Effects of the media -/

/-- The effect touches the answer ISO or its drive. -/
def Effect.media : Effect → Bool
  | .upload _ _ | .attach _ _ | .detach _ | .delete _ => true
  | _ => false

/-- The effect removes the ISO or the drive of `path`. -/
def Effect.removes (path : String) (e : Effect) : Prop := e = .detach path ∨ e = .delete path

/-- The effect writes the ISO or the drive of the attempt. -/
def Effect.prepares (attempt : Nat) (e : Effect) : Prop :=
  ∃ path, e = .upload path attempt ∨ e = .attach path attempt

theorem ScriptAnswer.mem_effects {a : ScriptAnswer} {e e' : Effect} (h : e' ∈ a.effects e) :
    e' = e := by
  unfold ScriptAnswer.effects at h
  split at h
  · simpa using h
  · split at h <;> simp_all
  · split at h <;> simp_all

theorem mem_removeAnswerMedia {path : String} {a : RemovalAnswers} {e : Effect}
    (h : e ∈ (removeAnswerMedia path a).1) : e.removes path := by
  cases a <;> simp_all [removeAnswerMedia, Effect.removes]

/-! ## `create_vm` -/

theorem stageCreateVm_effects (ctx : JobRunContext) (job : ProvisioningJob)
    (a : CreateVmAnswers) : (stageCreateVm ctx job a).effects = [] := by
  unfold stageCreateVm
  cases a with
  | existing ref owner => dsimp only; split <;> rfl
  | _ => rfl

/-- A created or adopted VM has its identifier recorded. -/
theorem stageCreateVm_ok {ctx : JobRunContext} {job : ProvisioningJob} {a : CreateVmAnswers}
    {outcome : StageOutcome} (h : (stageCreateVm ctx job a).result = .ok outcome) :
    ∃ id, outcome.artifacts.str? .vmId = some id ∧ id ≠ "" := by
  unfold stageCreateVm at h
  cases a with
  | existing ref owner =>
    dsimp only at h
    split at h
    · cases h
    · cases h
      exact ⟨ref.id, by simp, ref.id_ne⟩
  | creates ref datastoreId placement =>
    cases h
    exact ⟨ref.id, by simp, ref.id_ne⟩
  | _ => cases h

/-! ## `prepare_unattended_install` -/

theorem stagePrepare_effects {ctx : JobRunContext} {job : ProvisioningJob} {w : World}
    {a : PrepareAnswers} {e : Effect}
    (h : e ∈ (stagePrepareUnattendedInstall ctx job w a).effects) :
    e.prepares (job.attempt .prepareUnattendedInstall) := by
  unfold stagePrepareUnattendedInstall at h
  split at h
  · simp [HandlerRun.effects] at h
  · split at h
    · simp [HandlerRun.effects] at h
    · dsimp only at h
      split at h
      · exact mem_attachAnswerMedia (by simpa [HandlerRun.effects] using h)
      · exact mem_attachAnswerMedia (by simpa [HandlerRun.effects] using h)

theorem stagePrepare_assignments (ctx : JobRunContext) (job : ProvisioningJob) (w : World)
    (a : PrepareAnswers) : (stagePrepareUnattendedInstall ctx job w a).assignments = [] := by
  unfold stagePrepareUnattendedInstall
  split
  · rfl
  · split
    · rfl
    · dsimp only
      split <;> rfl

/-- A successful preparation uploaded and attached its ISO, and records only its path. -/
theorem stagePrepare_ok {ctx : JobRunContext} {job : ProvisioningJob} {w : World}
    {a : PrepareAnswers} {outcome : StageOutcome}
    (h : (stagePrepareUnattendedInstall ctx job w a).result = .ok outcome) :
    ∃ path, path ≠ "" ∧
      (stagePrepareUnattendedInstall ctx job w a).effects =
        [.upload path (job.attempt .prepareUnattendedInstall),
          .attach path (job.attempt .prepareUnattendedInstall)] ∧
      outcome.status = .succeeded ∧
      outcome.artifacts = (∅ : Artifacts).insert .datastorePath (.str path) := by
  unfold stagePrepareUnattendedInstall at h ⊢
  split at h
  · cases h
  · split at h
    · cases h
    · dsimp only at h ⊢
      split at h
      · cases h
      · rename_i path hpath
        cases h
        obtain ⟨heffects, hne⟩ := attachAnswerMedia_ok hpath
        simp_all [HandlerRun.effects]

/-! ## `cleanup_unattended_media` -/

theorem cleanupGuest_calls {a : CleanupAnswers} {lines : List String} {status : OutcomeStatus} :
    (∀ e ∈ (cleanupGuest a lines status).effects, e = .restart) ∧
      (cleanupGuest a lines status).assignments = [] := by
  unfold cleanupGuest
  split
  · exact ⟨by simp [HandlerRun.effects], rfl⟩
  · split
    · exact ⟨by simp [HandlerRun.effects], rfl⟩
    · split
      · exact ⟨by simp [HandlerRun.effects], rfl⟩
      · dsimp only
        split
        all_goals
          refine ⟨fun e he => ?_, rfl⟩
          exact ScriptAnswer.mem_effects (by simpa [HandlerRun.effects] using he)

theorem cleanupDetach_calls {a : CleanupAnswers} {lines : List String} :
    (∀ e ∈ (cleanupDetach a lines).effects, e = .restart) ∧
      (cleanupDetach a lines).assignments = [] := by
  unfold cleanupDetach
  split
  · exact ⟨by simp [HandlerRun.effects], rfl⟩
  · exact cleanupGuest_calls
  · exact cleanupGuest_calls

/-- The calls of a clean-up stage that got past the removal. -/
structure RemovedFirst (job : ProvisioningJob) (run : HandlerRun) (path : String) : Prop where
  recorded : (job.stepArtifacts .prepareUnattendedInstall).str? .datastorePath = some path
  calls : ∃ rest : HandlerRun,
    run.calls = ⟨[.detach path, .delete path], [.mediaRemoved]⟩ :: rest.calls ∧
      (∀ e ∈ rest.effects, e = .restart) ∧ rest.assignments = []

/-- **The clean-up stage** without recorded media restarts the guest and assigns nothing;
with recorded media it stops at the removal, or has removed the media first of all. -/
theorem stageCleanup_cases (ctx : JobRunContext) (job : ProvisioningJob) (a : CleanupAnswers) :
    ((job.stepArtifacts .prepareUnattendedInstall).str? .datastorePath = none ∧
        (∀ e ∈ (stageCleanupUnattendedMedia ctx job a).effects, e = .restart) ∧
        (stageCleanupUnattendedMedia ctx job a).assignments = []) ∨
      (∃ path, (job.stepArtifacts .prepareUnattendedInstall).str? .datastorePath = some path ∧
        (∀ e ∈ (stageCleanupUnattendedMedia ctx job a).effects, e.removes path) ∧
        (stageCleanupUnattendedMedia ctx job a).assignments = [] ∧
        ∃ raised, (stageCleanupUnattendedMedia ctx job a).result = .error raised) ∨
      ∃ path, RemovedFirst job (stageCleanupUnattendedMedia ctx job a) path := by
  cases hpath : (job.stepArtifacts .prepareUnattendedInstall).str? .datastorePath with
  | none =>
    refine .inl ⟨rfl, ?_⟩
    unfold stageCleanupUnattendedMedia
    cases requireVmId ctx job with
    | error error => exact ⟨by simp [HandlerRun.effects], rfl⟩
    | ok vmId =>
      simp only [hpath]
      exact cleanupDetach_calls
  | some path =>
    cases hvm : requireVmId ctx job with
    | error error =>
      refine .inr (.inl ⟨path, rfl, ?_⟩)
      simp [stageCleanupUnattendedMedia, hvm, HandlerRun.effects, HandlerRun.assignments]
    | ok vmId =>
      cases hremoval : (removeAnswerMedia path a.removal).2 with
      | some error =>
        refine .inr (.inl ⟨path, rfl, ?_⟩)
        simp only [stageCleanupUnattendedMedia, hvm, hpath, hremoval, HandlerRun.effects,
          HandlerRun.assignments]
        refine ⟨fun e he => mem_removeAnswerMedia (a := a.removal) ?_, rfl, _, rfl⟩
        simpa using he
      -- the removal comes before any guest call
      | none =>
        have ha : a.removal = .removes := by
          cases h : a.removal <;> simp_all [removeAnswerMedia]
        refine .inr (.inr ⟨path, hpath, cleanupDetach a
          ["Temporary answer media was detached and deleted."], ?_, cleanupDetach_calls⟩)
        simp [stageCleanupUnattendedMedia, hvm, hpath, ha, removeAnswerMedia]

/-- It removes the recorded media or restarts the guest, nothing else. -/
theorem stageCleanup_effects {ctx : JobRunContext} {job : ProvisioningJob} {a : CleanupAnswers}
    {e : Effect} (h : e ∈ (stageCleanupUnattendedMedia ctx job a).effects) :
    (∃ path, (job.stepArtifacts .prepareUnattendedInstall).str? .datastorePath = some path ∧
        e.removes path) ∨ e = .restart := by
  rcases stageCleanup_cases ctx job a with ⟨-, he, -⟩ | ⟨path, hpath, he, -⟩ | ⟨path, hrem⟩
  · exact .inr (he e h)
  · exact .inl ⟨path, hpath, he e h⟩
  · obtain ⟨rest, hcalls, hrest, -⟩ := hrem.calls
    rw [HandlerRun.effects, hcalls, List.flatMap_cons, List.mem_append] at h
    rcases h with h | h
    · refine .inl ⟨path, hrem.recorded, ?_⟩
      simpa [Effect.removes] using h
    · exact .inr (hrest e h)

/-! ## The computer name -/

theorem renameComputer_effects {r : ProvisioningRequest} {current : String} {a : ScriptAnswer}
    {e : Effect} (h : e ∈ (renameComputer r current a).effects) :
    e = .rename r.effectiveComputerName.toUpper := by
  unfold renameComputer at h
  dsimp only at h
  refine ScriptAnswer.mem_effects (a := a) ?_
  cases a <;> simpa [HandlerRun.effects] using h

theorem stageConfigureHostname_effects {ctx : JobRunContext} {w : World} {a : HostnameAnswers}
    {e : Effect} (h : e ∈ (stageConfigureHostname ctx w a).effects) :
    e = .rename ctx.request.effectiveComputerName.toUpper := by
  unfold stageConfigureHostname at h
  dsimp only at h
  split at h
  · simp [HandlerRun.effects] at h
  · split at h
    · simp [HandlerRun.effects] at h
    · split at h
      · simp [HandlerRun.effects] at h
      · split at h
        · simp [HandlerRun.effects] at h
        · exact renameComputer_effects h
      · split at h
        · exact renameComputer_effects h
        · simp [HandlerRun.effects] at h
        · exact renameComputer_effects h

theorem renameComputer_assignments {r : ProvisioningRequest} {current : String}
    {a : ScriptAnswer} {x : Assignment} (h : x ∈ (renameComputer r current a).assignments) :
    x = .hostnameChanged := by
  unfold renameComputer at h
  cases a <;> simp_all [HandlerRun.assignments]

theorem stageConfigureHostname_assignments {ctx : JobRunContext} {w : World}
    {a : HostnameAnswers} {x : Assignment}
    (h : x ∈ (stageConfigureHostname ctx w a).assignments) : x = .hostnameChanged := by
  unfold stageConfigureHostname at h
  dsimp only at h
  split at h
  · simp [HandlerRun.assignments] at h
  · split at h
    · simp [HandlerRun.assignments] at h
    · split at h
      · simp [HandlerRun.assignments] at h
      · split at h
        · simp [HandlerRun.assignments] at h
        · exact renameComputer_assignments h
      · split at h
        · exact renameComputer_assignments h
        · simp [HandlerRun.assignments] at h
        · exact renameComputer_assignments h

theorem renameComputer_ok {r : ProvisioningRequest} {current : String} {a : ScriptAnswer}
    {outcome : StageOutcome} (h : (renameComputer r current a).result = .ok outcome) :
    (renameComputer r current a).effects = [.rename r.effectiveComputerName.toUpper] ∧
      (renameComputer r current a).assignments = [.hostnameChanged] := by
  unfold renameComputer at h ⊢
  cases a with
  | succeeds stdout => exact ⟨rfl, rfl⟩
  | exits code stdout stderr ran => cases h
  | raises error ran => cases h

/-- **Without a domain join**, `configure_hostname` ends well only when Windows already has
the name, or after a rename that it remembers in the run context. -/
theorem stageConfigureHostname_ok {ctx : JobRunContext} {w : World} {a : HostnameAnswers}
    {outcome : StageOutcome} (hjoin : ctx.request.domainJoin = none)
    (h : (stageConfigureHostname ctx w a).result = .ok outcome) :
    (w.activeName = ctx.request.effectiveComputerName.toUpper ∧
        (stageConfigureHostname ctx w a).effects = [] ∧
        (stageConfigureHostname ctx w a).assignments = []) ∨
      ((stageConfigureHostname ctx w a).effects =
          [.rename ctx.request.effectiveComputerName.toUpper] ∧
        (stageConfigureHostname ctx w a).assignments = [.hostnameChanged]) := by
  unfold stageConfigureHostname at h ⊢
  simp only [hjoin, Option.isSome_none, Bool.false_eq_true, if_false] at h ⊢
  split at h
  · cases h
  · split at h
    · cases h
    · split at h
      -- Windows runs under the name already
      · rename_i hname
        exact .inl ⟨hname, by simp [hname, HandlerRun.effects, HandlerRun.assignments]⟩
      · rename_i hname
        simp only [hname, if_false]
        exact .inr (renameComputer_ok h)
    · split at h
      · exact .inr (renameComputer_ok h)
      · cases h
      · exact .inr (renameComputer_ok h)

/-! ## `join_domain` and `reboot_guest` -/

theorem stageJoinDomain_effects {ctx : JobRunContext} {a : JoinAnswers} {e : Effect}
    (h : e ∈ (stageJoinDomain ctx a).effects) :
    ctx.request.domainJoin.isSome ∧ e = .rename ctx.request.effectiveComputerName.toUpper := by
  unfold stageJoinDomain at h
  split at h
  · simp [HandlerRun.effects] at h
  · rename_i join hjoin
    refine ⟨by rw [hjoin]; rfl, ?_⟩
    split at h
    · simp [HandlerRun.effects] at h
    · simp [HandlerRun.effects] at h
    · split at h
      · simp [HandlerRun.effects] at h
      · split at h
        · simp [HandlerRun.effects] at h
        · split at h
          · simp [HandlerRun.effects] at h
          · split at h
            · simp [HandlerRun.effects] at h
            · unfold addComputer at h
              refine ScriptAnswer.mem_effects (a := a.join) ?_
              split at h
              all_goals
                simp only [HandlerRun.effects, List.flatMap_cons, List.flatMap_nil,
                  List.append_nil] at h
                split at h
                · cases h
                · simpa [*] using h

theorem stageRebootGuest_effects {ctx : JobRunContext} {job : ProvisioningJob}
    {a : RebootAnswers} {e : Effect} (h : e ∈ (stageRebootGuest ctx job a).effects) :
    e = .restart := by
  unfold stageRebootGuest at h
  split at h
  · simp [HandlerRun.effects] at h
  · split at h
    · simp [HandlerRun.effects] at h
    · split at h
      · simp [HandlerRun.effects] at h
      · dsimp only at h
        refine ScriptAnswer.mem_effects (a := a.restart) ?_
        split at h <;> simpa [HandlerRun.effects] using h

theorem stageRebootGuest_assignments (ctx : JobRunContext) (job : ProvisioningJob)
    (a : RebootAnswers) : (stageRebootGuest ctx job a).assignments = [] := by
  unfold stageRebootGuest
  split
  · rfl
  · split
    · rfl
    · split
      · rfl
      · dsimp only
        split <;> rfl

/-- **A reboot stage of a run that renamed the computer** ends well only by restarting. -/
theorem stageRebootGuest_ok {ctx : JobRunContext} {job : ProvisioningJob} {a : RebootAnswers}
    {outcome : StageOutcome} (hchanged : ctx.hostnameChanged = true)
    (h : (stageRebootGuest ctx job a).result = .ok outcome) :
    (stageRebootGuest ctx job a).effects = [.restart] := by
  unfold stageRebootGuest at h ⊢
  simp only [hchanged, Bool.true_or, Bool.not_true, Bool.false_eq_true, if_false] at h ⊢
  split at h
  · cases h
  · split at h
    · cases h
    · cases hrestart : a.restart with
      | succeeds stdout =>
        simp_all [scheduleGuestRestart, ScriptAnswer.effects, HandlerRun.effects]
      | exits code stdout stderr ran => simp_all [scheduleGuestRestart]
      | raises error ran => simp_all [scheduleGuestRestart]

/-! ## The dispatch -/

/-- A stage whose end is left to its environment. -/
def otherRun (a : OtherAnswers) : HandlerRun :=
  ⟨[{ assignments := [.lifecycle a.columns] }], a.result⟩

/-- Which handler a run is of. -/
inductive RunOf (k : Stage) (ctx : JobRunContext) (job : ProvisioningJob) (w : World) :
    HandlerRun → Prop
  | createVm (h : k = .createVm) (a : CreateVmAnswers) : RunOf k ctx job w (stageCreateVm ctx job a)
  | prepare (h : k = .prepareUnattendedInstall) (a : PrepareAnswers) :
      RunOf k ctx job w (stagePrepareUnattendedInstall ctx job w a)
  | cleanup (h : k = .cleanupUnattendedMedia) (a : CleanupAnswers) :
      RunOf k ctx job w (stageCleanupUnattendedMedia ctx job a)
  | hostname (h : k = .configureHostname) (a : HostnameAnswers) :
      RunOf k ctx job w (stageConfigureHostname ctx w a)
  | join (h : k = .joinDomain) (a : JoinAnswers) : RunOf k ctx job w (stageJoinDomain ctx a)
  | reboot (h : k = .rebootGuest) (a : RebootAnswers) :
      RunOf k ctx job w (stageRebootGuest ctx job a)
  | other (hk : k ≠ .createVm ∧ k ≠ .prepareUnattendedInstall ∧ k ≠ .cleanupUnattendedMedia ∧
        k ≠ .configureHostname ∧ k ≠ .joinDomain ∧ k ≠ .rebootGuest) (a : OtherAnswers)
      (ha : a.allowed k = true) : RunOf k ctx job w (otherRun a)

theorem runHandler_runOf {k : Stage} {ctx : JobRunContext} {job : ProvisioningJob} {w : World}
    {answers : StageAnswers} {run : HandlerRun}
    (h : runHandler k ctx job w answers = some run) : RunOf k ctx job w run := by
  unfold runHandler at h
  split at h
  · cases h; exact .createVm rfl _
  · cases h; exact .prepare rfl _
  · cases h; exact .cleanup rfl _
  · cases h; exact .hostname rfl _
  · cases h; exact .join rfl _
  · cases h; exact .reboot rfl _
  all_goals try cases h
  · rename_i h₁ h₂ h₃ h₄ h₅ h₆
    split at h
    · rename_i ha
      cases h
      exact .other ⟨h₁, h₂, h₃, h₄, h₅, h₆⟩ _ ha
    · cases h

/-- Media effects come from the preparation, for this attempt, or from the clean-up stage,
at the recorded path. -/
theorem RunOf.media {k : Stage} {ctx : JobRunContext} {job : ProvisioningJob} {w : World}
    {run : HandlerRun} (h : RunOf k ctx job w run) {e : Effect} (he : e ∈ run.effects)
    (hm : e.media = true) :
    (k = .prepareUnattendedInstall ∧ e.prepares (job.attempt .prepareUnattendedInstall)) ∨
      (k = .cleanupUnattendedMedia ∧ ∃ path,
        (job.stepArtifacts .prepareUnattendedInstall).str? .datastorePath = some path ∧
          e.removes path) := by
  cases h with
  | createVm hk a => rw [stageCreateVm_effects] at he; cases he
  | prepare hk a => exact .inl ⟨hk, stagePrepare_effects he⟩
  | cleanup hk a =>
    rcases stageCleanup_effects he with h | h
    · exact .inr ⟨hk, h⟩
    · subst h; cases hm
  | hostname hk a => rw [stageConfigureHostname_effects he] at hm; cases hm
  | join hk a => rw [(stageJoinDomain_effects he).2] at hm; cases hm
  | reboot hk a => rw [stageRebootGuest_effects he] at hm; cases hm
  | other hk a ha => simp [otherRun, HandlerRun.effects] at he

/-- No handler but the preparation stores or attaches anything. -/
theorem RunOf.not_prepares {k : Stage} {ctx : JobRunContext} {job : ProvisioningJob} {w : World}
    {run : HandlerRun} (h : RunOf k ctx job w run) (hk : k ≠ .prepareUnattendedInstall)
    {e : Effect} (he : e ∈ run.effects) (n : Nat) : ¬e.prepares n := by
  cases hm : e.media with
  | true =>
    rcases h.media he hm with ⟨hprepare, -⟩ | ⟨-, path, -, hr⟩
    · exact absurd hprepare hk
    · rintro ⟨p, rfl | rfl⟩ <;> rcases hr with hr | hr <;> cases hr
  | false => rintro ⟨p, rfl | rfl⟩ <;> cases hm

/-- A handler renames the computer to the name of the request only. -/
theorem RunOf.rename {k : Stage} {ctx : JobRunContext} {job : ProvisioningJob} {w : World}
    {run : HandlerRun} (h : RunOf k ctx job w run) {name : String}
    (he : .rename name ∈ run.effects) : name = ctx.request.effectiveComputerName.toUpper := by
  cases h with
  | createVm hk a => rw [stageCreateVm_effects] at he; cases he
  | prepare hk a =>
    obtain ⟨path, h | h⟩ := stagePrepare_effects he <;> cases h
  | cleanup hk a =>
    rcases stageCleanup_effects he with ⟨path, -, h | h⟩ | h <;> cases h
  | hostname hk a => cases stageConfigureHostname_effects he; rfl
  | join hk a => cases (stageJoinDomain_effects he).2; rfl
  | reboot hk a => cases stageRebootGuest_effects he
  | other hk a ha => simp [otherRun, HandlerRun.effects] at he

/-- Only the clean-up stage marks the media as removed. -/
theorem RunOf.mediaRemoved {k : Stage} {ctx : JobRunContext} {job : ProvisioningJob} {w : World}
    {run : HandlerRun} (h : RunOf k ctx job w run) (hx : .mediaRemoved ∈ run.assignments) :
    k = .cleanupUnattendedMedia := by
  cases h with
  | createVm hk a =>
    unfold stageCreateVm at hx
    cases a with
    | existing ref owner =>
      dsimp only at hx
      split at hx <;> simp [HandlerRun.assignments] at hx
    | _ => simp [HandlerRun.assignments] at hx
  | prepare hk a => rw [stagePrepare_assignments] at hx; cases hx
  | cleanup hk a => exact hk
  | hostname hk a => cases stageConfigureHostname_assignments hx
  | join hk a =>
    unfold stageJoinDomain addComputer at hx
    repeat' split at hx
    all_goals simp [HandlerRun.assignments] at hx
  | reboot hk a => rw [stageRebootGuest_assignments] at hx; cases hx
  | other hk a ha => simp [otherRun, HandlerRun.assignments] at hx

/-- **`media_removed` is assigned only after the recorded media have been removed**: the
removal is the first call of the clean-up stage, and only restarts follow. -/
theorem RunOf.removedFirst {k : Stage} {ctx : JobRunContext} {job : ProvisioningJob} {w : World}
    {run : HandlerRun} (h : RunOf k ctx job w run) (hx : .mediaRemoved ∈ run.assignments) :
    ∃ path, RemovedFirst job run path := by
  have hk := h.mediaRemoved hx
  subst hk
  cases h with
  | cleanup hk a =>
    rcases stageCleanup_cases ctx job a with ⟨-, -, has⟩ | ⟨path, -, -, has, -⟩ | ⟨path, h⟩
    · rw [has] at hx; cases hx
    · rw [has] at hx; cases hx
    · exact ⟨path, h⟩
  | other hk a ha => exact absurd rfl hk.2.2.1
  | _ hk => cases hk

/-- A clean-up stage that ends well had no media on record, or removed them first. -/
theorem RunOf.cleanup_ok {ctx : JobRunContext} {job : ProvisioningJob} {w : World}
    {run : HandlerRun} {outcome : StageOutcome} (h : RunOf .cleanupUnattendedMedia ctx job w run)
    (hok : run.result = .ok outcome) :
    (job.stepArtifacts .prepareUnattendedInstall).str? .datastorePath = none ∨
      ∃ path, RemovedFirst job run path := by
  cases h with
  | cleanup hk a =>
    rcases stageCleanup_cases ctx job a with ⟨hnone, -, -⟩ | ⟨path, -, -, -, raised, hraised⟩ |
      ⟨path, h⟩
    · exact .inl hnone
    · rw [hraised] at hok; cases hok
    · exact .inr ⟨path, h⟩
  | other hk a ha => exact absurd rfl hk.2.2.1
  | _ hk => cases hk

/-- The effects of a run that removes first, and of every cut after the removal. -/
theorem RemovedFirst.effects {job : ProvisioningJob} {run : HandlerRun} {path : String}
    (h : RemovedFirst job run path) :
    (∃ es, run.effects = [.detach path, .delete path] ++ es ∧ ∀ e ∈ es, e = .restart) ∧
      ∀ cut, run.assignmentsBefore cut = [] ∨
        ∃ es, run.effectsBefore cut = [.detach path, .delete path] ++ es ∧
          ∀ e ∈ es, e = .restart := by
  obtain ⟨rest, hcalls, hrest, -⟩ := h.calls
  have heffects : run.effects = [.detach path, .delete path] ++ rest.effects := by
    rw [HandlerRun.effects, hcalls]
    rfl
  refine ⟨⟨rest.effects, heffects, hrest⟩, fun cut => ?_⟩
  cases hret : cut.returned with
  | zero => exact .inl (by simp [HandlerRun.assignmentsBefore, hret])
  | succ n =>
    refine .inr ⟨(rest.calls.take n).flatMap Call.effects ++
      (((rest.calls[n]?).map Call.effects).getD []).take cut.landed, ?_, fun e he => ?_⟩
    · simp [HandlerRun.effectsBefore, hcalls, hret]
    · have hmem : e ∈ rest.effectsBefore { returned := n, landed := cut.landed } := he
      exact hrest e (HandlerRun.mem_effectsBefore hmem)

/-- `power_on` has no other good end than `SUCCEEDED`. -/
theorem RunOf.powerOn_ok {ctx : JobRunContext} {job : ProvisioningJob} {w : World}
    {run : HandlerRun} {outcome : StageOutcome} (h : RunOf .powerOn ctx job w run)
    (hok : run.result = .ok outcome) : outcome.status = .succeeded := by
  cases h with
  | other hk a ha =>
    simp only [otherRun] at hok
    simp only [OtherAnswers.allowed, hok] at ha
    cases hs : outcome.status <;> simp_all [otherOutcome]
  | _ hk => cases hk

end InfraOps
