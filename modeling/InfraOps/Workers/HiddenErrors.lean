import InfraOps.Workers.Stages

/-!
# Technical details of errors

The answers to a handler without the technical details of the errors among them. A handler may
catch an error and raise another one, go on after it, or put its message into an output; the
technical detail gets no further than into the technical detail of the error it ends with.
-/

namespace InfraOps

def InfraOperationError.hide (e : InfraOperationError) : InfraOperationError :=
  { e with technicalDetail := "" }

/-- The traceback of another exception is the technical detail of the error made of it. -/
def Raised.hide : Raised → Raised
  | .infra error => .infra error.hide
  | .other _ => .other ""

@[simp] theorem Raised.hide_hide (raised : Raised) : raised.hide.hide = raised.hide := by
  cases raised <;> rfl

def HandlerRun.hide (run : HandlerRun) : HandlerRun :=
  { run with result := run.result.mapError Raised.hide }

theorem HandlerRun.hide_error (calls : List Call) (raised : Raised) :
    HandlerRun.hide ⟨calls, .error raised.hide⟩ = HandlerRun.hide ⟨calls, .error raised⟩ :=
  congrArg (fun raised => HandlerRun.mk calls (.error raised)) raised.hide_hide

/-! ## Answers -/

def ScriptAnswer.hide : ScriptAnswer → ScriptAnswer
  | .raises error ran => .raises error.hide ran
  | answer => answer

def ProbeAnswer.hide : ProbeAnswer → ProbeAnswer
  | .raises error => .raises error.hide
  | answer => answer

def CreateVmAnswers.hide : CreateVmAnswers → CreateVmAnswers
  | .lookupFails raised => .lookupFails raised.hide
  | .placementFails raised => .placementFails raised.hide
  | .createFails raised => .createFails raised.hide
  | answer => answer

def DatastoreAnswer.hide : DatastoreAnswer → DatastoreAnswer
  | .fails error => .fails error.hide
  | answer => answer

def UploadAnswer.hide : UploadAnswer → UploadAnswer
  | .refused error => .refused error.hide
  | .stored error => .stored (error.map InfraOperationError.hide)

def ReconfigureAnswer.hide : ReconfigureAnswer → ReconfigureAnswer
  | .fails error attached => .fails error.hide attached
  | .attaches => .attaches

def AttachAnswers.hide (a : AttachAnswers) : AttachAnswers :=
  { a with
    datastore := a.datastore.hide
    upload := a.upload.hide
    reconfigure := a.reconfigure.hide }

def PrepareAnswers.hide (a : PrepareAnswers) : PrepareAnswers :=
  { a with
    credentials := a.credentials.map Raised.hide
    productKey := a.productKey.map Raised.hide
    attach := a.attach.hide }

def RemovalAnswers.hide : RemovalAnswers → RemovalAnswers
  | .unreachable error => .unreachable error.hide
  | .detachFails error => .detachFails error.hide
  | .deleteFails error => .deleteFails error.hide
  | .removes => .removes

def DetachAnswer.hide : DetachAnswer → DetachAnswer
  | .released files => .released files
  | .questionPending error => .questionPending error.hide
  | .fails error => .fails error.hide

def CleanupAnswers.hide (a : CleanupAnswers) : CleanupAnswers :=
  { a with
    removal := a.removal.hide
    detach := a.detach.hide
    credentials := a.credentials.map Raised.hide
    scrub := a.scrub.hide
    bootTime := a.bootTime.hide
    restart := a.restart.hide }

def NameProbeAnswer.hide : NameProbeAnswer → NameProbeAnswer
  | .raises error => .raises error.hide
  | answer => answer

def HostnameAnswers.hide (a : HostnameAnswers) : HostnameAnswers :=
  { a with
    credentials := a.credentials.map Raised.hide
    probe := a.probe.hide
    rename := a.rename.hide }

def JoinAnswers.hide (a : JoinAnswers) : JoinAnswers :=
  { a with
    credentials := a.credentials.map Raised.hide
    identity := a.identity.mapError Raised.hide
    joinCredentials := a.joinCredentials.map Raised.hide
    join := a.join.hide }

def RebootAnswers.hide (a : RebootAnswers) : RebootAnswers :=
  { a with
    credentials := a.credentials.map Raised.hide
    bootTime := a.bootTime.hide
    restart := a.restart.hide }

def OtherAnswers.hide (a : OtherAnswers) : OtherAnswers :=
  { a with result := a.result.mapError Raised.hide }

def StageAnswers.hide : StageAnswers → StageAnswers
  | .createVm a => .createVm a.hide
  | .prepare a => .prepare a.hide
  | .cleanup a => .cleanup a.hide
  | .hostname a => .hostname a.hide
  | .join a => .join a.hide
  | .reboot a => .reboot a.hide
  | .other a => .other a.hide

/-! ## Handlers -/

theorem stageCreateVm_hide (ctx : JobRunContext) (job : ProvisioningJob) (a : CreateVmAnswers) :
    (stageCreateVm ctx job a.hide).hide = (stageCreateVm ctx job a).hide := by
  cases a with
  | lookupFails raised => exact HandlerRun.hide_error _ raised
  | placementFails raised => exact HandlerRun.hide_error _ raised
  | createFails raised => exact HandlerRun.hide_error _ raised
  | existing ref owner => rfl
  | creates ref datastoreId placement => rfl

theorem attachDrive_hide (w : World) (path : String) (attempt : Nat) (a : AttachAnswers) :
    attachDrive w path attempt a.hide =
      Prod.map id (Except.mapError InfraOperationError.hide) (attachDrive w path attempt a) := by
  obtain ⟨datastore, upload, sataSlotFree, reconfigure⟩ := a
  unfold attachDrive
  by_cases hdrive : (w.drive path).isSome
  · rw [if_pos hdrive, if_pos hdrive]
    rfl
  · rw [if_neg hdrive, if_neg hdrive]
    cases sataSlotFree with
    | false => rfl
    | true => cases reconfigure <;> rfl

theorem attachAnswerMedia_hide (w : World) (fileName : String) (attempt : Nat)
    (a : AttachAnswers) :
    attachAnswerMedia w fileName attempt a.hide =
      Prod.map id (Except.mapError InfraOperationError.hide)
        (attachAnswerMedia w fileName attempt a) := by
  have hdrive (path : String) := attachDrive_hide w path attempt a
  obtain ⟨datastore, upload, sataSlotFree, reconfigure⟩ := a
  cases datastore with
  | found name =>
    cases upload with
    | refused error => rfl
    | stored error =>
      cases error with
      | some error => rfl
      | none =>
        have hattach := hdrive (answerMediaPath name fileName)
        exact congrArg (fun r => (_ :: r.1, r.2)) hattach
  | _ => rfl

theorem prepareFails_hide (ctx : JobRunContext) (a : PrepareAnswers) :
    (prepareFails ctx a.hide).map Raised.hide = (prepareFails ctx a).map Raised.hide := by
  obtain ⟨credentials, productKey, answerFile, attach⟩ := a
  unfold prepareFails
  cases credentials with
  | some raised => exact congrArg some raised.hide_hide
  | none =>
    cases ctx.request.hasProductKey with
    | false => rfl
    | true =>
      cases productKey with
      | none => rfl
      | some raised => exact congrArg some raised.hide_hide

theorem stagePrepareUnattendedInstall_hide (ctx : JobRunContext) (job : ProvisioningJob)
    (w : World) (a : PrepareAnswers) :
    (stagePrepareUnattendedInstall ctx job w a.hide).hide =
      (stagePrepareUnattendedInstall ctx job w a).hide := by
  have hfails := prepareFails_hide ctx a
  unfold stagePrepareUnattendedInstall
  cases requireVmId ctx job with
  | error error => rfl
  | ok vmId =>
    dsimp only
    rw [show a.hide.attach = a.attach.hide from rfl, attachAnswerMedia_hide]
    cases hraised : prepareFails ctx a with
    | some raised =>
      rw [hraised, Option.map_some] at hfails
      obtain ⟨raised', hraised', hhide⟩ := Option.map_eq_some_iff.mp hfails
      rw [hraised']
      exact congrArg (fun raised => HandlerRun.mk [] (.error raised)) hhide
    | none =>
      rw [hraised, Option.map_none] at hfails
      rw [Option.map_eq_none_iff.mp hfails]
      obtain ⟨effects, result⟩ := attachAnswerMedia w (answerFileName job.id)
        (job.attempt .prepareUnattendedInstall) a.attach
      cases result with
      | error error => rfl
      | ok path => rfl

theorem cleanupGuest_hide (a : CleanupAnswers) (lines : List String) (status : OutcomeStatus) :
    (cleanupGuest a.hide lines status).hide = (cleanupGuest a lines status).hide := by
  obtain ⟨removal, detach, credentials, scrub, bootTime, restart, notBack⟩ := a
  cases credentials with
  | some raised => exact HandlerRun.hide_error _ raised
  | none =>
    cases scrub with
    | raises error ran => rfl
    | exits code stdout stderr ran => rfl
    | succeeds stdout =>
      cases bootTime with
      | raises error => rfl
      | exits code stdout stderr => rfl
      | succeeds stdout =>
        unfold cleanupGuest
        dsimp only [CleanupAnswers.hide, ProbeAnswer.hide, ScriptAnswer.hide, Option.map_none]
        cases guestBootTime (.succeeds stdout) with
        | error error => rfl
        | ok booted => cases restart <;> rfl

theorem cleanupDetach_hide (a : CleanupAnswers) (lines : List String) :
    (cleanupDetach a.hide lines).hide = (cleanupDetach a lines).hide := by
  have hguest := cleanupGuest_hide a
  obtain ⟨removal, detach, credentials, scrub, bootTime, restart, notBack⟩ := a
  cases detach with
  | questionPending error => rfl
  | fails error => exact hguest _ _
  | released files => exact hguest _ _

theorem stageCleanupUnattendedMedia_hide (ctx : JobRunContext) (job : ProvisioningJob)
    (a : CleanupAnswers) :
    (stageCleanupUnattendedMedia ctx job a.hide).hide =
      (stageCleanupUnattendedMedia ctx job a).hide := by
  have hdetach := cleanupDetach_hide a
  unfold stageCleanupUnattendedMedia
  cases requireVmId ctx job with
  | error error => rfl
  | ok vmId =>
    dsimp only
    cases (job.stepArtifacts .prepareUnattendedInstall).str? .datastorePath with
    | none => exact hdetach _
    | some path =>
      rw [show a.hide.removal = a.removal.hide from rfl]
      cases a.removal with
      | unreachable error => rfl
      | detachFails error => rfl
      | deleteFails error => rfl
      | removes =>
        exact congrArg (fun run => { run with
          calls := { effects := [.detach path, .delete path], assignments := [.mediaRemoved] } ::
            run.calls }) (hdetach _)

theorem renameComputer_hide (r : ProvisioningRequest) (current : String) (a : ScriptAnswer) :
    (renameComputer r current a.hide).hide = (renameComputer r current a).hide := by
  cases a <;> rfl

theorem stageConfigureHostname_hide (ctx : JobRunContext) (w : World) (a : HostnameAnswers) :
    (stageConfigureHostname ctx w a.hide).hide = (stageConfigureHostname ctx w a).hide := by
  obtain ⟨credentials, probe, rename⟩ := a
  unfold stageConfigureHostname
  by_cases hjoins : ctx.request.domainJoin.isSome
  · rw [if_pos hjoins, if_pos hjoins]
  · rw [if_neg hjoins, if_neg hjoins]
    cases credentials with
    | some raised => exact HandlerRun.hide_error _ raised
    | none =>
      cases probe with
      | raises error => rfl
      | reports =>
        dsimp only [HostnameAnswers.hide, NameProbeAnswer.hide, Option.map_none]
        by_cases hname : w.activeName = ctx.request.effectiveComputerName.toUpper
        · rw [if_pos hname, if_pos hname]
        · rw [if_neg hname, if_neg hname]
          exact renameComputer_hide _ _ _
      | exits stdout =>
        dsimp only [HostnameAnswers.hide, NameProbeAnswer.hide, Option.map_none]
        split
        · exact renameComputer_hide _ _ _
        · rfl
        · exact renameComputer_hide _ _ _

theorem addComputer_hide (r : ProvisioningRequest) (join : DomainJoinSpec)
    (s : WindowsIdentityState) (a : ScriptAnswer) :
    (addComputer r join s a.hide).hide = (addComputer r join s a).hide := by
  cases a <;> rfl

theorem stageJoinDomain_hide (ctx : JobRunContext) (a : JoinAnswers) :
    (stageJoinDomain ctx a.hide).hide = (stageJoinDomain ctx a).hide := by
  obtain ⟨credentials, identity, joinCredentials, join⟩ := a
  unfold stageJoinDomain
  cases ctx.request.domainJoin with
  | none => rfl
  | some spec =>
    cases credentials with
    | some raised => exact HandlerRun.hide_error _ raised
    | none =>
      cases identity with
      | error raised => exact HandlerRun.hide_error _ raised
      | ok s =>
        dsimp only [JoinAnswers.hide, Option.map_none, Except.mapError]
        split
        · rfl
        · split
          · rfl
          · split
            · rfl
            · cases joinCredentials with
              | some raised => exact HandlerRun.hide_error _ raised
              | none => exact addComputer_hide _ _ _ _

theorem stageRebootGuest_hide (ctx : JobRunContext) (job : ProvisioningJob) (a : RebootAnswers) :
    (stageRebootGuest ctx job a.hide).hide = (stageRebootGuest ctx job a).hide := by
  obtain ⟨credentials, bootTime, restart⟩ := a
  unfold stageRebootGuest
  split
  · rfl
  · cases credentials with
    | some raised => exact HandlerRun.hide_error _ raised
    | none =>
      cases bootTime with
      | raises error => rfl
      | exits code stdout stderr => rfl
      | succeeds stdout =>
        dsimp only [RebootAnswers.hide, ProbeAnswer.hide, Option.map_none]
        cases guestBootTime (.succeeds stdout) with
        | error error => rfl
        | ok before => cases restart <;> rfl

theorem OtherAnswers.hide_allowed (k : Stage) (a : OtherAnswers) :
    a.hide.allowed k = a.allowed k := by
  obtain ⟨columns, result⟩ := a
  cases result <;> rfl

/-- **A handler makes the same calls and ends in the same way**, but for the technical detail of
the error that it ends with. -/
theorem runHandler_hideAnswers (k : Stage) (ctx : JobRunContext) (job : ProvisioningJob)
    (w : World) (answers : StageAnswers) :
    (runHandler k ctx job w answers.hide).map HandlerRun.hide =
      (runHandler k ctx job w answers).map HandlerRun.hide := by
  have hother (a : OtherAnswers) :
      (if a.hide.allowed k then some (HandlerRun.mk [{ assignments := [.lifecycle a.columns] }]
        a.hide.result) else none).map HandlerRun.hide =
      (if a.allowed k then some (HandlerRun.mk [{ assignments := [.lifecycle a.columns] }]
        a.result) else none).map HandlerRun.hide := by
    rw [a.hide_allowed]
    split
    · obtain ⟨columns, result⟩ := a
      cases result with
      | ok outcome => rfl
      | error raised => exact congrArg some (HandlerRun.hide_error _ raised)
    · rfl
  cases answers with
  | createVm a => cases k <;> first | rfl | exact congrArg some (stageCreateVm_hide ctx job a)
  | prepare a =>
    cases k <;> first | rfl | exact congrArg some (stagePrepareUnattendedInstall_hide ctx job w a)
  | cleanup a =>
    cases k <;> first | rfl | exact congrArg some (stageCleanupUnattendedMedia_hide ctx job a)
  | hostname a =>
    cases k <;> first | rfl | exact congrArg some (stageConfigureHostname_hide ctx w a)
  | join a => cases k <;> first | rfl | exact congrArg some (stageJoinDomain_hide ctx a)
  | reboot a => cases k <;> first | rfl | exact congrArg some (stageRebootGuest_hide ctx job a)
  | other a => cases k <;> first | rfl | exact hother a

end InfraOps
