import InfraOps.Audit.Records
import InfraOps.Workers.Context

/-!
# Stage handlers

The handlers that the media and the computer name depend on: `create_vm`,
`prepare_unattended_install`, `cleanup_unattended_media`, `configure_hostname`,
`join_domain` and `reboot_guest`. Each is a function of what vCenter, the guest and the
secret store answer; the remaining stages end as their environment decides
(`OtherAnswers`), within the outcomes their code can return.
-/

namespace InfraOps

/-! ## Guest commands -/

/-- A guest command that changes something. A call that fails may still have run. -/
inductive ScriptAnswer
  | succeeds (stdout : String)
  | exits (code : Int) (stdout stderr : String) (ran : Bool)
  | raises (error : InfraOperationError) (ran : Bool)

def ScriptAnswer.effects (answer : ScriptAnswer) (effect : Effect) : List Effect :=
  match answer with
  | .succeeds _ => [effect]
  | .exits _ _ _ ran | .raises _ ran => if ran then [effect] else []

/-- A guest command that only reads. -/
inductive ProbeAnswer
  | succeeds (stdout : String)
  | exits (code : Int) (stdout stderr : String)
  | raises (error : InfraOperationError)

def bootTimeError (code : Int) (stdout stderr : String) : InfraOperationError where
  humanMessage := "Windows did not report when it last started."
  reason := s!"The boot-time probe exited with code {code}."
  recommendedAction := "Review the technical output, then retry this stage."
  technicalDetail := lastChars 1000 (stdout ++ "\n" ++ stderr)

/-- `guest_boot_time`. -/
def guestBootTime : ProbeAnswer → Except InfraOperationError String
  | .raises error => .error error
  | .exits code stdout stderr => .error (bootTimeError code stdout stderr)
  | .succeeds stdout =>
    match (outputLines stdout).getLast? with
    | some line => .ok line
    | none => .error (bootTimeError 0 stdout "")

/-- `schedule_guest_restart`, after its call returned. -/
def scheduleGuestRestart : ScriptAnswer → Option InfraOperationError
  | .succeeds _ => none
  | .raises error _ => some error
  | .exits code stdout _ _ => some {
      humanMessage := "The guest restart could not be scheduled."
      reason := s!"shutdown.exe exited with code {code}."
      recommendedAction := "Restart the VM from the console, then retry this stage."
      technicalDetail := lastChars 1000 stdout }

def restartTimeoutError (minutes : Nat) (lastError : String) : InfraOperationError where
  humanMessage := "Windows did not come back after the restart."
  reason := s!"No new start was reported within {minutes} minutes (last: {lastError})."
  recommendedAction := "Check the VM console in vCenter, then retry this stage."

/-! ## `create_vm` -/

inductive CreateVmAnswers
  | lookupFails (raised : Raised)
  /-- A VM of that name exists; `owner` is the job marker it carries. -/
  | existing (ref : VmRef) (owner : Option String)
  | placementFails (raised : Raised)
  | createFails (raised : Raised)
  | creates (ref : VmRef) (datastoreId placement : String)

/-- `repr` of an optional string without quotes or escapes in it. -/
def pyRepr : Option String → String
  | some text => s!"'{text}'"
  | none => "None"

def foreignVmError (vmName : String) (jobId : JobId) (vmId : String) (owner : Option String) :
    InfraOperationError where
  humanMessage :=
    s!"A virtual machine named '{vmName}' already exists and was not created by this job."
  reason := "The VM name is taken by an existing VM" ++
    (match owner with
      | some o => s!" created by another InfraOps job ({o})."
      | none => " that carries no InfraOps ownership marker.")
  recommendedAction := "Choose a different VM name and submit a new request. InfraOps did " ++
    "not modify the existing VM."
  technicalDetail := s!"vm_id={vmId} owner={pyRepr owner} job={jobId}"
  retryable := false

def createVmOutput (r : ProvisioningRequest) (ref : VmRef) (placement : String) : String :=
  s!"Created '{ref.name}' powered off with its {r.osDiskSizeGb} GB OS disk, the Windows " ++
    s!"installation ISO and the host's VMware Tools ISO.\nDatastore: {placement}." ++
    (if r.dataDisks = 0 then ""
      else s!"\n{r.dataDisks} data disk(s) are added on the same datastore after Windows is " ++
        "installed.")

def stageCreateVm (ctx : JobRunContext) (job : ProvisioningJob) (a : CreateVmAnswers) :
    HandlerRun :=
  let creating : Call := { assignments := [.infrastructureStatus .creating] }
  let ready (ref : VmRef) : Call :=
    { assignments := [.vmRef ref, .infrastructureStatus .ready] }
  match a with
  | .lookupFails raised | .placementFails raised | .createFails raised =>
    ⟨[creating], .error raised⟩
  | .existing ref owner =>
    if owner ≠ some job.id then
      ⟨[creating, { assignments := [.infrastructureStatus .failed] }],
        .error (.infra (foreignVmError ctx.request.vmName job.id ref.id owner))⟩
    else
      ⟨[creating, ready ref], .ok {
        status := .skipped
        output := s!"VM '{ctx.request.vmName}' was already created by this job (ownership " ++
          "marker verified) — resuming with it instead of creating it again."
        artifacts := (((∅ : Artifacts).insert .ownerJobId (.str job.id)).insert .vmName
          (.str ref.name)).insert .vmId (.str ref.id) }⟩
  | .creates ref datastoreId placement =>
    ⟨[creating, ready ref], .ok {
      output := createVmOutput ctx.request ref placement
      artifacts := (((((∅ : Artifacts).insert .datastore (.str placement)).insert .datastoreId
        (.str datastoreId)).insert .ownerJobId (.str job.id)).insert .vmName
        (.str ref.name)).insert .vmId (.str ref.id) }⟩

/-! ## `prepare_unattended_install` -/

structure PrepareAnswers where
  credentials : Option Raised := none
  productKey : Option Raised := none
  /-- The `ValueError` of `build_autounattend_xml`, when it raises. -/
  answerFile : Option String := none
  attach : AttachAnswers

def answerFileError (reason : String) : InfraOperationError where
  humanMessage := "The answer file could not be generated from the selected credentials."
  reason := reason
  recommendedAction := "Select a provisioning credential whose username is a local account " ++
    "such as 'Administrator' and, for a product key, a valid 25-character key; then submit " ++
    "a new request."
  retryable := false

def prepareOutput (r : ProvisioningRequest) : String :=
  "Temporary answer media attached as a CD drive. Windows Setup installs the selected " ++
    "image to disk 0 and configures the administrator account, locale, keyboard, time zone " ++
    "and computer name without showing any page" ++
    (if r.hasProductKey then ", using the selected product key." else ".")

def answerFileName (jobId : JobId) : String := s!"infraops-{jobId}.iso"

/-- The credentials, the product key and the answer file, in the order they can fail. -/
def prepareFails (ctx : JobRunContext) (a : PrepareAnswers) : Option Raised :=
  match a.credentials with
  | some raised => some raised
  | none =>
    match ctx.request.hasProductKey, a.productKey with
    | true, some raised => some raised
    | _, _ => a.answerFile.map fun reason => .infra (answerFileError reason)

def stagePrepareUnattendedInstall (ctx : JobRunContext) (job : ProvisioningJob) (w : World)
    (a : PrepareAnswers) : HandlerRun :=
  match requireVmId ctx job with
  | .error error => ⟨[], .error (.infra error)⟩
  | .ok _ =>
    match prepareFails ctx a with
    | some raised => ⟨[], .error raised⟩
    | none =>
      let call := attachAnswerMedia w (answerFileName job.id)
        (job.attempt .prepareUnattendedInstall) a.attach
      match call.2 with
      | .error error => ⟨[{ effects := call.1 }], .error (.infra error)⟩
      | .ok path =>
        ⟨[{ effects := call.1 }], .ok {
          output := prepareOutput ctx.request
          artifacts := (∅ : Artifacts).insert .datastorePath (.str path) }⟩

/-! ## `cleanup_unattended_media` -/

inductive DetachAnswer
  | released (files : List String)
  | questionPending (error : InfraOperationError)
  | fails (error : InfraOperationError)

structure CleanupAnswers where
  removal : RemovalAnswers := .removes
  detach : DetachAnswer := .released []
  credentials : Option Raised := none
  scrub : ScriptAnswer := .succeeds "ANSWER-FILE-SCRUBBED"
  bootTime : ProbeAnswer
  restart : ScriptAnswer := .succeeds ""
  /-- What the restart was still waiting for when its time ran out. -/
  notBack : Option String := none

def scrubError (reason action detail : String) : InfraOperationError where
  humanMessage := "The cached answer file could not be removed from Windows."
  reason := reason
  recommendedAction := action
  technicalDetail := detail

/-- The result of the in-guest scrub. -/
def scrubFails : ScriptAnswer → Option InfraOperationError
  | .succeeds _ => none
  | .raises error _ => some (scrubError s!"{error.humanMessage} {error.reason}"
      error.recommendedAction error.technicalDetail)
  | .exits code stdout stderr _ => some (scrubError
      s!"The in-guest cleanup exited with code {code}."
      "Review the technical output, then retry this stage."
      (lastChars 1500 (stdout ++ "\n" ++ stderr)))

/-- The part of the handler after the media removal; `lines` and `status` so far. -/
def cleanupGuest (a : CleanupAnswers) (lines : List String) (status : OutcomeStatus) :
    HandlerRun :=
  match a.credentials with
  | some raised => ⟨[], .error raised⟩
  | none =>
    match scrubFails a.scrub with
    | some error => ⟨[], .error (.infra error)⟩
    | none =>
      match guestBootTime a.bootTime with
      | .error error => ⟨[], .error (.infra error)⟩
      | .ok _ =>
        let restart : Call := { effects := a.restart.effects .restart }
        match scheduleGuestRestart a.restart, a.notBack with
        | some error, _ => ⟨[restart], .error (.infra error)⟩
        | none, some lastError => ⟨[restart], .error (.infra (restartTimeoutError 15 lastError))⟩
        | none, none =>
          ⟨[restart], .ok {
            status := status
            output := "\n".intercalate (lines ++
              ["Cached answer-file copies and AutoLogon values were removed from the guest.",
                "Windows restarted from its disk to load the VMware Tools drivers (mouse, " ++
                  "display and network)."]) }⟩

/-- The installation ISOs: a pending question stops the stage, another failure is a
warning. -/
def cleanupDetach (a : CleanupAnswers) (lines : List String) : HandlerRun :=
  match a.detach with
  | .questionPending error => ⟨[], .error (.infra error)⟩
  | .fails error =>
    cleanupGuest a (lines ++ ["The installation ISOs could not be disconnected: " ++
      s!"{error.humanMessage} {error.reason}"]) .warning
  | .released files =>
    let names := if files.isEmpty then "" else ": " ++ ", ".intercalate files
    cleanupGuest a
      (lines ++ [s!"Installation media disconnected and boot order set to disk only{names}."])
      .succeeded

def stageCleanupUnattendedMedia (ctx : JobRunContext) (job : ProvisioningJob)
    (a : CleanupAnswers) : HandlerRun :=
  match requireVmId ctx job with
  | .error error => ⟨[], .error (.infra error)⟩
  | .ok _ =>
    let artifacts := job.stepArtifacts .prepareUnattendedInstall
    match artifacts.str? .datastorePath with
    | none => cleanupDetach a ["No temporary answer media was recorded."]
    | some path =>
      let (effects, failure) := removeAnswerMedia path a.removal
      match failure with
      | some error => ⟨[{ effects }], .error (.infra error)⟩
      | none =>
        let run := cleanupDetach a ["Temporary answer media was detached and deleted."]
        { run with calls := { effects, assignments := [.mediaRemoved] } :: run.calls }

/-! ## `configure_hostname` -/

/-- The `$env:COMPUTERNAME` probe: when it succeeds it prints the active name. -/
inductive NameProbeAnswer
  | reports
  | exits (stdout : String)
  | raises (error : InfraOperationError)

structure HostnameAnswers where
  credentials : Option Raised := none
  probe : NameProbeAnswer := .reports
  rename : ScriptAnswer := .succeeds "RENAMED"

def identityArtifacts (r : ProvisioningRequest) : Artifacts :=
  let desired := r.effectiveComputerName.toUpper
  let artifacts : Artifacts := ((∅ : Artifacts).insert .computerName (.str desired)).insert
    .hostname (.str desired)
  match r.effectiveFqdn with
  | some fqdn => artifacts.insert .requestedFqdn (.str fqdn)
  | none => artifacts

def renameError (desired : String) (code : Int) (stdout : String) : InfraOperationError where
  humanMessage := s!"The Windows computer name could not be changed to '{desired}'."
  reason := s!"Rename-Computer exited with code {code}."
  recommendedAction := "Retry the hostname stage; verify local administrator permissions."
  technicalDetail := lastChars 1000 stdout

/-- `Rename-Computer` and what follows it. -/
def renameComputer (r : ProvisioningRequest) (current : String) (a : ScriptAnswer) : HandlerRun :=
  let desired := r.effectiveComputerName.toUpper
  let effects := a.effects (.rename desired)
  match a with
  | .raises error _ => ⟨[{ effects }], .error (.infra error)⟩
  | .exits code stdout _ _ => ⟨[{ effects }], .error (.infra (renameError desired code stdout))⟩
  | .succeeds _ =>
    let before := if current = "" then "?" else current
    ⟨[{ effects, assignments := [.hostnameChanged] }], .ok {
      output := s!"Windows computer name changed '{before}' → '{desired}' (applies at reboot)."
      artifacts := identityArtifacts r }⟩

def stageConfigureHostname (ctx : JobRunContext) (w : World) (a : HostnameAnswers) :
    HandlerRun :=
  let desired := ctx.request.effectiveComputerName.toUpper
  if ctx.request.domainJoin.isSome then
    ⟨[], .ok {
      status := .skipped
      output := s!"Windows computer name '{desired}' will be applied atomically with the " ++
        "Active Directory join."
      artifacts := identityArtifacts ctx.request }⟩
  else match a.credentials with
    | some raised => ⟨[], .error raised⟩
    | none =>
      match a.probe with
      | .raises error => ⟨[], .error (.infra error)⟩
      | .reports =>
        if w.activeName = desired then
          ⟨[], .ok {
            status := .skipped
            output := s!"Windows computer name already set to '{desired}'."
            artifacts := identityArtifacts ctx.request }⟩
        else renameComputer ctx.request w.activeName a.rename
      | .exits stdout =>
        match stdout, (outputLines stdout).getLast? with
        | "", _ => renameComputer ctx.request "" a.rename
        -- `"".splitlines()[-1]` on an output of blank lines
        | _, none => ⟨[], .error (.other "IndexError: list index out of range")⟩
        | _, some line => renameComputer ctx.request line.toUpper a.rename

/-! ## `join_domain` -/

/-- `WindowsIdentityState`, as the identity probe parses it. -/
structure WindowsIdentityState where
  name : String
  domain : String
  partOfDomain : Bool
  activeName : String
  pendingName : String
  pendingDomainJoin : Bool
  deriving DecidableEq

namespace WindowsIdentityState

def hasPendingRename (s : WindowsIdentityState) : Bool :=
  s.activeName != "" && s.pendingName != "" && s.activeName.toLower != s.pendingName.toLower

/-- The active name and the name WMI reports differ. -/
def inconsistentActiveName (s : WindowsIdentityState) : Bool :=
  s.activeName != "" && s.name.toLower != s.activeName.toLower

/-- `fqdn` of a domain member. -/
def fqdn (s : WindowsIdentityState) : String := s!"{s.name}.{s.domain}".toLower

/-- `windows_identity_matches`. -/
def isFor (s : WindowsIdentityState) (computerName domain : String) : Bool :=
  s.partOfDomain && s.name.toLower == computerName.toLower &&
    s.domain.toLower == (rstrip (· == '.') domain).toLower &&
    !s.hasPendingRename && !s.pendingDomainJoin

def pyBool (b : Bool) : String := if b then "True" else "False"

/-- `windows_identity_detail`. -/
def detail (s : WindowsIdentityState) : String :=
  let membership := if s.partOfDomain then "domain member" else "not domain joined"
  s!"Name={s.name}, Domain={s.domain}, PartOfDomain={pyBool s.partOfDomain}, " ++
    s!"ActiveName={s.activeName}, PendingName={s.pendingName}, " ++
    s!"PendingDomainJoin={pyBool s.pendingDomainJoin} ({membership})"

end WindowsIdentityState

structure JoinAnswers where
  credentials : Option Raised := none
  identity : Except Raised WindowsIdentityState
  joinCredentials : Option Raised := none
  /-- `technical_detail` of a failed join, with the password redacted. -/
  join : ScriptAnswer := .succeeds "DOMAIN-JOINED"

def pendingIdentityError (s : WindowsIdentityState) : InfraOperationError where
  humanMessage := "A pending Windows identity change must be resolved before domain join."
  reason := s.detail
  recommendedAction := "Restart the guest, confirm its active computer name and domain, then " ++
    "retry the domain-join stage. InfraOps did not make another Active Directory change."

def otherDomainError (s : WindowsIdentityState) : InfraOperationError where
  humanMessage := "The guest is already joined with a different Windows domain identity."
  reason := s.detail
  recommendedAction := "Resolve the existing domain membership manually before retrying. " ++
    "InfraOps will not move or rename an unexpected domain member automatically."
  retryable := false

def joinError (domain : String) (code : Int) (detail : String) : InfraOperationError where
  humanMessage := s!"The domain join to '{domain}' failed."
  reason := s!"Add-Computer exited with code {code}."
  recommendedAction := "Verify the domain-join account, OU path and network path to a domain " ++
    "controller, then retry the domain join stage."
  technicalDetail := detail

/-- The artifacts of an accepted join: `identity_verified` is false until the restart. -/
def joinedArtifacts (fqdn : Option String) (domain : String) (base : Artifacts) : Artifacts :=
  (((base.insert .requestedFqdn (fqdn.elim .null .str)).insert (.other "identity_verified")
    (.bool false)).insert (.other "domain") (.str domain)).insert .joined (.bool true)

/-- `Add-Computer` and what follows it; a rename rides along unless Windows already has the
name. -/
def addComputer (r : ProvisioningRequest) (join : DomainJoinSpec) (s : WindowsIdentityState)
    (a : ScriptAnswer) : HandlerRun :=
  let desired := r.effectiveComputerName.toUpper
  let effects := if s.name.toLower = desired.toLower then [] else a.effects (.rename desired)
  match a with
  | .raises error _ => ⟨[{ effects }], .error (.infra error)⟩
  | .exits code stdout stderr _ =>
    ⟨[{ effects }], .error (.infra (joinError join.domain code
      (lastChars 1500 (stdout ++ "\n" ++ stderr))))⟩
  | .succeeds _ =>
    let ou := ProvisioningRequest.orElseString join.ou ""
    let suffix := if ou = "" then "" else s!" (OU: {ou})"
    ⟨[{ effects, assignments := [.rebootRequired true] }], .ok {
      output := s!"Active Directory accepted Windows computer name '{desired}' for domain " ++
        s!"'{join.domain}'{suffix}; reboot is required before the resulting DNS identity can " ++
        "be verified."
      artifacts := joinedArtifacts r.effectiveFqdn join.domain
        (((∅ : Artifacts).insert .computerName (.str desired)).insert .rebootRequired
          (.bool true)) }⟩

/-- The artifacts of an identity that Windows already has. -/
def verifiedArtifacts (s : WindowsIdentityState) : Artifacts :=
  ((((((∅ : Artifacts).insert .rebootRequired (.bool false)).insert .joined (.bool true)).insert
    (.other "identity_verified") (.bool true)).insert (.other "fqdn") (.str s.fqdn)).insert
    (.other "domain") (.str s.domain.toLower)).insert .computerName (.str s.name.toUpper)

def stageJoinDomain (ctx : JobRunContext) (a : JoinAnswers) : HandlerRun :=
  match ctx.request.domainJoin with
  | none => ⟨[], .ok { status := .skipped, output := "Domain join not requested." }⟩
  | some join =>
    match a.credentials, a.identity with
    | some raised, _ => ⟨[], .error raised⟩
    | none, .error raised => ⟨[], .error raised⟩
    | none, .ok s =>
      if s.hasPendingRename || s.pendingDomainJoin || s.inconsistentActiveName then
        ⟨[], .error (.infra (pendingIdentityError s))⟩
      else if s.isFor ctx.request.effectiveComputerName.toUpper join.domain then
        ⟨[{ assignments := [.rebootRequired false] }], .ok {
          status := .skipped
          output := "Windows already reports the verified domain identity " ++
            s!"'{s.fqdn}'; no Active Directory change was made."
          artifacts := verifiedArtifacts s }⟩
      else if s.partOfDomain then ⟨[], .error (.infra (otherDomainError s))⟩
      else match a.joinCredentials with
        | some raised => ⟨[], .error raised⟩
        | none => addComputer ctx.request join s a.join

/-! ## `reboot_guest` -/

structure RebootAnswers where
  credentials : Option Raised := none
  bootTime : ProbeAnswer
  restart : ScriptAnswer := .succeeds ""

/-- `join_artifacts.get("joined") and join_artifacts.get("reboot_required", True)`. -/
def joinedRequiresReboot (job : ProvisioningJob) : Bool :=
  let artifacts := job.stepArtifacts .joinDomain
  artifacts.has .joined && ((artifacts.lookup .rebootRequired).map Json.truthy).getD true

def stageRebootGuest (ctx : JobRunContext) (job : ProvisioningJob) (a : RebootAnswers) :
    HandlerRun :=
  if !(ctx.hostnameChanged || joinedRequiresReboot job) then
    ⟨[], .ok { status := .skipped, output := "No pending changes require a reboot." }⟩
  else match a.credentials with
    | some raised => ⟨[], .error raised⟩
    | none =>
      match guestBootTime a.bootTime with
      | .error error => ⟨[], .error (.infra error)⟩
      | .ok before =>
        let restart : Call := { effects := a.restart.effects .restart }
        match scheduleGuestRestart a.restart with
        | some error => ⟨[restart], .error (.infra error)⟩
        | none =>
          ⟨[restart], .ok {
            output := "Guest restart initiated."
            artifacts := (∅ : Artifacts).insert .bootTime (.str before) }⟩

/-! ## `STAGE_HANDLERS` -/

/-- The outcomes the code of a stage can return, for the stages left to `OtherAnswers`. -/
def otherOutcome : Stage → OutcomeStatus → Bool
  | .addDataDisks, .skipped | .initializeDataDisks, .skipped | .waitGuestReady, .skipped
  | .installRootCertificates, .skipped | .installIntermediateCertificates, .skipped
  | .validateCertificates, .skipped | .resolveDependencies, .skipped
  | .installApplications, .skipped | .validateApplications, .skipped
  | .waitForTools, .warning => true
  | _, .succeeded => true
  | _, _ => false

/-- How a stage outside this model ends: the lifecycle columns it left, and its result. -/
structure OtherAnswers where
  columns : Lifecycle := {}
  result : Except Raised StageOutcome := .ok {}

inductive StageAnswers
  | createVm (a : CreateVmAnswers)
  | prepare (a : PrepareAnswers)
  | cleanup (a : CleanupAnswers)
  | hostname (a : HostnameAnswers)
  | join (a : JoinAnswers)
  | reboot (a : RebootAnswers)
  | other (a : OtherAnswers)

def OtherAnswers.allowed (k : Stage) (a : OtherAnswers) : Bool :=
  match a.result with
  | .ok outcome => otherOutcome k outcome.status
  | .error _ => true

/-- The handler of a stage under the given answers; `none` when the answers are not ones
for this stage. -/
def runHandler (k : Stage) (ctx : JobRunContext) (job : ProvisioningJob) (w : World)
    (answers : StageAnswers) : Option HandlerRun :=
  match k, answers with
  | .createVm, .createVm a => some (stageCreateVm ctx job a)
  | .prepareUnattendedInstall, .prepare a => some (stagePrepareUnattendedInstall ctx job w a)
  | .cleanupUnattendedMedia, .cleanup a => some (stageCleanupUnattendedMedia ctx job a)
  | .configureHostname, .hostname a => some (stageConfigureHostname ctx w a)
  | .joinDomain, .join a => some (stageJoinDomain ctx a)
  | .rebootGuest, .reboot a => some (stageRebootGuest ctx job a)
  | .createVm, _ | .prepareUnattendedInstall, _ | .cleanupUnattendedMedia, _
  | .configureHostname, _ | .joinDomain, _ | .rebootGuest, _ => none
  | k, .other a =>
    if a.allowed k then some ⟨[{ assignments := [.lifecycle a.columns] }], a.result⟩ else none
  | _, _ => none

end InfraOps
