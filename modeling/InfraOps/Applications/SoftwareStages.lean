import InfraOps.Applications.ApprovedInstallers
import InfraOps.Applications.DetectionPrograms
import InfraOps.Applications.InstallOrder

/-!
# The application stages at work

`resolve_dependencies`, `install_applications` and `validate_applications` of one job over all
their attempts, call by call. Between any two calls administrators may edit the catalog, and
the guest may change: an installer that a stage gave up is still running, and people install
and remove software. What the guest has is seen from outside: the commands that exit with 0.
-/

namespace InfraOps

/-- A row of `applications`, with what its detection needs. -/
structure CatalogApplication extends Application where
  detectionMethod : DetectionMethod
  detectionConfig : Option DetectionConfig
  deriving DecidableEq

/-- The table `applications`, as the stages read it. -/
structure SoftwareCatalog where
  apps : List CatalogApplication
  nodup : (apps.map fun app => app.id).Nodup

/-- `_load_application_catalog`. -/
def SoftwareCatalog.load (c : SoftwareCatalog) : Catalog :=
  AppCatalog.load ⟨c.apps.map CatalogApplication.toApplication, by
    rw [List.map_map]
    exact c.nodup⟩

/-! ## Detection -/

/-- `detection_programs` of the definition; `none` is a `KeyError`. -/
def CatalogApplication.probes (app : CatalogApplication) : Option (List GuestCommand) :=
  detectionPrograms app.detectionMethod (app.detectionConfig.getD ∅)

/-- One of the commands that look for the application exits with 0. -/
def CatalogApplication.detectedIn (app : CatalogApplication) (guest : List GuestCommand) : Bool :=
  (app.probes.getD []).any (· ∈ guest)

def GuestCommand.display (command : GuestCommand) : String :=
  if command.script.isSome then "powershell" else command.program.getD ""

def detectionAbsentExitCodes : List Int := [1, 1060]

/-- What the loop of `detect` makes of an answer. -/
inductive ProbeVerdict
  | present
  | absent
  | raised (error : Raised)

def detectionError (app : Application) (probe : GuestCommand) (result : GuestResult) :
    InfraOperationError where
  humanMessage := s!"Detection for '{app.name}' could not run inside the guest."
  reason := s!"'{probe.display}' exited with unexpected code {result.exitCode}."
  recommendedAction := "Inspect the stage output and retry application installation."
  technicalDetail := lastChars 1500 (result.stdout ++ result.stderr)
  retryable := true

def probeVerdict (app : Application) (probe : GuestCommand) :
    Except Raised GuestResult → ProbeVerdict
  | .error raised => .raised raised
  | .ok result =>
    if result.exitCode = 0 then .present
    else if result.exitCode ∈ detectionAbsentExitCodes then .absent
    else .raised (.infra (detectionError app probe result))

/-- A detection that waits for the answer to `probe`. -/
structure Detection where
  app : CatalogApplication
  probe : GuestCommand
  rest : List GuestCommand

/-! ## Attempts -/

inductive InstallPhase
  /-- At the head of the loop over the order. -/
  | next
  | detecting (detection : Detection)
  | installing (app : CatalogApplication) (program : Program)

/-- `install_applications` at work. -/
structure InstallAttempt where
  /-- `apps_by_id`, as the stage has read it. -/
  snapshot : List CatalogApplication
  /-- What is left of the order after the entry in work. -/
  rest : List OrderEntry
  phase : InstallPhase := .next
  outcomes : List InstallOutcome := []
  failures : List String := []

namespace InstallAttempt

/-- The end of the loop's body. -/
def settle (a : InstallAttempt) (outcome : InstallOutcome) : InstallAttempt :=
  { a with
    phase := .next
    outcomes := a.outcomes ++ [outcome]
    failures :=
      if outcome.status = .failed then
        a.failures ++ [s!"{outcome.name}: " ++ firstChars 200 outcome.output]
      else a.failures }

/-- `install` makes a failure of an `InfraOperationError`; any other exception ends the stage. -/
def raises (a : InstallAttempt) (app : Application) (raised : Raised) : Option InstallAttempt :=
  (raisedOutcome app raised).toOption.map a.settle

end InstallAttempt

def alreadyInstalled (app : Application) : InstallOutcome where
  appId := app.id
  name := app.name
  status := .alreadyInstalled
  output := "Detection matched — installation skipped (idempotent)."

/-- `validate_applications` at work. -/
structure ValidationAttempt where
  /-- `apps_by_name` is made of these. -/
  snapshot : List CatalogApplication
  /-- The names that are left. -/
  rest : List String
  detecting : Option Detection := none
  found : List CatalogApplication := []
  problems : List String := []

/-- `apps_by_name.get`: of two rows with one name, the later one. -/
def appsByName (apps : List CatalogApplication) (name : String) : Option CatalogApplication :=
  apps.reverse.find? fun app => app.name == name

inductive StageAtWork
  | idle
  | installing (attempt : InstallAttempt)
  | validating (attempt : ValidationAttempt)

/-! ## The job -/

/-- A finished `resolve_dependencies`. -/
structure Resolution (selected : List AppId) where
  /-- The catalog that it has read. -/
  catalog : Catalog
  resolves : (resolveInstallOrder selected catalog).2 = []

/-- The artifact `order`. -/
def Resolution.order {selected : List AppId} (r : Resolution selected) : List OrderEntry :=
  (resolveInstallOrder selected r.catalog).1.map fun node => ⟨node.id, node.name⟩

/-- An installer that `install_applications` has had started, and what was known then. -/
structure StartedInstaller where
  app : CatalogApplication
  program : Program
  /-- `outcomes` and `failures` of the attempt so far. -/
  outcomes : List InstallOutcome
  failures : List String
  /-- The applications whose installers had reported success, in any attempt. -/
  succeeded : List AppId

structure SoftwareState (selected : List AppId) where
  catalog : SoftwareCatalog
  /-- The commands that exit with 0 in the guest. -/
  guest : List GuestCommand := []
  resolution : Option (Resolution selected) := none
  stage : StageAtWork := .idle
  /-- The artifact `outcomes` of a finished `install_applications`. -/
  installed : Option (List InstallOutcome) := none
  /-- What a finished `validate_applications` has detected. -/
  validated : Option (List CatalogApplication) := none
  /-- History. -/
  started : List StartedInstaller := []
  /-- History. -/
  succeeded : List AppId := []

inductive SoftwareAction
  | editCatalog (catalog : SoftwareCatalog)
  | guestChanges (guest : List GuestCommand)
  | resolveDependencies
  | beginInstall
  | takeEntry
  | probe (answer : Except Raised GuestResult)
  | installerReturns (answer : Except Raised GuestResult)
  | endInstall
  | beginValidation
  | takeName
  | endValidation
  /-- The stage fails, times out or is cancelled, or its worker is gone. -/
  | abort

namespace SoftwareState

variable {selected : List AppId}

/-- `stage_resolve_dependencies`; a failure leaves the step as it was. -/
def resolveDependencies (s : SoftwareState selected) : Option (SoftwareState selected) :=
  match s.resolution with
  | some _ => none
  | none =>
    if h : (resolveInstallOrder selected s.catalog.load).2 = [] then
      some { s with resolution := some ⟨s.catalog.load, h⟩ }
    else some s

/-- The attempt goes on, or an exception has ended the stage. -/
def goOn (s : SoftwareState selected) : Option InstallAttempt → SoftwareState selected
  | some attempt => { s with stage := .installing attempt }
  | none => { s with stage := .idle }

/-- The start of `stage_install_applications`. -/
def beginInstall (s : SoftwareState selected) : Option (SoftwareState selected) :=
  match s.stage, s.resolution, s.installed with
  | .idle, some r, none =>
    if r.order = [] then some { s with installed := some [] }
    else some { s with stage := .installing { snapshot := s.catalog.apps, rest := r.order } }
  | _, _, _ => none

/-- `install`, after a detection that found nothing. -/
def startInstaller (s : SoftwareState selected) (a : InstallAttempt) (app : CatalogApplication) :
    SoftwareState selected :=
  match buildInstallProgram app.toApplication with
  | .error error => s.goOn (a.raises app.toApplication (.infra error))
  | .ok program =>
    { s with
      stage := .installing { a with phase := .installing app program }
      started := ⟨app, program, a.outcomes, a.failures, s.succeeded⟩ :: s.started }

/-- The loop of `detect`, inside `install`. -/
def detect (s : SoftwareState selected) (a : InstallAttempt) (app : CatalogApplication) :
    List GuestCommand → SoftwareState selected
  | [] => s.startInstaller a app
  | probe :: rest =>
    { s with stage := .installing { a with phase := .detecting ⟨app, probe, rest⟩ } }

/-- The head of the loop of `stage_install_applications`. -/
def takeEntry (s : SoftwareState selected) : Option (SoftwareState selected) :=
  match s.stage with
  | .installing a =>
    match a.phase, a.rest with
    | .next, entry :: rest =>
      match a.snapshot.find? fun app => app.id == entry.id with
      | none =>
        some (s.goOn (some { a with
          rest
          failures := a.failures ++
            [s!"{entry.name}: definition disappeared from the catalog"] }))
      | some app =>
        match app.probes with
        | none => some (s.goOn none)
        | some probes => some (s.detect { a with rest } app probes)
    | _, _ => none
  | _ => none

/-- An answer to a probe of `install`. -/
def probeInstall (s : SoftwareState selected) (a : InstallAttempt) (d : Detection)
    (answer : Except Raised GuestResult) : SoftwareState selected :=
  match probeVerdict d.app.toApplication d.probe answer with
  | .present => s.goOn (some (a.settle (alreadyInstalled d.app.toApplication)))
  | .absent => s.detect a d.app d.rest
  | .raised raised => s.goOn (a.raises d.app.toApplication raised)

/-- The installer's own answer. -/
def installerReturns (s : SoftwareState selected) (answer : Except Raised GuestResult) :
    Option (SoftwareState selected) :=
  match s.stage with
  | .installing a =>
    match a.phase, answer with
    | .installing app _, .error raised => some (s.goOn (a.raises app.toApplication raised))
    | .installing app _, .ok result =>
      let outcome := installerOutcome app.toApplication result
      some { s.goOn (some (a.settle outcome)) with
        succeeded := if outcome.status = .failed then s.succeeded else app.id :: s.succeeded }
    | _, _ => none
  | _ => none

/-- The end of `stage_install_applications`: with a failure, the stage fails. -/
def endInstall (s : SoftwareState selected) : Option (SoftwareState selected) :=
  match s.stage with
  | .installing a =>
    match a.phase, a.rest with
    | .next, [] =>
      some { s with
        stage := .idle
        installed := if a.failures = [] then some a.outcomes else none }
    | _, _ => none
  | _ => none

/-- The start of `stage_validate_applications`. -/
def beginValidation (s : SoftwareState selected) : Option (SoftwareState selected) :=
  match s.stage, s.installed, s.validated with
  | .idle, some [], none => some { s with validated := some [] }
  | .idle, some (o :: outcomes), none =>
    some { s with stage := .validating {
      snapshot := s.catalog.apps
      rest := (o :: outcomes).map InstallOutcome.name } }
  | _, _, _ => none

/-- The loop of `detect`, inside `stage_validate_applications`. -/
def redetect (s : SoftwareState selected) (v : ValidationAttempt) (app : CatalogApplication) :
    List GuestCommand → SoftwareState selected
  | [] => { s with stage := .validating { v with
      detecting := none
      problems := v.problems ++ [app.name] } }
  | probe :: rest => { s with stage := .validating { v with detecting := some ⟨app, probe, rest⟩ } }

/-- The head of the loop of `stage_validate_applications`. -/
def takeName (s : SoftwareState selected) : Option (SoftwareState selected) :=
  match s.stage with
  | .validating v =>
    match v.detecting, v.rest with
    | none, name :: rest =>
      match appsByName v.snapshot name with
      | none =>
        some { s with stage := .validating { v with
          rest
          problems := v.problems ++ [s!"{name}: definition missing during validation"] } }
      | some app =>
        match app.probes with
        | none => some { s with stage := .idle }
        | some probes => some (s.redetect { v with rest } app probes)
    | _, _ => none
  | _ => none

/-- An answer to a probe of `stage_validate_applications`; an exception ends the stage. -/
def probeValidation (s : SoftwareState selected) (v : ValidationAttempt) (d : Detection)
    (answer : Except Raised GuestResult) : SoftwareState selected :=
  match probeVerdict d.app.toApplication d.probe answer with
  | .present => { s with stage := .validating { v with
      detecting := none
      found := v.found ++ [d.app] } }
  | .absent => s.redetect v d.app d.rest
  | .raised _ => { s with stage := .idle }

/-- The end of `stage_validate_applications`: with a problem, the stage fails. -/
def endValidation (s : SoftwareState selected) : Option (SoftwareState selected) :=
  match s.stage with
  | .validating v =>
    match v.detecting, v.rest with
    | none, [] =>
      some { s with
        stage := .idle
        validated := if v.problems = [] then some v.found else none }
    | _, _ => none
  | _ => none

def probe (s : SoftwareState selected) (answer : Except Raised GuestResult) :
    Option (SoftwareState selected) :=
  match s.stage with
  | .installing a =>
    match a.phase with
    | .detecting d => some (s.probeInstall a d answer)
    | _ => none
  | .validating v => v.detecting.map fun d => s.probeValidation v d answer
  | .idle => none

def step (s : SoftwareState selected) : SoftwareAction → Option (SoftwareState selected)
  | .editCatalog catalog => some { s with catalog }
  | .guestChanges guest => some { s with guest }
  | .resolveDependencies => s.resolveDependencies
  | .beginInstall => s.beginInstall
  | .takeEntry => s.takeEntry
  | .probe answer => s.probe answer
  | .installerReturns answer => s.installerReturns answer
  | .endInstall => s.endInstall
  | .beginValidation => s.beginValidation
  | .takeName => s.takeName
  | .endValidation => s.endValidation
  | .abort => some { s with stage := .idle }

/-- No stage has been at the applications. -/
structure Fresh (s : SoftwareState selected) : Prop where
  resolution : s.resolution = none
  stage : s.stage = .idle
  installed : s.installed = none
  validated : s.validated = none
  started : s.started = []
  succeeded : s.succeeded = []

end SoftwareState

/-- The application stages of a job with the selection `selected`. -/
def software (selected : List AppId) : Machine (SoftwareState selected) SoftwareAction where
  init := SoftwareState.Fresh
  step := SoftwareState.step

/-! ## An installation at work -/

namespace SoftwareState

variable {selected : List AppId}

/-- Until its end, an installation changes nothing but the stage at work and the history. -/
structure Installs (s s' : SoftwareState selected) : Prop where
  stage : ∀ v, s'.stage ≠ .validating v
  guest : s'.guest = s.guest
  installed : s'.installed = s.installed
  validated : s'.validated = s.validated

theorem installs_goOn (s : SoftwareState selected) (next : Option InstallAttempt) :
    s.Installs (s.goOn next) := by
  cases next with
  | none => exact ⟨fun v hv => (by cases hv), rfl, rfl, rfl⟩
  | some a => exact ⟨fun v hv => (by cases hv), rfl, rfl, rfl⟩

theorem installs_startInstaller (s : SoftwareState selected) (a : InstallAttempt)
    (app : CatalogApplication) : s.Installs (s.startInstaller a app) := by
  unfold startInstaller
  split
  · exact s.installs_goOn _
  · exact ⟨fun v hv => (by cases hv), rfl, rfl, rfl⟩

theorem installs_detect (s : SoftwareState selected) (a : InstallAttempt)
    (app : CatalogApplication) (probes : List GuestCommand) :
    s.Installs (s.detect a app probes) := by
  cases probes with
  | nil => exact s.installs_startInstaller a app
  | cons probe rest => exact ⟨fun v hv => (by cases hv), rfl, rfl, rfl⟩

theorem installs_probeInstall (s : SoftwareState selected) (a : InstallAttempt) (d : Detection)
    (answer : Except Raised GuestResult) : s.Installs (s.probeInstall a d answer) := by
  unfold probeInstall
  split
  · exact s.installs_goOn _
  · exact s.installs_detect _ _ _
  · exact s.installs_goOn _

theorem installs_takeEntry {s s' : SoftwareState selected} (h : s.takeEntry = some s') :
    s.Installs s' := by
  unfold takeEntry at h
  split at h
  · split at h
    · split at h
      · cases h
        exact s.installs_goOn _
      · split at h
        · cases h
          exact s.installs_goOn _
        · cases h
          exact s.installs_detect _ _ _
    · cases h
  · cases h

theorem installs_installerReturns {s s' : SoftwareState selected}
    {answer : Except Raised GuestResult} (h : s.installerReturns answer = some s') :
    s.Installs s' := by
  unfold installerReturns at h
  split at h
  · split at h
    · cases h
      exact s.installs_goOn _
    · cases h
      exact ⟨fun v hv => (by cases hv), rfl, rfl, rfl⟩
    · cases h
  · cases h

end SoftwareState

/-! ## A validation at work -/

namespace SoftwareState

variable {selected : List AppId}

/-- Until its end, a validation changes nothing but the stage at work. -/
def Restaged (s s' : SoftwareState selected) : Prop :=
  ∃ stage, (∀ a, stage ≠ .installing a) ∧ s' = { s with stage }

theorem restaged_validating (s : SoftwareState selected) (v : ValidationAttempt) :
    s.Restaged { s with stage := .validating v } :=
  ⟨.validating v, fun a ha => (by cases ha), rfl⟩

theorem restaged_idle (s : SoftwareState selected) : s.Restaged { s with stage := .idle } :=
  ⟨.idle, fun a ha => (by cases ha), rfl⟩

theorem restaged_redetect (s : SoftwareState selected) (v : ValidationAttempt)
    (app : CatalogApplication) (probes : List GuestCommand) :
    s.Restaged (s.redetect v app probes) := by
  cases probes with
  | nil => exact s.restaged_validating _
  | cons probe rest => exact s.restaged_validating _

theorem restaged_probeValidation (s : SoftwareState selected) (v : ValidationAttempt)
    (d : Detection) (answer : Except Raised GuestResult) :
    s.Restaged (s.probeValidation v d answer) := by
  unfold probeValidation
  split
  · exact s.restaged_validating _
  · exact s.restaged_redetect v d.app d.rest
  · exact s.restaged_idle

theorem restaged_takeName {s s' : SoftwareState selected} (h : s.takeName = some s') :
    s.Restaged s' := by
  unfold takeName at h
  split at h
  · split at h
    · split at h
      · cases h
        exact s.restaged_validating _
      · split at h
        · cases h
          exact s.restaged_idle
        · cases h
          exact s.restaged_redetect _ _ _
    · cases h
  · cases h

end SoftwareState

/-! ## The calls of one entry -/

/-- `ApplicationInstaller.detect`, with the guest's answers. -/
def detect (app : Application) (answers : GuestCommand → Except Raised GuestResult) :
    List GuestCommand → Except Raised Bool
  | [] => .ok false
  | probe :: rest =>
    match probeVerdict app probe (answers probe) with
    | .present => .ok true
    | .absent => detect app answers rest
    | .raised raised => .error raised

section Entry

variable {selected : List AppId}

/-- **The calls of an entry are `install`**: from the first probe on, there are events that
carry the attempt to where `install` brings it with the same answers. -/
theorem detect_run (s : SoftwareState selected) (a : InstallAttempt) (app : CatalogApplication)
    (answers : GuestCommand → Except Raised GuestResult) (result : Except Raised GuestResult)
    (probes : List GuestCommand) : ∃ events s',
      (software selected).run (s.detect a app probes) events = some s' ∧
      s'.stage = (s.goOn ((install app.toApplication
        ⟨detect app.toApplication answers probes, result⟩).2.toOption.map a.settle)).stage := by
  induction probes with
  | nil =>
    cases hprogram : buildInstallProgram app.toApplication with
    | error error =>
      refine ⟨[], _, rfl, ?_⟩
      simp only [SoftwareState.detect, SoftwareState.startInstaller, install, InfraOps.detect,
        hprogram, InstallAttempt.raises]
    | ok program =>
      refine ⟨[.installerReturns result], ?_⟩
      cases result with
      | error raised =>
        simp only [Machine.run, software, SoftwareState.step, SoftwareState.installerReturns,
          SoftwareState.detect, SoftwareState.startInstaller, install, InfraOps.detect, hprogram]
        exact ⟨_, rfl, by cases raised <;> rfl⟩
      | ok result =>
        simp only [Machine.run, software, SoftwareState.step, SoftwareState.installerReturns,
          SoftwareState.detect, SoftwareState.startInstaller, install, InfraOps.detect, hprogram]
        exact ⟨_, rfl, rfl⟩
  | cons probe rest ih =>
    cases hverdict : probeVerdict app.toApplication probe (answers probe) with
    | present =>
      refine ⟨[.probe (answers probe)], s.goOn (some (a.settle (alreadyInstalled
        app.toApplication))), ?_, ?_⟩
      · simp [Machine.run, software, SoftwareState.step, SoftwareState.probe, SoftwareState.detect,
          SoftwareState.probeInstall, hverdict]
        rfl
      · simp only [install, InfraOps.detect, hverdict]
        rfl
    | absent =>
      obtain ⟨events, s', hrun, hstage⟩ := ih
      refine ⟨.probe (answers probe) :: events, s', ?_, ?_⟩
      · rw [← hrun]
        simp [Machine.run, software, SoftwareState.step, SoftwareState.probe, SoftwareState.detect,
          SoftwareState.probeInstall, hverdict]
        rfl
      · simp only [InfraOps.detect, hverdict]
        exact hstage
    | raised raised =>
      refine ⟨[.probe (answers probe)], s.goOn (a.raises app.toApplication raised), ?_, ?_⟩
      · simp [Machine.run, software, SoftwareState.step, SoftwareState.probe, SoftwareState.detect,
          SoftwareState.probeInstall, hverdict]
        rfl
      · simp only [install, InfraOps.detect, hverdict]
        rfl

end Entry

end InfraOps
