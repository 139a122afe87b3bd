import InfraOps.Applications.Paths
import InfraOps.Applications.Resolver
import InfraOps.Core.Errors
import InfraOps.Services.GuestScripts
import Mathlib.Data.List.Dedup

/-!
# Installing applications

The catalog with its administrator-defined installers, the two places that compare installer
paths with the approved roots (`preflight.py`, `stage_validate_request`), and
`app/services/applications/installer.py`, which starts the installer in the guest. The
installer knows no roots.
-/

namespace InfraOps

/-- A row of `applications`, with its dependencies. -/
structure Application where
  id : AppId
  name : String
  enabled : Bool := true
  installerType : InstallerType
  installerPath : String
  installArguments : String := ""
  rebootRequired : Bool := false
  dependencyIds : List AppId := []
  deriving DecidableEq

def Application.node (app : Application) : AppNode where
  id := app.id
  name := app.name
  enabled := app.enabled
  dependencyIds := app.dependencyIds.dedup
  nodup := List.nodup_dedup _

/-- The table `applications`. -/
structure AppCatalog where
  apps : List Application
  nodup : (apps.map Application.id).Nodup := by decide

namespace AppCatalog

/-- `_load_application_catalog`. -/
def load (c : AppCatalog) : Catalog where
  nodes := c.apps.map Application.node
  nodup := by
    have hids : AppNode.id ∘ Application.node = Application.id := rfl
    rw [List.map_map, hids]
    exact c.nodup

/-- `apps_by_id.get`. -/
def find (c : AppCatalog) (id : AppId) : Option Application := c.apps.find? fun app => app.id == id

theorem mem_of_find {c : AppCatalog} {id : AppId} {app : Application} (h : c.find id = some app) :
    app ∈ c.apps ∧ app.id = id :=
  ⟨List.mem_of_find?_eq_some h, by simpa using List.find?_some h⟩

/-- `Application.id.in_(application_ids)`. -/
def selectedApplications (c : AppCatalog) (selected : List AppId) : List Application :=
  c.apps.filter fun app => app.id ∈ selected

end AppCatalog

/-! ## The policy -/

section

variable (casefold : Char → List Char)

def Application.within (app : Application) (roots : List String) : Bool :=
  pathWithinRoots casefold app.installerPath.toList (roots.map String.toList)

def outsideRoots (applications : List Application) (roots : List String) : List String :=
  (applications.filter fun app => !app.within casefold roots).map Application.installerPath

def policyError (reason : String) : InfraOperationError where
  humanMessage := "Application installer repository policy is not satisfied."
  reason := reason
  recommendedAction :=
    "Configure approved installer roots and correct the application catalog before resubmitting."
  retryable := false

/-- The installer policy of `stage_validate_request`; the error it raises, if any. -/
def validateInstallers (c : AppCatalog) (selected : List AppId) (allowedRoots : List String) :
    Option InfraOperationError :=
  if selected = [] then none
  else
    let outside := outsideRoots casefold (c.selectedApplications selected) allowedRoots
    if allowedRoots = [] then some (policyError "No approved installer roots are configured.")
    else if outside ≠ [] then
      some (policyError ("Installer paths outside approved roots: " ++ ", ".intercalate outside))
    else none

/-- The check `installer_policy` of the preflight; the detail of its failure, if it fails. -/
def preflightInstallers (c : AppCatalog) (selected : List AppId) (allowedRoots : List String) :
    Option String :=
  let outside := (c.selectedApplications selected).filter fun app =>
    allowedRoots ≠ [] && !app.within casefold allowedRoots
  if c.selectedApplications selected ≠ [] ∧ allowedRoots = [] then
    some ("No approved installer repository roots are configured. Configure at least " ++
      "one root before selecting applications.")
  else if outside ≠ [] then
    some (s!"{outside.length} installer path(s) are outside the approved software " ++
      "repository roots configured by administrators.")
  else none

/-- The stage is the stricter of the two checks. -/
theorem preflightInstallers_of_validate {c : AppCatalog} {selected : List AppId}
    {allowedRoots : List String}
    (h : validateInstallers casefold c selected allowedRoots = none) :
    preflightInstallers casefold c selected allowedRoots = none := by
  have hnone : ∀ app ∈ c.selectedApplications selected, allowedRoots ≠ [] ∧
      app.within casefold allowedRoots = true := by
    intro app happ
    have hselected : app.id ∈ selected := by
      simpa using (List.mem_filter.mp happ).2
    unfold validateInstallers at h
    rw [if_neg (List.ne_nil_of_mem hselected)] at h
    dsimp only at h
    split at h
    · cases h
    · rename_i hroots
      split at h
      · cases h
      · rename_i houtside
        simp only [outsideRoots, ne_eq, List.map_eq_nil_iff, List.filter_eq_nil_iff,
          not_not] at houtside
        exact ⟨hroots, by simpa using houtside app happ⟩
  unfold preflightInstallers
  dsimp only
  rw [if_neg, if_neg]
  · simp only [ne_eq, List.filter_eq_nil_iff, not_not]
    intro app happ
    simp [(hnone app happ).2]
  · rintro ⟨hsome, hroots⟩
    obtain ⟨app, happ⟩ := List.exists_mem_of_ne_nil _ hsome
    exact (hnone app happ).1 hroots

end

/-! ## The installer -/

/-- A program and its argument string, started directly. -/
structure Program where
  path : String
  arguments : String
  deriving DecidableEq

/-- `GuestResult`. -/
structure GuestResult where
  exitCode : Int
  stdout : String := ""
  stderr : String := ""

def msiexecPath : String := "C:\\Windows\\System32\\msiexec.exe"

def powershellPath : String := "C:\\Windows\\System32\\WindowsPowerShell\\v1.0\\powershell.exe"

/-- `text.strip()`. -/
def stripText (text : String) : String := String.ofList (pyStrip text.toList)

/-- `_sanitize_arguments`. -/
def sanitizeArguments (arguments : String) : Except InfraOperationError String :=
  if hasControlChars arguments then
    .error {
      humanMessage := "An application definition contains invalid control characters."
      reason := "Installer arguments include control characters."
      recommendedAction := "Ask an administrator to correct the application definition."
      retryable := false }
  else .ok (stripText arguments)

/-- `build_install_program`. -/
def buildInstallProgram (app : Application) : Except InfraOperationError Program :=
  match sanitizeArguments app.installArguments with
  | .error error => .error error
  | .ok arguments =>
    match validateInstallerPath app.installerPath.toList app.installerType with
    | .error reason =>
      .error {
        humanMessage := "An application definition has an invalid installer path."
        reason := reason
        recommendedAction := "Ask an administrator to correct the application definition."
        retryable := false }
    | .ok path =>
      let installerPath := String.ofList path
      let quotedPath := "\"" ++ installerPath ++ "\""
      match app.installerType with
      | .msi =>
        let extra := if arguments = "" then "" else " " ++ arguments
        .ok ⟨msiexecPath, "/i " ++ quotedPath ++ extra ++ " /qn /norestart"⟩
      | .exe => .ok ⟨installerPath, arguments⟩
      | .powershell =>
        .ok ⟨powershellPath, String.ofList (dropRight pySpace
          ("-NoProfile -ExecutionPolicy Bypass -File " ++ quotedPath ++ " " ++ arguments).toList)⟩

inductive InstallStatus
  | installed | alreadyInstalled | failed | rebootRequired
  deriving DecidableEq

def InstallStatus.value : InstallStatus → String
  | installed => "INSTALLED"
  | alreadyInstalled => "ALREADY_INSTALLED"
  | failed => "FAILED"
  | rebootRequired => "REBOOT_REQUIRED"

structure InstallOutcome where
  appId : AppId
  name : String
  status : InstallStatus
  output : String := ""
  rebootRequired : Bool := false
  deriving DecidableEq

/-- How the two calls into the guest end: the detection, and the installer if it is started. -/
structure InstallAnswers where
  detection : Except Raised Bool
  result : Except Raised GuestResult

/-- The outcome of an installer that ran to its end. -/
def installerOutcome (app : Application) (result : GuestResult) : InstallOutcome :=
  if result.exitCode = 0 then
    { appId := app.id, name := app.name, status := .installed
      output := lastChars 4000 result.stdout, rebootRequired := app.rebootRequired }
  else if app.installerType = .msi ∧ result.exitCode = 3010 then
    { appId := app.id, name := app.name, status := .rebootRequired
      output := lastChars 4000 result.stdout, rebootRequired := true }
  else
    { appId := app.id, name := app.name, status := .failed
      output := stripText (s!"exit={result.exitCode}\n" ++ lastChars 3000 result.stdout ++ "\n" ++
        lastChars 1000 result.stderr) }

/-- What `install` makes of an exception. -/
def raisedOutcome (app : Application) : Raised → Except String InstallOutcome
  | .infra error =>
    .ok { appId := app.id, name := app.name, status := .failed, output := error.summary }
  | .other traceback => .error traceback

/-- `ApplicationInstaller.install`: the program it starts, and its outcome or the traceback
that leaves it. -/
def install (app : Application) (a : InstallAnswers) :
    Option Program × Except String InstallOutcome :=
  match a.detection with
  | .error raised => (none, raisedOutcome app raised)
  | .ok true =>
    (none, .ok {
      appId := app.id
      name := app.name
      status := .alreadyInstalled
      output := "Detection matched — installation skipped (idempotent)." })
  | .ok false =>
    match buildInstallProgram app with
    | .error error => (none, raisedOutcome app (.infra error))
    | .ok program =>
      match a.result with
      | .error raised => (some program, raisedOutcome app raised)
      | .ok result => (some program, .ok (installerOutcome app result))

end InfraOps
