import InfraOps.Applications.Detection
import InfraOps.Applications.Resolver
import InfraOps.Support.Except
import InfraOps.Support.Machine

/-!
# Stored definitions

The creations and updates of `app/api/v1/admin_applications.py` with their schemas of
`app/schemas/applications.py`, one request after the other. A field of an update may be unset,
null or given. The dependencies of an application are checked on their own and can only make a
request fail.
-/

namespace InfraOps

/-- `Field(min_length, max_length)`. -/
def checkLength (least most : Nat) (value : List Char) : Except String (List Char) :=
  if value.length < least then .error s!"String should have at least {least} characters"
  else if most < value.length then .error s!"String should have at most {most} characters"
  else .ok value

structure ApplicationCreate where
  name : List Char
  installerType : InstallerType
  installerPath : List Char
  detectionMethod : DetectionMethod
  detectionConfig : DetectionConfig := ∅

/-- `ApplicationCreate._validate_detection`, after the fields' own checks. -/
def ApplicationCreate.validate (payload : ApplicationCreate) :
    Except String ApplicationCreate := do
  let _ ← checkLength 2 200 payload.name
  let _ ← checkLength 3 500 payload.installerPath
  let path ← validateInstallerPath payload.installerPath payload.installerType
  let config ← validateDetectionConfig payload.detectionMethod payload.detectionConfig
  return { payload with installerPath := path, detectionConfig := config }

structure ApplicationUpdate where
  name : Option (Option (List Char)) := none
  installerType : Option (Option InstallerType) := none
  installerPath : Option (Option (List Char)) := none
  detectionMethod : Option (Option DetectionMethod) := none
  detectionConfig : Option (Option DetectionConfig) := none

/-- `validate_installer_path`, whose type may be missing. -/
def validatePathFor (value : List Char) : Option InstallerType → Except String (List Char)
  | none => validateWindowsPath "Installer path" value
  | some kind => validateInstallerPath value kind

namespace ApplicationUpdate

variable (payload : ApplicationUpdate)

def checkName : Except String Unit :=
  match payload.name with
  | some (some name) => (checkLength 2 200 name).map fun _ => ()
  | _ => .ok ()

/-- The type may be unchanged: it is not looked up here. -/
def checkPath : Except String (Option (Option (List Char))) :=
  match payload.installerPath with
  | some (some path) => do
    let _ ← checkLength 3 500 path
    let path ← validatePathFor path payload.installerType.join
    return some (some path)
  | unset => .ok unset

/-- The pair is checked when both are given. -/
def checkDetection : Except String (Option (Option DetectionConfig)) :=
  match payload.detectionMethod, payload.detectionConfig with
  | some (some method), some (some config) =>
    (validateDetectionConfig method config).map fun config => some (some config)
  | _, config => .ok config

/-- `ApplicationUpdate._validate_detection_pair`, after the fields' own checks. -/
def validate : Except String ApplicationUpdate := do
  payload.checkName
  let path ← payload.checkPath
  let config ← payload.checkDetection
  return { payload with installerPath := path, detectionConfig := config }

end ApplicationUpdate

/-! ## Requests -/

end InfraOps
