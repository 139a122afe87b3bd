import InfraOps.Applications.Installer
import InfraOps.Preflight.Placement
import InfraOps.Schemas.Provisioning

/-!
# The preflight

`app/services/provisioning/preflight.py`: every check of a request that changes nothing. It
reads the settings, the catalog and the inventory of the selected vCenter; each call to vCenter
answers or raises.
-/

namespace InfraOps.Preflight

/-! ## What is read -/

/-- The settings that placement and validation read. -/
structure Settings where
  vmNamePolicy : List Char
  allowedInstallerRoots : List String
  preferredDatastores : List (List Char)

/-- A row of `vcenter_connections`. -/
structure VCenterConnection where
  name : String
  host : String
  enabled : Bool

structure ConnectionTestResult where
  ok : Bool
  detail : String

structure DatacenterOut where
  id : List Char
  name : String

structure ClusterOut where
  id : List Char
  name : String
  hostsCount : Nat
  drsEnabled : Bool

structure HostOut where
  id : List Char
  name : String
  connectionState : String
  maintenanceMode : Bool
  availableForProvisioning : Bool

structure ResourcePoolOut where
  id : List Char

structure NetworkOut where
  id : List Char
  name : String
  type : String

structure IsoImageOut where
  id : List Char
  name : String
  datastoreId : List Char
  datastoreName : String
  path : String

/-- What `get_datastores` returns: the values of a dictionary by their identifiers. -/
structure DatastoreListing where
  entries : List DatastoreOut
  nodup : (entries.map DatastoreOut.id).Nodup

/-- The calls of a `VMwareService` on one vCenter. -/
structure VMware where
  testConnection : Except Raised ConnectionTestResult
  getDatacenters : Except Raised (List DatacenterOut)
  getClusters : List Char → Except Raised (List ClusterOut)
  getHosts : List Char → Except Raised (List HostOut)
  getResourcePools : List Char → Except Raised (List ResourcePoolOut)
  getDatastores : List Char → Except Raised DatastoreListing
  getNetworks : List Char → Except Raised (List NetworkOut)
  getIsos : List Char → Except Raised (List IsoImageOut)
  /-- The problem of each host, or an empty text. -/
  checkHostHttps : List String → Except Raised (List (String × String))
  readDatastoreFile : List Char → String → Except Raised (List UInt8)
  vmExists : List Char → Except Raised Bool

inductive CheckStatus
  | pass | warn | fail
  deriving DecidableEq

structure PreflightCheck where
  code : String
  label : String
  status : CheckStatus
  detail : String := ""
  blocking : Bool := true
  deriving DecidableEq

/-- A failure that keeps the request from being submitted. -/
def PreflightCheck.blocks (check : PreflightCheck) : Bool := check.status = .fail && check.blocking

structure PreflightReport where
  ready : Bool
  checks : List PreflightCheck
  summary : String

/-- The platform that a request meets. `compile` is `re.compile` with `re.fullmatch`, without a
result for an invalid pattern; `casefold` folds a character, `showGb` rounds to whole GB, and
`dumps` is `json.dumps` of a list of texts. -/
structure Environment (p : Schemas.Platform) where
  compile : List Char → Option (List Char → Bool)
  casefold : Char → List Char
  showGb : Rat → String
  dumps : List String → String
  settings : Settings
  vcenters : p.Uuid4 → Option VCenterConnection
  vmware : VMware
  catalog : AppCatalog
  /-- The checks of the addresses, certificates and credentials, which read nothing that the
  validation stages read. -/
  addressing : List PreflightCheck
  certificates : List PreflightCheck
  credentials : List PreflightCheck

/-- `{entry.id: entry for entry in entries}.get(key)`; of two entries, the later one. -/
def byId {α : Type} (id : α → List Char) (entries : List α) (key : List Char) : Option α :=
  (entries.filter fun entry => id entry = key).getLast?

/-- A text that is not empty. -/
def given : Option (List Char) → Option (List Char)
  | some (c :: cs) => some (c :: cs)
  | _ => none

/-! ## Checks -/

def passed (code label : String) (detail : String) : PreflightCheck where
  code := code
  label := label
  status := .pass
  detail := detail

def failed (code label detail : String) : PreflightCheck where
  code := code
  label := label
  status := .fail
  detail := detail

def warned (code label detail : String) : PreflightCheck where
  code := code
  label := label
  status := .warn
  detail := detail
  blocking := false

/-- `_safe_infrastructure_failure`. -/
def safeInfrastructureFailure (fallback : String) : Raised → String
  | .infra error => s!"{error.humanMessage} Reason: {error.reason} " ++
      s!"Recommended action: {error.recommendedAction}"
  | .other _ => fallback

/-- The rest of `_check_infrastructure` after a call. -/
def called {α : Type} (call : Except Raised α) (rest : α → List PreflightCheck) :
    List PreflightCheck :=
  match call with
  | .ok a => rest a
  | .error raised => [failed "infrastructure" "Infrastructure discovery"
      (safeInfrastructureFailure "Infrastructure inventory could not be loaded. Try again."
        raised)]

/-! ## Windows media -/

inductive WindowsMediaKind
  | server | client | unknown
  deriving DecidableEq

/-- `iso_volume_label`. -/
def isoVolumeLabel (header : List UInt8) : Option (List Char) :=
  let descriptor := (header.drop (16 * 2048)).take 2048
  if descriptor.length < 72 ∨ descriptor.head? ≠ some 1 ∨
      (descriptor.drop 1).take 5 ≠ "CD001".toList.map (fun c => c.toNat.toUInt8) then none
  else
    given (some (pyStrip (((descriptor.drop 40).take 32).map fun b =>
      if b < 128 then Char.ofNat b.toNat else Char.ofNat 0xfffd)))

def startsWithAny (starts : List String) (cs : List Char) : Bool :=
  starts.any fun start => start.toList.isPrefixOf cs

/-- `classify_windows_media`. -/
def classifyWindowsMedia (label : Option (List Char)) : WindowsMediaKind :=
  let normalized := (pyStrip (label.getD [])).map Char.toUpper
  if startsWithAny ["SSS_"] normalized || normalized.tails.any (startsWithAny ["_SSS_"]) then
    .server
  else if startsWithAny ["CCCOMA_", "CCOMA_", "CPBA_", "CPRA_", "CENA_", "CCSA_", "J_CCCOMA_",
      "J_CCOMA_", "J_CPBA_", "J_CPRA_", "J_CENA_", "J_CCSA_"] normalized ||
      normalized = "ESD-ISO".toList || normalized = "ESD_ISO".toList then
    .client
  else .unknown

section

variable {p : Schemas.Platform} (env : Environment p) (request : Schemas.ProvisioningRequest p)

def checkWindowsServerMedia (datacenterId : List Char) (image : IsoImageOut) : PreflightCheck :=
  let label := "Windows Server installation media"
  match env.vmware.readDatastoreFile datacenterId image.path with
  | .error raised => failed "windows_media" label
      (safeInfrastructureFailure "The ISO could not be read from its datastore." raised)
  | .ok header =>
    let volume := isoVolumeLabel header
    let shown := String.ofList (volume.getD "missing".toList)
    match classifyWindowsMedia volume with
    | .server => passed "windows_media" label s!"Volume label {shown}."
    | .client => failed "windows_media" label
        (s!"{image.name} is Windows client media (volume label {shown}). Only Windows " ++
          "Server installs without anyone answering Setup or OOBE pages.")
    | .unknown => failed "windows_media" label
        (s!"{image.name} is not recognised as Windows Server installation media " ++
          s!"(volume label {shown}). Microsoft Server ISOs carry an 'SSS_' " ++
          "volume label; use unmodified Microsoft media or keep that label when rebuilding it.")

/-! ## Storage -/

/-- `total_disk_gb`. -/
def totalDiskGb : Int := (request.hardware.disks.map Schemas.DiskSpec.sizeGb).sum

/-- The datastore that a disk names. -/
def namedDatastore (disk : Schemas.DiskSpec) : Option (List Char) := given disk.datastoreId

/-- `selected_id`: the first that a disk names. -/
def selectedId : Option (List Char) := request.hardware.disks.findSome? namedDatastore

def automaticChoice (datastores : List DatastoreOut) : DatastoreChoice :=
  chooseAutomaticDatastore env.casefold env.showGb datastores env.settings.preferredDatastores
    (totalDiskGb request)

/-- The selected datastore has room. -/
def selectedHasRoom (selected : DatastoreOut) : PreflightCheck :=
  passed "datastore_capacity" "Selected datastore has room"
    (s!"{String.ofList selected.name} ({env.showGb selected.freeGb} GB free, " ++
      s!"{totalDiskGb request} GB needed)")

/-- The choice has a datastore. -/
def automaticPlacement (choice : DatastoreChoice) : PreflightCheck :=
  passed "datastore_capacity" "Automatic storage placement" choice.detail

def checkSelected (selected : Option DatastoreOut) : PreflightCheck :=
  match selected with
  | none => failed "datastore" "Selected datastore available"
      "The selected datastore is not accessible from this compute target."
  | some selected =>
    if !selected.accessible then failed "datastore" "Selected datastore available"
      "The selected datastore is not accessible from this compute target."
    else if selected.freeGb < totalDiskGb request then
      failed "datastore_capacity" "Selected datastore capacity"
        (s!"{String.ofList selected.name} has {env.showGb selected.freeGb} GB free; " ++
          s!"the VM needs about {totalDiskGb request} GB.")
    else selectedHasRoom env request selected

def checkAutomatic (choice : DatastoreChoice) : List PreflightCheck :=
  match choice.datastore with
  | none => [failed "datastore_capacity" "Automatic storage placement"
      (choice.detail ++ " Choose a datastore in the wizard" ++
        (if choice.preferredConfigured then " or add one under Settings → Preferred datastores."
          else "."))]
  | some _ =>
    automaticPlacement choice ::
      if choice.preferredConfigured then []
      else [warned "preferred_datastores" "Preferred datastores configured"
        ("Automatic placement uses the datastore with the most free space, which is often a " ++
          "slow capacity tier. List the fast datastores under Settings → Preferred " ++
          "datastores, or choose a datastore in the wizard.")]

/-- `_check_storage`. -/
def checkStorage (datastores : List DatastoreOut) : List PreflightCheck :=
  match selectedId request with
  | some id => [checkSelected env request (byId DatastoreOut.id datastores id)]
  | none => checkAutomatic (automaticChoice env request datastores)

/-- The datastore that the check of the capacity is about. -/
def storageTarget (datastores : List DatastoreOut) : Option DatastoreOut :=
  match selectedId request with
  | some id => byId DatastoreOut.id datastores id
  | none => (automaticChoice env request datastores).datastore

/-- What the report says of the storage that it has found. -/
def capacityPassed (datastores : List DatastoreOut) (target : DatastoreOut) : PreflightCheck :=
  match selectedId request with
  | some _ => selectedHasRoom env request target
  | none => automaticPlacement (automaticChoice env request datastores)

/-! ## Infrastructure -/

/-- `transfer_hosts`. -/
def transferHosts (hosts : List HostOut) : List String :=
  match given request.compute.hostId with
  | some id => ((byId HostOut.id hosts id).map HostOut.name).toList
  | none => (hosts.filter HostOut.availableForProvisioning).map HostOut.name

/-- `_check_host_file_transfers`. -/
def checkHostFileTransfers (hostNames : List String) : PreflightCheck :=
  let label := "ESXi hosts reachable for VMware Tools file transfers"
  match env.vmware.checkHostHttps hostNames with
  | .error raised => failed "esxi_https" label
      (safeInfrastructureFailure "The ESXi hosts could not be checked." raised)
  | .ok results =>
    let problems := results.filter fun result => result.2 ≠ ""
    if problems = [] then passed "esxi_https" label (", ".intercalate hostNames)
    else failed "esxi_https" label
      ("; ".intercalate (problems.map fun problem => s!"{problem.1}: {problem.2}") ++
        ". Every guest configuration step uploads its script to the ESXi host that runs the " ++
        "VM: allow HTTPS (TCP 443) from the InfraOps server to every ESXi host, make the host " ++
        "names resolve inside the backend and worker containers, and trust their certificates " ++
        "(the vCenter VMCA root in VCENTER_CA_FILE) or untick 'Verify the TLS certificate' on " ++
        "the vCenter connection.")

def checkHost (hosts : List HostOut) (hostId : List Char) : PreflightCheck :=
  match byId HostOut.id hosts hostId with
  | none => failed "host" "Host availability"
      "The manually selected host was not found in the compute target."
  | some host =>
    let maintenance := if host.maintenanceMode then "True" else "False"
    if !host.availableForProvisioning then failed "host" "Host availability"
      (s!"Host '{host.name}' is not available (state={host.connectionState}, " ++
        s!"maintenance={maintenance}).")
    else passed "host" "Host available" host.name

def checkHosts (hosts : List HostOut) : List PreflightCheck :=
  ((given request.compute.hostId).map (checkHost hosts)).toList ++
    if transferHosts request hosts = [] then []
    else [checkHostFileTransfers env (transferHosts request hosts)]

def checkPool (pools : List ResourcePoolOut) (poolId : List Char) : PreflightCheck :=
  if pools.any fun pool => pool.id = poolId then passed "resource_pool" "Resource pool exists" ""
  else failed "resource_pool" "Resource pool exists"
    "The selected resource pool does not belong to this cluster."

/-- The check of the resource pool, if one is selected, and the rest. -/
def calledPool (clusterId : List Char) (rest : List PreflightCheck) : List PreflightCheck :=
  match given request.compute.resourcePoolId with
  | none => rest
  | some poolId => called (env.vmware.getResourcePools clusterId) fun pools =>
      checkPool pools poolId :: rest

def checkNetwork (networks : List NetworkOut) : PreflightCheck :=
  match byId NetworkOut.id networks request.network.networkId with
  | none => failed "network" "Network exists"
      s!"Port group '{String.ofList request.network.networkId}' was not found."
  | some network => passed "network" "Network exists" s!"{network.name} ({network.type})"

def checkIso (datacenterId : List Char) (datastores : List DatastoreOut)
    (isos : List IsoImageOut) : List PreflightCheck :=
  match byId IsoImageOut.id isos request.guest.isoId with
  | none => [failed "iso" "ISO available" "The selected ISO was not found in this datacenter."]
  | some image =>
    if (byId DatastoreOut.id datastores image.datastoreId).any DatastoreOut.accessible then
      [passed "iso" "ISO available" s!"{image.name} on {image.datastoreName}",
        checkWindowsServerMedia env datacenterId image]
    else [failed "iso" "ISO accessible to cluster"
      s!"{image.name} is stored on a datastore unavailable to this cluster."]

/-- `_check_infrastructure`, from the cluster on. -/
def checkCluster (datacenterId clusterId : List Char) : List PreflightCheck :=
  called (env.vmware.getHosts clusterId) fun hosts =>
    checkHosts env request hosts ++
      calledPool env request clusterId
        (called (env.vmware.getDatastores clusterId) fun datastores =>
          checkStorage env request datastores.entries ++
            called (env.vmware.getNetworks datacenterId) fun networks =>
              checkNetwork request networks ::
                called (env.vmware.getIsos datacenterId)
                  (checkIso env request datacenterId datastores.entries))

/-- `_check_infrastructure`. -/
def checkInfrastructure : List PreflightCheck :=
  called env.vmware.getDatacenters fun datacenters =>
    match byId DatacenterOut.id datacenters request.compute.datacenterId with
    | none => [failed "datacenter" "Datacenter exists"
        s!"Datacenter '{String.ofList request.compute.datacenterId}' was not found."]
    | some dc =>
      passed "datacenter" "Datacenter exists" dc.name ::
        called (env.vmware.getClusters dc.id) fun clusters =>
          match byId ClusterOut.id clusters request.compute.clusterId with
          | none => [failed "cluster" "Compute target exists"
              (s!"Compute target '{String.ofList request.compute.clusterId}' was not found in " ++
                s!"{dc.name}.")]
          | some cluster =>
            let drs := if cluster.drsEnabled then "on" else "off"
            passed "cluster" "Compute target available"
                s!"{cluster.name} ({cluster.hostsCount} host(s), DRS {drs})" ::
              checkCluster env request dc.id cluster.id

/-! ## Connection and name -/

/-- The selected connection, if the request can go to it. -/
def target : Option VCenterConnection :=
  (env.vcenters request.compute.vcenterId).filter VCenterConnection.enabled

def checkVCenter : PreflightCheck :=
  match env.vcenters request.compute.vcenterId with
  | none => failed "vcenter" "vCenter connection"
      "The selected vCenter connection no longer exists."
  | some row =>
    if !row.enabled then failed "vcenter" "vCenter connection" s!"vCenter '{row.name}' is disabled."
    else
      match env.vmware.testConnection with
      | .error raised => failed "vcenter" "vCenter connection"
          (safeInfrastructureFailure
            ("The vCenter connection could not be tested. Try again or contact an " ++
              "administrator.") raised)
      | .ok result =>
        if result.ok then
          passed "vcenter" "vCenter connection successful" s!"{row.name} ({row.host})"
        else failed "vcenter" "vCenter connection" result.detail

def namePolicyMatches : PreflightCheck :=
  passed "name_policy" "VM name matches naming policy" ""

def checkNamePolicy : List PreflightCheck :=
  let policy := env.settings.vmNamePolicy
  if policy = [] then []
  else
    match env.compile policy with
    | none => [warned "name_policy" "VM name policy"
        ("The configured naming policy regex is invalid — check Administration → " ++
          "Settings."), namePolicyMatches]
    | some fullmatch =>
      if fullmatch request.vm.name then [namePolicyMatches]
      else [failed "name_policy" "VM name policy"
        s!"'{String.ofList request.vm.name}' does not match the configured naming policy."]

def checkNameUnique : PreflightCheck :=
  match env.vmware.vmExists request.vm.name with
  | .error raised => failed "vm_name_unique" "VM name uniqueness"
      (safeInfrastructureFailure "VM name availability could not be checked. Try again." raised)
  | .ok true => failed "vm_name_unique" "VM name is available"
      s!"A VM named '{String.ofList request.vm.name}' already exists."
  | .ok false => passed "vm_name_unique" "VM name is available" ""

/-! ## Applications -/

/-- `request.application_ids`, by their texts. -/
def applicationIds : List AppId :=
  request.applicationIds.map fun id => String.ofList (p.showUuid4 id)

/-- `_selected_applications`. -/
def selectedApplications : List Application :=
  env.catalog.selectedApplications (applicationIds request)

def missingApplications : List AppId :=
  (applicationIds request).filter fun id =>
    id ∉ (selectedApplications env request).map Application.id

/-- The nodes of the enabled applications. -/
def enabledCatalog : Catalog where
  nodes := (env.catalog.apps.filter Application.enabled).map Application.node
  nodup := by
    have hids : AppNode.id ∘ Application.node = Application.id := rfl
    rw [List.map_map, hids]
    exact env.catalog.nodup.sublist (List.filter_sublist.map _)

/-- `_check_applications`. -/
def checkApplications : PreflightCheck :=
  if applicationIds request = [] then
    passed "applications" "Application definitions" "None selected."
  else
    let missing := missingApplications env request
    let disabled :=
      ((selectedApplications env request).filter fun app => !app.enabled).map Application.name
    let (ordered, errors) := resolveInstallOrder (applicationIds request) (enabledCatalog env)
    let missingIds := ", ".intercalate missing
    let disabledNames := ", ".intercalate disabled
    let problems := (if missing = [] then [] else [s!"Applications not found: {missingIds}."]) ++
      (if disabled = [] then [] else [s!"Applications disabled: {disabledNames}."]) ++ errors
    if problems = [] then passed "applications" "Application definitions valid"
      ("Install order: " ++ " → ".intercalate (ordered.map AppNode.name))
    else failed "applications" "Application definitions valid" (" ".intercalate problems)

def checkInstallers : PreflightCheck :=
  let allowedRoots := env.settings.allowedInstallerRoots
  match preflightInstallers env.casefold env.catalog (applicationIds request) allowedRoots with
  | none => passed "installer_policy" "Installer locations approved" ""
  | some detail =>
    failed "installer_policy"
      (if allowedRoots = [] then "Installer repository policy" else "Installer locations approved")
      detail

/-! ## The report -/

def preflightChecks : List PreflightCheck :=
  checkVCenter env request ::
    (if (target env request).isSome then checkInfrastructure env request else []) ++
    checkNamePolicy env request ++
    (if (target env request).isSome then [checkNameUnique env request] else []) ++
    env.addressing ++ env.certificates ++
    [checkApplications env request, checkInstallers env request] ++ env.credentials

/-- `PreflightValidator.validate`. -/
def validate : PreflightReport :=
  let checks := preflightChecks env request
  let blockingFailures := checks.filter PreflightCheck.blocks
  let warnings := checks.filter fun check => check.status = .warn
  { ready := blockingFailures.isEmpty
    checks
    summary :=
      if blockingFailures.isEmpty then
        s!"Ready to provision ({checks.length} checks, {warnings.length} warning(s))."
      else s!"Not ready — {blockingFailures.length} blocking problem(s) must be resolved." }

end

end InfraOps.Preflight
