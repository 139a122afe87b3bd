import InfraOps.Models.Jobs
import InfraOps.Preflight.Checks
import InfraOps.Support.Except

/-!
# The validation stages

`stage_validate_request`, `stage_validate_infrastructure` and the `_placement_datastore` of
`create_vm`, in `app/workers/stages.py`. They check what the preflight has checked, on the
same platform. The columns that they assign on the job are left out.
-/

namespace InfraOps.Preflight

structure StageResult where
  output : String
  artifacts : List (String × String) := []

/-- A row of `provisioning_jobs`. -/
structure JobRow where
  id : JobId
  vmName : List Char
  status : JobStatus

/-- The table, under its index `uq_provisioning_jobs_active_vm_name`. -/
structure JobTable (lower : List Char → List Char) where
  rows : List JobRow
  activeVmName : ∀ row ∈ rows, ∀ other ∈ rows, row.status.active → other.status.active →
    lower row.vmName = lower other.vmName → row.id = other.id

section

variable {p : Schemas.Platform} (env : Environment p) (request : Schemas.ProvisioningRequest p)

/-! ## `validate_request` -/

def namePolicyError (policy name : List Char) : InfraOperationError where
  humanMessage :=
    s!"The VM name '{String.ofList name}' violates the configured naming policy."
  reason := s!"Naming policy regex: {String.ofList policy}"
  recommendedAction := "Choose a compliant VM name and resubmit."
  retryable := false

/-- An invalid policy leaves the stage as `re.error`. -/
def validateName : Except Raised Unit :=
  let policy := env.settings.vmNamePolicy
  if policy = [] then .ok ()
  else
    match env.compile policy with
    | none => .error (.other "re.error")
    | some fullmatch =>
      if fullmatch request.vm.name then .ok ()
      else .error (.infra (namePolicyError policy request.vm.name))

def duplicateJobError (name : List Char) : InfraOperationError where
  humanMessage :=
    s!"Another provisioning job for '{String.ofList name}' is already active."
  reason := "Duplicate active job for the same VM name."
  recommendedAction := "Wait for the existing job to finish or choose another name."
  retryable := false

/-- Another job that is queued or running under the name. -/
def JobRow.conflicts (jobId : JobId) (name : List Char) (row : JobRow) : Bool :=
  row.vmName = name && (row.status = .queued || row.status = .running) && row.id ≠ jobId

def validateJobs (rows : List JobRow) (jobId : JobId) : Except Raised Unit :=
  if rows.any (JobRow.conflicts jobId request.vm.name) then
    .error (.infra (duplicateJobError request.vm.name))
  else .ok ()

def validateRoots : Except Raised Unit :=
  match validateInstallers env.casefold env.catalog (applicationIds request)
      env.settings.allowedInstallerRoots with
  | none => .ok ()
  | some error => .error (.infra error)

def requestValidated : String :=
  let hardware := request.hardware
  s!"Request validated.\nVM: {String.ofList request.vm.name}\n" ++
    "Infrastructure placement supplied.\n" ++
    s!"CPU/Memory: {hardware.cpu} vCPU / {hardware.memoryMb} MB\n" ++
    s!"Disks: {hardware.disks.length} (OS disk + {hardware.disks.length - 1} data)\n" ++
    s!"Network: {String.ofList request.network.mode.name}"

/-- `stage_validate_request` of the job `jobId`, at the time `now`. -/
def stageValidateRequest (rows : List JobRow) (jobId : JobId) (now : String) :
    Except Raised StageResult := do
  validateName env request
  validateJobs request rows jobId
  validateRoots env request
  return { output := requestValidated request, artifacts := [("validated_at", now)] }

/-! ## `validate_infrastructure` -/

def hostProblems (hosts : List HostOut) : List String :=
  match given request.compute.hostId with
  | none => []
  | some id =>
    if (byId HostOut.id hosts id).any HostOut.availableForProvisioning then []
    else [s!"host '{String.ofList id}' unavailable"]

def poolProblems (clusterId : List Char) : Except Raised (List String) :=
  match given request.compute.resourcePoolId with
  | none => .ok []
  | some id => (env.vmware.getResourcePools clusterId).map fun pools =>
    if pools.any fun pool => pool.id = id then []
    else ["resource pool does not belong to the cluster"]

def datastoreProblems (datastores : List DatastoreOut) (id : List Char) : List String :=
  match byId DatastoreOut.id datastores id with
  | none => [s!"datastore '{String.ofList id}' inaccessible"]
  | some entry =>
    if !entry.accessible then [s!"datastore '{String.ofList id}' inaccessible"]
    else if entry.freeGb < totalDiskGb request then
      [s!"datastore '{String.ofList entry.name}' has {env.showGb entry.freeGb} GB free, " ++
        s!"needs ~{totalDiskGb request} GB"]
    else []

/-- `explicit`, the datastores that the disks name. -/
def explicitDatastores : List (List Char) :=
  (request.hardware.disks.filterMap namedDatastore).eraseDups

def storageProblems (datastores : List DatastoreOut) : List String :=
  if explicitDatastores request ≠ [] then
    (explicitDatastores request).flatMap (datastoreProblems env request datastores)
  else if largestFree datastores < totalDiskGb request then
    [s!"no datastore with >= {totalDiskGb request} GB free " ++
      s!"(best {env.showGb (largestFree datastores)} GB)"]
  else []

/-- The problems of the cluster, and its datastores. -/
def clusterProblems : Option ClusterOut → Except Raised (List String × List DatastoreOut)
  | none => .ok ([s!"compute target '{String.ofList request.compute.clusterId}' missing"], [])
  | some cluster => do
    let hosts ← env.vmware.getHosts cluster.id
    let pools ← poolProblems env request cluster.id
    let datastores ← env.vmware.getDatastores cluster.id
    return (hostProblems request hosts ++ pools ++ storageProblems env request datastores.entries,
      datastores.entries)

/-- What a call on the datacenter returns, or nothing without one. -/
def inDatacenter {α : Type} (dc : Option DatacenterOut) (call : Except Raised (List α)) :
    Except Raised (List α) :=
  if dc.isSome then call else .ok []

def isoProblems (datastores : List DatastoreOut) : Option IsoImageOut → List String
  | none => ["selected ISO missing from the datacenter"]
  | some image =>
    if (byId DatastoreOut.id datastores image.datastoreId).isSome then []
    else ["selected ISO datastore unavailable to the cluster"]

def infrastructureError (problems : List String) : InfraOperationError where
  humanMessage := "The infrastructure configuration could not be re-validated on vCenter."
  reason := "; ".intercalate problems
  recommendedAction := "Re-open the wizard, refresh the affected selections and resubmit."
  technicalDetail := env.dumps problems

/-- `stage_validate_infrastructure`. -/
def stageValidateInfrastructure : Except Raised StageResult := do
  let datacenters ← env.vmware.getDatacenters
  let dc := byId DatacenterOut.id datacenters request.compute.datacenterId
  let clusters ← inDatacenter dc (env.vmware.getClusters request.compute.datacenterId)
  let (inCluster, datastores) ←
    clusterProblems env request (byId ClusterOut.id clusters request.compute.clusterId)
  let networks ← inDatacenter dc (env.vmware.getNetworks request.compute.datacenterId)
  let network := byId NetworkOut.id networks request.network.networkId
  let isos ← inDatacenter dc (env.vmware.getIsos request.compute.datacenterId)
  let image := byId IsoImageOut.id isos request.guest.isoId
  let problems :=
    (if dc.isSome then []
      else [s!"datacenter '{String.ofList request.compute.datacenterId}' missing"]) ++
    inCluster ++
    (if network.isSome then []
      else [s!"network '{String.ofList request.network.networkId}' missing"]) ++
    isoProblems datastores image
  if problems = [] then
    return {
      output :=
        "Datacenter, cluster, placement, storage, network and installation ISO verified."
      artifacts := (dc.map fun entry => ("datacenter_name", entry.name)).toList ++
        (network.map fun entry => ("network_name", entry.name)).toList ++
        (image.map fun entry => ("iso_name", entry.name)).toList }
  else .error (.infra (infrastructureError env problems))

/-! ## The datastore of `create_vm` -/

/-- `_os_disk_datastore`, where `create_vm` has recorded a datastore or not. -/
def osDiskDatastore (recorded : Option (List Char)) : Option (List Char) :=
  ((request.hardware.disks.head?.bind namedDatastore).or (selectedId request)).or (given recorded)

def noDatastoreError (choice : DatastoreChoice) : InfraOperationError where
  humanMessage := "No datastore can take this VM."
  reason := choice.detail
  recommendedAction :=
    "Free space on a preferred datastore, add one under Settings → Preferred datastores, " ++
      "or submit a new request with a datastore chosen in the wizard."

/-- `_placement_datastore`. -/
def placementDatastore (recorded : Option (List Char)) : Except Raised (List Char × String) := do
  let datastores ← env.vmware.getDatastores request.compute.clusterId
  match osDiskDatastore request recorded with
  | some requested =>
    let selected := datastores.entries.find? fun entry => entry.id = requested
    let name := String.ofList ((selected.map DatastoreOut.name).getD requested)
    return (requested, s!"{name} (selected in the request)")
  | none =>
    let choice := automaticChoice env request datastores.entries
    match choice.datastore with
    | none => .error (.infra (noDatastoreError choice))
    | some entry => return (entry.id, choice.detail)

end

end InfraOps.Preflight
