import InfraOps.Wizard.Identity
import InfraOps.Wizard.Subnet

/-!
# The request that the wizard builds

`buildRequest` of `schema.ts`, and the JSON body in which `lib/api.ts` sends it.
-/

namespace InfraOps.Wizard

open Schemas (DiskProvisioning FirmwareType AdapterType IpMode)

/-! ## Requests -/

structure VmSpec where
  name : List Char
  description : List Char

structure ComputeSpec where
  vcenterId : List Char
  datacenterId : List Char
  clusterId : List Char
  hostId : Option (List Char)
  resourcePoolId : Option (List Char)

structure DiskSpec where
  sizeGb : JsNumber
  provisioning : DiskProvisioning
  datastoreId : Option (List Char)

structure HardwareSpec where
  cpu : JsNumber
  memoryMb : JsNumber
  firmware : FirmwareType
  secureBoot : Bool
  disks : List DiskSpec

structure DomainJoinSpec where
  domain : List Char
  ou : Option (List Char)
  credentialSecretRef : List Char

structure GuestSpec where
  isoId : List Char
  productKeySecretRef : Option (List Char)
  hostname : List Char
  timezone : Option (List Char)
  installationLocale : List Char
  inputLocale : List Char
  windowsImageIndex : JsNumber
  credentialSecretRef : List Char
  domainJoin : Option DomainJoinSpec

structure Ipv4Config where
  address : List Char
  prefixLength : JsNumber
  gateway : List Char
  dnsServers : List (List Char)

structure NetworkSpec where
  networkId : List Char
  adapterType : AdapterType
  mode : IpMode
  ipv4 : Option Ipv4Config

/-- A request with the source type `blank` and the identity policy `v2`. -/
structure ProvisioningRequest where
  vm : VmSpec
  compute : ComputeSpec
  hardware : HardwareSpec
  guest : GuestSpec
  network : NetworkSpec
  certificatePackageIds : List (List Char)
  applicationIds : List (List Char)

/-- `parsePrefixInput(input) ?? 24`. -/
def resolvePrefix (input : List Char) : JsNumber := (parsePrefixInput input).getD (.ofNat 24)

/-- A separator of `/[\s,;]+/`. The empty texts within a run of them are filtered out with the
other empty ones. -/
def dnsSeparator (c : Char) : Bool := jsSpace c || c = ',' || c = ';'

def collectDns (data : WizardData) : List (List Char) :=
  let servers := data.dnsPrimary :: data.dnsSecondary :: data.dnsExtra.splitOnP dnsSeparator
  (servers.map jsTrim).filter fun entry => entry ≠ []

/-- `text || null`. -/
def textOrNone (cs : List Char) : Option (List Char) := if cs = [] then none else some cs

/-- The domain of a draft that joins one. -/
def joinedDomain (data : WizardData) : Option (List Char) :=
  if data.domainJoin.enabled then some data.domainJoin.domain else none

variable (b : Browser)

def buildRequest (data : WizardData) : ProvisioningRequest :=
  let identity := deriveGuestIdentity b data.vmName (some data.hostname) (joinedDomain data)
  { vm := { name := data.vmName, description := data.description }
    compute :=
      { vcenterId := data.vcenterId
        datacenterId := data.datacenterId
        clusterId := data.clusterId
        hostId := if data.hostMode = .manual then data.hostId else none
        resourcePoolId := data.resourcePoolId }
    hardware :=
      { cpu := data.cpu
        memoryMb := data.memoryGb.timesNat 1024
        firmware := data.firmware
        secureBoot := data.secureBoot && data.firmware = .efi
        disks := data.disks.map fun disk =>
          { sizeGb := disk.sizeGb
            provisioning := disk.provisioning
            datastoreId :=
              if data.storageMode = .manual then data.datastoreId else disk.datastoreId } }
    guest :=
      { isoId := data.isoId
        productKeySecretRef := textOrNone data.productKeySecretRef
        hostname := identity.computerName
        timezone := textOrNone data.timezone
        installationLocale := data.installationLocale
        inputLocale := data.inputLocale
        windowsImageIndex := data.windowsImageIndex
        credentialSecretRef := data.guestCredentialSecretRef
        domainJoin :=
          if data.domainJoin.enabled then
            some { domain := b.normalizeDomain data.domainJoin.domain
                   ou := textOrNone data.domainJoin.ou
                   credentialSecretRef := data.domainJoin.credentialSecretRef }
          else none }
    network :=
      { networkId := data.networkId
        adapterType := data.adapterType
        mode := data.ipMode
        ipv4 :=
          if data.ipMode = .static then
            some { address := jsTrim data.ipAddress
                   prefixLength := resolvePrefix data.prefixInput
                   gateway := jsTrim data.gateway
                   dnsServers := collectDns data }
          else none }
    certificatePackageIds := data.certificatePackageIds
    applicationIds := data.applicationIds }

/-! ## Bodies -/

/-- `JSON.stringify` of a number: an integer below `10^21` is written out, and what is not
finite is null. -/
def numberJson : JsNumber → JsonDocument
  | .nan => .null
  | .infinity _ => .null
  | .finite value =>
    if value.val.den = 1 ∧ |value.val| < 10 ^ 21 then .int value.val.num
    else .number (b.numberText value.val)

def nullableText : Option (List Char) → JsonDocument
  | some cs => .text cs
  | none => .null

def textArray (texts : List (List Char)) : JsonDocument := .array (texts.map .text)

def DiskSpec.json (disk : DiskSpec) : JsonDocument :=
  .object [("size_gb", numberJson b disk.sizeGb), ("provisioning", .text disk.provisioning.name),
    ("datastore_id", nullableText disk.datastoreId)]

def DomainJoinSpec.json : Option DomainJoinSpec → JsonDocument
  | some join => .object [("domain", .text join.domain), ("ou", nullableText join.ou),
      ("credential_secret_ref", .text join.credentialSecretRef)]
  | none => .null

def GuestSpec.json (guest : GuestSpec) : JsonDocument :=
  .object [("iso_id", .text guest.isoId),
    ("product_key_secret_ref", nullableText guest.productKeySecretRef),
    ("hostname", .text guest.hostname), ("timezone", nullableText guest.timezone),
    ("installation_locale", .text guest.installationLocale),
    ("input_locale", .text guest.inputLocale),
    ("windows_image_index", numberJson b guest.windowsImageIndex),
    ("credential_secret_ref", .text guest.credentialSecretRef),
    ("domain_join", DomainJoinSpec.json guest.domainJoin)]

def Ipv4Config.json : Option Ipv4Config → JsonDocument
  | some ipv4 => .object [("address", .text ipv4.address),
      ("prefix", numberJson b ipv4.prefixLength), ("gateway", .text ipv4.gateway),
      ("dns_servers", textArray ipv4.dnsServers)]
  | none => .null

/-- The body of a request. -/
def ProvisioningRequest.json (request : ProvisioningRequest) : JsonDocument :=
  .object [("source_type", .text "blank".toList),
    ("identity_policy_version", .text "v2".toList),
    ("vm", .object [("name", .text request.vm.name),
      ("description", .text request.vm.description)]),
    ("compute", .object [("vcenter_id", .text request.compute.vcenterId),
      ("datacenter_id", .text request.compute.datacenterId),
      ("cluster_id", .text request.compute.clusterId),
      ("host_id", nullableText request.compute.hostId),
      ("resource_pool_id", nullableText request.compute.resourcePoolId)]),
    ("hardware", .object [("cpu", numberJson b request.hardware.cpu),
      ("memory_mb", numberJson b request.hardware.memoryMb),
      ("firmware", .text request.hardware.firmware.name),
      ("secure_boot", .bool request.hardware.secureBoot),
      ("disks", .array (request.hardware.disks.map (DiskSpec.json b)))]),
    ("guest", request.guest.json b),
    ("network", .object [("network_id", .text request.network.networkId),
      ("adapter_type", .text request.network.adapterType.name),
      ("mode", .text request.network.mode.name),
      ("ipv4", Ipv4Config.json b request.network.ipv4)]),
    ("certificate_package_ids", textArray request.certificatePackageIds),
    ("application_ids", textArray request.applicationIds)]

end InfraOps.Wizard
