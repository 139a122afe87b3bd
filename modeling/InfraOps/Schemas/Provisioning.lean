import InfraOps.Applications.Paths
import InfraOps.Core.Ipv4
import InfraOps.Support.Codec

/-!
# Provisioning requests

The contracts of `app/schemas/provisioning.py`. A request is read in two steps: its fields are
read as typed values, which fails on other keys and types, and then the models are validated
from the inside out, each with the limits of its fields before its own validator. pydantic
reports every error of a request; an `.error` here is one of them.
-/

namespace InfraOps.Schemas

open Codec

/-- What pydantic and the Unicode tables of Python decide: which JSON values pass for integers,
truth values and version 4 UUIDs, and the lower case of a text. -/
structure Platform where
  readInt : JsonDocument → Except String Int
  readInt_int : ∀ n, readInt (.int n) = .ok n
  readBool : JsonDocument → Except String Bool
  readBool_bool : ∀ b, readBool (.bool b) = .ok b
  Uuid4 : Type
  readUuid4 : JsonDocument → Except String Uuid4
  showUuid4 : Uuid4 → List Char
  readUuid4_show : ∀ u, readUuid4 (.text (showUuid4 u)) = .ok u
  lower : List Char → List Char
  lower_ascii : ∀ cs, (∀ c ∈ cs, c.toNat < 128) → lower cs = cs.map Char.toLower

namespace Platform

variable (p : Platform)

def int : Codec Int where
  read := p.readInt
  write := .int
  read_write := p.readInt_int

def bool : Codec Bool where
  read := p.readBool
  write := .bool
  read_write := p.readBool_bool

def uuid4 : Codec p.Uuid4 where
  read := p.readUuid4
  write u := .text (p.showUuid4 u)
  read_write := p.readUuid4_show

end Platform

/-- `str | None`. -/
def textOrNull : Codec (Option (List Char)) := text.nullable nofun

/-! ## Limits and patterns -/

def require (ok : Bool) (text : String) : Except String Unit :=
  if ok then .ok () else .error text

/-- `Field(min_length, max_length)`. -/
def lengthBetween (least most : Nat) (length : Nat) : Except String Unit := do
  require (least ≤ length) s!"should have at least {least}"
  require (length ≤ most) s!"should have at most {most}"

def nullableLength (least most : Nat) : Option (List Char) → Except String Unit
  | none => .ok ()
  | some cs => lengthBetween least most cs.length

/-- `Field(ge, le)`. -/
def between (least most n : Int) : Except String Unit := do
  require (least ≤ n) s!"Input should be greater than or equal to {least}"
  require (n ≤ most) s!"Input should be less than or equal to {most}"

/-- A name of at most 63 characters that begins and ends with a letter or a digit. -/
def nameOf (inner : Char → Bool) (name : List Char) : Bool :=
  name ≠ [] && name.length ≤ 63 && name.all (fun c => asciiAlphanum c || inner c) &&
    name.head?.all asciiAlphanum && name.getLast?.all asciiAlphanum

/-- `VM_NAME_PATTERN`. -/
def vmName : List Char → Bool := nameOf fun c => c = '-' || c = '.'

/-- `WINDOWS_COMPUTER_NAME_PATTERN`. -/
def windowsComputerName : List Char → Bool := nameOf fun c => c = '-'

def asciiLower (c : Char) : Bool := 'a' ≤ c && c ≤ 'z'

def lowerOrDigit (c : Char) : Bool := asciiLower c || ('0' ≤ c && c ≤ '9')

/-- A label of `DNS_DOMAIN_PATTERN`. The field takes the pattern without its flag. -/
def dnsLabel (label : List Char) : Bool :=
  label ≠ [] && label.all (fun c => lowerOrDigit c || c = '-') &&
    label.head?.all lowerOrDigit && label.getLast?.all lowerOrDigit

/-- `DNS_DOMAIN_PATTERN`. -/
def dnsDomain (domain : List Char) : Bool :=
  let labels := domain.splitOn '.'
  2 ≤ labels.length && labels.dropLast.all dnsLabel &&
    labels.getLast?.all fun top => 2 ≤ top.length && top.all asciiLower

/-- `SECRET_REFERENCE_PATTERN`. -/
def secretReference (reference : List Char) : Bool :=
  (reference.splitOn '/').all fun segment =>
    segment.head?.any lowerOrDigit && segment.all fun c => lowerOrDigit c || c ∈ ['_', '.', '-']

/-- `name.isdigit()`, of an ASCII name. -/
def isDigits (name : List Char) : Bool := name ≠ [] && name.all Ipv4Address.digit

/-! ## Records -/

inductive DiskProvisioning
  | thin | thick
  deriving DecidableEq

inductive FirmwareType
  | bios | efi
  deriving DecidableEq

inductive AdapterType
  | vmxnet3 | e1000e
  deriving DecidableEq

inductive IpMode
  | dhcp | static
  deriving DecidableEq

inductive IdentityPolicyVersion
  | v1 | v2
  deriving DecidableEq

structure VmSpec where
  name : List Char
  description : List Char
  deriving DecidableEq

structure ComputeSpec (p : Platform) where
  vcenterId : p.Uuid4
  datacenterId : List Char
  clusterId : List Char
  hostId : Option (List Char)
  resourcePoolId : Option (List Char)

structure DiskSpec where
  sizeGb : Int
  provisioning : DiskProvisioning
  datastoreId : Option (List Char)
  deriving DecidableEq

structure HardwareSpec where
  cpu : Int
  memoryMb : Int
  firmware : FirmwareType
  secureBoot : Bool
  disks : List DiskSpec
  deriving DecidableEq

structure DomainJoinSpec where
  domain : List Char
  ou : Option (List Char)
  credentialSecretRef : List Char
  deriving DecidableEq

structure GuestSpec where
  isoId : List Char
  hostname : Option (List Char)
  timezone : Option (List Char)
  installationLocale : List Char
  inputLocale : List Char
  windowsImageIndex : Int
  credentialSecretRef : List Char
  productKeySecretRef : Option (List Char)
  domainJoin : Option DomainJoinSpec
  deriving DecidableEq

structure Ipv4Config where
  address : List Char
  prefixLength : Int
  gateway : List Char
  dnsServers : List (List Char)
  deriving DecidableEq

structure NetworkSpec where
  networkId : List Char
  adapterType : AdapterType
  mode : IpMode
  ipv4 : Option Ipv4Config
  deriving DecidableEq

/-- The field `source_type` has one value, `blank`. -/
structure ProvisioningRequest (p : Platform) where
  identityPolicyVersion : IdentityPolicyVersion
  vm : VmSpec
  compute : ComputeSpec p
  hardware : HardwareSpec
  guest : GuestSpec
  network : NetworkSpec
  certificatePackageIds : List p.Uuid4
  applicationIds : List p.Uuid4

/-! ## Fields -/

def DiskProvisioning.name : DiskProvisioning → List Char
  | thin => "thin".toList
  | thick => "thick".toList

def FirmwareType.name : FirmwareType → List Char
  | bios => "BIOS".toList
  | efi => "EFI".toList

def AdapterType.name : AdapterType → List Char
  | vmxnet3 => "VMXNET3".toList
  | e1000e => "E1000E".toList

def IpMode.name : IpMode → List Char
  | dhcp => "DHCP".toList
  | static => "STATIC".toList

def IdentityPolicyVersion.name : IdentityPolicyVersion → List Char
  | v1 => "v1".toList
  | v2 => "v2".toList

/-- The value of a two-valued enumeration with this name. -/
def ofName {α : Type} (name : α → List Char) (first second : α) (cs : List Char) : Option α :=
  if cs = name first then some first else if cs = name second then some second else none

def diskProvisioning : Codec DiskProvisioning :=
  named (ofName DiskProvisioning.name .thin .thick) DiskProvisioning.name (by rintro ⟨⟩ <;> rfl)

def firmwareType : Codec FirmwareType :=
  named (ofName FirmwareType.name .bios .efi) FirmwareType.name (by rintro ⟨⟩ <;> rfl)

def adapterType : Codec AdapterType :=
  named (ofName AdapterType.name .vmxnet3 .e1000e) AdapterType.name (by rintro ⟨⟩ <;> rfl)

def ipMode : Codec IpMode :=
  named (ofName IpMode.name .dhcp .static) IpMode.name (by rintro ⟨⟩ <;> rfl)

def identityPolicyVersion : Codec IdentityPolicyVersion :=
  named (ofName IdentityPolicyVersion.name .v1 .v2) IdentityPolicyVersion.name
    (by rintro ⟨⟩ <;> rfl)

def vmSpec : Codec VmSpec where
  read j := do
    let fields ← readObject ["name", "description"] j
    let name ← text.required fields "name"
    let description ← text.defaulted fields "description" []
    return { name, description }
  write vm := .object [("name", text.write vm.name), ("description", text.write vm.description)]
  read_write vm := by
    rw [readObject_object (by simp)]
    simp

/-- `ComputeSpec._discard_legacy_site_id`. -/
def discardLegacySiteId : JsonDocument → JsonDocument
  | .object fields => .object (fields.filter fun f => f.1 ≠ "site_id")
  | j => j

variable (p : Platform)

def computeSpec : Codec (ComputeSpec p) where
  read j := do
    let fields ← readObject
      ["vcenter_id", "datacenter_id", "cluster_id", "host_id", "resource_pool_id"]
      (discardLegacySiteId j)
    let vcenterId ← p.uuid4.required fields "vcenter_id"
    let datacenterId ← text.required fields "datacenter_id"
    let clusterId ← text.required fields "cluster_id"
    let hostId ← textOrNull.defaulted fields "host_id" none
    let resourcePoolId ← textOrNull.defaulted fields "resource_pool_id" none
    return { vcenterId, datacenterId, clusterId, hostId, resourcePoolId }
  write compute := .object [("vcenter_id", p.uuid4.write compute.vcenterId),
    ("datacenter_id", text.write compute.datacenterId),
    ("cluster_id", text.write compute.clusterId), ("host_id", textOrNull.write compute.hostId),
    ("resource_pool_id", textOrNull.write compute.resourcePoolId)]
  read_write compute := by
    rw [discardLegacySiteId, List.filter_eq_self.mpr (by simp), readObject_object (by simp)]
    simp

def diskSpec : Codec DiskSpec where
  read j := do
    let fields ← readObject ["size_gb", "provisioning", "datastore_id"] j
    let sizeGb ← p.int.required fields "size_gb"
    let provisioning ← diskProvisioning.defaulted fields "provisioning" .thin
    let datastoreId ← textOrNull.defaulted fields "datastore_id" none
    return { sizeGb, provisioning, datastoreId }
  write disk := .object [("size_gb", p.int.write disk.sizeGb),
    ("provisioning", diskProvisioning.write disk.provisioning),
    ("datastore_id", textOrNull.write disk.datastoreId)]
  read_write disk := by
    rw [readObject_object (by simp)]
    simp

def hardwareSpec : Codec HardwareSpec where
  read j := do
    let fields ← readObject ["cpu", "memory_mb", "firmware", "secure_boot", "disks"] j
    let cpu ← p.int.required fields "cpu"
    let memoryMb ← p.int.required fields "memory_mb"
    let firmware ← firmwareType.defaulted fields "firmware" .efi
    let secureBoot ← p.bool.defaulted fields "secure_boot" false
    let disks ← (diskSpec p).list.required fields "disks"
    return { cpu, memoryMb, firmware, secureBoot, disks }
  write hardware := .object [("cpu", p.int.write hardware.cpu),
    ("memory_mb", p.int.write hardware.memoryMb),
    ("firmware", firmwareType.write hardware.firmware),
    ("secure_boot", p.bool.write hardware.secureBoot),
    ("disks", (diskSpec p).list.write hardware.disks)]
  read_write hardware := by
    rw [readObject_object (by simp)]
    simp

def domainJoinSpec : Codec DomainJoinSpec where
  read j := do
    let fields ← readObject ["domain", "ou", "credential_secret_ref"] j
    let domain ← text.required fields "domain"
    let ou ← textOrNull.defaulted fields "ou" none
    let credentialSecretRef ← text.required fields "credential_secret_ref"
    return { domain, ou, credentialSecretRef }
  write join := .object [("domain", text.write join.domain), ("ou", textOrNull.write join.ou),
    ("credential_secret_ref", text.write join.credentialSecretRef)]
  read_write join := by
    rw [readObject_object (by simp)]
    simp

/-- `GuestSpec.model_fields`. -/
def guestFields : List String :=
  ["iso_id", "hostname", "timezone", "installation_locale", "input_locale",
    "windows_image_index", "credential_secret_ref", "product_key_secret_ref", "domain_join"]

def guestSpec : Codec GuestSpec where
  read j := do
    let fields ← readObject guestFields j
    let isoId ← text.required fields "iso_id"
    let hostname ← textOrNull.defaulted fields "hostname" none
    let timezone ← textOrNull.defaulted fields "timezone" none
    let installationLocale ← text.defaulted fields "installation_locale" "en-US".toList
    let inputLocale ← text.defaulted fields "input_locale" "0409:00000409".toList
    let windowsImageIndex ← p.int.defaulted fields "windows_image_index" 2
    let credentialSecretRef ←
      text.defaulted fields "credential_secret_ref" "guest-local-admin".toList
    let productKeySecretRef ← textOrNull.defaulted fields "product_key_secret_ref" none
    let domainJoin ← (domainJoinSpec.nullable nofun).defaulted fields "domain_join" none
    return { isoId, hostname, timezone, installationLocale, inputLocale, windowsImageIndex,
             credentialSecretRef, productKeySecretRef, domainJoin }
  write guest := .object [("iso_id", text.write guest.isoId),
    ("hostname", textOrNull.write guest.hostname), ("timezone", textOrNull.write guest.timezone),
    ("installation_locale", text.write guest.installationLocale),
    ("input_locale", text.write guest.inputLocale),
    ("windows_image_index", p.int.write guest.windowsImageIndex),
    ("credential_secret_ref", text.write guest.credentialSecretRef),
    ("product_key_secret_ref", textOrNull.write guest.productKeySecretRef),
    ("domain_join", (domainJoinSpec.nullable nofun).write guest.domainJoin)]
  read_write guest := by
    rw [readObject_object (by simp [guestFields])]
    simp

def ipv4Config : Codec Ipv4Config where
  read j := do
    let fields ← readObject ["address", "prefix", "gateway", "dns_servers"] j
    let address ← text.required fields "address"
    let prefixLength ← p.int.required fields "prefix"
    let gateway ← text.required fields "gateway"
    let dnsServers ← text.list.defaulted fields "dns_servers" []
    return { address, prefixLength, gateway, dnsServers }
  write ipv4 := .object [("address", text.write ipv4.address),
    ("prefix", p.int.write ipv4.prefixLength), ("gateway", text.write ipv4.gateway),
    ("dns_servers", text.list.write ipv4.dnsServers)]
  read_write ipv4 := by
    rw [readObject_object (by simp)]
    simp

def networkSpec : Codec NetworkSpec where
  read j := do
    let fields ← readObject ["network_id", "adapter_type", "mode", "ipv4"] j
    let networkId ← text.required fields "network_id"
    let adapterType ← adapterType.defaulted fields "adapter_type" .vmxnet3
    let mode ← ipMode.required fields "mode"
    let ipv4 ← ((ipv4Config p).nullable nofun).defaulted fields "ipv4" none
    return { networkId, adapterType, mode, ipv4 }
  write network := .object [("network_id", text.write network.networkId),
    ("adapter_type", adapterType.write network.adapterType),
    ("mode", ipMode.write network.mode),
    ("ipv4", ((ipv4Config p).nullable nofun).write network.ipv4)]
  read_write network := by
    rw [readObject_object (by simp)]
    simp

/-- `ProvisioningRequest._only_blank_vms`, and the literal that it lets through. -/
def readSourceType (fields : Fields) : Except String Unit :=
  match fields.lookup "source_type" with
  | none => .ok ()
  | some .null => .ok ()
  | some (.text cs) =>
    require (cs = "blank".toList)
      "source_type must be 'blank': every VM is installed from a Windows ISO."
  | some _ => .error "source_type must be 'blank': every VM is installed from a Windows ISO."

def requestFields : List String :=
  ["source_type", "identity_policy_version", "vm", "compute", "hardware", "guest", "network",
    "certificate_package_ids", "application_ids"]

def provisioningRequest : Codec (ProvisioningRequest p) where
  read j := do
    let fields ← readObject requestFields j
    readSourceType fields
    let identityPolicyVersion ←
      identityPolicyVersion.defaulted fields "identity_policy_version" .v2
    let vm ← vmSpec.required fields "vm"
    let compute ← (computeSpec p).required fields "compute"
    let hardware ← (hardwareSpec p).required fields "hardware"
    let guest ← (guestSpec p).required fields "guest"
    let network ← (networkSpec p).required fields "network"
    let certificatePackageIds ← p.uuid4.list.defaulted fields "certificate_package_ids" []
    let applicationIds ← p.uuid4.list.defaulted fields "application_ids" []
    return { identityPolicyVersion, vm, compute, hardware, guest, network,
             certificatePackageIds, applicationIds }
  write request := .object [("source_type", .text "blank".toList),
    ("identity_policy_version", identityPolicyVersion.write request.identityPolicyVersion),
    ("vm", vmSpec.write request.vm), ("compute", (computeSpec p).write request.compute),
    ("hardware", (hardwareSpec p).write request.hardware),
    ("guest", (guestSpec p).write request.guest),
    ("network", (networkSpec p).write request.network),
    ("certificate_package_ids", p.uuid4.list.write request.certificatePackageIds),
    ("application_ids", p.uuid4.list.write request.applicationIds)]
  read_write request := by
    rw [readObject_object (by simp [requestFields])]
    simp [readSourceType, require]

/-! ## Validation -/

def patternText : String := "String should match pattern"

def VmSpec.check (vm : VmSpec) : Except String Unit := do
  lengthBetween 2 64 vm.name.length
  require (vmName vm.name) patternText
  lengthBetween 0 500 vm.description.length

variable {p} in
def ComputeSpec.check (compute : ComputeSpec p) : Except String Unit := do
  lengthBetween 1 120 compute.datacenterId.length
  lengthBetween 1 120 compute.clusterId.length
  nullableLength 0 120 compute.hostId
  nullableLength 0 120 compute.resourcePoolId

def DiskSpec.check (disk : DiskSpec) : Except String Unit := do
  between 1 8000 disk.sizeGb
  nullableLength 0 120 disk.datastoreId

def HardwareSpec.check (hardware : HardwareSpec) : Except String Unit := do
  between 1 256 hardware.cpu
  between 512 8388608 hardware.memoryMb
  lengthBetween 1 8 hardware.disks.length
  hardware.disks.forM DiskSpec.check
  require (!(hardware.secureBoot && hardware.firmware ≠ .efi))
    "secure_boot requires UEFI (EFI) firmware."

/-- `DomainJoinSpec._normalize_domain`. -/
def normalizeDomain (domain : List Char) : List Char :=
  p.lower (dropRight (· == '.') (pyStrip domain))

def DomainJoinSpec.check (join : DomainJoinSpec) : Except String Unit := do
  lengthBetween 3 255 join.domain.length
  require (dnsDomain join.domain) patternText
  nullableLength 0 400 join.ou
  lengthBetween 2 150 join.credentialSecretRef.length

def DomainJoinSpec.validate (join : DomainJoinSpec) : Except String DomainJoinSpec := do
  let join := { join with domain := normalizeDomain p join.domain }
  join.check
  return join

def checkHostname : Option (List Char) → Except String Unit
  | none => .ok ()
  | some hostname => do
    lengthBetween 0 64 hostname.length
    require (vmName hostname) patternText

def GuestSpec.check (guest : GuestSpec) : Except String Unit := do
  lengthBetween 1 2048 guest.isoId.length
  nullableLength 0 100 guest.timezone
  lengthBetween 2 35 guest.installationLocale.length
  lengthBetween 2 100 guest.inputLocale.length
  between 1 99 guest.windowsImageIndex
  lengthBetween 2 150 guest.credentialSecretRef.length
  nullableLength 2 150 guest.productKeySecretRef
  require (guest.productKeySecretRef.all secretReference) patternText

def GuestSpec.validate (guest : GuestSpec) : Except String GuestSpec := do
  checkHostname guest.hostname
  guest.check
  let domainJoin ← optionally (·.validate p) guest.domainJoin
  return { guest with domainJoin }

/-- `_validate_ipv4`, with the address that it parses. -/
def validateIpv4 (value : List Char) (field : String) : Except String Ipv4Address :=
  match Ipv4Address.parse (pyStrip value) with
  | some ip => .ok ip
  | none => .error s!"{field}: '{String.ofList value}' is not a valid IPv4 address."

/-- The DNS servers, none of them twice. -/
def normalizeDns (seen : List (List Char)) :
    List (List Char) → Except String (List (List Char))
  | [] => .ok []
  | dns :: servers => do
    let ip ← validateIpv4 dns "DNS server"
    require (ip.text ∉ seen) s!"Duplicate DNS server: {String.ofList ip.text}"
    let rest ← normalizeDns (ip.text :: seen) servers
    return ip.text :: rest

/-- The addresses of a network whose first `prefixLength` bits an address has. -/
def networkSize (prefixLength : Int) : Nat := 2 ^ (32 - prefixLength.toNat)

/-- `Ipv4Config._validate_addresses`, from the parsed addresses on. -/
def checkAddresses (prefixLength : Int) (address gateway : Ipv4Address) : Except String Unit := do
  let size := networkSize prefixLength
  let network := address.value / size * size
  require (address.value ≠ network)
    "IP address equals the network address and cannot be assigned to a host."
  require (address.value ≠ network + (size - 1))
    "IP address equals the broadcast address and cannot be assigned to a host."
  require (network ≤ gateway.value ∧ gateway.value ≤ network + (size - 1))
    (s!"Default gateway {String.ofList gateway.text} is outside the " ++
      s!"{String.ofList (Ipv4Address.ofValue network).text}/{prefixLength} subnet.")
  require (gateway ≠ address) "Default gateway must differ from the VM's own IP address."

def Ipv4Config.validate (ipv4 : Ipv4Config) : Except String Ipv4Config := do
  between 8 32 ipv4.prefixLength
  lengthBetween 0 8 ipv4.dnsServers.length
  let address ← validateIpv4 ipv4.address "IP address"
  let gateway ← validateIpv4 ipv4.gateway "Default gateway"
  checkAddresses ipv4.prefixLength address gateway
  let dnsServers ← normalizeDns [] ipv4.dnsServers
  return { ipv4 with address := address.text, gateway := gateway.text, dnsServers }

def NetworkSpec.validate (network : NetworkSpec) : Except String NetworkSpec := do
  lengthBetween 1 120 network.networkId.length
  let ipv4 ← optionally Ipv4Config.validate network.ipv4
  require (!(network.mode = .static && ipv4.isNone))
    "ipv4 configuration is required when mode is STATIC."
  return { network with ipv4 }

namespace ProvisioningRequest

variable {p} (request : ProvisioningRequest p)

/-- `self.guest.hostname or self.vm.name`. -/
def hostnameOrName : List Char :=
  match request.guest.hostname with
  | some (c :: cs) => c :: cs
  | _ => request.vm.name

/-- The short Windows name of `_validate_identity`. -/
def shortName : List Char :=
  match request.guest.domainJoin, request.identityPolicyVersion with
  | none, _ => request.hostnameOrName
  | some _, .v1 => request.hostnameOrName
  | some _, .v2 => request.vm.name

/-- The rules that hold for the identity policy `v2` only. -/
def checkIdentity : Except String Unit := do
  require (secretReference request.guest.credentialSecretRef)
    "guest.credential_secret_ref must be a safe lowercase, slash-separated secret reference."
  let field := if request.guest.domainJoin.isNone then "guest.hostname" else "vm.name"
  require (windowsComputerName request.shortName && !isDigits request.shortName)
    (s!"{field} must be a valid Windows computer name " ++
      "(letters, numbers and hyphens only; not all-numeric; maximum 63 characters).")
  match request.guest.domainJoin with
  | none => .ok ()
  | some join =>
    require (secretReference join.credentialSecretRef)
      ("guest.domain_join.credential_secret_ref must be a safe lowercase, " ++
        "slash-separated secret reference.")
    require ((join.domain.splitOn '.').all fun label => label.length ≤ 63)
      "Each DNS domain label must not exceed 63 characters."
    require (request.shortName.length + 1 + join.domain.length ≤ 253)
      "The resulting domain-joined FQDN must not exceed 253 characters."

/-- `_validate_identity`. -/
def validateIdentity : Except String (ProvisioningRequest p) := do
  if request.identityPolicyVersion = .v2 then request.checkIdentity
  if request.guest.domainJoin.isNone || request.identityPolicyVersion = .v2 then
    return { request with
      guest := { request.guest with hostname := some (request.shortName.map Char.toUpper) } }
  else return request

/-- The models of a request, and then its identity. -/
def validate : Except String (ProvisioningRequest p) := do
  request.vm.check
  request.compute.check
  request.hardware.check
  let guest ← request.guest.validate p
  let network ← request.network.validate
  lengthBetween 0 20 request.certificatePackageIds.length
  lengthBetween 0 50 request.applicationIds.length
  validateIdentity { request with guest, network }

def effectiveComputerName : List Char :=
  match request.guest.domainJoin, request.identityPolicyVersion with
  | some _, .v2 => request.vm.name.map Char.toUpper
  | _, _ => request.hostnameOrName.map Char.toUpper

def effectiveFqdn : Option (List Char) :=
  request.guest.domainJoin.map fun join =>
    p.lower (request.effectiveComputerName ++ '.' :: join.domain)

end ProvisioningRequest

/-- `ProvisioningRequest.model_validate`. -/
def modelValidate (j : JsonDocument) : Except String (ProvisioningRequest p) := do
  let request ← (provisioningRequest p).read j
  request.validate

/-- `DESKTOP_EXPERIENCE_EDITIONS`. -/
def desktopExperienceEditions : List Int := [2, 4]

/-- `ProvisioningSubmissionRequest`. -/
def submissionValidate (j : JsonDocument) : Except String (ProvisioningRequest p) := do
  let request ← (provisioningRequest p).read j
  require (request.identityPolicyVersion = .v2) "Input should be 'v2'"
  let request ← request.validate
  require (request.guest.windowsImageIndex ∈ desktopExperienceEditions)
    ("guest.windows_image_index must be 2 (Standard) or 4 (Datacenter): every server " ++
      "is installed with the Desktop Experience.")
  return request

/-- `request.model_dump(mode="json")`. -/
def modelDump (request : ProvisioningRequest p) : JsonDocument :=
  (provisioningRequest p).write request

/-- Whether a field of a stored guest is read: one that is no longer there only with a value. -/
def keptField (f : String × JsonDocument) : Bool := !(f.2 matches .null) || f.1 ∈ guestFields

/-- The guest's fields, without nulls in fields that are no longer there. -/
def dropRemovedFields : JsonDocument → JsonDocument
  | .object guest => .object (guest.filter keptField)
  | j => j

/-- The fields of a payload that `parse_stored_request` validates. -/
def storedFields (payload : Fields) : Fields :=
  let versioned :=
    if (payload.lookup "identity_policy_version").isSome then payload
    else payload ++ [("identity_policy_version", .text "v1".toList)]
  versioned.map fun f => (f.1, if f.1 = "guest" then dropRemovedFields f.2 else f.2)

/-- `parse_stored_request`. -/
def parseStoredRequest : JsonDocument → Option (ProvisioningRequest p)
  | .object payload => (modelValidate p (.object (storedFields payload))).toOption
  | _ => none

end InfraOps.Schemas
