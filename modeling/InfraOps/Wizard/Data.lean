import InfraOps.Schemas.Provisioning
import InfraOps.Support.JsNumber

/-!
# The provisioning wizard

The draft of `schema.ts` and how `context.tsx` updates it. A patch sets some of the draft's
fields; where it changes the location, `update` resets what was chosen under the old one.
-/

namespace InfraOps.Wizard

open Schemas (DiskProvisioning FirmwareType AdapterType IpMode)

/-- `'auto' | 'manual'`. -/
inductive ChoiceMode
  | auto | manual
  deriving DecidableEq

structure DiskDraft where
  sizeGb : JsNumber
  provisioning : DiskProvisioning
  datastoreId : Option (List Char)
  deriving DecidableEq

structure DomainJoinDraft where
  enabled : Bool
  domain : List Char
  ou : List Char
  credentialSecretRef : List Char
  deriving DecidableEq

structure WizardData where
  isoId : List Char
  /-- A credential reference, empty when the media needs none. -/
  productKeySecretRef : List Char
  vcenterId : List Char
  datacenterId : List Char
  clusterId : List Char
  hostMode : ChoiceMode
  hostId : Option (List Char)
  resourcePoolId : Option (List Char)
  storageMode : ChoiceMode
  datastoreId : Option (List Char)
  vmName : List Char
  description : List Char
  cpu : JsNumber
  memoryGb : JsNumber
  firmware : FirmwareType
  secureBoot : Bool
  disks : List DiskDraft
  hostname : List Char
  timezone : List Char
  installationLocale : List Char
  inputLocale : List Char
  windowsImageIndex : JsNumber
  guestCredentialSecretRef : List Char
  domainJoin : DomainJoinDraft
  networkId : List Char
  adapterType : AdapterType
  ipMode : IpMode
  ipAddress : List Char
  prefixInput : List Char
  gateway : List Char
  dnsPrimary : List Char
  dnsSecondary : List Char
  dnsExtra : List Char
  certificatePackageIds : List (List Char)
  applicationIds : List (List Char)
  deriving DecidableEq

def initialWizardData : WizardData where
  isoId := []
  productKeySecretRef := []
  vcenterId := []
  datacenterId := []
  clusterId := []
  hostMode := .auto
  hostId := none
  resourcePoolId := none
  storageMode := .auto
  datastoreId := none
  vmName := []
  description := []
  cpu := .ofNat 2
  memoryGb := .ofNat 8
  firmware := .efi
  secureBoot := false
  disks := [{ sizeGb := .ofNat 100, provisioning := .thin, datastoreId := none }]
  hostname := []
  timezone := []
  installationLocale := "en-US".toList
  inputLocale := "0409:00000409".toList
  windowsImageIndex := .ofNat 2
  guestCredentialSecretRef := []
  domainJoin := { enabled := false, domain := [], ou := [],
                  credentialSecretRef := "domain-join".toList }
  networkId := []
  adapterType := .vmxnet3
  ipMode := .static
  ipAddress := []
  prefixInput := "24".toList
  gateway := []
  dnsPrimary := []
  dnsSecondary := []
  dnsExtra := []
  certificatePackageIds := []
  applicationIds := []

/-- `Partial<WizardData>`: the fields that a patch names. -/
structure Patch where
  isoId : Option (List Char) := none
  productKeySecretRef : Option (List Char) := none
  vcenterId : Option (List Char) := none
  datacenterId : Option (List Char) := none
  clusterId : Option (List Char) := none
  hostMode : Option ChoiceMode := none
  hostId : Option (Option (List Char)) := none
  resourcePoolId : Option (Option (List Char)) := none
  storageMode : Option ChoiceMode := none
  datastoreId : Option (Option (List Char)) := none
  vmName : Option (List Char) := none
  description : Option (List Char) := none
  cpu : Option JsNumber := none
  memoryGb : Option JsNumber := none
  firmware : Option FirmwareType := none
  secureBoot : Option Bool := none
  disks : Option (List DiskDraft) := none
  hostname : Option (List Char) := none
  timezone : Option (List Char) := none
  installationLocale : Option (List Char) := none
  inputLocale : Option (List Char) := none
  windowsImageIndex : Option JsNumber := none
  guestCredentialSecretRef : Option (List Char) := none
  domainJoin : Option DomainJoinDraft := none
  networkId : Option (List Char) := none
  adapterType : Option AdapterType := none
  ipMode : Option IpMode := none
  ipAddress : Option (List Char) := none
  prefixInput : Option (List Char) := none
  gateway : Option (List Char) := none
  dnsPrimary : Option (List Char) := none
  dnsSecondary : Option (List Char) := none
  dnsExtra : Option (List Char) := none
  certificatePackageIds : Option (List (List Char)) := none
  applicationIds : Option (List (List Char)) := none

namespace Patch

variable (patch : Patch)

/-- `Object.keys(patch)`. -/
def keys : List String :=
  [("iso_id", patch.isoId.isSome), ("product_key_secret_ref", patch.productKeySecretRef.isSome),
    ("vcenter_id", patch.vcenterId.isSome), ("datacenter_id", patch.datacenterId.isSome),
    ("cluster_id", patch.clusterId.isSome), ("host_mode", patch.hostMode.isSome),
    ("host_id", patch.hostId.isSome), ("resource_pool_id", patch.resourcePoolId.isSome),
    ("storage_mode", patch.storageMode.isSome), ("datastore_id", patch.datastoreId.isSome),
    ("vm_name", patch.vmName.isSome), ("description", patch.description.isSome),
    ("cpu", patch.cpu.isSome), ("memory_gb", patch.memoryGb.isSome),
    ("firmware", patch.firmware.isSome), ("secure_boot", patch.secureBoot.isSome),
    ("disks", patch.disks.isSome), ("hostname", patch.hostname.isSome),
    ("timezone", patch.timezone.isSome), ("installation_locale", patch.installationLocale.isSome),
    ("input_locale", patch.inputLocale.isSome),
    ("windows_image_index", patch.windowsImageIndex.isSome),
    ("guest_credential_secret_ref", patch.guestCredentialSecretRef.isSome),
    ("domain_join", patch.domainJoin.isSome), ("network_id", patch.networkId.isSome),
    ("adapter_type", patch.adapterType.isSome), ("ip_mode", patch.ipMode.isSome),
    ("ip_address", patch.ipAddress.isSome), ("prefix_input", patch.prefixInput.isSome),
    ("gateway", patch.gateway.isSome), ("dns_primary", patch.dnsPrimary.isSome),
    ("dns_secondary", patch.dnsSecondary.isSome), ("dns_extra", patch.dnsExtra.isSome),
    ("certificate_package_ids", patch.certificatePackageIds.isSome),
    ("application_ids", patch.applicationIds.isSome)].filterMap fun (key, present) =>
      if present then some key else none

/-- `{ ...data, ...patch }`. -/
def apply (data : WizardData) : WizardData where
  isoId := patch.isoId.getD data.isoId
  productKeySecretRef := patch.productKeySecretRef.getD data.productKeySecretRef
  vcenterId := patch.vcenterId.getD data.vcenterId
  datacenterId := patch.datacenterId.getD data.datacenterId
  clusterId := patch.clusterId.getD data.clusterId
  hostMode := patch.hostMode.getD data.hostMode
  hostId := patch.hostId.getD data.hostId
  resourcePoolId := patch.resourcePoolId.getD data.resourcePoolId
  storageMode := patch.storageMode.getD data.storageMode
  datastoreId := patch.datastoreId.getD data.datastoreId
  vmName := patch.vmName.getD data.vmName
  description := patch.description.getD data.description
  cpu := patch.cpu.getD data.cpu
  memoryGb := patch.memoryGb.getD data.memoryGb
  firmware := patch.firmware.getD data.firmware
  secureBoot := patch.secureBoot.getD data.secureBoot
  disks := patch.disks.getD data.disks
  hostname := patch.hostname.getD data.hostname
  timezone := patch.timezone.getD data.timezone
  installationLocale := patch.installationLocale.getD data.installationLocale
  inputLocale := patch.inputLocale.getD data.inputLocale
  windowsImageIndex := patch.windowsImageIndex.getD data.windowsImageIndex
  guestCredentialSecretRef := patch.guestCredentialSecretRef.getD data.guestCredentialSecretRef
  domainJoin := patch.domainJoin.getD data.domainJoin
  networkId := patch.networkId.getD data.networkId
  adapterType := patch.adapterType.getD data.adapterType
  ipMode := patch.ipMode.getD data.ipMode
  ipAddress := patch.ipAddress.getD data.ipAddress
  prefixInput := patch.prefixInput.getD data.prefixInput
  gateway := patch.gateway.getD data.gateway
  dnsPrimary := patch.dnsPrimary.getD data.dnsPrimary
  dnsSecondary := patch.dnsSecondary.getD data.dnsSecondary
  dnsExtra := patch.dnsExtra.getD data.dnsExtra
  certificatePackageIds := patch.certificatePackageIds.getD data.certificatePackageIds
  applicationIds := patch.applicationIds.getD data.applicationIds

end Patch

/-! ## Updates -/

/-- `value !== undefined && value !== previous`. -/
def changes (value : Option (List Char)) (previous : List Char) : Bool :=
  value.any (· ≠ previous)

def clearedDisks (data : WizardData) : List DiskDraft :=
  data.disks.map fun disk => { disk with datastoreId := none }

/-- The patch with the resets of a changed location. -/
def normalizedPatch (previous : WizardData) (patch : Patch) : Patch :=
  let normalized := patch
  let normalized :=
    if changes patch.vcenterId previous.vcenterId then
      { normalized with
        datacenterId := some []
        clusterId := some []
        hostMode := some .auto
        hostId := some none
        resourcePoolId := some none
        datastoreId := some none
        networkId := some []
        isoId := some [] }
    else normalized
  let normalized :=
    if changes patch.datacenterId previous.datacenterId then
      { normalized with
        clusterId := some []
        hostMode := some .auto
        hostId := some none
        resourcePoolId := some none
        datastoreId := some none
        networkId := some []
        isoId := some []
        disks := some (clearedDisks previous) }
    else normalized
  if changes patch.clusterId previous.clusterId then
    { normalized with
      hostId := some none
      resourcePoolId := some none
      datastoreId := some none
      disks := some (clearedDisks previous) }
  else normalized

structure WizardState where
  data : WizardData
  /-- The messages of the last validated step, by field. -/
  errors : List (String × String)

/-- Whether an error is one of a field, or of a part of it. -/
def errorOf (changed field : String) : Bool := field = changed || field.startsWith (changed ++ ".")

/-- `WizardProvider.update`. -/
def update (patch : Patch) (s : WizardState) : WizardState where
  data := (normalizedPatch s.data patch).apply s.data
  errors := s.errors.filter fun (field, _) => !patch.keys.any fun changed => errorOf changed field

end InfraOps.Wizard
