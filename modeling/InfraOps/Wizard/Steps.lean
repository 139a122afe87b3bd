import InfraOps.Wizard.Request

/-!
# The steps of the wizard

`stepSchemas` and `validateStep` of `schema.ts`, and what `context.tsx` and the page do with
them. A schema reports every issue of its fields; its refinement runs unless a field has a
value of another type, which of a typed draft only `NaN` can be.
-/

namespace InfraOps.Wizard

/-- A field's path and a message. -/
abbrev Issue := String × String

/-- `Number.isInteger(n)`. -/
def isInteger : JsNumber → Bool
  | .finite value => value.val.den = 1
  | _ => false

/-- `z.number().int().min(least).max(most)`. -/
def integerIssues (field : String) (least most : Nat) (below above : String) (n : JsNumber) :
    List Issue :=
  if n.isNaN then [(field, "Expected number, received nan")]
  else
    issue (!isInteger n) field "Expected integer, received float" ++
      issue (n.lt (.ofNat least)) field below ++ issue ((JsNumber.ofNat most).lt n) field above

/-- `IPV4_REGEX` between two dots. -/
def octetRegex : List Char → Bool
  | [a] => Ipv4Address.digit a
  | [a, b] => '1' ≤ a && a ≤ '9' && Ipv4Address.digit b
  | [a, b, c] =>
    a = '2' && b = '5' && '0' ≤ c && c ≤ '5' ||
      a = '2' && '0' ≤ b && b ≤ '4' && Ipv4Address.digit c ||
      a = '1' && Ipv4Address.digit b && Ipv4Address.digit c
  | _ => false

/-- `IPV4_REGEX`. -/
def ipv4Regex (cs : List Char) : Bool :=
  (cs.splitOn '.').length = 4 && (cs.splitOn '.').all octetRegex

/-! ## `stepSchemas` -/

def locationIssues (data : WizardData) : List Issue :=
  issue (data.vcenterId = []) "vcenter_id" "Select a vCenter." ++
    issue (data.datacenterId = []) "datacenter_id" "Select a datacenter." ++
    issue (data.clusterId = []) "cluster_id" "Select a compute target." ++
    issue (data.hostMode = .manual && (data.hostId.getD []) = []) "host_id" "Select a host."

def mediaIssues (data : WizardData) : List Issue :=
  issue (data.isoId = []) "iso_id" "Select the Windows Server installation ISO."

/-- `diskSchema`, of the disk at an index. -/
def diskIssues (disk : DiskDraft) (index : Nat) : List Issue :=
  integerIssues s!"disks.{index}.size_gb" 1 8000 "Minimum 1 GB"
    "Number must be less than or equal to 8000" disk.sizeGb

/-- `WINDOWS_EDITIONS`. -/
def windowsEditions : List (Nat × String) :=
  [(2, "Standard (Desktop Experience)"), (4, "Datacenter (Desktop Experience)")]

def isDesktopExperienceEdition (index : JsNumber) : Bool :=
  windowsEditions.any fun edition => .ofNat edition.1 = index

def configurationFields (data : WizardData) : List Issue :=
  issue (jsLength data.vmName < 2) "vm_name" "VM name is required." ++
    issue (64 < jsLength data.vmName) "vm_name" "Maximum 64 characters." ++
    issue (!Schemas.vmName data.vmName) "vm_name"
      "Letters, digits, dots and dashes only; must start/end alphanumeric." ++
    integerIssues "cpu" 1 256 "Number must be greater than or equal to 1"
      "Number must be less than or equal to 256" data.cpu ++
    integerIssues "memory_gb" 1 8192 "Number must be greater than or equal to 1"
      "Number must be less than or equal to 8192" data.memoryGb ++
    issue (data.disks.length < 1) "disks" "At least one disk is required." ++
    issue (8 < data.disks.length) "disks" "Maximum 8 disks." ++
    (data.disks.zipIdx.flatMap fun (disk, index) => diskIssues disk index) ++
    issue (jsLength (jsTrim data.installationLocale) < 2) "installation_locale"
      "Enter a Windows language tag." ++
    issue (jsLength (jsTrim data.inputLocale) < 2) "input_locale"
      "Enter a Windows keyboard input locale." ++
    if data.windowsImageIndex.isNaN then [("windows_image_index", "Expected number, received nan")]
    else issue (!isDesktopExperienceEdition data.windowsImageIndex) "windows_image_index"
      "Choose Windows Server Standard or Datacenter (Desktop Experience)."

/-- Whether every number of the step is one. -/
def configurationTyped (data : WizardData) : Bool :=
  !data.cpu.isNaN && !data.memoryGb.isNaN && (data.disks.all fun disk => !disk.sizeGb.isNaN) &&
    !data.windowsImageIndex.isNaN

def configurationIssues (data : WizardData) : List Issue :=
  configurationFields data ++
    if configurationTyped data then
      issue (data.storageMode = .manual && (data.datastoreId.getD []) = []) "datastore_id"
          "Select a datastore." ++
        issue (!isWindowsComputerName (textOr (some data.hostname) data.vmName)) "hostname"
          "Enter a valid short Windows computer name (letters, numbers and hyphens only)."
    else []

def credentialsIssues (data : WizardData) : List Issue :=
  issue (jsLength data.guestCredentialSecretRef < 2) "guest_credential_secret_ref"
    "Select a Windows provisioning administrator credential."

/-- `ipv4`. -/
def ipv4Issues (field message : String) (value : List Char) : List Issue :=
  issue (!ipv4Regex (jsTrim value)) field message

/-- The servers that `ipv4List` reads in a text. -/
def listedServers (value : List Char) : List (List Char) :=
  ((value.splitOnP dnsSeparator).map jsTrim).filter fun entry => entry ≠ []

/-- The network step of a static address. -/
def staticIssues (data : WizardData) : List Issue :=
  ipv4Issues "ip_address" "Enter a valid IPv4 address." data.ipAddress ++
    issue (parsePrefixInput data.prefixInput).isNone "prefix_input"
      "Enter a prefix length (8–32) or a valid subnet mask." ++
    ipv4Issues "gateway" "Enter a valid IPv4 gateway." data.gateway ++
    ipv4Issues "dns_primary" "Enter a valid IPv4 DNS server." data.dnsPrimary ++
    issue (!(jsTrim data.dnsSecondary = [] || ipv4Regex (jsTrim data.dnsSecondary)))
      "dns_secondary" "Enter a valid secondary IPv4 DNS server." ++
    issue (!(listedServers data.dnsExtra).all ipv4Regex) "dns_extra"
      "Enter only valid IPv4 DNS servers separated by spaces or commas."

/-- With DHCP the step's other fields are validated in texts that are valid. -/
def networkIssues (data : WizardData) : List Issue :=
  issue (data.networkId = []) "network_id" "Select a port group." ++
    if data.ipMode = .static then staticIssues data else []

/-! ## Validation -/

inductive StepKey
  | location | media | configuration | credentials | network | directory
  deriving DecidableEq

/-- `WIZARD_STEPS` without the review, which has no schema. -/
def wizardSteps : List StepKey :=
  [.location, .media, .configuration, .credentials, .network, .directory]

variable (b : Browser)

def stepIssues (data : WizardData) : StepKey → List Issue
  | .location => locationIssues data
  | .media => mediaIssues data
  | .configuration => configurationIssues data
  | .credentials => credentialsIssues data
  | .network => networkIssues data
  | .directory => directoryIssues b data

def validateStep (step : StepKey) (data : WizardData) : List Issue :=
  firstMessages (stepIssues b data step)

/-- `validateAll`: the step that the wizard goes back to, and its messages. -/
def validateAll (data : WizardData) : Option (StepKey × List Issue) :=
  wizardSteps.findSome? fun step =>
    let found := validateStep b step data
    if found ≠ [] then some (step, found) else none

/-- `handleProvision`: the body that is posted, if any is. -/
def handleProvision (data : WizardData) : Option JsonDocument :=
  if (validateAll b data).isSome then none else some ((buildRequest b data).json b)

end InfraOps.Wizard
