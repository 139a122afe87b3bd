import InfraOps.Core.Text
import Mathlib.Data.List.Infix
import InfraOps.Support.Hex

/-!
# Certificates in a guest's store

The catalog's certificates, the probe of `app/services/certificates/store_logic.py` and
`CertificateDeployer`. The guest reports for each stored certificate the SHA-1 of its DER in
hexadecimal as its `Thumbprint`; PowerShell's `-eq` ignores case.
-/

namespace InfraOps.Certificates

abbrev Text := List Char

inductive CertificateType
  | root
  | intermediate
  deriving DecidableEq

inductive CertificateStore
  | root
  | ca
  deriving DecidableEq

def CertificateStore.value : CertificateStore → Text
  | .root => "Root".toList
  | .ca => "CA".toList

/-- `STORE_FOR_TYPE`. -/
def storeForType : CertificateType → CertificateStore
  | .root => .root
  | .intermediate => .ca

structure Date where
  year : Nat
  month : Nat
  day : Nat

def Date.before (a b : Date) : Bool :=
  a.year < b.year || (a.year = b.year &&
    (a.month < b.month || (a.month = b.month && a.day < b.day)))

def padded (width n : Nat) : Text :=
  let digits := (toString n).toList
  List.replicate (width - digits.length) '0' ++ digits

/-- `str(date)`. -/
def Date.iso (d : Date) : Text :=
  padded 4 d.year ++ '-' :: padded 2 d.month ++ '-' :: padded 2 d.day

/-- X.509 and the digests: a certificate is its DER. -/
structure Cryptography (Der : Type) where
  loadPem : Text → Except String Der
  notAfter : Der → Option Date
  sha1 : Der → Vector UInt8 20
  sha256 : Der → Vector UInt8 32

variable {Der : Type}

/-! ## The catalog -/

structure Certificate where
  packageId : Text
  friendlyName : Text
  certificateType : CertificateType
  fingerprintSha256 : Text
  notAfter : Option Date
  pemBody : Text
  enabled : Bool

structure CertificateCreate where
  packageId : Text
  friendlyName : Text
  certificateType : CertificateType
  pemBody : Text
  enabled : Bool := true

section catalog

variable (crypto : Cryptography Der) (upper : Char → Text)

/-- `fingerprint_sha256` of `certificate_metadata`; `upper` is `str.upper` of a character. -/
def fingerprint (der : Der) : Text := (Hex.hexlify (crypto.sha256 der).toList).flatMap upper

/-- `register_certificate`. -/
def registerCertificate (packages : List Text) (rows : List Certificate)
    (payload : CertificateCreate) : Except String Certificate :=
  if !packages.contains payload.packageId then
    .error "Target certificate package does not exist."
  else
    match crypto.loadPem payload.pemBody with
    | .error _ => .error "The provided certificate is not valid PEM-encoded X.509."
    | .ok der =>
      if rows.any fun row => row.fingerprintSha256 = fingerprint crypto upper der then
        .error "A certificate with this SHA-256 fingerprint is already registered."
      else
        .ok { packageId := payload.packageId
              friendlyName := payload.friendlyName
              certificateType := payload.certificateType
              fingerprintSha256 := fingerprint crypto upper der
              notAfter := crypto.notAfter der
              pemBody := pyStrip payload.pemBody
              enabled := payload.enabled }

structure CertificateUpdate where
  friendlyName : Option Text := none
  enabled : Option Bool := none

/-- `update_certificate`. -/
def updateCertificate (row : Certificate) (payload : CertificateUpdate) : Certificate :=
  { row with
    friendlyName := payload.friendlyName.getD row.friendlyName
    enabled := payload.enabled.getD row.enabled }

/-- A row of the catalog, with the certificate it was registered for. -/
inductive InCatalog : Certificate → Der → Prop
  | registered {packages rows payload row der} (hpem : crypto.loadPem payload.pemBody = .ok der)
    (h : registerCertificate crypto upper packages rows payload = .ok row) : InCatalog row der
  | updated {row der} (h : InCatalog row der) (payload : CertificateUpdate) :
    InCatalog (updateCertificate row payload) der

end catalog

structure CertificateToDeploy where
  friendlyName : Text
  certificateType : CertificateType
  thumbprint : Text
  pemBody : Text
  notAfter : Option Date := none

def Certificate.toDeploy (cert : Certificate) : CertificateToDeploy where
  friendlyName := cert.friendlyName
  certificateType := cert.certificateType
  thumbprint := cert.fingerprintSha256
  pemBody := cert.pemBody
  notAfter := cert.notAfter

/-- `_load_certificates`; `le` orders names, and the packages are the enabled ones. -/
def loadCertificates (le : Text → Text → Bool) (enabledPackages packageIds : List Text)
    (certificateType : CertificateType) (rows : List Certificate) : List CertificateToDeploy :=
  let selected := rows.filter fun row =>
    packageIds.contains row.packageId && row.enabled && enabledPackages.contains row.packageId &&
      row.certificateType = certificateType
  (selected.mergeSort fun a b => le a.friendlyName b.friendlyName).map Certificate.toDeploy

/-- What a stage hands to the deployer for a certificate of the catalog. -/
inductive Loaded (crypto : Cryptography Der) (upper : Char → Text) :
    CertificateToDeploy → Der → Prop
  | loaded {le enabledPackages packageIds certificateType rows row der}
    (hrow : InCatalog crypto upper row der)
    (hload : row.toDeploy ∈ loadCertificates le enabledPackages packageIds certificateType rows) :
    Loaded crypto upper row.toDeploy der

/-! ## The probe -/

/-- The certificates of a guest's `LocalMachine` stores, by the store's name. -/
abbrev LocalMachine (Der : Type) := Text → List Der

/-- The probe's script, by the values embedded in it. -/
structure PresenceScript where
  store : Text
  thumbprint : Text

def PresenceScript.text (script : PresenceScript) : Text :=
  "$match = Get-ChildItem Cert:\\LocalMachine\\".toList ++ script.store ++
    " -ErrorAction SilentlyContinue | Where-Object \x7b $_.Thumbprint -eq '".toList ++
    script.thumbprint ++ "' \x7d; if ($match) \x7b 'PRESENT' \x7d else \x7b 'ABSENT' \x7d".toList

/-- The `Thumbprint` that the guest reports. -/
def guestThumbprint (crypto : Cryptography Der) (der : Der) : Text :=
  (Hex.hexlify (crypto.sha1 der).toList).map Char.toUpper

/-- What the guest prints for the script. -/
def PresenceScript.output (crypto : Cryptography Der) (machine : LocalMachine Der)
    (script : PresenceScript) : Text :=
  if (machine script.store).any fun der =>
    Hex.sameIgnoringCase (guestThumbprint crypto der) script.thumbprint
  then "PRESENT\r\n".toList else "ABSENT\r\n".toList

/-- `THUMBPRINT_PATTERN.fullmatch`. -/
def thumbprintPattern (text : Text) : Bool :=
  40 ≤ text.length && text.length ≤ 64 && text.all Hex.isDigit

/-- What a call raises: an `InfraOperationError` with its message, or anything else. -/
inductive Fault
  | operation (humanMessage : Text)
  | other

variable (crypto : Cryptography Der) (upper : Char → Text)

def buildPresenceScript (store thumbprint : Text) : Except Fault PresenceScript :=
  if !thumbprintPattern thumbprint then .error .other
  else if !([CertificateStore.root.value, CertificateStore.ca.value].contains store) then
    .error .other
  else .ok ⟨store, thumbprint.flatMap upper⟩

def parsePresenceOutput (stdout : Text) : Bool :=
  decide ("PRESENT".toList <:+: stdout.flatMap upper)

/-- How a probe goes: the call raises, PowerShell fails, or the script runs. -/
inductive ProbeAnswer
  | raises (fault : Fault)
  | fails
  | runs

/-- `_probe_presence`. -/
def probePresence (answer : ProbeAnswer) (machine : LocalMachine Der) (store thumbprint : Text) :
    Except Fault Bool := do
  let script ← buildPresenceScript upper store thumbprint
  match answer with
  | .raises fault => .error fault
  | .fails =>
    .error (.operation "The certificate presence probe could not run inside the guest.".toList)
  | .runs => .ok (parsePresenceOutput upper (script.output crypto machine))

/-! ## The deployer -/

inductive Action
  | installed
  | alreadyPresent
  | failed
  deriving DecidableEq

structure CertificateInstallRecord where
  friendlyName : Text
  store : Text
  thumbprint : Text
  action : Action
  verified : Bool
  detail : Text

/-- The store's name for a certificate. -/
def CertificateToDeploy.store (cert : CertificateToDeploy) : Text :=
  (storeForType cert.certificateType).value

def CertificateToDeploy.record (cert : CertificateToDeploy) (action : Action) (verified : Bool)
    (detail : Text) : CertificateInstallRecord :=
  ⟨cert.friendlyName, cert.store, cert.thumbprint, action, verified, detail⟩

def verifyOne (machine : LocalMachine Der) (cert : CertificateToDeploy) (answer : ProbeAnswer) :
    Except Fault CertificateInstallRecord := do
  let present ← probePresence crypto upper answer machine cert.store cert.thumbprint
  return cert.record (if present then .alreadyPresent else .failed) present
    (if present then [] else "Thumbprint not found after installation.".toList)

/-- `verify_all`, each certificate with how its probe goes. -/
def verifyAll (machine : LocalMachine Der) :
    List (CertificateToDeploy × ProbeAnswer) → Except Fault (List CertificateInstallRecord)
  | [] => .ok []
  | (cert, answer) :: certs => do
    let record ← verifyOne crypto upper machine cert answer
    let records ← verifyAll machine certs
    return record :: records

/-- `is_expired`. -/
def isExpired (notAfter : Option Date) (today : Date) : Bool :=
  notAfter.any fun date => date.before today

def guestTempDir : Text := "C:\\Windows\\Temp".toList

/-- `make_guest_cert_file_name`. -/
def makeGuestCertFileName (friendlyName thumbprint : Text) : Text :=
  (friendlyName.map fun c => if c.isAlphanum || c = '_' || c = '-' then c else '_').take 40 ++
    '_' :: (thumbprint.take 12).map Char.toLower ++ ".cer".toList

/-- `import_program`. -/
def importProgram (store guestCertPath : Text) : Except Fault (Text × Text) :=
  if !([CertificateStore.root.value, CertificateStore.ca.value].contains store) then
    .error .other
  else if !(guestTempDir ++ ['\\']).isPrefixOf guestCertPath || guestCertPath.contains '"' then
    .error .other
  else
    .ok ("C:\\Windows\\System32\\certutil.exe".toList,
      "-addstore -f ".toList ++ store ++ " \"".toList ++ guestCertPath ++ "\"".toList)

/-- How `certutil` goes: the call raises, or it exits, perhaps having added a certificate. -/
inductive ImportAnswer (Der : Type)
  | raises (fault : Fault)
  | exits (code : Int) (added : Option Der)

structure DeployAnswers (Der : Type) where
  today : Date
  before : ProbeAnswer := .runs
  upload : Option Fault := none
  importing : ImportAnswer Der
  delete : Option Fault := none
  after : ProbeAnswer := .runs

def LocalMachine.add (machine : LocalMachine Der) (store : Text) (der : Der) : LocalMachine Der :=
  fun name => if name = store then der :: machine name else machine name

/-- `certutil` in the guest. -/
def importCertificate (answer : ImportAnswer Der) (machine : LocalMachine Der)
    (cert : CertificateToDeploy) : Option Fault × LocalMachine Der :=
  match importProgram cert.store
    (guestTempDir ++ '\\' :: makeGuestCertFileName cert.friendlyName cert.thumbprint) with
  | .error fault => (some fault, machine)
  | .ok _ =>
    match answer with
    | .raises fault => (some fault, machine)
    | .exits code added =>
      (if code = 0 then none
        else some (.operation
          ("Import of '".toList ++ cert.friendlyName ++ "' failed inside the guest.".toList)),
        (added.map (machine.add cert.store)).getD machine)

/-- `_deploy_one` within its `try`: the record, or what is raised there. -/
def tryDeploy (a : DeployAnswers Der) (machine : LocalMachine Der) (cert : CertificateToDeploy) :
    Except Fault CertificateInstallRecord × LocalMachine Der :=
  if isExpired cert.notAfter a.today then
    (.ok (cert.record .failed false ("The certificate expired on ".toList ++
      ((cert.notAfter.map Date.iso).getD []) ++ ".".toList)), machine)
  else
    match probePresence crypto upper a.before machine cert.store cert.thumbprint with
    | .error fault => (.error fault, machine)
    | .ok true =>
      (.ok (cert.record .alreadyPresent true
        "Thumbprint already present — skipped reinstall.".toList), machine)
    | .ok false =>
      match a.upload with
      | some fault => (.error fault, machine)
      | none =>
        match importCertificate a.importing machine cert, a.delete with
        | (_, machine), some .other => (.error .other, machine)
        | (some fault, machine), _ => (.error fault, machine)
        | (none, machine), _ =>
          match probePresence crypto upper a.after machine cert.store cert.thumbprint with
          | .error fault => (.error fault, machine)
          | .ok verified =>
            (.ok (cert.record .installed verified
              (if verified then []
                else "Import reported success but verification probe failed.".toList)), machine)

/-- `_deploy_one`. -/
def deployOne (a : DeployAnswers Der) (machine : LocalMachine Der) (cert : CertificateToDeploy) :
    Except Fault CertificateInstallRecord × LocalMachine Der :=
  match tryDeploy crypto upper a machine cert with
  | (.error (.operation humanMessage), machine) =>
    (.ok (cert.record .failed false humanMessage), machine)
  | outcome => outcome

/-- `deploy`, with the stores it leaves. -/
def deploy (machine : LocalMachine Der) : List (CertificateToDeploy × DeployAnswers Der) →
    Except Fault (List CertificateInstallRecord) × LocalMachine Der
  | [] => (.ok [], machine)
  | (cert, a) :: certs =>
    match deployOne crypto upper a machine cert with
    | (.error fault, machine) => (.error fault, machine)
    | (.ok record, machine) =>
      let (records, machine) := deploy machine certs
      (records.map (record :: ·), machine)

end InfraOps.Certificates
