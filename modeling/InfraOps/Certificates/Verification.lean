import InfraOps.Certificates.Deployer
import InfraOps.Support.Except

/-!
# What the deployer verifies

The probe looks for the SHA-256 fingerprint of the catalog among SHA-1 thumbprints, and finds
it in no store.
-/

namespace InfraOps.Certificates

variable {Der : Type} {crypto : Cryptography Der} {upper : Char → Text}
variable {row : Certificate} {cert : CertificateToDeploy} {der : Der} {machine : LocalMachine Der}

/-- What `verify_all` and `deploy` say of a certificate, wherever it stands in their lists. -/
structure Faithful (crypto : Cryptography Der) (upper : Char → Text) (machine : LocalMachine Der)
    (cert : CertificateToDeploy) (der : Der) : Prop where
  verifies : ∀ (certs : List (CertificateToDeploy × ProbeAnswer)) (i : Nat) answer records
    (record : CertificateInstallRecord), certs[i]? = some (cert, answer) →
    verifyAll crypto upper machine certs = .ok records → records[i]? = some record →
    (record.verified = true ↔ der ∈ machine cert.store)
  skips : ∀ (certs : List (CertificateToDeploy × DeployAnswers Der)) (i : Nat) a records
    (record : CertificateInstallRecord), certs[i]? = some (cert, a) →
    (deploy crypto upper machine certs).1 = .ok records → records[i]? = some record →
    record.action = .alreadyPresent →
    der ∈ (deploy crypto upper machine (certs.take i)).2 cert.store

/-! ## Fingerprints -/

/-- A thumbprint has 40 digits. -/
theorem output_absent {script : PresenceScript} (h : script.thumbprint.length = 64) :
    script.output crypto machine = "ABSENT\r\n".toList := by
  have hnone : (machine script.store).any (fun der =>
      Hex.sameIgnoringCase (guestThumbprint crypto der) script.thumbprint) = false := by
    rw [List.any_eq_false]
    intro der _ hsame
    have hlength := Hex.length_eq_of_sameIgnoringCase hsame
    rw [guestThumbprint, List.length_map, Hex.length_hexlify, Vector.length_toList, h] at hlength
    omega
  rw [PresenceScript.output, hnone]
  rfl

theorem fingerprint_of_inCatalog (h : InCatalog crypto upper row der) :
    row.fingerprintSha256 = fingerprint crypto upper der := by
  induction h with
  | updated _ payload ih => exact ih
  | @registered packages rows payload row der hpem h =>
    rw [registerCertificate, hpem] at h
    split at h
    · cases h
    · simp only at h
      split at h
      · cases h
      · cases h
        rfl

section upper

variable (hupper : ∀ c, c.toNat < 128 → upper c = [c.toUpper])

include hupper

theorem flatMap_upper {text : Text} (h : ∀ c ∈ text, c.toNat < 128) :
    text.flatMap upper = text.map Char.toUpper := by
  induction text with
  | nil => rfl
  | cons c cs ih =>
    rw [List.flatMap_cons, hupper c (h c List.mem_cons_self),
      ih fun d hd => h d (List.mem_cons_of_mem _ hd)]
    rfl

theorem fingerprint_eq (der : Der) :
    fingerprint crypto upper der = (Hex.hexlify (crypto.sha256 der).toList).map Char.toUpper :=
  flatMap_upper hupper (Hex.forall_mem_hexlify (by simp) _)

theorem length_fingerprint (der : Der) : (fingerprint crypto upper der).length = 64 := by
  rw [fingerprint_eq hupper, List.length_map, Hex.length_hexlify, Vector.length_toList]

theorem forall_mem_fingerprint {p : Char → Prop}
    (h : ∀ c ∈ "0123456789abcdef".toList, p c.toUpper) (der : Der) :
    ∀ c ∈ fingerprint crypto upper der, p c := by
  rw [fingerprint_eq hupper]
  intro c hc
  obtain ⟨d, hd, rfl⟩ := List.mem_map.mp hc
  exact Hex.forall_mem_hexlify (p := fun c => p c.toUpper) h _ d hd

/-- The probe of a catalog certificate is built, with 64 digits in it. -/
theorem buildPresenceScript_fingerprint (kind : CertificateType) (der : Der) :
    ∃ script, buildPresenceScript upper (storeForType kind).value
        (fingerprint crypto upper der) = .ok script ∧ script.thumbprint.length = 64 := by
  have hpattern : thumbprintPattern (fingerprint crypto upper der) = true := by
    rw [thumbprintPattern, length_fingerprint hupper]
    simp only [Nat.reduceLeDiff, decide_true, Bool.true_and, List.all_eq_true]
    exact forall_mem_fingerprint hupper (p := fun c => Hex.isDigit c = true)
      (by simp [Hex.isDigit]) der
  have hstore : [CertificateStore.root.value, CertificateStore.ca.value].contains
      (storeForType kind).value = true := by
    cases kind <;> decide
  refine ⟨⟨(storeForType kind).value, (fingerprint crypto upper der).flatMap upper⟩, ?_, ?_⟩
  · rw [buildPresenceScript, hpattern, hstore]
    rfl
  · rw [flatMap_upper hupper (forall_mem_fingerprint hupper (by simp) der), List.length_map,
      length_fingerprint hupper]

theorem parse_absent : parsePresenceOutput upper "ABSENT\r\n".toList = false := by
  have hascii : ∀ c ∈ "ABSENT\r\n".toList, c.toNat < 128 := by simp
  refine decide_eq_false fun hinfix => ?_
  rw [flatMap_upper hupper hascii] at hinfix
  have hmem : 'P' ∈ "ABSENT\r\n".toList.map Char.toUpper := hinfix.subset (by simp)
  exact absurd hmem (by decide)

theorem probe_runs (kind : CertificateType) (der : Der) (machine : LocalMachine Der) :
    probePresence crypto upper .runs machine (storeForType kind).value
      (fingerprint crypto upper der) = .ok false := by
  obtain ⟨script, hscript, hlength⟩ := buildPresenceScript_fingerprint hupper kind der
  rw [probePresence, hscript]
  change Except.ok (parsePresenceOutput upper (script.output crypto machine)) = _
  rw [output_absent hlength, parse_absent hupper]

/-- However a probe goes, it finds nothing. -/
theorem probe_ne_true (kind : CertificateType) (der : Der) (answer : ProbeAnswer)
    (machine : LocalMachine Der) :
    probePresence crypto upper answer machine (storeForType kind).value
      (fingerprint crypto upper der) ≠ .ok true := by
  cases answer with
  | runs => simp [probe_runs hupper]
  | raises fault =>
    obtain ⟨script, hscript, -⟩ := buildPresenceScript_fingerprint hupper kind der
    rw [probePresence, hscript]
    exact nofun
  | fails =>
    obtain ⟨script, hscript, -⟩ := buildPresenceScript_fingerprint hupper kind der
    rw [probePresence, hscript]
    exact nofun

/-- No probe finds a certificate of the catalog. -/
theorem probe_loaded (h : Loaded crypto upper cert der) (answer : ProbeAnswer)
    (machine : LocalMachine Der) :
    probePresence crypto upper answer machine cert.store cert.thumbprint ≠ .ok true := by
  obtain ⟨hrow, -⟩ := h
  rw [CertificateToDeploy.store, Certificate.toDeploy, fingerprint_of_inCatalog hrow]
  exact probe_ne_true hupper _ _ answer machine

theorem verifyOne_loaded (h : Loaded crypto upper cert der) {answer : ProbeAnswer}
    {record : CertificateInstallRecord}
    (hok : verifyOne crypto upper machine cert answer = .ok record) : record.verified = false := by
  rw [verifyOne] at hok
  obtain ⟨present, hpresent, hrecord⟩ := bind_eq_ok.mp hok
  cases hrecord
  cases present with
  | true => exact absurd hpresent (probe_loaded hupper h answer machine)
  | false => rfl

theorem tryDeploy_loaded (h : Loaded crypto upper cert der) {a : DeployAnswers Der}
    {record : CertificateInstallRecord}
    (hok : (tryDeploy crypto upper a machine cert).1 = .ok record) :
    record.action ≠ .alreadyPresent := by
  rw [tryDeploy] at hok
  split at hok
  · cases hok
    exact nofun
  · split at hok
    · cases hok
    · next hprobe => exact absurd hprobe (probe_loaded hupper h a.before machine)
    · -- the installation is not skipped
      split at hok
      · cases hok
      · split at hok
        · cases hok
        · cases hok
        · split at hok
          · cases hok
          · cases hok
            exact nofun

theorem deployOne_loaded (h : Loaded crypto upper cert der) {a : DeployAnswers Der}
    {record : CertificateInstallRecord}
    (hok : (deployOne crypto upper a machine cert).1 = .ok record) :
    record.action ≠ .alreadyPresent := by
  rw [deployOne] at hok
  split at hok
  · cases hok
    exact nofun
  · next hother => exact tryDeploy_loaded hupper h hok

end upper

/-! ## Lists -/

theorem verifyAll_getElem {certs : List (CertificateToDeploy × ProbeAnswer)} {i : Nat}
    {answer : ProbeAnswer} {records : List CertificateInstallRecord}
    {record : CertificateInstallRecord} (hcert : certs[i]? = some (cert, answer))
    (hall : verifyAll crypto upper machine certs = .ok records)
    (hrecord : records[i]? = some record) :
    verifyOne crypto upper machine cert answer = .ok record := by
  induction certs generalizing i records with
  | nil => simp at hcert
  | cons head certs ih =>
    obtain ⟨first, firstAnswer⟩ := head
    rw [verifyAll] at hall
    obtain ⟨firstRecord, hfirst, hall⟩ := bind_eq_ok.mp hall
    obtain ⟨rest, hrest, hall⟩ := bind_eq_ok.mp hall
    cases hall
    cases i with
    | zero =>
      cases hcert
      cases hrecord
      exact hfirst
    | succ i => exact ih hcert hrest hrecord

theorem deploy_getElem {certs : List (CertificateToDeploy × DeployAnswers Der)} {i : Nat}
    {a : DeployAnswers Der} {records : List CertificateInstallRecord}
    {record : CertificateInstallRecord} (hcert : certs[i]? = some (cert, a))
    (hall : (deploy crypto upper machine certs).1 = .ok records)
    (hrecord : records[i]? = some record) :
    (deployOne crypto upper a (deploy crypto upper machine (certs.take i)).2 cert).1 =
      .ok record := by
  induction certs generalizing i machine records with
  | nil => simp at hcert
  | cons head certs ih =>
    obtain ⟨first, firstAnswers⟩ := head
    rw [deploy] at hall
    cases hone : deployOne crypto upper firstAnswers machine first with
    | mk outcome machine' =>
      rw [hone] at hall
      cases outcome with
      | error fault => cases hall
      | ok firstRecord =>
        obtain ⟨rest, hrest, rfl⟩ := map_eq_ok.mp hall
        cases i with
        | zero =>
          cases hcert
          cases hrecord
          exact congrArg Prod.fst hone
        | succ i =>
          have htail := ih hcert hrest hrecord
          rw [List.take_succ_cons, deploy, hone]
          exact htail

/-- A certificate that is probed for is reported missing. -/
theorem verifyAll_loaded (hupper : ∀ c, c.toNat < 128 → upper c = [c.toUpper])
    (h : Loaded crypto upper cert der) (machine : LocalMachine Der) :
    verifyAll crypto upper machine [(cert, .runs)] =
      .ok [cert.record .failed false "Thumbprint not found after installation.".toList] := by
  have hprobe : probePresence crypto upper .runs machine cert.store cert.thumbprint =
      .ok false := by
    obtain ⟨hrow, -⟩ := h
    rw [CertificateToDeploy.store, Certificate.toDeploy, fingerprint_of_inCatalog hrow]
    exact probe_runs hupper _ _ machine
  rw [verifyAll, verifyOne, hprobe]
  rfl

/-- Verification is right about a certificate of the catalog exactly when the store does not
hold it; its installation is never skipped. -/
theorem faithful_iff_not_installed (hupper : ∀ c, c.toNat < 128 → upper c = [c.toUpper])
    (h : Loaded crypto upper cert der) (machine : LocalMachine Der) :
    Faithful crypto upper machine cert der ↔ der ∉ machine cert.store := by
  constructor
  · intro hfaithful hmem
    have hall := verifyAll_loaded hupper h machine
    have hverified := (hfaithful.verifies _ 0 _ _ _ rfl hall rfl).mpr hmem
    cases hverified
  · intro hnot
    exact {
      verifies := fun certs i answer records record hcert hall hrecord => by
        have hfalse := verifyOne_loaded hupper h (verifyAll_getElem hcert hall hrecord)
        rw [hfalse]
        exact iff_of_false Bool.false_ne_true hnot
      skips := fun certs i a records record hcert hall hrecord hskip =>
        absurd hskip (deployOne_loaded hupper h (deploy_getElem hcert hall hrecord)) }

/-! ## A root certificate -/

/-- Certificates are numbers, and their digests repeat one byte. -/
def numbered : Cryptography UInt8 where
  loadPem pem := if pem = "-----BEGIN CERTIFICATE-----".toList then .ok 7 else .error "no PEM"
  notAfter _ := none
  sha1 der := Vector.replicate 20 der
  sha256 der := Vector.replicate 32 der

def asciiUpper (c : Char) : Text := [c.toUpper]

def contosoRoot : CertificateToDeploy where
  friendlyName := "Contoso Root".toList
  certificateType := .root
  thumbprint := fingerprint numbered asciiUpper 7
  pemBody := "-----BEGIN CERTIFICATE-----".toList

def contosoRow : Certificate where
  packageId := "trust".toList
  friendlyName := "Contoso Root".toList
  certificateType := .root
  fingerprintSha256 := fingerprint numbered asciiUpper 7
  notAfter := none
  pemBody := "-----BEGIN CERTIFICATE-----".toList
  enabled := true

theorem loaded_contosoRoot : Loaded numbered asciiUpper contosoRoot 7 := by
  have hregister : registerCertificate numbered asciiUpper ["trust".toList] []
      { packageId := "trust".toList, friendlyName := "Contoso Root".toList,
        certificateType := .root, pemBody := "-----BEGIN CERTIFICATE-----".toList } =
      .ok contosoRow := by
    rfl
  have hrow : InCatalog numbered asciiUpper contosoRow 7 := .registered rfl hregister
  have hload : contosoRow.toDeploy ∈ loadCertificates (fun _ _ => true) ["trust".toList]
      ["trust".toList] .root [contosoRow] := by
    refine List.mem_map.mpr ⟨contosoRow, List.mem_mergeSort.mpr ?_, rfl⟩
    exact List.mem_filter.mpr ⟨List.mem_singleton_self _, by decide⟩
  exact .loaded hrow hload

theorem faithful_iff_not_installed_contoso :
    Faithful numbered asciiUpper (fun _ => []) contosoRoot 7 :=
  (faithful_iff_not_installed (fun _ _ => rfl) loaded_contosoRoot _).mpr List.not_mem_nil

/-- The root is in the store, and is reported missing. -/
theorem contosoRoot_reported_missing :
    Loaded numbered asciiUpper contosoRoot 7 ∧
      ¬Faithful numbered asciiUpper (fun _ => [7]) contosoRoot 7 := by
  refine ⟨loaded_contosoRoot, fun hfaithful => ?_⟩
  have hall := verifyAll_loaded (fun _ _ => rfl) loaded_contosoRoot (fun _ => [7])
  have hverified := (hfaithful.verifies _ 0 _ _ _ rfl hall rfl).mpr (List.mem_singleton_self 7)
  cases hverified

end InfraOps.Certificates
