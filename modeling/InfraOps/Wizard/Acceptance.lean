import InfraOps.Schemas.AddressRules
import InfraOps.Wizard.SentRequest

/-!
# What the server adds to the wizard's checks

Every body that the wizard posts is one that each of its steps has accepted. The server reads
and validates it again; `ServerRules` are the rules that only the server has, and the two
checks together are exact.
-/

namespace InfraOps.Wizard

open Schemas (Platform submissionValidate lengthBetween nullableLength between)

/-! ## The rules of the steps -/

structure ConfigurationRules (data : WizardData) : Prop where
  vmName : Schemas.vmName data.vmName
  vmNameLength : 2 ≤ data.vmName.length
  cpu : ∃ k, 1 ≤ k ∧ k ≤ 256 ∧ data.cpu = .ofNat k
  memory : ∃ k, 1 ≤ k ∧ k ≤ 8192 ∧ data.memoryGb = .ofNat k
  diskCount : 1 ≤ data.disks.length ∧ data.disks.length ≤ 8
  disks : ∀ disk ∈ data.disks, ∃ k, 1 ≤ k ∧ k ≤ 8000 ∧ disk.sizeGb = .ofNat k
  image : ∃ k, (k = 2 ∨ k = 4) ∧ data.windowsImageIndex = .ofNat k
  hostname : isWindowsComputerName (textOr (some data.hostname) data.vmName)

theorem jsLength_ascii {cs : List Char} (h : ∀ c ∈ cs, c.toNat < 128) :
    jsLength cs = cs.length := by
  have hone : ∀ c ∈ cs, (if c.toNat < 0x10000 then 1 else 2) = 1 := by
    intro c hc
    have hc := h c hc
    rw [if_pos (by omega)]
  rw [jsLength, List.map_congr_left hone]
  simp

theorem isNaN_ofNat {k : Nat} (h : k < 2 ^ 53) : (JsNumber.ofNat k).isNaN = false := by
  rw [JsNumber.ofNat_eq h]
  rfl

theorem configuration_rules {data : WizardData} (h : configurationIssues data = []) :
    ConfigurationRules data := by
  obtain ⟨hfields, hrefined⟩ := List.append_eq_nil_iff.mp h
  simp only [configurationFields, List.append_eq_nil_iff, issue_eq_nil, Bool.not_eq_false',
    decide_eq_false_iff_not, not_lt] at hfields
  obtain ⟨⟨⟨⟨⟨⟨⟨⟨⟨⟨hshort, -⟩, hname⟩, hcpu⟩, hmemory⟩, hsome⟩, hmany⟩, hdisks⟩, -⟩, -⟩, himage⟩ :=
    hfields
  rw [jsLength_ascii (Schemas.toNat_of_vmName hname)] at hshort
  have hcpu := integerIssues_eq_nil (by decide) (by decide) hcpu
  have hmemory := integerIssues_eq_nil (by decide) (by decide) hmemory
  have hsizes : ∀ disk ∈ data.disks, ∃ k, 1 ≤ k ∧ k ≤ 8000 ∧ disk.sizeGb = .ofNat k := by
    intro disk hdisk
    obtain ⟨index, hindex, rfl⟩ := List.mem_iff_getElem.mp hdisk
    have hmem : (data.disks[index], index) ∈ data.disks.zipIdx :=
      List.mem_zipIdx_iff_getElem?.mpr (List.getElem?_eq_getElem hindex)
    exact integerIssues_eq_nil (by decide) (by decide) (List.flatMap_eq_nil_iff.mp hdisks _ hmem)
  have himage : ∃ k, (k = 2 ∨ k = 4) ∧ data.windowsImageIndex = .ofNat k := by
    split at himage
    · cases himage
    · rw [issue_eq_nil, Bool.not_eq_false'] at himage
      exact eq_ofNat_of_edition himage
  have htyped : configurationTyped data = true := by
    obtain ⟨cpu, -, hmostCpu, hcpu⟩ := hcpu
    obtain ⟨memory, -, hmostMemory, hmemory⟩ := hmemory
    obtain ⟨image, hedition, himage⟩ := himage
    have hdisk : ∀ disk ∈ data.disks, disk.sizeGb.isNaN = false := by
      intro disk hdisk
      obtain ⟨size, -, hmost, hsize⟩ := hsizes disk hdisk
      rw [hsize, isNaN_ofNat (by omega)]
    rw [configurationTyped, hcpu, hmemory, himage, isNaN_ofNat (by omega), isNaN_ofNat (by omega),
      isNaN_ofNat (by omega)]
    simpa using hdisk
  rw [if_pos htyped, List.append_eq_nil_iff, issue_eq_nil, issue_eq_nil] at hrefined
  exact {
    vmName := hname
    vmNameLength := hshort
    cpu := hcpu
    memory := hmemory
    diskCount := ⟨by omega, hmany⟩
    disks := hsizes
    image := himage
    hostname := by simpa using hrefined.2 }

theorem vmName_of_windowsComputerName {name : List Char} (h : Schemas.windowsComputerName name) :
    Schemas.vmName name := by
  simp only [Schemas.windowsComputerName, Schemas.vmName, Schemas.nameOf, Bool.and_eq_true,
    List.all_eq_true, Bool.or_eq_true, decide_eq_true_eq] at h ⊢
  exact ⟨⟨⟨h.1.1.1, fun c hc => (h.1.1.2 c hc).imp_right .inl⟩, h.1.2⟩, h.2⟩

structure DirectoryRules (b : Browser) (data : WizardData) : Prop where
  vmName : isWindowsComputerName data.vmName
  domain : Schemas.dnsDomain (sentDomain b data)
  labels : ∀ label ∈ (sentDomain b data).splitOn '.', label.length ≤ 63
  fqdn : data.vmName.length + 1 + (sentDomain b data).length ≤ 253
  credential : 2 ≤ jsLength data.domainJoin.credentialSecretRef

theorem directory_rules {b : Browser} {data : WizardData} (h : directoryIssues b data = [])
    (henabled : data.domainJoin.enabled = true) : DirectoryRules b data := by
  have hdomain := dnsDomain_sentDomain b
    (dnsDomainRegex_of_validateDirectory b (congrArg firstMessages h) henabled)
  have hascii := Schemas.toNat_of_dnsDomain hdomain
  rw [directoryIssues, if_pos henabled, validateDomainIdentity] at h
  simp only [List.append_eq_nil_iff, issue_eq_nil, Bool.not_eq_false', decide_eq_false_iff_not,
    not_lt, List.any_eq_false, decide_eq_true_eq] at h
  obtain ⟨⟨hname, ⟨-, hlabels⟩, hfqdn⟩, hcredential⟩ := h
  have hvmName : ∀ c ∈ data.vmName, c.toNat < 128 := by
    rw [isWindowsComputerName, Bool.and_eq_true] at hname
    exact Schemas.toNat_of_vmName (vmName_of_windowsComputerName hname.1)
  exact {
    vmName := hname
    domain := hdomain
    labels := by
      intro label hlabel
      rw [← jsLength_ascii fun c hc => hascii c (mem_of_mem_piece hlabel hc)]
      exact hlabels label hlabel
    fqdn := by
      rw [← sentDomain, jsLength_ascii] at hfqdn
      · simpa [Nat.add_assoc, Nat.add_comm] using hfqdn
      · intro c hc
        rcases List.mem_append.mp hc with hc | hc
        · exact hvmName c hc
        · rcases List.mem_cons.mp hc with rfl | hc
          · decide
          · exact hascii c hc
    credential := hcredential }

structure StaticRules (data : WizardData) : Prop where
  address : ∃ ip : Ipv4Address, jsTrim data.ipAddress = ip.text
  gateway : ∃ ip : Ipv4Address, jsTrim data.gateway = ip.text
  prefixLength : ∃ length, 8 ≤ length ∧ length ≤ 32 ∧ resolvePrefix data.prefixInput = .ofNat length
  servers : ∀ server ∈ collectDns data, ∃ ip : Ipv4Address, server = ip.text

theorem static_rules {data : WizardData} (h : networkIssues data = [])
    (hmode : data.ipMode = .static) : StaticRules data := by
  obtain ⟨-, h⟩ := List.append_eq_nil_iff.mp h
  rw [if_pos hmode] at h
  simp only [staticIssues, ipv4Issues, List.append_eq_nil_iff, issue_eq_nil, Bool.not_eq_false',
    List.all_eq_true, Bool.or_eq_true, decide_eq_true_eq] at h
  obtain ⟨⟨⟨⟨⟨haddress, hprefix⟩, hgateway⟩, hprimary⟩, hsecondary⟩, hextra⟩ := h
  obtain ⟨length, hlength⟩ := Option.isSome_iff_exists.mp (by simpa using hprefix)
  exact {
    address := eq_text_of_regex haddress
    gateway := eq_text_of_regex hgateway
    prefixLength := by
      rw [resolvePrefix, hlength, Option.getD_some]
      exact eq_ofNat_of_prefix hlength
    servers := by
      intro server hserver
      obtain ⟨hmem, hne⟩ := List.mem_filter.mp hserver
      have hne : server ≠ [] := by simpa using hne
      simp only [List.map_cons, List.mem_cons] at hmem
      rcases hmem with rfl | rfl | hmem
      · exact eq_text_of_regex hprimary
      · exact eq_text_of_regex (hsecondary.resolve_left hne)
      · exact eq_text_of_regex (hextra server (List.mem_filter.mpr ⟨hmem, by simpa using hne⟩)) }

/-! ## The rules of the server -/

/-- A reference to a stored secret. -/
def Reference (reference : List Char) : Prop :=
  reference.length ≤ 150 ∧ Schemas.secretReference reference

/-- What the server requires of a draft that every step accepts. -/
structure ServerRules (b : Browser) (p : Platform) (data : WizardData) : Prop where
  vcenter : ∃ id, p.readUuid4 (.text data.vcenterId) = .ok id
  packages : ∀ package ∈ data.certificatePackageIds, ∃ id, p.readUuid4 (.text package) = .ok id
  packageCount : data.certificatePackageIds.length ≤ 20
  applications : ∀ app ∈ data.applicationIds, ∃ id, p.readUuid4 (.text app) = .ok id
  applicationCount : data.applicationIds.length ≤ 50
  description : data.description.length ≤ 500
  datacenter : data.datacenterId.length ≤ 120
  cluster : data.clusterId.length ≤ 120
  host : ∀ host ∈ (buildRequest b data).compute.hostId, host.length ≤ 120
  pool : ∀ pool ∈ data.resourcePoolId, pool.length ≤ 120
  datastores : ∀ disk ∈ (buildRequest b data).hardware.disks, ∀ store ∈ disk.datastoreId,
    store.length ≤ 120
  iso : data.isoId.length ≤ 2048
  timezone : data.timezone.length ≤ 100
  locale : 2 ≤ data.installationLocale.length ∧ data.installationLocale.length ≤ 35
  keyboard : 2 ≤ data.inputLocale.length ∧ data.inputLocale.length ≤ 100
  credential : Reference data.guestCredentialSecretRef
  productKey : data.productKeySecretRef ≠ [] →
    2 ≤ data.productKeySecretRef.length ∧ Reference data.productKeySecretRef
  join : data.domainJoin.enabled → data.domainJoin.ou.length ≤ 400 ∧
    Reference data.domainJoin.credentialSecretRef
  network : data.networkId.length ≤ 120
  subnet : data.ipMode = .static → ∀ address gateway : Ipv4Address,
    jsTrim data.ipAddress = address.text → jsTrim data.gateway = gateway.text →
      Schemas.SubnetRules (wholeNumber (resolvePrefix data.prefixInput)) address gateway
  servers : data.ipMode = .static → (collectDns data).length ≤ 8 ∧ (collectDns data).Nodup

/-! ## The models of a request -/

section

variable {b : Browser} {p : Platform} {data : WizardData}

@[simp] theorem nullableLength_eq_ok {least most : Nat} {text : Option (List Char)} :
    nullableLength least most text = .ok () ↔
      ∀ cs ∈ text, least ≤ cs.length ∧ cs.length ≤ most := by
  cases text with
  | none => simp [nullableLength]
  | some cs => simp [nullableLength]

theorem check_vm (h : ConfigurationRules data) :
    Schemas.VmSpec.check { name := data.vmName, description := data.description } = .ok () ↔
      data.description.length ≤ 500 := by
  have hlength : data.vmName.length ≤ 64 := (Schemas.length_of_nameOf h.vmName).trans (by decide)
  simp [Schemas.VmSpec.check, unit_bind_eq_ok, h.vmName, h.vmNameLength, hlength]

theorem forM_eq_ok {f : Schemas.DiskSpec → Except String Unit} {disks : List Schemas.DiskSpec} :
    disks.forM f = .ok () ↔ ∀ disk ∈ disks, f disk = .ok () := by
  induction disks with
  | nil => simp [pure, Except.pure]
  | cons disk disks ih =>
    show (f disk >>= fun _ => disks.forM f) = .ok () ↔ _
    rw [unit_bind_eq_ok, ih, List.forall_mem_cons]

theorem check_hardware (h : ConfigurationRules data) :
    ((buildRequest b data).hardware.asRead).check = .ok () ↔
      ∀ disk ∈ (buildRequest b data).hardware.disks, ∀ store ∈ disk.datastoreId,
        store.length ≤ 120 := by
  obtain ⟨cpu, hcpuMin, hcpuMax, hcpu⟩ := h.cpu
  obtain ⟨memory, hmemoryMin, hmemoryMax, hmemory⟩ := h.memory
  have hcpuRead : (buildRequest b data).hardware.asRead.cpu = cpu := by
    show wholeNumber data.cpu = cpu
    rw [hcpu, wholeNumber_ofNat (by omega)]
  have hmemoryRead : (buildRequest b data).hardware.asRead.memoryMb = (memory * 1024 : Nat) := by
    show wholeNumber (data.memoryGb.timesNat 1024) = _
    rw [hmemory, timesNat_ofNat (by omega), wholeNumber_ofNat (by omega)]
  have hcount : (buildRequest b data).hardware.asRead.disks.length = data.disks.length := by
    simp [HardwareSpec.asRead, buildRequest]
  have hboot : (!((buildRequest b data).hardware.asRead.secureBoot &&
      (buildRequest b data).hardware.asRead.firmware ≠ .efi)) = true := by
    show (!((data.secureBoot && data.firmware = .efi) && data.firmware ≠ .efi)) = true
    cases data.firmware <;> simp
  have hdisks : ((buildRequest b data).hardware.asRead.disks.forM Schemas.DiskSpec.check = .ok ()) ↔
      ∀ disk ∈ (buildRequest b data).hardware.disks, ∀ store ∈ disk.datastoreId,
        store.length ≤ 120 := by
    rw [forM_eq_ok, HardwareSpec.asRead, List.forall_mem_map]
    refine forall₂_congr fun disk hdisk => ?_
    obtain ⟨draft, hdraft, rfl⟩ := List.mem_map.mp hdisk
    obtain ⟨size, hmin, hmax, hsize⟩ := h.disks draft hdraft
    have hread : wholeNumber draft.sizeGb = size := by rw [hsize, wholeNumber_ofNat (by omega)]
    have hbetween : between 1 8000 (wholeNumber draft.sizeGb) = .ok () := by
      rw [hread, Schemas.between_eq_ok]
      omega
    simp [Schemas.DiskSpec.check, DiskSpec.asRead, hbetween]
  have hcpuRange : (1 : Int) ≤ cpu ∧ (cpu : Int) ≤ 256 := by omega
  have hmemoryRange : (512 : Int) ≤ (memory * 1024 : Nat) ∧
      ((memory * 1024 : Nat) : Int) ≤ 8388608 := by
    omega
  simp only [Schemas.HardwareSpec.check, unit_bind_eq_ok, hdisks, Schemas.require_eq_ok, hboot,
    hcpuRead, hmemoryRead, hcount, Schemas.between_eq_ok, Schemas.lengthBetween_eq_ok, h.diskCount]
  exact ⟨fun hall => hall.2.2.2.1,
    fun hall => ⟨hcpuRange, hmemoryRange, ⟨trivial, trivial⟩, hall, trivial⟩⟩

/-! ## Guests and identities -/

/-- The name that Windows gets is the one that the wizard checked. -/
theorem computerName_of_draft (hconfig : ConfigurationRules data)
    (hdirectory : data.domainJoin.enabled = true → DirectoryRules b data) :
    ∃ name, isWindowsComputerName name ∧
      (buildRequest b data).guest.hostname = name.map Char.toUpper ∧
      (data.domainJoin.enabled = true → name = data.vmName) := by
  have hascii {name : List Char} (h : isWindowsComputerName name) :
      b.toUpperCase name = name.map Char.toUpper := by
    rw [isWindowsComputerName, Bool.and_eq_true] at h
    exact Browser.toUpperCase_ascii
      (Schemas.toNat_of_vmName (vmName_of_windowsComputerName h.1))
  have hbuilt : (buildRequest b data).guest.hostname = b.toUpperCase
      (if domainOrEmpty b (joinedDomain data) ≠ [] then data.vmName
        else textOr (some data.hostname) data.vmName) := rfl
  cases henabled : data.domainJoin.enabled with
  | true =>
    have hrules := hdirectory henabled
    have hjoined : domainOrEmpty b (joinedDomain data) = sentDomain b data := by
      rw [joinedDomain, if_pos henabled, domainOrEmpty_some, sentDomain]
    rw [hjoined, if_pos (Schemas.ne_nil_of_dnsDomain hrules.domain)] at hbuilt
    exact ⟨data.vmName, hrules.vmName, hbuilt.trans (hascii hrules.vmName), fun _ => rfl⟩
  | false =>
    have hjoined : domainOrEmpty b (joinedDomain data) = [] := by
      simp [joinedDomain, henabled, domainOrEmpty]
    rw [hjoined, if_neg (not_not.mpr rfl)] at hbuilt
    exact ⟨_, hconfig.hostname, hbuilt.trans (hascii hconfig.hostname),
      fun h => absurd h Bool.false_ne_true⟩

theorem checkHostname_of_draft {name : List Char} (h : isWindowsComputerName name) :
    Schemas.checkHostname (some (name.map Char.toUpper)) = .ok () := by
  rw [isWindowsComputerName, Bool.and_eq_true] at h
  have hname := vmName_of_windowsComputerName h.1
  have hlength := Schemas.length_of_nameOf hname
  rw [Schemas.checkHostname_some, Schemas.vmName_toUpper, List.length_map]
  exact ⟨hlength.trans (by decide), hname⟩

theorem two_le_of_secretReference {reference : List Char} (hlong : 2 ≤ jsLength reference)
    (h : Schemas.secretReference reference) : 2 ≤ reference.length := by
  have hascii : ∀ c ∈ reference, c.toNat < 128 := by
    intro c hc
    have hpiece : c = '/' ∨ ∃ segment ∈ reference.splitOn '/', c ∈ segment := mem_piece_of_mem hc
    rcases hpiece with rfl | ⟨segment, hsegment, hc⟩
    · decide
    · have hall := List.all_eq_true.mp h segment hsegment
      simp only [Bool.and_eq_true, List.all_eq_true, Bool.or_eq_true, decide_eq_true_eq,
        List.mem_cons, List.not_mem_nil, or_false] at hall
      rcases hall.2 c hc with hc | rfl | rfl | rfl
      · exact Schemas.toNat_of_lowerOrDigit hc
      · decide
      · decide
      · decide
  rwa [jsLength_ascii hascii] at hlong

theorem forall_mem_textOrNone {cs : List Char} {q : List Char → Prop} :
    (∀ text ∈ textOrNone cs, q text) ↔ (cs ≠ [] → q cs) := by
  unfold textOrNone
  split
  · rename_i hempty
    simp [hempty]
  · rename_i hne
    simp [hne]

theorem length_textOrNone (cs : List Char) {most : Nat} :
    nullableLength 0 most (textOrNone cs) = .ok () ↔ cs.length ≤ most := by
  rw [nullableLength_eq_ok, forall_mem_textOrNone]
  cases cs with
  | nil => simp
  | cons c cs => simp

theorem three_le_of_dnsDomain {domain : List Char} (h : Schemas.dnsDomain domain) :
    3 ≤ domain.length := by
  match domain, h with
  | [], h => cases h
  | [c], h =>
    by_cases hc : c = '.'
    · subst hc
      cases h
    · simp [Schemas.dnsDomain, List.splitOn_cons_eq_if_modifyHead, hc] at h
  | [c, d], h =>
    by_cases hc : c = '.'
    · by_cases hd : d = '.'
      · simp [Schemas.dnsDomain, List.splitOn_cons_eq_if_modifyHead, hc, hd] at h
      · simp [Schemas.dnsDomain, List.splitOn_cons_eq_if_modifyHead, hc, hd] at h
    · by_cases hd : d = '.'
      · simp [Schemas.dnsDomain, List.splitOn_cons_eq_if_modifyHead, hc, hd] at h
      · simp [Schemas.dnsDomain, List.splitOn_cons_eq_if_modifyHead, hc, hd] at h
  | _ :: _ :: _ :: _, _ => simp

variable (b data) in
/-- What is read of the domain that a draft joins. -/
def sentJoin : Schemas.DomainJoinSpec where
  domain := sentDomain b data
  ou := textOrNone data.domainJoin.ou
  credentialSecretRef := data.domainJoin.credentialSecretRef

theorem domainJoin_asRead : (buildRequest b data).guest.asRead.domainJoin =
    if data.domainJoin.enabled then some (sentJoin b data) else none := by
  simp only [GuestSpec.asRead, buildRequest]
  split
  · rfl
  · rfl

theorem validate_join (h : DirectoryRules b data) {join : Schemas.DomainJoinSpec} :
    (sentJoin b data).validate p = .ok join ↔
      (data.domainJoin.ou.length ≤ 400 ∧ 2 ≤ data.domainJoin.credentialSecretRef.length ∧
        data.domainJoin.credentialSecretRef.length ≤ 150) ∧ join = sentJoin b data := by
  have hfqdn := h.fqdn
  have hlong : (sentDomain b data).length ≤ 255 := by omega
  have hkept : { sentJoin b data with
      domain := Schemas.normalizeDomain p (sentJoin b data).domain } = sentJoin b data := by
    rw [sentJoin, Schemas.normalizeDomain_of_dnsDomain p h.domain]
  rw [Schemas.DomainJoinSpec.validate, hkept, unit_bind_eq_ok]
  refine and_congr ?_ (by simp [pure, Except.pure, eq_comm])
  simp only [sentJoin, unit_bind_eq_ok, Schemas.DomainJoinSpec.check, Schemas.lengthBetween_eq_ok,
    Schemas.require_eq_ok, h.domain, length_textOrNone, three_le_of_dnsDomain h.domain, hlong,
    true_and]

theorem check_guest (h : ConfigurationRules data) (hmedia : data.isoId ≠ []) :
    (buildRequest b data).guest.asRead.check = .ok () ↔
      data.isoId.length ≤ 2048 ∧ data.timezone.length ≤ 100 ∧
        (2 ≤ data.installationLocale.length ∧ data.installationLocale.length ≤ 35) ∧
        (2 ≤ data.inputLocale.length ∧ data.inputLocale.length ≤ 100) ∧
        (2 ≤ data.guestCredentialSecretRef.length ∧ data.guestCredentialSecretRef.length ≤ 150) ∧
        (data.productKeySecretRef ≠ [] →
          2 ≤ data.productKeySecretRef.length ∧ Reference data.productKeySecretRef) := by
  obtain ⟨index, hindex, himage⟩ := h.image
  have hiso : 1 ≤ data.isoId.length := List.length_pos_iff.mpr hmedia
  have hread : (buildRequest b data).guest.asRead.windowsImageIndex = index := by
    show wholeNumber data.windowsImageIndex = index
    rw [himage, wholeNumber_ofNat (by omega)]
  have hrange : (1 : Int) ≤ index ∧ (index : Int) ≤ 99 := by omega
  have hkey : (nullableLength 2 150 (textOrNone data.productKeySecretRef) = .ok () ∧
      (textOrNone data.productKeySecretRef).all Schemas.secretReference = true) ↔
      (data.productKeySecretRef ≠ [] →
        2 ≤ data.productKeySecretRef.length ∧ Reference data.productKeySecretRef) := by
    rw [nullableLength_eq_ok, forall_mem_textOrNone]
    unfold textOrNone Reference
    split
    · rename_i hempty
      simp [hempty]
    · rename_i hne
      simp [hne, and_assoc]
  rw [Schemas.GuestSpec.check]
  simp only [unit_bind_eq_ok, hread, Schemas.between_eq_ok, hrange, Schemas.lengthBetween_eq_ok,
    Schemas.require_eq_ok]
  rw [← hkey, ← length_textOrNone data.timezone]
  constructor
  · rintro ⟨⟨-, hlong⟩, htimezone, hlocale, hkeyboard, -, hcredential, hlength, hpattern⟩
    exact ⟨hlong, htimezone, hlocale, hkeyboard, hcredential, hlength, hpattern⟩
  · rintro ⟨hlong, htimezone, hlocale, hkeyboard, hcredential, hlength, hpattern⟩
    exact ⟨⟨hiso, hlong⟩, htimezone, hlocale, hkeyboard, ⟨trivial, trivial⟩, hcredential, hlength,
      hpattern⟩

/-- The guest of a draft is accepted as it is. -/
theorem validate_guest (hconfig : ConfigurationRules data)
    (hdirectory : data.domainJoin.enabled = true → DirectoryRules b data)
    {guest : Schemas.GuestSpec} :
    (buildRequest b data).guest.asRead.validate p = .ok guest ↔
      (buildRequest b data).guest.asRead.check = .ok () ∧
        (data.domainJoin.enabled = true → data.domainJoin.ou.length ≤ 400 ∧
          2 ≤ data.domainJoin.credentialSecretRef.length ∧
            data.domainJoin.credentialSecretRef.length ≤ 150) ∧
        guest = (buildRequest b data).guest.asRead := by
  obtain ⟨name, hname, hsent, -⟩ := computerName_of_draft hconfig hdirectory
  have hhost : Schemas.checkHostname (buildRequest b data).guest.asRead.hostname = .ok () := by
    show Schemas.checkHostname (some (buildRequest b data).guest.hostname) = .ok ()
    rw [hsent]
    exact checkHostname_of_draft hname
  have hjoin : (buildRequest b data).guest.asRead.domainJoin =
      if data.domainJoin.enabled then some (sentJoin b data) else none := domainJoin_asRead
  have hread : { (buildRequest b data).guest.asRead with
      domainJoin := (buildRequest b data).guest.asRead.domainJoin } =
        (buildRequest b data).guest.asRead := rfl
  rw [Schemas.GuestSpec.validate_eq_ok]
  cases henabled : data.domainJoin.enabled with
  | true =>
    rw [henabled, if_pos rfl] at hjoin
    rw [hjoin] at hread ⊢
    simp only [optionally, map_eq_ok, validate_join (hdirectory henabled)]
    constructor
    · rintro ⟨-, hcheck, _, ⟨_, ⟨hrules, rfl⟩, rfl⟩, rfl⟩
      exact ⟨hcheck, fun _ => hrules, hread⟩
    · rintro ⟨hcheck, hrules, rfl⟩
      exact ⟨hhost, hcheck, _, ⟨_, ⟨hrules trivial, rfl⟩, rfl⟩, hread.symm⟩
  | false =>
    rw [henabled, if_neg Bool.false_ne_true] at hjoin
    rw [hjoin] at hread ⊢
    constructor
    · rintro ⟨-, hcheck, _, hnone, rfl⟩
      cases hnone
      exact ⟨hcheck, fun h => absurd h Bool.false_ne_true, hread⟩
    · rintro ⟨hcheck, -, rfl⟩
      exact ⟨hhost, hcheck, none, rfl, hread.symm⟩

/-! ## Networks -/

theorem validate_ipv4 (h : StaticRules data) :
    (∃ ipv4, Schemas.Ipv4Config.validate
        { address := jsTrim data.ipAddress
          prefixLength := wholeNumber (resolvePrefix data.prefixInput)
          gateway := jsTrim data.gateway
          dnsServers := collectDns data } = .ok ipv4) ↔
      (∀ address gateway : Ipv4Address, jsTrim data.ipAddress = address.text →
        jsTrim data.gateway = gateway.text →
          Schemas.SubnetRules (wholeNumber (resolvePrefix data.prefixInput)) address gateway) ∧
        (collectDns data).length ≤ 8 ∧ (collectDns data).Nodup := by
  obtain ⟨address, haddress⟩ := h.address
  obtain ⟨gateway, hgateway⟩ := h.gateway
  obtain ⟨length, hmin, hmax, hlength⟩ := h.prefixLength
  have hread : wholeNumber (resolvePrefix data.prefixInput) = length := by
    rw [hlength, wholeNumber_ofNat (by omega)]
  obtain ⟨ips, hips⟩ : collectDns data ∈ Set.range (List.map Ipv4Address.text) := by
    rw [Set.range_list_map]
    intro server hserver
    obtain ⟨ip, hip⟩ := h.servers server hserver
    exact ⟨ip, hip.symm⟩
  have hparse (ip : Ipv4Address) : Ipv4Address.parse (pyStrip ip.text) = some ip := by
    rw [ip.pyStrip_text, ip.parse_text]
  have hservers : (ips.map Ipv4Address.text).map (fun dns => Ipv4Address.parse (pyStrip dns)) =
      ips.map some := by
    rw [List.map_map]
    exact List.map_congr_left fun ip _ => hparse ip
  have hinj : Function.Injective Ipv4Address.text := fun _ _ => Schemas.text_injective
  rw [Schemas.validate_accepts, hread, haddress, hgateway, ← hips, List.nodup_map_iff hinj]
  constructor
  · rintro ⟨-, hcount, address', gateway', servers, hrules⟩
    obtain rfl : address = address' :=
      Option.some.inj ((hparse address).symm.trans hrules.parsed)
    obtain rfl : gateway = gateway' :=
      Option.some.inj ((hparse gateway).symm.trans hrules.gatewayParsed)
    have hsame : ips = servers := by
      have hmap : ips.map some = servers.map some := hservers.symm.trans hrules.dns.1
      exact (List.map_inj_right fun _ _ => Option.some.inj).mp hmap
    refine ⟨?_, hcount, hsame ▸ hrules.dns.2⟩
    intro other otherGateway hother hotherGateway
    rw [← Schemas.text_injective hother, ← Schemas.text_injective hotherGateway]
    exact hrules.subnet
  · rintro ⟨hsubnet, hcount, hnodup⟩
    refine ⟨⟨Int.ofNat_le.mpr hmin, Int.ofNat_le.mpr hmax⟩, hcount, address, gateway, ips, ?_⟩
    exact {
      parsed := hparse address
      gatewayParsed := hparse gateway
      subnet := hsubnet address gateway rfl rfl
      dns := ⟨hservers, hnodup⟩ }

theorem validate_network (hnetwork : data.networkId ≠ [])
    (hstatic : data.ipMode = .static → StaticRules data) :
    (∃ network, (buildRequest b data).network.asRead.validate = .ok network) ↔
      data.networkId.length ≤ 120 ∧
        (data.ipMode = .static →
          (∀ address gateway : Ipv4Address, jsTrim data.ipAddress = address.text →
            jsTrim data.gateway = gateway.text →
              Schemas.SubnetRules (wholeNumber (resolvePrefix data.prefixInput)) address
                gateway) ∧
          (collectDns data).length ≤ 8 ∧ (collectDns data).Nodup) := by
  have hid : 1 ≤ data.networkId.length := List.length_pos_iff.mpr hnetwork
  have hread : (buildRequest b data).network.asRead.ipv4 =
      if data.ipMode = .static then
        some { address := jsTrim data.ipAddress
               prefixLength := wholeNumber (resolvePrefix data.prefixInput)
               gateway := jsTrim data.gateway
               dnsServers := collectDns data }
      else none := by
    simp only [NetworkSpec.asRead, buildRequest]
    split
    · rfl
    · rfl
  have hvalidate : (∃ network, (buildRequest b data).network.asRead.validate = .ok network) ↔
      data.networkId.length ≤ 120 ∧ ∃ ipv4,
        optionally Schemas.Ipv4Config.validate (buildRequest b data).network.asRead.ipv4 =
          .ok ipv4 ∧ (data.ipMode = .static → ipv4.isSome) := by
    have hmode (ipv4 : Option Schemas.Ipv4Config) :
        (!((buildRequest b data).network.asRead.mode = .static && ipv4.isNone)) = true ↔
          (data.ipMode = .static → ipv4.isSome) := by
      show (!(data.ipMode = .static && ipv4.isNone)) = true ↔ _
      cases ipv4 <;> simp
    simp only [Schemas.NetworkSpec.validate, unit_bind_eq_ok,
      bind_eq_ok (α := Option Schemas.Ipv4Config), Schemas.lengthBetween_eq_ok,
      Schemas.require_eq_ok, hmode]
    constructor
    · rintro ⟨network, ⟨-, hlong⟩, ipv4, hipv4, hsome, -⟩
      exact ⟨hlong, ipv4, hipv4, hsome⟩
    · rintro ⟨hlong, ipv4, hipv4, hsome⟩
      exact ⟨_, ⟨hid, hlong⟩, ipv4, hipv4, hsome, rfl⟩
  rw [hvalidate, hread]
  refine and_congr_right fun _ => ?_
  by_cases hmode : data.ipMode = .static
  · rw [if_pos hmode, ← validate_ipv4 (hstatic hmode)]
    simp [optionally, map_eq_ok, hmode]
  · rw [if_neg hmode]
    simp [optionally, hmode]

/-! ## Requests -/

theorem checkIdentity_of_draft (hconfig : ConfigurationRules data)
    (hdirectory : data.domainJoin.enabled = true → DirectoryRules b data) (vcenter : p.Uuid4)
    (packages applications : List p.Uuid4) (network : Schemas.NetworkSpec) :
    Schemas.ProvisioningRequest.checkIdentity
        { (buildRequest b data).asRead vcenter packages applications with network } = .ok () ↔
      Schemas.secretReference data.guestCredentialSecretRef ∧
        (data.domainJoin.enabled = true →
          Schemas.secretReference data.domainJoin.credentialSecretRef) := by
  obtain ⟨name, hname, hsent, hsame⟩ := computerName_of_draft hconfig hdirectory
  generalize hrequest : { (buildRequest b data).asRead vcenter packages applications with
    network } = request
  have hhost : request.guest.hostname = some (name.map Char.toUpper) := by
    rw [← hrequest, ← hsent]
    rfl
  have hjoin : request.guest.domainJoin =
      if data.domainJoin.enabled then some (sentJoin b data) else none := by
    rw [← hrequest]
    exact domainJoin_asRead
  have hpolicy : request.identityPolicyVersion = .v2 := by
    rw [← hrequest]
    rfl
  have hvm : request.vm.name = data.vmName := by
    rw [← hrequest]
    rfl
  have hcredential : request.guest.credentialSecretRef = data.guestCredentialSecretRef := by
    rw [← hrequest]
    rfl
  have hshort : isWindowsComputerName request.shortName := by
    cases henabled : data.domainJoin.enabled with
    | true =>
      rw [henabled, if_pos rfl] at hjoin
      rw [request.shortName_of_some hjoin hpolicy, hvm, ← hsame henabled]
      exact hname
    | false =>
      rw [henabled, if_neg Bool.false_ne_true] at hjoin
      have hne : name.map Char.toUpper ≠ [] := by
        rw [isWindowsComputerName, Bool.and_eq_true] at hname
        simpa using Schemas.ne_nil_of_vmName (vmName_of_windowsComputerName hname.1)
      rw [request.shortName_of_none hjoin, Schemas.hostnameOrName_of_some hhost hne,
        isWindowsComputerName, Schemas.windowsComputerName_toUpper, Schemas.isDigits_toUpper]
      exact hname
  simp only [Schemas.ProvisioningRequest.checkIdentity, unit_bind_eq_ok, Schemas.require_eq_ok,
    hcredential]
  refine and_congr_right fun _ => ?_
  rw [isWindowsComputerName] at hshort
  cases henabled : data.domainJoin.enabled with
  | true =>
    have hrules := hdirectory henabled
    rw [henabled, if_pos rfl] at hjoin
    have hlabels : ((sentDomain b data).splitOn '.').all
        (fun label => label.length ≤ 63) = true := by
      simpa using hrules.labels
    have hfqdn : request.shortName.length + 1 + (sentDomain b data).length ≤ 253 := by
      rw [request.shortName_of_some hjoin hpolicy, hvm]
      exact hrules.fqdn
    simp [hjoin, hshort, sentJoin, unit_bind_eq_ok, hlabels, hfqdn]
  | false =>
    rw [henabled, if_neg Bool.false_ne_true] at hjoin
    simp [hjoin, hshort]

theorem read_identifiers {ids : List (List Char)} {most : Nat} :
    (∃ read, p.uuid4.list.read (textArray ids) = .ok read ∧
        lengthBetween 0 most read.length = .ok ()) ↔
      (∀ id ∈ ids, ∃ read, p.readUuid4 (.text id) = .ok read) ∧ ids.length ≤ most := by
  have hitems : (∀ id ∈ ids, ∃ read, p.readUuid4 (.text id) = .ok read) ↔
      ∃ read, p.uuid4.list.read (textArray ids) = .ok read := by
    show _ ↔ ∃ read, p.uuid4.readItems (ids.map .text) = .ok read
    rw [Codec.exists_readItems, List.forall_mem_map]
    rfl
  have hlength {read : List p.Uuid4} (h : p.uuid4.list.read (textArray ids) = .ok read) :
      read.length = ids.length := by
    rw [Codec.length_readItems h, List.length_map]
  rw [hitems]
  constructor
  · rintro ⟨read, hread, hcount⟩
    rw [Schemas.lengthBetween_eq_ok, hlength hread] at hcount
    exact ⟨⟨read, hread⟩, hcount.2⟩
  · rintro ⟨⟨read, hread⟩, hcount⟩
    refine ⟨read, hread, ?_⟩
    rw [Schemas.lengthBetween_eq_ok, hlength hread]
    exact ⟨Nat.zero_le _, hcount⟩

theorem wholeNumbers_of_draft (hconfig : ConfigurationRules data)
    (hstatic : data.ipMode = .static → StaticRules data) :
    (buildRequest b data).WholeNumbers := by
  obtain ⟨cpu, -, hcpuMax, hcpu⟩ := hconfig.cpu
  obtain ⟨memory, -, hmemoryMax, hmemory⟩ := hconfig.memory
  obtain ⟨index, hindex, himage⟩ := hconfig.image
  exact {
    cpu := ⟨cpu, by omega, hcpu⟩
    memory := by
      refine ⟨memory * 1024, by omega, ?_⟩
      rw [← timesNat_ofNat (by omega), ← hmemory]
      rfl
    disks := by
      intro disk hdisk
      obtain ⟨draft, hdraft, rfl⟩ := List.mem_map.mp hdisk
      obtain ⟨size, -, hmax, hsize⟩ := hconfig.disks draft hdraft
      exact ⟨size, by omega, hsize⟩
    image := ⟨index, by omega, himage⟩
    prefixes := by
      intro ipv4 hipv4
      by_cases hmode : data.ipMode = .static
      · obtain ⟨length, -, hmax, hlength⟩ := (hstatic hmode).prefixLength
        simp only [buildRequest, if_pos hmode] at hipv4
        cases hipv4
        exact ⟨length, by omega, hlength⟩
      · simp [buildRequest, hmode] at hipv4 }

theorem check_compute (hdatacenter : data.datacenterId ≠ []) (hcluster : data.clusterId ≠ [])
    (vcenter : p.Uuid4) (packages applications : List p.Uuid4) :
    ((buildRequest b data).asRead vcenter packages applications).compute.check = .ok () ↔
      data.datacenterId.length ≤ 120 ∧ data.clusterId.length ≤ 120 ∧
        (∀ host ∈ (buildRequest b data).compute.hostId, host.length ≤ 120) ∧
        ∀ pool ∈ data.resourcePoolId, pool.length ≤ 120 := by
  have hone : 1 ≤ data.datacenterId.length ∧ 1 ≤ data.clusterId.length :=
    ⟨List.length_pos_iff.mpr hdatacenter, List.length_pos_iff.mpr hcluster⟩
  show Schemas.ComputeSpec.check
    { vcenterId := vcenter
      datacenterId := data.datacenterId
      clusterId := data.clusterId
      hostId := (buildRequest b data).compute.hostId
      resourcePoolId := data.resourcePoolId } = .ok () ↔ _
  simp [Schemas.ComputeSpec.check, unit_bind_eq_ok, hone]

theorem validateIdentity_isOk {request : Schemas.ProvisioningRequest p}
    (hpolicy : request.identityPolicyVersion = .v2) :
    (∃ validated, request.validateIdentity = .ok validated) ↔ request.checkIdentity = .ok () := by
  constructor
  · rintro ⟨validated, h⟩
    exact (request.validateIdentity_eq_ok.mp h).1 hpolicy
  · intro h
    exact ⟨_, request.validateIdentity_eq_ok.mpr ⟨fun _ => h, .inl ⟨.inr hpolicy, rfl⟩⟩⟩

/-- The edition is one of those that are installed. -/
theorem edition_of_validate (hconfig : ConfigurationRules data) {vcenter : p.Uuid4}
    {packages applications : List p.Uuid4} {request : Schemas.ProvisioningRequest p}
    (h : ((buildRequest b data).asRead vcenter packages applications).validate = .ok request) :
    request.guest.windowsImageIndex ∈ Schemas.desktopExperienceEditions := by
  obtain ⟨-, -, -, guest, hguest, network, -, -, -, hid⟩ :=
    (Schemas.ProvisioningRequest.validate_eq_ok _).mp h
  obtain ⟨-, -, domainJoin, -, rfl⟩ := Schemas.GuestSpec.validate_eq_ok.mp hguest
  obtain ⟨index, hindex, himage⟩ := hconfig.image
  have hkept : request.guest.windowsImageIndex = wholeNumber data.windowsImageIndex := by
    obtain ⟨-, ⟨-, rfl⟩ | ⟨-, rfl⟩⟩ :=
      (Schemas.ProvisioningRequest.validateIdentity_eq_ok _).mp hid
    · rfl
    · rfl
  rw [hkept, himage, wholeNumber_ofNat (by omega)]
  rcases hindex with rfl | rfl
  · decide
  · decide

/-- A body is accepted if its identifiers can be read and its models are valid. -/
theorem submissionValidate_isOk (hconfig : ConfigurationRules data)
    (hstatic : data.ipMode = .static → StaticRules data) :
    (∃ request, submissionValidate p (requestBody b data) = .ok request) ↔
      ∃ vcenter packages applications,
        p.readUuid4 (.text data.vcenterId) = .ok vcenter ∧
        p.uuid4.list.read (textArray data.certificatePackageIds) = .ok packages ∧
        p.uuid4.list.read (textArray data.applicationIds) = .ok applications ∧
        ∃ request, ((buildRequest b data).asRead vcenter packages applications).validate =
          .ok request := by
  have hwhole := wholeNumbers_of_draft (b := b) hconfig hstatic
  constructor
  · rintro ⟨request, h⟩
    obtain ⟨read, hread, hvalid⟩ := Schemas.read_of_submission h
    obtain ⟨vcenter, packages, applications, hvcenter, hpackages, happlications, rfl⟩ :=
      (read_requestBody hwhole).mp hread
    exact ⟨vcenter, packages, applications, hvcenter, hpackages, happlications, request, hvalid⟩
  · rintro ⟨vcenter, packages, applications, hvcenter, hpackages, happlications, request, hvalid⟩
    have hread := (read_requestBody hwhole).mpr
      ⟨vcenter, packages, applications, hvcenter, hpackages, happlications, rfl⟩
    refine ⟨request, bind_eq_ok.mpr ⟨_, hread, unit_bind_eq_ok.mpr ⟨rfl, ?_⟩⟩⟩
    refine bind_eq_ok.mpr ⟨request, hvalid, unit_bind_eq_ok.mpr ⟨?_, rfl⟩⟩
    exact Schemas.require_eq_ok.mpr (decide_eq_true (edition_of_validate hconfig hvalid))

/-- **The two checks are exact.** Of the drafts that the wizard posts the server accepts those
that follow the rules only it has. -/
theorem posted_accepted_iff {body : JsonDocument} (h : handleProvision b data = some body) :
    (∃ request, submissionValidate p body = .ok request) ↔ ServerRules b p data := by
  obtain ⟨hsteps, rfl⟩ := handleProvision_eq_some.mp h
  have hconfig := configuration_rules (hsteps .configuration)
  have hdirectory : data.domainJoin.enabled = true → DirectoryRules b data :=
    directory_rules (hsteps .directory)
  have hstatic : data.ipMode = .static → StaticRules data := static_rules (hsteps .network)
  have hlocation := hsteps .location
  have hmedia := hsteps .media
  have hcredential := hsteps .credentials
  have hnetwork := (List.append_eq_nil_iff.mp (hsteps .network)).1
  simp only [stepIssues, locationIssues, mediaIssues, credentialsIssues, List.append_eq_nil_iff,
    issue_eq_nil, decide_eq_false_iff_not, not_lt] at hlocation hmedia hcredential hnetwork
  obtain ⟨⟨⟨-, hdatacenter⟩, hcluster⟩, -⟩ := hlocation
  rw [submissionValidate_isOk hconfig hstatic]
  simp only [Schemas.ProvisioningRequest.validate_eq_ok]
  constructor
  · rintro ⟨vcenter, packages, applications, hvcenter, hpackages, happlications, request, hvm,
      hcompute, hhardware, guest, hguest, network, hnet, hpackageCount, happlicationCount, hid⟩
    obtain ⟨hguestCheck, hjoin, rfl⟩ := (validate_guest hconfig hdirectory).mp hguest
    obtain ⟨hiso, htimezone, hlocale, hkeyboard, hcredentialLength, hkey⟩ :=
      (check_guest hconfig hmedia).mp hguestCheck
    obtain ⟨hdatacenterLength, hclusterLength, hhost, hpool⟩ :=
      (check_compute hdatacenter hcluster _ _ _).mp hcompute
    obtain ⟨hnetworkLength, hsubnet⟩ := (validate_network hnetwork hstatic).mp ⟨_, hnet⟩
    obtain ⟨hreference, hjoinReference⟩ := (checkIdentity_of_draft hconfig hdirectory _ _ _ _).mp
      ((validateIdentity_isOk rfl).mp ⟨_, hid⟩)
    obtain ⟨hpackagesRead, hpackageCount⟩ := read_identifiers.mp ⟨_, hpackages, hpackageCount⟩
    obtain ⟨happlicationsRead, happlicationCount⟩ :=
      read_identifiers.mp ⟨_, happlications, happlicationCount⟩
    exact {
      vcenter := ⟨vcenter, hvcenter⟩
      packages := hpackagesRead
      packageCount := hpackageCount
      applications := happlicationsRead
      applicationCount := happlicationCount
      description := (check_vm hconfig).mp hvm
      datacenter := hdatacenterLength
      cluster := hclusterLength
      host := hhost
      pool := hpool
      datastores := (check_hardware hconfig).mp hhardware
      iso := hiso
      timezone := htimezone
      locale := hlocale
      keyboard := hkeyboard
      credential := ⟨hcredentialLength.2, hreference⟩
      productKey := hkey
      join := fun henabled =>
        ⟨(hjoin henabled).1, (hjoin henabled).2.2, hjoinReference henabled⟩
      network := hnetworkLength
      subnet := fun hmode => (hsubnet hmode).1
      servers := fun hmode => (hsubnet hmode).2 }
  · intro hrules
    obtain ⟨vcenter, hvcenter⟩ := hrules.vcenter
    obtain ⟨packages, hpackages, hpackageCount⟩ :=
      read_identifiers.mpr ⟨hrules.packages, hrules.packageCount⟩
    obtain ⟨applications, happlications, happlicationCount⟩ :=
      read_identifiers.mpr ⟨hrules.applications, hrules.applicationCount⟩
    have hshort := two_le_of_secretReference hcredential hrules.credential.2
    have hguestCheck := (check_guest (b := b) hconfig hmedia).mpr
      ⟨hrules.iso, hrules.timezone, hrules.locale, hrules.keyboard,
        ⟨hshort, hrules.credential.1⟩, hrules.productKey⟩
    have hjoin : data.domainJoin.enabled = true → data.domainJoin.ou.length ≤ 400 ∧
        2 ≤ data.domainJoin.credentialSecretRef.length ∧
          data.domainJoin.credentialSecretRef.length ≤ 150 := by
      intro henabled
      obtain ⟨hou, hlength, hreference⟩ := hrules.join henabled
      exact ⟨hou, two_le_of_secretReference (hdirectory henabled).credential hreference, hlength⟩
    obtain ⟨network, hnet⟩ := (validate_network (b := b) hnetwork hstatic).mpr
      ⟨hrules.network, fun hmode => ⟨hrules.subnet hmode, hrules.servers hmode⟩⟩
    have hidentity := (checkIdentity_of_draft hconfig hdirectory vcenter packages applications
      network).mpr ⟨hrules.credential.2, fun henabled => (hrules.join henabled).2.2⟩
    obtain ⟨request, hid⟩ := (validateIdentity_isOk rfl).mpr hidentity
    exact ⟨vcenter, packages, applications, hvcenter, hpackages, happlications, request,
      (check_vm hconfig).mpr hrules.description,
      (check_compute hdatacenter hcluster _ _ _).mpr
        ⟨hrules.datacenter, hrules.cluster, hrules.host, hrules.pool⟩,
      (check_hardware hconfig).mpr hrules.datastores, _,
      (validate_guest hconfig hdirectory).mpr ⟨hguestCheck, hjoin, rfl⟩, network, hnet,
      hpackageCount, happlicationCount, hid⟩

end

/-- A draft with a static address behind this gateway. -/
def webDraft (gateway : String) : WizardData :=
  { initialWizardData with
    isoId := "iso".toList
    vcenterId := "0b7e6f0c-5c3a-4e0e-9d5e-2f6a1c9b8d7e".toList
    datacenterId := "datacenter-2".toList
    clusterId := "domain-c8".toList
    vmName := "WEB-01".toList
    guestCredentialSecretRef := "guest-local-admin".toList
    networkId := "network-11".toList
    ipAddress := "192.168.1.10".toList
    gateway := gateway.toList
    dnsPrimary := "192.168.1.2".toList }

/-- The wizard also posts a draft whose gateway is outside of its subnet. -/
theorem posted_accepted_iff_draft :
    (∃ body, handleProvision asciiBrowser (webDraft " 192.168.1.1") = some body ∧
      ServerRules asciiBrowser Schemas.strictPlatform (webDraft " 192.168.1.1")) ∧
    ∃ body, handleProvision asciiBrowser (webDraft "192.168.2.1") = some body ∧
      ¬ ServerRules asciiBrowser Schemas.strictPlatform (webDraft "192.168.2.1") := by
  have hposted (gateway : String)
      (h : (validateAll asciiBrowser (webDraft gateway)).isSome = false) :
      handleProvision asciiBrowser (webDraft gateway) =
        some (requestBody asciiBrowser (webDraft gateway)) := by
    rw [handleProvision, h]
    rfl
  have hinside := hposted " 192.168.1.1" (by decide +kernel)
  have houtside := hposted "192.168.2.1" (by decide +kernel)
  constructor
  · refine ⟨_, hinside, (posted_accepted_iff hinside).mp ?_⟩
    have haccepted : (submissionValidate Schemas.strictPlatform
        (requestBody asciiBrowser (webDraft " 192.168.1.1"))).toOption.isSome = true := by
      decide +kernel
    obtain ⟨request, hrequest⟩ := Option.isSome_iff_exists.mp haccepted
    exact ⟨request, toOption_eq_some.mp hrequest⟩
  · refine ⟨_, houtside, fun hrules => ?_⟩
    obtain ⟨request, hrequest⟩ := (posted_accepted_iff houtside).mpr hrules
    have hrefused : (submissionValidate Schemas.strictPlatform
        (requestBody asciiBrowser (webDraft "192.168.2.1"))).toOption.isSome = false := by
      decide +kernel
    rw [hrequest] at hrefused
    cases hrefused

end InfraOps.Wizard
