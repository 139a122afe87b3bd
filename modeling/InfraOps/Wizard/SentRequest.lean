import InfraOps.Wizard.ShownIdentity
import InfraOps.Wizard.Steps

/-!
# Drafts that are sent

What the numbers and the addresses are of a draft that every step accepts, and the request that
the server reads in the body of a draft.
-/

namespace InfraOps.Wizard

open Schemas (Platform)

/-! ## Drafts without issues -/

@[simp] theorem issue_eq_nil {bad : Bool} {field message : String} :
    issue bad field message = [] ↔ bad = false := by
  cases bad with
  | false => exact iff_of_true rfl rfl
  | true => exact iff_of_false (List.cons_ne_nil _ _) nofun

theorem handleProvision_eq_some {b : Browser} {data : WizardData} {body : JsonDocument} :
    handleProvision b data = some body ↔
      (∀ step, stepIssues b data step = []) ∧ body = requestBody b data := by
  have hall : (validateAll b data).isSome = false ↔ ∀ step, stepIssues b data step = [] := by
    rw [Option.isSome_eq_false_iff, Option.isNone_iff_eq_none, validateAll,
      List.findSome?_eq_none_iff]
    constructor
    · intro h step
      have hmem : step ∈ wizardSteps := by
        cases step <;> decide
      have hnone := h step hmem
      by_contra hne
      have hfound : validateStep b step data ≠ [] := mt eq_nil_of_firstMessages hne
      rw [if_pos hfound] at hnone
      cases hnone
    · intro h step _
      have hempty : validateStep b step data = [] := congrArg firstMessages (h step)
      rw [if_neg (not_not.mpr hempty)]
  rw [← hall, handleProvision]
  cases (validateAll b data).isSome with
  | true => simp
  | false => simp [eq_comm, requestBody]

/-! ## Numbers -/

theorem eq_ofNat_of_integer {n : JsNumber} {least most : Nat} (hrange : least ≤ most)
    (hmost : most < 2 ^ 53) (hint : isInteger n = true) (hleast : n.lt (.ofNat least) = false)
    (hbound : (JsNumber.ofNat most).lt n = false) :
    ∃ k, least ≤ k ∧ k ≤ most ∧ n = .ofNat k := by
  cases n with
  | nan => cases hint
  | infinity negative => cases hint
  | finite value =>
    have hden : value.val.den = 1 := by simpa [isInteger] using hint
    have hnum : (value.val.num : ℚ) = value.val := Rat.coe_int_num_of_den_eq_one hden
    rw [JsNumber.ofNat_eq (Nat.lt_of_le_of_lt hrange hmost)] at hleast
    rw [JsNumber.ofNat_eq hmost] at hbound
    simp only [JsNumber.lt, decide_eq_false_iff_not, not_lt] at hleast hbound
    rw [← hnum] at hleast hbound
    have hge : (least : ℤ) ≤ value.val.num := by exact_mod_cast hleast
    have hle : value.val.num ≤ (most : ℤ) := by exact_mod_cast hbound
    refine ⟨value.val.num.toNat, by omega, by omega, ?_⟩
    rw [JsNumber.ofNat_eq (by omega)]
    congr 1
    apply Subtype.ext
    have hcast : ((value.val.num.toNat : ℕ) : ℤ) = value.val.num :=
      Int.toNat_of_nonneg (by omega)
    calc value.val = ((value.val.num : ℤ) : ℚ) := hnum.symm
      _ = (((value.val.num.toNat : ℕ) : ℤ) : ℚ) := by rw [hcast]
      _ = ((value.val.num.toNat : ℕ) : ℚ) := Int.cast_natCast _

theorem integerIssues_eq_nil {field below above : String} {least most : Nat} {n : JsNumber}
    (hrange : least ≤ most) (hmost : most < 2 ^ 53)
    (h : integerIssues field least most below above n = []) :
    ∃ k, least ≤ k ∧ k ≤ most ∧ n = .ofNat k := by
  unfold integerIssues at h
  split at h
  · cases h
  · simp only [List.append_eq_nil_iff, issue_eq_nil, Bool.not_eq_false'] at h
    exact eq_ofNat_of_integer hrange hmost h.1.1 h.1.2 h.2

theorem numberJson_ofNat (b : Browser) {k : Nat} (h : k < 2 ^ 53) :
    numberJson b (.ofNat k) = .int k := by
  rw [JsNumber.ofNat_eq h, numberJson, if_pos]
  · rw [Rat.num_natCast]
  · refine ⟨Rat.den_natCast k, ?_⟩
    rw [Nat.abs_cast]
    exact_mod_cast Nat.lt_trans h (by norm_num)

theorem timesNat_ofNat {k n : Nat} (h : k < 2 ^ 53) :
    (JsNumber.ofNat k).timesNat n = .ofNat (k * n) := by
  rw [JsNumber.ofNat_eq h]
  simp [JsNumber.timesNat, JsNumber.ofNat]

theorem eq_ofNat_of_edition {index : JsNumber} (h : isDesktopExperienceEdition index = true) :
    ∃ k, (k = 2 ∨ k = 4) ∧ index = .ofNat k := by
  simp only [isDesktopExperienceEdition, windowsEditions, List.any_cons, List.any_nil,
    Bool.or_false, Bool.or_eq_true, decide_eq_true_eq] at h
  rcases h with h | h
  · exact ⟨2, .inl rfl, h.symm⟩
  · exact ⟨4, .inr rfl, h.symm⟩

theorem eq_ofNat_of_prefix {input : List Char} {p : JsNumber}
    (h : parsePrefixInput input = some p) :
    ∃ length, 8 ≤ length ∧ length ≤ 32 ∧ p = .ofNat length := by
  cases hshort : shortNumeral (jsTrim input) with
  | true =>
    obtain ⟨n, hn, -, hparse⟩ := parsePrefixInput_numeral hshort
    rw [hparse, permittedPrefix_ofNat (by omega)] at h
    split_ifs at h with hrange
    exact ⟨n, hrange.1, hrange.2, (Option.some.inj h).symm⟩
  | false =>
    obtain ⟨length, hge, hle, -, hsame⟩ := (parsePrefixInput_mask hshort p).mp h
    exact ⟨length, hge, hle, hsame⟩

/-! ## Addresses -/

def decimalDigits : List Char := "0123456789".toList

theorem mem_digits {c : Char} (h : Ipv4Address.digit c = true) : c ∈ decimalDigits := by
  have hascii : c.toNat < 128 := by
    simp only [Ipv4Address.digit, Bool.and_eq_true, decide_eq_true_eq] at h
    exact ascii_of_le h.2 (by decide)
  exact forall_ascii (p := fun c => Ipv4Address.digit c = true → c ∈ decimalDigits)
    (by decide +kernel) hascii h

/-- The digits of an octet that the expression matches. -/
theorem digit_of_octetRegex {cs : List Char} (h : octetRegex cs = true) :
    cs ≠ [] ∧ cs.length ≤ 3 ∧ ∀ c ∈ cs, c ∈ decimalDigits := by
  have hdigit {least most c : Char} (hleast : '0' ≤ least) (hmost : most ≤ '9')
      (hc : least ≤ c ∧ c ≤ most) : c ∈ decimalDigits := by
    apply mem_digits
    simp only [Ipv4Address.digit, Bool.and_eq_true, decide_eq_true_eq]
    exact ⟨Char.le_trans hleast hc.1, Char.le_trans hc.2 hmost⟩
  rcases cs with _ | ⟨a, _ | ⟨b, _ | ⟨c, _ | ⟨d, rest⟩⟩⟩⟩
  · cases h
  · exact ⟨List.cons_ne_nil _ _, by simp, by simpa using mem_digits h⟩
  · simp only [octetRegex, Bool.and_eq_true, decide_eq_true_eq] at h
    have ha := hdigit (by decide) (by decide) h.1
    exact ⟨List.cons_ne_nil _ _, by simp, by simp [ha, mem_digits h.2]⟩
  · refine ⟨List.cons_ne_nil _ _, by simp, ?_⟩
    simp only [octetRegex, Bool.and_eq_true, Bool.or_eq_true, decide_eq_true_eq] at h
    rcases h with (⟨⟨⟨rfl, rfl⟩, hge⟩, hle⟩ | ⟨⟨⟨rfl, hge⟩, hle⟩, hc⟩) | ⟨⟨rfl, hb⟩, hc⟩
    · have hc := hdigit (by decide) (by decide) ⟨hge, hle⟩
      have htwenty : '2' ∈ decimalDigits ∧ '5' ∈ decimalDigits := by decide
      simp [htwenty, hc]
    · have hb := hdigit (by decide) (by decide) ⟨hge, hle⟩
      have htwo : '2' ∈ decimalDigits := by decide
      simp [htwo, hb, mem_digits hc]
    · have hone : '1' ∈ decimalDigits := by decide
      simp [hone, mem_digits hb, mem_digits hc]
  · cases h

/-- The octet of these digits is shown in them. -/
def shownOctet (cs : List Char) : Bool :=
  Ipv4Address.showOctet ⟨Ipv4Address.octetValue cs % 256, Nat.mod_lt _ (by decide)⟩ = cs

theorem eq_showOctet_of_regex {cs : List Char} (h : octetRegex cs = true) :
    ∃ n, cs = Ipv4Address.showOctet n := by
  obtain ⟨hne, hlen, hdigits⟩ := digit_of_octetRegex h
  have hone : (decimalDigits.all fun a => shownOctet [a]) = true := by decide +kernel
  have htwo : (decimalDigits.all fun a => decimalDigits.all fun b =>
      !octetRegex [a, b] || shownOctet [a, b]) = true := by
    decide +kernel
  have hthree : (decimalDigits.all fun a => decimalDigits.all fun b => decimalDigits.all fun c =>
      !octetRegex [a, b, c] || shownOctet [a, b, c]) = true := by
    decide +kernel
  simp only [List.all_eq_true, Bool.or_eq_true, Bool.not_eq_true'] at hone htwo hthree
  suffices hshown : shownOctet cs = true from ⟨_, (of_decide_eq_true hshown).symm⟩
  match cs, h, hlen with
  | [a], _, _ => exact hone a (hdigits a (by simp))
  | [a, b], h, _ =>
    have hshown := htwo a (hdigits a (by simp)) b (hdigits b (by simp))
    exact hshown.resolve_left (by simp [h])
  | [a, b, c], h, _ =>
    have hshown := hthree a (hdigits a (by simp)) b (hdigits b (by simp)) c (hdigits c (by simp))
    exact hshown.resolve_left (by simp [h])

/-- The expression matches the texts of addresses only. -/
theorem eq_text_of_regex {cs : List Char} (h : ipv4Regex cs = true) :
    ∃ ip : Ipv4Address, cs = ip.text := by
  simp only [ipv4Regex, Bool.and_eq_true, decide_eq_true_eq, List.all_eq_true] at h
  obtain ⟨hlen, hparts⟩ := h
  have hjoin : ['.'].intercalate (cs.splitOn '.') = cs := List.intercalate_splitOn '.'
  match hsplit : cs.splitOn '.', hlen with
  | [a, b, c, d], _ =>
    rw [hsplit] at hparts hjoin
    obtain ⟨a', rfl⟩ := eq_showOctet_of_regex (hparts a (by simp))
    obtain ⟨b', rfl⟩ := eq_showOctet_of_regex (hparts b (by simp))
    obtain ⟨c', rfl⟩ := eq_showOctet_of_regex (hparts c (by simp))
    obtain ⟨d', rfl⟩ := eq_showOctet_of_regex (hparts d (by simp))
    exact ⟨⟨a', b', c', d'⟩, hjoin.symm⟩

/-! ## What the server reads -/

/-- A number that is sent as an integer. -/
def Whole (n : JsNumber) : Prop := ∃ k : Nat, k < 2 ^ 53 ∧ n = .ofNat k

/-- The integer that a whole number is. -/
def wholeNumber : JsNumber → Int
  | .finite value => value.val.num
  | _ => 0

@[simp] theorem wholeNumber_ofNat {k : Nat} (h : k < 2 ^ 53) : wholeNumber (.ofNat k) = k := by
  rw [JsNumber.ofNat_eq h]
  exact Rat.num_natCast k

theorem Whole.json (b : Browser) {n : JsNumber} (h : Whole n) :
    numberJson b n = .int (wholeNumber n) := by
  obtain ⟨k, hk, rfl⟩ := h
  rw [numberJson_ofNat b hk, wholeNumber_ofNat hk]

def DiskSpec.asRead (disk : DiskSpec) : Schemas.DiskSpec where
  sizeGb := wholeNumber disk.sizeGb
  provisioning := disk.provisioning
  datastoreId := disk.datastoreId

def HardwareSpec.asRead (hardware : HardwareSpec) : Schemas.HardwareSpec where
  cpu := wholeNumber hardware.cpu
  memoryMb := wholeNumber hardware.memoryMb
  firmware := hardware.firmware
  secureBoot := hardware.secureBoot
  disks := hardware.disks.map DiskSpec.asRead

def GuestSpec.asRead (guest : GuestSpec) : Schemas.GuestSpec where
  isoId := guest.isoId
  hostname := some guest.hostname
  timezone := guest.timezone
  installationLocale := guest.installationLocale
  inputLocale := guest.inputLocale
  windowsImageIndex := wholeNumber guest.windowsImageIndex
  credentialSecretRef := guest.credentialSecretRef
  productKeySecretRef := guest.productKeySecretRef
  domainJoin := guest.domainJoin.map DomainJoinSpec.asRead

def Ipv4Config.asRead (ipv4 : Ipv4Config) : Schemas.Ipv4Config where
  address := ipv4.address
  prefixLength := wholeNumber ipv4.prefixLength
  gateway := ipv4.gateway
  dnsServers := ipv4.dnsServers

def NetworkSpec.asRead (network : NetworkSpec) : Schemas.NetworkSpec where
  networkId := network.networkId
  adapterType := network.adapterType
  mode := network.mode
  ipv4 := network.ipv4.map Ipv4Config.asRead

section

variable {b : Browser} {p : Platform}

theorem read_disk {disk : DiskSpec} (h : Whole disk.sizeGb) :
    (Schemas.diskSpec p).write disk.asRead = disk.json b := by
  rw [DiskSpec.json, h.json, nullableText_eq]
  rfl

theorem read_hardware {hardware : HardwareSpec} (hcpu : Whole hardware.cpu)
    (hmemory : Whole hardware.memoryMb) (hdisks : ∀ disk ∈ hardware.disks, Whole disk.sizeGb) :
    (Schemas.hardwareSpec p).read (.object [("cpu", numberJson b hardware.cpu),
      ("memory_mb", numberJson b hardware.memoryMb), ("firmware", .text hardware.firmware.name),
      ("secure_boot", .bool hardware.secureBoot),
      ("disks", .array (hardware.disks.map (DiskSpec.json b)))]) = .ok hardware.asRead := by
  have hwrite : hardware.disks.map (DiskSpec.json b) =
      hardware.asRead.disks.map (Schemas.diskSpec p).write := by
    rw [HardwareSpec.asRead, List.map_map]
    exact List.map_congr_left fun disk hdisk => (read_disk (hdisks disk hdisk)).symm
  rw [hcpu.json, hmemory.json, hwrite]
  exact (Schemas.hardwareSpec p).read_write hardware.asRead

theorem read_guest {guest : GuestSpec} (h : Whole guest.windowsImageIndex) :
    (Schemas.guestSpec p).read (guest.json b) = .ok guest.asRead := by
  have hjoin : DomainJoinSpec.json guest.domainJoin =
      (Schemas.domainJoinSpec.nullable fun _ h => by cases h).write guest.asRead.domainJoin := by
    cases hjoin : guest.domainJoin with
    | none => simp [GuestSpec.asRead, hjoin, DomainJoinSpec.json, Codec.nullable]
    | some join =>
      simp only [GuestSpec.asRead, hjoin, DomainJoinSpec.json, nullableText_eq]
      rfl
  rw [GuestSpec.json, h.json, hjoin, nullableText_eq, nullableText_eq]
  exact (Schemas.guestSpec p).read_write guest.asRead

theorem read_network {network : NetworkSpec}
    (h : ∀ ipv4 ∈ network.ipv4, Whole ipv4.prefixLength) :
    (Schemas.networkSpec p).read (.object [("network_id", .text network.networkId),
      ("adapter_type", .text network.adapterType.name), ("mode", .text network.mode.name),
      ("ipv4", Ipv4Config.json b network.ipv4)]) = .ok network.asRead := by
  have hwrite : Ipv4Config.json b network.ipv4 =
      ((Schemas.ipv4Config p).nullable fun _ h => by cases h).write network.asRead.ipv4 := by
    cases hipv4 : network.ipv4 with
    | none => simp [NetworkSpec.asRead, hipv4, Ipv4Config.json, Codec.nullable]
    | some ipv4 =>
      simp only [NetworkSpec.asRead, hipv4, Ipv4Config.json, (h ipv4 (by simp [hipv4])).json]
      rfl
  rw [hwrite]
  exact (Schemas.networkSpec p).read_write network.asRead

/-- The request that is read, under the identifiers that the server made of the draft's. -/
def ProvisioningRequest.asRead (request : ProvisioningRequest) (vcenter : p.Uuid4)
    (packages applications : List p.Uuid4) : Schemas.ProvisioningRequest p where
  identityPolicyVersion := .v2
  vm := { name := request.vm.name, description := request.vm.description }
  compute :=
    { vcenterId := vcenter
      datacenterId := request.compute.datacenterId
      clusterId := request.compute.clusterId
      hostId := request.compute.hostId
      resourcePoolId := request.compute.resourcePoolId }
  hardware := request.hardware.asRead
  guest := request.guest.asRead
  network := request.network.asRead
  certificatePackageIds := packages
  applicationIds := applications

/-- The numbers of a request are whole. -/
structure ProvisioningRequest.WholeNumbers (request : ProvisioningRequest) : Prop where
  cpu : Whole request.hardware.cpu
  memory : Whole request.hardware.memoryMb
  disks : ∀ disk ∈ request.hardware.disks, Whole disk.sizeGb
  image : Whole request.guest.windowsImageIndex
  prefixes : ∀ ipv4 ∈ request.network.ipv4, Whole ipv4.prefixLength

theorem read_compute (compute : ComputeSpec) {read : Schemas.ComputeSpec p} :
    (Schemas.computeSpec p).read (.object [("vcenter_id", .text compute.vcenterId),
      ("datacenter_id", .text compute.datacenterId), ("cluster_id", .text compute.clusterId),
      ("host_id", nullableText compute.hostId),
      ("resource_pool_id", nullableText compute.resourcePoolId)]) = .ok read ↔
    ∃ vcenter, p.readUuid4 (.text compute.vcenterId) = .ok vcenter ∧
      read = { vcenterId := vcenter
               datacenterId := compute.datacenterId
               clusterId := compute.clusterId
               hostId := compute.hostId
               resourcePoolId := compute.resourcePoolId } := by
  have hread : (Schemas.computeSpec p).read (.object [("vcenter_id", .text compute.vcenterId),
      ("datacenter_id", .text compute.datacenterId), ("cluster_id", .text compute.clusterId),
      ("host_id", nullableText compute.hostId),
      ("resource_pool_id", nullableText compute.resourcePoolId)]) = (do
        let vcenterId ← p.readUuid4 (.text compute.vcenterId)
        return { vcenterId
                 datacenterId := compute.datacenterId
                 clusterId := compute.clusterId
                 hostId := compute.hostId
                 resourcePoolId := compute.resourcePoolId }) := by
    rw [nullableText_eq, nullableText_eq]
    simp only [Schemas.computeSpec, Schemas.discardLegacySiteId]
    rw [List.filter_eq_self.mpr (by simp), Codec.readObject_object (by simp)]
    simp [Platform.uuid4, Codec.text, Codec.read_write]
    cases p.readUuid4 (.text compute.vcenterId) with
    | error text => rfl
    | ok vcenter => rfl
  rw [hread, bind_eq_ok]
  refine exists_congr fun vcenter => and_congr_right fun _ => ?_
  simp [pure, Except.pure, eq_comm]

theorem read_requestBody {data : WizardData} (h : (buildRequest b data).WholeNumbers)
    {request : Schemas.ProvisioningRequest p} :
    (Schemas.provisioningRequest p).read (requestBody b data) = .ok request ↔
      ∃ vcenter packages applications,
        p.readUuid4 (.text data.vcenterId) = .ok vcenter ∧
        p.uuid4.list.read (textArray data.certificatePackageIds) = .ok packages ∧
        p.uuid4.list.read (textArray data.applicationIds) = .ok applications ∧
        request = (buildRequest b data).asRead vcenter packages applications := by
  have hhardware := read_hardware (b := b) (p := p) h.cpu h.memory h.disks
  have hguest := read_guest (b := b) (p := p) h.image
  have hnetwork := read_network (b := b) (p := p) h.prefixes
  have hread : (Schemas.provisioningRequest p).read (requestBody b data) = (do
      let compute ← (Schemas.computeSpec p).read (.object
        [("vcenter_id", .text (buildRequest b data).compute.vcenterId),
          ("datacenter_id", .text (buildRequest b data).compute.datacenterId),
          ("cluster_id", .text (buildRequest b data).compute.clusterId),
          ("host_id", nullableText (buildRequest b data).compute.hostId),
          ("resource_pool_id", nullableText (buildRequest b data).compute.resourcePoolId)])
      let packages ← p.uuid4.list.read (textArray data.certificatePackageIds)
      let applications ← p.uuid4.list.read (textArray data.applicationIds)
      return { (buildRequest b data).asRead compute.vcenterId packages applications with
               compute }) := by
    rw [requestBody, ProvisioningRequest.json]
    simp only [Schemas.provisioningRequest]
    rw [Codec.readObject_object (by simp [Schemas.requestFields])]
    simp [Schemas.readSourceType, Schemas.require, read_vm, hhardware, hguest, hnetwork]
    rfl
  rw [hread, bind_eq_ok]
  simp only [bind_eq_ok (α := List p.Uuid4), read_compute]
  constructor
  · rintro ⟨_, ⟨vcenter, hvcenter, rfl⟩, packages, hpackages, applications, happlications, hsame⟩
    cases hsame
    exact ⟨vcenter, packages, applications, hvcenter, hpackages, happlications, rfl⟩
  · rintro ⟨vcenter, packages, applications, hvcenter, hpackages, happlications, rfl⟩
    exact ⟨_, ⟨vcenter, hvcenter, rfl⟩, packages, hpackages, applications, happlications, rfl⟩

end

end InfraOps.Wizard
