import InfraOps.Schemas.Names
import InfraOps.Wizard.Request

/-!
# The identity that is shown

The wizard shows the identity of a draft and the job page that of a stored request. Both are
compared with the names that the server derives from the request it accepted.
-/

namespace InfraOps.Wizard

open Schemas (Platform submissionValidate parseStoredRequest loadRequestPayload modelDump)

variable (b : Browser) {p : Platform}

/-- The identity of a draft, as the wizard shows it. -/
def shownIdentity (data : WizardData) : EffectiveGuestIdentity :=
  deriveGuestIdentity b data.vmName (some data.hostname) (joinedDomain data)

/-- The body that a draft is submitted in. -/
def requestBody (data : WizardData) : JsonDocument := (buildRequest b data).json b

/-! ## What the server reads of a body -/

theorem nullableText_eq (text : Option (List Char)) :
    nullableText text = Schemas.textOrNull.write text := by
  cases text with
  | none => rfl
  | some cs => rfl

def DomainJoinSpec.asRead (join : DomainJoinSpec) : Schemas.DomainJoinSpec where
  domain := join.domain
  ou := join.ou
  credentialSecretRef := join.credentialSecretRef

theorem read_domainJoin (join : Option DomainJoinSpec) :
    (Schemas.domainJoinSpec.nullable nofun).read (DomainJoinSpec.json join) =
      .ok (join.map DomainJoinSpec.asRead) := by
  have hwrite : DomainJoinSpec.json join =
      (Schemas.domainJoinSpec.nullable nofun).write (join.map DomainJoinSpec.asRead) := by
    cases join with
    | none => rfl
    | some join =>
      rw [DomainJoinSpec.json, nullableText_eq]
      rfl
  rw [hwrite, Codec.read_write]

/-- The domain that a draft is sent with. -/
def sentDomain (data : WizardData) : List Char := b.normalizeDomain data.domainJoin.domain

structure ReadAs (data : WizardData) (request : Schemas.ProvisioningRequest p) : Prop where
  policy : request.identityPolicyVersion = .v2
  name : request.vm.name = data.vmName
  hostname : request.guest.hostname = some (shownIdentity b data).computerName
  join : request.guest.domainJoin.map (·.domain) =
    if data.domainJoin.enabled then some (sentDomain b data) else none

theorem read_vm (vm : VmSpec) : Schemas.vmSpec.read (.object [("name", .text vm.name),
    ("description", .text vm.description)]) =
      .ok { name := vm.name, description := vm.description } :=
  Schemas.vmSpec.read_write { name := vm.name, description := vm.description }

theorem readAs_of_read {data : WizardData} {request : Schemas.ProvisioningRequest p}
    (h : (Schemas.provisioningRequest p).read (requestBody b data) = .ok request) :
    ReadAs b data request := by
  obtain ⟨hpolicy, hvm, hguest⟩ := Schemas.fields_of_read h
  have hpolicy : Schemas.identityPolicyVersion.read (.text "v2".toList) =
      .ok request.identityPolicyVersion := by simpa using hpolicy
  have hguest : (Schemas.guestSpec p).read ((buildRequest b data).guest.json b) =
      .ok request.guest := by simpa using hguest
  obtain ⟨hhost, hjoin⟩ := Schemas.names_of_read hguest
  have hhost : Schemas.textOrNull.read (.text (buildRequest b data).guest.hostname) =
      .ok request.guest.hostname := by simpa using hhost
  have hjoin : (Schemas.domainJoinSpec.nullable nofun).read
      (DomainJoinSpec.json (buildRequest b data).guest.domainJoin) =
        .ok request.guest.domainJoin := by simpa using hjoin
  rw [Codec.required_cons, if_neg (by decide), Codec.required_cons, if_neg (by decide),
    Codec.required_cons, if_pos rfl, read_vm] at hvm
  rw [read_domainJoin] at hjoin
  refine { policy := ?_, name := ?_, hostname := ?_, join := ?_ }
  · exact (Except.ok.inj hpolicy).symm
  · rw [← Except.ok.inj hvm]
    rfl
  · exact (Except.ok.inj hhost).symm
  · rw [← Except.ok.inj hjoin, buildRequest]
    cases data.domainJoin.enabled with
    | true => rfl
    | false => rfl

/-! ## Submitted drafts -/

theorem toLower_toUpper (c : Char) : c.toUpper.toLower = c.toLower :=
  forall_toUpper (q := fun c d => d.toLower = c.toLower) (fun _ => rfl) (by decide +kernel) c

section

variable {b} {data : WizardData} {read request : Schemas.ProvisioningRequest p}
  (hread : ReadAs b data read) (hvalid : read.validate = .ok request)

include hread hvalid

theorem domain_of_disabled (h : data.domainJoin.enabled = false) :
    read.guest.domainJoin = none ∧ request.guest.domainJoin = none := by
  have hnone : read.guest.domainJoin = none := by
    have hjoin := hread.join
    rw [h] at hjoin
    exact Option.map_eq_none_iff.mp hjoin
  have hkept := (Schemas.ProvisioningRequest.kept_of_validate hvalid).2.2
  rw [hnone] at hkept
  exact ⟨hnone, (Except.ok.inj hkept).symm⟩

theorem domain_of_enabled (h : data.domainJoin.enabled = true) :
    ∃ join, request.guest.domainJoin = some join ∧
      join.domain = Schemas.normalizeDomain p (sentDomain b data) ∧
      Schemas.dnsDomain join.domain := by
  have hjoin := hread.join
  rw [h, if_pos rfl] at hjoin
  obtain ⟨sent, hsent, hdomain⟩ := Option.map_eq_some_iff.mp hjoin
  have hkept := (Schemas.ProvisioningRequest.kept_of_validate hvalid).2.2
  rw [hsent] at hkept
  obtain ⟨join, hvalidated, hsome⟩ := map_eq_ok.mp hkept
  obtain ⟨hnormal, hdns⟩ := Schemas.DomainJoinSpec.domain_of_validate hvalidated
  exact ⟨join, hsome.symm, by rw [hnormal, hdomain], hdns⟩

/-- A domain that the server accepts is not empty, so that the draft is shown as joining it. -/
theorem shownIdentity_of_enabled (h : data.domainJoin.enabled = true) :
    shownIdentity b data =
      { computerName := b.toUpperCase data.vmName
        fqdn := some (b.toLowerCase (data.vmName ++ '.' :: sentDomain b data)) } := by
  obtain ⟨join, -, hdomain, hdns⟩ := domain_of_enabled hread hvalid h
  have hne : sentDomain b data ≠ [] := by
    intro hempty
    have hnone : dropRight (· == '.') (pyStrip []) = [] := rfl
    rw [hdomain, hempty, Schemas.normalizeDomain, hnone, p.lower_ascii _ (by simp)] at hdns
    cases hdns
  have hjoined : domainOrEmpty b (joinedDomain data) = sentDomain b data := by
    rw [joinedDomain, if_pos h, domainOrEmpty_some, sentDomain]
  simp only [shownIdentity, deriveGuestIdentity, hjoined, hne, ne_eq, not_false_eq_true, if_true]

theorem ascii_vmName : ∀ c ∈ data.vmName, c.toNat < 128 := by
  rw [← hread.name]
  exact Schemas.toNat_of_vmName (Schemas.ProvisioningRequest.names_of_validate hvalid).1

theorem computerName_of_validate :
    (shownIdentity b data).computerName = request.effectiveComputerName := by
  cases h : data.domainJoin.enabled with
  | true =>
    obtain ⟨join, hjoin, -⟩ := domain_of_enabled hread hvalid h
    obtain ⟨hvm, hpolicy, -⟩ := Schemas.ProvisioningRequest.kept_of_validate hvalid
    rw [shownIdentity_of_enabled hread hvalid h,
      Schemas.ProvisioningRequest.effectiveComputerName_of_some hjoin (hpolicy.trans hread.policy),
      hvm, hread.name]
    exact Browser.toUpperCase_ascii (ascii_vmName hread hvalid)
  | false =>
    have hshown : (shownIdentity b data).computerName =
        b.toUpperCase (textOr (some data.hostname) data.vmName) := by
      simp [shownIdentity, deriveGuestIdentity, joinedDomain, h, domainOrEmpty]
    have hname := (Schemas.ProvisioningRequest.names_of_validate hvalid).2
    rw [hread.hostname, hshown] at hname
    have hvm := (Schemas.checkHostname_some.mp hname).2
    have hread' := hread.hostname
    rw [hshown] at hread' ⊢
    rw [Schemas.ProvisioningRequest.effectiveComputerName_of_none hvalid
        (domain_of_disabled hread hvalid h).1,
      Schemas.hostnameOrName_of_some hread' (Schemas.ne_nil_of_vmName hvm),
      Browser.map_toUpper_toUpperCase (Schemas.toNat_of_vmName hvm)]

theorem fqdn_of_validate : (shownIdentity b data).fqdn = request.effectiveFqdn ↔
    (data.domainJoin.enabled →
      Schemas.normalizeDomain p (sentDomain b data) = sentDomain b data) := by
  cases h : data.domainJoin.enabled with
  | true =>
    obtain ⟨join, hjoin, hdomain, -⟩ := domain_of_enabled hread hvalid h
    have hvalidated := Schemas.ProvisioningRequest.validated_of_validate hvalid
    have hname := computerName_of_validate hread hvalid
    rw [hvalidated.effectiveFqdn_eq hjoin, ← hname, shownIdentity_of_enabled hread hvalid h,
      hdomain]
    have hlower : (data.vmName.map Char.toUpper).map Char.toLower =
        data.vmName.map Char.toLower := by
      rw [List.map_map]
      exact List.map_congr_left fun c _ => toLower_toUpper c
    simp only [Browser.toUpperCase_ascii (ascii_vmName hread hvalid), hlower]
    rw [sentDomain, Browser.toLowerCase_fqdn (ascii_vmName hread hvalid)]
    simp [eq_comm]
  | false =>
    have hnone := (domain_of_disabled hread hvalid h).2
    simp [shownIdentity, deriveGuestIdentity, joinedDomain, h, domainOrEmpty,
      Schemas.ProvisioningRequest.effectiveFqdn, hnone]

end

/-! ## Drafts that the directory step accepts -/

theorem firstMessages_keeps (issues : List (String × String)) {errors : List (String × String)}
    (h : errors ≠ []) : issues.foldl (fun errors issue =>
      if (errors.lookup issue.1).isSome then errors else errors ++ [issue]) errors ≠ [] := by
  induction issues generalizing errors with
  | nil => exact h
  | cons issue issues ih =>
    rw [List.foldl_cons]
    apply ih
    split
    · exact h
    · simp

theorem eq_nil_of_firstMessages {issues : List (String × String)}
    (h : firstMessages issues = []) : issues = [] := by
  cases issues with
  | nil => rfl
  | cons issue issues => exact absurd h (firstMessages_keeps issues (List.cons_ne_nil issue []))

theorem dnsDomainRegex_of_validateDirectory {data : WizardData}
    (h : validateDirectory b data = []) (henabled : data.domainJoin.enabled = true) :
    dnsDomainRegex (sentDomain b data) := by
  have hissues := eq_nil_of_firstMessages h
  rw [directoryIssues, if_pos henabled] at hissues
  obtain ⟨hissues, -⟩ := List.append_eq_nil_iff.mp hissues
  obtain ⟨-, hdomain⟩ := List.append_eq_nil_iff.mp hissues
  obtain ⟨hdomain, -⟩ := List.append_eq_nil_iff.mp hdomain
  obtain ⟨hregex, -⟩ := List.append_eq_nil_iff.mp hdomain
  by_contra hnot
  have hsome : issue (!dnsDomainRegex (b.normalizeDomain data.domainJoin.domain))
      "domain_join.domain" "Enter a valid DNS domain, for example corp.example.com." ≠ [] := by
    rw [issue, if_pos (by simpa [sentDomain] using hnot)]
    simp
  exact hsome hregex

/-- Among the lowered texts the flag of the regular expression makes no difference. -/
theorem dnsDomain_sentDomain {data : WizardData} (h : dnsDomainRegex (sentDomain b data)) :
    Schemas.dnsDomain (sentDomain b data) := by
  have hkept : ∀ c ∈ sentDomain b data, c.toLower = c := by
    intro c hc
    have hchar := Schemas.domainChar_of_dnsDomain h c.toLower (List.mem_map_of_mem hc)
    have hascii : c.toNat < 128 := by
      by_contra hnot
      have hlower := Schemas.toNat_of_domainChar hchar
      rw [toLower_of_not_ascii (not_lt.mp hnot)] at hlower
      exact hnot hlower
    have hsettled := Browser.settled_normalizeDomain (b := b) _ c hc
    rw [b.lower.ascii c hascii] at hsettled
    exact List.cons_eq_cons.mp hsettled |>.1
  have hsame : (sentDomain b data).map Char.toLower = sentDomain b data :=
    (List.map_congr_left hkept).trans (List.map_id _)
  rwa [dnsDomainRegex, hsame] at h

/-- A domain that the step accepts is one that the server does not rewrite. -/
theorem sentDomain_kept {data : WizardData} (h : validateDirectory b data = [])
    (henabled : data.domainJoin.enabled = true) :
    Schemas.normalizeDomain p (sentDomain b data) = sentDomain b data :=
  Schemas.normalizeDomain_of_dnsDomain p
    (dnsDomain_sentDomain b (dnsDomainRegex_of_validateDirectory b h henabled))

/-! ## Stored requests -/

/-- The value of a member of an object. -/
def member (key : String) : JsonDocument → Option JsonDocument
  | .object fields => fields.lookup key
  | _ => none

def textMember (key : String) (j : JsonDocument) : Option (List Char) :=
  match member key j with
  | some (.text cs) => some cs
  | _ => none

/-- `_request_view`: the request that a job's page gets, and whether it is a legacy one. -/
def requestView (p : Platform) : Option JsonDocument → Option JsonDocument × Bool
  | some (.object payload) =>
    match parseStoredRequest p (.object payload) with
    | some request => (some (modelDump p request), false)
    | none => (some (.object payload), true)
  | _ => (none, false)

/-- The identity of a request, as `RequestSnapshot` shows it. -/
def snapshotIdentity (view : JsonDocument) : Option EffectiveGuestIdentity := do
  let vm ← member "vm" view
  let name ← textMember "name" vm
  let guest ← member "guest" view
  let domain := (member "domain_join" guest).bind (textMember "domain")
  return derivePersistedGuestIdentity b name (textMember "hostname" guest) domain

theorem textMember_hostname (guest : Schemas.GuestSpec) :
    textMember "hostname" ((Schemas.guestSpec p).write guest) = guest.hostname := by
  have hmember : member "hostname" ((Schemas.guestSpec p).write guest) =
      some (Schemas.textOrNull.write guest.hostname) := rfl
  rw [textMember, hmember]
  cases guest.hostname with
  | none => rfl
  | some hostname => rfl

theorem textMember_domain (guest : Schemas.GuestSpec) :
    (member "domain_join" ((Schemas.guestSpec p).write guest)).bind (textMember "domain") =
      guest.domainJoin.map (·.domain) := by
  have hmember : member "domain_join" ((Schemas.guestSpec p).write guest) =
      some ((Schemas.domainJoinSpec.nullable nofun).write guest.domainJoin) := rfl
  rw [hmember]
  cases guest.domainJoin with
  | none => rfl
  | some join => rfl

theorem snapshotIdentity_modelDump (request : Schemas.ProvisioningRequest p) :
    snapshotIdentity b (modelDump p request) =
      some (derivePersistedGuestIdentity b request.vm.name request.guest.hostname
        (request.guest.domainJoin.map (·.domain))) := by
  have hname : (member "vm" (modelDump p request)).bind (textMember "name") =
      some request.vm.name := rfl
  have hguest : member "guest" (modelDump p request) =
      some ((Schemas.guestSpec p).write request.guest) := rfl
  obtain ⟨vm, hvm, hname⟩ := Option.bind_eq_some_iff.mp hname
  simp only [snapshotIdentity, hvm, hname, hguest, Option.bind_eq_bind, Option.bind_some,
    textMember_hostname, textMember_domain]
  rfl

theorem domainOrEmpty_of_dnsDomain {domain : List Char} (h : Schemas.dnsDomain domain) :
    domainOrEmpty b (some domain) = domain := by
  have hascii := Schemas.toNat_of_dnsDomain h
  have htrim : jsTrim domain = domain := by
    apply trim_of_forall
    intro c hc
    have hspace : Schemas.domainChar c → jsSpace c = false :=
      forall_ascii (p := fun c => Schemas.domainChar c → jsSpace c = false) (by decide +kernel)
        (hascii c hc)
    exact hspace (Schemas.domainChar_of_dnsDomain h c hc)
  rw [domainOrEmpty_some, Browser.normalizeDomain, htrim, Schemas.dropRight_of_dnsDomain h,
    Browser.toLowerCase_ascii hascii, Schemas.toLower_of_dnsDomain h]

theorem textOr_hostname (request : Schemas.ProvisioningRequest p) :
    textOr request.guest.hostname request.vm.name = request.hostnameOrName := by
  unfold Schemas.ProvisioningRequest.hostnameOrName
  rcases request.guest.hostname with _ | _ | _
  · rfl
  · rfl
  · rfl

theorem derivePersisted_of_validated {request : Schemas.ProvisioningRequest p}
    (h : request.Validated) :
    derivePersistedGuestIdentity b request.vm.name request.guest.hostname
        (request.guest.domainJoin.map (·.domain)) =
      { computerName := request.effectiveComputerName, fqdn := request.effectiveFqdn } := by
  have hname := request.vmName_hostnameOrName h.vmName_name
    (Schemas.ProvisioningRequest.names_of_validate h).2
  have hcomputer : b.toUpperCase (textOr request.guest.hostname request.vm.name) =
      request.effectiveComputerName := by
    rw [textOr_hostname, Browser.toUpperCase_ascii (Schemas.toNat_of_vmName hname),
      h.effectiveComputerName_eq]
  unfold derivePersistedGuestIdentity
  cases hjoin : request.guest.domainJoin with
  | none => simp [hcomputer, domainOrEmpty, Schemas.ProvisioningRequest.effectiveFqdn, hjoin]
  | some join =>
    have hdns := h.dnsDomain_domain hjoin
    have hdomain := domainOrEmpty_of_dnsDomain b hdns
    have hascii := Schemas.toNat_of_vmName h.vmName_effective
    have hlower := Browser.toLowerCase_fqdn (b := b) hascii join.domain
    rw [← domainOrEmpty_some, hdomain] at hlower
    simp only [Option.map_some, hcomputer, hdomain, hlower, h.effectiveFqdn_eq hjoin,
      if_pos (Schemas.ne_nil_of_dnsDomain hdns)]

theorem validated_of_stored {payload : JsonDocument} {request : Schemas.ProvisioningRequest p}
    (h : parseStoredRequest p payload = some request) : request.Validated := by
  cases payload with
  | object payload =>
    obtain ⟨read, -, hvalid⟩ := bind_eq_ok.mp (toOption_eq_some.mp h)
    exact Schemas.ProvisioningRequest.validated_of_validate hvalid
  | _ => cases h

/-! ## What is shown and what is provisioned -/

/-- The computer's name that the wizard shows is the one that the server accepts; the FQDN is,
exactly if the server leaves the domain as it was sent, and it does where the directory step has
no errors. The job page shows both names of the request that the worker loads. -/
theorem shownIdentity_provisioned (p : Platform) :
    (∀ data request, submissionValidate p (requestBody b data) = .ok request →
      (shownIdentity b data).computerName = request.effectiveComputerName ∧
      ((shownIdentity b data).fqdn = request.effectiveFqdn ↔ (data.domainJoin.enabled →
        Schemas.normalizeDomain p (sentDomain b data) = sentDomain b data)) ∧
      (validateDirectory b data = [] →
        (shownIdentity b data).fqdn = request.effectiveFqdn)) ∧
    ∀ jobId payload request, parseStoredRequest p payload = some request →
      loadRequestPayload p jobId (some payload) = .ok request ∧
      ∃ view, requestView p (some payload) = (some view, false) ∧
        snapshotIdentity b view = some
          { computerName := request.effectiveComputerName, fqdn := request.effectiveFqdn } := by
  constructor
  · intro data request h
    obtain ⟨read, hread, hvalid⟩ := Schemas.read_of_submission h
    have hread := readAs_of_read b hread
    have hfqdn := fqdn_of_validate hread hvalid
    exact ⟨computerName_of_validate hread hvalid, hfqdn,
      fun hstep => hfqdn.mpr (sentDomain_kept b hstep)⟩
  · intro jobId payload request h
    refine ⟨by rw [loadRequestPayload, h], modelDump p request, ?_, ?_⟩
    · cases payload with
      | object payload => rw [requestView, h]
      | _ => cases h
    · rw [snapshotIdentity_modelDump, derivePersisted_of_validated b (validated_of_stored h)]

/-- A draft that joins a domain. -/
def joiningDraft (domain : String) : WizardData :=
  { initialWizardData with
    vcenterId := "9b2f7e0c-52a1-4c6e-8d1f-0a4b5c6d7e8f".toList
    datacenterId := "datacenter-2".toList
    clusterId := "domain-c8".toList
    isoId := "[iso] server.iso".toList
    vmName := "web-01".toList
    guestCredentialSecretRef := "guest/admin".toList
    domainJoin := { enabled := true, domain := domain.toList, ou := [],
                    credentialSecretRef := "domain/join".toList }
    networkId := "network-7".toList
    ipMode := .dhcp }

theorem shownIdentity_provisioned_joining :
    (∃ request, submissionValidate Schemas.strictPlatform
        (requestBody asciiBrowser (joiningDraft " Corp.Example. ")) = .ok request ∧
      request.effectiveFqdn = some "web-01.corp.example".toList) ∧
    ∃ view, requestView Schemas.strictPlatform
        (some (.object (Schemas.joiningFields "old-name"))) = (some view, false) ∧
      snapshotIdentity asciiBrowser view = some
        { computerName := "OLD-NAME".toList, fqdn := some "old-name.corp.example".toList } := by
  obtain ⟨hsubmitted, hstored⟩ := shownIdentity_provisioned asciiBrowser Schemas.strictPlatform
  have haccepted : (submissionValidate Schemas.strictPlatform (requestBody asciiBrowser
      (joiningDraft " Corp.Example. "))).toOption.isSome = true := by decide +kernel
  have hread : ((parseStoredRequest Schemas.strictPlatform
      (.object (Schemas.joiningFields "old-name"))).any fun request =>
        request.effectiveComputerName = "OLD-NAME".toList ∧
          request.effectiveFqdn = some "old-name.corp.example".toList) = true := by decide +kernel
  constructor
  · obtain ⟨request, hsome⟩ := Option.isSome_iff_exists.mp haccepted
    have hrequest := toOption_eq_some.mp hsome
    obtain ⟨-, -, hfqdn⟩ := hsubmitted _ _ hrequest
    exact ⟨request, hrequest, (hfqdn (by decide +kernel)).symm.trans (by decide +kernel)⟩
  · obtain ⟨request, hsome, hnames⟩ := (Option.any_eq_true _ _).mp hread
    obtain ⟨hname, hfqdn⟩ := of_decide_eq_true hnames
    obtain ⟨-, view, hview, hshown⟩ := hstored "1" _ _ hsome
    rw [hname, hfqdn] at hshown
    exact ⟨view, hview, hshown⟩

/-- The browser takes away the last dot, and the server then the space and the dot before it. -/
theorem shownIdentity_not_provisioned :
    ¬ ∀ data request, submissionValidate Schemas.strictPlatform (requestBody asciiBrowser data) =
        .ok request →
      shownIdentity asciiBrowser data =
        { computerName := request.effectiveComputerName, fqdn := request.effectiveFqdn } := by
  intro h
  have haccepted : ((submissionValidate Schemas.strictPlatform (requestBody asciiBrowser
      (joiningDraft "corp.example. ."))).toOption.any fun request =>
        request.effectiveFqdn = some "web-01.corp.example".toList) = true := by decide +kernel
  have hshown : (shownIdentity asciiBrowser (joiningDraft "corp.example. .")).fqdn =
      some "web-01.corp.example. ".toList := by decide +kernel
  obtain ⟨request, hsome, hfqdn⟩ := (Option.any_eq_true _ _).mp haccepted
  rw [h _ _ (toOption_eq_some.mp hsome)] at hshown
  exact absurd ((of_decide_eq_true hfqdn).symm.trans hshown) (by decide)

end InfraOps.Wizard
