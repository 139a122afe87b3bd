import InfraOps.Schemas.Provisioning

/-!
# Validated requests

Several validators of a request rewrite what they check: the domain, the addresses, the DNS
servers and the hostname. Each of them accepts what it has rewritten and leaves it as it is, and
so does the validation of the whole request.
-/

namespace InfraOps.Schemas

@[simp] theorem require_eq_ok {ok : Bool} {text : String} :
    require ok text = .ok () ↔ ok = true := by
  unfold require
  split
  · simp_all
  · simp_all

@[simp] theorem lengthBetween_eq_ok {least most length : Nat} :
    lengthBetween least most length = .ok () ↔ least ≤ length ∧ length ≤ most := by
  simp [lengthBetween, unit_bind_eq_ok]

/-! ## Domains -/

theorem toNat_of_asciiLower {c : Char} (h : asciiLower c) : c.toNat < 128 := by
  simp only [asciiLower, Bool.and_eq_true, decide_eq_true_eq] at h
  exact ascii_of_le h.2 (by decide)

theorem toNat_of_lowerOrDigit {c : Char} (h : lowerOrDigit c) : c.toNat < 128 := by
  simp only [lowerOrDigit, Bool.or_eq_true, Bool.and_eq_true, decide_eq_true_eq] at h
  rcases h with h | h
  · exact toNat_of_asciiLower h
  · exact ascii_of_le h.2 (by decide)

/-- A character of a domain. -/
def domainChar (c : Char) : Bool := lowerOrDigit c || c = '-' || c = '.'

theorem toNat_of_domainChar {c : Char} (h : domainChar c) : c.toNat < 128 := by
  simp only [domainChar, Bool.or_eq_true, decide_eq_true_eq] at h
  rcases h with (h | rfl) | rfl
  · exact toNat_of_lowerOrDigit h
  · decide
  · decide

theorem domainChar_kept {c : Char} (h : domainChar c) : pySpace c = false ∧ c.toLower = c := by
  have hkept : domainChar c → pySpace c = false ∧ c.toLower = c :=
    forall_ascii (p := fun c => domainChar c → pySpace c = false ∧ c.toLower = c)
      (by decide +kernel) (toNat_of_domainChar h)
  exact hkept h

theorem domainChar_of_dnsLabel {label : List Char} (h : dnsLabel label) :
    ∀ c ∈ label, domainChar c := by
  intro c hc
  simp only [dnsLabel, Bool.and_eq_true, List.all_eq_true] at h
  have hlabel := h.1.1.2 c hc
  rw [domainChar, hlabel]
  rfl

theorem domainChar_of_dnsDomain {domain : List Char} (h : dnsDomain domain) :
    ∀ c ∈ domain, domainChar c := by
  intro c hc
  have hpiece : c = '.' ∨ ∃ label ∈ domain.splitOn '.', c ∈ label := mem_piece_of_mem hc
  rcases hpiece with rfl | ⟨label, hlabel, hc⟩
  · decide
  simp only [dnsDomain, Bool.and_eq_true, List.all_eq_true] at h
  obtain ⟨⟨-, hlabels⟩, htop⟩ := h
  have hne := List.splitOn_ne_nil '.' domain
  rw [← List.dropLast_concat_getLast hne] at hlabel
  rcases List.mem_append.mp hlabel with hlabel | hlabel
  · exact domainChar_of_dnsLabel (hlabels label hlabel) c hc
  · rw [List.getLast?_eq_some_getLast hne] at htop
    simp only [Option.all_some, Bool.and_eq_true, List.all_eq_true] at htop
    rw [List.mem_singleton.mp hlabel] at hc
    rw [domainChar, lowerOrDigit, htop.2 c hc]
    rfl

theorem getLast_ne_dot {domain : List Char} (h : dnsDomain domain) (hne : domain ≠ []) :
    domain.getLast hne ≠ '.' := by
  intro hdot
  have hsplit : domain.splitOn '.' = domain.dropLast.splitOn '.' ++ [[]] := by
    conv_lhs => rw [← List.dropLast_concat_getLast hne, hdot]
    rw [List.splitOn_append_cons_self]
    rfl
  simp [dnsDomain, hsplit] at h

theorem toNat_of_dnsDomain {domain : List Char} (h : dnsDomain domain) :
    ∀ c ∈ domain, c.toNat < 128 := by
  intro c hc
  exact toNat_of_domainChar (domainChar_of_dnsDomain h c hc)

theorem dropRight_of_dnsDomain {domain : List Char} (h : dnsDomain domain) :
    dropRight (· == '.') domain = domain := by
  apply List.rdropWhile_eq_self_iff.mpr
  intro hne
  simpa using getLast_ne_dot h hne

theorem toLower_of_dnsDomain {domain : List Char} (h : dnsDomain domain) :
    domain.map Char.toLower = domain := by
  have hkept : ∀ c ∈ domain, c.toLower = c := by
    intro c hc
    exact (domainChar_kept (domainChar_of_dnsDomain h c hc)).2
  exact (List.map_congr_left hkept).trans (List.map_id domain)

theorem normalizeDomain_of_dnsDomain (p : Platform) {domain : List Char} (h : dnsDomain domain) :
    normalizeDomain p domain = domain := by
  have hstrip : pyStrip domain = domain := by
    apply trim_of_forall
    intro c hc
    exact (domainChar_kept (domainChar_of_dnsDomain h c hc)).1
  rw [normalizeDomain, hstrip, dropRight_of_dnsDomain h, p.lower_ascii _ (toNat_of_dnsDomain h),
    toLower_of_dnsDomain h]

theorem DomainJoinSpec.reaccepts (p : Platform) : Reaccepts (DomainJoinSpec.validate p) := by
  intro join join' h
  obtain ⟨hcheck, hjoin⟩ := unit_bind_eq_ok.mp h
  cases hjoin
  obtain ⟨-, hrest⟩ := unit_bind_eq_ok.mp hcheck
  have hdomain := require_eq_ok.mp (unit_bind_eq_ok.mp hrest).1
  have hsame := normalizeDomain_of_dnsDomain p hdomain
  rw [DomainJoinSpec.validate, hsame, hcheck]
  rfl

/-! ## Addresses -/

@[simp] theorem validateIpv4_text (ip : Ipv4Address) (field : String) :
    validateIpv4 ip.text field = .ok ip := by
  rw [validateIpv4, ip.pyStrip_text, ip.parse_text]

theorem normalizeDns_cons_eq_ok {seen servers normalized : List (List Char)} {dns : List Char} :
    normalizeDns seen (dns :: servers) = .ok normalized ↔
      ∃ ip, validateIpv4 dns "DNS server" = .ok ip ∧ ip.text ∉ seen ∧
        ∃ rest, normalizeDns (ip.text :: seen) servers = .ok rest ∧
          normalized = ip.text :: rest := by
  constructor
  · intro h
    obtain ⟨ip, hip, h⟩ := bind_eq_ok.mp h
    obtain ⟨hnew, h⟩ := unit_bind_eq_ok.mp h
    obtain ⟨rest, hrest, h⟩ := bind_eq_ok.mp h
    cases h
    exact ⟨ip, hip, of_decide_eq_true (require_eq_ok.mp hnew), rest, hrest, rfl⟩
  · rintro ⟨ip, hip, hnew, rest, hrest, rfl⟩
    exact bind_eq_ok.mpr ⟨ip, hip, unit_bind_eq_ok.mpr
      ⟨require_eq_ok.mpr (decide_eq_true hnew), bind_eq_ok.mpr ⟨rest, hrest, rfl⟩⟩⟩

theorem reaccepts_normalizeDns (seen : List (List Char)) : Reaccepts (normalizeDns seen) := by
  intro servers servers' h
  induction servers generalizing seen servers' with
  | nil =>
    cases h
    rfl
  | cons dns servers ih =>
    obtain ⟨ip, -, hnew, rest, hrest, rfl⟩ := normalizeDns_cons_eq_ok.mp h
    exact normalizeDns_cons_eq_ok.mpr
      ⟨ip, validateIpv4_text ip _, hnew, rest, ih _ _ hrest, rfl⟩

theorem length_normalizeDns {seen servers servers' : List (List Char)}
    (h : normalizeDns seen servers = .ok servers') : servers'.length = servers.length := by
  induction servers generalizing seen servers' with
  | nil =>
    cases h
    rfl
  | cons dns servers ih =>
    obtain ⟨ip, -, -, rest, hrest, rfl⟩ := normalizeDns_cons_eq_ok.mp h
    rw [List.length_cons, List.length_cons, ih hrest]

theorem Ipv4Config.reaccepts : Reaccepts Ipv4Config.validate := by
  intro ipv4 ipv4' h
  obtain ⟨hlength, h⟩ := unit_bind_eq_ok.mp h
  obtain ⟨hcount, h⟩ := unit_bind_eq_ok.mp h
  obtain ⟨address, -, h⟩ := bind_eq_ok.mp h
  obtain ⟨gateway, -, h⟩ := bind_eq_ok.mp h
  obtain ⟨haddresses, h⟩ := unit_bind_eq_ok.mp h
  obtain ⟨dnsServers, hdns, h⟩ := bind_eq_ok.mp h
  cases h
  rw [Ipv4Config.validate, hlength, ok_bind, length_normalizeDns hdns, hcount, ok_bind,
    validateIpv4_text, ok_bind, validateIpv4_text, ok_bind, haddresses, ok_bind,
    reaccepts_normalizeDns [] _ _ hdns]
  rfl

theorem NetworkSpec.reaccepts : Reaccepts NetworkSpec.validate := by
  intro network network' h
  obtain ⟨hid, h⟩ := unit_bind_eq_ok.mp h
  obtain ⟨ipv4, hipv4, h⟩ := bind_eq_ok.mp h
  obtain ⟨hmode, h⟩ := unit_bind_eq_ok.mp h
  cases h
  have hsame := reaccepts_optionally Ipv4Config.reaccepts _ _ hipv4
  rw [NetworkSpec.validate, hid, ok_bind, hsame, ok_bind, hmode]
  rfl

/-! ## Names in capitals -/

/-- A test of characters that does not tell small from capital ASCII letters. -/
def CaseBlind (q : Char → Bool) : Prop := ∀ n < 128, q (Char.ofNat n).toUpper = q (Char.ofNat n)

instance (q : Char → Bool) : Decidable (CaseBlind q) :=
  inferInstanceAs (Decidable (∀ n < 128, q (Char.ofNat n).toUpper = q (Char.ofNat n)))

theorem CaseBlind.toUpper {q : Char → Bool} (h : CaseBlind q) (c : Char) : q c.toUpper = q c :=
  forall_toUpper (q := fun c d => q d = q c) (fun _ => rfl) h c

theorem CaseBlind.all {q : Char → Bool} (h : CaseBlind q) (name : List Char) :
    (name.map Char.toUpper).all q = name.all q := by
  rw [List.all_map]
  exact congrArg name.all (funext h.toUpper)

theorem CaseBlind.optionAll {q : Char → Bool} (h : CaseBlind q) (c : Option Char) :
    (c.map Char.toUpper).all q = c.all q := by
  cases c with
  | none => rfl
  | some c => exact h.toUpper c

theorem caseBlind_asciiAlphanum : CaseBlind asciiAlphanum := by decide +kernel

theorem nameOf_toUpper {inner : Char → Bool} (h : CaseBlind fun c => asciiAlphanum c || inner c)
    (name : List Char) : nameOf inner (name.map Char.toUpper) = nameOf inner name := by
  have hletter := caseBlind_asciiAlphanum
  simp [nameOf, h.all, hletter.optionAll, List.getLast?_map]

theorem vmName_toUpper (name : List Char) : vmName (name.map Char.toUpper) = vmName name :=
  nameOf_toUpper (by decide +kernel) name

theorem windowsComputerName_toUpper (name : List Char) :
    windowsComputerName (name.map Char.toUpper) = windowsComputerName name :=
  nameOf_toUpper (by decide +kernel) name

theorem isDigits_toUpper (name : List Char) : isDigits (name.map Char.toUpper) = isDigits name := by
  have hdigit : CaseBlind Ipv4Address.digit := by decide +kernel
  simp [isDigits, hdigit.all]

theorem toUpper_toUpper (name : List Char) :
    (name.map Char.toUpper).map Char.toUpper = name.map Char.toUpper := by
  have hsame : ∀ c : Char, c.toUpper.toUpper = c.toUpper :=
    forall_toUpper (q := fun c d => d.toUpper = c.toUpper) (fun _ => rfl) (by decide +kernel)
  simp [hsame]

/-! ## Guests -/

@[simp] theorem checkHostname_some {hostname : List Char} :
    checkHostname (some hostname) = .ok () ↔ hostname.length ≤ 64 ∧ vmName hostname = true := by
  simp [checkHostname, unit_bind_eq_ok]

theorem ne_nil_of_vmName {name : List Char} (h : vmName name) : name ≠ [] := by
  rintro rfl
  cases h

theorem length_of_nameOf {inner : Char → Bool} {name : List Char} (h : nameOf inner name) :
    name.length ≤ 63 := by
  simp only [nameOf, Bool.and_eq_true, decide_eq_true_eq] at h
  exact h.1.1.1.2

theorem GuestSpec.validate_eq_ok {p : Platform} {guest guest' : GuestSpec} :
    guest.validate p = .ok guest' ↔ checkHostname guest.hostname = .ok () ∧
      guest.check = .ok () ∧ ∃ domainJoin,
        optionally (·.validate p) guest.domainJoin = .ok domainJoin ∧
          guest' = { guest with domainJoin } := by
  rw [GuestSpec.validate, unit_bind_eq_ok, unit_bind_eq_ok, bind_eq_ok]
  simp [eq_comm, pure, Except.pure]

/-- A validated guest stays valid under any other permitted hostname. -/
theorem GuestSpec.validate_hostname {p : Platform} {guest guest' : GuestSpec}
    (h : guest.validate p = .ok guest') {hostname : Option (List Char)}
    (hhost : checkHostname hostname = .ok ()) :
    GuestSpec.validate p { guest' with hostname } = .ok { guest' with hostname } := by
  obtain ⟨-, hcheck, domainJoin, hjoin, rfl⟩ := GuestSpec.validate_eq_ok.mp h
  refine GuestSpec.validate_eq_ok.mpr ⟨hhost, hcheck, domainJoin, ?_, rfl⟩
  exact reaccepts_optionally (DomainJoinSpec.reaccepts p) _ _ hjoin

/-! ## Identities -/

namespace ProvisioningRequest

variable {p : Platform} (request : ProvisioningRequest p)

/-- The request under the hostname that `_validate_identity` gives it. -/
def renamed : ProvisioningRequest p :=
  { request with
    guest := { request.guest with hostname := some (request.shortName.map Char.toUpper) } }

/-- The requests that are renamed. -/
def Renames : Prop := request.guest.domainJoin.isNone ∨ request.identityPolicyVersion = .v2

theorem shortName_of_none (h : request.guest.domainJoin = none) :
    request.shortName = request.hostnameOrName := by
  rw [shortName, h]

theorem shortName_of_some {join : DomainJoinSpec} (h : request.guest.domainJoin = some join)
    (hpolicy : request.identityPolicyVersion = .v2) : request.shortName = request.vm.name := by
  rw [shortName, h, hpolicy]

/-- Without a domain the new hostname is the short name, in capitals. -/
theorem hostnameOrName_renamed (h : request.guest.domainJoin = none) :
    request.renamed.hostnameOrName = request.hostnameOrName.map Char.toUpper := by
  rw [hostnameOrName, renamed, request.shortName_of_none h]
  cases hname : request.hostnameOrName with
  | nil =>
    -- then there was no hostname, and the virtual machine has an empty name
    have hvm : request.vm.name = [] := by
      unfold hostnameOrName at hname
      split at hname
      · cases hname
      · exact hname
    exact hvm
  | cons c cs => rfl

theorem shortName_renamed (h : request.Renames) :
    request.renamed.shortName.map Char.toUpper = request.shortName.map Char.toUpper := by
  cases hjoin : request.guest.domainJoin with
  | none =>
    rw [request.shortName_of_none hjoin, request.renamed.shortName_of_none hjoin,
      request.hostnameOrName_renamed hjoin, toUpper_toUpper]
  | some join =>
    have hpolicy : request.identityPolicyVersion = .v2 := by simpa [Renames, hjoin] using h
    rw [request.shortName_of_some hjoin hpolicy, request.renamed.shortName_of_some hjoin hpolicy]
    rfl

theorem checkIdentity_renamed (h : request.Renames) :
    request.renamed.checkIdentity = request.checkIdentity := by
  have hname := request.shortName_renamed h
  have hwindows : windowsComputerName request.renamed.shortName =
      windowsComputerName request.shortName := by
    rw [← windowsComputerName_toUpper, hname, windowsComputerName_toUpper]
  have hdigits : isDigits request.renamed.shortName = isDigits request.shortName := by
    rw [← isDigits_toUpper, hname, isDigits_toUpper]
  have hlength : request.renamed.shortName.length = request.shortName.length := by
    simpa using congrArg List.length hname
  rw [checkIdentity, hwindows, hdigits, hlength]
  rfl

theorem renamed_renamed (h : request.Renames) : request.renamed.renamed = request.renamed := by
  rw [renamed, request.shortName_renamed h]
  rfl

theorem validateIdentity_eq_ok {request' : ProvisioningRequest p} :
    request.validateIdentity = .ok request' ↔
      (request.identityPolicyVersion = .v2 → request.checkIdentity = .ok ()) ∧
        (request.Renames ∧ request' = request.renamed ∨
          ¬ request.Renames ∧ request' = request) := by
  have hcond : (request.guest.domainJoin.isNone || request.identityPolicyVersion = .v2) = true ↔
      request.Renames := by simp [Renames]
  by_cases hpolicy : request.identityPolicyVersion = .v2
  · have hren : request.Renames := .inr hpolicy
    rw [validateIdentity, if_pos (hcond.mpr hren), if_pos hpolicy, unit_bind_eq_ok]
    simp [hren, hpolicy, renamed, pure, Except.pure, eq_comm]
  · by_cases hren : request.Renames
    · rw [validateIdentity, if_pos (hcond.mpr hren), if_neg hpolicy]
      simp [hren, hpolicy, renamed, pure, Except.pure, eq_comm]
    · rw [validateIdentity, if_neg (mt hcond.mp hren), if_neg hpolicy]
      simp [hren, hpolicy, pure, Except.pure, eq_comm]

theorem reaccepts_validateIdentity : Reaccepts (validateIdentity (p := p)) := by
  intro request request' h
  obtain ⟨hcheck, ⟨hren, rfl⟩ | ⟨hren, rfl⟩⟩ := request.validateIdentity_eq_ok.mp h
  · refine request.renamed.validateIdentity_eq_ok.mpr ⟨?_, .inl ⟨hren, ?_⟩⟩
    · rw [request.checkIdentity_renamed hren]
      exact hcheck
    · rw [request.renamed_renamed hren]
  · exact h

/-! ## Requests -/

theorem vmName_hostnameOrName (hvm : vmName request.vm.name)
    (hhost : checkHostname request.guest.hostname = .ok ()) : vmName request.hostnameOrName := by
  unfold hostnameOrName
  split
  · rename_i c cs hname
    rw [hname] at hhost
    exact (checkHostname_some.mp hhost).2
  · exact hvm

theorem vmName_shortName (hvm : vmName request.vm.name)
    (hhost : checkHostname request.guest.hostname = .ok ()) : vmName request.shortName := by
  unfold shortName
  split
  · exact request.vmName_hostnameOrName hvm hhost
  · exact request.vmName_hostnameOrName hvm hhost
  · exact hvm

theorem checkHostname_renamed (hvm : request.vm.check = .ok ())
    (hhost : checkHostname request.guest.hostname = .ok ()) :
    checkHostname request.renamed.guest.hostname = .ok () := by
  obtain ⟨-, hrest⟩ := unit_bind_eq_ok.mp hvm
  have hname : vmName (request.shortName.map Char.toUpper) := by
    rw [vmName_toUpper]
    exact request.vmName_shortName (require_eq_ok.mp (unit_bind_eq_ok.mp hrest).1) hhost
  refine checkHostname_some.mpr ⟨?_, hname⟩
  have hlength := length_of_nameOf hname
  omega

theorem validate_eq_ok {request' : ProvisioningRequest p} : request.validate = .ok request' ↔
    request.vm.check = .ok () ∧ request.compute.check = .ok () ∧ request.hardware.check = .ok () ∧
      ∃ guest, request.guest.validate p = .ok guest ∧
        ∃ network, request.network.validate = .ok network ∧
          lengthBetween 0 20 request.certificatePackageIds.length = .ok () ∧
          lengthBetween 0 50 request.applicationIds.length = .ok () ∧
          validateIdentity { request with guest, network } = .ok request' := by
  simp only [validate, unit_bind_eq_ok, bind_eq_ok (α := GuestSpec), bind_eq_ok (α := NetworkSpec)]

theorem reaccepts_validate : Reaccepts (validate (p := p)) := by
  intro request request' h
  obtain ⟨hvm, hcompute, hhardware, guest, hguest, network, hnetwork, hpackages, happs, hid⟩ :=
    request.validate_eq_ok.mp h
  have hhost : checkHostname guest.hostname = .ok () := by
    obtain ⟨hhost, -, -, -, rfl⟩ := GuestSpec.validate_eq_ok.mp hguest
    exact hhost
  have hsame := NetworkSpec.reaccepts _ _ hnetwork
  have hagain := reaccepts_validateIdentity _ _ hid
  obtain ⟨-, ⟨-, rfl⟩ | ⟨-, rfl⟩⟩ := (validateIdentity_eq_ok _).mp hid
  · have hnew := checkHostname_renamed { request with guest, network } hvm hhost
    exact (validate_eq_ok _).mpr ⟨hvm, hcompute, hhardware,
      _, GuestSpec.validate_hostname hguest hnew, _, hsame, hpackages, happs, hagain⟩
  · exact (validate_eq_ok _).mpr ⟨hvm, hcompute, hhardware,
      _, GuestSpec.validate_hostname hguest hhost, _, hsame, hpackages, happs, hagain⟩

end ProvisioningRequest

end InfraOps.Schemas
