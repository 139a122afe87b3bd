import InfraOps.Schemas.StoredRequest

/-!
# The names of validated requests

The machine's name, the hostname and the domain of a request that was validated, and the names
that Windows and the directory get from them.
-/

namespace InfraOps.Schemas

variable {p : Platform}

theorem toNat_of_vmName {name : List Char} (h : vmName name) : ∀ c ∈ name, c.toNat < 128 := by
  intro c hc
  simp only [vmName, nameOf, Bool.and_eq_true, List.all_eq_true, Bool.or_eq_true,
    decide_eq_true_eq] at h
  rcases h.1.1.2 c hc with halnum | rfl | rfl
  · exact toNat_of_asciiAlphanum halnum
  · decide
  · decide

theorem ne_nil_of_dnsDomain {domain : List Char} (h : dnsDomain domain) : domain ≠ [] := by
  rintro rfl
  cases h

theorem DomainJoinSpec.domain_of_validate {join validated : DomainJoinSpec}
    (h : join.validate p = .ok validated) :
    validated.domain = normalizeDomain p join.domain ∧ dnsDomain validated.domain := by
  obtain ⟨hcheck, hjoin⟩ := unit_bind_eq_ok.mp h
  cases hjoin
  obtain ⟨-, hrest⟩ := unit_bind_eq_ok.mp hcheck
  exact ⟨rfl, require_eq_ok.mp (unit_bind_eq_ok.mp hrest).1⟩

namespace ProvisioningRequest

variable {request : ProvisioningRequest p}

theorem names_of_validate {validated : ProvisioningRequest p}
    (h : request.validate = .ok validated) :
    vmName request.vm.name ∧ checkHostname request.guest.hostname = .ok () := by
  obtain ⟨hvm, -, -, guest, hguest, -⟩ := request.validate_eq_ok.mp h
  obtain ⟨-, hrest⟩ := unit_bind_eq_ok.mp hvm
  exact ⟨require_eq_ok.mp (unit_bind_eq_ok.mp hrest).1, (GuestSpec.validate_eq_ok.mp hguest).1⟩

/-- What the validation of a request leaves as it is, and what it does to the domain. -/
theorem kept_of_validate {validated : ProvisioningRequest p}
    (h : request.validate = .ok validated) :
    validated.vm = request.vm ∧
      validated.identityPolicyVersion = request.identityPolicyVersion ∧
      optionally (·.validate p) request.guest.domainJoin = .ok validated.guest.domainJoin := by
  obtain ⟨-, -, -, guest, hguest, network, -, -, -, hid⟩ := request.validate_eq_ok.mp h
  obtain ⟨-, -, domainJoin, hjoin, rfl⟩ := GuestSpec.validate_eq_ok.mp hguest
  obtain ⟨-, ⟨-, rfl⟩ | ⟨-, rfl⟩⟩ := (validateIdentity_eq_ok _).mp hid
  · exact ⟨rfl, rfl, hjoin⟩
  · exact ⟨rfl, rfl, hjoin⟩

/-- Without a domain the computer's name is the hostname or the machine's name. -/
theorem effectiveComputerName_of_none {validated : ProvisioningRequest p}
    (h : request.validate = .ok validated) (hnone : request.guest.domainJoin = none) :
    validated.effectiveComputerName = request.hostnameOrName.map Char.toUpper := by
  obtain ⟨-, -, -, guest, hguest, network, -, -, -, hid⟩ := request.validate_eq_ok.mp h
  obtain ⟨-, -, domainJoin, hjoin, rfl⟩ := GuestSpec.validate_eq_ok.mp hguest
  rw [hnone] at hjoin
  cases hjoin
  obtain ⟨-, ⟨-, rfl⟩ | ⟨hnot, -⟩⟩ := (validateIdentity_eq_ok _).mp hid
  · have hname := hostnameOrName_renamed
      { request with guest := { request.guest with domainJoin := none }, network } rfl
    exact (congrArg (List.map Char.toUpper) hname).trans (toUpper_toUpper _)
  · exact absurd (.inl rfl) hnot

/-- In a domain the computer has the machine's name. -/
theorem effectiveComputerName_of_some {join : DomainJoinSpec}
    (hjoin : request.guest.domainJoin = some join) (hpolicy : request.identityPolicyVersion = .v2) :
    request.effectiveComputerName = request.vm.name.map Char.toUpper := by
  rw [effectiveComputerName, hjoin, hpolicy]

/-- A request that was validated is validated as it is. -/
def Validated (request : ProvisioningRequest p) : Prop := request.validate = .ok request

theorem validated_of_validate {validated : ProvisioningRequest p}
    (h : request.validate = .ok validated) : validated.Validated :=
  reaccepts_validate _ _ h

namespace Validated

variable (h : request.Validated)

include h

theorem vmName_name : vmName request.vm.name := (names_of_validate h).1

theorem dnsDomain_domain {join : DomainJoinSpec} (hjoin : request.guest.domainJoin = some join) :
    dnsDomain join.domain := by
  have hvalid := (kept_of_validate h).2.2
  rw [hjoin] at hvalid
  obtain ⟨validated, hvalidated, hsome⟩ := map_eq_ok.mp hvalid
  cases hsome
  exact (DomainJoinSpec.domain_of_validate hvalidated).2

/-- A request that is renamed carries its new hostname. -/
theorem hostname_of_renames (hren : request.Renames) :
    request.guest.hostname = some (request.shortName.map Char.toUpper) := by
  obtain ⟨-, -, -, guest, -, network, -, -, -, hid⟩ := request.validate_eq_ok.mp h
  obtain ⟨-, ⟨hrenamed, hsame⟩ | ⟨hnot, hsame⟩⟩ := (validateIdentity_eq_ok _).mp hid
  · rw [hsame, shortName_renamed _ hrenamed]
    rfl
  · rw [hsame] at hren
    exact absurd hren hnot

theorem vmName_effective : vmName request.effectiveComputerName := by
  have hname := request.vmName_hostnameOrName h.vmName_name (names_of_validate h).2
  unfold effectiveComputerName
  split
  · rw [vmName_toUpper]
    exact h.vmName_name
  · rw [vmName_toUpper]
    exact hname

/-- The hostname that was stored, or else the machine's name, is the computer's name. -/
theorem effectiveComputerName_eq :
    request.effectiveComputerName = request.hostnameOrName.map Char.toUpper := by
  unfold effectiveComputerName
  split
  · rename_i join hjoin hpolicy
    have hhost := h.hostname_of_renames (.inr hpolicy)
    rw [request.shortName_of_some hjoin hpolicy] at hhost
    have hne : request.vm.name.map Char.toUpper ≠ [] := by
      simpa using ne_nil_of_vmName h.vmName_name
    rw [hostnameOrName_of_some hhost hne, toUpper_toUpper]
  · rfl

theorem effectiveFqdn_eq {join : DomainJoinSpec} (hjoin : request.guest.domainJoin = some join) :
    request.effectiveFqdn =
      some (request.effectiveComputerName.map Char.toLower ++ '.' :: join.domain) := by
  have hdomain := h.dnsDomain_domain hjoin
  have hascii : ∀ c ∈ request.effectiveComputerName ++ '.' :: join.domain, c.toNat < 128 := by
    intro c hc
    rcases List.mem_append.mp hc with hc | hc
    · exact toNat_of_vmName h.vmName_effective c hc
    · rcases List.mem_cons.mp hc with rfl | hc
      · decide
      · exact toNat_of_dnsDomain hdomain c hc
  rw [effectiveFqdn, hjoin, Option.map_some, p.lower_ascii _ hascii, List.map_append,
    List.map_cons, toLower_of_dnsDomain hdomain]
  rfl

end Validated

end ProvisioningRequest

end InfraOps.Schemas
