import InfraOps.Schemas.Validation

/-!
# The two validators of static addresses

`Ipv4Config` and `validate_static_ipv4` check the same subnet rules and some of their own: the
preflight check is stricter about the gateway and the DNS servers, the schema about how many
servers there are.
-/

namespace InfraOps.Schemas

/-! ## `validate_static_ipv4` -/

structure IpValidationIssue where
  field : String
  message : String

def issueIf (condition : Bool) (field message : String) : List IpValidationIssue :=
  if condition then [{ field, message }] else []

/-- The first address of the network of an address, and the last. -/
def networkStart (prefixLength : Int) (address : Ipv4Address) : Nat :=
  address.value / networkSize prefixLength * networkSize prefixLength

def broadcast (prefixLength : Int) (address : Ipv4Address) : Nat :=
  networkStart prefixLength address + (networkSize prefixLength - 1)

def insideNetwork (prefixLength : Int) (address gateway : Ipv4Address) : Bool :=
  networkStart prefixLength address ≤ gateway.value &&
    gateway.value ≤ broadcast prefixLength address

/-- A gateway at either end of its network. -/
def endGateway (prefixLength : Int) (address gateway : Ipv4Address) : Bool :=
  gateway.value = networkStart prefixLength address ||
    gateway.value = broadcast prefixLength address

def gatewayIssues (prefixLength : Int) (address gateway : Ipv4Address) : List IpValidationIssue :=
  (if insideNetwork prefixLength address gateway then
    issueIf (endGateway prefixLength address gateway) "gateway"
      "Gateway cannot be the network or broadcast address."
  else
    [{ field := "gateway"
       message := s!"Gateway {String.ofList gateway.text} is outside the " ++
        s!"{String.ofList (Ipv4Address.ofValue (networkStart prefixLength address)).text}" ++
        s!"/{prefixLength} subnet." }]) ++
  issueIf (gateway = address) "gateway" "Gateway must differ from the VM's own address."

def subnetIssues (prefixLength : Int) (address : Ipv4Address) (gateway : Option Ipv4Address) :
    List IpValidationIssue :=
  issueIf (address.value = networkStart prefixLength address) "address"
    "The address equals the network address." ++
  issueIf (address.value = broadcast prefixLength address) "address"
    "The address equals the broadcast address." ++
  match gateway with
  | none => []
  | some gateway => gatewayIssues prefixLength address gateway

def reservedServers : List (List Char) := ["0.0.0.0".toList, "255.255.255.255".toList]

def dnsIssues (seen : List (List Char)) (index : Nat) :
    List (List Char) → List IpValidationIssue
  | [] => []
  | dns :: servers =>
    let field := s!"dns_servers[{index}]"
    match Ipv4Address.parse (pyStrip dns) with
    | none =>
      { field, message := s!"'{String.ofList dns}' is not a valid IPv4 address." } ::
        dnsIssues seen (index + 1) servers
    | some ip =>
      issueIf (reservedServers.contains ip.text) field
        s!"'{String.ofList dns}' is not a usable DNS server address." ++
      issueIf (seen.contains ip.text) field s!"Duplicate DNS server '{String.ofList dns}'." ++
      dnsIssues (ip.text :: seen) (index + 1) servers

def validateStaticIpv4 (address : List Char) (prefixLength : Int) (gateway : List Char)
    (dnsServers : List (List Char)) : List IpValidationIssue :=
  match Ipv4Address.parse (pyStrip address) with
  | none =>
    [{ field := "address", message := s!"'{String.ofList address}' is not a valid IPv4 address." }]
  | some ip =>
    let supported := 8 ≤ prefixLength ∧ prefixLength ≤ 32
    let gw := Ipv4Address.parse (pyStrip gateway)
    issueIf (!supported) "prefix"
      s!"Prefix /{prefixLength} is outside the supported 8–32 range." ++
    issueIf gw.isNone "gateway" s!"'{String.ofList gateway}' is not a valid IPv4 address." ++
    (if supported then subnetIssues prefixLength ip gw else []) ++
    dnsIssues [] 1 dnsServers

/-! ## What both check -/

/-- The subnet rules that the two share, on what they parse. -/
structure SubnetRules (prefixLength : Int) (address gateway : Ipv4Address) : Prop where
  notNetwork : address.value ≠ networkStart prefixLength address
  notBroadcast : address.value ≠ broadcast prefixLength address
  inside : insideNetwork prefixLength address gateway = true
  other : gateway ≠ address

/-- The servers parse to these addresses, none of them twice. -/
def DnsRules (servers : List (List Char)) (ips : List Ipv4Address) : Prop :=
  servers.map (fun dns => Ipv4Address.parse (pyStrip dns)) = ips.map some ∧ ips.Nodup

structure SharedRules (ipv4 : Ipv4Config) (address gateway : Ipv4Address)
    (servers : List Ipv4Address) : Prop where
  parsed : Ipv4Address.parse (pyStrip ipv4.address) = some address
  gatewayParsed : Ipv4Address.parse (pyStrip ipv4.gateway) = some gateway
  subnet : SubnetRules ipv4.prefixLength address gateway
  dns : DnsRules ipv4.dnsServers servers

/-- A server that only the preflight check refuses. -/
def reservedServer (ip : Ipv4Address) : Bool := reservedServers.contains ip.text

theorem text_injective {ip other : Ipv4Address} (h : ip.text = other.text) : ip = other := by
  have hparse := ip.parse_text
  rw [h, other.parse_text] at hparse
  exact (Option.some.inj hparse).symm

/-! ## The schema -/

theorem between_eq_ok {least most n : Int} :
    between least most n = .ok () ↔ least ≤ n ∧ n ≤ most := by
  simp [between, unit_bind_eq_ok]

theorem validateIpv4_eq_ok {value : List Char} {field : String} {ip : Ipv4Address} :
    validateIpv4 value field = .ok ip ↔ Ipv4Address.parse (pyStrip value) = some ip := by
  rw [validateIpv4]
  cases Ipv4Address.parse (pyStrip value) with
  | none => simp
  | some parsed => simp

theorem insideNetwork_iff {prefixLength : Int} {address gateway : Ipv4Address} :
    insideNetwork prefixLength address gateway = true ↔
      networkStart prefixLength address ≤ gateway.value ∧
        gateway.value ≤ broadcast prefixLength address := by
  simp only [insideNetwork, Bool.and_eq_true, decide_eq_true_eq]

theorem checkAddresses_eq_ok {prefixLength : Int} {address gateway : Ipv4Address} :
    checkAddresses prefixLength address gateway = .ok () ↔
      SubnetRules prefixLength address gateway := by
  simp only [checkAddresses, unit_bind_eq_ok, require_eq_ok, decide_eq_true_eq]
  constructor
  · rintro ⟨hnetwork, hbroadcast, hinside, hother⟩
    exact ⟨hnetwork, hbroadcast, insideNetwork_iff.mpr hinside, hother⟩
  · intro h
    exact ⟨h.notNetwork, h.notBroadcast, insideNetwork_iff.mp h.inside, h.other⟩

/-- The servers follow the rules, with addresses that are allowed and not among those seen. -/
def DnsAccepted (allowed : Ipv4Address → Prop) (seen : List Ipv4Address)
    (servers : List (List Char)) : Prop :=
  ∃ ips, DnsRules servers ips ∧ ∀ ip ∈ ips, ip ∉ seen ∧ allowed ip

theorem dnsAccepted_nil (allowed : Ipv4Address → Prop) (seen : List Ipv4Address) :
    DnsAccepted allowed seen [] :=
  ⟨[], ⟨rfl, List.nodup_nil⟩, fun _ h => absurd h List.not_mem_nil⟩

theorem dnsAccepted_cons (allowed : Ipv4Address → Prop) (seen : List Ipv4Address)
    (dns : List Char) (servers : List (List Char)) :
    DnsAccepted allowed seen (dns :: servers) ↔
      ∃ ip, Ipv4Address.parse (pyStrip dns) = some ip ∧ (ip ∉ seen ∧ allowed ip) ∧
        DnsAccepted allowed (ip :: seen) servers := by
  constructor
  · rintro ⟨ips, ⟨hparse, hnodup⟩, hall⟩
    cases ips with
    | nil => cases hparse
    | cons ip ips =>
      obtain ⟨hip, hrest⟩ := List.cons.inj hparse
      obtain ⟨hnew, hnodup⟩ := List.nodup_cons.mp hnodup
      refine ⟨ip, hip, hall ip List.mem_cons_self, ips, ⟨hrest, hnodup⟩, fun other hother => ?_⟩
      obtain ⟨hseen, hallowed⟩ := hall other (List.mem_cons_of_mem _ hother)
      refine ⟨fun hmem => ?_, hallowed⟩
      rcases List.mem_cons.mp hmem with rfl | hmem
      · exact hnew hother
      · exact hseen hmem
  · rintro ⟨ip, hip, hnew, ips, ⟨hrest, hnodup⟩, hall⟩
    refine ⟨ip :: ips, ⟨?_, List.nodup_cons.mpr ⟨?_, hnodup⟩⟩, ?_⟩
    · rw [List.map_cons, List.map_cons, hip, hrest]
    · exact fun hmem => (hall ip hmem).1 List.mem_cons_self
    · intro other hother
      rcases List.mem_cons.mp hother with rfl | hother
      · exact hnew
      · obtain ⟨hseen, hallowed⟩ := hall other hother
        exact ⟨fun hmem => hseen (List.mem_cons_of_mem _ hmem), hallowed⟩

theorem mem_map_text {ip : Ipv4Address} {seen : List Ipv4Address} :
    ip.text ∈ seen.map Ipv4Address.text ↔ ip ∈ seen := by
  constructor
  · intro h
    obtain ⟨other, hother, htext⟩ := List.mem_map.mp h
    rwa [← text_injective htext]
  · exact fun h => List.mem_map_of_mem h

theorem normalizeDns_accepts (seen : List Ipv4Address) (servers : List (List Char)) :
    (∃ normalized, normalizeDns (seen.map Ipv4Address.text) servers = .ok normalized) ↔
      DnsAccepted (fun _ => True) seen servers := by
  induction servers generalizing seen with
  | nil => exact iff_of_true ⟨[], rfl⟩ (dnsAccepted_nil _ seen)
  | cons dns servers ih =>
    rw [dnsAccepted_cons]
    constructor
    · rintro ⟨normalized, h⟩
      obtain ⟨ip, hip, hnew, rest, hrest, -⟩ := normalizeDns_cons_eq_ok.mp h
      rw [mem_map_text] at hnew
      exact ⟨ip, validateIpv4_eq_ok.mp hip, ⟨hnew, trivial⟩, (ih (ip :: seen)).mp ⟨rest, hrest⟩⟩
    · rintro ⟨ip, hip, ⟨hnew, -⟩, hservers⟩
      obtain ⟨rest, hrest⟩ := (ih (ip :: seen)).mpr hservers
      rw [← mem_map_text] at hnew
      exact ⟨ip.text :: rest, normalizeDns_cons_eq_ok.mpr
        ⟨ip, validateIpv4_eq_ok.mpr hip, hnew, rest, hrest, rfl⟩⟩

/-- What the schema accepts. -/
theorem validate_accepts (ipv4 : Ipv4Config) :
    (∃ normalized, ipv4.validate = .ok normalized) ↔
      (8 ≤ ipv4.prefixLength ∧ ipv4.prefixLength ≤ 32) ∧ ipv4.dnsServers.length ≤ 8 ∧
        ∃ address gateway servers, SharedRules ipv4 address gateway servers := by
  have hdns := normalizeDns_accepts [] ipv4.dnsServers
  constructor
  · intro ⟨normalized, h⟩
    obtain ⟨hrange, h⟩ := unit_bind_eq_ok.mp h
    obtain ⟨hcount, h⟩ := unit_bind_eq_ok.mp h
    obtain ⟨address, haddress, h⟩ := bind_eq_ok.mp h
    obtain ⟨gateway, hgateway, h⟩ := bind_eq_ok.mp h
    obtain ⟨hsubnet, h⟩ := unit_bind_eq_ok.mp h
    obtain ⟨dns, hservers, -⟩ := bind_eq_ok.mp h
    obtain ⟨ips, hips, -⟩ := hdns.mp ⟨dns, hservers⟩
    exact ⟨between_eq_ok.mp hrange, (lengthBetween_eq_ok.mp hcount).2, address, gateway, ips,
      validateIpv4_eq_ok.mp haddress, validateIpv4_eq_ok.mp hgateway,
      checkAddresses_eq_ok.mp hsubnet, hips⟩
  · intro ⟨hrange, hcount, address, gateway, ips, h⟩
    have haccepted : DnsAccepted (fun _ => True) [] ipv4.dnsServers :=
      ⟨ips, h.dns, fun _ _ => ⟨List.not_mem_nil, trivial⟩⟩
    obtain ⟨dns, hservers⟩ := hdns.mpr haccepted
    have hrest : (do
        let dnsServers ← normalizeDns [] ipv4.dnsServers
        return { ipv4 with address := address.text, gateway := gateway.text, dnsServers }) =
        Except.ok
          { ipv4 with address := address.text, gateway := gateway.text, dnsServers := dns } :=
      bind_eq_ok.mpr ⟨dns, hservers, rfl⟩
    exact ⟨_, unit_bind_eq_ok.mpr ⟨between_eq_ok.mpr hrange,
      unit_bind_eq_ok.mpr ⟨lengthBetween_eq_ok.mpr ⟨Nat.zero_le _, hcount⟩,
        bind_eq_ok.mpr ⟨address, validateIpv4_eq_ok.mpr h.parsed,
          bind_eq_ok.mpr ⟨gateway, validateIpv4_eq_ok.mpr h.gatewayParsed,
            unit_bind_eq_ok.mpr ⟨checkAddresses_eq_ok.mpr h.subnet, hrest⟩⟩⟩⟩⟩⟩

/-! ## The preflight check -/

@[simp] theorem issueIf_eq_nil {condition : Bool} {field message : String} :
    issueIf condition field message = [] ↔ condition = false := by
  cases condition with
  | false => exact iff_of_true rfl rfl
  | true => exact iff_of_false (List.cons_ne_nil _ _) nofun

theorem gatewayIssues_eq_nil {prefixLength : Int} {address gateway : Ipv4Address} :
    gatewayIssues prefixLength address gateway = [] ↔
      (insideNetwork prefixLength address gateway = true ∧ gateway ≠ address) ∧
        endGateway prefixLength address gateway = false := by
  rw [gatewayIssues, List.append_eq_nil_iff, issueIf_eq_nil, decide_eq_false_iff_not]
  cases insideNetwork prefixLength address gateway with
  | false => simp
  | true =>
    rw [if_pos rfl, issueIf_eq_nil]
    simp [and_comm]

theorem subnetIssues_eq_nil {prefixLength : Int} {address gateway : Ipv4Address} :
    subnetIssues prefixLength address (some gateway) = [] ↔
      SubnetRules prefixLength address gateway ∧
        endGateway prefixLength address gateway = false := by
  rw [subnetIssues, List.append_eq_nil_iff, List.append_eq_nil_iff, issueIf_eq_nil, issueIf_eq_nil,
    gatewayIssues_eq_nil, decide_eq_false_iff_not, decide_eq_false_iff_not]
  constructor
  · intro ⟨⟨hnetwork, hbroadcast⟩, ⟨hinside, hother⟩, hend⟩
    exact ⟨⟨hnetwork, hbroadcast, hinside, hother⟩, hend⟩
  · intro ⟨h, hend⟩
    exact ⟨⟨h.notNetwork, h.notBroadcast⟩, ⟨h.inside, h.other⟩, hend⟩

theorem dnsIssues_eq_nil (seen : List Ipv4Address) (index : Nat) (servers : List (List Char)) :
    dnsIssues (seen.map Ipv4Address.text) index servers = [] ↔
      DnsAccepted (fun ip => reservedServer ip = false) seen servers := by
  induction servers generalizing seen index with
  | nil => exact iff_of_true rfl (dnsAccepted_nil _ seen)
  | cons dns servers ih =>
    rw [dnsAccepted_cons, dnsIssues]
    cases Ipv4Address.parse (pyStrip dns) with
    | none => simp
    | some ip =>
      have hseen : (seen.map Ipv4Address.text).contains ip.text = false ↔ ip ∉ seen := by
        rw [List.contains_eq_mem, decide_eq_false_iff_not, mem_map_text]
      have hservers := ih (ip :: seen) (index + 1)
      rw [List.map_cons] at hservers
      simp only [List.append_eq_nil_iff, issueIf_eq_nil, hseen, hservers, Option.some.injEq,
        exists_eq_left']
      rw [reservedServer, and_comm (a := ip ∉ seen)]

/-- What the preflight check finds no issue with. -/
theorem validateStaticIpv4_eq_nil (ipv4 : Ipv4Config) :
    validateStaticIpv4 ipv4.address ipv4.prefixLength ipv4.gateway ipv4.dnsServers = [] ↔
      (8 ≤ ipv4.prefixLength ∧ ipv4.prefixLength ≤ 32) ∧
        ∃ address gateway servers, SharedRules ipv4 address gateway servers ∧
          endGateway ipv4.prefixLength address gateway = false ∧
          ∀ ip ∈ servers, reservedServer ip = false := by
  have hdns := dnsIssues_eq_nil [] 1 ipv4.dnsServers
  rw [List.map_nil] at hdns
  rw [validateStaticIpv4]
  cases haddress : Ipv4Address.parse (pyStrip ipv4.address) with
  | none =>
    refine iff_of_false (List.cons_ne_nil _ _) ?_
    intro ⟨_, address, _, _, h, _⟩
    rw [h.parsed] at haddress
    cases haddress
  | some address =>
    simp only [List.append_eq_nil_iff, issueIf_eq_nil, hdns]
    constructor
    · intro ⟨⟨⟨hrange, hgateway⟩, hsubnet⟩, servers, hservers, hall⟩
      have hrange : 8 ≤ ipv4.prefixLength ∧ ipv4.prefixLength ≤ 32 := by simpa using hrange
      rw [if_pos hrange] at hsubnet
      cases hgw : Ipv4Address.parse (pyStrip ipv4.gateway) with
      | none => simp [hgw] at hgateway
      | some gateway =>
        rw [hgw] at hsubnet
        obtain ⟨hrules, hend⟩ := subnetIssues_eq_nil.mp hsubnet
        exact ⟨hrange, address, gateway, servers, ⟨haddress, hgw, hrules, hservers⟩, hend,
          fun ip hip => (hall ip hip).2⟩
    · intro ⟨hrange, other, gateway, servers, h, hend, hall⟩
      obtain rfl : address = other := Option.some.inj (haddress.symm.trans h.parsed)
      rw [h.gatewayParsed, if_pos hrange, subnetIssues_eq_nil]
      refine ⟨⟨⟨?_, rfl⟩, h.subnet, hend⟩, servers, h.dns, fun ip hip => ?_⟩
      · simpa using hrange
      · exact ⟨List.not_mem_nil, hall ip hip⟩

/-! ## The two together -/

theorem SharedRules.unique {ipv4 : Ipv4Config} {address gateway address' gateway' : Ipv4Address}
    {servers servers' : List Ipv4Address} (h : SharedRules ipv4 address gateway servers)
    (h' : SharedRules ipv4 address' gateway' servers') :
    address = address' ∧ gateway = gateway' ∧ servers = servers' := by
  refine ⟨Option.some.inj (h.parsed.symm.trans h'.parsed),
    Option.some.inj (h.gatewayParsed.symm.trans h'.gatewayParsed), ?_⟩
  have hmap : servers.map some = servers'.map some := h.dns.1.symm.trans h'.dns.1
  exact (List.map_inj_right fun _ _ => Option.some.inj).mp hmap

/-- The configurations on which the rules of only one validator make no difference. -/
def SameRules (ipv4 : Ipv4Config) : Prop :=
  ∀ address gateway servers, SharedRules ipv4 address gateway servers →
    (ipv4.dnsServers.length ≤ 8 ↔
      endGateway ipv4.prefixLength address gateway = false ∧
        ∀ ip ∈ servers, reservedServer ip = false)

/-- The two validators agree exactly where the rules that only one of them has agree. -/
theorem ipv4Validators_agree_iff (ipv4 : Ipv4Config)
    (hrange : 8 ≤ ipv4.prefixLength ∧ ipv4.prefixLength ≤ 32) :
    ((∃ normalized, ipv4.validate = .ok normalized) ↔
      validateStaticIpv4 ipv4.address ipv4.prefixLength ipv4.gateway ipv4.dnsServers = []) ↔
    SameRules ipv4 := by
  rw [validate_accepts, validateStaticIpv4_eq_nil]
  constructor
  · intro hagree address gateway servers h
    constructor
    · intro hcount
      obtain ⟨-, address', gateway', servers', h', hend, hall⟩ :=
        hagree.mp ⟨hrange, hcount, address, gateway, servers, h⟩
      obtain ⟨rfl, rfl, rfl⟩ := h.unique h'
      exact ⟨hend, hall⟩
    · intro ⟨hend, hall⟩
      obtain ⟨-, hcount, -⟩ := hagree.mpr ⟨hrange, address, gateway, servers, h, hend, hall⟩
      exact hcount
  · intro hsame
    constructor
    · intro ⟨_, hcount, address, gateway, servers, h⟩
      obtain ⟨hend, hall⟩ := (hsame address gateway servers h).mp hcount
      exact ⟨hrange, address, gateway, servers, h, hend, hall⟩
    · intro ⟨_, address, gateway, servers, h, hend, hall⟩
      exact ⟨hrange, (hsame address gateway servers h).mpr ⟨hend, hall⟩, address, gateway, servers,
        h⟩

def hostConfig (gateway : String) : Ipv4Config where
  address := "192.168.1.10".toList
  prefixLength := 24
  gateway := gateway.toList
  dnsServers := ["192.168.1.2".toList]

theorem ipv4Validators_agree_iff_host : SameRules (hostConfig "192.168.1.1") :=
  (ipv4Validators_agree_iff (hostConfig "192.168.1.1") (by decide)).mp
    (iff_of_true ⟨hostConfig "192.168.1.1", by decide +kernel⟩
      (List.isEmpty_iff.mp (by decide +kernel)))

/-- The schema takes a gateway that is the address of its network. -/
theorem ipv4Validators_disagree :
    ¬ ((∃ normalized, (hostConfig "192.168.1.0").validate = .ok normalized) ↔
      validateStaticIpv4 (hostConfig "192.168.1.0").address 24 (hostConfig "192.168.1.0").gateway
        (hostConfig "192.168.1.0").dnsServers = []) := by
  intro hagree
  have haccepted : (hostConfig "192.168.1.0").validate = .ok (hostConfig "192.168.1.0") := by
    decide +kernel
  have hempty := List.isEmpty_iff.mpr (hagree.mp ⟨_, haccepted⟩)
  revert hempty
  decide +kernel

end InfraOps.Schemas
