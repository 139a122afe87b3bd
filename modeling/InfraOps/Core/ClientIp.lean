import InfraOps.Core.Ipv4
import InfraOps.Core.Text
import InfraOps.Support.Separated

/-!
# The client's address

`resolve_client_ip`: what of the `X-Forwarded-For` header, which any client can write, has a
say in the address that the rate limits and the audit log use.
-/

namespace InfraOps

/-! ## `ipaddress` -/

/-- What is used of `ipaddress`, for both versions of addresses. -/
structure IpLibrary (Address Network : Type) where
  ipAddress : List Char → Option Address
  ipNetwork : List Char → Except String Network
  str : Address → List Char
  contains : Network → Address → Bool
  /-- The text of an address is read as that address. -/
  ipAddress_str : ∀ address, ipAddress (str address) = some address

variable {Address Network : Type} (lib : IpLibrary Address Network)

/-! ## The resolution -/

/-- `_parse_networks`. -/
def parseNetworks (raw : List Char) : Except String (List Network) :=
  (((raw.splitOn ',').map pyStrip).filter (· ≠ [])).mapM lib.ipNetwork

/-- `_is_trusted`. -/
def isTrusted (address : List Char) (networks : List Network) : Bool :=
  match lib.ipAddress address with
  | none => false
  | some parsed => networks.any fun network => lib.contains network parsed

/-- `_valid_ip`. -/
def validIp (value : List Char) : Option (List Char) :=
  (lib.ipAddress (pyStrip value)).map lib.str

def forwardedHops (forwardedFor : List Char) : List (List Char) :=
  ((forwardedFor.splitOn ',').map pyStrip).filter (· ≠ [])

/-- The loop over the hops from the right, and what it returns if it does. -/
def clientHop (networks : List Network) (peer : List Char) :
    List (List Char) → Option (List Char)
  | [] => none
  | hop :: hops =>
    match validIp lib hop with
    | none => some peer
    | some address =>
      if isTrusted lib address networks then clientHop networks peer hops else some address

/-- The hops of a header from a trusted peer. -/
def clientOfHops (networks : List Network) (peer : List Char) (hops : List (List Char)) :
    Option (List Char) :=
  match clientHop lib networks peer hops.reverse with
  | some address => some address
  | none =>
    match hops with
    | [] => some peer
    | hop :: _ => validIp lib hop

def resolveClientIp (peer : Option (List Char)) (forwardedFor : Option (List Char))
    (trustedCidrs : List Char) : Except String (Option (List Char)) := do
  let networks ← parseNetworks lib trustedCidrs
  match peer with
  | none => return none
  | some peer =>
    match forwardedFor with
    | none => return some peer
    | some header =>
      if header = [] || !isTrusted lib peer networks then return some peer
      return clientOfHops lib networks peer (forwardedHops header)

/-! ## Trusted hops -/

/-- The hop is the address of a trusted proxy. -/
def TrustedProxy (networks : List Network) (hop : List Char) : Prop :=
  ∃ address, lib.ipAddress hop = some address ∧
    ∃ network ∈ networks, lib.contains network address = true

variable {lib} {networks : List Network}

theorem isTrusted_iff (address : List Char) :
    isTrusted lib address networks = true ↔ TrustedProxy lib networks address := by
  rw [isTrusted, TrustedProxy]
  cases lib.ipAddress address with
  | none => simp
  | some parsed => simp

theorem strip_forwardedHops {header hop : List Char} (h : hop ∈ forwardedHops header) :
    pyStrip hop = hop := by
  rw [forwardedHops, List.mem_filter, List.mem_map] at h
  obtain ⟨⟨part, -, rfl⟩, -⟩ := h
  exact trim_trim (p := pySpace) part

/-- A trusted hop is skipped, in whatever way its address is written. -/
theorem clientHop_cons_trusted {peer hop : List Char} (hstrip : pyStrip hop = hop)
    (h : TrustedProxy lib networks hop) (hops : List (List Char)) :
    clientHop lib networks peer (hop :: hops) = clientHop lib networks peer hops := by
  obtain ⟨address, haddress, hnetwork⟩ := h
  have hvalid : validIp lib hop = some (lib.str address) := by
    rw [validIp, hstrip, haddress, Option.map_some]
  have htrusted : isTrusted lib (lib.str address) networks = true :=
    (isTrusted_iff _).mpr ⟨address, lib.ipAddress_str address, hnetwork⟩
  rw [clientHop, hvalid]
  exact if_pos htrusted

/-- What a hop is taken for that is not a trusted proxy's address. -/
def clientAt (lib : IpLibrary Address Network) (peer hop : List Char) : List Char :=
  match lib.ipAddress hop with
  | none => peer
  | some address => lib.str address

theorem clientHop_cons_untrusted {peer hop : List Char} (hstrip : pyStrip hop = hop)
    (h : ¬ TrustedProxy lib networks hop) (hops : List (List Char)) :
    clientHop lib networks peer (hop :: hops) = some (clientAt lib peer hop) := by
  cases haddress : lib.ipAddress hop with
  | none =>
    have hvalid : validIp lib hop = none := by
      rw [validIp, hstrip, haddress, Option.map_none]
    rw [clientHop, hvalid, clientAt, haddress]
  | some address =>
    have hvalid : validIp lib hop = some (lib.str address) := by
      rw [validIp, hstrip, haddress, Option.map_some]
    have htrusted : ¬ isTrusted lib (lib.str address) networks = true := by
      intro htrue
      obtain ⟨parsed, hparsed, hnetwork⟩ := (isTrusted_iff _).mp htrue
      rw [lib.ipAddress_str, Option.some.injEq] at hparsed
      subst hparsed
      exact h ⟨address, haddress, hnetwork⟩
    rw [clientHop, hvalid, clientAt, haddress]
    exact if_neg htrusted

theorem clientHop_append_trusted {peer : List Char} {skipped : List (List Char)}
    (h : ∀ hop ∈ skipped, pyStrip hop = hop ∧ TrustedProxy lib networks hop)
    (hops : List (List Char)) :
    clientHop lib networks peer (skipped ++ hops) = clientHop lib networks peer hops := by
  induction skipped with
  | nil => rfl
  | cons hop skipped ih =>
    obtain ⟨hstrip, htrusted⟩ := h hop List.mem_cons_self
    rw [List.cons_append, clientHop_cons_trusted hstrip htrusted]
    exact ih fun other hother => h other (List.mem_cons_of_mem _ hother)

/-- Only the rightmost hop that is not a trusted proxy's address counts. -/
theorem clientOfHops_eq {peer header hop : List Char} {left right : List (List Char)}
    (hhops : forwardedHops header = left ++ hop :: right)
    (hhop : ¬ TrustedProxy lib networks hop)
    (hright : ∀ other ∈ right, TrustedProxy lib networks other) :
    clientOfHops lib networks peer (forwardedHops header) = some (clientAt lib peer hop) := by
  have hstrip : ∀ other ∈ left ++ hop :: right, pyStrip other = other := by
    intro other hother
    rw [← hhops] at hother
    exact strip_forwardedHops hother
  have hclient : clientHop lib networks peer (left ++ hop :: right).reverse =
      some (clientAt lib peer hop) := by
    rw [List.reverse_append, List.reverse_cons, List.append_assoc,
      clientHop_append_trusted]
    · exact clientHop_cons_untrusted (hstrip hop (by simp)) hhop left.reverse
    · intro other hother
      have hmem := List.mem_reverse.mp hother
      exact ⟨hstrip other (by simp [hmem]), hright other hmem⟩
  unfold clientOfHops
  rw [hhops, hclient]

/-! ## Whose word counts -/

/-- The header of an untrusted peer is not looked at. -/
theorem resolveClientIp_untrusted {trustedCidrs peer : List Char}
    (hnetworks : parseNetworks lib trustedCidrs = .ok networks)
    (hpeer : ¬ TrustedProxy lib networks peer) (header : Option (List Char)) :
    resolveClientIp lib (some peer) header trustedCidrs = .ok (some peer) := by
  have htrusted : isTrusted lib peer networks = false := by
    rw [← isTrusted_iff] at hpeer
    simpa using hpeer
  rw [resolveClientIp, hnetworks]
  cases header with
  | none => rfl
  | some header => simp [Bind.bind, Except.bind, pure, Except.pure, htrusted]

/-- From a trusted peer the header counts by the hop that its proxies appended for the
client. -/
theorem resolveClientIp_hops {trustedCidrs peer header hop : List Char}
    {left right : List (List Char)} (hnetworks : parseNetworks lib trustedCidrs = .ok networks)
    (hpeer : TrustedProxy lib networks peer)
    (hhops : forwardedHops header = left ++ hop :: right)
    (hhop : ¬ TrustedProxy lib networks hop)
    (hright : ∀ other ∈ right, TrustedProxy lib networks other) :
    resolveClientIp lib (some peer) (some header) trustedCidrs =
      .ok (some (clientAt lib peer hop)) := by
  have hheader : header ≠ [] := by
    intro hnil
    subst hnil
    have hlen := congrArg List.length hhops
    simp [forwardedHops, pyStrip, dropRight] at hlen
  have htrusted := (isTrusted_iff peer).mpr hpeer
  rw [resolveClientIp, hnetworks]
  simp only [Bind.bind, Except.bind, pure, Except.pure, htrusted, hheader, decide_false,
    Bool.not_true, Bool.or_self, Bool.false_eq_true, if_false]
  rw [clientOfHops_eq hhops hhop hright]

/-- **The header has no influence** if its peer is not trusted; otherwise nothing that stands
left of the rightmost hop that is not a trusted proxy's address has any. -/
theorem resolveClientIp_unspoofable {trustedCidrs : List Char}
    (hnetworks : parseNetworks lib trustedCidrs = .ok networks) (peer : Option (List Char)) :
    ((∀ address ∈ peer, ¬ TrustedProxy lib networks address) → ∀ header other,
      resolveClientIp lib peer header trustedCidrs =
        resolveClientIp lib peer other trustedCidrs) ∧
    ∀ header other left left' hop right,
      forwardedHops header = left ++ hop :: right →
      forwardedHops other = left' ++ hop :: right →
      ¬ TrustedProxy lib networks hop →
      (∀ hop ∈ right, TrustedProxy lib networks hop) →
      resolveClientIp lib peer (some header) trustedCidrs =
        resolveClientIp lib peer (some other) trustedCidrs := by
  cases peer with
  | none =>
    have hnone : ∀ header, resolveClientIp lib none header trustedCidrs = .ok none := by
      intro header
      rw [resolveClientIp, hnetworks]
      rfl
    refine ⟨fun _ header other => ?_, fun header other _ _ _ _ _ _ _ _ => ?_⟩
    · rw [hnone, hnone]
    · rw [hnone, hnone]
  | some peer =>
    constructor
    · intro hpeer header other
      have huntrusted := hpeer peer rfl
      rw [resolveClientIp_untrusted hnetworks huntrusted,
        resolveClientIp_untrusted hnetworks huntrusted]
    · intro header other left left' hop right hheader hother hhop hright
      by_cases hpeer : TrustedProxy lib networks peer
      · rw [resolveClientIp_hops hnetworks hpeer hheader hhop hright,
          resolveClientIp_hops hnetworks hpeer hother hhop hright]
      · rw [resolveClientIp_untrusted hnetworks hpeer, resolveClientIp_untrusted hnetworks hpeer]

/-- IPv4 addresses, and networks under a prefix length whose host bits may be set. -/
def ipv4Library : IpLibrary Ipv4Address (Ipv4Address × Nat) where
  ipAddress := Ipv4Address.parse
  ipNetwork entry :=
    match entry.splitOn '/' with
    | [address, length] =>
      match Ipv4Address.parse address with
      | some address =>
        if length ≠ [] && length.all Ipv4Address.digit && Ipv4Address.octetValue length ≤ 32 then
          .ok (address, Ipv4Address.octetValue length)
        else .error "not an IPv4 or IPv6 network"
      | none => .error "not an IPv4 or IPv6 network"
    | _ => .error "not an IPv4 or IPv6 network"
  str := Ipv4Address.text
  contains network address :=
    network.1.value / 2 ^ (32 - network.2) == address.value / 2 ^ (32 - network.2)
  ipAddress_str := Ipv4Address.parse_text

/-- A client that puts an address in front of its own, and one that sends no header. -/
theorem resolveClientIp_unspoofable_ipv4 :
    resolveClientIp ipv4Library (some "172.18.0.5".toList)
        (some "1.2.3.4, 198.51.100.7 , 172.18.0.1".toList) "172.16.0.0/12".toList =
      resolveClientIp ipv4Library (some "172.18.0.5".toList)
        (some "198.51.100.7,, 172.18.0.1".toList) "172.16.0.0/12".toList := by
  have hnetworks : parseNetworks ipv4Library "172.16.0.0/12".toList =
      .ok [(Ipv4Address.ofValue 0xAC100000, 12)] := by decide +kernel
  have hhop : ¬ TrustedProxy ipv4Library [(Ipv4Address.ofValue 0xAC100000, 12)]
      "198.51.100.7".toList := by
    rw [← isTrusted_iff]
    decide +kernel
  refine (resolveClientIp_unspoofable hnetworks (some "172.18.0.5".toList)).2 _ _
    ["1.2.3.4".toList] [] "198.51.100.7".toList ["172.18.0.1".toList]
    (by decide +kernel) (by decide +kernel) hhop ?_
  intro hop hhop
  rw [List.mem_singleton.mp hhop, ← isTrusted_iff]
  decide +kernel

end InfraOps
