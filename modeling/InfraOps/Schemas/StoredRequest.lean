import InfraOps.Schemas.Validation

/-!
# Stored requests

A job stores the JSON dump of its request, and the worker reads it back with
`parse_stored_request`. What was accepted is read as the same request. A payload from before the
identity policies is read under `v1`, so that its hostname stays the computer's name.
-/

namespace InfraOps.Schemas

variable {p : Platform}

/-- `request_fingerprint`, where `digest` is the SHA-256 of the canonical text. -/
def requestFingerprint (digest : JsonDocument → List Char) (request : ProvisioningRequest p) :
    List Char :=
  digest (modelDump p request)

/-- `load_request_payload`. -/
def loadRequestPayload (p : Platform) (jobId : String) :
    Option JsonDocument → Except String (ProvisioningRequest p)
  | none => .error s!"Job {jobId} has no stored provisioning request."
  | some payload =>
    match parseStoredRequest p payload with
    | some request => .ok request
    | none => .error
        ("This job was created by a provisioning workflow that no longer exists; " ++
          "submit a new request.")

/-! ## What was accepted -/

theorem dropRemovedFields_write (guest : GuestSpec) :
    dropRemovedFields ((guestSpec p).write guest) = (guestSpec p).write guest := by
  unfold guestSpec dropRemovedFields
  refine congrArg JsonDocument.object (List.filter_eq_self.mpr ?_)
  simp [keptField, guestFields]

/-- The dump of a request is validated as it is. -/
theorem storedFields_dump (request : ProvisioningRequest p) :
    ∃ fields, modelDump p request = .object fields ∧ storedFields fields = fields := by
  refine ⟨_, rfl, ?_⟩
  simp [storedFields, List.lookup_cons, dropRemovedFields_write]

/-- An accepted submission is read from the body, and what is read is validated. -/
theorem read_of_submission {j : JsonDocument} {request : ProvisioningRequest p}
    (h : submissionValidate p j = .ok request) :
    ∃ read, (provisioningRequest p).read j = .ok read ∧ read.validate = .ok request := by
  obtain ⟨read, hread, h⟩ := bind_eq_ok.mp h
  obtain ⟨-, h⟩ := unit_bind_eq_ok.mp h
  obtain ⟨validated, hvalid, h⟩ := bind_eq_ok.mp h
  obtain ⟨-, h⟩ := unit_bind_eq_ok.mp h
  cases h
  exact ⟨read, hread, hvalid⟩

theorem parseStoredRequest_modelDump {j : JsonDocument} {request : ProvisioningRequest p}
    (h : submissionValidate p j = .ok request) :
    parseStoredRequest p (modelDump p request) = some request := by
  obtain ⟨read, -, hvalid⟩ := read_of_submission h
  have hdump : modelValidate p (modelDump p request) = .ok request := by
    rw [modelValidate, modelDump, Codec.read_write, ok_bind]
    exact ProvisioningRequest.reaccepts_validate _ _ hvalid
  obtain ⟨fields, hfields, hsame⟩ := storedFields_dump request
  rw [hfields] at hdump ⊢
  rw [parseStoredRequest, hsame, hdump]
  rfl

/-! ## Payloads without a policy -/

theorem storedFields_of_none {payload : Fields}
    (h : payload.lookup "identity_policy_version" = none) (key : String) :
    (storedFields payload).lookup key =
      ((payload ++ [("identity_policy_version", JsonDocument.text "v1".toList)]).lookup key).map
        fun j => if key = "guest" then dropRemovedFields j else j := by
  rw [storedFields, h]
  exact lookup_mapValues (fun k j => if k = "guest" then dropRemovedFields j else j) _ key

theorem lookup_policy {payload : Fields} (h : payload.lookup "identity_policy_version" = none) :
    (storedFields payload).lookup "identity_policy_version" = some (.text "v1".toList) := by
  rw [storedFields_of_none h, List.lookup_append, h]
  rfl

/-- The guest that is read keeps the stored hostname. -/
theorem lookup_guest {payload guest : Fields}
    (h : payload.lookup "identity_policy_version" = none)
    (hguest : payload.lookup "guest" = some (.object guest)) :
    ∃ kept, (storedFields payload).lookup "guest" = some (.object kept) ∧
      kept.lookup "hostname" = guest.lookup "hostname" := by
  refine ⟨_, ?_, lookup_filter keptField (fun j => ?_) guest⟩
  · rw [storedFields_of_none h, List.lookup_append, hguest]
    rfl
  · simp [keptField, guestFields]

theorem names_of_read {fields : Fields} {guest : GuestSpec}
    (h : (guestSpec p).read (.object fields) = .ok guest) :
    textOrNull.defaulted fields "hostname" none = .ok guest.hostname ∧
      (domainJoinSpec.nullable nofun).defaulted fields "domain_join" none =
        .ok guest.domainJoin := by
  obtain ⟨fields', hfields, h⟩ := bind_eq_ok.mp h
  cases Codec.eq_object_of_readObject hfields
  obtain ⟨isoId, -, h⟩ := bind_eq_ok.mp h
  obtain ⟨hostname, hhost, h⟩ := bind_eq_ok.mp h
  simp only [bind_eq_ok] at h
  obtain ⟨_, -, _, -, _, -, _, -, _, -, _, -, domainJoin, hjoin, h⟩ := h
  cases h
  exact ⟨hhost, hjoin⟩

theorem fields_of_read {fields : Fields} {request : ProvisioningRequest p}
    (h : (provisioningRequest p).read (.object fields) = .ok request) :
    identityPolicyVersion.defaulted fields "identity_policy_version" .v2 =
        .ok request.identityPolicyVersion ∧
      vmSpec.required fields "vm" = .ok request.vm ∧
      (guestSpec p).required fields "guest" = .ok request.guest := by
  obtain ⟨fields', hfields, h⟩ := bind_eq_ok.mp h
  cases Codec.eq_object_of_readObject hfields
  obtain ⟨-, h⟩ := unit_bind_eq_ok.mp h
  obtain ⟨policy, hpolicy, h⟩ := bind_eq_ok.mp h
  obtain ⟨vm, hvm, h⟩ := bind_eq_ok.mp h
  obtain ⟨compute, -, h⟩ := bind_eq_ok.mp h
  obtain ⟨hardware, -, h⟩ := bind_eq_ok.mp h
  obtain ⟨guest, hguest, h⟩ := bind_eq_ok.mp h
  simp only [bind_eq_ok] at h
  obtain ⟨_, -, _, -, _, -, h⟩ := h
  cases h
  exact ⟨hpolicy, hvm, hguest⟩

theorem effectiveComputerName_of_v1 {request : ProvisioningRequest p}
    (h : request.identityPolicyVersion = .v1) :
    request.effectiveComputerName = request.hostnameOrName.map Char.toUpper := by
  unfold ProvisioningRequest.effectiveComputerName
  split
  · simp_all
  · rfl

theorem hostnameOrName_of_some {request : ProvisioningRequest p} {hostname : List Char}
    (h : request.guest.hostname = some hostname) (hne : hostname ≠ []) :
    request.hostnameOrName = hostname := by
  obtain ⟨c, cs, rfl⟩ := List.exists_cons_of_ne_nil hne
  rw [ProvisioningRequest.hostnameOrName, h]

/-- Under `v1` the hostname is the computer's name, whether or not it joins a domain. -/
theorem effectiveComputerName_of_identity {request request' : ProvisioningRequest p}
    (h : request.validateIdentity = .ok request') (hpolicy : request.identityPolicyVersion = .v1)
    {hostname : List Char} (hhost : request.guest.hostname = some hostname)
    (hne : hostname ≠ []) : request'.effectiveComputerName = hostname.map Char.toUpper := by
  obtain ⟨-, ⟨hren, rfl⟩ | ⟨-, rfl⟩⟩ := request.validateIdentity_eq_ok.mp h
  · have hjoin : request.guest.domainJoin = none := by
      simpa [ProvisioningRequest.Renames, hpolicy] using hren
    have hpolicy : request.renamed.identityPolicyVersion = .v1 := hpolicy
    rw [effectiveComputerName_of_v1 hpolicy, request.hostnameOrName_renamed hjoin,
      toUpper_toUpper, hostnameOrName_of_some hhost hne]
  · rw [effectiveComputerName_of_v1 hpolicy, hostnameOrName_of_some hhost hne]

theorem effectiveComputerName_of_validate {request request' : ProvisioningRequest p}
    (h : request.validate = .ok request') (hpolicy : request.identityPolicyVersion = .v1)
    {hostname : List Char} (hhost : request.guest.hostname = some hostname) :
    request'.effectiveComputerName = hostname.map Char.toUpper := by
  obtain ⟨-, -, -, guest, hguest, network, -, -, -, hid⟩ := request.validate_eq_ok.mp h
  obtain ⟨hcheck, -, domainJoin, -, rfl⟩ := GuestSpec.validate_eq_ok.mp hguest
  rw [hhost] at hcheck
  have hname := ne_nil_of_vmName (checkHostname_some.mp hcheck).2
  exact effectiveComputerName_of_identity hid hpolicy hhost hname

theorem effectiveComputerName_of_unversioned {payload guest : Fields} {hostname : List Char}
    {request : ProvisioningRequest p} (h : payload.lookup "identity_policy_version" = none)
    (hguest : payload.lookup "guest" = some (.object guest))
    (hhost : guest.lookup "hostname" = some (.text hostname))
    (hread : parseStoredRequest p (.object payload) = some request) :
    request.effectiveComputerName = hostname.map Char.toUpper := by
  obtain ⟨kept, hkept, hsame⟩ := lookup_guest h hguest
  obtain ⟨read, hfields, hvalid⟩ := bind_eq_ok.mp (toOption_eq_some.mp hread)
  obtain ⟨hpolicy, -, hguest⟩ := fields_of_read hfields
  rw [Codec.defaulted, lookup_policy h] at hpolicy
  rw [Codec.required, hkept] at hguest
  have hname := (names_of_read hguest).1
  rw [Codec.defaulted, hsame.trans hhost] at hname
  exact effectiveComputerName_of_validate hvalid (Except.ok.inj hpolicy).symm
    (Except.ok.inj hname).symm

/-! ## What stored requests mean -/

/-- An accepted request is read back from its dump as the same request, with the same names and
the same fingerprint, and accepted again. A payload without a policy, when it can be read, has
its stored hostname in capitals as its computer's name, with or without a domain. -/
theorem storedRequest_keepsMeaning (p : Platform) (digest : JsonDocument → List Char)
    (jobId : String) :
    (∀ j request, submissionValidate p j = .ok request →
      ∃ stored, parseStoredRequest p (modelDump p request) = some stored ∧
        loadRequestPayload p jobId (some (modelDump p request)) = .ok stored ∧
        stored = request ∧
        stored.effectiveComputerName = request.effectiveComputerName ∧
        stored.effectiveFqdn = request.effectiveFqdn ∧
        requestFingerprint digest stored = requestFingerprint digest request) ∧
    ∀ payload guest hostname request,
      payload.lookup "identity_policy_version" = none →
      payload.lookup "guest" = some (.object guest) →
      guest.lookup "hostname" = some (.text hostname) →
      parseStoredRequest p (.object payload) = some request →
      request.effectiveComputerName = hostname.map Char.toUpper := by
  refine ⟨fun j request h => ?_, fun payload guest hostname request => ?_⟩
  · have hstored := parseStoredRequest_modelDump h
    refine ⟨request, hstored, ?_, rfl, rfl, rfl, rfl⟩
    rw [loadRequestPayload, hstored]
  · exact effectiveComputerName_of_unversioned

/-! A platform that takes only JSON's own integers and truth values, and UUIDs as they are
shown. -/

/-- The text of a version 4 UUID. -/
def uuid4Text (cs : List Char) : Bool :=
  match cs.splitOn '-' with
  | [a, b, c, d, e] =>
    a.length = 8 && b.length = 4 && c.length = 4 && d.length = 4 && e.length = 12 &&
      c.head? = some '4' && d.head?.all (· ∈ ['8', '9', 'a', 'b']) &&
      (a ++ b ++ c ++ d ++ e).all fun c => Ipv4Address.digit c || ('a' ≤ c && c ≤ 'f')
  | _ => false

def strictPlatform : Platform where
  readInt
    | .int n => .ok n
    | _ => .error "Input should be a valid integer"
  readInt_int _ := rfl
  readBool
    | .bool b => .ok b
    | _ => .error "Input should be a valid boolean"
  readBool_bool _ := rfl
  Uuid4 := { cs // uuid4Text cs }
  readUuid4
    | .text cs => if h : uuid4Text cs then .ok ⟨cs, h⟩ else .error "UUID version 4 expected"
    | _ => .error "UUID version 4 expected"
  showUuid4 u := u.val
  readUuid4_show u := dif_pos u.property
  lower cs := cs.map Char.toLower
  lower_ascii _ _ := rfl

/-- A request that joins a domain under `hostname`, with addresses that are normalized. -/
def joiningFields (hostname : String) : Fields :=
  [("vm", .object [("name", .text "web-01".toList)]),
    ("compute", .object [
      ("vcenter_id", .text "9b2f7e0c-52a1-4c6e-8d1f-0a4b5c6d7e8f".toList),
      ("datacenter_id", .text "datacenter-2".toList), ("cluster_id", .text "domain-c8".toList)]),
    ("hardware", .object [("cpu", .int 4), ("memory_mb", .int 8192),
      ("disks", .array [.object [("size_gb", .int 80)]])]),
    ("guest", .object [("iso_id", .text "[iso] server.iso".toList),
      ("hostname", .text hostname.toList),
      ("domain_join", .object [("domain", .text " Corp.Example. ".toList),
        ("credential_secret_ref", .text "domain/join".toList)])]),
    ("network", .object [("network_id", .text "network-7".toList), ("mode", .text "STATIC".toList),
      ("ipv4", .object [("address", .text " 10.0.0.5 ".toList), ("prefix", .int 24),
        ("gateway", .text "10.0.0.1".toList),
        ("dns_servers", .array [.text "10.0.0.2 ".toList])])])]

theorem storedRequest_keepsMeaning_joining :
    (∃ request, parseStoredRequest strictPlatform (modelDump strictPlatform request) =
        some request ∧ request.effectiveComputerName = "WEB-01".toList) ∧
      ∃ request, parseStoredRequest strictPlatform (.object (joiningFields "old-name")) =
        some request ∧ request.effectiveComputerName = "OLD-NAME".toList := by
  obtain ⟨haccepted, hunversioned⟩ := storedRequest_keepsMeaning strictPlatform (fun _ => []) "1"
  have hjoin : ((submissionValidate strictPlatform
      (.object (joiningFields "old-name"))).toOption.any fun request =>
        request.effectiveComputerName = "WEB-01".toList) = true := by decide +kernel
  have hread : (parseStoredRequest strictPlatform (.object (joiningFields "old-name"))).isSome =
      true := by decide +kernel
  constructor
  · obtain ⟨request, hsome, hname⟩ := (Option.any_eq_true _ _).mp hjoin
    obtain ⟨stored, hstored, -, rfl, -⟩ := haccepted _ _ (toOption_eq_some.mp hsome)
    exact ⟨stored, hstored, of_decide_eq_true hname⟩
  · obtain ⟨request, hsome⟩ := Option.isSome_iff_exists.mp hread
    have hname := hunversioned _ _ _ _ rfl rfl rfl hsome
    exact ⟨request, hsome, hname.trans (by decide)⟩

end InfraOps.Schemas
