import InfraOps.Preflight.Stages
import InfraOps.Schemas.StoredRequest

/-!
# What the preflight predicts

When the report has no blocking failure, nothing that the validation stages check again fails,
with two exceptions. A naming policy that does not compile is a warning for the preflight and
an exception in the stage; and the preflight looks at the first datastore that a disk names,
the stage at every one.
-/

namespace InfraOps.Preflight

/-- No check is a blocking failure. -/
def Clear (checks : List PreflightCheck) : Prop := ∀ check ∈ checks, check.blocks = false

@[simp] theorem clear_nil : Clear [] := by simp [Clear]

@[simp] theorem clear_cons {check : PreflightCheck} {checks : List PreflightCheck} :
    Clear (check :: checks) ↔ check.blocks = false ∧ Clear checks := by
  simp [Clear]

@[simp] theorem clear_append {checks more : List PreflightCheck} :
    Clear (checks ++ more) ↔ Clear checks ∧ Clear more := by
  simp [Clear, or_imp, forall_and]

@[simp] theorem blocks_passed (code label detail : String) :
    (passed code label detail).blocks = false := rfl

@[simp] theorem blocks_failed (code label detail : String) :
    (failed code label detail).blocks = true := rfl

@[simp] theorem clear_called {α : Type} {call : Except Raised α} {rest : α → List PreflightCheck} :
    Clear (called call rest) ↔ ∃ a, call = .ok a ∧ Clear (rest a) := by
  cases call with
  | error raised => simp [called]
  | ok a => simp [called]

theorem id_of_byId {α : Type} {id : α → List Char} {entries : List α} {key : List Char} {entry : α}
    (h : byId id entries key = some entry) : entry ∈ entries ∧ id entry = key := by
  have hmem := List.mem_filter.mp (List.mem_of_getLast? h)
  exact ⟨hmem.1, of_decide_eq_true hmem.2⟩

theorem byId_of_mem {α : Type} {id : α → List Char} {entries : List α}
    (hnodup : (entries.map id).Nodup) {entry : α} (h : entry ∈ entries) :
    byId id entries (id entry) = some entry := by
  cases hfound : byId id entries (id entry) with
  | none =>
    have hempty := List.getLast?_eq_none_iff.mp hfound
    simpa [h] using List.filter_eq_nil_iff.mp hempty entry h
  | some found =>
    obtain ⟨hmem, hid⟩ := id_of_byId hfound
    rw [List.inj_on_of_nodup_map hnodup hmem h hid]

section

variable {p : Schemas.Platform} {env : Environment p} {request : Schemas.ProvisioningRequest p}

theorem clear_of_ready (h : (validate env request).ready = true) :
    Clear (preflightChecks env request) := by
  have hempty : (preflightChecks env request).filter PreflightCheck.blocks = [] :=
    List.isEmpty_iff.mp h
  intro check hcheck
  simpa using List.filter_eq_nil_iff.mp hempty check hcheck

/-! ## Storage -/

theorem checkSelected_clear {selected : Option DatastoreOut}
    (h : (checkSelected env request selected).blocks = false) :
    ∃ entry, selected = some entry ∧ entry.takes (totalDiskGb request) = true ∧
      checkSelected env request selected = selectedHasRoom env request entry := by
  unfold checkSelected at h ⊢
  split at h
  · cases h
  · rename_i entry
    by_cases haccessible : entry.accessible = true
    · by_cases hfree : entry.freeGb < totalDiskGb request
      · rw [if_neg (by simp [haccessible]), if_pos hfree] at h
        cases h
      · refine ⟨entry, rfl, DatastoreOut.takes_iff.mpr ⟨haccessible, not_lt.mp hfree⟩, ?_⟩
        simp [haccessible, hfree]
    · rw [if_pos (by simp [haccessible])] at h
      cases h

theorem checkAutomatic_clear {choice : DatastoreChoice} (h : Clear (checkAutomatic choice)) :
    ∃ entry, choice.datastore = some entry ∧ automaticPlacement choice ∈ checkAutomatic choice := by
  unfold checkAutomatic at h ⊢
  cases hchoice : choice.datastore with
  | none => simp [hchoice] at h
  | some entry => exact ⟨entry, rfl, List.mem_cons_self⟩

theorem checkStorage_clear {datastores : List DatastoreOut}
    (h : Clear (checkStorage env request datastores)) :
    ∃ target, storageTarget env request datastores = some target ∧ target ∈ datastores ∧
      target.takes (totalDiskGb request) = true ∧
      capacityPassed env request datastores target ∈ checkStorage env request datastores := by
  unfold checkStorage storageTarget capacityPassed at *
  cases hselected : selectedId request with
  | some id =>
    simp only [hselected, clear_cons, clear_nil, and_true] at h
    obtain ⟨target, htarget, htakes, hcheck⟩ := checkSelected_clear h
    exact ⟨target, htarget, (id_of_byId htarget).1, htakes, by simp [hcheck]⟩
  | none =>
    simp only [hselected] at h
    obtain ⟨target, htarget, hmem⟩ := checkAutomatic_clear h
    have hchosen := chooseAutomaticDatastore_takes htarget
    exact ⟨target, htarget, hchosen.1, hchosen.2, hmem⟩

/-! ## What the preflight has found -/

/-- The objects that a request selects, as vCenter shows them, next to the datastores of the
cluster. -/
structure Discovery (env : Environment p) (request : Schemas.ProvisioningRequest p)
    (datastores : DatastoreListing) : Prop where
  datacenter : ∃ datacenters dc, env.vmware.getDatacenters = .ok datacenters ∧
    byId DatacenterOut.id datacenters request.compute.datacenterId = some dc
  cluster : ∃ clusters cluster, env.vmware.getClusters request.compute.datacenterId = .ok clusters ∧
    byId ClusterOut.id clusters request.compute.clusterId = some cluster
  hosts : ∃ hosts, env.vmware.getHosts request.compute.clusterId = .ok hosts ∧
    hostProblems request hosts = []
  pools : poolProblems env request request.compute.clusterId = .ok []
  listing : env.vmware.getDatastores request.compute.clusterId = .ok datastores
  storage : Clear (checkStorage env request datastores.entries)
  network : ∃ networks network,
    env.vmware.getNetworks request.compute.datacenterId = .ok networks ∧
      byId NetworkOut.id networks request.network.networkId = some network
  iso : ∃ isos image, env.vmware.getIsos request.compute.datacenterId = .ok isos ∧
    byId IsoImageOut.id isos request.guest.isoId = some image ∧
      (byId DatastoreOut.id datastores.entries image.datastoreId).isSome

theorem checkHost_clear {hosts : List HostOut} {id : List Char}
    (h : (checkHost hosts id).blocks = false) :
    (byId HostOut.id hosts id).any HostOut.availableForProvisioning = true := by
  unfold checkHost at h
  cases hfound : byId HostOut.id hosts id with
  | none => simp [hfound] at h
  | some host =>
    by_cases havailable : host.availableForProvisioning = true
    · exact havailable
    · simp [hfound, havailable] at h

theorem hostProblems_of_clear {hosts : List HostOut} (h : Clear (checkHosts env request hosts)) :
    hostProblems request hosts = [] := by
  unfold checkHosts at h
  unfold hostProblems
  cases hid : given request.compute.hostId with
  | none => rfl
  | some id =>
    simp only [hid, Option.map_some, Option.toList_some, clear_append, clear_cons] at h
    exact if_pos (checkHost_clear h.1.1)

theorem clear_calledPool {clusterId : List Char} {rest : List PreflightCheck}
    (h : Clear (calledPool env request clusterId rest)) :
    poolProblems env request clusterId = .ok [] ∧ Clear rest := by
  unfold calledPool at h
  unfold poolProblems
  cases hid : given request.compute.resourcePoolId with
  | none =>
    rw [hid] at h
    exact ⟨rfl, h⟩
  | some id =>
    simp only [hid, clear_called, clear_cons] at h
    obtain ⟨pools, hpools, hcheck, hrest⟩ := h
    refine ⟨?_, hrest⟩
    have hmem : (pools.any fun pool => pool.id = id) = true := by
      by_contra hmem
      rw [checkPool, if_neg hmem] at hcheck
      cases hcheck
    rw [hpools]
    exact congrArg Except.ok (if_pos hmem)

theorem checkNetwork_clear {networks : List NetworkOut}
    (h : (checkNetwork request networks).blocks = false) :
    ∃ network, byId NetworkOut.id networks request.network.networkId = some network := by
  unfold checkNetwork at h
  cases hfound : byId NetworkOut.id networks request.network.networkId with
  | none => simp [hfound] at h
  | some network => exact ⟨network, rfl⟩

theorem checkIso_clear {datacenterId : List Char} {datastores : List DatastoreOut}
    {isos : List IsoImageOut} (h : Clear (checkIso env request datacenterId datastores isos)) :
    ∃ image, byId IsoImageOut.id isos request.guest.isoId = some image ∧
      (byId DatastoreOut.id datastores image.datastoreId).isSome := by
  unfold checkIso at h
  cases hfound : byId IsoImageOut.id isos request.guest.isoId with
  | none => simp [hfound] at h
  | some image =>
    refine ⟨image, rfl, ?_⟩
    cases hds : byId DatastoreOut.id datastores image.datastoreId with
    | none => simp [hfound, hds] at h
    | some entry => rfl

theorem mem_called {α : Type} {call : Except Raised α} {rest : α → List PreflightCheck} {a : α}
    {check : PreflightCheck} (hcall : call = .ok a) (h : check ∈ rest a) :
    check ∈ called call rest := by
  rw [hcall]
  exact h

theorem mem_calledPool {clusterId : List Char} {rest : List PreflightCheck}
    {check : PreflightCheck} (hclear : Clear (calledPool env request clusterId rest))
    (h : check ∈ rest) : check ∈ calledPool env request clusterId rest := by
  unfold calledPool at hclear ⊢
  cases hid : given request.compute.resourcePoolId with
  | none => exact h
  | some id =>
    simp only [hid, clear_called] at hclear
    obtain ⟨pools, hpools, -⟩ := hclear
    exact mem_called hpools (List.mem_cons_of_mem _ h)

/-- What the cluster's checks have found. -/
theorem discovery_of_cluster {datacenters : List DatacenterOut} {dc : DatacenterOut}
    {clusters : List ClusterOut} {cluster : ClusterOut}
    (hdatacenters : env.vmware.getDatacenters = .ok datacenters)
    (hdc : byId DatacenterOut.id datacenters request.compute.datacenterId = some dc)
    (hclusters : env.vmware.getClusters request.compute.datacenterId = .ok clusters)
    (hcluster : byId ClusterOut.id clusters request.compute.clusterId = some cluster)
    (h : Clear (checkCluster env request request.compute.datacenterId
      request.compute.clusterId)) :
    ∃ datastores, Discovery env request datastores ∧
      ∀ check ∈ checkStorage env request datastores.entries,
        check ∈ checkCluster env request request.compute.datacenterId
          request.compute.clusterId := by
  obtain ⟨hosts, hhosts, h⟩ := clear_called.mp h
  obtain ⟨hhostChecks, hpoolChecks⟩ := clear_append.mp h
  obtain ⟨hpools, h⟩ := clear_calledPool hpoolChecks
  simp only [clear_called, clear_append, clear_cons] at h
  obtain ⟨datastores, hlisting, hstorage, networks, hnetworks, hnetwork, isos, hisos, hiso⟩ := h
  obtain ⟨network, hnetwork⟩ := checkNetwork_clear hnetwork
  obtain ⟨image, himage, hmedia⟩ := checkIso_clear hiso
  refine ⟨datastores, ?_, ?_⟩
  · exact {
      datacenter := ⟨datacenters, dc, hdatacenters, hdc⟩
      cluster := ⟨clusters, cluster, hclusters, hcluster⟩
      hosts := ⟨hosts, hhosts, hostProblems_of_clear hhostChecks⟩
      pools := hpools
      listing := hlisting
      storage := hstorage
      network := ⟨networks, network, hnetworks, hnetwork⟩
      iso := ⟨isos, image, hisos, himage, hmedia⟩ }
  · intro check hcheck
    refine mem_called hhosts (List.mem_append_right _ (mem_calledPool hpoolChecks ?_))
    exact mem_called hlisting (List.mem_append_left _ hcheck)

theorem discovery_of_clear (h : Clear (checkInfrastructure env request)) :
    ∃ datastores, Discovery env request datastores ∧
      ∀ check ∈ checkStorage env request datastores.entries,
        check ∈ checkInfrastructure env request := by
  obtain ⟨datacenters, hdatacenters, h⟩ := clear_called.mp h
  rw [checkInfrastructure, hdatacenters]
  dsimp only [called]
  cases hdc : byId DatacenterOut.id datacenters request.compute.datacenterId with
  | none => simp [hdc] at h
  | some dc =>
    have hdcId := (id_of_byId hdc).2
    simp only [hdc, clear_cons, clear_called, hdcId] at h ⊢
    obtain ⟨-, clusters, hclusters, h⟩ := h
    rw [hclusters]
    dsimp only
    cases hcluster : byId ClusterOut.id clusters request.compute.clusterId with
    | none => simp [hcluster] at h
    | some cluster =>
      have hclusterId := (id_of_byId hcluster).2
      simp only [hcluster, clear_cons, hclusterId] at h ⊢
      obtain ⟨datastores, hfound, hreported⟩ :=
        discovery_of_cluster hdatacenters hdc hclusters hcluster h.2
      exact ⟨datastores, hfound, fun check hcheck => .tail _ (.tail _ (hreported check hcheck))⟩

/-! ## The stages -/

/-- The policy of the VM names compiles, if there is one. -/
def PolicyCompiles (env : Environment p) : Prop :=
  env.settings.vmNamePolicy = [] ∨ (env.compile env.settings.vmNamePolicy).isSome

/-- Every datastore that a disk names can be reached from the cluster and has room for all
disks. -/
def NamedTaken (env : Environment p) (request : Schemas.ProvisioningRequest p) : Prop :=
  ∀ datastores, env.vmware.getDatastores request.compute.clusterId = .ok datastores →
    ∀ disk ∈ request.hardware.disks, ∀ id, namedDatastore disk = some id →
      ∃ entry ∈ datastores.entries, entry.id = id ∧ entry.takes (totalDiskGb request) = true

theorem validateName_eq_ok (h : Clear (checkNamePolicy env request)) :
    validateName env request = .ok () ↔ PolicyCompiles env := by
  unfold checkNamePolicy at h
  unfold validateName PolicyCompiles
  by_cases hpolicy : env.settings.vmNamePolicy = []
  · simp [hpolicy]
  · rw [if_neg hpolicy] at h ⊢
    cases hcompile : env.compile env.settings.vmNamePolicy with
    | none => simp [hpolicy]
    | some fullmatch =>
      by_cases hmatch : fullmatch request.vm.name = true
      · simp [hmatch]
      · simp [hcompile, hmatch] at h

/-- The index on active names leaves no other job that the stage could find. -/
theorem validateJobs_eq_ok {lower : List Char → List Char} (jobs : JobTable lower) {row : JobRow}
    (hrow : row ∈ jobs.rows) (hname : row.vmName = request.vm.name)
    (hrunning : row.status = .running) : validateJobs request jobs.rows row.id = .ok () := by
  unfold validateJobs
  rw [if_neg]
  intro hany
  obtain ⟨other, hother, hconflict⟩ := List.any_eq_true.mp hany
  simp only [JobRow.conflicts, Bool.and_eq_true, Bool.or_eq_true, decide_eq_true_eq] at hconflict
  obtain ⟨⟨hsame, hstatus⟩, hne⟩ := hconflict
  have hactive : other.status.active = true := by
    rcases hstatus with hstatus | hstatus
    · rw [hstatus]
      rfl
    · rw [hstatus]
      rfl
  have hid := jobs.activeVmName other hother row hrow hactive (by rw [hrunning]; rfl)
    (by rw [hsame, hname])
  exact hne hid

/-- Where an application was found, the stage is no stricter than the preflight. -/
theorem validateInstallers_of_preflight {casefold : Char → List Char} {c : AppCatalog}
    {selected : List AppId} {allowedRoots : List String}
    (hfound : selected ≠ [] → c.selectedApplications selected ≠ [])
    (h : preflightInstallers casefold c selected allowedRoots = none) :
    validateInstallers casefold c selected allowedRoots = none := by
  unfold validateInstallers
  by_cases hselected : selected = []
  · rw [if_pos hselected]
  · unfold preflightInstallers at h
    dsimp only at h
    split at h
    · cases h
    · rename_i hroots
      have hroots : allowedRoots ≠ [] := fun hnil => hroots ⟨hfound hselected, hnil⟩
      split at h
      · cases h
      · rename_i houtside
        rw [not_not, List.filter_eq_nil_iff] at houtside
        rw [if_neg hselected]
        dsimp only
        rw [if_neg hroots, if_neg]
        rw [not_not, outsideRoots, List.map_eq_nil_iff, List.filter_eq_nil_iff]
        intro app happ
        simpa [hroots] using houtside app happ

theorem checkApplications_clear (h : (checkApplications env request).blocks = false)
    (hids : applicationIds request ≠ []) : missingApplications env request = [] := by
  unfold checkApplications at h
  rw [if_neg hids] at h
  dsimp only at h
  split at h
  · rename_i hproblems
    by_contra hmissing
    simp [hmissing] at hproblems
  · cases h

/-- When every selected application exists, the two checks of the roots agree. -/
theorem validateRoots_eq_ok (happs : (checkApplications env request).blocks = false)
    (hroots : (checkInstallers env request).blocks = false) :
    validateRoots env request = .ok () := by
  have hnone : preflightInstallers env.casefold env.catalog (applicationIds request)
      env.settings.allowedInstallerRoots = none := by
    unfold checkInstallers at hroots
    dsimp only at hroots
    split at hroots
    · assumption
    · cases hroots
  have hfound : applicationIds request ≠ [] →
      env.catalog.selectedApplications (applicationIds request) ≠ [] := by
    intro hids hnil
    obtain ⟨id, hid⟩ := List.exists_mem_of_ne_nil _ hids
    have hmissing := List.filter_eq_nil_iff.mp (checkApplications_clear happs hids) id hid
    simp [selectedApplications, hnil] at hmissing
  rw [validateRoots, validateInstallers_of_preflight hfound hnone]

/-! ## The validation of the request -/

theorem stageValidateRequest_ok {lower : List Char → List Char} (jobs : JobTable lower)
    {row : JobRow} (hrow : row ∈ jobs.rows) (hname : row.vmName = request.vm.name)
    (hrunning : row.status = .running) (now : String)
    (h : Clear (preflightChecks env request)) :
    (∃ result, stageValidateRequest env request jobs.rows row.id now = .ok result) ↔
      PolicyCompiles env := by
  simp only [preflightChecks, List.append_assoc, clear_append, clear_cons, List.cons_append] at h
  obtain ⟨-, -, hpolicy, -, -, -, happs, hroots, -⟩ := h
  rw [← validateName_eq_ok hpolicy]
  unfold stageValidateRequest
  constructor
  · rintro ⟨result, hok⟩
    exact (unit_bind_eq_ok.mp hok).1
  · intro hok
    rw [hok, validateJobs_eq_ok jobs hrow hname hrunning, validateRoots_eq_ok happs hroots]
    exact ⟨_, rfl⟩

/-! ## The validation of the infrastructure -/

theorem datastoreProblems_eq_nil {datastores : DatastoreListing} {id : List Char} :
    datastoreProblems env request datastores.entries id = [] ↔
      ∃ entry ∈ datastores.entries, entry.id = id ∧ entry.takes (totalDiskGb request) = true := by
  unfold datastoreProblems
  constructor
  · intro h
    cases hfound : byId DatastoreOut.id datastores.entries id with
    | none => simp [hfound] at h
    | some entry =>
      obtain ⟨hmem, hid⟩ := id_of_byId hfound
      refine ⟨entry, hmem, hid, DatastoreOut.takes_iff.mpr ?_⟩
      by_cases haccessible : entry.accessible = true
      · by_cases hfree : entry.freeGb < totalDiskGb request
        · simp [hfound, haccessible, hfree] at h
        · exact ⟨haccessible, not_lt.mp hfree⟩
      · simp [hfound, haccessible] at h
  · rintro ⟨entry, hmem, rfl, htakes⟩
    rw [DatastoreOut.takes_iff] at htakes
    rw [byId_of_mem datastores.nodup hmem]
    simp [htakes.1, not_lt.mpr htakes.2]

theorem mem_explicitDatastores {id : List Char} : id ∈ explicitDatastores request ↔
    ∃ disk ∈ request.hardware.disks, namedDatastore disk = some id := by
  simp [explicitDatastores, List.mem_eraseDups]

theorem storageProblems_eq_nil {datastores : DatastoreListing}
    (h : Clear (checkStorage env request datastores.entries)) :
    storageProblems env request datastores.entries = [] ↔
      ∀ disk ∈ request.hardware.disks, ∀ id, namedDatastore disk = some id →
        ∃ entry ∈ datastores.entries, entry.id = id ∧
          entry.takes (totalDiskGb request) = true := by
  have hnamed : (∀ disk ∈ request.hardware.disks, ∀ id, namedDatastore disk = some id →
      ∃ entry ∈ datastores.entries, entry.id = id ∧ entry.takes (totalDiskGb request) = true) ↔
        ∀ id ∈ explicitDatastores request,
          datastoreProblems env request datastores.entries id = [] := by
    simp only [datastoreProblems_eq_nil, mem_explicitDatastores]
    exact ⟨fun hall id ⟨disk, hdisk, hid⟩ => hall disk hdisk id hid,
      fun hall disk hdisk id hid => hall id ⟨disk, hdisk, hid⟩⟩
  rw [hnamed]
  unfold storageProblems
  by_cases hexplicit : explicitDatastores request = []
  · -- the automatic choice has room, and so has the largest datastore
    obtain ⟨target, -, hmem, htakes, -⟩ := checkStorage_clear h
    rw [DatastoreOut.takes_iff] at htakes
    have hle := htakes.2.trans (le_largestFree hmem htakes.1)
    simp [hexplicit, not_lt.mpr hle]
  · rw [if_pos hexplicit, List.flatMap_eq_nil_iff]

theorem isoProblems_of_isSome {datastores : List DatastoreOut} {image : IsoImageOut}
    (h : (byId DatastoreOut.id datastores image.datastoreId).isSome) :
    isoProblems datastores (some image) = [] := if_pos h

theorem stageValidateInfrastructure_ok {datastores : DatastoreListing}
    (h : Discovery env request datastores) :
    (∃ result, stageValidateInfrastructure env request = .ok result) ↔
      NamedTaken env request := by
  have hnamed : NamedTaken env request ↔
      storageProblems env request datastores.entries = [] := by
    rw [storageProblems_eq_nil h.storage]
    refine ⟨fun hall => hall datastores h.listing, fun hall other hother => ?_⟩
    have hsame := Except.ok.inj (h.listing.symm.trans hother)
    rwa [hsame] at hall
  obtain ⟨datacenters, dc, hdatacenters, hdc⟩ := h.datacenter
  obtain ⟨clusters, cluster, hclusters, hcluster⟩ := h.cluster
  obtain ⟨hosts, hhosts, hhostProblems⟩ := h.hosts
  obtain ⟨networks, network, hnetworks, hnetwork⟩ := h.network
  obtain ⟨isos, image, hisos, himage, hmedia⟩ := h.iso
  have hinCluster : clusterProblems env request (some cluster) =
      .ok (storageProblems env request datastores.entries, datastores.entries) := by
    rw [clusterProblems, (id_of_byId hcluster).2, hhosts, ok_bind, h.pools, ok_bind, h.listing,
      ok_bind, hhostProblems]
    rfl
  rw [hnamed]
  unfold stageValidateInfrastructure
  rw [hdatacenters, ok_bind]
  simp only [hdc, inDatacenter, Option.isSome_some, if_true, hclusters, ok_bind, hcluster,
    hinCluster, hnetworks, hisos, hnetwork, himage, isoProblems_of_isSome hmedia, List.nil_append,
    List.append_nil]
  by_cases hproblems : storageProblems env request datastores.entries = []
  · simp [hproblems, pure, Except.pure]
  · simp [hproblems]

/-! ## The datastore of the virtual machine -/

/-- What the step of `create_vm` can have recorded: nothing, or where an earlier attempt has
put the virtual machine. -/
inductive Recorded (env : Environment p) (request : Schemas.ProvisioningRequest p) :
    Option (List Char) → Prop
  | fresh : Recorded env request none
  | created {recorded : Option (List Char)} {id : List Char} {why : String} :
    Recorded env request recorded →
      placementDatastore env request recorded = .ok (id, why) → Recorded env request (some id)

theorem osDiskDatastore_eq (recorded : Option (List Char)) :
    osDiskDatastore request recorded = (selectedId request).or (given recorded) := by
  have hhead : (request.hardware.disks.head?.bind namedDatastore).or (selectedId request) =
      selectedId request := by
    unfold selectedId
    cases request.hardware.disks with
    | nil => rfl
    | cons disk disks =>
      rw [List.findSome?_cons, List.head?_cons, Option.bind_some]
      cases namedDatastore disk with
      | none => rfl
      | some id => rfl
  rw [osDiskDatastore, hhead]

theorem placementDatastore_target {datastores : DatastoreListing} {target : DatastoreOut}
    (hlisting : env.vmware.getDatastores request.compute.clusterId = .ok datastores)
    (htarget : storageTarget env request datastores.entries = some target)
    {recorded : Option (List Char)} (h : Recorded env request recorded) :
    ∃ why, placementDatastore env request recorded = .ok (target.id, why) := by
  cases hselected : selectedId request with
  | some id =>
    have hid : target.id = id := by
      rw [storageTarget, hselected] at htarget
      exact (id_of_byId htarget).2
    rw [placementDatastore, hlisting, ok_bind, osDiskDatastore_eq, hselected, hid]
    exact ⟨_, rfl⟩
  | none =>
    rw [storageTarget, hselected] at htarget
    have hchosen : ∀ recorded, given recorded = none →
        ∃ why, placementDatastore env request recorded = .ok (target.id, why) := by
      intro recorded hnone
      rw [placementDatastore, hlisting, ok_bind, osDiskDatastore_eq, hselected, hnone]
      dsimp only [Option.or] at htarget ⊢
      rw [htarget]
      exact ⟨_, rfl⟩
    induction h with
    | fresh => exact hchosen none rfl
    | created hbefore hplaced ih =>
      rename_i before id why
      obtain ⟨why', hsame⟩ := ih
      have hid : id = target.id := congrArg Prod.fst (Except.ok.inj (hplaced.symm.trans hsame))
      cases hgiven : given (some id) with
      | none => exact hchosen _ hgiven
      | some name =>
        have hname : name = id := by
          cases id with
          | nil => cases hgiven
          | cons c cs => exact (Option.some.inj hgiven).symm
        rw [placementDatastore, hlisting, ok_bind, osDiskDatastore_eq, hselected, hgiven, hname,
          hid]
        exact ⟨_, rfl⟩

/-! ## The prediction -/

theorem target_of_clear (h : (checkVCenter env request).blocks = false) :
    (target env request).isSome = true := by
  unfold checkVCenter at h
  unfold target
  cases hrow : env.vcenters request.compute.vcenterId with
  | none => simp [hrow] at h
  | some row =>
    by_cases henabled : row.enabled = true
    · simp [henabled]
    · simp [hrow, henabled] at h

/-- The report names the datastore, and `create_vm` puts the virtual machine there. -/
def PlacedAsReported (env : Environment p) (request : Schemas.ProvisioningRequest p) : Prop :=
  ∃ datastores target,
    env.vmware.getDatastores request.compute.clusterId = .ok datastores ∧
      storageTarget env request datastores.entries = some target ∧
      capacityPassed env request datastores.entries target ∈ (validate env request).checks ∧
      ∀ recorded, Recorded env request recorded →
        ∃ why, placementDatastore env request recorded = .ok (target.id, why)

/-- Without a blocking failure, a running job passes both stages and is placed as reported
exactly if the policy compiles and every datastore that a disk names takes the virtual
machine. -/
theorem preflight_predicts {p : Schemas.Platform} (env : Environment p)
    (request : Schemas.ProvisioningRequest p) {lower : List Char → List Char}
    (jobs : JobTable lower) {row : JobRow} (now : String) (hrow : row ∈ jobs.rows)
    (hname : row.vmName = request.vm.name) (hrunning : row.status = .running)
    (hready : (validate env request).ready = true) :
    ((∃ result, stageValidateRequest env request jobs.rows row.id now = .ok result) ∧
      (∃ result, stageValidateInfrastructure env request = .ok result) ∧
      PlacedAsReported env request) ↔ PolicyCompiles env ∧ NamedTaken env request := by
  have hclear := clear_of_ready hready
  have htarget : (target env request).isSome = true :=
    target_of_clear (hclear _ List.mem_cons_self)
  have hinfra : ∀ check ∈ checkInfrastructure env request,
      check ∈ preflightChecks env request := by
    intro check hcheck
    simp [preflightChecks, htarget, hcheck]
  obtain ⟨datastores, hfound, hreported⟩ := discovery_of_clear fun check hcheck =>
    hclear check (hinfra check hcheck)
  obtain ⟨target, htarget, -, -, hpassed⟩ := checkStorage_clear hfound.storage
  have hplaced : PlacedAsReported env request :=
    ⟨datastores, target, hfound.listing, htarget, hinfra _ (hreported _ hpassed),
      fun recorded hrecorded => placementDatastore_target hfound.listing htarget hrecorded⟩
  rw [stageValidateRequest_ok jobs hrow hname hrunning now hclear,
    stageValidateInfrastructure_ok hfound]
  exact ⟨fun h => ⟨h.1, h.2.1⟩, fun h => ⟨h.1, h.2, hplaced⟩⟩

end

/-! A cluster with a datastore that takes the virtual machine, and one that is offline. -/

def windowsServerLabel : List Char := "SSS_X64FREE_EN-US_DV9".toList

def windowsServerVolume : List UInt8 :=
  1 :: ("CD001".toList ++ List.replicate 34 ' ' ++ windowsServerLabel ++
    List.replicate 11 ' ').map fun c => c.toNat.toUInt8

/-- The system area, and the descriptor behind it. -/
def windowsServerHeader : List UInt8 := List.replicate (16 * 2048) 0 ++ windowsServerVolume

def officeVMware : VMware where
  testConnection := .ok { ok := true, detail := "" }
  getDatacenters := .ok [{ id := "datacenter-2".toList, name := "Office" }]
  getClusters _ :=
    .ok [{ id := "domain-c8".toList, name := "Cluster", hostsCount := 1, drsEnabled := true }]
  getHosts _ := .ok []
  getResourcePools _ := .ok []
  getDatastores _ := .ok {
    entries := [
      { id := "datastore-1".toList, name := "FAST".toList, freeGb := 900, accessible := true },
      { id := "datastore-2".toList, name := "OFFLINE".toList, freeGb := 900,
        accessible := false }]
    nodup := by decide }
  getNetworks _ := .ok [{ id := "network-7".toList, name := "LAN", type := "STANDARD_PORT_GROUP" }]
  getIsos _ := .ok [{
    id := "iso-1".toList, name := "server.iso", datastoreId := "datastore-1".toList,
    datastoreName := "FAST", path := "[FAST] server.iso" }]
  checkHostHttps _ := .ok []
  readDatastoreFile _ _ := .ok windowsServerHeader
  vmExists _ := .ok false

def office : Environment Schemas.strictPlatform where
  compile _ := some fun _ => true
  casefold := asciiFold
  showGb gb := toString gb.floor
  dumps _ := ""
  settings := { vmNamePolicy := [], allowedInstallerRoots := [], preferredDatastores := [] }
  vcenters _ := some { name := "vc", host := "vc.office", enabled := true }
  vmware := officeVMware
  catalog := { apps := [] }
  addressing := []
  certificates := []
  credentials := []

/-- A request whose second disk names `second`. -/
def officeRequest (second : String) : Schemas.ProvisioningRequest Schemas.strictPlatform where
  identityPolicyVersion := .v2
  vm := { name := "web-01".toList, description := [] }
  compute := {
    vcenterId := ⟨"9b2f7e0c-52a1-4c6e-8d1f-0a4b5c6d7e8f".toList, by decide +kernel⟩
    datacenterId := "datacenter-2".toList
    clusterId := "domain-c8".toList
    hostId := none
    resourcePoolId := none }
  hardware := {
    cpu := 4
    memoryMb := 8192
    firmware := .efi
    secureBoot := false
    disks := [
      { sizeGb := 80, provisioning := .thin, datastoreId := some "datastore-1".toList },
      { sizeGb := 100, provisioning := .thin, datastoreId := some second.toList }] }
  guest := {
    isoId := "iso-1".toList
    hostname := some "WEB-01".toList
    timezone := none
    installationLocale := "en-US".toList
    inputLocale := "0409:00000409".toList
    windowsImageIndex := 2
    credentialSecretRef := "guest-local-admin".toList
    productKeySecretRef := none
    domainJoin := none }
  network := {
    networkId := "network-7".toList
    adapterType := .vmxnet3
    mode := .dhcp
    ipv4 := none }
  certificatePackageIds := []
  applicationIds := []

def officeJobs : JobTable id where
  rows := [{ id := "j1", vmName := "web-01".toList, status := .running }]
  activeVmName := by simp

theorem isoVolumeLabel_header : isoVolumeLabel windowsServerHeader = some windowsServerLabel := by
  have hdrop : windowsServerHeader.drop (16 * 2048) = windowsServerVolume :=
    List.drop_left' List.length_replicate
  rw [isoVolumeLabel, hdrop]
  decide +kernel

theorem checkWindowsServerMedia_server {p : Schemas.Platform} {env : Environment p}
    {datacenterId : List Char} {image : IsoImageOut} {header : List UInt8} {label : List Char}
    (hread : env.vmware.readDatastoreFile datacenterId image.path = .ok header)
    (hlabel : isoVolumeLabel header = some label)
    (hkind : classifyWindowsMedia (some label) = .server) :
    checkWindowsServerMedia env datacenterId image =
      passed "windows_media" "Windows Server installation media"
        s!"Volume label {String.ofList label}." := by
  rw [checkWindowsServerMedia, hread]
  dsimp only
  rw [hlabel, hkind]
  rfl

theorem office_media (datacenterId : List Char) (image : IsoImageOut) :
    checkWindowsServerMedia office datacenterId image =
      passed "windows_media" "Windows Server installation media"
        s!"Volume label {String.ofList windowsServerLabel}." :=
  checkWindowsServerMedia_server rfl isoVolumeLabel_header (by decide +kernel)

theorem office_ready :
    ∀ second ∈ ["datastore-1", "datastore-2"],
      (validate office (officeRequest second)).ready = true := by
  unfold validate preflightChecks checkInfrastructure checkCluster
  delta checkIso
  simp only [office_media]
  decide +kernel

theorem preflight_predicts_office :
    (∃ result, stageValidateRequest office (officeRequest "datastore-1") officeJobs.rows "j1"
        "12:00" = .ok result) ∧
      (∃ result, stageValidateInfrastructure office (officeRequest "datastore-1") =
        .ok result) ∧ PlacedAsReported office (officeRequest "datastore-1") := by
  have hready := office_ready "datastore-1" (by simp)
  refine (preflight_predicts office (officeRequest "datastore-1") officeJobs "12:00"
    List.mem_cons_self rfl rfl hready).mpr ⟨.inl rfl, ?_⟩
  intro datastores hlisting disk hdisk id hid
  cases Except.ok.inj hlisting
  have hname : id = "datastore-1".toList := by
    simp only [officeRequest, List.mem_cons, List.not_mem_nil, or_false] at hdisk
    rcases hdisk with rfl | rfl
    · exact (Option.some.inj hid).symm
    · exact (Option.some.inj hid).symm
  exact ⟨_, List.mem_cons_self, hname.symm, by decide +kernel⟩

/-- The second disk's datastore is offline: ready for the preflight, refused by the stage. -/
theorem secondDatastore_unchecked :
    (validate office (officeRequest "datastore-2")).ready = true ∧
      ¬ ∃ result, stageValidateInfrastructure office (officeRequest "datastore-2") =
        .ok result := by
  refine ⟨office_ready "datastore-2" (by simp), ?_⟩
  rintro ⟨result, hok⟩
  have hfails : (stageValidateInfrastructure office
      (officeRequest "datastore-2")).toOption.isSome = false := by decide +kernel
  rw [hok] at hfails
  cases hfails

end InfraOps.Preflight
