import InfraOps.Wizard.Request

/-!
# Changing the location

What `update` leaves of the selections under the old vCenter, datacenter or cluster. The block
for the vCenter does not reset the disks, so that a datastore of theirs can outlive it.
-/

namespace InfraOps.Wizard

def MovesSite (data : WizardData) (patch : Patch) : Prop :=
  changes patch.vcenterId data.vcenterId ∨ changes patch.datacenterId data.datacenterId

/-- The patches that change the location. -/
def Relocates (data : WizardData) (patch : Patch) : Prop :=
  MovesSite data patch ∨ changes patch.clusterId data.clusterId

/-- The datastores that a draft has selected, for the machine or for a disk. -/
def selectedDatastores (data : WizardData) : List (List Char) :=
  data.datastoreId.toList ++ data.disks.filterMap (·.datastoreId)

/-- A request without the selections under the old location. -/
structure LocationCleared (old : WizardData) (patch : Patch) (request : ProvisioningRequest) :
    Prop where
  host : ∀ id ∈ request.compute.hostId, id ∉ old.hostId
  resourcePool : ∀ id ∈ request.compute.resourcePoolId, id ∉ old.resourcePoolId
  datastore : ∀ disk ∈ request.hardware.disks, ∀ id ∈ disk.datastoreId,
    id ∉ selectedDatastores old
  cluster : MovesSite old patch →
    ∀ id ∈ textOrNone request.compute.clusterId, id ∉ textOrNone old.clusterId
  network : MovesSite old patch →
    ∀ id ∈ textOrNone request.network.networkId, id ∉ textOrNone old.networkId
  iso : MovesSite old patch →
    ∀ id ∈ textOrNone request.guest.isoId, id ∉ textOrNone old.isoId

/-- The disks after the patch are reset, or not asked for their datastores, or name none that
the draft had selected. -/
def DisksForgetLocation (data : WizardData) (patch : Patch) : Prop :=
  changes patch.datacenterId data.datacenterId ∨ changes patch.clusterId data.clusterId ∨
    patch.storageMode.getD data.storageMode = .manual ∨
    ∀ disk ∈ patch.disks.getD data.disks, ∀ id ∈ disk.datastoreId, id ∉ selectedDatastores data

/-! ## What an update resets -/

variable {s : WizardState} {patch : Patch}

theorem update_of_relocates (h : Relocates s.data patch) :
    (update patch s).data.hostId = none ∧ (update patch s).data.resourcePoolId = none ∧
      (update patch s).data.datastoreId = none := by
  unfold Relocates MovesSite at h
  -- each of the three blocks resets the three fields
  cases hvcenter : changes patch.vcenterId s.data.vcenterId <;>
    cases hdatacenter : changes patch.datacenterId s.data.datacenterId <;>
      cases hcluster : changes patch.clusterId s.data.clusterId <;>
        simp_all [update, normalizedPatch, Patch.apply]

theorem update_of_movesSite (h : MovesSite s.data patch) :
    (update patch s).data.clusterId = [] ∧ (update patch s).data.networkId = [] ∧
      (update patch s).data.isoId = [] := by
  unfold MovesSite at h
  -- the block for the cluster leaves these three fields alone
  cases hvcenter : changes patch.vcenterId s.data.vcenterId <;>
    cases hdatacenter : changes patch.datacenterId s.data.datacenterId <;>
      cases hcluster : changes patch.clusterId s.data.clusterId <;>
        simp_all [update, normalizedPatch, Patch.apply]

theorem storageMode_update (patch : Patch) (s : WizardState) :
    (update patch s).data.storageMode = patch.storageMode.getD s.data.storageMode := by
  simp only [update, normalizedPatch, Patch.apply]
  split_ifs <;> rfl

theorem disks_update (patch : Patch) (s : WizardState) : (update patch s).data.disks =
    if changes patch.datacenterId s.data.datacenterId ∨ changes patch.clusterId s.data.clusterId
    then clearedDisks s.data else patch.disks.getD s.data.disks := by
  unfold update normalizedPatch Patch.apply
  cases hvcenter : changes patch.vcenterId s.data.vcenterId <;>
    cases hdatacenter : changes patch.datacenterId s.data.datacenterId <;>
      cases hcluster : changes patch.clusterId s.data.clusterId <;>
        simp [*]

theorem datastoreId_of_mem_clearedDisks {data : WizardData} {draft : DiskDraft}
    (h : draft ∈ clearedDisks data) : draft.datastoreId = none := by
  obtain ⟨disk, -, rfl⟩ := List.mem_map.mp h
  rfl

/-! ## What the request is left with -/

variable (b : Browser)

theorem buildRequest_of_relocates (h : Relocates s.data patch) :
    (buildRequest b (update patch s).data).compute.hostId = none ∧
      (buildRequest b (update patch s).data).compute.resourcePoolId = none := by
  obtain ⟨hhost, hpool, -⟩ := update_of_relocates h
  constructor
  · simp [buildRequest, hhost]
  · exact hpool

theorem buildRequest_of_movesSite (h : MovesSite s.data patch) :
    textOrNone (buildRequest b (update patch s).data).compute.clusterId = none ∧
      textOrNone (buildRequest b (update patch s).data).network.networkId = none ∧
      textOrNone (buildRequest b (update patch s).data).guest.isoId = none := by
  obtain ⟨hcluster, hnetwork, hiso⟩ := update_of_movesSite h
  refine ⟨?_, ?_, ?_⟩
  · exact if_pos hcluster
  · exact if_pos hnetwork
  · exact if_pos hiso

/-- The datastore of a requested disk is the machine's or the draft's. -/
theorem datastoreId_of_mem_disks {data : WizardData} {disk : DiskSpec}
    (h : disk ∈ (buildRequest b data).hardware.disks) : ∃ draft ∈ data.disks, disk.datastoreId =
      if data.storageMode = .manual then data.datastoreId else draft.datastoreId := by
  obtain ⟨draft, hdraft, rfl⟩ := List.mem_map.mp h
  exact ⟨draft, hdraft, rfl⟩

theorem mem_disks_of_auto {data : WizardData} (hauto : data.storageMode ≠ .manual)
    {draft : DiskDraft} (h : draft ∈ data.disks) :
    ∃ disk ∈ (buildRequest b data).hardware.disks, disk.datastoreId = draft.datastoreId := by
  refine ⟨_, List.mem_map.mpr ⟨draft, h, rfl⟩, ?_⟩
  exact if_neg hauto

theorem disksForget_of_cleared (h : LocationCleared s.data patch
    (buildRequest b (update patch s).data)) : DisksForgetLocation s.data patch := by
  have hdisks := disks_update patch s
  have hmode := storageMode_update patch s
  by_cases hreset : changes patch.datacenterId s.data.datacenterId ∨
      changes patch.clusterId s.data.clusterId
  · exact hreset.elim .inl fun hcluster => .inr (.inl hcluster)
  rw [if_neg hreset] at hdisks
  by_cases hmanual : patch.storageMode.getD s.data.storageMode = .manual
  · exact .inr (.inr (.inl hmanual))
  · refine .inr (.inr (.inr fun draft hdraft id hid => ?_))
    rw [← hdisks] at hdraft
    obtain ⟨disk, hdisk, hsame⟩ := mem_disks_of_auto b (by rwa [hmode]) hdraft
    exact h.datastore disk hdisk id (hsame ▸ hid)

theorem datastore_of_disksForget (hmoves : Relocates s.data patch)
    (h : DisksForgetLocation s.data patch) {disk : DiskSpec}
    (hdisk : disk ∈ (buildRequest b (update patch s).data).hardware.disks) {id : List Char}
    (hid : id ∈ disk.datastoreId) : id ∉ selectedDatastores s.data := by
  obtain ⟨draft, hdraft, hsame⟩ := datastoreId_of_mem_disks b hdisk
  rw [hsame, storageMode_update, (update_of_relocates hmoves).2.2] at hid
  rw [disks_update] at hdraft
  split_ifs at hid hdraft with hmanual hreset hreset
  · cases hid
  · cases hid
  · rw [datastoreId_of_mem_clearedDisks hdraft] at hid
    cases hid
  · obtain ⟨hdatacenter, hcluster⟩ := not_or.mp hreset
    rcases h with h | h | h | h
    · exact absurd h hdatacenter
    · exact absurd h hcluster
    · exact absurd h hmanual
    · exact h draft hdraft id hid

/-- A change of the location leaves no old selection in the request, exactly if the disks forget
theirs. -/
theorem locationCleared_iff (s : WizardState) (patch : Patch) (h : Relocates s.data patch) :
    LocationCleared s.data patch (buildRequest b (update patch s).data) ↔
      DisksForgetLocation s.data patch := by
  constructor
  · exact disksForget_of_cleared b
  · intro hforget
    obtain ⟨hhost, hpool⟩ := buildRequest_of_relocates b h
    refine { host := ?_, resourcePool := ?_, datastore := ?_, cluster := ?_, network := ?_,
             iso := ?_ }
    · simp [hhost]
    · simp [hpool]
    · intro disk hdisk id hid
      exact datastore_of_disksForget b h hforget hdisk hid
    · intro hmoves
      simp [(buildRequest_of_movesSite b hmoves).1]
    · intro hmoves
      simp [(buildRequest_of_movesSite b hmoves).2.1]
    · intro hmoves
      simp [(buildRequest_of_movesSite b hmoves).2.2]

/-- A saved draft whose disk is on a datastore of its vCenter. -/
def savedDraft : WizardState where
  data :=
    { initialWizardData with
      vcenterId := "vcenter-1".toList
      datacenterId := "datacenter-1".toList
      clusterId := "cluster-1".toList
      datastoreId := some "datastore-1".toList
      disks := [{ sizeGb := .ofNat 100, provisioning := .thin,
                  datastoreId := some "datastore-1".toList }] }
  errors := []

theorem locationCleared_iff_datacenter :
    LocationCleared savedDraft.data { datacenterId := some "datacenter-2".toList }
      (buildRequest asciiBrowser
        (update { datacenterId := some "datacenter-2".toList } savedDraft).data) := by
  have hmoves : Relocates savedDraft.data { datacenterId := some "datacenter-2".toList } :=
    .inl (.inr (by decide))
  exact (locationCleared_iff asciiBrowser savedDraft _ hmoves).mpr (.inl (by decide))

/-- Another vCenter leaves the disk on the datastore of the first. -/
theorem not_locationCleared :
    Relocates savedDraft.data { vcenterId := some "vcenter-2".toList } ∧
      ¬ LocationCleared savedDraft.data { vcenterId := some "vcenter-2".toList }
        (buildRequest asciiBrowser
          (update { vcenterId := some "vcenter-2".toList } savedDraft).data) := by
  refine ⟨.inl (.inl (by decide)), fun h => ?_⟩
  refine h.datastore _ List.mem_cons_self "datastore-1".toList rfl ?_
  decide

end InfraOps.Wizard
