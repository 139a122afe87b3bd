import InfraOps.Support.Machine
import InfraOps.Vsphere.Inventory
import InfraOps.Workers.Stages
import Mathlib.Algebra.GroupWithZero.Nat

/-!
# The creation of a VM, step by step

`VsphereVMwareService.create_vm` is two vCenter tasks: `CreateVM_Task`, and a
`ReconfigVM_Task` that sets the boot order and the boot retry. The machine below runs the
attempts of `create_vm` one effect at a time; an attempt may be stopped anywhere, and the
thread it leaves behind may still land its next effects. A VM that an earlier attempt left is
found by its marker and adopted as it is.
-/

namespace InfraOps

/-! ## `create_vm` of the service -/

inductive FirmwareType
  | bios | efi
  deriving DecidableEq

structure VmCreateSpec where
  vmName : String
  /-- The VM folder of `spec.datacenter_id`. -/
  vmFolder : String
  /-- `decode_iso_id(spec.iso_id)`: the datastore and the path, or the `ValueError`. -/
  iso : Except String (String × String)
  osDiskSizeGb : Nat
  osDiskThin : Bool := true
  description : String := ""
  hostId : String := ""
  resourcePoolId : String := ""
  datastoreId : String := ""
  firmware : FirmwareType := .efi
  secureBoot : Bool := false
  jobId : String

structure Datastore where
  id : String
  name : String
  accessible : Bool
  freeSpace : Nat

/-- What vCenter answers to the placement lookups. -/
structure Placement where
  /-- Datacenter and compute target exist and belong together. -/
  targetFound : Bool := true
  hostUsable : Bool := true
  poolFound : Bool := true
  /-- The datastores of the compute target. -/
  datastores : List Datastore
  /-- The datastores of the datacenter. -/
  datacenterStores : List Datastore

def hostToolsIsoPath : String := "[] /vmimages/tools-isoimages/windows.iso"

def isoIdError (text : String) : InfraOperationError where
  humanMessage := "The selected ISO identifier is invalid."
  reason := text
  recommendedAction := "Refresh the ISO inventory and select the image again."
  retryable := false

def duplicateNameError (vmName : String) : InfraOperationError where
  humanMessage := s!"A virtual machine named '{vmName}' already exists."
  reason := "Duplicate VM name in the vCenter inventory."
  recommendedAction := "Choose a different VM name and resubmit the request."
  retryable := false

def targetMissingError : InfraOperationError where
  humanMessage := "The selected datacenter or compute target was not found."
  reason := "The placement inventory changed after validation."
  recommendedAction := "Re-open the wizard and select the infrastructure again."
  retryable := false

def hostUnavailableError (hostId : String) : InfraOperationError where
  humanMessage := s!"Host '{hostId}' is not available in the selected compute target."
  reason :=
    "The host is disconnected, in maintenance mode, or belongs to another compute target."
  recommendedAction := "Select another host or use automatic placement."
  retryable := false

def poolMissingError (poolId : String) : InfraOperationError where
  humanMessage := s!"Resource pool '{poolId}' was not found in the compute target."
  reason := "Resource pool removed or moved after validation."
  recommendedAction := "Re-select the placement target and retry."
  retryable := false

def noCapacityError (sizeGb : Nat) : InfraOperationError where
  humanMessage := "No selected datastore has enough accessible capacity for the VM."
  reason := s!"The OS disk requires approximately {sizeGb} GB."
  recommendedAction := "Select another datastore or reduce the requested disk capacity."
  retryable := false

def isoUnavailableError : InfraOperationError where
  humanMessage := "The selected ISO is not available in the selected datacenter."
  reason := "Its datastore is missing, inaccessible, or does not match the ISO path."
  recommendedAction := "Refresh the ISO inventory and select another image."
  retryable := false

/-- `max(candidates, key=freeSpace)`: the first of the largest. -/
def largest : List Datastore → Option Datastore
  | [] => none
  | d :: ds => some (ds.foldl (fun best e => if best.freeSpace < e.freeSpace then e else best) d)

structure VmConfig where
  name : String
  folder : String
  vmPathName : String
  extraConfig : List (String × String)
  annotation : String
  devices : List Device
  boot : BootOptions

/-- The devices that `CreateVM_Task` is given: one disk, and the two ISOs that Setup needs. -/
def installationDevices (spec : VmCreateSpec) (isoPath : String) : List Device :=
  [{ key := -100, kind := .lsiLogicSas },
    { key := -101, controllerKey := some (-100), unitNumber := some 0,
      kind := .disk (spec.osDiskSizeGb * 1024 * 1024) spec.osDiskThin },
    { key := -200, kind := .ahci },
    { key := -201, controllerKey := some (-200), unitNumber := some 0, kind := .cdrom isoPath },
    { key := -202, controllerKey := some (-200), unitNumber := some 1,
      kind := .cdrom hostToolsIsoPath }]

def vmConfig (spec : VmCreateSpec) (isoPath : String) (store : Datastore) : VmConfig where
  name := spec.vmName
  folder := spec.vmFolder
  vmPathName := s!"[{store.name}]"
  extraConfig := if spec.jobId = "" then [] else [(ownerExtraConfigKey, spec.jobId)]
  annotation := ownerAnnotation spec.description spec.jobId
  devices := installationDevices spec isoPath
  boot := { efiSecureBootEnabled := spec.firmware == .efi && spec.secureBoot }

/-- The selected ISO is on an accessible datastore of the compute target. -/
def isoAvailable (p : Placement) (isoStore isoPath : String) : Bool :=
  match p.datacenterStores.find? fun d => d.id == isoStore with
  | none => false
  | some store =>
    p.datastores.any (fun d => d.id == isoStore) && store.accessible &&
      s!"[{store.name}] ".toList.isPrefixOf isoPath.toList &&
      ".iso".toList.isSuffixOf isoPath.toLower.toList

/-- `create_vm` of the service, up to the submission of `CreateVM_Task`. -/
def createVmConfig (inv : Inventory) (spec : VmCreateSpec) (p : Placement) :
    Except InfraOperationError VmConfig :=
  match spec.iso with
  | .error text => .error (isoIdError text)
  | .ok (isoStore, isoPath) =>
    if inv.findVmsByName spec.vmName ≠ [] then .error (duplicateNameError spec.vmName)
    else if !p.targetFound then .error targetMissingError
    else if spec.hostId ≠ "" ∧ !p.hostUsable then .error (hostUnavailableError spec.hostId)
    else if spec.resourcePoolId ≠ "" ∧ !p.poolFound then
      .error (poolMissingError spec.resourcePoolId)
    else
      let candidates := p.datastores.filter fun d =>
        d.accessible && decide (spec.osDiskSizeGb * 1024 ^ 3 ≤ d.freeSpace) &&
          (spec.datastoreId == "" || d.id == spec.datastoreId)
      match largest candidates with
      | none => .error (noCapacityError spec.osDiskSizeGb)
      | some store =>
        if isoAvailable p isoStore isoPath then .ok (vmConfig spec isoPath store)
        else .error isoUnavailableError

/-- How vCenter creates the VM: its identifier, the keys of the devices, and the devices
that every VM has. -/
structure Landing where
  id : String
  id_ne : id ≠ "" := by decide
  keys : Int → Int := fun key => key
  defaults : List Device := []

def createdVm (config : VmConfig) (l : Landing) : Vm where
  id := l.id
  id_ne := l.id_ne
  name := config.name
  folder := config.folder
  vmPathName := config.vmPathName
  extraConfig := config.extraConfig
  annotation := config.annotation
  devices := config.devices.map (fun d =>
    { d with key := l.keys d.key, controllerKey := d.controllerKey.map l.keys }) ++ l.defaults
  boot := config.boot

/-- The boot options of the second task: the CD first, then the first disk. -/
def installationBoot (spec : VmCreateSpec) (vm : Vm) : BootOptions where
  bootOrder := .cdrom :: ((vm.devices.find? Device.isDisk).map fun d => .disk d.key).toList
  bootRetryEnabled := true
  bootRetryDelay := some 10000
  efiSecureBootEnabled :=
    if spec.firmware = .efi then spec.secureBoot else vm.boot.efiSecureBootEnabled

/-! ## The machine -/

/-- How far a call of the service has come. -/
inductive CreateCall
  /-- `CreateVM_Task` has been submitted. -/
  | creating (config : VmConfig)
  /-- The VM exists; `ReconfigVM_Task` has not completed. -/
  | created (id : String)
  | configured (id : String)

inductive CreatePhase
  | idle
  /-- The name was free. -/
  | placing
  | calling (call : CreateCall) (datastoreId placement : String)

structure CreationState where
  inventory : Inventory
  spec : VmCreateSpec
  ctx : JobRunContext
  job : ProvisioningJob
  phase : CreatePhase := .idle
  /-- Calls of attempts that were stopped, whose threads may go on. -/
  threads : List CreateCall := []
  outcome : Option StageOutcome := none
  /-- History: the VMs whose boot reconfiguration has completed. -/
  configured : List String := []

inductive CreateAction
  | lookup
  | submit (datastoreId placement : String) (p : Placement)
  | create (l : Landing)
  | configure
  | returns
  /-- The attempt ends without a result: an error, a timeout, a cancellation or a crash. -/
  | stop (goesOn : Bool)
  | threadCreates (thread : Nat) (l : Landing)
  | threadConfigures (thread : Nat)
  | outside (c : Inventory.Change)

namespace CreationState

def ref (vm : Vm) : VmRef := ⟨vm.id, vm.name, vm.id_ne⟩

/-- What `stage_create_vm` makes of the answers; an error ends the attempt. -/
def answered (s : CreationState) (a : CreateVmAnswers) : CreationState :=
  match (stageCreateVm s.ctx s.job a).result with
  | .ok outcome => { s with phase := .idle, outcome := some outcome }
  | .error _ => { s with phase := .idle }

/-- `find_vm_ownership`. -/
def lookup (s : CreationState) : CreationState :=
  match s.inventory.findVmByName s.spec.vmName with
  | .error error => s.answered (.lookupFails (.infra error))
  | .ok none => { s with phase := .placing }
  | .ok (some vm) => s.answered (.existing (ref vm) (vmOwnerJobId vm))

def submit (s : CreationState) (datastoreId placement : String) (p : Placement) : CreationState :=
  match createVmConfig s.inventory { s.spec with datastoreId } p with
  | .error error => s.answered (.createFails (.infra error))
  | .ok config => { s with phase := .calling (.creating config) datastoreId placement }

/-- `CreateVM_Task` completes. -/
def creates (s : CreationState) (config : VmConfig) (l : Landing) : Option CreationState :=
  (s.inventory.add (createdVm config l)).map fun inventory => { s with inventory }

/-- `ReconfigVM_Task` completes. -/
def configures (s : CreationState) (id : String) : CreationState :=
  { s with
    inventory := s.inventory.reconfigureBoot id (installationBoot s.spec)
    configured := id :: s.configured }

def stepOpen (s : CreationState) : CreateAction → Option CreationState
  | .lookup =>
    match s.phase with
    | .idle => some s.lookup
    | _ => none
  | .submit datastoreId placement p =>
    match s.phase with
    | .placing => some (s.submit datastoreId placement p)
    | _ => none
  | .create l =>
    match s.phase with
    | .calling (.creating config) datastoreId placement =>
      (s.creates config l).map fun s =>
        { s with phase := .calling (.created l.id) datastoreId placement }
    | _ => none
  | .configure =>
    match s.phase with
    | .calling (.created id) datastoreId placement =>
      some { s.configures id with phase := .calling (.configured id) datastoreId placement }
    | _ => none
  | .returns =>
    match s.phase with
    | .calling (.configured id) datastoreId placement =>
      (s.inventory.findByMoref id).map fun vm =>
        s.answered (.creates (ref vm) datastoreId placement)
    | _ => none
  | .stop goesOn =>
    match s.phase with
    | .idle => none
    | .placing => some { s with phase := .idle }
    | .calling call _ _ =>
      some { s with phase := .idle, threads := if goesOn then s.threads ++ [call] else s.threads }
  | _ => none

/-- One step. Once the stage has ended with an outcome, only what is outside goes on. -/
def step (s : CreationState) (e : CreateAction) : Option CreationState :=
  match e with
  | .threadCreates thread l =>
    match s.threads[thread]? with
    | some (.creating config) =>
      (s.creates config l).map fun s =>
        { s with threads := s.threads.set thread (.created l.id) }
    | _ => none
  | .threadConfigures thread =>
    match s.threads[thread]? with
    | some (.created id) =>
      some { s.configures id with threads := s.threads.set thread (.configured id) }
    | _ => none
  | .outside c =>
    if c.sparing s.job.id s.inventory then
      (s.inventory.change c).map fun inventory => { s with inventory }
    else none
  | e => if s.outcome.isNone then s.stepOpen e else none

/-- A job whose VM has not been created; nobody else uses its marker. -/
structure Fresh (s : CreationState) : Prop where
  name : s.spec.vmName = s.ctx.request.vmName
  jobId : s.spec.jobId = s.job.id
  jobId_ne : s.job.id ≠ ""
  foreign : ∀ vm ∈ s.inventory.vms, vm.ownedBy s.job.id = false
  idle : s.phase = .idle
  threads : s.threads = []
  outcome : s.outcome = none
  configured : s.configured = []

end CreationState

/-- The machine of one `create_vm` stage with all its attempts. -/
def creation : Machine CreationState CreateAction where
  init := CreationState.Fresh
  step := CreationState.step

/-! ## What a creation produces -/

/-- The VM of a creation that ran without interruption. -/
def uninterruptedVm (spec : VmCreateSpec) (config : VmConfig) (l : Landing) : Vm :=
  let vm := createdVm config l
  { vm with boot := installationBoot spec vm }

/-- The config of an attempt, whichever datastore it chose. -/
def ConfigOf (spec : VmCreateSpec) (config : VmConfig) : Prop :=
  ∃ isoStore isoPath store, spec.iso = .ok (isoStore, isoPath) ∧
    config = vmConfig spec isoPath store

theorem configOf_createVmConfig {inv : Inventory} {spec : VmCreateSpec} {datastoreId : String}
    {p : Placement} {config : VmConfig}
    (h : createVmConfig inv { spec with datastoreId } p = .ok config) : ConfigOf spec config := by
  unfold createVmConfig at h
  split at h
  · cases h
  · rename_i isoStore isoPath hiso
    repeat (split at h; · cases h)
    dsimp only at h
    split at h
    · cases h
    · rename_i store hstore
      split at h
      · cases h
        exact ⟨isoStore, isoPath, store, hiso, rfl⟩
      · cases h

/-- A created VM carries the marker of its job. -/
theorem ConfigOf.owned {spec : VmCreateSpec} {config : VmConfig} (h : ConfigOf spec config)
    (hne : spec.jobId ≠ "") (l : Landing) : (createdVm config l).ownedBy spec.jobId = true := by
  obtain ⟨isoStore, isoPath, store, -, rfl⟩ := h
  simp [Vm.ownedBy, vmOwnerJobId, createdVm, vmConfig, hne]

/-- A second reconfiguration changes nothing. -/
theorem withBoot_uninterrupted (spec : VmCreateSpec) (config : VmConfig) (l : Landing) :
    Inventory.withBoot l.id (installationBoot spec) (uninterruptedVm spec config l) =
      uninterruptedVm spec config l := by
  simp only [Inventory.withBoot, uninterruptedVm, createdVm, installationBoot, if_true]
  split <;> rfl

theorem withBoot_created (spec : VmCreateSpec) (config : VmConfig) (l : Landing) :
    Inventory.withBoot l.id (installationBoot spec) (createdVm config l) =
      uninterruptedVm spec config l := by
  simp [Inventory.withBoot, uninterruptedVm, createdVm]

/-! ## The invariant -/

/-- The VM of an identifier is the job's. -/
def Owns (s : CreationState) (id : String) : Prop :=
  ∃ vm ∈ s.inventory.vms, vm.id = id ∧ vm.ownedBy s.job.id = true

def CallInv (s : CreationState) : CreateCall → Prop
  | .creating config => ConfigOf s.spec config
  | .created id => Owns s id
  | .configured id => Owns s id ∧ id ∈ s.configured

/-- What every VM of the job is: as `CreateVM_Task` made it, until its boot options have
been configured. -/
def Half (s : CreationState) (vm : Vm) : Prop :=
  ∃ config l, ConfigOf s.spec config ∧ vm.id = l.id ∧
    vm = if vm.id ∈ s.configured then uninterruptedVm s.spec config l else createdVm config l

structure CreationInv (s : CreationState) : Prop where
  jobId : s.spec.jobId = s.job.id
  jobId_ne : s.job.id ≠ ""
  issued : ∀ id ∈ s.configured, id ∈ s.inventory.issued
  owned : ∀ vm ∈ s.inventory.vms, vm.ownedBy s.job.id = true → Half s vm
  phase : ∀ call datastoreId placement,
    s.phase = .calling call datastoreId placement → CallInv s call
  threads : ∀ call ∈ s.threads, CallInv s call

/-- All VMs of the job have the name of the request, in one folder; so there is one. -/
theorem CreationInv.unique {s : CreationState} (hs : CreationInv s) {a b : Vm}
    (ha : a ∈ s.inventory.vms) (hb : b ∈ s.inventory.vms) (hown : a.ownedBy s.job.id = true)
    (hown' : b.ownedBy s.job.id = true) : a = b := by
  have hplace : ∀ vm ∈ s.inventory.vms, vm.ownedBy s.job.id = true →
      vm.folder = s.spec.vmFolder ∧ vm.name = s.spec.vmName := by
    intro vm hvm hown
    obtain ⟨config, l, ⟨isoStore, isoPath, store, -, rfl⟩, -, heq⟩ := hs.owned vm hvm hown
    rw [heq]
    split <;> exact ⟨rfl, rfl⟩
  obtain ⟨hfa, hna⟩ := hplace a ha hown
  obtain ⟨hfb, hnb⟩ := hplace b hb hown'
  exact Inventory.eq_of_name ha hb (hfa.trans hfb.symm) (hna.trans hnb.symm)

/-- What a step does to the inventory and to the history. -/
structure Advances (s s' : CreationState) : Prop where
  spec : s'.spec = s.spec
  job : s'.job = s.job
  ctx : s'.ctx = s.ctx
  owns : ∀ id, Owns s id → Owns s' id
  configured : ∀ id ∈ s.configured, id ∈ s'.configured
  issued : ∀ id ∈ s'.configured, id ∈ s'.inventory.issued
  owned : ∀ vm ∈ s'.inventory.vms, vm.ownedBy s'.job.id = true → Half s' vm

namespace Advances

variable {s s' : CreationState}

theorem callInv (h : Advances s s') {call : CreateCall} (hcall : CallInv s call) :
    CallInv s' call := by
  cases call with
  | creating config => rw [CallInv, h.spec]; exact hcall
  | created id => exact h.owns id hcall
  | configured id => exact ⟨h.owns id hcall.1, h.configured id hcall.2⟩

theorem of_same (hs : CreationInv s) (hspec : s'.spec = s.spec) (hjob : s'.job = s.job)
    (hctx : s'.ctx = s.ctx) (hinv : s'.inventory = s.inventory)
    (hconf : s'.configured = s.configured) : Advances s s' where
  spec := hspec
  job := hjob
  ctx := hctx
  owns id h := by
    unfold Owns at h ⊢
    rw [hinv, hjob]
    exact h
  configured id hid := by rw [hconf]; exact hid
  issued id hid := by
    rw [hconf] at hid
    rw [hinv]
    exact hs.issued id hid
  owned vm hvm hown := by
    rw [hinv] at hvm
    rw [hjob] at hown
    obtain ⟨config, l, hof, hid, heq⟩ := hs.owned vm hvm hown
    exact ⟨config, l, by rw [hspec]; exact hof, hid, by rw [hconf, hspec]; exact heq⟩

/-- `CreateVM_Task` adds the job's VM, as the config has it. -/
theorem creates (hs : CreationInv s) {config : VmConfig} (hof : ConfigOf s.spec config)
    {l : Landing} (h : s.creates config l = some s') : Advances s s' ∧ Owns s' l.id := by
  obtain ⟨inv, hadd, rfl⟩ := Option.map_eq_some_iff.mp h
  obtain ⟨hvms, hissued, hfresh⟩ := Inventory.add_eq hadd
  have hown : (createdVm config l).ownedBy s.job.id = true := by
    rw [← hs.jobId]
    exact hof.owned (by rw [hs.jobId]; exact hs.jobId_ne) l
  refine ⟨⟨rfl, rfl, rfl, ?_, fun _ => id, fun id hid => ?_, fun vm hvm hvown => ?_⟩, ?_⟩
  · rintro id ⟨vm, hvm, hid, hvown⟩
    exact ⟨vm, by rw [hvms]; exact List.mem_cons_of_mem _ hvm, hid, hvown⟩
  · rw [hissued]
    exact List.mem_cons_of_mem _ (hs.issued id hid)
  · rw [hvms] at hvm
    rcases List.mem_cons.mp hvm with rfl | hvm
    · refine ⟨config, l, hof, rfl, ?_⟩
      rw [if_neg fun hconf => hfresh (hs.issued _ hconf)]
    · exact hs.owned vm hvm hvown
  · exact ⟨createdVm config l, by rw [hvms]; simp, rfl, hown⟩

/-- `ReconfigVM_Task` completes the creation of the VM it is for. -/
theorem configures (hs : CreationInv s) {id : String} (howns : Owns s id) :
    Advances s (s.configures id) := by
  obtain ⟨vm₀, hvm₀, hid₀, hown₀⟩ := howns
  refine ⟨rfl, rfl, rfl, ?_, fun _ => List.mem_cons_of_mem _, fun id' hid' => ?_,
    fun vm hvm hvown => ?_⟩
  · rintro id' ⟨vm, hvm, hid, hown⟩
    refine ⟨_, List.mem_map.mpr ⟨vm, hvm, rfl⟩, by simp [hid], ?_⟩
    rw [Vm.ownedBy, Inventory.withBoot_owner]
    exact hown
  · rcases List.mem_cons.mp hid' with rfl | hid'
    · rw [← hid₀]
      exact s.inventory.fresh vm₀ hvm₀
    · exact hs.issued id' hid'
  · obtain ⟨old, hold, rfl⟩ := List.mem_map.mp hvm
    rw [Vm.ownedBy, Inventory.withBoot_owner] at hvown
    obtain ⟨config, l, hof, hid, heq⟩ := hs.owned old hold hvown
    refine ⟨config, l, hof, by rw [Inventory.withBoot_id]; exact hid, ?_⟩
    by_cases hsame : old.id = id
    · rw [if_pos (by simp [CreationState.configures, hsame]), ← hsame, hid]
      split at heq
      · rw [heq]
        exact withBoot_uninterrupted _ _ _
      · rw [heq]
        exact withBoot_created _ _ _
    · rw [Inventory.withBoot_of_ne hsame]
      simpa [CreationState.configures, hsame] using heq

/-- A change that spares the job's VMs. -/
theorem outside (hs : CreationInv s) {c : Inventory.Change} {inv : Inventory}
    (hspares : c.sparing s.job.id s.inventory = true) (h : s.inventory.change c = some inv) :
    Advances s { s with inventory := inv } where
  spec := rfl
  job := rfl
  ctx := rfl
  owns := by
    rintro id ⟨vm, hvm, hid, hown⟩
    exact ⟨vm, (Inventory.mem_of_sparing h hspares hown).mpr hvm, hid, hown⟩
  configured _ := id
  issued id hid := Inventory.issued_of_change h id (hs.issued id hid)
  owned vm hvm hown := hs.owned vm ((Inventory.mem_of_sparing h hspares hown).mp hvm) hown

end Advances

/-! ## Every step -/

open CreationState

/-- A step that keeps the invariant: what it does to the inventory, and the calls it leaves. -/
theorem CreationInv.of_advances {s s' : CreationState} (hs : CreationInv s) (h : Advances s s')
    (hphase : ∀ call datastoreId placement, s'.phase = .calling call datastoreId placement →
      CallInv s' call)
    (hthreads : ∀ call ∈ s'.threads, call ∈ s.threads ∨ CallInv s' call) : CreationInv s' where
  jobId := by rw [h.spec, h.job]; exact hs.jobId
  jobId_ne := by rw [h.job]; exact hs.jobId_ne
  issued := h.issued
  owned := h.owned
  phase := hphase
  threads call hcall := (hthreads call hcall).elim (fun hold => h.callInv (hs.threads call hold)) id

/-- The end of an attempt, with or without an outcome. -/
theorem CreationInv.answered {s : CreationState} (hs : CreationInv s) (a : CreateVmAnswers) :
    CreationInv (s.answered a) := by
  unfold CreationState.answered
  split
  · exact hs.of_advances (.of_same hs rfl rfl rfl rfl rfl) (fun _ _ _ h => by cases h) fun _ => .inl
  · exact hs.of_advances (.of_same hs rfl rfl rfl rfl rfl) (fun _ _ _ h => by cases h) fun _ => .inl

theorem CreationInv.stepOpen {s s' : CreationState} {e : CreateAction} (hs : CreationInv s)
    (h : s.stepOpen e = some s') : CreationInv s' := by
  cases e with
  | lookup =>
    simp only [CreationState.stepOpen] at h
    split at h
    · cases h
      unfold CreationState.lookup
      split
      · exact hs.answered _
      · exact hs.of_advances (.of_same hs rfl rfl rfl rfl rfl) (fun _ _ _ h => by cases h)
          fun _ => .inl
      · exact hs.answered _
    · cases h
  | submit datastoreId placement p =>
    simp only [CreationState.stepOpen] at h
    split at h
    · cases h
      unfold CreationState.submit
      split
      · exact hs.answered _
      · rename_i config hconfig
        refine hs.of_advances (.of_same hs rfl rfl rfl rfl rfl) (fun call _ _ hcall => ?_)
          fun _ => .inl
        cases hcall
        exact configOf_createVmConfig hconfig
    · cases h
  | create l =>
    simp only [CreationState.stepOpen] at h
    split at h
    · rename_i config datastoreId placement hphase
      obtain ⟨s₁, hs₁, rfl⟩ := Option.map_eq_some_iff.mp h
      obtain ⟨hadv, howns⟩ := Advances.creates hs (hs.phase _ _ _ hphase) hs₁
      obtain ⟨inv, -, rfl⟩ := Option.map_eq_some_iff.mp hs₁
      refine hs.of_advances (show Advances s { s with inventory := inv, phase := _ } from
          ⟨rfl, rfl, rfl, hadv.owns, hadv.configured, hadv.issued, hadv.owned⟩)
        (fun call _ _ hcall => ?_) fun _ => .inl
      -- the call goes on with the VM that it has created
      cases hcall
      exact howns
    · cases h
  | configure =>
    simp only [CreationState.stepOpen] at h
    split at h
    · rename_i id datastoreId placement hphase
      cases h
      have howns : Owns s id := hs.phase _ _ _ hphase
      have hadv := Advances.configures hs howns
      refine hs.of_advances ⟨rfl, rfl, rfl, hadv.owns, hadv.configured, hadv.issued, hadv.owned⟩
        (fun call _ _ hcall => ?_) fun _ => .inl
      cases hcall
      exact ⟨hadv.owns id howns, List.mem_cons_self⟩
    · cases h
  | returns =>
    simp only [CreationState.stepOpen] at h
    split at h
    · obtain ⟨vm, -, rfl⟩ := Option.map_eq_some_iff.mp h
      exact hs.answered _
    · cases h
  | stop goesOn =>
    simp only [CreationState.stepOpen] at h
    split at h
    · cases h
    · cases h
      exact hs.of_advances (.of_same hs rfl rfl rfl rfl rfl) (fun _ _ _ h => by cases h)
        fun _ => .inl
    · rename_i call datastoreId placement hphase
      cases h
      refine hs.of_advances (.of_same hs rfl rfl rfl rfl rfl) (fun _ _ _ h => by cases h)
        fun call' hcall' => ?_
      cases goesOn with
      | false => exact .inl hcall'
      -- the thread keeps the call, and what the call says of its VM
      | true =>
        rcases List.mem_append.mp hcall' with hold | hnew
        · exact .inl hold
        · rw [List.mem_singleton.mp hnew]
          exact .inr (hs.phase _ _ _ hphase)
  | threadCreates thread l => cases h
  | threadConfigures thread => cases h
  | outside c => cases h

theorem CreationInv.step {s s' : CreationState} {e : CreateAction} (hs : CreationInv s)
    (h : creation.step s e = some s') : CreationInv s' := by
  change s.step e = some s' at h
  unfold CreationState.step at h
  split at h
  -- abandoned threads land their tasks at any time, also behind the end of the stage
  · rename_i thread l
    split at h
    · rename_i config hthread
      obtain ⟨s₁, hs₁, rfl⟩ := Option.map_eq_some_iff.mp h
      obtain ⟨hadv, howns⟩ :=
        Advances.creates hs (hs.threads _ (List.mem_of_getElem? hthread)) hs₁
      obtain ⟨inv, -, rfl⟩ := Option.map_eq_some_iff.mp hs₁
      refine hs.of_advances (show Advances s { s with inventory := inv, threads := _ } from
          ⟨rfl, rfl, rfl, hadv.owns, hadv.configured, hadv.issued, hadv.owned⟩)
        (fun call _ _ hcall => hadv.callInv (hs.phase _ _ _ hcall)) fun call hcall => ?_
      rcases List.mem_or_eq_of_mem_set hcall with hold | rfl
      · exact .inl hold
      · exact .inr howns
    · cases h
  · rename_i thread
    split at h
    · rename_i id hthread
      cases h
      have howns : Owns s id := hs.threads _ (List.mem_of_getElem? hthread)
      have hadv := Advances.configures hs howns
      refine hs.of_advances ⟨rfl, rfl, rfl, hadv.owns, hadv.configured, hadv.issued, hadv.owned⟩
        (fun call _ _ hcall => hadv.callInv (hs.phase _ _ _ hcall)) fun call hcall => ?_
      rcases List.mem_or_eq_of_mem_set hcall with hold | rfl
      · exact .inl hold
      · exact .inr ⟨hadv.owns id howns, List.mem_cons_self⟩
    · cases h
  · rename_i c
    split at h
    · rename_i hspares
      obtain ⟨inv, hinv, rfl⟩ := Option.map_eq_some_iff.mp h
      have hadv := Advances.outside hs hspares hinv
      exact hs.of_advances hadv (fun call _ _ hcall => hadv.callInv (hs.phase _ _ _ hcall))
        fun _ => .inl
    · cases h
  · split at h
    · exact hs.stepOpen h
    · cases h

theorem CreationInv.init {s : CreationState} (h : s.Fresh) : CreationInv s where
  jobId := h.jobId
  jobId_ne := h.jobId_ne
  issued id hid := by rw [h.configured] at hid; cases hid
  owned vm hvm hown := by rw [h.foreign vm hvm] at hown; cases hown
  phase call _ _ hcall := by rw [h.idle] at hcall; cases hcall
  threads call hcall := by rw [h.threads] at hcall; cases hcall

theorem creationInv {s : CreationState} (hs : creation.Reachable s) : CreationInv s :=
  hs.invariant (fun _ h0 => .init h0) fun _ _ _ _ hi _ hstep => hi.step hstep

/-! ## The end of the stage -/

/-- One VM carries the marker of the job, and it is as an uninterrupted creation leaves it. -/
def CompletedCreation (s : CreationState) : Prop :=
  ∃ vm ∈ s.inventory.vms, vm.ownedBy s.job.id = true ∧
    (∀ vm' ∈ s.inventory.vms, vm'.ownedBy s.job.id = true → vm' = vm) ∧
    ∃ config l, ConfigOf s.spec config ∧ vm = uninterruptedVm s.spec config l

/-- The lookup finds a VM of the job whose boot options have not been configured. -/
def adoptsUnfinished (s : CreationState) : CreateAction → Bool
  | .lookup =>
    match s.inventory.findVmByName s.spec.vmName with
    | .ok (some vm) => vm.ownedBy s.job.id && !s.configured.contains vm.id
    | _ => false
  | _ => false

@[simp] theorem answered_inventory (s : CreationState) (a : CreateVmAnswers) :
    (s.answered a).inventory = s.inventory ∧ (s.answered a).spec = s.spec ∧
      (s.answered a).job = s.job ∧ (s.answered a).configured = s.configured := by
  unfold CreationState.answered
  split <;> exact ⟨rfl, rfl, rfl, rfl⟩

/-- The stage ends with an outcome in two ways: the second task of an attempt has completed,
or the lookup has found the job's VM. -/
inductive EndsBy (s : CreationState) : CreateAction → CreationState → Prop
  | created {id datastoreId placement : String} (a : CreateVmAnswers)
      (hphase : s.phase = .calling (.configured id) datastoreId placement) :
      EndsBy s .returns (s.answered a)
  | adopted {vm : Vm} (a : CreateVmAnswers)
      (hfound : s.inventory.findVmByName s.spec.vmName = .ok (some vm))
      (hown : vm.ownedBy s.job.id = true) : EndsBy s .lookup (s.answered a)

theorem answered_outcome_of_error {s : CreationState} {a : CreateVmAnswers} {r : Raised}
    (h : (stageCreateVm s.ctx s.job a).result = .error r) :
    (s.answered a).outcome = s.outcome := by
  simp [CreationState.answered, h]

theorem lookup_ends {s : CreationState} (hopen : s.outcome = none)
    (hend : s.lookup.outcome.isSome = true) : EndsBy s .lookup s.lookup := by
  cases hfound : s.inventory.findVmByName s.spec.vmName with
  | error error =>
    rw [CreationState.lookup, hfound] at hend
    rw [answered_outcome_of_error (r := .infra error) rfl, hopen] at hend
    cases hend
  | ok found =>
    cases found with
    | none =>
      rw [CreationState.lookup, hfound] at hend
      simp [hopen] at hend
    | some vm =>
      have hlookup : s.lookup = s.answered (.existing (ref vm) (vmOwnerJobId vm)) := by
        rw [CreationState.lookup, hfound]
      cases hown : vm.ownedBy s.job.id with
      | true => rw [hlookup]; exact .adopted _ hfound hown
      | false =>
        simp only [Vm.ownedBy, beq_eq_false_iff_ne, ne_eq] at hown
        rw [hlookup, answered_outcome_of_error (by simp [stageCreateVm, hown]; rfl), hopen] at hend
        cases hend

theorem submit_outcome {s : CreationState} (hopen : s.outcome = none)
    (datastoreId placement : String) (p : Placement) :
    (s.submit datastoreId placement p).outcome = none := by
  unfold CreationState.submit
  split
  · rename_i error herror
    rw [answered_outcome_of_error (r := .infra error) rfl, hopen]
  · exact hopen

theorem endsBy_of_step {s s' : CreationState} {e : CreateAction}
    (h : creation.step s e = some s') (hopen : s.outcome = none) (hend : s'.outcome.isSome = true) :
    EndsBy s e s' := by
  have habsurd : ∀ {P : Prop}, s'.outcome = none → P := by
    intro P hsame
    rw [hsame] at hend
    cases hend
  change s.step e = some s' at h
  cases e with
  | threadCreates thread l =>
    simp only [CreationState.step] at h
    split at h
    · obtain ⟨s₁, hs₁, rfl⟩ := Option.map_eq_some_iff.mp h
      obtain ⟨inv, -, rfl⟩ := Option.map_eq_some_iff.mp hs₁
      exact habsurd hopen
    · cases h
  | threadConfigures thread =>
    simp only [CreationState.step] at h
    split at h
    · cases h
      exact habsurd hopen
    · cases h
  | outside c =>
    simp only [CreationState.step] at h
    split at h
    · obtain ⟨inv, -, rfl⟩ := Option.map_eq_some_iff.mp h
      exact habsurd hopen
    · cases h
  | lookup =>
    simp only [CreationState.step, hopen, Option.isNone_none, if_true, CreationState.stepOpen] at h
    split at h
    · cases h
      exact lookup_ends hopen hend
    · cases h
  | submit datastoreId placement p =>
    simp only [CreationState.step, hopen, Option.isNone_none, if_true, CreationState.stepOpen] at h
    split at h
    · cases h
      exact habsurd (submit_outcome hopen datastoreId placement p)
    · cases h
  | create l =>
    simp only [CreationState.step, hopen, Option.isNone_none, if_true, CreationState.stepOpen] at h
    split at h
    · obtain ⟨s₁, hs₁, rfl⟩ := Option.map_eq_some_iff.mp h
      obtain ⟨inv, -, rfl⟩ := Option.map_eq_some_iff.mp hs₁
      exact habsurd hopen
    · cases h
  | configure =>
    simp only [CreationState.step, hopen, Option.isNone_none, if_true, CreationState.stepOpen] at h
    split at h
    · cases h
      exact habsurd hopen
    · cases h
  | returns =>
    simp only [CreationState.step, hopen, Option.isNone_none, if_true, CreationState.stepOpen] at h
    split at h
    · rename_i hphase
      obtain ⟨vm, -, rfl⟩ := Option.map_eq_some_iff.mp h
      exact .created _ hphase
    · cases h
  -- a stopped attempt has no outcome
  | stop goesOn =>
    simp only [CreationState.step, hopen, Option.isNone_none, if_true, CreationState.stepOpen] at h
    split at h
    · cases h
    · cases h
      exact habsurd rfl
    · cases h
      exact habsurd rfl

/-- A VM of the job whose boot options have been configured completes the creation. -/
theorem completed_iff {s s' : CreationState} (hs : CreationInv s)
    (hinv : s'.inventory = s.inventory) (hspec : s'.spec = s.spec) (hjob : s'.job = s.job)
    {vm : Vm} (hvm : vm ∈ s.inventory.vms) (hown : vm.ownedBy s.job.id = true) :
    CompletedCreation s' ↔ vm.id ∈ s.configured := by
  obtain ⟨config, l, hof, hid, heq⟩ := hs.owned vm hvm hown
  unfold CompletedCreation
  rw [hinv, hspec, hjob]
  constructor
  · rintro ⟨vm', hvm', hown', -, config', l', -, hvm'eq⟩
    by_contra hnot
    have hsame := hs.unique hvm' hvm hown' hown
    -- a VM as `CreateVM_Task` made it does not retry to boot
    have hretry : vm.boot.bootRetryEnabled = true := by rw [← hsame, hvm'eq]; rfl
    obtain ⟨isoStore, isoPath, store, -, rfl⟩ := hof
    rw [if_neg hnot] at heq
    rw [heq] at hretry
    cases hretry
  · intro hconf
    rw [if_pos hconf] at heq
    exact ⟨vm, hvm, hown, fun vm' hvm' hown' => hs.unique hvm' hvm hown' hown, config, l, hof, heq⟩

/-- **Creation is resumable** exactly as far as it does not adopt a VM that it has not
finished: at every end of the stage, after any interruptions and retries, one VM carries the
marker of the job, as an uninterrupted creation makes it, unless the lookup found a VM of
the job whose boot reconfiguration had not completed. -/
theorem creation_resumed_iff {s s' : CreationState} {e : CreateAction}
    (hs : creation.Reachable s) (hstep : creation.step s e = some s') (hopen : s.outcome = none)
    (hend : s'.outcome.isSome = true) : CompletedCreation s' ↔ adoptsUnfinished s e = false := by
  have hinv := creationInv hs
  cases endsBy_of_step hstep hopen hend with
  | @created id datastoreId placement a hphase =>
    obtain ⟨⟨vm, hvm, hid, hown⟩, hconf⟩ := hinv.phase _ _ _ hphase
    obtain ⟨hi, hsp, hj, -⟩ := answered_inventory s a
    rw [completed_iff hinv hi hsp hj hvm hown, hid]
    exact ⟨fun _ => rfl, fun _ => hconf⟩
  | @adopted vm a hfound hown =>
    obtain ⟨hi, hsp, hj, -⟩ := answered_inventory s a
    rw [completed_iff hinv hi hsp hj (Inventory.mem_of_findVmByName hfound) hown]
    simp [adoptsUnfinished, hfound, hown]

/-! ## Replays -/

/-- A job for `web01` in an empty inventory. -/
def freshCreation : CreationState where
  inventory := {}
  spec := {
    vmName := "web01"
    vmFolder := "vm"
    iso := .ok ("datastore-1", "[ds1] iso/windows.iso")
    osDiskSizeGb := 60
    jobId := "j1" }
  ctx := { request := { vmName := "web01" } }
  job := { id := "j1", vmName := "web01", queuedAt := 0 }

theorem freshCreation_fresh : freshCreation.Fresh where
  name := rfl
  jobId := rfl
  jobId_ne := by decide
  foreign := by simp [freshCreation]
  idle := rfl
  threads := rfl
  outcome := rfl
  configured := rfl

def someStore : Datastore := ⟨"datastore-1", "ds1", true, 100 * 1024 ^ 3⟩

def someLanding : Landing := { id := "vm-21" }

/-- The name is free and the first task completes. -/
def createsVm : List CreateAction :=
  [.lookup,
    .submit "datastore-1" "ds1" { datastores := [someStore], datacenterStores := [someStore] },
    .create someLanding]

theorem exists_creation {t : List CreateAction} {p : CreationState → Bool}
    (h : (creation.run freshCreation t).any p = true) :
    ∃ s, creation.Reachable s ∧ p s = true :=
  Machine.exists_reachable_of_run freshCreation_fresh h

/-- The attempt stops between the two tasks; the retry adopts the VM and skips the second. -/
theorem creation_adopted_unfinished : ∃ s s', creation.Reachable s ∧ s.outcome = none ∧
    creation.step s .lookup = some s' ∧ s'.outcome.map StageOutcome.status = some .skipped ∧
    ¬CompletedCreation s' := by
  obtain ⟨s, hs, hp⟩ := exists_creation (t := createsVm ++ [.stop false])
    (p := fun s => s.outcome.isNone && (creation.step s .lookup).any fun s' =>
      s'.outcome.map StageOutcome.status == some .skipped &&
        s'.inventory.vms.all fun vm => !vm.boot.bootRetryEnabled)
    (by decide +kernel)
  rw [Bool.and_eq_true, Option.isNone_iff_eq_none, Option.any_eq_true] at hp
  obtain ⟨hopen, s', hstep, hp'⟩ := hp
  rw [Bool.and_eq_true, beq_iff_eq] at hp'
  refine ⟨s, s', hs, hopen, hstep, hp'.1, ?_⟩
  rintro ⟨vm, hvm, -, -, config, l, -, heq⟩
  have hretry := List.all_eq_true.mp hp'.2 vm hvm
  rw [heq] at hretry
  cases hretry

/-- The attempt stops before the first task, and the retry runs both. -/
theorem creation_resumed_iff_retried : ∃ s s', creation.Reachable s ∧
    creation.step s .returns = some s' ∧ s'.outcome.map StageOutcome.status = some .succeeded ∧
    CompletedCreation s' := by
  obtain ⟨s, hs, hp⟩ := exists_creation
    (t := [.lookup, .stop false] ++ createsVm ++ [.configure])
    (p := fun s => s.outcome.isNone && (creation.step s .returns).any fun s' =>
      s'.outcome.map StageOutcome.status == some .succeeded) (by decide +kernel)
  rw [Bool.and_eq_true, Option.isNone_iff_eq_none, Option.any_eq_true] at hp
  obtain ⟨hopen, s', hstep, hstatus⟩ := hp
  rw [beq_iff_eq] at hstatus
  have hend : s'.outcome.isSome = true := by
    cases ho : s'.outcome with
    | none => rw [ho] at hstatus; cases hstatus
    | some outcome => rfl
  exact ⟨s, s', hs, hstep, hstatus, (creation_resumed_iff hs hstep hopen hend).mpr rfl⟩

end InfraOps
