import InfraOps.Core.Errors
import InfraOps.Core.Text
import Mathlib.Data.List.Pairwise

/-!
# The vCenter inventory

The virtual machines of a vCenter, and the lookups of `VsphereVMwareService`. vCenter
guarantees two things that the code relies on: a managed-object identifier is issued once,
and a folder holds one VM of a name; `Inventory` carries both.
-/

namespace InfraOps

/-! ## The ownership marker -/

/-- `OWNER_EXTRA_CONFIG_KEY`. -/
def ownerExtraConfigKey : String := "infraops.job_id"

/-- `OWNER_ANNOTATION_PREFIX`. -/
def ownerAnnotationPrefix : String := "infraops-job-id:"

def ownerAnnotation (description jobId : String) : String :=
  if jobId = "" then description
  else
    let marker := s!"{ownerAnnotationPrefix} {jobId}"
    if description = "" then marker else s!"{description}\n\n{marker}"

/-- The first line that starts with the marker decides, also when nothing follows it. -/
def ownerFromAnnotation (text : String) : Option String :=
  let lines := (text.toList.splitOnP isLineBreak).map fun line => strip (String.ofList line)
  let marked := lines.find? fun line =>
    ownerAnnotationPrefix.toList.isPrefixOf line.toLower.toList
  marked.bind fun line =>
    let value := strip (String.ofList (line.toList.drop ownerAnnotationPrefix.length))
    if value = "" then none else some value

/-! ## Virtual machines -/

inductive DeviceKind
  | lsiLogicSas
  | ahci
  | disk (capacityKb : Nat) (thin : Bool)
  | cdrom (fileName : String)
  | other (label : String)
  deriving DecidableEq

structure Device where
  key : Int
  controllerKey : Option Int := none
  unitNumber : Option Nat := none
  kind : DeviceKind
  deriving DecidableEq

def Device.isDisk (d : Device) : Bool :=
  match d.kind with
  | .disk _ _ => true
  | _ => false

inductive BootableDevice
  | cdrom
  | disk (deviceKey : Int)
  deriving DecidableEq

structure BootOptions where
  bootOrder : List BootableDevice := []
  bootRetryEnabled : Bool := false
  bootRetryDelay : Option Nat := none
  efiSecureBootEnabled : Bool := false
  deriving DecidableEq

structure Vm where
  /-- The managed-object identifier. -/
  id : String
  id_ne : id ≠ ""
  name : String
  folder : String
  vmPathName : String := ""
  extraConfig : List (String × String) := []
  annotation : String := ""
  devices : List Device := []
  boot : BootOptions := {}

/-- `_vm_owner_job_id`. -/
def vmOwnerJobId (vm : Vm) : Option String :=
  match vm.extraConfig.find? fun o => o.1 == ownerExtraConfigKey && o.2 != "" with
  | some option => some option.2
  | none => ownerFromAnnotation vm.annotation

/-- The VM carries the marker of the job. -/
def Vm.ownedBy (job : String) (vm : Vm) : Bool := vmOwnerJobId vm == some job

/-! ## The inventory -/

structure Inventory where
  vms : List Vm := []
  /-- Every identifier that vCenter has issued. -/
  issued : List String := []
  fresh : ∀ vm ∈ vms, vm.id ∈ issued := by simp
  ids : vms.Pairwise fun a b => a.id ≠ b.id := by simp
  names : vms.Pairwise fun a b => a.folder = b.folder → a.name ≠ b.name := by simp

namespace Inventory

/-- A VM is created; vCenter refuses a name that its folder holds. -/
def add (inv : Inventory) (vm : Vm) : Option Inventory :=
  if h : vm.id ∉ inv.issued ∧ ∀ b ∈ inv.vms, vm.folder = b.folder → vm.name ≠ b.name then
    some {
      vms := vm :: inv.vms
      issued := vm.id :: inv.issued
      fresh := by
        intro a ha
        rcases List.mem_cons.mp ha with rfl | ha
        · simp
        · exact List.mem_cons_of_mem _ (inv.fresh a ha)
      ids := List.pairwise_cons.mpr
        ⟨fun b hb heq => h.1 (heq ▸ inv.fresh b hb), inv.ids⟩
      names := List.pairwise_cons.mpr ⟨h.2, inv.names⟩ }
  else none

def remove (inv : Inventory) (id : String) : Inventory where
  vms := inv.vms.filter fun vm => vm.id ≠ id
  issued := inv.issued
  fresh vm hvm := inv.fresh vm (List.mem_of_mem_filter hvm)
  ids := inv.ids.filter _
  names := inv.names.filter _

/-- The VM of the identifier, with another name or in another folder. -/
def movedTo (id name folder : String) (vm : Vm) : Vm :=
  if vm.id = id then { vm with name, folder } else vm

theorem movedTo_id (id name folder : String) (vm : Vm) :
    (movedTo id name folder vm).id = vm.id := by
  unfold movedTo
  split <;> rfl

/-- A VM is renamed or moved; vCenter refuses a name that the folder holds. -/
def move (inv : Inventory) (id name folder : String) : Option Inventory :=
  if h : (inv.vms.map (movedTo id name folder)).Pairwise
      fun a b => a.folder = b.folder → a.name ≠ b.name then
    some {
      vms := inv.vms.map (movedTo id name folder)
      issued := inv.issued
      fresh := by
        intro vm hvm
        obtain ⟨old, hold, rfl⟩ := List.mem_map.mp hvm
        rw [movedTo_id]
        exact inv.fresh old hold
      ids := by
        rw [List.pairwise_map]
        simpa only [movedTo_id] using inv.ids
      names := h }
  else none

/-- The boot options of a VM are replaced. -/
def withBoot (id : String) (boot : Vm → BootOptions) (vm : Vm) : Vm :=
  if vm.id = id then { vm with boot := boot vm } else vm

theorem withBoot_of_ne {id : String} {vm : Vm} (h : vm.id ≠ id) (boot : Vm → BootOptions) :
    withBoot id boot vm = vm := if_neg h

section

variable (id : String) (boot : Vm → BootOptions) (vm : Vm)

@[simp] theorem withBoot_id : (withBoot id boot vm).id = vm.id := by
  unfold withBoot
  split <;> rfl

@[simp] theorem withBoot_name : (withBoot id boot vm).name = vm.name := by
  unfold withBoot
  split <;> rfl

@[simp] theorem withBoot_folder : (withBoot id boot vm).folder = vm.folder := by
  unfold withBoot
  split <;> rfl

@[simp] theorem withBoot_devices : (withBoot id boot vm).devices = vm.devices := by
  unfold withBoot
  split <;> rfl

@[simp] theorem withBoot_owner : vmOwnerJobId (withBoot id boot vm) = vmOwnerJobId vm := by
  unfold withBoot
  split <;> rfl

end

/-- `ReconfigVM_Task` with boot options. -/
def reconfigureBoot (inv : Inventory) (id : String) (boot : Vm → BootOptions) : Inventory where
  vms := inv.vms.map (withBoot id boot)
  issued := inv.issued
  fresh vm hvm := by
    obtain ⟨old, hold, rfl⟩ := List.mem_map.mp hvm
    rw [withBoot_id]
    exact inv.fresh old hold
  ids := by
    rw [List.pairwise_map]
    simpa only [withBoot_id] using inv.ids
  names := by
    rw [List.pairwise_map]
    simpa only [withBoot_folder, withBoot_name] using inv.names

/-- `_find_by_moref`, among the virtual machines. -/
def findByMoref (inv : Inventory) (id : String) : Option Vm := inv.vms.find? fun vm => vm.id == id

/-- `_find_vms_by_name`. -/
def findVmsByName (inv : Inventory) (name : String) : List Vm :=
  inv.vms.filter fun vm => vm.name.toLower == name.toLower

def ambiguousNameError (name : String) (vms : List Vm) : InfraOperationError where
  humanMessage := s!"More than one virtual machine is named '{name}'."
  reason := "VM names are unique only per folder; InfraOps will not guess which VM to act on."
  recommendedAction := "Rename or remove the duplicate VM in vCenter, then retry."
  technicalDetail := ", ".intercalate (vms.map Vm.id)
  retryable := false

/-- `_find_vm_by_name`. -/
def findVmByName (inv : Inventory) (name : String) : Except InfraOperationError (Option Vm) :=
  match inv.findVmsByName name with
  | [] => .ok none
  | [vm] => .ok (some vm)
  | vms => .error (ambiguousNameError name vms)

theorem mem_of_findByMoref {inv : Inventory} {id : String} {vm : Vm}
    (h : inv.findByMoref id = some vm) : vm ∈ inv.vms ∧ vm.id = id :=
  ⟨List.mem_of_find?_eq_some h, by simpa using List.find?_some h⟩

theorem eq_of_id {inv : Inventory} {a b : Vm} (ha : a ∈ inv.vms) (hb : b ∈ inv.vms)
    (h : a.id = b.id) : a = b := by
  by_contra hne
  have hsymm : Std.Symm fun a b : Vm => a.id ≠ b.id := ⟨fun _ _ hab => hab.symm⟩
  exact inv.ids.forall ha hb hne h

theorem eq_of_name {inv : Inventory} {a b : Vm} (ha : a ∈ inv.vms) (hb : b ∈ inv.vms)
    (hfolder : a.folder = b.folder) (hname : a.name = b.name) : a = b := by
  by_contra hne
  have hsymm : Std.Symm fun a b : Vm => a.folder = b.folder → a.name ≠ b.name :=
    ⟨fun _ _ hab hf => (hab hf.symm).symm⟩
  exact inv.names.forall ha hb hne hfolder hname

theorem mem_of_findVmByName {inv : Inventory} {name : String} {vm : Vm}
    (h : inv.findVmByName name = .ok (some vm)) : vm ∈ inv.vms := by
  have hmem : vm ∈ inv.findVmsByName name := by
    unfold findVmByName at h
    split at h
    · cases h
    · rename_i hvms
      cases h
      rw [hvms]
      simp
    · cases h
  exact List.mem_of_mem_filter hmem

theorem add_eq {inv inv' : Inventory} {vm : Vm} (h : inv.add vm = some inv') :
    inv'.vms = vm :: inv.vms ∧ inv'.issued = vm.id :: inv.issued ∧ vm.id ∉ inv.issued := by
  unfold add at h
  split at h
  · rename_i hnew
    cases h
    exact ⟨rfl, rfl, hnew.1⟩
  · cases h

theorem move_eq {inv inv' : Inventory} {id name folder : String}
    (h : inv.move id name folder = some inv') :
    inv'.vms = inv.vms.map (movedTo id name folder) ∧ inv'.issued = inv.issued := by
  unfold move at h
  split at h
  · cases h
    exact ⟨rfl, rfl⟩
  · cases h

/-! ## Other parties -/

/-- What another party does to the inventory. -/
inductive Change
  | add (vm : Vm)
  | remove (id : String)
  | move (id name folder : String)

def change (inv : Inventory) : Change → Option Inventory
  | .add vm => inv.add vm
  | .remove id => some (inv.remove id)
  | .move id name folder => inv.move id name folder

/-- The change leaves the VMs of the job alone. -/
def Change.sparing (job : String) (inv : Inventory) : Change → Bool
  | add vm => !vm.ownedBy job
  | remove id | move id _ _ => inv.vms.all fun vm => vm.id != id || !vm.ownedBy job

theorem movedTo_owner (id name folder : String) (vm : Vm) :
    vmOwnerJobId (movedTo id name folder vm) = vmOwnerJobId vm := by
  unfold movedTo
  split <;> rfl

theorem issued_of_change {inv inv' : Inventory} {c : Change} (h : inv.change c = some inv') :
    ∀ id ∈ inv.issued, id ∈ inv'.issued := by
  cases c with
  | add vm => rw [(add_eq h).2.1]; exact fun id hid => List.mem_cons_of_mem _ hid
  | remove id => cases h; exact fun id hid => hid
  | move id name folder => rw [(move_eq h).2]; exact fun id hid => hid

/-- **A change that spares the VMs of a job** keeps them, and adds none. -/
theorem mem_of_sparing {inv inv' : Inventory} {c : Change} {job : String}
    (h : inv.change c = some inv') (hspares : c.sparing job inv = true) {vm : Vm}
    (howned : vm.ownedBy job = true) : vm ∈ inv'.vms ↔ vm ∈ inv.vms := by
  cases c with
  | add new =>
    rw [(add_eq h).1, List.mem_cons]
    refine ⟨fun hmem => hmem.resolve_left ?_, .inr⟩
    rintro rfl
    simp [Change.sparing, howned] at hspares
  | remove id =>
    cases h
    rw [remove, List.mem_filter]
    refine ⟨fun hmem => hmem.1, fun hmem => ⟨hmem, ?_⟩⟩
    have hkept := List.all_eq_true.mp hspares vm hmem
    simpa [howned] using hkept
  | move id name folder =>
    have hkept : ∀ old ∈ inv.vms, old.ownedBy job = true → old.id ≠ id := by
      intro old hold hown
      have h := List.all_eq_true.mp hspares old hold
      simpa [hown] using h
    rw [(move_eq h).1, List.mem_map]
    constructor
    · rintro ⟨old, hold, rfl⟩
      have hown : old.ownedBy job = true := by
        rw [Vm.ownedBy, movedTo_owner] at howned
        exact howned
      rwa [movedTo, if_neg (hkept old hold hown)]
    · exact fun hmem => ⟨vm, hmem, if_neg (hkept vm hmem howned)⟩

end Inventory

end InfraOps
