import InfraOps.Support.Machine
import InfraOps.Vsphere.Creation
import InfraOps.Workers.StateMachine

/-!
# Which VM a stage touches

Every handler addresses its VM in one of two ways. Power operations, keystrokes and
reconfigurations resolve the managed-object identifier that `create_vm` recorded; guest
operations look the VM up by its name, each time anew (`VMwareToolsGuestOperations._find_vm`).
The inventory changes between any two of these steps: another party may rename or delete the
job's VM, and give its name to another one.

A handler is approximated by the set of its calls: it makes them in any order and number.
-/

namespace InfraOps

/-! ## The calls of the handlers -/

inductive VmOperation
  | reconfigure
  | power
  | keystrokes
  | guest
  deriving DecidableEq

inductive VmAddress
  /-- `_require_vm_id` and `_find_by_moref`. -/
  | byId
  /-- `ctx.vm_name` and `_find_vm_by_name`. -/
  | byName
  deriving DecidableEq

structure VmCall where
  operation : VmOperation
  address : VmAddress
  deriving DecidableEq

/-- A call of `GuestOperations`. -/
def guestCall : VmCall := ⟨.guest, .byName⟩

/-- What a handler does to a VM, but for `create_vm`. -/
def Stage.vmCalls : Stage → List VmCall
  | .configureHardware | .attachNetworkAdapter | .prepareUnattendedInstall | .addDataDisks =>
    [⟨.reconfigure, .byId⟩]
  | .powerOn => [⟨.power, .byId⟩, ⟨.keystrokes, .byId⟩]
  | .cleanupUnattendedMedia => [⟨.reconfigure, .byId⟩, guestCall]
  | .initializeDataDisks | .configureGuestNetwork | .validateNetwork | .configureHostname
  | .joinDomain | .rebootGuest | .waitGuestReady | .installRootCertificates
  | .installIntermediateCertificates | .validateCertificates | .installApplications
  | .validateApplications | .finalValidation => [guestCall]
  | .validateRequest | .connectVcenter | .validateInfrastructure | .createVm | .waitForGuestOs
  | .waitForTools | .resolveDependencies => []

/-- `release_unattended_media`, which follows a stage that did not end well. -/
def releaseCalls : List VmCall := [⟨.reconfigure, .byId⟩]

/-! ## The machine -/

structure AccessState where
  inventory : Inventory
  spec : VmCreateSpec
  /-- The identifier that `create_vm` recorded. -/
  vmRef : Option String := none
  /-- The task result of `CreateVM_Task`. -/
  created : Option String := none
  /-- The VM that a guest operation has looked up. -/
  held : Option String := none
  /-- History: what has been done, to which VM. -/
  touched : List (VmOperation × Vm) := []

inductive AccessAction
  | outside (c : Inventory.Change)
  /-- `create_vm` finds its own VM. -/
  | adopt
  | create (isoPath : String) (store : Datastore) (l : Landing)
  | configureCreated
  | call (k : Stage) (c : VmCall)
  | release (c : VmCall)
  /-- The guest operation goes on with the VM it has looked up. -/
  | act

namespace AccessState

/-- The operation is performed on the VM of the identifier, if that is still there. -/
def touch (s : AccessState) (op : VmOperation) (id : Option String) : AccessState :=
  match id.bind s.inventory.findByMoref with
  | some vm => { s with touched := (op, vm) :: s.touched }
  | none => s

def perform (s : AccessState) (c : VmCall) : AccessState :=
  match c.address with
  | .byId => s.touch c.operation s.vmRef
  | .byName =>
    match s.inventory.findVmByName s.spec.vmName with
    | .ok (some vm) => { s with held := some vm.id }
    | _ => { s with held := none }

def step (s : AccessState) : AccessAction → Option AccessState
  | .outside c => (s.inventory.change c).map fun inventory => { s with inventory }
  | .adopt =>
    match s.inventory.findVmByName s.spec.vmName with
    | .ok (some vm) => if vm.ownedBy s.spec.jobId then some { s with vmRef := some vm.id } else none
    | _ => none
  | .create isoPath store l =>
    (s.inventory.add (createdVm (vmConfig s.spec isoPath store) l)).map fun inventory =>
      { s with inventory, created := some l.id }
  | .configureCreated => some { s.touch .reconfigure s.created with vmRef := s.created }
  | .call k c => if c ∈ k.vmCalls then some (s.perform c) else none
  | .release c => if c ∈ releaseCalls then some (s.perform c) else none
  | .act => some (s.touch .guest s.held)

/-- Before `create_vm`. -/
structure Fresh (s : AccessState) : Prop where
  jobId : s.spec.jobId ≠ ""
  vmRef : s.vmRef = none
  created : s.created = none
  held : s.held = none
  touched : s.touched = []

end AccessState

def access : Machine AccessState AccessAction where
  init := AccessState.Fresh
  step := AccessState.step

/-- A guest operation looks up a VM that does not carry the marker of the job. -/
def looksUpForeign (s : AccessState) : AccessAction → Bool
  | .call _ c | .release c =>
    c.address == .byName &&
      match s.inventory.findVmByName s.spec.vmName with
      | .ok (some vm) => !vm.ownedBy s.spec.jobId
      | _ => false
  | _ => false

/-! ## Identifiers -/

/-- Whatever VM has the identifier carries the marker of the job. -/
def Marked (job : String) (inv : Inventory) (id : String) : Prop :=
  id ∈ inv.issued ∧ ∀ vm ∈ inv.vms, vm.id = id → vm.ownedBy job = true

theorem marked_of_mem {job : String} {inv : Inventory} {v : Vm} (hv : v ∈ inv.vms)
    (hown : v.ownedBy job = true) : Marked job inv v.id := by
  refine ⟨inv.fresh v hv, fun v' hv' hid => ?_⟩
  rw [Inventory.eq_of_id hv' hv hid]
  exact hown

namespace Marked

variable {job id : String} {inv inv' : Inventory}

/-- A new VM has a new identifier. -/
theorem add {vm : Vm} (h : Marked job inv id) (hadd : inv.add vm = some inv') :
    Marked job inv' id := by
  obtain ⟨hvms, hissued, hnew⟩ := Inventory.add_eq hadd
  refine ⟨by rw [hissued]; exact List.mem_cons_of_mem _ h.1, fun vm' hvm' hid => ?_⟩
  rw [hvms] at hvm'
  rcases List.mem_cons.mp hvm' with rfl | hvm'
  · rw [hid] at hnew
    exact absurd h.1 hnew
  · exact h.2 vm' hvm' hid

/-- **No change of the inventory gives an identifier to another VM.** -/
theorem change {c : Inventory.Change} (h : Marked job inv id) (hc : inv.change c = some inv') :
    Marked job inv' id := by
  cases c with
  | add vm => exact h.add hc
  | remove id' =>
    cases hc
    exact ⟨h.1, fun vm hvm hid => h.2 vm (List.mem_of_mem_filter hvm) hid⟩
  | move id' name folder =>
    obtain ⟨hvms, hissued⟩ := Inventory.move_eq hc
    refine ⟨by rw [hissued]; exact h.1, fun vm hvm hid => ?_⟩
    rw [hvms] at hvm
    obtain ⟨old, hold, rfl⟩ := List.mem_map.mp hvm
    rw [Inventory.movedTo_id] at hid
    rw [Vm.ownedBy, Inventory.movedTo_owner]
    exact h.2 old hold hid

end Marked

/-! ## The invariant -/

structure AccessInv (s : AccessState) : Prop where
  jobId : s.spec.jobId ≠ ""
  vmRef : ∀ id, s.vmRef = some id → Marked s.spec.jobId s.inventory id
  created : ∀ id, s.created = some id → Marked s.spec.jobId s.inventory id
  held : ∀ id, s.held = some id → Marked s.spec.jobId s.inventory id
  touched : ∀ t ∈ s.touched, t.2.ownedBy s.spec.jobId = true

theorem AccessInv.init {s : AccessState} (h : s.Fresh) : AccessInv s where
  jobId := h.jobId
  vmRef id hid := by rw [h.vmRef] at hid; cases hid
  created id hid := by rw [h.created] at hid; cases hid
  held id hid := by rw [h.held] at hid; cases hid
  touched t ht := by rw [h.touched] at ht; cases ht

/-- An operation on an identifier of the job touches a VM of the job. -/
theorem AccessInv.touch {s : AccessState} (hs : AccessInv s) (op : VmOperation)
    {id : Option String} (h : ∀ i, id = some i → Marked s.spec.jobId s.inventory i) :
    AccessInv (s.touch op id) := by
  unfold AccessState.touch
  split
  · rename_i vm hvm
    obtain ⟨i, hi, hfound⟩ := Option.bind_eq_some_iff.mp hvm
    obtain ⟨hmem, hid⟩ := Inventory.mem_of_findByMoref hfound
    refine ⟨hs.jobId, hs.vmRef, hs.created, hs.held, fun t ht => ?_⟩
    rcases List.mem_cons.mp ht with rfl | ht
    · exact (h i hi).2 vm hmem hid
    · exact hs.touched t ht
  · exact hs

/-- An inventory in which every identifier of the job is still the job's. -/
theorem AccessInv.of_inventory {s : AccessState} (hs : AccessInv s) {inv : Inventory}
    (h : ∀ id, Marked s.spec.jobId s.inventory id → Marked s.spec.jobId inv id) :
    AccessInv { s with inventory := inv } :=
  ⟨hs.jobId, fun id hid => h id (hs.vmRef id hid), fun id hid => h id (hs.created id hid),
    fun id hid => h id (hs.held id hid), hs.touched⟩

theorem AccessInv.perform {s : AccessState} (hs : AccessInv s) {c : VmCall}
    (hc : c.address = .byName → ∀ vm, s.inventory.findVmByName s.spec.vmName = .ok (some vm) →
      vm.ownedBy s.spec.jobId = true) : AccessInv (s.perform c) := by
  unfold AccessState.perform
  split
  · exact hs.touch _ hs.vmRef
  · rename_i haddress
    split
    · rename_i vm hfound
      refine ⟨hs.jobId, hs.vmRef, hs.created, fun id hid => ?_, hs.touched⟩
      cases hid
      exact marked_of_mem (Inventory.mem_of_findVmByName hfound) (hc haddress vm hfound)
    · refine ⟨hs.jobId, hs.vmRef, hs.created, fun id hid => ?_, hs.touched⟩
      cases hid

theorem AccessInv.step {s s' : AccessState} {e : AccessAction} (hs : AccessInv s)
    (hc : looksUpForeign s e = false) (h : access.step s e = some s') : AccessInv s' := by
  have hlookup : ∀ c : VmCall,
      (c.address == .byName && match s.inventory.findVmByName s.spec.vmName with
        | .ok (some vm) => !vm.ownedBy s.spec.jobId
        | _ => false) = false →
      c.address = .byName → ∀ vm, s.inventory.findVmByName s.spec.vmName = .ok (some vm) →
        vm.ownedBy s.spec.jobId = true := by
    intro c hforeign haddress vm hfound
    simpa [haddress, hfound] using hforeign
  change s.step e = some s' at h
  cases e with
  | outside c =>
    obtain ⟨inv, hinv, rfl⟩ := Option.map_eq_some_iff.mp h
    exact hs.of_inventory fun id hid => hid.change hinv
  | adopt =>
    simp only [AccessState.step] at h
    split at h
    · rename_i vm hfound
      split at h
      · rename_i hown
        cases h
        refine ⟨hs.jobId, fun id hid => ?_, hs.created, hs.held, hs.touched⟩
        cases hid
        exact marked_of_mem (Inventory.mem_of_findVmByName hfound) hown
      · cases h
    · cases h
  -- the marker is in the configuration that the create task is given
  | create isoPath store l =>
    obtain ⟨inv, hinv, rfl⟩ := Option.map_eq_some_iff.mp h
    have hkept := hs.of_inventory fun id hid => hid.add hinv
    refine ⟨hs.jobId, hkept.vmRef, fun id hid => ?_, hkept.held, hs.touched⟩
    cases hid
    refine marked_of_mem (v := createdVm (vmConfig s.spec isoPath store) l) ?_ ?_
    · rw [(Inventory.add_eq hinv).1]
      exact List.mem_cons_self
    · simp [Vm.ownedBy, vmOwnerJobId, createdVm, vmConfig, hs.jobId]
  | configureCreated =>
    cases h
    have htouched := hs.touch .reconfigure hs.created
    have hsame : ∀ {op id},
        (s.touch op id).spec = s.spec ∧ (s.touch op id).inventory = s.inventory := by
      intro op id
      unfold AccessState.touch
      split <;> exact ⟨rfl, rfl⟩
    refine ⟨htouched.jobId, fun id hid => ?_, htouched.created, htouched.held, htouched.touched⟩
    show Marked (s.touch _ _).spec.jobId (s.touch _ _).inventory id
    rw [hsame.1, hsame.2]
    exact hs.created id hid
  | call k c =>
    simp only [AccessState.step] at h
    split at h
    · cases h
      exact hs.perform (hlookup c hc)
    · cases h
  | release c =>
    simp only [AccessState.step] at h
    split at h
    · cases h
      exact hs.perform (hlookup c hc)
    · cases h
  | act =>
    cases h
    exact hs.touch _ hs.held

/-- **Only the job's own VM is touched**, in every run in which no guest operation looks up a
VM without the marker of the job. -/
theorem only_own_vm_touched {s : AccessState}
    (hs : access.ReachableUnder (fun s e => looksUpForeign s e = false) s) :
    ∀ t ∈ s.touched, t.2.ownedBy s.spec.jobId = true :=
  (hs.invariant (fun _ h0 => .init h0) fun _ _ _ _ hi hc hstep => AccessInv.step hi hc hstep :
    AccessInv s).touched

/-! ## Replays -/

/-- A job for `web01`, next to a VM of another party. -/
def freshAccess : AccessState where
  inventory := freshCreation.inventory
  spec := freshCreation.spec

theorem freshAccess_fresh : freshAccess.Fresh where
  jobId := by decide
  vmRef := rfl
  created := rfl
  held := rfl
  touched := rfl

/-- The job's VM is created and configured. -/
def createsOwnVm : List AccessAction :=
  [.create "[ds1] iso/windows.iso" someStore someLanding, .configureCreated,
    .call .configureHardware ⟨.reconfigure, .byId⟩]

/-- Another party renames the job's VM and gives its name to another VM. -/
def swapsNames : List AccessAction :=
  [.outside (.move "vm-21" "web01-old" "vm"),
    .outside (.add { id := "vm-22", id_ne := by decide, name := "web01", folder := "vm" })]

/-- The next guest operation runs in the other VM. -/
theorem foreign_vm_touched : ∃ s, access.Reachable s ∧
    ∃ t ∈ s.touched, t.1 = .guest ∧ t.2.ownedBy s.spec.jobId = false := by
  obtain ⟨s, hs, hp⟩ := Machine.exists_reachable_of_run (m := access) freshAccess_fresh
    (t := createsOwnVm ++ swapsNames ++ [.call .configureHostname guestCall, .act])
    (p := fun s => s.touched.any fun t => t.1 == .guest && !t.2.ownedBy s.spec.jobId)
    (by decide +kernel)
  obtain ⟨t, ht, hforeign⟩ := List.any_eq_true.mp hp
  rw [Bool.and_eq_true, beq_iff_eq, Bool.not_eq_true'] at hforeign
  exact ⟨s, hs, t, ht, hforeign⟩

/-- Without the other VM, the guest operation finds nothing to run in. -/
theorem only_own_vm_touched_renamed : ∃ s, access.Reachable s ∧ s.touched ≠ [] ∧
    ∀ t ∈ s.touched, t.2.ownedBy s.spec.jobId = true := by
  obtain ⟨s, hs, hp⟩ := Machine.exists_reachableUnder_of_run (m := access)
    (c := fun s e => !looksUpForeign s e) freshAccess_fresh
    (t := createsOwnVm ++ swapsNames.take 1 ++ [.call .configureHostname guestCall, .act,
      .release ⟨.reconfigure, .byId⟩])
    (p := fun s => !s.touched.isEmpty) (by decide +kernel)
  have hmono := hs.mono (D := fun s e => looksUpForeign s e = false) fun s e h => by simpa using h
  exact ⟨s, hs.reachable, by simpa using hp, only_own_vm_touched hmono⟩

end InfraOps
