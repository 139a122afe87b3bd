import InfraOps.Core.Errors
import InfraOps.Schemas.Provisioning
import InfraOps.Support.Except
import InfraOps.Support.Resumption
import Mathlib.Algebra.BigOperators.Group.List.Basic
import Mathlib.Algebra.Order.Ring.Rat
import Mathlib.Data.List.Perm.Subperm
import Mathlib.Data.List.Nodup

/-!
# Data disks

`add_data_disks` of `vsphere.py` and of `mock.py`. Both count the disks that the VM has, and
add the requested ones from there on. On vCenter the new disks go to free units of the SCSI
controller, all in one reconfiguration, which applies as a whole or not at all, whatever the
caller is told.
-/

namespace InfraOps.DataDisks

open Schemas (DiskSpec)

/-! ## Devices -/

inductive DeviceKind
  /-- `VirtualDisk`, with `capacityInKB` and `backing.thinProvisioned`. -/
  | disk (capacityInKb : Int) (thin : Bool)
  | lsiLogicSasController
  | ahciController
  | other
  deriving DecidableEq

structure VirtualDevice where
  key : Int
  kind : DeviceKind
  controllerKey : Option Int := none
  unitNumber : Option Int := none
  deriving DecidableEq

def DeviceKind.isDisk : DeviceKind → Bool
  | .disk _ _ => true
  | _ => false

/-- `vm.config.hardware.device`. -/
abbrev Devices := List VirtualDevice

def existing (devices : Devices) : Devices := devices.filter fun device => device.kind.isDisk

def usedUnits (controller : VirtualDevice) (devices : Devices) : List Int :=
  devices.filterMap fun device =>
    if device.controllerKey = some controller.key then device.unitNumber else none

/-- `_free_unit`. -/
def freeUnit (controller : VirtualDevice) (devices : Devices) (reserved : List Nat) :
    Option Nat :=
  let limit := if controller.kind = .ahciController then 30 else 16
  (List.range limit).find? fun unit =>
    (unit : Int) ∉ usedUnits controller devices && unit ∉ reserved

/-! ## `add_data_disks` -/

def noControllerError : InfraOperationError where
  humanMessage := "The VM's disk controller was not found."
  reason := "The LSI Logic SAS controller created with the VM is missing."
  recommendedAction := "Delete the VM and submit a new request."
  retryable := false

def noFreeUnitError : InfraOperationError where
  humanMessage := "The VM's disk controller has no free slot for another disk."
  reason := "All 15 disk slots on SCSI controller 0 are in use."
  recommendedAction := "Request fewer data disks."
  retryable := false

/-- The disk that a request describes. -/
def diskKind (disk : DiskSpec) : DeviceKind :=
  .disk (disk.sizeGb * 1024 * 1024) (disk.provisioning = .thin)

def newDisk (controller : VirtualDevice) (index unit : Nat) (disk : DiskSpec) : VirtualDevice where
  key := -300 - index
  kind := diskKind disk
  controllerKey := some controller.key
  unitNumber := some unit

/-- The loop over `enumerate(missing)`; unit 7 is the controller itself. -/
def planChanges (controller : VirtualDevice) :
    Devices → Nat → List DiskSpec → Except InfraOperationError Devices
  | _, _, [] => .ok []
  | pending, index, disk :: missing =>
    match freeUnit controller pending [7] with
    | none => .error noFreeUnitError
    | some unit =>
      let device := newDisk controller index unit disk
      (planChanges controller (pending ++ [device]) (index + 1) missing).map (device :: ·)

/-- The disks to add; none when nothing is missing. -/
def plan (devices : Devices) (disks : List DiskSpec) : Except InfraOperationError Devices :=
  let missing := missingItems disks (existing devices)
  if missing = [] then .ok []
  else
    match devices.find? fun device => device.kind = .lsiLogicSasController with
    | none => .error noControllerError
    | some controller => planChanges controller devices 0 missing

/-- How one attempt meets vCenter, which gives every added device a key of its own. -/
inductive Attempt
  /-- There is no session, or no such VM. -/
  | unreached (raised : Raised)
  | done (assignKey : Int → Int)
  /-- The reconfiguration applies, and the wait for it fails. -/
  | lost (assignKey : Int → Int) (raised : Raised)
  | refused (raised : Raised)

def applyChanges (assignKey : Int → Int) (devices changes : Devices) : Devices :=
  devices ++ changes.map fun device => { device with key := assignKey device.key }

/-- `add_data_disks`: the devices it leaves, and the number of disks it has added. -/
def addDataDisks (disks : List DiskSpec) (devices : Devices) (attempt : Attempt) :
    Devices × Except Raised Nat :=
  match attempt with
  | .unreached raised => (devices, .error raised)
  | .done assignKey =>
    match plan devices disks with
    | .error error => (devices, .error (.infra error))
    | .ok changes => (applyChanges assignKey devices changes, .ok changes.length)
  | .lost assignKey raised =>
    match plan devices disks with
    | .error error => (devices, .error (.infra error))
    | .ok [] => (devices, .ok 0)
    | .ok changes => (applyChanges assignKey devices changes, .error raised)
  | .refused raised =>
    match plan devices disks with
    | .error error => (devices, .error (.infra error))
    | .ok [] => (devices, .ok 0)
    | .ok _ => (devices, .error raised)

/-! ## The units -/

/-- Where the disks are: controller and unit. -/
def slots (devices : Devices) : List (Option Int × Option Int) :=
  (existing devices).map fun device => (device.controllerKey, device.unitNumber)

/-- No two disks share a unit of a controller, and no disk is on unit 7 or beyond 15. -/
structure Placed (devices : Devices) : Prop where
  unit : ∀ slot ∈ slots devices, ∃ unit : Nat, slot.2 = some (unit : Int) ∧ unit < 16 ∧ unit ≠ 7
  nodup : (slots devices).Nodup

theorem existing_append (devices more : Devices) :
    existing (devices ++ more) = existing devices ++ existing more :=
  List.filter_append ..

theorem slots_append (devices more : Devices) :
    slots (devices ++ more) = slots devices ++ slots more := by
  rw [slots, existing_append, List.map_append, slots, slots]

@[simp] theorem existing_singleton_newDisk (controller : VirtualDevice) (index unit : Nat)
    (disk : DiskSpec) :
    existing [newDisk controller index unit disk] = [newDisk controller index unit disk] := rfl

theorem mem_usedUnits {controller device : VirtualDevice} {devices : Devices} {unit : Int} :
    device ∈ devices → device.controllerKey = some controller.key →
      device.unitNumber = some unit → unit ∈ usedUnits controller devices := by
  intro hdevice hkey hunit
  exact List.mem_filterMap.mpr ⟨device, hdevice, by rw [if_pos hkey, hunit]⟩

/-- A free unit of a SCSI controller. -/
theorem freeUnit_eq_some {controller : VirtualDevice} {devices : Devices} {unit : Nat}
    (hscsi : controller.kind = .lsiLogicSasController)
    (h : freeUnit controller devices [7] = some unit) :
    unit < 16 ∧ unit ≠ 7 ∧ (unit : Int) ∉ usedUnits controller devices := by
  have hmem := List.mem_of_find?_eq_some h
  have hfree := List.find?_some h
  simp only [hscsi, reduceCtorEq, if_false, List.mem_range] at hmem
  simp only [Bool.and_eq_true, decide_eq_true_eq, List.mem_singleton] at hfree
  exact ⟨hmem, hfree.2, hfree.1⟩

/-- While fewer than 15 units are in use, another one is free. -/
theorem exists_freeUnit {controller : VirtualDevice} {devices : Devices}
    (hscsi : controller.kind = .lsiLogicSasController)
    (hused : (usedUnits controller devices).length < 15) :
    ∃ unit, freeUnit controller devices [7] = some unit := by
  cases hfind : freeUnit controller devices [7] with
  | some unit => exact ⟨unit, rfl⟩
  | none =>
    -- all 15 candidates would be in use
    have hall := List.find?_eq_none.mp hfind
    simp only [hscsi, reduceCtorEq, if_false, List.mem_range] at hall
    have hsub : (((List.range 16).filter (· ≠ 7)).map (Nat.cast : Nat → Int)) ⊆
        usedUnits controller devices := by
      intro unit hunit
      obtain ⟨n, hn, rfl⟩ := List.mem_map.mp hunit
      obtain ⟨hn, hseven⟩ := List.mem_filter.mp hn
      have hnot := hall n (List.mem_range.mp hn)
      simpa [of_decide_eq_true hseven] using hnot
    have hnodup : (((List.range 16).filter (· ≠ 7)).map (Nat.cast : Nat → Int)).Nodup := by decide
    have hlength := (List.subperm_of_subset hnodup hsub).length_le
    have hcount : (((List.range 16).filter (· ≠ 7)).map (Nat.cast : Nat → Int)).length = 15 := by
      decide
    omega

/-- A disk on a free unit. -/
theorem Placed.concat {devices : Devices} {controller : VirtualDevice} {index unit : Nat}
    {disk : DiskSpec} (h : Placed devices) (hscsi : controller.kind = .lsiLogicSasController)
    (hfree : freeUnit controller devices [7] = some unit) :
    Placed (devices ++ [newDisk controller index unit disk]) := by
  obtain ⟨hlimit, hseven, hunused⟩ := freeUnit_eq_some hscsi hfree
  have hslots : slots (devices ++ [newDisk controller index unit disk]) =
      slots devices ++ [(some controller.key, some (unit : Int))] := slots_append _ _
  have hnew : (some controller.key, some (unit : Int)) ∉ slots devices := by
    intro hmem
    obtain ⟨device, hdevice, hslot⟩ := List.mem_map.mp hmem
    obtain ⟨hkey, hunit⟩ := Prod.ext_iff.mp hslot
    exact hunused (mem_usedUnits (List.mem_filter.mp hdevice).1 hkey hunit)
  constructor
  · rw [hslots]
    intro slot hslot
    rcases List.mem_append.mp hslot with hslot | hslot
    · exact h.unit slot hslot
    · rw [List.mem_singleton.mp hslot]
      exact ⟨unit, rfl, hlimit, hseven⟩
  · rw [hslots]
    simpa using List.Nodup.concat hnew h.nodup

/-! ## The planned changes -/

/-- What is planned is what was asked for, on units of its own. -/
theorem planChanges_ok {controller : VirtualDevice} {pending changes : Devices} {index : Nat}
    {missing : List DiskSpec} (hscsi : controller.kind = .lsiLogicSasController)
    (h : planChanges controller pending index missing = .ok changes) :
    changes.map VirtualDevice.kind = missing.map diskKind ∧
      (Placed pending → Placed (pending ++ changes)) := by
  induction missing generalizing pending index changes with
  | nil =>
    cases h
    exact ⟨rfl, fun hplaced => by rwa [List.append_nil]⟩
  | cons disk missing ih =>
    rw [planChanges] at h
    cases hfree : freeUnit controller pending [7] with
    | none =>
      rw [hfree] at h
      cases h
    | some unit =>
      rw [hfree] at h
      obtain ⟨rest, hrest, rfl⟩ := map_eq_ok.mp h
      obtain ⟨hkinds, hplaced⟩ := ih hrest
      refine ⟨by rw [List.map_cons, hkinds]; rfl, fun hpending => ?_⟩
      have hstep := hplaced (hpending.concat hscsi hfree)
      rwa [List.append_assoc] at hstep

/-- The disks of the VM, in the order of its device list. -/
def diskKinds (devices : Devices) : List DeviceKind := (existing devices).map VirtualDevice.kind

theorem diskKinds_eq_filter (devices : Devices) :
    diskKinds devices = (devices.map VirtualDevice.kind).filter DeviceKind.isDisk := by
  rw [diskKinds, existing, List.filter_map]
  rfl

theorem plan_ok {devices changes : Devices} {disks : List DiskSpec}
    (h : plan devices disks = .ok changes) :
    changes.map VirtualDevice.kind = missingItems (disks.map diskKind) (diskKinds devices) ∧
      (Placed devices → Placed (devices ++ changes)) := by
  have hmissing : (missingItems disks (existing devices)).map diskKind =
      missingItems (disks.map diskKind) (diskKinds devices) := by
    rw [map_missingItems, missingItems, missingItems, diskKinds, List.length_map]
  rw [← hmissing]
  unfold plan at h
  dsimp only at h
  split at h
  · rename_i hnone
    cases h
    exact ⟨by rw [hnone]; rfl, fun hplaced => by rwa [List.append_nil]⟩
  · split at h
    · cases h
    · rename_i controller hfind
      have hscsi : controller.kind = .lsiLogicSasController := by
        simpa using List.find?_some hfind
      exact planChanges_ok hscsi h

/-- The keys that vCenter assigns matter to nobody. -/
theorem slots_applyChanges (assignKey : Int → Int) (devices changes : Devices) :
    slots (applyChanges assignKey devices changes) = slots (devices ++ changes) := by
  rw [applyChanges, slots_append, slots_append]
  refine congrArg _ ?_
  rw [slots, existing, List.filter_map, List.map_map]
  rfl

theorem placed_applyChanges {assignKey : Int → Int} {devices changes : Devices} :
    Placed (applyChanges assignKey devices changes) ↔ Placed (devices ++ changes) := by
  have hslots := slots_applyChanges assignKey devices changes
  exact ⟨fun h => ⟨hslots ▸ h.unit, hslots ▸ h.nodup⟩,
    fun h => ⟨hslots.symm ▸ h.unit, hslots.symm ▸ h.nodup⟩⟩

theorem diskKinds_applyChanges (assignKey : Int → Int) {devices changes : Devices}
    {disks : List DiskSpec} (h : plan devices disks = .ok changes) :
    diskKinds (applyChanges assignKey devices changes) =
      diskKinds devices ++ missingItems (disks.map diskKind) (diskKinds devices) := by
  have hdisks : ∀ kind ∈ missingItems (disks.map diskKind) (diskKinds devices),
      kind.isDisk = true := by
    intro kind hkind
    obtain ⟨disk, -, rfl⟩ := List.mem_map.mp (List.mem_of_mem_drop hkind)
    rfl
  have hkinds : (changes.map fun device => { device with key := assignKey device.key }).map
      VirtualDevice.kind = changes.map VirtualDevice.kind := by
    rw [List.map_map]
    rfl
  rw [diskKinds_eq_filter, applyChanges, List.map_append, List.filter_append, hkinds,
    (plan_ok h).1, List.filter_eq_self.mpr hdisks, ← diskKinds_eq_filter]

/-! ## Attempts -/

/-- What one attempt does: it leaves the devices, or applies the plan; a success has applied
it. -/
theorem addDataDisks_cases (disks : List DiskSpec) (devices : Devices) (attempt : Attempt) :
    ((addDataDisks disks devices attempt).1 = devices ∧
      ∀ n, (addDataDisks disks devices attempt).2 = .ok n →
        plan devices disks = .ok [] ∧ n = 0) ∨
    ∃ assignKey changes, plan devices disks = .ok changes ∧
      (addDataDisks disks devices attempt).1 = applyChanges assignKey devices changes ∧
      ∀ n, (addDataDisks disks devices attempt).2 = .ok n → n = changes.length := by
  cases attempt with
  | unreached raised => exact .inl ⟨rfl, by simp [addDataDisks]⟩
  | done assignKey =>
    cases hplan : plan devices disks with
    | error error => exact .inl (by simp [addDataDisks, hplan])
    | ok changes =>
      exact .inr ⟨assignKey, changes, rfl, by simp [addDataDisks, hplan],
        by simp [addDataDisks, hplan, eq_comm]⟩
  | lost assignKey raised =>
    cases hplan : plan devices disks with
    | error error => exact .inl (by simp [addDataDisks, hplan])
    | ok changes =>
      cases changes with
      | nil => exact .inl (by simp [addDataDisks, hplan, eq_comm])
      | cons change changes =>
        exact .inr ⟨assignKey, change :: changes, rfl, by simp [addDataDisks, hplan],
          by simp [addDataDisks, hplan]⟩
  | refused raised =>
    cases hplan : plan devices disks with
    | error error => exact .inl (by simp [addDataDisks, hplan])
    | ok changes =>
      cases changes with
      | nil => exact .inl (by simp [addDataDisks, hplan, eq_comm])
      | cons change changes => exact .inl (by simp [addDataDisks, hplan])

/-- A result that is no exception. -/
def Succeeded {ε : Type} (result : Except ε Nat) : Prop := ∃ added, result = .ok added

theorem resumes_addDataDisks (disks : List DiskSpec) :
    Resumes diskKinds (disks.map diskKind) Succeeded (addDataDisks disks) where
  step devices attempt := by
    rcases addDataDisks_cases disks devices attempt with
      ⟨hkeep, -⟩ | ⟨key, changes, hplan, happly, -⟩
    · exact .inl (by rw [hkeep])
    · exact .inr (by rw [happly, diskKinds_applyChanges key hplan])
  success devices attempt := by
    rintro ⟨added, hok⟩
    rcases addDataDisks_cases disks devices attempt with
      ⟨hkeep, hnone⟩ | ⟨key, changes, hplan, happly, -⟩
    · have hmissing := (plan_ok (hnone added hok).1).1
      rw [hkeep, ← hmissing, List.map_nil, List.append_nil]
    · rw [happly, diskKinds_applyChanges key hplan]

/-- Every attempt keeps the disks apart. -/
theorem Placed.addDataDisks {disks : List DiskSpec} {devices : Devices} (h : Placed devices)
    (attempt : Attempt) : Placed (addDataDisks disks devices attempt).1 := by
  rcases addDataDisks_cases disks devices attempt with
    ⟨hkeep, -⟩ | ⟨key, changes, hplan, happly, -⟩
  · rwa [hkeep]
  · rw [happly]
    exact placed_applyChanges.mpr ((plan_ok hplan).2 h)

/-- Behind all requested disks, an attempt has nothing to add. -/
theorem addDataDisks_of_complete {disks : List DiskSpec} {devices : Devices} {first : DeviceKind}
    (h : diskKinds devices = first :: disks.map diskKind) (attempt : Attempt) :
    (addDataDisks disks devices attempt).1 = devices ∧
      ∀ n, (addDataDisks disks devices attempt).2 = .ok n → n = 0 := by
  have hnothing : ∀ {changes}, plan devices disks = .ok changes → changes = [] := by
    intro changes hplan
    have hkinds := (plan_ok hplan).1
    rw [h, missingItems_complete] at hkinds
    exact List.map_eq_nil_iff.mp hkinds
  rcases addDataDisks_cases disks devices attempt with
    ⟨hkeep, hnone⟩ | ⟨key, changes, hplan, happly, hcount⟩
  · exact ⟨hkeep, fun n hok => (hnone n hok).2⟩
  · obtain rfl := hnothing hplan
    exact ⟨by rw [happly]; simp [applyChanges], hcount⟩

/-! ## The mock -/

structure MockDatastore where
  name : String
  freeGb : Rat

def insufficientCapacityError (showGb : Rat → String) (datastore : MockDatastore)
    (requiredGb : Int) : InfraOperationError where
  humanMessage := s!"Datastore '{datastore.name}' has only {showGb datastore.freeGb} GB free " ++
    s!"but the data disks need {requiredGb} GB."
  reason := "Insufficient datastore capacity."
  recommendedAction := "Free space on the datastore, then retry this stage."
  retryable := true

/-- The mock's `add_data_disks` on the sizes of the VM's disks: the sizes and the datastore
it leaves, and the number of disks it has added. -/
def mockAddDataDisks (showGb : Rat → String) (disks : List DiskSpec) (disksGb : List Int)
    (datastore : Option MockDatastore) :
    Except InfraOperationError (List Int × Option MockDatastore × Nat) :=
  let missing := missingItems disks disksGb
  let requiredGb := (missing.map DiskSpec.sizeGb).sum
  let after := disksGb ++ missing.map DiskSpec.sizeGb
  match datastore with
  | none => .ok (after, none, missing.length)
  | some store =>
    if store.freeGb < requiredGb then
      .error (insufficientCapacityError showGb store requiredGb)
    else .ok (after, some { store with freeGb := store.freeGb - requiredGb }, missing.length)

inductive MockAttempt
  /-- There is no such VM. -/
  | unreached (error : InfraOperationError)
  /-- The datastore, as the other VMs have left it. -/
  | reached (datastore : Option MockDatastore)

def mockAttempt (showGb : Rat → String) (disks : List DiskSpec) (disksGb : List Int) :
    MockAttempt → List Int × Except InfraOperationError Nat
  | .unreached error => (disksGb, .error error)
  | .reached datastore =>
    match mockAddDataDisks showGb disks disksGb datastore with
    | .error error => (disksGb, .error error)
    | .ok (after, _, added) => (after, .ok added)

theorem mockAddDataDisks_ok {showGb : Rat → String} {disks : List DiskSpec}
    {disksGb after : List Int} {datastore rest : Option MockDatastore} {added : Nat}
    (h : mockAddDataDisks showGb disks disksGb datastore = .ok (after, rest, added)) :
    after = disksGb ++ missingItems (disks.map DiskSpec.sizeGb) disksGb ∧
      added = (missingItems disks disksGb).length := by
  rw [← map_missingItems]
  unfold mockAddDataDisks at h
  dsimp only at h
  split at h
  · cases h
    exact ⟨rfl, rfl⟩
  · split at h
    · cases h
    · cases h
      exact ⟨rfl, rfl⟩

theorem resumes_mockAttempt (showGb : Rat → String) (disks : List DiskSpec) :
    Resumes id (disks.map DiskSpec.sizeGb) Succeeded (mockAttempt showGb disks) where
  step disksGb attempt := by
    cases attempt with
    | unreached error => exact .inl rfl
    | reached datastore =>
      cases hcall : mockAddDataDisks showGb disks disksGb datastore with
      | error error => exact .inl (by simp [mockAttempt, hcall])
      | ok result => exact .inr (by simpa [mockAttempt, hcall] using (mockAddDataDisks_ok hcall).1)
  success disksGb attempt := by
    rintro ⟨added, hok⟩
    cases attempt with
    | unreached error => cases hok
    | reached datastore =>
      cases hcall : mockAddDataDisks showGb disks disksGb datastore with
      | error error => simp [mockAttempt, hcall] at hok
      | ok result => simpa [mockAttempt, hcall] using (mockAddDataDisks_ok hcall).1

/-! ## Whole runs -/

/-- **Data disks are added exactly once.** From the OS disk and a prefix of the requested
disks, any attempts of which one succeeds end with the OS disk and exactly the requested ones,
each on a unit of its own; a further attempt adds nothing. The mock does the same to its list
of sizes. -/
theorem addDataDisks_once (requested : List DiskSpec) :
    (∀ (devices : Devices) (os : DeviceKind) (tries : List Attempt),
      Begun os (requested.map diskKind) (diskKinds devices) → Placed devices →
      (∃ result ∈ (runAttempts (addDataDisks requested) devices tries).2, Succeeded result) →
      diskKinds (runAttempts (addDataDisks requested) devices tries).1 =
          os :: requested.map diskKind ∧
        Placed (runAttempts (addDataDisks requested) devices tries).1 ∧
        ∀ next, (addDataDisks requested (runAttempts (addDataDisks requested) devices tries).1
            next).1 = (runAttempts (addDataDisks requested) devices tries).1 ∧
          ∀ added, (addDataDisks requested (runAttempts (addDataDisks requested) devices tries).1
            next).2 = .ok added → added = 0) ∧
    ∀ (showGb : Rat → String) (disksGb : List Int) (osGb : Int) (tries : List MockAttempt),
      Begun osGb (requested.map DiskSpec.sizeGb) disksGb →
      (∃ result ∈ (runAttempts (mockAttempt showGb requested) disksGb tries).2,
        Succeeded result) →
      (runAttempts (mockAttempt showGb requested) disksGb tries).1 =
          osGb :: requested.map DiskSpec.sizeGb ∧
        ∀ next, (mockAttempt showGb requested
          (runAttempts (mockAttempt showGb requested) disksGb tries).1 next).1 =
            (runAttempts (mockAttempt showGb requested) disksGb tries).1 := by
  constructor
  · intro devices os tries hbegun hplaced hsuccess
    have hcomplete := (resumes_addDataDisks requested).complete_of_success hbegun hsuccess
    exact ⟨hcomplete,
      runAttempts_invariant (fun devices attempt h => h.addDataDisks attempt) tries hplaced,
      addDataDisks_of_complete hcomplete⟩
  · intro showGb disksGb osGb tries hbegun hsuccess
    have hresumes := resumes_mockAttempt showGb requested
    have hcomplete := hresumes.complete_of_success hbegun hsuccess
    refine ⟨hcomplete, fun next => ?_⟩
    exact (hresumes.complete_of_complete next hcomplete).trans hcomplete.symm

/-- A VM as `create_vm` leaves it. -/
def fileServer : Devices :=
  [{ key := 1000, kind := .lsiLogicSasController },
    { key := 15000, kind := .ahciController },
    { key := 16000, kind := .other, controllerKey := some 15000, unitNumber := some 0 },
    { key := 2000, kind := .disk (80 * 1024 * 1024) true, controllerKey := some 1000,
      unitNumber := some 0 }]

def fileServerDisks : List DiskSpec :=
  [{ sizeGb := 100, provisioning := .thin, datastoreId := none },
    { sizeGb := 200, provisioning := .thick, datastoreId := none }]

/-- The second attempt adds the disks without learning of it; the third one has nothing to
add. -/
def fileServerAttempts : List Attempt :=
  [.refused (.other "busy"), .lost (fun key => 1701 - key) (.other "connection lost"), .done id]

theorem addDataDisks_once_fileServer :
    diskKinds (runAttempts (addDataDisks fileServerDisks) fileServer fileServerAttempts).1 =
        .disk (80 * 1024 * 1024) true :: fileServerDisks.map diskKind ∧
      (runAttempts (mockAttempt (fun _ => "") fileServerDisks) [80] [.reached none]).1 =
        [80, 100, 200] := by
  constructor
  · have hresult : .ok 0 ∈
        (runAttempts (addDataDisks fileServerDisks) fileServer fileServerAttempts).2 := by
      have hresults : (runAttempts (addDataDisks fileServerDisks) fileServer fileServerAttempts).2 =
          [.error (.other "busy"), .error (.other "connection lost"), .ok 0] := rfl
      simp [hresults]
    have hplaced : Placed fileServer := by
      have hslots : slots fileServer = [(some 1000, some 0)] := rfl
      constructor
      · intro slot hslot
        rw [hslots, List.mem_singleton] at hslot
        rw [hslot]
        exact ⟨0, rfl, by decide⟩
      · rw [hslots]
        exact List.nodup_singleton _
    exact ((addDataDisks_once fileServerDisks).1 fileServer _ fileServerAttempts ⟨0, rfl⟩
      hplaced ⟨_, hresult, 0, rfl⟩).1
  · exact ((addDataDisks_once fileServerDisks).2 (fun _ => "") [80] 80 [.reached none]
      ⟨0, rfl⟩ ⟨.ok 2, by decide, 2, rfl⟩).1

/-! ## Enough units -/

theorem length_usedUnits_concat (controller device : VirtualDevice) (devices : Devices) :
    (usedUnits controller (devices ++ [device])).length ≤
      (usedUnits controller devices).length + 1 := by
  rw [usedUnits, List.filterMap_append, List.length_append]
  have hone := List.length_filterMap_le (fun device : VirtualDevice =>
    if device.controllerKey = some controller.key then device.unitNumber else none) [device]
  rw [List.length_singleton] at hone
  exact Nat.add_le_add_left hone _

theorem exists_planChanges {controller : VirtualDevice} {pending : Devices} {index : Nat}
    {missing : List DiskSpec} (hscsi : controller.kind = .lsiLogicSasController)
    (hunits : (usedUnits controller pending).length + missing.length ≤ 15) :
    ∃ changes, planChanges controller pending index missing = .ok changes := by
  induction missing generalizing pending index with
  | nil => exact ⟨[], rfl⟩
  | cons disk missing ih =>
    rw [List.length_cons] at hunits
    have hsome : ∃ unit, freeUnit controller pending [7] = some unit :=
      exists_freeUnit hscsi (by omega)
    obtain ⟨unit, hfree⟩ := hsome
    have hused := length_usedUnits_concat controller (newDisk controller index unit disk) pending
    have hrest : ∃ changes, planChanges controller
        (pending ++ [newDisk controller index unit disk]) (index + 1) missing = .ok changes :=
      ih (by omega)
    obtain ⟨changes, hchanges⟩ := hrest
    refine ⟨newDisk controller index unit disk :: changes, ?_⟩
    rw [planChanges, hfree]
    dsimp only
    rw [hchanges]
    rfl

/-- While the controller has a unit for each missing disk, an attempt that vCenter carries out
succeeds. A request has at most seven data disks. -/
theorem succeeded_of_units {devices : Devices} {requested : List DiskSpec}
    {controller : VirtualDevice}
    (hcontroller : devices.find? (fun device => device.kind = .lsiLogicSasController) =
      some controller)
    (hunits : (usedUnits controller devices).length +
      (missingItems requested (existing devices)).length ≤ 15) (assignKey : Int → Int) :
    Succeeded (addDataDisks requested devices (.done assignKey)).2 := by
  have hscsi : controller.kind = .lsiLogicSasController := by
    simpa using List.find?_some hcontroller
  have hplanned : ∃ changes, planChanges controller devices 0
      (missingItems requested (existing devices)) = .ok changes := exists_planChanges hscsi hunits
  obtain ⟨changes, hchanges⟩ := hplanned
  have hplan : ∃ changes, plan devices requested = .ok changes := by
    unfold plan
    dsimp only
    split
    · exact ⟨[], rfl⟩
    · rw [hcontroller]
      exact ⟨changes, hchanges⟩
  obtain ⟨changes, hplan⟩ := hplan
  exact ⟨changes.length, by rw [addDataDisks, hplan]⟩

end InfraOps.DataDisks
