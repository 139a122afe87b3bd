import Mathlib.Data.Fintype.Basic

/-!
# The stage registry

The ordered stage list of `app/workers/state_machine.py`. The registry is closed, so a
stage key is a constructor of `Stage`; `Stage.key` is the string the database stores.
-/

namespace InfraOps

/-- The stages of the provisioning pipeline, in registry order. -/
inductive Stage
  | validateRequest
  | connectVcenter
  | validateInfrastructure
  | createVm
  | configureHardware
  | attachNetworkAdapter
  | prepareUnattendedInstall
  | powerOn
  | waitForGuestOs
  | waitForTools
  | cleanupUnattendedMedia
  | addDataDisks
  | initializeDataDisks
  | configureGuestNetwork
  | validateNetwork
  | configureHostname
  | joinDomain
  | rebootGuest
  | waitGuestReady
  | installRootCertificates
  | installIntermediateCertificates
  | validateCertificates
  | resolveDependencies
  | installApplications
  | validateApplications
  | finalValidation
  deriving DecidableEq, Repr

namespace Stage

def key : Stage → String
  | validateRequest => "validate_request"
  | connectVcenter => "connect_vcenter"
  | validateInfrastructure => "validate_infrastructure"
  | createVm => "create_vm"
  | configureHardware => "configure_hardware"
  | attachNetworkAdapter => "attach_network_adapter"
  | prepareUnattendedInstall => "prepare_unattended_install"
  | powerOn => "power_on"
  | waitForGuestOs => "wait_for_guest_os"
  | waitForTools => "wait_for_tools"
  | cleanupUnattendedMedia => "cleanup_unattended_media"
  | addDataDisks => "add_data_disks"
  | initializeDataDisks => "initialize_data_disks"
  | configureGuestNetwork => "configure_guest_network"
  | validateNetwork => "validate_network"
  | configureHostname => "configure_hostname"
  | joinDomain => "join_domain"
  | rebootGuest => "reboot_guest"
  | waitGuestReady => "wait_guest_ready"
  | installRootCertificates => "install_root_certificates"
  | installIntermediateCertificates => "install_intermediate_certificates"
  | validateCertificates => "validate_certificates"
  | resolveDependencies => "resolve_dependencies"
  | installApplications => "install_applications"
  | validateApplications => "validate_applications"
  | finalValidation => "final_validation"

/-- The display name of the stage. -/
def name : Stage → String
  | validateRequest => "Validate request"
  | connectVcenter => "Connect to vCenter"
  | validateInfrastructure => "Validate infrastructure configuration"
  | createVm => "Create virtual machine"
  | configureHardware => "Configure hardware"
  | attachNetworkAdapter => "Attach network adapter"
  | prepareUnattendedInstall => "Prepare unattended Windows installation"
  | powerOn => "Power on and start Windows Setup"
  | waitForGuestOs => "Install Windows"
  | waitForTools => "Verify VMware Tools"
  | cleanupUnattendedMedia => "Remove installation media"
  | addDataDisks => "Add data disks"
  | initializeDataDisks => "Initialize data disks"
  | configureGuestNetwork => "Configure guest network"
  | validateNetwork => "Validate network connectivity"
  | configureHostname => "Configure hostname"
  | joinDomain => "Join domain"
  | rebootGuest => "Reboot guest"
  | waitGuestReady => "Wait for guest availability"
  | installRootCertificates => "Install trusted root certificates"
  | installIntermediateCertificates => "Install intermediate certificates"
  | validateCertificates => "Verify certificates"
  | resolveDependencies => "Resolve application dependencies"
  | installApplications => "Install applications"
  | validateApplications => "Validate application installations"
  | finalValidation => "Final validation"

/-- `StageDefinition.retryable`: no entry of the registry overrides the default. -/
def retryable (_ : Stage) : Bool := true

/-- `CONSOLE_STAGES`: Windows Setup owns the console while these run. -/
def console : Stage → Bool
  | powerOn | waitForGuestOs | waitForTools => true
  | _ => false

end Stage

open Stage in
/-- `ORDERED_STAGES`. -/
def orderedStages : List Stage :=
  [validateRequest, connectVcenter, validateInfrastructure, createVm, configureHardware,
    attachNetworkAdapter, prepareUnattendedInstall, powerOn, waitForGuestOs, waitForTools,
    cleanupUnattendedMedia, addDataDisks, initializeDataDisks, configureGuestNetwork,
    validateNetwork, configureHostname, joinDomain, rebootGuest, waitGuestReady,
    installRootCertificates, installIntermediateCertificates, validateCertificates,
    resolveDependencies, installApplications, validateApplications, finalValidation]

/-- `STAGES_BY_KEY.get`. -/
def stageByKey? (key : String) : Option Stage :=
  orderedStages.find? fun k => k.key == key

theorem nodup_orderedStages : orderedStages.Nodup := by decide

@[simp] theorem mem_orderedStages (k : Stage) : k ∈ orderedStages := by
  cases k <;> decide

instance : Fintype Stage := ⟨⟨orderedStages, nodup_orderedStages⟩, mem_orderedStages⟩

/-- `stage_index`: the position in the registry. Every `Stage` has one. -/
def stageIndex (k : Stage) : Nat := orderedStages.idxOf k

theorem stageIndex_lt (k : Stage) : stageIndex k < orderedStages.length :=
  List.idxOf_lt_length_iff.mpr (mem_orderedStages k)

theorem orderedStages_getElem? (k : Stage) : orderedStages[stageIndex k]? = some k := by
  rw [List.getElem?_eq_getElem (stageIndex_lt k)]
  exact congrArg some (List.getElem_idxOf (stageIndex_lt k))

theorem stageIndex_inj {k k' : Stage} (h : stageIndex k = stageIndex k') : k = k' :=
  List.idxOf_inj (mem_orderedStages k) |>.mp h

/-- The stage at the head of a suffix of the registry is the one at its index. -/
theorem stageIndex_of_drop {m : Nat} {k : Stage} {rest : List Stage}
    (h : orderedStages.drop m = k :: rest) :
    stageIndex k = m ∧ orderedStages.drop (m + 1) = rest := by
  have hk : orderedStages[m]? = some k := by rw [← List.head?_drop, h]; rfl
  obtain ⟨hm, hget⟩ := List.getElem?_eq_some_iff.mp hk
  refine ⟨?_, by rw [← List.tail_drop, h]; rfl⟩
  rw [stageIndex, ← hget]
  exact nodup_orderedStages.idxOf_getElem m hm

/-- A suffix of the registry holds the stages from its index on. -/
theorem mem_drop_orderedStages {m : Nat} {k : Stage} :
    k ∈ orderedStages.drop m ↔ m ≤ stageIndex k := by
  rw [List.mem_iff_getElem?]
  constructor
  · rintro ⟨i, hi⟩
    rw [List.getElem?_drop] at hi
    obtain ⟨hlt, hget⟩ := List.getElem?_eq_some_iff.mp hi
    have hidx : stageIndex k = m + i := by
      rw [stageIndex, ← hget]
      exact nodup_orderedStages.idxOf_getElem _ hlt
    omega
  · intro hle
    refine ⟨stageIndex k - m, ?_⟩
    rw [List.getElem?_drop, Nat.add_sub_cancel' hle]
    exact orderedStages_getElem? k

/-- Only the last stage has nothing after it. -/
theorem stageIndex_le_final (k : Stage) : stageIndex k ≤ stageIndex .finalValidation := by
  have hlt := stageIndex_lt k
  have hfinal : stageIndex .finalValidation + 1 = orderedStages.length := by decide
  omega

theorem eq_final_of_drop_eq_nil {k : Stage} (h : orderedStages.drop (stageIndex k + 1) = []) :
    k = .finalValidation := by
  rw [List.drop_eq_nil_iff] at h
  have hfinal : stageIndex .finalValidation + 1 = orderedStages.length := by decide
  have hlt := stageIndex_lt k
  exact stageIndex_inj (by omega)

end InfraOps
