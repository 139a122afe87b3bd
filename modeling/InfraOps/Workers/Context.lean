import InfraOps.Models.Jobs
import InfraOps.Services.AnswerMedia

/-!
# The run context

`JobRunContext` lives in the worker's memory for one run of a job: a flag kept only here is
lost with the run. `ProvisioningRequest` is the immutable stored request, restricted to the
fields the modelled stages read.
-/

namespace InfraOps

inductive IdentityPolicyVersion
  | v1 | v2
  deriving DecidableEq

structure DomainJoinSpec where
  domain : String
  ou : Option String := none
  deriving DecidableEq

structure ProvisioningRequest where
  vmName : String
  hostname : Option String := none
  identityPolicyVersion : IdentityPolicyVersion := .v2
  domainJoin : Option DomainJoinSpec := none
  hasProductKey : Bool := false
  osDiskSizeGb : Nat := 60
  dataDisks : Nat := 0

namespace ProvisioningRequest

/-- `a or b` on optional strings: an empty string counts as absent. -/
def orElseString (a : Option String) (b : String) : String :=
  match a with
  | some s => if s = "" then b else s
  | none => b

/-- The short Windows name passed to `Rename-Computer`. -/
def effectiveComputerName (r : ProvisioningRequest) : String :=
  if r.domainJoin.isSome && r.identityPolicyVersion == .v2 then r.vmName.toUpper
  else (orElseString r.hostname r.vmName).toUpper

def effectiveFqdn (r : ProvisioningRequest) : Option String :=
  r.domainJoin.map fun join => s!"{r.effectiveComputerName}.{join.domain}".toLower

end ProvisioningRequest

/-- `VmRef`; an identifier vCenter issues is never the empty string. -/
structure VmRef where
  id : String
  name : String
  id_ne : id ≠ ""
  deriving DecidableEq

structure JobRunContext where
  request : ProvisioningRequest
  /-- Set by the heartbeat once it has seen `cancel_requested`. -/
  cancelEvent : Bool := false
  vmRef : Option VmRef := none
  rebootRequired : Bool := false
  hostnameChanged : Bool := false

def missingVmRefError : InfraOperationError where
  humanMessage := "The created VM reference is missing."
  reason := "The VM creation stage has not produced a VM identifier."
  recommendedAction := "Retry the 'Create virtual machine' stage."

/-- `_require_vm_id`. The reference it caches in the context is the one it reads again. -/
def requireVmId (ctx : JobRunContext) (job : ProvisioningJob) :
    Except InfraOperationError String :=
  match ctx.vmRef with
  | some ref => .ok ref.id
  | none =>
    match (job.stepArtifacts .createVm).str? .vmId with
    | some stored => if stored = "" then .error missingVmRefError else .ok stored
    | none => .error missingVmRefError

/-- A recorded VM identifier is found, whichever run recorded it. -/
theorem requireVmId_of_stored {ctx : JobRunContext} {job : ProvisioningJob} {id : String}
    (h : (job.stepArtifacts .createVm).str? .vmId = some id) (hne : id ≠ "") :
    ∃ vmId, requireVmId ctx job = .ok vmId := by
  unfold requireVmId
  cases ctx.vmRef with
  | some ref => exact ⟨ref.id, rfl⟩
  | none => exact ⟨id, by simp [h, hne]⟩

/-! ## Results of a stage -/

/-- `StageOutcome.status`. -/
inductive OutcomeStatus
  | succeeded
  | skipped
  | warning
  | notApplicable
  deriving DecidableEq, Repr

def OutcomeStatus.toStep : OutcomeStatus → StepStatus
  | succeeded => .succeeded
  | skipped => .skipped
  | warning => .warning
  | notApplicable => .notApplicable

@[simp] theorem OutcomeStatus.toStep_done (st : OutcomeStatus) : st.toStep.done = true := by
  cases st <;> rfl

structure StageOutcome where
  status : OutcomeStatus := .succeeded
  output : String := ""
  artifacts : Artifacts := ∅

/-! ## What a handler does between two awaits -/

/-- An assignment a handler makes to its context or to the job of its session. -/
inductive Assignment
  | vmRef (ref : VmRef)
  | infrastructureStatus (status : InfrastructureStatus)
  | lifecycle (columns : Lifecycle)
  | mediaRemoved
  | hostnameChanged
  | rebootRequired (value : Bool)

/-- `prepare.artifacts = {**(prepare.artifacts or {}), "media_removed": True}`. -/
def markMediaRemoved (step : Step) : Step :=
  { step with artifacts := step.artifacts.insert .mediaRemoved (.bool true) }

def Assignment.applyJob (job : ProvisioningJob) : Assignment → ProvisioningJob
  | .infrastructureStatus status =>
    { job with lifecycle := { job.lifecycle with infrastructureStatus := status } }
  | .lifecycle columns => { job with lifecycle := columns }
  | .mediaRemoved => job.setStep .prepareUnattendedInstall markMediaRemoved
  | _ => job

def Assignment.applyContext (ctx : JobRunContext) : Assignment → JobRunContext
  | .vmRef ref => { ctx with vmRef := some ref }
  | .hostnameChanged => { ctx with hostnameChanged := true }
  | .rebootRequired value => { ctx with rebootRequired := value }
  | _ => ctx

/-- One awaited call of a handler: its effects outside, then the assignments the handler
makes before its next await. -/
structure Call where
  effects : List Effect := []
  assignments : List Assignment := []

/-- A complete run of a handler: its calls in order, and how it ends. -/
structure HandlerRun where
  calls : List Call
  result : Except Raised StageOutcome

namespace HandlerRun

def effects (run : HandlerRun) : List Effect := run.calls.flatMap Call.effects

def assignments (run : HandlerRun) : List Assignment := run.calls.flatMap Call.assignments

end HandlerRun

def applyAssignments (job : ProvisioningJob) (assignments : List Assignment) :
    ProvisioningJob :=
  assignments.foldl Assignment.applyJob job

def assignContext (ctx : JobRunContext) (assignments : List Assignment) : JobRunContext :=
  assignments.foldl Assignment.applyContext ctx

/-- Where a handler that does not end by itself was cut: how many calls had returned, how
many effects of the call in flight had landed, and how many more of them its thread still
lands afterwards. -/
structure Cut where
  returned : Nat := 0
  landed : Nat := 0
  late : Nat := 0

namespace HandlerRun

/-- The effects that landed before the cut. -/
def effectsBefore (run : HandlerRun) (cut : Cut) : List Effect :=
  (run.calls.take cut.returned).flatMap Call.effects ++
    (((run.calls[cut.returned]?).map Call.effects).getD []).take cut.landed

/-- The effects of the abandoned call that land after the cut. -/
def effectsAfter (run : HandlerRun) (cut : Cut) : List Effect :=
  ((((run.calls[cut.returned]?).map Call.effects).getD []).drop cut.landed).take cut.late

/-- The assignments made before the cut. -/
def assignmentsBefore (run : HandlerRun) (cut : Cut) : List Assignment :=
  (run.calls.take cut.returned).flatMap Call.assignments

theorem mem_effectsBefore {run : HandlerRun} {cut : Cut} {e : Effect}
    (h : e ∈ run.effectsBefore cut) : e ∈ run.effects := by
  rcases List.mem_append.mp h with h | h
  · obtain ⟨call, hcall, he⟩ := List.mem_flatMap.mp h
    exact List.mem_flatMap.mpr ⟨call, List.mem_of_mem_take hcall, he⟩
  · have he := List.mem_of_mem_take h
    cases hcall : run.calls[cut.returned]? with
    | none => simp [hcall] at he
    | some call =>
      exact List.mem_flatMap.mpr ⟨call, List.mem_of_getElem? hcall, by simpa [hcall] using he⟩

theorem mem_effectsAfter {run : HandlerRun} {cut : Cut} {e : Effect}
    (h : e ∈ run.effectsAfter cut) : e ∈ run.effects := by
  have he := List.mem_of_mem_drop (List.mem_of_mem_take h)
  cases hcall : run.calls[cut.returned]? with
  | none => simp [hcall] at he
  | some call =>
    exact List.mem_flatMap.mpr ⟨call, List.mem_of_getElem? hcall, by simpa [hcall] using he⟩

theorem mem_assignmentsBefore {run : HandlerRun} {cut : Cut} {a : Assignment}
    (h : a ∈ run.assignmentsBefore cut) : a ∈ run.assignments := by
  obtain ⟨call, hcall, ha⟩ := List.mem_flatMap.mp h
  exact List.mem_flatMap.mpr ⟨call, List.mem_of_mem_take hcall, ha⟩

end HandlerRun

/-! ## Assignments leave the step statuses alone -/

theorem Assignment.applyJob_status (job : ProvisioningJob) (a : Assignment) :
    (a.applyJob job).status = job.status := by
  cases a <;> rfl

theorem Assignment.applyJob_workerId (job : ProvisioningJob) (a : Assignment) :
    (a.applyJob job).workerId = job.workerId := by
  cases a <;> rfl

/-- What every single assignment preserves, a sequence of them preserves. -/
theorem applyAssignments_induction {P : ProvisioningJob → Prop} {as : List Assignment}
    (h : ∀ job, ∀ a ∈ as, P job → P (a.applyJob job)) {job : ProvisioningJob} (hjob : P job) :
    P (applyAssignments job as) := by
  induction as generalizing job with
  | nil => exact hjob
  | cons a as ih =>
    exact ih (fun job a' ha' => h job a' (by simp [ha'])) (h job a (by simp) hjob)

theorem applyAssignments_status (job : ProvisioningJob) (as : List Assignment) :
    (applyAssignments job as).status = job.status :=
  applyAssignments_induction (P := fun j => j.status = job.status)
    (fun j a _ hj => (a.applyJob_status j).trans hj) rfl

theorem applyAssignments_workerId (job : ProvisioningJob) (as : List Assignment) :
    (applyAssignments job as).workerId = job.workerId :=
  applyAssignments_induction (P := fun j => j.workerId = job.workerId)
    (fun j a _ hj => (a.applyJob_workerId j).trans hj) rfl

theorem Assignment.applyJob_stepStatus (job : ProvisioningJob) (a : Assignment) (k : Stage) :
    (a.applyJob job).stepStatus k = job.stepStatus k := by
  cases a with
  | mediaRemoved =>
    show ((job.setStep .prepareUnattendedInstall markMediaRemoved).steps k).map _ = _
    by_cases hk : k = .prepareUnattendedInstall
    · subst hk
      simp [ProvisioningJob.stepStatus, markMediaRemoved, Function.comp_def]
    · rw [job.setStep_steps_ne _ hk]
      rfl
  | _ => rfl

theorem applyAssignments_stepStatus (job : ProvisioningJob) (as : List Assignment) (k : Stage) :
    (applyAssignments job as).stepStatus k = job.stepStatus k := by
  refine applyAssignments_induction (P := fun j => j.stepStatus k = job.stepStatus k) ?_ rfl
  intro j a _ hj
  rw [a.applyJob_stepStatus, hj]

end InfraOps
