import InfraOps.Models.Jobs

/-!
# What a session writes

A session loads a row and its code works on the loaded object. A commit writes the columns
whose value the session has changed, and leaves the others as they are stored, whatever
happened to them in the meantime.
-/

namespace InfraOps

/-! ## Equality of JSON values -/

mutual

def Json.same : Json → Json → Bool
  | .null, .null => true
  | .bool a, .bool b => a == b
  | .num a, .num b => a == b
  | .str a, .str b => a == b
  | .arr a, .arr b => Json.sameItems a b
  | .obj a, .obj b => Json.sameFields a b
  | _, _ => false

def Json.sameItems : List Json → List Json → Bool
  | [], [] => true
  | a :: as, b :: bs => Json.same a b && Json.sameItems as bs
  | _, _ => false

def Json.sameFields : List (String × Json) → List (String × Json) → Bool
  | [], [] => true
  | (k, a) :: as, (l, b) :: bs => k == l && Json.same a b && Json.sameFields as bs
  | _, _ => false

end

mutual

theorem Json.same_iff : ∀ a b : Json, Json.same a b = true ↔ a = b
  | .null, b => by cases b <;> simp [Json.same]
  | .bool _, b => by cases b <;> simp [Json.same]
  | .num _, b => by cases b <;> simp [Json.same]
  | .str _, b => by cases b <;> simp [Json.same]
  | .arr a, b => by
    cases b with
    | arr b => simpa [Json.same] using Json.sameItems_iff a b
    | _ => simp [Json.same]
  | .obj a, b => by
    cases b with
    | obj b => simpa [Json.same] using Json.sameFields_iff a b
    | _ => simp [Json.same]

theorem Json.sameItems_iff : ∀ a b : List Json, Json.sameItems a b = true ↔ a = b
  | [], b => by cases b <;> simp [Json.sameItems]
  | a :: as, b => by
    cases b with
    | nil => simp [Json.sameItems]
    | cons b bs => simp [Json.sameItems, Json.same_iff a b, Json.sameItems_iff as bs]

theorem Json.sameFields_iff :
    ∀ a b : List (String × Json), Json.sameFields a b = true ↔ a = b
  | [], b => by cases b <;> simp [Json.sameFields]
  | (k, a) :: as, b => by
    cases b with
    | nil => simp [Json.sameFields]
    | cons b bs =>
      obtain ⟨l, b⟩ := b
      simp [Json.sameFields, Json.same_iff a b, Json.sameFields_iff as bs]

end

instance : DecidableEq Json := fun a b => decidable_of_iff _ (Json.same_iff a b)

/-! ## The flush -/

/-- A column, as it is stored, loaded and left by the session. -/
def written {α : Type} [DecidableEq α] (stored loaded left : α) : α :=
  if left = loaded then stored else left

def Lifecycle.flush (stored loaded left : Lifecycle) : Lifecycle where
  infrastructureStatus :=
    written stored.infrastructureStatus loaded.infrastructureStatus left.infrastructureStatus
  guestOsStatus := written stored.guestOsStatus loaded.guestOsStatus left.guestOsStatus
  vmwareToolsStatus :=
    written stored.vmwareToolsStatus loaded.vmwareToolsStatus left.vmwareToolsStatus
  guestProvisioningStatus :=
    written stored.guestProvisioningStatus loaded.guestProvisioningStatus
      left.guestProvisioningStatus

def Step.flush (stored loaded left : Step) : Step where
  status := written stored.status loaded.status left.status
  attempt := written stored.attempt loaded.attempt left.attempt
  retryable := written stored.retryable loaded.retryable left.retryable
  startedAt := written stored.startedAt loaded.startedAt left.startedAt
  finishedAt := written stored.finishedAt loaded.finishedAt left.finishedAt
  output := written stored.output loaded.output left.output
  errorHuman := written stored.errorHuman loaded.errorHuman left.errorHuman
  errorTechnical := written stored.errorTechnical loaded.errorTechnical left.errorTechnical
  artifacts := written stored.artifacts loaded.artifacts left.artifacts

/-- A step row: inserted when the session had none, else updated. -/
def flushRow (stored loaded left : Option Step) : Option Step :=
  match loaded, left with
  | some loaded, some left => stored.map fun stored => stored.flush loaded left
  | none, some left => some left
  | _, none => stored

/-- What is stored after the commit of a session. -/
def ProvisioningJob.flush (stored loaded left : ProvisioningJob) : ProvisioningJob where
  id := written stored.id loaded.id left.id
  vmName := written stored.vmName loaded.vmName left.vmName
  status := written stored.status loaded.status left.status
  requestedByUserId :=
    written stored.requestedByUserId loaded.requestedByUserId left.requestedByUserId
  currentStage := written stored.currentStage loaded.currentStage left.currentStage
  lifecycle := stored.lifecycle.flush loaded.lifecycle left.lifecycle
  errorSummary := written stored.errorSummary loaded.errorSummary left.errorSummary
  errorDetail := written stored.errorDetail loaded.errorDetail left.errorDetail
  cancelRequested := written stored.cancelRequested loaded.cancelRequested left.cancelRequested
  queuedAt := written stored.queuedAt loaded.queuedAt left.queuedAt
  startedAt := written stored.startedAt loaded.startedAt left.startedAt
  finishedAt := written stored.finishedAt loaded.finishedAt left.finishedAt
  idempotencyKey := written stored.idempotencyKey loaded.idempotencyKey left.idempotencyKey
  requestFingerprint :=
    written stored.requestFingerprint loaded.requestFingerprint left.requestFingerprint
  reservedIpv4 := written stored.reservedIpv4 loaded.reservedIpv4 left.reservedIpv4
  workerId := written stored.workerId loaded.workerId left.workerId
  heartbeatAt := written stored.heartbeatAt loaded.heartbeatAt left.heartbeatAt
  steps := fun k => flushRow (stored.steps k) (loaded.steps k) (left.steps k)

section

variable {α : Type} [DecidableEq α]

/-- A session that is up to date stores what it left. -/
@[simp] theorem written_fresh (stored left : α) : written stored stored left = left := by
  unfold written
  split
  · rename_i h
    exact h.symm
  · rfl

/-- A column that the session did not change. -/
@[simp] theorem written_same (stored loaded : α) : written stored loaded loaded = stored :=
  if_pos rfl

theorem written_ne {stored loaded left : α} (h : left ≠ loaded) :
    written stored loaded left = left :=
  if_neg h

theorem written_cases (stored loaded left : α) :
    written stored loaded left = stored ∨ written stored loaded left = left := by
  unfold written
  split
  · exact .inl rfl
  · exact .inr rfl

end

@[simp] theorem Lifecycle.flush_fresh (stored left : Lifecycle) :
    stored.flush stored left = left := by
  simp [Lifecycle.flush]

@[simp] theorem Step.flush_fresh (stored left : Step) : stored.flush stored left = left := by
  simp [Step.flush]

theorem flushRow_fresh {stored left : Option Step} (h : stored.isSome → left.isSome) :
    flushRow stored stored left = left := by
  cases stored with
  | none => cases left <;> rfl
  | some stored =>
    cases left with
    | none => exact absurd (h rfl) (by simp)
    | some left => simp [flushRow]

/-- **A session that is up to date** stores the job as it left it: its commits are those of
the machine of one worker at a time. -/
theorem ProvisioningJob.flush_fresh {stored left : ProvisioningJob}
    (h : ∀ k, (stored.steps k).isSome → (left.steps k).isSome) :
    stored.flush stored left = left := by
  have hsteps : (fun k => flushRow (stored.steps k) (stored.steps k) (left.steps k)) =
      left.steps := funext fun k => flushRow_fresh (h k)
  unfold ProvisioningJob.flush
  simp [hsteps]

end InfraOps
