import InfraOps.Core.Errors

/-!
# The answer media and the guest, as the stages see them

What the stages change outside the database: the answer ISO on the datastore, the CD drive
of the VM backed by it, and the guest's computer name. An `Effect` is one change; a call
that runs in its own thread (`_with_session`) may be abandoned after any prefix of its
effects, and the rest may still land later.

The contents of a stored ISO are named by the attempt of the preparation stage that built
it: every attempt builds its own (with a fresh random password).
-/

namespace InfraOps

/-- The world outside the database. -/
structure World where
  /-- The answer ISO a datastore path holds, by the attempt that uploaded it. -/
  stored : String → Option Nat := fun _ => none
  /-- The CD drive backed by a path, by the attempt that last attached it (or found it
  attached). -/
  drive : String → Option Nat := fun _ => none
  /-- `$env:COMPUTERNAME`, which Windows keeps in upper case. -/
  activeName : String
  /-- The name Windows takes at its next start. -/
  pendingName : Option String := none

inductive Effect
  | upload (path : String) (attempt : Nat)
  | attach (path : String) (attempt : Nat)
  | detach (path : String)
  | delete (path : String)
  | rename (name : String)
  | restart
  deriving DecidableEq

namespace World

/-- Windows refuses to rename a computer to the name it has. -/
def apply (w : World) : Effect → World
  | .upload path attempt => { w with stored := Function.update w.stored path (some attempt) }
  | .attach path attempt => { w with drive := Function.update w.drive path (some attempt) }
  | .detach path => { w with drive := Function.update w.drive path none }
  | .delete path => { w with stored := Function.update w.stored path none }
  | .rename name => if name = w.activeName then w else { w with pendingName := some name }
  | .restart => { w with activeName := w.pendingName.getD w.activeName, pendingName := none }

def applyAll (w : World) (effects : List Effect) : World := effects.foldl apply w

@[simp] theorem applyAll_nil (w : World) : w.applyAll [] = w := rfl

@[simp] theorem applyAll_cons (w : World) (e : Effect) (es : List Effect) :
    w.applyAll (e :: es) = (w.apply e).applyAll es := rfl

theorem applyAll_append (w : World) (es fs : List Effect) :
    w.applyAll (es ++ fs) = (w.applyAll es).applyAll fs := by
  simp [applyAll]

/-- What every single effect preserves, a sequence of them preserves. -/
theorem applyAll_induction {P : World → Prop} {es : List Effect}
    (h : ∀ w, ∀ e ∈ es, P w → P (w.apply e)) {w : World} (hw : P w) : P (w.applyAll es) := by
  induction es generalizing w with
  | nil => exact hw
  | cons e es ih =>
    refine ih (fun w e' he' => h w e' (by simp [he'])) (h w e (by simp) hw)

end World

/-! ## `attach_answer_media` -/

/-- `ANSWER_MEDIA_FOLDER`. -/
def answerMediaFolder : String := "infraops-unattend"

/-- `safe_name`. -/
def safeFileName (fileName : String) : String :=
  fileName.map fun c => if c = '/' ∨ c = '\\' then '_' else c

def answerMediaPath (datastore fileName : String) : String :=
  s!"[{datastore}] {answerMediaFolder}/{safeFileName fileName}"

theorem answerMediaPath_ne_empty (datastore fileName : String) :
    answerMediaPath datastore fileName ≠ "" := by
  intro h
  have hstart : toString "[" = "" := by
    simp only [answerMediaPath, String.append_eq_empty_iff] at h
    exact h.1.1.1.1.1
  exact absurd hstart (by decide)

/-- What happens before the upload: the session, the inventory lookups and `MakeDirectory`. -/
inductive DatastoreAnswer
  | fails (error : InfraOperationError)
  | vmOrDatacenterMissing
  | noDatastore
  | found (name : String)

inductive UploadAnswer
  /-- The request ended before the datastore stored the file. -/
  | refused (error : InfraOperationError)
  /-- The file is stored; the response may be lost or not be `200`/`201`. -/
  | stored (error : Option InfraOperationError)

inductive ReconfigureAnswer
  | fails (error : InfraOperationError) (attached : Bool)
  | attaches

/-- vCenter's part in one `attach_answer_media` call. -/
structure AttachAnswers where
  datastore : DatastoreAnswer
  upload : UploadAnswer
  sataSlotFree : Bool := true
  reconfigure : ReconfigureAnswer := .attaches

def vmOrDatacenterMissingError : InfraOperationError where
  humanMessage :=
    "The VM or datacenter disappeared before the answer media could be attached."
  reason := "vCenter inventory changed after validation."
  recommendedAction := "Refresh inventory and retry the preparation stage."

def noDatastoreError : InfraOperationError where
  humanMessage := "No VM datastore is available for the temporary answer media."
  reason := "The selected datastore is not attached to the VM."
  recommendedAction := "Select a datastore accessible to the VM and retry."
  retryable := false

def noSataSlotError : InfraOperationError where
  humanMessage := "The VM has no free SATA slot for the answer media."
  reason := "The SATA controller created with the VM is missing or full."
  recommendedAction := "Delete the VM and submit a new request."
  retryable := false

/-- The end of `op`, after a complete upload: a drive that already shows the path is kept,
else one is added. -/
def attachDrive (w : World) (path : String) (attempt : Nat) (a : AttachAnswers) :
    List Effect × Except InfraOperationError String :=
  if (w.drive path).isSome then ([.attach path attempt], .ok path)
  else if !a.sataSlotFree then ([], .error noSataSlotError)
  else match a.reconfigure with
    | .fails error attached => (if attached then [.attach path attempt] else [], .error error)
    | .attaches => ([.attach path attempt], .ok path)

/-- `attach_answer_media`: its effects in order, and the `datastore_path` it returns. -/
def attachAnswerMedia (w : World) (fileName : String) (attempt : Nat) (a : AttachAnswers) :
    List Effect × Except InfraOperationError String :=
  match a.datastore with
  | .fails error => ([], .error error)
  | .vmOrDatacenterMissing => ([], .error vmOrDatacenterMissingError)
  | .noDatastore => ([], .error noDatastoreError)
  | .found name =>
    let path := answerMediaPath name fileName
    match a.upload with
    | .refused error => ([], .error error)
    | .stored (some error) => ([.upload path attempt], .error error)
    | .stored none =>
      let (effects, result) := attachDrive w path attempt a
      (.upload path attempt :: effects, result)

/-- The call reached the point where the datastore stores the file. -/
def AttachAnswers.uploads (a : AttachAnswers) : Bool :=
  match a.datastore, a.upload with
  | .found _, .stored _ => true
  | _, _ => false

/-! ## `remove_answer_media` -/

/-- vCenter's part in one `remove_answer_media` call. A VM that is gone, or has no such
drive, leaves nothing to detach; a file that is gone leaves nothing to delete. -/
inductive RemovalAnswers
  | unreachable (error : InfraOperationError)
  | detachFails (error : InfraOperationError)
  | deleteFails (error : InfraOperationError)
  | removes
  deriving DecidableEq

def RemovalAnswers.succeeds (a : RemovalAnswers) : Bool := a == .removes

/-- `remove_answer_media`: detach first, then delete; the first failure is raised. -/
def removeAnswerMedia (path : String) : RemovalAnswers → List Effect × Option InfraOperationError
  | .unreachable error => ([], some error)
  | .detachFails error => ([], some error)
  | .deleteFails error => ([.detach path], some error)
  | .removes => ([.detach path, .delete path], none)

@[simp] theorem removeAnswerMedia_of_succeeds {a : RemovalAnswers} (h : a.succeeds = true)
    (path : String) : removeAnswerMedia path a = ([.detach path, .delete path], none) := by
  simp only [RemovalAnswers.succeeds, beq_iff_eq] at h
  rw [h, removeAnswerMedia]

/-! ## What the two calls do -/

theorem mem_attachDrive {w : World} {path : String} {attempt : Nat} {a : AttachAnswers}
    {e : Effect} (h : e ∈ (attachDrive w path attempt a).1) : e = .attach path attempt := by
  unfold attachDrive at h
  split at h
  · simpa using h
  · split at h
    · simp at h
    · split at h
      · split at h <;> simp_all
      · simpa using h

/-- Every effect of an attach call is the upload or the attachment of this attempt. -/
theorem mem_attachAnswerMedia {w : World} {fileName : String} {attempt : Nat}
    {a : AttachAnswers} {e : Effect} (h : e ∈ (attachAnswerMedia w fileName attempt a).1) :
    ∃ path, e = .upload path attempt ∨ e = .attach path attempt := by
  unfold attachAnswerMedia at h
  split at h
  · simp at h
  · simp at h
  · simp at h
  · rename_i name _
    refine ⟨answerMediaPath name fileName, ?_⟩
    split at h
    · simp at h
    · exact .inl (by simpa using h)
    · rcases List.mem_cons.mp h with rfl | h
      · exact .inl rfl
      · exact .inr (mem_attachDrive h)

/-- **A call that returns a path has uploaded the ISO there and attached it.** -/
theorem attachAnswerMedia_ok {w : World} {fileName path : String} {attempt : Nat}
    {a : AttachAnswers} (h : (attachAnswerMedia w fileName attempt a).2 = .ok path) :
    (attachAnswerMedia w fileName attempt a).1 = [.upload path attempt, .attach path attempt] ∧
      path ≠ "" := by
  unfold attachAnswerMedia at h ⊢
  split at h
  · cases h
  · cases h
  · cases h
  · rename_i name _
    split at h
    · cases h
    · cases h
    · have hpath := answerMediaPath_ne_empty name fileName
      unfold attachDrive at h ⊢
      dsimp only at h ⊢
      split at h
      · cases h
        simp_all
      · split at h
        · cases h
        · split at h
          · cases h
          · cases h
            simp_all

end InfraOps
