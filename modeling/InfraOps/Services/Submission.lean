import InfraOps.Services.Provisioning
import InfraOps.Support.Machine
import InfraOps.Workers.Context
import Mathlib.Data.Fintype.EquivFin

/-!
# Two submissions with one idempotency key

`submit_provisioning` for two calls with the same key, user and body, interleaved statement
by statement. Each call looks up the key, checks the VM name, checks the address and inserts
the job; its route commits. Only committed rows are seen (READ COMMITTED), and an insert
waits while the other call has one that it has not committed. A row that violates several
unique constraints is refused with any one of them.

The preflight stands between the address check and the insert; both calls pass it.
-/

namespace InfraOps

inductive IpMode
  | dhcp | static
  deriving DecidableEq

/-- What `submit_provisioning` reads of the request, the user and the header. -/
structure Submission where
  vmName : String
  identityPolicyVersion : IdentityPolicyVersion := .v2
  ipMode : IpMode
  ipv4Address : Option String := none
  /-- `request_fingerprint(request)`. -/
  fingerprint : String
  userId : Option String
  idempotencyKey : Option String

/-- `reserved_ipv4_for`. -/
def reservedIpv4For (r : Submission) : Option String :=
  match r.ipMode with
  | .static => r.ipv4Address
  | .dhcp => none

/-- `if value:` on an optional string. -/
def given (value : Option String) : Option String := value.filter fun text => text != ""

/-- A committed row of `provisioning_jobs`, as a submission reads it. -/
structure JobRow extends OtherJob where
  id : String
  idempotencyKey : Option String
  requestFingerprint : Option String
  requestedByUserId : Option String
  deriving DecidableEq

/-- What `submit_provisioning` raises. -/
inductive SubmitError
  | app (error : AppError)
  /-- A violated constraint, raised again. -/
  | integrity (violated : UniqueConstraint)
  deriving DecidableEq

def identityPolicyV1Error : AppError :=
  .domainValidation
    ("Identity policy v1 is reserved for stored legacy jobs; " ++
      "new provisioning submissions must use v2.")
    [("identity_policy_version", "v1")]

def idempotencyKeyReusedError : AppError :=
  .domainValidation "This Idempotency-Key was already used for a different request."
    [("reason", "idempotency_key_reused")]

/-! ## The table -/

/-- `find_by_idempotency_key`. -/
def findByIdempotencyKey (rows : List JobRow) (key : String) : Option JobRow :=
  rows.find? fun row => row.idempotencyKey == some key

/-- The row that `create_job` inserts. -/
def createJob (r : Submission) (id : String) : JobRow where
  id := id
  vmName := r.vmName
  status := .queued
  reservedIpv4 := reservedIpv4For r
  idempotencyKey := r.idempotencyKey
  requestFingerprint := some r.fingerprint
  requestedByUserId := r.userId

/-- The unique constraints that a new row violates. -/
def violatedConstraints (rows : List JobRow) (row : JobRow) : List UniqueConstraint :=
  let others := rows.map (·.toOtherJob)
  let keyTaken := row.idempotencyKey.any fun key => (findByIdempotencyKey rows key).isSome
  let nameTaken := row.status.active && hasActiveJobForVm others row.vmName
  let ipv4Taken := row.status.active && row.reservedIpv4.any (hasIpv4Reservation others)
  (if keyTaken then [.idempotencyKey] else []) ++ (if nameTaken then [.activeVmName] else []) ++
    (if ipv4Taken then [.reservedIpv4] else [])

/-! ## `submit_provisioning`, between its statements -/

inductive SubmitPhase
  | start
  /-- The key lookup found nothing. -/
  | keyUnknown
  | nameFree
  /-- The address is free and the preflight passed. -/
  | ready
  /-- Inserted, not committed. -/
  | inserted (row : JobRow)
  /-- The insert was refused and its savepoint rolled back. -/
  | violated (constraint : UniqueConstraint)
  | returned (id : String) (created : Bool)
  | failed (error : SubmitError)
  deriving DecidableEq

namespace Submission

variable (r : Submission)

/-- `_check_idempotent_replay`, and the return of its job. -/
def replay (existing : JobRow) : SubmitPhase :=
  let sameUser := existing.requestedByUserId == r.userId
  if !sameUser || existing.requestFingerprint.any (· != r.fingerprint) then
    .failed (.app idempotencyKeyReusedError)
  else .returned existing.id false

def lookUpKey (rows : List JobRow) : SubmitPhase :=
  if r.identityPolicyVersion != .v2 then .failed (.app identityPolicyV1Error)
  else
    match (given r.idempotencyKey).bind (findByIdempotencyKey rows) with
    | some existing => r.replay existing
    | none => .keyUnknown

def checkName (rows : List JobRow) : SubmitPhase :=
  if hasActiveJobForVm (rows.map (·.toOtherJob)) r.vmName then
    .failed (.app (activeVmNameError r.vmName))
  else .nameFree

def checkIpv4 (rows : List JobRow) : SubmitPhase :=
  if (given (reservedIpv4For r)).any (hasIpv4Reservation (rows.map (·.toOtherJob))) then
    .failed (.app (reservedIpv4Error r.vmName))
  else .ready

/-- The `except IntegrityError`. -/
def recover (rows : List JobRow) (violated : UniqueConstraint) : SubmitPhase :=
  let existing :=
    if violated = .idempotencyKey then
      (given r.idempotencyKey).bind (findByIdempotencyKey rows)
    else none
  match existing with
  | some existing => r.replay existing
  | none =>
    match reservationConflict violated r.vmName with
    | some conflict => .failed (.app conflict)
    | none => .failed (.integrity violated)

end Submission

/-! ## The two calls -/

/-- A submission that `submit_provisioning` replays by its key. -/
structure KeyedSubmission extends Submission where
  key : String
  key_ne : key ≠ ""
  idempotencyKey_eq : idempotencyKey = some key
  v2 : identityPolicyVersion = .v2

inductive Caller
  | first | second
  deriving DecidableEq

def Caller.other : Caller → Caller
  | first => second
  | second => first

structure SubmissionState where
  rows : List JobRow
  phase : Caller → SubmitPhase

inductive SubmissionEvent
  | lookUpKey (c : Caller)
  | checkName (c : Caller)
  | checkIpv4 (c : Caller)
  /-- `reported`: the constraint that the database names, if the insert is refused. -/
  | insert (c : Caller) (id : String) (reported : Option UniqueConstraint)
  | commit (c : Caller)
  | recover (c : Caller)
  /-- Other transactions commit: new jobs, a status of any job, the created one included. -/
  | others (rows : List JobRow)

/-- The call whose step the event is. -/
def SubmissionEvent.caller : SubmissionEvent → Option Caller
  | lookUpKey c | checkName c | checkIpv4 c | insert c _ _ | commit c | recover c => some c
  | others _ => none

def SubmitPhase.holdsRow : SubmitPhase → Bool
  | inserted _ => true
  | _ => false

def JobRow.carries (row : JobRow) (key : String) : Bool := row.idempotencyKey == some key

/-- The row holds the VM name or the address of the request. -/
def JobRow.holds (row : JobRow) (r : Submission) : Bool :=
  hasActiveJobForVm [row.toOtherJob] r.vmName ||
    (reservedIpv4For r).any (hasIpv4Reservation [row.toOtherJob])

/-- The row as it was submitted. -/
def JobRow.asSubmitted (row : JobRow) : JobRow :=
  { row with status := .queued }

namespace SubmissionState

/-- The jobs with the key. -/
def keyed (s : SubmissionState) (key : String) : List JobRow := s.rows.filter (·.carries key)

def move (s : SubmissionState) (c : Caller) (p : SubmitPhase) : SubmissionState :=
  { s with phase := Function.update s.phase c p }

/-- No job but the one with the key holds the VM name or the address. -/
def quiet (r : KeyedSubmission) (rows : List JobRow) : Bool :=
  rows.all fun row => row.carries r.key || !row.holds r.toSubmission

/-- Other transactions keep the jobs with the key, but for their status. -/
def admits (r : KeyedSubmission) (s : SubmissionState) (rows : List JobRow) : Bool :=
  quiet r rows &&
    (rows.filter (·.carries r.key)).map (·.asSubmitted) == (s.keyed r.key).map (·.asSubmitted)

def insert (r : KeyedSubmission) (s : SubmissionState) (c : Caller) (id : String)
    (reported : Option UniqueConstraint) : Option SubmissionState :=
  if s.phase c = .ready ∧ (s.phase c.other).holdsRow = false ∧
      s.rows.all (fun row => row.id != id) then
    let row := createJob r.toSubmission id
    match reported with
    | none => if violatedConstraints s.rows row = [] then some (s.move c (.inserted row)) else none
    | some v => if v ∈ violatedConstraints s.rows row then some (s.move c (.violated v)) else none
  else none

def commit (s : SubmissionState) (c : Caller) : Option SubmissionState :=
  match s.phase c with
  | .inserted row => some ({ s with rows := s.rows ++ [row] }.move c (.returned row.id true))
  | _ => none

def step (r : KeyedSubmission) (s : SubmissionState) : SubmissionEvent → Option SubmissionState
  | .lookUpKey c =>
    if s.phase c = .start then some (s.move c (r.toSubmission.lookUpKey s.rows)) else none
  | .checkName c =>
    if s.phase c = .keyUnknown then some (s.move c (r.toSubmission.checkName s.rows)) else none
  | .checkIpv4 c =>
    if s.phase c = .nameFree then some (s.move c (r.toSubmission.checkIpv4 s.rows)) else none
  | .insert c id reported => s.insert r c id reported
  | .commit c => s.commit c
  | .recover c =>
    match s.phase c with
    | .violated v => some (s.move c (r.toSubmission.recover s.rows v))
    | _ => none
  | .others rows => if s.admits r rows then some { s with rows } else none

end SubmissionState

/-- No job has the key, and no job holds the VM name or the address. -/
def submissions (r : KeyedSubmission) : Machine SubmissionState SubmissionEvent where
  init s := s.keyed r.key = [] ∧ SubmissionState.quiet r s.rows = true ∧ ∀ c, s.phase c = .start
  step := SubmissionState.step r


@[simp] theorem Caller.other_ne (c : Caller) : c.other ≠ c := by
  cases c <;> simp [Caller.other]

@[simp] theorem Caller.other_other (c : Caller) : c.other.other = c := by
  cases c <;> rfl

theorem Caller.eq_or_other (c d : Caller) : d = c ∨ d = c.other := by
  cases c <;> cases d <;> simp [Caller.other]

@[simp] theorem SubmissionState.move_self (s : SubmissionState) (c : Caller) (p : SubmitPhase) :
    (s.move c p).phase c = p := by
  simp [SubmissionState.move]

@[simp] theorem SubmissionState.move_other (s : SubmissionState) (c : Caller) (p : SubmitPhase) :
    (s.move c p).phase c.other = s.phase c.other := by
  simp [SubmissionState.move]

@[simp] theorem SubmissionState.move_rows (s : SubmissionState) (c : Caller) (p : SubmitPhase) :
    (s.move c p).rows = s.rows := rfl

@[simp] theorem SubmissionState.move_keyed (s : SubmissionState) (c : Caller) (p : SubmitPhase)
    (key : String) : (s.move c p).keyed key = s.keyed key := rfl

theorem KeyedSubmission.given_key (r : KeyedSubmission) :
    given r.idempotencyKey = some r.key := by
  simp [given, r.idempotencyKey_eq, r.key_ne]

/-! ## What the statements find -/

theorem findByIdempotencyKey_eq (rows : List JobRow) (key : String) :
    findByIdempotencyKey rows key = (rows.filter (·.carries key)).head? :=
  List.head?_filter.symm

theorem hasActiveJobForVm_rows (rows : List JobRow) (vmName : String) :
    hasActiveJobForVm (rows.map (·.toOtherJob)) vmName =
      rows.any fun row => hasActiveJobForVm [row.toOtherJob] vmName := by
  simp [hasActiveJobForVm, List.any_map, Function.comp_def]

theorem hasIpv4Reservation_rows (rows : List JobRow) (address : String) :
    hasIpv4Reservation (rows.map (·.toOtherJob)) address =
      rows.any fun row => hasIpv4Reservation [row.toOtherJob] address := by
  simp [hasIpv4Reservation, List.any_map, Function.comp_def]

theorem JobRow.not_holds_of_inactive {row : JobRow} (h : row.status.active = false)
    (r : Submission) : row.holds r = false := by
  cases haddress : reservedIpv4For r with
  | none => simp [JobRow.holds, hasActiveJobForVm, haddress, h]
  | some address => simp [JobRow.holds, hasActiveJobForVm, hasIpv4Reservation, haddress, h]

section

variable {r : KeyedSubmission} {s : SubmissionState}

/-- The job with the key is active. -/
def SubmissionState.createdActive (r : KeyedSubmission) (s : SubmissionState) : Bool :=
  (s.keyed r.key).any (·.status.active)

/-- Nobody holds the VM name or the address as long as no active job has the key. -/
theorem SubmissionState.free_of_quiet (hquiet : quiet r s.rows = true)
    (hactive : s.createdActive r = false) : ∀ row ∈ s.rows, row.holds r.toSubmission = false := by
  intro row hrow
  by_cases hkey : row.carries r.key = true
  · refine JobRow.not_holds_of_inactive ?_ _
    have hmem : row ∈ s.keyed r.key := List.mem_filter.mpr ⟨hrow, hkey⟩
    simp only [createdActive, List.any_eq_false, Bool.not_eq_true] at hactive
    exact hactive row hmem
  · have hholds := List.all_eq_true.mp hquiet row hrow
    simpa [hkey] using hholds

theorem nameFree_of_free (h : ∀ row ∈ s.rows, row.holds r.toSubmission = false) :
    hasActiveJobForVm (s.rows.map (·.toOtherJob)) r.vmName = false := by
  rw [hasActiveJobForVm_rows, List.any_eq_false]
  intro row hrow
  have hholds := h row hrow
  simp only [JobRow.holds, Bool.or_eq_false_iff] at hholds
  simp [hholds.1]

theorem ipv4Free_of_free (h : ∀ row ∈ s.rows, row.holds r.toSubmission = false) {address : String}
    (haddress : reservedIpv4For r.toSubmission = some address) :
    hasIpv4Reservation (s.rows.map (·.toOtherJob)) address = false := by
  rw [hasIpv4Reservation_rows, List.any_eq_false]
  intro row hrow
  have hholds := h row hrow
  simp only [JobRow.holds, haddress, Bool.or_eq_false_iff, Option.any_some] at hholds
  simp [hholds.2]

/-- A free name and a free address, and no job with the key: the insert is accepted. -/
theorem violatedConstraints_of_free (h : ∀ row ∈ s.rows, row.holds r.toSubmission = false)
    (hkeyed : s.keyed r.key = []) (id : String) :
    violatedConstraints s.rows (createJob r.toSubmission id) = [] := by
  have hkey : findByIdempotencyKey s.rows r.key = none := by
    rw [findByIdempotencyKey_eq]
    exact congrArg List.head? hkeyed
  have hipv4 : (reservedIpv4For r.toSubmission).any
      (hasIpv4Reservation (s.rows.map (·.toOtherJob))) = false := by
    cases haddress : reservedIpv4For r.toSubmission with
    | none => rfl
    | some address => exact ipv4Free_of_free h haddress
  simp [violatedConstraints, createJob, r.idempotencyKey_eq, hkey, nameFree_of_free h, hipv4]

/-! ## The job with the key -/

/-- The row is the one that an insert of this request made. -/
theorem replay_submitted {row : JobRow} {id : String}
    (h : row.asSubmitted = createJob r.toSubmission id) :
    r.toSubmission.replay row = .returned id false := by
  obtain ⟨other, rowId, key, fingerprint, user⟩ := row
  simp only [JobRow.asSubmitted, createJob, JobRow.mk.injEq] at h
  obtain ⟨-, rfl, -, rfl, rfl⟩ := h
  simp [Submission.replay]

/-- The only job with the key is the one that the insert with this id made. -/
def SubmissionState.Holds (r : KeyedSubmission) (s : SubmissionState) (id : String) : Prop :=
  (s.keyed r.key).map (·.asSubmitted) = [createJob r.toSubmission id]

theorem SubmissionState.Holds.keyed {id : String} (h : s.Holds r id) :
    ∃ row, s.keyed r.key = [row] ∧ row.asSubmitted = createJob r.toSubmission id := by
  unfold SubmissionState.Holds at h
  obtain ⟨row, hkeyed, hrow⟩ := List.map_eq_singleton_iff.mp h
  exact ⟨row, hkeyed, hrow⟩

/-- A lookup of the key replays it. -/
theorem SubmissionState.Holds.find {id : String} (h : s.Holds r id) :
    ∃ row, findByIdempotencyKey s.rows r.key = some row ∧
      r.toSubmission.replay row = .returned id false := by
  obtain ⟨row, hkeyed, hrow⟩ := h.keyed
  refine ⟨row, ?_, replay_submitted hrow⟩
  rw [findByIdempotencyKey_eq]
  exact congrArg List.head? hkeyed

theorem SubmissionState.Holds.lookUpKey {id : String} (h : s.Holds r id) :
    r.toSubmission.lookUpKey s.rows = .returned id false := by
  obtain ⟨row, hfind, hreplay⟩ := h.find
  simp [Submission.lookUpKey, r.v2, r.given_key, hfind, hreplay]

theorem SubmissionState.Holds.recover {id : String} (h : s.Holds r id) :
    r.toSubmission.recover s.rows .idempotencyKey = .returned id false := by
  obtain ⟨row, hfind, hreplay⟩ := h.find
  simp [Submission.recover, r.given_key, hfind, hreplay]

theorem SubmissionState.Holds.insert_refused {id : String} (h : s.Holds r id) (new : String) :
    .idempotencyKey ∈ violatedConstraints s.rows (createJob r.toSubmission new) := by
  obtain ⟨row, hfind, -⟩ := h.find
  simp [violatedConstraints, createJob, r.idempotencyKey_eq, hfind]

theorem lookUpKey_of_unknown (h : s.keyed r.key = []) :
    r.toSubmission.lookUpKey s.rows = .keyUnknown := by
  have hfind : findByIdempotencyKey s.rows r.key = none := by
    rw [findByIdempotencyKey_eq]
    exact congrArg List.head? h
  simp [Submission.lookUpKey, r.v2, r.given_key, hfind]

theorem checkName_of_free (h : ∀ row ∈ s.rows, row.holds r.toSubmission = false) :
    r.toSubmission.checkName s.rows = .nameFree := by
  simp [Submission.checkName, nameFree_of_free h]

theorem checkIpv4_of_free
    (h : (given (reservedIpv4For r.toSubmission)).isNone = true ∨
      ∀ row ∈ s.rows, row.holds r.toSubmission = false) :
    r.toSubmission.checkIpv4 s.rows = .ready := by
  unfold Submission.checkIpv4
  cases haddress : given (reservedIpv4For r.toSubmission) with
  | none => rfl
  | some address =>
    have hfree := h.resolve_left (by simp [haddress])
    have hreserved : reservedIpv4For r.toSubmission = some address :=
      (Option.filter_eq_some_iff.mp haddress).1
    simp [ipv4Free_of_free hfree hreserved]

/-! ## Runs -/

/-- A call that has not reached its insert. -/
def SubmitPhase.open : SubmitPhase → Bool
  | start | keyUnknown | nameFree | ready => true
  | _ => false

/-- Nothing is committed: at most one call has inserted its row. -/
structure SubmissionState.NoneCreated (r : KeyedSubmission) (s : SubmissionState) : Prop where
  keyed : s.keyed r.key = []
  phase : ∀ c, (s.phase c).open = true ∨
    ((s.phase c.other).open = true ∧ ∃ id, s.phase c = .inserted (createJob r.toSubmission id))

/-- The job of `c` is committed; the other call has not noticed, has been refused for its
key, or has returned that job. -/
structure SubmissionState.CreatedBy (r : KeyedSubmission) (s : SubmissionState) (c : Caller)
    (id : String) : Prop where
  holds : s.Holds r id
  returned : s.phase c = .returned id true
  other : (s.phase c.other).open = true ∨ s.phase c.other = .violated .idempotencyKey ∨
    s.phase c.other = .returned id false

structure SubmissionState.Inv (r : KeyedSubmission) (s : SubmissionState) : Prop where
  quiet : quiet r s.rows = true
  progress : s.NoneCreated r ∨ ∃ c id, s.CreatedBy r c id

/-- A step may run into the row that the other call has committed after the lookup of the
key: in a check of the name or the address, or in an insert that is refused for one of them. -/
def SubmissionState.undisturbed (r : KeyedSubmission) (s : SubmissionState) :
    SubmissionEvent → Bool
  | .checkName _ => !s.createdActive r
  | .checkIpv4 _ => (given (reservedIpv4For r.toSubmission)).isNone || !s.createdActive r
  | .insert _ _ (some violated) => violated == .idempotencyKey
  | _ => true

theorem SubmissionState.NoneCreated.move {c : Caller} {p : SubmitPhase} (h : s.NoneCreated r)
    (hp : p.open = true ∨
      ((s.phase c.other).open = true ∧ ∃ id, p = .inserted (createJob r.toSubmission id)))
    (hc : (s.phase c).open = true) : (s.move c p).NoneCreated r := by
  refine ⟨h.keyed, fun d => ?_⟩
  rcases c.eq_or_other d with rfl | rfl
  · simpa using hp
  · rcases h.phase c.other with hopen | ⟨-, id, hid⟩
    · exact .inl (by simpa using hopen)
    · rcases hp with hp | ⟨hopen, -⟩
      · exact .inr ⟨by simpa using hp, id, by simpa using hid⟩
      · rw [hid] at hopen
        cases hopen

theorem SubmissionState.CreatedBy.move {c : Caller} {id : String} {p : SubmitPhase}
    (h : s.CreatedBy r c id)
    (hp : p.open = true ∨ p = .violated .idempotencyKey ∨ p = .returned id false) :
    (s.move c.other p).CreatedBy r c id := by
  have hself : (s.move c.other p).phase c = s.phase c := by
    have hmove := s.move_other c.other p
    rwa [Caller.other_other] at hmove
  exact ⟨h.holds, by rw [hself, h.returned], by simpa using hp⟩

/-- Where a call can stand. -/
inductive SubmissionState.Stands (r : KeyedSubmission) (s : SubmissionState) (c : Caller) : Prop
  | waiting (h : (s.phase c).open = true)
  | inserted (id : String) (h : s.phase c = .inserted (createJob r.toSubmission id))
      (hother : (s.phase c.other).open = true) (hnone : s.NoneCreated r)
  | created (id : String) (h : s.CreatedBy r c id)
  | refused (id : String) (h : s.phase c = .violated .idempotencyKey)
      (hother : s.CreatedBy r c.other id)
  | replayed (id : String) (h : s.phase c = .returned id false) (hother : s.CreatedBy r c.other id)

theorem SubmissionState.Inv.stands (h : s.Inv r) (c : Caller) : s.Stands r c := by
  rcases h.progress with hn | ⟨d, id, hd⟩
  · rcases hn.phase c with hopen | ⟨hother, id, hid⟩
    · exact .waiting hopen
    · exact .inserted id hid hother hn
  · rcases d.eq_or_other c with rfl | rfl
    · exact .created id hd
    · have hother : s.CreatedBy r d.other.other id := by rwa [Caller.other_other]
      rcases hd.other with hopen | hviolated | hreturned
      · exact .waiting hopen
      · exact .refused id hviolated hother
      · exact .replayed id hreturned hother

/-- **A call moves on.** What it does next depends on whether the job is committed. -/
theorem SubmissionState.Inv.move {c : Caller} {p : SubmitPhase} (h : s.Inv r)
    (hc : (s.phase c).open = true)
    (hnone : s.keyed r.key = [] → p.open = true ∨
      ((s.phase c.other).holdsRow = false ∧ ∃ id, p = .inserted (createJob r.toSubmission id)))
    (hcreated : ∀ id, s.Holds r id →
      p.open = true ∨ p = .violated .idempotencyKey ∨ p = .returned id false) :
    (s.move c p).Inv r := by
  refine ⟨h.quiet, ?_⟩
  rcases h.progress with hn | ⟨d, id, hd⟩
  · refine .inl (hn.move ?_ hc)
    rcases hnone hn.keyed with hp | ⟨hother, hp⟩
    · exact .inl hp
    · rcases hn.phase c.other with hfree | ⟨-, id, hid⟩
      · exact .inr ⟨hfree, hp⟩
      · rw [hid] at hother
        cases hother
  · rcases d.eq_or_other c with rfl | rfl
    · rw [hd.returned] at hc
      cases hc
    · exact .inr ⟨d, id, hd.move (hcreated id hd.holds)⟩

theorem createJob_carries (r : KeyedSubmission) (id : String) :
    (createJob r.toSubmission id).carries r.key = true := by
  simp [JobRow.carries, createJob, r.idempotencyKey_eq]

theorem SubmissionState.Inv.commit {c : Caller} {s' : SubmissionState} (h : s.Inv r)
    (hs : s.commit c = some s') : s'.Inv r := by
  unfold SubmissionState.commit at hs
  split at hs
  · rename_i row hrow
    cases hs
    cases h.stands c with
    | inserted id hid hother hn =>
      obtain rfl : row = createJob r.toSubmission id := by
        rw [hid] at hrow
        cases hrow
        rfl
      have hcarries := createJob_carries r id
      refine ⟨?_, .inr ⟨c, id, ?_, by simp [createJob], .inl (by simpa using hother)⟩⟩
      · have hquiet := h.quiet
        simp only [SubmissionState.quiet, SubmissionState.move_rows, List.all_append,
          Bool.and_eq_true] at hquiet ⊢
        exact ⟨hquiet, by simp [hcarries]⟩
      · have hkeyed := hn.keyed
        simp only [SubmissionState.keyed] at hkeyed
        have hrow : [createJob r.toSubmission id].filter (·.carries r.key) =
            [createJob r.toSubmission id] := by simp [hcarries]
        simp only [SubmissionState.Holds, SubmissionState.keyed, SubmissionState.move_rows,
          List.filter_append, hkeyed, List.nil_append, hrow]
        rfl
    -- only a call with a pending insert commits
    | waiting hopen =>
      rw [hrow] at hopen
      cases hopen
    | created id hc => cases hrow.symm.trans hc.returned
    | refused id hphase _ => cases hrow.symm.trans hphase
    | replayed id hphase _ => cases hrow.symm.trans hphase
  · cases hs

/-- A call that was refused for its key returns the job that has it. -/
theorem SubmissionState.Inv.recover {c : Caller} {violated : UniqueConstraint} (h : s.Inv r)
    (hs : s.phase c = .violated violated) :
    (s.move c (r.toSubmission.recover s.rows violated)).Inv r := by
  cases h.stands c with
  | refused id hphase hother =>
    obtain rfl : violated = .idempotencyKey := by
      cases hs.symm.trans hphase
      rfl
    refine ⟨h.quiet, .inr ⟨c.other, id, ?_⟩⟩
    have hmove := hother.move (p := .returned id false) (.inr (.inr rfl))
    rwa [Caller.other_other, ← hother.holds.recover] at hmove
  | waiting hopen =>
    rw [hs] at hopen
    cases hopen
  | inserted id hphase _ _ => cases hs.symm.trans hphase
  | created id hc => cases hs.symm.trans hc.returned
  | replayed id hphase _ => cases hs.symm.trans hphase

theorem SubmissionState.Inv.others {rows : List JobRow} (h : s.Inv r)
    (hs : s.admits r rows = true) : SubmissionState.Inv r { s with rows } := by
  simp only [admits, Bool.and_eq_true, beq_iff_eq] at hs
  obtain ⟨hquiet, hsame⟩ := hs
  refine ⟨hquiet, ?_⟩
  rcases h.progress with hn | ⟨d, id, hd⟩
  · refine .inl ⟨?_, hn.phase⟩
    rw [hn.keyed] at hsame
    exact List.map_eq_nil_iff.mp hsame
  · exact .inr ⟨d, id, hsame.trans hd.holds, hd.returned, hd.other⟩

/-- The insert is accepted as long as no job has the key, and else refused for the key. -/
theorem SubmissionState.Inv.insert {c : Caller} {id : String}
    {reported : Option UniqueConstraint} {s' : SubmissionState} (h : s.Inv r)
    (hundisturbed : s.undisturbed r (.insert c id reported) = true)
    (hs : s.insert r c id reported = some s') : s'.Inv r := by
  unfold SubmissionState.insert at hs
  split at hs
  · rename_i hguard
    obtain ⟨hready, hother, -⟩ := hguard
    have hopen : (s.phase c).open = true := by
      rw [hready]
      rfl
    have hfree : s.keyed r.key = [] →
        violatedConstraints s.rows (createJob r.toSubmission id) = [] := by
      intro hkeyed
      have hactive : s.createdActive r = false := by simp [createdActive, hkeyed]
      exact violatedConstraints_of_free (free_of_quiet h.quiet hactive) hkeyed id
    cases reported with
    | none =>
      simp only [Option.ite_none_right_eq_some, Option.some.injEq] at hs
      obtain ⟨haccepted, rfl⟩ := hs
      refine h.move hopen (fun _ => .inr ⟨hother, id, rfl⟩) fun old hold => ?_
      -- with the key taken, no insert is accepted
      have hrefused := hold.insert_refused id
      rw [haccepted] at hrefused
      cases hrefused
    -- the constraint reported is the key's, as the condition has it
    | some violated =>
      simp only [Option.ite_none_right_eq_some, Option.some.injEq] at hs
      obtain ⟨hviolated, rfl⟩ := hs
      obtain rfl : violated = .idempotencyKey := by simpa [undisturbed] using hundisturbed
      refine h.move hopen (fun hkeyed => ?_) fun _ _ => .inr (.inl rfl)
      rw [hfree hkeyed] at hviolated
      cases hviolated
  · cases hs

/-- **Every undisturbed step keeps the invariant.** -/
theorem SubmissionState.Inv.step {e : SubmissionEvent} {s' : SubmissionState} (h : s.Inv r)
    (hundisturbed : s.undisturbed r e = true) (hs : s.step r e = some s') : s'.Inv r := by
  cases e with
  | lookUpKey c =>
    simp only [SubmissionState.step, Option.ite_none_right_eq_some, Option.some.injEq] at hs
    obtain ⟨hstart, rfl⟩ := hs
    refine h.move (by rw [hstart]; rfl) (fun hkeyed => ?_) fun id hid => ?_
    · rw [lookUpKey_of_unknown hkeyed]
      exact .inl rfl
    · exact .inr (.inr hid.lookUpKey)
  | checkName c =>
    simp only [SubmissionState.step, Option.ite_none_right_eq_some, Option.some.injEq] at hs
    obtain ⟨hphase, rfl⟩ := hs
    have hactive : s.createdActive r = false := by simpa [undisturbed] using hundisturbed
    rw [checkName_of_free (free_of_quiet h.quiet hactive)]
    exact h.move (by rw [hphase]; rfl) (fun _ => .inl rfl) fun _ _ => .inl rfl
  | checkIpv4 c =>
    simp only [SubmissionState.step, Option.ite_none_right_eq_some, Option.some.injEq] at hs
    obtain ⟨hphase, rfl⟩ := hs
    rw [checkIpv4_of_free]
    · exact h.move (by rw [hphase]; rfl) (fun _ => .inl rfl) fun _ _ => .inl rfl
    · simp only [undisturbed, Bool.or_eq_true, Bool.not_eq_true'] at hundisturbed
      exact hundisturbed.imp_right (free_of_quiet h.quiet)
  | insert c id reported => exact h.insert hundisturbed hs
  | commit c => exact h.commit hs
  | recover c =>
    simp only [SubmissionState.step] at hs
    split at hs
    · rename_i violated hviolated
      cases hs
      exact h.recover hviolated
    · cases hs
  | others rows =>
    simp only [SubmissionState.step, Option.ite_none_right_eq_some, Option.some.injEq] at hs
    obtain ⟨hadmits, rfl⟩ := hs
    exact h.others hadmits

theorem undisturbed_inv
    (hs : (submissions r).ReachableUnder (fun s e => s.undisturbed r e = true) s) : s.Inv r := by
  refine hs.invariant (fun s hinit => ?_) fun s e s' _ hinv hundisturbed hstep => ?_
  · obtain ⟨hkeyed, hquiet, hstart⟩ := hinit
    refine ⟨hquiet, .inl ⟨hkeyed, fun c => .inl ?_⟩⟩
    rw [hstart]
    rfl
  · exact hinv.step hundisturbed hstep

/-! ## Progress -/

/-- The statements that a call may still have to issue. -/
def SubmitPhase.remaining : SubmitPhase → Nat
  | start => 5
  | keyUnknown => 4
  | nameFree => 3
  | ready => 2
  | inserted _ | violated _ => 1
  | returned _ _ | failed _ => 0

def SubmissionState.remaining (s : SubmissionState) : Nat :=
  (s.phase .first).remaining + (s.phase .second).remaining

theorem SubmissionState.remaining_eq (s : SubmissionState) (c : Caller) :
    s.remaining = (s.phase c).remaining + (s.phase c.other).remaining := by
  cases c
  · rfl
  · exact Nat.add_comm _ _

theorem SubmissionState.remaining_move {c : Caller} {p : SubmitPhase}
    (h : p.remaining < (s.phase c).remaining) : (s.move c p).remaining < s.remaining := by
  rw [(s.move c p).remaining_eq c, s.remaining_eq c, move_self, move_other]
  omega

theorem Submission.replay_remaining (r : Submission) (row : JobRow) :
    (r.replay row).remaining = 0 := by
  unfold Submission.replay
  dsimp only
  split <;> rfl

theorem Submission.lookUpKey_remaining (r : Submission) (rows : List JobRow) :
    (r.lookUpKey rows).remaining < 5 := by
  unfold Submission.lookUpKey
  split
  · simp [SubmitPhase.remaining]
  · split
    · simp [replay_remaining]
    · simp [SubmitPhase.remaining]

theorem Submission.checkName_remaining (r : Submission) (rows : List JobRow) :
    (r.checkName rows).remaining < 4 := by
  unfold Submission.checkName
  split <;> simp [SubmitPhase.remaining]

theorem Submission.checkIpv4_remaining (r : Submission) (rows : List JobRow) :
    (r.checkIpv4 rows).remaining < 3 := by
  unfold Submission.checkIpv4
  split <;> simp [SubmitPhase.remaining]

theorem Submission.recover_remaining (r : Submission) (rows : List JobRow)
    (violated : UniqueConstraint) : (r.recover rows violated).remaining = 0 := by
  unfold Submission.recover
  dsimp only
  split
  · exact replay_remaining r _
  · split <;> rfl

/-- Every step of a call leaves it less to do. -/
theorem SubmissionState.step_remaining {e : SubmissionEvent} {s' : SubmissionState}
    (he : e.caller.isSome = true) (hs : s.step r e = some s') : s'.remaining < s.remaining := by
  cases e with
  | lookUpKey c =>
    simp only [SubmissionState.step, Option.ite_none_right_eq_some, Option.some.injEq] at hs
    obtain ⟨hphase, rfl⟩ := hs
    exact remaining_move (by rw [hphase]; exact Submission.lookUpKey_remaining _ _)
  | checkName c =>
    simp only [SubmissionState.step, Option.ite_none_right_eq_some, Option.some.injEq] at hs
    obtain ⟨hphase, rfl⟩ := hs
    exact remaining_move (by rw [hphase]; exact Submission.checkName_remaining _ _)
  | checkIpv4 c =>
    simp only [SubmissionState.step, Option.ite_none_right_eq_some, Option.some.injEq] at hs
    obtain ⟨hphase, rfl⟩ := hs
    exact remaining_move (by rw [hphase]; exact Submission.checkIpv4_remaining _ _)
  | insert c id reported =>
    simp only [SubmissionState.step, SubmissionState.insert] at hs
    split at hs
    · rename_i hguard
      cases reported with
      | none =>
        simp only [Option.ite_none_right_eq_some, Option.some.injEq] at hs
        obtain ⟨-, rfl⟩ := hs
        exact remaining_move (by rw [hguard.1]; simp [SubmitPhase.remaining])
      | some violated =>
        simp only [Option.ite_none_right_eq_some, Option.some.injEq] at hs
        obtain ⟨-, rfl⟩ := hs
        exact remaining_move (by rw [hguard.1]; simp [SubmitPhase.remaining])
    · cases hs
  | commit c =>
    simp only [SubmissionState.step, SubmissionState.commit] at hs
    split at hs
    · rename_i row hphase
      cases hs
      have hless : (SubmitPhase.returned row.id true).remaining < (s.phase c).remaining := by
        rw [hphase]
        simp [SubmitPhase.remaining]
      exact remaining_move hless
    · cases hs
  | recover c =>
    simp only [SubmissionState.step] at hs
    split at hs
    · rename_i violated hphase
      cases hs
      refine remaining_move ?_
      rw [hphase, Submission.recover_remaining]
      simp [SubmitPhase.remaining]
    · cases hs
  | others rows => cases he

def SubmitPhase.ended : SubmitPhase → Bool
  | returned _ _ | failed _ => true
  | _ => false

theorem exists_fresh_id (rows : List JobRow) : ∃ id, rows.all (fun row => row.id != id) = true := by
  obtain ⟨id, hid⟩ := Infinite.exists_notMem_finset (rows.map (·.id)).toFinset
  refine ⟨id, List.all_eq_true.mpr fun row hrow => ?_⟩
  rw [bne_iff_ne]
  rintro rfl
  exact hid (List.mem_toFinset.mpr (List.mem_map_of_mem hrow))

/-- The database accepts the row, or names a constraint that it violates. -/
theorem SubmissionState.insert_enabled {c : Caller} (hready : s.phase c = .ready)
    (hother : (s.phase c.other).holdsRow = false) :
    ∃ id reported, (s.insert r c id reported).isSome = true := by
  obtain ⟨id, hid⟩ := exists_fresh_id s.rows
  cases hviolated : violatedConstraints s.rows (createJob r.toSubmission id) with
  | nil => exact ⟨id, none, by simp [insert, hready, hother, hid, hviolated]⟩
  | cons violated rest =>
    exact ⟨id, some violated, by simp [insert, hready, hother, hid, hviolated]⟩

/-- **No deadlock**: a call that has not ended can go on, or the one it waits for can. -/
theorem SubmissionState.exists_step {c : Caller} (h : (s.phase c).ended = false) :
    ∃ e, e.caller.isSome = true ∧ (s.step r e).isSome = true := by
  cases hphase : s.phase c with
  | start => exact ⟨.lookUpKey c, rfl, by simp [SubmissionState.step, hphase]⟩
  | keyUnknown => exact ⟨.checkName c, rfl, by simp [SubmissionState.step, hphase]⟩
  | nameFree => exact ⟨.checkIpv4 c, rfl, by simp [SubmissionState.step, hphase]⟩
  | ready =>
    by_cases hother : (s.phase c.other).holdsRow = true
    · refine ⟨.commit c.other, rfl, ?_⟩
      cases hrow : s.phase c.other <;>
        simp_all [SubmissionState.step, SubmissionState.commit, SubmitPhase.holdsRow]
    · obtain ⟨id, reported, hinsert⟩ :=
        insert_enabled (r := r) hphase (by simpa using hother)
      exact ⟨.insert c id reported, rfl, hinsert⟩
  | inserted row => exact ⟨.commit c, rfl, by simp [SubmissionState.step, commit, hphase]⟩
  | violated violated => exact ⟨.recover c, rfl, by simp [SubmissionState.step, hphase]⟩
  | returned id created =>
    rw [hphase] at h
    cases h
  | failed error =>
    rw [hphase] at h
    cases h

/-! ## Exactly one job -/

/-- No call fails and no second job is created; once both calls have ended, one of them has
created the job with the key and both have returned it. -/
structure SubmittedOnce (r : KeyedSubmission) (s : SubmissionState) : Prop where
  succeeds : ∀ c error, s.phase c ≠ .failed error
  one : (s.keyed r.key).length ≤ 1
  both : (∀ c, (s.phase c).ended = true) → ∃ c id, (s.keyed r.key).map (·.id) = [id] ∧
    s.phase c = .returned id true ∧ s.phase c.other = .returned id false
  goesOn : (∃ c, (s.phase c).ended = false) → ∃ e s', e.caller.isSome = true ∧
    (submissions r).step s e = some s' ∧ s'.remaining < s.remaining

theorem SubmissionState.Inv.both (h : s.Inv r) (hended : ∀ c, (s.phase c).ended = true) :
    ∃ c id, (s.keyed r.key).map (·.id) = [id] ∧ s.phase c = .returned id true ∧
      s.phase c.other = .returned id false := by
  rcases h.progress with hn | ⟨c, id, hc⟩
  · have hfirst := hended .first
    rcases hn.phase .first with hopen | ⟨-, id, hid⟩
    · cases hphase : s.phase .first <;> simp_all [SubmitPhase.open, SubmitPhase.ended]
    · rw [hid] at hfirst
      cases hfirst
  · obtain ⟨row, hkeyed, hrow⟩ := hc.holds.keyed
    refine ⟨c, id, ?_, hc.returned, ?_⟩
    · rw [hkeyed]
      exact congrArg (fun row : JobRow => [row.id]) hrow
    · have hother := hended c.other
      rcases hc.other with hopen | hviolated | hreturned
      · cases hphase : s.phase c.other <;> simp_all [SubmitPhase.open, SubmitPhase.ended]
      · rw [hviolated] at hother
        cases hother
      · exact hreturned

theorem SubmissionState.Inv.submittedOnce (h : s.Inv r) : SubmittedOnce r s := by
  refine ⟨fun c error hfailed => ?_, ?_, h.both, fun ⟨c, hc⟩ => ?_⟩
  · cases h.stands c with
    | waiting hopen =>
      rw [hfailed] at hopen
      cases hopen
    | inserted id hphase _ _ => cases hfailed.symm.trans hphase
    | created id hc => cases hfailed.symm.trans hc.returned
    | refused id hphase _ => cases hfailed.symm.trans hphase
    | replayed id hphase _ => cases hfailed.symm.trans hphase
  · rcases h.progress with hn | ⟨c, id, hc⟩
    · simp [hn.keyed]
    · obtain ⟨row, hkeyed, -⟩ := hc.holds.keyed
      simp [hkeyed]
  · obtain ⟨e, he, hstep⟩ := exists_step (r := r) hc
    obtain ⟨s', hs'⟩ := Option.isSome_iff_exists.mp hstep
    exact ⟨e, s', he, hs', step_remaining he hs'⟩

/-! ## The disturbed steps are those that end in a conflict -/

/-- A conflict, or a violation that becomes one. -/
def SubmitPhase.conflicts : SubmitPhase → Bool
  | failed (.app error) => error.isConflict
  | violated constraint => constraint != .idempotencyKey
  | _ => false

theorem Submission.recover_conflicts (r : Submission) (rows : List JobRow)
    {violated : UniqueConstraint} (h : violated ≠ .idempotencyKey) :
    ∃ error, r.recover rows violated = .failed (.app error) ∧ error.isConflict = true := by
  cases violated with
  | activeVmName => exact ⟨_, rfl, rfl⟩
  | reservedIpv4 => exact ⟨_, rfl, rfl⟩
  | idempotencyKey => exact absurd rfl h

/-- The job with the key, active, holds what the request asks for. -/
theorem SubmissionState.Inv.held (h : s.Inv r) (hactive : s.createdActive r = true) :
    hasActiveJobForVm (s.rows.map (·.toOtherJob)) r.vmName = true ∧
      ∀ address, reservedIpv4For r.toSubmission = some address →
        hasIpv4Reservation (s.rows.map (·.toOtherJob)) address = true := by
  rcases h.progress with hn | ⟨c, id, hc⟩
  · simp [createdActive, hn.keyed] at hactive
  · obtain ⟨row, hkeyed, hrow⟩ := hc.holds.keyed
    have hmem : row ∈ s.rows := by
      have hfilter : row ∈ s.keyed r.key := by simp [hkeyed]
      exact (List.mem_filter.mp hfilter).1
    have hname : row.vmName = r.vmName := congrArg (fun row : JobRow => row.vmName) hrow
    have hipv4 : row.reservedIpv4 = reservedIpv4For r.toSubmission :=
      congrArg (fun row : JobRow => row.reservedIpv4) hrow
    have hstatus : row.status.active = true := by simpa [createdActive, hkeyed] using hactive
    refine ⟨?_, fun address haddress => ?_⟩
    · rw [hasActiveJobForVm_rows, List.any_eq_true]
      exact ⟨row, hmem, by simp [hasActiveJobForVm, hname, hstatus]⟩
    · rw [hasIpv4Reservation_rows, List.any_eq_true]
      exact ⟨row, hmem, by simp [hasIpv4Reservation, hipv4, haddress, hstatus]⟩

/-- **A disturbed step ends in a conflict.** -/
theorem SubmissionState.Inv.disturbed {e : SubmissionEvent} {s' : SubmissionState}
    (h : s.Inv r) (hdisturbed : s.undisturbed r e = false) (hs : s.step r e = some s') :
    ∃ c, (s'.phase c).conflicts = true := by
  cases e with
  -- the job that the other call has created holds the name
  | checkName c =>
    simp only [SubmissionState.step, Option.ite_none_right_eq_some, Option.some.injEq] at hs
    obtain ⟨-, rfl⟩ := hs
    have hheld := h.held (by simpa [undisturbed] using hdisturbed)
    refine ⟨c, ?_⟩
    rw [move_self, Submission.checkName, if_pos hheld.1]
    rfl
  | checkIpv4 c =>
    simp only [SubmissionState.step, Option.ite_none_right_eq_some, Option.some.injEq] at hs
    obtain ⟨-, rfl⟩ := hs
    simp only [undisturbed, Bool.or_eq_false_iff, Option.isNone_eq_false_iff,
      Option.isSome_iff_exists, Bool.not_eq_false'] at hdisturbed
    obtain ⟨⟨address, haddress⟩, hactive⟩ := hdisturbed
    have hheld := (h.held hactive).2 address (Option.filter_eq_some_iff.mp haddress).1
    refine ⟨c, ?_⟩
    rw [move_self, Submission.checkIpv4, haddress, Option.any_some, if_pos hheld]
    rfl
  | insert c id reported =>
    cases reported with
    | none => cases hdisturbed
    | some violated =>
      simp only [SubmissionState.step, SubmissionState.insert] at hs
      split at hs
      · simp only [Option.ite_none_right_eq_some, Option.some.injEq] at hs
        obtain ⟨-, rfl⟩ := hs
        refine ⟨c, ?_⟩
        simpa [SubmitPhase.conflicts, undisturbed] using hdisturbed
      · cases hs
  | lookUpKey c => cases hdisturbed
  | commit c => cases hdisturbed
  | recover c => cases hdisturbed
  | others rows => cases hdisturbed

end

/-- **One job for two calls**, in every run in which no call checks the name or the address
after the other's commit and no insert is refused for them. -/
theorem submitted_once (r : KeyedSubmission) (s : SubmissionState)
    (hs : (submissions r).ReachableUnder (fun s e => s.undisturbed r e = true) s) :
    SubmittedOnce r s :=
  (undisturbed_inv hs).submittedOnce

/-! ## Two schedules -/

def webSubmission : KeyedSubmission where
  vmName := "web01"
  ipMode := .static
  ipv4Address := some "10.0.0.5"
  fingerprint := "f1"
  userId := some "u1"
  idempotencyKey := some "k1"
  key := "k1"
  key_ne := by decide
  idempotencyKey_eq := rfl
  v2 := rfl

/-- Both calls look up the key before either has inserted its job. -/
def bothLookedUp : List SubmissionEvent :=
  [.lookUpKey .first, .lookUpKey .second, .checkName .first, .checkIpv4 .first]

/-- The second call reaches its insert before the first one commits. -/
def insertsMeet : List SubmissionEvent :=
  bothLookedUp ++ [.checkName .second, .checkIpv4 .second, .insert .first "j1" none,
    .commit .first, .insert .second "j2" (some .idempotencyKey), .recover .second]

theorem submitted_once_inserts_meet : ∃ s,
    (submissions webSubmission).ReachableUnder
      (fun s e => s.undisturbed webSubmission e = true) s ∧
    s.phase .first = .returned "j1" true ∧ s.phase .second = .returned "j1" false ∧
    SubmittedOnce webSubmission s := by
  obtain ⟨s, hs, hends⟩ :=
    Machine.exists_reachableUnder_of_run (m := submissions webSubmission)
      (c := fun s e => s.undisturbed webSubmission e) (s := ⟨[], fun _ => .start⟩)
      (t := insertsMeet)
      (p := fun s => s.phase .first = .returned "j1" true ∧ s.phase .second = .returned "j1" false)
      ⟨rfl, rfl, fun _ => rfl⟩ (by decide +kernel)
  simp only [decide_eq_true_eq] at hends
  exact ⟨s, hs, hends.1, hends.2, submitted_once webSubmission s hs⟩

/-- The second call checks the name after the first one's commit. -/
theorem second_call_conflicts : ∃ s, (submissions webSubmission).Reachable s ∧
    s.phase .first = .returned "j1" true ∧
    s.phase .second = .failed (.app (activeVmNameError "web01")) ∧
    ¬SubmittedOnce webSubmission s := by
  obtain ⟨s, hs, hends⟩ :=
    Machine.exists_reachable_of_run (m := submissions webSubmission) (s := ⟨[], fun _ => .start⟩)
      (t := bothLookedUp ++ [.insert .first "j1" none, .commit .first, .checkName .second])
      (p := fun s => s.phase .first = .returned "j1" true ∧
        s.phase .second = .failed (.app (activeVmNameError "web01")))
      ⟨rfl, rfl, fun _ => rfl⟩ (by decide +kernel)
  simp only [decide_eq_true_eq] at hends
  exact ⟨s, hs, hends.1, hends.2, fun honce => honce.succeeds .second _ hends.2⟩

end InfraOps
