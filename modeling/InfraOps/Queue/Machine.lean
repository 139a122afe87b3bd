import InfraOps.Support.Machine
import InfraOps.Workers.Engine

/-!
# The queue

The table `provisioning_jobs` under the transactions of any number of workers: claims
(`claim_due_jobs`), heartbeats and reaps (`claim_stale_running_jobs`, then `_interrupt`).
Each takes its steps one by one (it reads the clock, reads the table, locks a row, commits),
and the steps of different transactions interleave freely. A statement that skips locked
rows passes over what another transaction holds; an `UPDATE` waits for it. Both evaluate
their condition again on the row they lock.

A job is its position in the table.
-/

namespace InfraOps

/-- An interruption that a reaper has committed. -/
structure Interruption where
  job : ProvisioningJob
  records : List Record

structure QueueRow where
  job : ProvisioningJob
  updatedAt : Timestamp
  /-- History: the interruptions by reapers since the last claim. -/
  reaped : List Interruption := []

namespace QueueRow

/-- `coalesce(heartbeat_at, updated_at)`. -/
def lastSeen (row : QueueRow) : Timestamp := row.job.heartbeatAt.getD row.updatedAt

/-- The condition of `claim_stale_running_jobs`, but for the excluded jobs. -/
def stale (row : QueueRow) (staleBefore : Timestamp) : Bool :=
  row.job.status == .running && decide (row.lastSeen < staleBefore)

/-- What `claim_due_jobs` commits to a row; a new claim begins a new history. -/
def claimedBy (row : QueueRow) (worker : WorkerId) (now clock : Timestamp) : QueueRow where
  job := JobRepository.claim row.job worker now
  updatedAt := clock

/-- What `heartbeat` commits to a row. -/
def beat (row : QueueRow) (now clock : Timestamp) : QueueRow :=
  { row with job := { row.job with heartbeatAt := some now }, updatedAt := clock }

/-- What `_interrupt` commits for a reaper. -/
def interrupted (row : QueueRow) (clock : Timestamp) : QueueRow :=
  let d := interrupt "The worker executing this job stopped responding." clock
    { job := row.job, world := { activeName := "" } }
  { job := d.job, updatedAt := clock, reaped := ⟨row.job, d.records⟩ :: row.reaped }

end QueueRow

/-! ## Transactions under way

The rows that a transaction has locked are part of its phase. -/

inductive ReapPhase
  | idle
  /-- `stale_before` and `exclude_ids` are computed. -/
  | began (staleBefore : Timestamp) (excluded : List Nat)
  /-- The statement has read the table; it has still to try the jobs of `rest`. -/
  | scanning (staleBefore : Timestamp) (excluded rest : List Nat)
  /-- The row is locked; `_interrupt` has not committed. -/
  | holding (job : Nat)
  deriving DecidableEq

def ReapPhase.held : ReapPhase → List Nat
  | holding j => [j]
  | _ => []

inductive ClaimPhase
  | idle
  /-- `now` is computed, the rows of `held` are locked. -/
  | locking (now : Timestamp) (slots : Nat) (held : List Nat)
  deriving DecidableEq

def ClaimPhase.held : ClaimPhase → List Nat
  | locking _ _ held => held
  | idle => []

inductive BeatPhase
  | idle
  /-- `now` is computed. -/
  | began (worker : WorkerId) (job : Nat) (now : Timestamp)
  /-- The row is updated and locked. -/
  | holding (job : Nat) (now : Timestamp)
  deriving DecidableEq

def BeatPhase.held : BeatPhase → List Nat
  | holding j _ => [j]
  | _ => []

/-- Whose transaction a row lock belongs to. -/
inductive Holder
  | reaper (worker : WorkerId)
  | claimer (worker : WorkerId)
  /-- A heartbeat loop, by a number. -/
  | beat (loop : Nat)
  deriving DecidableEq

structure QueueState where
  clock : Timestamp
  rows : List QueueRow
  lockedBy : Nat → Option Holder := fun _ => none
  reaper : WorkerId → ReapPhase := fun _ => .idle
  claimer : WorkerId → ClaimPhase := fun _ => .idle
  beat : Nat → BeatPhase := fun _ => .idle

inductive QueueAction
  | tick (seconds : Nat)
  | submit (job : ProvisioningJob)
  /-- Any other transaction: a retry, a cancellation, a commit of the pipeline or of a
  shutdown. -/
  | other (job : Nat) (row : ProvisioningJob)
  | claimBegin (worker : WorkerId) (slots : Nat)
  | claimLock (worker : WorkerId) (job : Nat)
  | claimCommit (worker : WorkerId)
  | beatBegin (loop : Nat) (worker : WorkerId) (job : Nat)
  | beatUpdate (loop : Nat)
  | beatCommit (loop : Nat)
  | reapBegin (worker : WorkerId) (excluded : List Nat)
  | reapRead (worker : WorkerId) (order : List Nat)
  | reapNext (worker : WorkerId)
  | reapCommit (worker : WorkerId)
  /-- The transaction is rolled back. -/
  | abort (holder : Holder)

namespace QueueState

def held (s : QueueState) : Holder → List Nat
  | .reaper w => (s.reaper w).held
  | .claimer w => (s.claimer w).held
  | .beat t => (s.beat t).held

def modify (s : QueueState) (j : Nat) (f : QueueRow → QueueRow) : QueueState :=
  { s with rows := s.rows.modify j f }

/-- Every lock of the transaction is released. -/
def unlock (s : QueueState) (h : Holder) : QueueState :=
  { s with lockedBy := fun j => if s.lockedBy j = some h then none else s.lockedBy j }

def lock (s : QueueState) (j : Nat) (h : Holder) : QueueState :=
  { s with lockedBy := Function.update s.lockedBy j (some h) }

def setReaper (s : QueueState) (w : WorkerId) (p : ReapPhase) : QueueState :=
  { s with reaper := Function.update s.reaper w p }

def setClaimer (s : QueueState) (w : WorkerId) (p : ClaimPhase) : QueueState :=
  { s with claimer := Function.update s.claimer w p }

def setBeat (s : QueueState) (t : Nat) (p : BeatPhase) : QueueState :=
  { s with beat := Function.update s.beat t p }

/-! ## Other transactions -/

/-- What no other transaction does: make a job `RUNNING`, touch the claim of a job that is,
or put a job anywhere but at the end of the queue. -/
def admissible (clock : Timestamp) (old new : ProvisioningJob) : Bool :=
  if new.status == old.status then
    new.workerId == old.workerId && new.heartbeatAt == old.heartbeatAt &&
      new.queuedAt == old.queuedAt
  else new.status != .running && (new.queuedAt == old.queuedAt || new.queuedAt == clock) &&
    (new.status != .queued || new.queuedAt == clock)

def other (s : QueueState) (j : Nat) (job : ProvisioningJob) : Option QueueState :=
  match s.rows[j]? with
  | some row =>
    if s.lockedBy j = none ∧ admissible s.clock row.job job = true then
      some (s.modify j fun row => { row with job, updatedAt := s.clock })
    else none
  | none => none

/-! ## `claim_due_jobs` -/

def claimBegin (s : QueueState) (w : WorkerId) (slots : Nat) : Option QueueState :=
  if s.claimer w = .idle ∧ 0 < slots then some (s.setClaimer w (.locking s.clock slots []))
  else none

/-- The order of the queue decides which due jobs are claimed first; here any is. -/
def claimLock (s : QueueState) (w : WorkerId) (j : Nat) : Option QueueState :=
  match s.claimer w, s.rows[j]? with
  | .locking now slots held, some row =>
    if held.length < slots ∧ s.lockedBy j = none ∧ JobRepository.due row.job now = true then
      some ((s.lock j (.claimer w)).setClaimer w (.locking now slots (j :: held)))
    else none
  | _, _ => none

def claimRows (s : QueueState) (w : WorkerId) (now : Timestamp) (held : List Nat) : QueueState :=
  { s with rows := s.rows.mapIdx fun j row =>
      if j ∈ held then row.claimedBy w now s.clock else row }

def claimCommit (s : QueueState) (w : WorkerId) : Option QueueState :=
  match s.claimer w with
  | .locking now _ held =>
    some (((s.claimRows w now held).unlock (.claimer w)).setClaimer w .idle)
  | .idle => none

/-! ## `heartbeat` -/

def beatBegin (s : QueueState) (t : Nat) (w : WorkerId) (j : Nat) : Option QueueState :=
  if s.beat t = .idle then some (s.setBeat t (.began w j s.clock)) else none

/-- The `UPDATE`, once the row is free. -/
def beatUpdate (s : QueueState) (t : Nat) : Option QueueState :=
  match s.beat t with
  | .began w j now =>
    if s.lockedBy j = none then
      match s.rows[j]? with
      | some row =>
        if row.job.workerId = some w ∧ row.job.status = .running then
          some ((s.lock j (.beat t)).setBeat t (.holding j now))
        else some (s.setBeat t .idle)
      | none => some (s.setBeat t .idle)
    else none
  | _ => none

def beatCommit (s : QueueState) (t : Nat) : Option QueueState :=
  match s.beat t with
  | .holding j now =>
    some (((s.modify j (·.beat now s.clock)).unlock (.beat t)).setBeat t .idle)
  | _ => none

/-! ## `reap_stale_jobs` -/

/-- The row is what the statement looks for. -/
def reapable (s : QueueState) (staleBefore : Timestamp) (excluded : List Nat) (j : Nat) : Bool :=
  (s.rows[j]?.any (·.stale staleBefore)) && j ∉ excluded

def queuedAt (s : QueueState) (j : Nat) : Timestamp := (s.rows[j]?.map (·.job.queuedAt)).getD 0

/-- `order` lists what the statement looks for, by `queued_at`. -/
def reads (s : QueueState) (staleBefore : Timestamp) (excluded order : List Nat) : Bool :=
  (List.range s.rows.length).all (fun j => s.reapable staleBefore excluded j == order.contains j) &&
    order.all (fun j => decide (j < s.rows.length)) &&
      decide (order.Pairwise fun j k => s.queuedAt j ≤ s.queuedAt k)

/-- `stale_before` is computed before the session opens. -/
def reapBegin (timeout : Int) (s : QueueState) (w : WorkerId) (excluded : List Nat) :
    Option QueueState :=
  if s.reaper w = .idle then some (s.setReaper w (.began (s.clock - timeout) excluded)) else none

def reapRead (s : QueueState) (w : WorkerId) (order : List Nat) : Option QueueState :=
  match s.reaper w with
  | .began staleBefore excluded =>
    if s.reads staleBefore excluded order then
      some (s.setReaper w (.scanning staleBefore excluded order))
    else none
  | _ => none

/-- `LIMIT 1`: the first row that can be locked and still is what the statement looks for.
Without one, the transaction ends. -/
def reapNext (s : QueueState) (w : WorkerId) : Option QueueState :=
  match s.reaper w with
  | .scanning staleBefore excluded (j :: rest) =>
    if s.lockedBy j = none ∧ s.reapable staleBefore excluded j = true then
      some ((s.lock j (.reaper w)).setReaper w (.holding j))
    else some (s.setReaper w (.scanning staleBefore excluded rest))
  | .scanning _ _ [] => some (s.setReaper w .idle)
  | _ => none

def reapCommit (s : QueueState) (w : WorkerId) : Option QueueState :=
  match s.reaper w with
  | .holding j =>
    some (((s.modify j (·.interrupted s.clock)).unlock (.reaper w)).setReaper w .idle)
  | _ => none

/-! ## The machine -/

def abort (s : QueueState) : Holder → QueueState
  | .reaper w => (s.unlock (.reaper w)).setReaper w .idle
  | .claimer w => (s.unlock (.claimer w)).setClaimer w .idle
  | .beat t => (s.unlock (.beat t)).setBeat t .idle

def step (timeout : Int) (s : QueueState) : QueueAction → Option QueueState
  | .tick seconds => some { s with clock := s.clock + seconds }
  | .submit job =>
    if job.status = .queued ∧ job.queuedAt = s.clock then
      some { s with rows := s.rows ++ [{ job, updatedAt := s.clock }] }
    else none
  | .other j job => s.other j job
  | .claimBegin w slots => s.claimBegin w slots
  | .claimLock w j => s.claimLock w j
  | .claimCommit w => s.claimCommit w
  | .beatBegin t w j => s.beatBegin t w j
  | .beatUpdate t => s.beatUpdate t
  | .beatCommit t => s.beatCommit t
  | .reapBegin w excluded => s.reapBegin timeout w excluded
  | .reapRead w order => s.reapRead w order
  | .reapNext w => s.reapNext w
  | .reapCommit w => s.reapCommit w
  | .abort h => some (s.abort h)

/-- Any table, with no transaction under way and no history. -/
structure Fresh (s : QueueState) : Prop where
  reaped : ∀ row ∈ s.rows, row.reaped = []
  lockedBy : ∀ j, s.lockedBy j = none
  reaper : ∀ w, s.reaper w = .idle
  claimer : ∀ w, s.claimer w = .idle
  beat : ∀ t, s.beat t = .idle

end QueueState

/-- `timeout`: `heartbeat_timeout`, in seconds. -/
def queue (timeout : Int) : Machine QueueState QueueAction where
  init := QueueState.Fresh
  step := QueueState.step timeout

end InfraOps
