import InfraOps.Queue.Machine

/-!
# The worker's task table

`JobEngine._tasks` of one worker: the loop of `run_forever` reaps, claims, spawns and at last
drains, while the tasks it has spawned go on between any two of its awaits. An entry is keyed
by the job and removed by the callback of whichever task of that job ends, so a job that is
spawned again before its earlier task has ended loses its entry to that task.

What the rest of the system does to a row of the queue is left open.
-/

namespace InfraOps

/-! ## The table -/

/-- `dict[uuid.UUID, asyncio.Task]`: jobs and tasks, by their numbers. -/
abbrev TaskTable := List (Nat × Nat)

namespace TaskTable

def jobs (t : TaskTable) : List Nat := t.map Prod.fst

/-- `_tasks[job] = task`. -/
def put (t : TaskTable) (job task : Nat) : TaskTable :=
  if job ∈ t.jobs then t.map fun e => if e.1 = job then (job, task) else e else t ++ [(job, task)]

/-- `_tasks.pop(job, None)`. -/
def pop (t : TaskTable) (job : Nat) : TaskTable := t.filter fun e => e.1 ≠ job

end TaskTable

/-! ## One worker -/

/-- Where a task of `_process_job` stands. -/
inductive TaskPhase
  | created
  /-- The job was RUNNING under this worker; the context is being built. -/
  | starting
  /-- `pipeline.execute` is under way. -/
  | executing
  /-- The last awaits: the heartbeat loop, the session, an interruption. -/
  | ending
  /-- The task has ended; its callback has not run. -/
  | done
  deriving DecidableEq

structure Task where
  id : Nat
  job : Nat
  phase : TaskPhase := .created
  deriving DecidableEq

/-- Where `run_forever` stands. -/
inductive LoopPhase
  | waiting
  /-- `exclude_ids` is computed. -/
  | reaping (excluded : List Nat)
  /-- `slots` is computed. -/
  | claiming (slots : Nat)
  /-- The jobs claimed that are still to be spawned. -/
  | spawning (jobs : List Nat)
  /-- `drain` waits for these tasks. -/
  | draining (waited : List Nat)
  | drained
  deriving DecidableEq

structure EngineState where
  rows : List QueueRow
  tasks : TaskTable := []
  /-- The tasks whose callback has not run. -/
  live : List Task := []
  next : Nat := 0
  loop : LoopPhase := .waiting
  stopping : Bool := false
  /-- History: the reaper has interrupted a job whose pipeline this worker was executing. -/
  reapedOwn : Bool := false

inductive TaskTurn
  | start
  | began
  /-- The start fails, or the task is cancelled before the pipeline. -/
  | stops
  /-- The pipeline has ended; its last commit precedes this. -/
  | pipelineEnds
  | ends

inductive EngineEvent
  | stop
  | reapBegin
  | reap (job : Nat) (now : Timestamp)
  | reapEnd
  | claimBegin
  /-- The claim commits; unless it is `returned`, the session raises afterwards. -/
  | claim (jobs : List Nat) (now : Timestamp) (returned : Bool)
  | claimFails
  | spawn
  | turn (task : Nat) (turn : TaskTurn)
  | callback (task : Nat)
  /-- A commit of the task. -/
  | commit (task : Nat) (row : QueueRow)
  | retry (job : Nat) (now : Timestamp)
  /-- Any other transaction, of a user or of another worker. -/
  | other (job : Nat) (row : QueueRow)
  | drainBegin
  | drainEnd

namespace EngineState

variable (concurrency : Nat) (worker : WorkerId) (timeout : Int) (s : EngineState)

/-- `free_slots`. -/
def freeSlots : Nat := concurrency - s.tasks.length

def find (i : Nat) : Option Task := s.live.find? fun t => t.id = i

def setPhase (i : Nat) (phase : TaskPhase) : EngineState :=
  { s with live := s.live.map fun t => if t.id = i then { t with phase } else t }

/-- The row is RUNNING under this worker. -/
def owns (job : Nat) : Bool :=
  s.rows[job]?.any fun row => row.job.status == .running && row.job.workerId == some worker

def claimRows (jobs : List Nat) (now : Timestamp) : List QueueRow :=
  s.rows.mapIdx fun j row => if j ∈ jobs then row.claimedBy worker now now else row

/-- The jobs are due, distinct, and no more than there are slots. -/
def claimable (jobs : List Nat) (slots : Nat) (now : Timestamp) : Bool :=
  decide jobs.Nodup && decide (jobs.length ≤ slots) &&
    jobs.all fun j => s.rows[j]?.any fun row => JobRepository.due row.job now

/-- `_spawn`. -/
def spawn (job : Nat) : EngineState :=
  { s with
    tasks := s.tasks.put job s.next
    live := s.live ++ [{ id := s.next, job }]
    next := s.next + 1 }

/-- `_execute_job`, and what `_process_job` does when it is cancelled. -/
def turn (t : Task) : TaskTurn → Option EngineState
  | .start =>
    if t.phase = .created then
      some (s.setPhase t.id (if s.owns worker t.job then .starting else .done))
    else none
  | .began => if t.phase = .starting then some (s.setPhase t.id .executing) else none
  | .stops =>
    if t.phase = .created then some (s.setPhase t.id .done)
    else if t.phase = .starting then some (s.setPhase t.id .ending)
    else none
  | .pipelineEnds => if t.phase = .executing then some (s.setPhase t.id .ending) else none
  | .ends => if t.phase = .ending then some (s.setPhase t.id .done) else none

/-- `_done`. -/
def callback (t : Task) : Option EngineState :=
  if t.phase = .done then
    some { s with tasks := s.tasks.pop t.job, live := s.live.filter fun t' => t'.id ≠ t.id }
  else none

/-- The pipeline of `job` is being executed. -/
def executes (job : Nat) : Bool := s.live.any fun t => t.job = job ∧ t.phase = .executing

/-- `reap_stale_jobs`, from its statement to the commit of one interruption; the row is
locked in between. -/
def reap (excluded : List Nat) (job : Nat) (row : QueueRow) (now : Timestamp) :
    Option EngineState :=
  if row.stale (now - timeout) = true ∧ job ∉ excluded then
    some { s with
      rows := s.rows.set job (row.interrupted now)
      loop := .waiting
      reapedOwn := s.reapedOwn || s.executes job }
  else none

/-- `retry_stages`, on a job that may be retried. -/
def retry (job : Nat) (now : Timestamp) : Option EngineState :=
  s.rows[job]?.bind fun row =>
    if row.job.status.retriable then
      let reset := (JobRepository.resetForRetry row.job none now).1
      some { s with rows := s.rows.set job { row with job := reset, updatedAt := now } }
    else none

def step : EngineEvent → Option EngineState
  | .stop => some { s with stopping := true }
  | .reapBegin => if s.loop = .waiting then some { s with loop := .reaping s.tasks.jobs } else none
  | .reap job now =>
    match s.loop, s.rows[job]? with
    | .reaping excluded, some row => s.reap timeout excluded job row now
    | _, _ => none
  | .reapEnd =>
    match s.loop with
    | .reaping _ => some { s with loop := .waiting }
    | _ => none
  | .claimBegin =>
    if s.loop = .waiting ∧ 0 < s.freeSlots concurrency then
      some { s with loop := .claiming (s.freeSlots concurrency) }
    else none
  | .claim jobs now returned =>
    match s.loop with
    | .claiming slots =>
      if s.claimable jobs slots now then
        some { s with
          rows := s.claimRows worker jobs now
          loop := if returned then .spawning jobs else .waiting }
      else none
    | _ => none
  | .claimFails =>
    match s.loop with
    | .claiming _ => some { s with loop := .waiting }
    | _ => none
  | .spawn =>
    match s.loop with
    | .spawning (job :: jobs) => some { s.spawn job with loop := .spawning jobs }
    | .spawning [] => some { s with loop := .waiting }
    | _ => none
  | .turn i turn => (s.find i).bind fun t => s.turn worker t turn
  | .callback i => (s.find i).bind s.callback
  | .commit i row =>
    (s.find i).bind fun t =>
      if t.phase = .done then none else some { s with rows := s.rows.set t.job row }
  | .retry job now => s.retry job now
  | .other job row => some { s with rows := s.rows.set job row }
  | .drainBegin =>
    if s.loop = .waiting ∧ s.stopping = true then
      some { s with loop := .draining (s.tasks.map Prod.snd) }
    else none
  | .drainEnd =>
    match s.loop with
    | .draining waited =>
      if ∀ t ∈ s.live, t.id ∈ waited → t.phase = .done then some { s with loop := .drained }
      else none
    | _ => none

/-- A worker that has just started. -/
structure Started (s : EngineState) : Prop where
  tasks : s.tasks = []
  live : s.live = []
  loop : s.loop = .waiting
  reapedOwn : s.reapedOwn = false

end EngineState

/-- One worker; `concurrency` is `max(1, worker_concurrency)`. -/
def engine (concurrency : Nat) (worker : WorkerId) (timeout : Int) :
    Machine EngineState EngineEvent where
  init := EngineState.Started
  step := EngineState.step concurrency worker timeout

/-! ## What the table is for -/

/-- Every job whose pipeline this worker executes has an entry; no more pipelines run than
`concurrency`, none after the drain, and the worker's reaper has interrupted none. -/
structure TableExact (concurrency : Nat) (s : EngineState) : Prop where
  entry : ∀ t ∈ s.live, t.phase = .executing → t.job ∈ s.tasks.jobs
  bounded : (s.live.filter fun t => t.phase = .executing).length ≤ concurrency
  drained : s.loop = .drained → ∀ t ∈ s.live, t.phase ≠ .executing
  reaped : s.reapedOwn = false

/-- A job is spawned when no earlier task for it has an entry any more. -/
def spawnsFresh (s : EngineState) (e : EngineEvent) : Bool :=
  match e, s.loop with
  | .spawn, .spawning (job :: _) => job ∉ s.tasks.jobs
  | _, _ => true

/-! ## The invariant -/

/-- What the loop may still add to the table. -/
def LoopPhase.pending : LoopPhase → Nat
  | claiming slots => slots
  | spawning jobs => jobs.length
  | _ => 0

/-- The table lists the tasks whose callback has not run, one for a job, and leaves room for
what the loop has claimed; what the reaper excludes and what the drain waits for is all of
them. -/
structure EngineState.Inv (concurrency : Nat) (s : EngineState) : Prop where
  table : s.tasks = s.live.map fun t => (t.job, t.id)
  jobs : (s.live.map Task.job).Nodup
  ids : (s.live.map Task.id).Nodup
  fresh : ∀ t ∈ s.live, t.id < s.next
  room : s.live.length + s.loop.pending ≤ concurrency
  reaping : ∀ excluded, s.loop = .reaping excluded → ∀ t ∈ s.live, t.job ∈ excluded
  draining : ∀ waited, s.loop = .draining waited → ∀ t ∈ s.live, t.id ∈ waited
  drained : s.loop = .drained → ∀ t ∈ s.live, t.phase = .done
  reaped : s.reapedOwn = false

namespace EngineState.Inv

variable {concurrency : Nat} {s s' : EngineState}

theorem tasks_jobs (h : s.Inv concurrency) : s.tasks.jobs = s.live.map Task.job := by
  rw [TaskTable.jobs, h.table, List.map_map]
  rfl

theorem init (h : s.Started) : s.Inv concurrency where
  table := by simp [h.tasks, h.live]
  jobs := by simp [h.live]
  ids := by simp [h.live]
  fresh := by simp [h.live]
  room := by simp [h.live, h.loop, LoopPhase.pending]
  reaping := by simp [h.live]
  draining := by simp [h.live]
  drained := by simp [h.live]
  reaped := h.reapedOwn

/-- The rows do not matter to the table. -/
theorem rows (h : s.Inv concurrency) (rows : List QueueRow) :
    Inv concurrency { s with rows := rows } :=
  ⟨h.table, h.jobs, h.ids, h.fresh, h.room, h.reaping, h.draining, h.drained, h.reaped⟩

theorem stop (h : s.Inv concurrency) : Inv concurrency { s with stopping := true } :=
  ⟨h.table, h.jobs, h.ids, h.fresh, h.room, h.reaping, h.draining, h.drained, h.reaped⟩

/-- The loop goes back to waiting. -/
theorem waits (h : s.Inv concurrency) : Inv concurrency { s with loop := .waiting } where
  table := h.table
  jobs := h.jobs
  ids := h.ids
  fresh := h.fresh
  room := (Nat.le_add_right _ _).trans h.room
  reaping := by simp
  draining := by simp
  drained := by simp
  reaped := h.reaped

theorem reapBegins (h : s.Inv concurrency) :
    Inv concurrency { s with loop := .reaping s.tasks.jobs } where
  table := h.table
  jobs := h.jobs
  ids := h.ids
  fresh := h.fresh
  room := (Nat.le_add_right _ _).trans h.room
  reaping excluded hexcluded t ht := by
    obtain rfl : s.tasks.jobs = excluded := by simpa using hexcluded
    rw [h.tasks_jobs]
    exact List.mem_map_of_mem ht
  draining := by simp
  drained := by simp
  reaped := h.reaped

/-- What the reaper interrupts, no task of this worker works on. -/
theorem reaps {excluded : List Nat} {job : Nat} {rows : List QueueRow} (h : s.Inv concurrency)
    (hloop : s.loop = .reaping excluded) (hjob : job ∉ excluded) :
    Inv concurrency { s with
      rows := rows, loop := .waiting, reapedOwn := s.reapedOwn || s.executes job } := by
  have hnone : s.executes job = false := by
    rw [EngineState.executes, List.any_eq_false]
    intro t ht htj
    have htj : t.job = job := by simp at htj; exact htj.1
    exact hjob (htj ▸ h.reaping excluded hloop t ht)
  have hwaits := h.waits
  exact ⟨h.table, h.jobs, h.ids, h.fresh, hwaits.room, by simp, by simp, by simp,
    by simp [hnone, h.reaped]⟩

theorem claimBegins (h : s.Inv concurrency) :
    Inv concurrency { s with loop := .claiming (s.freeSlots concurrency) } where
  table := h.table
  jobs := h.jobs
  ids := h.ids
  fresh := h.fresh
  room := by
    have hroom := h.room
    simp only [LoopPhase.pending, EngineState.freeSlots, h.table, List.length_map]
    omega
  reaping := by simp
  draining := by simp
  drained := by simp
  reaped := h.reaped

theorem claims {slots : Nat} {jobs : List Nat} {rows : List QueueRow} (h : s.Inv concurrency)
    (hloop : s.loop = .claiming slots) (hjobs : jobs.length ≤ slots) :
    Inv concurrency { s with rows := rows, loop := .spawning jobs } where
  table := h.table
  jobs := h.jobs
  ids := h.ids
  fresh := h.fresh
  room := by
    have hroom := h.room
    rw [hloop] at hroom
    exact (Nat.add_le_add_left hjobs _).trans hroom
  reaping := by simp
  draining := by simp
  drained := by simp
  reaped := h.reaped

/-- A job without an entry is spawned. -/
theorem spawns {job : Nat} {jobs : List Nat} (h : s.Inv concurrency)
    (hloop : s.loop = .spawning (job :: jobs)) (hnew : job ∉ s.tasks.jobs) :
    Inv concurrency { s.spawn job with loop := .spawning jobs } where
  table := by
    have hput : s.tasks.put job s.next = s.tasks ++ [(job, s.next)] := if_neg hnew
    rw [EngineState.spawn, hput, h.table, List.map_append]
    rfl
  jobs := by
    rw [h.tasks_jobs] at hnew
    simpa [EngineState.spawn] using List.Nodup.concat hnew h.jobs
  ids := by
    have hid : s.next ∉ s.live.map Task.id := by
      intro hmem
      obtain ⟨t, ht, hid⟩ := List.mem_map.mp hmem
      have := h.fresh t ht
      omega
    simpa [EngineState.spawn] using List.Nodup.concat hid h.ids
  fresh t ht := by
    rcases List.mem_append.mp ht with ht | ht
    · exact Nat.lt_succ_of_lt (h.fresh t ht)
    · rw [List.mem_singleton.mp ht]
      exact Nat.lt_succ_self _
  room := by
    have hroom := h.room
    simp only [hloop, LoopPhase.pending, EngineState.spawn, List.length_append,
      List.length_cons, List.length_nil] at hroom ⊢
    omega
  reaping := by simp
  draining := by simp
  drained := by simp
  reaped := h.reaped

/-! ## Tasks -/

theorem map_setPhase {α : Type} (s : EngineState) (i : Nat) (phase : TaskPhase) (f : Task → α)
    (hf : ∀ t : Task, f { t with phase } = f t) :
    (s.setPhase i phase).live.map f = s.live.map f := by
  rw [EngineState.setPhase, List.map_map]
  refine List.map_congr_left fun t _ => ?_
  rw [Function.comp_apply]
  split
  · exact hf t
  · rfl

theorem mem_setPhase {i : Nat} {phase : TaskPhase} {t : Task}
    (ht : t ∈ (s.setPhase i phase).live) : ∃ t' ∈ s.live, t'.id = t.id ∧ t'.job = t.job := by
  obtain ⟨t', ht', rfl⟩ := List.mem_map.mp ht
  refine ⟨t', ht', ?_⟩
  by_cases hi : t'.id = i <;> simp [hi]

/-- A task goes on to another phase, before the drain is over. -/
theorem setPhase (h : s.Inv concurrency) (hloop : s.loop ≠ .drained) (i : Nat)
    (phase : TaskPhase) : (s.setPhase i phase).Inv concurrency where
  table := by rw [map_setPhase s i phase _ fun _ => rfl]; exact h.table
  jobs := by rw [map_setPhase s i phase _ fun _ => rfl]; exact h.jobs
  ids := by rw [map_setPhase s i phase _ fun _ => rfl]; exact h.ids
  fresh t ht := by
    obtain ⟨t', ht', hid, -⟩ := mem_setPhase ht
    exact hid ▸ h.fresh t' ht'
  room := by
    have hlength : (s.setPhase i phase).live.length = s.live.length := by
      simp [EngineState.setPhase]
    rw [hlength]
    exact h.room
  reaping excluded hexcluded t ht := by
    obtain ⟨t', ht', -, hjob⟩ := mem_setPhase ht
    exact hjob ▸ h.reaping excluded hexcluded t' ht'
  draining waited hwaited t ht := by
    obtain ⟨t', ht', hid, -⟩ := mem_setPhase ht
    exact hid ▸ h.draining waited hwaited t' ht'
  drained hdrained := absurd hdrained hloop
  reaped := h.reaped

/-- After the drain every task is done, so none goes on. -/
theorem turn {worker : WorkerId} {t : Task} {turn : TaskTurn} (h : s.Inv concurrency)
    (ht : t ∈ s.live) (hturn : s.turn worker t turn = some s') : s'.Inv concurrency := by
  have hloop : t.phase ≠ .done → s.loop ≠ .drained := fun hphase hdrained =>
    hphase (h.drained hdrained t ht)
  cases turn <;> simp only [EngineState.turn] at hturn
  case start =>
    split at hturn
    · cases hturn
      exact h.setPhase (hloop (by simp [*])) _ _
    · cases hturn
  case began =>
    split at hturn
    · cases hturn
      exact h.setPhase (hloop (by simp [*])) _ _
    · cases hturn
  case stops =>
    split at hturn
    · cases hturn
      exact h.setPhase (hloop (by simp [*])) _ _
    · split at hturn
      · cases hturn
        exact h.setPhase (hloop (by simp [*])) _ _
      · cases hturn
  case pipelineEnds =>
    split at hturn
    · cases hturn
      exact h.setPhase (hloop (by simp [*])) _ _
    · cases hturn
  case ends =>
    split at hturn
    · cases hturn
      exact h.setPhase (hloop (by simp [*])) _ _
    · cases hturn

/-- **The callback removes the entry of its own task**, for a job has one task only. -/
theorem callback {t : Task} (h : s.Inv concurrency) (ht : t ∈ s.live)
    (hdone : s.callback t = some s') : s'.Inv concurrency := by
  unfold EngineState.callback at hdone
  split at hdone
  · cases hdone
    have hsub : (s.live.filter fun t' => t'.id ≠ t.id).Sublist s.live := List.filter_sublist
    constructor
    case table =>
      have hsame : ∀ t' ∈ s.live, (t'.job = t.job ↔ t'.id = t.id) := fun t' ht' =>
        ⟨fun hjob => congrArg Task.id (List.inj_on_of_nodup_map h.jobs ht' ht hjob),
          fun hid => congrArg Task.job (List.inj_on_of_nodup_map h.ids ht' ht hid)⟩
      rw [TaskTable.pop, h.table, List.filter_map]
      refine congrArg _ (List.filter_congr fun t' ht' => ?_)
      simpa using hsame t' ht'
    case jobs => exact (hsub.map _).nodup h.jobs
    case ids => exact (hsub.map _).nodup h.ids
    case fresh => exact fun t' ht' => h.fresh t' (hsub.mem ht')
    case room => exact (Nat.add_le_add_right hsub.length_le _).trans h.room
    case reaping => exact fun _ hloop t' ht' => h.reaping _ hloop t' (hsub.mem ht')
    case draining => exact fun _ hloop t' ht' => h.draining _ hloop t' (hsub.mem ht')
    case drained => exact fun hloop t' ht' => h.drained hloop t' (hsub.mem ht')
    case reaped => exact h.reaped
  · cases hdone

/-! ## Runs -/

theorem drainBegins (h : s.Inv concurrency) :
    Inv concurrency { s with loop := .draining (s.tasks.map Prod.snd) } where
  table := h.table
  jobs := h.jobs
  ids := h.ids
  fresh := h.fresh
  room := (Nat.le_add_right _ _).trans h.room
  reaping := by simp
  draining waited hwaited t ht := by
    obtain rfl : s.tasks.map Prod.snd = waited := by simpa using hwaited
    rw [h.table, List.map_map]
    exact List.mem_map_of_mem (f := Task.id) ht
  drained := by simp
  reaped := h.reaped

/-- The drain ends when all it waits for is done, which is every task. -/
theorem drainEnds {waited : List Nat} (h : s.Inv concurrency) (hloop : s.loop = .draining waited)
    (hdone : ∀ t ∈ s.live, t.id ∈ waited → t.phase = .done) :
    Inv concurrency { s with loop := .drained } where
  table := h.table
  jobs := h.jobs
  ids := h.ids
  fresh := h.fresh
  room := (Nat.le_add_right _ _).trans h.room
  reaping := by simp
  draining := by simp
  drained _ t ht := hdone t ht (h.draining waited hloop t ht)
  reaped := h.reaped

/-- **One step**, if a job is only spawned without an entry. -/
theorem step {worker : WorkerId} {timeout : Int} {e : EngineEvent} (h : s.Inv concurrency)
    (hfresh : spawnsFresh s e = true) (he : s.step concurrency worker timeout e = some s') :
    s'.Inv concurrency := by
  cases e <;> simp only [EngineState.step] at he
  case stop =>
    cases he
    exact h.stop
  case reapBegin =>
    split at he
    · cases he
      exact h.reapBegins
    · cases he
  case reap job now =>
    split at he
    · rename_i hloop _
      unfold EngineState.reap at he
      split at he
      · rename_i hreap
        cases he
        exact h.reaps hloop hreap.2
      · cases he
    · cases he
  case reapEnd =>
    split at he
    · cases he
      exact h.waits
    · cases he
  case claimBegin =>
    split at he
    · cases he
      exact h.claimBegins
    · cases he
  case claim jobs now returned =>
    split at he
    · rename_i hloop
      split at he
      · rename_i hclaim
        cases he
        simp only [EngineState.claimable, Bool.and_eq_true, decide_eq_true_eq] at hclaim
        cases returned with
        | true => exact h.claims hloop hclaim.1.2
        | false => exact h.waits.rows _
      · cases he
    · cases he
  case claimFails =>
    split at he
    · cases he
      exact h.waits
    · cases he
  case spawn =>
    split at he
    · rename_i hloop
      cases he
      simp only [spawnsFresh, hloop, decide_eq_true_eq] at hfresh
      exact h.spawns hloop hfresh
    · cases he
      exact h.waits
    · cases he
  case turn i turn =>
    obtain ⟨t, ht, he⟩ := Option.bind_eq_some_iff.mp he
    exact h.turn (List.mem_of_find?_eq_some ht) he
  case callback i =>
    obtain ⟨t, ht, he⟩ := Option.bind_eq_some_iff.mp he
    exact h.callback (List.mem_of_find?_eq_some ht) he
  case commit i row =>
    obtain ⟨t, -, he⟩ := Option.bind_eq_some_iff.mp he
    split at he
    · cases he
    · cases he
      exact h.rows _
  case retry job now =>
    obtain ⟨row, -, he⟩ := Option.bind_eq_some_iff.mp he
    split at he
    · cases he
      exact h.rows _
    · cases he
  case other job row =>
    cases he
    exact h.rows _
  case drainBegin =>
    split at he
    · cases he
      exact h.drainBegins
    · cases he
  case drainEnd =>
    split at he
    · rename_i hloop
      split at he
      · rename_i hdone
        cases he
        exact h.drainEnds hloop hdone
      · cases he
    · cases he

theorem exact (h : s.Inv concurrency) : TableExact concurrency s where
  entry t ht _ := by
    rw [h.tasks_jobs]
    exact List.mem_map_of_mem ht
  bounded := by
    have hfilter := (List.filter_sublist
      (p := fun t : Task => t.phase = .executing) (l := s.live)).length_le
    have hroom := h.room
    omega
  drained hdrained t ht := by simp [h.drained hdrained t ht]
  reaped := h.reaped

end EngineState.Inv

/-- **The task table is exact in every run that spawns no job over an entry of its own.** -/
theorem tableExact (concurrency : Nat) (worker : WorkerId) (timeout : Int) (s : EngineState)
    (hs : (engine concurrency worker timeout).ReachableUnder
      (fun s e => spawnsFresh s e = true) s) : TableExact concurrency s :=
  (hs.invariant (fun _ h => EngineState.Inv.init h)
    fun _ _ _ _ h hfresh he => h.step hfresh he).exact

/-! ## A job claimed again -/

def waitingEngine : EngineState where
  rows := [{ job := { id := "j1", vmName := "web01", queuedAt := 0 }, updatedAt := 0 }]

theorem waitingEngine_started : waitingEngine.Started := ⟨rfl, rfl, rfl, rfl⟩

/-- The worker claims the job and begins to execute its pipeline. -/
def executesFirst : List EngineEvent :=
  [.claimBegin, .claim [0] 1 true, .spawn, .spawn, .turn 0 .start, .turn 0 .began]

theorem tableExact_executing : ∃ s, (∃ t ∈ s.live, t.phase = .executing) ∧ TableExact 2 s := by
  obtain ⟨s, hs, hexec⟩ := Machine.exists_reachableUnder_of_run (m := engine 2 1 120)
    (c := spawnsFresh) (t := executesFirst)
    (p := fun s => s.live.any fun t => t.phase = .executing) waitingEngine_started (by decide)
  exact ⟨s, by simpa using hexec, tableExact 2 1 120 s hs⟩

/-- The stage failed, and the job with it. -/
def failedRow : QueueRow where
  job :=
    { id := "j1", vmName := "web01", queuedAt := 0, status := .failed
      steps := fun k => some {
        status := if k = .validateRequest then .failed else .cancelled, retryable := true } }
  updatedAt := 2

/-- The job fails and is retried while its task is still to end; the worker claims it again,
and the first task takes the entry of the second with it. -/
def retriedEarly : List EngineEvent :=
  executesFirst ++ [.commit 0 failedRow, .turn 0 .pipelineEnds, .retry 0 3,
    .claimBegin, .claim [0] 4 true, .spawn, .spawn, .turn 1 .start, .turn 1 .began,
    .turn 0 .ends, .callback 0]

theorem entry_lost : ¬ ∀ s, (engine 2 1 120).Reachable s → TableExact 2 s := by
  intro hexact
  obtain ⟨s, hs, hlost⟩ := Machine.exists_reachable_of_run (m := engine 2 1 120)
    (t := retriedEarly)
    (p := fun s => s.live.any fun t => t.phase = .executing && t.job ∉ s.tasks.jobs)
    waitingEngine_started (by decide)
  obtain ⟨t, ht, hexec, hentry⟩ : ∃ t ∈ s.live, t.phase = .executing ∧ t.job ∉ s.tasks.jobs := by
    simpa using hlost
  exact hentry ((hexact s hs).entry t ht hexec)

end InfraOps
