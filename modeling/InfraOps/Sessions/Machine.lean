import InfraOps.JobRun.Machine
import InfraOps.Sessions.Flush

/-!
# One job in many sessions

The row of a job and everyone who works on it: any number of executions by any number of
workers, API requests that retry or cancel it, and reapers. Every party loads the row into
a session of its own and commits later; what happened in between is not seen, and the
commit writes the columns the session changed. Only claims, heartbeats and reaps act on the
row as it is (they lock it or test it in their `UPDATE`).

An execution does to its session what one step of `RunState` does to the job. The world
outside is whatever a stage finds there. A commit, a claim and a reap are atomic.
-/

namespace InfraOps

/-- Where an execution of the job stands. -/
inductive Phase
  /-- Claimed; its task has not begun. -/
  | claimed
  /-- The row was RUNNING under this worker; the context is being built. -/
  | starting
  /-- `pipeline.execute`, with its heartbeat loop. `refreshed`: before the next stage, the job
  has been refreshed. -/
  | pipeline (exec : Exec) (refreshed : Bool)
  /-- `_run_handler` awaits the end of a handler that it cancelled. A cancellation of the
  pipeline ends here. -/
  | unwinding (exec : Exec)
  /-- The pipeline raised; the job is loaded again. -/
  | crashed
  /-- Cancelled by a shutdown. -/
  | stopped
  /-- `_mark_interrupted` found the row RUNNING under this worker. -/
  | marking
  /-- `_interrupt` has committed; its clean-up has not ended. -/
  | releasing
  | ended

/-- An execution, in the session it works with. -/
structure Execution where
  worker : WorkerId
  phase : Phase := .claimed
  loaded : ProvisioningJob
  /-- History: the job was interrupted by a reaper, requeued or claimed since. -/
  lost : Bool := false

structure JobState where
  request : ProvisioningRequest
  row : ProvisioningJob
  executions : List Execution := []
  /-- The job as requests under way have loaded it. -/
  requests : List ProvisioningJob := []
  /-- The job as reapers that still clean up have left it. -/
  reaped : List ProvisioningJob := []
  stopping : WorkerId → Bool := fun _ => false
  /-- History: an execution that had lost the job has changed its status or that of a step. -/
  late : Bool := false

/-- The steps of an execution. -/
inductive Turn
  | start
  | began
  | startFails (error : StartError)
  | heartbeat
  | refresh
  /-- The next stage is started, or the cancellation applied. -/
  | proceed (removal : RemovalAnswers)
  | act (action : Action)
  | cancelHandler
  | crash
  | crashed
  | shutDown
  | mark
  | interrupt
  | cleanUp (contextBuilt : Bool) (removal : RemovalAnswers)

inductive Move
  | claim (worker : WorkerId)
  | turn (i : Nat) (turn : Turn) (world : World)
  | stop (worker : WorkerId)
  /-- The process dies. -/
  | kill (worker : WorkerId)
  | reap
  | cleanUp (i : Nat) (contextBuilt : Bool) (removal : RemovalAnswers) (world : World)
  /-- A request loads the job. -/
  | load
  | retry (i : Nat) (stageKey : Option String) (parses : Bool)
    (others othersAtCommit : List OtherJob)
  | cancel (i : Nat)

structure TimedMove where
  now : Timestamp
  move : Move

/-- The heartbeat sets the cancellation event of the context. -/
def Exec.deliver (cancelRequested : Bool) : Exec → Exec
  | .loop rest ctx => .loop rest { ctx with cancelEvent := ctx.cancelEvent || cancelRequested }
  | .stage k rest ctx =>
    .stage k rest { ctx with cancelEvent := ctx.cancelEvent || cancelRequested }
  | exec => exec

/-- The phase after a step of the pipeline. -/
def Phase.ofExec : Exec → Phase
  | .loop rest ctx => .pipeline (.loop rest ctx) false
  | .stage k rest ctx => .pipeline (.stage k rest ctx) false
  | _ => .ended

/-- A handler that was cancelled ends the stage as cancelled; a step of the loop that does
not need the job refreshed, or any other end of a stage, is the pipeline's own. -/
def Phase.takes (loaded : ProvisioningJob) : Phase → Action → Option Exec
  | pipeline (.loop [] ctx) _, .next _ => some (.loop [] ctx)
  | pipeline (.loop (k :: rest) ctx) _, .next _ =>
    if (loaded.steps k).all fun step => step.status.done then some (.loop (k :: rest) ctx)
    else none
  | pipeline exec _, .finish _ _ _ => some exec
  | pipeline exec _, .timeOut _ _ _ _ _ => some exec
  | unwinding exec, .stageCancelled _ _ _ => some exec
  | _, _ => none

namespace JobState

/-- The row is RUNNING under this worker. -/
def ownedBy (s : JobState) (w : WorkerId) : Bool :=
  s.row.status == .running && s.row.workerId == some w

def set (s : JobState) (i : Nat) (x : Execution) : JobState :=
  { s with executions := s.executions.set i x }

/-- The execution commits its session. -/
def commit (s : JobState) (i : Nat) (x : Execution) (left : ProvisioningJob) (p : Phase) :
    JobState :=
  { s with
    row := s.row.flush x.loaded left
    executions := s.executions.set i { x with loaded := left, phase := p } }

/-- Everyone who executes the job has lost it. -/
def loseAll (s : JobState) : JobState :=
  { s with executions := s.executions.map fun x => { x with lost := true } }

/-! ## Turns of an execution -/

def heartbeat (s : JobState) (i : Nat) (x : Execution) (now : Timestamp) : Option JobState :=
  let beats := { s with row := { s.row with heartbeatAt := some now } }
  let finished := s.row.workerId == some x.worker && s.row.status.terminal
  match x.phase with
  | .pipeline exec refreshed =>
    if s.ownedBy x.worker then
      some (beats.set i { x with
        phase := .pipeline (exec.deliver s.row.cancelRequested) refreshed })
    else if finished then some s
    else
      -- The pipeline is cancelled; a shutdown then marks the job.
      some (s.set i { x with phase := if s.stopping x.worker then .stopped else .ended })
  | .unwinding exec =>
    if s.ownedBy x.worker then
      some (beats.set i { x with phase := .unwinding (exec.deliver s.row.cancelRequested) })
    else some s
  | _ => none

/-- After the refresh: `cancel_requested` decides. -/
def proceed (s : JobState) (i : Nat) (x : Execution) (removal : RemovalAnswers) (world : World)
    (now : Timestamp) : Option JobState :=
  match x.phase with
  | .pipeline (.loop (k :: rest) ctx) true =>
    if x.loaded.cancelRequested then
      let d := applyCancellation ctx removal now { job := x.loaded, world }
      some (s.commit i x d.job .ended)
    else some (s.commit i x (startStage k now x.loaded) (.pipeline (.stage k rest ctx) false))
  | _ => none

/-- The refresh is made before a stage that is not done. -/
def refresh (s : JobState) (i : Nat) (x : Execution) : Option JobState :=
  match x.phase with
  | .pipeline (.loop (k :: rest) ctx) false =>
    if (x.loaded.steps k).any fun step => !step.status.done then
      some (s.set i { x with
        loaded := s.row
        phase := .pipeline (.loop (k :: rest) ctx) true })
    else none
  | _ => none

def act (s : JobState) (i : Nat) (x : Execution) (action : Action) (world : World)
    (now : Timestamp) : Option JobState :=
  (x.phase.takes x.loaded action).bind fun exec =>
    (RunState.step { job := x.loaded, world, request := s.request, exec } ⟨now, action⟩).map
      fun r => s.commit i x r.job (.ofExec r.exec)

def shutDown (s : JobState) (i : Nat) (x : Execution) : Option JobState :=
  if s.stopping x.worker then
    match x.phase with
    | .claimed => some (s.set i { x with phase := .ended })
    | .starting | .pipeline _ _ | .crashed => some (s.set i { x with phase := .stopped })
    | _ => none
  else none

/-- Another session has created the step rows meanwhile. -/
def stepsCreated (s : JobState) (x : Execution) : Bool :=
  orderedStages.any fun k => (x.loaded.steps k).isNone && (s.row.steps k).isSome

def turn (s : JobState) (i : Nat) (x : Execution) (turn : Turn) (world : World)
    (now : Timestamp) : Option JobState :=
  match x.phase, turn with
  | .claimed, .start =>
    if s.ownedBy x.worker then some (s.set i { x with loaded := s.row, phase := .starting })
    else some (s.set i { x with phase := .ended })
  | .starting, .began =>
    if s.stepsCreated x then some (s.set i { x with phase := .ended })
    else
      let d := startRun s.request { job := x.loaded, world }
      some (s.commit i x d.job (.pipeline (.loop orderedStages { request := s.request }) false))
  | .starting, .startFails error =>
    if s.stepsCreated x then some (s.set i { x with phase := .ended })
    else
      let d := failBeforePipeline error now
        { job := JobRepository.ensureSteps x.loaded, world }
      some (s.commit i x d.job .ended)
  | _, .heartbeat => s.heartbeat i x now
  | _, .refresh => s.refresh i x
  | _, .proceed removal => s.proceed i x removal world now
  | _, .act action => s.act i x action world now
  | .pipeline (.stage k rest ctx) _, .cancelHandler =>
    if ctx.cancelEvent then some (s.set i { x with phase := .unwinding (.stage k rest ctx) })
    else none
  | .pipeline _ _, .crash | .unwinding _, .crash =>
    some (s.set i { x with loaded := s.row, phase := .crashed })
  | .crashed, .crashed =>
    let d := failBeforePipeline pipelineCrashed now { job := x.loaded, world }
    some (s.commit i x d.job .ended)
  | _, .shutDown => s.shutDown i x
  | .stopped, .mark =>
    if s.ownedBy x.worker then some (s.set i { x with loaded := s.row, phase := .marking })
    else some (s.set i { x with phase := .ended })
  | .marking, .interrupt =>
    let d := InfraOps.interrupt workerShutDown now { job := x.loaded, world }
    some (s.commit i x d.job .releasing)
  | .releasing, .cleanUp contextBuilt removal =>
    let d := InfraOps.cleanUp s.request contextBuilt removal { job := x.loaded, world }
    some (s.commit i x d.job .ended)
  | _, _ => none

/-! ## The other parties -/

/-- `claim_due_jobs`. -/
def claim (s : JobState) (w : WorkerId) (now : Timestamp) : Option JobState :=
  if JobRepository.due s.row now then
    let row := JobRepository.claim s.row w now
    some { s.loseAll with
      row, executions := s.loseAll.executions ++ [{ worker := w, loaded := row }] }
  else none

/-- `reap_stale_jobs` on a job whose last heartbeat is too old. -/
def reap (s : JobState) (now : Timestamp) : Option JobState :=
  if s.row.status = .running then
    let d := InfraOps.interrupt workerStopped now { job := s.row, world := { activeName := "" } }
    some { s.loseAll with row := d.job, reaped := s.reaped ++ [d.job] }
  else none

def cleanUp (s : JobState) (i : Nat) (contextBuilt : Bool) (removal : RemovalAnswers)
    (world : World) : Option JobState :=
  (s.reaped[i]?).map fun job =>
    let d := InfraOps.cleanUp s.request contextBuilt removal { job, world }
    { s with row := s.row.flush job d.job, reaped := s.reaped.eraseIdx i }

/-- `retry_stages`, from the job that the request has loaded. -/
def retry (s : JobState) (i : Nat) (stageKey : Option String) (parses : Bool)
    (others othersAtCommit : List OtherJob) (now : Timestamp) : Option JobState :=
  match s.requests[i]? with
  | none => none
  | some job =>
    match retryStages job stageKey parses others othersAtCommit now with
    | .error _ => none
    | .ok (left, _) =>
      some { s.loseAll with row := s.row.flush job left, requests := s.requests.eraseIdx i }

/-- The request hands the job over to a worker: it is requeued. -/
def handsOver (job : ProvisioningJob) : Bool :=
  job.status == .interrupted && JobRepository.mayHoldUnattendedMedia job

/-- `cancel_job`, likewise. -/
def cancel (s : JobState) (i : Nat) (now : Timestamp) : Option JobState :=
  match s.requests[i]? with
  | none => none
  | some job =>
    match cancelJob job now with
    | .error _ => none
    | .ok left =>
      let s' := if handsOver job then s.loseAll else s
      some { s' with row := s.row.flush job left, requests := s.requests.eraseIdx i }

/-- The status of the job or of a step is another one. -/
def statusChanged (old new : ProvisioningJob) : Bool :=
  new.status != old.status || orderedStages.any fun k => new.stepStatus k != old.stepStatus k

def step (s : JobState) (e : TimedMove) : Option JobState :=
  match e.move with
  | .claim w => s.claim w e.now
  | .turn i turn world =>
    match s.executions[i]? with
    | some x =>
      (s.turn i x turn world e.now).map fun s' =>
        { s' with late := s.late || (x.lost && statusChanged s.row s'.row) }
    | none => none
  | .stop w => some { s with stopping := Function.update s.stopping w true }
  | .kill w =>
    some { s with executions := s.executions.map fun x =>
      if x.worker = w then { x with phase := .ended } else x }
  | .reap => s.reap e.now
  | .cleanUp i contextBuilt removal world => s.cleanUp i contextBuilt removal world
  | .load => some { s with requests := s.requests ++ [s.row] }
  | .retry i stageKey parses others othersAtCommit =>
    s.retry i stageKey parses others othersAtCommit e.now
  | .cancel i => s.cancel i e.now

/-- A job as `submit_provisioning` creates it. -/
structure Submitted (s : JobState) : Prop where
  status : s.row.status = .queued
  steps : ∀ k, s.row.steps k = none
  workerId : s.row.workerId = none
  notCancelled : s.row.cancelRequested = false
  executions : s.executions = []
  requests : s.requests = []
  reaped : s.reaped = []
  late : s.late = false

end JobState

/-- One job and everyone who works on it. -/
def sessions : Machine JobState TimedMove where
  init := JobState.Submitted
  step := JobState.step

/-! ## Replays -/

def queuedState : JobState where
  request := { vmName := "web01" }
  row := { id := "j1", vmName := "web01", queuedAt := 0 }

theorem queuedState_submitted : queuedState.Submitted where
  status := rfl
  steps _ := rfl
  workerId := rfl
  notCancelled := rfl
  executions := rfl
  requests := rfl
  reaped := rfl
  late := rfl

def setupWorld : World := { activeName := "WIN-SETUP" }

/-- The worker claims the job and begins the `i`-th execution of it. -/
def beginsExecution (i : Nat) (w : WorkerId) : List TimedMove :=
  [⟨0, .claim w⟩, ⟨0, .turn i .start setupWorld⟩, ⟨0, .turn i .began setupWorld⟩]

def retriesAll : TimedMove := ⟨0, .retry 0 none true [] []⟩

end InfraOps
