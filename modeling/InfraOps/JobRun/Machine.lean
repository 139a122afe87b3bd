import InfraOps.Support.Machine
import InfraOps.Workers.Engine

/-!
# The life of a job under one worker at a time

The job row, the world outside and the execution of the job as one guarded machine. An
action is what one party does next: a worker (claim, start, one iteration of the stage
loop, one end of a running handler), the reaper or a shutdown (interruption, clean-up), a
user (cancel, retry), or the thread of an abandoned vCenter call (`land`). Retries and
cancellations may come at ANY moment; only a claim waits until nothing executes the job.
-/

namespace InfraOps

/-- What executes the job. -/
inductive Exec
  | idle
  /-- Claimed; `_execute_job` has not started the run. -/
  | claimed
  /-- In the loop of `execute`, before the stages of `rest`. -/
  | loop (rest : List Stage) (ctx : JobRunContext)
  /-- The handler of `k` is running. -/
  | stage (k : Stage) (rest : List Stage) (ctx : JobRunContext)
  /-- `_interrupt` has committed; its clean-up has not ended. -/
  | releasing

/-- Nothing of a pipeline is left: nobody, or only the clean-up of an interruption. -/
def Exec.stopped : Exec → Bool
  | idle | releasing => true
  | _ => false

/-- An ISO that a successful preparation attached. -/
structure AnswerIso where
  path : String
  attempt : Nat
  deriving DecidableEq

structure RunState extends Deployment where
  request : ProvisioningRequest
  exec : Exec := .idle
  /-- Effects that the threads of abandoned calls still land, per thread. -/
  inFlight : List (List Effect) := []
  /-- History: the last ISO that a successful preparation attached. -/
  answerIso : Option AnswerIso := none
  /-- History: the clean-up after the last interruption called the release. -/
  cleanedUp : Bool := false

/-- How far a run got when it was stopped from outside its handler: the handler's answers
and its cut, and the release that was under way. -/
structure Abort where
  answers : StageAnswers := .other {}
  cut : Cut := {}
  removal : Option RemovalAnswers := none

inductive Action
  | claim (worker : WorkerId)
  | start
  | startFails (error : StartError)
  | heartbeat
  | next (removal : RemovalAnswers)
  | finish (answers : StageAnswers) (removal : RemovalAnswers) (screenshot : Option String)
  | timeOut (answers : StageAnswers) (cut : Cut) (seconds : Nat) (removal : RemovalAnswers)
      (screenshot : Option String)
  | stageCancelled (answers : StageAnswers) (cut : Cut) (removal : RemovalAnswers)
  | crash (abort : Abort)
  | interrupt (reason : String) (abort : Abort)
  | cleanUp (contextBuilt : Bool) (removal : RemovalAnswers)
  | land (thread : Nat)
  | cancel
  | retry (stageKey : Option String) (parses : Bool) (others othersAtCommit : List OtherJob)

structure Event where
  now : Timestamp
  action : Action

namespace RunState

/-! ## The worker's steps -/

def claim (s : RunState) (worker : WorkerId) (now : Timestamp) : Option RunState :=
  match s.exec with
  | .idle =>
    if JobRepository.due s.job now then
      some { s with job := JobRepository.claim s.job worker now, exec := .claimed }
    else none
  | _ => none

/-- `_execute_job` returns at once unless the row is `RUNNING`. -/
def start (s : RunState) : Option RunState :=
  match s.exec with
  | .claimed =>
    if s.job.status = .running then
      some { s with
        toDeployment := startRun s.request s.toDeployment
        exec := .loop orderedStages { request := s.request } }
    else some { s with exec := .idle }
  | _ => none

/-- `_build_context` raises; the step rows have been created. -/
def startFails (s : RunState) (error : StartError) (now : Timestamp) : Option RunState :=
  match s.exec with
  | .claimed =>
    if s.job.status = .running then
      some { s with
        toDeployment := failBeforePipeline error now { s.toDeployment with
          job := JobRepository.ensureSteps s.job }
        exec := .idle }
    else some { s with exec := .idle }
  | _ => none

/-- A heartbeat that finds the row `RUNNING` delivers the cancellation. -/
def heartbeat (s : RunState) (now : Timestamp) : Option RunState :=
  let beat (ctx : JobRunContext) : JobRunContext :=
    { ctx with cancelEvent := ctx.cancelEvent || s.job.cancelRequested }
  let job := { s.job with heartbeatAt := some now }
  if s.job.status = .running then
    match s.exec with
    | .loop rest ctx => some { s with job, exec := .loop rest (beat ctx) }
    | .stage k rest ctx => some { s with job, exec := .stage k rest (beat ctx) }
    | _ => none
  else none

/-- One iteration of the loop of `execute`, or its end. -/
def next (s : RunState) (removal : RemovalAnswers) (now : Timestamp) : Option RunState :=
  match s.exec with
  | .loop [] ctx =>
    some { s with toDeployment := finalizeSuccess ctx now s.toDeployment, exec := .idle }
  | .loop (k :: rest) ctx =>
    match s.job.steps k with
    | none => some { s with exec := .loop rest ctx }
    | some step =>
      if step.status.done then some { s with exec := .loop rest ctx }
      else if s.job.cancelRequested then
        some { s with
          toDeployment := applyCancellation ctx removal now s.toDeployment
          exec := .idle }
      else some { s with job := startStage k now s.job, exec := .stage k rest ctx }
  | _ => none

/-- `execute` after `_run_stage`: a failed step ends the run. -/
def afterStage (k : Stage) (rest : List Stage) (ctx : JobRunContext) (d : Deployment) : Exec :=
  if d.job.stepStatus k = some .failed then .idle else .loop rest ctx

/-- The state after `_run_stage`, given what it committed. -/
def endStage (s : RunState) (k : Stage) (rest : List Stage) (ctx : JobRunContext)
    (d : Deployment) : RunState :=
  { s with toDeployment := d, exec := afterStage k rest ctx d }

/-- The handler ran to its end: effects and assignments are complete. -/
def ranTo (s : RunState) (run : HandlerRun) : Deployment :=
  { s.toDeployment with
    job := applyAssignments s.job run.assignments
    world := s.world.applyAll run.effects }

/-- The ISO that a successful preparation attached. -/
def attachedIso (s : RunState) (k : Stage) (outcome : StageOutcome) : Option AnswerIso :=
  if k = .prepareUnattendedInstall then
    (outcome.artifacts.str? .datastorePath).map fun path => ⟨path, s.job.attempt k⟩
  else s.answerIso

/-- What `_run_stage` commits when the handler returns. -/
def returnedWith (s : RunState) (k : Stage) (run : HandlerRun) (outcome : StageOutcome)
    (now : Timestamp) : Deployment :=
  { s.ranTo run with job := finishStage k outcome now (s.ranTo run).job }

/-- The handler returns or raises. -/
def finish (s : RunState) (answers : StageAnswers) (removal : RemovalAnswers)
    (screenshot : Option String) (now : Timestamp) : Option RunState :=
  match s.exec with
  | .stage k rest ctx =>
    (runHandler k ctx s.job s.world answers).map fun run =>
      let ctx := assignContext ctx run.assignments
      match run.result with
      | .ok outcome =>
        { s.endStage k rest ctx (s.returnedWith k run outcome now) with
          answerIso := s.attachedIso k outcome }
      | .error raised =>
        s.endStage k rest ctx
          (handleFailure ctx k (raised.failure k) screenshot removal now (s.ranTo run))
  | _ => none

/-- The handler is cut: its session keeps the assignments it made. -/
def cutAt (s : RunState) (run : HandlerRun) (cut : Cut) : Deployment :=
  { s.toDeployment with
    job := applyAssignments s.job (run.assignmentsBefore cut)
    world := s.world.applyAll (run.effectsBefore cut) }

/-- The stage timeout. -/
def timeOut (s : RunState) (answers : StageAnswers) (cut : Cut) (seconds : Nat)
    (removal : RemovalAnswers) (screenshot : Option String) (now : Timestamp) :
    Option RunState :=
  match s.exec with
  | .stage k rest ctx =>
    (runHandler k ctx s.job s.world answers).map fun run =>
      let ctx := assignContext ctx (run.assignmentsBefore cut)
      { s.endStage k rest ctx (handleFailure ctx k (timeoutFailure k seconds) screenshot removal
          now (s.cutAt run cut)) with
        inFlight := s.inFlight ++ [run.effectsAfter cut] }
  | _ => none

/-- The user's cancellation reaches the running stage. -/
def stageCancelled (s : RunState) (answers : StageAnswers) (cut : Cut)
    (removal : RemovalAnswers) (now : Timestamp) : Option RunState :=
  match s.exec with
  | .stage k rest ctx =>
    if ctx.cancelEvent then
      (runHandler k ctx s.job s.world answers).map fun run =>
        let ctx := assignContext ctx (run.assignmentsBefore cut)
        { s.endStage k rest ctx (cancelStage ctx k removal now (s.cutAt run cut)) with
          inFlight := s.inFlight ++ [run.effectsAfter cut] }
    else none
  | _ => none

/-! ## Ends from outside -/

/-- The world after a release whose transaction is lost. -/
def releasing (d : Deployment) (ctx : JobRunContext) (removal : Option RemovalAnswers) : World :=
  match removal with
  | none => d.world
  | some a => (releaseUnattendedMedia ctx "" a d).1.world

/-- What is left when a run dies with its session: the committed row, the effects that had
landed, and those its threads still land. -/
def aborted (s : RunState) (abort : Abort) : Option RunState :=
  match s.exec with
  | .claimed => some s
  | .loop _ ctx => some { s with world := releasing s.toDeployment ctx abort.removal }
  | .stage k _ ctx =>
    (runHandler k ctx s.job s.world abort.answers).map fun run =>
      { s with
        world := releasing (s.cutAt run abort.cut) ctx abort.removal
        inFlight := s.inFlight ++ [run.effectsAfter abort.cut] }
  | _ => none

/-- An exception out of the pipeline (a failed commit, for example): the session is rolled
back and the job fails. -/
def crash (s : RunState) (abort : Abort) (now : Timestamp) : Option RunState :=
  match s.exec with
  | .loop _ _ | .stage _ _ _ =>
    (s.aborted abort).map fun s =>
      { s with
        toDeployment := failBeforePipeline pipelineCrashed now s.toDeployment
        exec := .idle }
  | _ => none

/-- The worker dies or shuts down; a `RUNNING` job is parked as `INTERRUPTED`. -/
def interrupted (s : RunState) (reason : String) (abort : Abort) (now : Timestamp) :
    Option RunState :=
  (s.aborted abort).map fun s =>
    if s.job.status = .running then
      { s with
        toDeployment := interrupt reason now s.toDeployment
        exec := .releasing
        cleanedUp := false }
    else { s with exec := .idle }

def cleanUp (s : RunState) (contextBuilt : Bool) (removal : RemovalAnswers) : Option RunState :=
  match s.exec with
  | .releasing =>
    some { s with
      toDeployment := InfraOps.cleanUp s.request contextBuilt removal s.toDeployment
      exec := .idle
      cleanedUp := contextBuilt }
  | _ => none

/-- The next effect of an abandoned thread lands. -/
def land (s : RunState) (thread : Nat) : Option RunState :=
  match s.inFlight[thread]? with
  | some (e :: es) =>
    some { s with world := s.world.apply e, inFlight := s.inFlight.set thread es }
  | _ => none

/-! ## Requests -/

def cancel (s : RunState) (now : Timestamp) : Option RunState :=
  match cancelJob s.job now with
  | .ok job => some { s with job }
  | .error _ => none

def retry (s : RunState) (stageKey : Option String) (parses : Bool)
    (others othersAtCommit : List OtherJob) (now : Timestamp) : Option RunState :=
  match retryStages s.job stageKey parses others othersAtCommit now with
  | .ok (job, _) => some { s with job }
  | .error _ => none

def step (s : RunState) (e : Event) : Option RunState :=
  match e.action with
  | .claim worker => s.claim worker e.now
  | .start => s.start
  | .startFails error => s.startFails error e.now
  | .heartbeat => s.heartbeat e.now
  | .next removal => s.next removal e.now
  | .finish answers removal screenshot => s.finish answers removal screenshot e.now
  | .timeOut answers cut seconds removal screenshot =>
    s.timeOut answers cut seconds removal screenshot e.now
  | .stageCancelled answers cut removal => s.stageCancelled answers cut removal e.now
  | .crash abort => s.crash abort e.now
  | .interrupt reason abort => s.interrupted reason abort e.now
  | .cleanUp contextBuilt removal => s.cleanUp contextBuilt removal
  | .land thread => s.land thread
  | .cancel => s.cancel e.now
  | .retry stageKey parses others othersAtCommit =>
    s.retry stageKey parses others othersAtCommit e.now

/-- A job as `submit_provisioning` creates it: queued, without step rows or media. -/
structure Submitted (s : RunState) : Prop where
  status : s.job.status = .queued
  steps : ∀ k, s.job.steps k = none
  notCancelled : s.job.cancelRequested = false
  idle : s.exec = .idle
  stored : ∀ path, s.world.stored path = none
  drive : ∀ path, s.world.drive path = none
  pendingName : s.world.pendingName = none
  inFlight : s.inFlight = []
  answerIso : s.answerIso = none

/-- A fresh submission, for replays. -/
def submitted (jobId : JobId) (request : ProvisioningRequest) : RunState where
  job := { id := jobId, vmName := request.vmName, queuedAt := 0 }
  world := { activeName := "WIN-SETUP" }
  request := request

theorem submitted_spec (jobId : JobId) (request : ProvisioningRequest) :
    (submitted jobId request).Submitted where
  status := rfl
  steps _ := rfl
  notCancelled := rfl
  idle := rfl
  stored _ := rfl
  drive _ := rfl
  pendingName := rfl
  inFlight := rfl
  answerIso := rfl

end RunState

/-! ## Replays -/

/-- The answers of an environment in which nothing goes wrong. -/
def smoothAnswers : Stage → StageAnswers
  | .createVm => .createVm (.creates ⟨"vm-7", "web01", by decide⟩ "datastore-1" "ds1")
  | .prepareUnattendedInstall =>
    .prepare { attach := { datastore := .found "ds1", upload := .stored none } }
  | .cleanupUnattendedMedia => .cleanup { bootTime := .succeeds "2024-01-01" }
  | .configureHostname => .hostname {}
  | .joinDomain => .join { identity := .error (.other "") }
  | .rebootGuest => .reboot { bootTime := .succeeds "2024-01-02" }
  | _ => .other {}

/-- Each of the stages is started and ends well. -/
def smoothly (stages : List Stage) : List Event :=
  stages.flatMap fun k => [⟨0, .next .removes⟩, ⟨0, .finish (smoothAnswers k) .removes none⟩]

/-- A run is claimed and started, skips `done` finished stages and runs the given ones. -/
def runsStages (done : Nat) (stages : List Stage) : List Event :=
  [⟨0, .claim 1⟩, ⟨0, .start⟩] ++ List.replicate done ⟨0, .next .removes⟩ ++ smoothly stages

/-- The next stage is started and fails. -/
def failsNext : List Event :=
  [⟨0, .next .removes⟩,
    ⟨0, .finish (.other { result := .error (.other "boom") }) .removes none⟩]

def retryAll : Event := ⟨0, .retry none true [] []⟩

/-- The machine of one job. -/
def jobRun : Machine RunState Event where
  init := RunState.Submitted
  step := RunState.step

end InfraOps
