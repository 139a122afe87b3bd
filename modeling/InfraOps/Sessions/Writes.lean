import InfraOps.JobRun.Transition
import InfraOps.Sessions.Machine

/-!
# What a commit does to the claim of a job

The claim of a job is its status with its worker. A stage leaves it alone or ends it, and no
session but a claim makes a job RUNNING or names a worker; what a flush writes from a stale
session is no different.
-/

namespace InfraOps

/-- What a step of the pipeline leaves: the claim, possibly ended, and every step row. -/
structure Pipelined (loaded left : ProvisioningJob) : Prop where
  status : left.status = loaded.status ∨ left.status.terminal = true
  workerId : left.workerId = loaded.workerId
  rows : ∀ k, (loaded.stepStatus k).isSome = true → (left.stepStatus k).isSome = true

/-- What any session leaves: nobody new has claimed the job. -/
structure Unclaimed (loaded left : ProvisioningJob) : Prop where
  status : left.status = .running → loaded.status = .running
  workerId : left.workerId = loaded.workerId ∨ left.workerId = none

/-- A flush deletes no step row. -/
theorem flush_rows (stored loaded left : ProvisioningJob) (k : Stage)
    (h : (stored.stepStatus k).isSome = true) :
    ((stored.flush loaded left).stepStatus k).isSome = true := by
  simp only [ProvisioningJob.stepStatus, Option.isSome_map] at h ⊢
  obtain ⟨row, hrow⟩ := Option.isSome_iff_exists.mp h
  change (flushRow (stored.steps k) (loaded.steps k) (left.steps k)).isSome = true
  rw [hrow]
  cases loaded.steps k <;> cases left.steps k <;> rfl

/-- One step row is set, the others are kept. -/
theorem rows_of_set {job left : ProvisioningJob} {k : Stage} {st : StepStatus}
    (h : ∀ k', left.stepStatus k' =
      if k' = k then (job.stepStatus k).map fun _ => st else job.stepStatus k')
    (k' : Stage) (hrow : (job.stepStatus k').isSome = true) :
    (left.stepStatus k').isSome = true := by
  rw [h]
  split
  · rename_i heq
    rw [Option.isSome_map, ← heq, hrow]
  · exact hrow

namespace Pipelined

theorem refl (job : ProvisioningJob) : Pipelined job job := ⟨.inl rfl, rfl, fun _ => id⟩

theorem trans {a b c : ProvisioningJob} (h₁ : Pipelined a b) (h₂ : Pipelined b c) :
    Pipelined a c := by
  refine ⟨?_, h₂.workerId.trans h₁.workerId, fun k hk => h₂.rows k (h₁.rows k hk)⟩
  rcases h₂.status with h | h
  · rw [h]
    exact h₁.status
  · exact .inr h

theorem unclaimed {loaded left : ProvisioningJob} (h : Pipelined loaded left) :
    Unclaimed loaded left := by
  refine ⟨fun hrunning => ?_, .inl h.workerId⟩
  rcases h.status with hsame | hterminal
  · rw [← hsame, hrunning]
  · rw [hrunning] at hterminal
    cases hterminal

/-- A stale session writes no more to the claim than a fresh one. -/
theorem flush {loaded left : ProvisioningJob} (h : Pipelined loaded left)
    (stored : ProvisioningJob) : Pipelined stored (stored.flush loaded left) := by
  refine ⟨?_, ?_, flush_rows stored loaded left⟩
  · change written stored.status loaded.status left.status = stored.status ∨
      (written stored.status loaded.status left.status).terminal = true
    rcases h.status with hsame | hterminal
    · rw [hsame, written_same]
      exact .inl rfl
    · rcases written_cases stored.status loaded.status left.status with hw | hw
      · exact .inl hw
      · rw [hw]
        exact .inr hterminal
  · change written stored.workerId loaded.workerId left.workerId = stored.workerId
    rw [h.workerId, written_same]

theorem assignments (job : ProvisioningJob) (as : List Assignment) :
    Pipelined job (applyAssignments job as) := by
  refine ⟨.inl (applyAssignments_status job as), applyAssignments_workerId job as, fun k hk => ?_⟩
  rwa [applyAssignments_stepStatus]

theorem startStage (k : Stage) (now : Timestamp) (job : ProvisioningJob) :
    Pipelined job (startStage k now job) :=
  ⟨.inl rfl, rfl, rows_of_set (startStage_stepStatus k now job)⟩

theorem finishStage (k : Stage) (outcome : StageOutcome) (now : Timestamp)
    (job : ProvisioningJob) : Pipelined job (finishStage k outcome now job) :=
  ⟨.inl rfl, rfl, rows_of_set (finishStage_stepStatus k outcome now job)⟩

theorem release (ctx : JobRunContext) (reason : String) (a : RemovalAnswers) (d : Deployment) :
    Pipelined d.job (releaseUnattendedMedia ctx reason a d).1.job := by
  refine ⟨.inl (release_status ctx reason a d), ?_, fun k hk => ?_⟩
  · rw [release_job]
  · rcases release_stepStatus ctx reason a d k with hsame | ⟨-, -, -, hpending⟩
    · rwa [hsame]
    · rw [hpending]
      rfl

theorem failJob (k : Stage) (f : InfraOperationError) (screenshot : Option String)
    (now : Timestamp) (job : ProvisioningJob) :
    Pipelined job (failJob k f screenshot now job) := by
  have hterminal : (InfraOps.failJob k f screenshot now job).status.terminal = true := by
    rcases failJob_status k f screenshot now job with h | h
    · rw [h]
      rfl
    · rw [h]
      rfl
  exact ⟨.inr hterminal, rfl, rows_of_set (failJob_stepStatus k f screenshot now job)⟩

theorem handleFailure (ctx : JobRunContext) (k : Stage) (f : InfraOperationError)
    (screenshot : Option String) (removal : RemovalAnswers) (now : Timestamp) (d : Deployment) :
    Pipelined d.job (handleFailure ctx k f screenshot removal now d).job := by
  obtain ⟨records, hjob, -⟩ := handleFailure_eq ctx k f screenshot removal now d
  have hrelease := release ctx s!"stage '{k.key}' failed" removal
    { d with job := InfraOps.failJob k f screenshot now d.job, records }
  rw [hjob]
  exact (failJob k f screenshot now d.job).trans hrelease

theorem applyCancellation (ctx : JobRunContext) (removal : RemovalAnswers) (now : Timestamp)
    (d : Deployment) : Pipelined d.job (applyCancellation ctx removal now d).job := by
  have hrelease := release ctx "job cancelled" removal d
  refine ⟨.inr rfl, hrelease.workerId, fun k hk => ?_⟩
  rw [applyCancellation_stepStatus, Option.isSome_map]
  exact hrelease.rows k hk

theorem cancelStage (ctx : JobRunContext) (k : Stage) (removal : RemovalAnswers)
    (now : Timestamp) (d : Deployment) :
    Pipelined d.job (cancelStage ctx k removal now d).job := by
  have hstep : Pipelined d.job (d.job.setStep k (cancelledStep now)) :=
    ⟨.inl rfl, rfl, rows_of_set (cancelledStep_stepStatus k now d.job)⟩
  exact hstep.trans (applyCancellation ctx removal now
    { d with job := d.job.setStep k (cancelledStep now) })

theorem cleanUp (r : ProvisioningRequest) (contextBuilt : Bool) (removal : RemovalAnswers)
    (d : Deployment) : Pipelined d.job (cleanUp r contextBuilt removal d).job := by
  unfold InfraOps.cleanUp
  split
  · exact release _ _ removal d
  · exact refl d.job

theorem ensureSteps (job : ProvisioningJob) : Pipelined job (JobRepository.ensureSteps job) := by
  refine ⟨.inl rfl, rfl, fun k _ => ?_⟩
  rw [JobRepository.ensureSteps_stepStatus]
  rfl

/-- **A step of the pipeline**, whatever its session has loaded. -/
theorem act {x : Phase} {s r : RunState} {action : Action} {now : Timestamp}
    (haction : x.takes s.job action = some s.exec)
    (h : RunState.step s ⟨now, action⟩ = some r) : Pipelined s.job r.job := by
  have htransition : Transition s ⟨now, action⟩ r := transition_of_step h
  cases htransition with
  | finalized hexec => exact ⟨.inr rfl, rfl, fun _ => id⟩
  | skipped hexec hskip => exact refl s.job
  | cancelledBetween hexec hrow hdone hcancel =>
    exact applyCancellation _ _ now s.toDeployment
  | startedStage hexec hrow hdone hcancel => exact startStage _ now s.job
  | @returned _ _ _ _ k _ _ run outcome hexec hrun hresult =>
    exact (assignments s.job run.assignments).trans (finishStage k outcome now _)
  | @raised _ _ _ _ _ _ _ run raised hexec hrun hresult =>
    exact (assignments s.job run.assignments).trans
      (handleFailure _ _ _ _ _ now (s.ranTo run))
  | @timedOut _ _ cut _ _ _ _ _ _ run hexec hrun =>
    exact (assignments s.job (run.assignmentsBefore cut)).trans
      (handleFailure _ _ _ _ _ now (s.cutAt run cut))
  | @cancelledWithin _ _ cut _ _ _ _ run hexec hevent hrun =>
    exact (assignments s.job (run.assignmentsBefore cut)).trans
      (cancelStage _ _ _ now (s.cutAt run cut))
  | notOwned hor hexec hstatus =>
    rcases hor with rfl | ⟨error, rfl⟩
    · simp [Phase.takes] at haction
    · simp [Phase.takes] at haction
  | _ => simp [Phase.takes] at haction

end Pipelined

namespace Unclaimed

theorem flush {loaded left : ProvisioningJob} (h : Unclaimed loaded left)
    (stored : ProvisioningJob) : Unclaimed stored (stored.flush loaded left) := by
  refine ⟨fun hrunning => ?_, ?_⟩
  · change written stored.status loaded.status left.status = .running at hrunning
    by_cases hsame : left.status = loaded.status
    · rwa [hsame, written_same] at hrunning
    · rw [written_ne hsame] at hrunning
      exact absurd (hrunning.trans (h.status hrunning).symm) hsame
  · change written stored.workerId loaded.workerId left.workerId = stored.workerId ∨
      written stored.workerId loaded.workerId left.workerId = none
    rcases h.workerId with hsame | hnone
    · rw [hsame, written_same]
      exact .inl rfl
    · rcases written_cases stored.workerId loaded.workerId left.workerId with hw | hw
      · exact .inl hw
      · rw [hw]
        exact .inr hnone

theorem trans {a b c : ProvisioningJob} (h₁ : Unclaimed a b) (h₂ : Unclaimed b c) :
    Unclaimed a c := by
  refine ⟨fun h => h₁.status (h₂.status h), ?_⟩
  rcases h₂.workerId with h | h
  · rw [h]
    exact h₁.workerId
  · exact .inr h

theorem failBeforePipeline (e : StartError) (now : Timestamp) (d : Deployment) :
    Unclaimed d.job (failBeforePipeline e now d).job :=
  ⟨(fun h => by cases h), .inr rfl⟩

theorem interrupt (reason : String) (now : Timestamp) (d : Deployment) :
    Unclaimed d.job (interrupt reason now d).job :=
  ⟨(fun h => by cases h), .inr rfl⟩

theorem retryStages {job left : ProvisioningJob} {stageKey : Option String} {parses : Bool}
    {others othersAtCommit : List OtherJob} {now : Timestamp} {reset : List Stage}
    (h : retryStages job stageKey parses others othersAtCommit now = .ok (left, reset)) :
    Unclaimed job left := by
  obtain ⟨-, stageKeys, hne, hreset⟩ := retryStages_ok h
  have hleft : left = (JobRepository.resetForRetry job stageKeys now).1 := by rw [hreset]
  have hqueued := (JobRepository.resetForRetry_of_ne (by rw [hreset]; exact hne)).1
  rw [hleft]
  refine ⟨fun hrunning => ?_, ?_⟩
  · rw [hqueued] at hrunning
    cases hrunning
  · unfold JobRepository.resetForRetry
    dsimp only
    split
    · exact .inl rfl
    · exact .inr rfl

theorem cancelJob {job left : ProvisioningJob} {now : Timestamp}
    (h : cancelJob job now = .ok left) : Unclaimed job left := by
  rcases cancelJob_ok h with ⟨-, -, rfl⟩ | ⟨-, -, rfl⟩
  · exact ⟨(fun h => by cases h), .inl rfl⟩
  · unfold JobRepository.requestCancel
    dsimp only
    split
    · exact ⟨(fun h => by cases h), .inl rfl⟩
    · exact ⟨(fun h => by cases h), .inl rfl⟩
    · exact ⟨id, .inl rfl⟩

end Unclaimed

/-! ## Turns -/

/-- The execution may still write to the job as its owner. -/
def Phase.live : Phase → Bool
  | releasing | ended => false
  | _ => true

/-- What a turn does to the row and to its own execution. -/
structure Turned (s : JobState) (i : Nat) (x y : Execution) (s' : JobState) : Prop where
  executions : s'.executions = s.executions.set i y
  late : s'.late = s.late
  worker : y.worker = x.worker
  lost : y.lost = x.lost
  live : y.phase.live = true → x.phase.live = true
  unclaimed : Unclaimed s.row s'.row
  /-- Only the last commit of an owner does more than a stage. -/
  pipelined : y.phase.live = true ∨ x.phase.live = false → Pipelined s.row s'.row

namespace Turned

variable {s : JobState} {i : Nat} {x y : Execution}

/-- A turn that does no more to the row than a stage. -/
theorem of_pipelined {row : ProvisioningJob} (hrow : Pipelined s.row row)
    (hworker : y.worker = x.worker) (hlost : y.lost = x.lost)
    (hlive : y.phase.live = true → x.phase.live = true) :
    Turned s i x y { s with row, executions := s.executions.set i y } where
  executions := rfl
  late := rfl
  worker := hworker
  lost := hlost
  live := hlive
  unclaimed := hrow.unclaimed
  pipelined _ := hrow

/-- A turn without a commit. -/
theorem set (hworker : y.worker = x.worker) (hlost : y.lost = x.lost)
    (hlive : y.phase.live = true → x.phase.live = true) : Turned s i x y (s.set i y) :=
  of_pipelined (.refl s.row) hworker hlost hlive

theorem commit {left : ProvisioningJob} {p : Phase} (hleft : Pipelined x.loaded left)
    (hlive : p.live = true → x.phase.live = true) :
    Turned s i x { x with loaded := left, phase := p } (s.commit i x left p) :=
  of_pipelined (hleft.flush s.row) rfl rfl hlive

/-- The last commit of an owner. -/
theorem lastCommit {left : ProvisioningJob} {p : Phase} (hleft : Unclaimed x.loaded left)
    (hx : x.phase.live = true) (hp : p.live = false) :
    Turned s i x { x with loaded := left, phase := p } (s.commit i x left p) where
  executions := rfl
  late := rfl
  worker := rfl
  lost := rfl
  live hlive := by
    change p.live = true at hlive
    rw [hp] at hlive
    cases hlive
  unclaimed := hleft.flush s.row
  pipelined h := by
    change p.live = true ∨ _ at h
    simp [hx, hp] at h

end Turned

theorem JobState.heartbeat_turned {s s' : JobState} {i : Nat} {x : Execution} {now : Timestamp}
    (hx : s.executions[i]? = some x) (h : s.heartbeat i x now = some s') :
    ∃ y, Turned s i x y s' := by
  have hidle : Turned s i x x s := by
    obtain ⟨hi, rfl⟩ := List.getElem?_eq_some_iff.mp hx
    have hset : Turned s i s.executions[i] s.executions[i] (s.set i s.executions[i]) :=
      .set rfl rfl id
    rwa [JobState.set, List.set_getElem_self] at hset
  have hbeat : Pipelined s.row { s.row with heartbeatAt := some now } :=
    ⟨.inl rfl, rfl, fun _ => id⟩
  unfold JobState.heartbeat at h
  dsimp only at h
  split at h
  · rename_i exec refreshed hphase
    have hlive : x.phase.live = true := by rw [hphase]; rfl
    split at h
    · cases h
      exact ⟨_, .of_pipelined hbeat rfl rfl fun _ => hlive⟩
    · split at h
      · cases h
        exact ⟨x, hidle⟩
      · cases h
        exact ⟨_, .set rfl rfl fun _ => hlive⟩
  · rename_i exec hphase
    have hlive : x.phase.live = true := by rw [hphase]; rfl
    split at h
    · cases h
      exact ⟨_, .of_pipelined hbeat rfl rfl fun _ => hlive⟩
    · cases h
      exact ⟨x, hidle⟩
  · cases h

theorem JobState.refresh_turned {s s' : JobState} {i : Nat} {x : Execution}
    (h : s.refresh i x = some s') : ∃ y, Turned s i x y s' := by
  unfold JobState.refresh at h
  split at h
  · rename_i hphase
    split at h
    · cases h
      exact ⟨_, .set rfl rfl fun _ => by rw [hphase]; rfl⟩
    · cases h
  · cases h

theorem JobState.proceed_turned {s s' : JobState} {i : Nat} {x : Execution}
    {removal : RemovalAnswers} {world : World} {now : Timestamp}
    (h : s.proceed i x removal world now = some s') : ∃ y, Turned s i x y s' := by
  unfold JobState.proceed at h
  dsimp only at h
  split at h
  · rename_i k rest ctx hphase
    split at h
    · cases h
      have hleft := Pipelined.applyCancellation ctx removal now { job := x.loaded, world }
      exact ⟨_, .commit hleft fun hlive => by cases hlive⟩
    · cases h
      exact ⟨_, .commit (.startStage k now x.loaded) fun _ => by rw [hphase]; rfl⟩
  · cases h

theorem Phase.live_of_takes {p : Phase} {loaded : ProvisioningJob} {action : Action}
    {exec : Exec} (h : p.takes loaded action = some exec) : p.live = true := by
  cases p with
  | pipeline exec refreshed => rfl
  | unwinding exec => rfl
  | _ => simp [Phase.takes] at h

theorem JobState.act_turned {s s' : JobState} {i : Nat} {x : Execution} {action : Action}
    {world : World} {now : Timestamp} (h : s.act i x action world now = some s') :
    ∃ y, Turned s i x y s' := by
  unfold JobState.act at h
  obtain ⟨exec, htakes, h⟩ := Option.bind_eq_some_iff.mp h
  obtain ⟨r, hr, rfl⟩ := Option.map_eq_some_iff.mp h
  have hleft : Pipelined x.loaded r.job := Pipelined.act htakes hr
  exact ⟨_, .commit hleft fun _ => Phase.live_of_takes htakes⟩

theorem JobState.shutDown_turned {s s' : JobState} {i : Nat} {x : Execution}
    (h : s.shutDown i x = some s') : ∃ y, Turned s i x y s' := by
  unfold JobState.shutDown at h
  split at h
  · split at h
    · cases h
      exact ⟨_, .set rfl rfl fun hlive => by cases hlive⟩
    · rename_i hphase
      cases h
      exact ⟨_, .set rfl rfl fun _ => by rw [hphase]; rfl⟩
    · rename_i hphase
      cases h
      exact ⟨_, .set rfl rfl fun _ => by rw [hphase]; rfl⟩
    · rename_i hphase
      cases h
      exact ⟨_, .set rfl rfl fun _ => by rw [hphase]; rfl⟩
    · cases h
  · cases h

/-- **An execution that is up to date** takes the step of the machine of one worker at a
time: the row it leaves is the job that this step leaves. -/
theorem JobState.act_fresh {s : JobState} {i : Nat} {x : Execution} {action : Action}
    {world : World} {now : Timestamp} {exec : Exec} {r : RunState} (hfresh : x.loaded = s.row)
    (htakes : x.phase.takes s.row action = some exec)
    (hr : RunState.step { job := s.row, world, request := s.request, exec } ⟨now, action⟩ =
      some r) :
    s.act i x action world now = some { s with
      row := r.job
      executions := s.executions.set i { x with loaded := r.job, phase := .ofExec r.exec } } := by
  have hrows : s.row.flush s.row r.job = r.job := by
    refine ProvisioningJob.flush_fresh fun k hk => ?_
    have hleft := (Pipelined.act htakes hr).rows k
    simp only [ProvisioningJob.stepStatus, Option.isSome_map] at hleft
    exact hleft hk
  simp [JobState.act, hfresh, htakes, hr, JobState.commit, hrows]

/-- After the refresh, a stage that still is not done is the machine's own `next`. -/
theorem JobState.proceed_eq {s : JobState} {i : Nat} {x : Execution} {k : Stage}
    {rest : List Stage} {ctx : JobRunContext} {removal : RemovalAnswers} {world : World}
    {now : Timestamp} {r : RunState} (hphase : x.phase = .pipeline (.loop (k :: rest) ctx) true)
    (hrow : (x.loaded.steps k).isSome) (hdone : x.loaded.stepDone k = false)
    (hr : RunState.step
      { job := x.loaded, world, request := s.request, exec := .loop (k :: rest) ctx }
      ⟨now, .next removal⟩ = some r) :
    s.proceed i x removal world now = some (s.commit i x r.job (.ofExec r.exec)) := by
  obtain ⟨step, hstep⟩ := Option.isSome_iff_exists.mp hrow
  have hnot : step.status.done = false := by
    simpa [ProvisioningJob.stepDone, hstep] using hdone
  unfold JobState.proceed
  simp only [hphase]
  simp only [RunState.step, RunState.next, hstep, hnot, Bool.false_eq_true, if_false] at hr
  split at hr
  · rename_i hcancel
    cases hr
    rw [if_pos hcancel]
    rfl
  · rename_i hcancel
    cases hr
    rw [if_neg hcancel]
    rfl

/-- **What a turn does.** -/
theorem JobState.turn_turned {s s' : JobState} {i : Nat} {x : Execution} {turn : Turn}
    {world : World} {now : Timestamp} (hx : s.executions[i]? = some x)
    (h : s.turn i x turn world now = some s') : ∃ y, Turned s i x y s' := by
  unfold JobState.turn at h
  dsimp only at h
  split at h
  · rename_i hphase
    split at h
    · cases h
      exact ⟨_, .set rfl rfl fun _ => by rw [hphase]; rfl⟩
    · cases h
      exact ⟨_, .set rfl rfl fun hlive => by cases hlive⟩
  · rename_i hphase
    split at h
    · cases h
      exact ⟨_, .set rfl rfl fun hlive => by cases hlive⟩
    · cases h
      exact ⟨_, .commit (.ensureSteps x.loaded) fun _ => by rw [hphase]; rfl⟩
  -- the context could not be built: the last commit of this owner
  · rename_i error hphase
    split at h
    · cases h
      exact ⟨_, .set rfl rfl fun hlive => by cases hlive⟩
    · cases h
      have hsteps := Pipelined.ensureSteps x.loaded
      have hfailed := Unclaimed.failBeforePipeline error now
        { job := JobRepository.ensureSteps x.loaded, world }
      exact ⟨_, .lastCommit (hsteps.unclaimed.trans hfailed) (by rw [hphase]; rfl) rfl⟩
  · exact JobState.heartbeat_turned hx h
  · exact JobState.refresh_turned h
  · exact JobState.proceed_turned h
  · exact JobState.act_turned h
  · rename_i hphase
    split at h
    · cases h
      exact ⟨_, .set rfl rfl fun _ => by rw [hphase]; rfl⟩
    · cases h
  · rename_i hphase
    cases h
    exact ⟨_, .set rfl rfl fun _ => by rw [hphase]; rfl⟩
  · rename_i hphase
    cases h
    exact ⟨_, .set rfl rfl fun _ => by rw [hphase]; rfl⟩
  · rename_i hphase
    cases h
    have hfailed := Unclaimed.failBeforePipeline pipelineCrashed now { job := x.loaded, world }
    exact ⟨_, .lastCommit hfailed (by rw [hphase]; rfl) rfl⟩
  · exact JobState.shutDown_turned h
  · rename_i hphase
    split at h
    · cases h
      exact ⟨_, .set rfl rfl fun _ => by rw [hphase]; rfl⟩
    · cases h
      exact ⟨_, .set rfl rfl fun hlive => by cases hlive⟩
  · rename_i hphase
    cases h
    -- the shutdown path gives the job up
    have hinterrupted := Unclaimed.interrupt workerShutDown now { job := x.loaded, world }
    exact ⟨_, .lastCommit hinterrupted (by rw [hphase]; rfl) rfl⟩
  · rename_i contextBuilt removal hphase
    cases h
    have hleft := Pipelined.cleanUp s.request contextBuilt removal { job := x.loaded, world }
    exact ⟨_, .commit hleft fun hlive => by cases hlive⟩
  · cases h

end InfraOps
