import InfraOps.JobRun.Machine

/-!
# What one step can do

`Transition` lists the ways a step can go, each with its guard and its result, and
`transition_of_step` is the inversion of `RunState.step` that every invariant is proved
from: no later proof unfolds the step function.
-/

namespace InfraOps

open RunState

inductive Transition (s : RunState) : Event → RunState → Prop
  | claimed {now : Timestamp} {worker : WorkerId} (hexec : s.exec = .idle)
      (hdue : JobRepository.due s.job now = true) :
      Transition s ⟨now, .claim worker⟩
        { s with job := JobRepository.claim s.job worker now, exec := .claimed }
  | started {now : Timestamp} (hexec : s.exec = .claimed) (hstatus : s.job.status = .running) :
      Transition s ⟨now, .start⟩ { s with
        toDeployment := startRun s.request s.toDeployment
        exec := .loop orderedStages { request := s.request } }
  | startFailed {now : Timestamp} {error : StartError} (hexec : s.exec = .claimed)
      (hstatus : s.job.status = .running) :
      Transition s ⟨now, .startFails error⟩ { s with
        toDeployment := failBeforePipeline error now { s.toDeployment with
          job := JobRepository.ensureSteps s.job }
        exec := .idle }
  | notOwned {now : Timestamp} {action : Action}
      (haction : action = .start ∨ ∃ error, action = .startFails error)
      (hexec : s.exec = .claimed) (hstatus : s.job.status ≠ .running) :
      Transition s ⟨now, action⟩ { s with exec := .idle }
  | beatLoop {now : Timestamp} {rest : List Stage} {ctx : JobRunContext}
      (hexec : s.exec = .loop rest ctx) (hstatus : s.job.status = .running) :
      Transition s ⟨now, .heartbeat⟩ { s with
        job := { s.job with heartbeatAt := some now }
        exec := .loop rest
          { ctx with cancelEvent := ctx.cancelEvent || s.job.cancelRequested } }
  | beatStage {now : Timestamp} {k : Stage} {rest : List Stage} {ctx : JobRunContext}
      (hexec : s.exec = .stage k rest ctx) (hstatus : s.job.status = .running) :
      Transition s ⟨now, .heartbeat⟩ { s with
        job := { s.job with heartbeatAt := some now }
        exec := .stage k rest
          { ctx with cancelEvent := ctx.cancelEvent || s.job.cancelRequested } }
  | finalized {now : Timestamp} {removal : RemovalAnswers} {ctx : JobRunContext}
      (hexec : s.exec = .loop [] ctx) :
      Transition s ⟨now, .next removal⟩ { s with
        toDeployment := finalizeSuccess ctx now s.toDeployment
        exec := .idle }
  | skipped {now : Timestamp} {removal : RemovalAnswers} {k : Stage} {rest : List Stage}
      {ctx : JobRunContext} (hexec : s.exec = .loop (k :: rest) ctx)
      (hskip : s.job.steps k = none ∨ s.job.stepDone k = true) :
      Transition s ⟨now, .next removal⟩ { s with exec := .loop rest ctx }
  | cancelledBetween {now : Timestamp} {removal : RemovalAnswers} {k : Stage}
      {rest : List Stage} {ctx : JobRunContext} (hexec : s.exec = .loop (k :: rest) ctx)
      (hrow : (s.job.steps k).isSome) (hdone : s.job.stepDone k = false)
      (hcancel : s.job.cancelRequested = true) :
      Transition s ⟨now, .next removal⟩ { s with
        toDeployment := applyCancellation ctx removal now s.toDeployment
        exec := .idle }
  | startedStage {now : Timestamp} {removal : RemovalAnswers} {k : Stage} {rest : List Stage}
      {ctx : JobRunContext} (hexec : s.exec = .loop (k :: rest) ctx)
      (hrow : (s.job.steps k).isSome) (hdone : s.job.stepDone k = false)
      (hcancel : s.job.cancelRequested = false) :
      Transition s ⟨now, .next removal⟩
        { s with job := startStage k now s.job, exec := .stage k rest ctx }
  | returned {now : Timestamp} {answers : StageAnswers} {removal : RemovalAnswers}
      {screenshot : Option String} {k : Stage} {rest : List Stage} {ctx : JobRunContext}
      {run : HandlerRun} {outcome : StageOutcome} (hexec : s.exec = .stage k rest ctx)
      (hrun : runHandler k ctx s.job s.world answers = some run)
      (hresult : run.result = .ok outcome) :
      Transition s ⟨now, .finish answers removal screenshot⟩
        { s.endStage k rest (assignContext ctx run.assignments)
            (s.returnedWith k run outcome now) with
          answerIso := s.attachedIso k outcome }
  | raised {now : Timestamp} {answers : StageAnswers} {removal : RemovalAnswers}
      {screenshot : Option String} {k : Stage} {rest : List Stage} {ctx : JobRunContext}
      {run : HandlerRun} {raised : Raised} (hexec : s.exec = .stage k rest ctx)
      (hrun : runHandler k ctx s.job s.world answers = some run)
      (hresult : run.result = .error raised) :
      Transition s ⟨now, .finish answers removal screenshot⟩
        (s.endStage k rest (assignContext ctx run.assignments)
          (handleFailure (assignContext ctx run.assignments) k (raised.failure k) screenshot
            removal now (s.ranTo run)))
  | timedOut {now : Timestamp} {answers : StageAnswers} {cut : Cut} {seconds : Nat}
      {removal : RemovalAnswers} {screenshot : Option String} {k : Stage} {rest : List Stage}
      {ctx : JobRunContext} {run : HandlerRun} (hexec : s.exec = .stage k rest ctx)
      (hrun : runHandler k ctx s.job s.world answers = some run) :
      Transition s ⟨now, .timeOut answers cut seconds removal screenshot⟩
        { s.endStage k rest (assignContext ctx (run.assignmentsBefore cut))
            (handleFailure (assignContext ctx (run.assignmentsBefore cut)) k
              (timeoutFailure k seconds) screenshot removal now (s.cutAt run cut)) with
          inFlight := s.inFlight ++ [run.effectsAfter cut] }
  | cancelledWithin {now : Timestamp} {answers : StageAnswers} {cut : Cut}
      {removal : RemovalAnswers} {k : Stage} {rest : List Stage} {ctx : JobRunContext}
      {run : HandlerRun} (hexec : s.exec = .stage k rest ctx) (hevent : ctx.cancelEvent = true)
      (hrun : runHandler k ctx s.job s.world answers = some run) :
      Transition s ⟨now, .stageCancelled answers cut removal⟩
        { s.endStage k rest (assignContext ctx (run.assignmentsBefore cut))
            (cancelStage (assignContext ctx (run.assignmentsBefore cut)) k removal now
              (s.cutAt run cut)) with
          inFlight := s.inFlight ++ [run.effectsAfter cut] }
  | crashed {now : Timestamp} {abort : Abort} {s₁ : RunState} (hexec : s.exec.stopped = false)
      (hclaimed : s.exec ≠ .claimed) (habort : s.aborted abort = some s₁) :
      Transition s ⟨now, .crash abort⟩ { s₁ with
        toDeployment := failBeforePipeline pipelineCrashed now s₁.toDeployment
        exec := .idle }
  | interrupted {now : Timestamp} {reason : String} {abort : Abort} {s₁ : RunState}
      (habort : s.aborted abort = some s₁) (hstatus : s.job.status = .running) :
      Transition s ⟨now, .interrupt reason abort⟩ { s₁ with
        toDeployment := interrupt reason now s₁.toDeployment
        exec := .releasing
        cleanedUp := false }
  | abandoned {now : Timestamp} {reason : String} {abort : Abort} {s₁ : RunState}
      (habort : s.aborted abort = some s₁) (hstatus : s.job.status ≠ .running) :
      Transition s ⟨now, .interrupt reason abort⟩ { s₁ with exec := .idle }
  | cleanedUp {now : Timestamp} {contextBuilt : Bool} {removal : RemovalAnswers}
      (hexec : s.exec = .releasing) :
      Transition s ⟨now, .cleanUp contextBuilt removal⟩ { s with
        toDeployment := InfraOps.cleanUp s.request contextBuilt removal s.toDeployment
        exec := .idle
        cleanedUp := contextBuilt }
  | landed {now : Timestamp} {thread : Nat} {e : Effect} {es : List Effect}
      (hflight : s.inFlight[thread]? = some (e :: es)) :
      Transition s ⟨now, .land thread⟩
        { s with world := s.world.apply e, inFlight := s.inFlight.set thread es }
  | cancelled {now : Timestamp} {job : ProvisioningJob} (hjob : cancelJob s.job now = .ok job) :
      Transition s ⟨now, .cancel⟩ { s with job }
  | retried {now : Timestamp} {stageKey : Option String} {parses : Bool}
      {others othersAtCommit : List OtherJob} {job : ProvisioningJob} {reset : List Stage}
      (hjob : retryStages s.job stageKey parses others othersAtCommit now = .ok (job, reset)) :
      Transition s ⟨now, .retry stageKey parses others othersAtCommit⟩ { s with job }

/-! ## What an abandoned run leaves -/

theorem releasing_eq (d : Deployment) (ctx : JobRunContext) (removal : Option RemovalAnswers) :
    ∃ es, releasing d ctx removal = d.world.applyAll es ∧
      ∀ e ∈ es, e = .detach (recordedPath d.job) ∨ e = .delete (recordedPath d.job) := by
  cases removal with
  | none => exact ⟨[], rfl, by simp⟩
  | some a =>
    rcases releaseUnattendedMedia_cases ctx "" a d with ⟨-, h⟩ | ⟨-, -, h⟩
    · exact h
    · exact ⟨_, h, by simp⟩

/-- **An aborted run** keeps everything but the world and the threads in flight. -/
theorem aborted_spec {s s₁ : RunState} {abort : Abort} (h : s.aborted abort = some s₁) :
    s₁.job = s.job ∧ s₁.records = s.records ∧ s₁.request = s.request ∧
      s₁.answerIso = s.answerIso ∧ s₁.cleanedUp = s.cleanedUp ∧ s.exec.stopped = false := by
  unfold aborted at h
  split at h
  · rename_i hexec
    cases h
    simp [hexec, Exec.stopped]
  · rename_i hexec
    cases h
    simp [hexec, Exec.stopped]
  · rename_i hexec
    obtain ⟨run, -, rfl⟩ := Option.map_eq_some_iff.mp h
    simp [hexec, Exec.stopped]
  · cases h

/-! ## Inversion -/

theorem transition_of_step {s s' : RunState} {e : Event} (h : jobRun.step s e = some s') :
    Transition s e s' := by
  change s.step e = some s' at h
  obtain ⟨now, action⟩ := e
  cases action with
  | claim worker =>
    simp only [RunState.step, RunState.claim] at h
    split at h
    · split at h
      · cases h; exact .claimed ‹_› ‹_›
      · cases h
    · cases h
  | start =>
    simp only [RunState.step, RunState.start] at h
    split at h
    · split at h
      · cases h; exact .started ‹_› ‹_›
      · cases h; exact .notOwned (.inl rfl) ‹_› ‹_›
    · cases h
  | startFails error =>
    simp only [RunState.step, RunState.startFails] at h
    split at h
    · split at h
      · cases h; exact .startFailed ‹_› ‹_›
      · cases h; exact .notOwned (.inr ⟨error, rfl⟩) ‹_› ‹_›
    · cases h
  | heartbeat =>
    simp only [RunState.step, RunState.heartbeat] at h
    split at h
    · split at h
      · cases h; exact .beatLoop ‹_› ‹_›
      · cases h; exact .beatStage ‹_› ‹_›
      · cases h
    · cases h
  | next removal =>
    simp only [RunState.step, RunState.next] at h
    split at h
    · cases h; exact .finalized ‹_›
    · rename_i k rest ctx hexec
      split at h
      · cases h; exact .skipped hexec (.inl ‹_›)
      · rename_i step hstep
        split at h
        · rename_i hdone
          cases h
          exact .skipped hexec (.inr (by simp [ProvisioningJob.stepDone, hstep, hdone]))
        · rename_i hdone
          have hdone : s.job.stepDone k = false := by
            simp [ProvisioningJob.stepDone, hstep, hdone]
          have hrow : (s.job.steps k).isSome := by rw [hstep]; rfl
          split at h
          · cases h; exact .cancelledBetween hexec hrow hdone ‹_›
          · rename_i hcancel
            cases h
            exact .startedStage hexec hrow hdone (by simpa using hcancel)
    · cases h
  | finish answers removal screenshot =>
    simp only [RunState.step, RunState.finish] at h
    split at h
    · rename_i k rest ctx hexec
      obtain ⟨run, hrun, hs'⟩ := Option.map_eq_some_iff.mp h
      cases hresult : run.result with
      | ok outcome =>
        simp only [hresult] at hs'
        subst hs'
        exact .returned hexec hrun hresult
      | error raised =>
        simp only [hresult] at hs'
        subst hs'
        exact .raised hexec hrun hresult
    · cases h
  | timeOut answers cut seconds removal screenshot =>
    simp only [RunState.step, RunState.timeOut] at h
    split at h
    · rename_i k rest ctx hexec
      obtain ⟨run, hrun, rfl⟩ := Option.map_eq_some_iff.mp h
      exact .timedOut hexec hrun
    · cases h
  | stageCancelled answers cut removal =>
    simp only [RunState.step, RunState.stageCancelled] at h
    split at h
    · rename_i k rest ctx hexec
      split at h
      · obtain ⟨run, hrun, rfl⟩ := Option.map_eq_some_iff.mp h
        exact .cancelledWithin hexec ‹_› hrun
      · cases h
    · cases h
  | crash abort =>
    simp only [RunState.step, RunState.crash] at h
    split at h
    · rename_i hexec
      obtain ⟨s₁, habort, rfl⟩ := Option.map_eq_some_iff.mp h
      exact .crashed (by simp [hexec, Exec.stopped]) (by simp [hexec]) habort
    · rename_i hexec
      obtain ⟨s₁, habort, rfl⟩ := Option.map_eq_some_iff.mp h
      exact .crashed (by simp [hexec, Exec.stopped]) (by simp [hexec]) habort
    · cases h
  | interrupt reason abort =>
    simp only [RunState.step, RunState.interrupted] at h
    obtain ⟨s₁, habort, hs'⟩ := Option.map_eq_some_iff.mp h
    have hjob := (aborted_spec habort).1
    split at hs'
    · subst hs'
      exact .interrupted habort (by rw [← hjob]; assumption)
    · subst hs'
      exact .abandoned habort (by rw [← hjob]; assumption)
  | cleanUp contextBuilt removal =>
    simp only [RunState.step, RunState.cleanUp] at h
    split at h
    · cases h; exact .cleanedUp ‹_›
    · cases h
  | land thread =>
    simp only [RunState.step, RunState.land] at h
    split at h
    · cases h; exact .landed ‹_›
    · cases h
  | cancel =>
    simp only [RunState.step, RunState.cancel] at h
    split at h
    · cases h; exact .cancelled ‹_›
    · cases h
  | retry stageKey parses others othersAtCommit =>
    simp only [RunState.step, RunState.retry] at h
    split at h
    · cases h; exact .retried ‹_›
    · cases h

end InfraOps
