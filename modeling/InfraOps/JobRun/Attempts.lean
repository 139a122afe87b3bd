import InfraOps.JobRun.Media

/-!
# Attempts of the preparation

Every attempt of `prepare_unattended_install` has its own number, and an ISO is stored
under the number of the attempt that built it. `AttemptInv` says that nothing outside
carries the number of an attempt that has not begun to act: an ISO, a drive and an upload
still in flight all belong to CLOSED attempts.
-/

namespace InfraOps

open JobRepository RunState

/-! ## The attempt counter -/

/-- The attempts of the preparation so far. -/
abbrev attempts (job : ProvisioningJob) : Nat := job.attempt .prepareUnattendedInstall

theorem attempts_ensureSteps (job : ProvisioningJob) :
    attempts (ensureSteps job) = attempts job := by
  simp only [attempts, ProvisioningJob.attempt, ensureSteps_steps]
  cases job.steps .prepareUnattendedInstall <;> rfl

theorem cancelStep_attempt (step : Step) : (cancelStep step).attempt = step.attempt := by
  unfold cancelStep
  split <;> rfl

theorem interruptStep_attempt (reason : String) (now : Timestamp) (step : Step) :
    (interruptStep reason now step).attempt = step.attempt := by
  unfold interruptStep
  split <;> rfl

theorem attempts_applyAssignments (job : ProvisioningJob) (as : List Assignment) :
    attempts (applyAssignments job as) = attempts job := by
  refine applyAssignments_induction (P := fun j => attempts j = attempts job) ?_ rfl
  intro j a _ hj
  rw [← hj]
  cases a with
  | mediaRemoved =>
    exact ProvisioningJob.attempt_setStep (f := markMediaRemoved) (fun _ => rfl) _
  | _ => rfl

theorem attempts_handleFailure (ctx : JobRunContext) (k : Stage) (f : InfraOperationError)
    (screenshot : Option String) (removal : RemovalAnswers) (now : Timestamp) (d : Deployment) :
    attempts (handleFailure ctx k f screenshot removal now d).job = attempts d.job := by
  obtain ⟨records, hjob, -⟩ := handleFailure_eq ctx k f screenshot removal now d
  rw [hjob, attempts, release_attempt]
  exact failJob_attempt k f screenshot now d.job _

theorem attempts_cancelStage (ctx : JobRunContext) (k : Stage) (removal : RemovalAnswers)
    (now : Timestamp) (d : Deployment) :
    attempts (cancelStage ctx k removal now d).job = attempts d.job := by
  rw [cancelStage, attempts, applyCancellation_attempt]
  exact ProvisioningJob.attempt_setStep (f := cancelledStep now) (fun _ => rfl) _

theorem attempts_cleanUp (r : ProvisioningRequest) (contextBuilt : Bool)
    (removal : RemovalAnswers) (d : Deployment) :
    attempts (cleanUp r contextBuilt removal d).job = attempts d.job := by
  unfold cleanUp
  split
  · exact release_attempt _ _ _ _ _
  · rfl

theorem attempts_cancelJob {job job' : ProvisioningJob} {now : Timestamp}
    (h : cancelJob job now = .ok job') : attempts job' = attempts job := by
  rcases cancelJob_ok h with ⟨-, -, rfl⟩ | ⟨-, -, rfl⟩
  · rfl
  · unfold requestCancel
    dsimp only
    split
    · exact ProvisioningJob.attempt_mapSteps cancelStep_attempt _
    · exact ProvisioningJob.attempt_mapSteps cancelStep_attempt _
    · rfl

theorem attempts_retryStages {job job' : ProvisioningJob} {stageKey : Option String}
    {parses : Bool} {others othersAtCommit : List OtherJob} {now : Timestamp}
    {reset : List Stage}
    (h : retryStages job stageKey parses others othersAtCommit now = .ok (job', reset)) :
    attempts job' = attempts job := by
  obtain ⟨-, stageKeys, hrequeued⟩ := retryStages_requeued h
  simp only [attempts, ProvisioningJob.attempt, hrequeued.steps]
  cases job.steps .prepareUnattendedInstall with
  | none => rfl
  | some step =>
    simp only [Option.map_some, Option.getD_some]
    split <;> rfl

/-- The start of an attempt. -/
def StartsAttempt (s s' : RunState) : Prop :=
  (∃ rest ctx, s'.exec = .stage .prepareUnattendedInstall rest ctx) ∧
    attempts s'.job = attempts s.job + 1 ∧ s'.world = s.world ∧ s'.inFlight = s.inFlight ∧
    s'.answerIso = s.answerIso ∧ ∃ rest ctx, s.exec = .loop rest ctx

/-- **The counter moves only when the preparation starts.** -/
theorem Transition.counter {s s' : RunState} {e : Event} (h : Transition s e s') :
    attempts s'.job = attempts s.job ∨ StartsAttempt s s' := by
  cases h with
  | @startedStage now removal k rest ctx hexec hrow hdone hcancel =>
    -- starting another stage counts another row's attempts
    by_cases hk : k = .prepareUnattendedInstall
    · subst hk
      exact .inr ⟨⟨rest, ctx, rfl⟩, startStage_attempt_self now hrow, rfl, rfl, rfl, _, _, hexec⟩
    · exact .inl (startStage_attempt_ne (Ne.symm hk) now s.job)
  | claimed hexec hdue => exact .inl rfl
  | started hexec hstatus => exact .inl (attempts_ensureSteps s.job)
  | startFailed hexec hstatus =>
    exact .inl ((ProvisioningJob.attempt_mapSteps cancelStep_attempt _).trans
      (attempts_ensureSteps s.job))
  | returned hexec hrun hresult =>
    exact .inl ((finishStage_attempt _ _ _ _ _).trans (attempts_applyAssignments s.job _))
  | raised hexec hrun hresult =>
    exact .inl ((attempts_handleFailure _ _ _ _ _ _ _).trans (attempts_applyAssignments s.job _))
  | timedOut hexec hrun =>
    exact .inl ((attempts_handleFailure _ _ _ _ _ _ _).trans (attempts_applyAssignments s.job _))
  | cancelledWithin hexec hevent hrun =>
    exact .inl ((attempts_cancelStage _ _ _ _ _).trans (attempts_applyAssignments s.job _))
  | cancelledBetween hexec hrow hdone hcancel => exact .inl (applyCancellation_attempt _ _ _ _ _)
  | crashed hexec hclaimed habort =>
    refine .inl ((ProvisioningJob.attempt_mapSteps cancelStep_attempt _).trans ?_)
    rw [(aborted_spec habort).1]
  | interrupted habort hstatus =>
    refine .inl ((ProvisioningJob.attempt_mapSteps (interruptStep_attempt _ _) _).trans ?_)
    rw [(aborted_spec habort).1]
  | abandoned habort hstatus => exact .inl (by rw [(aborted_spec habort).1])
  | cleanedUp hexec => exact .inl (attempts_cleanUp _ _ _ _)
  | cancelled hjob => exact .inl (attempts_cancelJob hjob)
  | retried hjob => exact .inl (attempts_retryStages hjob)
  | _ => exact .inl rfl

/-! ## Numbers outside -/

/-- Everything outside carries a number up to `n`. -/
structure World.Upto (n : Nat) (w : World) : Prop where
  stored : ∀ path m, w.stored path = some m → m ≤ n
  drive : ∀ path m, w.drive path = some m → m ≤ n

/-- The effect writes no number beyond `n`. -/
def Effect.upto (n : Nat) : Effect → Prop
  | .upload _ m | .attach _ m => m ≤ n
  | _ => True

theorem World.Upto.mono {n m : Nat} {w : World} (h : w.Upto n) (hnm : n ≤ m) : w.Upto m :=
  ⟨fun path i hi => (h.stored path i hi).trans hnm, fun path i hi => (h.drive path i hi).trans hnm⟩

theorem Effect.upto.mono {n m : Nat} {e : Effect} (h : e.upto n) (hnm : n ≤ m) : e.upto m := by
  cases e with
  | upload path i => exact le_trans h hnm
  | attach path i => exact le_trans h hnm
  | _ => trivial

theorem Effect.upto_of_prepares {n m : Nat} {e : Effect} (h : e.prepares m) (hm : m ≤ n) :
    e.upto n := by
  obtain ⟨path, rfl | rfl⟩ := h <;> exact hm

theorem Effect.upto_of_not_media {n : Nat} {e : Effect} (h : e.media = false) : e.upto n := by
  cases e <;> simp_all [Effect.media, Effect.upto]

theorem Effect.upto_of_removes {n : Nat} {path : String} {e : Effect} (h : e.removes path) :
    e.upto n := by
  rcases h with rfl | rfl <;> trivial

theorem World.Upto.apply {n : Nat} {w : World} {e : Effect} (hw : w.Upto n) (he : e.upto n) :
    (w.apply e).Upto n := by
  cases e with
  | upload path m =>
    refine ⟨fun path' i hi => ?_, hw.drive⟩
    by_cases hp : path' = path
    · subst hp
      simp only [World.apply, Function.update_self, Option.some.injEq] at hi
      exact hi ▸ he
    · exact hw.stored path' i (by simpa [World.apply, hp] using hi)
  | attach path m =>
    refine ⟨hw.stored, fun path' i hi => ?_⟩
    by_cases hp : path' = path
    · subst hp
      simp only [World.apply, Function.update_self, Option.some.injEq] at hi
      exact hi ▸ he
    · exact hw.drive path' i (by simpa [World.apply, hp] using hi)
  | detach path =>
    refine ⟨hw.stored, fun path' i hi => ?_⟩
    by_cases hp : path' = path
    · subst hp
      simp [World.apply] at hi
    · exact hw.drive path' i (by simpa [World.apply, hp] using hi)
  | delete path =>
    refine ⟨fun path' i hi => ?_, hw.drive⟩
    by_cases hp : path' = path
    · subst hp
      simp [World.apply] at hi
    · exact hw.stored path' i (by simpa [World.apply, hp] using hi)
  | rename name =>
    unfold World.apply
    dsimp only
    split
    · exact hw
    · exact ⟨hw.stored, hw.drive⟩
  | restart => exact ⟨hw.stored, hw.drive⟩

theorem World.Upto.applyAll {n : Nat} {w : World} {es : List Effect} (hw : w.Upto n)
    (hes : ∀ e ∈ es, e.upto n) : (w.applyAll es).Upto n :=
  World.applyAll_induction (P := World.Upto n) (fun _ e he hw => hw.apply (hes e he)) hw

/-- Every effect of a handler carries at most the number of the current attempt. -/
theorem RunOf.upto {k : Stage} {ctx : JobRunContext} {job : ProvisioningJob} {w : World}
    {run : HandlerRun} (h : RunOf k ctx job w run) {e : Effect} (he : e ∈ run.effects) :
    e.upto (attempts job) := by
  cases hm : e.media with
  | false => exact Effect.upto_of_not_media hm
  | true =>
    rcases h.media he hm with ⟨-, hp⟩ | ⟨-, path, -, hr⟩
    · exact Effect.upto_of_prepares hp le_rfl
    · exact Effect.upto_of_removes hr

/-! ## Where an effect comes from -/

/-- An effect that a step from `s` may have, or leave in flight. -/
inductive Effect.From (s : RunState) (e : Effect) : Prop
  | handler {k : Stage} {rest : List Stage} {ctx : JobRunContext} {run : HandlerRun}
      (hexec : s.exec = .stage k rest ctx) (hrun : RunOf k ctx s.job s.world run)
      (he : e ∈ run.effects)
  | release (he : e.removes (recordedPath s.job))
  | thread {es : List Effect} (hes : es ∈ s.inFlight) (he : e ∈ es)

theorem recordedPath_setStep {job : ProvisioningJob} {k : Stage} {f : Step → Step}
    (hf : ∀ step, (f step).artifacts.str? .datastorePath = step.artifacts.str? .datastorePath) :
    recordedPath (job.setStep k f) = recordedPath job := by
  by_cases hk : k = .prepareUnattendedInstall
  · subst hk
    cases hs : job.steps .prepareUnattendedInstall with
    | none => simp [recordedPath, ProvisioningJob.stepArtifacts, hs]
    | some step => simp [recordedPath, ProvisioningJob.stepArtifacts, hs, hf]
  · rw [recordedPath, recordedPath, ProvisioningJob.stepArtifacts_setStep_ne _ (Ne.symm hk)]

theorem recordedPath_applyAssignments (job : ProvisioningJob) (as : List Assignment) :
    recordedPath (applyAssignments job as) = recordedPath job := by
  refine applyAssignments_induction (P := fun j => recordedPath j = recordedPath job) ?_ rfl
  intro j a _ hj
  rw [← hj]
  cases a with
  | mediaRemoved =>
    exact recordedPath_setStep fun step => Artifacts.str?_insert_ne _ _ (by decide)
  | _ => rfl

/-- The effects of a release, whichever way it goes. -/
theorem release_effects (ctx : JobRunContext) (reason : String) (a : RemovalAnswers)
    (d : Deployment) : ∃ es, (releaseUnattendedMedia ctx reason a d).1.world =
      d.world.applyAll es ∧ ∀ e ∈ es, e.removes (recordedPath d.job) := by
  rcases releaseUnattendedMedia_cases ctx reason a d with ⟨-, h⟩ | ⟨-, -, h⟩
  · exact h
  · exact ⟨_, h, by simp [Effect.removes]⟩

theorem handleFailure_effects (ctx : JobRunContext) (k : Stage) (f : InfraOperationError)
    (screenshot : Option String) (removal : RemovalAnswers) (now : Timestamp) (d : Deployment) :
    ∃ es, (handleFailure ctx k f screenshot removal now d).world = d.world.applyAll es ∧
      ∀ e ∈ es, e.removes (recordedPath d.job) := by
  obtain ⟨records, -, hworld⟩ := handleFailure_eq ctx k f screenshot removal now d
  obtain ⟨es, hes, hremoves⟩ := release_effects ctx s!"stage '{k.key}' failed" removal
    { d with job := failJob k f screenshot now d.job, records }
  refine ⟨es, hworld.trans hes, ?_⟩
  have hpath : recordedPath (failJob k f screenshot now d.job) = recordedPath d.job := by
    rw [recordedPath, recordedPath, failJob_stepArtifacts rfl]
  simpa only [hpath] using hremoves

theorem cancelStage_effects (ctx : JobRunContext) (k : Stage) (removal : RemovalAnswers)
    (now : Timestamp) (d : Deployment) :
    ∃ es, (cancelStage ctx k removal now d).world = d.world.applyAll es ∧
      ∀ e ∈ es, e.removes (recordedPath d.job) := by
  obtain ⟨es, hes, hremoves⟩ := release_effects ctx "job cancelled" removal
    { d with job := d.job.setStep k (cancelledStep now) }
  refine ⟨es, hes, ?_⟩
  simpa only [recordedPath_setStep (f := cancelledStep now) (fun _ => rfl)] using hremoves

/-- What a handler has done, and the removals that follow it. -/
theorem from_of_done {s : RunState} {k : Stage} {rest : List Stage} {ctx : JobRunContext}
    {run : HandlerRun} {done es : List Effect} {w : World} (hexec : s.exec = .stage k rest ctx)
    (hof : RunOf k ctx s.job s.world run) (hdone : ∀ e ∈ done, e ∈ run.effects)
    (hworld : w = (s.world.applyAll done).applyAll es)
    (hremoves : ∀ e ∈ es, e.removes (recordedPath s.job)) :
    ∃ fs, w = s.world.applyAll fs ∧ ∀ e ∈ fs, e.From s := by
  refine ⟨done ++ es, by rw [World.applyAll_append, hworld], fun e he => ?_⟩
  rcases List.mem_append.mp he with he | he
  · exact .handler hexec hof (hdone e he)
  · exact .release (hremoves e he)

/-- The threads once a handler has been cut short: its own still does the rest. -/
theorem from_of_cut {s : RunState} {k : Stage} {rest : List Stage} {ctx : JobRunContext}
    {run : HandlerRun} (hexec : s.exec = .stage k rest ctx)
    (hof : RunOf k ctx s.job s.world run) (cut : Cut) :
    ∀ fs ∈ s.inFlight ++ [run.effectsAfter cut], ∀ e ∈ fs, e.From s := by
  intro fs hfs e he
  rcases List.mem_append.mp hfs with hfs | hfs
  · exact .thread hfs he
  · rw [List.mem_singleton.mp hfs] at he
    exact .handler hexec hof (HandlerRun.mem_effectsAfter he)

/-- The effects of an aborted run, landed and in flight. -/
theorem aborted_effects {s s₁ : RunState} {abort : Abort} (h : s.aborted abort = some s₁) :
    (∃ es, s₁.world = s.world.applyAll es ∧ ∀ e ∈ es, e.From s) ∧
      ∀ es ∈ s₁.inFlight, ∀ e ∈ es, e.From s := by
  unfold aborted at h
  split at h
  · cases h
    exact ⟨⟨[], rfl, by simp⟩, fun es hes e he => .thread hes he⟩
  · rename_i rest ctx hexec
    cases h
    obtain ⟨es, hes, hremoves⟩ := releasing_eq s.toDeployment ctx abort.removal
    exact ⟨⟨es, hes, fun e he => .release (hremoves e he)⟩, fun es hes e he => .thread hes he⟩
  · rename_i k rest ctx hexec
    obtain ⟨run, hrun, rfl⟩ := Option.map_eq_some_iff.mp h
    have hof := runHandler_runOf hrun
    obtain ⟨es, hes, hremoves⟩ := releasing_eq (s.cutAt run abort.cut) ctx abort.removal
    rw [show recordedPath (s.cutAt run abort.cut).job = recordedPath s.job from
      recordedPath_applyAssignments s.job _] at hremoves
    exact ⟨from_of_done hexec hof (fun e => HandlerRun.mem_effectsBefore) hes hremoves,
      from_of_cut hexec hof abort.cut⟩
  · cases h

/-- **Every effect of a step** is the running handler's, a release's, or an abandoned
thread's. -/
theorem Transition.outside {s s' : RunState} {ev : Event} (h : Transition s ev s') :
    (∃ es, s'.world = s.world.applyAll es ∧ ∀ e ∈ es, e.From s) ∧
      ∀ es ∈ s'.inFlight, ∀ e ∈ es, e.From s := by
  cases h with
  | cancelledBetween hexec hrow hdone hcancel =>
    obtain ⟨es, hes, hremoves⟩ := release_effects ‹_› "job cancelled" ‹_› s.toDeployment
    exact ⟨⟨es, hes, fun e he => .release (hremoves e he)⟩, fun es hes e he => .thread hes he⟩
  | @returned now answers removal screenshot k rest ctx run outcome hexec hrun hresult =>
    have hof := runHandler_runOf hrun
    exact ⟨⟨run.effects, rfl, fun e he => .handler hexec hof he⟩,
      fun es hes e he => .thread hes he⟩
  | @raised now answers removal screenshot k rest ctx run raised hexec hrun hresult =>
    have hof := runHandler_runOf hrun
    obtain ⟨es, hes, hremoves⟩ := handleFailure_effects (assignContext ctx run.assignments) k
      (raised.failure k) screenshot removal now (s.ranTo run)
    rw [show recordedPath (s.ranTo run).job = recordedPath s.job from
      recordedPath_applyAssignments s.job run.assignments] at hremoves
    exact ⟨from_of_done hexec hof (fun _ he => he) hes hremoves,
      fun es hes e he => .thread hes he⟩
  | @timedOut now answers cut seconds removal screenshot k rest ctx run hexec hrun =>
    have hof := runHandler_runOf hrun
    obtain ⟨es, hes, hremoves⟩ := handleFailure_effects
      (assignContext ctx (run.assignmentsBefore cut)) k (timeoutFailure k seconds) screenshot
      removal now (s.cutAt run cut)
    rw [show recordedPath (s.cutAt run cut).job = recordedPath s.job from
      recordedPath_applyAssignments s.job _] at hremoves
    exact ⟨from_of_done hexec hof (fun e => HandlerRun.mem_effectsBefore) hes hremoves,
      from_of_cut hexec hof cut⟩
  | @cancelledWithin now answers cut removal k rest ctx run hexec hevent hrun =>
    have hof := runHandler_runOf hrun
    obtain ⟨es, hes, hremoves⟩ := cancelStage_effects
      (assignContext ctx (run.assignmentsBefore cut)) k removal now (s.cutAt run cut)
    rw [show recordedPath (s.cutAt run cut).job = recordedPath s.job from
      recordedPath_applyAssignments s.job _] at hremoves
    exact ⟨from_of_done hexec hof (fun e => HandlerRun.mem_effectsBefore) hes hremoves,
      from_of_cut hexec hof cut⟩
  | crashed hexec hclaimed habort =>
    obtain ⟨hworld, hthreads⟩ := aborted_effects habort
    exact ⟨hworld, hthreads⟩
  | interrupted habort hstatus =>
    obtain ⟨hworld, hthreads⟩ := aborted_effects habort
    exact ⟨hworld, hthreads⟩
  | abandoned habort hstatus =>
    obtain ⟨hworld, hthreads⟩ := aborted_effects habort
    exact ⟨hworld, hthreads⟩
  | @cleanedUp now contextBuilt removal hexec =>
    refine ⟨?_, fun es hes e he => .thread hes he⟩
    simp only [InfraOps.cleanUp]
    split
    · obtain ⟨es, hes, hremoves⟩ := release_effects { request := s.request } "job interrupted"
        removal s.toDeployment
      exact ⟨es, hes, fun e he => .release (hremoves e he)⟩
    · exact ⟨[], rfl, by simp⟩
  | @landed now thread e es hflight =>
    have hmem := List.mem_of_getElem? hflight
    refine ⟨⟨[e], rfl, fun e' he' => ?_⟩, fun fs hfs e' he' => ?_⟩
    · rw [List.mem_singleton.mp he']
      exact .thread hmem (by simp)
    · rcases List.mem_or_eq_of_mem_set hfs with hfs | rfl
      · exact .thread hfs he'
      · exact .thread hmem (by simp [he'])
  | _ => exact ⟨⟨[], rfl, by simp⟩, fun es hes e he => .thread hes he⟩

/-! ## The invariant -/

/-- The last attempt that has acted: the running one has not yet. -/
def lastClosed (s : RunState) : Nat :=
  match s.exec with
  | .stage .prepareUnattendedInstall _ _ => attempts s.job - 1
  | _ => attempts s.job

structure AttemptInv (s : RunState) : Prop where
  world : s.world.Upto (lastClosed s)
  inFlight : ∀ es ∈ s.inFlight, ∀ e ∈ es, e.upto (lastClosed s)
  iso : ∀ iso, s.answerIso = some iso → iso.attempt ≤ lastClosed s
  running : ∀ rest ctx, s.exec = .stage .prepareUnattendedInstall rest ctx → 0 < attempts s.job

theorem lastClosed_le (s : RunState) : lastClosed s ≤ attempts s.job := by
  unfold lastClosed
  split <;> omega

theorem lastClosed_of_running {s : RunState} {rest : List Stage} {ctx : JobRunContext}
    (h : s.exec = .stage .prepareUnattendedInstall rest ctx) :
    lastClosed s = attempts s.job - 1 := by
  simp [lastClosed, h]

theorem lastClosed_of_ne {s : RunState}
    (h : ∀ rest ctx, s.exec ≠ .stage .prepareUnattendedInstall rest ctx) :
    lastClosed s = attempts s.job := by
  unfold lastClosed
  split
  · rename_i rest ctx hexec
    exact absurd hexec (h rest ctx)
  · rfl

/-- A step that leaves the preparation running is none of its ends. -/
theorem Transition.still_running {s s' : RunState} {e : Event} (h : Transition s e s')
    {rest : List Stage} {ctx : JobRunContext}
    (hexec' : s'.exec = .stage .prepareUnattendedInstall rest ctx) :
    StartsAttempt s s' ∨ ((∃ ctx', s.exec = .stage .prepareUnattendedInstall rest ctx') ∧
      s'.answerIso = s.answerIso ∧
      ((s'.world = s.world ∧ s'.inFlight = s.inFlight) ∨ ∃ thread e es,
        s.inFlight[thread]? = some (e :: es) ∧ s'.world = s.world.apply e ∧
          s'.inFlight = s.inFlight.set thread es)) := by
  cases h with
  | startedStage hexec hrow hdone hcancel =>
    cases hexec'
    exact .inl ⟨⟨rest, ctx, rfl⟩, startStage_attempt_self _ hrow, rfl, rfl, rfl, _, _, hexec⟩
  | beatStage hexec hstatus =>
    cases hexec'
    exact .inr ⟨⟨_, hexec⟩, rfl, .inl ⟨rfl, rfl⟩⟩
  | landed hflight => exact .inr ⟨⟨ctx, hexec'⟩, rfl, .inr ⟨_, _, _, hflight, rfl, rfl⟩⟩
  | cancelled hjob => exact .inr ⟨⟨ctx, hexec'⟩, rfl, .inl ⟨rfl, rfl⟩⟩
  | retried hjob => exact .inr ⟨⟨ctx, hexec'⟩, rfl, .inl ⟨rfl, rfl⟩⟩
  | returned hexec hrun hresult => exact absurd hexec' (afterStage_ne_stage _ _ _ _ _ _ _)
  | raised hexec hrun hresult => exact absurd hexec' (afterStage_ne_stage _ _ _ _ _ _ _)
  | timedOut hexec hrun => exact absurd hexec' (afterStage_ne_stage _ _ _ _ _ _ _)
  | cancelledWithin hexec hevent hrun => exact absurd hexec' (afterStage_ne_stage _ _ _ _ _ _ _)
  | _ => cases hexec'

/-- The ISO on record changes only to one of the attempt that ran. -/
theorem Transition.answerIso {s s' : RunState} {e : Event} (h : Transition s e s')
    {iso : AnswerIso} (hiso : s'.answerIso = some iso) :
    s.answerIso = some iso ∨ iso.attempt = attempts s.job := by
  cases h with
  | returned hexec hrun hresult =>
    simp only [attachedIso] at hiso
    split at hiso
    · obtain ⟨path, -, rfl⟩ := Option.map_eq_some_iff.mp hiso
      rename_i hk
      subst hk
      exact .inr rfl
    · exact .inl hiso
  | crashed hexec hclaimed habort => exact .inl ((aborted_spec habort).2.2.2.1 ▸ hiso)
  | interrupted habort hstatus => exact .inl ((aborted_spec habort).2.2.2.1 ▸ hiso)
  | abandoned habort hstatus => exact .inl ((aborted_spec habort).2.2.2.1 ▸ hiso)
  | _ => exact .inl hiso

/-- Whatever a step does outside carries at most the number of the attempt that ran. -/
theorem AttemptInv.upto {s : RunState} (hs : AttemptInv s) {e : Effect} (h : e.From s) :
    e.upto (attempts s.job) := by
  cases h with
  | handler hexec hrun he => exact hrun.upto he
  | release he => exact Effect.upto_of_removes he
  | thread hes he => exact (hs.inFlight _ hes _ he).mono (lastClosed_le s)

theorem AttemptInv.step {s s' : RunState} {e : Event} (hs : AttemptInv s)
    (h : Transition s e s') : AttemptInv s' := by
  by_cases hrunning : ∃ rest ctx, s'.exec = .stage .prepareUnattendedInstall rest ctx
  · obtain ⟨rest, ctx, hexec'⟩ := hrunning
    rcases h.still_running hexec' with hstart | ⟨⟨ctx₀, hexec⟩, hiso, houtside⟩
    · obtain ⟨-, hattempts, hworld, hflight, hiso, restₗ, ctxₗ, hloop⟩ := hstart
      have hlast : lastClosed s' = lastClosed s := by
        rw [lastClosed_of_running hexec', hattempts, lastClosed_of_ne (by simp [hloop])]
        omega
      exact ⟨by rw [hworld, hlast]; exact hs.world, by rw [hflight, hlast]; exact hs.inFlight,
        by rw [hiso, hlast]; exact hs.iso, fun _ _ _ => by omega⟩
    · have hattempts : attempts s'.job = attempts s.job := by
        rcases h.counter with h | ⟨-, -, -, -, -, restₗ, ctxₗ, hloop⟩
        · exact h
        · rw [hloop] at hexec; cases hexec
      have hlast : lastClosed s' = lastClosed s := by
        rw [lastClosed_of_running hexec', lastClosed_of_running hexec, hattempts]
      refine ⟨?_, ?_, by rw [hiso, hlast]; exact hs.iso,
        fun _ _ _ => by rw [hattempts]; exact hs.running _ _ hexec⟩
      all_goals rw [hlast]
      · rcases houtside with ⟨hworld, -⟩ | ⟨thread, e, es, hflight, hworld, -⟩
        · rw [hworld]; exact hs.world
        · rw [hworld]
          exact hs.world.apply (hs.inFlight _ (List.mem_of_getElem? hflight) _ (by simp))
      · rcases houtside with ⟨-, hflight'⟩ | ⟨thread, e, es, hflight, -, hflight'⟩
        · rw [hflight']; exact hs.inFlight
        · rw [hflight']
          intro fs hfs e' he'
          rcases List.mem_or_eq_of_mem_set hfs with hfs | rfl
          · exact hs.inFlight _ hfs _ he'
          · exact hs.inFlight _ (List.mem_of_getElem? hflight) _ (by simp [he'])
  · have hne : ∀ rest ctx, s'.exec ≠ .stage .prepareUnattendedInstall rest ctx :=
      fun rest ctx hexec' => hrunning ⟨rest, ctx, hexec'⟩
    have hattempts : attempts s'.job = attempts s.job := by
      rcases h.counter with h | ⟨hstage, -⟩
      · exact h
      · exact absurd hstage hrunning
    obtain ⟨⟨es, hworld, hes⟩, hflight⟩ := h.outside
    have hlast : lastClosed s' = attempts s.job := by rw [lastClosed_of_ne hne, hattempts]
    refine ⟨?_, ?_, ?_, fun rest ctx hexec' => absurd hexec' (hne rest ctx)⟩
    all_goals rw [hlast]
    · rw [hworld]
      exact (hs.world.mono (lastClosed_le s)).applyAll fun e he => hs.upto (hes e he)
    · exact fun es hes e he => hs.upto (hflight es hes e he)
    · intro iso hiso
      rcases h.answerIso hiso with hiso | heq
      · exact (hs.iso iso hiso).trans (lastClosed_le s)
      · exact heq.le

theorem AttemptInv.init {s : RunState} (h : s.Submitted) : AttemptInv s where
  world := ⟨by simp [h.stored], by simp [h.drive]⟩
  inFlight := by simp [h.inFlight]
  iso := by simp [h.answerIso]
  running rest ctx hexec := by
    rw [h.idle] at hexec
    cases hexec

theorem attemptInv {C : RunState → Event → Prop} {s : RunState}
    (hs : jobRun.ReachableUnder C s) : AttemptInv s :=
  hs.invariant (fun _ h0 => .init h0) fun _ _ _ _ hi _ hstep => hi.step (transition_of_step hstep)

end InfraOps
