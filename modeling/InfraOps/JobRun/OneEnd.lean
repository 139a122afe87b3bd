import InfraOps.JobRun.Media

/-!
# One end per run

What one call of `execute` performs: the handlers it starts and its terminal transitions,
each with the audit record and the metric increment that go with it. A stage failure and a
cancellation between two stages end the loop; a cancellation inside a stage does not, and
the loop goes on to a second end.
-/

namespace InfraOps

open JobRepository RunState

/-- What the pipeline performs: it starts the handler of a stage, or calls
`_handle_failure`, `_apply_cancellation` or `_finalize_success`. -/
inductive Mark
  | handler (k : Stage)
  | failure
  | cancellation
  | success
  deriving DecidableEq

def Mark.terminal : Mark → Bool
  | handler _ => false
  | _ => true

/-- What one step performs. -/
def marks (s : RunState) (e : Event) : List Mark :=
  match s.exec, e.action with
  | .loop [] _, .next _ => [.success]
  | .loop (k :: _) _, .next _ =>
    if (s.job.steps k).isNone || s.job.stepDone k then []
    else if s.job.cancelRequested then [.cancellation]
    else [.handler k]
  | .stage k _ ctx, .finish answers _ _ =>
    match (runHandler k ctx s.job s.world answers).map HandlerRun.result with
    | some (.error _) => [.failure]
    | _ => []
  | .stage _ _ _, .timeOut _ _ _ _ _ => [.failure]
  | .stage _ _ _, .stageCancelled _ _ _ => [.cancellation]
  | _, _ => []

/-- A handler is started by the loop, for a step that is not done. -/
structure StartsHandler (s : RunState) (e : Event) (k : Stage) : Prop where
  exec : ∃ rest ctx, s.exec = .loop (k :: rest) ctx
  notDone : s.job.stepDone k = false
  notCancelled : s.job.cancelRequested = false
  action : ∃ removal, e.action = .next removal

theorem startsHandler_of_marks {s : RunState} {e : Event} {k : Stage}
    (h : marks s e = [.handler k]) : StartsHandler s e k := by
  unfold marks at h
  split at h
  · cases h
  · rename_i k' rest ctx removal hexec haction
    split at h
    · cases h
    · rename_i hskip
      split at h
      · cases h
      · rename_i hcancel
        cases h
        simp only [Bool.or_eq_true, not_or, Bool.not_eq_true] at hskip
        exact ⟨⟨rest, ctx, hexec⟩, hskip.2, by simpa using hcancel, removal, haction⟩
  · split at h <;> cases h
  · cases h
  · cases h
  · cases h

/-- The pipeline is executing. -/
def Exec.live : Exec → Bool
  | loop _ _ | stage _ _ _ => true
  | _ => false

/-- The end of the run comes from outside the pipeline. -/
def Action.kills : Action → Bool
  | crash _ | interrupt _ _ => true
  | _ => false

/-- From a state inside `execute` to its return, with what it performed. Requests,
heartbeats and abandoned threads may act in between. -/
inductive Executes : RunState → List Event → List Mark → RunState → Prop
  | returns {s s' : RunState} {e : Event} (hlive : s.exec.live = true)
      (hstep : jobRun.step s e = some s') (hidle : s'.exec = .idle)
      (hkills : e.action.kills = false) : Executes s [e] (marks s e) s'
  | goesOn {s s₁ s' : RunState} {e : Event} {es : List Event} {ms : List Mark}
      (hlive : s.exec.live = true) (hstep : jobRun.step s e = some s₁)
      (hrest : Executes s₁ es ms s') : Executes s (e :: es) (marks s e ++ ms) s'

/-- A cancellation reaches a handler that is still running. -/
def Event.cancelsStage (e : Event) : Bool :=
  match e.action with
  | .stageCancelled _ _ _ => true
  | _ => false

/-- Handlers, and then one terminal transition. -/
def EndsOnce (ms : List Mark) : Prop :=
  ∃ (ks : List Stage) (m : Mark), m.terminal = true ∧ ms = ks.map .handler ++ [m]

theorem EndsOnce.countP {ms : List Mark} (h : EndsOnce ms) : ms.countP Mark.terminal = 1 := by
  obtain ⟨ks, m, hm, rfl⟩ := h
  have hks : (ks.map Mark.handler).countP Mark.terminal = 0 := by
    rw [List.countP_eq_zero]
    intro m' hm'
    obtain ⟨k, -, rfl⟩ := List.mem_map.mp hm'
    simp [Mark.terminal]
  simp [List.countP_append, hks, hm]

theorem EndsOnce.cons {ms : List Mark} (h : EndsOnce ms) (k : Stage) :
    EndsOnce (.handler k :: ms) := by
  obtain ⟨ks, m, hm, rfl⟩ := h
  exact ⟨k :: ks, m, hm, rfl⟩

/-! ## How a stage ends -/

theorem handleFailure_stepStatus_self {d : Deployment} {k : Stage}
    (hrow : (d.job.steps k).isSome = true) (ctx : JobRunContext) (f : InfraOperationError)
    (screenshot : Option String) (removal : RemovalAnswers) (now : Timestamp) :
    (handleFailure ctx k f screenshot removal now d).job.stepStatus k = some .failed := by
  obtain ⟨records, hjob, -⟩ := handleFailure_eq ctx k f screenshot removal now d
  have hfailed : (failJob k f screenshot now d.job).stepStatus k = some .failed := by
    rw [isSome_steps_iff] at hrow
    obtain ⟨st, hst⟩ := Option.isSome_iff_exists.mp hrow
    rw [failJob_stepStatus, if_pos rfl, hst]
    rfl
  rw [hjob]
  rcases release_stepStatus ctx s!"stage '{k.key}' failed" removal
    { d with job := failJob k f screenshot now d.job, records } k with hk | ⟨-, -, hsucceeded, -⟩
  · exact hk.trans hfailed
  · rw [hfailed] at hsucceeded
    cases hsucceeded

theorem cancelStage_not_failed (ctx : JobRunContext) (k : Stage) (removal : RemovalAnswers)
    (now : Timestamp) (d : Deployment) :
    (cancelStage ctx k removal now d).job.stepStatus k ≠ some .failed := by
  have hcancelled : (d.job.setStep k (cancelledStep now)).stepStatus k ≠ some .failed := by
    rw [cancelledStep_stepStatus, if_pos rfl]
    cases d.job.stepStatus k <;> simp
  rw [cancelStage, applyCancellation_stepStatus]
  rcases release_stepStatus ctx "job cancelled" removal
    { d with job := d.job.setStep k (cancelledStep now) } k with hk | ⟨-, -, -, hk⟩
  · rw [hk]
    cases hst : (d.job.setStep k (cancelledStep now)).stepStatus k with
    | none => simp
    | some st => cases st <;> simp_all [cancelStatus]
  · rw [hk]
    simp [cancelStatus]

theorem finishStage_not_failed (k : Stage) (outcome : StageOutcome) (now : Timestamp)
    (job : ProvisioningJob) : (finishStage k outcome now job).stepStatus k ≠ some .failed := by
  rw [finishStage_stepStatus, if_pos rfl]
  cases job.stepStatus k with
  | none => simp
  | some st => cases outcome.status <;> simp [OutcomeStatus.toStep]

theorem row_applyAssignments {s : RunState} {k : Stage} (h : (s.job.steps k).isSome = true)
    (as : List Assignment) : ((applyAssignments s.job as).steps k).isSome = true := by
  rw [(applyAssignments_steps s.job as k).1]
  exact h

/-! ## What goes with the marks -/

/-- The audit record of a terminal transition. -/
def Record.endsRun : Record → Bool
  | .audit entry =>
    entry.action == .jobStageFailed || entry.action == .jobCancelled ||
      entry.action == .jobCompleted
  | _ => false

def Record.countsRun : Record → Bool
  | .jobsTotal _ => true
  | _ => false

/-- The release writes no record of the two kinds. -/
theorem release_records {p : Record → Bool}
    (hp : ∀ entry, entry.action = .unattendedMediaRemoved → p (.audit entry) = false)
    (ctx : JobRunContext) (reason : String) (a : RemovalAnswers) (d : Deployment) :
    (releaseUnattendedMedia ctx reason a d).1.records.countP p = d.records.countP p := by
  unfold releaseUnattendedMedia
  dsimp only
  split
  · rfl
  · split
    · rfl
    · split
      · rfl
      · cases a with
        | removes => simp [removeAnswerMedia, hp]
        | _ => rfl

theorem countP_notifyRequester {p : Record → Bool}
    (hp : ∀ kind title message, p (.notification kind title message) = false)
    (job : ProvisioningJob) (kind : NotificationKind) (text : String × String) :
    (notifyRequester job kind text).countP p = 0 := by
  unfold notifyRequester
  cases job.requestedByUserId <;> simp [hp]

/-- Each terminal transition leaves one record of each kind. -/
structure OneRecord (before after : List Record) : Prop where
  audit : after.countP Record.endsRun = before.countP Record.endsRun + 1
  metric : after.countP Record.countsRun = before.countP Record.countsRun + 1

theorem handleFailure_records (ctx : JobRunContext) (k : Stage) (f : InfraOperationError)
    (screenshot : Option String) (removal : RemovalAnswers) (now : Timestamp) (d : Deployment) :
    OneRecord d.records (handleFailure ctx k f screenshot removal now d).records := by
  constructor
  · simp only [handleFailure, List.countP_append]
    rw [release_records (by simp +contextual [Record.endsRun]),
      countP_notifyRequester (by simp [Record.endsRun])]
    simp [Record.endsRun, List.countP_append]
  · simp only [handleFailure, List.countP_append]
    rw [release_records (by simp [Record.countsRun]),
      countP_notifyRequester (by simp [Record.countsRun])]
    simp [Record.countsRun, List.countP_append]

theorem applyCancellation_records (ctx : JobRunContext) (removal : RemovalAnswers)
    (now : Timestamp) (d : Deployment) :
    OneRecord d.records (applyCancellation ctx removal now d).records := by
  constructor
  · simp only [applyCancellation, List.countP_append]
    rw [release_records (by simp +contextual [Record.endsRun])]
    simp [Record.endsRun]
  · simp only [applyCancellation, List.countP_append]
    rw [release_records (by simp [Record.countsRun])]
    simp [List.countP_cons, Record.countsRun]

theorem finalizeSuccess_records (ctx : JobRunContext) (now : Timestamp) (d : Deployment) :
    OneRecord d.records (finalizeSuccess ctx now d).records := by
  constructor
  · simp only [finalizeSuccess, List.countP_append]
    rw [countP_notifyRequester (by simp [Record.endsRun])]
    simp [Record.endsRun]
  · simp only [finalizeSuccess, List.countP_append]
    rw [countP_notifyRequester (by simp [Record.countsRun])]
    simp [List.countP_cons, Record.countsRun]

/-! ## One step -/

/-- The four things a step of the pipeline, or of another party meanwhile, can perform. -/
inductive Performed (s : RunState) (e : Event) (s' : RunState) : Prop
  | nothing (hmarks : marks s e = []) (hexec : s'.exec ≠ .idle) (hrecords : s'.records = s.records)
      (hevent : e.cancelsStage = false)
  | handler (k : Stage) (hmarks : marks s e = [.handler k]) (hexec : s'.exec ≠ .idle)
      (hrecords : s'.records = s.records) (hevent : e.cancelsStage = false)
  | ended (m : Mark) (hterminal : m.terminal = true) (hmarks : marks s e = [m])
      (hexec : s'.exec = .idle) (hrecords : OneRecord s.records s'.records)
      (hevent : e.cancelsStage = false)
  | cancelledStage (hmarks : marks s e = [.cancellation]) (hexec : s'.exec ≠ .idle)
      (hrecords : OneRecord s.records s'.records) (hevent : e.cancelsStage = true)

theorem afterStage_of_failed {k : Stage} {rest : List Stage} {ctx : JobRunContext}
    {d : Deployment} (h : d.job.stepStatus k = some .failed) : afterStage k rest ctx d = .idle := by
  rw [afterStage, if_pos h]

theorem afterStage_of_not_failed {k : Stage} {rest : List Stage} {ctx : JobRunContext}
    {d : Deployment} (h : d.job.stepStatus k ≠ some .failed) :
    afterStage k rest ctx d ≠ .idle := by
  rw [afterStage, if_neg h]
  simp

/-- A thread or another party changes neither the execution nor its records. -/
theorem performed_of_outside {s s' : RunState} {e : Event} (hlive : s.exec.live = true)
    (hmarks : marks s e = []) (hexec : s'.exec = s.exec) (hrecords : s'.records = s.records)
    (hevent : e.cancelsStage = false) : Performed s e s' := by
  refine .nothing hmarks (fun hidle => ?_) hrecords hevent
  rw [← hexec, hidle] at hlive
  cases hlive

/-- **A step of a live execution performs one of the four.** -/
theorem Transition.performed {s s' : RunState} {e : Event} (hrow : StageRow s)
    (hlive : s.exec.live = true) (hkills : e.action.kills = false) (h : Transition s e s') :
    Performed s e s' := by
  cases h with
  -- a live execution has been started and has not been ended
  | claimed hexec hdue => rw [hexec] at hlive; cases hlive
  | started hexec hstatus => rw [hexec] at hlive; cases hlive
  | startFailed hexec hstatus => rw [hexec] at hlive; cases hlive
  | notOwned haction hexec hstatus => rw [hexec] at hlive; cases hlive
  | cleanedUp hexec => rw [hexec] at hlive; cases hlive
  | crashed hexec hclaimed habort => cases hkills
  | interrupted habort hstatus => cases hkills
  | abandoned habort hstatus => cases hkills
  | beatLoop hexec hstatus =>
    exact .nothing (by cases ‹List Stage› <;> simp [marks, hexec]) (by simp) rfl rfl
  | beatStage hexec hstatus => exact .nothing (by simp [marks, hexec]) (by simp) rfl rfl
  | finalized hexec =>
    exact .ended .success rfl (by simp [marks, hexec]) rfl (finalizeSuccess_records _ _ _) rfl
  | skipped hexec hskip =>
    refine .nothing ?_ (by simp) rfl rfl
    rcases hskip with hnone | hdone
    · simp [marks, hexec, hnone]
    · simp [marks, hexec, hdone]
  | cancelledBetween hexec hrow hdone hcancel =>
    refine .ended .cancellation rfl ?_ rfl (applyCancellation_records _ _ _ _) rfl
    simp [marks, hexec, Option.isNone_eq_false_iff.mpr hrow, hdone, hcancel]
  | @startedStage now removal k rest ctx hexec hrow hdone hcancel =>
    refine .handler k ?_ (by simp) rfl rfl
    simp [marks, hexec, Option.isNone_eq_false_iff.mpr hrow, hdone, hcancel]
  -- the loop is left only on a failed step
  | returned hexec hrun hresult =>
    exact .nothing (by simp [marks, hexec, hrun, hresult])
      (afterStage_of_not_failed (finishStage_not_failed _ _ _ _)) rfl rfl
  | @raised now answers removal screenshot k rest ctx run raised hexec hrun hresult =>
    refine .ended .failure rfl (by simp [marks, hexec, hrun, hresult]) (afterStage_of_failed ?_)
      (handleFailure_records _ _ _ _ _ _ (s.ranTo run)) rfl
    exact handleFailure_stepStatus_self
      (row_applyAssignments (hrow k rest ctx hexec).1 run.assignments) _ _ _ _ _
  | @timedOut now answers cut seconds removal screenshot k rest ctx run hexec hrun =>
    refine .ended .failure rfl (by simp [marks, hexec]) (afterStage_of_failed ?_)
      (handleFailure_records _ _ _ _ _ _ (s.cutAt run cut)) rfl
    exact handleFailure_stepStatus_self
      (row_applyAssignments (hrow k rest ctx hexec).1 (run.assignmentsBefore cut)) _ _ _ _ _
  -- a terminal transition, after which the loop goes on
  | @cancelledWithin now answers cut removal k rest ctx run hexec hevent hrun =>
    exact .cancelledStage (by simp [marks, hexec])
      (afterStage_of_not_failed (cancelStage_not_failed _ _ _ _ _))
      (applyCancellation_records _ _ _
        { s.cutAt run cut with job := (s.cutAt run cut).job.setStep k (cancelledStep now) }) rfl
  | landed hflight =>
    refine performed_of_outside hlive ?_ rfl rfl rfl
    cases hexec : s.exec with
    | loop rest ctx => cases rest <;> simp [marks, hexec]
    | _ => simp [marks, hexec]
  | cancelled hjob =>
    refine performed_of_outside hlive ?_ rfl rfl rfl
    cases hexec : s.exec with
    | loop rest ctx => cases rest <;> simp [marks, hexec]
    | _ => simp [marks, hexec]
  | retried hjob =>
    refine performed_of_outside hlive ?_ rfl rfl rfl
    cases hexec : s.exec with
    | loop rest ctx => cases rest <;> simp [marks, hexec]
    | _ => simp [marks, hexec]

/-! ## One run -/

/-- The records that a run leaves are those of its terminal transitions. -/
structure RecordsOf (ms : List Mark) (s s' : RunState) : Prop where
  audit : s'.records.countP Record.endsRun =
    s.records.countP Record.endsRun + ms.countP Mark.terminal
  metric : s'.records.countP Record.countsRun =
    s.records.countP Record.countsRun + ms.countP Mark.terminal

theorem Performed.recordsOf {s s' : RunState} {e : Event} (h : Performed s e s') :
    RecordsOf (marks s e) s s' := by
  cases h with
  | nothing hmarks hexec hrecords => rw [hmarks]; constructor <;> rw [hrecords] <;> rfl
  | handler k hmarks hexec hrecords => rw [hmarks]; constructor <;> rw [hrecords] <;> rfl
  | ended m hterminal hmarks hexec hrecords =>
    rw [hmarks]
    constructor
    · rw [hrecords.audit]; simp [hterminal]
    · rw [hrecords.metric]; simp [hterminal]
  | cancelledStage hmarks hexec hrecords =>
    rw [hmarks]
    exact ⟨hrecords.audit, hrecords.metric⟩

theorem RecordsOf.append {ms ms' : List Mark} {s s₁ s' : RunState} (h : RecordsOf ms s s₁)
    (h' : RecordsOf ms' s₁ s') : RecordsOf (ms ++ ms') s s' := by
  have ha := h.audit
  have ha' := h'.audit
  have hm := h.metric
  have hm' := h'.metric
  constructor <;> rw [List.countP_append] <;> omega

theorem Executes.live {s s' : RunState} {es : List Event} {ms : List Mark}
    (h : Executes s es ms s') : s.exec.live = true := by
  cases h <;> assumption

/-- A step that goes on inside `execute` is no end from outside. -/
theorem not_kills_of_live {s s' : RunState} {e : Event} (h : Transition s e s')
    (hlive : s'.exec.live = true) : e.action.kills = false := by
  cases h with
  | crashed hexec hclaimed habort => cases hlive
  | interrupted habort hstatus => cases hlive
  | abandoned habort hstatus => cases hlive
  | notOwned haction hexec hstatus => cases hlive
  | _ => rfl

theorem Executes.recordsOf {s s' : RunState} {es : List Event} {ms : List Mark}
    (h : Executes s es ms s') (hrow : StageRow s) : RecordsOf ms s s' := by
  induction h with
  | returns hlive hstep hidle hkills =>
    exact ((transition_of_step hstep).performed hrow hlive hkills).recordsOf
  | goesOn hlive hstep hrest ih =>
    have htrans := transition_of_step hstep
    have hkills := not_kills_of_live htrans hrest.live
    exact (htrans.performed hrow hlive hkills).recordsOf.append (ih (hrow.step htrans))

/-- Every run that returns performs a terminal transition, and another one for each
cancellation that reached a running handler. -/
theorem Executes.countP {s s' : RunState} {es : List Event} {ms : List Mark}
    (h : Executes s es ms s') (hrow : StageRow s) :
    ms.countP Mark.terminal = es.countP Event.cancelsStage + 1 := by
  induction h with
  | returns hlive hstep hidle hkills =>
    cases (transition_of_step hstep).performed hrow hlive hkills with
    | nothing hmarks hexec => exact absurd hidle hexec
    | handler k hmarks hexec => exact absurd hidle hexec
    | ended m hterminal hmarks hexec hrecords hevent =>
      simp [hmarks, hterminal, hevent]
    | cancelledStage hmarks hexec => exact absurd hidle hexec
  | goesOn hlive hstep hrest ih =>
    have htrans := transition_of_step hstep
    have hkills := not_kills_of_live htrans hrest.live
    have hcount := ih (hrow.step htrans)
    rw [List.countP_append, hcount, List.countP_cons]
    cases htrans.performed hrow hlive hkills with
    | nothing hmarks hexec hrecords hevent => simp [hmarks, hevent]
    | handler k hmarks hexec hrecords hevent => simp [hmarks, hevent, Mark.terminal]
    | ended m hterminal hmarks hexec =>
      have hlive' := hrest.live
      rw [hexec] at hlive'
      cases hlive'
    -- the cancellation counts once here and leaves the run to end again
    | cancelledStage hmarks hexec hrecords hevent =>
      simp only [hmarks, hevent, List.countP_singleton, Mark.terminal, if_true]
      omega

theorem Executes.endsOnce {s s' : RunState} {es : List Event} {ms : List Mark}
    (h : Executes s es ms s') (hrow : StageRow s) (hes : ∀ e ∈ es, e.cancelsStage = false) :
    EndsOnce ms := by
  induction h with
  | @returns s s' e hlive hstep hidle hkills =>
    cases (transition_of_step hstep).performed hrow hlive hkills with
    | nothing hmarks hexec => exact absurd hidle hexec
    | handler k hmarks hexec => exact absurd hidle hexec
    | ended m hterminal hmarks => exact ⟨[], m, hterminal, hmarks⟩
    | cancelledStage hmarks hexec => exact absurd hidle hexec
  | @goesOn s s₁ s' e es ms hlive hstep hrest ih =>
    have htrans := transition_of_step hstep
    have hkills := not_kills_of_live htrans hrest.live
    have hends := ih (hrow.step htrans) fun e he => hes e (by simp [he])
    cases htrans.performed hrow hlive hkills with
    | nothing hmarks => rw [hmarks]; exact hends
    | handler k hmarks => rw [hmarks]; exact hends.cons k
    | ended m hterminal hmarks hexec =>
      have hlive' := hrest.live
      rw [hexec] at hlive'
      cases hlive'
    | cancelledStage hmarks hexec hrecords hevent =>
      rw [hes e (by simp)] at hevent
      cases hevent

/-- **One end per run.** A call of `execute` that returns performs exactly one terminal
transition, after all its handlers, and leaves exactly one terminal audit record and one
metric increment, if and only if no cancellation reaches a handler that is still running. -/
theorem execute_ends_once_iff {s s' : RunState} {es : List Event} {ms : List Mark}
    {ctx : JobRunContext} (hstart : s.exec = .loop orderedStages ctx)
    (h : Executes s es ms s') :
    (EndsOnce ms ∧
      s'.records.countP Record.endsRun = s.records.countP Record.endsRun + 1 ∧
      s'.records.countP Record.countsRun = s.records.countP Record.countsRun + 1) ↔
    ∀ e ∈ es, e.cancelsStage = false := by
  have hrow : StageRow s := by
    intro k rest ctx' hexec
    rw [hstart] at hexec
    cases hexec
  constructor
  · rintro ⟨hends, -, -⟩
    have hcount := h.countP hrow
    rw [hends.countP] at hcount
    have hnone : es.countP Event.cancelsStage = 0 := by omega
    intro e he
    simpa using List.countP_eq_zero.mp hnone e he
  · intro hes
    have hends := h.endsOnce hrow hes
    have hrecords := h.recordsOf hrow
    exact ⟨hends, by rw [hrecords.audit, hends.countP], by rw [hrecords.metric, hends.countP]⟩

/-! ## Replays -/

def Exec.isIdle : Exec → Bool
  | idle => true
  | _ => false

/-- At the start of `execute`. -/
def Exec.isStart : Exec → Bool
  | loop rest _ => rest == orderedStages
  | _ => false

/-- Replay one call of `execute`. -/
def executed (s : RunState) : List Event → Option (List Mark × RunState)
  | [] => none
  | e :: es =>
    if s.exec.live then
      (jobRun.step s e).bind fun s₁ =>
        if es.isEmpty then
          if s₁.exec.isIdle && !e.action.kills then some (marks s e, s₁) else none
        else (executed s₁ es).map fun r => (marks s e ++ r.1, r.2)
    else none

theorem exec_of_isIdle {x : Exec} (h : x.isIdle = true) : x = .idle := by
  cases x <;> first | rfl | cases h

theorem executes_of_executed {s s' : RunState} {es : List Event} {ms : List Mark}
    (h : executed s es = some (ms, s')) : Executes s es ms s' := by
  induction es generalizing s ms with
  | nil => cases h
  | cons e es ih =>
    rw [executed] at h
    split at h
    · rename_i hlive
      obtain ⟨s₁, hstep, hend⟩ := Option.bind_eq_some_iff.mp h
      split at hend
      · rename_i hnil
        rw [List.isEmpty_iff] at hnil
        subst hnil
        split at hend
        · rename_i hidle
          simp only [Bool.and_eq_true, Bool.not_eq_eq_eq_not, Bool.not_true] at hidle
          cases hend
          exact .returns hlive hstep (exec_of_isIdle hidle.1) hidle.2
        · cases hend
      · obtain ⟨⟨ms', s''⟩, hrest, hr⟩ := Option.map_eq_some_iff.mp hend
        cases hr
        exact .goesOn hlive hstep (ih hrest)
    · cases h

theorem exec_of_isStart {x : Exec} (h : x.isStart = true) : ∃ ctx, x = .loop orderedStages ctx := by
  cases x with
  | loop rest ctx => exact ⟨ctx, by rw [eq_of_beq h]⟩
  | _ => cases h

/-- A submitted job whose run has started, and one call of `execute` from there. -/
theorem exists_executes {t : List Event} {p : List Mark → Bool}
    (h : ((jobRun.run (submitted "j1" { vmName := "web01" }) [⟨0, .claim 1⟩, ⟨0, .start⟩]).any
      fun s => s.exec.isStart && (executed s t).any fun r => p r.1) = true) :
    ∃ s ms s' ctx, jobRun.Reachable s ∧ s.exec = .loop orderedStages ctx ∧
      Executes s t ms s' ∧ p ms = true := by
  obtain ⟨s, hrun, h⟩ := (Option.any_eq_true _ _).mp h
  simp only [Bool.and_eq_true] at h
  obtain ⟨⟨ms, s'⟩, hexecuted, hp⟩ := (Option.any_eq_true _ _).mp h.2
  obtain ⟨ctx, hctx⟩ := exec_of_isStart h.1
  exact ⟨s, ms, s', ctx, Machine.reachable_of_run (submitted_spec _ _) hrun, hctx,
    executes_of_executed hexecuted, hp⟩

/-- A user cancels while the first stage runs: the cancellation is applied to the running
stage, and once more before the second stage. -/
theorem stage_cancellation_ends_twice : ∃ s es ms s' ctx, jobRun.Reachable s ∧
    s.exec = .loop orderedStages ctx ∧ Executes s es ms s' ∧
    ms = [.handler .validateRequest, .cancellation, .cancellation] ∧ ¬EndsOnce ms := by
  obtain ⟨s, ms, s', ctx, hs, hctx, hexec, hms⟩ := exists_executes
    (t := [⟨0, .next .removes⟩, ⟨0, .cancel⟩, ⟨0, .heartbeat⟩,
      ⟨0, .stageCancelled (.other {}) {} .removes⟩, ⟨0, .next .removes⟩])
    (p := fun ms => ms == [.handler .validateRequest, .cancellation, .cancellation])
    (by decide +kernel)
  rw [beq_iff_eq] at hms
  refine ⟨s, _, ms, s', ctx, hs, hctx, hexec, hms, fun hends => ?_⟩
  have hcount := hends.countP
  rw [hms] at hcount
  cases hcount

/-- A cancellation that is seen between two stages ends the run once. -/
theorem execute_ends_once_iff_cancelled : ∃ s es ms s', jobRun.Reachable s ∧
    Executes s es ms s' ∧ EndsOnce ms := by
  obtain ⟨s, ms, s', ctx, hs, hctx, hexec, -⟩ := exists_executes
    (t := smoothly [.validateRequest] ++ [⟨0, .cancel⟩, ⟨0, .next .removes⟩])
    (p := fun _ => true) (by decide +kernel)
  exact ⟨s, _, ms, s', hs, hexec, ((execute_ends_once_iff hctx hexec).mpr (by decide)).1⟩

end InfraOps
