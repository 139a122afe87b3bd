import InfraOps.Sessions.Writes

/-!
# One execution at a time

A claim locks the row, a retry and a cancellation do not: a retry whose job is out of date
queues a job that a worker has claimed meanwhile, and a retry that follows a cancellation
can overtake the pipeline that applied it. Otherwise a job has one live execution at most.
-/

namespace InfraOps

/-- The execution runs the stages of the job. -/
def Phase.running : Phase → Bool
  | pipeline _ _ | unwinding _ => true
  | _ => false

theorem Phase.live_of_running {p : Phase} (h : p.running = true) : p.live = true := by
  cases p <;> simp_all [Phase.running, Phase.live]

/-- At most one execution runs the stages of the job. -/
def SingleExecutor (s : JobState) : Prop :=
  ∀ (i j : Nat) (x y : Execution), s.executions[i]? = some x → s.executions[j]? = some y →
    x.phase.running = true → y.phase.running = true → i = j

/-- Live workers heartbeat in time: no job is reaped whose worker still executes it. -/
def timely (s : JobState) (e : TimedMove) : Bool :=
  match e.move with
  | .reap => s.executions.all fun x => !(x.phase.live && s.row.workerId == some x.worker)
  | _ => true

/-- A retry, and a cancellation of a job that no worker executes, commit while the status is
the one they have read; and no retry commits while an execution is still live. -/
def upToDate (s : JobState) (e : TimedMove) : Bool :=
  match e.move with
  | .retry i _ _ _ _ =>
    (s.requests[i]?.all fun job => job.status == s.row.status) &&
      s.executions.all fun x => !x.phase.live
  | .cancel i =>
    s.requests[i]?.all fun job => job.status == .running || job.status == s.row.status
  | _ => true

/-! ## The invariant -/

/-- No execution of the job is live. -/
def NoneExecutes (s : JobState) : Prop := ∀ x ∈ s.executions, x.phase.live = false

/-- One execution is live at most, and the claim of the job is its own: RUNNING, or ended
by its last commit. -/
structure SoleExecution (s : JobState) : Prop where
  alone : ∀ (i j : Nat) (x y : Execution), s.executions[i]? = some x →
    s.executions[j]? = some y → x.phase.live = true → y.phase.live = true → i = j
  owned : ∀ x ∈ s.executions, x.phase.live = true → s.row.workerId = some x.worker ∧
    (s.row.status = .running ∨ s.row.status.terminal = true)

namespace SoleExecution

variable {s s' : JobState}

theorem of_none (h : NoneExecutes s) : SoleExecution s := by
  refine ⟨fun i j x y hi _ hx _ => ?_, fun x hx hlive => ?_⟩
  · rw [h x (List.mem_of_getElem? hi)] at hx
    cases hx
  · rw [h x hx] at hlive
    cases hlive

/-- A job that waits for a worker or for a user is not executed. -/
theorem noneExecutes (h : SoleExecution s) (hrunning : s.row.status ≠ .running)
    (hterminal : s.row.status.terminal = false) : NoneExecutes s := by
  intro x hx
  by_contra hlive
  rcases (h.owned x hx (by simpa using hlive)).2 with hstatus | hstatus
  · exact hrunning hstatus
  · rw [hterminal] at hstatus
    cases hstatus

/-- The row changes no more than by a stage, and the executions not at all. -/
theorem row (h : SoleExecution s) {r : ProvisioningJob} (hr : Pipelined s.row r) :
    SoleExecution { s with row := r } := by
  refine ⟨h.alone, fun x hx hlive => ?_⟩
  obtain ⟨hworker, hstatus⟩ := h.owned x hx hlive
  refine ⟨hr.workerId.trans hworker, ?_⟩
  rcases hr.status with hsame | hterminal
  · exact hsame.symm ▸ hstatus
  · exact .inr hterminal

theorem turn (h : SoleExecution s) {i : Nat} {x y : Execution}
    (hx : s.executions[i]? = some x) (hturned : Turned s i x y s') : SoleExecution s' := by
  have hold : ∀ (j : Nat) (z : Execution), s'.executions[j]? = some z → z.phase.live = true →
      (j = i ∧ z = y) ∨ (j ≠ i ∧ s.executions[j]? = some z) := by
    intro j z hz hlive
    rw [hturned.executions, List.getElem?_set] at hz
    split at hz
    · split at hz
      · cases hz
        exact .inl ⟨‹i = j›.symm, rfl⟩
      · cases hz
    · exact .inr ⟨fun hji => ‹¬i = j› hji.symm, hz⟩
  -- every live execution was live before, under the same worker
  have hlive : ∀ (j : Nat) (z : Execution), s'.executions[j]? = some z →
      z.phase.live = true → ∃ z' : Execution, s.executions[j]? = some z' ∧
        z'.phase.live = true ∧ z.worker = z'.worker := by
    intro j z hz hl
    rcases hold j z hz hl with ⟨rfl, rfl⟩ | ⟨-, hz'⟩
    · exact ⟨x, hx, hturned.live hl, hturned.worker⟩
    · exact ⟨z, hz', hl, rfl⟩
  refine ⟨fun j k u v hu hv hul hvl => ?_, fun z hz hl => ?_⟩
  · obtain ⟨u', hu', hul', -⟩ := hlive j u hu hul
    obtain ⟨v', hv', hvl', -⟩ := hlive k v hv hvl
    exact h.alone j k u' v' hu' hv' hul' hvl'
  · obtain ⟨j, hz⟩ := List.getElem?_of_mem hz
    obtain ⟨z', hz', hl', hworker⟩ := hlive j z hz hl
    -- the execution that turned is the live one, or it is not live itself
    have hpipelined : Pipelined s.row s'.row := by
      refine hturned.pipelined ?_
      rcases hold j z hz hl with ⟨rfl, rfl⟩ | ⟨hne, -⟩
      · exact .inl hl
      · right
        by_contra hxl
        exact hne (h.alone j i z' x hz' hx hl' (by simpa using hxl))
    obtain ⟨howner, hstatus⟩ := h.owned z' (List.mem_of_getElem? hz') hl'
    refine ⟨by rw [hpipelined.workerId, howner, hworker], ?_⟩
    rcases hpipelined.status with hsame | hterminal
    · exact hsame.symm ▸ hstatus
    · exact .inr hterminal

/-- A claim is of a queued job, which nobody executes. -/
theorem claim (h : SoleExecution s) {w : WorkerId} {now : Timestamp}
    (hs : s.claim w now = some s') : SoleExecution s' := by
  unfold JobState.claim at hs
  split at hs
  · rename_i hdue
    cases hs
    have hqueued : s.row.status = .queued := by
      simp only [JobRepository.due, Bool.and_eq_true, beq_iff_eq] at hdue
      exact hdue.1
    have hnone : NoneExecutes s := h.noneExecutes (by simp [hqueued]) (by rw [hqueued]; rfl)
    have hlost : ∀ x ∈ s.loseAll.executions, x.phase.live = false := by
      intro x hx
      obtain ⟨z, hz, rfl⟩ := List.mem_map.mp hx
      exact hnone z hz
    -- so the execution that the claim begins is the only live one
    have hlast : ∀ (j : Nat) (z : Execution), (s.loseAll.executions ++
        [{ worker := w, loaded := JobRepository.claim s.row w now }])[j]? = some z →
        z.phase.live = true → j = s.loseAll.executions.length ∧ z.worker = w := by
      intro j z hz hlive
      rw [List.getElem?_append] at hz
      split at hz
      · rw [hlost z (List.mem_of_getElem? hz)] at hlive
        cases hlive
      · rename_i hj
        have hlast : j - s.loseAll.executions.length = 0 := by
          have hlt := (List.getElem?_eq_some_iff.mp hz).1
          simp only [List.length_singleton] at hlt
          omega
        rw [hlast] at hz
        cases hz
        exact ⟨by omega, rfl⟩
    refine ⟨fun i j x y hi hj hx hy => ?_, fun x hx hlive => ?_⟩
    · exact (hlast i x hi hx).1.trans (hlast j y hj hy).1.symm
    · obtain ⟨j, hj⟩ := List.getElem?_of_mem hx
      rw [(hlast j x hj hlive).2]
      exact ⟨rfl, .inl rfl⟩
  · cases hs

/-- The process of a worker dies: its executions are gone. -/
theorem kill (h : SoleExecution s) (w : WorkerId) : SoleExecution { s with
    executions := s.executions.map fun x =>
      if x.worker = w then { x with phase := .ended } else x } := by
  have hold : ∀ (j : Nat) (z : Execution), (s.executions.map fun x =>
      if x.worker = w then { x with phase := .ended } else x)[j]? = some z →
      z.phase.live = true → s.executions[j]? = some z := by
    intro j z hz hlive
    rw [List.getElem?_map] at hz
    obtain ⟨z', hz', rfl⟩ := Option.map_eq_some_iff.mp hz
    split at hlive
    · cases hlive
    · rename_i hne
      rw [if_neg hne]
      exact hz'
  refine ⟨fun i j x y hi hj hx hy => ?_, fun x hx hlive => ?_⟩
  · exact h.alone i j x y (hold i x hi hx) (hold j y hj hy) hx hy
  · obtain ⟨j, hj⟩ := List.getElem?_of_mem hx
    exact h.owned x (List.mem_of_getElem? (hold j x hj hlive)) hlive

theorem none_of_reap (h : SoleExecution s) {now : Timestamp}
    (htimely : timely s ⟨now, .reap⟩ = true) : NoneExecutes s := by
  intro x hx
  by_contra hlive
  have hlive : x.phase.live = true := by simpa using hlive
  have hworker := (h.owned x hx hlive).1
  have hspared := List.all_eq_true.mp htimely x hx
  simp [hlive, hworker] at hspared

/-- Requests and reapers change nothing of an execution but its history. -/
theorem none_loseAll (h : NoneExecutes s) : NoneExecutes s.loseAll := by
  intro x hx
  obtain ⟨z, hz, rfl⟩ := List.mem_map.mp hx
  exact h z hz

theorem cancel (h : SoleExecution s) {i : Nat} {now : Timestamp}
    (hfresh : upToDate s ⟨now, .cancel i⟩ = true) (hs : s.cancel i now = some s') :
    SoleExecution s' := by
  unfold JobState.cancel at hs
  split at hs
  · cases hs
  · rename_i job hjob
    split at hs
    · cases hs
    · rename_i left hleft
      cases hs
      have hfresh : job.status = .running ∨ job.status = s.row.status := by
        simpa [upToDate, hjob] using hfresh
      have hnone : job.status ≠ .running → job.status.terminal = false → NoneExecutes s := by
        intro hne hterminal
        have hrow : s.row.status = job.status := (hfresh.resolve_left hne).symm
        exact h.noneExecutes (by rw [hrow]; exact hne) (by rw [hrow]; exact hterminal)
      -- a waiting job is left to nobody's execution, handed over or not
      have hwaits : NoneExecutes s → SoleExecution
          { (if JobState.handsOver job then s.loseAll else s) with
            row := s.row.flush job left, requests := s.requests.eraseIdx i } := by
        intro hidle
        refine .of_none ?_
        split
        · exact none_loseAll hidle
        · exact hidle
      rcases cancelJob_cases hleft with ⟨hinterrupted, -, -⟩ | ⟨hstatus, -, -⟩ | ⟨hrunning, rfl⟩
      · exact hwaits (hnone (by simp [hinterrupted]) (by rw [hinterrupted]; rfl))
      · rcases hstatus with hqueued | ⟨hinterrupted, -⟩
        · exact hwaits (hnone (by simp [hqueued]) (by rw [hqueued]; rfl))
        · exact hwaits (hnone (by simp [hinterrupted]) (by rw [hinterrupted]; rfl))
      · -- only the flag is written
        have hflag : Pipelined job { job with cancelRequested := true } :=
          ⟨.inl rfl, rfl, fun _ => id⟩
        have hover : JobState.handsOver job = false := by simp [JobState.handsOver, hrunning]
        have hstate := h.row (hflag.flush s.row)
        rw [if_neg (by simp [hover])]
        exact ⟨hstate.alone, hstate.owned⟩

/-- **A timely, up-to-date step keeps the execution alone.** -/
theorem step (h : SoleExecution s) {e : TimedMove} (htimely : timely s e = true)
    (hfresh : upToDate s e = true) (hs : s.step e = some s') : SoleExecution s' := by
  obtain ⟨now, move⟩ := e
  cases move with
  | claim w => exact h.claim hs
  | turn i turn world =>
    simp only [JobState.step] at hs
    split at hs
    · rename_i x hx
      obtain ⟨s₁, hs₁, rfl⟩ := Option.map_eq_some_iff.mp hs
      obtain ⟨y, hturned⟩ := JobState.turn_turned hx hs₁
      have hstate := h.turn hx hturned
      exact ⟨hstate.alone, hstate.owned⟩
    · cases hs
  | stop w =>
    cases hs
    exact ⟨h.alone, h.owned⟩
  | kill w =>
    cases hs
    exact h.kill w
  | reap =>
    simp only [JobState.step, JobState.reap] at hs
    split at hs
    · cases hs
      have hnone := none_loseAll (h.none_of_reap htimely)
      exact .of_none hnone
    · cases hs
  | cleanUp i contextBuilt removal world =>
    simp only [JobState.step, JobState.cleanUp] at hs
    obtain ⟨job, -, rfl⟩ := Option.map_eq_some_iff.mp hs
    have hleft := Pipelined.cleanUp s.request contextBuilt removal { job, world }
    have hstate := h.row (hleft.flush s.row)
    exact ⟨hstate.alone, hstate.owned⟩
  | load =>
    cases hs
    exact ⟨h.alone, h.owned⟩
  | retry i stageKey parses others othersAtCommit =>
    simp only [JobState.step, JobState.retry] at hs
    split at hs
    · cases hs
    · split at hs
      · cases hs
      · cases hs
        have hnone : NoneExecutes s := by
          simp only [upToDate, Bool.and_eq_true, List.all_eq_true] at hfresh
          exact fun x hx => by simpa using hfresh.2 x hx
        exact .of_none (none_loseAll hnone)
  | cancel i => exact h.cancel hfresh hs

end SoleExecution

theorem soleExecution {s : JobState} (hs : sessions.ReachableUnder
    (fun s e => timely s e = true ∧ upToDate s e = true) s) : SoleExecution s := by
  refine hs.invariant (fun s hinit => ?_) fun s e s' _ h hc hstep => ?_
  · refine .of_none fun x hx => ?_
    rw [hinit.executions] at hx
    cases hx
  · exact h.step hc.1 hc.2 hstep

/-- **Single executor**, in every run with timely workers in which retries and cancellations
commit what they have read and no retry overtakes a live execution. -/
theorem single_executor (s : JobState) (hs : sessions.ReachableUnder
    (fun s e => timely s e = true ∧ upToDate s e = true) s) : SingleExecutor s := by
  intro i j x y hi hj hx hy
  exact (soleExecution hs).alone i j x y hi hj (Phase.live_of_running hx)
    (Phase.live_of_running hy)

/-! ## Two schedules -/

/-- The worker claims the job and cannot build the context of its execution. -/
def failsAtStart (i : Nat) (w : WorkerId) : List TimedMove :=
  [⟨0, .claim w⟩, ⟨0, .turn i .start setupWorld⟩,
    ⟨0, .turn i (.startFails ⟨"ValueError", ""⟩) setupWorld⟩]

/-- A worker dies; its job is reaped, retried and executed by another worker. -/
def diesAndIsRetried : List TimedMove :=
  beginsExecution 0 1 ++ [⟨0, .turn 0 .refresh setupWorld⟩,
    ⟨0, .turn 0 (.proceed .removes) setupWorld⟩, ⟨0, .kill 1⟩, ⟨0, .reap⟩, ⟨0, .load⟩,
    retriesAll] ++ beginsExecution 1 2

theorem single_executor_retried : ∃ s,
    sessions.ReachableUnder (fun s e => timely s e = true ∧ upToDate s e = true) s ∧
    s.executions.map (fun x => x.phase.running) = [false, true] ∧ SingleExecutor s := by
  obtain ⟨s, hs, hruns⟩ :=
    Machine.exists_reachableUnder_of_run (m := sessions) (s := queuedState)
      (t := diesAndIsRetried) (c := fun s e => timely s e && upToDate s e)
      (p := fun s => s.executions.map (fun x => x.phase.running) = [false, true])
      queuedState_submitted (by decide +kernel)
  have hs : sessions.ReachableUnder (fun s e => timely s e = true ∧ upToDate s e = true) s :=
    hs.mono fun s e hc => by simpa using hc
  exact ⟨s, hs, by simpa using hruns, single_executor s hs⟩

/-- Two retries have loaded the failed job; the second commits after the job was claimed. -/
def retriesMeet : List TimedMove :=
  failsAtStart 0 1 ++ [⟨0, .load⟩, ⟨0, .load⟩, retriesAll] ++ beginsExecution 1 1 ++
    [retriesAll] ++ beginsExecution 2 2

theorem two_executors : ∃ s, sessions.ReachableUnder (fun s e => timely s e = true) s ∧
    s.executions.map (fun x => x.phase.running) = [false, true, true] ∧
    ¬SingleExecutor s := by
  obtain ⟨s, hs, hruns⟩ :=
    Machine.exists_reachableUnder_of_run (m := sessions) (s := queuedState) (t := retriesMeet)
      (c := timely) (p := fun s =>
        s.executions.map (fun x => x.phase.running) = [false, true, true])
      queuedState_submitted (by decide +kernel)
  have hruns : s.executions.map (fun x => x.phase.running) = [false, true, true] := by
    simpa using hruns
  refine ⟨s, hs, hruns, fun hsingle => ?_⟩
  have hphase : ∀ i : Nat, (s.executions[i]?).map (fun x : Execution => x.phase.running) =
      [false, true, true][i]? := by
    intro i
    rw [← List.getElem?_map, hruns]
  obtain ⟨x, hx, hxr⟩ := Option.map_eq_some_iff.mp (hphase 1)
  obtain ⟨y, hy, hyr⟩ := Option.map_eq_some_iff.mp (hphase 2)
  exact absurd (hsingle 1 2 x y hx hy hxr hyr) (by decide)

end InfraOps
