import InfraOps.Sessions.Writes

/-!
# Lost ownership

An execution whose job was reaped, requeued or claimed since is told by its next heartbeat,
and by its own look at the row when it starts or is shut down. What it commits before that,
or from a row it had read before, overrules the statuses of the job.
-/

namespace InfraOps

/-- The next thing that the execution does about the row is to look at it: it does not stand
between reading and writing it outside the stage loop, and nothing keeps a cancellation from
its pipeline. -/
def Phase.calm : Phase → Bool
  | claimed | pipeline _ _ | stopped | ended => true
  | _ => false

def Phase.over : Phase → Bool
  | ended => true
  | _ => false

/-- Steps of the stage loop and of its crash handler, but for the refresh. -/
def Turn.stages : Turn → Bool
  | proceed _ | act _ | cancelHandler | crash => true
  | _ => false

/-- Everyone who still owns the job is calm. -/
def ownersCalm (s : JobState) : Bool := s.executions.all fun x => x.lost || x.phase.calm

/-- A loss is heeded: it comes when the owner is calm, the pipeline takes no step before the
heartbeat has ended it, and its worker does not claim the job again meanwhile. -/
def heeded (s : JobState) (e : TimedMove) : Bool :=
  match e.move with
  | .claim w => ownersCalm s && s.executions.all fun x => x.phase.over || x.worker != w
  | .reap => ownersCalm s
  | .retry _ _ _ _ _ => ownersCalm s
  | .cancel i => ownersCalm s || !(s.requests[i]?.any JobState.handsOver)
  | .turn i turn _ => s.executions[i]?.all fun x => !(x.lost && turn.stages)
  | _ => true

/-- What a loss leaves behind. -/
structure LossInv (s : JobState) : Prop where
  calm : ∀ x ∈ s.executions, x.lost = true → x.phase.calm = true
  notOwner : ∀ x ∈ s.executions, x.lost = true → x.phase.over = false →
    s.ownedBy x.worker = false
  onTime : s.late = false

theorem JobState.ownedBy_eq_false_iff {s : JobState} {w : WorkerId} : s.ownedBy w = false ↔
    (s.row.status = .running → s.row.workerId ≠ some w) := by
  simp [JobState.ownedBy]

/-- Only a claim makes a worker the owner. -/
theorem Unclaimed.not_owner {s s' : JobState} (h : Unclaimed s.row s'.row) {w : WorkerId}
    (hw : s.ownedBy w = false) : s'.ownedBy w = false := by
  rw [JobState.ownedBy_eq_false_iff] at hw ⊢
  intro hrunning
  rcases h.workerId with hsame | hnone
  · rw [hsame]
    exact hw (h.status hrunning)
  · simp [hnone]

/-- A turn that leaves the row alone, and the execution calm. -/
def LeavesRow (s : JobState) (i : Nat) (x : Execution) (s' : JobState) : Prop :=
  s'.row = s.row ∧ s'.late = s.late ∧ ∃ y, s'.executions = s.executions.set i y ∧
    y.worker = x.worker ∧ y.lost = x.lost ∧ y.phase.calm = true ∧
    (y.phase.over = false → x.phase.over = false)

theorem LeavesRow.set {s : JobState} {i : Nat} {x y : Execution} (hworker : y.worker = x.worker)
    (hlost : y.lost = x.lost) (hcalm : y.phase.calm = true)
    (hover : y.phase.over = false → x.phase.over = false) : LeavesRow s i x (s.set i y) :=
  ⟨rfl, rfl, y, rfl, hworker, hlost, hcalm, hover⟩

namespace JobState

variable {s s' : JobState} {i : Nat} {x : Execution} {now : Timestamp}

theorem heartbeat_of_lost (hx : s.executions[i]? = some x) (hcalm : x.phase.calm = true)
    (howner : x.phase.over = false → s.ownedBy x.worker = false)
    (h : s.heartbeat i x now = some s') : LeavesRow s i x s' := by
  unfold JobState.heartbeat at h
  dsimp only at h
  split at h
  · rename_i exec refreshed hphase
    have hover : x.phase.over = false := by rw [hphase]; rfl
    rw [howner hover, if_neg Bool.false_ne_true] at h
    split at h
    · cases h
      obtain ⟨hi, rfl⟩ := List.getElem?_eq_some_iff.mp hx
      have hset : LeavesRow s i s.executions[i] (s.set i s.executions[i]) :=
        .set rfl rfl hcalm id
      rwa [JobState.set, List.set_getElem_self] at hset
    · cases h
      refine .set rfl rfl ?_ fun _ => hover
      dsimp only
      split <;> rfl
  · rename_i hphase
    rw [hphase] at hcalm
    cases hcalm
  · cases h

theorem refresh_of_lost (h : s.refresh i x = some s') : LeavesRow s i x s' := by
  unfold JobState.refresh at h
  split at h
  · rename_i hphase
    split at h
    · cases h
      exact .set rfl rfl rfl fun _ => by rw [hphase]; rfl
    · cases h
  · cases h

theorem shutDown_of_lost (h : s.shutDown i x = some s') : LeavesRow s i x s' := by
  unfold JobState.shutDown at h
  split at h
  · split at h
    · cases h
      exact .set rfl rfl rfl fun hover => by cases hover
    · rename_i hphase
      cases h
      exact .set rfl rfl rfl fun _ => by rw [hphase]; rfl
    · rename_i hphase
      cases h
      exact .set rfl rfl rfl fun _ => by rw [hphase]; rfl
    · rename_i hphase
      cases h
      exact .set rfl rfl rfl fun _ => by rw [hphase]; rfl
    · cases h
  · cases h

/-- **An execution that has lost the job** leaves the row alone: its heartbeat ends the
pipeline, and a look at the row ends the rest. -/
theorem turn_of_lost {turn : Turn} {world : World} (hx : s.executions[i]? = some x)
    (hcalm : x.phase.calm = true)
    (howner : x.phase.over = false → s.ownedBy x.worker = false) (hturn : turn.stages = false)
    (h : s.turn i x turn world now = some s') : LeavesRow s i x s' := by
  unfold JobState.turn at h
  dsimp only at h
  split at h
  · rename_i hphase
    rw [howner (by rw [hphase]; rfl), if_neg Bool.false_ne_true] at h
    cases h
    exact .set rfl rfl rfl fun hover => by cases hover
  -- between its look at the row and its commit an execution is not calm
  · rename_i hphase
    rw [hphase] at hcalm
    cases hcalm
  · rename_i hphase
    rw [hphase] at hcalm
    cases hcalm
  · exact heartbeat_of_lost hx hcalm howner h
  · exact refresh_of_lost h
  · cases hturn
  · cases hturn
  · cases hturn
  · cases hturn
  · cases hturn
  · rename_i hphase
    rw [hphase] at hcalm
    cases hcalm
  · exact shutDown_of_lost h
  · rename_i hphase
    rw [howner (by rw [hphase]; rfl), if_neg Bool.false_ne_true] at h
    cases h
    exact .set rfl rfl rfl fun hover => by cases hover
  · rename_i hphase
    rw [hphase] at hcalm
    cases hcalm
  · rename_i hphase
    rw [hphase] at hcalm
    cases hcalm
  · cases h

end JobState

theorem statusChanged_self (job : ProvisioningJob) : JobState.statusChanged job job = false := by
  simp [JobState.statusChanged]

namespace LossInv

variable {s s' : JobState}

/-- The turn of an execution that has not lost the job. -/
theorem turn_of_owner (h : LossInv s) {i : Nat} {x y : Execution}
    (hlost : x.lost = false) (hturned : Turned s i x y s') : LossInv s' := by
  have hold : ∀ z ∈ s'.executions, z.lost = true → z ∈ s.executions := by
    intro z hz hzl
    rw [hturned.executions] at hz
    rcases List.mem_or_eq_of_mem_set hz with hz | rfl
    · exact hz
    · rw [hturned.lost, hlost] at hzl
      cases hzl
  refine ⟨fun z hz hzl => h.calm z (hold z hz hzl) hzl, fun z hz hzl hover => ?_, ?_⟩
  · exact hturned.unclaimed.not_owner (h.notOwner z (hold z hz hzl) hzl hover)
  · rw [hturned.late, h.onTime]

/-- The turn of one that has. -/
theorem turn_of_lost (h : LossInv s) {i : Nat} {x : Execution} (hx : s.executions[i]? = some x)
    (hlost : x.lost = true) (hleaves : LeavesRow s i x s') : LossInv s' := by
  obtain ⟨hrow, hlate, y, hexecutions, hworker, hylost, hcalm, hover⟩ := hleaves
  have hxmem := List.mem_of_getElem? hx
  have hsame : ∀ w, s'.ownedBy w = s.ownedBy w := fun w => by simp [JobState.ownedBy, hrow]
  refine ⟨fun z hz hzl => ?_, fun z hz hzl hzover => ?_, ?_⟩
  · rw [hexecutions] at hz
    rcases List.mem_or_eq_of_mem_set hz with hz | rfl
    · exact h.calm z hz hzl
    · exact hcalm
  · rw [hsame]
    rw [hexecutions] at hz
    rcases List.mem_or_eq_of_mem_set hz with hz | rfl
    · exact h.notOwner z hz hzl hzover
    · rw [hworker]
      exact h.notOwner x hxmem hlost (hover hzover)
  · rw [hlate, h.onTime]

theorem turn (h : LossInv s) {i : Nat} {x : Execution} {turn : Turn} {world : World}
    {now : Timestamp} (hx : s.executions[i]? = some x)
    (hheeded : x.lost = true → turn.stages = false)
    (hs : s.turn i x turn world now = some s') :
    LossInv { s' with late := s.late || (x.lost && JobState.statusChanged s.row s'.row) } := by
  cases hlost : x.lost with
  | false =>
    obtain ⟨y, hturned⟩ := JobState.turn_turned hx hs
    have hstate := h.turn_of_owner hlost hturned
    exact ⟨hstate.calm, hstate.notOwner, by simp [h.onTime]⟩
  | true =>
    have hmem := List.mem_of_getElem? hx
    have hleaves := JobState.turn_of_lost hx (h.calm x hmem hlost) (h.notOwner x hmem hlost)
      (hheeded hlost) hs
    have hstate := h.turn_of_lost hx hlost hleaves
    have hsame : JobState.statusChanged s.row s'.row = false := by
      rw [hleaves.1]
      exact statusChanged_self s.row
    exact ⟨hstate.calm, hstate.notOwner, by simp [h.onTime, hsame]⟩

/-- The owners lose the job, which nobody owns now. -/
theorem lose (h : LossInv s) (hcalm : ownersCalm s = true) {row : ProvisioningJob}
    {requests reaped : List ProvisioningJob} (hrow : row.status ≠ .running) :
    LossInv { s.loseAll with row, requests, reaped } := by
  refine ⟨fun z hz _ => ?_, fun z _ _ _ => ?_, h.onTime⟩
  · obtain ⟨x, hx, rfl⟩ := List.mem_map.mp hz
    rcases Bool.or_eq_true _ _ |>.mp (List.all_eq_true.mp hcalm x hx) with hxl | hxc
    · exact h.calm x hx hxl
    · exact hxc
  · rw [JobState.ownedBy_eq_false_iff]
    exact fun hrunning => absurd hrunning hrow

/-- The row changes, but nobody new claims the job. -/
theorem row (h : LossInv s) {row : ProvisioningJob} {requests reaped : List ProvisioningJob}
    (hrow : Unclaimed s.row row) : LossInv { s with row, requests, reaped } := by
  refine ⟨h.calm, fun z hz hzl hover => ?_, h.onTime⟩
  have hnot : s.ownedBy z.worker = false := h.notOwner z hz hzl hover
  have hrow : Unclaimed s.row { s with row, requests, reaped }.row := hrow
  exact hrow.not_owner hnot

theorem claim (h : LossInv s) {w : WorkerId} {now : Timestamp}
    (hheeded : heeded s ⟨now, .claim w⟩ = true) (hs : s.claim w now = some s') : LossInv s' := by
  simp only [heeded, Bool.and_eq_true] at hheeded
  obtain ⟨hcalm, hother⟩ := hheeded
  unfold JobState.claim at hs
  split at hs
  · cases hs
    -- the new execution owns the job; the others lose it
    have hold : ∀ z ∈ s.loseAll.executions ++
        [{ worker := w, loaded := JobRepository.claim s.row w now }], z.lost = true →
        ∃ x ∈ s.executions, z = { x with lost := true } := by
      intro z hz hzl
      rcases List.mem_append.mp hz with hz | hz
      · obtain ⟨x, hx, rfl⟩ := List.mem_map.mp hz
        exact ⟨x, hx, rfl⟩
      · rw [List.mem_singleton.mp hz] at hzl
        cases hzl
    refine ⟨fun z hz hzl => ?_, fun z hz hzl hover => ?_, h.onTime⟩
    · obtain ⟨x, hx, rfl⟩ := hold z hz hzl
      rcases Bool.or_eq_true _ _ |>.mp (List.all_eq_true.mp hcalm x hx) with hxl | hxc
      · exact h.calm x hx hxl
      · exact hxc
    · obtain ⟨x, hx, rfl⟩ := hold z hz hzl
      rw [JobState.ownedBy_eq_false_iff]
      intro _ hworker
      have hne := List.all_eq_true.mp hother x hx
      cases hworker
      simp only at hover
      simp [hover] at hne
  · cases hs

theorem cancel (h : LossInv s) {i : Nat} {now : Timestamp}
    (hheeded : heeded s ⟨now, .cancel i⟩ = true) (hs : s.cancel i now = some s') :
    LossInv s' := by
  unfold JobState.cancel at hs
  split at hs
  · cases hs
  · rename_i job hjob
    split at hs
    · cases hs
    · rename_i left hleft
      cases hs
      have hunclaimed := (Unclaimed.cancelJob hleft).flush s.row
      cases hover : JobState.handsOver job with
      | false => exact h.row hunclaimed
      -- a hand-over takes an interrupted job from whoever still winds down
      | true =>
        have hcalm : ownersCalm s = true := by simpa [heeded, hjob, hover] using hheeded
        simp only [JobState.handsOver, Bool.and_eq_true, beq_iff_eq] at hover
        have hqueued : (s.row.flush job left).status = .queued := by
          rcases cancelJob_ok hleft with ⟨hinterrupted, -, rfl⟩ | ⟨-, hnot, -⟩
          · exact written_ne (by simp [handOver, hinterrupted])
          · exact absurd hover hnot
        exact h.lose hcalm (by simp [hqueued])

theorem step (h : LossInv s) {e : TimedMove} (hheeded : heeded s e = true)
    (hs : s.step e = some s') : LossInv s' := by
  obtain ⟨now, move⟩ := e
  cases move with
  | claim w => exact h.claim hheeded hs
  | turn i turn world =>
    simp only [JobState.step] at hs
    split at hs
    · rename_i x hx
      obtain ⟨s₁, hs₁, rfl⟩ := Option.map_eq_some_iff.mp hs
      refine h.turn hx (fun hlost => ?_) hs₁
      simpa [heeded, hx, hlost] using hheeded
    · cases hs
  | stop w =>
    cases hs
    exact ⟨h.calm, h.notOwner, h.onTime⟩
  | kill w =>
    cases hs
    have hold : ∀ z ∈ s.executions.map (fun x : Execution =>
        if x.worker = w then { x with phase := .ended } else x), z.phase = .ended ∨
        z ∈ s.executions := by
      intro z hz
      obtain ⟨x, hx, rfl⟩ := List.mem_map.mp hz
      split
      · exact .inl rfl
      · exact .inr hx
    refine ⟨fun z hz hzl => ?_, fun z hz hzl hover => ?_, h.onTime⟩
    · rcases hold z hz with hended | hz
      · rw [hended]
        rfl
      · exact h.calm z hz hzl
    · rcases hold z hz with hended | hz
      · rw [hended] at hover
        cases hover
      · exact h.notOwner z hz hzl hover
  | reap =>
    simp only [JobState.step, JobState.reap] at hs
    split at hs
    · cases hs
      exact h.lose hheeded (by simp [interrupt])
    · cases hs
  | cleanUp i contextBuilt removal world =>
    simp only [JobState.step, JobState.cleanUp] at hs
    obtain ⟨job, -, rfl⟩ := Option.map_eq_some_iff.mp hs
    have hleft := Pipelined.cleanUp s.request contextBuilt removal { job, world }
    exact h.row (hleft.flush s.row).unclaimed
  | load =>
    cases hs
    exact ⟨h.calm, h.notOwner, h.onTime⟩
  | retry i stageKey parses others othersAtCommit =>
    simp only [JobState.step, JobState.retry] at hs
    split at hs
    · cases hs
    · rename_i job hjob
      split at hs
      · cases hs
      · rename_i left reset hleft
        cases hs
        obtain ⟨hretriable, stageKeys, hrequeued⟩ := retryStages_requeued hleft
        have hne : left.status ≠ job.status := by
          rw [hrequeued.status]
          intro hsame
          rw [← hsame] at hretriable
          cases hretriable
        have hqueued : (s.row.flush job left).status = .queued :=
          (written_ne hne).trans hrequeued.status
        exact h.lose hheeded (by simp [hqueued])
  | cancel i => exact h.cancel hheeded hs

end LossInv

/-- No execution that had lost the job has changed its status, or that of a step, since. -/
def LossIsFinal (s : JobState) : Prop := s.late = false

/-- **Lost ownership is final** in every run that heeds the losses. -/
theorem lost_ownership_final (s : JobState)
    (hs : sessions.ReachableUnder (fun s e => heeded s e = true) s) : LossIsFinal s := by
  have hinv : LossInv s := by
    refine hs.invariant (fun s hinit => ?_) fun s e s' _ h hheeded hstep => ?_
    · refine ⟨fun x hx => ?_, fun x hx => ?_, hinit.late⟩
      · rw [hinit.executions] at hx
        cases hx
      · rw [hinit.executions] at hx
        cases hx
    · exact h.step hheeded hstep
  exact hinv.onTime

/-- The first worker's job is reaped while it runs a stage. -/
def reapedWithin : List TimedMove :=
  beginsExecution 0 1 ++ [⟨0, .turn 0 .refresh setupWorld⟩,
    ⟨0, .turn 0 (.proceed .removes) setupWorld⟩, ⟨0, .reap⟩]

/-- Its heartbeat comes first: the job is retried and executed by another worker. -/
theorem lost_ownership_final_heartbeat : ∃ s,
    sessions.ReachableUnder (fun s e => heeded s e = true) s ∧
    s.executions.map (fun x => (x.lost, x.phase.over)) = [(true, true), (false, false)] ∧
    LossIsFinal s := by
  obtain ⟨s, hs, hends⟩ :=
    Machine.exists_reachableUnder_of_run (m := sessions) (s := queuedState)
      (t := reapedWithin ++ [⟨0, .turn 0 .heartbeat setupWorld⟩, ⟨0, .load⟩, retriesAll] ++
        beginsExecution 1 2)
      (c := heeded) (p := fun s => s.executions.map (fun x => (x.lost, x.phase.over)) =
        [(true, true), (false, false)])
      queuedState_submitted (by decide +kernel)
  exact ⟨s, hs, by simpa using hends, lost_ownership_final s hs⟩

/-- Its stage ends first: the step that the reaper has failed is SUCCEEDED. -/
theorem reaped_step_succeeds : ∃ s, sessions.Reachable s ∧ s.row.status = .interrupted ∧
    s.row.stepStatus .validateRequest = some .succeeded ∧ ¬LossIsFinal s := by
  obtain ⟨s, hs, hends⟩ :=
    Machine.exists_reachable_of_run (m := sessions) (s := queuedState)
      (t := reapedWithin ++
        [⟨0, .turn 0 (.act (.finish (.other {}) .removes none)) setupWorld⟩])
      (p := fun s => s.row.status = .interrupted ∧
        s.row.stepStatus .validateRequest = some .succeeded ∧ s.late = true)
      queuedState_submitted (by decide +kernel)
  simp only [decide_eq_true_eq] at hends
  obtain ⟨hstatus, hstep, hlate⟩ := hends
  refine ⟨s, hs, hstatus, hstep, fun hfinal => ?_⟩
  rw [hfinal] at hlate
  cases hlate

end InfraOps
