import InfraOps.JobRun.Attempts

/-!
# Cancelling a job that may hold answer media

`cancel_job` hands an `INTERRUPTED` job that may hold media to a worker, which releases
them before it finalises the cancellation. The same job is finalised without a worker once
it is `QUEUED`: after a retry, or after that very hand-over.
-/

namespace InfraOps

open JobRepository RunState

/-- A cancel request that finalises the job itself. -/
def CancelsDirectly (s : RunState) (e : Event) (s' : RunState) : Prop :=
  e.action = .cancel ∧ s.job.status ≠ .cancelled ∧ s'.job.status = .cancelled

/-- The cancel request finds a queued job that may hold media. -/
def CancelsQueuedMedia (s : RunState) (e : Event) : Prop :=
  e.action = .cancel ∧ s.job.status = .queued ∧ mayHoldUnattendedMedia s.job = true

/-- A cancel request finalises queued jobs, and interrupted ones without media. -/
theorem cancelsDirectly_iff {s s' : RunState} {e : Event} (h : jobRun.step s e = some s') :
    CancelsDirectly s e s' ↔ e.action = .cancel ∧ (s.job.status = .queued ∨
      (s.job.status = .interrupted ∧ mayHoldUnattendedMedia s.job = false)) := by
  constructor
  · rintro ⟨haction, hbefore, hafter⟩
    refine ⟨haction, ?_⟩
    cases transition_of_step h with
    | cancelled hjob =>
      rcases cancelJob_ok hjob with ⟨-, -, rfl⟩ | ⟨-, hnot, rfl⟩
      · cases hafter
      · rcases requestCancel_cases s.job ‹_› with ⟨hstatus, -⟩ | ⟨-, -, hsame⟩
        · rcases hstatus with hstatus | hstatus
          · exact .inl hstatus
          · exact .inr ⟨hstatus, by simpa [hstatus] using hnot⟩
        · have hafter : (requestCancel s.job _).status = .cancelled := hafter
          rw [hsame] at hafter
          exact absurd hafter hbefore
    | notOwned hstart _ _ =>
      have haction : _ = Action.cancel := haction
      rcases hstart with h | ⟨error, h⟩ <;> rw [h] at haction <;> cases haction
    | _ => cases haction
  · rintro ⟨haction, hstatus⟩
    refine ⟨haction, ?_, ?_⟩
    · rcases hstatus with h | ⟨h, -⟩ <;> simp [h]
    · cases transition_of_step h with
      | cancelled hjob =>
        rcases cancelJob_ok hjob with ⟨hinterrupted, hmay, -⟩ | ⟨-, -, rfl⟩
        · rcases hstatus with hq | ⟨-, hnot⟩
          · rw [hq] at hinterrupted; cases hinterrupted
          · rw [hmay] at hnot; cases hnot
        · rcases requestCancel_cases s.job ‹_› with ⟨-, hcancelled, -⟩ | ⟨hq, hi, -⟩
          · exact hcancelled
          · rcases hstatus with h | ⟨h, -⟩
            · exact absurd h hq
            · exact absurd h hi
      | notOwned hstart _ _ =>
        have haction : _ = Action.cancel := haction
        rcases hstart with h | ⟨error, h⟩ <;> rw [h] at haction <;> cases haction
      | _ => cases haction

/-- **Where media are abandoned.** At every step of every run, a cancel request finalises a
job that may hold answer media exactly if it finds the job `QUEUED`. -/
theorem cancel_abandons_media_iff {s s' : RunState} {e : Event}
    (h : jobRun.step s e = some s') :
    (CancelsDirectly s e s' ∧ mayHoldUnattendedMedia s.job = true) ↔ CancelsQueuedMedia s e := by
  rw [cancelsDirectly_iff h]
  constructor
  · rintro ⟨⟨haction, hstatus | ⟨-, hnot⟩⟩, hmay⟩
    · exact ⟨haction, hstatus, hmay⟩
    · rw [hmay] at hnot
      cases hnot
  · rintro ⟨haction, hstatus, hmay⟩
    exact ⟨⟨haction, .inl hstatus⟩, hmay⟩

/-- Interrupted while Windows installs, and not cleaned up: vCenter cannot be reached. -/
def interruptedWithMedia : List Event :=
  runsStages 0 (orderedStages.take 8) ++
    [⟨0, .next .removes⟩, ⟨0, .interrupt workerStopped {}⟩, ⟨0, .cleanUp false .removes⟩]

/-- After a retry of that job, a cancellation is accepted with the media still in place. -/
theorem requeued_with_media : ∃ s s', jobRun.Reachable s ∧
    jobRun.step s ⟨0, .cancel⟩ = some s' ∧ s.job.status = .queued ∧
    s'.job.status = .cancelled ∧ mayHoldUnattendedMedia s.job = true ∧
    (s'.world.stored (recordedPath s.job)).isSome = true ∧
    (s'.world.drive (recordedPath s.job)).isSome = true := by
  obtain ⟨s, hs, hp⟩ := Machine.exists_reachable_of_run (m := jobRun)
    (p := fun s => s.job.status == .queued && mayHoldUnattendedMedia s.job &&
      (jobRun.step s ⟨0, .cancel⟩).any fun s' => s'.job.status == .cancelled &&
        (s'.world.stored (recordedPath s.job)).isSome &&
        (s'.world.drive (recordedPath s.job)).isSome)
    (RunState.submitted_spec "j1" { vmName := "web01" })
    (show ((jobRun.run _ (interruptedWithMedia ++ [retryAll])).any _) = true by decide +kernel)
  simp only [Bool.and_eq_true, Option.any_eq_true, beq_iff_eq] at hp
  obtain ⟨⟨hqueued, hmay⟩, s', hstep, ⟨hcancelled, hstored⟩, hdrive⟩ := hp
  exact ⟨s, s', hs, hstep, hqueued, hcancelled, hmay, hstored, hdrive⟩

/-- A retry of an interrupted job followed by a cancellation leaves a `CANCELLED` job, the
drive and the ISO, and no worker that will look at them. -/
theorem cancel_abandons_media : ∃ s s', jobRun.Reachable s ∧
    jobRun.step s ⟨0, .cancel⟩ = some s' ∧ CancelsDirectly s ⟨0, .cancel⟩ s' ∧
    mayHoldUnattendedMedia s.job = true ∧
    (s'.world.stored (recordedPath s.job)).isSome = true ∧
    (s'.world.drive (recordedPath s.job)).isSome = true := by
  obtain ⟨s, s', hs, hstep, hqueued, hcancelled, hmay, hstored, hdrive⟩ := requeued_with_media
  exact ⟨s, s', hs, hstep, ⟨rfl, by simp [hqueued], hcancelled⟩, hmay, hstored, hdrive⟩

/-- The general statement at that request. -/
theorem cancel_abandons_media_iff_retried : ∃ s s', jobRun.Reachable s ∧
    jobRun.step s ⟨0, .cancel⟩ = some s' ∧
    ((CancelsDirectly s ⟨0, .cancel⟩ s' ∧ mayHoldUnattendedMedia s.job = true) ↔
      CancelsQueuedMedia s ⟨0, .cancel⟩) := by
  obtain ⟨s, s', hs, hstep, -⟩ := requeued_with_media
  exact ⟨s, s', hs, hstep, cancel_abandons_media_iff hstep⟩

end InfraOps
