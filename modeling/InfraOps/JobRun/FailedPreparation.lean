import InfraOps.JobRun.Attempts

/-!
# What a failed preparation leaves behind

`datastore_path` is recorded when the preparation SUCCEEDS, and every release works from
it: whatever an attempt uploaded before it ended in another way is out of reach. The
result below says exactly when an attempt that does not succeed leaves no ISO: when its
upload never reaches the datastore.
-/

namespace InfraOps

open JobRepository RunState

/-- What an attempt of the preparation does outside, when `e` ends it without success:
everything up to the end, and what its abandoned thread still does. -/
def failedEffects (s : RunState) (e : Event) : Option (List Effect) :=
  match s.exec with
  | .stage .prepareUnattendedInstall _ ctx =>
    let handler := runHandler .prepareUnattendedInstall ctx s.job s.world
    let cutAt (answers : StageAnswers) (cut : Cut) : Option (List Effect) :=
      (handler answers).map fun run => run.effectsBefore cut ++ run.effectsAfter cut
    match e.action with
    | .finish answers _ _ =>
      (handler answers).bind fun run =>
        match run.result with
        | .ok _ => none
        | .error _ => some run.effects
    | .timeOut answers cut _ _ _ => cutAt answers cut
    | .stageCancelled answers cut _ => cutAt answers cut
    | .crash abort => cutAt abort.answers abort.cut
    | .interrupt _ abort => cutAt abort.answers abort.cut
    | _ => none
  | _ => none

/-- The job settles: an interruption is cleaned up, and the abandoned thread goes on. -/
inductive Settles (thread : Nat) : RunState → RunState → Prop
  | refl {s : RunState} : Settles thread s s
  | cleanUp {s₁ s₂ s₃ : RunState} {now : Timestamp} {contextBuilt : Bool}
      {removal : RemovalAnswers} : Settles thread s₁ s₂ →
      jobRun.step s₂ ⟨now, .cleanUp contextBuilt removal⟩ = some s₃ → Settles thread s₁ s₃
  | land {s₁ s₂ s₃ : RunState} {now : Timestamp} : Settles thread s₁ s₂ →
      jobRun.step s₂ ⟨now, .land thread⟩ = some s₃ → Settles thread s₁ s₃

/-- The effects that a thread still lands. -/
def RunState.pending (s : RunState) (thread : Nat) : List Effect :=
  s.inFlight[thread]?.getD []

/-! ## One attempt's effects -/

/-- Under a preparation's effects a path holds this attempt's ISO, or what it held. -/
theorem stored_applyAll {a : Nat} {es : List Effect} (hes : ∀ e ∈ es, e.prepares a) (w : World)
    (path : String) : (w.applyAll es).stored path =
      if .upload path a ∈ es then some a else w.stored path := by
  induction es generalizing w with
  | nil => simp
  | cons e es ih =>
    rw [World.applyAll_cons, ih fun e' he' => hes e' (by simp [he'])]
    obtain ⟨path', rfl | rfl⟩ := hes e (by simp)
    · by_cases hp : path' = path
      · subst hp
        simp [World.apply]
      · have hp' : path ≠ path' := Ne.symm hp
        simp [World.apply, hp']
    · simp [World.apply]

/-- An attempt that the datastore did not know is known to it after its effects exactly if
it uploaded. -/
theorem stored_iff_uploads {a : Nat} {es : List Effect} (hes : ∀ e ∈ es, e.prepares a)
    {w : World} (hw : ∀ path, w.stored path ≠ some a) :
    (∀ path, (w.applyAll es).stored path ≠ some a) ↔ ∀ path m, .upload path m ∉ es := by
  constructor
  · intro h path m hmem
    obtain ⟨path', heq | heq⟩ := hes _ hmem
    · cases heq
      refine h path ?_
      rw [stored_applyAll hes, if_pos hmem]
    · cases heq
  · intro h path
    rw [stored_applyAll hes, if_neg (h path a)]
    exact hw path

/-! ## The end of the attempt -/

/-- Right after its end, the attempt has done `landed` and its thread still does the rest;
no media is on record. -/
structure EndedWith (s : RunState) (effects : List Effect) (s₁ : RunState) : Prop where
  split : ∃ landed, effects = landed ++ s₁.pending s.inFlight.length ∧
    s₁.world = s.world.applyAll landed
  unrecorded : mayHoldUnattendedMedia s₁.job = false

theorem not_mayHold_of_running {s : RunState} (hs : MediaInv s) {rest : List Stage}
    {ctx : JobRunContext} (hexec : s.exec = .stage .prepareUnattendedInstall rest ctx) :
    mayHoldUnattendedMedia s.job = false := by
  rw [← Bool.not_eq_true]
  intro hmay
  have hdone := (hs.row _ _ _ hexec).2
  rw [ProvisioningJob.stepDone_eq, hs.prepared hmay] at hdone
  cases hdone

theorem handleFailure_world {k : Stage} {d : Deployment} (hk : d.job.stepDone k = false)
    (hnot : mayHoldUnattendedMedia d.job = false) (ctx : JobRunContext)
    (f : InfraOperationError) (screenshot : Option String) (removal : RemovalAnswers)
    (now : Timestamp) : (handleFailure ctx k f screenshot removal now d).world = d.world := by
  obtain ⟨records, -, hworld⟩ := handleFailure_eq ctx k f screenshot removal now d
  rw [hworld, releaseUnattendedMedia_of_not_mayHold]
  exact (KeepsMedia.failJob hk f screenshot now).not_mayHold hnot

theorem cancelStage_world {k : Stage} {d : Deployment} (hk : d.job.stepDone k = false)
    (hnot : mayHoldUnattendedMedia d.job = false) (ctx : JobRunContext)
    (removal : RemovalAnswers) (now : Timestamp) :
    (cancelStage ctx k removal now d).world = d.world := by
  rw [cancelStage, applyCancellation_world, releaseUnattendedMedia_of_not_mayHold]
  exact (KeepsMedia.cancelledStep hk now).not_mayHold hnot

theorem releasing_world {d : Deployment} (hnot : mayHoldUnattendedMedia d.job = false)
    (ctx : JobRunContext) (removal : Option RemovalAnswers) :
    releasing d ctx removal = d.world := by
  cases removal with
  | none => rfl
  | some a => simp [releasing, releaseUnattendedMedia_of_not_mayHold hnot]

theorem pending_append (fs : List (List Effect)) (es : List Effect) :
    (fs ++ [es])[fs.length]?.getD [] = es := by
  simp

/-- An aborted preparation has done what it had done, and nothing is removed. -/
theorem aborted_preparation {s s₁ : RunState} {abort : Abort} {rest : List Stage}
    {ctx : JobRunContext} {run : HandlerRun} (hs : MediaInv s)
    (hexec : s.exec = .stage .prepareUnattendedInstall rest ctx)
    (hrun : runHandler .prepareUnattendedInstall ctx s.job s.world abort.answers = some run)
    (h : s.aborted abort = some s₁) :
    s₁.world = s.world.applyAll (run.effectsBefore abort.cut) ∧
      s₁.inFlight = s.inFlight ++ [run.effectsAfter abort.cut] := by
  have hnot : mayHoldUnattendedMedia (s.cutAt run abort.cut).job = false :=
    (KeepsMedia.assignments s.job _).not_mayHold (not_mayHold_of_running hs hexec)
  simp only [aborted, hexec, hrun, Option.map_some, Option.some.injEq] at h
  subst h
  exact ⟨releasing_world hnot ctx abort.removal, rfl⟩

/-- A step that aborts the preparation and then writes only the row ends the attempt with
what its thread leaves. -/
theorem EndedWith.of_aborted {s s₁ s₂ : RunState} {abort : Abort} {rest : List Stage}
    {ctx : JobRunContext} {run : HandlerRun} (hs : MediaInv s)
    (hexec : s.exec = .stage .prepareUnattendedInstall rest ctx)
    (hrun : runHandler .prepareUnattendedInstall ctx s.job s.world abort.answers = some run)
    (h : s.aborted abort = some s₂) (hworld : s₁.world = s₂.world)
    (hflight : s₁.inFlight = s₂.inFlight) (hkept : KeepsMedia s₂.job s₁.job) :
    EndedWith s (run.effectsBefore abort.cut ++ run.effectsAfter abort.cut) s₁ := by
  obtain ⟨haborted, hthreads⟩ := aborted_preparation hs hexec hrun h
  refine ⟨⟨run.effectsBefore abort.cut, ?_, hworld.trans haborted⟩, hkept.not_mayHold ?_⟩
  · rw [RunState.pending, hflight, hthreads, pending_append]
  · rw [(aborted_spec h).1]
    exact not_mayHold_of_running hs hexec

/-- **The end of an attempt** performs its effects and removes nothing. -/
theorem endedWith {s s₁ : RunState} {e : Event} {effects : List Effect} (hs : MediaInv s)
    (hfail : failedEffects s e = some effects) (h : jobRun.step s e = some s₁) :
    EndedWith s effects s₁ := by
  have htrans := transition_of_step h
  unfold failedEffects at hfail
  split at hfail
  · rename_i rest ctx hexec
    have hnot := not_mayHold_of_running hs hexec
    have hdone : ∀ as, (applyAssignments s.job as).stepDone .prepareUnattendedInstall = false :=
      fun as => (applyAssignments_steps s.job as _).2.trans (hs.row _ _ _ hexec).2
    have hassigned : ∀ as, mayHoldUnattendedMedia (applyAssignments s.job as) = false :=
      fun as => (KeepsMedia.assignments s.job as).not_mayHold hnot
    cases htrans with
    | returned hexec' hrun hresult =>
      rw [hexec] at hexec'
      cases hexec'
      simp [hrun, hresult] at hfail
    | @raised now answers removal screenshot k _ ctx' run raised hexec' hrun hresult =>
      rw [hexec] at hexec'
      cases hexec'
      simp only [hrun, hresult, Option.bind_some, Option.some.injEq] at hfail
      subst hfail
      refine ⟨⟨run.effects, by simp [RunState.pending, endStage], ?_⟩, ?_⟩
      · exact handleFailure_world (d := s.ranTo run) (hdone _) (hassigned _) _ _ _ _ _
      · exact (KeepsMedia.handleFailure (d := s.ranTo run) (hdone _) _ _ _ _ _).not_mayHold
          (hassigned _)
    | @timedOut now answers cut seconds removal screenshot k _ ctx' run hexec' hrun =>
      rw [hexec] at hexec'
      cases hexec'
      simp only [hrun, Option.map_some, Option.some.injEq] at hfail
      subst hfail
      refine ⟨⟨run.effectsBefore cut, by rw [RunState.pending, pending_append], ?_⟩, ?_⟩
      · exact handleFailure_world (d := s.cutAt run cut) (hdone _) (hassigned _) _ _ _ _ _
      · exact (KeepsMedia.handleFailure (d := s.cutAt run cut) (hdone _) _ _ _ _ _).not_mayHold
          (hassigned _)
    | @cancelledWithin now answers cut removal k _ ctx' run hexec' hevent hrun =>
      rw [hexec] at hexec'
      cases hexec'
      simp only [hrun, Option.map_some, Option.some.injEq] at hfail
      subst hfail
      refine ⟨⟨run.effectsBefore cut, by rw [RunState.pending, pending_append], ?_⟩, ?_⟩
      · exact cancelStage_world (d := s.cutAt run cut) (hdone _) (hassigned _) _ _ _
      · exact (KeepsMedia.cancelStage (d := s.cutAt run cut) (hdone _) _ _ _).not_mayHold
          (hassigned _)
    | @crashed now abort s₂ _ _ habort =>
      obtain ⟨run, hrun, rfl⟩ := Option.map_eq_some_iff.mp hfail
      exact .of_aborted hs hexec hrun habort rfl rfl (.failBeforePipeline _ _ _)
    | @interrupted now reason abort s₂ habort _ =>
      obtain ⟨run, hrun, rfl⟩ := Option.map_eq_some_iff.mp hfail
      exact .of_aborted hs hexec hrun habort rfl rfl (.interrupt _ _ _)
    | @abandoned now reason abort s₂ habort _ =>
      obtain ⟨run, hrun, rfl⟩ := Option.map_eq_some_iff.mp hfail
      exact .of_aborted hs hexec hrun habort rfl rfl (.refl _)
    | notOwned _ hexec' _ => rw [hexec] at hexec'; cases hexec'
    | _ => cases hfail
  · cases hfail

/-- While the job settles, only the attempt's own thread acts, and nothing is removed. -/
theorem EndedWith.settles {s s₁ s₂ : RunState} {effects : List Effect}
    (h : EndedWith s effects s₁) (hsettle : Settles s.inFlight.length s₁ s₂) :
    EndedWith s effects s₂ := by
  induction hsettle with
  | refl => exact h
  | @cleanUp s₂ s₃ now contextBuilt removal _ hstep ih =>
    have hnot := ih.unrecorded
    cases transition_of_step hstep with
    | cleanedUp hexec =>
      have hsame : InfraOps.cleanUp s₂.request contextBuilt removal s₂.toDeployment =
          s₂.toDeployment := by
        unfold InfraOps.cleanUp
        rw [releaseUnattendedMedia_of_not_mayHold hnot]
        exact ite_self _
      rw [hsame]
      exact ⟨ih.split, hnot⟩
    | notOwned haction _ _ => rcases haction with h | ⟨error, h⟩ <;> cases h
  | @land s₂ s₃ now _ hstep ih =>
    cases transition_of_step hstep with
    | @landed _ _ e es hflight =>
      obtain ⟨landed, hsplit, hworld⟩ := ih.split
      have hpending : s₂.pending s.inFlight.length = e :: es := by
        rw [RunState.pending, hflight]
        rfl
      have hlt : s.inFlight.length < s₂.inFlight.length :=
        (List.getElem?_eq_some_iff.mp hflight).1
      refine ⟨⟨landed ++ [e], ?_, ?_⟩, ih.unrecorded⟩
      · rw [hsplit, hpending]
        simp [RunState.pending, hlt]
      · show s₂.world.apply e = _
        rw [hworld, World.applyAll_append]
        rfl
    | notOwned haction _ _ => rcases haction with h | ⟨error, h⟩ <;> cases h

/-- The effects of a preparation are the uploads and attachments of the running attempt. -/
theorem failedEffects_prepares {s : RunState} {e : Event} {effects : List Effect}
    (h : failedEffects s e = some effects) :
    (∃ rest ctx, s.exec = .stage .prepareUnattendedInstall rest ctx) ∧
      ∀ x ∈ effects, x.prepares (attempts s.job) := by
  unfold failedEffects at h
  split at h
  · rename_i rest ctx hexec
    refine ⟨⟨rest, ctx, hexec⟩, ?_⟩
    have hrun : ∀ answers run, runHandler .prepareUnattendedInstall ctx s.job s.world answers =
        some run → ∀ x ∈ run.effects, x.prepares (attempts s.job) := by
      intro answers run hrun x hx
      cases runHandler_runOf hrun with
      | prepare hk a => exact stagePrepare_effects hx
      | other hk a ha => exact absurd rfl hk.2.1
      | _ hk => cases hk
    have hcut : ∀ answers cut, (runHandler .prepareUnattendedInstall ctx s.job s.world
        answers).map (fun run => run.effectsBefore cut ++ run.effectsAfter cut) = some effects →
        ∀ x ∈ effects, x.prepares (attempts s.job) := by
      intro answers cut hmap x hx
      obtain ⟨run, hsome, rfl⟩ := Option.map_eq_some_iff.mp hmap
      rcases List.mem_append.mp hx with hx | hx
      · exact hrun answers run hsome x (HandlerRun.mem_effectsBefore hx)
      · exact hrun answers run hsome x (HandlerRun.mem_effectsAfter hx)
    dsimp only at h
    split at h
    · obtain ⟨run, hsome, hresult⟩ := Option.bind_eq_some_iff.mp h
      split at hresult
      · cases hresult
      · cases hresult
        exact hrun _ run hsome
    · exact hcut _ _ h
    · exact hcut _ _ h
    · exact hcut _ _ h
    · exact hcut _ _ h
    · cases h
  · cases h

/-- **What a failed preparation leaves.** For every reachable state, every way in which an
attempt of the preparation can end without success and every settling of the job, once
the attempt's own thread has ended: no ISO of the attempt is on the datastore exactly if
its upload never reached the datastore. -/
theorem failed_preparation_leaves_nothing_iff {s s₁ s₂ : RunState} {e : Event}
    {effects : List Effect} (hs : jobRun.Reachable s)
    (hfail : failedEffects s e = some effects) (h : jobRun.step s e = some s₁)
    (hsettle : Settles s.inFlight.length s₁ s₂)
    (hended : s₂.pending s.inFlight.length = []) :
    (∀ path, s₂.world.stored path ≠ some (attempts s.job)) ↔
      ∀ path m, .upload path m ∉ effects := by
  obtain ⟨⟨landed, hsplit, hworld⟩, -⟩ := (endedWith (mediaInv hs) hfail h).settles hsettle
  rw [hended, List.append_nil] at hsplit
  subst hsplit
  rw [hworld]
  obtain ⟨⟨rest, ctx, hexec⟩, hprepares⟩ := failedEffects_prepares hfail
  refine stored_iff_uploads hprepares fun path hpath => ?_
  have hinv := attemptInv hs
  have hle := hinv.world.stored path _ hpath
  have hpos := hinv.running rest ctx hexec
  rw [lastClosed_of_running hexec] at hle
  omega

/-- The end of an attempt whose CD reconfiguration fails, after its upload. -/
def reconfigureFails : Event :=
  ⟨0, .finish (.prepare { attach := {
      datastore := .found "ds1"
      upload := .stored none
      reconfigure := .fails { humanMessage := "", reason := "", recommendedAction := "" } false } })
    .removes none⟩

/-- A first run whose preparation ends so. -/
theorem exists_reconfigureFails : ∃ s s₁, jobRun.Reachable s ∧
    (failedEffects s reconfigureFails).isSome = true ∧
    jobRun.step s reconfigureFails = some s₁ ∧
    s₁.job.status = .partiallyCompleted ∧ s₁.inFlight = [] ∧
    s₁.world.stored (answerMediaPath "ds1" (answerFileName "j1")) = some (attempts s.job) := by
  obtain ⟨s, hs, hp⟩ := Machine.exists_reachable_of_run (m := jobRun)
    (p := fun s => (failedEffects s reconfigureFails).isSome &&
      (jobRun.step s reconfigureFails).any fun s₁ =>
        s₁.job.status == .partiallyCompleted && s₁.inFlight.isEmpty &&
          s₁.world.stored (answerMediaPath "ds1" (answerFileName "j1")) ==
            some (attempts s.job))
    (RunState.submitted_spec "j1" { vmName := "web01" })
    (show ((jobRun.run _ (runsStages 0 (orderedStages.take 6) ++
      [⟨0, .next .removes⟩])).any _) = true by decide +kernel)
  simp only [Bool.and_eq_true, Option.any_eq_true, beq_iff_eq, List.isEmpty_iff] at hp
  obtain ⟨hfail, s₁, hstep, ⟨hstatus, hflight⟩, hstored⟩ := hp
  exact ⟨s, s₁, hs, hfail, hstep, hstatus, hflight, hstored⟩

/-- An attempt whose upload succeeded and whose reconfiguration failed: the job stops with
the uploaded ISO on the datastore, although nothing would have refused its deletion. -/
theorem failed_preparation_leaves_media : ∃ s, jobRun.Reachable s ∧
    (failedEffects s reconfigureFails).isSome = true ∧
    ∃ s₁, jobRun.step s reconfigureFails = some s₁ ∧
      s₁.job.status = .partiallyCompleted ∧ s₁.inFlight = [] ∧
      ∃ path, s₁.world.stored path = some (attempts s.job) := by
  obtain ⟨s, s₁, hs, hfail, hstep, hstatus, hflight, hstored⟩ := exists_reconfigureFails
  exact ⟨s, hs, hfail, s₁, hstep, hstatus, hflight, _, hstored⟩

/-- The general statement at that attempt. -/
theorem failed_preparation_leaves_nothing_iff_reconfigureFails :
    ∃ s s₁, ∃ effects : List Effect, jobRun.Reachable s ∧
      failedEffects s reconfigureFails = some effects ∧
      jobRun.step s reconfigureFails = some s₁ ∧
      ((∀ path, s₁.world.stored path ≠ some (attempts s.job)) ↔
        ∀ path m, .upload path m ∉ effects) := by
  obtain ⟨s, s₁, hs, hfail, hstep, -, hflight, -⟩ := exists_reconfigureFails
  obtain ⟨effects, hfail⟩ := Option.isSome_iff_exists.mp hfail
  have hended : s₁.pending s.inFlight.length = [] := by
    rw [RunState.pending, hflight]
    rfl
  exact ⟨s, s₁, effects, hs, hfail, hstep,
    failed_preparation_leaves_nothing_iff hs hfail hstep .refl hended⟩

end InfraOps
