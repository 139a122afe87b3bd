import InfraOps.Api.JobViews
import InfraOps.JobRun.ShownRuns

/-!
# Technical details stay with administrators

Nothing that a user without `admin.settings` reads about the jobs depends on what is hidden from
that user, and no run of a job makes it depend on the technical detail of an error.
-/

namespace InfraOps

variable (matching : TextMatching)

/-! ## Jobs and steps -/

@[simp] theorem jobOut_hide (s : ShownJob) : jobOut s.hide = jobOut s := rfl

@[simp] theorem stepsOut_hide (s : ShownJob) : stepsOut false s.hide = stepsOut false s := by
  have hrow (k : Stage) : (s.hide.job.steps k).map (stepOut false s.hide k) =
      (s.job.steps k).map (stepOut false s k) := by
    show ((s.job.steps k).map Step.hide).map (stepOut false s.hide k) = _
    rw [Option.map_map]
    rfl
  rw [stepsOut, stepsOut, funext hrow]

@[simp] theorem detailOut_hide (s : ShownJob) : detailOut false s.hide = detailOut false s := by
  rw [detailOut, detailOut, stepsOut_hide]
  rfl

@[simp] theorem streamOut_hide (s : ShownJob) : streamOut false s.hide = streamOut false s := by
  rw [streamOut, streamOut, stepsOut_hide]
  rfl

theorem readJob_hide {α : Type} (jobs : List ShownJob) (jobId : JobId) {out : ShownJob → α}
    (hout : ∀ s, out s.hide = out s) :
    readJob (jobs.map ShownJob.hide) jobId out = readJob jobs jobId out := by
  have hfound : (jobs.map ShownJob.hide).find? (fun s => s.job.id = jobId) =
      (jobs.find? fun s => s.job.id = jobId).map ShownJob.hide := List.find?_map ..
  rw [readJob, readJob, hfound]
  cases jobs.find? fun s => s.job.id = jobId with
  | none => rfl
  | some s => exact congrArg Except.ok (hout s)

/-! ## Searches -/

section Queries

variable {α β : Type} (hide : α → α) {selects : α → Bool}
  (hselects : ∀ a, selects (hide a) = selects a)
include hselects

theorem filter_map_hide (rows : List α) :
    (rows.map hide).filter selects = (rows.filter selects).map hide := by
  have hsame : selects ∘ hide = selects := funext hselects
  rw [List.filter_map, hsame]

/-- The page of a query whose condition, order and rows do not show what `hide` takes out. -/
theorem map_page (out : α → β) (hout : ∀ a, out (hide a) = out a) {before : α → α → Prop}
    [DecidableRel before] (hbefore : ∀ a b, before (hide a) (hide b) ↔ before a b)
    (page pageSize : Nat) (rows : List α) :
    (pageOf page pageSize (((rows.map hide).filter selects).insertionSort before)).map out =
      (pageOf page pageSize ((rows.filter selects).insertionSort before)).map out := by
  have hsort : ((rows.filter selects).map hide).insertionSort before =
      ((rows.filter selects).insertionSort before).map hide :=
    (List.map_insertionSort _ _ hide _ fun a _ b _ => (hbefore a b).symm).symm
  rw [filter_map_hide hide hselects, hsort, pageOf, pageOf, ← List.map_drop, ← List.map_take,
    List.map_map]
  exact congrArg (List.map · _) (funext hout)

end Queries

theorem listJobs_hide (q : JobQuery) (jobs : List ShownJob) :
    listJobs matching q (jobs.map ShownJob.hide) = listJobs matching q jobs := by
  have hselects (s : ShownJob) : q.selects matching s.hide = q.selects matching s := rfl
  refine Prod.ext ?_ ?_
  · exact map_page ShownJob.hide hselects jobOut jobOut_hide (fun _ _ => Iff.rfl) _ _ jobs
  · show ((jobs.map ShownJob.hide).filter (q.selects matching)).length = _
    rw [filter_map_hide ShownJob.hide hselects, List.length_map]
    rfl

def LogRow.hide (row : LogRow) : LogRow :=
  { row with shown := row.shown.hide, step := row.step.hide }

theorem logRows_hide (jobs : List ShownJob) :
    logRows (jobs.map ShownJob.hide) = (logRows jobs).map LogRow.hide := by
  have hrows (s : ShownJob) : (orderedStages.filterMap fun k =>
      (s.hide.job.steps k).map fun step => LogRow.mk s.hide k step) =
      (orderedStages.filterMap fun k => (s.job.steps k).map fun step => LogRow.mk s k step).map
        LogRow.hide := by
    rw [List.map_filterMap]
    refine congrArg (List.filterMap · _) (funext fun k => ?_)
    show ((s.job.steps k).map Step.hide).map (LogRow.mk s.hide k) = _
    rw [Option.map_map, Option.map_map]
    rfl
  rw [logRows, logRows, List.flatMap_map, List.map_flatMap]
  exact congrArg (List.flatMap · jobs) (funext hrows)

theorem logEventOut_hide (row : LogRow) : logEventOut false row.hide = logEventOut false row := rfl

theorem searchLogs_hide (q : LogQuery) (jobs : List ShownJob) :
    searchLogs matching false q (jobs.map ShownJob.hide) = searchLogs matching false q jobs := by
  have hselects (row : LogRow) : q.selects matching row.hide = q.selects matching row := rfl
  refine Prod.ext ?_ ?_
  · show (pageOf _ _ (((logRows (jobs.map ShownJob.hide)).filter
      (q.selects matching)).insertionSort LogRow.before)).map _ = _
    rw [logRows_hide]
    exact map_page LogRow.hide hselects _ logEventOut_hide (fun _ _ => Iff.rfl) _ _ _
  · show ((logRows (jobs.map ShownJob.hide)).filter (q.selects matching)).length = _
    rw [logRows_hide, filter_map_hide LogRow.hide hselects, List.length_map]
    rfl

/-! ## Readers -/

theorem notificationsOut_hide (userId : String) (s : ShownJob) :
    notificationsOut userId s.hide = notificationsOut userId s := rfl

/-- **A user without `admin.settings` reads nothing that is hidden.** -/
theorem readings_hide {viewer : Viewer} (h : rolesGrant viewer.roles .adminSettings = false)
    (jobs : List ShownJob) :
    readings matching viewer (jobs.map ShownJob.hide) = readings matching viewer jobs := by
  have hnotifications : (jobs.map ShownJob.hide).flatMap (notificationsOut viewer.userId) =
      jobs.flatMap (notificationsOut viewer.userId) := by
    rw [List.flatMap_map]
    exact congrArg (List.flatMap · jobs) (funext (notificationsOut_hide viewer.userId))
  unfold readings
  dsimp only
  rw [h, hnotifications]
  simp only [listJobs_hide, searchLogs_hide, readJob_hide, detailOut_hide, stepsOut_hide,
    streamOut_hide, implies_true]

/-! ## Runs -/

/-- A job, and two things that may happen to it that differ in technical details only. -/
structure PairedRuns where
  start : ShownJob
  first : List Moment
  second : List Moment
  alike : List.Forall₂ Moment.Alike first second

variable (percent : Nat → Nat → Nat → Nat)

theorem PairedRuns.run_hide (j : PairedRuns) :
    ((shownRun percent).run j.start j.first).map ShownJob.hide =
      ((shownRun percent).run j.start j.second).map ShownJob.hide :=
  (shownRun_blind percent).run_eq j.alike rfl

/-- **Technical details stay with administrators**: whatever the jobs go through, what a user
without `admin.settings` reads does not depend on the technical details of errors. -/
theorem technicalDetail_private {viewer : Viewer}
    (h : rolesGrant viewer.roles .adminSettings = false) (jobs : List PairedRuns) :
    (jobs.mapM fun j => (shownRun percent).run j.start j.first).map (readings matching viewer) =
      (jobs.mapM fun j => (shownRun percent).run j.start j.second).map
        (readings matching viewer) := by
  have hruns := mapM_map (PairedRuns.run_hide percent) jobs
  have hreadings : readings matching viewer = readings matching viewer ∘ List.map ShownJob.hide :=
    (funext (readings_hide matching h)).symm
  rw [hreadings, ← Option.map_map, hruns, Option.map_map]

/-! ## An operator -/

/-- The first stage of a job fails. -/
def firstStageFails (technicalDetail : String) : List Moment :=
  let error : InfraOperationError := {
    humanMessage := "vCenter could not be reached."
    reason := "The connection was refused."
    recommendedAction := "Check the vCenter address, then retry this stage."
    technicalDetail }
  [.event ⟨0, .claim 1⟩, .event ⟨0, .start⟩, .event ⟨0, .next .removes⟩,
    .event ⟨5, .finish (.other { result := .error (.infra error) }) .removes none⟩]

theorem firstStageFails_alike (detail detail' : String) :
    List.Forall₂ Moment.Alike (firstStageFails detail) (firstStageFails detail') := by
  refine .cons (.event ⟨rfl, .same _⟩) (.cons (.event ⟨rfl, .same _⟩)
    (.cons (.event ⟨rfl, .same _⟩) (.cons (.event ⟨rfl, ?_⟩) .nil)))
  refine .finish (.answers ?_) ?_ none
  · rfl
  · rfl

/-- A job whose first stage fails at one of two hosts. -/
def failedAtHost : PairedRuns where
  start :=
    { toRunState := RunState.submitted "j1" { vmName := "web01" }
      facts := { stepId := Stage.key } }
  first := firstStageFails "10.0.0.5:443"
  second := firstStageFails "10.0.0.6:443"
  alike := firstStageFails_alike _ _

/-- `int(((done + 0.5 * running) / all) * 100)`, in whole numbers. -/
def wholePercent (done running all : Nat) : Nat := (200 * done + 100 * running) / (2 * all)

/-- `ILIKE` on patterns whose text has no wildcard. -/
def containsText : TextMatching where
  ilike pattern column := pattern.toLower.toList.filter (· ≠ '%') <:+: column.toLower.toList
  casefold := String.toLower

def operator : Viewer := ⟨"u1", ["operator"]⟩

def technicalErrors (jobs : List ShownJob) : List (Option String) :=
  jobs.map fun s => (s.job.steps .validateRequest).bind Step.errorTechnical

/-- The two runs record different technical details, and an operator reads the same. -/
theorem technicalDetail_private_operator :
    rolesGrant operator.roles .adminSettings = false ∧
      ([failedAtHost].mapM fun j => (shownRun wholePercent).run j.start j.first).map
          technicalErrors ≠
        ([failedAtHost].mapM fun j => (shownRun wholePercent).run j.start j.second).map
          technicalErrors ∧
      ([failedAtHost].mapM fun j => (shownRun wholePercent).run j.start j.first).map
          (readings containsText operator) =
        ([failedAtHost].mapM fun j => (shownRun wholePercent).run j.start j.second).map
          (readings containsText operator) :=
  ⟨by decide, by decide, technicalDetail_private _ _ (by decide) [failedAtHost]⟩

end InfraOps
