import InfraOps.Applications.ApprovedInstallers
import InfraOps.Applications.InputOrder
import InfraOps.Preflight.Prediction

/-!
# One install order

`_check_applications` of the preflight resolves the selection in the enabled part of the
catalog and looks for missing and disabled applications on its own;
`stage_resolve_dependencies` in `app/workers/stages.py` resolves it in the whole catalog. As
soon as one of them finds no error, the two catalogs agree on all that the selection needs.
-/

namespace InfraOps

/-! ## The enabled part of a catalog -/

section

variable {c enabled : Catalog} {selected : List AppId}

/-- The applications of `c` that are enabled, in some order. -/
def Catalog.EnabledPart (c enabled : Catalog) : Prop :=
  enabled.nodes.Perm (c.nodes.filter AppNode.enabled)

theorem Catalog.EnabledPart.get_eq_some (h : c.EnabledPart enabled) {a : AppId} {n : AppNode} :
    enabled.get a = some n ↔ c.get a = some n ∧ n.enabled = true := by
  rw [Catalog.get_eq_some, Catalog.get_eq_some, h.mem_iff, List.mem_filter]
  constructor
  · rintro ⟨⟨hn, henabled⟩, hid⟩
    exact ⟨⟨hn, hid⟩, henabled⟩
  · rintro ⟨⟨hn, hid⟩, henabled⟩
    exact ⟨⟨hn, henabled⟩, hid⟩

/-- What is needed in a catalog without errors is there and enabled. -/
theorem exists_enabled_of_clear (h : (resolveInstallOrder selected c).2 = []) {a : AppId}
    (ha : c.Closure selected a) : ∃ n, c.get a = some n ∧ n.enabled = true := by
  rw [resolveInstallOrder_snd] at h
  exact (blockingErrors_eq_nil.mp h).1 a ha

/-- **One resolver without an error is enough** for both to give the same order. -/
theorem Catalog.EnabledPart.resolveInstallOrder_eq (h : c.EnabledPart enabled)
    (hclear : (resolveInstallOrder selected c).2 = [] ∨
      (resolveInstallOrder selected enabled).2 = []) :
    resolveInstallOrder selected enabled = resolveInstallOrder selected c := by
  rcases hclear with hclear | hclear
  · have hagree : c.AgreesOn enabled selected := by
      intro a ha
      obtain ⟨n, hget, henabled⟩ := exists_enabled_of_clear hclear ha
      rw [hget]
      exact h.get_eq_some.mpr ⟨hget, henabled⟩
    exact resolveInstallOrder_congr hagree
  · have hagree : enabled.AgreesOn c selected := by
      intro a ha
      obtain ⟨n, hget, -⟩ := exists_enabled_of_clear hclear ha
      rw [hget]
      exact (h.get_eq_some.mp hget).1
    exact (resolveInstallOrder_congr hagree).symm

end

namespace Preflight

/-! ## The stage -/

/-- A `StageOutcome` with its artifact `order`. -/
structure DependencyOutcome where
  status : String := "SUCCEEDED"
  output : String
  order : List OrderEntry := []
  deriving DecidableEq

section

variable {p : Schemas.Platform} (env : Environment p) (request : Schemas.ProvisioningRequest p)

def dependenciesError (errors : List String) : InfraOperationError where
  humanMessage := "Application dependencies could not be resolved."
  reason := firstChars 800 (" ".intercalate errors)
  recommendedAction :=
    "Ask an administrator to correct the application catalog dependencies."
  technicalDetail := env.dumps errors
  retryable := false

def installOrderText (ordered : List AppNode) : String :=
  "Install order: " ++ " → ".intercalate (ordered.map AppNode.name)

/-- `stage_resolve_dependencies`, with the rows that its query returns. -/
def stageResolveDependencies (rows : AppCatalog) : Except Raised DependencyOutcome :=
  if applicationIds request = [] then
    .ok { status := "SKIPPED", output := "No applications selected." }
  else
    match resolveInstallOrder (applicationIds request) rows.load with
    | (ordered, []) => .ok {
        output := installOrderText ordered
        order := ordered.map fun node => ⟨node.id, node.name⟩ }
    | (_, error :: errors) => .error (.infra (dependenciesError env (error :: errors)))

/-! ## The check -/

variable {env request}

theorem enabledPart_enabledCatalog {rows : AppCatalog} (hrows : rows.apps.Perm env.catalog.apps) :
    rows.load.EnabledPart (enabledCatalog env) := by
  have hnodes : rows.load.nodes.filter AppNode.enabled =
      (rows.apps.filter Application.enabled).map Application.node := List.filter_map
  rw [Catalog.EnabledPart, hnodes]
  exact ((hrows.symm.filter Application.enabled).map Application.node)

/-- A selected application is needed, so without an error it is enabled. -/
theorem enabled_of_selected
    (hclear : (resolveInstallOrder (applicationIds request) (enabledCatalog env)).2 = [])
    {id : AppId} (hid : id ∈ applicationIds request) :
    ∃ app ∈ env.catalog.apps, app.id = id ∧ app.enabled = true := by
  obtain ⟨n, hget, -⟩ := exists_enabled_of_clear hclear ⟨id, hid, .refl⟩
  obtain ⟨hn, rfl⟩ := Catalog.get_eq_some.mp hget
  obtain ⟨app, happ, rfl⟩ := List.mem_map.mp hn
  obtain ⟨happ, henabled⟩ := List.mem_filter.mp happ
  exact ⟨app, happ, rfl, henabled⟩

theorem missingApplications_eq_nil
    (hclear : (resolveInstallOrder (applicationIds request) (enabledCatalog env)).2 = []) :
    missingApplications env request = [] := by
  rw [missingApplications, List.filter_eq_nil_iff]
  intro id hid hmissing
  obtain ⟨app, happ, rfl, -⟩ := enabled_of_selected hclear hid
  have hselected : app ∈ selectedApplications env request :=
    List.mem_filter.mpr ⟨happ, by simpa using hid⟩
  exact of_decide_eq_true hmissing (List.mem_map_of_mem hselected)

theorem enabled_of_mem_selectedApplications
    (hclear : (resolveInstallOrder (applicationIds request) (enabledCatalog env)).2 = [])
    {app : Application} (happ : app ∈ selectedApplications env request) : app.enabled = true := by
  obtain ⟨happ, hid⟩ := List.mem_filter.mp happ
  obtain ⟨other, hother, hsame, henabled⟩ := enabled_of_selected hclear (of_decide_eq_true hid)
  rwa [List.inj_on_of_nodup_map env.catalog.nodup hother happ hsame] at henabled

/-- The other two lists of problems are empty whenever the resolver finds no error. -/
theorem checkApplications_of_clear (hids : applicationIds request ≠ [])
    (hclear : (resolveInstallOrder (applicationIds request) (enabledCatalog env)).2 = []) :
    checkApplications env request = passed "applications" "Application definitions valid"
      (installOrderText
        (resolveInstallOrder (applicationIds request) (enabledCatalog env)).1) := by
  have hdisabled : (selectedApplications env request).filter (fun app => !app.enabled) = [] := by
    rw [List.filter_eq_nil_iff]
    intro app happ
    simp [enabled_of_mem_selectedApplications hclear happ]
  unfold checkApplications
  rw [if_neg hids]
  simp only [missingApplications_eq_nil hclear, hdisabled, hclear, List.map_nil, if_true,
    List.append_nil, installOrderText]

theorem clear_of_checkApplications (hids : applicationIds request ≠ [])
    (h : (checkApplications env request).status = .pass) :
    (resolveInstallOrder (applicationIds request) (enabledCatalog env)).2 = [] := by
  by_contra hne
  unfold checkApplications at h
  rw [if_neg hids] at h
  dsimp only at h
  rw [if_neg fun hnil => hne (List.append_eq_nil_iff.mp hnil).2] at h
  cases h

theorem stageResolveDependencies_ok {rows : AppCatalog} (hids : applicationIds request ≠ [])
    {outcome : DependencyOutcome} :
    stageResolveDependencies env request rows = .ok outcome ↔
      (resolveInstallOrder (applicationIds request) rows.load).2 = [] ∧
      outcome = {
        output := installOrderText (resolveInstallOrder (applicationIds request) rows.load).1
        order := (resolveInstallOrder (applicationIds request) rows.load).1.map
          fun node => ⟨node.id, node.name⟩ } := by
  unfold stageResolveDependencies
  rw [if_neg hids]
  cases hresolve : resolveInstallOrder (applicationIds request) rows.load with
  | mk ordered errors =>
    cases errors with
    | nil => simp [eq_comm]
    | cons error errors => simp

/-- **Preflight and pipeline agree on the applications.** On the same rows, listed in any
order, the check passes if and only if the stage succeeds; the detail of the check is then the
output of the stage, and the stored order is the one that the check has found. -/
theorem checkApplications_iff_stage (env : Environment p)
    (request : Schemas.ProvisioningRequest p) (rows : AppCatalog)
    (hrows : rows.apps.Perm env.catalog.apps) (hids : applicationIds request ≠ []) :
    ((checkApplications env request).status = .pass ↔
      ∃ outcome, stageResolveDependencies env request rows = .ok outcome) ∧
    ∀ outcome, stageResolveDependencies env request rows = .ok outcome →
      ∃ ordered, resolveInstallOrder (applicationIds request) (enabledCatalog env) =
          (ordered, []) ∧
        (checkApplications env request).detail = installOrderText ordered ∧
        outcome = {
          output := installOrderText ordered
          order := ordered.map fun node => ⟨node.id, node.name⟩ } := by
  have henabled := enabledPart_enabledCatalog hrows
  constructor
  · constructor
    · intro hpass
      have hclear := clear_of_checkApplications hids hpass
      rw [henabled.resolveInstallOrder_eq (.inr hclear)] at hclear
      exact ⟨_, (stageResolveDependencies_ok hids).mpr ⟨hclear, rfl⟩⟩
    · rintro ⟨outcome, hstage⟩
      have hclear := ((stageResolveDependencies_ok hids).mp hstage).1
      rw [← henabled.resolveInstallOrder_eq (.inl hclear)] at hclear
      rw [checkApplications_of_clear hids hclear]
      rfl
  · intro outcome hstage
    obtain ⟨hclear, houtcome⟩ := (stageResolveDependencies_ok hids).mp hstage
    have hsame := henabled.resolveInstallOrder_eq (.inl hclear)
    rw [← hsame] at hclear houtcome
    refine ⟨_, Prod.ext rfl hclear, ?_, houtcome⟩
    rw [checkApplications_of_clear hids hclear]
    rfl

end

/-! An editor that needs a runtime, and a disabled viewer that nobody selects. -/

def editorId : List Char := "1d0c2b6e-7f7a-4c7b-9a53-0f4f2d9f0a11".toList

def runtimeId : List Char := "2e1d3c7f-8a8b-4d8c-8b64-1a5a3eaa1b22".toList

def studioApplications : List Application :=
  [{ id := String.ofList editorId, name := "Editor", installerType := .msi,
      installerPath := "editor.msi", dependencyIds := [String.ofList runtimeId] },
    { id := "3f2e4d8a-9b9c-4e9d-9c75-2b6b4fbb2c33", name := "Viewer", enabled := false,
      installerType := .msi, installerPath := "viewer.msi" },
    { id := String.ofList runtimeId, name := "Runtime", installerType := .msi,
      installerPath := "runtime.msi" }]

def studioRows : AppCatalog where
  apps := studioApplications
  nodup := by decide +kernel

/-- The preflight's query has listed the rows the other way round. -/
def studio : Environment Schemas.strictPlatform :=
  { office with
    catalog := {
      apps := studioRows.apps.reverse
      nodup := by
        rw [List.map_reverse]
        exact List.nodup_reverse.mpr studioRows.nodup } }

def studioRequest : Schemas.ProvisioningRequest Schemas.strictPlatform :=
  { officeRequest "datastore-1" with applicationIds := [⟨editorId, by decide +kernel⟩] }

theorem checkApplications_iff_stage_studio :
    ((checkApplications studio studioRequest).status = .pass ↔
      ∃ outcome, stageResolveDependencies studio studioRequest studioRows = .ok outcome) ∧
    ∀ outcome, stageResolveDependencies studio studioRequest studioRows = .ok outcome →
      ∃ ordered, resolveInstallOrder (applicationIds studioRequest) (enabledCatalog studio) =
          (ordered, []) ∧
        (checkApplications studio studioRequest).detail = installOrderText ordered ∧
        outcome = {
          output := installOrderText ordered
          order := ordered.map fun node => ⟨node.id, node.name⟩ } :=
  checkApplications_iff_stage studio studioRequest studioRows (List.reverse_perm _).symm
    (by decide)

end Preflight

end InfraOps
