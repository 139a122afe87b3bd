import InfraOps.Applications.Installer
import InfraOps.Support.Machine

/-!
# Approved installers

A job with a selection of applications, from its submission to the end of
`install_applications`, next to administrators who edit the catalog and the roots at any
moment. `validate_request` compares the selected applications with the roots once;
`resolve_dependencies` stores the transitive closure; `install_applications` reads the
catalog anew and starts what the stored order names.

No stage waits for `validate_request` here: a retry during its cancellation sends the old
run on to the later stages.
-/

namespace InfraOps

/-- An entry of the artifact `order`. -/
structure OrderEntry where
  id : AppId
  name : String
  deriving DecidableEq

/-- `install_applications` at work. -/
structure InstallRun where
  /-- `apps_by_id`, as the stage has read it. -/
  snapshot : AppCatalog
  /-- What is left of the order. -/
  rest : List OrderEntry
  outcomes : List InstallOutcome := []
  failures : List String := []

/-- An installer started in the guest, and the roots at that time. -/
structure InstallerStart where
  application : Application
  program : Program
  roots : List String

structure ApprovalState where
  catalog : AppCatalog
  /-- The setting `allowed_installer_roots`. -/
  roots : List String
  /-- `application_ids`. -/
  selected : List AppId
  /-- `validate_request` has passed. -/
  validated : Bool := false
  /-- The order that `resolve_dependencies` has stored. -/
  order : List OrderEntry := []
  installing : Option InstallRun := none
  /-- `install_applications` has succeeded, or had nothing to install. -/
  installed : Bool := false
  /-- History. -/
  started : List InstallerStart := []

inductive ApprovalAction
  | editCatalog (catalog : AppCatalog)
  | editRoots (roots : List String)
  | validateRequest
  | resolveDependencies
  | beginInstall
  | installNext (answers : InstallAnswers)
  | endInstall
  /-- The stage times out, or its worker is gone. -/
  | abortInstall

namespace ApprovalState

/-- `stage_resolve_dependencies`; a failure leaves the step as it was. -/
def resolveDependencies (s : ApprovalState) : ApprovalState :=
  match resolveInstallOrder s.selected s.catalog.load with
  | (ordered, []) => { s with order := ordered.map fun node => ⟨node.id, node.name⟩ }
  | (_, _ :: _) => s

/-- The start of `stage_install_applications`. -/
def beginInstall (s : ApprovalState) : Option ApprovalState :=
  if s.installed || s.installing.isSome then none
  else if s.order = [] then some { s with installed := true }
  else some { s with installing := some { snapshot := s.catalog, rest := s.order } }

/-- What the installation of one entry adds to the run. -/
def afterInstall (run : InstallRun) (rest : List OrderEntry) (outcome : InstallOutcome) :
    InstallRun :=
  { run with
    rest
    outcomes := run.outcomes ++ [outcome]
    failures :=
      if outcome.status = .failed then
        run.failures ++ [s!"{outcome.name}: " ++ firstChars 200 outcome.output]
      else run.failures }

/-- The body of the loop of `stage_install_applications`. -/
def installNext (s : ApprovalState) (answers : InstallAnswers) : Option ApprovalState :=
  match s.installing with
  | some run =>
    match run.rest with
    | entry :: rest =>
      match run.snapshot.find entry.id with
      | none =>
        some { s with
          installing := some { run with
            rest
            failures := run.failures ++
              [s!"{entry.name}: definition disappeared from the catalog"] } }
      | some app =>
        let attempt := install app answers
        some { s with
          started := (attempt.1.map fun program => ⟨app, program, s.roots⟩).toList ++ s.started
          installing := attempt.2.toOption.map (afterInstall run rest) }
    | [] => none
  | none => none

/-- The end of `stage_install_applications`: with a failure, the stage fails. -/
def endInstall (s : ApprovalState) : Option ApprovalState :=
  match s.installing with
  | some run =>
    if run.rest = [] then
      some { s with installing := none, installed := run.failures = [] }
    else none
  | none => none

/-- The job has passed the preflight and been submitted. -/
structure Submitted (casefold : Char → List Char) (s : ApprovalState) : Prop where
  preflight : preflightInstallers casefold s.catalog s.selected s.roots = none
  validated : s.validated = false
  order : s.order = []
  installing : s.installing = none
  installed : s.installed = false
  started : s.started = []

end ApprovalState

section

variable (casefold : Char → List Char)

def ApprovalState.step (s : ApprovalState) : ApprovalAction → Option ApprovalState
  | .editCatalog catalog => some { s with catalog }
  | .editRoots roots => some { s with roots }
  | .validateRequest =>
    match validateInstallers casefold s.catalog s.selected s.roots with
    | none => some { s with validated := true }
    | some _ => none
  | .resolveDependencies => some s.resolveDependencies
  | .beginInstall => s.beginInstall
  | .installNext answers => s.installNext answers
  | .endInstall => s.endInstall
  | .abortInstall => some { s with installing := none }

def approval : Machine ApprovalState ApprovalAction where
  init := ApprovalState.Submitted casefold
  step := ApprovalState.step casefold

/-! ## The condition -/

/-- The applications of the order are within the roots. -/
def OrderApproved (c : AppCatalog) (roots : List String) (order : List OrderEntry) : Prop :=
  ∀ app ∈ c.apps, app.id ∈ order.map OrderEntry.id → app.within casefold roots = true

/-- Whatever the selection needs, directly or through dependencies, is within the roots when
the order is stored; and until the installation has succeeded, no edit takes an application
of the stored order out of them. -/
def KeepsApproved (s : ApprovalState) : ApprovalAction → Prop
  | .resolveDependencies =>
    ∀ id ∈ s.selected, ∀ app ∈ s.catalog.apps, s.catalog.load.Needs id app.id →
      app.within casefold s.roots = true
  | .editCatalog catalog => s.installed = false → OrderApproved casefold catalog s.roots s.order
  | .editRoots roots => s.installed = false →
      OrderApproved casefold s.catalog roots s.order ∧
        ∀ run, s.installing = some run → OrderApproved casefold run.snapshot roots run.rest
  | _ => True

/-! ## The invariant -/

structure ApprovalInv (s : ApprovalState) : Prop where
  order : s.installed = false → OrderApproved casefold s.catalog s.roots s.order
  running : ∀ run, s.installing = some run →
    s.installed = false ∧ OrderApproved casefold run.snapshot s.roots run.rest
  started : ∀ t ∈ s.started, t.application.within casefold t.roots = true

variable {casefold}

theorem OrderApproved.nil {c : AppCatalog} {roots : List String} :
    OrderApproved casefold c roots [] := by
  intro app _ hid
  cases hid

theorem OrderApproved.tail {c : AppCatalog} {roots : List String} {entry : OrderEntry}
    {rest : List OrderEntry} (h : OrderApproved casefold c roots (entry :: rest)) :
    OrderApproved casefold c roots rest :=
  fun app happ hid => h app happ (List.mem_cons_of_mem _ hid)

theorem OrderApproved.find {c : AppCatalog} {roots : List String} {entry : OrderEntry}
    {rest : List OrderEntry} (h : OrderApproved casefold c roots (entry :: rest))
    {app : Application} (hfind : c.find entry.id = some app) :
    app.within casefold roots = true := by
  obtain ⟨hmem, hid⟩ := AppCatalog.mem_of_find hfind
  refine h app hmem ?_
  rw [hid]
  exact List.mem_cons_self

namespace ApprovalInv

variable {s s' : ApprovalState}

theorem init (h : s.Submitted casefold) : ApprovalInv casefold s where
  order _ := by
    rw [h.order]
    exact .nil
  running run hrun := by
    rw [h.installing] at hrun
    cases hrun
  started t ht := by
    rw [h.started] at ht
    cases ht

/-- The stored order names only what the selection needs. -/
theorem resolve (hs : ApprovalInv casefold s)
    (hneeds : KeepsApproved casefold s .resolveDependencies) :
    ApprovalInv casefold s.resolveDependencies := by
  unfold ApprovalState.resolveDependencies
  split
  · rename_i ordered hresolved
    refine ⟨fun _ app happ hid => ?_, hs.running, hs.started⟩
    obtain ⟨entry, hentry, heq⟩ := List.mem_map.mp hid
    obtain ⟨node, hnode, rfl⟩ := List.mem_map.mp hentry
    have hmem : node ∈ (resolveInstallOrder s.selected s.catalog.load).1 := by
      rw [hresolved]
      exact hnode
    obtain ⟨id, hselected, hneed, -⟩ := mem_resolveInstallOrder hmem
    refine hneeds id hselected app happ ?_
    rw [← heq]
    exact hneed
  · exact hs

theorem beginInstall (hs : ApprovalInv casefold s) (h : s.beginInstall = some s') :
    ApprovalInv casefold s' := by
  unfold ApprovalState.beginInstall at h
  split at h
  · cases h
  · rename_i hfree
    simp only [Bool.or_eq_true, not_or, Bool.not_eq_true, Option.isSome_eq_false_iff,
      Option.isNone_iff_eq_none] at hfree
    split at h
    · cases h
      refine ⟨fun hfalse => ?_, fun run hrun => ?_, hs.started⟩
      · cases hfalse
      · rw [hfree.2] at hrun
        cases hrun
    · cases h
      refine ⟨hs.order, fun run hrun => ?_, hs.started⟩
      cases hrun
      exact ⟨hfree.1, hs.order hfree.1⟩

/-- An entry of the order starts, at most, the installer that the snapshot has for it. -/
theorem installNext {answers : InstallAnswers} (hs : ApprovalInv casefold s)
    (h : s.installNext answers = some s') : ApprovalInv casefold s' := by
  unfold ApprovalState.installNext at h
  split at h
  · rename_i run hrun
    obtain ⟨hopen, happroved⟩ := hs.running run hrun
    split at h
    · rename_i entry rest hrest
      rw [hrest] at happroved
      split at h
      · cases h
        refine ⟨hs.order, fun run' hrun' => ?_, hs.started⟩
        cases hrun'
        exact ⟨hopen, happroved.tail⟩
      · rename_i app hfind
        cases h
        refine ⟨hs.order, fun run' hrun' => ?_, fun t ht => ?_⟩
        · obtain ⟨outcome, -, rfl⟩ := Option.map_eq_some_iff.mp hrun'
          exact ⟨hopen, happroved.tail⟩
        · rcases List.mem_append.mp ht with ht | ht
          · obtain ⟨program, -, rfl⟩ := Option.map_eq_some_iff.mp (Option.mem_toList.mp ht)
            exact happroved.find hfind
          · exact hs.started t ht
    · cases h
  · cases h

theorem endInstall (hs : ApprovalInv casefold s) (h : s.endInstall = some s') :
    ApprovalInv casefold s' := by
  unfold ApprovalState.endInstall at h
  split at h
  · rename_i run hrun
    split at h
    · cases h
      refine ⟨fun _ => hs.order (hs.running run hrun).1, fun run' hrun' => ?_, hs.started⟩
      cases hrun'
    · cases h
  · cases h

theorem step {e : ApprovalAction} (hs : ApprovalInv casefold s)
    (hc : KeepsApproved casefold s e) (h : (approval casefold).step s e = some s') :
    ApprovalInv casefold s' := by
  change s.step casefold e = some s' at h
  cases e with
  | editCatalog catalog =>
    cases h
    exact ⟨hc, hs.running, hs.started⟩
  | editRoots roots =>
    cases h
    refine ⟨fun hopen => (hc hopen).1, fun run hrun => ?_, hs.started⟩
    have hopen := (hs.running run hrun).1
    exact ⟨hopen, (hc hopen).2 run hrun⟩
  | validateRequest =>
    simp only [ApprovalState.step] at h
    split at h
    · cases h
      exact ⟨hs.order, hs.running, hs.started⟩
    · cases h
  | resolveDependencies =>
    cases h
    exact hs.resolve hc
  | beginInstall => exact hs.beginInstall h
  | installNext answers => exact hs.installNext h
  | endInstall => exact hs.endInstall h
  | abortInstall =>
    cases h
    refine ⟨hs.order, fun run hrun => ?_, hs.started⟩
    cases hrun

end ApprovalInv

/-- **Only approved installers are started**, in every run that keeps what the job needs
within the roots. -/
theorem started_within_roots {s : ApprovalState}
    (hs : (approval casefold).ReachableUnder (KeepsApproved casefold) s) :
    ∀ t ∈ s.started, t.application.within casefold t.roots = true :=
  (hs.invariant (fun _ h0 => ApprovalInv.init h0)
    fun _ _ _ _ hi hc hstep => ApprovalInv.step hi hc hstep : ApprovalInv casefold s).started

end

/-! ## Replays -/

/-- An application inside the roots that depends on one elsewhere. -/
def sampleApplications (runtimePath : String) : List Application :=
  [{ id := "a1", name := "Editor", installerType := .msi
     installerPath := "\\\\srv\\apps\\editor.msi", dependencyIds := ["b2"] },
    { id := "b2", name := "Runtime", installerType := .exe, installerPath := runtimePath }]

def submittedJob (runtimePath : String) : ApprovalState where
  catalog := { apps := sampleApplications runtimePath, nodup := by simp [sampleApplications] }
  roots := ["\\\\srv\\apps"]
  selected := ["a1"]

theorem submittedJob_submitted (runtimePath : String)
    (h : validateInstallers asciiFold (submittedJob runtimePath).catalog
      (submittedJob runtimePath).selected (submittedJob runtimePath).roots = none) :
    (submittedJob runtimePath).Submitted asciiFold where
  preflight := preflightInstallers_of_validate asciiFold h
  validated := rfl
  order := rfl
  installing := rfl
  installed := rfl
  started := rfl

def installsCleanly : ApprovalAction :=
  .installNext ⟨.ok false, .ok { exitCode := 0 }⟩

def installsBoth : List ApprovalAction :=
  [.validateRequest, .resolveDependencies, .beginInstall, installsCleanly, installsCleanly,
    .endInstall]

/-- The selected application is within the roots, its dependency is not: the request is
valid, and the installer of the dependency is started. -/
theorem dependency_started_outside_roots : ∃ s, (approval asciiFold).Reachable s ∧
    s.validated = true ∧ ∃ t ∈ s.started, t.application.within asciiFold t.roots = false := by
  obtain ⟨s, hs, hp⟩ := Machine.exists_reachable_of_run (m := approval asciiFold)
    (submittedJob_submitted "C:\\Temp\\runtime.exe" (by decide +kernel))
    (t := installsBoth) (p := fun s => s.validated &&
      s.started.any fun t => !t.application.within asciiFold t.roots) (by decide +kernel)
  rw [Bool.and_eq_true, List.any_eq_true] at hp
  obtain ⟨hvalidated, t, ht, houtside⟩ := hp
  exact ⟨s, hs, hvalidated, t, ht, by simpa using houtside⟩

/-- Every application of the catalog is within the roots, and the step is no edit. -/
def keepsAllApproved (s : ApprovalState) : ApprovalAction → Bool
  | .editCatalog _ | .editRoots _ => false
  | _ => s.catalog.apps.all (·.within asciiFold s.roots)

theorem keepsApproved_of_all {s : ApprovalState} {e : ApprovalAction}
    (h : keepsAllApproved s e = true) : KeepsApproved asciiFold s e := by
  cases e with
  | resolveDependencies => exact fun _ _ app happ _ => List.all_eq_true.mp h app happ
  | editCatalog _ => cases h
  | editRoots _ => cases h
  | _ => trivial

theorem started_within_roots_both : ∃ s, (approval asciiFold).Reachable s ∧
    s.started.length = 2 ∧ ∀ t ∈ s.started, t.application.within asciiFold t.roots = true := by
  obtain ⟨s, hs, hp⟩ := Machine.exists_reachableUnder_of_run (m := approval asciiFold)
    (c := keepsAllApproved) (submittedJob_submitted
      "\\\\srv\\apps\\runtime.exe" (by decide +kernel))
    (t := installsBoth) (p := fun s => s.started.length == 2) (by decide +kernel)
  exact ⟨s, hs.reachable, by simpa using hp,
    started_within_roots (hs.mono fun _ _ => keepsApproved_of_all)⟩

end InfraOps
