import InfraOps.Applications.SoftwareStages

/-!
# Needed first

Over every run of the application stages: each installer is started after all that its
application needs, but for what has failed in the same attempt, and a finished
`install_applications` leaves out nothing that the selection needs.
-/

namespace InfraOps

open Relation

variable {selected : List AppId}

/-! ## The order of an attempt -/

/-- Unless something has failed, `done` are installed. -/
def Settled (done : List AppId) (outcomes : List InstallOutcome) (failures : List String) : Prop :=
  failures = [] → ∀ id ∈ done, ∃ o ∈ outcomes, o.appId = id ∧ o.status ≠ .failed

def Resolution.ids (r : Resolution selected) : List AppId := r.order.map OrderEntry.id

theorem Resolution.ids_eq (r : Resolution selected) :
    r.ids = (resolveInstallOrder selected r.catalog).1.map AppNode.id := by
  rw [Resolution.ids, Resolution.order, List.map_map]
  rfl

theorem Resolution.mem_ids (r : Resolution selected) {a : AppId} :
    a ∈ r.ids ↔ r.catalog.Closure selected a := by
  rw [r.ids_eq]
  exact ((resolveInstallOrder_exact r.catalog selected).2.1 r.resolves).2.1 a

theorem Resolution.ordered (r : Resolution selected) :
    InDependencyOrder r.catalog.DependsOn r.ids := by
  rw [r.ids_eq]
  exact ((resolveInstallOrder_exact r.catalog selected).2.1 r.resolves).2.2.2

namespace InstallAttempt

/-- The attempt stands between two entries of the order. -/
def Between (a : InstallAttempt) (ids : List AppId) : Prop :=
  ∃ done, ids = done ++ a.rest.map OrderEntry.id ∧ Settled done a.outcomes a.failures

/-- The attempt is at the entry of `id`. -/
def At (a : InstallAttempt) (ids : List AppId) (id : AppId) : Prop :=
  ∃ done, ids = done ++ id :: a.rest.map OrderEntry.id ∧ Settled done a.outcomes a.failures

def Follows (a : InstallAttempt) (ids : List AppId) : Prop :=
  match a.phase with
  | .next => a.Between ids
  | .detecting d => a.At ids d.app.id
  | .installing app _ => a.At ids app.id

variable {a a' : InstallAttempt} {ids : List AppId} {id : AppId}

theorem At.settle {outcome : InstallOutcome} (h : a.At ids id) (hid : outcome.appId = id) :
    (a.settle outcome).Follows ids := by
  obtain ⟨done, hids, hdone⟩ := h
  refine ⟨done ++ [id], by simp [InstallAttempt.settle, hids], ?_⟩
  intro hnone b hb
  simp only [InstallAttempt.settle] at hnone ⊢
  split at hnone
  · simp at hnone
  · rename_i hstatus
    rcases List.mem_append.mp hb with hb | hb
    · obtain ⟨o, ho, happ⟩ := hdone hnone b hb
      exact ⟨o, List.mem_append_left _ ho, happ⟩
    · obtain rfl := List.mem_singleton.mp hb
      exact ⟨outcome, List.mem_append_right _ List.mem_cons_self, hid, hstatus⟩

theorem At.raises {app : Application} {raised : Raised} (h : a.At ids app.id)
    (ha : a.raises app raised = some a') : a'.Follows ids := by
  cases raised with
  | infra error =>
    cases ha
    exact h.settle rfl
  | other traceback => cases ha

theorem Between.fails {rest : List OrderEntry} {text : String} (h : a.Between ids)
    (hids : a.rest.map OrderEntry.id = id :: rest.map OrderEntry.id) (hphase : a.phase = .next) :
    { a with rest, failures := a.failures ++ [text] }.Follows ids := by
  obtain ⟨done, hdone, -⟩ := h
  simp only [Follows, hphase]
  refine ⟨done ++ [id], by simp [hdone, hids], ?_⟩
  intro hnone
  simp at hnone

end InstallAttempt

theorem installerOutcome_appId (app : Application) (result : GuestResult) :
    (installerOutcome app result).appId = app.id := by
  unfold installerOutcome
  split
  · rfl
  · split
    · rfl
    · rfl

/-! ## Needed first -/

/-- What the application needs is installed by then, unless something had failed before. -/
structure StartedInstaller.AfterNeeds (t : StartedInstaller) (r : Resolution selected) : Prop where
  needed : r.catalog.Closure selected t.app.id
  first : t.failures = [] → ∀ b, TransGen r.catalog.DependsOn t.app.id b →
    ∃ o ∈ t.outcomes, o.appId = b ∧ o.status ≠ .failed

structure OrderInv (s : SoftwareState selected) : Prop where
  attempt : ∀ a, s.stage = .installing a → s.installed = none ∧
    ∃ r, s.resolution = some r ∧ a.Follows r.ids
  validating : ∀ v, s.stage = .validating v → s.installed.isSome = true
  started : ∀ t ∈ s.started, ∃ r, s.resolution = some r ∧ t.AfterNeeds r
  installed : ∀ outcomes, s.installed = some outcomes →
    ∃ r, s.resolution = some r ∧ Settled r.ids outcomes []
  validated : s.validated.isSome = true → s.installed.isSome = true

namespace OrderInv

variable {s s' : SoftwareState selected} {a : InstallAttempt} {r : Resolution selected}

theorem init (h : s.Fresh) : OrderInv s where
  attempt a ha := by simp [h.stage] at ha
  validating v hv := by simp [h.stage] at hv
  started := by simp [h.started]
  installed := by simp [h.installed]
  validated := by simp [h.validated]

theorem idle (hs : OrderInv s) : OrderInv { s with stage := .idle } where
  attempt a ha := by cases ha
  validating v hv := by cases hv
  started := hs.started
  installed := hs.installed
  validated := hs.validated

theorem goOn (hs : OrderInv s) (hnone : s.installed = none) (hr : s.resolution = some r)
    {next : Option InstallAttempt} (h : ∀ a, next = some a → a.Follows r.ids) :
    OrderInv (s.goOn next) := by
  cases next with
  | none => exact hs.idle
  | some a =>
    refine ⟨fun a' ha => ?_, fun v hv => (by cases hv), hs.started, hs.installed, hs.validated⟩
    cases ha
    exact ⟨hnone, r, hr, h a rfl⟩

/-- Here the order pays: all that the application needs stands before it. -/
theorem startInstaller {app : CatalogApplication} (hs : OrderInv s) (hnone : s.installed = none)
    (hr : s.resolution = some r) (ha : a.At r.ids app.id) :
    OrderInv (s.startInstaller a app) := by
  unfold SoftwareState.startInstaller
  split
  · exact hs.goOn hnone hr fun a' h => ha.raises h
  · rename_i program _
    refine ⟨fun a' h => ?_, fun v hv => (by cases hv), fun t ht => ?_, hs.installed, hs.validated⟩
    · cases h
      exact ⟨hnone, r, hr, ha⟩
    · rcases List.mem_cons.mp ht with rfl | ht
      · obtain ⟨done, hids, hdone⟩ := ha
        refine ⟨r, hr, r.mem_ids.mp (by simp [hids]), fun hclear b hb => ?_⟩
        have hordered := r.ordered
        rw [hids] at hordered
        exact hdone hclear b (hordered.mem_before hb)
      · exact hs.started t ht

theorem detect {app : CatalogApplication} (hs : OrderInv s) (hnone : s.installed = none)
    (hr : s.resolution = some r) (ha : a.At r.ids app.id) (probes : List GuestCommand) :
    OrderInv (s.detect a app probes) := by
  cases probes with
  | nil => exact hs.startInstaller hnone hr ha
  | cons probe rest =>
    refine ⟨fun a' h => ?_, fun v hv => (by cases hv), hs.started, hs.installed, hs.validated⟩
    cases h
    exact ⟨hnone, r, hr, ha⟩

theorem resolveDependencies (hs : OrderInv s) (h : s.resolveDependencies = some s') :
    OrderInv s' := by
  unfold SoftwareState.resolveDependencies at h
  split at h
  · cases h
  · rename_i hnone
    split at h
    · cases h
      refine ⟨fun a ha => ?_, hs.validating, fun t ht => ?_, fun outcomes ho => ?_, hs.validated⟩
      · obtain ⟨-, r, hr, -⟩ := hs.attempt a ha
        simp [hnone] at hr
      · obtain ⟨r, hr, -⟩ := hs.started t ht
        simp [hnone] at hr
      · obtain ⟨r, hr, -⟩ := hs.installed outcomes ho
        simp [hnone] at hr
    · cases h
      exact hs

theorem beginInstall (hs : OrderInv s) (h : s.beginInstall = some s') : OrderInv s' := by
  unfold SoftwareState.beginInstall at h
  split at h
  · rename_i r hidle hr hnone
    split at h
    · rename_i hempty
      cases h
      refine ⟨fun a ha => ?_, fun v hv => ?_, hs.started, fun outcomes ho => ?_, fun _ => rfl⟩
      · simp [hidle] at ha
      · simp [hidle] at hv
      · refine ⟨r, hr, fun _ id hid => ?_⟩
        simp [Resolution.ids, hempty] at hid
    · cases h
      refine ⟨fun a ha => ?_, fun v hv => (by cases hv), hs.started, hs.installed, hs.validated⟩
      cases ha
      exact ⟨hnone, r, hr, [], rfl, fun _ id hid => by cases hid⟩
  · cases h

theorem takeEntry (hs : OrderInv s) (h : s.takeEntry = some s') : OrderInv s' := by
  unfold SoftwareState.takeEntry at h
  split at h
  · rename_i a hstage
    obtain ⟨hnone, r, hr, hfollows⟩ := hs.attempt a hstage
    split at h
    · rename_i entry rest hphase hrest
      rw [InstallAttempt.Follows, hphase] at hfollows
      split at h
      · cases h
        refine hs.goOn hnone hr fun a' ha' => ?_
        cases ha'
        have hids : a.rest.map OrderEntry.id = entry.id :: rest.map OrderEntry.id := by
          simp [hrest]
        exact InstallAttempt.Between.fails hfollows hids hphase
      · rename_i app hfind
        have hid : app.id = entry.id := by simpa using List.find?_some hfind
        split at h
        · cases h
          exact hs.idle
        · cases h
          obtain ⟨done, hids, hdone⟩ := hfollows
          refine hs.detect (a := { a with rest }) hnone hr ⟨done, ?_, hdone⟩ _
          rw [hids, hrest, hid]
          rfl
    · cases h
  · cases h

theorem probeInstall (hs : OrderInv s) (hnone : s.installed = none) (hr : s.resolution = some r)
    {d : Detection} (ha : a.At r.ids d.app.id) (answer : Except Raised GuestResult) :
    OrderInv (s.probeInstall a d answer) := by
  unfold SoftwareState.probeInstall
  split
  · refine hs.goOn hnone hr fun a' h => ?_
    cases h
    exact ha.settle rfl
  · exact hs.detect hnone hr ha _
  · exact hs.goOn hnone hr fun a' h => ha.raises h

theorem installerReturns {answer : Except Raised GuestResult} (hs : OrderInv s)
    (h : s.installerReturns answer = some s') : OrderInv s' := by
  unfold SoftwareState.installerReturns at h
  split at h
  · rename_i a hstage
    obtain ⟨hnone, r, hr, hfollows⟩ := hs.attempt a hstage
    split at h
    · rename_i app program raised hphase
      rw [InstallAttempt.Follows, hphase] at hfollows
      cases h
      exact hs.goOn hnone hr fun a' h => InstallAttempt.At.raises hfollows h
    · rename_i app program result hphase
      rw [InstallAttempt.Follows, hphase] at hfollows
      cases h
      have hsettled : OrderInv (s.goOn (some (a.settle
          (installerOutcome app.toApplication result)))) :=
        hs.goOn hnone hr fun a' h => by
          cases h
          exact InstallAttempt.At.settle hfollows (installerOutcome_appId _ _)
      exact ⟨hsettled.attempt, hsettled.validating, hsettled.started, hsettled.installed,
        hsettled.validated⟩
    · cases h
  · cases h

theorem endInstall (hs : OrderInv s) (h : s.endInstall = some s') : OrderInv s' := by
  unfold SoftwareState.endInstall at h
  split at h
  · rename_i a hstage
    obtain ⟨hnone, r, hr, hfollows⟩ := hs.attempt a hstage
    split at h
    · rename_i hphase hrest
      rw [InstallAttempt.Follows, hphase] at hfollows
      obtain ⟨done, hids, hdone⟩ := hfollows
      cases h
      refine ⟨fun a ha => (by cases ha), fun v hv => (by cases hv), hs.started,
        fun outcomes ho => ?_, fun hv => ?_⟩
      · simp only [Option.ite_none_right_eq_some, Option.some.injEq] at ho
        obtain ⟨hclear, rfl⟩ := ho
        refine ⟨r, hr, ?_⟩
        rw [hids, hrest, List.map_nil, List.append_nil, ← hclear]
        exact hdone
      · have hsome := hs.validated hv
        rw [hnone] at hsome
        cases hsome
    · cases h
  · cases h

theorem beginValidation (hs : OrderInv s) (h : s.beginValidation = some s') : OrderInv s' := by
  unfold SoftwareState.beginValidation at h
  split at h
  · rename_i hidle hinstalled hnone
    cases h
    refine ⟨hs.attempt, hs.validating, hs.started, hs.installed, fun _ => ?_⟩
    simp [hinstalled]
  · rename_i o outcomes hidle hinstalled hnone
    cases h
    exact ⟨fun a ha => (by cases ha), fun v hv => (by simp [hinstalled]), hs.started, hs.installed,
      hs.validated⟩
  · cases h

theorem restaged (hs : OrderInv s) {v : ValidationAttempt} (hv : s.stage = .validating v)
    (h : s.Restaged s') : OrderInv s' := by
  obtain ⟨stage, hstage, rfl⟩ := h
  exact ⟨fun a ha => absurd ha (hstage a), fun _ _ => hs.validating v hv, hs.started,
    hs.installed, hs.validated⟩

theorem takeName (hs : OrderInv s) (h : s.takeName = some s') : OrderInv s' := by
  have hrestaged := SoftwareState.restaged_takeName h
  unfold SoftwareState.takeName at h
  split at h
  · rename_i v hstage
    exact hs.restaged hstage hrestaged
  · cases h

theorem probe {answer : Except Raised GuestResult} (hs : OrderInv s)
    (h : s.probe answer = some s') : OrderInv s' := by
  unfold SoftwareState.probe at h
  split at h
  · rename_i a hstage
    obtain ⟨hnone, r, hr, hfollows⟩ := hs.attempt a hstage
    split at h
    · rename_i d hphase
      rw [InstallAttempt.Follows, hphase] at hfollows
      cases h
      exact hs.probeInstall hnone hr hfollows answer
    · cases h
  · rename_i v hstage
    obtain ⟨d, -, rfl⟩ := Option.map_eq_some_iff.mp h
    exact hs.restaged hstage (s.restaged_probeValidation v d answer)
  · cases h

theorem endValidation (hs : OrderInv s) (h : s.endValidation = some s') : OrderInv s' := by
  unfold SoftwareState.endValidation at h
  split at h
  · rename_i v hstage
    split at h
    · cases h
      exact ⟨fun a ha => (by cases ha), fun v hv => (by cases hv), hs.started, hs.installed,
        fun _ => hs.validating v hstage⟩
    · cases h
  · cases h

theorem step {e : SoftwareAction} (hs : OrderInv s) (h : s.step e = some s') : OrderInv s' := by
  cases e with
  | editCatalog catalog =>
    cases h
    exact ⟨hs.attempt, hs.validating, hs.started, hs.installed, hs.validated⟩
  | guestChanges guest =>
    cases h
    exact ⟨hs.attempt, hs.validating, hs.started, hs.installed, hs.validated⟩
  | resolveDependencies => exact hs.resolveDependencies h
  | beginInstall => exact hs.beginInstall h
  | takeEntry => exact hs.takeEntry h
  | probe answer => exact hs.probe h
  | installerReturns answer => exact hs.installerReturns h
  | endInstall => exact hs.endInstall h
  | beginValidation => exact hs.beginValidation h
  | takeName => exact hs.takeName h
  | endValidation => exact hs.endValidation h
  | abort =>
    cases h
    exact hs.idle

end OrderInv

theorem orderInv {s : SoftwareState selected} {C : SoftwareState selected → SoftwareAction → Prop}
    (hs : (software selected).ReachableUnder C s) : OrderInv s :=
  hs.invariant (fun _ h0 => .init h0) fun _ _ _ _ hi _ hstep => hi.step hstep

/-- **Needed first, and nothing left out**, over every run of attempts, catalog edits and
changes in the guest. An installer belongs to an application that the selection needed when
`resolve_dependencies` read the catalog; unless something had failed before it in the same
attempt, all that the application needed was installed by then; and a finished
`install_applications` has an outcome that is no failure for all that the selection needed. -/
theorem needed_first {s : SoftwareState selected} (hs : (software selected).Reachable s) :
    (∀ t ∈ s.started, ∃ r, s.resolution = some r ∧ t.AfterNeeds r) ∧
    ∀ outcomes, s.installed = some outcomes → ∃ r, s.resolution = some r ∧
      ∀ a, r.catalog.Closure selected a → ∃ o ∈ outcomes, o.appId = a ∧ o.status ≠ .failed := by
  have hi := orderInv hs
  refine ⟨hi.started, fun outcomes ho => ?_⟩
  obtain ⟨r, hr, hsettled⟩ := hi.installed outcomes ho
  exact ⟨r, hr, fun a ha => hsettled rfl a (r.mem_ids.mpr ha)⟩

/-! ## Replays -/

/-- The editor depends on the runtime. -/
def editorAndRuntime : SoftwareCatalog where
  apps := [
    { id := "a1", name := "Editor", installerType := .msi
      installerPath := "\\\\srv\\apps\\editor.msi", dependencyIds := ["b2"]
      detectionMethod := .serviceExists
      detectionConfig := some (.singleton "service_name" (.text "editor".toList)) },
    { id := "b2", name := "Runtime", installerType := .exe
      installerPath := "\\\\srv\\apps\\runtime.exe"
      detectionMethod := .serviceExists
      detectionConfig := some (.singleton "service_name" (.text "runtime".toList)) }]
  nodup := by decide

def selectsEditor : SoftwareState ["a1"] := { catalog := editorAndRuntime }

theorem selectsEditor_fresh : selectsEditor.Fresh := ⟨rfl, rfl, rfl, rfl, rfl, rfl⟩

def serviceProbe (service : String) : GuestCommand :=
  .native scPath ("query " ++ inQuotes service)

def probeExits (code : Int) : SoftwareAction := .probe (.ok { exitCode := code })

def installerSucceeds : SoftwareAction := .installerReturns (.ok { exitCode := 0 })

/-- The first attempt times out with the editor's installer running. -/
def retriedInstallation : List SoftwareAction :=
  [.resolveDependencies, .beginInstall, .takeEntry, probeExits 1060,
    .guestChanges [serviceProbe "runtime"], installerSucceeds, .takeEntry, probeExits 1060, .abort,
    .beginInstall, .takeEntry, probeExits 0, .takeEntry, probeExits 1060,
    .guestChanges [serviceProbe "editor", serviceProbe "runtime"], installerSucceeds, .endInstall]

theorem needed_first_retried : ∃ s : SoftwareState ["a1"], (software ["a1"]).Reachable s ∧
    s.started.length = 3 ∧ s.installed.isSome = true ∧
    ∀ t ∈ s.started, ∃ r, s.resolution = some r ∧ t.AfterNeeds r := by
  obtain ⟨s, hs, hp⟩ := Machine.exists_reachable_of_run (m := software ["a1"])
    selectsEditor_fresh (t := retriedInstallation)
    (p := fun s => s.started.length == 3 && s.installed.isSome) (by decide +kernel)
  simp only [Bool.and_eq_true, beq_iff_eq] at hp
  exact ⟨s, hs, hp.1, hp.2, (needed_first hs).1⟩

end InfraOps
