import InfraOps.Applications.SoftwareRuns

/-!
# Kept software

What the application stages rely on the guest for. As long as what is installed stays to be
detected, no retry installs it again, whatever earlier attempts have left running; and a
finished validation has found all that the job needs.
-/

namespace InfraOps

variable {selected : List AppId}

/-! ## Probes -/

theorem detectedIn_iff {app : CatalogApplication} {guest : List GuestCommand} :
    app.detectedIn guest = true ↔ ∃ probe ∈ app.probes.getD [], probe ∈ guest := by
  simp [CatalogApplication.detectedIn]

section Verdicts

variable {app : Application} {probe : GuestCommand} {answer : Except Raised GuestResult}

theorem probeVerdict_present (h : probeVerdict app probe answer = .present) :
    ∃ result, answer = .ok result ∧ result.exitCode = 0 := by
  cases answer with
  | error raised => cases h
  | ok result =>
    refine ⟨result, rfl, ?_⟩
    simp only [probeVerdict] at h
    split at h
    · assumption
    · split at h
      · cases h
      · cases h

theorem probeVerdict_absent (h : probeVerdict app probe answer = .absent) :
    ∃ result, answer = .ok result ∧ result.exitCode ∈ detectionAbsentExitCodes := by
  cases answer with
  | error raised => cases h
  | ok result =>
    refine ⟨result, rfl, ?_⟩
    simp only [probeVerdict] at h
    split at h
    · cases h
    · split at h
      · assumption
      · cases h

end Verdicts

/-! ## Installed once -/

/-- The rows that installations go by: the catalog, and what a running attempt has read. -/
def SoftwareState.rows (s : SoftwareState selected) : List CatalogApplication :=
  s.catalog.apps ++ match s.stage with
    | .installing a => a.snapshot
    | _ => []

/-- What an installer has installed stays to be detected: it is there when the installer
reports success, no edit of its row and no change in the guest hides it, and no probe that
would exit with 0 says that it is absent. -/
def KeepsDetected (s : SoftwareState selected) : SoftwareAction → Prop
  | .editCatalog catalog =>
    ∀ app ∈ catalog.apps, app.id ∈ s.succeeded → app.detectedIn s.guest = true
  | .guestChanges guest =>
    ∀ app ∈ s.rows, app.id ∈ s.succeeded → ∀ probe ∈ app.probes.getD [], probe ∈ s.guest →
      probe ∈ guest
  | .probe answer =>
    ∀ a d, s.stage = .installing a → a.phase = .detecting d → d.probe ∈ s.guest →
      ∀ result, answer = .ok result → result.exitCode ∉ detectionAbsentExitCodes
  | .installerReturns answer =>
    ∀ a app program result, s.stage = .installing a → a.phase = .installing app program →
      answer = .ok result → (installerOutcome app.toApplication result).status ≠ .failed →
      ∀ row ∈ s.rows, row.id = app.id → row.detectedIn s.guest = true
  | _ => True

/-- A detection at work will find what was installed. -/
structure Detection.Finds (d : Detection) (guest : List GuestCommand) (succeeded : List AppId) :
    Prop where
  probes : ∀ probe ∈ d.probe :: d.rest, probe ∈ d.app.probes.getD []
  finds : d.app.id ∈ succeeded → ∃ probe ∈ d.probe :: d.rest, probe ∈ guest

structure DetectedInv (s : SoftwareState selected) : Prop where
  detected : ∀ app ∈ s.rows, app.id ∈ s.succeeded → app.detectedIn s.guest = true
  detecting : ∀ a d, s.stage = .installing a → a.phase = .detecting d →
    d.app ∈ a.snapshot ∧ d.Finds s.guest s.succeeded
  installing : ∀ a app program, s.stage = .installing a → a.phase = .installing app program →
    app ∈ a.snapshot
  started : ∀ t ∈ s.started, t.app.id ∉ t.succeeded


section

variable {s s' : SoftwareState selected} {a : InstallAttempt}

/-- What an attempt may hold. -/
structure InstallAttempt.Fits (a : InstallAttempt) (s : SoftwareState selected) : Prop where
  snapshot : ∀ app ∈ a.snapshot, app ∈ s.rows
  detecting : ∀ d, a.phase = .detecting d → d.app ∈ a.snapshot ∧ d.Finds s.guest s.succeeded
  installing : ∀ app program, a.phase = .installing app program → app ∈ a.snapshot

theorem InstallAttempt.Fits.settle (h : a.Fits s) (outcome : InstallOutcome) :
    (a.settle outcome).Fits s where
  snapshot := h.snapshot
  detecting d hd := by cases hd
  installing app program hd := by cases hd

theorem InstallAttempt.Fits.raises {app : Application} {raised : Raised} {a' : InstallAttempt}
    (h : a.Fits s) (ha : a.raises app raised = some a') : a'.Fits s := by
  obtain ⟨outcome, -, rfl⟩ := Option.map_eq_some_iff.mp ha
  exact h.settle outcome

theorem snapshot_subset_rows (h : s.stage = .installing a) : ∀ app ∈ a.snapshot, app ∈ s.rows := by
  intro app happ
  simp [SoftwareState.rows, h, happ]

namespace DetectedInv

theorem fits (hs : DetectedInv s) (h : s.stage = .installing a) : a.Fits s where
  snapshot := snapshot_subset_rows h
  detecting d hd := hs.detecting a d h hd
  installing app program hd := hs.installing a app program h hd

/-- The stage goes on with rows that are known already. -/
theorem restage {stage : StageAtWork} (hs : DetectedInv s)
    (h : ∀ a, stage = .installing a → a.Fits s) : DetectedInv { s with stage } where
  detected app happ hid := by
    refine hs.detected app ?_ hid
    cases stage with
    | installing a =>
      rcases List.mem_append.mp happ with happ | happ
      · exact List.mem_append_left _ happ
      · exact (h a rfl).snapshot app happ
    | _ => exact List.mem_append_left _ (by simpa [SoftwareState.rows] using happ)
  detecting a d ha hd := by
    obtain ⟨happ, hprobes, hfinds⟩ := (h a ha).detecting d hd
    exact ⟨happ, hprobes, hfinds⟩
  installing a app program ha hd := (h a ha).installing app program hd
  started := hs.started

theorem restaged (hs : DetectedInv s) (h : s.Restaged s') : DetectedInv s' := by
  obtain ⟨stage, hstage, rfl⟩ := h
  exact hs.restage fun a ha => absurd ha (hstage a)

theorem goOn {next : Option InstallAttempt} (hs : DetectedInv s)
    (h : ∀ a, next = some a → a.Fits s) : DetectedInv (s.goOn next) := by
  cases next with
  | none => exact hs.restaged s.restaged_idle
  | some a =>
    refine hs.restage fun a' ha => ?_
    cases ha
    exact h a rfl

theorem startInstaller {app : CatalogApplication} (hs : DetectedInv s) (ha : a.Fits s)
    (happ : app ∈ a.snapshot) (hnot : app.id ∉ s.succeeded) :
    DetectedInv (s.startInstaller a app) := by
  unfold SoftwareState.startInstaller
  split
  · exact hs.goOn fun a' h => ha.raises h
  · rename_i program _
    have hfits : InstallAttempt.Fits { a with phase := .installing app program } s := by
      refine ⟨ha.snapshot, fun d hd => (by cases hd), fun app' program' hd => ?_⟩
      cases hd
      exact happ
    have hstaged : DetectedInv { s with
        stage := .installing { a with phase := .installing app program } } :=
      hs.restage fun a' h => by
        cases h
        exact hfits
    refine ⟨hstaged.detected, hstaged.detecting, hstaged.installing, fun t ht => ?_⟩
    rcases List.mem_cons.mp ht with rfl | ht
    · exact hnot
    · exact hs.started t ht

/-- A detection that has no probe left has not been looking for anything installed. -/
theorem detect {app : CatalogApplication} {probes : List GuestCommand} (hs : DetectedInv s)
    (ha : a.Fits s) (happ : app ∈ a.snapshot)
    (hprobes : ∀ probe ∈ probes, probe ∈ app.probes.getD [])
    (hfinds : app.id ∈ s.succeeded → ∃ probe ∈ probes, probe ∈ s.guest) :
    DetectedInv (s.detect a app probes) := by
  cases probes with
  | nil =>
    refine hs.startInstaller ha happ fun hid => ?_
    obtain ⟨probe, hprobe, -⟩ := hfinds hid
    cases hprobe
  | cons probe rest =>
    refine hs.restage fun a' h => ?_
    cases h
    refine ⟨ha.snapshot, fun d hd => ?_, fun app' program hd => by cases hd⟩
    cases hd
    exact ⟨happ, hprobes, hfinds⟩

theorem init (h : s.Fresh) : DetectedInv s where
  detected := by simp [h.succeeded]
  detecting a d ha := by simp [h.stage] at ha
  installing a app program ha := by simp [h.stage] at ha
  started := by simp [h.started]

theorem beginInstall (hs : DetectedInv s) (h : s.beginInstall = some s') : DetectedInv s' := by
  unfold SoftwareState.beginInstall at h
  split at h
  · split at h
    · cases h
      exact ⟨hs.detected, hs.detecting, hs.installing, hs.started⟩
    · cases h
      refine hs.restage fun a ha => ?_
      cases ha
      exact ⟨fun app happ => List.mem_append_left _ happ, fun d hd => (by cases hd),
        fun app program hd => by cases hd⟩
  · cases h

theorem takeEntry (hs : DetectedInv s) (h : s.takeEntry = some s') : DetectedInv s' := by
  unfold SoftwareState.takeEntry at h
  split at h
  · rename_i a hstage
    have hfits := hs.fits hstage
    split at h
    · rename_i entry rest hphase hrest
      split at h
      · cases h
        refine hs.goOn fun a' ha' => ?_
        cases ha'
        exact ⟨hfits.snapshot, hfits.detecting, hfits.installing⟩
      · rename_i app hfind
        have happ := List.mem_of_find?_eq_some hfind
        split at h
        · cases h
          exact hs.restaged s.restaged_idle
        · rename_i probes hprobes
          cases h
          refine hs.detect ⟨hfits.snapshot, hfits.detecting, hfits.installing⟩ happ ?_ ?_
          · simp [hprobes]
          · intro hid
            have hdetected := hs.detected app (hfits.snapshot app happ) hid
            simpa [hprobes] using detectedIn_iff.mp hdetected
    · cases h
  · cases h

theorem probe {answer : Except Raised GuestResult} (hs : DetectedInv s)
    (hc : KeepsDetected s (.probe answer)) (h : s.probe answer = some s') : DetectedInv s' := by
  unfold SoftwareState.probe at h
  split at h
  · rename_i a hstage
    have hfits := hs.fits hstage
    split at h
    · rename_i d hphase
      obtain ⟨happ, hprobes, hfinds⟩ := hfits.detecting d hphase
      cases h
      unfold SoftwareState.probeInstall
      split
      · refine hs.goOn fun a' ha => ?_
        cases ha
        exact hfits.settle _
      · rename_i hverdict
        refine hs.detect hfits happ (fun probe hprobe =>
          hprobes probe (List.mem_cons_of_mem _ hprobe)) fun hid => ?_
        obtain ⟨probe, hprobe, hguest⟩ := hfinds hid
        rcases List.mem_cons.mp hprobe with rfl | hprobe
        · -- the probe would have exited with 0
          obtain ⟨result, rfl, habsent⟩ := probeVerdict_absent hverdict
          exact absurd habsent (hc a d hstage hphase hguest result rfl)
        · exact ⟨probe, hprobe, hguest⟩
      · exact hs.goOn fun a' ha => hfits.raises ha
    · cases h
  · rename_i v hstage
    obtain ⟨d, -, rfl⟩ := Option.map_eq_some_iff.mp h
    exact hs.restaged (s.restaged_probeValidation v d answer)
  · cases h

theorem installerReturns {answer : Except Raised GuestResult} (hs : DetectedInv s)
    (hc : KeepsDetected s (.installerReturns answer)) (h : s.installerReturns answer = some s') :
    DetectedInv s' := by
  unfold SoftwareState.installerReturns at h
  split at h
  · rename_i a hstage
    have hfits := hs.fits hstage
    split at h
    · cases h
      exact hs.goOn fun a' ha => hfits.raises ha
    · rename_i app program result hphase
      cases h
      have hsettled : DetectedInv (s.goOn (some (a.settle
          (installerOutcome app.toApplication result)))) := hs.goOn fun a' ha => by
        cases ha
        exact hfits.settle _
      split
      · exact ⟨hsettled.detected, hsettled.detecting, hsettled.installing, hsettled.started⟩
      · rename_i hstatus
        refine ⟨fun row hrow hid => ?_, fun a' d ha hd => ?_, hsettled.installing,
          hsettled.started⟩
        · rcases List.mem_cons.mp hid with hid | hid
          · refine hc a app program result hstage hphase rfl hstatus row ?_ hid
            rcases List.mem_append.mp hrow with hrow | hrow
            · exact List.mem_append_left _ hrow
            · exact hfits.snapshot row hrow
          · exact hsettled.detected row hrow hid
        · cases ha
          cases hd
    · cases h
  · cases h

theorem guestChanges {guest : List GuestCommand} (hs : DetectedInv s)
    (hc : KeepsDetected s (.guestChanges guest)) : DetectedInv { s with guest } where
  detected app happ hid := by
    obtain ⟨probe, hprobe, hguest⟩ := detectedIn_iff.mp (hs.detected app happ hid)
    exact detectedIn_iff.mpr ⟨probe, hprobe, hc app happ hid probe hprobe hguest⟩
  detecting a d ha hd := by
    obtain ⟨happ, hprobes, hfinds⟩ := hs.detecting a d ha hd
    refine ⟨happ, hprobes, fun hid => ?_⟩
    obtain ⟨probe, hprobe, hguest⟩ := hfinds hid
    have hrow := snapshot_subset_rows ha d.app happ
    exact ⟨probe, hprobe, hc d.app hrow hid probe (hprobes probe hprobe) hguest⟩
  installing := hs.installing
  started := hs.started

theorem step {e : SoftwareAction} (hs : DetectedInv s) (hc : KeepsDetected s e)
    (h : s.step e = some s') : DetectedInv s' := by
  cases e with
  | editCatalog catalog =>
    cases h
    refine ⟨fun app happ hid => ?_, hs.detecting, hs.installing, hs.started⟩
    rcases List.mem_append.mp happ with happ | happ
    · exact hc app happ hid
    · exact hs.detected app (List.mem_append_right _ happ) hid
  | guestChanges guest =>
    cases h
    exact hs.guestChanges hc
  | resolveDependencies =>
    simp only [SoftwareState.step, SoftwareState.resolveDependencies] at h
    split at h
    · cases h
    · split at h
      · cases h
        exact ⟨hs.detected, hs.detecting, hs.installing, hs.started⟩
      · cases h
        exact hs
  | beginInstall => exact hs.beginInstall h
  | takeEntry => exact hs.takeEntry h
  | probe answer => exact hs.probe hc h
  | installerReturns answer => exact hs.installerReturns hc h
  | endInstall =>
    simp only [SoftwareState.step, SoftwareState.endInstall] at h
    split at h
    · split at h
      · cases h
        have hidle := hs.restaged s.restaged_idle
        exact ⟨hidle.detected, hidle.detecting, hidle.installing, hidle.started⟩
      · cases h
    · cases h
  | beginValidation =>
    simp only [SoftwareState.step, SoftwareState.beginValidation] at h
    split at h
    · cases h
      exact ⟨hs.detected, hs.detecting, hs.installing, hs.started⟩
    · cases h
      exact hs.restaged (s.restaged_validating _)
    · cases h
  | takeName =>
    exact hs.restaged (SoftwareState.restaged_takeName h)
  | endValidation =>
    simp only [SoftwareState.step, SoftwareState.endValidation] at h
    split at h
    · split at h
      · cases h
        have hidle := hs.restaged s.restaged_idle
        exact ⟨hidle.detected, hidle.detecting, hidle.installing, hidle.started⟩
      · cases h
    · cases h
  | abort =>
    cases h
    exact hs.restaged s.restaged_idle

end DetectedInv

/-- **A retry installs nothing again**: over every run of attempts that keeps what is installed
to be detected, no installer is started for an application whose installer has reported
success before. -/
theorem installed_once (hs : (software selected).ReachableUnder KeepsDetected s) :
    ∀ t ∈ s.started, t.app.id ∉ t.succeeded :=
  (hs.invariant (fun _ h0 => .init h0) fun _ _ _ _ hi hc hstep => hi.step hc hstep :
    DetectedInv s).started

/-! ## Found at the end -/

/-- What validations have detected. -/
def SoftwareState.found (s : SoftwareState selected) : List CatalogApplication :=
  (match s.stage with
    | .validating v => v.found
    | _ => []) ++ s.validated.getD []

/-- What a validation has found is not removed, no probe exits with 0 in vain, and each name
that a validation starts with leads to the application that was installed under it. -/
def KeepsFound (s : SoftwareState selected) : SoftwareAction → Prop
  | .guestChanges guest => ∀ app ∈ s.found, app.detectedIn s.guest = true →
      app.detectedIn guest = true
  | .beginValidation => ∀ outcomes, s.installed = some outcomes → ∀ o ∈ outcomes, ∀ app,
      appsByName s.catalog.apps o.name = some app → app.id = o.appId
  | .probe answer => ∀ v d, s.stage = .validating v → v.detecting = some d →
      ∀ result, answer = .ok result → result.exitCode = 0 → d.probe ∈ s.guest
  | _ => True

/-- What a validation may hold. Until there is a problem, every outcome is before it, in work or
found. -/
structure ValidationAttempt.Fits (v : ValidationAttempt) (outcomes : List InstallOutcome)
    (guest : List GuestCommand) : Prop where
  names : ∀ o ∈ outcomes, ∀ app, appsByName v.snapshot o.name = some app → app.id = o.appId
  covers : v.problems = [] → ∀ o ∈ outcomes, o.name ∈ v.rest ∨
    (∃ d, v.detecting = some d ∧ appsByName v.snapshot o.name = some d.app) ∨
    ∃ app ∈ v.found, appsByName v.snapshot o.name = some app
  probes : ∀ d, v.detecting = some d →
    ∀ probe ∈ d.probe :: d.rest, probe ∈ d.app.probes.getD []
  found : ∀ app ∈ v.found, app.detectedIn guest = true

structure ValidationInv (s : SoftwareState selected) : Prop where
  validating : ∀ v, s.stage = .validating v → ∃ outcomes, s.installed = some outcomes ∧
    v.Fits outcomes s.guest
  validated : ∀ found, s.validated = some found → ∃ outcomes, s.installed = some outcomes ∧
    (∀ o ∈ outcomes, ∃ app ∈ found, app.id = o.appId) ∧ ∀ app ∈ found, app.detectedIn s.guest = true

namespace ValidationAttempt.Fits

variable {v : ValidationAttempt} {outcomes : List InstallOutcome} {guest : List GuestCommand}

/-- The name at the head of the loop is taken. -/
theorem take {name : String} {rest : List String} {app : CatalogApplication}
    {probe : GuestCommand} {probes : List GuestCommand} (h : v.Fits outcomes guest)
    (hfree : v.detecting = none) (hrest : v.rest = name :: rest)
    (happ : appsByName v.snapshot name = some app) (hprobes : app.probes = some (probe :: probes)) :
    { v with rest, detecting := some ⟨app, probe, probes⟩ }.Fits outcomes guest := by
  refine ⟨h.names, fun hclear o ho => ?_, fun d hd => ?_, h.found⟩
  · rcases h.covers hclear o ho with hname | ⟨d, hd, -⟩ | hfound
    · rw [hrest] at hname
      rcases List.mem_cons.mp hname with rfl | hname
      · exact .inr (.inl ⟨_, rfl, happ⟩)
      · exact .inl hname
    · rw [hfree] at hd
      cases hd
    · exact .inr (.inr hfound)
  · cases hd
    simp [hprobes]

/-- With a problem, only what was found counts. -/
theorem fails {rest : List String} {problem : String} (h : v.Fits outcomes guest) :
    { v with rest, detecting := none, problems := v.problems ++ [problem] }.Fits outcomes guest :=
  ⟨h.names, fun hclear => (by simp at hclear), fun d hd => (by cases hd), h.found⟩

theorem next {app : CatalogApplication} {probe probe' : GuestCommand} {probes : List GuestCommand}
    (h : v.Fits outcomes guest) (hd : v.detecting = some ⟨app, probe, probe' :: probes⟩) :
    { v with detecting := some ⟨app, probe', probes⟩ }.Fits outcomes guest := by
  refine ⟨h.names, fun hclear o ho => ?_, fun d hd' => ?_, h.found⟩
  · rcases h.covers hclear o ho with hname | ⟨d, hd', hnamed⟩ | hfound
    · exact .inl hname
    · rw [hd] at hd'
      cases hd'
      exact .inr (.inl ⟨_, rfl, hnamed⟩)
    · exact .inr (.inr hfound)
  · cases hd'
    intro p hp
    exact h.probes _ hd p (List.mem_cons_of_mem _ hp)

theorem finds {d : Detection} (h : v.Fits outcomes guest) (hd : v.detecting = some d)
    (hguest : d.probe ∈ guest) :
    { v with detecting := none, found := v.found ++ [d.app] }.Fits outcomes guest := by
  refine ⟨h.names, fun hclear o ho => ?_, fun d hd' => (by cases hd'), fun app happ => ?_⟩
  · rcases h.covers hclear o ho with hname | ⟨d', hd', hnamed⟩ | ⟨app, happ, hnamed⟩
    · exact .inl hname
    · rw [hd] at hd'
      cases hd'
      exact .inr (.inr ⟨d.app, List.mem_append_right _ List.mem_cons_self, hnamed⟩)
    · exact .inr (.inr ⟨app, List.mem_append_left _ happ, hnamed⟩)
  · rcases List.mem_append.mp happ with happ | happ
    · exact h.found app happ
    · obtain rfl := List.mem_singleton.mp happ
      exact detectedIn_iff.mpr ⟨d.probe, h.probes d hd d.probe List.mem_cons_self, hguest⟩

end ValidationAttempt.Fits

namespace ValidationInv

theorem init (h : s.Fresh) : ValidationInv s where
  validating v hv := by simp [h.stage] at hv
  validated found hf := by simp [h.validated] at hf

theorem installs (hs : ValidationInv s) (h : s.Installs s') : ValidationInv s' where
  validating v hv := absurd hv (h.stage v)
  validated found hf := by
    rw [h.installed, h.guest]
    rw [h.validated] at hf
    exact hs.validated found hf

theorem idle (hs : ValidationInv s) : ValidationInv { s with stage := .idle } where
  validating v hv := by cases hv
  validated := hs.validated

theorem validates {v : ValidationAttempt} {outcomes : List InstallOutcome} (hs : ValidationInv s)
    (hinstalled : s.installed = some outcomes) (hv : v.Fits outcomes s.guest) :
    ValidationInv { s with stage := .validating v } where
  validating v' hv' := by
    cases hv'
    exact ⟨outcomes, hinstalled, hv⟩
  validated := hs.validated

theorem beginValidation (hs : ValidationInv s) (hc : KeepsFound s .beginValidation)
    (h : s.beginValidation = some s') : ValidationInv s' := by
  unfold SoftwareState.beginValidation at h
  split at h
  · rename_i hidle hinstalled hnone
    cases h
    refine ⟨fun v hv => (by simp [hidle] at hv), fun found hf => ⟨[], hinstalled, ?_, ?_⟩⟩
    · simp
    · cases hf
      simp
  · rename_i o outcomes hidle hinstalled hnone
    cases h
    refine hs.validates hinstalled ⟨hc _ hinstalled, fun _ o' ho' => .inl ?_, ?_, ?_⟩
    · exact List.mem_map_of_mem ho'
    · simp
    · simp
  · cases h

theorem takeName (hs : ValidationInv s) (h : s.takeName = some s') : ValidationInv s' := by
  unfold SoftwareState.takeName at h
  split at h
  · rename_i v hstage
    obtain ⟨outcomes, hinstalled, hfits⟩ := hs.validating v hstage
    split at h
    · rename_i name rest hfree hrest
      split at h
      · cases h
        exact hs.validates hinstalled
          ⟨hfits.names, fun hclear => (by simp at hclear), hfits.probes, hfits.found⟩
      · rename_i app happ
        split at h
        · cases h
          exact hs.idle
        · rename_i probes hprobes
          cases h
          cases probes with
          | nil => exact hs.validates hinstalled hfits.fails
          | cons probe probes =>
            exact hs.validates hinstalled (hfits.take hfree hrest happ hprobes)
    · cases h
  · cases h

theorem probe {answer : Except Raised GuestResult} (hs : ValidationInv s)
    (hc : KeepsFound s (.probe answer)) (h : s.probe answer = some s') : ValidationInv s' := by
  unfold SoftwareState.probe at h
  split at h
  · split at h
    · cases h
      exact hs.installs (s.installs_probeInstall _ _ _)
    · cases h
  · rename_i v hstage
    obtain ⟨outcomes, hinstalled, hfits⟩ := hs.validating v hstage
    obtain ⟨d, hd, rfl⟩ := Option.map_eq_some_iff.mp h
    unfold SoftwareState.probeValidation
    split
    · rename_i hverdict
      obtain ⟨result, hanswer, hzero⟩ := probeVerdict_present hverdict
      exact hs.validates hinstalled (hfits.finds hd (hc v d hstage hd result hanswer hzero))
    · obtain ⟨app, probe, rest⟩ := d
      cases rest with
      | nil => exact hs.validates hinstalled hfits.fails
      | cons probe' rest => exact hs.validates hinstalled (hfits.next hd)
    · exact hs.idle
  · cases h

theorem endValidation (hs : ValidationInv s) (h : s.endValidation = some s') :
    ValidationInv s' := by
  unfold SoftwareState.endValidation at h
  split at h
  · rename_i v hstage
    obtain ⟨outcomes, hinstalled, hfits⟩ := hs.validating v hstage
    split at h
    · rename_i hfree hrest
      cases h
      refine ⟨fun v hv => (by cases hv), fun found hf => ⟨outcomes, hinstalled, ?_⟩⟩
      simp only [Option.ite_none_right_eq_some, Option.some.injEq] at hf
      obtain ⟨hclear, rfl⟩ := hf
      refine ⟨fun o ho => ?_, hfits.found⟩
      rcases hfits.covers hclear o ho with hname | ⟨d, hd, -⟩ | ⟨app, happ, hnamed⟩
      · simp [hrest] at hname
      · simp [hfree] at hd
      · exact ⟨app, happ, hfits.names o ho app hnamed⟩
    · cases h
  · cases h

theorem guestChanges {guest : List GuestCommand} (hs : ValidationInv s)
    (hc : KeepsFound s (.guestChanges guest)) : ValidationInv { s with guest } where
  validating v hv := by
    obtain ⟨outcomes, hinstalled, hfits⟩ := hs.validating v hv
    refine ⟨outcomes, hinstalled, hfits.names, hfits.covers, hfits.probes, fun app happ => ?_⟩
    refine hc app ?_ (hfits.found app happ)
    simp only [SoftwareState.found]
    rw [show s.stage = .validating v from hv]
    exact List.mem_append_left _ happ
  validated found hf := by
    obtain ⟨outcomes, hinstalled, hall, hthere⟩ := hs.validated found hf
    refine ⟨outcomes, hinstalled, hall, fun app happ => ?_⟩
    refine hc app (List.mem_append_right _ ?_) (hthere app happ)
    rw [show s.validated = some found from hf]
    exact happ

theorem step {e : SoftwareAction} (ho : OrderInv s) (hs : ValidationInv s) (hc : KeepsFound s e)
    (h : s.step e = some s') : ValidationInv s' := by
  -- nothing is validated before it is installed
  have hnot : s.installed = none → s.validated = none := fun hnone => by
    by_contra hsome
    have := ho.validated (Option.isSome_iff_ne_none.mpr hsome)
    simp [hnone] at this
  cases e with
  | editCatalog catalog =>
    cases h
    exact ⟨hs.validating, hs.validated⟩
  | guestChanges guest =>
    cases h
    exact hs.guestChanges hc
  | resolveDependencies =>
    simp only [SoftwareState.step, SoftwareState.resolveDependencies] at h
    split at h
    · cases h
    · split at h
      · cases h
        exact ⟨hs.validating, hs.validated⟩
      · cases h
        exact hs
  | beginInstall =>
    simp only [SoftwareState.step, SoftwareState.beginInstall] at h
    split at h
    · rename_i r hidle hr hnone
      split at h
      · cases h
        refine ⟨fun v hv => (by simp [hidle] at hv), fun found hf => ?_⟩
        simp [hnot hnone] at hf
      · cases h
        exact ⟨fun v hv => (by cases hv), hs.validated⟩
    · cases h
  | takeEntry => exact hs.installs (SoftwareState.installs_takeEntry h)
  | probe answer => exact hs.probe hc h
  | installerReturns answer => exact hs.installs (SoftwareState.installs_installerReturns h)
  | endInstall =>
    simp only [SoftwareState.step, SoftwareState.endInstall] at h
    split at h
    · rename_i a hstage
      split at h
      · cases h
        refine ⟨fun v hv => (by cases hv), fun found hf => ?_⟩
        simp [hnot (ho.attempt a hstage).1] at hf
      · cases h
    · cases h
  | beginValidation => exact hs.beginValidation hc h
  | takeName => exact hs.takeName h
  | endValidation => exact hs.endValidation h
  | abort =>
    cases h
    exact hs.idle

end ValidationInv

/-- **A validated job has what it needs**: whatever the attempts before it went through, a
finished `validate_applications` has detected every application that the selection needed when
`resolve_dependencies` read the catalog, and each of them is still there. -/
theorem validated_has_needed {found : List CatalogApplication}
    (hs : (software selected).ReachableUnder KeepsFound s) (hfound : s.validated = some found) :
    ∃ r, s.resolution = some r ∧ ∀ a, r.catalog.Closure selected a →
      ∃ app ∈ found, app.id = a ∧ app.detectedIn s.guest = true := by
  have hi : ValidationInv s := hs.invariant (fun _ h0 => .init h0)
    fun _ _ _ hr hi hc hstep => hi.step (orderInv hr) hc hstep
  obtain ⟨outcomes, hinstalled, hall, hthere⟩ := hi.validated found hfound
  obtain ⟨r, hr, hsettled⟩ := (orderInv hs).installed outcomes hinstalled
  refine ⟨r, hr, fun a ha => ?_⟩
  obtain ⟨o, ho, rfl, -⟩ := hsettled rfl a (r.mem_ids.mpr ha)
  obtain ⟨app, happ, hid⟩ := hall o ho
  exact ⟨app, happ, hid, hthere app happ⟩

end

/-! ## Replays -/

/-- The catalog is not edited, the guest only gains, and it says what it has. -/
def keepsSoftware (s : SoftwareState selected) : SoftwareAction → Bool
  | .editCatalog _ => false
  | .guestChanges guest => s.guest.all (· ∈ guest)
  | .probe (.ok result) =>
    match s.stage with
    | .installing a =>
      match a.phase with
      | .detecting d => d.probe ∉ s.guest || result.exitCode ∉ detectionAbsentExitCodes
      | _ => true
    | .validating v => v.detecting.all fun d => d.probe ∈ s.guest || result.exitCode ≠ 0
    | .idle => true
  | .installerReturns _ =>
    match s.stage with
    | .installing a =>
      match a.phase with
      | .installing app _ => s.rows.all fun row => row.id ≠ app.id || row.detectedIn s.guest
      | _ => true
    | _ => true
  | .beginValidation =>
    (s.installed.getD []).all fun o =>
      (appsByName s.catalog.apps o.name).all fun app => app.id = o.appId
  | _ => true

theorem keepsDetected_of_keepsSoftware {s : SoftwareState selected} {e : SoftwareAction}
    (h : keepsSoftware s e = true) : KeepsDetected s e := by
  cases e with
  | editCatalog catalog => cases h
  | guestChanges guest =>
    intro app _ _ probe _ hguest
    simpa using List.all_eq_true.mp h probe hguest
  | probe answer =>
    rintro a d hstage hphase hguest result rfl
    simpa [keepsSoftware, hstage, hphase, hguest] using h
  | installerReturns answer =>
    rintro a app program result hstage hphase rfl hstatus row hrow hid
    simp only [keepsSoftware, hstage, hphase] at h
    simpa [hid] using List.all_eq_true.mp h row hrow
  | _ => trivial

theorem keepsFound_of_keepsSoftware {s : SoftwareState selected} {e : SoftwareAction}
    (h : keepsSoftware s e = true) : KeepsFound s e := by
  cases e with
  | guestChanges guest =>
    intro app _ hdetected
    obtain ⟨probe, hprobe, hguest⟩ := detectedIn_iff.mp hdetected
    exact detectedIn_iff.mpr ⟨probe, hprobe, by simpa using List.all_eq_true.mp h probe hguest⟩
  | beginValidation =>
    intro outcomes hinstalled o ho app happ
    simp only [keepsSoftware, hinstalled, Option.getD_some, List.all_eq_true] at h
    simpa [happ] using h o ho
  | probe answer =>
    rintro v d hstage hd result rfl hzero
    simpa [keepsSoftware, hstage, hd, hzero] using h
  | _ => trivial

theorem installed_once_retried : ∃ s : SoftwareState ["a1"],
    (software ["a1"]).ReachableUnder KeepsDetected s ∧ s.started.length = 3 ∧
    ∀ t ∈ s.started, t.app.id ∉ t.succeeded := by
  obtain ⟨s, hs, hp⟩ := Machine.exists_reachableUnder_of_run (m := software ["a1"])
    (c := keepsSoftware) selectsEditor_fresh (t := retriedInstallation)
    (p := fun s => s.started.length == 3) (by decide +kernel)
  have hkept := hs.mono fun _ _ => keepsDetected_of_keepsSoftware
  exact ⟨s, hkept, by simpa using hp, installed_once hkept⟩

theorem validated_has_needed_retried : ∃ (s : SoftwareState ["a1"]) (found : _),
    s.validated = some found ∧ found.length = 2 ∧ ∃ r, s.resolution = some r ∧
      ∀ a, r.catalog.Closure ["a1"] a → ∃ app ∈ found, app.id = a ∧ app.detectedIn s.guest := by
  obtain ⟨s, hs, hp⟩ := Machine.exists_reachableUnder_of_run (m := software ["a1"])
    (c := keepsSoftware) selectsEditor_fresh
    (t := retriedInstallation ++ [.beginValidation, .takeName, probeExits 0, .takeName,
      probeExits 0, .endValidation])
    (p := fun s => s.validated.any fun found => found.length == 2) (by decide +kernel)
  have hkept := hs.mono fun _ _ => keepsFound_of_keepsSoftware
  cases hfound : s.validated with
  | none => simp [hfound] at hp
  | some found =>
    rw [hfound] at hp
    exact ⟨s, found, hfound, by simpa using hp, validated_has_needed hkept hfound⟩

end InfraOps
