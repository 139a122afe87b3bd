import InfraOps.Live.Page

/-!
# What the live page has read

Every answer that is cached or on its way was read from two commits, and the cached one shows
them but for the progress and the stage of later events.
-/

namespace InfraOps

/-- A commit changes no fact of the job. -/
structure JobFeed.Sound (f : JobFeed) : Prop where
  wellFormed : f.WellFormed
  facts : ∀ n v, f.valueAt n = some v → v.facts = f.current.facts

variable {technical : Bool} {percent : Nat → Nat → Nat → Nat} {f : JobFeed}

theorem ShownJob.facts_of_step {s s' : ShownJob} {m : Moment} (h : s.step percent m = some s') :
    s'.facts = s.facts := by
  cases m with
  | event e =>
    simp only [ShownJob.step, Option.map_eq_some_iff] at h
    obtain ⟨r, -, rfl⟩ := h
    unfold noticed
    split <;> rfl
  | write w =>
    simp only [ShownJob.step] at h
    unfold written at h
    split at h <;> cases h <;> rfl

theorem JobFeed.Sound.commit (h : f.Sound) {v : ShownJob} (hv : v.facts = f.current.facts)
    (events : List LiveEvent) : JobFeed.Sound (f.commit v events) where
  wellFormed := h.wellFormed.commit v events
  facts := by
    intro n w hw
    change (f.history ++ [v])[n]? = some w at hw
    rcases List.mem_append.mp (List.mem_of_getElem? hw) with hw | hw
    · obtain ⟨k, hk⟩ := List.getElem?_of_mem hw
      exact (h.facts k w hk).trans hv.symm
    · rw [List.mem_singleton.mp hw]
      rfl

theorem JobFeed.Sound.sent (h : f.Sound) (i : Nat) : JobFeed.Sound (f.sent i) where
  wellFormed := h.wellFormed.sent i
  facts := h.facts

theorem JobFeed.Sound.announce (h : f.Sound) {i : Nat} {a : Nat × LiveEvent}
    (ha : f.unsent[i]? = some a) : JobFeed.Sound (f.announce i a) where
  wellFormed := h.wellFormed.announce ha
  facts := h.facts

/-! ## Answers -/

namespace JobView

variable (technical) (f) (v : JobView)

/-- The detail as the server reads it: the job of one commit, the rest of another. -/
structure Exact : Prop where
  le : v.jobAt ≤ v.stepsAt
  read : ∃ first second, f.valueAt v.jobAt = some first ∧ f.valueAt v.stepsAt = some second ∧
    v.detail = { detailOut technical second with job := jobOut first }

/-- The view with another progress and stage. -/
def withProgress (progress : Nat) (stage : Option String) : JobView :=
  { v with
    detail := { v.detail with
      job := { v.detail.job with progress, currentStage := stage } } }

/-- What events leave of the detail as the server reads it. -/
def Read : Prop := ∃ progress stage, (v.withProgress progress stage).Exact technical f

variable {technical f v}

theorem Exact.read_self (h : v.Exact technical f) : v.Read technical f :=
  ⟨v.detail.job.progress, v.detail.job.currentStage, h⟩

theorem Exact.mono {g : JobFeed} (h : v.Exact technical f) (hg : f.ExtendedBy g) :
    v.Exact technical g where
  le := h.le
  read := by
    obtain ⟨first, second, hfirst, hsecond, hdetail⟩ := h.read
    exact ⟨first, second, hg _ _ hfirst, hg _ _ hsecond, hdetail⟩

/-- What was read as of the latest commit is the job. -/
theorem Exact.current (h : v.Exact technical f) (hv : f.version ≤ v.jobAt) :
    v.detail = detailOut technical f.current := by
  obtain ⟨first, second, hfirst, hsecond, hdetail⟩ := h.read
  have hjob : v.jobAt = f.version := Nat.le_antisymm (f.le_version_of_valueAt hfirst) hv
  have hsteps : v.stepsAt = f.version :=
    Nat.le_antisymm (f.le_version_of_valueAt hsecond) (hv.trans h.le)
  rw [hjob, Feed.valueAt_version] at hfirst
  rw [hsteps, Feed.valueAt_version] at hsecond
  cases hfirst
  cases hsecond
  exact hdetail

theorem Read.mono {g : JobFeed} (h : v.Read technical f) (hg : f.ExtendedBy g) :
    v.Read technical g := by
  obtain ⟨progress, stage, h⟩ := h
  exact ⟨progress, stage, h.mono hg⟩

/-- The status of a view is one that was committed. -/
theorem Read.status (h : v.Read technical f) :
    ∃ committed, f.valueAt v.jobAt = some committed ∧
      v.detail.job.status = committed.job.status := by
  obtain ⟨progress, stage, h⟩ := h
  obtain ⟨first, second, hfirst, -, hdetail⟩ := h.read
  refine ⟨first, hfirst, ?_⟩
  exact congrArg (fun d => d.job.status) hdetail

theorem Read.facts (hf : f.Sound) (h : v.Read technical f) :
    v.detail.requestPayload = f.current.facts.requestPayload ∧
      v.detail.legacyRequest = f.current.facts.legacyRequest := by
  obtain ⟨progress, stage, h⟩ := h
  obtain ⟨first, second, -, hsecond, hdetail⟩ := h.read
  have hsame := hf.facts _ _ hsecond
  constructor
  · rw [← hsame]
    exact congrArg JobDetailOut.requestPayload hdetail
  · rw [← hsame]
    exact congrArg JobDetailOut.legacyRequest hdetail

/-- An event overwrites only what events overwrite. -/
theorem Read.withProgress (h : v.Read technical f) (progress : Nat) (stage : Option String) :
    (v.withProgress progress stage).Read technical f := by
  obtain ⟨progress', stage', h⟩ := h
  exact ⟨progress', stage', h⟩

end JobView

namespace JobFeed.Sound

/-- A snapshot over cached data is what the server reads: the rest of the detail never
changes. -/
theorem snapshot_exact (hf : f.Sound) {v : JobView} (hv : v.Read technical f) {n m : Nat}
    (hle : n ≤ m) {first second : ShownJob} (hfirst : f.valueAt n = some first)
    (hsecond : f.valueAt m = some second) :
    JobView.Exact technical f
      { jobAt := n, stepsAt := m,
        detail := { v.detail with
          job := jobOut first, steps := stepsOut technical second } } where
  le := hle
  read := by
    refine ⟨first, second, hfirst, hsecond, ?_⟩
    obtain ⟨hpayload, hlegacy⟩ := hv.facts hf
    have hsame := hf.facts _ _ hsecond
    simp only [detailOut, hpayload, hlegacy, hsame]

end JobFeed.Sound

/-! ## What is on its way -/

/-- The parts of a fetch that the server has answered were committed. -/
def DetailFetch.Read (technical : Bool) (f : JobFeed) : DetailFetch → Prop
  | .asked _ => True
  | .jobRead _ n job => ∃ first, f.valueAt n = some first ∧ job = jobOut first
  | .answered _ n m detail => JobView.Exact technical f { jobAt := n, stepsAt := m, detail }

/-- The parts of a snapshot that were read were committed. -/
def PhaseRead (technical : Bool) (f : JobFeed) : ReadPhase JobOut (List JobStepOut) → Prop
  | .fresh => True
  | .reading n job => ∃ first, f.valueAt n = some first ∧ job = jobOut first
  | .sent n job m steps => n ≤ m ∧ ∃ first second, f.valueAt n = some first ∧
      f.valueAt m = some second ∧ job = jobOut first ∧ steps = stepsOut technical second
  | .shown _ => True

theorem DetailFetch.Read.mono {g : JobFeed} {r : DetailFetch} (h : r.Read technical f)
    (hg : f.ExtendedBy g) : r.Read technical g := by
  cases r with
  | asked _ => trivial
  | jobRead _ n job =>
    obtain ⟨first, hfirst, rfl⟩ := h
    exact ⟨first, hg _ _ hfirst, rfl⟩
  | answered _ n m detail => exact JobView.Exact.mono h hg

theorem PhaseRead.mono {g : JobFeed} {phase : ReadPhase JobOut (List JobStepOut)}
    (h : PhaseRead technical f phase) (hg : f.ExtendedBy g) :
    PhaseRead technical g phase := by
  cases phase with
  | fresh | shown n => trivial
  | reading n job =>
    obtain ⟨first, hfirst, rfl⟩ := h
    exact ⟨first, hg _ _ hfirst, rfl⟩
  | sent n job m steps =>
    obtain ⟨hle, first, second, hfirst, hsecond, hjob, hsteps⟩ := h
    exact ⟨hle, first, second, hg _ _ hfirst, hg _ _ hsecond, hjob, hsteps⟩

end InfraOps
