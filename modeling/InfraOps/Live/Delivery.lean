import InfraOps.Live.Reads

/-!
# What the live page is told

Over every interleaving of the commits, the publications, the queries of the server and the
page: an announced commit that the open stream does not owe the page any more is shown, or a
refetch that will show it is armed or under way.
-/

namespace InfraOps

variable {technical : Bool} {percent : Nat → Nat → Nat → Nat} {f : JobFeed}

/-! ## The page -/

namespace JobPage

variable {p : JobPage}

/-- The fetch under way, or else the cached answer, shows the commit `c`. -/
def WillShow (p : JobPage) (c : Nat) : Prop :=
  match p.fetch with
  | some r => ∀ n, r.jobAt = some n → c ≤ n
  | none => p.failed = true ∨ ∀ v, p.view = some v → c ≤ v.jobAt

variable (technical f p) in
/-- What the page shows was read, and what the open stream told it is shown or will be. -/
structure Tracks : Prop where
  view : ∀ v, p.view = some v → v.Read technical f
  fetch : ∀ r, p.fetch = some r → r.Read technical f
  bridge : ∀ b, p.connection = .streaming b → b.Sound f ∧ PhaseRead technical f b.phase
  heard : ∀ b, p.connection = .streaming b → ∀ c ∈ b.received,
    p.refetchTimer = true ∨ p.WillShow c
  exact : ∀ b, p.connection = .streaming b → b.phase.shows = true →
    ∀ v, p.view = some v →
      v.Exact technical f ∨ p.refetchTimer = true ∨ p.fetch.isSome = true ∨ p.failed = true

variable (p) in
/-- The event source is kept exactly while the page listens. -/
def Kept : Prop := p.connection ≠ .off ↔ p.listens = true

theorem Kept.view (h : p.Kept) (hc : p.connection ≠ .off) : ∃ v, p.view = some v := by
  have hl := h.mp hc
  simp only [listens, active, Bool.and_eq_true, Option.any_eq_true] at hl
  obtain ⟨-, v, hv, -⟩ := hl
  exact ⟨v, hv⟩

theorem kept_drawn (p : JobPage) : p.drawn.Kept := by
  unfold drawn
  split
  · rename_i hl
    split
    · exact iff_of_true (by simp) hl
    · rename_i hc
      exact iff_of_true hc hl
  · rename_i hl
    exact iff_of_false (fun hc => hc rfl) hl

/-- Another connection, as long as there is one. -/
theorem Kept.reconnected {q : JobPage} (h : p.Kept) (hc : p.connection ≠ .off)
    (hq : q.connection ≠ .off) (hl : q.listens = p.listens) : q.Kept :=
  iff_of_true hq (hl.trans (h.mp hc))

theorem Kept.same {q : JobPage} (h : p.Kept) (hq : q.connection = p.connection)
    (hl : q.listens = p.listens) : q.Kept := by
  unfold Kept
  rw [hq, hl]
  exact h

/-! ### One change of the page -/

/-- Without an open stream nothing is owed. -/
theorem Tracks.without {q : JobPage} (h : p.Tracks technical f) (hview : q.view = p.view)
    (hfetch : q.fetch = p.fetch) (hc : ∀ b, q.connection ≠ .streaming b) :
    q.Tracks technical f where
  view := hview ▸ h.view
  fetch := hfetch ▸ h.fetch
  bridge := fun b hb => absurd hb (hc b)
  heard := fun b hb => absurd hb (hc b)
  exact := fun b hb => absurd hb (hc b)

theorem Tracks.drawn (h : p.Tracks technical f) : p.drawn.Tracks technical f := by
  unfold JobPage.drawn
  split
  · split
    · exact h.without rfl rfl fun b hb => by cases hb
    · exact h
  · exact h.without rfl rfl fun b hb => by cases hb

/-- The page itself is not among what is tracked. -/
theorem Tracks.mounted (h : p.Tracks technical f) (mounted : Bool) :
    Tracks technical f { p with mounted } :=
  ⟨h.view, h.fetch, h.bridge, h.heard, h.exact⟩

/-- The stream goes on: it shows no more than before, and the page has received the same. -/
theorem Tracks.streams {b b' : JobBridge} (h : p.Tracks technical f)
    (hb : p.connection = .streaming b) (hsound : b'.Sound f)
    (hread : PhaseRead technical f b'.phase) (hreceived : b'.received = b.received)
    (hshows : b'.phase.shows = true → b.phase.shows = true) :
    Tracks technical f { p with connection := .streaming b' } where
  view := h.view
  fetch := h.fetch
  bridge := by
    intro x hx
    cases hx
    exact ⟨hsound, hread⟩
  heard := by
    intro x hx
    cases hx
    rw [hreceived]
    exact h.heard b hb
  exact := by
    intro x hx hs
    cases hx
    exact h.exact b hb (hshows hs)

theorem Tracks.asks (h : p.Tracks technical f) (repeated : Bool) :
    Tracks technical f { p with fetch := some (.asked repeated) } where
  view := h.view
  fetch := by
    intro r hr
    cases hr
    trivial
  bridge := h.bridge
  heard := by
    intro b _ c _
    right
    intro n hn
    cases hn
  exact := fun _ _ _ _ _ => .inr (.inr (.inl rfl))

theorem Tracks.invalidate (h : p.Tracks technical f) : p.invalidate.Tracks technical f := by
  unfold JobPage.invalidate
  split
  · exact h
  · exact h.asks false

/-- The debounced refetch: the timer gives way to a fetch that has read nothing yet. -/
theorem Tracks.refetch (h : p.Tracks technical f) (hp : p.Kept) :
    ({ p with refetchTimer := false } : JobPage).invalidate.Tracks technical f := by
  by_cases hc : p.connection = .off
  · refine Tracks.invalidate (h.without rfl rfl ?_)
    intro b hb
    exact absurd (hc.symm.trans hb) (by simp)
  · obtain ⟨v, hv⟩ := hp.view hc
    have hasks : ({ p with refetchTimer := false } : JobPage).invalidate =
        { p with refetchTimer := false, fetch := some (.asked false) } := by
      simp [JobPage.invalidate, hv]
    rw [hasks]
    have h' := h.asks false
    exact {
      view := h'.view
      fetch := h'.fetch
      bridge := h'.bridge
      heard := by
        intro b _ c _
        right
        intro n hn
        cases hn
      exact := fun _ _ _ _ _ => .inr (.inr (.inl rfl)) }

/-- The server reads the job for the fetch, and with it everything announced so far. -/
theorem Tracks.fetchReadsJob (h : p.Tracks technical f) (hf : f.Sound) {repeated : Bool} :
    Tracks technical f
      { p with fetch := some (.jobRead repeated f.version (jobOut f.current)) } where
  view := h.view
  fetch := by
    intro r hr
    cases hr
    exact ⟨f.current, f.valueAt_version, rfl⟩
  bridge := h.bridge
  heard := by
    intro b hb c hc
    right
    intro n hn
    obtain rfl : f.version = n := Option.some.inj hn
    exact hf.wellFormed.announced c ((h.bridge b hb).1.received c hc)
  exact := fun _ _ _ _ _ => .inr (.inr (.inl rfl))

theorem Tracks.fetchReadsSteps (h : p.Tracks technical f) {repeated : Bool} {n : Nat}
    {job : JobOut} (hp : p.fetch = some (.jobRead repeated n job)) :
    Tracks technical f { p with
      fetch := some (.answered repeated n f.version
        { detailOut technical f.current with job }) } where
  view := h.view
  fetch := by
    intro r hr
    cases hr
    obtain ⟨first, hfirst, rfl⟩ := h.fetch _ hp
    exact {
      le := f.le_version_of_valueAt hfirst
      read := ⟨first, f.current, hfirst, f.valueAt_version, rfl⟩ }
  bridge := h.bridge
  heard := by
    intro b hb c hc
    refine (h.heard b hb c hc).imp_right ?_
    intro hw k hk
    rw [WillShow, hp] at hw
    exact hw k hk
  exact := fun _ _ _ _ _ => .inr (.inr (.inl rfl))

/-- An answer arrives: what the fetch would show is shown. -/
theorem Tracks.fetchArrived (h : p.Tracks technical f) {repeated : Bool} {n m : Nat}
    {detail : JobDetailOut} (hp : p.fetch = some (.answered repeated n m detail)) :
    (({ p with fetch := none } : JobPage).shows
      { jobAt := n, stepsAt := m, detail }).Tracks technical f := by
  have hexact : JobView.Exact technical f { jobAt := n, stepsAt := m, detail } :=
    h.fetch _ hp
  refine Tracks.drawn ?_
  exact {
    view := by
      intro v hv
      cases hv
      exact hexact.read_self
    fetch := by
      intro r hr
      cases hr
    bridge := h.bridge
    heard := by
      intro b hb c hc
      refine (h.heard b hb c hc).imp_right ?_
      intro hw
      right
      intro v hv
      cases hv
      rw [WillShow, hp] at hw
      exact hw n rfl
    exact := by
      intro _ _ _ v hv
      cases hv
      exact .inl hexact }

theorem Tracks.fetchFailed (h : p.Tracks technical f) :
    Tracks technical f { p with fetch := none, failed := true } where
  view := h.view
  fetch := by
    intro r hr
    cases hr
  bridge := h.bridge
  heard := fun _ _ _ _ => .inr (.inl rfl)
  exact := fun _ _ _ _ _ => .inr (.inr (.inr rfl))

/-- The snapshot comes before anything else on its stream. -/
theorem Tracks.snapshot (h : p.Tracks technical f) (hf : f.Sound) {b b' : JobBridge}
    {n m : Nat} {job : JobOut} {steps : List JobStepOut} (hc : p.connection = .streaming b)
    (hb : b.receiveSnapshot = some ((n, job, m, steps), b')) :
    (({ p with connection := .streaming b', attempt := 0 } : JobPage).applySnapshot n job m
      steps).Tracks technical f := by
  obtain ⟨hsound, hphase⟩ := h.bridge b hc
  have hsound' := hsound.receiveSnapshot hb
  unfold Bridge.receiveSnapshot at hb
  split at hb
  · rename_i k first l second hsent
    cases hb
    rw [hsent] at hphase
    obtain ⟨hle, first, second, hfirst, hsecond, rfl, rfl⟩ := hphase
    have hnone : b.received = [] := hsound.first (by rw [hsent]; rfl)
    have hheard : ∀ c ∈ b.received, False := by
      rw [hnone]
      intro c hc
      cases hc
    unfold applySnapshot
    split
    · rename_i existing hexisting
      have hexact := hf.snapshot_exact (h.view existing hexisting) hle hfirst hsecond
      refine Tracks.drawn ?_
      exact {
        view := by
          intro v hv
          cases hv
          exact hexact.read_self
        fetch := h.fetch
        bridge := by
          intro x hx
          cases hx
          exact ⟨hsound', trivial⟩
        heard := by
          intro x hx c hc
          cases hx
          exact (hheard c hc).elim
        exact := by
          intro _ _ _ v hv
          cases hv
          exact .inl hexact }
    · rename_i hview
      refine Tracks.invalidate ?_
      exact {
        view := h.view
        fetch := h.fetch
        bridge := by
          intro x hx
          cases hx
          exact ⟨hsound', trivial⟩
        heard := by
          intro x hx c hc
          cases hx
          exact (hheard c hc).elim
        exact := by
          intro _ _ _ v hv
          exact absurd (hview.symm.trans hv) (by simp) }
  · cases hb

/-- Drawing the page and arming the timer is drawing the page with the timer armed. -/
theorem Tracks.drawn_scheduleRefetch
    (h : Tracks technical f { p with refetchTimer := true }) :
    p.drawn.scheduleRefetch.Tracks technical f := by
  unfold JobPage.drawn
  split
  · split
    · exact h.without rfl rfl fun b hb => by cases hb
    · rename_i hc
      unfold JobPage.scheduleRefetch
      split
      · rename_i hoff
        exact absurd hoff hc
      · exact h
  · exact h.without rfl rfl fun b hb => by cases hb

/-- An event arrives: the refetch it schedules will show its commit. -/
theorem Tracks.update (h : p.Tracks technical f) {b b' : JobBridge} {a : Nat × LiveEvent}
    (hc : p.connection = .streaming b) (hb : b.receiveUpdate = some (a, b')) :
    (({ p with connection := .streaming b' } : JobPage).applyProgressEvent
      a.2).scheduleRefetch.Tracks technical f := by
  obtain ⟨hsound, hphase⟩ := h.bridge b hc
  have hsound' := hsound.receiveUpdate hb
  have hread : PhaseRead technical f b'.phase := by
    unfold Bridge.receiveUpdate at hb
    split at hb
    · cases hb
      exact hphase
    · cases hb
  have htracks : ∀ view, (∀ v, view = some v → v.Read technical f) →
      Tracks technical f
        { p with connection := .streaming b', view, failed := false, refetchTimer := true } := by
    intro view hview
    exact {
      view := hview
      fetch := h.fetch
      bridge := by
        intro x hx
        cases hx
        exact ⟨hsound', hread⟩
      heard := fun _ _ _ _ => .inl rfl
      exact := fun _ _ _ _ _ => .inr (.inl rfl) }
  unfold applyProgressEvent
  split
  · rename_i existing hexisting
    refine Tracks.drawn_scheduleRefetch (htracks _ ?_)
    intro v hv
    cases hv
    exact (h.view existing hexisting).withProgress _ _
  · rename_i hnone
    exact {
      view := h.view
      fetch := h.fetch
      bridge := (htracks p.view h.view).bridge
      heard := fun _ _ _ _ => .inl rfl
      exact := fun _ _ _ _ _ => .inr (.inl rfl) }

/-! ### A change of the feed -/

theorem Tracks.extended {g : JobFeed} (h : p.Tracks technical f) (hg : f.ExtendedBy g)
    (ha : g.announced = f.announced) : p.Tracks technical g where
  view := fun v hv => (h.view v hv).mono hg
  fetch := fun r hr => (h.fetch r hr).mono hg
  bridge := fun b hb => ⟨(h.bridge b hb).1.of_announced ha, (h.bridge b hb).2.mono hg⟩
  heard := h.heard
  exact := fun b hb hs v hv => (h.exact b hb hs v hv).imp_left fun he => he.mono hg

theorem Tracks.announced (h : p.Tracks technical f) (i : Nat) (a : Nat × LiveEvent)
    (hc : ∀ b, p.connection ≠ .streaming b) : p.Tracks technical (f.announce i a) where
  view := fun v hv => (h.view v hv).mono (f.extendedBy_announce i a)
  fetch := fun r hr => (h.fetch r hr).mono (f.extendedBy_announce i a)
  bridge := fun b hb => absurd hb (hc b)
  heard := fun b hb => absurd hb (hc b)
  exact := fun b hb => absurd hb (hc b)

theorem Tracks.offered (h : p.Tracks technical f) (i : Nat) (a : Nat × LiveEvent)
    {b : JobBridge} (hb : p.connection = .streaming b) :
    Tracks technical (f.announce i a) { p with connection := .streaming (b.offer a) } where
  view := fun v hv => (h.view v hv).mono (f.extendedBy_announce i a)
  fetch := fun r hr => (h.fetch r hr).mono (f.extendedBy_announce i a)
  bridge := by
    intro x hx
    cases hx
    rw [Bridge.phase_offer]
    exact ⟨(h.bridge b hb).1.offer i a, (h.bridge b hb).2.mono (f.extendedBy_announce i a)⟩
  heard := by
    intro x hx
    cases hx
    rw [Bridge.received_offer]
    exact h.heard b hb
  exact := by
    intro x hx hs v hv
    cases hx
    rw [Bridge.phase_offer] at hs
    exact (h.exact b hb hs v hv).imp_left fun he => he.mono (f.extendedBy_announce i a)

end JobPage

/-! ## The system -/

namespace LiveJob

variable {s s' : LiveJob}

variable (technical s) in
structure Inv : Prop where
  feed : s.feed.Sound
  page : s.page.Tracks technical s.feed
  kept : s.page.Kept

theorem bridge?_eq_some {b : JobBridge} (h : s.bridge? = some b) :
    s.page.connection = .streaming b := by
  unfold bridge? at h
  split at h
  · rename_i hc
    cases h
    exact hc
  · cases h

/-- A step of the server on the open stream. -/
theorem Inv.onBridge {b b' : JobBridge} (h : s.Inv technical)
    (hb : s.page.connection = .streaming b) (hsound : b'.Sound s.feed)
    (hread : PhaseRead technical s.feed b'.phase) (hreceived : b'.received = b.received)
    (hshows : b'.phase.shows = true → b.phase.shows = true) :
    (s.onBridge b').Inv technical where
  feed := h.feed
  page := h.page.streams hb hsound hread hreceived hshows
  kept := h.kept.reconnected (by rw [hb]; simp) (fun hc => by cases hc) rfl

/-- A step that ends or replaces the connection. -/
theorem Inv.reconnected {p : JobPage} (h : s.Inv technical) (hview : p.view = s.page.view)
    (hfetch : p.fetch = s.page.fetch) (hmounted : p.mounted = s.page.mounted)
    (hfrom : s.page.connection ≠ .off) (hto : p.connection ≠ .off)
    (hc : ∀ b, p.connection ≠ .streaming b) : (s.onPage p).Inv technical where
  feed := h.feed
  page := h.page.without hview hfetch hc
  kept := by
    refine h.kept.reconnected hfrom hto ?_
    show p.listens = s.page.listens
    rw [JobPage.listens, JobPage.listens, JobPage.active, JobPage.active, hview, hmounted]

theorem Inv.scheduleReconnect (h : s.Inv technical) (immediate : Bool)
    (hc : s.page.connection ≠ .off) :
    (s.onPage (s.page.scheduleReconnect immediate)).Inv technical := by
  have hp : s.page.scheduleReconnect immediate =
      { s.page with
        connection := .waiting (reconnectDelay immediate s.page.attempt)
        attempt := s.page.attempt + 1 } := by
    unfold JobPage.scheduleReconnect
    split
    · exact absurd ‹_› hc
    · rfl
  rw [hp]
  exact h.reconnected rfl rfl rfl hc (fun hx => by cases hx) (fun b hb => by cases hb)

theorem Inv.kept_invalidate (h : s.Inv technical) : s.page.invalidate.Kept := by
  unfold JobPage.invalidate
  split
  · exact h.kept
  · exact h.kept.same rfl rfl

theorem Inv.committed {m : Moment} (h : s.Inv technical)
    (hs : s.committed percent m = some s') : s'.Inv technical := by
  obtain ⟨v, hv, rfl⟩ := Option.map_eq_some_iff.mp hs
  exact {
    feed := h.feed.commit (ShownJob.facts_of_step hv) _
    page := h.page.extended (s.feed.extendedBy_commit v _) rfl
    kept := h.kept }

theorem Inv.published {i : Nat} {taken : Bool} (h : s.Inv technical)
    (hs : s.published i taken = some s') : s'.Inv technical := by
  obtain ⟨a, ha, rfl⟩ := Option.map_eq_some_iff.mp hs
  cases taken with
  | false =>
    exact {
      feed := h.feed.sent i
      page := h.page.extended (s.feed.extendedBy_sent i) rfl
      kept := h.kept }
  | true =>
    cases hc : s.page.connection with
    | streaming b =>
      have hp : s.offered a = { s.page with connection := .streaming (b.offer a) } := by
        simp [LiveJob.offered, hc]
      exact {
        feed := h.feed.announce ha
        page := by
          show (s.offered a).Tracks technical (s.feed.announce i a)
          rw [hp]
          exact h.page.offered i a hc
        kept := by
          show (s.offered a).Kept
          rw [hp]
          exact h.kept.reconnected (by rw [hc]; simp) (fun hx => by cases hx) rfl }
    | off | waiting delay | requestingTicket | opening =>
      have hp : s.offered a = s.page := by simp [LiveJob.offered, hc]
      exact {
        feed := h.feed.announce ha
        page := by
          show (s.offered a).Tracks technical (s.feed.announce i a)
          rw [hp]
          exact h.page.announced i a fun b hb => by
            rw [hc] at hb
            cases hb
        kept := by
          show (s.offered a).Kept
          rw [hp]
          exact h.kept }

theorem Inv.receiveSnapshot {b : JobBridge} (h : s.Inv technical)
    (hb : s.page.connection = .streaming b) (hs : s.receiveSnapshot b = some s') :
    s'.Inv technical := by
  obtain ⟨⟨⟨n, job, m, steps⟩, b'⟩, hr, rfl⟩ := Option.map_eq_some_iff.mp hs
  exact {
    feed := h.feed
    page := h.page.snapshot h.feed hb hr
    kept := by
      show JobPage.Kept (JobPage.applySnapshot _ n job m steps)
      obtain ⟨v, hv⟩ := h.kept.view (by rw [hb]; simp)
      simp only [JobPage.applySnapshot, hv]
      exact JobPage.kept_drawn _ }

theorem Inv.receiveUpdate {b : JobBridge} (h : s.Inv technical)
    (hb : s.page.connection = .streaming b) (hs : s.receiveUpdate b = some s') :
    s'.Inv technical := by
  obtain ⟨⟨a, b'⟩, hr, rfl⟩ := Option.map_eq_some_iff.mp hs
  exact {
    feed := h.feed
    page := h.page.update hb hr
    kept := by
      show JobPage.Kept (JobPage.scheduleRefetch (JobPage.applyProgressEvent _ a.2))
      obtain ⟨v, hv⟩ := h.kept.view (by rw [hb]; simp)
      simp only [JobPage.applyProgressEvent, hv]
      unfold JobPage.scheduleRefetch
      split
      · exact JobPage.kept_drawn _
      · exact (JobPage.kept_drawn _).same rfl rfl }

theorem Inv.visited (h : s.Inv technical) (stale : Bool) :
    (s.visited stale).Inv technical where
  feed := h.feed
  page := by
    refine JobPage.Tracks.drawn ?_
    split
    · exact (h.page.mounted true).asks false
    · exact h.page.mounted true
  kept := JobPage.kept_drawn _

end LiveJob

end InfraOps
