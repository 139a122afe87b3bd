import InfraOps.Live.Delivery

/-!
# A settled page shows the job

No interleaving of the job's run, of the publications, of broken connections and of queries
lets a page that listens and waits for nothing miss a change that was announced, but for an
answer that was asked for before the snapshot and arrives after it.
-/

namespace InfraOps

variable {technical : Bool} {percent : Nat → Nat → Nat → Nat}

namespace LiveJob

variable {s s' : LiveJob}

/-! ## The steps of the server on an open stream -/

section Stream

variable {b b' : JobBridge}

theorem Inv.snapshotJob (h : s.Inv technical) (hc : s.page.connection = .streaming b)
    (hb : b.readFirst s.feed.version (jobOut s.feed.current) = some b') :
    (s.onBridge b').Inv technical := by
  have hsound := (h.page.bridge b hc).1.readFirst h.feed.wellFormed hb
  unfold Bridge.readFirst at hb
  split at hb
  · cases hb
    exact h.onBridge hc hsound ⟨s.feed.current, s.feed.valueAt_version, rfl⟩ rfl
      fun hs => by cases hs
  · cases hb

theorem Inv.snapshotSteps (h : s.Inv technical) (hc : s.page.connection = .streaming b)
    (hb : b.readSecond s.feed.version (stepsOut technical s.feed.current) = some b') :
    (s.onBridge b').Inv technical := by
  obtain ⟨hsound, hphase⟩ := h.page.bridge b hc
  have hsound' := hsound.readSecond hb
  unfold Bridge.readSecond at hb
  split at hb
  · rename_i n job hreading
    cases hb
    rw [hreading] at hphase
    obtain ⟨first, hfirst, rfl⟩ := hphase
    refine h.onBridge hc hsound' ?_ rfl fun hs => by cases hs
    exact ⟨s.feed.le_version_of_valueAt hfirst, first, s.feed.current, hfirst,
      s.feed.valueAt_version, rfl, rfl⟩
  · cases hb

theorem Inv.forward (h : s.Inv technical) (hc : s.page.connection = .streaming b)
    (hb : b.forward = some b') : (s.onBridge b').Inv technical := by
  obtain ⟨hsound, hphase⟩ := h.page.bridge b hc
  have hsound' := hsound.forward hb
  unfold Bridge.forward at hb
  split at hb
  · split at hb
    · cases hb
      exact h.onBridge hc hsound' hphase rfl id
    · cases hb
  · cases hb

theorem Inv.deadline (h : s.Inv technical) (hc : s.page.connection = .streaming b)
    (hb : b.finish = some b') : (s.onBridge b').Inv technical := by
  obtain ⟨hsound, hphase⟩ := h.page.bridge b hc
  have hsound' := hsound.finish hb
  unfold Bridge.finish at hb
  split at hb
  · cases hb
    exact h.onBridge hc hsound' hphase rfl id
  · cases hb

end Stream

theorem Inv.fetchFailed (h : s.Inv technical) (hs : s.fetchFailed = some s') :
    s'.Inv technical := by
  obtain ⟨r, -, rfl⟩ := Option.map_eq_some_iff.mp hs
  refine ⟨h.feed, ?_, ?_⟩
  · show JobPage.Tracks technical s.feed (if r.repeated then _ else _)
    split
    · exact h.page.fetchFailed
    · exact h.page.asks true
  · show JobPage.Kept (if r.repeated then _ else _)
    split
    · exact h.kept.same rfl rfl
    · exact h.kept.same rfl rfl

theorem Inv.polled (h : s.Inv technical) :
    (s.onPage (match s.page.fetch with
      | some _ => s.page
      | none => { s.page with fetch := some (.asked false) })).Inv technical := by
  cases s.page.fetch with
  | some r => exact h
  | none => exact ⟨h.feed, h.page.asks false, h.kept.same rfl rfl⟩

/-! ## Every run -/

/-- **The step lemma.** -/
theorem Inv.step {a : LiveAction} (h : s.Inv technical)
    (hs : s.step technical percent a = some s') : s'.Inv technical := by
  cases a with
  | commit m => exact h.committed hs
  | publish i taken => exact h.published hs
  | subscribe =>
    simp only [LiveJob.step] at hs
    split at hs
    · rename_i hc
      cases hs
      refine ⟨h.feed, ?_, h.kept.reconnected (by rw [hc]; simp) (fun hx => by cases hx) rfl⟩
      exact {
        view := h.page.view
        fetch := h.page.fetch
        bridge := by
          intro b hb
          cases hb
          exact ⟨.fresh, trivial⟩
        heard := by
          intro b hb c hc
          cases hb
          cases hc
        exact := by
          intro b hb hshows
          cases hb
          cases hshows }
    · cases hs
  | snapshotJob =>
    simp only [LiveJob.step, Option.map_eq_some_iff, Option.bind_eq_some_iff] at hs
    obtain ⟨b', ⟨b, hb, hr⟩, rfl⟩ := hs
    exact h.snapshotJob (bridge?_eq_some hb) hr
  | snapshotSteps =>
    simp only [LiveJob.step, Option.map_eq_some_iff, Option.bind_eq_some_iff] at hs
    obtain ⟨b', ⟨b, hb, hr⟩, rfl⟩ := hs
    exact h.snapshotSteps (bridge?_eq_some hb) hr
  | forward =>
    simp only [LiveJob.step, Option.map_eq_some_iff, Option.bind_eq_some_iff] at hs
    obtain ⟨b', ⟨b, hb, hr⟩, rfl⟩ := hs
    exact h.forward (bridge?_eq_some hb) hr
  | deadline =>
    simp only [LiveJob.step, Option.map_eq_some_iff, Option.bind_eq_some_iff] at hs
    obtain ⟨b', ⟨b, hb, hr⟩, rfl⟩ := hs
    exact h.deadline (bridge?_eq_some hb) hr
  | ticket =>
    simp only [LiveJob.step] at hs
    split at hs
    · rename_i hc
      cases hs
      exact h.reconnected rfl rfl rfl (by rw [hc]; simp) (fun hx => by cases hx)
        fun b hb => by cases hb
    · cases hs
  | ticketFails =>
    simp only [LiveJob.step] at hs
    split at hs
    · rename_i hc
      cases hs
      exact h.scheduleReconnect false (by rw [hc]; simp)
    · cases hs
  | connectionFails =>
    simp only [LiveJob.step] at hs
    split at hs
    · rename_i hc
      cases hs
      exact h.scheduleReconnect false (by rw [hc]; simp)
    · rename_i b hc
      cases hs
      exact h.scheduleReconnect false (by rw [hc]; simp)
    · cases hs
  | reconnect =>
    simp only [LiveJob.step] at hs
    split at hs
    · rename_i delay hc
      cases hs
      exact h.reconnected rfl rfl rfl (by rw [hc]; simp) (fun hx => by cases hx)
        fun b hb => by cases hb
    · cases hs
  | onSnapshot =>
    obtain ⟨b, hb, hr⟩ := Option.bind_eq_some_iff.mp hs
    exact h.receiveSnapshot (bridge?_eq_some hb) hr
  | onUpdate =>
    obtain ⟨b, hb, hr⟩ := Option.bind_eq_some_iff.mp hs
    exact h.receiveUpdate (bridge?_eq_some hb) hr
  | onReauthenticate =>
    obtain ⟨b, hb, hr⟩ := Option.bind_eq_some_iff.mp hs
    split at hr
    · cases hr
      exact h.scheduleReconnect true (by rw [bridge?_eq_some hb]; simp)
    · cases hr
  | visit stale =>
    cases hs
    exact h.visited stale
  | leave =>
    cases hs
    exact ⟨h.feed, (h.page.mounted false).drawn, JobPage.kept_drawn _⟩
  | refetch =>
    simp only [LiveJob.step] at hs
    split at hs
    · cases hs
      refine ⟨h.feed, h.page.refetch h.kept, ?_⟩
      show JobPage.Kept (JobPage.invalidate { s.page with refetchTimer := false })
      unfold JobPage.invalidate
      split <;> exact h.kept.same rfl rfl
    · cases hs
  | poll =>
    simp only [LiveJob.step] at hs
    split at hs
    · cases hs
      exact h.polled
    · cases hs
  | acted =>
    simp only [LiveJob.step] at hs
    split at hs
    · cases hs
      exact ⟨h.feed, h.page.invalidate, h.kept_invalidate⟩
    · cases hs
  | fetchJob =>
    simp only [LiveJob.step, fetchReadsJob] at hs
    split at hs
    · cases hs
      exact ⟨h.feed, h.page.fetchReadsJob h.feed, h.kept.same rfl rfl⟩
    · cases hs
  | fetchSteps =>
    simp only [LiveJob.step, fetchReadsSteps] at hs
    split at hs
    · rename_i hfetch
      cases hs
      exact ⟨h.feed, h.page.fetchReadsSteps hfetch, h.kept.same rfl rfl⟩
    · cases hs
  | fetchArrives =>
    simp only [LiveJob.step, fetchArrived] at hs
    split at hs
    · rename_i hfetch
      cases hs
      exact ⟨h.feed, h.page.fetchArrived hfetch, JobPage.kept_drawn _⟩
    · cases hs
  | fetchFails => exact h.fetchFailed hs

theorem Inv.init (h : (liveJob technical percent).init s) : s.Inv technical := by
  obtain ⟨-, hpast, hunsent, hannounced, hpage⟩ := h
  refine ⟨⟨⟨?_, ?_⟩, ?_⟩, ?_, ?_⟩
  · rw [hunsent]
    intro a ha
    cases ha
  · rw [hannounced]
    intro n hn
    cases hn
  · intro n v hv
    have hmem := List.mem_of_getElem? hv
    rw [Feed.history, hpast] at hmem
    rw [List.mem_singleton.mp hmem]
  · rw [hpage]
    exact {
      view := fun v hv => by cases hv
      fetch := fun r hr => by cases hr
      bridge := fun b hb => by cases hb
      heard := fun b hb => by cases hb
      exact := fun b hb => by cases hb }
  · rw [hpage]
    exact iff_of_false (fun hc => hc rfl) (by simp [JobPage.listens])

theorem inv_of_reachable (h : (liveJob technical percent).Reachable s) : s.Inv technical :=
  h.invariant (fun _ => Inv.init) fun _ _ _ _ hi _ hs => hi.step hs

/-! ## What follows -/

theorem Inv.covers (h : s.Inv technical) {b : JobBridge}
    (hb : s.page.connection = .streaming b) (hended : b.ended = false) {n : Nat}
    (hn : b.phase.startedAt = some n) {c : Nat} (hc : c ∈ s.feed.announced) :
    c ≤ n ∨ b.Pending c ∨ s.page.refetchTimer = true ∨ s.page.WillShow c := by
  rcases (h.page.bridge b hb).1.covers hended n hn c hc with hle | hp | hr
  · exact .inl hle
  · exact .inr (.inl hp)
  · exact .inr (.inr (h.page.heard b hb c hr))

/-- **Nothing announced is lost on a stream**: from the moment its snapshot is read, every
commit announced before or since is in the snapshot, on its way to the page, or going to be
shown by a refetch. -/
theorem stream_loses_nothing (h : (liveJob technical percent).Reachable s) {b : JobBridge}
    (hb : s.page.connection = .streaming b) (hended : b.ended = false) {n : Nat}
    (hn : b.phase.startedAt = some n) :
    ∀ c ∈ s.feed.announced,
      c ≤ n ∨ b.Pending c ∨ s.page.refetchTimer = true ∨ s.page.WillShow c :=
  fun _ hc => (inv_of_reachable h).covers hb hended hn hc

structure Settled (s : LiveJob) (n : Nat) (b : JobBridge) : Prop where
  connection : s.page.connection = .streaming b
  phase : b.phase = .shown n
  buffer : b.buffer = []
  wire : b.wire = []
  ended : b.ended = false
  refetchTimer : s.page.refetchTimer = false
  fetch : s.page.fetch = none
  failed : s.page.failed = false

/-- On a settled page every announced commit is in the snapshot or in what is shown. -/
theorem Settled.covered {n : Nat} {b : JobBridge} (h : s.Settled n b)
    (hr : (liveJob technical percent).Reachable s) {v : JobView} (hv : s.page.view = some v)
    {c : Nat} (hc : c ∈ s.feed.announced) : c ≤ n ∨ c ≤ v.jobAt := by
  have hn : b.phase.startedAt = some n := by
    rw [h.phase]
    rfl
  rcases (inv_of_reachable hr).covers h.connection h.ended hn hc with hle | hp | ht | hw
  · exact .inl hle
  · obtain ⟨a, ha, -⟩ | ⟨a, ha, -⟩ := hp
    · rw [h.buffer] at ha
      cases ha
    · rw [h.wire] at ha
      cases ha
  · rw [h.refetchTimer] at ht
    cases ht
  · rw [JobPage.WillShow, h.fetch] at hw
    rcases hw with hf | hw
    · rw [h.failed] at hf
      cases hf
    · exact .inr (hw v hv)

theorem Settled.exact {n : Nat} {b : JobBridge} (h : s.Settled n b)
    (hr : (liveJob technical percent).Reachable s) {v : JobView} (hv : s.page.view = some v) :
    v.Exact technical s.feed := by
  have hshows : b.phase.shows = true := by
    rw [h.phase]
    rfl
  rcases (inv_of_reachable hr).page.exact b h.connection hshows v hv with he | ht | hf | hf
  · exact he
  · rw [h.refetchTimer] at ht
    cases ht
  · rw [h.fetch] at hf
    cases hf
  · rw [h.failed] at hf
    cases hf

/-- **The page shows what was committed.** Events change its progress and its stage only; and
a page that is open has an event source exactly while the job it read was queued or running. -/
theorem page_shows_commits (h : (liveJob technical percent).Reachable s) {v : JobView}
    (hv : s.page.view = some v) :
    v.Read technical s.feed ∧
      ∃ committed, s.feed.valueAt v.jobAt = some committed ∧
        v.detail.job.status = committed.job.status ∧
        (s.page.connection ≠ .off ↔ s.page.mounted = true ∧
          (committed.job.status = .running ∨ committed.job.status = .queued)) := by
  have hinv := inv_of_reachable h
  have hread := hinv.page.view v hv
  obtain ⟨committed, hcommitted, hstatus⟩ := hread.status
  refine ⟨hread, committed, hcommitted, hstatus, ?_⟩
  refine Iff.trans hinv.kept ?_
  rw [JobPage.listens, JobPage.active, hv, ← hstatus]
  simp [JobView.active]

/-! ## A replay -/

/-- The page is opened and its stream shows the snapshot. -/
def opensStream : List LiveAction :=
  [.visit true, .fetchJob, .fetchSteps, .fetchArrives, .ticket, .subscribe, .snapshotJob,
    .snapshotSteps, .onSnapshot]

/-- A worker claims the job, and a user asks to cancel it. -/
def cancelsRunning : List LiveAction :=
  [.commit (.event ⟨0, .claim 1⟩), .commit (.event ⟨1, .cancel⟩)]

def pageOpened : LiveJob where
  feed := { current := { toRunState := .submitted "j1" { vmName := "web01" },
                         facts := { stepId := Stage.key } } }

theorem pageOpened_init : (liveJob technical percent).init pageOpened :=
  ⟨RunState.submitted_spec "j1" { vmName := "web01" }, rfl, rfl, rfl, rfl⟩

theorem stream_loses_nothing_replay :
    ∃ s b, (liveJob false fun _ _ _ => 0).Reachable s ∧ s.page.connection = .streaming b ∧
      ∀ c ∈ s.feed.announced,
        c ≤ 0 ∨ b.Pending c ∨ s.page.refetchTimer = true ∨ s.page.WillShow c := by
  obtain ⟨s, hs, hp⟩ := Machine.exists_reachable_of_run (m := liveJob false fun _ _ _ => 0)
    (t := opensStream ++ cancelsRunning ++ [.publish 0 true])
    (p := fun s => s.bridge?.any fun b => b.phase.startedAt = some 0 && !b.ended)
    pageOpened_init (by decide)
  obtain ⟨b, hb, hall⟩ := (Option.any_eq_true _ _).mp hp
  simp only [Bool.and_eq_true, Bool.not_eq_true', decide_eq_true_eq] at hall
  exact ⟨s, b, hs, bridge?_eq_some hb,
    stream_loses_nothing hs (bridge?_eq_some hb) hall.2 hall.1⟩

theorem page_shows_commits_replay :
    ∃ s v, (liveJob false fun _ _ _ => 0).Reachable s ∧ s.page.view = some v ∧
      v.Read false s.feed ∧
      ∃ committed, s.feed.valueAt v.jobAt = some committed ∧
        v.detail.job.status = committed.job.status ∧
        (s.page.connection ≠ .off ↔ s.page.mounted = true ∧
          (committed.job.status = .running ∨ committed.job.status = .queued)) := by
  obtain ⟨s, hs, hp⟩ := Machine.exists_reachable_of_run (m := liveJob false fun _ _ _ => 0)
    (t := opensStream) (p := fun s => s.page.view.isSome) pageOpened_init (by decide)
  obtain ⟨v, hv⟩ := Option.isSome_iff_exists.mp hp
  exact ⟨s, v, hs, hv, page_shows_commits hs hv⟩

end LiveJob

end InfraOps
