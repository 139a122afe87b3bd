import InfraOps.Support.Machine
import Mathlib.Tactic.Common

/-!
# Idle sign-out

`session.ts` and `useIdleTimeout`, in all tabs of one browser: they share the last activity
in the local storage and one clock, which does not go back. Times are in milliseconds. The
storage works, though it may be cleared at any time.
-/

namespace InfraOps

def writeThrottleMs : Int := 5000

inductive IdleState
  | active
  | warning
  | expired
  deriving DecidableEq

def idleState (now lastActivity timeoutMs warningMs : Int) : IdleState :=
  let idleFor := now - lastActivity
  if timeoutMs + warningMs ≤ idleFor then .expired
  else if timeoutMs ≤ idleFor then .warning
  else .active

/-- `readLastActivity`: a value that is no positive number counts as absent. -/
def readLastActivity (stored : Option Int) (fallback : Int) : Int :=
  match stored with
  | some value => if 0 < value then value else fallback
  | none => fallback

/-- The refs and the state of the hook in one tab, and its arguments while it is enabled. -/
structure IdleTab where
  enabled : Bool := false
  timeoutMs : Int := 300000
  warningMs : Int := 60000
  warning : Bool := false
  secondsLeft : Int := 60
  lastWrite : Int := 0
  expired : Bool := false

/-- A call of `onExpire`, with the last activity that counted in any tab. -/
structure IdleSignOut where
  tab : Nat
  time : Int
  limit : Int
  lastCounted : Option Int
  deriving DecidableEq

/-- `lastCounted`, `starts` and `signOuts` are history. -/
structure IdleBrowser where
  now : Int
  stored : Option Int := none
  tabs : Nat → IdleTab := fun _ => {}
  lastCounted : Option Int := none
  starts : Nat → Nat := fun _ => 0
  signOuts : List IdleSignOut := []

inductive IdleEvent
  | time (now : Int)
  /-- The effect starts, also when the policy has changed. -/
  | enable (i : Nat) (timeoutSeconds warningSeconds : Nat)
  | disable (i : Nat)
  /-- A pointer, key, wheel, scroll or touch event. -/
  | activity (i : Nat)
  | stayActive (i : Nat)
  /-- The interval, a change of visibility, or a write in another tab. -/
  | tick (i : Nat)
  | clearStorage

namespace IdleBrowser

variable (s : IdleBrowser)

def setTab (i : Nat) (t : IdleTab) : IdleBrowser :=
  { s with tabs := Function.update s.tabs i t }

/-- `markActive`: without `force` a write is left out for five seconds after another. -/
def markActive (force : Bool) (i : Nat) : IdleBrowser :=
  let counted := { s with lastCounted := some s.now }
  if !force && s.now - (s.tabs i).lastWrite < writeThrottleMs then counted
  else { counted with
    stored := some s.now
    tabs := Function.update s.tabs i { s.tabs i with lastWrite := s.now } }

/-- `Math.ceil`. -/
def ceilDiv (a b : Int) : Int := -((-a) / b)

def countdown (t : IdleTab) (now last : Int) : Int :=
  max 0 (ceilDiv (t.timeoutMs + t.warningMs - (now - last)) 1000)

def tick (i : Nat) : IdleBrowser :=
  let t := s.tabs i
  let last := readLastActivity s.stored s.now
  match idleState s.now last t.timeoutMs t.warningMs with
  | .expired =>
    if t.expired then s
    else { s.setTab i { t with expired := true } with
      signOuts := s.signOuts ++
        [{ tab := i, time := s.now, limit := t.timeoutMs + t.warningMs,
           lastCounted := s.lastCounted }] }
  | .warning =>
    s.setTab i { t with warning := true, secondsLeft := countdown t s.now last }
  | .active => s.setTab i { t with warning := false }

/-- The start of the effect. -/
def enable (i : Nat) (timeoutSeconds warningSeconds : Nat) : IdleBrowser :=
  let tab := { s.tabs i with
    enabled := true
    timeoutMs := timeoutSeconds * 1000
    warningMs := warningSeconds * 1000
    warning := false
    expired := false }
  { s.setTab i tab with starts := Function.update s.starts i (s.starts i + 1) }.markActive true i

def step : IdleEvent → Option IdleBrowser
  | .time now => if s.now ≤ now then some { s with now } else none
  | .enable i timeoutSeconds warningSeconds => some (s.enable i timeoutSeconds warningSeconds)
  | .disable i => some (s.setTab i { s.tabs i with enabled := false, warning := false })
  | .activity i =>
    if (s.tabs i).enabled then
      some (if (s.tabs i).warning then s else s.markActive false i)
    else none
  | .stayActive i =>
    if (s.tabs i).enabled then
      some ((s.setTab i { s.tabs i with warning := false }).markActive true i)
    else none
  | .tick i => if (s.tabs i).enabled then some (s.tick i) else none
  | .clearStorage => some { s with stored := none }

end IdleBrowser

/-- Any time that an earlier session has stored, and no tab open. -/
def idleSessions : Machine IdleBrowser IdleEvent where
  init s := 0 < s.now ∧ (∀ last, s.stored = some last → last ≤ s.now) ∧
    (∀ i, s.tabs i = {}) ∧ s.lastCounted = none ∧ s.signOuts = []
  step s := s.step

/-! ## The invariant -/

namespace IdleBrowser

variable {s s' : IdleBrowser} {i j : Nat}

variable (s) in
/-- What the shared time says: it is one at which an activity counted, none has counted five
seconds after it, and it is no earlier than what any tab remembers to have written. -/
structure Shares : Prop where
  clock : 0 < s.now
  counted : ∀ a, s.lastCounted = some a → a ≤ s.now
  stored : ∀ last, s.stored = some last → last ≤ s.now ∧
    ∀ a, s.lastCounted = some a → last ≤ a ∧ a < last + writeThrottleMs
  written : ∀ i, (s.tabs i).lastWrite ≤ s.now ∧ ((s.tabs i).enabled = true →
    0 < (s.tabs i).lastWrite ∧ s.lastCounted.isSome = true ∧
      ∀ last, s.stored = some last → (s.tabs i).lastWrite ≤ last)

variable (s) in
/-- What was signed out, and what the tabs show. -/
structure Records : Prop where
  early : ∀ o ∈ s.signOuts, ∃ a, o.lastCounted = some a ∧ a + o.limit < o.time + writeThrottleMs
  once : ∀ i, s.signOuts.countP (·.tab = i) ≤ s.starts i
  again : ∀ i, (s.tabs i).enabled = true → (s.tabs i).expired = false →
    s.signOuts.countP (·.tab = i) < s.starts i
  countdown : ∀ i, (s.tabs i).warning = true →
    1 ≤ (s.tabs i).secondsLeft ∧ ((s.tabs i).secondsLeft - 1) * 1000 < (s.tabs i).warningMs

@[simp] theorem tabs_setTab (i j : Nat) (t : IdleTab) :
    (s.setTab i t).tabs j = if j = i then t else s.tabs j := by
  simp [setTab, Function.update_apply]

theorem lt_of_idleState {now last timeoutMs warningMs : Int}
    (h : idleState now last timeoutMs warningMs = .expired) :
    timeoutMs + warningMs ≤ now - last := by
  unfold idleState at h
  dsimp only at h
  split at h
  · assumption
  · split at h <;> cases h

theorem bounds_of_warning {now last timeoutMs warningMs : Int}
    (h : idleState now last timeoutMs warningMs = .warning) :
    timeoutMs ≤ now - last ∧ now - last < timeoutMs + warningMs := by
  unfold idleState at h
  dsimp only at h
  split at h
  · cases h
  · split at h
    · omega
    · cases h

/-- The countdown of a warning is the seconds left, rounded up. -/
theorem countdown_bounds {t : IdleTab} {now last : Int}
    (h : idleState now last t.timeoutMs t.warningMs = .warning) :
    1 ≤ countdown t now last ∧ (countdown t now last - 1) * 1000 < t.warningMs := by
  obtain ⟨hle, hlt⟩ := bounds_of_warning h
  unfold countdown ceilDiv
  omega

/-! ### Steps -/

/-- A tab writes the time of a counted activity. -/
theorem Shares.writes (h : s.Shares) {t : IdleTab} (ht : t.lastWrite = s.now) :
    Shares { s.setTab i t with lastCounted := some s.now, stored := some s.now } where
  clock := h.clock
  counted := by
    intro a ha
    cases ha
    exact Int.le_refl _
  stored := by
    intro last hl
    cases hl
    refine ⟨Int.le_refl _, ?_⟩
    intro a ha
    cases ha
    show s.now ≤ s.now ∧ s.now < s.now + 5000
    omega
  written := by
    intro j
    show ((s.setTab i t).tabs j).lastWrite ≤ s.now ∧ _
    rw [tabs_setTab]
    split
    · rw [ht]
      refine ⟨Int.le_refl _, fun _ => ⟨h.clock, rfl, ?_⟩⟩
      intro last hl
      cases hl
      exact Int.le_refl _
    · refine ⟨(h.written j).1, fun he => ⟨((h.written j).2 he).1, rfl, ?_⟩⟩
      intro last hl
      cases hl
      exact (h.written j).1

/-- A counted activity that is not written: its tab wrote less than five seconds ago. -/
theorem Shares.throttled (h : s.Shares) (he : (s.tabs i).enabled = true)
    (hrecent : s.now - (s.tabs i).lastWrite < writeThrottleMs) :
    Shares { s with lastCounted := some s.now } where
  clock := h.clock
  counted := by
    intro a ha
    cases ha
    exact Int.le_refl _
  stored := by
    intro last hl
    refine ⟨(h.stored last hl).1, ?_⟩
    intro a ha
    cases ha
    have := ((h.written i).2 he).2.2 last hl
    have := (h.stored last hl).1
    show last ≤ s.now ∧ s.now < last + writeThrottleMs
    omega
  written := by
    intro j
    refine ⟨(h.written j).1, fun he => ?_⟩
    obtain ⟨hpos, -, hw⟩ := (h.written j).2 he
    exact ⟨hpos, rfl, hw⟩

theorem Shares.activity (h : s.Shares) (he : (s.tabs i).enabled = true) :
    (s.markActive false i).Shares := by
  unfold IdleBrowser.markActive
  dsimp only
  split
  · rename_i hskip
    simp only [Bool.not_false, Bool.true_and, decide_eq_true_eq] at hskip
    exact h.throttled he hskip
  · exact h.writes rfl

/-- A forced write, whatever else changes in its tab. -/
theorem Shares.forced (h : s.Shares) (t : IdleTab) (starts : Nat → Nat) :
    (IdleBrowser.markActive { s.setTab i t with starts } true i).Shares := by
  have hforced : IdleBrowser.markActive { s.setTab i t with starts } true i =
      { s.setTab i { t with lastWrite := s.now } with
        lastCounted := some s.now, stored := some s.now, starts } := by
    simp [IdleBrowser.markActive, setTab]
  rw [hforced]
  have h' := h.writes (i := i) (t := { t with lastWrite := s.now }) rfl
  exact ⟨h'.clock, h'.counted, h'.stored, h'.written⟩

/-- A tab changes but for what it has written. -/
theorem Shares.setTab (h : s.Shares) {t : IdleTab} (hw : t.lastWrite = (s.tabs i).lastWrite)
    (hen : t.enabled = true → (s.tabs i).enabled = true) : (s.setTab i t).Shares where
  clock := h.clock
  counted := h.counted
  stored := h.stored
  written := by
    intro j
    rw [tabs_setTab]
    split
    · subst j
      rw [hw]
      exact ⟨(h.written i).1, fun he => (h.written i).2 (hen he)⟩
    · exact h.written j

theorem Shares.tick (h : s.Shares) : (s.tick i).Shares := by
  unfold IdleBrowser.tick
  dsimp only
  split
  · split
    · exact h
    · have h' := h.setTab (i := i) (t := { s.tabs i with expired := true }) rfl id
      exact ⟨h'.clock, h'.counted, h'.stored, h'.written⟩
  · exact h.setTab rfl id
  · exact h.setTab rfl id

theorem Shares.step {e : IdleEvent} (h : s.Shares) (hs : s.step e = some s') : s'.Shares := by
  cases e with
  | time now =>
    simp only [IdleBrowser.step] at hs
    split at hs
    · rename_i hnow
      cases hs
      exact {
        clock := Int.lt_of_lt_of_le h.clock hnow
        counted := fun a ha => Int.le_trans (h.counted a ha) hnow
        stored := fun last hl => ⟨Int.le_trans (h.stored last hl).1 hnow, (h.stored last hl).2⟩
        written := fun j => ⟨Int.le_trans (h.written j).1 hnow, (h.written j).2⟩ }
    · cases hs
  | enable i timeoutSeconds warningSeconds =>
    cases hs
    exact h.forced _ _
  | disable i =>
    cases hs
    exact h.setTab rfl fun he => by cases he
  | activity i =>
    simp only [IdleBrowser.step] at hs
    split at hs
    · rename_i he
      cases hs
      split
      · exact h
      · exact h.activity he
    · cases hs
  | stayActive i =>
    simp only [IdleBrowser.step] at hs
    split at hs
    · cases hs
      exact h.forced _ s.starts
    · cases hs
  | tick i =>
    simp only [IdleBrowser.step] at hs
    split at hs
    · cases hs
      exact h.tick
    · cases hs
  | clearStorage =>
    cases hs
    exact {
      clock := h.clock
      counted := h.counted
      stored := fun last hl => by cases hl
      written := fun j => ⟨(h.written j).1, fun he =>
        ⟨((h.written j).2 he).1, ((h.written j).2 he).2.1, fun last hl => by cases hl⟩⟩ }

/-! ### Records -/

/-- A tab changes without a sign-out: it shows a warning only with its countdown, and is not
revived. -/
theorem Records.setTab (h : s.Records) {t : IdleTab}
    (hagain : t.enabled = true → t.expired = false →
      (s.tabs i).enabled = true ∧ (s.tabs i).expired = false)
    (hcountdown : t.warning = true → 1 ≤ t.secondsLeft ∧ (t.secondsLeft - 1) * 1000 < t.warningMs) :
    (s.setTab i t).Records where
  early := h.early
  once := h.once
  again := by
    intro j
    rw [tabs_setTab]
    split
    · subst j
      intro he hx
      exact h.again i (hagain he hx).1 (hagain he hx).2
    · exact h.again j
  countdown := by
    intro j
    rw [tabs_setTab]
    split
    · exact hcountdown
    · exact h.countdown j

theorem Records.markActive (h : s.Records) (force : Bool) : (s.markActive force i).Records := by
  unfold IdleBrowser.markActive
  dsimp only
  split
  · exact ⟨h.early, h.once, h.again, h.countdown⟩
  · have h' := h.setTab (i := i) (t := { s.tabs i with lastWrite := s.now })
      (fun he hx => ⟨he, hx⟩) (h.countdown i)
    exact ⟨h'.early, h'.once, h'.again, h'.countdown⟩

theorem Records.enable (h : s.Records) (i timeoutSeconds warningSeconds : Nat) :
    (s.enable i timeoutSeconds warningSeconds).Records := by
  unfold IdleBrowser.enable
  refine Records.markActive ?_ true
  exact {
    early := h.early
    once := by
      intro j
      have := h.once j
      simp only [Function.update_apply]
      split
      · subst j
        exact Nat.le_succ_of_le this
      · exact this
    again := by
      intro j
      show ((s.setTab i _).tabs j).enabled = true → ((s.setTab i _).tabs j).expired = false →
        s.signOuts.countP (·.tab = j) < Function.update s.starts i (s.starts i + 1) j
      rw [tabs_setTab, Function.update_apply]
      split
      · subst j
        intro _ _
        exact Nat.lt_succ_of_le (h.once i)
      · exact h.again j
    countdown := by
      intro j
      show ((s.setTab i _).tabs j).warning = true → _
      rw [tabs_setTab]
      split
      · intro hw
        cases hw
      · intro hw
        have := h.countdown j hw
        rename_i hj
        simpa [setTab, Function.update_of_ne hj] using this }

/-- The last counted activity of a tab that finds itself idle is as old as the limit, but for
the five seconds in which nothing is written. -/
theorem Shares.idle (h : s.Shares) (he : (s.tabs i).enabled = true) {limit : Int}
    (hidle : limit ≤ s.now - readLastActivity s.stored s.now) :
    ∃ a, s.lastCounted = some a ∧ a + limit < s.now + writeThrottleMs := by
  obtain ⟨a, ha⟩ := Option.isSome_iff_exists.mp ((h.written i).2 he).2.1
  refine ⟨a, ha, ?_⟩
  have hnow := h.counted a ha
  unfold readLastActivity at hidle
  unfold writeThrottleMs
  split at hidle
  · rename_i last hl
    split at hidle
    · have := ((h.stored last hl).2 a ha).2
      unfold writeThrottleMs at this
      omega
    · omega
  · omega

theorem Records.tick (h : s.Records) (hshares : s.Shares) (he : (s.tabs i).enabled = true) :
    (s.tick i).Records := by
  unfold IdleBrowser.tick
  dsimp only
  split
  · rename_i hexpired
    split
    · exact h
    · rename_i hfirst
      obtain ⟨a, ha, hearly⟩ := hshares.idle he (lt_of_idleState hexpired)
      have h' := h.setTab (i := i) (t := { s.tabs i with expired := true })
        (fun _ hx => by cases hx) (h.countdown i)
      have hcount (j : Nat) : (s.signOuts ++ [(
          { tab := i, time := s.now, limit := (s.tabs i).timeoutMs + (s.tabs i).warningMs,
            lastCounted := s.lastCounted } : IdleSignOut)]).countP (·.tab = j) =
          s.signOuts.countP (·.tab = j) + if i = j then 1 else 0 := by
        simp [List.countP_append, List.countP_singleton]
      exact {
        early := by
          intro o ho
          rcases List.mem_append.mp ho with ho | ho
          · exact h.early o ho
          · rw [List.mem_singleton.mp ho]
            exact ⟨a, ha, hearly⟩
        once := by
          intro j
          show List.countP _ (s.signOuts ++ _) ≤ s.starts j
          rw [hcount j]
          split
          · subst j
            exact h.again i he (by simpa using hfirst)
          · exact h.once j
        again := by
          intro j hej hxj
          change ((s.setTab i _).tabs j).enabled = true at hej
          change ((s.setTab i _).tabs j).expired = false at hxj
          show List.countP _ (s.signOuts ++ _) < s.starts j
          rw [tabs_setTab] at hej hxj
          rw [hcount j]
          split at hej
          · subst j
            simp at hxj
          · rename_i hj
            rw [if_neg hj] at hxj
            rw [if_neg (Ne.symm hj)]
            exact h.again j hej hxj
        countdown := h'.countdown }
  · rename_i hwarning
    exact h.setTab (fun he hx => ⟨he, hx⟩) fun _ => countdown_bounds hwarning
  · exact h.setTab (fun he hx => ⟨he, hx⟩) fun hw => by cases hw

theorem Records.step {e : IdleEvent} (h : s.Records) (hshares : s.Shares)
    (hs : s.step e = some s') : s'.Records := by
  cases e with
  | time now =>
    simp only [IdleBrowser.step] at hs
    split at hs
    · cases hs
      exact ⟨h.early, h.once, h.again, h.countdown⟩
    · cases hs
  | enable i timeoutSeconds warningSeconds =>
    cases hs
    exact h.enable i timeoutSeconds warningSeconds
  | disable i =>
    cases hs
    exact h.setTab (fun he _ => by cases he) fun hw => by cases hw
  | activity i =>
    simp only [IdleBrowser.step] at hs
    split at hs
    · cases hs
      split
      · exact h
      · exact h.markActive false
    · cases hs
  | stayActive i =>
    simp only [IdleBrowser.step] at hs
    split at hs
    · cases hs
      have h' : (s.setTab i { s.tabs i with warning := false }).Records :=
        h.setTab (fun he hx => ⟨he, hx⟩) fun hw => by cases hw
      exact h'.markActive true
    · cases hs
  | tick i =>
    simp only [IdleBrowser.step] at hs
    split at hs
    · rename_i he
      cases hs
      exact h.tick hshares he
    · cases hs
  | clearStorage =>
    cases hs
    exact ⟨h.early, h.once, h.again, h.countdown⟩

theorem inv_of_reachable (h : idleSessions.Reachable s) : s.Shares ∧ s.Records := by
  refine h.invariant (I := fun s => s.Shares ∧ s.Records) (fun s hs => ?_)
    fun _ _ _ _ hi _ hs => ⟨hi.1.step hs, hi.2.step hi.1 hs⟩
  obtain ⟨hclock, hstored, htabs, hcounted, hsignOuts⟩ := hs
  constructor
  · exact {
      clock := hclock
      counted := by simp [hcounted]
      stored := fun last hl => ⟨hstored last hl, by simp [hcounted]⟩
      written := by
        intro i
        rw [htabs i]
        exact ⟨Int.le_of_lt hclock, fun he => by cases he⟩ }
  · exact {
      early := by simp [hsignOuts]
      once := by simp [hsignOuts]
      again := by simp [htabs]
      countdown := by simp [htabs] }

end IdleBrowser

end InfraOps
