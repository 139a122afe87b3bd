import Mathlib.Tactic.Common

/-!
# Guarded machines and their runs

A `Machine` is an executable step on labelled events: `step s e` is `none` when `e` is
not enabled in `s`. One definition serves replay (`run` computes a concrete trace) and
proof (`ReachableUnder` is the induction principle over all traces).

Runs are taken UNDER a condition on their steps: `ReachableUnder C` are the states met by
the runs whose every step `(s, e)` satisfies `C s e`. With `C := fun _ _ => True` these
are all reachable states.
-/

namespace InfraOps

/-- An initial-state predicate and a guarded step. -/
structure Machine (σ ε : Type) where
  init : σ → Prop
  step : σ → ε → Option σ

namespace Machine

variable {σ ε : Type} (m : Machine σ ε) {C D : σ → ε → Prop}

/-- Replay a list of events; `none` as soon as one of them is not enabled. -/
def run (s : σ) : List ε → Option σ
  | [] => some s
  | e :: es => (m.step s e).bind fun s' => run s' es

/-- Replay as long as every step passes the test `c`. -/
def runUnder (c : σ → ε → Bool) (s : σ) : List ε → Option σ
  | [] => some s
  | e :: es => if c s e then (m.step s e).bind fun s' => runUnder c s' es else none

/-- The states met by the runs whose every step satisfies `C`. -/
inductive ReachableUnder (C : σ → ε → Prop) : σ → Prop
  | init {s : σ} : m.init s → ReachableUnder C s
  | step {s s' : σ} {e : ε} : ReachableUnder C s → C s e → m.step s e = some s' →
      ReachableUnder C s'

/-- All reachable states. -/
abbrev Reachable : σ → Prop := m.ReachableUnder fun _ _ => True

variable {m}

/-- A weaker condition admits more runs. -/
theorem ReachableUnder.mono (h : ∀ s e, C s e → D s e) {s : σ}
    (hs : m.ReachableUnder C s) : m.ReachableUnder D s := by
  induction hs with
  | init h0 => exact .init h0
  | step _ hc he ih => exact .step ih (h _ _ hc) he

theorem ReachableUnder.reachable {s : σ} (hs : m.ReachableUnder C s) : m.Reachable s :=
  hs.mono fun _ _ _ => trivial

/-- **The invariant rule.** The step premise may use that the state before the step is
reachable, so an invariant can be proved on top of another one. -/
theorem ReachableUnder.invariant {I : σ → Prop} (h0 : ∀ s, m.init s → I s)
    (hstep : ∀ s e s', m.ReachableUnder C s → I s → C s e → m.step s e = some s' → I s')
    {s : σ} (hs : m.ReachableUnder C s) : I s := by
  induction hs with
  | init hi => exact h0 _ hi
  | step hr hc he ih => exact hstep _ _ _ hr ih hc he

/-- Replay stays inside the reachable states when the steps it takes satisfy `C`. -/
theorem ReachableUnder.run {s s' : σ} {es : List ε} (hs : m.ReachableUnder C s)
    (hC : ∀ s e, e ∈ es → C s e) (h : m.run s es = some s') : m.ReachableUnder C s' := by
  induction es generalizing s with
  | nil => cases h; exact hs
  | cons e es ih =>
    cases he : m.step s e with
    | none => simp [Machine.run, he] at h
    | some s₁ =>
      simp only [Machine.run, he, Option.bind_some] at h
      exact ih (.step hs (hC _ _ (by simp)) he) (fun s e hmem => hC s e (by simp [hmem])) h

/-- A replayed trace ends in a reachable state. -/
theorem reachable_of_run {s s' : σ} {es : List ε} (h0 : m.init s)
    (h : m.run s es = some s') : m.Reachable s' :=
  (ReachableUnder.init h0).run (fun _ _ _ => trivial) h

/-- A trace whose end state satisfies the test `p` exhibits a reachable state with `p`. -/
theorem exists_reachable_of_run {s : σ} {t : List ε} {p : σ → Bool} (h0 : m.init s)
    (h : (m.run s t).any p = true) : ∃ s', m.Reachable s' ∧ p s' = true := by
  cases hr : m.run s t with
  | none => simp [hr] at h
  | some s' => exact ⟨s', reachable_of_run h0 hr, by simpa [hr] using h⟩

theorem ReachableUnder.runUnder {c : σ → ε → Bool} {s s' : σ} {es : List ε}
    (hs : m.ReachableUnder (fun s e => c s e = true) s) (h : m.runUnder c s es = some s') :
    m.ReachableUnder (fun s e => c s e = true) s' := by
  induction es generalizing s with
  | nil => cases h; exact hs
  | cons e es ih =>
    unfold Machine.runUnder at h
    split at h
    · rename_i hc
      obtain ⟨s₁, he, h⟩ := Option.bind_eq_some_iff.mp h
      exact ih (.step hs hc he) h
    · cases h

/-- The same for a replay whose every step passes the test `c`. -/
theorem exists_reachableUnder_of_run {c : σ → ε → Bool} {s : σ} {t : List ε} {p : σ → Bool}
    (h0 : m.init s) (h : (m.runUnder c s t).any p = true) :
    ∃ s', m.ReachableUnder (fun s e => c s e = true) s' ∧ p s' = true := by
  cases hr : m.runUnder c s t with
  | none => simp [hr] at h
  | some s' => exact ⟨s', .runUnder (.init h0) hr, by simpa [hr] using h⟩

end Machine

end InfraOps
