import InfraOps.Support.Machine
import Mathlib.Data.Finset.Card

/-!
# Endless runs

A `Trace` is a run that never ends: a state for every moment and the event that leads on
from it. What eventually happens is shown by descent: finite sets cannot shrink again and
again.
-/

namespace InfraOps

namespace Machine

variable {σ ε : Type} {m : Machine σ ε}

/-- An endless run from a reachable state. -/
structure Trace (m : Machine σ ε) where
  state : Nat → σ
  event : Nat → ε
  start : m.Reachable (state 0)
  next : ∀ n, m.step (state n) (event n) = some (state (n + 1))

namespace Trace

variable (ρ : m.Trace)

theorem reachable (n : Nat) : m.Reachable (ρ.state n) := by
  induction n with
  | zero => exact ρ.start
  | succ n ih => exact .step ih trivial (ρ.next n)

/-- What every step from a moment on preserves holds from that moment on. -/
theorem holds_from {P : Nat → Prop} {N : Nat} (h0 : P N) (hstep : ∀ n, N ≤ n → P n → P (n + 1))
    {n : Nat} (hn : N ≤ n) : P n := by
  induction n, hn using Nat.le_induction with
  | base => exact h0
  | succ n hn ih => exact hstep n hn ih

end Trace

end Machine

/-- **No endless descent**: from no moment on does a finite set shrink again and again. -/
theorem no_endless_descent {α : Type} {C : Nat → Finset α} {N : Nat}
    (hdrop : ∀ n, N ≤ n → ∃ k, n ≤ k ∧ C k ⊂ C n) : False := by
  have hempty : ∀ c n, N ≤ n → (C n).card ≤ c → False := by
    intro c
    induction c with
    | zero =>
      intro n hn hcard
      obtain ⟨k, -, hk⟩ := hdrop n hn
      have hlt := Finset.card_lt_card hk
      omega
    | succ c ih =>
      intro n hn hcard
      obtain ⟨k, hnk, hk⟩ := hdrop n hn
      have hlt := Finset.card_lt_card hk
      exact ih k (hn.trans hnk) (by omega)
  exact hempty _ N (le_refl N) (le_refl _)

end InfraOps
