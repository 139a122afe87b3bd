import Mathlib.Data.List.Basic

/-!
# Work resumed by counting

Items are appended to what is there until the wanted ones have followed the first. Every
attempt counts what is there, and appends the rest of the wanted items or leaves all as it
was; it may do either and still report a failure.
-/

namespace InfraOps

variable {α β γ σ ε ρ : Type}

/-- What the count says is not there yet. -/
def missingItems (wanted : List β) (held : List α) : List β := wanted.drop (held.length - 1)

/-- The first item, and behind it a prefix of the wanted ones. -/
def Begun (first : α) (wanted held : List α) : Prop := ∃ k, held = first :: wanted.take k

variable {first : α} {wanted held : List α}

theorem Begun.append_missing (h : Begun first wanted held) :
    held ++ missingItems wanted held = first :: wanted := by
  obtain ⟨k, rfl⟩ := h
  have hrest : wanted.take k ++ wanted.drop (wanted.take k).length = wanted := by
    rcases Nat.le_total k wanted.length with hk | hk
    · rw [List.length_take_of_le hk, List.take_append_drop]
    · rw [List.take_of_length_le hk, List.drop_length, List.append_nil]
  simpa [missingItems] using hrest

theorem Begun.complete : Begun first wanted (first :: wanted) := ⟨wanted.length, by simp⟩

theorem map_missingItems (f : β → γ) (wanted : List β) (held : List α) :
    (missingItems wanted held).map f = missingItems (wanted.map f) held :=
  List.map_drop

@[simp] theorem missingItems_complete : missingItems wanted (first :: wanted) = [] := by
  simp [missingItems]

/-! ## Runs of attempts -/

/-- The attempts one after another, with their results. -/
def runAttempts (attempt : σ → ε → σ × ρ) : σ → List ε → σ × List ρ
  | s, [] => (s, [])
  | s, e :: es =>
    let (s', result) := attempt s e
    let (last, results) := runAttempts attempt s' es
    (last, result :: results)

variable {attempt : σ → ε → σ × ρ} {s : σ}

/-- What every attempt keeps, a run keeps. -/
theorem runAttempts_invariant {I : σ → Prop} (hstep : ∀ s e, I s → I (attempt s e).1)
    (es : List ε) (h : I s) : I (runAttempts attempt s es).1 := by
  induction es generalizing s with
  | nil => exact h
  | cons e es ih => exact ih (hstep s e h)

/-- An attempt appends what is missing or nothing; after a success it has appended it. -/
structure Resumes (held : σ → List α) (wanted : List α) (succeeded : ρ → Prop)
    (attempt : σ → ε → σ × ρ) : Prop where
  step : ∀ s e, held (attempt s e).1 = held s ∨
    held (attempt s e).1 = held s ++ missingItems wanted (held s)
  success : ∀ s e, succeeded (attempt s e).2 →
    held (attempt s e).1 = held s ++ missingItems wanted (held s)

namespace Resumes

variable {held : σ → List α} {succeeded : ρ → Prop}

theorem begun (h : Resumes held wanted succeeded attempt) (e : ε)
    (hs : Begun first wanted (held s)) : Begun first wanted (held (attempt s e).1) := by
  rcases h.step s e with heq | heq
  · rwa [heq]
  · rw [heq, hs.append_missing]
    exact .complete

theorem complete_of_complete (h : Resumes held wanted succeeded attempt) (e : ε)
    (hs : held s = first :: wanted) : held (attempt s e).1 = first :: wanted := by
  rcases h.step s e with heq | heq
  · rw [heq, hs]
  · simp [heq, hs]

/-- **A run with a success has appended all that was wanted, once.** -/
theorem complete_of_success (h : Resumes held wanted succeeded attempt) {es : List ε}
    (hs : Begun first wanted (held s))
    (hsuccess : ∃ result ∈ (runAttempts attempt s es).2, succeeded result) :
    held (runAttempts attempt s es).1 = first :: wanted := by
  induction es generalizing s with
  | nil => simp [runAttempts] at hsuccess
  | cons e es ih =>
    obtain ⟨result, hresult, hok⟩ := hsuccess
    rcases List.mem_cons.mp hresult with rfl | hresult
    · -- from this success on there is nothing to append
      have hdone := (h.success s e hok).trans hs.append_missing
      exact runAttempts_invariant (I := fun s => held s = first :: wanted)
        (fun s e hs => h.complete_of_complete e hs) es hdone
    · exact ih (h.begun e hs) ⟨result, hresult, hok⟩

end Resumes

end InfraOps
