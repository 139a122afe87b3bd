import Mathlib.Tactic.Common

/-!
# Calls that may fail

A sequence of calls succeeds exactly if each of them does.
-/

namespace InfraOps

variable {ε α β : Type}

@[simp] theorem ok_bind (a : α) (f : α → Except ε β) : (.ok a >>= f) = f a := rfl

theorem bind_eq_ok {x : Except ε α} {f : α → Except ε β} {b : β} :
    (x >>= f) = .ok b ↔ ∃ a, x = .ok a ∧ f a = .ok b := by
  cases x with
  | error e => simp [bind, Except.bind]
  | ok a => simp [bind, Except.bind]

theorem map_eq_ok {x : Except ε α} {f : α → β} {b : β} :
    x.map f = .ok b ↔ ∃ a, x = .ok a ∧ f a = b := by
  cases x with
  | error e => simp [Except.map]
  | ok a => simp [Except.map]

theorem unit_bind_eq_ok {x : Except ε Unit} {y : Except ε α} {a : α} :
    (x >>= fun _ => y) = .ok a ↔ x = .ok () ∧ y = .ok a := by
  rw [bind_eq_ok]
  exact ⟨fun ⟨(), hx, hy⟩ => ⟨hx, hy⟩, fun ⟨hx, hy⟩ => ⟨(), hx, hy⟩⟩

theorem toOption_eq_some {x : Except ε α} {a : α} : x.toOption = some a ↔ x = .ok a := by
  cases x with
  | error e => simp [Except.toOption]
  | ok a => simp [Except.toOption]

theorem mapM_eq_ok {f : α → Except ε β} {g : α → β} {l : List α}
    (h : ∀ a ∈ l, f a = .ok (g a)) : l.mapM f = .ok (l.map g) := by
  induction l with
  | nil => rfl
  | cons a l ih =>
    rw [List.mapM_cons, h a (by simp), ih fun a ha => h a (by simp [ha])]
    rfl

/-! ## Validators that rewrite -/

/-- What `f` has rewritten, it accepts and leaves as it is. -/
def Reaccepts (f : α → Except ε α) : Prop := ∀ a b, f a = .ok b → f b = .ok b

/-- A validator of what may be missing. -/
def optionally (f : α → Except ε α) : Option α → Except ε (Option α)
  | none => .ok none
  | some a => (f a).map some

theorem reaccepts_optionally {f : α → Except ε α} (h : Reaccepts f) : Reaccepts (optionally f) := by
  intro a b hf
  cases a with
  | none =>
    cases hf
    rfl
  | some a =>
    obtain ⟨b, hb, rfl⟩ := map_eq_ok.mp hf
    rw [optionally, h a b hb]
    rfl

end InfraOps
