import InfraOps.Support.Machine

/-!
# Two runs of one machine

A machine is blind to what `hide` takes out of a state, and to the differences between alike
events, if neither shows in the hidden states that its steps lead to. Then neither shows in
the hidden state of any run, nor in what is read off it.
-/

namespace InfraOps

/-! ## Results that are the same under a function -/

section Results

variable {α β ε : Type} {f : α → β}

theorem none_or_some_of_map {x y : Option α} (h : x.map f = y.map f) :
    (x = none ∧ y = none) ∨ ∃ a b, x = some a ∧ y = some b ∧ f a = f b := by
  cases x with
  | none => exact .inl ⟨rfl, Option.map_eq_none_iff.mp h.symm⟩
  | some a =>
    obtain ⟨b, hb, hf⟩ := Option.map_eq_some_iff.mp h.symm
    exact .inr ⟨a, b, rfl, hb, hf.symm⟩

theorem error_or_ok_of_map {x y : Except ε α} (h : x.map f = y.map f) :
    (∃ e, x = .error e ∧ y = .error e) ∨ ∃ a b, x = .ok a ∧ y = .ok b ∧ f a = f b := by
  cases x with
  | error e =>
    cases y with
    | error e' =>
      cases h
      exact .inl ⟨e, rfl, rfl⟩
    | ok b => cases h
  | ok a =>
    cases y with
    | error e' => cases h
    | ok b => exact .inr ⟨a, b, rfl, rfl, Except.ok.inj h⟩

theorem mapM_map {γ : Type} {f g : γ → Option α} {hide : α → β}
    (h : ∀ c, (f c).map hide = (g c).map hide) (l : List γ) :
    (l.mapM f).map (List.map hide) = (l.mapM g).map (List.map hide) := by
  induction l with
  | nil => rfl
  | cons c l ih =>
    rw [List.mapM_cons, List.mapM_cons]
    obtain ⟨hnone, hnone'⟩ | ⟨a, a', hf, hg, ha⟩ := none_or_some_of_map (h c)
    · rw [hnone, hnone']
      rfl
    · rw [hf, hg]
      obtain ⟨hnone, hnone'⟩ | ⟨as, as', hfs, hgs, has⟩ := none_or_some_of_map ih
      · show ((l.mapM f).bind fun as => some (a :: as)).map _ =
          ((l.mapM g).bind fun as => some (a' :: as)).map _
        rw [hnone, hnone']
        rfl
      · show ((l.mapM f).bind fun as => some (a :: as)).map _ =
          ((l.mapM g).bind fun as => some (a' :: as)).map _
        rw [hfs, hgs]
        exact congrArg₂ (fun b bs => some (b :: bs)) ha has

end Results

/-! ## Runs -/

namespace Machine

variable {σ ε : Type}

/-- Alike events are enabled together in states that are the same but for what is hidden, and
lead to such states. -/
def Blind (m : Machine σ ε) (hide : σ → σ) (alike : ε → ε → Prop) : Prop :=
  ∀ ⦃s s' : σ⦄ ⦃e e' : ε⦄, hide s = hide s' → alike e e' →
    (m.step s e).map hide = (m.step s' e').map hide

variable {m : Machine σ ε} {hide : σ → σ} {alike : ε → ε → Prop}

/-- Runs of alike events go equally far, and what is not hidden is the same in their ends. -/
theorem Blind.run_eq (h : m.Blind hide alike) {es es' : List ε} (hes : List.Forall₂ alike es es')
    {s s' : σ} (hs : hide s = hide s') : (m.run s es).map hide = (m.run s' es').map hide := by
  induction hes generalizing s s' with
  | nil => exact congrArg some hs
  | @cons e e' es es' he _ ih =>
    rw [Machine.run, Machine.run]
    obtain ⟨hnone, hnone'⟩ | ⟨t, t', hnext, hnext', ht⟩ := none_or_some_of_map (h hs he)
    · rw [hnone, hnone']
      rfl
    · rw [hnext, hnext']
      exact ih ht

end Machine

end InfraOps
