import Mathlib.Data.List.Nodup
import Mathlib.Data.List.Perm.Subperm
import Mathlib.Logic.Relation
import Mathlib.Order.WellFounded

/-!
# Dependency orders

`r a b` reads "`a` depends on `b`". A list is in dependency order when everything an element
depends on stands before it. Elements whose dependency chains all end are accessible, and an
ordering that picks ready elements can only get stuck by running out of elements.
-/

namespace InfraOps

open Relation

variable {α : Type} {r : α → α → Prop}

/-! ## Cycles -/

/-- No element reaches itself. -/
def Acyclic (r : α → α → Prop) : Prop := ∀ a, ¬ TransGen r a a

/-- All dependency chains from `a` end. -/
abbrev Grounded (r : α → α → Prop) (a : α) : Prop := Acc (Function.swap r) a

theorem Grounded.intro {a : α} (h : ∀ b, r a b → Grounded r b) : Grounded r a :=
  Acc.intro a h

/-- A grounded element is on no cycle. -/
theorem Grounded.not_cycle {a : α} (ha : Grounded r a) : ¬ TransGen r a a := by
  induction ha with
  | intro a _ ih =>
    intro hcycle
    -- the first step of the cycle leads to an element on the same cycle
    obtain ⟨b, hab, hba⟩ := TransGen.head'_iff.mp hcycle
    exact ih b hab (TransGen.tail' hba hab)

theorem Acyclic.mono {r' : α → α → Prop} (h : Acyclic r) (hsub : ∀ a b, r' a b → r a b) :
    Acyclic r' :=
  fun a hcycle => h a (TransGen.mono hsub _ _ hcycle)

/-- A path avoids the edges out of `x`, or it goes through `x`. -/
theorem path_cases {x a b : α} (h : TransGen r a b) :
    TransGen (fun c d => c ≠ x ∧ r c d) a b ∨ ReflTransGen r a x ∧ TransGen r x b := by
  induction h with
  | single hab =>
    rename_i b
    by_cases ha : a = x
    · exact .inr ⟨ha ▸ .refl, .single (ha ▸ hab)⟩
    · exact .inl (.single ⟨ha, hab⟩)
  | tail hab hbc ih =>
    rename_i b c
    rcases ih with hpath | ⟨hax, hxb⟩
    · by_cases hb : b = x
      · exact .inr ⟨hb ▸ hab.to_reflTransGen, .single (hb ▸ hbc)⟩
      · exact .inl (hpath.tail ⟨hb, hbc⟩)
    · exact .inr ⟨hax, hxb.tail hbc⟩

/-- Changing the edges out of one element keeps a graph acyclic if the element itself is on
no cycle afterwards. -/
theorem Acyclic.update {r' : α → α → Prop} {x : α} (h : Acyclic r)
    (hother : ∀ a b, a ≠ x → r' a b → r a b) (hx : ¬ TransGen r' x x) : Acyclic r' := by
  intro a hcycle
  rcases path_cases (x := x) hcycle with hpath | ⟨hax, hxa⟩
  · exact h a (TransGen.mono (fun c d hcd => hother c d hcd.1 hcd.2) _ _ hpath)
  · exact hx (hxa.trans_left hax)

/-- Inside a set that the edges do not leave, a path of one graph is a path of another that
has the edges of the set. -/
theorem path_inside {r' : α → α → Prop} (inside : α → Prop)
    (hedge : ∀ a b, inside a → r' a b → r a b ∧ inside b) {a b : α} (ha : inside a)
    (h : TransGen r' a b) : TransGen r a b ∧ inside b := by
  induction h with
  | single hab => exact ⟨.single (hedge _ _ ha hab).1, (hedge _ _ ha hab).2⟩
  | tail _ hbc ih =>
    obtain ⟨hpath, hb⟩ := ih
    exact ⟨hpath.tail (hedge _ _ hb hbc).1, (hedge _ _ hb hbc).2⟩

/-! ## Lists in dependency order -/

/-- Every element stands after all it depends on. -/
def InDependencyOrder (r : α → α → Prop) (l : List α) : Prop :=
  ∀ before a after, l = before ++ a :: after → ∀ b, r a b → b ∈ before

theorem inDependencyOrder_nil : InDependencyOrder r [] := by
  intro before a after h
  simp at h

theorem InDependencyOrder.concat {l : List α} {a : α} (hl : InDependencyOrder r l)
    (ha : ∀ b, r a b → b ∈ l) : InDependencyOrder r (l ++ [a]) := by
  intro before x after h b hxb
  rcases List.eq_nil_or_concat after with rfl | ⟨after, y, rfl⟩
  · -- `x` is the element added
    have hx := List.append_inj' h rfl
    obtain rfl : a = x := by simpa using hx.2
    exact hx.1 ▸ ha b hxb
  · have hx : l ++ [a] = (before ++ x :: after) ++ [y] := by simpa using h
    exact hl before x after (List.append_inj' hx rfl).1 b hxb

/-- What an element depends on, directly or not, stands before it. -/
theorem InDependencyOrder.mem_before {before after : List α} {a b : α}
    (h : InDependencyOrder r (before ++ a :: after)) (hab : TransGen r a b) : b ∈ before := by
  induction hab with
  | single hab => exact h before a after rfl _ hab
  | @tail b c _ hbc hb =>
    obtain ⟨front, back, rfl⟩ := List.append_of_mem hb
    exact List.mem_append_left _ (h front b (back ++ a :: after) (by simp) c hbc)

/-- **An ordering gets stuck only when it is complete**: if every listed element that is not
done still waits for a listed one that is not done, then all grounded ones are done. -/
theorem Grounded.done_of_stuck {nodes done : List α}
    (hstuck : ∀ a ∈ nodes, a ∉ done → ∃ b ∈ nodes, r a b ∧ b ∉ done) {a : α}
    (ha : Grounded r a) (hmem : a ∈ nodes) : a ∈ done := by
  induction ha with
  | intro a _ ih =>
    by_contra hnot
    obtain ⟨b, hb, hab, hbdone⟩ := hstuck a hmem hnot
    exact hbdone (ih b hab hb)

end InfraOps
