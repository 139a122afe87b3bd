import Mathlib.Data.List.TakeWhile
import Mathlib.Tactic.Common

/-!
# Obtaining and cleaning up

Items are obtained one after another, each by a call that may fail before or after it has
taken effect. An item is remembered when its call returned, and at the end a loop releases
what is remembered, until a call of that loop stops it. What is left over is what was
obtained without being remembered, and what the loop did not come to.
-/

namespace InfraOps

/-- What becomes of the calls for an item: whether the first takes effect, whether it returns,
whether the second releases the item, and whether it stops the loop. -/
structure Cleanup (α : Type) where
  obtains : α → Bool
  returns : α → Bool
  releases : α → Bool
  stops : α → Bool

namespace Cleanup

variable {α : Type} (c : Cleanup α)

/-- The items whose calls returned. -/
def remembered (items : List α) : List α := items.takeWhile c.returns

/-- The item whose call failed; none is called after it. -/
def failed (items : List α) : Option α := items.find? fun a => !c.returns a

def called : List α → List α
  | [] => []
  | a :: items => a :: if c.returns a then called items else []

def released : List α → List α
  | [] => []
  | a :: items =>
    (if c.releases a then [a] else []) ++ if c.stops a then [] else released items

section cons

variable {c} {a : α} {items : List α}

theorem remembered_cons_of_returns (h : c.returns a = true) :
    c.remembered (a :: items) = a :: c.remembered items :=
  List.takeWhile_cons_of_pos h

theorem remembered_cons_of_fails (h : c.returns a = false) : c.remembered (a :: items) = [] :=
  List.takeWhile_cons_of_neg (by simp [h])

theorem failed_cons_of_returns (h : c.returns a = true) :
    c.failed (a :: items) = c.failed items :=
  List.find?_cons_of_neg (by simp [h])

theorem failed_cons_of_fails (h : c.returns a = false) : c.failed (a :: items) = some a :=
  List.find?_cons_of_pos (by simp [h])

theorem called_cons_of_returns (h : c.returns a = true) :
    c.called (a :: items) = a :: c.called items := by
  rw [called, if_pos h]

theorem called_cons_of_fails (h : c.returns a = false) : c.called (a :: items) = [a] := by
  simp [called, h]

end cons

theorem mem_called {items : List α} {a : α} :
    a ∈ c.called items ↔ a ∈ c.remembered items ∨ c.failed items = some a := by
  induction items with
  | nil => simp [called, remembered, failed]
  | cons b items ih =>
    cases hb : c.returns b with
    | true =>
      rw [called_cons_of_returns hb, remembered_cons_of_returns hb, failed_cons_of_returns hb,
        List.mem_cons, ih, List.mem_cons, or_assoc]
    | false =>
      rw [called_cons_of_fails hb, remembered_cons_of_fails hb, failed_cons_of_fails hb]
      simp [eq_comm]

theorem mem_of_called {items : List α} {a : α} (h : a ∈ c.called items) : a ∈ items := by
  rcases c.mem_called.mp h with hmem | hfailed
  · exact (List.takeWhile_prefix c.returns).subset hmem
  · exact List.mem_of_find?_eq_some hfailed

theorem returns_of_remembered {items : List α} {a : α} (h : a ∈ c.remembered items) :
    c.returns a = true :=
  List.mem_takeWhile_imp h

theorem not_returns_of_failed {items : List α} {a : α} (h : c.failed items = some a) :
    c.returns a = false := by
  simpa using List.find?_some h

variable [DecidableEq α]

/-- The loop comes to an item's release, and carries it out. -/
def Released (items : List α) (a : α) : Prop :=
  c.releases a = true ∧ ∀ b ∈ items.takeWhile (· ≠ a), c.stops b = false

theorem mem_released {items : List α} {a : α} :
    a ∈ c.released items ↔ a ∈ items ∧ c.Released items a := by
  induction items with
  | nil => simp [released]
  | cons b items ih =>
    rw [released, List.mem_append]
    by_cases hb : b = a
    · subst hb
      cases hreleases : c.releases b <;> cases hstops : c.stops b <;>
        simp [Released, hreleases, ih]
    · cases hreleases : c.releases b <;> cases hstops : c.stops b <;>
        simp [Released, hstops, ih, hb, Ne.symm hb]

/-- What comes before an item in a list comes before it in what begins that list. -/
theorem takeWhile_ne_of_prefix {front items : List α} {a : α} (h : a ∈ front)
    (hstart : front <+: items) : items.takeWhile (· ≠ a) = front.takeWhile (· ≠ a) := by
  obtain ⟨rest, rfl⟩ := hstart
  induction front with
  | nil => cases h
  | cons b front ih =>
    rw [List.cons_append]
    by_cases hb : b = a
    · simp [hb]
    · have hmem : a ∈ front := (List.mem_cons.mp h).resolve_left (Ne.symm hb)
      rw [List.takeWhile_cons_of_pos (by simpa using hb), ih hmem,
        List.takeWhile_cons_of_pos (by simpa using hb)]

theorem released_remembered_iff {items more : List α} {a : α} (h : a ∈ c.remembered items) :
    a ∈ c.released (c.remembered items ++ more) ↔ c.Released items a := by
  have hmore := takeWhile_ne_of_prefix h (List.prefix_append (c.remembered items) more)
  have hitems := takeWhile_ne_of_prefix h (List.takeWhile_prefix c.returns)
  rw [mem_released, Released, Released, hmore, hitems]
  exact and_iff_right (List.mem_append_left more h)

/-- Nothing is left exactly when no call failed after it took effect, and the loop releases all
that is not gone by then; `more` is released after the items. -/
theorem nothing_left_iff {items more : List α} {gone : α → Prop}
    (hmore : ∀ a ∈ items, a ∉ more) (hgone : c.failed items ≠ none → ∀ a, ¬gone a) :
    (∀ a ∈ c.called items, c.obtains a = true →
        gone a ∨ a ∈ c.released (c.remembered items ++ more)) ↔
      (∀ a, c.failed items = some a → c.obtains a = false) ∧
        ∀ a ∈ c.remembered items, c.obtains a = true → gone a ∨ c.Released items a := by
  constructor
  · intro h
    refine ⟨fun a hfailed => ?_, fun a hmem hobtains => ?_⟩
    · -- the item whose call failed is neither gone nor remembered
      by_contra hobtains
      rcases h a (c.mem_called.mpr (.inr hfailed)) (by simpa using hobtains) with hg | hreleased
      · exact hgone (by simp [hfailed]) a hg
      · have hmem := (c.mem_released.mp hreleased).1
        rcases List.mem_append.mp hmem with hremembered | hmem
        · have hreturns := c.returns_of_remembered hremembered
          rw [c.not_returns_of_failed hfailed] at hreturns
          exact Bool.false_ne_true hreturns
        · exact hmore a (List.mem_of_find?_eq_some hfailed) hmem
    · have hleft := h a (c.mem_called.mpr (.inl hmem)) hobtains
      rwa [c.released_remembered_iff hmem] at hleft
  · rintro ⟨hfailed, hremembered⟩ a hcalled hobtains
    rcases c.mem_called.mp hcalled with hmem | hlost
    · rw [c.released_remembered_iff hmem]
      exact hremembered a hmem hobtains
    · rw [hfailed a hlost] at hobtains
      cases hobtains

end Cleanup

end InfraOps
