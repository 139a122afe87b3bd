import Mathlib.Tactic.Common
import Mathlib.Data.List.Basic

/-!
# Regions of a buffer

A buffer is a list; a region of it is read with `slice` and replaced with `overwrite`. Regions
that lie apart do not disturb each other, so whatever is written into separate regions is
read back, and what no region covers stays as it was.
-/

namespace InfraOps

variable {α : Type}

/-- The `n` elements from `start` on. -/
def slice (l : List α) (start n : Nat) : List α := (l.drop start).take n

/-- `p` in the place of as many elements from `start` on. -/
def overwrite (l : List α) (start : Nat) (p : List α) : List α :=
  l.take start ++ p ++ l.drop (start + p.length)

/-- The writes one after the other, each with its start. -/
def overwriteAll (l : List α) (writes : List (Nat × List α)) : List α :=
  writes.foldl (fun l w => overwrite l w.1 w.2) l

/-- A region: where it starts, and how long it is. -/
abbrev Region := Nat × Nat

def Apart (a b : Region) : Prop := a.1 + a.2 ≤ b.1 ∨ b.1 + b.2 ≤ a.1

instance (a b : Region) : Decidable (Apart a b) := inferInstanceAs (Decidable (_ ∨ _))

theorem Apart.symm {a b : Region} (h : Apart a b) : Apart b a := Or.symm h

/-- Regions inside a buffer of the size, each apart from the others. -/
structure Separate (size : Nat) (regions : List Region) : Prop where
  inside : ∀ r ∈ regions, r.1 + r.2 ≤ size
  apart : regions.Pairwise Apart

instance (size : Nat) (regions : List Region) : Decidable (Separate size regions) :=
  decidable_of_iff ((∀ r ∈ regions, r.1 + r.2 ≤ size) ∧ regions.Pairwise Apart)
    ⟨fun h => ⟨h.1, h.2⟩, fun h => ⟨h.inside, h.apart⟩⟩

def region (w : Nat × List α) : Region := (w.1, w.2.length)

/-! ## Slices -/

theorem length_overwrite {l : List α} {start : Nat} {p : List α}
    (h : start + p.length ≤ l.length) : (overwrite l start p).length = l.length := by
  simp only [overwrite, List.length_append, List.length_take, List.length_drop]
  omega

section

variable {l : List α} {writes : List (Nat × List α)}

theorem length_overwriteAll (h : ∀ w ∈ writes, w.1 + w.2.length ≤ l.length) :
    (overwriteAll l writes).length = l.length := by
  induction writes generalizing l with
  | nil => rfl
  | cons w writes ih =>
    have hlen := length_overwrite (h w (by simp))
    rw [← hlen]
    refine ih fun w' hw' => ?_
    rw [hlen]
    exact h w' (by simp [hw'])

end

end InfraOps
