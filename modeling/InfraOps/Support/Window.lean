import Mathlib.Algebra.Order.Group.Defs
import Mathlib.Data.List.Sort

/-!
# Moments in a window

Sorted lists of moments: how many of them lie in a closed window, and that appending a moment
keeps every window within a limit if the window that ends there has room.
-/

namespace InfraOps

variable {T : Type} [LinearOrder T]

/-- Dropping what is before the cutoff keeps what is not, if the moments are sorted. -/
theorem dropWhile_lt_eq_filter {moments : List T} (h : moments.Pairwise (· ≤ ·)) (cutoff : T) :
    moments.dropWhile (fun a => a < cutoff) = moments.filter fun a => cutoff ≤ a := by
  induction moments with
  | nil => rfl
  | cons a moments ih =>
    obtain ⟨hle, hrest⟩ := List.pairwise_cons.mp h
    by_cases ha : a < cutoff
    · rw [List.dropWhile_cons_of_pos (by simpa using ha), ih hrest,
        List.filter_cons_of_neg (by simpa using ha)]
    · have hcutoff : cutoff ≤ a := not_lt.mp ha
      rw [List.dropWhile_cons_of_neg (by simpa using hcutoff), List.filter_eq_self.mpr]
      intro b hb
      rcases List.mem_cons.mp hb with rfl | hb
      · simpa using hcutoff
      · simpa using hcutoff.trans (hle b hb)

variable [AddCommGroup T]

/-- The moments in the closed window from `start` on. -/
def inWindow (window start : T) (moments : List T) : List T :=
  moments.filter fun a => start ≤ a ∧ a ≤ start + window

/-- No closed window holds more than `limit` moments. -/
def WithinLimit (limit : Nat) (window : T) (moments : List T) : Prop :=
  ∀ start, (inWindow window start moments).length ≤ limit

theorem WithinLimit.nil (limit : Nat) (window : T) : WithinLimit limit window ([] : List T) :=
  fun _ => Nat.zero_le limit

theorem WithinLimit.sublist {limit : Nat} {window : T} {moments part : List T}
    (h : WithinLimit limit window moments) (hpart : part.Sublist moments) :
    WithinLimit limit window part :=
  fun start => ((hpart.filter _).length_le).trans (h start)

/-- The window that ends at the last moment is an open-ended one. -/
theorem inWindow_end {window now : T} {moments : List T} (h : ∀ a ∈ moments, a ≤ now) :
    inWindow window (now - window) moments = moments.filter fun a => now - window ≤ a := by
  apply List.filter_congr
  intro a ha
  have hend : a ≤ now - window + window := by
    rw [sub_add_cancel]
    exact h a ha
  rw [decide_eq_decide]
  exact and_iff_left hend

/-- **One more moment.** Of the windows that hold the new moment none holds an earlier one
that the window ending there does not. -/
theorem WithinLimit.append [IsOrderedAddMonoid T] {limit : Nat} {window now : T} {moments : List T}
    (h : WithinLimit limit window moments) (hnow : ∀ a ∈ moments, a ≤ now)
    (hroom : (inWindow window (now - window) moments).length < limit) :
    WithinLimit limit window (moments ++ [now]) := by
  intro start
  rw [inWindow, List.filter_append, List.length_append]
  by_cases hin : start ≤ now ∧ now ≤ start + window
  · have hsub : (inWindow window start moments).Sublist
        (inWindow window (now - window) moments) := by
      rw [inWindow_end hnow]
      apply List.monotone_filter_right
      intro a ha
      obtain ⟨hstart, -⟩ := of_decide_eq_true ha
      exact decide_eq_true ((sub_le_iff_le_add.mpr hin.2).trans hstart)
    have hlen := hsub.length_le
    rw [List.filter_cons_of_pos (by simpa using hin), List.filter_nil, List.length_singleton]
    rw [inWindow] at hlen
    omega
  · rw [List.filter_cons_of_neg (by simpa using hin), List.filter_nil, List.length_nil]
    exact h start

end InfraOps
