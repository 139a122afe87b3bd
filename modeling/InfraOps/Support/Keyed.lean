import Mathlib.Data.List.Nodup
import Mathlib.Data.List.Sort
import Mathlib.Order.Defs.LinearOrder

/-!
# Lists under a key

Where no two elements share their key, looking an element up by its key finds that element,
and neither a lookup nor a sort by the key depends on how the list is ordered.
-/

namespace InfraOps

variable {α β : Type} (key : α → β) {l l' : List α} {a : α}

/-! ## Looking up -/

theorem find?_key [BEq β] [LawfulBEq β] (hnodup : (l.map key).Nodup) (ha : a ∈ l) :
    l.find? (fun b => key b == key a) = some a := by
  cases hfind : l.find? (fun b => key b == key a) with
  | none => exact absurd (List.find?_eq_none.mp hfind a ha) (by simp)
  | some b =>
    have hkey : key b = key a := by simpa using List.find?_some hfind
    have hb := List.mem_of_find?_eq_some hfind
    exact congrArg some (List.inj_on_of_nodup_map hnodup hb ha hkey)

theorem find?_key_perm [BEq β] [LawfulBEq β] (hperm : l'.Perm l) (hnodup : (l.map key).Nodup)
    (k : β) : l'.find? (fun b => key b == k) = l.find? (fun b => key b == k) := by
  cases hfind : l.find? (fun b => key b == k) with
  | none =>
    have hnone := List.find?_eq_none.mp hfind
    exact List.find?_eq_none.mpr fun b hb => hnone b (hperm.mem_iff.mp hb)
  | some b =>
    obtain rfl : key b = k := by simpa using List.find?_some hfind
    have hb := hperm.mem_iff.mpr (List.mem_of_find?_eq_some hfind)
    exact find?_key key ((hperm.map key).nodup_iff.mpr hnodup) hb

/-! ## Sorting -/

/-- The stable sort has nothing to keep from the order of its input. -/
theorem insertionSort_key_perm [LinearOrder β] (hperm : l'.Perm l)
    (hinj : ∀ a ∈ l, ∀ b ∈ l, key a = key b → a = b) :
    l'.insertionSort (fun a b => key a ≤ key b) = l.insertionSort (fun a b => key a ≤ key b) := by
  have htotal : Std.Total fun a b : α => key a ≤ key b := ⟨fun a b => le_total (key a) (key b)⟩
  have htrans : IsTrans α fun a b => key a ≤ key b := ⟨fun _ _ _ => le_trans⟩
  refine List.Perm.eq_of_pairwise ?_
    (List.pairwise_insertionSort _ _) (List.pairwise_insertionSort _ _) ?_
  · intro a b ha hb hab hba
    have ha := hperm.mem_iff.mp ((List.mem_insertionSort _).mp ha)
    exact hinj a ha b ((List.mem_insertionSort _).mp hb) (le_antisymm hab hba)
  · exact (List.perm_insertionSort _ _).trans (hperm.trans (List.perm_insertionSort _ _).symm)

end InfraOps
