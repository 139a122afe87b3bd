import Mathlib.Data.List.Basic

/-!
# Updating rows

`UPDATE ... SET ... WHERE` on a table: every row is looked at once, and what it is set to may
depend on the tables as they were before the statement.
-/

namespace InfraOps

variable {ρ σ κ : Type}

def updateWhere (condition : ρ → Bool) (set : ρ → ρ) (rows : List ρ) : List ρ :=
  rows.map fun row => if condition row then set row else row

/-- A column that no row is set in keeps its values. -/
theorem map_updateWhere {p : ρ → Bool} {f : ρ → ρ} {column : ρ → κ}
    (h : ∀ row, column (f row) = column row) (rows : List ρ) :
    (updateWhere p f rows).map column = rows.map column := by
  rw [updateWhere, List.map_map]
  refine List.map_congr_left fun row _ => ?_
  by_cases hp : p row = true
  · simp [hp, h]
  · simp [hp]

/-- A column whose new values depend on its old ones only. -/
theorem map_updateWhere_of {p : ρ → Bool} {f : ρ → ρ} {column : ρ → κ} {g : κ → κ}
    (h : ∀ row, column (if p row then f row else row) = g (column row)) (rows : List ρ) :
    (updateWhere p f rows).map column = (rows.map column).map g := by
  rw [updateWhere, List.map_map, List.map_map]
  exact List.map_congr_left fun row _ => h row

/-- A property that the statement neither gives nor takes is found in the same tables. -/
theorem any_updateWhere {p : ρ → Bool} {f : ρ → ρ} {q : ρ → Bool}
    (h : ∀ row, p row = true → q (f row) = q row) (rows : List ρ) :
    (updateWhere p f rows).any q = rows.any q := by
  rw [updateWhere, List.any_map]
  refine congrArg (List.any rows) (funext fun row => ?_)
  by_cases hp : p row = true
  · simp [hp, h row hp]
  · simp [hp]

/-! ## Tables seen through some of their columns -/

section Columns

variable {ρ' κ' : Type} {view : ρ → κ} {view' : ρ' → κ'} {g : κ → κ'} {rows : List ρ}
  {rows' : List ρ'}

theorem exists_row_after (h : rows'.map view' = (rows.map view).map g) {row : ρ}
    (hrow : row ∈ rows) : ∃ row' ∈ rows', view' row' = g (view row) := by
  have hmem : g (view row) ∈ rows'.map view' :=
    h ▸ List.mem_map_of_mem (List.mem_map_of_mem hrow)
  exact List.mem_map.mp hmem

theorem exists_row_before (h : rows'.map view' = (rows.map view).map g) {row' : ρ'}
    (hrow' : row' ∈ rows') : ∃ row ∈ rows, view' row' = g (view row) := by
  have hmem : view' row' ∈ (rows.map view).map g := h ▸ List.mem_map_of_mem hrow'
  rw [List.map_map] at hmem
  obtain ⟨row, hrow, hview⟩ := List.mem_map.mp hmem
  exact ⟨row, hrow, hview.symm⟩

end Columns

end InfraOps
