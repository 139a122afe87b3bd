import InfraOps.Applications.InstallOrder
import Mathlib.Data.List.Dedup
import Mathlib.Data.List.Infix

/-!
# The graph of the catalog

What a committed edit does to the table, edge by edge, and `_assert_acyclic` of
`app/api/v1/admin_applications.py`, which runs the resolver over the whole catalog and keeps
the errors that speak of cycles or of missing applications.
-/

namespace InfraOps

open Relation

/-! ## The table -/

namespace Catalog

variable {c : Catalog} {a b : AppId}

def ids (c : Catalog) : List AppId := c.nodes.map AppNode.id

/-- An edge of the graph goes to an application, and no edge is on a cycle. -/
structure Sound (c : Catalog) : Prop where
  acyclic : Acyclic c.DependsOn
  closed : ∀ a b, c.DependsOn a b → b ∈ c.ids

theorem get_of_mem {n : AppNode} (hn : n ∈ c.nodes) : c.get n.id = some n :=
  find?_key AppNode.id c.nodup hn

theorem get_eq_some {n : AppNode} : c.get a = some n ↔ n ∈ c.nodes ∧ n.id = a := by
  constructor
  · intro h
    exact ⟨List.mem_of_find?_eq_some h, id_of_get h⟩
  · rintro ⟨hn, rfl⟩
    exact get_of_mem hn

theorem dependsOn_iff :
    c.DependsOn a b ↔ ∃ n ∈ c.nodes, n.id = a ∧ b ∈ n.dependencyIds := by
  constructor
  · rintro ⟨n, hn, hb⟩
    exact ⟨n, List.mem_of_find?_eq_some hn, id_of_get hn, hb⟩
  · rintro ⟨n, hn, rfl, hb⟩
    exact ⟨n, get_of_mem hn, hb⟩

theorem mem_ids_of_dependsOn (h : c.DependsOn a b) : a ∈ c.ids := by
  obtain ⟨n, hn, rfl, -⟩ := dependsOn_iff.mp h
  exact List.mem_map_of_mem hn

def add (c : Catalog) (n : AppNode) (h : n.id ∉ c.ids) : Catalog where
  nodes := c.nodes ++ [n]
  nodup := by simpa [ids] using List.Nodup.concat h c.nodup

/-- The edges of one application are replaced. -/
def setDependencies (c : Catalog) (id : AppId) (deps : List AppId) (h : deps.Nodup) :
    Catalog where
  nodes := c.nodes.map fun n =>
    if n.id = id then { n with dependencyIds := deps, nodup := h } else n
  nodup := by
    have hids : (AppNode.id ∘ fun n : AppNode =>
        if n.id = id then { n with dependencyIds := deps, nodup := h } else n) = AppNode.id := by
      funext n
      rw [Function.comp_apply]
      split <;> rfl
    rw [List.map_map, hids]
    exact c.nodup

/-- The application is deleted, with all edges from it and to it. -/
def remove (c : Catalog) (id : AppId) : Catalog where
  nodes := (c.nodes.filter fun n => n.id ≠ id).map fun n =>
    { n with dependencyIds := n.dependencyIds.filter (· ≠ id), nodup := n.nodup.filter _ }
  nodup := by
    rw [List.map_map]
    exact (List.filter_sublist.map AppNode.id).nodup c.nodup

theorem ids_setDependencies {id : AppId} {deps : List AppId} {h : deps.Nodup} :
    (c.setDependencies id deps h).ids = c.ids := by
  rw [ids, setDependencies, List.map_map]
  refine List.map_congr_left fun n _ => ?_
  rw [Function.comp_apply]
  split <;> rfl

theorem dependsOn_setDependencies {id : AppId} {deps : List AppId} {h : deps.Nodup} :
    (c.setDependencies id deps h).DependsOn a b ↔
      if a = id then a ∈ c.ids ∧ b ∈ deps else c.DependsOn a b := by
  rw [dependsOn_iff]
  constructor
  · rintro ⟨n, hn, rfl, hb⟩
    obtain ⟨m, hm, rfl⟩ := List.mem_map.mp hn
    by_cases hid : m.id = id
    · simp only [hid, if_true] at hb ⊢
      exact ⟨hid ▸ List.mem_map_of_mem hm, hb⟩
    · simp only [hid, if_false] at hb ⊢
      exact dependsOn_iff.mpr ⟨m, hm, rfl, hb⟩
  · intro hb
    split at hb
    · rename_i hid
      obtain ⟨⟨n, hn, hna⟩, hb⟩ := And.imp_left List.mem_map.mp hb
      refine ⟨_, List.mem_map_of_mem hn, ?_⟩
      have hid' : n.id = id := hna.trans hid
      simp [hid', hid, hb]
    · rename_i hid
      obtain ⟨n, hn, rfl, hdep⟩ := dependsOn_iff.mp hb
      exact ⟨_, List.mem_map_of_mem hn, by simp [hid, hdep]⟩

theorem dependsOn_add {n : AppNode} {h : n.id ∉ c.ids} :
    (c.add n h).DependsOn a b ↔ c.DependsOn a b ∨ a = n.id ∧ b ∈ n.dependencyIds := by
  rw [dependsOn_iff, dependsOn_iff]
  constructor
  · rintro ⟨m, hm, rfl, hb⟩
    rcases List.mem_append.mp hm with hm | hm
    · exact .inl ⟨m, hm, rfl, hb⟩
    · obtain rfl := List.mem_singleton.mp hm
      exact .inr ⟨rfl, hb⟩
  · rintro (⟨m, hm, hma, hb⟩ | ⟨rfl, hb⟩)
    · exact ⟨m, List.mem_append_left _ hm, hma, hb⟩
    · exact ⟨n, by simp [add], rfl, hb⟩

theorem mem_ids_remove {id : AppId} : a ∈ (c.remove id).ids ↔ a ∈ c.ids ∧ a ≠ id := by
  simp only [ids, remove, List.map_map, List.mem_map, List.mem_filter, Function.comp_apply]
  constructor
  · rintro ⟨n, ⟨hn, hne⟩, rfl⟩
    exact ⟨⟨n, hn, rfl⟩, by simpa using hne⟩
  · rintro ⟨⟨n, hn, rfl⟩, hne⟩
    exact ⟨n, ⟨hn, by simpa using hne⟩, rfl⟩

theorem dependsOn_remove {id : AppId} (h : (c.remove id).DependsOn a b) :
    c.DependsOn a b ∧ b ≠ id := by
  obtain ⟨n, hn, rfl, hb⟩ := dependsOn_iff.mp h
  obtain ⟨m, hm, rfl⟩ := List.mem_map.mp hn
  obtain ⟨hb, hne⟩ := List.mem_filter.mp hb
  exact ⟨dependsOn_iff.mpr ⟨m, (List.mem_filter.mp hm).1, rfl, hb⟩, by simpa using hne⟩

/-! ## The check -/

/-- The catalog as the edit of `id` would leave it. -/
def edited (c : Catalog) (id : AppId) (deps : List AppId) : Catalog :=
  if h : id ∈ c.ids then c.setDependencies id deps.dedup (List.nodup_dedup _)
  else
    let new : AppNode :=
      { id, name := "(new)", enabled := true, dependencyIds := deps.dedup,
        nodup := List.nodup_dedup _ }
    c.add new h

theorem dependsOn_edited {id : AppId} {deps : List AppId} :
    (c.edited id deps).DependsOn a b ↔ if a = id then b ∈ deps else c.DependsOn a b := by
  unfold edited
  split
  · rename_i hid
    rw [dependsOn_setDependencies]
    split
    · rename_i ha
      simp [ha, hid]
    · rfl
  · rename_i hid
    rw [dependsOn_add]
    have hnone : a = id → ¬ c.DependsOn a b := by
      rintro rfl hdep
      exact hid (mem_ids_of_dependsOn hdep)
    by_cases ha : a = id
    · have hdep := hnone ha
      rw [ha] at hdep ⊢
      simp [hdep]
    · simp [ha]

theorem mem_ids_edited {id : AppId} {deps : List AppId} :
    a ∈ (c.edited id deps).ids ↔ a ∈ c.ids ∨ a = id := by
  unfold edited
  split
  · rename_i hid
    rw [ids_setDependencies]
    constructor
    · exact .inl
    · rintro (ha | rfl)
      · exact ha
      · exact hid
  · simp [ids, add]

end Catalog

/-- `"Circular" in e or "does not exist" in e`. -/
def isCycleError (e : String) : Bool :=
  decide ("Circular".toList <:+: e.toList) || decide ("does not exist".toList <:+: e.toList)

/-- `_assert_acyclic`, on the applications that it has read: the errors it raises. -/
def assertAcyclic (read : Catalog) (edited : AppId) (deps : List AppId) : List String :=
  let catalog := read.edited edited deps
  (resolveInstallOrder catalog.ids catalog).2.filter isCycleError

theorem circularError_toList (c : Catalog) (cycle : List AppId) :
    ∃ rest, (circularError c cycle).toList = "Circular".toList ++ rest := by
  refine ⟨" dependency detected: ".toList ++ (" -> ".intercalate (cycle.map c.label)).toList, ?_⟩
  have htext : circularError c cycle =
      "Circular dependency detected: " ++ " -> ".intercalate (cycle.map c.label) := rfl
  rw [htext, String.toList_append]
  generalize (" -> ".intercalate (cycle.map c.label)).toList = names
  simp

theorem missingError_toList (id : AppId) :
    ∃ before rest, (missingError id).toList = before ++ ("does not exist".toList ++ rest) := by
  refine ⟨"A selected application depends on application '".toList ++ id.toList ++
    "', which ".toList, ".".toList, ?_⟩
  have htext : missingError id = "A selected application depends on application '" ++ id ++
      "', which does not exist." := rfl
  rw [htext]
  simp

theorem isCycleError_iff {text : String} : isCycleError text = true ↔
    "Circular".toList <:+: text.toList ∨ "does not exist".toList <:+: text.toList := by
  -- the two texts are not to be evaluated
  unfold isCycleError
  generalize "Circular".toList = circular
  generalize "does not exist".toList = missing
  simp only [Bool.or_eq_true, decide_eq_true_eq]

theorem isCycleError_circular (c : Catalog) (cycle : List AppId) :
    isCycleError (circularError c cycle) = true := by
  obtain ⟨rest, hrest⟩ := circularError_toList c cycle
  refine isCycleError_iff.mpr (.inl ?_)
  rw [hrest]
  exact (List.prefix_append _ _).isInfix

theorem isCycleError_missing (id : AppId) : isCycleError (missingError id) = true := by
  obtain ⟨before, rest, hrest⟩ := missingError_toList id
  refine isCycleError_iff.mpr (.inr ?_)
  rw [hrest]
  exact (List.prefix_append _ _).isInfix.trans (List.suffix_append _ _).isInfix

/-- **What passes the check is a sound graph**: it meets every error that the search can
report. -/
theorem sound_of_assertAcyclic {read : Catalog} {edited : AppId} {deps : List AppId}
    (h : assertAcyclic read edited deps = []) : (read.edited edited deps).Sound := by
  set c := read.edited edited deps with hc
  have herrors : (visitAll c c.ids).errors = [] := by
    rw [List.eq_nil_iff_forall_not_mem]
    intro e he
    have hmem : e ∈ (resolveInstallOrder c.ids c).2 := by
      rw [resolveInstallOrder_snd]
      exact List.mem_append_left _ he
    have hnot := List.filter_eq_nil_iff.mp h e hmem
    rcases (visitAll_spec c c.ids).1.texts e he with ⟨cycle, rfl⟩ | ⟨id, rfl⟩
    · exact hnot (isCycleError_circular c cycle)
    · exact hnot (isCycleError_missing id)
  have hbroken := errors_visitAll_eq_nil.mp herrors
  have hclosure : ∀ a ∈ c.ids, c.Closure c.ids a := fun a ha => ⟨a, ha, .refl⟩
  constructor
  · intro a hcycle
    obtain ⟨b, hab, -⟩ := TransGen.head'_iff.mp hcycle
    exact hbroken ⟨a, hclosure a (Catalog.mem_ids_of_dependsOn hab), .inr hcycle⟩
  · intro a b hab
    have hneeded := (hclosure a (Catalog.mem_ids_of_dependsOn hab)).step hab
    cases hget : c.get b with
    | none => exact absurd ⟨b, hneeded, .inl hget⟩ hbroken
    | some n => exact Catalog.mem_ids_of_get hget

end InfraOps
