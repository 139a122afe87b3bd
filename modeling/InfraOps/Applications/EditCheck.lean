import InfraOps.Applications.CatalogGraph
import InfraOps.Support.Separated

/-!
# What the cycle check of an edit decides

`_assert_acyclic` takes the resolver's errors and keeps those whose text speaks of a cycle or
of a missing application. The error about a disabled application quotes the application's
name, so a name can speak for it.
-/

namespace InfraOps

/-! ## The text of the error -/

theorem disabledError_toList (name : String) : (disabledError name).toList =
    "Application ".toList ++ '\'' :: (name.toList ++
      '\'' :: " is disabled in the catalog and cannot be installed.".toList) := by
  have htext : disabledError name = "Application '" ++ name ++
      "' is disabled in the catalog and cannot be installed." := rfl
  rw [htext]
  simp

/-- The error passes the filter on account of the name it quotes, and of nothing else. -/
theorem isCycleError_disabled {name : String} :
    isCycleError (disabledError name) = isCycleError name := by
  rw [Bool.eq_iff_iff, isCycleError_iff, isCycleError_iff, disabledError_toList]
  have quoted : ∀ {text : List Char}, '\'' ∉ text → ¬ text <:+: "Application ".toList →
      ¬ text <:+: " is disabled in the catalog and cannot be installed.".toList →
      (text <:+: "Application ".toList ++ '\'' :: (name.toList ++
        '\'' :: " is disabled in the catalog and cannot be installed.".toList) ↔
      text <:+: name.toList) := by
    intro text hquote hbefore hafter
    rw [infix_append_cons_iff hquote, infix_append_cons_iff hquote]
    simp only [hbefore, hafter, false_or, or_false]
  rw [quoted (by decide) (by decide) (by decide), quoted (by decide) (by decide) (by decide)]

/-! ## The whole catalog, resolved -/

namespace Catalog

variable {c : Catalog}

/-- The edit leaves every application its name and its flag; a new one is enabled. -/
theorem disabled_edited {id : AppId} {deps : List AppId} {name : String} :
    (∃ n ∈ (c.edited id deps).nodes, n.enabled = false ∧ n.name = name) ↔
      ∃ n ∈ c.nodes, n.enabled = false ∧ n.name = name := by
  unfold edited
  split
  · constructor
    · rintro ⟨n, hn, hdisabled, hname⟩
      obtain ⟨m, hm, rfl⟩ := List.mem_map.mp hn
      refine ⟨m, hm, ?_, ?_⟩
      · split at hdisabled <;> exact hdisabled
      · split at hname <;> exact hname
    · rintro ⟨m, hm, hdisabled, hname⟩
      refine ⟨_, List.mem_map_of_mem hm, ?_, ?_⟩
      · split <;> exact hdisabled
      · split <;> exact hname
  · constructor
    · rintro ⟨n, hn, hdisabled, hname⟩
      rcases List.mem_append.mp hn with hn | hn
      · exact ⟨n, hn, hdisabled, hname⟩
      · rw [List.mem_singleton.mp hn] at hdisabled
        cases hdisabled
    · rintro ⟨m, hm, hdisabled, hname⟩
      exact ⟨m, List.mem_append_left _ hm, hdisabled, hname⟩

/-- On a sound graph the search from everything finds no error. -/
theorem Sound.errors_eq_nil (h : c.Sound) : (visitAll c c.ids).errors = [] := by
  refine errors_visitAll_eq_nil.mpr ?_
  rintro ⟨a, ⟨id, hid, hneeds⟩, hmissing | hcycle⟩
  · -- what is needed is listed: it is the start, or an edge goes to it
    have ha : a ∈ c.ids := by
      cases hneeds with
      | refl => exact hid
      | tail _ hab => exact h.closed _ _ hab
    obtain ⟨n, hn, rfl⟩ := List.mem_map.mp ha
    rw [get_of_mem hn] at hmissing
    cases hmissing
  · exact h.acyclic a hcycle

/-- On a sound graph the search collects everything. -/
theorem Sound.mem_required (h : c.Sound) {n : AppNode} :
    n ∈ (visitAll c c.ids).required ↔ n ∈ c.nodes := by
  have hinv := (visitAll_spec c c.ids).1
  constructor
  · intro hn
    exact List.mem_of_find?_eq_some (hinv.stored n hn)
  · intro hn
    have hid : n.id ∈ (visitAll c c.ids).required.map AppNode.id :=
      (mem_required_iff_closure h.errors_eq_nil).mpr ⟨n.id, List.mem_map_of_mem hn, .refl⟩
    obtain ⟨m, hm, hmn⟩ := List.mem_map.mp hid
    have hget : c.get n.id = some m := hmn ▸ hinv.stored m hm
    rw [get_of_mem hn] at hget
    exact Option.some.inj hget ▸ hm

/-- Its errors are those about the disabled applications. -/
theorem Sound.mem_errors (h : c.Sound) {e : String} :
    e ∈ (resolveInstallOrder c.ids c).2 ↔
      ∃ n ∈ c.nodes, n.enabled = false ∧ disabledError n.name = e := by
  rw [resolveInstallOrder_snd, blockingErrors, h.errors_eq_nil, List.nil_append, List.mem_map]
  constructor
  · rintro ⟨n, hn, rfl⟩
    obtain ⟨hn, hdisabled⟩ := List.mem_filter.mp hn
    exact ⟨n, h.mem_required.mp hn, by simpa using hdisabled, rfl⟩
  · rintro ⟨n, hn, hdisabled, rfl⟩
    exact ⟨n, List.mem_filter.mpr ⟨h.mem_required.mpr hn, by simp [hdisabled]⟩, rfl⟩

end Catalog

/-! ## The check -/

/-- The check accepts a sound graph in which no disabled application has a name that speaks
of cycles or of missing applications. -/
theorem assertAcyclic_eq_nil_iff {read : Catalog} {id : AppId} {deps : List AppId} :
    assertAcyclic read id deps = [] ↔ (read.edited id deps).Sound ∧
      ¬ ∃ n ∈ read.nodes, n.enabled = false ∧ isCycleError n.name = true := by
  have filtered : assertAcyclic read id deps = [] ↔
      ∀ e ∈ (resolveInstallOrder (read.edited id deps).ids (read.edited id deps)).2,
        isCycleError e ≠ true := List.filter_eq_nil_iff
  constructor
  · intro h
    have hsound := sound_of_assertAcyclic h
    refine ⟨hsound, ?_⟩
    rintro ⟨n, hn, hdisabled, hname⟩
    obtain ⟨m, hm, hoff, hmn⟩ := Catalog.disabled_edited.mpr ⟨n, hn, hdisabled, rfl⟩
    have hmem := hsound.mem_errors.mpr ⟨m, hm, hoff, rfl⟩
    refine filtered.mp h _ hmem ?_
    rw [isCycleError_disabled, hmn, hname]
  · rintro ⟨hsound, hnames⟩
    refine filtered.mpr fun e he hcycle => hnames ?_
    obtain ⟨m, hm, hoff, rfl⟩ := hsound.mem_errors.mp he
    obtain ⟨n, hn, hdisabled, hname⟩ := Catalog.disabled_edited.mp ⟨m, hm, hoff, rfl⟩
    rw [isCycleError_disabled] at hcycle
    exact ⟨n, hn, hdisabled, hname ▸ hcycle⟩

/-- **When the cycle check of an edit is exact.** It accepts exactly the edits that leave a
sound graph, unless the graph is sound and a disabled application's name speaks of cycles or of
missing applications: then a sound edit is refused. -/
theorem assertAcyclic_exact_iff (read : Catalog) (id : AppId) (deps : List AppId) :
    (assertAcyclic read id deps = [] ↔ (read.edited id deps).Sound) ↔
      ¬ ((read.edited id deps).Sound ∧
        ∃ n ∈ read.nodes, n.enabled = false ∧ isCycleError n.name = true) := by
  rw [assertAcyclic_eq_nil_iff]
  constructor
  · rintro h ⟨hsound, hnames⟩
    exact (h.mpr hsound).2 hnames
  · intro h
    exact ⟨And.left, fun hsound => ⟨hsound, fun hnames => h ⟨hsound, hnames⟩⟩⟩

/-- A retired "Circular Saw" and an editor, with no dependencies at all. -/
def workshopCatalog : Catalog where
  nodes :=
    [{ id := "a1", name := "Circular Saw", enabled := false, dependencyIds := [],
        nodup := List.nodup_nil },
      { id := "b2", name := "Editor", enabled := true, dependencyIds := [],
        nodup := List.nodup_nil }]

/-- Saving the editor without dependencies is refused. -/
theorem workshop_edit_refused :
    ¬ (assertAcyclic workshopCatalog "b2" [] = [] ↔
      (workshopCatalog.edited "b2" []).Sound) := by
  have hnone : ∀ a b, ¬ (workshopCatalog.edited "b2" []).DependsOn a b := by
    intro a b hab
    rw [Catalog.dependsOn_edited] at hab
    split at hab
    · simp at hab
    · obtain ⟨n, hn, -, hb⟩ := Catalog.dependsOn_iff.mp hab
      have hdeps : ∀ n ∈ workshopCatalog.nodes, n.dependencyIds = [] := by decide
      simp [hdeps n hn] at hb
  have hsound : (workshopCatalog.edited "b2" []).Sound := by
    constructor
    · intro a hcycle
      obtain ⟨b, hab, -⟩ := Relation.TransGen.head'_iff.mp hcycle
      exact hnone a b hab
    · intro a b hab
      exact absurd hab (hnone a b)
  rw [assertAcyclic_eq_nil_iff]
  intro h
  refine (h.mpr hsound).2 ⟨_, List.mem_cons_self, rfl, ?_⟩
  exact isCycleError_iff.mpr (.inl (by decide))

end InfraOps
