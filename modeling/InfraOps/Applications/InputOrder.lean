import InfraOps.Applications.CatalogGraph
import InfraOps.Support.Keyed

/-!
# The install order and the order of its input

The search reads the catalog only where the selection needs it, so two catalogs that agree
there are searched alike. What it collects comes in the order of the search; the topological
sort keeps nothing of that order when the names are distinct.
-/

namespace InfraOps

variable {c c' : Catalog} {selected selected' : List AppId}

/-! ## Two catalogs, one search -/

/-- The other catalog has the same entries wherever the selection needs one. -/
def Catalog.AgreesOn (c c' : Catalog) (selected : List AppId) : Prop :=
  ∀ a, c.Closure selected a → c'.get a = c.get a

theorem Catalog.AgreesOn.of_perm (h : c'.nodes.Perm c.nodes) : c.AgreesOn c' selected := by
  intro a _
  rw [Catalog.get, Catalog.get]
  exact find?_key_perm AppNode.id h c.nodup a

theorem Catalog.AgreesOn.circularError_eq (h : c.AgreesOn c' selected) {cycle : List AppId}
    (hneeded : ∀ a ∈ cycle, c.Closure selected a) :
    circularError c' cycle = circularError c cycle := by
  have hlabels : cycle.map c'.label = cycle.map c.label := by
    refine List.map_congr_left fun a ha => ?_
    have hget := h a (hneeded a ha)
    simp only [Catalog.label, hget]
  exact congrArg (fun names => "Circular dependency detected: " ++ " -> ".intercalate names) hlabels

namespace VisitState

/-- The other catalog has the whole chain, so it bounds the recursion too. -/
theorem Inv.chain_length_le_of_agreesOn {st : VisitState} (h : st.Inv c selected)
    (hagree : c.AgreesOn c' selected) : st.chain.length ≤ c'.nodes.length := by
  have hsub : st.chain ⊆ c'.nodes.map AppNode.id := by
    intro a ha
    have hsome := h.chainExists a ha
    rw [← hagree a (h.chainNeeded a ha)] at hsome
    obtain ⟨n, hn⟩ := Option.isSome_iff_exists.mp hsome
    exact Catalog.mem_ids_of_get hn
  simpa using (List.subperm_of_subset h.chainNodup hsub).length_le

/-- A loop of visits from one chain, if each visit is the same in both catalogs. -/
theorem foldl_visit_congr {fuel fuel' : Nat} {ids : List AppId} {st : VisitState}
    (chain : List AppId) (hfuel : fuel + chain.length = c.nodes.length + 1)
    (hvisit : ∀ id st, st.Inv c selected → st.Asked c selected id → st.chain = chain →
      visit c' fuel' id st = visit c fuel id st)
    (hneeded : ∀ id ∈ ids, c.Closure selected id)
    (hnext : ∀ last ∈ chain.getLast?, ∀ id ∈ ids, c.DependsOn last id)
    (h : st.Inv c selected) (hchain : st.chain = chain) :
    ids.foldl (fun st id => visit c' fuel' id st) st =
      ids.foldl (fun st id => visit c fuel id st) st := by
  induction ids generalizing st with
  | nil => rfl
  | cons id ids ih =>
    have hasked : st.Asked c selected id :=
      ⟨hneeded id List.mem_cons_self, fun last hlast =>
        hnext last (hchain ▸ hlast) id List.mem_cons_self⟩
    obtain ⟨hinv, hvisited⟩ := visit_spec h hasked (hchain ▸ hfuel)
    rw [List.foldl_cons, List.foldl_cons, hvisit id st h hasked hchain]
    exact ih (fun a ha => hneeded a (List.mem_cons_of_mem _ ha))
      (fun last hlast a ha => hnext last hlast a (List.mem_cons_of_mem _ ha)) hinv
      (hvisited.chain.trans hchain)

end VisitState

open VisitState

/-- **One visit is the same in both catalogs**, at any depth and with either bound. -/
theorem visit_congr {fuel fuel' : Nat} {id : AppId} {st : VisitState}
    (hagree : c.AgreesOn c' selected) (h : st.Inv c selected) (hasked : st.Asked c selected id)
    (hfuel : fuel + st.chain.length = c.nodes.length + 1)
    (hfuel' : fuel' + st.chain.length = c'.nodes.length + 1) :
    visit c' fuel' id st = visit c fuel id st := by
  induction fuel generalizing fuel' id st with
  | zero => exact absurd h.chain_length_le (by omega)
  | succ fuel ih =>
    cases fuel' with
    | zero => exact absurd (h.chain_length_le_of_agreesOn hagree) (by omega)
    | succ fuel' =>
      rw [visit, visit, hagree id hasked.needed]
      cases hcolor : st.color id with
      | black => rfl
      | gray =>
        have hneeded : ∀ a ∈ st.chain.drop (st.chain.idxOf id), c.Closure selected a :=
          fun a ha => h.chainNeeded a (List.mem_of_mem_drop ha)
        have hcycle := hagree.circularError_eq hneeded
        simp only [hcycle]
      | white =>
        cases hnode : c.get id with
        | none => rfl
        | some node =>
          have hdeps : ∀ dep ∈ sortedIds node.dependencyIds, c.DependsOn id dep := fun dep hdep =>
            ⟨node, hnode, mem_sortedIds.mp hdep⟩
          have hlength : (st.chain ++ [id]).length = st.chain.length + 1 := by simp
          -- one level deeper, from the chain that ends in `id`
          have hloop : (sortedIds node.dependencyIds).foldl (fun st dep => visit c' fuel' dep st)
              (st.enter id) = (sortedIds node.dependencyIds).foldl
                (fun st dep => visit c fuel dep st) (st.enter id) :=
            foldl_visit_congr (st.chain ++ [id]) (by omega)
              (fun dep st' h' hasked' hchain' =>
                ih h' hasked' (by rw [hchain']; omega) (by rw [hchain']; omega))
              (fun dep hdep => hasked.needed.step (hdeps dep hdep)) (by simpa using hdeps)
              (h.enter hasked hcolor hnode) rfl
          simp only [VisitState.enter] at hloop
          simp only [hloop]

theorem visitAll_congr (hagree : c.AgreesOn c' selected) :
    visitAll c' selected = visitAll c selected :=
  foldl_visit_congr [] rfl
    (fun _ _ h hasked hchain => visit_congr hagree h hasked (by simp [hchain]) (by simp [hchain]))
    (fun id hid => ⟨id, hid, .refl⟩) (by simp) .init rfl

/-- The resolver sees no more of a catalog than what the selection needs. -/
theorem resolveInstallOrder_congr (hagree : c.AgreesOn c' selected) :
    resolveInstallOrder selected c' = resolveInstallOrder selected c := by
  unfold resolveInstallOrder
  rw [visitAll_congr hagree]

/-! ## Two orders of what was collected -/

section

variable {required required' : List AppNode}

theorem Sortable.perm (h : Sortable c required) (hperm : required'.Perm required) :
    Sortable c required' where
  stored n hn := h.stored n (hperm.mem_iff.mp hn)
  nodup := (hperm.map AppNode.id).nodup_iff.mpr h.nodup
  closed n hn dep hdep :=
    (hperm.map AppNode.id).mem_iff.mpr (h.closed n (hperm.mem_iff.mp hn) dep hdep)
  grounded n hn := h.grounded n (hperm.mem_iff.mp hn)

/-- No two applications share a name. -/
def DistinctNames (required : List AppNode) : Prop := (required.map AppNode.name).Nodup

theorem nameOf_perm (h : Sortable c required) (hperm : required'.Perm required) :
    nameOf required' = nameOf required := by
  funext a
  rw [nameOf, nameOf, find?_key_perm AppNode.id hperm h.nodup]

theorem indegree_perm (hperm : required'.Perm required) :
    indegree required' = indegree required := by
  funext n
  have hids := hperm.map AppNode.id
  simp only [indegree, hids.mem_iff]

theorem edgesOut_perm (hperm : required'.Perm required) (id : AppId) :
    (edgesOut required' id).Perm (edgesOut required id) :=
  (hperm.filter _).map AppNode.id

theorem nameOf_injective (h : Sortable c required) (hnames : DistinctNames required) :
    ∀ a ∈ required.map AppNode.id, ∀ b ∈ required.map AppNode.id,
      nameOf required a = nameOf required b → a = b := by
  intro a ha b hb hname
  obtain ⟨n, hn, rfl⟩ := List.mem_map.mp ha
  obtain ⟨m, hm, rfl⟩ := List.mem_map.mp hb
  simp only [nameOf, h.find hn, h.find hm, Option.map_some, Option.getD_some] at hname
  rw [List.inj_on_of_nodup_map hnames hn hm hname]

/-- The sort by name forgets the order of its input. -/
theorem sortByName_congr {ids ids' : List AppId} (h : Sortable c required)
    (hnames : DistinctNames required) (hperm : required'.Perm required) (hids : ids'.Perm ids)
    (hmem : ∀ a ∈ ids, a ∈ required.map AppNode.id) :
    sortByName required' ids' = sortByName required ids := by
  rw [sortByName, sortByName, nameOf_perm h hperm]
  exact insertionSort_key_perm (nameOf required) hids fun a ha b hb =>
    nameOf_injective h hnames a (hmem a ha) b (hmem b hb)

theorem mem_required_of_mem_edgesOut {id a : AppId} (ha : a ∈ edgesOut required id) :
    a ∈ required.map AppNode.id :=
  (List.filter_sublist.map AppNode.id).subset ha

/-- **The sort forgets the order of the search**: the queue is the same in every round. -/
theorem kahn_congr {fuel : Nat} {degree : AppId → Int} {ready : List AppId}
    (h : Sortable c required) (hnames : DistinctNames required) (hperm : required'.Perm required)
    (hready : ∀ a ∈ ready, a ∈ required.map AppNode.id) :
    kahn required' fuel degree ready = kahn required fuel degree ready := by
  induction fuel generalizing degree ready with
  | zero => rfl
  | succ fuel ih =>
    cases ready with
    | nil => rfl
    | cons current ready =>
      have hnodup := nodup_edgesOut h current
      have hnodup' := nodup_edgesOut (h.perm hperm) current
      have hedges := edgesOut_perm hperm current
      have hdegree : (release (edgesOut required' current) degree ready).1 =
          (release (edgesOut required current) degree ready).1 := by
        funext a
        rw [release_fst hnodup, release_fst hnodup']
        simp only [hedges.mem_iff]
      have hqueue : (release (edgesOut required' current) degree ready).2.Perm
          (release (edgesOut required current) degree ready).2 := by
        rw [release_snd hnodup, release_snd hnodup']
        exact .append_left _ (hedges.filter _)
      have hmem : ∀ a ∈ (release (edgesOut required current) degree ready).2,
          a ∈ required.map AppNode.id := by
        rw [release_snd hnodup]
        intro a ha
        rcases List.mem_append.mp ha with ha | ha
        · exact hready a (List.mem_cons_of_mem _ ha)
        · exact mem_required_of_mem_edgesOut (List.mem_filter.mp ha).1
      rw [kahn, kahn]
      simp only [hdegree, sortByName_congr h hnames hperm hqueue hmem]
      rw [ih fun a ha => hmem a ((sortByName_perm _ _).mem_iff.mp ha)]

end

/-! ## Two listings of one selection -/

theorem Catalog.closure_congr (hsel : ∀ a, a ∈ selected' ↔ a ∈ selected) {a : AppId} :
    c.Closure selected' a ↔ c.Closure selected a := by
  simp only [Catalog.Closure, hsel]

theorem blockingErrors_congr (hsel : ∀ a, a ∈ selected' ↔ a ∈ selected) :
    blockingErrors c selected' = [] ↔ blockingErrors c selected = [] := by
  simp only [blockingErrors_eq_nil, Catalog.closure_congr hsel]

/-- What is collected, whatever the order. -/
theorem mem_required_visitAll_iff (he : (visitAll c selected).errors = []) {n : AppNode} :
    n ∈ (visitAll c selected).required ↔ c.get n.id = some n ∧ c.Closure selected n.id := by
  have hstored := (visitAll_spec c selected).1.stored
  constructor
  · intro hn
    exact ⟨hstored n hn, (mem_required_iff_closure he).mp (List.mem_map_of_mem hn)⟩
  · rintro ⟨hget, hneeded⟩
    obtain ⟨m, hm, hid⟩ := List.mem_map.mp ((mem_required_iff_closure he).mpr hneeded)
    have hm' := hstored m hm
    rw [hid, hget] at hm'
    exact Option.some.inj hm' ▸ hm

theorem required_perm (hsel : ∀ a, a ∈ selected' ↔ a ∈ selected)
    (he : (visitAll c selected).errors = []) (he' : (visitAll c selected').errors = []) :
    (visitAll c selected').required.Perm (visitAll c selected).required := by
  have hnodup := (visitAll_spec c selected).1.nodup.of_map
  have hnodup' := (visitAll_spec c selected').1.nodup.of_map
  refine (List.perm_ext_iff_of_nodup hnodup' hnodup).mpr fun n => ?_
  rw [mem_required_visitAll_iff he, mem_required_visitAll_iff he', Catalog.closure_congr hsel]

theorem distinctNames_required (hnames : DistinctNames c.nodes) :
    DistinctNames (visitAll c selected).required := by
  have hinv := (visitAll_spec c selected).1
  refine List.Nodup.map_on ?_ hinv.nodup.of_map
  intro n hn m hm hname
  exact List.inj_on_of_nodup_map hnames (List.mem_of_find?_eq_some (hinv.stored n hn))
    (List.mem_of_find?_eq_some (hinv.stored m hm)) hname

/-- **The install order does not depend on how the input is listed.** In a catalog with
distinct names, a selection without errors gets the same order however often and in whatever
order its applications are named, and however the catalog is listed. -/
theorem resolveInstallOrder_relisted (hnames : DistinctNames c.nodes)
    (hcatalog : c'.nodes.Perm c.nodes) (hsel : ∀ a, a ∈ selected' ↔ a ∈ selected)
    (hclear : (resolveInstallOrder selected c).2 = []) :
    resolveInstallOrder selected' c' = resolveInstallOrder selected c := by
  rw [resolveInstallOrder_congr (.of_perm hcatalog)]
  rw [resolveInstallOrder_snd] at hclear
  have hclear' := (blockingErrors_congr hsel).mpr hclear
  have hfound := (List.append_eq_nil_iff.mp hclear).1
  have hfound' := (List.append_eq_nil_iff.mp hclear').1
  have hperm := required_perm hsel hfound hfound'
  have hreq := sortable_visitAll hfound
  have hdistinct : DistinctNames (visitAll c selected).required := distinctNames_required hnames
  have hfind : ∀ a, (visitAll c selected').required.find? (fun n => n.id == a) =
      (visitAll c selected).required.find? fun n => n.id == a := fun a =>
    find?_key_perm AppNode.id hperm hreq.nodup a
  -- the first queue
  have hstart := sortByName_congr hreq hdistinct hperm
    ((hperm.filter fun n => decide (indegree (visitAll c selected).required n = 0)).map
      AppNode.id) fun a ha => (List.filter_sublist.map AppNode.id).subset ha
  have hready : ∀ a ∈ sortByName (visitAll c selected).required
      (((visitAll c selected).required.filter fun n =>
        decide (indegree (visitAll c selected).required n = 0)).map AppNode.id),
      a ∈ (visitAll c selected).required.map AppNode.id := by
    intro a ha
    exact (List.filter_sublist.map AppNode.id).subset ((sortByName_perm _ _).mem_iff.mp ha)
  rw [blockingErrors] at hclear hclear'
  unfold resolveInstallOrder
  simp only [hclear, hclear', hfind, indegree_perm hperm, hstart,
    kahn_congr hreq hdistinct hperm hready, hperm.length_eq]

/-- Two tools that share a runtime. -/
def studioCatalog : Catalog where
  nodes :=
    [{ id := "a1", name := "Editor", enabled := true, dependencyIds := ["c3"] },
      { id := "b2", name := "Debugger", enabled := true, dependencyIds := ["c3"] },
      { id := "c3", name := "Runtime", enabled := true, dependencyIds := [],
        nodup := List.nodup_nil }]

/-- The same applications, as another query lists them. -/
def studioCatalogReversed : Catalog where
  nodes := studioCatalog.nodes.reverse
  nodup := by
    rw [List.map_reverse]
    exact List.nodup_reverse.mpr studioCatalog.nodup

theorem resolveInstallOrder_relisted_studio :
    resolveInstallOrder ["b2", "a1", "b2"] studioCatalogReversed =
      resolveInstallOrder ["a1", "b2"] studioCatalog :=
  resolveInstallOrder_relisted (by unfold DistinctNames; decide) (List.reverse_perm _)
    (by simp [or_comm]) (by decide +kernel)

end InfraOps
