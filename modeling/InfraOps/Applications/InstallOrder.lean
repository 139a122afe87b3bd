import InfraOps.Applications.Resolver
import InfraOps.Support.Dependency
import InfraOps.Support.Keyed

/-!
# The install order is exact

The search meets an error exactly where the selection's closure leaves the catalog or runs
into a cycle; otherwise it collects the closure, all of it grounded, and the topological sort
cannot get stuck on it. An invariant of the search's state carries the first half, an
invariant of the sort's degrees the second.

The interpreter's recursion limit is not modelled.
-/

namespace InfraOps

open Relation

variable {c : Catalog} {selected : List AppId}

/-- Everything the selection needs. -/
def Catalog.Closure (c : Catalog) (selected : List AppId) (a : AppId) : Prop :=
  ∃ id ∈ selected, c.Needs id a

theorem Catalog.Closure.step {a b : AppId} (ha : c.Closure selected a) (h : c.DependsOn a b) :
    c.Closure selected b := by
  obtain ⟨id, hid, hneeds⟩ := ha
  exact ⟨id, hid, hneeds.tail h⟩

/-- What the search reports: a needed application that does not exist, or a cycle. -/
def Catalog.Broken (c : Catalog) (selected : List AppId) : Prop :=
  ∃ a, c.Closure selected a ∧ (c.get a = none ∨ TransGen c.DependsOn a a)

theorem Catalog.mem_ids_of_get {a : AppId} {n : AppNode} (h : c.get a = some n) :
    a ∈ c.nodes.map AppNode.id :=
  List.mem_map.mpr ⟨n, List.mem_of_find?_eq_some h, Catalog.id_of_get h⟩

/-! ## The search's state -/

/-- The invariant of the search. The chain is a path of grey applications; what is black was
collected, if it exists; and until there is an error, black applications exist, depend on
black ones only, and are grounded. -/
structure VisitState.Inv (c : Catalog) (selected : List AppId) (st : VisitState) : Prop where
  grey : ∀ a, st.color a = .gray ↔ a ∈ st.chain
  chainNodup : st.chain.Nodup
  chainExists : ∀ a ∈ st.chain, (c.get a).isSome
  chainNeeded : ∀ a ∈ st.chain, c.Closure selected a
  path : ∀ last ∈ st.chain.getLast?, ∀ a ∈ st.chain, c.Needs a last
  stored : ∀ n ∈ st.required, c.get n.id = some n
  collected : ∀ a, (∃ n ∈ st.required, n.id = a) ↔ st.color a = .black ∧ (c.get a).isSome
  nodup : (st.required.map AppNode.id).Nodup
  texts : ∀ e ∈ st.errors, (∃ cycle, e = circularError c cycle) ∨ ∃ id, e = missingError id
  sound : st.errors ≠ [] → c.Broken selected
  black : st.errors = [] → ∀ a, st.color a = .black → (c.get a).isSome ∧
    (∀ b, c.DependsOn a b → st.color b = .black) ∧ Grounded c.DependsOn a

theorem VisitState.Inv.init : VisitState.Inv c selected {} where
  grey := by simp
  chainNodup := .nil
  chainExists := by simp
  chainNeeded := by simp
  path := by simp
  stored := by simp
  collected := by simp
  nodup := .nil
  texts := by simp
  sound := by simp
  black := by simp

/-- What a visit may be asked for: something needed, that the end of the chain depends on. -/
structure VisitState.Asked (c : Catalog) (selected : List AppId) (st : VisitState)
    (id : AppId) : Prop where
  needed : c.Closure selected id
  next : ∀ a ∈ st.chain.getLast?, c.DependsOn a id

/-- What visiting `ids` leaves: the chain as it was, black applications black, earlier errors,
and `ids` black unless there is an error. -/
structure VisitState.Visited (st st' : VisitState) (ids : List AppId) : Prop where
  chain : st'.chain = st.chain
  errors : st'.errors = [] → st.errors = []
  black : ∀ a, st.color a = .black → st'.color a = .black
  done : st'.errors = [] → ∀ id ∈ ids, st'.color id = .black

namespace VisitState

variable {st st' st'' : VisitState} {id : AppId}

theorem Visited.nil : st.Visited st [] where
  chain := rfl
  errors he := he
  black _ ha := ha
  done := by simp

theorem Visited.cons {ids : List AppId} (h : st.Visited st' [id]) (h' : st'.Visited st'' ids) :
    st.Visited st'' (id :: ids) where
  chain := h'.chain.trans h.chain
  errors he := h.errors (h'.errors he)
  black a ha := h'.black a (h.black a ha)
  done he a ha := by
    rcases List.mem_cons.mp ha with rfl | ha
    · exact h'.black a (h.done (h'.errors he) a List.mem_cons_self)
    · exact h'.done he a ha

/-! ## One visit -/

/-- A black application is left alone. -/
theorem Visited.again (hblack : st.color id = .black) : st.Visited st [id] where
  chain := rfl
  errors he := he
  black _ ha := ha
  done _ := by simp [hblack]

/-- An error is recorded, and the colours of what exists stay. -/
theorem Inv.report {e : String} {color : AppId → Color} (h : st.Inv c selected)
    (htext : (∃ cycle, e = circularError c cycle) ∨ ∃ id, e = missingError id)
    (hbroken : c.Broken selected) (hgrey : ∀ a, color a = .gray ↔ st.color a = .gray)
    (hblack : ∀ a, (c.get a).isSome → (color a = .black ↔ st.color a = .black)) :
    Inv c selected { st with errors := st.errors ++ [e], color := color } where
  grey a := (hgrey a).trans (h.grey a)
  chainNodup := h.chainNodup
  chainExists := h.chainExists
  chainNeeded := h.chainNeeded
  path := h.path
  stored := h.stored
  collected a := by
    rw [h.collected a]
    constructor
    · rintro ⟨hb, hsome⟩
      exact ⟨(hblack a hsome).mpr hb, hsome⟩
    · rintro ⟨hb, hsome⟩
      exact ⟨(hblack a hsome).mp hb, hsome⟩
  nodup := h.nodup
  texts e' he' := by
    rcases List.mem_append.mp he' with he' | he'
    · exact h.texts e' he'
    · exact List.mem_singleton.mp he' ▸ htext
  sound _ := hbroken
  black he := by simp at he

theorem Visited.report {e : String} {color : AppId → Color}
    (hblack : ∀ a, st.color a = .black → color a = .black) :
    st.Visited { st with errors := st.errors ++ [e], color := color } [id] where
  chain := rfl
  errors he := by simp at he
  black := hblack
  done he := by simp at he

/-- A grey application is on the chain, and the chain leads back to it. -/
theorem Inv.broken_of_grey (h : st.Inv c selected) (hasked : st.Asked c selected id)
    (hgrey : st.color id = .gray) : c.Broken selected := by
  have hmem : id ∈ st.chain := (h.grey id).mp hgrey
  refine ⟨id, hasked.needed, .inr ?_⟩
  cases hlast : st.chain.getLast? with
  | none => simp [List.getLast?_eq_none_iff.mp hlast] at hmem
  | some last => exact .tail' (h.path last hlast id hmem) (hasked.next last hlast)

/-- The state in which the dependencies of `id` are visited. -/
def enter (st : VisitState) (id : AppId) : VisitState :=
  { st with color := Function.update st.color id .gray, chain := st.chain ++ [id] }

theorem Inv.enter {node : AppNode} (h : st.Inv c selected) (hasked : st.Asked c selected id)
    (hwhite : st.color id = .white) (hnode : c.get id = some node) :
    (st.enter id).Inv c selected where
  grey a := by
    by_cases ha : a = id
    · simp [VisitState.enter, ha]
    · simp [VisitState.enter, ha, h.grey a]
  chainNodup := by
    have hnot : id ∉ st.chain := by simp [← h.grey, hwhite]
    simpa [VisitState.enter] using List.Nodup.concat hnot h.chainNodup
  chainExists a ha := by
    rcases List.mem_append.mp ha with ha | ha
    · exact h.chainExists a ha
    · simp [List.mem_singleton.mp ha, hnode]
  chainNeeded a ha := by
    rcases List.mem_append.mp ha with ha | ha
    · exact h.chainNeeded a ha
    · exact List.mem_singleton.mp ha ▸ hasked.needed
  path last hlast a ha := by
    obtain rfl : id = last := by simpa [VisitState.enter] using hlast
    rcases List.mem_append.mp ha with ha | ha
    · -- an earlier application reaches the end of the old chain, which depends on `id`
      cases hold : st.chain.getLast? with
      | none => simp [List.getLast?_eq_none_iff.mp hold] at ha
      | some old => exact (h.path old hold a ha).tail (hasked.next old hold)
    · rw [List.mem_singleton.mp ha]
  stored := h.stored
  collected a := by
    rw [show (st.enter id).required = st.required from rfl, h.collected a]
    by_cases ha : a = id
    · simp [VisitState.enter, ha, hwhite]
    · simp [VisitState.enter, ha]
  nodup := h.nodup
  texts := h.texts
  sound := h.sound
  black he a hblack := by
    have ha : a ≠ id := by
      rintro rfl
      simp [VisitState.enter] at hblack
    have hblack : st.color a = .black := by simpa [VisitState.enter, ha] using hblack
    obtain ⟨hsome, hdeps, hgrounded⟩ := h.black he a hblack
    refine ⟨hsome, fun b hb => ?_, hgrounded⟩
    have hbid : b ≠ id := by
      rintro rfl
      exact absurd (hdeps b hb) (by simp [hwhite])
    simpa [VisitState.enter, hbid] using hdeps b hb

/-- The state after the dependencies of `id` have been visited. -/
def leave (left : VisitState) (id : AppId) (node : AppNode) : VisitState :=
  { left with
    chain := left.chain.dropLast
    color := Function.update left.color id .black
    required := left.required ++ [node] }

theorem Inv.leave {left : VisitState} {node : AppNode} (h : st.Inv c selected)
    (hleft : left.Inv c selected) (hwhite : st.color id = .white) (hnode : c.get id = some node)
    (hchain : left.chain = st.chain ++ [id])
    (hdone : left.errors = [] → ∀ dep ∈ node.dependencyIds, left.color dep = .black) :
    (left.leave id node).Inv c selected := by
  have hid : node.id = id := Catalog.id_of_get hnode
  have hchain' : (left.leave id node).chain = st.chain := by simp [VisitState.leave, hchain]
  have hgreyid : left.color id = .gray := (hleft.grey id).mpr (by simp [hchain])
  have hnotmem : id ∉ st.chain := by simp [← h.grey, hwhite]
  constructor
  case grey =>
    intro a
    rw [hchain']
    by_cases ha : a = id
    · simp [VisitState.leave, ha, hnotmem]
    · simp [VisitState.leave, ha, hleft.grey a, hchain]
  case chainNodup => exact hchain' ▸ h.chainNodup
  case chainExists => exact hchain' ▸ h.chainExists
  case chainNeeded => exact hchain' ▸ h.chainNeeded
  case path => exact hchain' ▸ h.path
  case stored =>
    intro n hn
    rcases List.mem_append.mp hn with hn | hn
    · exact hleft.stored n hn
    · rw [List.mem_singleton.mp hn, hid, hnode]
  case collected =>
    intro a
    have hold := hleft.collected a
    by_cases ha : a = id
    · simp [VisitState.leave, ha, hid, hnode]
    · have hne : ¬ id = a := fun h => ha h.symm
      simp only [VisitState.leave, Function.update_of_ne ha, ← hold]
      simp [hid, hne]
  case nodup =>
    -- `id` was grey, so it had not been collected
    have hnot : node.id ∉ left.required.map AppNode.id := by
      intro hmem
      obtain ⟨n, hn, hnid⟩ := List.mem_map.mp hmem
      have hblack := ((hleft.collected id).mp ⟨n, hn, hnid.trans hid⟩).1
      simp [hgreyid] at hblack
    simpa [VisitState.leave] using List.Nodup.concat hnot hleft.nodup
  case texts => exact hleft.texts
  case sound => exact hleft.sound
  case black =>
    intro he a hblack
    have hdeps : ∀ b, c.DependsOn id b → left.color b = .black := by
      rintro b ⟨n, hn, hb⟩
      obtain rfl : node = n := by simpa [hnode] using hn
      exact hdone he b hb
    have hkeep : ∀ b, left.color b = .black → (left.leave id node).color b = .black := by
      intro b hb
      by_cases hbid : b = id <;> simp [VisitState.leave, hbid, hb]
    by_cases ha : a = id
    · subst ha
      refine ⟨by simp [hnode], fun b hb => hkeep b (hdeps b hb), .intro fun b hb => ?_⟩
      exact (hleft.black he b (hdeps b hb)).2.2
    · have hblack : left.color a = .black := by simpa [VisitState.leave, ha] using hblack
      obtain ⟨hsome, hnext, hgrounded⟩ := hleft.black he a hblack
      exact ⟨hsome, fun b hb => hkeep b (hnext b hb), hgrounded⟩

theorem Visited.leave {left : VisitState} {node : AppNode} {ids : List AppId}
    (h : (st.enter id).Visited left ids) (hwhite : st.color id = .white) :
    st.Visited (left.leave id node) [id] where
  chain := by simp [VisitState.leave, VisitState.enter, h.chain]
  errors := h.errors
  black a ha := by
    have haid : a ≠ id := by
      rintro rfl
      simp [hwhite] at ha
    have hentered : (st.enter id).color a = .black := by simpa [VisitState.enter, haid] using ha
    simp [VisitState.leave, haid, h.black a hentered]
  done _ := by simp [VisitState.leave]

/-! ## The whole search -/

/-- The chain is a list of distinct catalog entries, so the recursion never outgrows it. -/
theorem Inv.chain_length_le (h : st.Inv c selected) : st.chain.length ≤ c.nodes.length := by
  have hsub : st.chain ⊆ c.nodes.map AppNode.id := by
    intro a ha
    obtain ⟨n, hn⟩ := Option.isSome_iff_exists.mp (h.chainExists a ha)
    exact Catalog.mem_ids_of_get hn
  simpa using (List.subperm_of_subset h.chainNodup hsub).length_le

/-- A loop of visits from one chain, if each visit does what it should. -/
theorem foldl_visit {fuel : Nat} {ids : List AppId} (chain : List AppId)
    (hvisit : ∀ id st, st.Inv c selected → st.Asked c selected id → st.chain = chain →
      (visit c fuel id st).Inv c selected ∧ st.Visited (visit c fuel id st) [id])
    (hneeded : ∀ id ∈ ids, c.Closure selected id)
    (hnext : ∀ last ∈ chain.getLast?, ∀ id ∈ ids, c.DependsOn last id)
    (h : st.Inv c selected) (hchain : st.chain = chain) :
    (ids.foldl (fun st id => visit c fuel id st) st).Inv c selected ∧
      st.Visited (ids.foldl (fun st id => visit c fuel id st) st) ids := by
  induction ids generalizing st with
  | nil => exact ⟨h, .nil⟩
  | cons id ids ih =>
    have hasked : st.Asked c selected id :=
      ⟨hneeded id List.mem_cons_self, fun last hlast =>
        hnext last (hchain ▸ hlast) id List.mem_cons_self⟩
    obtain ⟨hinv, hvisited⟩ := hvisit id st h hasked hchain
    obtain ⟨hinv', hvisited'⟩ := ih (fun a ha => hneeded a (List.mem_cons_of_mem _ ha))
      (fun last hlast a ha => hnext last hlast a (List.mem_cons_of_mem _ ha)) hinv
      (hvisited.chain.trans hchain)
    exact ⟨hinv', hvisited.cons hvisited'⟩

end VisitState

open VisitState

/-- **What one visit does**, at any depth. -/
theorem visit_spec {fuel : Nat} {id : AppId} {st : VisitState} (h : st.Inv c selected)
    (hasked : st.Asked c selected id) (hfuel : fuel + st.chain.length = c.nodes.length + 1) :
    (visit c fuel id st).Inv c selected ∧ st.Visited (visit c fuel id st) [id] := by
  induction fuel generalizing id st with
  | zero => exact absurd h.chain_length_le (by omega)
  | succ fuel ih =>
    rw [visit]
    split
    · rename_i hblack
      exact ⟨h, .again hblack⟩
    · rename_i hgrey
      exact ⟨h.report (.inl ⟨_, rfl⟩) (h.broken_of_grey hasked hgrey) (fun _ => .rfl)
        (fun _ _ => .rfl), .report fun _ ha => ha⟩
    · rename_i hwhite
      split
      · rename_i hmissing
        refine ⟨h.report (.inr ⟨id, rfl⟩) ⟨id, hasked.needed, .inl hmissing⟩ ?_ ?_, .report ?_⟩
        · intro a
          by_cases ha : a = id <;> simp [ha, hwhite]
        · intro a hsome
          have ha : a ≠ id := by
            rintro rfl
            simp [hmissing] at hsome
          simp [ha]
        · intro a ha
          by_cases haid : a = id <;> simp [haid, ha]
      · rename_i node hnode
        have hdeps : ∀ dep ∈ sortedIds node.dependencyIds, c.DependsOn id dep := fun dep hdep =>
          ⟨node, hnode, mem_sortedIds.mp hdep⟩
        have hentered := h.enter hasked hwhite hnode
        -- the dependencies are visited one level deeper, from the chain that ends in `id`
        obtain ⟨hleft, hvisited⟩ := foldl_visit (st.chain ++ [id])
          (fun dep st' h' hasked' hchain' => ih h' hasked' (by
            rw [hchain', List.length_append, List.length_singleton]
            omega))
          (fun dep hdep => hasked.needed.step (hdeps dep hdep))
          (by simpa using hdeps) hentered rfl
        have hdone : _ → ∀ dep ∈ node.dependencyIds, _ := fun he dep hdep =>
          hvisited.done he dep (mem_sortedIds.mpr hdep)
        exact ⟨h.leave hleft hwhite hnode hvisited.chain hdone, hvisited.leave hwhite⟩

/-- The search from the whole selection. -/
theorem visitAll_spec (c : Catalog) (selected : List AppId) :
    (visitAll c selected).Inv c selected ∧ VisitState.Visited {} (visitAll c selected) selected :=
  foldl_visit [] (fun _ _ h hasked hchain => visit_spec h hasked (by simp [hchain]))
    (fun id hid => ⟨id, hid, .refl⟩) (by simp) .init rfl

/-- Without an error, everything needed has become black. -/
theorem black_of_closure (he : (visitAll c selected).errors = []) {a : AppId}
    (ha : c.Closure selected a) : (visitAll c selected).color a = .black := by
  obtain ⟨hinv, hvisited⟩ := visitAll_spec c selected
  obtain ⟨id, hid, hneeds⟩ := ha
  induction hneeds with
  | refl => exact hvisited.done he id hid
  | tail _ hab ih => exact (hinv.black he _ ih).2.1 _ hab

/-- **The search reports an error exactly on a broken closure.** -/
theorem errors_visitAll_eq_nil :
    (visitAll c selected).errors = [] ↔ ¬ c.Broken selected := by
  obtain ⟨hinv, -⟩ := visitAll_spec c selected
  constructor
  · rintro he ⟨a, hneeded, ha⟩
    obtain ⟨hsome, -, hgrounded⟩ := hinv.black he a (black_of_closure he hneeded)
    rcases ha with ha | ha
    · simp [ha] at hsome
    · exact hgrounded.not_cycle ha
  · intro hnot
    by_contra he
    exact hnot (hinv.sound he)

/-- Without an error, the closure has been collected. -/
theorem mem_required_iff_closure (he : (visitAll c selected).errors = []) {a : AppId} :
    a ∈ (visitAll c selected).required.map AppNode.id ↔ c.Closure selected a := by
  obtain ⟨hinv, -⟩ := visitAll_spec c selected
  constructor
  · intro ha
    obtain ⟨n, hn, rfl⟩ := List.mem_map.mp ha
    obtain ⟨id, hid, hneeds, -⟩ := mem_required_visitAll hn
    exact ⟨id, hid, hneeds⟩
  · intro ha
    have hblack := black_of_closure he ha
    obtain ⟨n, hn, hna⟩ := (hinv.collected a).mpr ⟨hblack, (hinv.black he a hblack).1⟩
    exact List.mem_map.mpr ⟨n, hn, hna⟩

/-! ## The topological sort -/

/-- What the sort is given: distinct applications of the catalog, with all they depend on,
all grounded. -/
structure Sortable (c : Catalog) (required : List AppNode) : Prop where
  stored : ∀ n ∈ required, c.get n.id = some n
  nodup : (required.map AppNode.id).Nodup
  closed : ∀ n ∈ required, ∀ dep ∈ n.dependencyIds, dep ∈ required.map AppNode.id
  grounded : ∀ n ∈ required, Grounded c.DependsOn n.id

theorem sortable_visitAll (he : (visitAll c selected).errors = []) :
    Sortable c (visitAll c selected).required := by
  obtain ⟨hinv, -⟩ := visitAll_spec c selected
  have hclosure : ∀ n ∈ (visitAll c selected).required, c.Closure selected n.id :=
    fun n hn => (mem_required_iff_closure he).mp (List.mem_map_of_mem hn)
  refine ⟨hinv.stored, hinv.nodup, fun n hn dep hdep => ?_, fun n hn => ?_⟩
  · exact (mem_required_iff_closure he).mpr ((hclosure n hn).step ⟨n, hinv.stored n hn, hdep⟩)
  · exact (hinv.black he _ (black_of_closure he (hclosure n hn))).2.2

variable {required : List AppNode}

theorem Sortable.find (h : Sortable c required) {n : AppNode} (hn : n ∈ required) :
    required.find? (fun m => m.id == n.id) = some n :=
  find?_key AppNode.id h.nodup hn

/-- The dependencies of `n` that are not ordered yet. -/
def waiting (n : AppNode) (done : List AppId) : List AppId :=
  n.dependencyIds.filter fun dep => dep ∉ done

theorem waiting_eq_nil {n : AppNode} {done : List AppId} :
    waiting n done = [] ↔ ∀ dep ∈ n.dependencyIds, dep ∈ done := by
  simp [waiting, List.filter_eq_nil_iff]

/-- Ordering one more application shortens the wait of what depends on it. -/
theorem length_waiting_concat {n : AppNode} {done : List AppId} {current : AppId}
    (hnot : current ∉ done) :
    (waiting n (done ++ [current])).length + (if current ∈ n.dependencyIds then 1 else 0) =
      (waiting n done).length := by
  have hnodup : (waiting n done).Nodup := n.nodup.filter _
  have hsplit : waiting n (done ++ [current]) = (waiting n done).erase current := by
    rw [hnodup.erase_eq_filter, waiting, waiting, List.filter_filter]
    refine List.filter_congr fun dep _ => ?_
    by_cases hdep : dep = current <;> simp [hdep]
  by_cases hmem : current ∈ n.dependencyIds
  · have hwaiting : current ∈ waiting n done := by simp [waiting, hmem, hnot]
    have hpos := List.length_pos_of_mem hwaiting
    rw [hsplit, List.length_erase_of_mem hwaiting, if_pos hmem]
    omega
  · have hwaiting : current ∉ waiting n done := by simp [waiting, hmem]
    rw [hsplit, List.erase_of_not_mem hwaiting, if_neg hmem]
    rfl

/-- The decrements. -/
theorem release_fst {dependents : List AppId} (hnodup : dependents.Nodup)
    (degree : AppId → Int) (ready : List AppId) (a : AppId) :
    (release dependents degree ready).1 a = degree a - if a ∈ dependents then 1 else 0 := by
  induction dependents generalizing degree ready with
  | nil => simp [release]
  | cons d ds ih =>
    obtain ⟨hd, hds⟩ := List.nodup_cons.mp hnodup
    rw [release, List.foldl_cons, ← release, ih hds]
    by_cases had : a = d
    · simp [had, hd]
    · simp [had]

/-- What becomes ready. -/
theorem release_snd {dependents : List AppId} (hnodup : dependents.Nodup)
    (degree : AppId → Int) (ready : List AppId) :
    (release dependents degree ready).2 =
      ready ++ dependents.filter fun a => degree a = 1 := by
  induction dependents generalizing degree ready with
  | nil => simp [release]
  | cons d ds ih =>
    obtain ⟨hd, hds⟩ := List.nodup_cons.mp hnodup
    have hkeep : (ds.filter fun a => Function.update degree d (degree d - 1) a = 1) =
        ds.filter fun a => degree a = 1 := by
      refine List.filter_congr fun a ha => ?_
      have had : a ≠ d := fun h => hd (h ▸ ha)
      simp [had]
    rw [release, List.foldl_cons, ← release, ih hds, hkeep]
    by_cases hone : degree d = 1
    · simp [hone]
    · have hzero : degree d - 1 ≠ 0 := by omega
      simp [hone, hzero]

/-- The invariant of the sort: what is done or ready is what waits for nothing, and a degree
counts what is still waited for. -/
structure Sorting (c : Catalog) (required : List AppNode) (done : List AppId)
    (degree : AppId → Int) (ready : List AppId) : Prop where
  nodup : (done ++ ready).Nodup
  mem : ∀ a ∈ done ++ ready, a ∈ required.map AppNode.id
  degree : ∀ n ∈ required, degree n.id = (waiting n done).length
  ready : ∀ n ∈ required, n.id ∈ done ++ ready ↔ waiting n done = []
  ordered : InDependencyOrder c.DependsOn done

theorem mem_edgesOut (h : Sortable c required) {current : AppId} {n : AppNode}
    (hn : n ∈ required) : n.id ∈ edgesOut required current ↔ current ∈ n.dependencyIds := by
  constructor
  · intro hmem
    obtain ⟨m, hm, hid⟩ := List.mem_map.mp hmem
    obtain ⟨hm, hdep⟩ := List.mem_filter.mp hm
    rw [← List.inj_on_of_nodup_map h.nodup hm hn hid]
    simpa using hdep
  · intro hdep
    exact List.mem_map_of_mem (List.mem_filter.mpr ⟨hn, by simpa using hdep⟩)

theorem nodup_edgesOut (h : Sortable c required) (current : AppId) :
    (edgesOut required current).Nodup :=
  (List.filter_sublist.map AppNode.id).nodup h.nodup

theorem sortByName_perm (required : List AppNode) (ids : List AppId) :
    (sortByName required ids).Perm ids :=
  List.perm_insertionSort _ _

/-- **One round of the sort.** -/
theorem Sorting.step {done ready : List AppId} {degree : AppId → Int} {current : AppId}
    (hreq : Sortable c required) (h : Sorting c required done degree (current :: ready)) :
    Sorting c required (done ++ [current])
      (release (edgesOut required current) degree ready).1
      (sortByName required (release (edgesOut required current) degree ready).2) := by
  have hnot : current ∉ done := by
    intro hmem
    exact List.disjoint_of_nodup_append h.nodup hmem List.mem_cons_self
  have hdependents := nodup_edgesOut hreq current
  rw [release_snd hdependents]
  set released := (edgesOut required current).filter fun a => degree a = 1 with hreleased
  have hperm : (done ++ [current] ++ sortByName required (ready ++ released)).Perm
      ((done ++ current :: ready) ++ released) := by
    rw [List.append_assoc, List.append_assoc]
    exact .append_left _ (.cons _ (sortByName_perm _ _))
  -- what is released had been waiting for `current` alone
  have hmem_released : ∀ n ∈ required, n.id ∈ released ↔
      current ∈ n.dependencyIds ∧ (waiting n done).length = 1 := by
    intro n hn
    have hone : ((waiting n done).length : Int) = 1 ↔ (waiting n done).length = 1 := by omega
    rw [hreleased, List.mem_filter, mem_edgesOut hreq hn, decide_eq_true_iff, h.degree n hn, hone]
  have hrequired : ∀ a ∈ released, ∃ n ∈ required, n.id = a := by
    intro a ha
    obtain ⟨n, hn, hid⟩ := List.mem_map.mp (List.mem_filter.mp ha).1
    exact ⟨n, (List.mem_filter.mp hn).1, hid⟩
  constructor
  case nodup =>
    refine hperm.nodup_iff.mpr (h.nodup.append (hdependents.filter _) ?_)
    intro a hold hnew
    obtain ⟨n, hn, rfl⟩ := hrequired a hnew
    have hone := ((hmem_released n hn).mp hnew).2
    simp [(h.ready n hn).mp hold] at hone
  case mem =>
    intro a ha
    rcases List.mem_append.mp (hperm.mem_iff.mp ha) with ha | ha
    · exact h.mem a ha
    · obtain ⟨n, hn, rfl⟩ := hrequired a ha
      exact List.mem_map_of_mem hn
  case degree =>
    intro n hn
    have hlength := length_waiting_concat (n := n) hnot
    rw [release_fst hdependents, h.degree n hn]
    simp only [mem_edgesOut hreq hn]
    by_cases hdep : current ∈ n.dependencyIds
    · simp only [hdep, if_true] at hlength ⊢
      omega
    · simp only [hdep, if_false] at hlength ⊢
      omega
  case ready =>
    intro n hn
    have hlength := length_waiting_concat (n := n) hnot
    rw [hperm.mem_iff, List.mem_append, h.ready n hn, hmem_released n hn,
      ← List.length_eq_zero_iff, ← List.length_eq_zero_iff]
    by_cases hdep : current ∈ n.dependencyIds
    · simp only [hdep, if_true, true_and] at hlength ⊢
      omega
    · simp only [hdep, if_false, false_and, or_false] at hlength ⊢
      omega
  case ordered =>
    refine h.ordered.concat fun b hb => ?_
    obtain ⟨n, hn, hid⟩ := List.mem_map.mp (h.mem current (by simp))
    obtain ⟨m, hm, hb⟩ := hb
    have hget := hreq.stored n hn
    rw [hid, hm] at hget
    obtain rfl : m = n := by simpa using hget
    have hwait := (h.ready m hn).mp (by simp [hid])
    exact waiting_eq_nil.mp hwait b hb

/-- When nothing is ready, everything is done. -/
theorem Sorting.done_of_stuck {done : List AppId} {degree : AppId → Int}
    (hreq : Sortable c required) (h : Sorting c required done degree []) :
    ∀ a ∈ required.map AppNode.id, a ∈ done := by
  intro a ha
  obtain ⟨n, hn, rfl⟩ := List.mem_map.mp ha
  refine (hreq.grounded n hn).done_of_stuck ?_ ha
  intro a ha hnot
  obtain ⟨m, hm, rfl⟩ := List.mem_map.mp ha
  have hwait : waiting m done ≠ [] := by
    intro hnil
    exact hnot (by simpa using (h.ready m hm).mpr hnil)
  obtain ⟨dep, hdep⟩ := List.exists_mem_of_ne_nil _ hwait
  obtain ⟨hdep, hdone⟩ := List.mem_filter.mp hdep
  exact ⟨dep, hreq.closed m hm dep hdep, ⟨m, hreq.stored m hm, hdep⟩, by simpa using hdone⟩

theorem Sorting.perm {done : List AppId} {degree : AppId → Int} {ready : List AppId}
    (hreq : Sortable c required) (h : Sorting c required done degree ready)
    (hall : ∀ a ∈ required.map AppNode.id, a ∈ done) : done.Perm (required.map AppNode.id) :=
  (List.perm_ext_iff_of_nodup h.nodup.of_append_left hreq.nodup).mpr fun a =>
    ⟨fun ha => h.mem a (List.mem_append_left _ ha), hall a⟩

/-- **The sort orders everything it is given.** -/
theorem kahn_spec {fuel : Nat} {done ready : List AppId} {degree : AppId → Int}
    (hreq : Sortable c required) (h : Sorting c required done degree ready)
    (hfuel : fuel + done.length = required.length) :
    InDependencyOrder c.DependsOn (done ++ kahn required fuel degree ready) ∧
      (done ++ kahn required fuel degree ready).Perm (required.map AppNode.id) := by
  induction fuel generalizing done degree ready with
  | zero =>
    -- as many are done as there are
    rw [kahn, List.append_nil]
    have hsub : done.Subperm (required.map AppNode.id) :=
      List.subperm_of_subset h.nodup.of_append_left fun a ha =>
        h.mem a (List.mem_append_left _ ha)
    exact ⟨h.ordered, hsub.perm_of_length_le (by simp; omega)⟩
  | succ fuel ih =>
    cases ready with
    | nil =>
      rw [kahn, List.append_nil]
      exact ⟨h.ordered, h.perm hreq (h.done_of_stuck hreq)⟩
    | cons current ready =>
      have hnext := ih (h.step hreq) (by simp; omega)
      rw [kahn]
      simpa using hnext

/-! ## The resolver -/

theorem Sorting.init (h : Sortable c required) :
    Sorting c required []
      (fun id => ((required.find? fun n => n.id == id).map (indegree required)).getD 0)
      (sortByName required ((required.filter fun n => indegree required n = 0).map
        AppNode.id)) := by
  have hdegree : ∀ n ∈ required, indegree required n = (waiting n []).length := by
    intro n hn
    have hall : (n.dependencyIds.filter fun dep => dep ∈ required.map AppNode.id) =
        n.dependencyIds := List.filter_eq_self.mpr fun dep hdep => by
      simpa using h.closed n hn dep hdep
    rw [indegree, hall, waiting]
    simp
  have hperm := sortByName_perm required
    ((required.filter fun n => indegree required n = 0).map AppNode.id)
  have hsublist : ((required.filter fun n => indegree required n = 0).map AppNode.id).Sublist
      (required.map AppNode.id) := List.filter_sublist.map _
  constructor
  case nodup => simpa using hperm.nodup_iff.mpr (hsublist.nodup h.nodup)
  case mem =>
    intro a ha
    exact hsublist.mem (hperm.mem_iff.mp (by simpa using ha))
  case degree =>
    intro n hn
    simp [h.find hn, hdegree n hn]
  case ready =>
    intro n hn
    rw [List.nil_append, hperm.mem_iff, ← List.length_eq_zero_iff]
    constructor
    · intro hmem
      obtain ⟨m, hm, hid⟩ := List.mem_map.mp hmem
      obtain ⟨hm, hzero⟩ := List.mem_filter.mp hm
      obtain rfl := List.inj_on_of_nodup_map h.nodup hm hn hid
      simpa [hdegree m hm] using hzero
    · intro hzero
      refine List.mem_map_of_mem (List.mem_filter.mpr ⟨hn, ?_⟩)
      simpa [hdegree n hn] using hzero
  case ordered => exact inDependencyOrder_nil

/-- The identifiers that were ordered, as applications. -/
theorem map_id_filterMap_find (h : Sortable c required) {ids : List AppId}
    (hids : ∀ a ∈ ids, a ∈ required.map AppNode.id) :
    (ids.filterMap fun id => required.find? fun n => n.id == id).map AppNode.id = ids := by
  induction ids with
  | nil => rfl
  | cons a ids ih =>
    obtain ⟨n, hn, rfl⟩ := List.mem_map.mp (hids a List.mem_cons_self)
    have htail := ih fun b hb => hids b (List.mem_cons_of_mem _ hb)
    simp only [List.filterMap_cons, h.find hn, List.map_cons, htail]

/-- The errors of the search and of the check that everything is enabled. -/
def blockingErrors (c : Catalog) (selected : List AppId) : List String :=
  (visitAll c selected).errors ++
    ((visitAll c selected).required.filter fun n => !n.enabled).map fun n => disabledError n.name

theorem blockingErrors_eq_nil : blockingErrors c selected = [] ↔
    (∀ a, c.Closure selected a → ∃ n, c.get a = some n ∧ n.enabled) ∧
      ∀ a, c.Closure selected a → ¬ TransGen c.DependsOn a a := by
  obtain ⟨hinv, -⟩ := visitAll_spec c selected
  rw [blockingErrors, List.append_eq_nil_iff, List.map_eq_nil_iff, List.filter_eq_nil_iff]
  constructor
  · rintro ⟨he, henabled⟩
    have hbroken := errors_visitAll_eq_nil.mp he
    refine ⟨fun a ha => ?_, fun a ha hcycle => hbroken ⟨a, ha, .inr hcycle⟩⟩
    obtain ⟨n, hn, rfl⟩ := List.mem_map.mp ((mem_required_iff_closure he).mpr ha)
    exact ⟨n, hinv.stored n hn, by simpa using henabled n hn⟩
  · rintro ⟨hexists, hacyclic⟩
    have he : (visitAll c selected).errors = [] := by
      refine errors_visitAll_eq_nil.mpr ?_
      rintro ⟨a, ha, hmissing | hcycle⟩
      · obtain ⟨n, hn, -⟩ := hexists a ha
        simp [hmissing] at hn
      · exact hacyclic a ha hcycle
    refine ⟨he, fun n hn => ?_⟩
    obtain ⟨m, hm, henabled⟩ :=
      hexists n.id ((mem_required_iff_closure he).mp (List.mem_map_of_mem hn))
    rw [hinv.stored n hn] at hm
    obtain rfl : n = m := by simpa using hm
    simp [henabled]

/-- Without an error the order is a permutation of what was collected, dependencies first. -/
theorem resolveInstallOrder_ordered (h : blockingErrors c selected = []) :
    (resolveInstallOrder selected c).2 = [] ∧
      InDependencyOrder c.DependsOn ((resolveInstallOrder selected c).1.map AppNode.id) ∧
      ((resolveInstallOrder selected c).1.map AppNode.id).Perm
        ((visitAll c selected).required.map AppNode.id) := by
  have hreq := sortable_visitAll (List.append_eq_nil_iff.mp h).1
  obtain ⟨horder, hperm⟩ := kahn_spec hreq (.init hreq) rfl
  have hlength := hperm.length_eq
  have hids := map_id_filterMap_find hreq fun a ha => hperm.mem_iff.mp ha
  rw [List.nil_append] at horder hperm hlength hids
  rw [List.length_map] at hlength
  rw [blockingErrors] at h
  unfold resolveInstallOrder
  simp only [h, ne_eq, not_true_eq_false, if_false, hlength, hids]
  exact ⟨trivial, horder, hperm⟩

/-- The sort never adds an error. -/
theorem resolveInstallOrder_snd (c : Catalog) (selected : List AppId) :
    (resolveInstallOrder selected c).2 = blockingErrors c selected := by
  by_cases h : blockingErrors c selected = []
  · rw [h]
    exact (resolveInstallOrder_ordered h).1
  · rw [blockingErrors] at h ⊢
    simp [resolveInstallOrder, h]

/-- **Dependency resolution is exact.** It reports no error if and only if everything the
selection needs is in the catalog, enabled and on no cycle; the order then lists exactly that,
each application once and after all its dependencies. The errors are always those of the
search and of the enabled check: the sort never fails. -/
theorem resolveInstallOrder_exact (c : Catalog) (selected : List AppId) :
    ((resolveInstallOrder selected c).2 = [] ↔
      (∀ a, c.Closure selected a → ∃ n, c.get a = some n ∧ n.enabled) ∧
        ∀ a, c.Closure selected a → ¬ TransGen c.DependsOn a a) ∧
    ((resolveInstallOrder selected c).2 = [] →
      ((resolveInstallOrder selected c).1.map AppNode.id).Nodup ∧
      (∀ a, a ∈ (resolveInstallOrder selected c).1.map AppNode.id ↔ c.Closure selected a) ∧
      (∀ n ∈ (resolveInstallOrder selected c).1, c.get n.id = some n) ∧
      InDependencyOrder c.DependsOn ((resolveInstallOrder selected c).1.map AppNode.id)) ∧
    (resolveInstallOrder selected c).2 = blockingErrors c selected := by
  have herrors := resolveInstallOrder_snd c selected
  refine ⟨herrors ▸ blockingErrors_eq_nil, fun he => ?_, herrors⟩
  rw [herrors] at he
  obtain ⟨-, horder, hperm⟩ := resolveInstallOrder_ordered he
  have hfound := (List.append_eq_nil_iff.mp he).1
  have hnodup := (visitAll_spec c selected).1.nodup
  exact ⟨hperm.nodup_iff.mpr hnodup, fun a => hperm.mem_iff.trans (mem_required_iff_closure hfound),
    fun n hn => (mem_resolveInstallOrder hn).choose_spec.2.2, horder⟩

end InfraOps
